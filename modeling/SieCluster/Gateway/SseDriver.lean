import SieCluster.Core.Runs
import SieCluster.Gateway.FirstChunkFallback
import SieCluster.Gateway.SseEvents

/-!
# The driver of a server-sent event stream

`run_sse_driver` loops over the chunk tap of a request, forwards every chunk as
an event and ends the stream.  Each turn of the loop first looks at the deadlines
and then waits for the first of several things to happen: the durability of the
dispatch, the end of the client, the outcome of the collector, a chunk, the end
of the tap, a timer.
-/

namespace SieCluster.SseDriver

open Streaming
open SseEvents
open FirstChunkFallback (firstChunkDeadlineAction suppressFirstChunkRepublishForLane)

structure SseDriverArgs where
  endpoint : SseEndpoint
  ids : StreamIds
  firstChunkTimeout : ℕ
  interChunkTimeout : ℕ
  overallTimeout : ℕ
  supportsFirstChunkPoolRepublish : Bool
  wasDirectDispatched : Bool
  poolFallbackLaneWorkerCount : ℕ

/-- Where the driver is in its loop. -/
inductive Position where
  | loopTop
  | selecting
  | returned
  deriving DecidableEq

/-- What the driver asks of the dispatcher. -/
inductive DispatcherCall where
  | publishCancel
  | republishToPool
  | dropPendingStream
  | dropPendingStreamClientDisconnect
  | streamTerminalUsageExtras (carriesUsage : Bool)
  deriving DecidableEq

/-- The local variables of the driver, the chunks that were delivered to it, the
events it has sent and the calls it has made. -/
structure DriverState where
  firstChunkDeadline : ℕ
  overallDeadline : ℕ
  lastChunkAt : Option ℕ := none
  firstSeen : Bool := false
  roleEmitted : List ℕ := []
  multiCandidateStream : Bool := false
  republishedForFirstChunk : Bool := false
  outcomeDone : Bool := false
  streamSucceeded : Bool := false
  durabilityDone : Bool := false
  position : Position := .loopTop
  delivered : List ChunkEnvelope := []
  emitted : List SseEvent := []
  calls : List DispatcherCall := []

def start (args : SseDriverArgs) (publishInstant : ℕ) : DriverState where
  firstChunkDeadline := publishInstant + args.firstChunkTimeout
  overallDeadline := publishInstant + args.overallTimeout

/-- What `republish_to_pool` answers. -/
inductive RepublishAnswer where
  | ok (republished : Bool)
  | error

/-- The dispatch monitor: confirmed, failed, or gone without an answer. -/
inductive Durability where
  | confirmed
  | failed (error : String)
  | monitorStopped

inductive TerminalDurabilityWait where
  | confirmed
  | failed (error : String)
  | monitorStopped
  | clientClosed
  | overallTimeout
  deriving DecidableEq

/-- A chunk from the tap and what the driver meets while it handles it. -/
structure ChunkArrival where
  now : ℕ
  chunk : ChunkEnvelope
  /-- How the wait for the durability of a terminal ends. -/
  wait : TerminalDurabilityWait := .confirmed
  /-- What the dispatcher answers for a terminal. -/
  terminalUsageExtras : List (String × Json) := []
  /-- The client takes the event. -/
  sent : Bool := true
  /-- A terminal outcome arrives in the grace window after a disconnect. -/
  graceTerminal : Bool := false

inductive DriverEvent where
  /-- The checks at the top of the loop, at `now`; a republish, should there be
  one, is answered at `answeredAt`. -/
  | loopTop (now : ℕ) (republish : RepublishAnswer) (answeredAt : ℕ)
  | durability (completion : Durability)
  | clientClosed (graceTerminal : Bool)
  /-- The outcome, or nothing when its sender was dropped. -/
  | outcome (outcome : Option StreamOutcome)
  | chunk (arrival : ChunkArrival)
  | lagged
  | closed
  | timer

section Driver

variable (args : SseDriverArgs) (driver : DriverState)

/-- An error event, `[DONE]`, and the end of the driver. -/
def abort (code message : String) (calls : List DispatcherCall) : DriverState :=
  { driver with
    emitted := driver.emitted ++ [.data (errorChunk args.endpoint args.ids code message), .done]
    calls := driver.calls ++ calls
    position := .returned }

/-- `teardown_after_client_disconnect`, and the end of the driver. -/
def teardownAfterClientDisconnect (graceTerminal : Bool) : DriverState :=
  { driver with
    calls := driver.calls ++ (if driver.streamSucceeded then [] else [.publishCancel]) ++
      (if driver.outcomeDone || graceTerminal then [.dropPendingStream]
        else [.dropPendingStreamClientDisconnect])
    position := .returned }

def again : DriverState :=
  { driver with position := .loopTop }

/-! ## The top of the loop -/

def overallTimedOut : DriverState :=
  abort args driver "overall_timeout" "Generation aborted: overall timeout"
    [.publishCancel, .dropPendingStream]

def firstChunkTimedOut : DriverState :=
  abort args driver "first_chunk_timeout" "Generation aborted: first_chunk timeout"
    [.publishCancel, .dropPendingStream]

def interChunkTimedOut : DriverState :=
  abort args driver "inter_chunk_timeout" "Generation aborted: inter_chunk timeout"
    [.publishCancel, .dropPendingStream]

def firstChunkDeadlineReached (republish : RepublishAnswer) (answeredAt : ℕ) :
    DriverState :=
  match firstChunkDeadlineAction args.supportsFirstChunkPoolRepublish
      args.wasDirectDispatched driver.republishedForFirstChunk
      (suppressFirstChunkRepublishForLane args.wasDirectDispatched
        args.poolFallbackLaneWorkerCount) with
  | .republishToPool =>
    let attempted := { driver with
      republishedForFirstChunk := true
      calls := driver.calls ++ [.publishCancel, .republishToPool] }
    match republish with
    -- If a NAK has republished already, its copy gets the new deadline.
    | .ok _ => { attempted with
        firstChunkDeadline := answeredAt + args.firstChunkTimeout }
    | .error => firstChunkTimedOut args attempted
  | .waitForOverall => { driver with
      republishedForFirstChunk := true
      firstChunkDeadline := driver.overallDeadline }
  | .surfaceTimeout => firstChunkTimedOut args driver

def interChunkElapsed (now : ℕ) : Bool :=
  match driver.lastChunkAt with
  | none => false
  | some lastChunkAt => args.interChunkTimeout ≤ now - lastChunkAt

def loopTop (now : ℕ) (republish : RepublishAnswer) (answeredAt : ℕ) :
    DriverState :=
  if driver.overallDeadline ≤ now then overallTimedOut args driver
  else if !driver.firstSeen && driver.firstChunkDeadline ≤ now then
    firstChunkDeadlineReached args driver republish answeredAt
  else if interChunkElapsed args driver now then interChunkTimedOut args driver
  else { driver with position := .selecting }

/-! ## The arms of the selection -/

def durabilityFailed (error : String) (calls : List DispatcherCall) : DriverState :=
  abort args driver "transport_failure" ("Queue durability confirmation failed: " ++ error) calls

def durabilityMonitorStopped (calls : List DispatcherCall) : DriverState :=
  abort args driver "transport_failure" "Queue durability monitor stopped before completion" calls

def onDurability (completion : Durability) : DriverState :=
  let driver := { driver with durabilityDone := true }
  match completion with
  | .confirmed => again driver
  | .failed error => durabilityFailed args driver error []
  | .monitorStopped => durabilityMonitorStopped args driver []

def onOutcome (outcome : Option StreamOutcome) : DriverState :=
  let driver := { driver with outcomeDone := true }
  match outcome with
  | some outcome =>
    match outcome.error with
    | some error =>
      abort args driver error.code error.message [.dropPendingStream]
    | none => again { driver with streamSucceeded := true }
  | none => again driver

def onLagged : DriverState :=
  abort args driver "inter_chunk_timeout" "SSE consumer fell behind; response is incomplete"
    ((if driver.streamSucceeded then [] else [.publishCancel]) ++ [.dropPendingStream])

def onClosed : DriverState :=
  if !driver.firstSeen then
    abort args driver "transport_failure" "Result channel closed" []
  else { driver with position := .returned }

/-! ## Chunks -/

section

variable (chunk : ChunkEnvelope)

/-- The stream has several candidates, as far as the chunks tell. -/
def seesCandidates : Bool :=
  driver.multiCandidateStream || chunk.choiceIndex ≠ 0 || (!chunk.done && chunk.finishReason.isSome)

/-- The terminal of a stream with several candidates is not forwarded. -/
def skipForward : Bool :=
  chunk.done && seesCandidates driver chunk && chunk.error.isNone

def emitRoleForThisChunk : Bool :=
  (match args.endpoint with
    | .chat _ => true
    | _ => false) &&
  !driver.roleEmitted.contains chunk.choiceIndex && !skipForward driver chunk

/-- The usage chunk, if there is one, `[DONE]`, and the end of the driver. -/
def finishStream (terminalUsageExtras : List (String × Json)) : DriverState :=
  { driver with
    emitted := driver.emitted ++ ((buildUsageOnlyChunkEvent args.endpoint args.ids chunk
        terminalUsageExtras).map .data).toList ++ [.done]
    position := .returned }

end

/-- The handling of a chunk after the wait for durability. -/
def forwardChunk (arrival : ChunkArrival) : DriverState :=
  let chunk := arrival.chunk
  let terminalUsageExtras := if chunk.done then arrival.terminalUsageExtras else []
  let emitRole := emitRoleForThisChunk args driver chunk
  let skipped := skipForward driver chunk
  let body := chunkEvent args.endpoint args.ids chunk emitRole terminalUsageExtras
  let seen := { driver with
    multiCandidateStream := seesCandidates driver chunk
    roleEmitted := if emitRole then driver.roleEmitted ++ [chunk.choiceIndex]
      else driver.roleEmitted
    calls := if chunk.done
      then driver.calls ++ [.streamTerminalUsageExtras (terminalCarriesUsage args.endpoint chunk)]
      else driver.calls }
  if !skipped && !arrival.sent then
    teardownAfterClientDisconnect seen arrival.graceTerminal
  else
    let forwarded := { seen with
      emitted := if skipped then seen.emitted else seen.emitted ++ [.data body] }
    if chunk.done then finishStream args forwarded chunk terminalUsageExtras
    else again forwarded

def onChunk (arrival : ChunkArrival) : DriverState :=
  let driver := { driver with
    firstSeen := true
    lastChunkAt := some arrival.now
    delivered := driver.delivered ++ [arrival.chunk] }
  if arrival.chunk.done && !driver.durabilityDone then
    let driver := { driver with durabilityDone := true }
    match arrival.wait with
    | .confirmed => forwardChunk args driver arrival
    | .failed error => durabilityFailed args driver error [.dropPendingStream]
    | .monitorStopped =>
      durabilityMonitorStopped args driver [.publishCancel, .dropPendingStream]
    | .clientClosed => teardownAfterClientDisconnect driver arrival.graceTerminal
    | .overallTimeout => overallTimedOut args driver
  else forwardChunk args driver arrival

/-- What the driver waits for.  A receiver that has answered is not polled
again. -/
def awaits : DriverEvent → Bool
  | .loopTop .. => driver.position = .loopTop
  | .durability _ => driver.position = .selecting && !driver.durabilityDone
  | .outcome _ => driver.position = .selecting && !driver.outcomeDone
  | .clientClosed _ | .chunk _ | .lagged | .closed | .timer =>
    driver.position = .selecting

def handle : DriverEvent → DriverState
  | .loopTop now republish answeredAt => loopTop args driver now republish answeredAt
  | .durability completion => onDurability args driver completion
  | .clientClosed graceTerminal => teardownAfterClientDisconnect driver graceTerminal
  | .outcome outcome => onOutcome args driver outcome
  | .chunk arrival => onChunk args driver arrival
  | .lagged => onLagged args driver
  | .closed => onClosed args driver
  | .timer => again driver

/-- The checks at the top of the loop, or one arm of its `select!`. -/
def step (event : DriverEvent) : Option DriverState :=
  if awaits driver event then some (handle args driver event) else none

end Driver

theorem awaits_returned (hposition : driver.position = .returned) (event : DriverEvent) :
    awaits driver event = false := by
  cases event <;> simp [awaits, hposition]

end SieCluster.SseDriver
