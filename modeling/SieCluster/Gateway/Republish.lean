import SieCluster.Core.Runs
import SieCluster.Gateway.StreamRuns

/-!
# Pool republish of a pending stream

A generation request is republished to the pool subject after a NAK or a
first-chunk timeout.  The check of the guard, the bump and the publish call form
one section without an await point; the publish and its acknowledgement are
awaited; a failure rolls the bump back.  NAKs and chunks of one request are
handled one at a time by its inbox worker, which is busy while the republish of
a NAK is awaited; the timeout runs in the task of the HTTP handler.
-/

namespace SieCluster.Republish

open Streaming
open StreamRuns

inductive RepublishOutcome where
  | republished
  | alreadyRepublished
  | notPossible
  | rateLimited
  deriving DecidableEq

structure NakEnvelope where
  kind : String := "nak"
  requestId : String
  attemptId : String := ""
  reason : String := ""

section

variable (currentAttemptId abandonedAttemptId : Option String) (nakAttemptId : String)

/-- Whether a NAK must be ignored because it is from an abandoned attempt. -/
def nakIsStale : Bool :=
  if nakAttemptId.isEmpty then false
  else match currentAttemptId with
    | some current => current != nakAttemptId
    | none => abandonedAttemptId.any (· == nakAttemptId)

inductive AlreadyRepublishedNakDecision where
  | dropStale
  | waitForSuccessor
  | fail
  deriving DecidableEq

def alreadyRepublishedNakDecision : AlreadyRepublishedNakDecision :=
  if nakIsStale currentAttemptId abandonedAttemptId nakAttemptId then .dropStale
  else if currentAttemptId.isNone then .waitForSuccessor
  else .fail

end

/-- The bounded metric label of a NAK reason, which is also the reason passed to
the republish. -/
def nakReason (reason : String) : String :=
  if reason = "kv_budget" then "nak_kv_budget"
  else if reason = "model_not_loaded" then "nak_model_not_loaded"
  else if reason = "worker_shutting_down" then "nak_worker_shutting_down"
  else "nak"

def firstChunkTimeoutReason : String := "first_chunk_timeout"

/-- The `Nats-Msg-Id` of a pool republish. -/
def messageId (requestId : String) (generation : ℕ) : String :=
  requestId ++ "#" ++ toString generation

/-- The locked section of a republish: the guard, the cached payload and subject,
the token bucket of the timeout path, then the flip of the guard and the bump.
`tokenTaken` is the answer of the token bucket. -/
def beginRepublish (collector : StreamCollector) (reason : String)
    (abandonedAttemptId : Option String) (tokenTaken : Bool) :
    Except RepublishOutcome StreamCollector :=
  if collector.republished then .error .alreadyRepublished
  else if collector.poolFallbackSubject.isNone then .error .notPossible
  else if collector.encodedPayload.isNone then .error .notPossible
  else if reason == firstChunkTimeoutReason && !tokenTaken then
    .error .rateLimited
  else
    let bumped :=
      { collector with republished := true }.bumpAttemptGeneration
    match abandonedAttemptId with
    | some attemptId => .ok (bumped.recordAbandonedAttemptId attemptId)
    | none => .ok bumped

def rollbackRepublishAttempt (collector : StreamCollector) (generation : ℕ) :
    StreamCollector :=
  if collector.republished && collector.attemptGeneration == generation then
    { collector with republished := false }.rewindAttemptGeneration
  else collector

/-- Who awaits a publish. -/
inductive Origin where
  | nak (attemptId : String)
  | firstChunkTimeout
  deriving DecidableEq

/-- A republish whose publish or acknowledgement is awaited. -/
structure Flight where
  origin : Origin
  generation : ℕ
  deriving DecidableEq

inductive NakEffect where
  | republish
  | fail
  deriving DecidableEq

/-- A NAK that acted on the request, with what the collector held at that
moment, the attempts of all chunks accepted until then, and of those accepted
since the last republish. -/
structure NakAction where
  attemptId : String
  effect : NakEffect
  currentAttemptId : Option String
  abandonedAttemptId : Option String
  acceptedAttempts : List String
  latest : List String
  deriving DecidableEq

/-- One pending stream: its entry in `pending_streams`, the awaited publishes,
the message ids of all pool republishes sent, and what was observed. -/
structure PendingStream where
  requestId : String
  collector : Option StreamCollector
  flights : List Flight := []
  sent : List String := []
  acked : Bool := false
  failure : Option ChunkError := none
  acceptedAttempts : List String := []
  latest : List String := []
  nakActions : List NakAction := []

namespace PendingStream

section

variable (state : PendingStream)

/-- The inbox worker awaits the republish of a NAK. -/
def inboxBusy : Bool :=
  state.flights.any fun flight =>
    match flight.origin with
    | .nak _ => true
    | .firstChunkTimeout => false

def nakAction (collector : StreamCollector)
    (attemptId : String) (effect : NakEffect) : NakAction where
  attemptId := attemptId
  effect := effect
  currentAttemptId := collector.currentAttemptId
  abandonedAttemptId := collector.abandonedAttemptId
  acceptedAttempts := state.acceptedAttempts
  latest := state.latest

/-- `fail_pending_stream`: the entry is removed and the typed error is sent. -/
def failPendingStream (code message : String) : PendingStream :=
  match state.collector with
  | none => state
  | some _ => { state with
      collector := none
      failure := some { code := code, message := message } }

/-- `fail_pending_stream` called by the handler of a NAK. -/
def failOnNak (attemptId code message : String) : PendingStream :=
  match state.collector with
  | none => state
  | some collector =>
    { state with nakActions :=
        state.nakActions ++ [state.nakAction collector attemptId .fail]
    }.failPendingStream code message

/-- `republish_to_pool_outcome_with_abandoned_attempt` up to its first await:
either an immediate outcome, or a publish in flight. -/
def startRepublish (origin : Origin) (reason : String)
    (abandonedAttemptId : Option String) (tokenTaken : Bool) :
    PendingStream × Option RepublishOutcome :=
  match state.collector with
  | none => (state, some .notPossible)
  | some collector =>
    match beginRepublish collector reason abandonedAttemptId tokenTaken with
    | .error outcome => (state, some outcome)
    | .ok bumped =>
      ({ state with
        collector := some bumped
        flights := state.flights ++ [⟨origin, bumped.attemptGeneration⟩]
        latest := []
        sent := state.sent ++ [messageId state.requestId bumped.attemptGeneration]
        nakActions := match origin with
          | .nak attemptId => state.nakActions ++
              [state.nakAction collector attemptId .republish]
          | .firstChunkTimeout => state.nakActions }, none)

/-- `handle_nak` up to its first await. -/
def handleNak (nak : NakEnvelope) : PendingStream :=
  let current := state.collector.bind StreamCollector.currentAttemptId
  let abandoned := state.collector.bind StreamCollector.abandonedAttemptId
  if nakIsStale current abandoned nak.attemptId then state
  else
    let started := state.startRepublish (.nak nak.attemptId)
      (nakReason nak.reason) (some nak.attemptId) true
    match started.2 with
    | none => started.1
    | some .alreadyRepublished =>
      match state.collector with
      | none => state
      | some collector =>
        match alreadyRepublishedNakDecision collector.currentAttemptId
            collector.abandonedAttemptId nak.attemptId with
        | .dropStale => state
        | .waitForSuccessor => { state with
            collector :=
              some (collector.recordAbandonedAttemptId nak.attemptId) }
        | .fail => state.failOnNak nak.attemptId "rate_limit_exceeded"
            "KV cache saturated and request already retried on the pool"
    | some .rateLimited => state.failOnNak nak.attemptId "rate_limit_exceeded"
        "fallback rate limit reached during NAK republish"
    | some .notPossible => state
    | some .republished => state

/-- `handle_chunk`: the entry is removed on a terminal chunk and failed on a
gap. -/
def handleChunk (now : ℕ) (chunk : ChunkEnvelope) : PendingStream :=
  match state.collector with
  | none => state
  | some collector =>
    let applied := collector.apply now chunk
    let taken := if Accepted applied.2 then [chunk.attemptId] else []
    let observed := { state with
      collector := some applied.1
      acceptedAttempts := state.acceptedAttempts ++ taken
      latest := state.latest ++ taken }
    match applied.2 with
    | .terminal => { observed with collector := none }
    | .seqGap => observed.failPendingStream "transport_failure"
        "streaming chunk sequence gap (missing chunk between worker and gateway)"
    | _ => observed

/-- The rest of a republish once its publish was acknowledged or failed.  A NAK
whose republish failed fails the request right after the rollback. -/
def settle (flight : Flight) (acknowledged : Bool) : PendingStream :=
  if acknowledged then { state with acked := true }
  else
    let rolledBack := { state with
      collector :=
        state.collector.map (rollbackRepublishAttempt · flight.generation) }
    match flight.origin with
    | .nak attemptId => rolledBack.failOnNak attemptId "rate_limit_exceeded"
        "KV cache saturated and pool republish failed"
    | .firstChunkTimeout => rolledBack

end

end PendingStream

inductive RepublishEvent where
  | chunk (now : ℕ) (chunk : ChunkEnvelope)
  | nak (nak : NakEnvelope)
  | firstChunkTimeout (tokenTaken : Bool)
  | publishSettled (index : ℕ) (acknowledged : Bool)
  | dropPendingStream

/-- One section between two await points. -/
def step (state : PendingStream) : RepublishEvent → Option PendingStream
  | .chunk now chunk =>
    if state.inboxBusy then none else some (state.handleChunk now chunk)
  | .nak nak => if state.inboxBusy then none else some (state.handleNak nak)
  | .firstChunkTimeout tokenTaken =>
    some (state.startRepublish .firstChunkTimeout firstChunkTimeoutReason none tokenTaken).1
  | .publishSettled index acknowledged =>
    match state.flights[index]? with
    | none => none
    | some flight => some ({ state with
        flights := state.flights.eraseIdx index }.settle flight acknowledged)
  | .dropPendingStream => some { state with collector := none }

/-- A request right after its initial publish. -/
def start (requestId : String) (publishedAt : ℕ) (encodedPayload : Option (List UInt8))
    (poolFallbackSubject : Option String) (tapped : Bool) : PendingStream where
  requestId := requestId
  collector := some { (StreamRuns.start publishedAt tapped).collector with
    encodedPayload := encodedPayload
    poolFallbackSubject := poolFallbackSubject }

end SieCluster.Republish
