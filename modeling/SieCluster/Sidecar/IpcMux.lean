import SieCluster.Sidecar.ResponseReader

/-!
# Many calls over one connection

Callers put commands into a queue.  The writer takes them out, registers each
under its request id and writes the request; the reader gives every frame to the
call it names.  The actor owns both: when one of them ends it fails whatever is
still registered and connects again.  A caller may go away at any moment.

The parties share the table of pending responses, each behind a lock, and the
byte budget of reassembly.  A step below is what a party does under one lock or
between two of them, so that a run of steps is one interleaving.
-/

namespace SieCluster.IpcMux

open Msgpack ResponseChunks
open ResponseReader (reservationIn)
open IpcResponses (maxFrameBytes)

def maxInflight : ℕ := 1024

inductive MuxError where
  | io
  | frameTooLarge (length : ℕ)
  | responseChunk (error : ResponseChunkError)
  | connectionLost
  | shutdown
  deriving DecidableEq

abbrev Answer := Except MuxError AssembledResponse

/-- What an answer keeps charged to the budget. -/
def answerReservation : Answer → ℕ
  | .ok response => response.reservation
  | .error _ => 0

/-- How far the future of a call has come. -/
inductive Stage where
  | sending
  | waiting
  -- The future is being dropped: its receiver, then the flag, then the registration.
  | closed
  | flagged
  | cancelled
  | returned (answer : Answer)
  | finished (error : Option MuxError)
  deriving DecidableEq

structure Call where
  requestId : String
  payloadLength : ℕ
  stage : Stage
  /-- The value in the channel back to the caller. -/
  answer : Option Answer
  deriving DecidableEq

/-- The flag the writer looks at; only the guard of a dropped future sets it. -/
def Call.isCancelled (call : Call) : Bool :=
  match call.stage with
  | .flagged => true
  | .cancelled => true
  | _ => false

/-- The client makes a second call under the same id after these errors. -/
def MuxError.isTransport : MuxError → Bool
  | .io => true
  | .connectionLost => true
  | .shutdown => true
  | _ => false

def Call.mayRetry (call : Call) : Bool :=
  match call.stage with
  | .finished (some error) => error.isTransport
  | _ => false

structure PendingResponse where
  /-- Whether the sender of the answer is still there. -/
  respond : Bool
  transfer : Option TransferState
  deriving DecidableEq

inductive Writer where
  | idle
  | checked (call : ℕ)
  | registered (call : ℕ)
  | writing (call : ℕ)
  /-- The entry is out of the table, the error is not sent yet. -/
  | failing (call : ℕ) (error : MuxError)
  | stopped (channelClosed : Bool)
  deriving DecidableEq

inductive Delivery where
  | pending
  | answer (result : Answer)
  | unknown
  deriving DecidableEq

inductive Reader where
  | idle
  | routed (route : ResponseFrameRoute) (frame : Bytes)
  /-- With a clone of the call's entry. -/
  | holding (call : ℕ) (route : ResponseFrameRoute) (frame : Bytes)
  | pushed (call : ℕ) (requestId : String) (delivery : Delivery)
  | settled (call : ℕ) (delivery : Delivery)
  | exited
  deriving DecidableEq

inductive Actor where
  | connecting
  | connected
  | draining (channelClosed : Bool) (drained : List ℕ)
  | exited
  deriving DecidableEq

structure Mux where
  calls : Totals.Table ℕ Call
  nextCall : ℕ
  clientDropped : Bool
  queue : List ℕ
  inflight : Totals.Table String ℕ
  /-- The pending responses that are still referenced, by the call that made them. -/
  objects : Totals.Table ℕ PendingResponse
  used : ℕ
  writer : Writer
  reader : Reader
  actor : Actor
  /-- The calls whose sender was used, in order. -/
  answers : List ℕ
  /-- What callers got, in order. -/
  resolved : List (ℕ × Answer)

def Mux.initial : Mux where
  calls := ∅
  nextCall := 0
  clientDropped := false
  queue := []
  inflight := ∅
  objects := ∅
  used := 0
  writer := .stopped false
  reader := .exited
  actor := .connecting
  answers := []
  resolved := []

/-! ## Who holds what -/

def Writer.holds : Writer → ℕ → Bool
  | .failing held _, call => held = call
  | _, _ => false

def Reader.holds : Reader → ℕ → Bool
  | .holding held _ _, call => held = call
  | .pushed held _ _, call => held = call
  | .settled held _, call => held = call
  | _, _ => false

def Actor.holds : Actor → ℕ → Bool
  | .draining _ drained, call => drained.contains call
  | _, _ => false

section

variable (mux : Mux)

def Mux.registers (call : ℕ) : Bool :=
  mux.inflight.entries.any fun entry => entry.2 = call

/-- Whether anything still points to the pending response of a call. -/
def Mux.references (call : ℕ) : Bool :=
  mux.registers call || mux.reader.holds call || mux.writer.holds call || mux.actor.holds call

/-- Frees a pending response that nothing points to any more. -/
def Mux.discard (call : ℕ) : Mux :=
  match mux.objects.lookup call with
  | none => mux
  | some object =>
    if mux.references call then mux
    else
      { mux with
        objects := mux.objects.erase call
        used := mux.used - reservationIn object.transfer }

def Stage.sender : Stage → ℕ
  | .sending => 1
  | _ => 0

def Writer.sender : Writer → ℕ → ℕ
  | .checked held, call => if held = call then 1 else 0
  | _, _ => 0

def Delivery.sender : Delivery → ℕ
  | .answer _ => 1
  | _ => 0

def Reader.sender : Reader → ℕ → ℕ
  | .pushed held _ delivery, call => if held = call then delivery.sender else 0
  | .settled held delivery, call => if held = call then delivery.sender else 0
  | _, _ => 0

def PendingResponse.sender (object : PendingResponse) : ℕ :=
  if object.respond then 1 else 0

section

variable (call : ℕ)

/-- Senders on the way to the table: with the caller, in the queue, with the writer. -/
def Mux.earlySenders : ℕ :=
  (mux.calls.lookup call).elim 0 (fun found => found.stage.sender) + mux.queue.count call +
    mux.writer.sender call

/-- Senders in the pending response or taken out of it by the reader. -/
def Mux.lateSenders : ℕ :=
  (mux.objects.lookup call).elim 0 PendingResponse.sender + mux.reader.sender call

def Mux.senders : ℕ :=
  mux.earlySenders call + mux.lateSenders call

/-- Sends an answer, which uses the sender up.  Nobody gets it if the receiver is gone. -/
def Mux.send (answer : Answer) : Mux :=
  match mux.calls.lookup call with
  | some found =>
    if found.stage = .waiting then
      { mux with
        calls := mux.calls.insert call { found with answer := some answer }
        answers := mux.answers ++ [call] }
    else
      { mux with
        used := mux.used - answerReservation answer
        answers := mux.answers ++ [call] }
  | none =>
    { mux with
      used := mux.used - answerReservation answer
      answers := mux.answers ++ [call] }

/-- Takes the sender out of a pending response, if it is there, and sends the error. -/
def Mux.fail (object : PendingResponse) (error : MuxError) : Mux :=
  if object.respond then
    Mux.send { mux with objects := mux.objects.insert call { object with respond := false } }
      call (.error error)
  else mux

/-! ## Callers -/

inductive CallerStep where
  | enqueue
  | refuse
  | receive
  | closeReceiver
  | setFlag
  | removeEntry
  | dropAnswer
  deriving DecidableEq

variable (found : Call)

def Mux.setStage (stage : Stage) : Mux :=
  { mux with calls := mux.calls.insert call { found with stage := stage } }

/-- The call returns and its guard is disarmed. -/
def Mux.resolve (answer : Answer) : Mux :=
  { mux with
    calls := mux.calls.insert call { found with stage := .returned answer, answer := none }
    resolved := mux.resolved ++ [(call, answer)] }

/-- Drops the receiver, and with it a value that nobody took. -/
def Mux.closeReceiver : Mux :=
  { mux with
    calls := mux.calls.insert call { found with stage := .closed, answer := none }
    used := mux.used - found.answer.elim 0 answerReservation }

/-- Takes the entry of an id out of the table. -/
def Mux.unregister (requestId : String) : Mux :=
  { mux with inflight := mux.inflight.erase requestId }

/-- The guard's removal; the entry may have been the last reference. -/
def Mux.removeEntry : Mux :=
  let cancelled := mux.setStage call found .cancelled
  match mux.inflight.lookup found.requestId with
  | none => cancelled
  | some registered => (cancelled.unregister found.requestId).discard registered

def Mux.dropAnswer : Answer → Mux
  | .error error => mux.setStage call found (.finished (some error))
  | .ok response =>
    { mux.setStage call found (.finished none) with used := mux.used - response.reservation }

end

/-- A new call, under an id that is new or whose calls all failed in the transport. -/
def Mux.call (requestId : String) (payloadLength : ℕ) : Option Mux :=
  if mux.clientDropped = false ∧ (mux.calls.entries.all fun entry =>
      decide (entry.2.requestId ≠ requestId) || entry.2.mayRetry) = true then
    some { mux with
      calls := mux.calls.insert mux.nextCall ⟨requestId, payloadLength, .sending, none⟩
      nextCall := mux.nextCall + 1 }
  else none

section

variable (call : ℕ) (found : Call)

def Mux.callerStep : CallerStep → Option Mux
  | .enqueue =>
    if found.stage = .sending ∧ mux.queue.length < maxInflight then
      some { mux.setStage call found .waiting with queue := mux.queue ++ [call] }
    else none
  | .refuse =>
    -- Sending fails once the receiving end of the queue is gone.
    if found.stage = .sending ∧ mux.actor = .exited then
      some (mux.resolve call found (.error .shutdown))
    else none
  | .receive =>
    if found.stage = .waiting then
      match found.answer with
      | some answer => some (mux.resolve call found answer)
      | none =>
        -- The sender was dropped without an answer.
        if mux.senders call = 0 then some (mux.resolve call found (.error .connectionLost))
        else none
    else none
  | .closeReceiver =>
    if found.stage = .sending ∨ found.stage = .waiting then some (mux.closeReceiver call found)
    else none
  | .setFlag => if found.stage = .closed then some (mux.setStage call found .flagged) else none
  | .removeEntry => if found.stage = .flagged then some (mux.removeEntry call found) else none
  | .dropAnswer =>
    match found.stage with
    | .returned answer => some (mux.dropAnswer call found answer)
    | _ => none

/-- Whether the future of the call still exists, in part or whole. -/
def Call.isLive (call : Call) : Bool :=
  match call.stage with
  | .cancelled => false
  | .returned _ => false
  | .finished _ => false
  | _ => true

def Mux.dropClient : Option Mux :=
  if (mux.calls.entries.all fun entry => !entry.2.isLive) = true then
    some { mux with clientDropped := true }
  else none

/-! ## The writer -/

inductive WriterStep where
  | take
  | register
  | checkSize
  | writeDone
  | writeFails
  | sendError
  | channelClosed
  deriving DecidableEq

def Mux.take (rest : List ℕ) (found : Call) : Mux :=
  if found.isCancelled then { mux with queue := rest }
  else { mux with queue := rest, writer := .checked call }

/-- Registers a call under the lock of the table, unless its caller is gone by now. -/
def Mux.register : Mux :=
  if found.isCancelled then { mux with writer := .idle }
  else
    let registered := { mux with
      inflight := mux.inflight.insert found.requestId call
      objects := mux.objects.insert call ⟨true, none⟩
      writer := .registered call }
    match mux.inflight.lookup found.requestId with
    | none => registered
    | some replaced => registered.discard replaced

/-- Takes the entry of a request that failed out of the table, to answer it. -/
def Mux.takeOut (error : MuxError) (otherwise : Writer) : Mux :=
  match mux.inflight.lookup found.requestId with
  | none => { mux with writer := otherwise }
  | some registered =>
    { mux.unregister found.requestId with writer := .failing registered error }

def Mux.checkSize : Mux :=
  if found.payloadLength ≤ maxFrameBytes then { mux with writer := .writing call }
  else mux.takeOut found (.frameTooLarge (found.payloadLength % 2 ^ 32)) .idle

/-- An oversized request is only skipped; an I/O error ends the writer. -/
def writerAfter : MuxError → Writer
  | .frameTooLarge _ => .idle
  | _ => .stopped false

def Mux.sendError (object : PendingResponse) (error : MuxError) : Mux :=
  Mux.discard { mux.fail call object error with writer := writerAfter error } call

end

def Mux.writerStep : WriterStep → Option Mux
  | .take =>
    match mux.writer, mux.queue with
    | .idle, call :: rest => (mux.calls.lookup call).map fun found => mux.take call rest found
    | _, _ => none
  | .register =>
    match mux.writer with
    | .checked call => (mux.calls.lookup call).map fun found => mux.register call found
    | _ => none
  | .checkSize =>
    match mux.writer with
    | .registered call => (mux.calls.lookup call).map fun found => mux.checkSize call found
    | _ => none
  | .writeDone =>
    match mux.writer with
    | .writing _ => some { mux with writer := .idle }
    | _ => none
  | .writeFails =>
    match mux.writer with
    | .writing call =>
      (mux.calls.lookup call).map fun found => mux.takeOut found .io (.stopped false)
    | _ => none
  | .sendError =>
    match mux.writer with
    | .failing call error =>
      (mux.objects.lookup call).map fun object => mux.sendError call object error
    | _ => none
  | .channelClosed =>
    if mux.writer = .idle ∧ mux.queue = [] ∧ mux.clientDropped then
      some { mux with writer := .stopped true }
    else none

end

/-! ## The reader -/

inductive ReaderStep where
  | readFails
  | read (frame : Bytes)
  | lookup
  | push
  | settle
  | deliver
  deriving DecidableEq

/-- What the reader does with a frame, given whether the sender was still there. -/
def deliveryOf (respond : Bool) : Except ResponseChunkError ResponseFrameStatus → Delivery
  | .ok .pending => .pending
  | .ok (.complete response) => if respond then .answer (.ok response) else .unknown
  | .error error => if respond then .answer (.error (.responseChunk error)) else .unknown

/-- A response that is complete after its sender has gone is dropped at once. -/
def droppedReservation (respond : Bool) : Except ResponseChunkError ResponseFrameStatus → ℕ
  | .ok (.complete response) => if respond then 0 else response.reservation
  | _ => 0

section Steps

variable (setting : Setting)

section

variable (mux : Mux)

def Mux.push (call : ℕ) (object : PendingResponse) (route : ResponseFrameRoute)
    (frame : Bytes) : Mux :=
  let pushed := pushRouted setting route ⟨object.transfer, mux.used⟩ frame
  let delivery := deliveryOf object.respond pushed.2
  { mux with
    objects := mux.objects.insert call
      ⟨object.respond && decide (delivery = .pending), pushed.1.transfer⟩
    used := pushed.1.used - droppedReservation object.respond pushed.2
    reader := .pushed call route.requestId delivery }

/-- Unless the transfer goes on, the entry leaves the table if it is still this one. -/
def Mux.settle (call : ℕ) (requestId : String) (delivery : Delivery) : Mux :=
  if delivery ≠ .pending ∧ mux.inflight.lookup requestId = some call then
    { mux.unregister requestId with reader := .settled call delivery }
  else { mux with reader := .settled call delivery }

/-- Sends what there is to send and drops the clone. -/
def Mux.deliver (call : ℕ) : Delivery → Mux
  | .answer result => Mux.discard { mux.send call result with reader := .idle } call
  | _ => Mux.discard { mux with reader := .idle } call

def Mux.readerStep : ReaderStep → Option Mux
  | .readFails => if mux.reader = .idle then some { mux with reader := .exited } else none
  | .read frame =>
    if mux.reader = .idle then
      if frame.length > maxFrameBytes then some { mux with reader := .exited }
      else
        match responseFrameRoute setting frame with
        | .error _ => some { mux with reader := .exited }
        | .ok route => some { mux with reader := .routed route frame }
    else none
  | .lookup =>
    match mux.reader with
    | .routed route frame =>
      match mux.inflight.lookup route.requestId with
      | none => some { mux with reader := .idle }
      | some call => some { mux with reader := .holding call route frame }
    | _ => none
  | .push =>
    match mux.reader with
    | .holding call route frame =>
      (mux.objects.lookup call).map fun object => mux.push setting call object route frame
    | _ => none
  | .settle =>
    match mux.reader with
    | .pushed call requestId delivery => some (mux.settle call requestId delivery)
    | _ => none
  | .deliver =>
    match mux.reader with
    | .settled call delivery => some (mux.deliver call delivery)
    | _ => none

/-! ## The actor -/

inductive ActorStep where
  | connect
  | writerWon
  | readerWon
  | drainOne
  | drained
  deriving DecidableEq

/-- Both loops are gone; everything registered is taken out of the table. -/
def Mux.drain (channelClosed : Bool) : Mux :=
  { mux with
    inflight := ∅
    writer := .stopped channelClosed
    reader := .exited
    actor := .draining channelClosed (mux.inflight.entries.map fun entry => entry.2) }

def Mux.drainOne (channelClosed : Bool) (call : ℕ) (rest : List ℕ)
    (object : PendingResponse) : Mux :=
  Mux.discard { mux.fail call object .connectionLost with
    actor := .draining channelClosed rest } call

/-- The reader is stopped where it waits for bytes. -/
def Reader.waits : Reader → Bool
  | .idle => true
  | .exited => true
  | _ => false

/-- The writer waits for a command or for the socket. -/
def Writer.waits : Writer → Bool
  | .idle => true
  | .writing _ => true
  | _ => false

def Mux.actorStep : ActorStep → Option Mux
  | .connect =>
    if mux.actor = .connecting then
      some { mux with writer := .idle, reader := .idle, actor := .connected }
    else none
  | .writerWon =>
    match mux.actor, mux.writer with
    | .connected, .stopped channelClosed =>
      if mux.reader.waits then some (mux.drain channelClosed) else none
    | _, _ => none
  | .readerWon =>
    if mux.actor = .connected ∧ mux.reader = .exited ∧ mux.writer.waits then
      some (mux.drain false)
    else none
  | .drainOne =>
    match mux.actor with
    | .draining channelClosed (call :: rest) =>
      (mux.objects.lookup call).map fun object =>
        mux.drainOne channelClosed call rest object
    | _ => none
  | .drained =>
    match mux.actor with
    | .draining channelClosed [] =>
      some { mux with actor := if channelClosed then .exited else .connecting }
    | _ => none

end

/-! ## Interleavings -/

inductive Event where
  | call (requestId : String) (payloadLength : ℕ)
  | dropClient
  | caller (call : ℕ) (step : CallerStep)
  | writer (step : WriterStep)
  | reader (step : ReaderStep)
  | actor (step : ActorStep)
  deriving DecidableEq

def Mux.step (mux : Mux) : Event → Option Mux
  | .call requestId payloadLength => mux.call requestId payloadLength
  | .dropClient => mux.dropClient
  | .caller call step => (mux.calls.lookup call).bind fun found => mux.callerStep call found step
  | .writer step => mux.writerStep step
  | .reader step => mux.readerStep setting step
  | .actor step => mux.actorStep step

end Steps

end SieCluster.IpcMux
