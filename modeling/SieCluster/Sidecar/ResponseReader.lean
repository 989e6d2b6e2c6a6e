import SieCluster.Core.Totals
import SieCluster.Sidecar.ResponseChunks

/-!
# The reader of a connection

The reader takes frame after frame and gives each to the assembler of the call
it names.  A call leaves the table when its response is complete or when a frame
of it is refused.
-/

namespace SieCluster.ResponseReader

open Msgpack ResponseChunks
open IpcResponses (maxFrameBytes)

/-- The calls in flight on a connection, with what their assemblers hold. -/
structure Reader where
  inflight : Totals.Table String (Option TransferState)
  /-- The part of the shared budget that is taken. -/
  used : ℕ
  /-- What the responses that callers have not yet dropped keep reserved. -/
  held : Totals.Table String ℕ
  outcomes : List (String × Except ResponseChunkError AssembledResponse)
  connected : Bool

def reservationIn : Option TransferState → ℕ
  | none => 0
  | some transfer => transfer.reservation

/-- Hands over what an assembler gave.  Only a pending transfer stays in flight. -/
def deliver (reader : Reader) (requestId : String) (assembly : Assembly) :
    Except ResponseChunkError ResponseFrameStatus → Reader
  | .ok .pending =>
    { reader with
      inflight := reader.inflight.insert requestId assembly.transfer
      used := assembly.used }
  | .ok (.complete response) =>
    { reader with
      inflight := reader.inflight.erase requestId
      used := assembly.used
      held := reader.held.insert requestId response.reservation
      outcomes := reader.outcomes ++ [(requestId, .ok response)] }
  | .error error =>
    { reader with
      inflight := reader.inflight.erase requestId
      used := assembly.used - reservationIn assembly.transfer
      outcomes := reader.outcomes ++ [(requestId, .error error)] }

section Reading

variable (setting : Setting)

/-- One turn of the reader loop.  A frame that is too large or names no call ends the
connection; a frame for a call that is not in flight is dropped. -/
def readFrame (reader : Reader) (frame : Bytes) : Reader :=
  if reader.connected = false then reader
  else if frame.length > maxFrameBytes then { reader with connected := false }
  else
    match responseFrameRoute setting frame with
    | .error _ => { reader with connected := false }
    | .ok route =>
      match reader.inflight.lookup route.requestId with
      | none => reader
      | some transfer =>
        let pushed := pushRouted setting route ⟨transfer, reader.used⟩ frame
        deliver reader route.requestId pushed.1 pushed.2

/-- A caller has decoded its response and drops it. -/
def release (reader : Reader) (requestId : String) : Reader :=
  match reader.held.lookup requestId with
  | none => reader
  | some reservation =>
    { reader with used := reader.used - reservation, held := reader.held.erase requestId }

end Reading

/-- What a call got, in order. -/
def outcomesOf (reader : Reader) (requestId : String) :
    List (Except ResponseChunkError AssembledResponse) :=
  (reader.outcomes.filter fun outcome => outcome.1 = requestId).map Prod.snd

end SieCluster.ResponseReader
