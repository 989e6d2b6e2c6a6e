import SieCluster.Gateway.SseDriver
import SieCluster.Gateway.StreamPurity

/-!
# How a server-sent event stream ends

A client that stays connected should see one `[DONE]`, last, and before it a
finish chunk or an error.  Two arms of the driver can miss that: the end of the
tap after a first chunk ends the driver without a word, and the terminal of a
stream with several candidates is dropped on the assumption that each candidate
has been closed before.  Apart from these, every run ends as it should.
-/

namespace SieCluster.SseClosing

open Runs
open Streaming
open StreamPurity (textChunk)
open SseEvents
open SseDriver

/-- One `[DONE]`, at the end, after a finish chunk or an error. -/
def ProperlyClosed (endpoint : SseEndpoint) (events : List SseEvent) : Prop :=
  ∃ before, events = before ++ [.done] ∧ SseEvent.done ∉ before ∧
    ∃ event ∈ before, closes endpoint event = true

/-- The client is there to take every event. -/
def StaysConnected : DriverEvent → Prop
  | .clientClosed _ => False
  | .chunk arrival => arrival.sent = true ∧ arrival.wait ≠ .clientClosed
  | _ => True

section

variable (args : SseDriverArgs) (driver : DriverState)

/-- The tap ends before its first chunk only, and a terminal is dropped only when
a chunk delivered before has ended its candidate. -/
def EndsInView : DriverEvent → Prop
  | .closed => driver.firstSeen = false
  | .chunk arrival => skipForward driver arrival.chunk = true →
      ∃ chunk ∈ driver.delivered, endsCandidate args.endpoint chunk = true
  | _ => True

instance decidableStaysConnected (event : DriverEvent) : Decidable (StaysConnected event) := by
  cases event <;> unfold StaysConnected <;> infer_instance

instance decidableEndsInView (event : DriverEvent) : Decidable (EndsInView args driver event) := by
  cases event <;> unfold EndsInView <;> infer_instance

/-! ## One step -/

/-- Every delivered chunk that ends its candidate has been shown. -/
def Shown : Prop :=
  ∀ chunk ∈ driver.delivered, endsCandidate args.endpoint chunk = true →
    ∃ event ∈ driver.emitted, closes args.endpoint event = true

/-- Either the driver goes on and has sent no `[DONE]`, or the stream is
closed. -/
inductive Tidy : Prop where
  | going (hposition : driver.position ≠ .returned) (hdone : SseEvent.done ∉ driver.emitted)
      (hshown : Shown args driver)
  | ended (hposition : driver.position = .returned)
      (hclosed : ProperlyClosed args.endpoint driver.emitted)

end

section Steps

variable {driver : DriverState}

section

variable (hdone : SseEvent.done ∉ driver.emitted)
include hdone

theorem abort_tidy (code message : String) (calls : List DispatcherCall) :
    Tidy args (abort args driver code message calls) := by
  refine .ended rfl ⟨driver.emitted ++
    [.data (errorChunk args.endpoint args.ids code message)], ?_, ?_, ?_⟩
  · simp [abort]
  · simpa using hdone
  · refine ⟨_, List.mem_append_right _ (List.mem_singleton_self _), ?_⟩
    cases args.endpoint <;> rfl

theorem again_tidy (hshown : Shown args driver) : Tidy args (again driver) :=
  .going (by simp [again]) hdone hshown

theorem finishStream_tidy (hcloses : ∃ event ∈ driver.emitted, closes args.endpoint event = true)
    (chunk : ChunkEnvelope) (terminalUsageExtras : List (String × Json)) :
    Tidy args (finishStream args driver chunk terminalUsageExtras) := by
  obtain ⟨event, hevent, hshown⟩ := hcloses
  refine .ended rfl ⟨_, rfl, ?_, event, List.mem_append_left _ hevent, hshown⟩
  simp [hdone]

end

/-- A deadline at the top of the loop either closes the stream or moves. -/
theorem loopTop_tidy (hposition : driver.position ≠ .returned)
    (hdone : SseEvent.done ∉ driver.emitted) (hshown : Shown args driver) (now : ℕ)
    (republish : RepublishAnswer) (answeredAt : ℕ) :
    Tidy args (loopTop args driver now republish answeredAt) := by
  unfold loopTop
  split
  · exact abort_tidy (by exact hdone) ..
  split
  · unfold firstChunkDeadlineReached
    split
    · simp only []
      split
      · exact .going hposition hdone hshown
      · exact abort_tidy (by exact hdone) ..
    · exact .going hposition hdone hshown
    · exact abort_tidy (by exact hdone) ..
  split
  · exact abort_tidy (by exact hdone) ..
  · exact .going (by simp) hdone hshown

variable (hdone : SseEvent.done ∉ driver.emitted)
include hdone

theorem forwardChunk_tidy (hsent : arrival.sent = true)
    (hskip : skipForward driver arrival.chunk = true →
      ∃ event ∈ driver.emitted, closes args.endpoint event = true)
    (hshown : ∀ chunk ∈ driver.delivered, endsCandidate args.endpoint chunk = true →
      chunk = arrival.chunk ∨ ∃ event ∈ driver.emitted, closes args.endpoint event = true) :
    Tidy args (forwardChunk args driver arrival) := by
  cases hskipped : skipForward driver arrival.chunk with
  | true =>
    -- Only a terminal is dropped.
    have hterminal : arrival.chunk.done = true := by
      simp only [skipForward, Bool.and_eq_true] at hskipped
      exact hskipped.1.1
    simp only [forwardChunk, hskipped, hterminal, Bool.not_true, Bool.false_and,
      Bool.false_eq_true, if_false, if_true]
    exact finishStream_tidy (by exact hdone) (by exact hskip hskipped) ..
  | false =>
    simp only [forwardChunk, hskipped, hsent, Bool.not_true, Bool.and_false,
      Bool.false_eq_true, if_false]
    split
    case isTrue hterminal =>
      refine finishStream_tidy (by simpa using hdone) ⟨_, List.mem_append_right _
        (List.mem_singleton_self _), closes_terminal _ _ hterminal ..⟩ ..
    case isFalse hopen =>
      refine again_tidy (by simpa using hdone) fun chunk hchunk hends => ?_
      rcases hshown chunk hchunk hends with rfl | ⟨event, hevent, hcloses⟩
      · exact ⟨_, List.mem_append_right _ (List.mem_singleton_self _),
          closes_of_endsCandidate _ _ hends (by simpa using hopen) ..⟩
      · exact ⟨event, List.mem_append_left _ hevent, hcloses⟩

theorem onChunk_tidy (hshown : Shown args driver) (hconnected : StaysConnected (.chunk arrival))
    (hview : EndsInView args driver (.chunk arrival)) :
    Tidy args (onChunk args driver arrival) := by
  obtain ⟨hsent, hwait⟩ := hconnected
  have hskip : skipForward driver arrival.chunk = true →
      ∃ event ∈ driver.emitted, closes args.endpoint event = true := by
    intro hskipped
    obtain ⟨chunk, hchunk, hends⟩ := hview hskipped
    exact hshown chunk hchunk hends
  have hlater : ∀ chunk ∈ driver.delivered ++ [arrival.chunk],
      endsCandidate args.endpoint chunk = true →
      chunk = arrival.chunk ∨ ∃ event ∈ driver.emitted, closes args.endpoint event = true := by
    intro chunk hchunk hends
    rcases List.mem_append.1 hchunk with hbefore | hnow
    · exact .inr (hshown chunk hbefore hends)
    · exact .inl (List.mem_singleton.1 hnow)
  unfold onChunk
  simp only []
  split
  · split
    case h_1 => exact forwardChunk_tidy (by exact hdone) hsent (by exact hskip) hlater
    case h_4 hclosed => exact absurd hclosed hwait
    all_goals exact abort_tidy (by exact hdone) ..
  · exact forwardChunk_tidy (by exact hdone) hsent (by exact hskip) hlater

end Steps

theorem handle_tidy (hposition : driver.position ≠ .returned)
    (hdone : SseEvent.done ∉ driver.emitted) (hshown : Shown args driver) (event : DriverEvent)
    (hconnected : StaysConnected event) (hview : EndsInView args driver event) :
    Tidy args (handle args driver event) := by
  cases event with
  | clientClosed => exact hconnected.elim
  | loopTop => exact loopTop_tidy hposition hdone hshown ..
  | durability completion =>
    cases completion with
    | confirmed => exact again_tidy (by exact hdone) hshown
    | _ => exact abort_tidy (by exact hdone) ..
  | outcome =>
    simp only [handle, onOutcome]
    split
    · split
      · exact abort_tidy (by exact hdone) ..
      · exact again_tidy (by exact hdone) hshown
    · exact again_tidy (by exact hdone) hshown
  | chunk => exact onChunk_tidy hdone hshown hconnected hview
  | lagged => exact abort_tidy hdone ..
  | closed =>
    have hunseen : driver.firstSeen = false := hview
    simp only [handle, onClosed, hunseen, Bool.not_false, if_true]
    exact abort_tidy hdone ..
  | timer => exact again_tidy hdone hshown

section

variable (args : SseDriverArgs)

theorem step_tidy (driver : DriverState) (event : DriverEvent) (next : DriverState)
    (htidy : Tidy args driver) (hcondition : StaysConnected event ∧ EndsInView args driver event)
    (hstep : step args driver event = some next) :
    Tidy args next := by
  obtain ⟨hawaits, ⟨⟩⟩ := Option.ite_none_right_eq_some.1 hstep
  cases htidy with
  | going hposition hdone hshown =>
    exact handle_tidy hposition hdone hshown event hcondition.1 hcondition.2
  | ended hposition =>
    rw [awaits_returned hposition] at hawaits
    exact absurd hawaits Bool.false_ne_true

/-! ## Whole runs -/

/-- Nothing happens until the overall deadline has passed. -/
def waitOut (driver : DriverState) (now : ℕ) : List DriverEvent :=
  (if driver.position = .selecting then [.timer] else []) ++ [.loopTop now (.ok false) now]

theorem run_waitOut (hposition : driver.position ≠ .returned)
    (hnow : driver.overallDeadline ≤ now) :
    run (step args) driver (waitOut driver now) = some (overallTimedOut args driver) := by
  cases hcase : driver.position with
  | loopTop => simp [waitOut, run, step, awaits, handle, loopTop, hcase, hnow]
  | selecting =>
    simp [waitOut, run, step, awaits, handle, again, loopTop, hcase, hnow, overallTimedOut, abort]
  | returned => exact absurd hcase hposition

/-- In every run with a connected client in which the tap does not end after a
first chunk and no terminal is dropped before a chunk has ended its candidate, the
driver returns only after a proper end, has not sent `[DONE]` before that, and
does return when the overall deadline has passed. -/
theorem sse_stream_closed (publishInstant : ℕ) (events : List DriverEvent) (final : DriverState)
    (hguarded : Guarded (step args)
      (fun driver event => StaysConnected event ∧ EndsInView args driver event)
      (start args publishInstant) events)
    (hrun : run (step args) (start args publishInstant) events = some final) :
    (final.position = .returned → ProperlyClosed args.endpoint final.emitted) ∧
    (final.position ≠ .returned → SseEvent.done ∉ final.emitted ∧
      ∀ now, final.overallDeadline ≤ now →
        ∃ last, run (step args) final (waitOut final now) = some last ∧ last.position = .returned ∧
          ProperlyClosed args.endpoint last.emitted) := by
  have hstart : Tidy args (start args publishInstant) :=
    .going (by simp [start]) (by simp [start]) (by simp [Shown, start])
  have htidy : Tidy args final :=
    guarded_invariant (Tidy args) (step_tidy args) hstart hguarded hrun
  cases htidy with
  | ended hposition hclosed =>
    exact ⟨fun _ => hclosed, fun hgoing => absurd hposition hgoing⟩
  | going hposition hdone =>
    refine ⟨fun hreturned => absurd hreturned hposition, fun _ => ⟨hdone, ?_⟩⟩
    intro now hnow
    refine ⟨_, run_waitOut args hposition hnow, rfl, ?_⟩
    have hlast : Tidy args (overallTimedOut args final) := abort_tidy hdone ..
    cases hlast with
    | going hgoing => exact absurd rfl hgoing
    | ended _ hclosed => exact hclosed

end

/-- A chat request with the gateway's own timeouts, in milliseconds. -/
def chatArgs : SseDriverArgs where
  endpoint := .chat false
  ids := {
    requestId := "req-1"
    streamChatId := "chatcmpl-1"
    created := 0
    model := "m"
    systemFingerprint := "fp" }
  firstChunkTimeout := 30000
  interChunkTimeout := 60000
  overallTimeout := 300000
  supportsFirstChunkPoolRepublish := true
  wasDirectDispatched := false
  poolFallbackLaneWorkerCount := 2

def plainStream : List DriverEvent := [
  .loopTop 0 (.ok false) 0, .durability .confirmed,
  .loopTop 1 (.ok false) 1, .chunk { now := 1, chunk := textChunk "att-A" 0 "Hi" },
  .loopTop 2 (.ok false) 2,
  .chunk { now := 2, chunk := textChunk "att-A" 1 "!" true }]

theorem sse_stream_closed_plainStream :
    ∃ final, run (step chatArgs) (start chatArgs 0) plainStream = some final ∧
      final.position = .returned ∧
      ProperlyClosed chatArgs.endpoint final.emitted := by
  have hguarded : Guarded (step chatArgs)
      (fun driver event => StaysConnected event ∧ EndsInView chatArgs driver event)
      (start chatArgs 0) plainStream := by
    decide
  exact ⟨_, rfl, rfl, (sse_stream_closed chatArgs 0 plainStream _ hguarded rfl).1 rfl⟩

/-! ## The two ways to miss the end -/

/-- Whenever the driver has returned to a connected client, `[DONE]` was its last
event. -/
def DoneAlwaysLast : Prop :=
  ∀ args publishInstant events final, (∀ event ∈ events, StaysConnected event) →
    run (step args) (start args publishInstant) events = some final →
    final.position = .returned →
    ∃ before, final.emitted = before ++ [.done]

/-- A connected client that has seen `[DONE]` has seen a finish or an error. -/
def FinishAlwaysShown : Prop :=
  ∀ args publishInstant events final, (∀ event ∈ events, StaysConnected event) →
    run (step args) (start args publishInstant) events = some final →
    SseEvent.done ∈ final.emitted →
    ∃ event ∈ final.emitted, closes args.endpoint event = true

/-- The collector is dropped after a first chunk. -/
def closedTap : List DriverEvent := [
  .loopTop 0 (.ok false) 0, .chunk { now := 0, chunk := textChunk "att-A" 0 "Hi" },
  .loopTop 1 (.ok false) 1, .outcome none,
  .loopTop 2 (.ok false) 2, .closed]

/-- The engine stops in the middle of the second candidate. -/
def cutCandidate : List DriverEvent := [
  .loopTop 0 (.ok false) 0,
  .chunk { now := 0, chunk := { textChunk "att-A" 0 "Hi" with choiceIndex := 1 } },
  .loopTop 1 (.ok false) 1,
  .chunk { now := 1, chunk := textChunk "att-A" 1 "" true }]

theorem not_sseStreamClosed : ¬ DoneAlwaysLast ∧ ¬ FinishAlwaysShown := by
  constructor
  · intro hlast
    obtain ⟨before, hbefore⟩ :=
      hlast chatArgs 0 closedTap _ (by decide) rfl rfl
    -- The only event is the one of the first chunk.
    have hend := congrArg List.getLast? hbefore
    rw [List.getLast?_append_of_ne_nil _ (by simp)] at hend
    exact absurd (Option.some.inj hend) (by simp)
  · intro hshown
    obtain ⟨event, hevent, hcloses⟩ :=
      hshown chatArgs 0 cutCandidate _ (by decide) rfl (.tail _ (.head _))
    have hany := List.any_eq_true.2 ⟨event, hevent, hcloses⟩
    exact absurd hany (by decide)

end SieCluster.SseClosing
