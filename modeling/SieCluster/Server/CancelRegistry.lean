import SieCluster.Core.Dicts

/-!
# Cancel handles and tombstones of a worker

A worker process keeps a cancel event for every attempt it is running, under the
request id and then the attempt id.  A cancel names the request only: it sets the
events of all attempts of the request, or, when there is none, leaves a tombstone
which makes the next attempt of that request refuse to run.  `Heard` is the log
of what the worker was told, and every tombstone is explained by it.
-/

namespace SieCluster.CancelRegistry

open Dicts

/-- Milliseconds. -/
def cancelTombstoneTtl : ℕ := 120000
def cancelTombstoneMax : ℕ := 1024

/-- The part of the processor that cancels go to: the events by request and
attempt, and the tombstones with their deadlines. -/
structure StreamingProcessor where
  inFlightCancels : Dict String (Dict String Bool) := []
  cancelTombstones : Dict String ℕ := []
  deriving DecidableEq

namespace StreamingProcessor

section

variable (processor : StreamingProcessor)

def registerCancel (requestId attemptId : String) : StreamingProcessor :=
  { processor with
    inFlightCancels := set processor.inFlightCancels requestId
      (set ((get processor.inFlightCancels requestId).getD []) attemptId false) }

def unregisterCancel (requestId attemptId : String) : StreamingProcessor :=
  match get processor.inFlightCancels requestId with
  | none => processor
  | some attempts =>
    let remaining := pop attempts attemptId
    { processor with
      inFlightCancels := if remaining.isEmpty
        then pop processor.inFlightCancels requestId
        else set processor.inFlightCancels requestId remaining }

/-- Make room for a tombstone: sweep the expired ones, then evict the oldest. -/
def sweepTombstones (tombstones : Dict String ℕ) (now : ℕ) : Dict String ℕ :=
  if tombstones.length ≥ cancelTombstoneMax then
    let live := tombstones.filter fun entry => now < entry.2
    live.drop (live.length + 1 - cancelTombstoneMax)
  else tombstones

variable (now : ℕ) (requestId : String)

def addTombstone : StreamingProcessor :=
  { processor with
    cancelTombstones :=
      set (pop (sweepTombstones processor.cancelTombstones now) requestId)
        requestId (now + cancelTombstoneTtl) }

/-- Whether an attempt of the request is registered. -/
def hasAttempt : Bool :=
  match get processor.inFlightCancels requestId with
  | none => false
  | some attempts => !attempts.isEmpty

def signalCancel : StreamingProcessor :=
  if processor.hasAttempt requestId then
    { processor with
      inFlightCancels := set processor.inFlightCancels requestId (mapValues (fun _ => true)
          ((get processor.inFlightCancels requestId).getD [])) }
  else processor.addTombstone now requestId

/-- The processor without the tombstone, and whether there was a live one. -/
def checkAndConsumeTombstone : StreamingProcessor × Bool :=
  ({ processor with
    cancelTombstones := pop processor.cancelTombstones requestId },
  match get processor.cancelTombstones requestId with
  | none => false
  | some deadline => now < deadline)

/-- The start of `_process_inner`: the attempt registers its event and then looks
for a tombstone, with no point in between at which a cancel could be handled. -/
def beginAttempt (requestId attemptId : String) : StreamingProcessor × Bool :=
  (processor.registerCancel requestId attemptId).checkAndConsumeTombstone now requestId

end

end StreamingProcessor

/-! ## Events -/

/-- The cancel event of an attempt. -/
def eventOf (processor : StreamingProcessor) (requestId attemptId : String) : Option Bool :=
  (get processor.inFlightCancels requestId).bind (get · attemptId)

section Events

variable (processor : StreamingProcessor) (now : ℕ)
  (requestId attemptId otherRequest otherAttempt : String)

theorem eventOf_registerCancel : eventOf (processor.registerCancel requestId attemptId) otherRequest
        otherAttempt =
      if requestId = otherRequest ∧ attemptId = otherAttempt then some false
      else eventOf processor otherRequest otherAttempt := by
  unfold eventOf StreamingProcessor.registerCancel
  rw [get_set]
  by_cases hrequest : requestId = otherRequest
  · subst hrequest
    simp only [if_true, Option.bind_some, get_set, true_and]
    cases get processor.inFlightCancels requestId with
    | none => rfl
    | some => rfl
  · simp only [hrequest, false_and, if_false]

theorem eventOf_unregisterCancel :
    eventOf (processor.unregisterCancel requestId attemptId) otherRequest otherAttempt =
      if requestId = otherRequest ∧ attemptId = otherAttempt then none
      else eventOf processor otherRequest otherAttempt := by
  unfold eventOf StreamingProcessor.unregisterCancel
  cases hattempts : get processor.inFlightCancels requestId with
  | none =>
    simp only []
    split
    · rename_i hsame
      rw [← hsame.1, hattempts]
      rfl
    · rfl
  | some attempts =>
    simp only []
    by_cases hrequest : requestId = otherRequest
    · subst hrequest
      have hpopped : (get (if (pop attempts attemptId).isEmpty
          then pop processor.inFlightCancels requestId
          else set processor.inFlightCancels requestId
            (pop attempts attemptId)) requestId).bind (get · otherAttempt) =
          get (pop attempts attemptId) otherAttempt := by
        split
        · rename_i hempty
          rw [get_pop, if_pos rfl, List.isEmpty_iff.1 hempty]
          rfl
        · rw [get_set, if_pos rfl]
          rfl
      rw [hpopped, get_pop, hattempts]
      simp only [true_and]
      rfl
    · simp only [hrequest, false_and, if_false]
      split
      · rw [get_pop, if_neg hrequest]
      · rw [get_set, if_neg hrequest]

/-- A cancel sets the events of its request and leaves the others alone. -/
theorem eventOf_signalCancel :
    eventOf (processor.signalCancel now requestId) otherRequest otherAttempt =
      if requestId = otherRequest
      then (eventOf processor otherRequest otherAttempt).map fun _ => true
      else eventOf processor otherRequest otherAttempt := by
  unfold eventOf StreamingProcessor.signalCancel
  split
  · rw [get_set]
    by_cases hrequest : requestId = otherRequest
    · subst hrequest
      simp only [if_true, Option.bind_some, get_mapValues]
      cases get processor.inFlightCancels requestId with
      | none => rfl
      | some => rfl
    · simp only [if_neg hrequest]
  · rename_i hnone
    by_cases hrequest : requestId = otherRequest
    · subst hrequest
      simp only [if_true, StreamingProcessor.addTombstone]
      unfold StreamingProcessor.hasAttempt at hnone
      cases hattempts : get processor.inFlightCancels requestId with
      | none => rfl
      | some =>
        simp only [hattempts, Bool.not_eq_true, Bool.not_eq_false', List.isEmpty_iff] at hnone
        rw [hnone]
        rfl
    · simp only [if_neg hrequest, StreamingProcessor.addTombstone]

theorem eventOf_beginAttempt :
    eventOf (processor.beginAttempt now requestId attemptId).1 otherRequest otherAttempt =
      if requestId = otherRequest ∧ attemptId = otherAttempt then some false
      else eventOf processor otherRequest otherAttempt :=
  eventOf_registerCancel processor requestId attemptId otherRequest otherAttempt

end Events

/-! ## Tombstones -/

/-- What a worker is told: a cancel, and whether it found an attempt, or a work
item. -/
inductive Heard where
  | cancel (requestId : String) (time : ℕ) (found : Bool)
  | started (requestId : String)
  deriving DecidableEq

/-- The time of the last cancel of a request that found no attempt, unless one
was started since.  The log has the latest entry first. -/
def unmet : List Heard → String → Option ℕ
  | [], _ => none
  | .cancel cancelled time found :: earlier, requestId =>
    if cancelled = requestId ∧ found = false then some time
    else unmet earlier requestId
  | .started started :: earlier, requestId =>
    if started = requestId then none else unmet earlier requestId

/-- Every tombstone stands for an unmet cancel. -/
def Explained (heard : List Heard) (processor : StreamingProcessor) : Prop :=
  ∀ requestId deadline, (requestId, deadline) ∈ processor.cancelTombstones →
    ∃ time, unmet heard requestId = some time ∧ deadline = time + cancelTombstoneTtl

section Explained

theorem mem_of_mem_sweepTombstones
    (hentry : entry ∈ StreamingProcessor.sweepTombstones tombstones now) :
    entry ∈ tombstones := by
  unfold StreamingProcessor.sweepTombstones at hentry
  split at hentry
  · exact List.mem_of_mem_filter (List.mem_of_mem_drop hentry)
  · exact hentry

variable (hexplained : Explained heard processor)
include hexplained

theorem Explained.signalCancel (now : ℕ) (requestId : String) :
    Explained (.cancel requestId now (processor.hasAttempt requestId) :: heard)
      (processor.signalCancel now requestId) := by
  intro other deadline hmem
  unfold StreamingProcessor.signalCancel at hmem
  split at hmem
  · rename_i hfound
    obtain ⟨time, hunmet, hdeadline⟩ := hexplained other deadline hmem
    exact ⟨time, by simp [unmet, hfound, hunmet], hdeadline⟩
  · rename_i hnone
    rcases mem_set hmem with hnew | hold
    · cases hnew
      exact ⟨now, by simp [unmet, hnone], rfl⟩
    · obtain ⟨hswept, hother⟩ := mem_pop.1 hold
      obtain ⟨time, hunmet, hdeadline⟩ :=
        hexplained other deadline (mem_of_mem_sweepTombstones hswept)
      refine ⟨time, ?_, hdeadline⟩
      rw [unmet, if_neg (fun hsame => hother hsame.1.symm), hunmet]

theorem Explained.beginAttempt (now : ℕ) (requestId attemptId : String) :
    Explained (.started requestId :: heard) (processor.beginAttempt now requestId attemptId).1 := by
  intro other deadline hmem
  obtain ⟨hold, hother⟩ := mem_pop.1 hmem
  obtain ⟨time, hunmet, hdeadline⟩ := hexplained other deadline hold
  refine ⟨time, ?_, hdeadline⟩
  rw [unmet, if_neg (Ne.symm hother), hunmet]

theorem Explained.unregisterCancel (requestId attemptId : String) :
    Explained heard (processor.unregisterCancel requestId attemptId) := by
  intro other deadline hmem
  unfold StreamingProcessor.unregisterCancel at hmem
  split at hmem
  · exact hexplained other deadline hmem
  · exact hexplained other deadline hmem

/-- An attempt is refused only because of an unmet cancel that is not too old. -/
theorem Explained.refused (hrefused : (processor.beginAttempt now requestId attemptId).2 = true) :
    ∃ time, unmet heard requestId = some time ∧ now < time + cancelTombstoneTtl := by
  unfold StreamingProcessor.beginAttempt StreamingProcessor.checkAndConsumeTombstone at hrefused
  split at hrefused
  · cases hrefused
  · rename_i deadline hdeadline
    obtain ⟨time, hunmet, hsum⟩ :=
      hexplained requestId deadline (mem_of_get hdeadline)
    exact ⟨time, hunmet, hsum ▸ of_decide_eq_true hrefused⟩

end Explained

end SieCluster.CancelRegistry
