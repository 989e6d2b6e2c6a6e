import SieCluster.Server.OomOutcomes

/-!
# Isolating the requests with invalid input

A group with an offending request is halved by request and both halves are
dispatched again, so an offending request costs at most two dispatches on each
level of the halving.  Only futures and the number of attempts are followed
here; that the other requests get their slices is part of how a run settles
its group.
-/

namespace SieCluster.InputIsolation

open OomRecovery OomOutcomes Finset

variable {Request Output Slice : Type} [DecidableEq Request]

/-- The requests of the group that supplied invalid input. -/
def offenders (offending : Request → Bool) (group : List (Entry Request)) : Finset Request :=
  (requestIds group).toFinset.filter fun request => offending request

/-- A dispatch is rejected when it contains an item of an offending request, and otherwise
it returns an output with a slice for each item. -/
structure RejectsOffending (surroundings : Surroundings Request Output Slice)
    (offending : Request → Bool) : Prop where
  rejects : ∀ attempts group, (offenders offending group).Nonempty →
    ∃ message, surroundings.dispatch attempts group = .error (.invalidInput message)
  accepts : ∀ attempts group, offenders offending group = ∅ →
    ∃ output, surroundings.dispatch attempts group = .ok output ∧
      ∀ position < group.length, ∃ slice, surroundings.sliceOutput output position = .ok slice

/-- The offending requests that were open carry the error, every other future is as it
was, and each offending request costs two dispatches for each level of the halving. -/
structure Isolated (offending : Request → Bool) (group : List (Entry Request))
    (start final : State Request Output Slice) : Prop where
  rejected : ∀ request ∈ offenders offending group, start.futures request = [] →
    ∃ message, final.futures request = [.raised (.invalidInput message)]
  kept : ∀ request, request ∉ offenders offending group ∨ start.futures request ≠ [] →
    final.futures request = start.futures request
  cost : final.attempts.length ≤ start.attempts.length +
    (1 + 2 * (offenders offending group).card * Nat.clog 2 (distinctCount group))

variable {offending : Request → Bool} {group : List (Entry Request)}

theorem mem_offenders :
    request ∈ offenders offending group ↔ request ∈ requestIds group ∧ offending request := by
  simp [offenders]

/-- Cutting a group by request cuts its offenders. -/
theorem offenders_filter (keep : Request → Prop) [DecidablePred keep] :
    offenders offending (group.filter fun entry => keep entry.request) =
      (offenders offending group).filter keep := by
  ext request
  simp only [mem_filter, mem_offenders, mem_requestIds, List.mem_filter, decide_eq_true_eq]
  constructor
  · rintro ⟨⟨entry, ⟨hentry, hkeep⟩, rfl⟩, hoffending⟩
    exact ⟨⟨⟨entry, hentry, rfl⟩, hoffending⟩, hkeep⟩
  · rintro ⟨⟨⟨entry, hentry, rfl⟩, hoffending⟩, hkeep⟩
    exact ⟨⟨entry, ⟨hentry, hkeep⟩, rfl⟩, hoffending⟩

theorem offenders_leftGroup : offenders offending (leftGroup group) =
    (offenders offending group).filter (· ∈ leftIds group) :=
  offenders_filter (· ∈ leftIds group)

theorem offenders_rightGroup : offenders offending (rightGroup group) =
    (offenders offending group).filter (· ∉ leftIds group) :=
  offenders_filter (· ∉ leftIds group)

/-! ## One attempt -/

variable {surroundings : Surroundings Request Output Slice}

theorem fanOut_eq_none (group : List (Entry Request)) :
    ∀ (position : ℕ) (state : State Request Output Slice), (∀ offset < group.length, ∃ slice,
        surroundings.sliceOutput output (position + offset) = .ok slice) →
      (fanOut surroundings output position group state).2 = none := by
  induction group with
  | nil => exact fun _ _ _ => rfl
  | cons _ _ ih =>
    intro position state hslices
    obtain ⟨slice, hslice⟩ := hslices 0 (Nat.succ_pos _)
    rw [Nat.add_zero] at hslice
    simp only [fanOut, hslice]
    apply ih
    intro offset hoffset
    rw [Nat.add_assoc, Nat.add_comm 1 offset]
    exact hslices (offset + 1) (Nat.succ_lt_succ hoffset)

variable (hrejects : RejectsOffending surroundings offending) (start : State Request Output Slice)
include hrejects

variable (group) in
/-- An attempt is one dispatch and touches no future. -/
theorem dispatchAndFanOut_isolated :
    (dispatchAndFanOut surroundings group start).1.futures = start.futures ∧
    (dispatchAndFanOut surroundings group start).1.attempts.length = start.attempts.length + 1 ∧
    if offenders offending group = ∅ then (dispatchAndFanOut surroundings group start).2 = none
    else ∃ message,
      (dispatchAndFanOut surroundings group start).2 = some (.invalidInput message) := by
  by_cases hnone : offenders offending group = ∅
  · obtain ⟨output, hdispatch, hslices⟩ := hrejects.accepts start.attempts group hnone
    obtain ⟨hattempts, hfutures⟩ := fanOut_frame surroundings output group 0 start
    have hfanned : (fanOut surroundings output 0 group start).2 = none :=
      fanOut_eq_none group 0 start (by simpa using hslices)
    simp only [dispatchAndFanOut, hdispatch, if_pos hnone]
    exact ⟨hfutures, by simp [recordAttempt, hattempts], hfanned⟩
  · obtain ⟨message, hdispatch⟩ :=
      hrejects.rejects start.attempts group (nonempty_iff_ne_empty.2 hnone)
    simp only [dispatchAndFanOut, hdispatch, if_neg hnone]
    exact ⟨rfl, by simp [recordAttempt], message, rfl⟩

omit hrejects

/-! ## The halving -/

section

variable {start} {next : State Request Output Slice}
  (hsome : (offenders offending group).Nonempty) (hfutures : next.futures = start.futures)
  (hlength : next.attempts.length = start.attempts.length + 1)
include hsome hfutures hlength

/-- A group of one request is the offender itself. -/
theorem isolated_failGroup (hone : distinctCount group ≤ 1) (message : String) :
    Isolated offending group start (failGroup group (.raised (.invalidInput message)) next) := by
  have hfinal := setException_futures (.raised (.invalidInput message)) (requestIds group) next
  rw [hfutures] at hfinal
  have honly : ∀ request ∈ requestIds group, request ∈ offenders offending group := by
    intro request hrequest
    obtain ⟨offender, hoffender⟩ := hsome
    rwa [card_le_one.1 ((List.toFinset_card_le _).trans hone) request
      (List.mem_toFinset.2 hrequest) offender (mem_filter.1 hoffender).1]
  refine ⟨?_, ?_, ?_⟩
  · intro request hrequest hopen
    exact ⟨message, (hfinal request).trans (if_pos ⟨(mem_offenders.1 hrequest).1, hopen⟩)⟩
  · intro request hother
    refine (hfinal request).trans (if_neg ?_)
    rintro ⟨hrequest, hopen⟩
    exact hother.elim (fun hnot => hnot (honly request hrequest)) fun hdone => hdone hopen
  · rw [failGroup, (setException_frame _ _ _).1, hlength]
    omega

/-- Both halves together cost two dispatches more than one level less. -/
theorem isolated_halves (hseveral : ¬distinctCount group ≤ 1)
    (hleft : Isolated offending (leftGroup group) next middle)
    (hright : Isolated offending (rightGroup group) middle final) :
    Isolated offending group start final := by
  obtain ⟨hleftRejected, hleftKept, hleftCost⟩ := hleft
  obtain ⟨hrightRejected, hrightKept, hrightCost⟩ := hright
  rw [hfutures] at hleftRejected hleftKept
  rw [offenders_leftGroup] at hleftRejected hleftKept hleftCost
  rw [offenders_rightGroup] at hrightRejected hrightKept hrightCost
  refine ⟨?_, ?_, ?_⟩
  · intro request hrequest hopen
    by_cases hid : request ∈ leftIds group
    · obtain ⟨message, hmessage⟩ :=
        hleftRejected request (mem_filter.2 ⟨hrequest, hid⟩) hopen
      refine ⟨message, ?_⟩
      rw [hrightKept request (.inr (by simp [hmessage])), hmessage]
    · have hmiddle := hleftKept request (.inl fun hmem => hid (mem_filter.1 hmem).2)
      exact hrightRejected request (mem_filter.2 ⟨hrequest, hid⟩) (hmiddle.trans hopen)
  · intro request hother
    have hmiddle := hleftKept request (hother.imp_left fun hnot hmem => hnot (mem_filter.1 hmem).1)
    rw [← hmiddle] at hother ⊢
    exact hrightKept request (hother.imp_left fun hnot hmem => hnot (mem_filter.1 hmem).1)
  · have hcard := hsome.card_pos
    have hlevels : Nat.clog 2 (distinctCount group) =
        Nat.clog 2 ((distinctCount group + 1) / 2) + 1 :=
      Nat.clog_of_two_le Nat.one_lt_two (by omega)
    have hleftLevels := Nat.clog_mono_right 2
      ((distinctCount_leftGroup_le group).trans (Nat.div_le_div_right (Nat.le_add_right _ 1)))
    have hrightLevels := Nat.clog_mono_right 2 ((distinctCount_rightGroup_le group).trans
      (by omega : _ ≤ (distinctCount group + 1) / 2))
    rw [← (offenders offending group).card_filter_add_card_filter_not (· ∈ leftIds group)]
      at hcard ⊢
    -- Each half has one level less, and one offender at least pays for both dispatches.
    have hleftBound := Nat.mul_le_mul_left
      (2 * ((offenders offending group).filter (· ∈ leftIds group)).card) hleftLevels
    have hrightBound := Nat.mul_le_mul_left
      (2 * ((offenders offending group).filter (· ∉ leftIds group)).card) hrightLevels
    rw [hlevels, Nat.mul_succ, Nat.mul_add 2, Nat.add_mul]
    omega

end

/-! ## Isolation is exact and cheap -/

include hrejects in
theorem isolated_run (config : OomRecoveryConfig) (group : List (Entry Request))
    (start : State Request Output Slice) :
    Isolated offending group start (run surroundings config group start) := by
  induction hcount : distinctCount group using Nat.strong_induction_on generalizing group start with
  | h _ ih =>
    subst hcount
    obtain ⟨hfutures, hlength, hfailure⟩ := dispatchAndFanOut_isolated group hrejects start
    rcases hattempt : dispatchAndFanOut surroundings group start with ⟨next, failure⟩
    rw [hattempt] at hfutures hlength hfailure
    by_cases hnone : offenders offending group = ∅
    · obtain rfl : failure = none := by simpa only [if_pos hnone] using hfailure
      simp only [run, runWith, hattempt, handleFailure]
      refine ⟨?_, fun request _ => congrFun hfutures request, hlength.le.trans (by omega)⟩
      simp [hnone]
    · obtain ⟨message, rfl⟩ : ∃ message, failure = some (.invalidInput message) := by
        simpa only [if_neg hnone] using hfailure
      have hsome := nonempty_iff_ne_empty.2 hnone
      simp only [run, runWith, hattempt, handleFailure]
      rw [isolateInvalidInput_eq]
      by_cases hone : distinctCount group ≤ 1
      · rw [if_pos hone]
        exact isolated_failGroup hsome hfutures hlength hone message
      · rw [if_neg hone]
        have hleft := distinctCount_leftGroup_le group
        have hright := distinctCount_rightGroup_le group
        exact isolated_halves hsome hfutures hlength hone
          (ih _ (by omega) (leftGroup group) next rfl) (ih _ (by omega) (rightGroup group) _ rfl)

/-- However the recovery is configured, exactly the open offending requests fail, with the
error of an invalid input, every other open request has a slice for each of its items, and
the dispatches are logarithmic in the number of requests for each offender. -/
theorem run_isolates_exactly (surroundings : Surroundings Request Output Slice)
    (offending : Request → Bool) (hrejects : RejectsOffending surroundings offending)
    (config : OomRecoveryConfig) (group : ConfigGroup Request)
    (start : State Request Output Slice) :
    Isolated offending group.entries start (run surroundings config group.entries start) ∧
    ∀ entry ∈ group.entries, offending entry.request = false → start.futures entry.request = [] →
      Sliced surroundings
        ((run surroundings config group.entries start).attempts.drop start.attempts.length)
        (run surroundings config group.entries start) entry := by
  have hisolated := isolated_run hrejects config group.entries start
  refine ⟨hisolated, ?_⟩
  intro entry hentry hharmless hopen
  obtain ⟨attempts, hsettles⟩ := runWith_settles config
    (isolateInvalidInput_settles (distinctCount group.entries)) group.nodup le_rfl start
  have hkept := hisolated.kept entry.request
    (.inl fun hmem => by simp [mem_offenders, hharmless] at hmem)
  rw [run, hsettles.recorded, List.drop_left]
  exact (hsettles.settled entry hentry).resolve_left fun hdone => hdone (hkept.trans hopen)

/-- An adapter that rejects the input of request 1. -/
def pickyAdapter : Surroundings ℕ Unit ℕ where
  dispatch _ group :=
    if offenders (· == 1) group = ∅ then .ok () else .error (.invalidInput "empty text")
  evicts _ := false
  sliceOutput _ position := .ok position

theorem run_isolates_exactly_picky : (offenders (· == 1) crampedGroup.entries).card = 1 ∧
    Isolated (· == 1) crampedGroup.entries freshState
      (run pickyAdapter crampedConfig crampedGroup.entries freshState) :=
  ⟨by decide, (run_isolates_exactly pickyAdapter (· == 1)
    ⟨fun _ _ hsome => ⟨_, if_neg hsome.ne_empty⟩,
      fun _ _ hnone => ⟨(), if_pos hnone, fun position _ => ⟨position, rfl⟩⟩⟩
    crampedConfig crampedGroup freshState).1⟩

end SieCluster.InputIsolation
