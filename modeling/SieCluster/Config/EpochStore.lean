import SieCluster.Core.Runs

/-!
# The epoch of the config store

The epoch is one small file.  Incrementing it reads the file, adds one and
writes the result back, over a backend that may fail at every call.  A failed
write is raised to the caller, but some failed reads come back as the epoch 0,
as if the file did not exist.
-/

namespace SieCluster.EpochStore

open List

/-- What the epoch file holds.  The store itself only ever writes a number. -/
inductive Content where
  | absent
  | blank
  | malformed
  | number (value : ℕ)
  deriving DecidableEq

def storedEpoch : Content → ℕ
  | .number value => value
  | _ => 0

/-- How the backend answers the existence check and the read of the epoch file. -/
inductive ReadOutcome where
  | answered
  /-- The existence check failed and reports that there is no file. -/
  | reportedAbsent
  /-- An `OSError`, or bytes that are not text. -/
  | readError
  /-- Any other exception. -/
  | raised
  deriving DecidableEq

inductive WriteOutcome where
  | written
  | raised
  /-- The write reached the backend, and its answer was lost. -/
  | raisedAfterWriting
  deriving DecidableEq

inductive BackendError where
  | failed
  deriving DecidableEq

def readEpoch (content : Content) : ReadOutcome → Except BackendError ℕ
  | .answered => .ok (storedEpoch content)
  | .reportedAbsent => .ok 0
  | .readError => .ok 0
  | .raised => .error .failed

/-- The file after the increment, and what the call returns. -/
def incrementEpoch (content : Content) (read : ReadOutcome) (write : WriteOutcome) :
    Content × Except BackendError ℕ :=
  match readEpoch content read with
  | .error failure => (content, .error failure)
  | .ok current =>
    match write with
    | .written => (.number (current + 1), .ok (current + 1))
    | .raised => (content, .error .failed)
    | .raisedAfterWriting => (.number (current + 1), .error .failed)

/-- An epoch somebody has seen: returned by an increment, or read for a response. -/
inductive Issue where
  | incremented (epoch : ℕ)
  | exported (epoch : ℕ)
  deriving DecidableEq

def Issue.epoch : Issue → ℕ
  | .incremented epoch => epoch
  | .exported epoch => epoch

structure State where
  content : Content
  issued : List Issue
  deriving DecidableEq

inductive Event where
  | increment (read : ReadOutcome) (write : WriteOutcome)
  | exportSnapshot (read : ReadOutcome)
  deriving DecidableEq

def issue (make : ℕ → Issue) (issued : List Issue) : Except BackendError ℕ → List Issue
  | .ok epoch => issued ++ [make epoch]
  | .error _ => issued

def step (state : State) : Event → Option State
  | .increment read write =>
    let result := incrementEpoch state.content read write
    some ⟨result.1, issue .incremented state.issued result.2⟩
  | .exportSnapshot read =>
    some ⟨state.content, issue .exported state.issued (readEpoch state.content read)⟩

/-- A read that fails without an exception. -/
def ReadOutcome.isMasked : ReadOutcome → Bool
  | .reportedAbsent => true
  | .readError => true
  | _ => false

/-- No increment starts from a masked read of a positive epoch. -/
def Sighted (state : State) : Event → Prop
  | .increment read _ => read.isMasked = true → storedEpoch state.content = 0
  | .exportSnapshot _ => True

instance (state : State) (event : Event) : Decidable (Sighted state event) :=
  match event with
  | .increment _ _ => inferInstanceAs (Decidable (_ → _))
  | .exportSnapshot _ => inferInstanceAs (Decidable True)

/-- Every epoch an increment returned is above all that were seen before it. -/
def Increasing (issued : List Issue) : Prop :=
  ∀ before epoch after, issued = before ++ .incremented epoch :: after →
    ∀ earlier ∈ before, earlier.epoch < epoch

/-- The stored epoch bounds every epoch seen. -/
structure Bounded (state : State) : Prop where
  le : ∀ seen ∈ state.issued, seen.epoch ≤ storedEpoch state.content
  increasing : Increasing state.issued

/-! ## One call -/

variable {read : ReadOutcome}

theorem readEpoch_le (hread : readEpoch content read = .ok epoch) :
    epoch ≤ storedEpoch content := by
  cases read with
  | answered => exact (Except.ok.inj hread).ge
  | raised => cases hread
  | _ => exact (Except.ok.inj hread).symm.le.trans (Nat.zero_le _)

/-- A read that is not masked, or of an epoch that is 0, is exact. -/
theorem readEpoch_eq (hsighted : read.isMasked = true → storedEpoch content = 0)
    (hread : readEpoch content read = .ok epoch) : epoch = storedEpoch content := by
  cases read with
  | answered => exact (Except.ok.inj hread).symm
  | raised => cases hread
  | _ => exact (Except.ok.inj hread).symm.trans (hsighted rfl).symm

/-- What an increment can do: nothing that is seen, or one more with or without an answer. -/
theorem incrementEpoch_cases (write : WriteOutcome)
    (hsighted : read.isMasked = true → storedEpoch content = 0) :
    incrementEpoch content read write = (content, .error .failed) ∨
      incrementEpoch content read write = (.number (storedEpoch content + 1), .error .failed) ∨
      incrementEpoch content read write =
        (.number (storedEpoch content + 1), .ok (storedEpoch content + 1)) := by
  unfold incrementEpoch
  cases hread : readEpoch content read with
  | error failure =>
    cases failure
    exact .inl rfl
  | ok =>
    rw [← readEpoch_eq hsighted hread]
    cases write with
    | written => exact .inr (.inr rfl)
    | raised => exact .inl rfl
    | raisedAfterWriting => exact .inr (.inl rfl)

theorem Increasing.append_exported (hissued : Increasing issued)
    (epoch : ℕ) : Increasing (issued ++ [.exported epoch]) := by
  intro before other after hsplit
  cases after using List.reverseRecOn with
  | nil => simp at hsplit
  | append_singleton after =>
    rw [← cons_append, ← append_assoc] at hsplit
    exact hissued before other after (append_inj_left' hsplit rfl)

theorem Increasing.append_incremented (hissued : Increasing issued)
    (habove : ∀ seen ∈ issued, seen.epoch < epoch) :
    Increasing (issued ++ [.incremented epoch]) := by
  intro before other after hsplit
  cases after using List.reverseRecOn with
  | nil =>
    obtain ⟨rfl, hlast⟩ := append_inj' hsplit rfl
    cases hlast
    exact habove
  | append_singleton after =>
    rw [← cons_append, ← append_assoc] at hsplit
    exact hissued before other after (append_inj_left' hsplit rfl)

theorem step_bounded {state next : State} {event : Event} (hbounded : Bounded state)
    (hsighted : Sighted state event) (hstep : step state event = some next) :
    Bounded next ∧ storedEpoch state.content ≤ storedEpoch next.content := by
  obtain ⟨hle, hincreasing⟩ := hbounded
  cases event with
  | exportSnapshot read =>
    cases hread : readEpoch state.content read with
    | error =>
      simp only [step, hread, issue, Option.some.injEq] at hstep
      subst hstep
      exact ⟨⟨hle, hincreasing⟩, le_rfl⟩
    | ok epoch =>
      simp only [step, hread, issue, Option.some.injEq] at hstep
      subst hstep
      refine ⟨⟨?_, hincreasing.append_exported epoch⟩, le_rfl⟩
      refine forall_mem_append.2 ⟨hle, forall_mem_singleton.2 ?_⟩
      exact readEpoch_le hread
  | increment _ write =>
    have hlater : ∀ seen ∈ state.issued, seen.epoch ≤ storedEpoch state.content + 1 :=
      fun seen hseen => Nat.le_succ_of_le (hle seen hseen)
    rcases incrementEpoch_cases write hsighted with hnothing | hlost | hreturned
    · simp only [step, hnothing, issue, Option.some.injEq] at hstep
      subst hstep
      exact ⟨⟨hle, hincreasing⟩, le_rfl⟩
    · simp only [step, hlost, issue, Option.some.injEq] at hstep
      subst hstep
      exact ⟨⟨hlater, hincreasing⟩, Nat.le_succ _⟩
    · simp only [step, hreturned, issue, Option.some.injEq] at hstep
      subst hstep
      refine ⟨⟨?_, hincreasing.append_incremented fun seen hseen =>
        Nat.lt_succ_of_le (hle seen hseen)⟩, Nat.le_succ _⟩
      refine forall_mem_append.2 ⟨hlater, forall_mem_singleton.2 ?_⟩
      exact le_rfl

/-! ## Whole runs -/

theorem bounded_fresh (content : Content) : Bounded ⟨content, []⟩ where
  le := by simp
  increasing := by
    intro before epoch after hsplit
    simp at hsplit

/-- While no increment starts from a masked read of a positive epoch, the stored epoch
never decreases and each increment that returns is above every epoch seen before. -/
theorem epoch_increasing (content : Content) (events : List Event) (final : State)
    (hguarded : Runs.Guarded step Sighted ⟨content, []⟩ events)
    (hrun : Runs.run step ⟨content, []⟩ events = some final) :
    Increasing final.issued ∧ ∀ first second middle, events = first ++ second →
        Runs.run step ⟨content, []⟩ first = some middle →
          storedEpoch middle.content ≤ storedEpoch final.content := by
  have hbounded : ∀ state event next, Bounded state → Sighted state event →
      step state event = some next → Bounded next :=
    fun state event next hstate hsighted hstep => (step_bounded hstate hsighted hstep).1
  constructor
  · exact (Runs.guarded_invariant Bounded hbounded (bounded_fresh content) hguarded hrun).increasing
  · rintro first second middle rfl hfirst
    obtain ⟨hguardedFirst, hguardedSecond⟩ := Runs.guarded_append.1 hguarded
    have hmiddle := Runs.guarded_invariant Bounded hbounded (bounded_fresh content)
      hguardedFirst hfirst
    rw [Runs.run_append, hfirst] at hrun
    refine (Runs.guarded_invariant
      (fun state => Bounded state ∧ storedEpoch middle.content ≤ storedEpoch state.content)
      ?_ ⟨hmiddle, le_rfl⟩ (hguardedSecond middle hfirst) hrun).2
    rintro state event next ⟨hstate, hle⟩ hsighted hstep
    obtain ⟨hnext, hgrows⟩ := step_bounded hstate hsighted hstep
    exact ⟨hnext, hle.trans hgrows⟩

/-- A failed check before the first increment does no harm, and neither do lost writes. -/
theorem epoch_increasing_lostWrites : ∃ final, Runs.run step ⟨.absent, []⟩
        [.increment .reportedAbsent .written, .exportSnapshot .readError,
          .increment .answered .raisedAfterWriting, .increment .answered .written] = some final ∧
      final.issued = [.incremented 1, .exported 0, .incremented 3] ∧ Increasing final.issued :=
  ⟨⟨.number 3, [.incremented 1, .exported 0, .incremented 3]⟩, rfl, rfl, (epoch_increasing .absent
      [.increment .reportedAbsent .written, .exportSnapshot .readError,
        .increment .answered .raisedAfterWriting, .increment .answered .written]
      ⟨.number 3, [.incremented 1, .exported 0, .incremented 3]⟩ (by decide) rfl).1⟩

/-- One existence check that fails takes the epoch back to 1. -/
theorem maskedRead_resets : ∃ final, Runs.run step ⟨.number 6, []⟩
        [.increment .answered .written, .increment .reportedAbsent .written] = some final ∧
      final.issued = [.incremented 7, .incremented 1] ∧ storedEpoch final.content = 1 ∧
        ¬ Increasing final.issued := by
  refine ⟨⟨.number 1, [.incremented 7, .incremented 1]⟩, rfl, rfl, rfl, ?_⟩
  intro hincreasing
  have hless := hincreasing [.incremented 7] 1 [] rfl (.incremented 7) mem_cons_self
  exact absurd hless (by decide)

end SieCluster.EpochStore
