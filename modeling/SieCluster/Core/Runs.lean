import Mathlib

/-!
# Runs of partial transition functions

A component is given by a step function that may refuse an event.  A run feeds
a finite list of events to it, one after the other, and is defined only when
every event is enabled at the moment it is taken.  The rules below carry a
property of single steps to whole runs; the `Guarded` form adds a condition
that every step of the run has to meet in the state in which it is taken.
-/

namespace SieCluster.Runs

variable {State Event : Type*}

/-- Feed a list of events to a partial step function. -/
def run (step : State → Event → Option State) : State → List Event → Option State
  | state, [] => some state
  | state, event :: events =>
    (step state event).bind fun next => run step next events

section

variable (step : State → Event → Option State) (state : State)

@[simp]
theorem run_nil : run step state [] = some state := rfl

theorem run_cons_eq_some (event : Event) (events : List Event) (final : State) :
    run step state (event :: events) = some final ↔ ∃ next, step state event = some next ∧
        run step next events = some final := by
  simp [run, Option.bind_eq_some_iff]

theorem run_append (first second : List Event) : run step state (first ++ second) =
      (run step state first).bind fun middle => run step middle second := by
  induction first generalizing state with
  | nil => simp
  | cons event _ ih =>
    simp only [List.cons_append, run]
    cases step state event with
    | none => rfl
    | some next => simpa using ih next

end

/-- Every event of the run meets `condition` in the state it is taken in. -/
def Guarded (step : State → Event → Option State)
    (condition : State → Event → Prop) : State → List Event → Prop
  | _, [] => True
  | state, event :: events =>
    condition state event ∧
      ∀ next, step state event = some next → Guarded step condition next events

instance decidableGuarded (step : State → Event → Option State) (condition : State → Event → Prop)
    [∀ state event, Decidable (condition state event)] :
    ∀ state events, Decidable (Guarded step condition state events)
  | _, [] => isTrue trivial
  | state, event :: events =>
    match hstep : step state event with
    | none => decidable_of_iff (condition state event) (by simp [Guarded, hstep])
    | some next =>
      have := decidableGuarded step condition next events
      decidable_of_iff (condition state event ∧ Guarded step condition next events)
        (by simp [Guarded, hstep])

variable (invariant : State → Prop)

/-- A property kept by every step that meets `condition` holds in every state
that a guarded run reaches. -/
theorem guarded_invariant (hstep : ∀ state event next, invariant state → condition state event →
      step state event = some next → invariant next) (hstart : invariant state)
    (hguarded : Guarded step condition state events) (hrun : run step state events = some final) :
    invariant final := by
  induction events generalizing state with
  | nil =>
    simp only [run_nil, Option.some.injEq] at hrun
    exact hrun ▸ hstart
  | cons event _ ih =>
    obtain ⟨next, hnext, hrest⟩ := (run_cons_eq_some ..).1 hrun
    exact ih (hstep state event next hstart hguarded.1 hnext) (hguarded.2 next hnext) hrest

theorem guarded_of_forall (step : State → Event → Option State) {condition : Event → Prop}
    (hevents : ∀ event ∈ events, condition event) (state : State) :
    Guarded step (fun _ event => condition event) state events := by
  induction events generalizing state with
  | nil => trivial
  | cons event _ ih =>
    exact ⟨hevents event (by simp), fun next _ =>
      ih (fun other hother => hevents other (by simp [hother])) next⟩

/-- A property kept by every step holds in every state a run reaches. -/
theorem run_invariant (hstep : ∀ state event next, invariant state →
      step state event = some next → invariant next) {final : State} (hstart : invariant state)
    (hrun : run step state events = some final) : invariant final :=
  guarded_invariant invariant (fun state event next hstate _ => hstep state event next hstate)
    hstart (guarded_of_forall step (fun _ _ => trivial) state) hrun

theorem guarded_append :
    Guarded step condition state (first ++ second) ↔ Guarded step condition state first ∧
        ∀ middle, run step state first = some middle → Guarded step condition middle second := by
  induction first generalizing state with
  | nil => simp [Guarded]
  | cons _ _ ih =>
    simp only [List.cons_append, Guarded, ih, run_cons_eq_some]
    constructor
    · rintro ⟨hevent, hrest⟩
      refine ⟨⟨hevent, fun next hnext => (hrest next hnext).1⟩, ?_⟩
      rintro middle ⟨next, hnext, hmiddle⟩
      exact (hrest next hnext).2 middle hmiddle
    · rintro ⟨⟨hevent, hrest⟩, hsecond⟩
      exact ⟨hevent, fun next hnext => ⟨hrest next hnext, fun middle hmiddle =>
        hsecond middle ⟨next, hnext, hmiddle⟩⟩⟩

/-- Two step functions that agree through `view` on every step that meets `condition` have
the same guarded runs through `view`. -/
theorem guarded_run_map {Viewed : Type*}
    {viewedStep : Viewed → Event → Option Viewed} (view : State → Viewed) (invariant : State → Prop)
    (hkept : ∀ state event next, invariant state → step state event = some next → invariant next)
    (hagree : ∀ state event, invariant state → condition state event →
      viewedStep (view state) event = (step state event).map view) (hstart : invariant state)
    (hguarded : Guarded step condition state events) :
    run viewedStep (view state) events = (run step state events).map view := by
  induction events generalizing state with
  | nil => rfl
  | cons event _ ih =>
    simp only [run, hagree state event hstart hguarded.1]
    cases hstep : step state event with
    | none => rfl
    | some next =>
      exact ih (hkept state event next hstart hstep) (hguarded.2 next hstep)

end SieCluster.Runs
