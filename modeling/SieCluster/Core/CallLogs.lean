import Mathlib

/-!
# Programs that call a fallible environment

A program makes calls, one after the other, to an environment that accepts or
refuses each of them as it likes, knowing every call made before.  What a program
does is recorded as the list of its calls with the answers they got.  A
specification speaks of the value a program returns and of the calls it makes,
and holds against every environment.
-/

namespace SieCluster.CallLogs

variable {Call Value Result : Type}

/-- The calls made, each with whether it was accepted. -/
abbrev Log (Call : Type) := List (Call × Bool)

/-- How each call is answered, given all calls before it. -/
abbrev Environment (Call : Type) := Log Call → Call → Bool

/-- A value and the calls made for it, from the calls made before. -/
def Program (Call Value : Type) : Type :=
  Environment Call → Log Call → Value × Log Call

instance : Monad (Program Call) where
  pure value := fun _ _ => (value, [])
  bind program next := fun environment before =>
    let first := program environment before
    let second := next first.1 environment (before ++ first.2)
    (second.1, first.2 ++ second.2)

def perform (call : Call) : Program Call Bool :=
  fun environment before =>
    (environment before call, [(call, environment before call)])

/-- The calls a program makes against an environment, from nothing called before. -/
def Program.calls (program : Program Call Value) (environment : Environment Call) : Log Call :=
  (program environment []).2

/-- Whatever the environment answers, value and calls meet `post`. -/
def Ensures (program : Program Call Value) (post : Value → Log Call → Prop) : Prop :=
  ∀ environment before, post (program environment before).1 (program environment before).2

variable
  {goal : Result → Log Call → Prop}

theorem ensures_pure (value : Value) (hpost : post value []) :
    Ensures (pure value : Program Call Value) post :=
  fun _ _ => hpost

theorem ensures_perform (call : Call) :
    Ensures (perform call) fun accepted made => made = [(call, accepted)] :=
  fun _ _ => rfl

theorem Ensures.mono (hprogram : Ensures program post)
    (hweaker : ∀ value made, post value made → weaker value made) : Ensures program weaker :=
  fun environment before => hweaker _ _ (hprogram environment before)

theorem Ensures.bind (hprogram : Ensures program post) (hnext : ∀ value made, post value made →
      Ensures (next value) fun result rest => goal result (made ++ rest)) :
    Ensures (program >>= next) goal :=
  fun environment before =>
    hnext _ _ (hprogram environment before) environment _

/-- A call followed by what its answer decides. -/
theorem ensures_perform_bind (hnext : ∀ accepted, Ensures (next accepted) fun result rest =>
      goal result ((call, accepted) :: rest)) : Ensures (perform call >>= next) goal := by
  refine (ensures_perform call).bind ?_
  rintro accepted made rfl
  exact hnext accepted

/-- An entry that neither the first nor the last of three parts has, seen in the
whole, lies in the middle part. -/
theorem mem_middle {Entry : Type} {before own after earlier later : List Entry}
    {entry : Entry} (hbefore : entry ∉ before) (hafter : entry ∉ after)
    (hparts : before ++ (own ++ after) = earlier ++ entry :: later) :
    ∃ first rest, own = first ++ entry :: rest ∧ earlier = before ++ first := by
  induction before generalizing earlier with
  | nil =>
    rw [List.nil_append] at hparts
    rcases List.append_eq_append_iff.1 hparts with
      ⟨gap, -, rfl⟩ | ⟨rest, hown, hback⟩
    · exact absurd (by simp) hafter
    · cases rest with
      | nil =>
        rw [List.nil_append] at hback
        exact absurd (by simp [← hback]) hafter
      | cons _ rest =>
        obtain ⟨rfl, -⟩ := List.cons.inj hback
        exact ⟨earlier, rest, hown, rfl⟩
  | cons _ _ ih =>
    cases earlier with
    | nil => exact absurd (by simp [(List.cons.inj hparts).1]) hbefore
    | cons =>
      obtain ⟨rfl, htail⟩ := List.cons.inj hparts
      obtain ⟨first, rest, hown, rfl⟩ :=
        ih (fun hmem => hbefore (by simp [hmem])) htail
      exact ⟨first, rest, hown, rfl⟩

end SieCluster.CallLogs
