import Mathlib

/-!
# Programs that stop at the first error

When a program in `Except` succeeds, every step of it did; and what a loop of
such steps computes follows from what each step does.
-/

namespace SieCluster.Fallible

open List

variable {Problem Input State Item : Type} {program : Except Problem Input}
  {inputs : List Input}

theorem bind_eq_ok {next : Input → Except Problem Item} :
    (program >>= next) = .ok result ↔ ∃ value, program = .ok value ∧ next value = .ok result := by
  cases program with
  | error => exact ⟨nofun, nofun⟩
  | ok value => exact ⟨fun hnext => ⟨value, rfl, hnext⟩, fun ⟨_, hvalue, hnext⟩ => by
      cases hvalue
      exact hnext⟩

theorem map_eq_ok :
    program.map convert = .ok result ↔ ∃ value, program = .ok value ∧ convert value = result := by
  cases program with
  | error => simp [Except.map]
  | ok => simp [Except.map]

/-- Stops with the problem unless the condition holds. -/
def ensure (holds : Bool) (problem : Problem) : Except Problem Unit :=
  if holds then .ok () else .error problem

theorem ensure_eq_ok : ensure holds problem = .ok done ↔ holds = true := by
  cases holds with
  | false => exact ⟨nofun, nofun⟩
  | true => exact ⟨fun _ => rfl, fun _ => rfl⟩

theorem mapError_eq_ok {Other : Type*} {program : Except Problem Item} {convert : Problem → Other} :
    program.mapError convert = .ok result ↔ program = .ok result := by
  cases program with
  | error => simp [Except.mapError]
  | ok => simp [Except.mapError]

theorem toOption_eq_some {program : Except Problem Item} :
    program.toOption = some result ↔ program = .ok result := by
  cases program with
  | error => simp [Except.toOption]
  | ok => simp [Except.toOption]

variable {step : Input → Except Problem Item}

theorem mapM_eq_ok : inputs.mapM step = .ok items ↔
      List.Forall₂ (fun input item => step input = .ok item) inputs items := by
  induction inputs generalizing items with
  | nil =>
    rw [mapM_nil]
    exact ⟨fun hok => by cases hok; exact .nil, fun hall => by cases hall; rfl⟩
  | cons _ _ ih =>
    rw [mapM_cons, bind_eq_ok]
    constructor
    · rintro ⟨item, hitem, hrest⟩
      obtain ⟨others, hothers, hlist⟩ := bind_eq_ok.1 hrest
      cases hlist
      exact .cons hitem (ih.1 hothers)
    · rintro (_ | ⟨hitem, hrest⟩)
      exact ⟨_, hitem, bind_eq_ok.2 ⟨_, ih.2 hrest, rfl⟩⟩

theorem mapM_isOk (hstep : ∀ input ∈ inputs, ∃ item, step input = .ok item) :
    ∃ items, inputs.mapM step = .ok items := by
  induction inputs with
  | nil => exact ⟨[], rfl⟩
  | cons input _ ih =>
    obtain ⟨item, hitem⟩ := hstep input mem_cons_self
    obtain ⟨items, hitems⟩ := ih fun other hmem => hstep other (mem_cons_of_mem _ hmem)
    refine ⟨item :: items, ?_⟩
    rw [mapM_cons, bind_eq_ok]
    exact ⟨item, hitem, bind_eq_ok.2 ⟨items, hitems, rfl⟩⟩

theorem ok_of_mapM_eq_ok (hloop : inputs.mapM step = .ok items)
    {input : Input} (hmem : input ∈ inputs) : ∃ item, step input = .ok item := by
  induction inputs generalizing items with
  | nil => exact absurd hmem not_mem_nil
  | cons _ _ ih =>
    rw [mapM_cons] at hloop
    obtain ⟨found, hfound, hloop⟩ := bind_eq_ok.1 hloop
    obtain ⟨others, hothers, -⟩ := bind_eq_ok.1 hloop
    rcases mem_cons.1 hmem with rfl | hmem
    · exact ⟨found, hfound⟩
    · exact ih hothers hmem

theorem mem_of_mapM_eq_ok (hloop : inputs.mapM step = .ok items) {item : Item} :
    item ∈ items ↔ ∃ input ∈ inputs, step input = .ok item := by
  induction inputs generalizing items with
  | nil =>
    cases hloop
    simp
  | cons input _ ih =>
    rw [mapM_cons] at hloop
    obtain ⟨found, hfound, hloop⟩ := bind_eq_ok.1 hloop
    obtain ⟨others, hothers, hloop⟩ := bind_eq_ok.1 hloop
    cases hloop
    rw [mem_cons, ih hothers]
    constructor
    · rintro (rfl | ⟨other, hmem, hitem⟩)
      · exact ⟨input, mem_cons_self, hfound⟩
      · exact ⟨other, mem_cons_of_mem _ hmem, hitem⟩
    · rintro ⟨other, hmem, hitem⟩
      rcases mem_cons.1 hmem with rfl | hmem
      · rw [hfound] at hitem
        cases hitem
        exact .inl rfl
      · exact .inr ⟨other, hmem, hitem⟩

/-- A loop that succeeds on every input with a known result gives the list of these. -/
theorem mapM_eq_ok_map {make : Input → Item} {valid : Input → Prop}
    (hstep : ∀ input ∈ inputs, ∀ item, step input = .ok item ↔ valid input ∧ item = make input) :
    inputs.mapM step = .ok items ↔ (∀ input ∈ inputs, valid input) ∧ items = inputs.map make := by
  rw [mapM_eq_ok]
  induction inputs generalizing items with
  | nil => simp
  | cons input rest ih =>
    have hrest : ∀ {items : List Item},
        List.Forall₂ (fun input item => step input = .ok item) rest items ↔
          (∀ input ∈ rest, valid input) ∧ items = rest.map make :=
      ih fun other hmem => hstep other (mem_cons_of_mem _ hmem)
    have hhead := hstep input mem_cons_self
    constructor
    · rintro (_ | ⟨hitem, hitems⟩)
      obtain ⟨hvalid, rfl⟩ := (hhead _).1 hitem
      obtain ⟨hall, rfl⟩ := hrest.1 hitems
      exact ⟨forall_mem_cons.2 ⟨hvalid, hall⟩, rfl⟩
    · rintro ⟨hall, rfl⟩
      obtain ⟨hvalid, hall⟩ := forall_mem_cons.1 hall
      exact .cons ((hhead _).2 ⟨hvalid, rfl⟩) (hrest.2 ⟨hall, rfl⟩)

theorem forM_eq_ok {check : Input → Except Problem Unit} :
    forM inputs check = .ok () ↔ ∀ input ∈ inputs, check input = .ok () := by
  induction inputs with
  | nil => exact ⟨fun _ => by simp, fun _ => rfl⟩
  | cons _ _ ih =>
    rw [forM_cons, bind_eq_ok, forall_mem_cons, ← ih]
    exact ⟨fun ⟨_, hinput, hrest⟩ => ⟨hinput, hrest⟩, fun ⟨hinput, hrest⟩ =>
      ⟨(), hinput, hrest⟩⟩

/-- A loop whose steps succeed on valid inputs as `next` says is the fold of `next`. -/
theorem foldlM_eq_ok {step : State → Input → Except Problem State} {next : State → Input → State}
    {valid : Input → Prop} (hstep : ∀ input ∈ inputs, ∀ state result,
      step state input = .ok result ↔ valid input ∧ result = next state input)
    {start result : State} :
    inputs.foldlM step start = .ok result ↔
      (∀ input ∈ inputs, valid input) ∧ result = inputs.foldl next start := by
  induction inputs generalizing start with
  | nil =>
    rw [foldlM_nil]
    constructor
    · intro hok
      cases hok
      simp
    · rintro ⟨-, rfl⟩
      rfl
  | cons input rest ih =>
    rw [foldlM_cons, bind_eq_ok, forall_mem_cons, foldl_cons]
    have hhead := hstep input mem_cons_self start
    have hrest : ∀ {start : State}, rest.foldlM step start = .ok result ↔
        (∀ input ∈ rest, valid input) ∧ result = rest.foldl next start :=
      ih fun other hmem => hstep other (mem_cons_of_mem _ hmem)
    constructor
    · rintro ⟨state, hinput, hloop⟩
      obtain ⟨hvalid, rfl⟩ := (hhead _).1 hinput
      obtain ⟨hall, rfl⟩ := hrest.1 hloop
      exact ⟨⟨hvalid, hall⟩, rfl⟩
    · rintro ⟨⟨hvalid, hall⟩, rfl⟩
      exact ⟨_, (hhead _).2 ⟨hvalid, rfl⟩, hrest.2 ⟨hall, rfl⟩⟩

/-- What every step keeps holds after the loop. -/
theorem foldlM_invariant (Holds : State → Prop) {step : State → Input → Except Problem State}
    (hstep : ∀ input ∈ inputs, ∀ state result, Holds state → step state input = .ok result →
      Holds result) {start result : State} (hstart : Holds start)
    (hloop : inputs.foldlM step start = .ok result) : Holds result := by
  induction inputs generalizing start with
  | nil =>
    cases hloop
    exact hstart
  | cons input _ ih =>
    rw [foldlM_cons, bind_eq_ok] at hloop
    obtain ⟨state, hinput, hrest⟩ := hloop
    exact ih (fun other hmem => hstep other (mem_cons_of_mem _ hmem))
      (hstep input mem_cons_self start state hstart hinput) hrest

end SieCluster.Fallible
