import SieCluster.Sidecar.AdapterPool

/-!
# Invariants of the adapter pool

Four things are kept in step: where models are placed and what each child thinks
it has, the number of calls at a child and its counter, readiness and quarantine,
and the quarantine and the newest config fan-out.  Each is a property of a few
parts of the pool, so a step only has to be followed in the parts it writes.
-/

namespace SieCluster.PoolInvariants

open List hiding map_eq_map map_map
open Option hiding map
open Runs Totals AdapterPool

/-! ## The properties -/

/-- A model is in the set of the child it is placed on, and in no other. -/
def Inverse (placements : Table String ℕ) (models : List (Finset String)) : Prop :=
  ∀ model index, placements.lookup model = some index ↔
    ∃ held, models[index]? = some held ∧ model ∈ held

/-- How much a call counts for a child. -/
def onChild (index : ℕ) : Call → ℕ
  | .generate _ child => if child = index then 1 else 0
  | .batch _ child => if child = index then 1 else 0
  | _ => 0

/-- The counters are those of the calls in progress, up to `offset` in the middle of a step. -/
def Counted (inflight : List ℤ) (calls : Table ℕ Call) (offset : ℕ → ℤ) : Prop :=
  ∀ index count, inflight[index]? = some count → count = total (onChild index) calls + offset index

def Held (quarantined : Bool) (ready : List Bool) : Prop :=
  quarantined = true → ∀ flag ∈ ready, flag = false

def generationOf : Call → Option ℕ
  | .fanout _ generation _ _ _ => some generation
  | _ => none

/-- The children asked so far have applied the config, or the fan-out will fail. -/
def Progressing (appliedBy : List (ℕ × ℕ)) : Call → Prop
  | .fanout _ generation child combined failed =>
    failed = false → combined.all ConfigResponse.applied = true →
      ∀ index < child, (generation, index) ∈ appliedBy
  | _ => True

structure Fanned (generation : ℕ) (calls : Table ℕ Call) (appliedBy : List (ℕ × ℕ)) : Prop where
  bounded : ∀ task call, calls.lookup task = some call →
    ∀ other ∈ generationOf call, other ≤ generation
  progressing : ∀ task call, calls.lookup task = some call → Progressing appliedBy call
  distinct : ∀ first second call other, calls.lookup first = some call →
    calls.lookup second = some other → (generationOf call).isSome →
      generationOf call = generationOf other → first = second

/-- The newest fan-out has ended and every child has applied it. -/
def Settled (generation : ℕ) (calls : Table ℕ Call) (appliedBy : List (ℕ × ℕ)) (count : ℕ) :
    Prop :=
  generation = 0 ∨
    (∀ task call, calls.lookup task = some call → generationOf call ≠ some generation) ∧
      ∀ index < count, (generation, index) ∈ appliedBy

structure Sound (pool : Pool) (offset : ℕ → ℤ) : Prop where
  nonempty : 0 < pool.children.length
  inverse : Inverse pool.placements (pool.children.map Child.models)
  counted : Counted (pool.children.map Child.inflightBatches) pool.calls offset
  held : Held pool.configQuarantined (pool.children.map Child.ready)
  fanned : Fanned pool.configFanoutGeneration pool.calls pool.appliedBy
  settled : pool.configQuarantined = false →
    Settled pool.configFanoutGeneration pool.calls pool.appliedBy pool.children.length

/-! ## Writing to one child -/

variable {pool : Pool}

section Modify

variable {Part : Type*} (part : Child → Part)

theorem map_modify (change : Child → Child) (changePart : Part → Part)
    (hpart : ∀ child, part (change child) = changePart (part child)) (children : List Child)
    (index : ℕ) :
    (children.modify index change).map part = (children.map part).modify index changePart := by
  apply ext_getElem?
  intro place
  simp only [List.getElem?_map, List.getElem?_modify, map_eq_map, map_map]
  congr 1
  funext child
  by_cases hplace : index = place <;> simp [hplace, hpart]

theorem map_modify_same
    (hpart : ∀ child, part (change child) = part child) (children : List Child) (index : ℕ) :
    (children.modify index change).map part = children.map part := by
  rw [map_modify part change id hpart, modify_id]

variable (hsound : Sound pool offset)
include hsound

variable (index : ℕ)

/-- A change of a child that keeps its models and its counter and makes nothing ready under
quarantine. -/
theorem Sound.modifyChild (hmodels : ∀ child, (change child).models = child.models)
    (hinflight : ∀ child, (change child).inflightBatches = child.inflightBatches)
    (hready : pool.configQuarantined = true → ∀ child, child.ready = false →
      (change child).ready = false) :
    Sound (pool.modifyChild index change) offset where
  nonempty := by simpa [Pool.modifyChild] using hsound.nonempty
  inverse := by
    simpa [Pool.modifyChild, map_modify_same Child.models hmodels] using hsound.inverse
  counted := by
    simpa [Pool.modifyChild, map_modify_same Child.inflightBatches hinflight] using hsound.counted
  held := by
    intro hquarantined flag hflag
    obtain ⟨child, hchild, rfl⟩ := mem_map.1 hflag
    obtain ⟨place, hplace⟩ := List.getElem?_of_mem hchild
    simp only [Pool.modifyChild, List.getElem?_modify, map_eq_map, map_eq_some_iff] at hplace
    obtain ⟨old, hold, rfl⟩ := hplace
    have hkept := hsound.held hquarantined old.ready (mem_map_of_mem (mem_of_getElem? hold))
    split_ifs
    · exact hready hquarantined old hkept
    · exact hkept
  fanned := hsound.fanned
  settled := by simpa [Pool.modifyChild] using hsound.settled

/-- A child may always be marked unready, and ready outside a quarantine. -/
theorem Sound.setReady (hready : pool.configQuarantined = true → ready = false) :
    Sound (pool.setReady index ready) offset :=
  hsound.modifyChild index (fun _ => rfl) (fun _ => rfl) fun hquarantined _ _ => hready hquarantined

theorem Sound.markReady : Sound (pool.markChildReadyFromHealthSuccess index) offset := by
  refine hsound.setReady index ?_
  intro hquarantined
  rw [hquarantined]
  rfl

theorem Sound.addInflight (change : ℤ) : Sound (pool.addInflight index change)
      (fun other => offset other + if other = index then change else 0) := by
  have hmodels : (pool.addInflight index change).children.map Child.models =
    pool.children.map Child.models := map_modify_same _ (by intro _; rfl) _ _
  have hready : (pool.addInflight index change).children.map Child.ready =
    pool.children.map Child.ready := map_modify_same _ (by intro _; rfl) _ _
  have hinflight : (pool.addInflight index change).children.map Child.inflightBatches =
    (pool.children.map Child.inflightBatches).modify index (· + change) :=
    map_modify _ _ _ (by intro _; rfl) _ _
  have hlength : (pool.addInflight index change).children.length = pool.children.length :=
    length_modify ..
  refine ⟨hlength ▸ hsound.nonempty, ?_, ?_, ?_, hsound.fanned, ?_⟩
  · rw [hmodels]
    exact hsound.inverse
  · intro other count hcount
    rw [hinflight, List.getElem?_modify, map_eq_map, map_eq_some_iff] at hcount
    obtain ⟨old, hold, rfl⟩ := hcount
    have hbefore := hsound.counted other old hold
    by_cases hother : other = index
    · simp only [hother, if_true]
      rw [hother] at hbefore
      rw [hbefore]
      exact add_assoc _ _ _
    · simp only [Ne.symm hother, hother, if_false, add_zero]
      exact hbefore
  · rw [hready]
    exact hsound.held
  · rw [hlength]
    exact hsound.settled

end Modify

/-! ## Placing models -/

section Placing

variable {models : List (Finset String)}

/-- A model that the change of a child's set neither adds nor removes stays where it is. -/
theorem mem_modify_iff {change : Finset String → Finset String} {place : ℕ}
    (hsame : ∀ held, model ∈ change held ↔ model ∈ held) :
    (∃ held, (models.modify index change)[place]? = some held ∧ model ∈ held) ↔
      ∃ held, models[place]? = some held ∧ model ∈ held := by
  simp only [List.getElem?_modify, map_eq_map, map_eq_some_iff]
  by_cases hplace : index = place <;> simp [hplace, hsame]

theorem Inverse.erase (hinverse : Inverse placements models)
    (hplaced : placements.lookup model = some index) :
    Inverse (placements.erase model) (models.modify index (·.erase model)) := by
  intro other place
  by_cases hother : other = model
  · subst hother
    rw [AList.lookup_erase]
    refine ⟨nofun, ?_⟩
    rintro ⟨held, hheld, hmem⟩
    rw [List.getElem?_modify, map_eq_map, map_eq_some_iff] at hheld
    obtain ⟨old, hold, rfl⟩ := hheld
    split_ifs at hmem with hplace
    · exact absurd rfl (Finset.mem_erase.1 hmem).1
    · have hfound := (hinverse other place).2 ⟨old, hold, hmem⟩
      exact absurd (some.inj (hplaced.symm.trans hfound)) hplace
  · rw [AList.lookup_erase_ne hother, hinverse other place, mem_modify_iff]
    simp [hother]

theorem Inverse.insert (hinverse : Inverse placements models)
    (hmissing : placements.lookup model = none) (hindex : index < models.length) :
    Inverse (placements.insert model index) (models.modify index (insert model ·)) := by
  intro other place
  by_cases hother : other = model
  · subst hother
    rw [AList.lookup_insert, some.injEq]
    simp only [List.getElem?_modify, map_eq_map, map_eq_some_iff]
    constructor
    · rintro rfl
      exact ⟨_, ⟨models.get ⟨index, hindex⟩, List.getElem?_eq_getElem hindex, rfl⟩, by simp⟩
    · rintro ⟨held, ⟨old, hold, rfl⟩, hmem⟩
      split_ifs at hmem with hplace
      · exact hplace
      · have hfound := (hinverse other place).2 ⟨old, hold, hmem⟩
        cases hmissing.symm.trans hfound
  · rw [AList.lookup_insert_ne hother, hinverse other place, mem_modify_iff]
    simp [hother]

theorem markPinned_eq (pool : Pool) (model : String) : ∃ revision,
    pool.markPinnedAssignmentChangedIfNeeded model =
      { pool with pinnedAssignmentRevision := revision } := by
  unfold Pool.markPinnedAssignmentChangedIfNeeded
  split <;> exact ⟨_, rfl⟩

/-- What placing a model somewhere else leaves alone. -/
structure SameButPlacement (before after : Pool) : Prop where
  inflight : after.children.map Child.inflightBatches = before.children.map Child.inflightBatches
  ready : after.children.map Child.ready = before.children.map Child.ready
  configQuarantined : after.configQuarantined = before.configQuarantined
  configFanoutGeneration : after.configFanoutGeneration = before.configFanoutGeneration
  calls : after.calls = before.calls
  appliedBy : after.appliedBy = before.appliedBy

theorem SameButPlacement.trans (hfirst : SameButPlacement first second)
    (hsecond : SameButPlacement second third) : SameButPlacement first third :=
  ⟨hsecond.inflight.trans hfirst.inflight, hsecond.ready.trans hfirst.ready,
    hsecond.configQuarantined.trans hfirst.configQuarantined,
    hsecond.configFanoutGeneration.trans hfirst.configFanoutGeneration,
    hsecond.calls.trans hfirst.calls, hsecond.appliedBy.trans hfirst.appliedBy⟩

theorem SameButPlacement.length (hsame : SameButPlacement first second) :
    second.children.length = first.children.length := by
  simpa using congrArg List.length hsame.ready

theorem SameButPlacement.sound {after : Pool} (hsame : SameButPlacement pool after)
    (hinverse : Inverse after.placements (after.children.map Child.models))
    (hsound : Sound pool offset) : Sound after offset where
  nonempty := hsame.length ▸ hsound.nonempty
  inverse := hinverse
  counted := by
    rw [hsame.inflight, hsame.calls]
    exact hsound.counted
  held := by
    rw [hsame.configQuarantined, hsame.ready]
    exact hsound.held
  fanned := by
    rw [hsame.configFanoutGeneration, hsame.calls, hsame.appliedBy]
    exact hsound.fanned
  settled := by
    rw [hsame.configQuarantined, hsame.configFanoutGeneration, hsame.calls, hsame.appliedBy,
      hsame.length]
    exact hsound.settled

section

variable (pool : Pool)

/-- A new set of placements with the change of one child's models. -/
theorem placement_same (placements : Table String ℕ) (model : String) (index : ℕ)
    (change : Finset String → Finset String) :
    SameButPlacement pool
      (({ pool with placements := placements }.markPinnedAssignmentChangedIfNeeded
        model).modifyChild index fun child => { child with models := change child.models }) := by
  obtain ⟨revision, hmark⟩ := markPinned_eq { pool with placements := placements } model
  rw [hmark]
  exact ⟨map_modify_same _ (by intro _; rfl) _ _, map_modify_same _ (by intro _; rfl) _ _,
    rfl, rfl, rfl, rfl⟩

variable (model : String)

theorem placement_inverse {after : Pool}
    (hinverse : Inverse placements ((pool.children.map Child.models).modify index change))
    (hafter : after = ({ pool with placements := placements }.markPinnedAssignmentChangedIfNeeded
      model).modifyChild index fun child => { child with models := change child.models }) :
    Inverse after.placements (after.children.map Child.models) := by
  obtain ⟨revision, hmark⟩ := markPinned_eq { pool with placements := placements } model
  rw [hafter, hmark]
  rwa [← map_modify Child.models (fun child => { child with models := change child.models })
    change (fun _ => rfl)] at hinverse

variable (index : ℕ)

theorem unplace_same : SameButPlacement pool (pool.unplace model index) :=
  placement_same pool (pool.placements.erase model) model index (·.erase model)

theorem place_same : SameButPlacement pool (pool.place model index) :=
  placement_same pool (pool.placements.insert model index) model index (insert model ·)

theorem unplace_placements :
    (pool.unplace model index).placements = pool.placements.erase model := by
  obtain ⟨revision, hmark⟩ := markPinned_eq { pool with
    placements := pool.placements.erase model } model
  rw [Pool.unplace, hmark]
  rfl

end

section

variable (hinverse : Inverse pool.placements (pool.children.map Child.models))
include hinverse

theorem unplace_inverse (hplaced : pool.placements.lookup model = some index) :
    Inverse (pool.unplace model index).placements
      ((pool.unplace model index).children.map Child.models) :=
  placement_inverse pool model (hinverse.erase hplaced) rfl

theorem place_inverse
    (hmissing : pool.placements.lookup model = none) (hindex : index < pool.children.length) :
    Inverse (pool.place model index).placements
      ((pool.place model index).children.map Child.models) :=
  placement_inverse pool model (hinverse.insert hmissing (by simpa using hindex)) rfl

end

/-- The choice is one of the children. -/
theorem chooseChildIndex_lt (hnonempty : 0 < pool.children.length) :
    pool.chooseChildIndex < pool.children.length := by
  have hfold : ∀ (indices : List ℕ) (best : ℕ), best < pool.children.length →
      (∀ index ∈ indices, index < pool.children.length) →
      indices.foldl (fun best index =>
        if pool.childKey index < pool.childKey best then index else best) best <
          pool.children.length := by
    intro indices
    induction indices with
    | nil => exact fun _ hbest _ => hbest
    | cons index _ ih =>
      intro best hbest hindices
      refine ih _ ?_ fun other hother => hindices other (mem_cons_of_mem _ hother)
      by_cases hless : pool.childKey index < pool.childKey best
      · simpa [hless] using hindices index mem_cons_self
      · simpa [hless] using hbest
  exact hfold _ 0 hnonempty fun index hindex => mem_range.1 hindex

theorem childForModel_same (pool : Pool) (model : String) :
    SameButPlacement pool (pool.childForModel model).2 := by
  unfold Pool.childForModel
  split
  · split
    · exact ⟨rfl, rfl, rfl, rfl, rfl, rfl⟩
    · exact (unplace_same ..).trans (place_same ..)
  · exact place_same ..

section

variable (hsound : Sound pool offset) (model : String)
include hsound

theorem childForModel_sound : Sound (pool.childForModel model).2 offset := by
  refine (childForModel_same pool model).sound ?_ hsound
  unfold Pool.childForModel
  split
  · rename_i index hplaced
    split
    · exact hsound.inverse
    · refine place_inverse (unplace_inverse hsound.inverse hplaced) ?_ ?_
      · rw [unplace_placements, AList.lookup_erase]
      · exact chooseChildIndex_lt ((unplace_same pool model index).length ▸ hsound.nonempty)
  · rename_i hmissing
    exact place_inverse hsound.inverse hmissing (chooseChildIndex_lt hsound.nonempty)

theorem clearModelIfOnChild_sound (index : ℕ) :
    Sound (pool.clearModelIfOnChild model index) offset := by
  unfold Pool.clearModelIfOnChild
  split
  · rename_i hplaced
    exact (unplace_same pool model index).sound (unplace_inverse hsound.inverse hplaced) hsound
  · exact hsound

theorem settle_sound (index : ℕ) (reply : Reply) :
    Sound (pool.settle model index reply) offset := by
  unfold Pool.settle
  split
  · exact clearModelIfOnChild_sound (hsound.setReady index fun _ => rfl) model index
  · exact hsound.markReady index

end

theorem pinnedModelsByChild_sound (models : List String) (hsound : Sound pool offset) :
    Sound (pool.pinnedModelsByChild models) offset := by
  induction models generalizing pool with
  | nil => exact hsound
  | cons model _ ih => exact ih (childForModel_sound hsound model)

end Placing

/-! ## Calls that begin, go on and end -/

section Calls

variable {count : ℕ}

section

variable (hcounted : Counted inflight calls offset)
include hcounted

theorem Counted.insert (hfree : calls.lookup task = none) (call : Call) :
    Counted inflight (calls.insert task call) (fun index => offset index - onChild index call) := by
  intro index value hvalue
  have htotal := total_insert_new (onChild index) hfree call
  rw [hcounted index value hvalue, htotal, Nat.cast_add]
  ring

theorem Counted.replace {next : Call} (hcall : calls.lookup task = some call)
    (hsame : ∀ index, onChild index next = onChild index call) :
    Counted inflight (calls.insert task next) offset := by
  intro index value hvalue
  have htotal := total_insert_replace (onChild index) hcall next
  rw [hsame index] at htotal
  have hequal : total (onChild index) (calls.insert task next) = total (onChild index) calls := by
    omega
  rw [hcounted index value hvalue, hequal]

theorem Counted.erase (hcall : calls.lookup task = some call) :
    Counted inflight (calls.erase task) (fun index => offset index + onChild index call) := by
  intro index value hvalue
  have htotal := total_erase (onChild index) hcall
  rw [hcounted index value hvalue, ← htotal, Nat.cast_add]
  ring

end

theorem progressing_of_plain (hplain : generationOf call = none) : Progressing appliedBy call := by
  cases call with
  | fanout => cases hplain
  | _ => trivial

theorem Progressing.mono (hmore : appliedBy ⊆ more) (hprogressing : Progressing appliedBy call) :
    Progressing more call := by
  cases call with
  | fanout =>
    intro hfailed hcombined index hindex
    exact hmore (hprogressing hfailed hcombined index hindex)
  | _ => trivial

section

variable (hfanned : Fanned generation calls appliedBy)
include hfanned

/-- A call whose generation, if it has one, no other call has. -/
theorem Fanned.insert (hbound : ∀ own ∈ generationOf call, own ≤ generation)
    (hprogressing : Progressing appliedBy call)
    (hothers : ∀ other found, other ≠ task → calls.lookup other = some found →
      (generationOf call).isSome → generationOf found ≠ generationOf call) :
    Fanned generation (calls.insert task call) appliedBy where
  bounded := forall_insert hfanned.bounded hbound
  progressing := forall_insert hfanned.progressing hprogressing
  distinct := by
    intro first second one other hfirst hsecond hsome hsame
    rcases lookup_insert_iff.1 hfirst with ⟨hnew, rfl⟩ | ⟨hnew, hfirst⟩ <;>
      rcases lookup_insert_iff.1 hsecond with ⟨hnext, rfl⟩ | ⟨hnext, hsecond⟩
    · exact hnew.trans hnext.symm
    · exact absurd hsame.symm (hothers second other hnext hsecond hsome)
    · exact absurd hsame (hothers first one hnew hfirst (hsame ▸ hsome))
    · exact hfanned.distinct first second one other hfirst hsecond hsome hsame

/-- A call of another kind leaves the fan-outs alone. -/
theorem Fanned.insertPlain (task : ℕ) (hplain : generationOf call = none) :
    Fanned generation (calls.insert task call) appliedBy := by
  refine hfanned.insert ?_ (progressing_of_plain hplain) ?_
  · simp [hplain]
  · simp [hplain]

theorem Fanned.erase (task : ℕ) : Fanned generation (calls.erase task) appliedBy where
  bounded := forall_erase hfanned.bounded task
  progressing := forall_erase hfanned.progressing task
  distinct := fun first second one other hfirst hsecond =>
    hfanned.distinct first second one other (lookup_erase_iff.1 hfirst).2
      (lookup_erase_iff.1 hsecond).2

theorem Fanned.mono (hmore : appliedBy ⊆ more) (hlater : generation ≤ later) :
    Fanned later calls more where
  bounded := fun task call hcall other hother =>
    (hfanned.bounded task call hcall other hother).trans hlater
  progressing := fun task call hcall => (hfanned.progressing task call hcall).mono hmore
  distinct := hfanned.distinct

end

variable (hsettled : Settled generation calls appliedBy count)
include hsettled

theorem Settled.insert (task : ℕ) (hcall : generationOf call ≠ some generation) :
    Settled generation (calls.insert task call) appliedBy count :=
  hsettled.imp_right fun hended => ⟨forall_insert hended.1 hcall, hended.2⟩

theorem Settled.erase (task : ℕ) : Settled generation (calls.erase task) appliedBy count :=
  hsettled.imp_right fun hended => ⟨forall_erase hended.1 task, hended.2⟩

theorem Settled.mono (hmore : appliedBy ⊆ more) : Settled generation calls more count :=
  hsettled.imp_right fun hended => ⟨hended.1, fun index hindex => hmore (hended.2 index hindex)⟩

end Calls

section PlainCalls

variable (hsound : Sound pool offset)
include hsound

theorem Sound.of_offset (hoffset : ∀ index, offset index = other index) : Sound pool other :=
  funext hoffset ▸ hsound

theorem Sound.start (hfree : pool.calls.lookup task = none) (hplain : generationOf call = none) :
    Sound (pool.start task call) (fun index => offset index - onChild index call) :=
  { hsound with
    counted := hsound.counted.insert hfree call
    fanned := hsound.fanned.insertPlain task hplain
    settled := fun hclear => (hsound.settled hclear).insert task (by rw [hplain]; nofun) }

theorem Sound.goOn {next : Call} (hcall : pool.calls.lookup task = some call)
    (hsame : ∀ index, onChild index next = onChild index call) (hplain : generationOf next = none) :
    Sound (pool.start task next) offset :=
  { hsound with
    counted := hsound.counted.replace hcall hsame
    fanned := hsound.fanned.insertPlain task hplain
    settled := fun hclear => (hsound.settled hclear).insert task (by rw [hplain]; nofun) }

theorem Sound.finish (hcall : pool.calls.lookup task = some call) :
    Sound (pool.finish task) (fun index => offset index + onChild index call) :=
  { hsound with
    counted := hsound.counted.erase hcall
    fanned := hsound.fanned.erase task
    settled := fun hclear => (hsound.settled hclear).erase task }

end PlainCalls

/-! ## Config fan-outs -/

section Fanouts

variable {kind : ConfigKind}

section

variable (hsound : Sound pool offset)
include hsound

/-- All children get one readiness, which under quarantine is none. -/
theorem Sound.setAllReady (hheld : quarantined = true → ready = false)
    (hsettled : quarantined = false →
      Settled pool.configFanoutGeneration pool.calls pool.appliedBy pool.children.length) :
    Sound ({ pool with configQuarantined := quarantined }.setAllReady ready) offset where
  nonempty := by simpa [Pool.setAllReady] using hsound.nonempty
  inverse := by simpa [Pool.setAllReady, Function.comp_def] using hsound.inverse
  counted := by simpa [Pool.setAllReady, Function.comp_def] using hsound.counted
  held := by
    intro hquarantined
    simp [Pool.setAllReady, hheld hquarantined]
  fanned := hsound.fanned
  settled := by simpa [Pool.setAllReady] using hsettled

theorem Sound.quarantined :
    Sound ({ pool with configQuarantined := true }.setAllReady false) offset :=
  hsound.setAllReady (fun _ => rfl) nofun

theorem quarantineConfigFanout_sound (generation : ℕ) :
    Sound (pool.quarantineConfigFanout generation) offset := by
  unfold Pool.quarantineConfigFanout
  split
  · exact hsound
  · exact hsound.quarantined

/-- The quarantine ends with a fan-out that has ended and was applied by every child. -/
theorem clearConfigQuarantine_sound
    (hended : ∀ task call, pool.calls.lookup task = some call → generationOf call ≠ some generation)
    (happlied : ∀ index < pool.children.length, (generation, index) ∈ pool.appliedBy) :
    Sound (pool.clearConfigQuarantineAfterSuccess generation) offset := by
  unfold Pool.clearConfigQuarantineAfterSuccess
  split
  · exact hsound
  · rename_i hnewest
    obtain rfl := not_not.1 hnewest
    exact hsound.setAllReady nofun fun _ => .inr ⟨hended, happlied⟩

theorem beginFanout_sound (hfree : pool.calls.lookup task = none) (kind : ConfigKind) :
    Sound (pool.begin task (.fanout kind)) offset := by
  have hquarantined := hsound.quarantined
  have hcounted := hquarantined.counted.insert hfree
    (.fanout kind (pool.configFanoutGeneration + 1) 0 none false)
  refine { hquarantined with counted := ?_, fanned := ?_, settled := nofun }
  · have hoffset : (fun index => offset index - onChild index
        (.fanout kind (pool.configFanoutGeneration + 1) 0 none false)) = offset := by
      funext index
      exact sub_zero _
    rw [hoffset] at hcounted
    exact hcounted
  · have hlater := hsound.fanned.mono (List.Subset.refl _) (Nat.le_succ _)
    refine hlater.insert (by simp [generationOf])
      (fun _ _ index hindex => absurd hindex (by omega)) ?_
    intro other found _ hfound _ hsame
    have hbound := hsound.fanned.bounded other found hfound _ hsame
    omega

/-- The fan-out of the call is that of no other call. -/
theorem Sound.other_generation
    (hcall : pool.calls.lookup task = some (.fanout kind generation child combined failed))
    (hother : other ≠ task)
    (hfound : pool.calls.lookup other = some found) : generationOf found ≠ some generation :=
  fun hsame => hother (hsound.fanned.distinct task other _ found hcall hfound rfl hsame.symm).symm

end

section

variable (hsound : Sound pool offset)
  (hcall : pool.calls.lookup task = some (.fanout kind generation child combined failed))
include hsound hcall

/-- The fan-out goes to the next child. -/
theorem goOnFanout_sound {next : ℕ}
    (hprogressing : Progressing pool.appliedBy (.fanout kind generation next merged failedNow)) :
    Sound (pool.start task (.fanout kind generation next merged failedNow)) offset where
  __ := hsound
  counted := hsound.counted.replace hcall fun _ => rfl
  fanned := hsound.fanned.insert (fun own => hsound.fanned.bounded task _ hcall own) hprogressing
    fun _ _ hother hfound _ => hsound.other_generation hcall hother hfound
  settled := by
    intro hclear
    refine (hsound.settled hclear).imp_right fun hended => ?_
    have hown : some generation ≠ some pool.configFanoutGeneration := hended.1 task _ hcall
    exact ⟨forall_insert hended.1 hown, hended.2⟩

/-- The last answer decides about the quarantine. -/
theorem concludeFanout_sound {next : ℕ} (hlast : pool.children.length ≤ next)
    (hprogressing : Progressing pool.appliedBy (.fanout kind generation next merged failedNow)) :
    Sound ((pool.finish task).concludeFanout generation merged failedNow) offset := by
  have hfinished : Sound (pool.finish task) offset :=
    (hsound.finish hcall).of_offset fun index => add_zero _
  unfold Pool.concludeFanout
  split
  · exact quarantineConfigFanout_sound hfinished generation
  · rename_i hkept
    split
    · rename_i happlied
      refine clearConfigQuarantine_sound hfinished ?_ ?_
      · intro other found hfound
        obtain ⟨hother, hfound⟩ := lookup_erase_iff.1 hfound
        exact hsound.other_generation hcall hother hfound
      · intro index hindex
        refine hprogressing (by simpa using hkept) ?_ index (hindex.trans_le hlast)
        cases merged with
        | none => rfl
        | some => exact happlied
    · exact quarantineConfigFanout_sound hfinished generation

theorem nextFanout_sound (hprogressing : Progressing pool.appliedBy
      (.fanout kind generation (child + 1) merged failedNow)) :
    Sound (pool.nextFanout task kind generation child merged failedNow) offset := by
  unfold Pool.nextFanout
  split
  · exact goOnFanout_sound hsound hcall hprogressing
  · rename_i hlast
    exact concludeFanout_sound hsound hcall (Nat.le_of_not_lt hlast) hprogressing

end

theorem mergeBundleHash_applied {merged : ConfigResponse} {nextHash : String}
    (happlied : (mergeBundleHash merged nextHash).applied = true) : merged.applied = true := by
  unfold mergeBundleHash at happlied
  split at happlied
  · exact happlied
  · split at happlied
    · cases happlied
    · exact happlied

theorem mergeApply_applied {merged response : ConfigResponse}
    (happlied : (mergeApply merged response).applied = true) :
    merged.applied = true ∧ response.applied = true := by
  have hboth := mergeBundleHash_applied happlied
  simpa using hboth

theorem mergeNames_applied
    (happlied : (mergeNames applied first second).1 = true) : applied = true := by
  unfold mergeNames at happlied
  split at happlied
  · cases happlied
  · exact happlied

/-- A merged answer is an application only if every answer was. -/
theorem merge_applied {response : ConfigResponse}
    (happlied : (merge kind combined response).applied = true) :
    combined.all ConfigResponse.applied = true ∧ response.applied = true := by
  cases combined with
  | none => exact ⟨rfl, happlied⟩
  | some =>
    cases kind with
    | apply => exact mergeApply_applied happlied
    | replace => exact mergeApply_applied (mergeNames_applied (mergeNames_applied happlied))

theorem Sound.noteApplied (hsound : Sound pool offset) (generation child : ℕ)
    (response : ConfigResponse) : Sound (pool.noteApplied generation child response) offset := by
  unfold Pool.noteApplied
  split
  · exact { hsound with
      fanned := hsound.fanned.mono (subset_append_left _ _) le_rfl
      settled := fun hclear => (hsound.settled hclear).mono (subset_append_left _ _) }
  · exact hsound

/-- The answer of a child is part of the progress. -/
theorem answer_progressing (hsound : Sound pool offset)
    (hcall : pool.calls.lookup task = some (.fanout kind generation child combined failed))
    (response : ConfigResponse) :
    Progressing (pool.noteApplied generation child response).appliedBy
      (.fanout kind generation (child + 1) (some (merge kind combined response)) failed) := by
  intro hkept hmerged index hindex
  obtain ⟨hcombined, happlied⟩ := merge_applied hmerged
  rw [Pool.noteApplied, if_pos happlied]
  by_cases hlast : index = child
  · exact mem_append_right _ (by simp [hlast])
  · have hbefore := hsound.fanned.progressing task _ hcall hkept hcombined index (by omega)
    exact mem_append_left _ hbefore

end Fanouts

/-! ## Whole runs -/

section Steps

variable {after : Pool}

theorem new_sound {count : ℕ} (hcount : 0 < count) : Sound (Pool.new count) fun _ => 0 where
  nonempty := by simpa [Pool.new] using hcount
  inverse := by
    intro model index
    simp [Pool.new, List.getElem?_replicate]
  counted := by
    intro index value hvalue
    simp [Pool.new, List.getElem?_replicate] at hvalue
    simp [Pool.new, hvalue.2]
  held := nofun
  fanned := ⟨by simp [Pool.new], by simp [Pool.new], by simp [Pool.new]⟩
  settled := fun _ => Or.inl rfl

section

variable (hsound : Sound pool offset)
include hsound

theorem enqueue_sound (model : String) (cost : ℕ) :
    Sound (pool.recordModelPendingEnqueue model cost) offset :=
  (childForModel_sound hsound model).modifyChild _ (fun _ => rfl) (fun _ => rfl)
    fun _ _ hready => hready

theorem dequeueChild_sound (index itemCount cost : ℕ) :
    Sound (pool.recordChildPendingDequeue index itemCount cost) offset :=
  hsound.modifyChild _ (fun _ => rfl) (fun _ => rfl) fun _ _ hready => hready

theorem dequeueModel_sound (model : String) (itemCount cost : ℕ) :
    Sound (pool.recordModelPendingDequeue model itemCount cost) offset := by
  unfold Pool.recordModelPendingDequeue
  split
  · exact hsound
  · exact dequeueChild_sound hsound _ itemCount cost

section

variable (hfree : pool.calls.lookup task = none) (hplain : generationOf call = none)
include hfree hplain

/-- A call that counts for no child. -/
theorem startPlain_sound (hnone : ∀ index, onChild index call = 0) :
    Sound (pool.start task call) offset :=
  (hsound.start hfree hplain).of_offset fun index => by simp [hnone index]

/-- A call that counts for the child whose counter it raised. -/
theorem startCounted_sound (hchild : ∀ index, onChild index call = if child = index then 1 else 0) :
    Sound ((pool.addInflight child 1).start task call) offset := by
  refine ((hsound.addInflight child 1).start hfree hplain).of_offset fun index => ?_
  rw [hchild index]
  by_cases hindex : index = child
  · simp [hindex]
  · simp [hindex, Ne.symm hindex]

end

theorem updatePinned_sound (models : List String) :
    Sound (pool.updatePinnedModelSet models) offset := by
  unfold Pool.updatePinnedModelSet
  split
  · exact { hsound with }
  · exact hsound

end

theorem pinnedModelsByChild_calls (pool : Pool) (models : List String) :
    (pool.pinnedModelsByChild models).calls = pool.calls := by
  induction models generalizing pool with
  | nil => rfl
  | cons model _ ih => exact (ih _).trans (childForModel_same pool model).calls

theorem updatePinned_calls (pool : Pool) (models : List String) :
    (pool.updatePinnedModelSet models).calls = pool.calls := by
  unfold Pool.updatePinnedModelSet
  split <;> rfl

theorem settle_lookup (hcall : pool.calls.lookup task = some call) (model : String) (index : ℕ)
    (reply : Reply) : (pool.settle model index reply).calls.lookup task = some call := by
  rw [← hcall]
  congr 1
  unfold Pool.settle
  split
  · unfold Pool.clearModelIfOnChild
    split
    · exact (unplace_same _ model index).calls
    · rfl
  · rfl

/-- The counter is lowered and the call ends, in either order. -/
theorem finishCounted_sound (hsound : Sound pool lowered)
    (hcall : pool.calls.lookup task = some call)
    (hchild : ∀ index, onChild index call = if child = index then 1 else 0)
    (hlowered : ∀ index, lowered index = offset index + if index = child then -1 else 0) :
    Sound (pool.finish task) offset := by
  refine (hsound.finish hcall).of_offset fun index => ?_
  rw [hlowered index, hchild index]
  by_cases hindex : index = child
  · simp [hindex]
  · simp [hindex, Ne.symm hindex]

def isBatch : Call → Bool
  | .batch _ _ => true
  | _ => false

/-- No batch is dropped while it waits for its child. -/
def BatchesKept (pool : Pool) : Event → Prop
  | .dropCall task => (pool.calls.lookup task).any isBatch = false
  | _ => True

instance (pool : Pool) : (event : Event) → Decidable (BatchesKept pool event)
  | .dropCall _ => inferInstanceAs (Decidable (_ = false))
  | .enqueue .. => isTrue trivial
  | .dequeueChild .. => isTrue trivial
  | .dequeueModel .. => isTrue trivial
  | .call .. => isTrue trivial
  | .answer .. => isTrue trivial

variable (hsound : Sound pool offset)
include hsound

theorem begin_sound (hfree : pool.calls.lookup task = none)
    (request : Request) : Sound (pool.begin task request) offset := by
  have hchosen := childForModel_sound hsound
  have hstill := fun model => (childForModel_same pool model).calls ▸ hfree
  cases request with
  | fanout kind => exact beginFanout_sound hsound hfree kind
  | setPinned models =>
    have hplaced := pinnedModelsByChild_sound (normalizePinnedModels models)
      (updatePinned_sound hsound (normalizePinnedModels models))
    refine startPlain_sound hplaced ?_ rfl fun _ => rfl
    rw [pinnedModelsByChild_calls, updatePinned_calls, hfree]
  | generate model =>
    simp only [Pool.begin]
    split
    · exact hsound
    · exact startCounted_sound (hchosen model) (hstill model) rfl fun _ => rfl
  | batch model =>
    simp only [Pool.begin]
    split
    · exact hchosen model
    · exact startCounted_sound (hchosen model) (hstill model) rfl fun _ => rfl
  | ensureReady model =>
    simp only [Pool.begin]
    split
    · exact hsound
    · exact startPlain_sound (hchosen model) (hstill model) rfl fun _ => rfl
  | _ => exact startPlain_sound hsound hfree rfl fun _ => rfl

/-- A call that goes from child to child. -/
theorem next_sound {child : ℕ} (hcall : pool.calls.lookup task = some call) {following : ℕ → Call}
    (hplain : ∀ index, generationOf (following index) = none)
    (hnone : ∀ index place, onChild index (following place) = 0)
    (hfinal : ∀ index, onChild index call = 0) :
    Sound (pool.next task child following) offset := by
  unfold Pool.next
  split
  · exact hsound.goOn hcall (fun index => (hnone index _).trans (hfinal index).symm) (hplain _)
  · exact (hsound.finish hcall).of_offset fun index => by simp [hfinal index]

theorem resume_sound (hcall : pool.calls.lookup task = some call)
    (hresume : pool.resume task reply call = some after) : Sound after offset := by
  cases call with
  | ping child =>
    cases hresume
    split
    · exact ((hsound.markReady child).finish hcall).of_offset fun _ => add_zero _
    · exact ((hsound.setReady child fun _ => rfl).finish hcall).of_offset fun _ => add_zero _
  | capabilities child =>
    cases hresume
    split
    · exact next_sound (hsound.setReady child fun _ => rfl) hcall (fun _ => rfl)
        (fun _ _ => rfl) fun _ => rfl
    · exact next_sound (hsound.markReady child) hcall (fun _ => rfl) (fun _ _ => rfl) fun _ => rfl
  | fanout kind generation child combined failed =>
    cases reply with
    | config response =>
      cases hresume
      have hnoted : (pool.noteApplied generation child response).calls.lookup task =
          some (.fanout kind generation child combined failed) := by
        unfold Pool.noteApplied
        split <;> exact hcall
      exact nextFanout_sound (hsound.noteApplied generation child response) hnoted
        (answer_progressing hsound hcall response)
    | error =>
      cases hresume
      exact nextFanout_sound (hsound.setReady child fun _ => rfl) hcall nofun
    | _ => cases hresume
  | cancelGenerate child =>
    cases hresume
    split
    · exact next_sound (hsound.setReady child fun _ => rfl) hcall (fun _ => rfl)
        (fun _ _ => rfl) fun _ => rfl
    · exact next_sound hsound hcall (fun _ => rfl) (fun _ _ => rfl) fun _ => rfl
  | setPinned child =>
    simp only [Pool.resume] at hresume
    split at hresume
    · cases hresume
      exact ((hsound.setReady child fun _ => rfl).finish hcall).of_offset fun _ => add_zero _
    · cases hresume
      exact next_sound (hsound.markReady child) hcall (fun _ => rfl) (fun _ _ => rfl) fun _ => rfl
  | generate model child =>
    cases hresume
    exact finishCounted_sound ((settle_sound hsound model child reply).addInflight child (-1))
      (settle_lookup hcall model child reply) (fun _ => rfl) fun _ => rfl
  | batch model child =>
    cases hresume
    let lowered := pool.addInflight child (-1)
    have hlowered : lowered.calls.lookup task = some (.batch model child) := hcall
    exact finishCounted_sound (settle_sound (hsound.addInflight child (-1)) model child reply)
      (settle_lookup hlowered model child reply) (fun _ => rfl) fun _ => rfl
  | ensureReady model child =>
    cases hresume
    have hsettled := settle_sound hsound model child reply
    exact (hsettled.finish (settle_lookup hcall model child reply)).of_offset fun _ => add_zero _

/-- A batch that is dropped stays in the counter; any other call leaves it. -/
theorem abandon_sound (hcall : pool.calls.lookup task = some call) :
    ∃ leaked, Sound (pool.abandon task call) leaked ∧ (isBatch call = false → leaked = offset) := by
  cases call with
  | generate _ child =>
    exact ⟨offset, finishCounted_sound (hsound.addInflight child (-1)) hcall (fun _ => rfl)
      fun _ => rfl, fun _ => rfl⟩
  | batch => exact ⟨_, hsound.finish hcall, nofun⟩
  | _ => exact ⟨offset, (hsound.finish hcall).of_offset fun _ => add_zero _, fun _ => rfl⟩

theorem step_sound (hstep : step pool event = some after) :
    ∃ leaked, Sound after leaked ∧ (BatchesKept pool event → leaked = offset) := by
  cases event with
  | enqueue model cost =>
    cases hstep
    exact ⟨offset, enqueue_sound hsound model cost, fun _ => rfl⟩
  | dequeueChild child itemCount cost =>
    cases hstep
    exact ⟨offset, dequeueChild_sound hsound child itemCount cost, fun _ => rfl⟩
  | dequeueModel model itemCount cost =>
    cases hstep
    exact ⟨offset, dequeueModel_sound hsound model itemCount cost, fun _ => rfl⟩
  | call _ request =>
    simp only [step, ite_none_right_eq_some] at hstep
    cases hstep.2
    exact ⟨offset, begin_sound hsound hstep.1 request, fun _ => rfl⟩
  | answer =>
    obtain ⟨call, hcall, hresume⟩ := bind_eq_some_iff.1 hstep
    exact ⟨offset, resume_sound hsound hcall hresume, fun _ => rfl⟩
  | dropCall =>
    obtain ⟨call, hcall, rfl⟩ := map_eq_some_iff.1 hstep
    simpa only [BatchesKept, hcall, any_some] using abandon_sound hsound hcall

end Steps

/-- What holds in every state. -/
structure InStep (pool : Pool) : Prop where
  inverse : ∀ model index, pool.placements.lookup model = some index ↔
    ∃ child, pool.children[index]? = some child ∧ model ∈ child.models
  once : ∀ (first second : ℕ) (one other : Child), pool.children[first]? = some one →
    pool.children[second]? = some other → ∀ model ∈ one.models, model ∈ other.models →
      first = second
  newest : pool.configQuarantined = false → pool.configFanoutGeneration = 0 ∨
    (∀ task call, pool.calls.lookup task = some call →
      generationOf call ≠ some pool.configFanoutGeneration) ∧
      ∀ index < pool.children.length, (pool.configFanoutGeneration, index) ∈ pool.appliedBy
  unready : pool.configQuarantined = true → ∀ child ∈ pool.children, child.ready = false

/-- The counters are those of the calls in progress. -/
structure Counting (pool : Pool) : Prop where
  counted : ∀ index child, pool.children[index]? = some child →
    child.inflightBatches = (total (onChild index) pool.calls : ℤ)
  returned : pool.calls = ∅ → ∀ child ∈ pool.children, child.inflightBatches = 0

theorem Sound.inStep (hsound : Sound pool offset) : InStep pool := by
  have hinverse : ∀ model index, pool.placements.lookup model = some index ↔
      ∃ child, pool.children[index]? = some child ∧ model ∈ child.models := by
    intro model index
    rw [hsound.inverse model index]
    simp [List.getElem?_map]
  refine ⟨hinverse, ?_, hsound.settled, ?_⟩
  · intro first second one other hfirst hsecond model hone hother
    have hplaced := (hinverse model first).2 ⟨one, hfirst, hone⟩
    have hagain := (hinverse model second).2 ⟨other, hsecond, hother⟩
    exact some.inj (hplaced.symm.trans hagain)
  · intro hquarantined child hmem
    exact hsound.held hquarantined child.ready (mem_map_of_mem hmem)

theorem Sound.counting (hsound : Sound pool fun _ => 0) : Counting pool := by
  have hcounted : ∀ index child, pool.children[index]? = some child →
      child.inflightBatches = (total (onChild index) pool.calls : ℤ) := by
    intro index child hchild
    have hcount := hsound.counted index child.inflightBatches (by simp [hchild])
    simpa using hcount
  refine ⟨hcounted, fun hcalls child hmem => ?_⟩
  obtain ⟨index, hindex⟩ := List.getElem?_of_mem hmem
  rw [hcounted index child hindex, hcalls, total_empty]
  rfl

/-- In every run of a pool with at least one child, placements and model sets, readiness,
quarantine and the newest fan-out are in step, and so are counters and calls if no batch is
dropped while it waits. -/
theorem kept_run_inStep {count : ℕ} (hcount : 0 < count) {events : List Event} {pool : Pool}
    (hrun : run step (Pool.new count) events = some pool) :
    InStep pool ∧ (Guarded step BatchesKept (Pool.new count) events → Counting pool) := by
  constructor
  · obtain ⟨_, hsound⟩ := run_invariant (fun pool => ∃ leaked, Sound pool leaked)
      (fun _ _ _ ⟨_, hsound⟩ hstep => (step_sound hsound hstep).imp fun _ hafter => hafter.1)
      ⟨_, new_sound hcount⟩ hrun
    exact hsound.inStep
  · intro hkept
    refine (guarded_invariant (fun pool => Sound pool fun _ => 0) ?_ (new_sound hcount) hkept
      hrun).counting
    intro _ _ _ hsound hevent hstep
    obtain ⟨_, hafter, hsame⟩ := step_sound hsound hstep
    exact hsame hevent ▸ hafter

def appliedResponse : ConfigResponse := ⟨true, "hash", 1, [], []⟩

/-- A generation is dropped, a batch fails, and of two fan-outs the newer one ends first. -/
def overlappingCalls : List Event :=
  [.call 0 (.generate "first"), .call 1 (.batch "second"), .call 2 (.fanout .apply),
    .dropCall 0, .answer 2 (.config appliedResponse), .call 3 (.fanout .replace),
    .answer 3 (.config appliedResponse), .answer 1 .error,
    .answer 3 (.config appliedResponse), .answer 2 .error]

theorem kept_run_inStep_overlappingCalls :
    ∃ pool, run step (Pool.new 2) overlappingCalls = some pool ∧
      pool.configQuarantined = false ∧ pool.configFanoutGeneration = 2 ∧ InStep pool ∧
      Counting pool := by
  refine ⟨_, (some_get ?_).symm, ?_, ?_, (kept_run_inStep ?_ (some_get _).symm).1,
    (kept_run_inStep ?_ (some_get _).symm).2 ?_⟩
  all_goals decide +kernel

/-- A batch whose future is dropped stays in its child's counter, and a newer fan-out that
has ended clears the quarantine while an older one is still in progress. -/
theorem droppedBatch_and_olderFanout_outOfStep :
    (∃ pool, run step (Pool.new 1) [.call 0 (.batch "model"), .dropCall 0] = some pool ∧
      pool.calls = ∅ ∧ pool.children.map Child.inflightBatches = [1]) ∧
    ∃ pool, run step (Pool.new 1) [.call 0 (.fanout .apply), .call 1 (.fanout .apply),
        .answer 1 (.config appliedResponse)] = some pool ∧
      pool.configQuarantined = false ∧
      pool.calls.lookup 0 = some (.fanout .apply 1 0 none false) := by
  refine ⟨⟨_, (some_get ?_).symm, AList.ext (length_eq_zero_iff.1 ?_), ?_⟩,
    ⟨_, (some_get ?_).symm, ?_, ?_⟩⟩
  all_goals decide +kernel

end SieCluster.PoolInvariants
