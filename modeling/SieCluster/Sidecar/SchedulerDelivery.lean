import SieCluster.Sidecar.SchedulerEngine

/-!
# Delivery by the scheduler

Whatever the calls in progress do in between, a key has one former and every call
for the key ends up with it.  What a former took in for a key is therefore what was
reported for the key and what the map still leads to, in order among requests of
one cost.  The head times are those of the pending requests, so a scan finds the
oldest one as far as time stamps tell.
-/

namespace SieCluster.SchedulerDelivery

open Option hiding filter filter_map map
open List AList
open Runs Totals
open BatchFormer HasCost AdaptiveController SchedulerEngine

variable {Item Metadata : Type*} [HasCost Item]

/-! ## What the history says about a key -/

section

variable (scheduler : Scheduler Item Metadata)

def submittedFor (key : BatcherKey) : List (Item × Metadata) :=
  (scheduler.submitted.filter fun entry => entry.1 = key).map Prod.snd

def deliveredFor (key : BatcherKey) : List (Item × Metadata) :=
  handedOut ((scheduler.delivered.filter fun entry => entry.1 = key).map Prod.snd)

def pendingAt (handle : ℕ) : List (PendingRequest Item Metadata) :=
  (scheduler.entries[handle]?.map fun entry => entry.former.inner.pending).getD []

/-- What waits in the former that the map has for the key. -/
def pendingFor (key : BatcherKey) : List (Item × Metadata) :=
  ((scheduler.batchers.lookup key).elim [] (pendingAt scheduler)).map pairOf

def ofCost (price : ℕ) (pairs : List (Item × Metadata)) : List (Item × Metadata) :=
  pairs.filter fun pair => cost pair.1 = price

/-- What came in was handed out or is pending, in order among equal costs. -/
def Balanced (delivered pending submitted : List (Item × Metadata)) : Prop :=
  ∀ price, ofCost price delivered ++ ofCost price pending = ofCost price submitted

def Conserved : Prop :=
  ∀ key, Balanced (deliveredFor scheduler key) (pendingFor scheduler key)
    (submittedFor scheduler key)

/-! ## One former for each key -/

def keyAt (handle : ℕ) : Option BatcherKey :=
  scheduler.entries[handle]?.map Entry.key

/-- A call that has a handle has the one of its key. -/
def Placed : Task Item Metadata → Prop
  | .holding key handle _ => keyAt scheduler handle = some key
  | .draining key handle _ => keyAt scheduler handle = some key
  | _ => True

end

structure Routed (scheduler : Scheduler Item Metadata) : Prop where
  indexed : ∀ key handle, scheduler.batchers.lookup key = some handle ↔
    keyAt scheduler handle = some key
  placed : ∀ task call, scheduler.tasks.lookup task = some call → Placed scheduler call
  creating : ∀ creation key items, scheduler.creation = some creation →
    scheduler.tasks.lookup creation.task = some (.missed key items) →
      scheduler.batchers.lookup key = none
  sound : ∀ entry ∈ scheduler.entries,
    Sound entry.former scheduler.clock ∧ entry.former.epoch = scheduler.epoch

variable
  {scheduler : Scheduler Item Metadata}

section Frames

theorem build_routed (config : BatchConfig) (controller : Controller) (epoch : ℕ) :
    Routed (Scheduler.build config controller epoch : Scheduler Item Metadata) :=
  ⟨by simp [Scheduler.build, keyAt], by simp [Scheduler.build], nofun, nofun⟩

omit [HasCost Item] in
theorem getElem?_withFormer (entries : List (Entry Item Metadata)) (handle other : ℕ)
    (former : Former Item Metadata) :
    (withFormer entries handle former)[other]? = entries[other]?.map fun entry =>
      if handle = other then { entry with former := former } else entry := by
  rw [withFormer, List.getElem?_modify]
  rfl

omit [HasCost Item] in
theorem keyAt_withFormer (handle other : ℕ) (former : Former Item Metadata) :
    keyAt { scheduler with entries := withFormer scheduler.entries handle former } other =
      keyAt scheduler other := by
  simp only [keyAt, getElem?_withFormer, Option.map_map]
  congr 1
  funext entry
  by_cases hsame : handle = other <;> simp [hsame]

variable (hrouted : Routed scheduler)
include hrouted

/-- A call may go to a step with the right handle, or to one without a handle. -/
theorem Routed.insertTask (hplaced : Placed scheduler call)
    (hmissed : ∀ key items, call = .missed key items → scheduler.creation = none) :
    Routed { scheduler with tasks := scheduler.tasks.insert task call } where
  __ := hrouted
  placed := forall_insert hrouted.placed hplaced
  creating := by
    intro creation key items hcreation hlookup
    rcases lookup_insert_iff.1 hlookup with ⟨-, hcall⟩ | ⟨-, hlookup⟩
    · cases (hmissed key items hcall).symm.trans hcreation
    · exact hrouted.creating creation key items hcreation hlookup

theorem Routed.eraseTask (task : ℕ) :
    Routed { scheduler with tasks := scheduler.tasks.erase task } where
  __ := hrouted
  placed := forall_erase hrouted.placed task
  creating := fun creation key items hcreation hlookup =>
    hrouted.creating creation key items hcreation (lookup_erase_iff.1 hlookup).2

theorem Routed.laterClock
    (hclock : scheduler.clock ≤ now) : Routed { scheduler with clock := now } where
  __ := hrouted
  sound := fun entry hmem =>
    ⟨(hrouted.sound entry hmem).1.later hclock, (hrouted.sound entry hmem).2⟩

/-- A former may be replaced by one that is sound. -/
theorem Routed.withFormer (handle : ℕ) (hclock : scheduler.clock ≤ now)
    (hsound : Sound former now) (hepoch : former.epoch = scheduler.epoch) :
    Routed { scheduler with
      entries := withFormer scheduler.entries handle former
      clock := now } where
  indexed := by
    intro key other
    rw [hrouted.indexed]
    exact (Iff.of_eq (congrArg (· = some key) (keyAt_withFormer handle other former))).symm
  placed := by
    intro task call hlookup
    have hplaced := hrouted.placed task call hlookup
    cases call with
    | holding _ other => exact (keyAt_withFormer handle other former).trans hplaced
    | draining _ other => exact (keyAt_withFormer handle other former).trans hplaced
    | _ => trivial
  creating := hrouted.creating
  sound := by
    intro entry hmem
    obtain ⟨place, hplace⟩ := List.getElem?_of_mem hmem
    simp only [getElem?_withFormer, map_eq_some_iff] at hplace
    obtain ⟨old, hold, hentry⟩ := hplace
    have hkept := hrouted.sound old (mem_of_getElem? hold)
    by_cases hsame : handle = place
    · simp only [hsame, if_true] at hentry
      subst hentry
      exact ⟨hsound, hepoch⟩
    · simp only [hsame, if_false] at hentry
      subst hentry
      exact ⟨hkept.1.later hclock, hkept.2⟩

end Frames

/-! ## What a batch takes -/

theorem filter_map_pairOf (price : ℕ) (requests : List (PendingRequest Item Metadata)) :
    ofCost price (requests.map pairOf) =
      (requests.filter fun request => cost request.item = price).map pairOf := by
  rw [ofCost, filter_map]
  rfl

omit [HasCost Item] in
theorem ofCost_append [HasCost Item] (price : ℕ) (first second : List (Item × Metadata)) :
    ofCost price (first ++ second) = ofCost price first ++ ofCost price second :=
  filter_append ..

theorem Balanced.add
    (hbalanced : Balanced delivered pending submitted) (items : List (Item × Metadata)) :
    Balanced delivered (pending ++ items) (submitted ++ items) := by
  intro price
  rw [ofCost_append, ofCost_append, ← hbalanced price, append_assoc]

theorem Balanced.take {delivered pending submitted batch rest : List (Item × Metadata)}
    (hbalanced : Balanced delivered pending submitted)
    (hordered : ∀ price, ofCost price batch ++ ofCost price rest = ofCost price pending) :
    Balanced (delivered ++ batch) rest submitted := by
  intro price
  rw [ofCost_append, append_assoc, hordered, hbalanced price]

/-- The result of a cut: the batch is what was taken, and the rest is in order. -/
structure Cut (former : Former Item Metadata)
    (result : FormattedBatch Item Metadata × Former Item Metadata) : Prop where
  paired : result.1.items.length = result.1.metadata.length
  ordered : ∀ price, ofCost price (result.1.items.zip result.1.metadata) ++
    ofCost price (result.2.inner.pending.map pairOf) =
      ofCost price (former.inner.pending.map pairOf)
  sound : ∀ clock, Sound former clock → Sound result.2 clock
  epoch : result.2.epoch = former.epoch

theorem extract_cut (former : Former Item Metadata) (reason : FlushReason) (maxItems : ℕ) :
    Cut former (former.extract (extractBatchUpTo former.inner reason maxItems)) := by
  have hsound := fun clock (hbefore : Sound former clock) =>
    extractBatchUpTo_sound hbefore reason maxItems
  obtain ⟨drained, rest, hsorted, hbatch⟩ := extractBatchUpTo_eq former.inner reason maxItems
  rw [hbatch] at hsound ⊢
  refine ⟨by simp [Former.extract], ?_, hsound, rfl⟩
  intro price
  have hstable := filter_insertionSort_cheaper former.inner.pending price
  rw [hsorted, filter_append] at hstable
  simp only [Former.extract, Former.refreshFcfsHead, retimed, zip_pairs, filter_map_pairOf,
    ← List.map_append, hstable]

variable {result : FormattedBatch Item Metadata × Former Item Metadata}

theorem getBatch_cut
    (hbatch : former.getBatch immediate now = some result) : Cut former result := by
  obtain ⟨reason, -, rfl⟩ := map_eq_some_iff.1 hbatch
  exact extract_cut former reason usizeMax

theorem tryDrainUpTo_cut
    (hbatch : former.tryDrainUpTo maxItems = some result) : Cut former result := by
  simp only [Former.tryDrainUpTo, ite_none_left_eq_some] at hbatch
  cases hbatch.2
  exact extract_cut former .drain maxItems

/-! ## The steps -/

/-- The invariant of every state. -/
structure Orderly (scheduler : Scheduler Item Metadata) : Prop where
  routed : Routed scheduler
  conserved : Conserved scheduler
  paired : ∀ entry ∈ scheduler.delivered, entry.2.items.length = entry.2.metadata.length

variable {handle : ℕ} {entry : Entry Item Metadata}
  {items : List (Item × Metadata)}

section Steps

variable {after : Scheduler Item Metadata}

theorem build_orderly (config : BatchConfig) (controller : Controller) (epoch : ℕ) :
    Orderly (Scheduler.build config controller epoch : Scheduler Item Metadata) :=
  ⟨build_routed config controller epoch, fun _ _ => rfl, nofun⟩

section

variable (horderly : Orderly scheduler)
include horderly

theorem Orderly.insertTask (hplaced : Placed scheduler call)
    (hmissed : ∀ key items, call = .missed key items → scheduler.creation = none) :
    Orderly { scheduler with tasks := scheduler.tasks.insert task call } :=
  ⟨horderly.routed.insertTask hplaced hmissed, horderly.conserved, horderly.paired⟩

theorem Orderly.eraseTask (task : ℕ) :
    Orderly { scheduler with tasks := scheduler.tasks.erase task } :=
  ⟨horderly.routed.eraseTask task, horderly.conserved, horderly.paired⟩

theorem Orderly.laterClock (hclock : scheduler.clock ≤ now) :
    Orderly { scheduler with clock := now } :=
  ⟨horderly.routed.laterClock hclock, horderly.conserved, horderly.paired⟩

/-- Neither the controller nor the limits for new formers matter. -/
theorem Orderly.tuned (controller : Controller) (config : BatchConfig) : Orderly { scheduler with
      controller := controller
      config := config } :=
  ⟨{ horderly.routed with }, horderly.conserved, horderly.paired⟩

end

theorem found_placed (hrouted : Routed scheduler) (key : BatcherKey)
    (items : List (Item × Metadata)) : Placed scheduler (scheduler.found key items) := by
  unfold Scheduler.found
  cases hlookup : scheduler.batchers.lookup key with
  | none => trivial
  | some handle => exact (hrouted.indexed key handle).1 hlookup

theorem submit_orderly (horderly : Orderly scheduler)
    (hstep : scheduler.submit task op lora items = some after) :
    Orderly after := by
  simp only [Scheduler.submit, ite_none_right_eq_some] at hstep
  obtain ⟨⟨-, hcreation, -⟩, hafter⟩ := hstep
  cases hafter
  exact horderly.insertTask (found_placed horderly.routed _ _)
    fun _ _ _ => isNone_iff_eq_none.1 hcreation

theorem lockMap_orderly (horderly : Orderly scheduler)
    (hcall : scheduler.tasks.lookup task = some (.missed key items))
    (hstep : scheduler.lockMap task key items = some after) : Orderly after := by
  simp only [Scheduler.lockMap, ite_none_right_eq_some] at hstep
  obtain ⟨-, hafter⟩ := hstep
  cases hlookup : scheduler.batchers.lookup key with
  | some handle =>
    rw [hlookup] at hafter
    cases hafter
    exact horderly.insertTask ((horderly.routed.indexed key handle).1 hlookup) nofun
  | none =>
    rw [hlookup] at hafter
    cases hafter
    refine ⟨{ horderly.routed with creating := ?_ }, horderly.conserved, horderly.paired⟩
    intro creation other others hcreation hother
    cases hcreation
    obtain ⟨rfl, rfl⟩ := Task.missed.inj (some.inj (hcall.symm.trans hother))
    exact hlookup

theorem readConfig_orderly (horderly : Orderly scheduler)
    (hcreation : scheduler.creation = some ⟨task, config⟩) :
    Orderly (scheduler.readConfig task) := by
  refine ⟨{ horderly.routed with creating := ?_ }, horderly.conserved, horderly.paired⟩
  intro creation key items hnext hcall
  cases hnext
  exact horderly.routed.creating _ key items hcreation hcall

omit [HasCost Item] in
theorem getElem?_concat (entries : List (Entry Item Metadata)) (entry : Entry Item Metadata)
    (handle : ℕ) : (entries ++ [entry])[handle]? =
      if handle = entries.length then some entry else entries[handle]? := by
  rcases Nat.lt_trichotomy handle entries.length with hold | hnew | hbeyond
  · rw [List.getElem?_append_left hold, if_neg hold.ne]
  · simp [hnew]
  · rw [if_neg hbeyond.ne', List.getElem?_eq_none (by simpa using hbeyond),
      List.getElem?_eq_none hbeyond.le]

omit [HasCost Item] in
theorem lt_length_of_keyAt
    (hkey : keyAt scheduler handle = some key) : handle < scheduler.entries.length := by
  obtain ⟨entry, hentry, -⟩ := map_eq_some_iff.1 hkey
  exact (List.getElem?_eq_some_iff.1 hentry).1

omit [HasCost Item] in
theorem keyAt_of_entry (hentry : scheduler.entries[handle]? = some entry) :
    keyAt scheduler handle = some entry.key := by
  rw [keyAt, hentry, map_some]

section

variable (hrouted : Routed scheduler) (task : ℕ) (config : BatchConfig)
  (items : List (Item × Metadata)) (hnew : scheduler.batchers.lookup key = none)
include hrouted hnew

/-- A new former is found under its key and nowhere else. -/
theorem insertEntry_routed : Routed (scheduler.insertEntry task config key items) := by
  have hkeyAt : ∀ handle, keyAt (scheduler.insertEntry task config key items) handle =
      if handle = scheduler.entries.length then some key else keyAt scheduler handle := by
    intro handle
    simp only [keyAt, Scheduler.insertEntry, getElem?_concat]
    split_ifs <;> rfl
  have hkept : ∀ handle other, keyAt scheduler handle = some other →
      keyAt (scheduler.insertEntry task config key items) handle = some other := by
    intro handle other hother
    rw [hkeyAt, if_neg (lt_length_of_keyAt hother).ne, hother]
  refine ⟨?_, ?_, nofun, ?_⟩
  · intro other handle
    rw [hkeyAt]
    by_cases hother : other = key
    · subst hother
      have hlookup : (scheduler.insertEntry task config other items).batchers.lookup other =
        some scheduler.entries.length := lookup_insert _
      rw [hlookup]
      by_cases hlast : handle = scheduler.entries.length
      · simp [hlast]
      · have hmissing : keyAt scheduler handle ≠ some other := fun hfound => by
          rw [← hrouted.indexed, hnew] at hfound
          cases hfound
        simp [hlast, hmissing, Ne.symm hlast]
    · have hlookup : (scheduler.insertEntry task config key items).batchers.lookup other =
        scheduler.batchers.lookup other := lookup_insert_ne hother
      rw [hlookup, hrouted.indexed]
      by_cases hlast : handle = scheduler.entries.length
      · have hbeyond : keyAt scheduler handle ≠ some other := fun hfound =>
          (lt_length_of_keyAt hfound).ne hlast
        simp only [hbeyond, if_pos hlast, some.injEq, Ne.symm hother]
      · simp [hlast]
  · refine forall_insert ?_ ?_
    · intro other call hlookup
      have hplaced := hrouted.placed other call hlookup
      cases call with
      | holding held handle => exact hkept handle held hplaced
      | draining held handle => exact hkept handle held hplaced
      | _ => trivial
    · exact (hkeyAt _).trans (if_pos rfl)
  · refine forall_mem_append.2 ⟨hrouted.sound, forall_mem_singleton.2 ?_⟩
    exact ⟨⟨rfl, rfl, rfl, rfl, nofun⟩, rfl⟩

theorem insertEntry_pendingFor (other : BatcherKey) :
    pendingFor (scheduler.insertEntry task config key items) other =
      pendingFor scheduler other := by
  by_cases hother : other = key
  · subst hother
    simp [pendingFor, Scheduler.insertEntry, hnew, pendingAt, Former.withEpoch]
  · have hlookup : (scheduler.insertEntry task config key items).batchers.lookup other =
      scheduler.batchers.lookup other := lookup_insert_ne hother
    simp only [pendingFor, hlookup]
    cases hfound : scheduler.batchers.lookup other with
    | none => rfl
    | some handle =>
      have hlt := lt_length_of_keyAt ((hrouted.indexed other handle).1 hfound)
      simp only [elim_some, pendingAt, Scheduler.insertEntry, getElem?_concat, if_neg hlt.ne]

end

theorem insertEntry_orderly (horderly : Orderly scheduler) (task : ℕ) (config : BatchConfig)
    (items : List (Item × Metadata)) (hnew : scheduler.batchers.lookup key = none) :
    Orderly (scheduler.insertEntry task config key items) := by
  refine ⟨insertEntry_routed horderly.routed task config items hnew, ?_, horderly.paired⟩
  intro other
  rw [insertEntry_pendingFor horderly.routed task config items hnew]
  exact horderly.conserved other

/-- Only the former of the key is another one. -/
theorem pendingFor_withFormer (hrouted : Routed scheduler)
    (hkey : keyAt scheduler handle = some key) (former : Former Item Metadata)
    (other : BatcherKey) :
    pendingFor { scheduler with entries := withFormer scheduler.entries handle former } other =
      if other = key then former.inner.pending.map pairOf else pendingFor scheduler other := by
  split_ifs with hother
  · subst hother
    obtain ⟨entry, hentry, -⟩ := map_eq_some_iff.1 hkey
    simp [pendingFor, (hrouted.indexed other handle).2 hkey, pendingAt, getElem?_withFormer, hentry]
  · simp only [pendingFor]
    cases hlookup : scheduler.batchers.lookup other with
    | none => rfl
    | some place =>
      have hplace := (hrouted.indexed other place).1 hlookup
      have hne : handle ≠ place := by
        rintro rfl
        exact hother (some.inj (hplace.symm.trans hkey))
      simp [pendingAt, getElem?_withFormer, hne]

omit [HasCost Item] in
theorem map_timed (hlength : items.length = times.length) :
    (timed items times).map (fun entry => (entry.1, entry.2.1)) = items := by
  induction items generalizing times with
  | nil => rfl
  | cons item _ ih =>
    cases times with
    | nil => cases hlength
    | cons =>
      exact congrArg (item :: ·) (ih (Nat.succ.inj hlength))

omit [HasCost Item] in
theorem le_lastOf {clock : ℕ} {items : List (Item × Metadata × ℕ)}
    (hintime : InTime clock items) : clock ≤ lastOf clock items := by
  induction items generalizing clock with
  | nil => exact le_rfl
  | cons _ _ ih => exact hintime.1.trans (ih hintime.2)

theorem submitMany_epoch (former : Former Item Metadata)
    (items : List (Item × Metadata × ℕ)) : (former.submitMany items).epoch = former.epoch := by
  simp only [Former.submitMany, Former.refreshIfEmpty]
  split_ifs <;> rfl

omit [HasCost Item] in
theorem submittedFor_append (scheduler : Scheduler Item Metadata) (key : BatcherKey)
    (items : List (Item × Metadata)) (other : BatcherKey) :
    submittedFor { scheduler with
      submitted := scheduler.submitted ++ items.map fun item => (key, item) } other =
      submittedFor scheduler other ++ if other = key then items else [] := by
  simp only [submittedFor, filter_append, List.map_append, filter_map]
  split_ifs with hother
  · simp [hother, Function.comp_def]
  · simp [Ne.symm hother, Function.comp_def]

theorem pendingFor_of_entry (hrouted : Routed scheduler)
    (hentry : scheduler.entries[handle]? = some entry) :
    pendingFor scheduler entry.key = entry.former.inner.pending.map pairOf := by
  have hlookup := (hrouted.indexed entry.key handle).2 (keyAt_of_entry hentry)
  simp [pendingFor, hlookup, pendingAt, hentry]

section

variable (horderly : Orderly scheduler)
include horderly

/-- What the new former of an entry has waiting is balanced by what was handed out of the old
one and what came in. -/
theorem Orderly.balanced
    (hentry : scheduler.entries[handle]? = some entry) (former : Former Item Metadata)
    (taken added : List (Item × Metadata))
    (hown : ∀ delivered submitted,
      Balanced delivered (entry.former.inner.pending.map pairOf) submitted →
        Balanced (delivered ++ taken) (former.inner.pending.map pairOf) (submitted ++ added))
    (other : BatcherKey) :
    Balanced (deliveredFor scheduler other ++ if other = entry.key then taken else [])
      (pendingFor { scheduler with entries := withFormer scheduler.entries handle former } other)
      (submittedFor scheduler other ++ if other = entry.key then added else []) := by
  have hbefore := horderly.conserved other
  rw [pendingFor_withFormer horderly.routed (keyAt_of_entry hentry)]
  by_cases hother : other = entry.key
  · subst hother
    rw [pendingFor_of_entry horderly.routed hentry] at hbefore
    simpa using hown _ _ hbefore
  · simpa [hother] using hbefore

theorem append_orderly (hcall : scheduler.tasks.lookup task = some (.holding key handle items))
    (hstep : scheduler.append task key handle items times = some after) : Orderly after := by
  have hkey : keyAt scheduler handle = some key := horderly.routed.placed _ _ hcall
  obtain ⟨entry, hentry, rfl⟩ := map_eq_some_iff.1 hkey
  simp only [Scheduler.append, hentry, ite_none_right_eq_some] at hstep
  obtain ⟨⟨hlength, hintime⟩, hafter⟩ := hstep
  cases hafter
  obtain ⟨hsound, hepoch⟩ := horderly.routed.sound entry (mem_of_getElem? hentry)
  have hrouted := (horderly.routed.withFormer handle (le_lastOf hintime)
    (submitMany_sound hsound hintime) ((submitMany_epoch _ _).trans hepoch)).eraseTask task
  refine ⟨{ hrouted with }, fun other => ?_, horderly.paired⟩
  have hpending : ((entry.former.submitMany (timed items times)).inner.pending).map pairOf =
      entry.former.inner.pending.map pairOf ++ items := by
    rw [submitMany_pending, List.map_append, List.map_map]
    exact congrArg (entry.former.inner.pending.map pairOf ++ ·) (map_timed hlength)
  have hbalanced := horderly.balanced hentry (entry.former.submitMany (timed items times)) [] items
    (fun delivered submitted hbefore => by
      rw [hpending, append_nil]
      exact hbefore.add items) other
  rw [ite_self, append_nil, ← submittedFor_append] at hbalanced
  exact hbalanced

theorem scan_orderly (hstep : scheduler.scan task mode order = some after) : Orderly after := by
  simp only [Scheduler.scan, ite_none_right_eq_some] at hstep
  cases hstep.2
  exact horderly.insertTask trivial nofun

theorem look_orderly (task : ℕ) (remaining : List ℕ) (best : Option (ℕ × ℕ)) (mode : Consume) :
    Orderly (scheduler.look task remaining best mode) := by
  unfold Scheduler.look
  split
  · exact horderly.insertTask trivial nofun
  · exact horderly.insertTask trivial nofun
  · exact horderly.eraseTask task

end

omit [HasCost Item] in
theorem deliveredFor_append (scheduler : Scheduler Item Metadata) (key : BatcherKey)
    (batch : FormattedBatch Item Metadata) (other : BatcherKey) :
    deliveredFor { scheduler with delivered := scheduler.delivered ++ [(key, batch)] } other =
      deliveredFor scheduler other ++
        if other = key then batch.items.zip batch.metadata else [] := by
  simp only [deliveredFor, filter_append, List.map_append, handedOut, flatMap_append]
  split_ifs with hother
  · simp [hother]
  · simp [Ne.symm hother]

variable (horderly : Orderly scheduler)
include horderly

/-- A cut from the former of a key, reported under the key. -/
theorem report_orderly (task : ℕ) (hentry : scheduler.entries[handle]? = some entry)
    (hcut : Cut entry.former result) :
    Orderly (scheduler.report task entry.key handle result) := by
  obtain ⟨hsound, hepoch⟩ := horderly.routed.sound entry (mem_of_getElem? hentry)
  have hrouted := (horderly.routed.withFormer handle le_rfl (hcut.sound _ hsound)
    (hcut.epoch.trans hepoch)).eraseTask task
  refine ⟨{ hrouted with }, ?_, ?_⟩
  · intro other
    have hbalanced := horderly.balanced hentry result.2 (result.1.items.zip result.1.metadata) []
      (fun _ submitted hbefore => (append_nil submitted).symm ▸ hbefore.take hcut.ordered) other
    rw [ite_self, append_nil, ← deliveredFor_append] at hbalanced
    exact hbalanced
  · refine forall_mem_append.2 ⟨horderly.paired, forall_mem_singleton.2 ?_⟩
    exact hcut.paired

section

variable (hstep : scheduler.flush task handle mode now = some after)
include hstep

omit horderly in
/-- A flush waits, gives up or reports a batch. -/
theorem flush_cases : scheduler.clock ≤ now ∧ (after = { scheduler with clock := now } ∨
      after = { scheduler with clock := now, tasks := scheduler.tasks.erase task } ∨
      ∃ entry immediate result, scheduler.entries[handle]? = some entry ∧
        entry.former.getBatch immediate now = some result ∧
        after = { scheduler with clock := now }.report task entry.key handle result) := by
  cases hentry : scheduler.entries[handle]? with
  | none => simp [Scheduler.flush, hentry] at hstep
  | some entry =>
    simp only [Scheduler.flush, hentry, ite_none_right_eq_some] at hstep
    refine ⟨hstep.1, ?_⟩
    cases mode <;> dsimp only at hstep <;> split at hstep <;> cases hstep.2
    · exact .inr (.inr ⟨entry, _, _, rfl, ‹_›, rfl⟩)
    · exact .inl rfl
    · exact .inr (.inr ⟨entry, _, _, rfl, ‹_›, rfl⟩)
    · exact .inr (.inl rfl)

theorem flush_orderly : Orderly after := by
  obtain ⟨hclock, hcases⟩ := flush_cases hstep
  have hlater := horderly.laterClock hclock
  obtain rfl | rfl | ⟨entry, immediate, result, hentry, hbatch, rfl⟩ := hcases
  · exact hlater
  · exact hlater.eraseTask task
  · exact report_orderly hlater task hentry (getBatch_cut hbatch)

end

theorem drainSame_orderly
    (hstep : scheduler.drainSame task op lora maxItems = some after) : Orderly after := by
  simp only [Scheduler.drainSame, ite_none_right_eq_some] at hstep
  obtain ⟨-, hafter⟩ := hstep
  cases hlookup : scheduler.batchers.lookup (routeKey op lora) with
  | none =>
    simp only [hlookup] at hafter
    cases hafter
    exact horderly
  | some handle =>
    simp only [hlookup] at hafter
    cases hafter
    exact horderly.insertTask ((horderly.routed.indexed _ handle).1 hlookup) nofun

theorem drain_orderly (hcall : scheduler.tasks.lookup task = some (.draining key handle maxItems))
    (hstep : scheduler.drain task key handle maxItems = some after) : Orderly after := by
  have hkey : keyAt scheduler handle = some key := horderly.routed.placed _ _ hcall
  obtain ⟨entry, hentry, rfl⟩ := map_eq_some_iff.1 hkey
  simp only [Scheduler.drain, hentry] at hstep
  cases hbatch : entry.former.tryDrainUpTo maxItems with
  | none =>
    simp only [hbatch] at hstep
    cases hstep
    exact horderly.eraseTask task
  | some =>
    simp only [hbatch] at hstep
    cases hstep
    exact report_orderly horderly task hentry (tryDrainUpTo_cut hbatch)

/-- New limits leave what is pending alone. -/
theorem updateConfig_orderly (config : BatchConfig)
    (hentry : scheduler.entries[handle]? = some entry) :
    Orderly { scheduler with
      entries := withFormer scheduler.entries handle (entry.former.updateConfig config) } := by
  obtain ⟨⟨htotal, hfirst, hlast, hhead, harrived⟩, hepoch⟩ :=
    horderly.routed.sound entry (mem_of_getElem? hentry)
  have hsound : Sound (entry.former.updateConfig config) scheduler.clock :=
    ⟨htotal, hfirst, hlast, hhead, harrived⟩
  refine ⟨horderly.routed.withFormer handle le_rfl hsound hepoch, ?_, horderly.paired⟩
  intro other
  have hbalanced := horderly.balanced hentry (entry.former.updateConfig config) [] []
    (fun delivered submitted hbefore => by
      rw [append_nil, append_nil]
      exact hbefore) other
  rw [ite_self, append_nil, append_nil] at hbalanced
  exact hbalanced

theorem propagate_orderly
    (hstep : scheduler.propagate task config remaining = some after) : Orderly after := by
  cases remaining with
  | nil =>
    cases hstep
    exact horderly.eraseTask task
  | cons handle =>
    cases hentry : scheduler.entries[handle]? with
    | none => simp [Scheduler.propagate, hentry] at hstep
    | some =>
      simp only [Scheduler.propagate, hentry] at hstep
      cases hstep
      exact (updateConfig_orderly horderly config hentry).insertTask trivial nofun

theorem advance_orderly (hcall : scheduler.tasks.lookup task = some call)
    (hstep : scheduler.advance task times order call = some after) : Orderly after := by
  cases call with
  | missed key items =>
    cases hcreation : scheduler.creation with
    | none =>
      simp only [Scheduler.advance, hcreation] at hstep
      exact lockMap_orderly horderly hcall hstep
    | some creation =>
      obtain ⟨owner, config⟩ := creation
      simp only [Scheduler.advance, hcreation, ite_none_right_eq_some] at hstep
      obtain ⟨rfl, hafter⟩ := hstep
      cases config with
      | none =>
        cases hafter
        exact readConfig_orderly horderly hcreation
      | some config =>
        cases hafter
        exact insertEntry_orderly horderly owner config items
          (horderly.routed.creating _ key items hcreation hcall)
  | holding => exact append_orderly horderly hcall hstep
  | scanning remaining best mode =>
    cases hstep
    exact look_orderly horderly task remaining best mode
  | picked =>
    simp only [Scheduler.advance] at hstep
    split at hstep
    · exact flush_orderly horderly hstep
    · cases hstep
  | draining => exact drain_orderly horderly hcall hstep
  | stepped waitMs batchCost =>
    cases hstep
    exact (horderly.tuned scheduler.controller
      (limited scheduler.config waitMs batchCost)).insertTask trivial nofun
  | configured =>
    simp only [Scheduler.advance, Scheduler.snapshot, ite_none_right_eq_some] at hstep
    cases hstep.2
    exact horderly.insertTask trivial nofun
  | propagating => exact propagate_orderly horderly hstep

theorem step_orderly (hstep : step half tuning scheduler event = some after) : Orderly after := by
  cases event with
  | submit => exact submit_orderly horderly hstep
  | consume => exact scan_orderly horderly hstep
  | drainSame => exact drainSame_orderly horderly hstep
  | complete task now observedP50Ms fillRatio batchSize =>
    obtain ⟨-, hafter⟩ := ite_none_right_eq_some.1 hstep
    cases hafter
    exact (horderly.tuned (scheduler.controller.step half tuning now observedP50Ms fillRatio
      (some batchSize)) scheduler.config).insertTask trivial nofun
  | advance =>
    obtain ⟨call, hcall, hadvance⟩ := bind_eq_some_iff.1 hstep
    exact advance_orderly horderly hcall hadvance

end Steps

/-! ## The oldest head -/

section Picking

/-- The best of the heads that were read so far. -/
structure Best (headOf : ℕ → ℕ) (seen : List ℕ) (best : Option (ℕ × ℕ)) : Prop where
  missing : best = none → ∀ handle ∈ seen, headOf handle = 0
  found : ∀ least handle, best = some (least, handle) → handle ∈ seen ∧ headOf handle = least ∧
    least ≠ 0 ∧ ∀ other ∈ seen, headOf other ≠ 0 → least ≤ headOf other

theorem Best.consider (hbest : Best headOf seen best) (handle : ℕ) :
    Best headOf (seen ++ [handle]) (consider best (headOf handle) handle) := by
  by_cases hzero : headOf handle = 0
  · simp only [SchedulerEngine.consider, hzero, if_true]
    refine ⟨?_, ?_⟩
    · intro hnone
      exact forall_mem_append.2 ⟨hbest.missing hnone, forall_mem_singleton.2 hzero⟩
    · intro least chosen hsome
      obtain ⟨hmem, hhead, hpositive, hleast⟩ := hbest.found least chosen hsome
      refine ⟨mem_append_left _ hmem, hhead, hpositive, forall_mem_append.2 ⟨hleast, ?_⟩⟩
      exact forall_mem_singleton.2 fun hne => absurd hzero hne
  · cases best with
    | none =>
      rw [SchedulerEngine.consider, if_neg hzero]
      refine ⟨nofun, ?_⟩
      intro least chosen hsome
      obtain ⟨rfl, rfl⟩ := Prod.mk.inj (some.inj hsome)
      refine ⟨by simp, rfl, hzero, forall_mem_append.2 ⟨?_, forall_mem_singleton.2 fun _ => le_rfl⟩⟩
      intro other hold hne
      exact absurd (hbest.missing rfl other hold) hne
    | some kept =>
      obtain ⟨bound, holder⟩ := kept
      obtain ⟨hmem, hhead, hpositive, hleast⟩ := hbest.found bound holder rfl
      rw [SchedulerEngine.consider, if_neg hzero]
      refine ⟨fun hnone => by split_ifs at hnone, ?_⟩
      intro least chosen hsome
      split_ifs at hsome with hless
      · obtain ⟨rfl, rfl⟩ := Prod.mk.inj (some.inj hsome)
        refine ⟨by simp, rfl, hzero, forall_mem_append.2 ⟨?_, by simp⟩⟩
        intro other hold hne
        exact hless.le.trans (hleast other hold hne)
      · obtain ⟨rfl, rfl⟩ := Prod.mk.inj (some.inj hsome)
        refine ⟨mem_append_left _ hmem, hhead, hpositive, forall_mem_append.2 ⟨hleast, ?_⟩⟩
        exact forall_mem_singleton.2 fun _ => Nat.le_of_not_lt hless

theorem best_foldl (headOf : ℕ → ℕ) (order : List ℕ) : Best headOf order
      (order.foldl (fun best handle => consider best (headOf handle) handle) none) := by
  induction order using List.reverseRecOn with
  | nil => exact ⟨fun _ => nofun, nofun⟩
  | append_singleton _ last ih =>
    rw [foldl_append]
    exact ih.consider last

omit [HasCost Item] in
theorem timestampNs_mono (epoch : ℕ) : Monotone (timestampNs epoch) := by
  intro earlier later hle
  unfold timestampNs
  omega

section

variable (hrouted : Routed scheduler)
include hrouted

theorem mem_handles_iff (handle : ℕ) :
    handle ∈ scheduler.handles ↔ ∃ entry, scheduler.entries[handle]? = some entry := by
  constructor
  · intro hmem
    obtain ⟨entry, hentry, rfl⟩ := mem_map.1 hmem
    have hkey := (hrouted.indexed entry.1 entry.2).1 (mem_lookup_iff.2 hentry)
    obtain ⟨found, hfound, -⟩ := map_eq_some_iff.1 hkey
    exact ⟨found, hfound⟩
  · rintro ⟨entry, hentry⟩
    have hlookup := (hrouted.indexed entry.key handle).2 (keyAt_of_entry hentry)
    exact mem_map.2 ⟨⟨entry.key, handle⟩, mem_lookup_iff.1 hlookup, rfl⟩

section

variable (hentry : scheduler.entries[handle]? = some entry)
include hentry

/-- The head of a former is the time stamp of its oldest request. -/
theorem headAt_eq : scheduler.headAt handle = ((arrivals entry.former.inner.pending).min?.map
      (timestampNs scheduler.epoch)).getD 0 := by
  obtain ⟨hsound, hepoch⟩ := hrouted.sound entry (mem_of_getElem? hentry)
  rw [Scheduler.headAt, hentry, map_some, getD_some, hsound.head, hepoch]

theorem headAt_eq_zero_iff : scheduler.headAt handle = 0 ↔ entry.former.inner.pending = [] := by
  have hsound := (hrouted.sound entry (mem_of_getElem? hentry)).1
  rw [Scheduler.headAt, hentry]
  exact hsound.head_eq_zero_iff

/-- The head is at most the time stamp of every pending request. -/
theorem headAt_le (hpending : request ∈ entry.former.inner.pending) :
    scheduler.headAt handle ≤ timestampNs scheduler.epoch request.arrivalTime := by
  rw [headAt_eq hrouted hentry]
  cases hmin : (arrivals entry.former.inner.pending).min? with
  | none => exact Nat.zero_le _
  | some =>
    have hleast := (List.min?_eq_some_iff.1 hmin).2
    exact timestampNs_mono _ (hleast _ (mem_map_of_mem hpending))

theorem exists_request_of_headAt (hhead : scheduler.headAt handle ≠ 0) :
    ∃ request ∈ entry.former.inner.pending,
      timestampNs scheduler.epoch request.arrivalTime = scheduler.headAt handle := by
  rw [headAt_eq hrouted hentry] at hhead ⊢
  cases hmin : (arrivals entry.former.inner.pending).min? with
  | none => simp [hmin] at hhead
  | some =>
    obtain ⟨request, hmem, rfl⟩ := mem_map.1 (List.min?_eq_some_iff.1 hmin).1
    exact ⟨request, hmem, rfl⟩

end

theorem pickOldest_eq_none_iff (horder : order.Perm scheduler.handles) :
    scheduler.pickOldest order = none ↔
      ∀ entry ∈ scheduler.entries, entry.former.inner.pending = [] := by
  have hbest := best_foldl scheduler.headAt order
  rw [Scheduler.pickOldest, map_eq_none_iff]
  constructor
  · intro hnone entry hmem
    obtain ⟨handle, hentry⟩ := List.getElem?_of_mem hmem
    have hlisted := horder.mem_iff.2 ((mem_handles_iff hrouted handle).2 ⟨entry, hentry⟩)
    exact (headAt_eq_zero_iff hrouted hentry).1 (hbest.missing hnone handle hlisted)
  · intro hempty
    cases hfound : order.foldl
        (fun best handle => consider best (scheduler.headAt handle) handle) none with
    | none => rfl
    | some chosen =>
      obtain ⟨hmem, hhead, hpositive, -⟩ := hbest.found chosen.1 chosen.2 hfound
      obtain ⟨entry, hentry⟩ := (mem_handles_iff hrouted _).1 (horder.mem_iff.1 hmem)
      have hzero := (headAt_eq_zero_iff hrouted hentry).2 (hempty entry (mem_of_getElem? hentry))
      exact absurd (hhead.symm.trans hzero) hpositive

end

/-- The former holds a request with the least time stamp of all that are pending. -/
def HoldsOldest (scheduler : Scheduler Item Metadata) (handle : ℕ) : Prop :=
  ∃ entry, scheduler.entries[handle]? = some entry ∧ ∃ request ∈ entry.former.inner.pending,
      ∀ other ∈ scheduler.entries, ∀ waiting ∈ other.former.inner.pending,
        timestampNs scheduler.epoch request.arrivalTime ≤
          timestampNs scheduler.epoch waiting.arrivalTime

theorem pickOldest_holdsOldest (hrouted : Routed scheduler) (horder : order.Perm scheduler.handles)
    (hpick : scheduler.pickOldest order = some handle) : HoldsOldest scheduler handle := by
  obtain ⟨chosen, hfound, rfl⟩ := map_eq_some_iff.1 hpick
  obtain ⟨hmem, hhead, hpositive, hleast⟩ :=
    (best_foldl scheduler.headAt order).found chosen.1 chosen.2 hfound
  obtain ⟨entry, hentry⟩ := (mem_handles_iff hrouted _).1 (horder.mem_iff.1 hmem)
  obtain ⟨request, hrequest, hstamp⟩ :=
    exists_request_of_headAt hrouted hentry (hhead.trans_ne hpositive)
  refine ⟨entry, hentry, request, hrequest, ?_⟩
  intro other hother waiting hwaiting
  obtain ⟨place, hplace⟩ := List.getElem?_of_mem hother
  have hlisted := horder.mem_iff.2 ((mem_handles_iff hrouted place).2 ⟨other, hplace⟩)
  have hnonempty : scheduler.headAt place ≠ 0 := fun hzero => by
    rw [(headAt_eq_zero_iff hrouted hplace).1 hzero] at hwaiting
    cases hwaiting
  calc timestampNs scheduler.epoch request.arrivalTime = chosen.1 := hstamp.trans hhead
    _ ≤ scheduler.headAt place := hleast place hlisted hnonempty
    _ ≤ timestampNs scheduler.epoch waiting.arrivalTime := headAt_le hrouted hplace hwaiting

end Picking

/-! ## What the calls brought -/

section Accounting

/-- What the call was made to submit and no former has yet. -/
def carried : Task Item Metadata → List (BatcherKey × Item × Metadata)
  | .missed key items => items.map fun item => (key, item)
  | .holding key _ items => items.map fun item => (key, item)
  | _ => []

def held (scheduler : Scheduler Item Metadata) : List (BatcherKey × Item × Metadata) :=
  scheduler.tasks.entries.flatMap fun entry => carried entry.2

/-- What the caller of the event submits, under the key of its route. -/
def asked : Event Item Metadata → List (BatcherKey × Item × Metadata)
  | .submit _ op lora items => items.map fun item => (routeKey op lora, item)
  | _ => []

/-- A step of a call keeps what the call carries or gives all of it to a former. -/
inductive Moves (scheduler after : Scheduler Item Metadata) (task : ℕ)
    (call : Task Item Metadata) : Prop where
  | stays (htasks : after.tasks = scheduler.tasks) (hsame : after.submitted = scheduler.submitted)
  | goesOn (next : Task Item Metadata) (htasks : after.tasks = scheduler.tasks.insert task next)
      (hcarried : carried next = carried call)
      (hsame : after.submitted = scheduler.submitted)
  | returns (htasks : after.tasks = scheduler.tasks.erase task)
      (hgiven : after.submitted = scheduler.submitted ++ carried call)

variable {after : Scheduler Item Metadata} {task : ℕ}

omit [HasCost Item] in
theorem lockMap_moves (hstep : scheduler.lockMap task key items = some after) :
    Moves scheduler after task (.missed key items) := by
  simp only [Scheduler.lockMap, ite_none_right_eq_some] at hstep
  obtain ⟨-, hafter⟩ := hstep
  split at hafter
  · cases hafter
    exact .goesOn _ rfl rfl rfl
  · cases hafter
    exact .stays rfl rfl

theorem append_moves (hstep : scheduler.append task key handle items times = some after) :
    Moves scheduler after task (.holding key handle items) := by
  unfold Scheduler.append at hstep
  split at hstep
  · cases hstep
  · obtain ⟨-, hafter⟩ := ite_none_right_eq_some.1 hstep
    cases hafter
    exact .returns rfl rfl

theorem advance_moves (hstep : scheduler.advance task times order call = some after) :
    Moves scheduler after task call := by
  cases call with
  | missed key items =>
    simp only [Scheduler.advance] at hstep
    split at hstep
    · exact lockMap_moves hstep
    · obtain ⟨-, hafter⟩ := ite_none_right_eq_some.1 hstep
      split at hafter <;> cases hafter
      · exact .stays rfl rfl
      · exact .goesOn _ rfl rfl rfl
  | holding => exact append_moves hstep
  | scanning remaining best mode =>
    cases hstep
    unfold Scheduler.look
    split
    · exact .goesOn _ rfl rfl rfl
    · exact .goesOn _ rfl rfl rfl
    · exact .returns rfl (append_nil _).symm
  | picked =>
    simp only [Scheduler.advance] at hstep
    split at hstep
    · obtain ⟨-, rfl | rfl | ⟨_, _, _, -, -, rfl⟩⟩ := flush_cases hstep
      · exact .stays rfl rfl
      · exact .returns rfl (append_nil _).symm
      · exact .returns rfl (append_nil _).symm
    · cases hstep
  | draining =>
    simp only [Scheduler.advance, Scheduler.drain] at hstep
    split at hstep
    · cases hstep
    · split at hstep <;> cases hstep
      · exact .returns rfl (append_nil _).symm
      · exact .returns rfl (append_nil _).symm
  | stepped =>
    cases hstep
    exact .goesOn _ rfl rfl rfl
  | configured config =>
    obtain ⟨-, hafter⟩ := ite_none_right_eq_some.1 hstep
    cases hafter
    exact .goesOn _ rfl rfl rfl
  | propagating config remaining =>
    cases remaining with
    | nil =>
      cases hstep
      exact .returns rfl (append_nil _).symm
    | cons =>
      simp only [Scheduler.advance, Scheduler.propagate] at hstep
      split at hstep <;> cases hstep
      exact .goesOn _ rfl rfl rfl

/-- A call that begins carries what it was asked to submit. -/
theorem begin_step (hstep : step half tuning scheduler event = some after)
    (hbegins : ∀ task times order, event ≠ .advance task times order) :
    after.submitted = scheduler.submitted ∧ (after.tasks = scheduler.tasks ∧ asked event = [] ∨
      ∃ task call, scheduler.tasks.lookup task = none ∧
        after.tasks = scheduler.tasks.insert task call ∧ carried call = asked event) := by
  cases event with
  | submit task op lora items =>
    obtain ⟨⟨hnew, -⟩, hafter⟩ := ite_none_right_eq_some.1 hstep
    cases hafter
    refine ⟨rfl, .inr ⟨task, _, hnew, rfl, ?_⟩⟩
    unfold Scheduler.found
    split <;> rfl
  | consume task =>
    obtain ⟨⟨hnew, -⟩, hafter⟩ := ite_none_right_eq_some.1 hstep
    cases hafter
    exact ⟨rfl, .inr ⟨task, _, hnew, rfl, rfl⟩⟩
  | drainSame task =>
    obtain ⟨⟨hnew, -⟩, hafter⟩ := ite_none_right_eq_some.1 hstep
    split at hafter <;> cases hafter
    · exact ⟨rfl, .inr ⟨task, _, hnew, rfl, rfl⟩⟩
    · exact ⟨rfl, .inl ⟨rfl, rfl⟩⟩
  | complete task =>
    obtain ⟨hnew, hafter⟩ := ite_none_right_eq_some.1 hstep
    cases hafter
    exact ⟨rfl, .inr ⟨task, _, hnew, rfl, rfl⟩⟩
  | advance task times order => exact absurd rfl (hbegins task times order)

variable [DecidableEq Item] [DecidableEq Metadata]

/-- How often the entry is with the formers or with a call in progress. -/
def accounted (entry : BatcherKey × Item × Metadata) (scheduler : Scheduler Item Metadata) : ℕ :=
  scheduler.submitted.count entry +
    total (fun call => (carried call).count entry) scheduler.tasks

theorem step_accounted (hstep : step half tuning scheduler event = some after)
    (entry : BatcherKey × Item × Metadata) :
    accounted entry after = accounted entry scheduler + (asked event).count entry := by
  by_cases hbegins : ∀ task times order, event ≠ .advance task times order
  · obtain ⟨hsame, ⟨htasks, hnothing⟩ | ⟨task, call, hnew, htasks, hcarried⟩⟩ :=
      begin_step hstep hbegins
    · simp [accounted, hsame, htasks, hnothing]
    · rw [accounted, accounted, hsame, htasks, total_insert_new _ hnew, hcarried]
      omega
  · simp only [ne_eq, not_forall, not_not] at hbegins
    obtain ⟨task, times, order, rfl⟩ := hbegins
    obtain ⟨call, hcall, hadvance⟩ := bind_eq_some_iff.1 hstep
    cases advance_moves hadvance with
    | stays htasks hsame => simp [accounted, hsame, htasks, asked]
    | goesOn next htasks hcarried hsame =>
      have htotal := total_insert_replace (fun call => (carried call).count entry) hcall next
      rw [hcarried] at htotal
      simp only [accounted, hsame, htasks, asked, count_nil]
      omega
    | returns htasks hgiven =>
      have htotal := total_erase (fun call => (carried call).count entry) hcall
      simp only [accounted, hgiven, htasks, asked, count_nil, count_append]
      omega

theorem run_accounted (hrun : run (step half tuning) scheduler events = some after)
    (entry : BatcherKey × Item × Metadata) :
    accounted entry after = accounted entry scheduler + (events.flatMap asked).count entry := by
  induction events generalizing scheduler with
  | nil =>
    cases hrun
    rfl
  | cons event rest ih =>
    obtain ⟨next, hnext, hrest⟩ := (run_cons_eq_some ..).1 hrun
    rw [ih hrest, step_accounted hnext entry, flatMap_cons, count_append, Nat.add_assoc]

end Accounting

/-! ## Whole runs -/

/-- Lists that agree on the requests of every cost have the same requests. -/
theorem perm_of_ofCost {first second : List (Item × Metadata)}
    (hsame : ∀ price, ofCost price first = ofCost price second) : first.Perm second := by
  classical
  rw [perm_iff_count]
  intro pair
  have hcount := congrArg (List.count pair) (hsame (cost pair.1))
  rwa [ofCost, ofCost, count_filter (by simp), count_filter (by simp)] at hcount

/-- Nothing of what the callers submitted is lost on the way to a former. -/
theorem run_taken (config : BatchConfig) (controller : Controller) (epoch : ℕ)
    (hrun : run (step half tuning) (Scheduler.build config controller epoch) events =
      some scheduler) :
    (events.flatMap asked).Perm (scheduler.submitted ++ held scheduler) := by
  classical
  rw [perm_iff_count]
  intro entry
  have haccounted := run_accounted hrun entry
  have hheld : (held scheduler).count entry =
      total (fun call => (carried call).count entry) scheduler.tasks := count_flatMap
  rw [count_append, hheld]
  simpa [accounted, Scheduler.build] using haccounted.symm

/-- What holds in every state, with what the calls were made to submit. -/
structure Delivers (asked : List (BatcherKey × Item × Metadata))
    (scheduler : Scheduler Item Metadata) : Prop where
  taken : asked.Perm (scheduler.submitted ++ held scheduler)
  once : ∀ key, (deliveredFor scheduler key ++ pendingFor scheduler key).Perm
    (submittedFor scheduler key)
  ordered : ∀ key price, ofCost price (deliveredFor scheduler key) ++
    ofCost price (pendingFor scheduler key) = ofCost price (submittedFor scheduler key)
  reported : ∀ key batch, (key, batch) ∈ scheduler.delivered →
    batch.items.length = batch.metadata.length ∧
      ∀ pair ∈ batch.items.zip batch.metadata, (key, pair) ∈ scheduler.submitted
  nothingPending : scheduler.idle → ∀ order, order.Perm scheduler.handles →
    (scheduler.pickOldest order = none ↔
      ∀ entry ∈ scheduler.entries, entry.former.inner.pending = [])
  oldest : scheduler.idle → ∀ order, order.Perm scheduler.handles →
    ∀ handle, scheduler.pickOldest order = some handle → HoldsOldest scheduler handle

theorem Orderly.once (horderly : Orderly scheduler)
    (key : BatcherKey) : (deliveredFor scheduler key ++ pendingFor scheduler key).Perm
      (submittedFor scheduler key) := by
  refine perm_of_ofCost fun price => ?_
  rw [ofCost_append]
  exact horderly.conserved key price

/-- A batch has only what was submitted for its key. -/
theorem Orderly.reported (horderly : Orderly scheduler)
    (hdelivered : (key, batch) ∈ scheduler.delivered)
    (hpair : pair ∈ batch.items.zip batch.metadata) : (key, pair) ∈ scheduler.submitted := by
  have hmem : pair ∈ deliveredFor scheduler key := by
    refine mem_flatMap.2 ⟨batch, ?_, hpair⟩
    exact mem_map.2 ⟨(key, batch), mem_filter.2 ⟨hdelivered, by simp⟩, rfl⟩
  have hsubmitted := (horderly.once key).mem_iff.1 (mem_append_left _ hmem)
  obtain ⟨entry, hentry, rfl⟩ := mem_map.1 hsubmitted
  obtain ⟨hlisted, hkey⟩ := mem_filter.1 hentry
  rwa [← of_decide_eq_true hkey]

theorem Orderly.delivers {asked : List (BatcherKey × Item × Metadata)}
    (horderly : Orderly scheduler)
    (htaken : asked.Perm (scheduler.submitted ++ held scheduler)) : Delivers asked scheduler where
  taken := htaken
  once := horderly.once
  ordered := horderly.conserved
  reported := fun _ _ hdelivered =>
    ⟨horderly.paired _ hdelivered, fun _ hpair => horderly.reported hdelivered hpair⟩
  nothingPending := fun _ _ horder => pickOldest_eq_none_iff horderly.routed horder
  oldest := fun _ _ horder _ hpick => pickOldest_holdsOldest horderly.routed horder hpick

/-- Whatever order the steps of the calls come in, each request is with a call in progress or
with the former of its route, which hands it out once or still has it, batches are of one key
and in order among equal costs, and with no call in progress a scan picks a former with the
oldest time stamp. -/
theorem run_delivers (half : ℚ → ℚ) (tuning : Tuning) (config : BatchConfig)
    (controller : Controller) (epoch : ℕ) {events : List (Event Item Metadata)}
    {scheduler : Scheduler Item Metadata}
    (hrun : run (step half tuning) (Scheduler.build config controller epoch) events =
      some scheduler) :
    Delivers (events.flatMap asked) scheduler :=
  (run_invariant Orderly (fun _ _ _ horderly hstep => step_orderly horderly hstep)
    (build_orderly config controller epoch) hrun).delivers (run_taken config controller epoch hrun)

section Samples

def sampleConfig : BatchConfig := ⟨4, 8, 20, 5, 1 / 2⟩

/-- Two calls race to make the former of one key; a small batch and a drain follow. -/
def racingCalls : List (Event SampleItem ℕ) :=
  [.submit 0 .encode .base [(⟨3, none⟩, 1)], .submit 1 .encode .base [(⟨3, none⟩, 2)],
    .advance 1 [] [], .advance 1 [] [], .advance 1 [] [], .advance 0 [] [],
    .advance 0 [5] [], .advance 1 [6] [], .submit 2 .encode .base [(⟨1, none⟩, 3)],
    .advance 2 [7] [], .consume 3 (.next true) [0], .advance 3 [] [], .advance 3 [] [],
    .advance 3 [8] [], .drainSame 4 .encode .base 1, .advance 4 [] []]

/-- One request in the nanosecond of the epoch, one in the next. -/
def firstMoments : List (Event SampleItem ℕ) :=
  [.submit 0 .encode .base [(⟨1, none⟩, 1)], .advance 0 [] [], .advance 0 [] [],
    .advance 0 [] [], .advance 0 [3] [], .submit 1 .extract .base [(⟨1, none⟩, 2)],
    .advance 1 [] [], .advance 1 [] [], .advance 1 [] [], .advance 1 [4] []]

end Samples

theorem run_delivers_racingCalls : ∃ scheduler : Scheduler SampleItem ℕ,
      run (step id {}) (Scheduler.build sampleConfig (Controller.build {}) 3) racingCalls =
        some scheduler ∧
      (deliveredFor scheduler (.encode, .base)).map Prod.snd = [3, 1, 2] ∧
      Delivers (racingCalls.flatMap asked) scheduler := by
  refine ⟨_, (some_get ?_).symm, ?_, run_delivers _ _ _ _ _ (some_get _).symm⟩
  · decide +kernel
  · decide +kernel

/-- Time stamps begin at one, so the two requests tie, and the former that the map gives
first is picked although its request is the later one. -/
theorem firstMoments_tie : ∃ scheduler : Scheduler SampleItem ℕ,
      run (step id {}) (Scheduler.build sampleConfig (Controller.build {}) 3) firstMoments =
        some scheduler ∧
      scheduler.idle ∧ [1, 0].Perm scheduler.handles ∧
      scheduler.pickOldest [1, 0] = some 1 ∧
      scheduler.entries.map (fun entry => arrivals entry.former.inner.pending) = [[3], [4]] := by
  refine ⟨_, (some_get ?_).symm, ⟨AList.ext (isEmpty_iff.1 ?_), ?_⟩, ?_, ?_, ?_⟩
  all_goals decide +kernel

end SieCluster.SchedulerDelivery
