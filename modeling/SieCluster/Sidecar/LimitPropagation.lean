import SieCluster.Sidecar.SchedulerDelivery

/-!
# How new limits reach the formers

A completed batch steps the controller, writes the shared limits, takes a snapshot
of the formers and updates them one by one, each under a lock of its own.  A former
that is made meanwhile gets the limits that were current when it was made, or is in
the snapshot.  Two completions that overlap may write in the other order than they
stepped, and then the formers keep limits that the controller has left behind.
-/

namespace SieCluster.LimitPropagation

open Runs Totals Option AList
open BatchFormer AdaptiveController SchedulerEngine SchedulerDelivery

variable {Item Metadata : Type*}

/-- The limits are those that the controller reports. -/
def Current (controller : Controller) (config : BatchConfig) : Prop :=
  config.maxBatchWaitMs = controller.currentWaitMs ∧
    config.maxBatchCost = controller.currentBatchCost

instance (controller : Controller) (config : BatchConfig) : Decidable (Current controller config) :=
  inferInstanceAs (Decidable (_ ∧ _))

/-- The call has stepped the controller and not yet updated every former. -/
def isCompleting : Task Item Metadata → Bool
  | .stepped .. => true
  | .configured .. => true
  | .propagating .. => true
  | _ => false

section

variable (scheduler : Scheduler Item Metadata)

/-- A completion steps the controller when no other one is being passed on. -/
def Serial : Event Item Metadata → Prop
  | .complete .. => scheduler.tasks.entries.all (fun entry => !isCompleting entry.2) = true
  | _ => True

instance (scheduler : Scheduler Item Metadata) :
    (event : Event Item Metadata) → Decidable (Serial scheduler event)
  | .complete .. => inferInstanceAs (Decidable (_ = true))
  | .submit .. => isTrue trivial
  | .consume .. => isTrue trivial
  | .drainSame .. => isTrue trivial
  | .advance .. => isTrue trivial

def configAt (handle : ℕ) : Option BatchConfig :=
  scheduler.entries[handle]?.map fun entry => entry.former.inner.config

/-- The limits that a former being made has been given already. -/
def pendingConfig : Option BatchConfig :=
  scheduler.creation.bind Creation.config

/-- What a completion has brought about when it is at this step. -/
def Reached : Option (Task Item Metadata) → Prop
  | some (.stepped waitMs batchCost) =>
    waitMs = scheduler.controller.currentWaitMs ∧ batchCost = scheduler.controller.currentBatchCost
  | some (.configured config) =>
    Current scheduler.controller config ∧ Current scheduler.controller scheduler.config
  | some (.propagating config remaining) =>
    Current scheduler.controller config ∧ Current scheduler.controller scheduler.config ∧
      (∀ given ∈ pendingConfig scheduler, Current scheduler.controller given) ∧
      ∀ handle given, configAt scheduler handle = some given → handle ∉ remaining →
        Current scheduler.controller given
  | some _ => False
  | none =>
    Current scheduler.controller scheduler.config ∧
      (∀ given ∈ pendingConfig scheduler, Current scheduler.controller given) ∧
      ∀ handle given, configAt scheduler handle = some given → Current scheduler.controller given

end

/-- At most one completion is being passed on, and it is `current`. -/
structure Tracked (scheduler : Scheduler Item Metadata)
    (current : Option (ℕ × Task Item Metadata)) : Prop where
  only : ∀ task call, scheduler.tasks.lookup task = some call → isCompleting call = true →
    current = some (task, call)
  present : ∀ task call, current = some (task, call) →
    scheduler.tasks.lookup task = some call ∧ isCompleting call = true
  reached : Reached scheduler (current.map Prod.snd)

/-- A step that leaves the controller and all limits alone. -/
structure SameLimits (before after : Scheduler Item Metadata) : Prop where
  controller : after.controller = before.controller
  config : after.config = before.config
  pending : ∀ given ∈ pendingConfig after, given ∈ pendingConfig before
  configAt : ∀ handle, configAt after handle = configAt before handle

variable {call : Task Item Metadata}
  {current : Option (ℕ × Task Item Metadata)}

section Frames

theorem SameLimits.reached (hsame : SameLimits before after)
    {call : Option (Task Item Metadata)} (hreached : Reached before call) :
    Reached after call := by
  cases call with
  | none =>
    obtain ⟨hconfig, hpending, hformers⟩ := hreached
    simp only [Reached, hsame.controller, hsame.config, hsame.configAt]
    exact ⟨hconfig, fun given hmem => hpending given (hsame.pending given hmem), hformers⟩
  | some call =>
    cases call with
    | stepped =>
      simp only [Reached, hsame.controller]
      exact hreached
    | configured config =>
      simp only [Reached, hsame.controller, hsame.config]
      exact hreached
    | propagating config =>
      obtain ⟨hcurrent, hconfig, hpending, hformers⟩ := hreached
      simp only [Reached, hsame.controller, hsame.config, hsame.configAt]
      exact ⟨hcurrent, hconfig, fun given hmem => hpending given (hsame.pending given hmem),
        hformers⟩
    | _ => exact hreached

theorem configAt_withFormer (before : Scheduler Item Metadata) (handle other : ℕ)
    (former : Former Item Metadata) :
    configAt { before with entries := withFormer before.entries handle former } other =
      if other = handle then (configAt before other).map fun _ => former.inner.config
      else configAt before other := by
  by_cases hother : other = handle
  · simp only [configAt, getElem?_withFormer, hother, if_true, map_map]
    rfl
  · simp only [configAt, getElem?_withFormer, Ne.symm hother, hother, if_false, map_map]
    rfl

/-- A former that keeps its limits. -/
theorem configAt_withFormer_same (hentry : before.entries[handle]? = some entry)
    (hconfig : former.inner.config = entry.former.inner.config) (other : ℕ) :
    configAt { before with entries := withFormer before.entries handle former } other =
      configAt before other := by
  rw [configAt_withFormer]
  split_ifs with hother
  · rw [hother, configAt, hentry, map_some, map_some, hconfig]
  · rfl

end Frames

/-! ## The steps of other calls -/

variable {scheduler : Scheduler Item Metadata}

section Calls

theorem sameLimits_tasks (scheduler : Scheduler Item Metadata)
    (tasks : Table ℕ (Task Item Metadata)) :
    SameLimits scheduler { scheduler with tasks := tasks } :=
  ⟨rfl, rfl, fun _ hmem => hmem, fun _ => rfl⟩

variable (htracked : Tracked scheduler current)
include htracked

theorem Tracked.sameTasks (hsame : SameLimits scheduler after)
    (htasks : after.tasks = scheduler.tasks) : Tracked after current where
  only := htasks ▸ htracked.only
  present := htasks ▸ htracked.present
  reached := hsame.reached htracked.reached

section

variable (hold : ∀ old, scheduler.tasks.lookup task = some old → isCompleting old = false)
include hold

/-- The completion that is being passed on is not the call that moves. -/
theorem Tracked.present_other (hcurrent : current = some (other, found)) :
    other ≠ task ∧ scheduler.tasks.lookup other = some found ∧ isCompleting found = true := by
  obtain ⟨hlookup, hcompleting⟩ := htracked.present other found hcurrent
  refine ⟨?_, hlookup, hcompleting⟩
  rintro rfl
  rw [hold found hlookup] at hcompleting
  cases hcompleting

/-- A call that is not a completion goes to its next step. -/
theorem Tracked.insertTask (hcall : isCompleting call = false) :
    Tracked { scheduler with tasks := scheduler.tasks.insert task call } current where
  only := by
    refine forall_insert htracked.only fun hcompleting => ?_
    rw [hcall] at hcompleting
    cases hcompleting
  present := by
    intro other found hcurrent
    obtain ⟨hother, hlookup, hcompleting⟩ := htracked.present_other hold hcurrent
    exact ⟨lookup_insert_iff.2 (.inr ⟨hother, hlookup⟩), hcompleting⟩
  reached := (sameLimits_tasks _ _).reached htracked.reached

end

theorem Tracked.begin (hfree : scheduler.tasks.lookup task = none)
    (hcall : isCompleting call = false) :
    Tracked { scheduler with tasks := scheduler.tasks.insert task call } current := by
  refine htracked.insertTask ?_ hcall
  intro old hold
  cases hfree.symm.trans hold

theorem Tracked.goOn (hcall : scheduler.tasks.lookup task = some call)
    (hother : isCompleting call = false) (hnext : isCompleting next = false) :
    Tracked { scheduler with tasks := scheduler.tasks.insert task next } current := by
  refine htracked.insertTask ?_ hnext
  intro old hold
  cases hcall.symm.trans hold
  exact hother

/-- The last step of a call that is no completion. -/
theorem Tracked.finish (hsame : SameLimits scheduler after)
    (hcall : scheduler.tasks.lookup task = some call) (hother : isCompleting call = false)
    (htasks : after.tasks = scheduler.tasks.erase task) : Tracked after current where
  only := htasks ▸ forall_erase htracked.only task
  present := by
    intro other found hcurrent
    have hold : ∀ old, scheduler.tasks.lookup task = some old → isCompleting old = false := by
      intro old hold
      cases hcall.symm.trans hold
      exact hother
    obtain ⟨hother, hlookup, hcompleting⟩ := htracked.present_other hold hcurrent
    exact ⟨htasks ▸ lookup_erase_iff.2 ⟨hother, hlookup⟩, hcompleting⟩
  reached := hsame.reached htracked.reached

theorem submit_tracked
    (hstep : scheduler.submit task op lora items = some after) : Tracked after current := by
  simp only [Scheduler.submit, ite_none_right_eq_some] at hstep
  obtain ⟨⟨hfree, -, -⟩, hafter⟩ := hstep
  cases hafter
  refine htracked.begin hfree ?_
  unfold Scheduler.found
  split <;> rfl

theorem scan_tracked
    (hstep : scheduler.scan task mode order = some after) : Tracked after current := by
  simp only [Scheduler.scan, ite_none_right_eq_some] at hstep
  cases hstep.2
  exact htracked.begin hstep.1.1 rfl

theorem drainSame_tracked
    (hstep : scheduler.drainSame task op lora maxItems = some after) : Tracked after current := by
  simp only [Scheduler.drainSame, ite_none_right_eq_some] at hstep
  obtain ⟨⟨hfree, -, -⟩, hafter⟩ := hstep
  split at hafter
  · cases hafter
    exact htracked.begin hfree rfl
  · cases hafter
    exact htracked

theorem look_tracked (hcall : scheduler.tasks.lookup task = some (.scanning remaining best mode)) :
    Tracked (scheduler.look task remaining best mode) current := by
  unfold Scheduler.look
  split
  · exact htracked.goOn hcall rfl rfl
  · exact htracked.goOn hcall rfl rfl
  · exact htracked.finish (sameLimits_tasks _ _) hcall rfl rfl

theorem report_tracked (now : ℕ) (hentry : scheduler.entries[handle]? = some entry)
    (hcall : scheduler.tasks.lookup task = some call) (hother : isCompleting call = false)
    (hconfig : result.2.inner.config = entry.former.inner.config) :
    Tracked ({ scheduler with clock := now }.report task key handle result) current :=
  htracked.finish ⟨rfl, rfl, fun _ hmem => hmem, configAt_withFormer_same hentry hconfig⟩
    hcall hother rfl

end Calls

section Others

variable [HasCost Item]

theorem submitMany_config (former : Former Item Metadata) (items : List (Item × Metadata × ℕ)) :
    (former.submitMany items).inner.config = former.inner.config := by
  have happend : ∀ inner : BatchFormer.Inner Item Metadata,
      (appendAll inner items).config = inner.config := by
    induction items with
    | nil => exact fun _ => rfl
    | cons entry _ ih => exact fun inner => ih (appendItem inner entry.1 entry.2.1 entry.2.2)
  simp only [Former.submitMany, Former.refreshIfEmpty]
  split_ifs
  · rfl
  · exact happend former.inner
  · exact happend former.inner

theorem append_tracked (htracked : Tracked scheduler current)
    (hcall : scheduler.tasks.lookup task = some (.holding key handle items))
    (hstep : scheduler.append task key handle items times = some after) :
    Tracked after current := by
  cases hentry : scheduler.entries[handle]? with
  | none => simp [Scheduler.append, hentry] at hstep
  | some =>
    simp only [Scheduler.append, hentry, ite_none_right_eq_some] at hstep
    cases hstep.2
    exact htracked.finish ⟨rfl, rfl, fun _ hmem => hmem,
      configAt_withFormer_same hentry (submitMany_config _ _)⟩ hcall rfl rfl

variable {former : Former Item Metadata}

theorem tryDrainUpTo_config (hbatch : former.tryDrainUpTo maxItems = some result) :
    result.2.inner.config = former.inner.config := by
  simp only [Former.tryDrainUpTo, ite_none_left_eq_some] at hbatch
  cases hbatch.2
  rfl

theorem flush_tracked (htracked : Tracked scheduler current)
    (hcall : scheduler.tasks.lookup task = some (.picked handle mode))
    (hstep : scheduler.flush task handle mode now = some after) : Tracked after current := by
  obtain rfl | rfl | ⟨entry, immediate, result, hentry, hbatch, rfl⟩ := (flush_cases hstep).2
  · exact htracked.sameTasks ⟨rfl, rfl, fun _ hmem => hmem, fun _ => rfl⟩ rfl
  · exact htracked.finish ⟨rfl, rfl, fun _ hmem => hmem, fun _ => rfl⟩ hcall rfl rfl
  · obtain ⟨reason, -, rfl⟩ := map_eq_some_iff.1 hbatch
    exact report_tracked htracked now hentry hcall rfl rfl

theorem drain_tracked (htracked : Tracked scheduler current)
    (hcall : scheduler.tasks.lookup task = some (.draining key handle maxItems))
    (hstep : scheduler.drain task key handle maxItems = some after) : Tracked after current := by
  cases hentry : scheduler.entries[handle]? with
  | none => simp [Scheduler.drain, hentry] at hstep
  | some entry =>
    simp only [Scheduler.drain, hentry] at hstep
    cases hbatch : entry.former.tryDrainUpTo maxItems with
    | none =>
      simp only [hbatch] at hstep
      cases hstep
      exact htracked.finish (sameLimits_tasks _ _) hcall rfl rfl
    | some =>
      simp only [hbatch] at hstep
      cases hstep
      exact report_tracked htracked scheduler.clock hentry hcall rfl (tryDrainUpTo_config hbatch)

end Others

/-! ## Making a former -/

section Creating

theorem insertEntry_configAt (task : ℕ) (config : BatchConfig) (key : BatcherKey)
    (items : List (Item × Metadata))
    (hgiven : configAt (scheduler.insertEntry task config key items) handle = some given) :
    given = config ∨ configAt scheduler handle = some given := by
  simp only [configAt, Scheduler.insertEntry, getElem?_concat] at hgiven
  split_ifs at hgiven
  · exact Or.inl (some.inj hgiven).symm
  · exact Or.inr hgiven

variable (htracked : Tracked scheduler current)
include htracked

theorem lockMap_tracked (hcall : scheduler.tasks.lookup task = some (.missed key items))
    (hstep : scheduler.lockMap task key items = some after) : Tracked after current := by
  simp only [Scheduler.lockMap, ite_none_right_eq_some] at hstep
  obtain ⟨-, hafter⟩ := hstep
  cases hlookup : scheduler.batchers.lookup key with
  | some =>
    rw [hlookup] at hafter
    cases hafter
    exact htracked.goOn hcall rfl rfl
  | none =>
    rw [hlookup] at hafter
    cases hafter
    refine htracked.sameTasks ⟨rfl, rfl, ?_, fun _ => rfl⟩ rfl
    intro given hgiven
    cases hgiven

/-- The limits that are read are current, unless a completion has yet to take its snapshot. -/
theorem readConfig_tracked (task : ℕ) : Tracked (scheduler.readConfig task) current := by
  refine ⟨htracked.only, htracked.present, ?_⟩
  have hgiven : ∀ given ∈ pendingConfig (scheduler.readConfig task), given = scheduler.config := by
    intro given hmem
    exact (some.inj hmem).symm
  have hreached := htracked.reached
  cases current with
  | none =>
    obtain ⟨hconfig, -, hformers⟩ := hreached
    exact ⟨hconfig, fun given hmem => hgiven given hmem ▸ hconfig, hformers⟩
  | some owner =>
    obtain ⟨owner, call⟩ := owner
    cases call with
    | propagating =>
      obtain ⟨hcurrent, hconfig, -, hformers⟩ := hreached
      exact ⟨hcurrent, hconfig, fun given hmem => hgiven given hmem ▸ hconfig, hformers⟩
    | _ => exact hreached

/-- A new former is in the snapshot to come, or has current limits. -/
theorem insertEntry_tracked (hcreation : scheduler.creation = some ⟨task, some config⟩)
    (hcall : scheduler.tasks.lookup task = some (.missed key items)) :
    Tracked (scheduler.insertEntry task config key items) current := by
  have hpending : config ∈ pendingConfig scheduler := by simp [pendingConfig, hcreation]
  have hmoved : Tracked { scheduler with
      tasks := scheduler.tasks.insert task (.holding key scheduler.entries.length items) }
      current := htracked.goOn hcall rfl rfl
  refine ⟨hmoved.only, hmoved.present, ?_⟩
  have hreached := htracked.reached
  cases current with
  | none =>
    obtain ⟨hconfig, hcreating, hformers⟩ := hreached
    refine ⟨hconfig, nofun, ?_⟩
    intro handle given hgiven
    rcases insertEntry_configAt task config key items hgiven with rfl | hold
    · exact hcreating given hpending
    · exact hformers handle given hold
  | some owner =>
    obtain ⟨owner, call⟩ := owner
    cases call with
    | propagating =>
      obtain ⟨hcurrent, hconfig, hcreating, hformers⟩ := hreached
      refine ⟨hcurrent, hconfig, nofun, ?_⟩
      intro handle given hgiven hdone
      rcases insertEntry_configAt task config key items hgiven with rfl | hold
      · exact hcreating given hpending
      · exact hformers handle given hold hdone
    | _ => exact hreached

end Creating

/-! ## The steps of a completion -/

section Completing

section

variable (htracked : Tracked scheduler current)
include htracked

theorem Tracked.same_task (hother : scheduler.tasks.lookup other = some found)
    (hfound : isCompleting found = true) (hcall : scheduler.tasks.lookup task = some call)
    (hcompleting : isCompleting call = true) : other = task :=
  (Prod.mk.inj (some.inj ((htracked.only other found hother hfound).symm.trans
    (htracked.only task call hcall hcompleting)))).1

section

variable (hcall : scheduler.tasks.lookup task = some call) (hcompleting : isCompleting call = true)
include hcall hcompleting

/-- The completion that is being passed on goes to its next step. -/
theorem Tracked.goOnCompleting (htasks : after.tasks = scheduler.tasks.insert task next)
    (hnext : isCompleting next = true) (hreached : Reached after (some next)) :
    Tracked after (some (task, next)) where
  only := by
    intro other found hlookup hfound
    rw [htasks] at hlookup
    rcases lookup_insert_iff.1 hlookup with ⟨rfl, rfl⟩ | ⟨hother, hlookup⟩
    · rfl
    · exact absurd (htracked.same_task hlookup hfound hcall hcompleting) hother
  present := by
    intro other found hfound
    obtain ⟨rfl, rfl⟩ := Prod.mk.inj (some.inj hfound)
    rw [htasks, lookup_insert]
    exact ⟨rfl, hnext⟩
  reached := hreached

theorem Tracked.reached_of_call : Reached scheduler (some call) := by
  have hreached := htracked.reached
  rwa [htracked.only task call hcall hcompleting] at hreached

end

end

theorem current_limited (config : BatchConfig) (controller : Controller) : Current controller
      (limited config controller.currentWaitMs controller.currentBatchCost) :=
  ⟨rfl, rfl⟩

section

variable (htracked : Tracked scheduler current)
include htracked

theorem writeConfig_tracked
    (hcall : scheduler.tasks.lookup task = some (.stepped waitMs batchCost)) :
    ∃ next, Tracked (scheduler.writeConfig task waitMs batchCost) next := by
  obtain ⟨rfl, rfl⟩ := htracked.reached_of_call hcall rfl
  exact ⟨_, htracked.goOnCompleting hcall rfl rfl rfl ⟨current_limited _ _, current_limited _ _⟩⟩

/-- Every former is in the snapshot. -/
theorem snapshot_tracked [HasCost Item] (hrouted : Routed scheduler)
    (hcall : scheduler.tasks.lookup task = some (.configured config))
    (hstep : scheduler.snapshot task config order = some after) : ∃ next, Tracked after next := by
  simp only [Scheduler.snapshot, ite_none_right_eq_some] at hstep
  obtain ⟨⟨hcreation, horder⟩, hafter⟩ := hstep
  cases hafter
  obtain ⟨hcurrent, hconfig⟩ := htracked.reached_of_call hcall rfl
  refine ⟨_, htracked.goOnCompleting hcall rfl rfl rfl ⟨hcurrent, hconfig, ?_, ?_⟩⟩
  · intro given hmem
    simp [pendingConfig, isNone_iff_eq_none.1 hcreation] at hmem
  · intro handle given hgiven hmissing
    obtain ⟨entry, hentry, -⟩ := map_eq_some_iff.1 hgiven
    have hlisted := (mem_handles_iff hrouted handle).2 ⟨entry, hentry⟩
    exact absurd ((List.isPerm_iff.1 horder).mem_iff.2 hlisted) hmissing

theorem propagate_tracked
    (hcall : scheduler.tasks.lookup task = some (.propagating config remaining))
    (hstep : scheduler.propagate task config remaining = some after) :
    ∃ next, Tracked after next := by
  obtain ⟨hcurrent, hconfig, hcreating, hformers⟩ := htracked.reached_of_call hcall rfl
  cases remaining with
  | nil =>
    cases hstep
    refine ⟨none, ?_, nofun, hconfig, hcreating,
      fun handle given hgiven => hformers handle given hgiven nofun⟩
    intro other found hlookup hfound
    obtain ⟨hother, hlookup⟩ := lookup_erase_iff.1 hlookup
    exact absurd (htracked.same_task hlookup hfound hcall rfl) hother
  | cons handle =>
    cases hentry : scheduler.entries[handle]? with
    | none => simp [Scheduler.propagate, hentry] at hstep
    | some entry =>
      simp only [Scheduler.propagate, hentry] at hstep
      cases hstep
      refine ⟨_, htracked.goOnCompleting hcall rfl rfl rfl ⟨hcurrent, hconfig, hcreating, ?_⟩⟩
      intro other given hgiven hdone
      have hafter := (configAt_withFormer scheduler handle other
        (entry.former.updateConfig config)).symm.trans hgiven
      split_ifs at hafter with hother
      · obtain ⟨-, -, rfl⟩ := map_eq_some_iff.1 hafter
        exact hcurrent
      · refine hformers other given hafter ?_
        simp [hother, hdone]

end

theorem complete_tracked
        (hserial : scheduler.tasks.entries.all (fun entry => !isCompleting entry.2) = true)
    (hstep : scheduler.complete half tuning task now observedP50Ms fillRatio batchSize =
      some after) : ∃ next, Tracked after next := by
  obtain ⟨-, hafter⟩ := ite_none_right_eq_some.1 hstep
  cases hafter
  refine ⟨some (task, .stepped _ _), ?_, ?_, rfl, rfl⟩
  · intro other found hlookup hfound
    rcases lookup_insert_iff.1 hlookup with ⟨rfl, rfl⟩ | ⟨-, hlookup⟩
    · rfl
    · have hidle := List.all_eq_true.1 hserial _ (mem_lookup_iff.1 hlookup)
      simp [hfound] at hidle
  · intro other found hfound
    obtain ⟨rfl, rfl⟩ := Prod.mk.inj (some.inj hfound)
    exact ⟨lookup_insert _, rfl⟩

end Completing

/-! ## Whole runs -/

section WholeRuns

variable [HasCost Item]

theorem advance_tracked (htracked : Tracked scheduler current) (hrouted : Routed scheduler)
    (hcall : scheduler.tasks.lookup task = some call)
    (hstep : scheduler.advance task times order call = some after) :
    ∃ next, Tracked after next := by
  cases call with
  | missed =>
    cases hcreation : scheduler.creation with
    | none =>
      simp only [Scheduler.advance, hcreation] at hstep
      exact ⟨current, lockMap_tracked htracked hcall hstep⟩
    | some creation =>
      obtain ⟨owner, config⟩ := creation
      simp only [Scheduler.advance, hcreation, ite_none_right_eq_some] at hstep
      obtain ⟨rfl, hafter⟩ := hstep
      cases config with
      | none =>
        cases hafter
        exact ⟨current, readConfig_tracked htracked owner⟩
      | some =>
        cases hafter
        exact ⟨current, insertEntry_tracked htracked hcreation hcall⟩
  | holding => exact ⟨current, append_tracked htracked hcall hstep⟩
  | scanning =>
    cases hstep
    exact ⟨current, look_tracked htracked hcall⟩
  | picked =>
    simp only [Scheduler.advance] at hstep
    split at hstep
    · exact ⟨current, flush_tracked htracked hcall hstep⟩
    · cases hstep
  | draining => exact ⟨current, drain_tracked htracked hcall hstep⟩
  | stepped =>
    cases hstep
    exact writeConfig_tracked htracked hcall
  | configured => exact snapshot_tracked htracked hrouted hcall hstep
  | propagating => exact propagate_tracked htracked hcall hstep

/-- The invariant of a run in which completions do not overlap. -/
def Followed (scheduler : Scheduler Item Metadata) : Prop :=
  Orderly scheduler ∧ ∃ current, Tracked scheduler current

theorem step_followed (hfollowed : Followed scheduler) (hserial : Serial scheduler event)
    (hstep : step half tuning scheduler event = some after) : Followed after := by
  obtain ⟨horderly, current, htracked⟩ := hfollowed
  refine ⟨step_orderly horderly hstep, ?_⟩
  cases event with
  | submit => exact ⟨current, submit_tracked htracked hstep⟩
  | consume => exact ⟨current, scan_tracked htracked hstep⟩
  | drainSame => exact ⟨current, drainSame_tracked htracked hstep⟩
  | complete =>
    exact complete_tracked hserial hstep
  | advance =>
    obtain ⟨call, hcall, hadvance⟩ := bind_eq_some_iff.1 hstep
    exact advance_tracked htracked horderly.routed hcall hadvance

theorem build_followed (hstart : Current controller config) (epoch : ℕ) :
    Followed (Scheduler.build config controller epoch : Scheduler Item Metadata) :=
  ⟨build_orderly config controller epoch, none, by simp [Scheduler.build], nofun, hstart,
    nofun, by simp [configAt, Scheduler.build]⟩

/-- When no completion is being passed on, every former has the controller's limits. -/
def UpToDate (scheduler : Scheduler Item Metadata) : Prop :=
  (∀ task call, scheduler.tasks.lookup task = some call → isCompleting call = false) →
    ∀ entry ∈ scheduler.entries, Current scheduler.controller entry.former.inner.config

theorem Followed.upToDate (hfollowed : Followed scheduler) : UpToDate scheduler := by
  obtain ⟨-, current, htracked⟩ := hfollowed
  intro hidle entry hmem
  obtain ⟨handle, hentry⟩ := List.getElem?_of_mem hmem
  have hconfig : configAt scheduler handle = some entry.former.inner.config := by
    rw [configAt, hentry, map_some]
  cases current with
  | none => exact htracked.reached.2.2 handle _ hconfig
  | some owner =>
    obtain ⟨hlookup, hcompleting⟩ := htracked.present owner.1 owner.2 rfl
    rw [hidle owner.1 owner.2 hlookup] at hcompleting
    cases hcompleting

/-- In every run in which a completion steps the controller only when no other one is being
passed on, the formers are up to date whenever none is. -/
theorem serial_run_upToDate (half : ℚ → ℚ) (tuning : Tuning) (config : BatchConfig)
    (controller : Controller) (epoch : ℕ) {events : List (Event Item Metadata)}
    {scheduler : Scheduler Item Metadata} (hstart : Current controller config)
    (hserial : Guarded (step half tuning) Serial (Scheduler.build config controller epoch) events)
    (hrun : run (step half tuning) (Scheduler.build config controller epoch) events =
      some scheduler) :
    UpToDate scheduler :=
  (guarded_invariant Followed
    (fun _ _ _ hfollowed hevent hstep => step_followed hfollowed hevent hstep)
    (build_followed hstart epoch) hserial hrun).upToDate

end WholeRuns

section Samples

/-- The sample configuration with the limits that the sample tuning begins with. -/
def tunedConfig : BatchConfig :=
  { sampleConfig with maxBatchCost := 300, maxBatchWaitMs := 2 }

/-- A former is being made while a completion is passed on. -/
def makingMeanwhile : List (Event SampleItem ℕ) :=
  [.submit 0 .encode .base [(⟨1, none⟩, 1)], .advance 0 [] [],
    .complete 1 5 (some 4) none 1, .advance 0 [] [], .advance 1 [] [], .advance 0 [] [],
    .advance 0 [7] [], .submit 2 .extract .base [(⟨1, none⟩, 2)], .advance 1 [] [0],
    .advance 2 [] [], .advance 2 [] [], .advance 2 [] [], .advance 1 [] [], .advance 1 [] []]

/-- Two completions: the later one is passed on before the earlier one. -/
def overtaken : List (Event SampleItem ℕ) :=
  [.submit 0 .encode .base [(⟨1, none⟩, 1)], .advance 0 [] [], .advance 0 [] [],
    .advance 0 [] [], .advance 0 [7] [], .complete 1 5 (some 0) none 8,
    .complete 2 6 (some 5) none 8, .advance 2 [] [], .advance 2 [] [0], .advance 2 [] [],
    .advance 2 [] [], .advance 1 [] [], .advance 1 [] [0], .advance 1 [] [], .advance 1 [] []]

end Samples

theorem serial_run_upToDate_makingMeanwhile : ∃ scheduler : Scheduler SampleItem ℕ,
      Guarded (step id sampleTuning) Serial
        (Scheduler.build tunedConfig (Controller.build sampleTuning) 3) makingMeanwhile ∧
      run (step id sampleTuning)
        (Scheduler.build tunedConfig (Controller.build sampleTuning) 3) makingMeanwhile =
          some scheduler ∧
      scheduler.entries.map (fun entry => entry.former.inner.config.maxBatchWaitMs) =
        [19 / 5, 19 / 5] ∧
      UpToDate scheduler := by
  have hstart : Current (Controller.build sampleTuning) tunedConfig := by decide +kernel
  have hserial : Guarded (step id sampleTuning) Serial
      (Scheduler.build tunedConfig (Controller.build sampleTuning) 3) makingMeanwhile := by
    decide +kernel
  refine ⟨_, hserial, (some_get ?_).symm, ?_,
    serial_run_upToDate _ _ _ _ _ hstart hserial (some_get _).symm⟩
  · decide +kernel
  · decide +kernel

/-- No call is in progress, the controller reports 6.75 ms, and the only former waits up to
the 5 ms of the completion that stepped first and wrote last. -/
theorem overtaken_stale : ∃ scheduler : Scheduler SampleItem ℕ, run (step id sampleTuning)
        (Scheduler.build tunedConfig (Controller.build sampleTuning) 3) overtaken =
          some scheduler ∧
      scheduler.idle ∧ scheduler.controller.currentWaitMs = 27 / 4 ∧
      scheduler.entries.map (fun entry => entry.former.inner.config.maxBatchWaitMs) = [5] := by
  refine ⟨_, (some_get ?_).symm, ⟨AList.ext (List.isEmpty_iff.1 ?_), ?_⟩, ?_, ?_⟩
  all_goals decide +kernel

end SieCluster.LimitPropagation
