import SieCluster.Config.ConfigRegistry

/-!
# What the control plane hashes of one model

When the control plane lists a model for a bundle and what it shows of it, said
about the configs it was given.
-/

namespace SieCluster.HashItems

open List hiding all all_eq_true any filterMap keys mem_keys
open Option hiding all any
open Std.ExtTreeMap hiding filterMap keys mem_filterMap
open Tables
open AdapterOptions
open Profiles
open ConfigRegistry

section Condition

section

variable (profiles : Table ProfileConfig) (name : String)

/-- The way up from the profile ends at a root. -/
def Resolves : Prop :=
  (lineage controlParent profiles name).complete = true

/-- The adapter path nearest on the way up, empty or not. -/
def nearestPath : Option String :=
  (lineage controlParent profiles name).profiles.findSome? ProfileConfig.adapterPath

/-- The hashed fields of a profile that resolves. -/
def controlHashConfig : HashConfig :=
  (lineage controlParent profiles name).profiles.foldr overlayHashConfig ⟨none, none, none, none⟩

theorem hashConfig_path : (controlHashConfig profiles name).adapterPath =
    nearestPath profiles name := by
  unfold controlHashConfig nearestPath
  induction (lineage controlParent profiles name).profiles with
  | nil => rfl
  | cons profile _ ih =>
    rw [foldr_cons, overlayHashConfig, ih, List.findSome?_cons]
    cases profile.adapterPath <;> rfl

end

variable [Letters] (registry : Registry) (adapters : List String)

def ControlListsProfile (id : String) (profiles : Table ProfileConfig) (name : String) : Prop :=
  name ∈ getModelProfileNames registry id ∧
    ∀ path, nearestPath profiles name = some path → path = "" ∨ moduleOf path ∈ adapters

variable (scope : Option String)

def InScope (config : ModelConfig) : Prop :=
  ∀ pool, scope = some pool → modelPoolName config = pool

/-- The control plane lists a model of the pool that has an adapter in the bundle and a
profile to show there. -/
structure ControlLists (id : String) (config : ModelConfig) : Prop where
  inScope : InScope scope config
  routed : ∃ name ∈ config.profiles, ∃ module ∈ adapters,
    adapterModuleFromPath (effectivePath config.profiles name) = some module
  shown : ∃ name ∈ config.profiles, ControlListsProfile registry adapters id config.profiles name

end Condition

variable {name : String} {id : String} {config : ModelConfig}

section Profiles

variable [Letters]

instance (registry : Registry) (adapters : List String) (id : String)
    (profiles : Table ProfileConfig) (name : String) :
    Decidable (ControlListsProfile registry adapters id profiles name) :=
  decidable_of_iff (name ∈ getModelProfileNames registry id ∧
    (nearestPath profiles name).all fun path => path = "" || moduleOf path ∈ adapters)
    (by simp [ControlListsProfile, all_eq_true])

theorem control_profileForHash (registry : Registry) (id : String) (adapters : List String)
    {profiles : Table ProfileConfig} (hresolves : Resolves profiles name) :
    (if name ∈ getModelProfileNames registry id then profileForHash adapters profiles name
      else none) =
      if ControlListsProfile registry adapters id profiles name then
        some ⟨name, controlHashConfig profiles name⟩
      else none := by
  have hhash : resolvedProfileHashConfig profiles name =
      some (controlHashConfig profiles name) := if_pos hresolves
  unfold profileForHash
  rw [hhash]
  simp only [bind_some]
  have hall : ((controlHashConfig profiles name).adapterPath.all fun path =>
        path = "" || decide (moduleOf path ∈ adapters)) = true ↔
      ∀ path, nearestPath profiles name = some path → path = "" ∨ moduleOf path ∈ adapters := by
    simp [hashConfig_path, all_eq_true]
  simp only [hall, ControlListsProfile]
  by_cases hnamed : name ∈ getModelProfileNames registry id
  · simp [hnamed]
  · simp [hnamed]

/-- The control plane goes through the profiles of a config in name order, whichever
names it takes the model to have. -/
theorem control_profiles (hconfig : registry.models[id]? = some config) (adapters : List String) :
    (getModelProfileNames registry id).filterMap
        (profileForHash adapters config.profiles) =
      config.profiles.toList.filterMap fun entry =>
        if entry.1 ∈ getModelProfileNames registry id then
          profileForHash adapters config.profiles entry.1
        else none := by
  have hmissing : ∀ name, name ∉ config.profiles →
      profileForHash adapters config.profiles name = none := by
    intro name hname
    unfold profileForHash resolvedProfileHashConfig
    rw [lineage_missing hname]
    rfl
  have hnames : getModelProfileNames registry id = ["default"] ∨
      getModelProfileNames registry id = config.profiles.keys := by
    unfold getModelProfileNames
    split
    · exact .inl rfl
    · exact .inr (by rw [hconfig]; rfl)
  rcases hnames with hnames | hnames
  · rw [hnames]
    have hcongr : (((∅ : Table Unit).insert "default" ()).toList.filterMap fun entry =>
          profileForHash adapters config.profiles entry.1) =
        config.profiles.toList.filterMap fun entry =>
          if entry.1 ∈ ["default"] then
            profileForHash adapters config.profiles entry.1
          else none := by
      refine filterMap_toList_congr
        (fun name _ => profileForHash adapters config.profiles name)
        (fun name _ => if name ∈ ["default"] then
          profileForHash adapters config.profiles name else none) fun name => ?_
      rw [get_insert]
      by_cases hdefault : name = "default"
      · subst hdefault
        by_cases hname : "default" ∈ config.profiles
        · obtain ⟨profile, hprofile⟩ := Tables.exists_of_mem hname
          simp [hprofile]
        · simp [hmissing _ hname]
      · simp [hdefault, Ne.symm hdefault]
    exact hcongr
  · rw [hnames, ← map_fst_toList_eq_keys, filterMap_map]
    apply filterMap_congr
    intro entry hentry
    rw [if_pos (mem_map_of_mem hentry)]
    rfl

end Profiles

section Items

theorem scope_any_iff (scope : Option String) (pool : String) :
    (scope.any fun name => decide (name ≠ pool)) = true ↔
      ¬ ∀ name, scope = some name → pool = name := by
  cases scope with
  | none => simp
  | some =>
    simp only [any_some, decide_eq_true_eq, some.injEq, forall_eq', ne_eq]
    exact not_congr eq_comm

theorem routed_any_iff (adapters : List String) (profiles : Table ProfileConfig) :
    ((adapterModulesForProfiles profiles profiles.keys).any
      fun name => decide (name ∈ adapters)) = true ↔
      ∃ name ∈ profiles, ∃ module ∈ adapters,
        adapterModuleFromPath (effectivePath profiles name) = some module := by
  unfold adapterModulesForProfiles
  simp only [List.any_eq_true, List.mem_filterMap, Std.ExtTreeMap.mem_keys, decide_eq_true_eq]
  constructor
  · rintro ⟨module, ⟨name, hname, hmodule⟩, hadapter⟩
    exact ⟨name, hname, module, hadapter, hmodule⟩
  · rintro ⟨name, hname, module, hadapter, hmodule⟩
    exact ⟨module, ⟨name, hname, hmodule⟩, hadapter⟩

variable [Letters]

/-- The profiles the control plane shows of a model. -/
def controlProfiles (registry : Registry) (adapters : List String) (id : String)
    (profiles : Table ProfileConfig) : List HashProfile :=
  profiles.toList.filterMap fun entry =>
    if ControlListsProfile registry adapters id profiles entry.1 then
      some ⟨entry.1, controlHashConfig profiles entry.1⟩
    else none

variable (adapters : List String)

theorem controlProfiles_ne_nil_iff :
    controlProfiles registry adapters id config.profiles ≠ [] ↔ ∃ name ∈ config.profiles,
        ControlListsProfile registry adapters id config.profiles name := by
  unfold controlProfiles
  constructor
  · intro hne
    obtain ⟨item, hitem⟩ := exists_mem_of_ne_nil _ hne
    obtain ⟨⟨name, profile⟩, hentry, hmake⟩ := mem_filterMap.1 hitem
    split_ifs at hmake with hlists
    have hget := mem_toList_iff_getElem?_eq_some.1 hentry
    refine ⟨name, ?_, hlists⟩
    rw [mem_iff_isSome_getElem?, hget]
    rfl
  · rintro ⟨name, hname, hlists⟩
    obtain ⟨profile, hprofile⟩ := Tables.exists_of_mem hname
    exact ne_nil_of_mem (mem_filterMap.2 ⟨(name, profile),
      mem_toList_iff_getElem?_eq_some.2 hprofile, if_pos hlists⟩)

theorem control_hashItem_eq_some_iff (hconfig : registry.models[id]? = some config)
    (hresolves : ∀ name ∈ config.profiles, Resolves config.profiles name)
    (adapters : List String) (scope : Option String) (item : HashItem) :
    hashItem registry adapters scope id config = some item ↔
      ControlLists registry adapters scope id config ∧
        item = ⟨id, config.hfRevision, controlProfiles registry adapters id config.profiles⟩ := by
  have hprofiles : (getModelProfileNames registry id).filterMap
      (profileForHash adapters config.profiles) =
        controlProfiles registry adapters id config.profiles := by
    rw [control_profiles hconfig]
    apply filterMap_congr
    rintro ⟨name, profile⟩ hentry
    have hget := mem_toList_iff_getElem?_eq_some.1 hentry
    refine control_profileForHash registry id adapters (hresolves name ?_)
    rw [mem_iff_isSome_getElem?, hget]
    rfl
  unfold hashItem
  rw [hprofiles]
  simp only [scope_any_iff]
  constructor
  · intro hitem
    split_ifs at hitem with hscope hrouted hnone
    cases hitem
    exact ⟨⟨by simpa [InScope] using hscope, (routed_any_iff adapters _).1 hrouted,
      (controlProfiles_ne_nil_iff adapters).1 hnone⟩, rfl⟩
  · rintro ⟨hlists, rfl⟩
    have hscope := hlists.inScope
    rw [if_neg (by simpa [InScope] using hscope),
      if_pos ((routed_any_iff adapters _).2 hlists.routed),
      if_neg ((controlProfiles_ne_nil_iff adapters).2 hlists.shown)]

end Items

/-- The pool a caller names: no pool is the whole bundle, an empty one the default. -/
def scopedPool [Letters] (pool : Option String) : Option String :=
  pool.map fun name => if canonicalPool name = "" then "default" else canonicalPool name

theorem control_scope [Letters] (pool : Option String) (registry : Registry) (bundleId : String)
    (hbundle : registry.bundles[bundleId]? = some bundle) :
    computeBundleConfigHash registry bundleId pool =
      registry.models.toList.filterMap fun entry =>
        hashItem registry bundle.adapters (scopedPool pool) entry.1 entry.2 := by
  have hscope : ∀ name : String, name ≠ "" → canonicalPool name = name →
      ((some name).map canonicalPool).filter (· ≠ "") = some name := by
    intro name hne hcanonical
    rw [map_some, hcanonical]
    simp [Option.filter, hne]
  cases pool with
  | none =>
    unfold computeBundleConfigHash computeBundleConfigHashLocked
    rw [hbundle]
    rfl
  | some pool =>
    unfold computeBundleConfigHash computeBundleConfigHashLocked scopedPool
    rw [hbundle]
    simp only [map_some]
    by_cases hempty : canonicalPool pool = ""
    · have hdefault := hscope "default" (by decide) canonicalPool_default
      rw [map_some] at hdefault
      simp only [hempty, if_true, hdefault]
    · have hsame := hscope _ hempty (canonicalPool_canonicalPool pool)
      rw [map_some] at hsame
      simp only [hempty, if_false, hsame]

/-- One bundle with one adapter. -/
def oneBundle : Table BundleInfo :=
  (∅ : Table BundleInfo).insert "torch" ⟨"torch", 10, ["flag"], "pytorch"⟩

end SieCluster.HashItems
