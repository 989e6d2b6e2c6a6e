import SieCluster.Config.DerivedTables
import SieCluster.Config.HashItems

/-!
# The bundles a write reports

A write reports the bundles that serve an adapter of the model it names.  What a
bundle's hash covers also depends on which ids are read as variants, and a write
that adds or takes away a variant changes the reading of every other model whose
id is that variant's, up to letter case.  Every changed bundle is reported
exactly when no model of an unreported bundle is read differently.
-/

namespace SieCluster.NotifiedBundles

open List hiding any drop ext_getElem filter map toFinset
open Option hiding any map mem_map or or_assoc toFinset
open Std.ExtTreeMap hiding filter mem_filter
open Runs
open Tables
open Profiles
open ConfigRegistry
open RegistryTables
open DerivedTables
open ModelRegistry (variantName)

/-! ## What is reported -/

def Serves (bundle : BundleInfo) (modules : Finset String) : Prop :=
  ∃ adapter ∈ bundle.adapters, adapter ∈ modules

instance (bundle : BundleInfo) (modules : Finset String) : Decidable (Serves bundle modules) :=
  inferInstanceAs (Decidable (∃ adapter ∈ bundle.adapters, adapter ∈ modules))

theorem mem_matchingBundleNames (hnamed : WellNamed bundles) :
    name ∈ matchingBundleNames modules bundles ↔
      ∃ bundle, bundles[name]? = some bundle ∧ Serves bundle modules := by
  unfold matchingBundleNames Serves
  simp only [mem_map, mem_insertionSort, mem_filter, Prod.exists,
    Std.ExtTreeMap.mem_toList_iff_getElem?_eq_some, List.any_eq_true, decide_eq_true_eq,
    Prod.mk.injEq]
  constructor
  · rintro ⟨priority, label, ⟨id, bundle, ⟨hget, hserves⟩, -, rfl⟩, rfl⟩
    obtain rfl := hnamed id bundle hget
    exact ⟨bundle, hget, hserves⟩
  · rintro ⟨bundle, hget, hserves⟩
    exact ⟨bundle.priority, name,
      ⟨name, bundle, ⟨hget, hserves⟩, rfl, hnamed name bundle hget⟩, rfl⟩

theorem matches_iff_serves (hnamed : WellNamed bundles) (hbundle : bundles[name]? = some bundle) :
    name ∈ matchingBundleNames modules bundles ↔ Serves bundle modules := by
  rw [mem_matchingBundleNames hnamed]
  simp only [hbundle, some.injEq, exists_eq_left']

theorem mem_inOrder : name ∈ inOrder names ↔ name ∈ names := by
  rw [inOrder, mem_dedup, mem_insertionSort]

/-- A profile's adapter module is one of the modules of all profiles. -/
theorem profileModules_subset (hname : name ∈ profiles) :
    profileModules profiles name ⊆ allModules profiles := by
  intro adapter hadapter
  rw [profileModules, mem_toFinset] at hadapter
  rw [allModules, List.mem_toFinset, adapterModulesForProfiles, List.mem_filterMap]
  exact ⟨name, mem_keys.2 hname, hadapter⟩

theorem mem_profileBundles (hnamed : WellNamed bundles) : name ∈ profileBundles bundles profiles ↔
      name ∈ matchingBundleNames (allModules profiles) bundles := by
  unfold profileBundles
  rw [mem_append, mem_flatMap]
  refine ⟨?_, Or.inl⟩
  rintro (hall | ⟨profile, hprofile, hmatching⟩)
  · exact hall
  · obtain ⟨bundle, hget, adapter, hlisted, hadapter⟩ :=
      (mem_matchingBundleNames hnamed).1 hmatching
    obtain ⟨hkey, -⟩ := mem_filter.1 hprofile
    exact (mem_matchingBundleNames hnamed).2 ⟨bundle, hget, adapter, hlisted,
      profileModules_subset (mem_keys.1 hkey) hadapter⟩

section Registries

variable [Letters]

/-- The model an operation names with the profiles it leaves there.  Removing an unknown
model does nothing. -/
def leaves (registry : Registry) : Operation → Option (String × Table ProfileConfig)
  | .add config =>
    some (config.name, storedProfiles registry config.name ∪ config.profiles.filter fun name _ =>
        config.name ∈ registry.models → name ∉ getModelProfileNames registry config.name)
  | .replace config => some (config.name, config.profiles)
  | .remove modelId (some fallback) => some (modelId, fallback.profiles)
  | .remove modelId none => if modelId ∈ registry.models then some (modelId, ∅) else none

/-- A bundle the operation reports: it serves the model as the operation leaves it or, for
a replacement or a removal, as it was. -/
def Told (live : LiveRegistry) (operation : Operation) (id : String)
    (profiles : Table ProfileConfig) (name : String) (bundle : BundleInfo) : Prop :=
  Serves bundle (allModules profiles) ∨
    match operation with
    | .add _ => False
    | .replace _ | .remove _ (some _) =>
      Serves bundle (allModules (storedProfiles live.toRegistry id))
    | .remove _ none =>
      Serves bundle (allModules (storedProfiles live.toRegistry id)) ∨
        ∃ (variant : String) (info : ModelInfo), live.profileVariantBaseModels[variant]? = some id ∧
          live.profileVariantModels[variant]? = some info ∧ name ∈ info.bundles

/-- What an accepted operation does to the registry, and what it reports. -/
structure Written (live after : LiveRegistry) (operation : Operation) (affected : List String)
    (id : String) (profiles : Table ProfileConfig) : Prop where
  bundles : after.bundles = live.bundles
  others : ∀ other : String, other ≠ id → after.models[other]? = live.models[other]?
  own : ∀ config : ModelConfig, after.models[id]? = some config → config.profiles = profiles
  bases : after.profileVariantBaseModels = (rebuildVariants live.toRegistry id profiles).1
  lower : after.profileVariantNamesLower = (rebuildVariants live.toRegistry id profiles).2
  reported : ∀ (name : String) (bundle : BundleInfo), live.bundles[name]? = some bundle →
    (name ∈ affected ↔ Told live operation id profiles name bundle)

variable {incoming : ModelConfig}

theorem storedConfig_profiles (hname : config.name = incoming.name)
    (hprofiles : config.profiles = incoming.profiles) :
    (storedConfig registry config).profiles = storedProfiles registry incoming.name ∪
      incoming.profiles.filter fun name _ =>
        incoming.name ∈ registry.models → name ∉ getModelProfileNames registry incoming.name := by
  unfold storedConfig storedProfiles createdProfiles
  rw [hname, hprofiles]
  apply Std.ExtTreeMap.ext_getElem?
  intro name
  cases hexisting : registry.models[incoming.name]? with
  | none =>
    have habsent : incoming.name ∉ registry.models := by
      rw [mem_iff_isSome_getElem?, hexisting]
      simp
    cases hprofile : incoming.profiles[name]? with
    | none => simp [Std.ExtTreeMap.getElem?_union, habsent, hprofiles, hprofile]
    | some =>
      simp [Std.ExtTreeMap.getElem?_union, habsent, hprofiles, hprofile, Option.filter]
  | some =>
    have hmem := mem_of_get hexisting
    simp only [fillConfig, hmem, if_true, map_some, getD_some,
      Std.ExtTreeMap.getElem?_union, Std.ExtTreeMap.getElem?_filter', true_imp_iff]
    congr 1
    cases hprofile : incoming.profiles[name]? with
    | none => rfl
    | some =>
      have hlisted := mem_keys.2 (mem_of_get hprofile)
      simp [Option.filter, mem_filter, hlisted]

theorem store_others (live : LiveRegistry) (id : String) (config : ModelConfig)
    (hother : other ≠ id) :
    (store live id config).models[other]? = live.models[other]? := by
  simp only [store, get_insert, if_neg hother.symm]

variable {id : String}

theorem store_own (hfound : (store live id config).models[id]? = some found) : found = config := by
  simp only [store, get_insert, if_true] at hfound
  exact (some.inj hfound).symm

variable {after : LiveRegistry}

section Reported

theorem add_written (hnamed : WellNamed live.bundles)
    (hperform : perform live (.add incoming) = some (after, affected)) :
    Written live after (.add incoming) affected incoming.name
      (storedProfiles live.toRegistry incoming.name ∪ incoming.profiles.filter fun name _ =>
          incoming.name ∈ live.models →
            name ∉ getModelProfileNames live.toRegistry incoming.name) := by
  obtain ⟨config, hvalid, hresult⟩ :=
    Fallible.bind_eq_ok.1 (Fallible.toOption_eq_some.1 hperform)
  obtain ⟨hname, hprofiles, -⟩ := validateConfig_eq_ok hvalid
  cases hresult
  rw [← storedConfig_profiles hname hprofiles, ← hname]
  refine ⟨rfl, fun other hother => store_others _ _ _ hother,
    fun found hfound => by rw [store_own hfound], rfl, rfl, fun name bundle hbundle => ?_⟩
  rw [mem_inOrder, mem_profileBundles hnamed, matches_iff_serves hnamed hbundle]
  simp only [Told, or_false]

variable (hderived : Derived live)
include hderived

section

variable (hnamed : WellNamed live.bundles)
include hnamed

/-- Replacing a model, or removing it with a config to fall back to. -/
theorem replaceModelConfig_written
    (hreplace : replaceModelConfig live incoming = .ok (after, affected))
    (htold : ∀ name bundle, Told live operation incoming.name incoming.profiles name bundle ↔
      Serves bundle (allModules incoming.profiles) ∨
        Serves bundle (allModules (storedProfiles live.toRegistry incoming.name))) :
    Written live after operation affected incoming.name incoming.profiles := by
  obtain ⟨config, hvalid, hresult⟩ := Fallible.bind_eq_ok.1 hreplace
  obtain ⟨-, hnormal, -⟩ := ModelCatalogue.validateStructure_eq_ok_iff.1 hvalid
  obtain ⟨hname, hprofiles⟩ := normalizePoolName_eq_ok hnormal
  cases hresult
  rw [← hname, ← hprofiles] at htold ⊢
  refine ⟨rfl, fun other hother => store_others _ _ _ hother,
    fun found hfound => by rw [store_own hfound], rfl, rfl, fun name bundle hbundle => ?_⟩
  rw [mem_inOrder, mem_append, mem_profileBundles hnamed, hderived.storedModules,
    matches_iff_serves hnamed hbundle, matches_iff_serves hnamed hbundle, htold, or_comm]

theorem drop_written : Written live (drop live id) (.remove id none)
      (inOrder (matchingBundleNames ((live.modelAdapterModules[id]?).getD ∅) live.bundles ++
        (removedVariants live id).flatMap fun name =>
          ((live.profileVariantModels[name]?).map ModelInfo.bundles).getD [])) id ∅ where
  bundles := rfl
  others := by
    intro other hother
    simp only [drop, get_erase, if_neg hother.symm]
  own := by
    intro config hconfig
    simp [drop] at hconfig
  bases := rfl
  lower := rfl
  reported := by
    intro name bundle hbundle
    have hnothing : ¬ Serves bundle (allModules ∅) := by
      rintro ⟨adapter, -, hadapter⟩
      simp [allModules, adapterModulesForProfiles] at hadapter
    rw [mem_inOrder, mem_append, hderived.storedModules, matches_iff_serves hnamed hbundle,
      mem_flatMap, Told, or_iff_right hnothing]
    refine or_congr Iff.rfl ?_
    simp only [mem_removedVariants]
    constructor
    · rintro ⟨variant, hvariant, hlisted⟩
      cases hinfo : live.profileVariantModels[variant]? with
      | none =>
        rw [hinfo] at hlisted
        cases hlisted
      | some info =>
        rw [hinfo] at hlisted
        exact ⟨variant, info, hvariant, hinfo, hlisted⟩
    · rintro ⟨variant, info, hvariant, hinfo, hlisted⟩
      refine ⟨variant, hvariant, ?_⟩
      rw [hinfo]
      exact hlisted

/-- An accepted operation writes what it leaves. -/
theorem perform_written (hperform : perform live operation = some (after, affected))
    (hleaves : leaves live.toRegistry operation = some (id, profiles)) :
    Written live after operation affected id profiles := by
  cases operation with
  | add =>
    cases hleaves
    exact add_written hnamed hperform
  | replace =>
    cases hleaves
    exact replaceModelConfig_written hderived hnamed (Fallible.toOption_eq_some.1 hperform)
      fun _ _ => Iff.rfl
  | remove _ fallback =>
    simp only [perform, ite_none_right_eq_some] at hperform
    obtain ⟨hsame, hperform⟩ := hperform
    have hremove := Fallible.toOption_eq_some.1 hperform
    cases fallback with
    | some incoming =>
      cases hleaves
      obtain hid : incoming.name = id := by simpa using hsame
      subst hid
      exact replaceModelConfig_written hderived hnamed hremove fun _ _ => Iff.rfl
    | none =>
      simp only [leaves, ite_none_right_eq_some] at hleaves
      obtain ⟨hmem, hleaves⟩ := hleaves
      cases hleaves
      have hknown : id ∈ live.modelInfos := (hderived.mem_modelInfos id).2 hmem
      simp only [RegistryTables.removeModelConfig, if_pos hknown] at hremove
      cases hremove
      exact drop_written hderived hnamed

end

/-- An operation that leaves nothing does nothing. -/
theorem perform_idle (hperform : perform live operation = some (after, affected))
    (hleaves : leaves live.toRegistry operation = none) : after = live := by
  cases operation with
  | remove modelId fallback =>
    cases fallback with
    | some => cases hleaves
    | none =>
      simp only [leaves, ite_eq_right_iff, reduceCtorEq, imp_false] at hleaves
      have hunknown : modelId ∉ live.modelInfos :=
        fun hknown => hleaves ((hderived.mem_modelInfos modelId).1 hknown)
      simp only [perform, all_none, if_true, RegistryTables.removeModelConfig,
        if_neg hunknown] at hperform
      cases hperform
      rfl
  | _ => cases hleaves

end Reported

/-! ## How ids are read -/

/-- The model's id is taken for a variant's. -/
def ReadAsVariant (registry : Registry) (model : String) : Prop :=
  lowercase model ∈ registry.profileVariantNamesLower ∨ model ∈ registry.profileVariantBaseModels

instance (registry : Registry) (model : String) : Decidable (ReadAsVariant registry model) :=
  inferInstanceAs (Decidable (_ ∨ _))

/-- The model's id is a variant's once model `id` has the given profiles: one of theirs, or
an earlier one of another model. -/
def StaysVariant (registry : Registry) (id : String) (profiles : Table ProfileConfig)
    (model : String) : Prop :=
  (∃ profile ∈ variantProfiles profiles, lowercase (variantName id profile) = lowercase model) ∨
    (∃ name : String, registry.profileVariantNamesLower[lowercase model]? = some name ∧
      registry.profileVariantBaseModels[name]? ≠ some id) ∨
    ∃ base : String, registry.profileVariantBaseModels[model]? = some base ∧ base ≠ id

theorem mem_registerVariant_lower (id : String) (profiles : List String)
    (tables : Table String × Table String) (key : String) :
    key ∈ (profiles.foldl (registerVariant id) tables).2 ↔
      (∃ profile ∈ profiles, lowercase (variantName id profile) = key) ∨ key ∈ tables.2 := by
  induction profiles generalizing tables with
  | nil => simp
  | cons _ _ ih =>
    rw [foldl_cons, ih, registerVariant]
    simp only [mem_insert, compare_eq_iff_eq, exists_mem_cons_iff]
    rw [or_left_comm, or_assoc]

theorem readAsVariant_rebuilt
    (hbases : rebuilt.profileVariantBaseModels = (rebuildVariants registry id profiles).1)
    (hlower : rebuilt.profileVariantNamesLower = (rebuildVariants registry id profiles).2)
    (model : String) : ReadAsVariant rebuilt model ↔ StaysVariant registry id profiles model := by
  have hlow : lowercase model ∈ rebuilt.profileVariantNamesLower ↔
      (∃ profile ∈ variantProfiles profiles, lowercase (variantName id profile) = lowercase model) ∨
        ∃ name : String, registry.profileVariantNamesLower[lowercase model]? = some name ∧
          registry.profileVariantBaseModels[name]? ≠ some id := by
    rw [hlower, rebuildVariants, mem_registerVariant_lower]
    refine or_congr Iff.rfl ?_
    rw [mem_iff_isSome_getElem?, Std.ExtTreeMap.getElem?_filter', isSome_iff_exists]
    simp only [filter_eq_some_iff, decide_eq_true_eq]
  have hbase : model ∈ rebuilt.profileVariantBaseModels ↔
      (∃ profile ∈ variantProfiles profiles, variantName id profile = model) ∨
        ∃ base : String, registry.profileVariantBaseModels[model]? = some base ∧ base ≠ id := by
    rw [hbases, rebuildVariants, mem_iff_isSome_getElem?, get_registerVariant]
    split_ifs with hnew
    · exact ⟨fun _ => .inl hnew, fun _ => rfl⟩
    · refine Iff.trans ?_ (or_iff_right hnew).symm
      rw [Std.ExtTreeMap.getElem?_filter', isSome_iff_exists]
      simp only [filter_eq_some_iff, decide_eq_true_eq]
  rw [ReadAsVariant, StaysVariant, hlow, hbase]
  constructor
  · rintro ((hnew | hold) | (⟨profile, hprofile, rfl⟩ | hold))
    · exact .inl hnew
    · exact .inr (.inl hold)
    · exact .inl ⟨profile, hprofile, rfl⟩
    · exact .inr (.inr hold)
  · rintro (hnew | hold | hold)
    · exact .inl (.inl hnew)
    · exact .inl (.inr hold)
    · exact .inr (.inr hold)

theorem mem_getModelProfileNames (hconfig : registry.models[id]? = some config)
    (hname : name ∈ config.profiles) :
    name ∈ getModelProfileNames registry id ↔ name = "default" ∨ ¬ ReadAsVariant registry id := by
  unfold getModelProfileNames
  by_cases hvariant : ReadAsVariant registry id
  · rw [if_pos (show _ ∨ _ from hvariant)]
    simp [hvariant]
  · rw [if_neg (show ¬ (_ ∨ _) from hvariant), hconfig]
    simp [hvariant, hname]

/-! ## What the hashes cover -/

section Covered

omit [Letters] in
theorem profileForHash_name (hlisted : profileForHash adapters profiles name = some listed) :
    listed.name = name := by
  obtain ⟨config, -, hconfig⟩ := bind_eq_some_iff.1 hlisted
  split_ifs at hconfig
  cases hconfig
  rfl

/-- The profiles a model lists, in one registry and in another. -/
theorem listedProfiles_eq_iff
    (hfirst : first.models[id]? = some config) (hsecond : second.models[id]? = some config) :
    (getModelProfileNames first id).filterMap (profileForHash adapters config.profiles) =
        (getModelProfileNames second id).filterMap (profileForHash adapters config.profiles) ↔
      ((ReadAsVariant first id ↔ ReadAsVariant second id) ∨
        ∀ name ∈ config.profiles, name ≠ "default" →
          profileForHash adapters config.profiles name = none) := by
  rw [HashItems.control_profiles hfirst, HashItems.control_profiles hsecond]
  constructor
  · intro hlists
    refine or_iff_not_imp_left.2 fun hreading name hname hne => ?_
    have hsame := bind_eq_of_filterMap_toList_eq
      (fun name _ => if name ∈ getModelProfileNames first id then
        profileForHash adapters config.profiles name else none)
      (fun name _ => if name ∈ getModelProfileNames second id then
        profileForHash adapters config.profiles name else none) HashProfile.name
      (fun key _ item hitem => by
        split_ifs at hitem
        exact profileForHash_name hitem)
      (fun key _ item hitem => by
        split_ifs at hitem
        exact profileForHash_name hitem) hlists name
    obtain ⟨profile, hprofile⟩ := Tables.exists_of_mem hname
    simp only [hprofile, bind_some, mem_getModelProfileNames hfirst hname,
      mem_getModelProfileNames hsecond hname, hne, false_or] at hsame
    by_cases hvariant : ReadAsVariant first id
    · have hother : ¬ ReadAsVariant second id := fun hother => hreading (by simp [hvariant, hother])
      rw [if_neg (not_not_intro hvariant), if_pos hother] at hsame
      exact hsame.symm
    · have hother : ReadAsVariant second id := by
        by_contra hother
        exact hreading (by simp [hvariant, hother])
      rw [if_pos hvariant, if_neg (not_not_intro hother)] at hsame
      exact hsame
  · intro hcondition
    apply filterMap_congr
    rintro ⟨name, profile⟩ hentry
    have hname : name ∈ config.profiles :=
      mem_of_get (Std.ExtTreeMap.mem_toList_iff_getElem?_eq_some.1 hentry)
    dsimp only
    simp only [mem_getModelProfileNames hfirst hname, mem_getModelProfileNames hsecond hname]
    by_cases hdefault : name = "default"
    · simp [hdefault]
    · rcases hcondition with hreading | hnone
      · simp [hreading]
      · simp [hnone name hname hdefault]

omit [Letters] in
theorem serves_iff :
    ((adapterModulesForProfiles profiles profiles.keys).any (· ∈ bundle.adapters)) = true ↔
      Serves bundle (allModules profiles) := by
  simp only [List.any_eq_true, decide_eq_true_eq, Serves, allModules, List.mem_toFinset]
  exact exists_congr fun _ => and_comm

/-- No profile but the default one is hashed in the bundle. -/
def OnlyDefault (bundle : BundleInfo) (profiles : Table ProfileConfig) : Prop :=
  ∀ name ∈ profiles, name ≠ "default" → profileForHash bundle.adapters profiles name = none

theorem hashItem_eq_iff
    (hfirst : first.models[id]? = some config) (hsecond : second.models[id]? = some config) :
    hashItem first bundle.adapters none id config = hashItem second bundle.adapters none id config ↔
      (Serves bundle (allModules config.profiles) →
        (ReadAsVariant first id ↔ ReadAsVariant second id) ∨
          OnlyDefault bundle config.profiles) := by
  unfold hashItem OnlyDefault
  rw [← listedProfiles_eq_iff hfirst hsecond]
  simp only [serves_iff, any_none, Bool.false_eq_true, if_false]
  by_cases hserves : Serves bundle (allModules config.profiles)
  · simp only [hserves, if_true, true_imp_iff]
    constructor
    · intro hitem
      split_ifs at hitem with hnone hother hother
      · rw [hnone, hother]
      · exact congrArg HashItem.profiles (some.inj hitem)
    · intro hlists
      rw [hlists]
  · simp only [hserves, if_false, false_imp_iff]

theorem hashItem_eq_none
    (hserves : ¬ Serves bundle (allModules config.profiles)) (scope : Option String) :
    hashItem registry bundle.adapters scope id config = none := by
  unfold hashItem
  simp only [serves_iff, hserves, if_false, ite_self]

/-- A scope can only leave an item out. -/
theorem hashItem_scoped (registry : Registry) (scope : Option String) (id : String)
    (config : ModelConfig) :
    hashItem registry adapters scope id config =
      if scope.any (· ≠ modelPoolName config) then none
      else hashItem registry adapters none id config := by
  unfold hashItem
  simp only [any_none, Bool.false_eq_true, if_false]

theorem hashItem_sieId
    (hitem : hashItem registry adapters scope id config = some item) : item.sieId = id := by
  simp only [hashItem] at hitem
  split_ifs at hitem
  cases hitem
  rfl

theorem computeBundleConfigHashLocked_eq
    (hbundle : registry.bundles[name]? = some bundle) (pool : Option String) :
    computeBundleConfigHashLocked registry name pool = registry.models.toList.filterMap fun entry =>
        hashItem registry bundle.adapters ((pool.map canonicalPool).filter (· ≠ "")) entry.1
          entry.2 := by
  simp only [computeBundleConfigHashLocked, hbundle]

end Covered

/-! ## The main result -/

/-- Every bundle whose hash the operation changes, in whole or for one pool, is reported. -/
def Notified (live after : LiveRegistry) (affected : List String) : Prop :=
  ∀ (bundleId : String) (pool : Option String),
    computeBundleConfigHash after.toRegistry bundleId pool ≠
      computeBundleConfigHash live.toRegistry bundleId pool → bundleId ∈ affected

/-- In a bundle that is not reported, no other model is read differently afterwards with a
profile that the reading hides, and the model itself has nothing hashed. -/
def Undisturbed (live : LiveRegistry) (id : String) (profiles : Table ProfileConfig)
    (bundle : BundleInfo) : Prop :=
  (∀ (other : String) (config : ModelConfig), other ≠ id → live.models[other]? = some config →
    Serves bundle (allModules config.profiles) → (ReadAsVariant live.toRegistry other ↔
        StaysVariant live.toRegistry id profiles other) ∨
      OnlyDefault bundle config.profiles) ∧
  ∀ stored : ModelConfig, live.models[id]? = some stored →
    hashItem live.toRegistry bundle.adapters none id stored = none

def Separate (live : LiveRegistry) (operation : Operation) : Prop :=
  ∀ (id : String) (profiles : Table ProfileConfig),
    leaves live.toRegistry operation = some (id, profiles) →
      ∀ (name : String) (bundle : BundleInfo), live.bundles[name]? = some bundle →
        ¬ Told live operation id profiles name bundle → Undisturbed live id profiles bundle

section Main

section

variable (hwritten : Written live after operation affected id profiles)
include hwritten

section

variable (huntold : ¬ Told live operation id profiles name bundle)
include huntold

/-- Whatever the operation leaves of its own model, an unreported bundle does not serve. -/
theorem own_item_eq_none (scope : Option String) :
    (after.models[id]?).bind (hashItem after.toRegistry bundle.adapters scope id) = none := by
  cases hafter : after.models[id]? with
  | none => rfl
  | some config =>
    refine hashItem_eq_none (fun hserves => huntold (.inl ?_)) scope
    rwa [← hwritten.own config hafter]

theorem undisturbed_of_items (hitems : ∀ other : String,
      (after.models[other]?).bind (hashItem after.toRegistry bundle.adapters none other) =
        (live.models[other]?).bind (hashItem live.toRegistry bundle.adapters none other)) :
    Undisturbed live id profiles bundle := by
  refine ⟨fun other config hother hconfig => ?_, fun stored hstored => ?_⟩
  · have hafter : after.models[other]? = some config :=
      (hwritten.others other hother).trans hconfig
    have hitem := hitems other
    rw [hafter, hconfig] at hitem
    have hsame := (hashItem_eq_iff hafter hconfig).1 hitem
    rw [readAsVariant_rebuilt hwritten.bases hwritten.lower other] at hsame
    exact fun hserves => (hsame hserves).imp_left Iff.symm
  · have hitem := hitems id
    rw [own_item_eq_none hwritten huntold none, hstored] at hitem
    exact hitem.symm

theorem items_of_undisturbed
    (hundisturbed : Undisturbed live id profiles bundle) (scope : Option String) (other : String) :
    (after.models[other]?).bind (hashItem after.toRegistry bundle.adapters scope other) =
      (live.models[other]?).bind (hashItem live.toRegistry bundle.adapters scope other) := by
  obtain ⟨hothers, hstored⟩ := hundisturbed
  by_cases hother : other = id
  · subst hother
    rw [own_item_eq_none hwritten huntold scope]
    cases hbefore : live.models[other]? with
    | none => rfl
    | some stored =>
      rw [bind_some, hashItem_scoped, hstored stored hbefore, ite_self]
  · have hsame := hwritten.others other hother
    rw [hsame]
    cases hconfig : live.models[other]? with
    | none => rfl
    | some config =>
      have hitem : hashItem after.toRegistry bundle.adapters none other config =
          hashItem live.toRegistry bundle.adapters none other config := by
        refine (hashItem_eq_iff (hsame.trans hconfig) hconfig).2 fun hserves => ?_
        rw [readAsVariant_rebuilt hwritten.bases hwritten.lower other]
        exact (hothers other config hother hconfig hserves).imp_left Iff.symm
      rw [bind_some, bind_some, hashItem_scoped, hitem, ← hashItem_scoped]

end

theorem hashes_eq_iff (hbundle : live.bundles[name]? = some bundle)
    (huntold : ¬ Told live operation id profiles name bundle) :
    (∀ pool, computeBundleConfigHash after.toRegistry name pool =
        computeBundleConfigHash live.toRegistry name pool) ↔
      Undisturbed live id profiles bundle := by
  have hafter : after.bundles[name]? = some bundle := by rw [hwritten.bundles, hbundle]
  constructor
  · intro hhashes
    have hwhole := hhashes none
    rw [computeBundleConfigHash, computeBundleConfigHash,
      computeBundleConfigHashLocked_eq hafter, computeBundleConfigHashLocked_eq hbundle] at hwhole
    exact undisturbed_of_items hwritten huntold (bind_eq_of_filterMap_toList_eq _ _
      HashItem.sieId (fun _ _ _ => hashItem_sieId) (fun _ _ _ => hashItem_sieId) hwhole)
  · intro hundisturbed pool
    have hitems := items_of_undisturbed hwritten huntold hundisturbed
    have hlocked (pool : Option String) : computeBundleConfigHashLocked after.toRegistry name pool =
        computeBundleConfigHashLocked live.toRegistry name pool := by
      rw [computeBundleConfigHashLocked_eq hafter, computeBundleConfigHashLocked_eq hbundle]
      exact filterMap_toList_congr _ _ (hitems _)
    cases pool <;> exact hlocked _

end

/-- A name that is no bundle's has the empty hash. -/
theorem computeBundleConfigHash_missing
    (hmissing : registry.bundles[name]? = none) (pool : Option String) :
    computeBundleConfigHash registry name pool = [] := by
  cases pool <;> simp only [computeBundleConfigHash, computeBundleConfigHashLocked, hmissing]

end Main

/-- In every registry reached from a reload of whole files, an accepted operation reports
every bundle whose hash it changes exactly when it does not change how a model of an
unreported bundle is read. -/
theorem notified_iff_separate {bundles : Table BundleInfo} {files : List ModelFile}
    {actions : List Action} {live after : LiveRegistry} {operation : Operation}
    {affected : List String} (hnamed : WellNamed bundles)
    (hwhole : ∀ file ∈ files, file.unreadable = [])
    (hrun : run act (loadFiles bundles files) actions = some live)
    (hperform : perform live operation = some (after, affected)) :
    Notified live after affected ↔ Separate live operation := by
  rw [loadFiles_eq hwhole] at hrun
  obtain ⟨hderived, hbundles⟩ := run_derived hrun
  rw [← hbundles] at hnamed
  cases hleaves : leaves live.toRegistry operation with
  | none =>
    obtain rfl := perform_idle hderived hperform hleaves
    constructor
    · intro _ id profiles hsome
      rw [hleaves] at hsome
      cases hsome
    · exact fun _ bundleId pool hne => absurd rfl hne
  | some write =>
    obtain ⟨id, profiles⟩ := write
    have hwritten := perform_written hderived hnamed hperform hleaves
    constructor
    · intro hnotified other otherProfiles hsome name bundle hbundle huntold
      cases hleaves.symm.trans hsome
      refine (hashes_eq_iff hwritten hbundle huntold).1 fun pool => ?_
      by_contra hne
      exact huntold ((hwritten.reported name bundle hbundle).1 (hnotified name pool hne))
    · intro hseparate bundleId pool hne
      cases hbundle : live.bundles[bundleId]? with
      | none =>
        have hafter : after.bundles[bundleId]? = none := by rw [hwritten.bundles, hbundle]
        rw [computeBundleConfigHash_missing hbundle, computeBundleConfigHash_missing hafter] at hne
        exact absurd rfl hne
      | some bundle =>
        rw [hwritten.reported bundleId bundle hbundle]
        by_contra huntold
        exact hne ((hashes_eq_iff hwritten hbundle huntold).2
          (hseparate id profiles hleaves bundleId bundle hbundle huntold) pool)

end Registries

attribute [local instance] ascii

def plainModels : LiveRegistry := loadAll twoBundles [modelWith "a" "default" "mx:A"]

theorem plainModels_separate : Separate plainModels (.add (modelWith "b" "default" "my:B")) := by
  have hbases : plainModels.profileVariantBaseModels = ∅ := by with_unfolding_all rfl
  have hlower : plainModels.profileVariantNamesLower = ∅ := by with_unfolding_all rfl
  have hnew : plainModels.models["b"]? = none := by decide +kernel
  have hleft : ((leaves plainModels.toRegistry (.add (modelWith "b" "default" "my:B"))).all
      fun write => write.1 = "b" ∧ variantProfiles write.2 = []) = true := by decide +kernel
  intro id profiles hleaves name bundle hbundle huntold
  rw [hleaves] at hleft
  obtain ⟨rfl, hvariants⟩ : id = "b" ∧ variantProfiles profiles = [] := of_decide_eq_true hleft
  refine ⟨fun other config hother hconfig hserves => .inl ?_, fun stored hstored => ?_⟩
  · simp [ReadAsVariant, StaysVariant, hbases, hlower, hvariants]
  · rw [hnew] at hstored
    cases hstored

theorem notified_iff_separate_plain :
    ∃ after affected, perform plainModels (.add (modelWith "b" "default" "my:B")) =
        some (after, affected) ∧ affected = ["y"] ∧ Notified plainModels after affected := by
  have hloaded : run act (loadFiles twoBundles [⟨modelWith "a" "default" "mx:A", []⟩]) [] =
      some plainModels := rfl
  refine ⟨_, _, (some_get ?_).symm, ?_, (notified_iff_separate twoBundles_wellNamed (by simp)
    hloaded (some_get ?_).symm).2 plainModels_separate⟩
  all_goals decide +kernel

/-- A model's id becomes another model's variant: its own bundle hashes it no more, and is
not told. -/
theorem variantOfOther_unreported :
    ∃ after affected, perform (loadAll twoBundles [modelWith "m:p" "q" "mx:A"])
        (.add (modelWith "m" "p" "my:B")) = some (after, affected) ∧
      ¬ Notified (loadAll twoBundles [modelWith "m:p" "q" "mx:A"]) after affected := by
  refine ⟨_, _, (some_get ?_).symm, fun hnotified => absurd (hnotified "x" none ?_) ?_⟩
  all_goals decide +kernel

end SieCluster.NotifiedBundles
