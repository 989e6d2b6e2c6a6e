import SieCluster.Config.ModelCatalogue

/-!
# The registry with its derived tables

Beside the full configs and the variant tables, the control plane's registry
keeps what it derives from them: an entry with its bundles for every model and
every variant, the ids by their lower case, the adapter modules and the profile
names, and the bundle hashes computed so far.  A write changes them for the one
model it names, and returns the bundles that workers have to be told of.
-/

namespace SieCluster.RegistryTables

open Tables
open Profiles
open ConfigRegistry
open ModelCatalogue
open ModelRegistry (variantName bundleOrder)

/-- The bundles are those that can serve the entry, the preferred one first. -/
structure ModelInfo where
  name : String
  bundles : List String
  deriving DecidableEq

/-- The registry's `models` are the full configs. -/
structure LiveRegistry extends Registry where
  modelInfos : Table ModelInfo
  modelNamesLower : Table String
  profileVariantModels : Table ModelInfo
  modelAdapterModules : Table (Finset String)
  modelProfiles : Table (Finset String)
  bundleHashCache : Table Preimage

section Deriving

def matchingBundleNames (modules : Finset String) (bundles : Table BundleInfo) : List String :=
  let matching := bundles.toList.filter fun bundle => bundle.2.adapters.any (· ∈ modules)
  ((matching.map fun bundle => (bundle.2.priority, bundle.2.name)).insertionSort
    bundleOrder).map Prod.snd

section

variable (profiles : Table ProfileConfig)

def profileModules (name : String) : Finset String :=
  (adapterModuleFromPath (effectivePath profiles name)).toFinset

/-- `_adapter_modules_for_profiles` over all profiles. -/
def allModules : Finset String :=
  (adapterModulesForProfiles profiles profiles.keys).toFinset

def baseRouteAdapterModules : Finset String :=
  if "default" ∈ profiles then profileModules profiles "default" else ∅

variable (bundles : Table BundleInfo)

def baseInfo (id : String) (profiles : Table ProfileConfig) :
    ModelInfo :=
  ⟨id, matchingBundleNames (baseRouteAdapterModules profiles) bundles⟩

def variantInfo (id : String) (profiles : Table ProfileConfig) (profile : String) : ModelInfo :=
  ⟨variantName id profile, matchingBundleNames (profileModules profiles profile) bundles⟩

def variantProfiles : List String :=
  profiles.keys.filter (· ≠ "default")

end

variable (bundles : Table BundleInfo)

def addVariantInfos (id : String)
    (profiles : Table ProfileConfig) (infos : Table ModelInfo) : Table ModelInfo :=
  (variantProfiles profiles).foldl (fun infos profile =>
      infos.insert (variantName id profile) (variantInfo bundles id profiles profile)) infos

def inOrder (names : List String) : List String :=
  (names.insertionSort (· ≤ ·)).dedup

/-- The bundles of a model's profiles and of its variants. -/
def profileBundles (profiles : Table ProfileConfig) : List String :=
  matchingBundleNames (allModules profiles) bundles ++
    (variantProfiles profiles).flatMap fun profile =>
      matchingBundleNames (profileModules profiles profile) bundles

end Deriving

section Writing

variable [Letters] (live : LiveRegistry)

/-- What a write does to the tables. -/
def store (id : String) (config : ModelConfig) : LiveRegistry where
  bundles := live.bundles
  models := live.models.insert id config
  profileVariantBaseModels := (rebuildVariants live.toRegistry id config.profiles).1
  profileVariantNamesLower := (rebuildVariants live.toRegistry id config.profiles).2
  modelInfos := live.modelInfos.insert id (baseInfo live.bundles id config.profiles)
  modelNamesLower :=
    if id ∈ live.modelInfos then live.modelNamesLower
    else live.modelNamesLower.insert (lowercase id) id
  profileVariantModels :=
    addVariantInfos live.bundles id config.profiles (live.profileVariantModels.filter fun name _ =>
        live.profileVariantBaseModels[name]? ≠ some id)
  modelAdapterModules := live.modelAdapterModules.insert id (allModules config.profiles)
  modelProfiles := live.modelProfiles.insert id config.profiles.keys.toFinset
  bundleHashCache := ∅

variable (incoming : ModelConfig)

def addModelConfig : Except ConfigError (LiveRegistry × List String) := do
  let config ← validateConfig live.toRegistry incoming
  let stored := storedConfig live.toRegistry config
  return (store live config.name stored, inOrder (profileBundles live.bundles stored.profiles))

/-- The bundles the model was in before are told as well. -/
def replaceModelConfig : Except ConfigError (LiveRegistry × List String) := do
  let config ← validateStructure live.toRegistry incoming
  let before :=
    matchingBundleNames ((live.modelAdapterModules[config.name]?).getD ∅) live.bundles
  return (store live config.name config,
    inOrder (before ++ profileBundles live.bundles config.profiles))

def removedVariants (modelId : String) : List String :=
  (live.profileVariantBaseModels.toList.filter fun entry => entry.2 = modelId).map Prod.fst

def drop (modelId : String) : LiveRegistry where
  bundles := live.bundles
  models := live.models.erase modelId
  profileVariantBaseModels := (rebuildVariants live.toRegistry modelId ∅).1
  profileVariantNamesLower := (rebuildVariants live.toRegistry modelId ∅).2
  modelInfos := live.modelInfos.erase modelId
  modelNamesLower := live.modelNamesLower.filter fun _ name => name ≠ modelId
  profileVariantModels := live.profileVariantModels.filter fun name _ =>
    name ∉ removedVariants live modelId
  modelAdapterModules := live.modelAdapterModules.erase modelId
  modelProfiles := live.modelProfiles.erase modelId
  bundleHashCache := ∅

def removeModelConfig (modelId : String) (fallback : Option ModelConfig) :
    Except ConfigError (LiveRegistry × List String) :=
  match fallback with
  | some config => replaceModelConfig live config
  | none =>
    if modelId ∈ live.modelInfos then
      let before :=
        matchingBundleNames ((live.modelAdapterModules[modelId]?).getD ∅) live.bundles
      let variants := (removedVariants live modelId).flatMap fun name =>
        ((live.profileVariantModels[name]?).map ModelInfo.bundles).getD []
      .ok (drop live modelId, inOrder (before ++ variants))
    else .ok (live, [])

inductive Operation where
  | add (config : ModelConfig)
  | replace (config : ModelConfig)
  | remove (modelId : String) (fallback : Option ModelConfig)

/-- An accepted operation, with the bundles it reports.  A fallback for another model is
refused. -/
def perform : Operation → Option (LiveRegistry × List String)
  | .add config => (addModelConfig live config).toOption
  | .replace config => (replaceModelConfig live config).toOption
  | .remove modelId fallback =>
    if fallback.all (·.name = modelId) then
      (removeModelConfig live modelId fallback).toOption
    else none

end Writing

section Loading

variable (bundles : Table BundleInfo)

def emptyLive : LiveRegistry where
  bundles := bundles
  models := ∅
  profileVariantBaseModels := ∅
  profileVariantNamesLower := ∅
  modelInfos := ∅
  modelNamesLower := ∅
  profileVariantModels := ∅
  modelAdapterModules := ∅
  modelProfiles := ∅
  bundleHashCache := ∅

variable [Letters]

/-- One round of the file loop of `reload`, for a file whose profiles are all mappings. -/
def loadLive (live : LiveRegistry) (config : ModelConfig) : LiveRegistry :=
  if loadable config then
    { toRegistry := loadModel live.toRegistry config
      modelInfos := live.modelInfos.insert config.name
        (baseInfo live.bundles config.name config.profiles)
      modelNamesLower := live.modelNamesLower.insert (lowercase config.name) config.name
      profileVariantModels :=
        addVariantInfos live.bundles config.name config.profiles live.profileVariantModels
      modelAdapterModules :=
        live.modelAdapterModules.insert config.name (allModules config.profiles)
      modelProfiles := live.modelProfiles.insert config.name config.profiles.keys.toFinset
      bundleHashCache := live.bundleHashCache }
  else live

def loadAll (configs : List ModelConfig) : LiveRegistry :=
  configs.foldl loadLive (emptyLive bundles)

/-- A model file: its config with the profiles that are mappings, and the names of the
others. -/
structure ModelFile where
  config : ModelConfig
  unreadable : List String
  deriving DecidableEq

/-- A profile that is no mapping stops the round halfway: the model has its entry, its
modules and its profile names by then, but no full config and no variants. -/
def loadFile (live : LiveRegistry) (file : ModelFile) : LiveRegistry :=
  if file.unreadable = [] then loadLive live file.config
  else if loadable file.config &&
      file.unreadable.all fun name => name = "default" || wellFormedProfileName name then
    { live with
      modelInfos := live.modelInfos.insert file.config.name
        (baseInfo live.bundles file.config.name file.config.profiles)
      modelNamesLower :=
        live.modelNamesLower.insert (lowercase file.config.name) file.config.name
      modelAdapterModules :=
        live.modelAdapterModules.insert file.config.name (allModules file.config.profiles)
      modelProfiles := live.modelProfiles.insert file.config.name
        (file.config.profiles.keys ++ file.unreadable).toFinset }
  else live

def loadFiles (files : List ModelFile) : LiveRegistry :=
  files.foldl loadFile (emptyLive bundles)

variable {bundles}

theorem loadFiles_eq (hwhole : ∀ file ∈ files, file.unreadable = []) :
    loadFiles bundles files = loadAll bundles (files.map ModelFile.config) := by
  rw [loadFiles, loadAll, List.foldl_map]
  apply List.foldl_ext
  intro live file hfile
  rw [loadFile, if_pos (hwhole file hfile)]

end Loading

section Asking

variable [Letters] (live : LiveRegistry)

/-- `compute_bundle_config_hash`, with its cache. -/
def cachedBundleConfigHash (bundleId : String) : Preimage × LiveRegistry :=
  match live.bundleHashCache[bundleId]? with
  | some cached => (cached, live)
  | none =>
    let result := computeBundleConfigHashLocked live.toRegistry bundleId none
    (result, { live with bundleHashCache := live.bundleHashCache.insert bundleId result })

inductive ResolveError where
  | modelNotFound (model : String)
  | bundleConflict (model bundle : String) (compatible : List String)
  deriving DecidableEq

/-- The entry that a name stands for. -/
def entryFor (model : String) : Option ModelInfo :=
  match live.modelNamesLower[lowercase model]? with
  | some canonical => live.modelInfos[canonical]?
  | none =>
    ((live.profileVariantNamesLower[lowercase model]?).bind
      fun variant => live.profileVariantModels[variant]?).or
        ((live.profileVariantModels[model]?).or live.modelInfos[model]?)

def resolveBundle (model : String) (bundleOverride : Option String) : Except ResolveError String :=
  match ((entryFor live model).map ModelInfo.bundles).getD [] with
  | [] => .error (.modelNotFound model)
  | preferred :: others =>
    match bundleOverride with
    | none => .ok preferred
    | some bundle =>
      if bundle ∈ preferred :: others then .ok bundle
      else .error (.bundleConflict model bundle (preferred :: others))

end Asking

/-! ## What the tables hold -/

theorem mem_removedVariants {live : LiveRegistry} {id variant : String} :
    variant ∈ removedVariants live id ↔ live.profileVariantBaseModels[variant]? = some id := by
  simp only [removedVariants, List.mem_map, List.mem_filter, Prod.exists,
    Std.ExtTreeMap.mem_toList_iff_getElem?_eq_some, decide_eq_true_eq]
  constructor
  · rintro ⟨variant, base, ⟨hget, rfl⟩, rfl⟩
    exact hget
  · exact fun hget => ⟨variant, id, ⟨hget, rfl⟩, rfl⟩

theorem mem_variantProfiles :
    profile ∈ variantProfiles profiles ↔ profile ∈ profiles ∧ profile ≠ "default" := by
  rw [variantProfiles, List.mem_filter, Std.ExtTreeMap.mem_keys, decide_eq_true_eq]

theorem variantName_inj_right {id profile other : String}
    (hsame : variantName id profile = variantName id other) : profile = other := by
  rw [← String.toList_inj] at hsame ⊢
  simpa [variantName, String.toList_append] using hsame

/-- The variants of the model stand over whatever was there. -/
theorem get_addVariantInfos {bundles : Table BundleInfo} {id : String} {infos : Table ModelInfo}
    {key : String} {info : ModelInfo} :
    (addVariantInfos bundles id profiles infos)[key]? = some info ↔
      (∃ profile ∈ variantProfiles profiles, variantName id profile = key ∧
        variantInfo bundles id profiles profile = info) ∨
      (∀ profile ∈ variantProfiles profiles, variantName id profile ≠ key) ∧
        infos[key]? = some info := by
  have hlisted : addVariantInfos bundles id profiles infos =
      insertAll infos ((variantProfiles profiles).map fun profile =>
        (variantName id profile, variantInfo bundles id profiles profile)) := by
    rw [addVariantInfos, insertAll, List.foldl_map]
  rw [hlisted, insertAll_eq_some_iff]
  · simp only [List.mem_map, Prod.mk.injEq, forall_exists_index, and_imp, forall_apply_eq_imp_iff₂]
  · simp only [List.mem_map]
    rintro - ⟨profile, -, rfl⟩ - ⟨other, -, rfl⟩ hsame
    rw [variantName_inj_right hsame]

end SieCluster.RegistryTables
