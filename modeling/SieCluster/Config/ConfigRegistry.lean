import SieCluster.Gateway.RegistryRoutes

/-!
# The control plane's model registry

Model configs are appended: a write adds profiles to a model and fills in fields
it did not have, and never changes a stored profile.  The control plane hashes
the configs as they were written, resolving each profile's inheritance on its
own.  A bundle's config hash is represented by the pre-image that is serialised and
digested; the empty hash is the empty pre-image.
-/

namespace SieCluster.ConfigRegistry

open Tables Std.ExtTreeMap
open AdapterOptions
open Profiles
open ModelRegistry (variantName isProfileNameChar wellFormedPool)
open RegistryRoutes (exported Filed)
open Fallible

structure Registry where
  bundles : Table BundleInfo
  models : Table ModelConfig
  profileVariantBaseModels : Table String
  profileVariantNamesLower : Table String

inductive ConfigError where
  | missingId
  | badPool
  | missingProfiles
  | badProfileName (profile : String)
  | missingAdapterPath (profile : String)
  | unroutable (modules : List String)
  | poolConflict (id : String)
  | profileConflict (id : String) (profiles : List String)
  | noBundle (id : String)
  deriving DecidableEq

/-- The profile fields that affect inference. -/
structure HashConfig where
  adapterOptions : Option Options
  adapterPath : Option String
  computePrecision : Option String
  maxBatchTokens : Option BatchTokens
  deriving DecidableEq

structure HashProfile where
  name : String
  config : HashConfig
  deriving DecidableEq

structure HashItem where
  sieId : String
  revision : Option String
  profiles : List HashProfile
  deriving DecidableEq

abbrev Preimage := List HashItem

section Reading

def adapterModuleFromPath (path : Option String) : Option String :=
  ((path.filter (· ≠ "")).map moduleOf).filter (· ≠ "")

section

variable (profiles : Table ProfileConfig)

def effectivePath (name : String) : Option String :=
  effectiveAdapterPath (lineage controlParent profiles name)

def adapterModulesForProfiles (names : List String) : List String :=
  names.filterMap fun name => adapterModuleFromPath (effectivePath profiles name)

/-- One profile laid over what its parent resolved to, options collapsed. -/
def overlayHashConfig (profile : ProfileConfig) (resolved : HashConfig) : HashConfig where
  adapterOptions := mergeHashAdapterOptions resolved.adapterOptions profile.adapterOptions
  adapterPath := profile.adapterPath.or resolved.adapterPath
  computePrecision := profile.computePrecision.or resolved.computePrecision
  maxBatchTokens := profile.maxBatchTokens.or resolved.maxBatchTokens

def resolvedProfileHashConfig (name : String) : Option HashConfig :=
  let line := lineage controlParent profiles name
  if line.complete then
    some (line.profiles.foldr overlayHashConfig ⟨none, none, none, none⟩)
  else none

end

variable [Letters]

def modelPoolName (config : ModelConfig) : String :=
  match config.pool with
  | none => "default"
  | some raw => if canonicalPool raw = "" then "default" else canonicalPool raw

/-- A model whose id is also a variant name is read as that variant. -/
def getModelProfileNames (registry : Registry) (model : String) : List String :=
  if lowercase model ∈ registry.profileVariantNamesLower ∨
      model ∈ registry.profileVariantBaseModels then ["default"]
  else ((registry.models[model]?).map fun config => config.profiles.keys).getD []

end Reading

section Writing

variable [Letters]

def normalizePoolName (config : ModelConfig) : Except ConfigError ModelConfig :=
  match config.pool with
  | none => .ok config
  | some raw =>
    let pool := canonicalPool raw
    if pool = "" then .ok { config with pool := none }
    else if wellFormedPool pool then .ok { config with pool := some pool }
    else .error .badPool

def wellFormedProfileName (name : String) : Bool :=
  name ≠ "" && name.toList.all isProfileNameChar

def checkProfiles (profiles : Table ProfileConfig) : Except ConfigError Unit :=
  forM profiles.toList fun entry =>
    if wellFormedProfileName entry.1 = false then .error (.badProfileName entry.1)
    else if (effectivePath profiles entry.1).isNone && (controlParent entry.2).isNone then
      .error (.missingAdapterPath entry.1)
    else .ok ()

section

variable (registry : Registry)

def storedProfiles (id : String) : Table ProfileConfig :=
  ((registry.models[id]?).map ModelConfig.profiles).getD ∅

def routable (name : String) : Bool :=
  registry.bundles.toList.any fun bundle => name ∈ bundle.2.adapters

section

variable (config : ModelConfig)

/-- The stored profiles with the incoming ones over them, as routing will see them. -/
def mergedProfiles : Table ProfileConfig :=
  storedProfiles registry config.name ∪ config.profiles

def unroutableModules : List String :=
  (adapterModulesForProfiles (mergedProfiles registry config) config.profiles.keys).filter
    fun name => !routable registry name

def createdProfiles : List String :=
  if config.name ∈ registry.models then
    config.profiles.keys.filter (· ∉ getModelProfileNames registry config.name)
  else config.profiles.keys

def poolAgrees : Bool :=
  match registry.models[config.name]? with
  | none => true
  | some existing =>
    config.pool.isNone ||
      config.pool.getD "default" = (existing.pool.filter (· ≠ "")).getD "default"

def conflictingProfiles : List String :=
  config.profiles.keys.filter fun name =>
    config.name ∈ registry.models && name ∈ getModelProfileNames registry config.name &&
      ((storedProfiles registry config.name)[name]?).any fun stored =>
        some stored ≠ config.profiles[name]?

/-- A write that adds profiles leaves the model in some bundle. -/
def reachesBundle : Bool :=
  createdProfiles registry config = [] ||
    (adapterModulesForProfiles (mergedProfiles registry config)
      (mergedProfiles registry config).keys).any (routable registry)

end

def require (holds : Bool) (problem : ConfigError) : Except ConfigError Unit :=
  if holds then .ok () else .error problem

variable (incoming : ModelConfig)

/-- `_validate_config_locked`; the config comes back with its pool in canonical form. -/
def validateConfig : Except ConfigError ModelConfig := do
  require (incoming.name ≠ "") .missingId
  let config ← normalizePoolName incoming
  require (!config.profiles.isEmpty) .missingProfiles
  checkProfiles config.profiles
  require (unroutableModules registry config).isEmpty
    (.unroutable (unroutableModules registry config))
  require (poolAgrees registry config) (.poolConflict config.name)
  require (conflictingProfiles registry config).isEmpty
    (.profileConflict config.name (conflictingProfiles registry config))
  require (reachesBundle registry config) (.noBundle config.name)
  return config

/-- What is stored is kept, what was absent is filled in. -/
def fillConfig (existing config : ModelConfig) (profiles : Table ProfileConfig) : ModelConfig where
  name := existing.name
  hfRevision := existing.hfRevision.or config.hfRevision
  pool := existing.pool.or config.pool
  profiles := existing.profiles ∪ profiles
  inputs := existing.inputs.or config.inputs
  maxSequenceLength := existing.maxSequenceLength.or config.maxSequenceLength
  tasks := existing.tasks.or config.tasks

/-- What a write stores under the model's id. -/
def storedConfig (config : ModelConfig) : ModelConfig :=
  match registry.models[config.name]? with
  | none => config
  | some existing =>
    fillConfig existing config
      (config.profiles.filter fun name _ => name ∈ createdProfiles registry config)

def registerVariant (id : String) (tables : Table String × Table String) (profile : String) :
    Table String × Table String :=
  (tables.1.insert (variantName id profile) id,
    tables.2.insert (lowercase (variantName id profile)) (variantName id profile))

/-- The variant tables with the variants of one model rebuilt. -/
def rebuildVariants (id : String) (profiles : Table ProfileConfig) : Table String × Table String :=
  let names := registry.profileVariantNamesLower.filter fun _ name =>
    registry.profileVariantBaseModels[name]? ≠ some id
  let bases := registry.profileVariantBaseModels.filter fun _ base => base ≠ id
  (profiles.keys.filter (· ≠ "default")).foldl (registerVariant id) (bases, names)

def addModelConfig : Except ConfigError Registry := do
  let config ← validateConfig registry incoming
  let stored := storedConfig registry config
  let tables := rebuildVariants registry config.name stored.profiles
  return { registry with
    models := registry.models.insert config.name stored
    profileVariantBaseModels := tables.1
    profileVariantNamesLower := tables.2 }

def emptyRegistry (bundles : Table BundleInfo) : Registry := ⟨bundles, ∅, ∅, ∅⟩

/-- The configs in the order `/v1/configs/export` lists them. -/
def exportConfigs : List ModelConfig :=
  exported registry.models

end

end Writing

section Hashing

variable [Letters]

/-- An empty adapter path belongs to every bundle. -/
def profileForHash (adapters : List String) (profiles : Table ProfileConfig) (name : String) :
    Option HashProfile :=
  (resolvedProfileHashConfig profiles name).bind fun config =>
    if config.adapterPath.all fun path => path = "" || moduleOf path ∈ adapters then
      some ⟨name, config⟩
    else none

variable (registry : Registry)

/-- One round of the loop of `_compute_bundle_config_hash_locked`. -/
def hashItem (adapters : List String) (pool : Option String)
    (name : String) (config : ModelConfig) : Option HashItem :=
  if pool.any (· ≠ modelPoolName config) then none
  else if (adapterModulesForProfiles config.profiles config.profiles.keys).any (· ∈ adapters) then
    let profiles := (getModelProfileNames registry name).filterMap
      (profileForHash adapters config.profiles)
    if profiles = [] then none else some ⟨name, config.hfRevision, profiles⟩
  else none

def computeBundleConfigHashLocked (bundleId : String) (pool : Option String) : Preimage :=
  match registry.bundles[bundleId]? with
  | none => []
  | some bundle =>
    let scope := (pool.map canonicalPool).filter (· ≠ "")
    registry.models.toList.filterMap fun entry =>
      hashItem registry bundle.adapters scope entry.1 entry.2

/-- The hash of a whole bundle, or of one pool of it. -/
def computeBundleConfigHash (bundleId : String) : Option String → Preimage
  | none => computeBundleConfigHashLocked registry bundleId none
  | some pool =>
    computeBundleConfigHashLocked registry bundleId
      (some (if canonicalPool pool = "" then "default" else canonicalPool pool))

end Hashing

section Runs

theorem not_colon_of_wellFormed (hname : wellFormedProfileName name = true) :
    ':' ∉ name.toList ∧ name ≠ "" := by
  unfold wellFormedProfileName at hname
  simp only [Bool.and_eq_true, decide_eq_true_eq] at hname
  refine ⟨fun hcolon => ?_, hname.1⟩
  have hletter := List.all_eq_true.1 hname.2 ':' hcolon
  simp [isProfileNameChar] at hletter

theorem checkProfiles_eq_ok (hcheck : checkProfiles profiles = .ok ())
    (hprofile : profiles[name]? = some profile) : wellFormedProfileName name = true := by
  have hentry := forM_eq_ok.1 hcheck (name, profile) (mem_toList_iff_getElem?_eq_some.2 hprofile)
  dsimp only at hentry
  split_ifs at hentry with hname
  simpa using hname

variable [Letters]

theorem normalizePoolName_eq_ok (hnormal : normalizePoolName config = .ok result) :
    result.name = config.name ∧ result.profiles = config.profiles := by
  unfold normalizePoolName at hnormal
  split at hnormal
  · cases hnormal
    exact ⟨rfl, rfl⟩
  · dsimp only at hnormal
    split_ifs at hnormal <;> cases hnormal <;> exact ⟨rfl, rfl⟩

theorem validateConfig_eq_ok (hvalid : validateConfig registry incoming = .ok config) :
    config.name = incoming.name ∧ config.profiles = incoming.profiles ∧
      checkProfiles config.profiles = .ok () := by
  simp only [validateConfig, bind_eq_ok] at hvalid
  obtain ⟨-, -, normal, hnormal, -, -, ⟨⟩, hcheck, -, -, -, -, -, -, -, -, ⟨⟩⟩ := hvalid
  obtain ⟨hname, hprofiles⟩ := normalizePoolName_eq_ok hnormal
  exact ⟨hname, hprofiles, hcheck⟩

theorem addModelConfig_eq_ok (hadd : addModelConfig registry incoming = .ok result) :
    ∃ config, validateConfig registry incoming = .ok config ∧ result.bundles = registry.bundles ∧
      result.models = registry.models.insert config.name (storedConfig registry config) := by
  unfold addModelConfig at hadd
  obtain ⟨config, hconfig, hadd⟩ := bind_eq_ok.1 hadd
  cases hadd
  exact ⟨config, hconfig, rfl, rfl⟩

theorem get_registerVariant (id : String) (profiles : List String)
    (tables : Table String × Table String) (key : String) :
    ((profiles.foldl (registerVariant id) tables).1)[key]? =
      if ∃ profile ∈ profiles, variantName id profile = key then some id else tables.1[key]? := by
  induction profiles generalizing tables with
  | nil => simp
  | cons profile rest ih =>
    rw [List.foldl_cons, ih, registerVariant, get_insert]
    by_cases hrest : ∃ other ∈ rest, variantName id other = key
    · rw [if_pos hrest, if_pos]
      obtain ⟨other, hmem, hkey⟩ := hrest
      exact ⟨other, List.mem_cons_of_mem _ hmem, hkey⟩
    · rw [if_neg hrest]
      by_cases hhead : variantName id profile = key
      · rw [if_pos hhead, if_pos ⟨profile, List.mem_cons_self, hhead⟩]
      · rw [if_neg hhead, if_neg]
        rintro ⟨other, hmem, hkey⟩
        rcases List.mem_cons.1 hmem with rfl | hother
        · exact hhead hkey
        · exact hrest ⟨other, hother, hkey⟩

/-- A profile of the stored config was stored before or came with the write. -/
theorem get_storedConfig {name : String} {profile : ProfileConfig}
    (hprofile : (storedConfig registry config).profiles[name]? = some profile) :
    config.profiles[name]? = some profile ∨
      ∃ existing, registry.models[config.name]? = some existing ∧
        existing.profiles[name]? = some profile := by
  unfold storedConfig at hprofile
  split at hprofile
  · exact .inl hprofile
  · rename_i existing hexisting
    simp only [fillConfig, Std.ExtTreeMap.getElem?_union, Std.ExtTreeMap.getElem?_filter',
      Option.or_eq_some_iff, Option.filter_eq_some_iff] at hprofile
    rcases hprofile with ⟨hnew, -⟩ | ⟨-, hold⟩
    · exact .inl hnew
    · exact .inr ⟨existing, hexisting, hold⟩

theorem addModelConfig_filed {result : Registry} (hfiled : Filed registry.models)
    (hadd : addModelConfig registry incoming = .ok result) : Filed result.models := by
  obtain ⟨config, hvalid, -, hmodels⟩ := addModelConfig_eq_ok hadd
  obtain ⟨-, -, hcheck⟩ := validateConfig_eq_ok hvalid
  -- a config found afterwards is the one just stored or an old one
  have hfound : ∀ (id : String) (found : ModelConfig), result.models[id]? = some found →
      (id = config.name ∧ found = storedConfig registry config) ∨
        registry.models[id]? = some found := by
    intro id found hfound
    rw [hmodels, get_insert] at hfound
    split_ifs at hfound with hid
    · cases hfound
      exact .inl ⟨hid.symm, rfl⟩
    · exact .inr hfound
  refine ⟨fun id found hget => ?_, fun id found hget name hname hne => ?_⟩
  · rcases hfound id found hget with ⟨rfl, rfl⟩ | hold
    · unfold storedConfig
      split
      · rfl
      · rename_i existing hexisting
        exact hfiled.name _ existing hexisting
    · exact hfiled.name id found hold
  · rcases hfound id found hget with ⟨rfl, rfl⟩ | hold
    · obtain ⟨profile, hprofile⟩ := Tables.exists_of_mem hname
      rcases get_storedConfig hprofile with hnew | ⟨existing, hexisting, hstored⟩
      · exact not_colon_of_wellFormed (checkProfiles_eq_ok hcheck hnew)
      · refine hfiled.plain _ existing hexisting name ?_ hne
        rw [mem_iff_isSome_getElem?, hstored]
        rfl
    · exact hfiled.plain id found hold name hname hne

/-- Every registry reached by accepted writes has its configs filed under their ids, with
plain profile names. -/
theorem run_filed {bundles : Table BundleInfo} {writes : List ModelConfig}
    (hrun : writes.foldlM addModelConfig (emptyRegistry bundles) = .ok registry) :
    Filed registry.models ∧ registry.bundles = bundles := by
  refine foldlM_invariant (fun state : Registry => Filed state.models ∧ state.bundles = bundles)
    ?_ ⟨⟨?_, ?_⟩, rfl⟩ hrun
  · rintro incoming - state result ⟨hfiled, hbundles⟩ hadd
    obtain ⟨-, -, hsame, -⟩ := addModelConfig_eq_ok hadd
    exact ⟨addModelConfig_filed hfiled hadd, hsame.trans hbundles⟩
  all_goals
    intro id config hget
    simp [emptyRegistry] at hget

end Runs

end SieCluster.ConfigRegistry
