import SieCluster.Config.HashItems

/-!
# The model configs of a worker

The worker reads each config into a typed form, gives every named profile an
entry of its own, keeps the entries of its pool that a Python adapter serves, and
hashes what it kept for its bundle.
-/

namespace SieCluster.WorkerConfigs

open Tables
open AdapterOptions
open Profiles
open ModelRegistry (variantName wellFormedPool)
open ConfigRegistry (HashConfig HashProfile HashItem Preimage)
open Fallible
open Streaming (Json)

/-- The sections `AdapterOptions` knows. -/
structure Sections where
  loadtime : List (String × Json)
  runtime : List (String × Json)
  deriving DecidableEq

structure Profile where
  extendsProfile : Option String
  maxBatchTokens : Option ℤ
  computePrecision : Option String
  adapterPath : Option String
  adapterOptions : Sections
  deriving DecidableEq

structure ResolvedProfile where
  maxBatchTokens : ℤ
  computePrecision : Option String
  adapterPath : String
  adapterOptions : Sections
  deriving DecidableEq

structure Config where
  sieId : String
  hfRevision : Option String
  pool : Option String
  profiles : Table Profile
  syntheticProfileVariantSource : Option (String × String)
  deriving DecidableEq

inductive LoadError where
  | badOptions (profile : String)
  | badPrecision (profile : String)
  | badBatchTokens (profile : String)
  | badPool
  | noProfiles
  | unknownParent (profile parent : String)
  | chained (profile parent : String)
  | missingAdapterPath (profile : String)
  | missingBatchTokens (profile : String)
  | unknownProfile (profile : String)
  | incomplete (profile : String)
  | cyclic (profile : String)
  | duplicateConfig
  deriving DecidableEq

section Reading

def sectionFields : Option Json → List (String × Json)
  | some (.object fields) => fields
  | _ => []

def sectionsOf : Option Options → Sections
  | some (.object fields) =>
    ⟨sectionFields fields["loadtime"]?, sectionFields fields["runtime"]?⟩
  | _ => ⟨[], []⟩

/-- No other key is allowed and both sections are mappings. -/
def wellFormedOptions : Option Options → Bool
  | none => true
  | some (.plain _) => false
  | some (.object fields) => fields.toList.all fun entry =>
    (entry.1 = "loadtime" || entry.1 = "runtime") && isObject entry.2

def knownPrecision (precision : String) : Bool :=
  precision ∈ ["float16", "bfloat16", "float32"]

/-- The integer a typed field makes of the value. -/
def readTokens : BatchTokens → Option ℤ
  | .integer tokens => some tokens
  | .other _ reading => reading

def checkFields (name : String) (raw : ProfileConfig) : Except LoadError Unit := do
  ensure (wellFormedOptions raw.adapterOptions) (.badOptions name)
  ensure (raw.maxBatchTokens.all fun tokens => (readTokens tokens).isSome) (.badBatchTokens name)
  ensure (raw.computePrecision.all knownPrecision) (.badPrecision name)

def readProfile (raw : ProfileConfig) : Profile :=
  ⟨raw.extendsProfile, raw.maxBatchTokens.bind readTokens, raw.computePrecision,
    raw.adapterPath, sectionsOf raw.adapterOptions⟩

def readProfiles (raw : Table ProfileConfig) : Table Profile :=
  raw.map fun _ profile => readProfile profile

def validatePoolName [Letters] : Option String → Except LoadError (Option String)
  | none => .ok none
  | some raw =>
    let pool := canonicalPool raw
    if pool = "" then .ok none
    else if wellFormedPool pool then .ok (some pool)
    else .error .badPool

variable (profiles : Table Profile)

/-- A profile that extends names one that does not; any other says what it needs. -/
def validateProfile (name : String) (profile : Profile) : Except LoadError Unit :=
  match profile.extendsProfile with
  | some parent =>
    match profiles[parent]? with
    | none => .error (.unknownParent name parent)
    | some parentProfile =>
      ensure parentProfile.extendsProfile.isNone (.chained name parent)
  | none => do
      ensure profile.adapterPath.isSome (.missingAdapterPath name)
      ensure profile.maxBatchTokens.isSome (.missingBatchTokens name)

def validateProfiles : Except LoadError Unit := do
  ensure (!profiles.isEmpty) .noProfiles
  forM profiles.toList fun entry => validateProfile profiles entry.1 entry.2

/-- `ModelConfig(**raw)`. -/
def modelConfig [Letters] (raw : ModelConfig) : Except LoadError Config := do
  forM raw.profiles.toList fun entry => checkFields entry.1 entry.2
  let pool ← validatePoolName raw.pool
  validateProfiles (readProfiles raw.profiles)
  return ⟨raw.name, raw.hfRevision, pool, readProfiles raw.profiles, none⟩

end Reading

section Expanding

/-- A section of the child replaces the inherited one as a whole, if it says anything. -/
def overlaySections (inherited child : Sections) : Sections where
  loadtime := if child.loadtime = [] then inherited.loadtime else child.loadtime
  runtime := if child.runtime = [] then inherited.runtime else child.runtime

def overlayProfile (parent child : Profile) : Profile where
  extendsProfile := none
  maxBatchTokens := child.maxBatchTokens.or parent.maxBatchTokens
  computePrecision := child.computePrecision.or parent.computePrecision
  adapterPath := child.adapterPath.or parent.adapterPath
  adapterOptions := overlaySections parent.adapterOptions child.adapterOptions

def completeProfile (name : String) (profile : Profile) : Except LoadError ResolvedProfile :=
  match profile.adapterPath, profile.maxBatchTokens with
  | some path, some tokens =>
    .ok ⟨tokens, profile.computePrecision, path, profile.adapterOptions⟩
  | _, _ => .error (.incomplete name)

def resolveProfile (profiles : Table Profile) (name : String) : Except LoadError ResolvedProfile :=
  match profiles[name]? with
  | none => .error (.unknownProfile name)
  | some profile =>
    match profile.extendsProfile with
    | none => completeProfile name profile
    | some parent =>
      match profiles[parent]? with
      | none => .error (.unknownProfile parent)
      | some parentProfile => completeProfile name (overlayProfile parentProfile profile)

/-- A resolved profile written back as one that extends nothing. -/
def ResolvedProfile.toProfile (resolved : ResolvedProfile) : Profile :=
  ⟨none, some resolved.maxBatchTokens, resolved.computePrecision, some resolved.adapterPath,
    resolved.adapterOptions⟩

def variantDefault (profiles : Table Profile) (name : String) (profile : Profile) :
    Except LoadError Profile :=
  match profile.extendsProfile with
  | none => .ok profile
  | some _ => do
      let resolved ← resolveProfile profiles name
      return resolved.toProfile

def variantConfig (base : String) (config : Config) (name : String) (promoted : Profile) :
    Config :=
  { config with
    sieId := variantName base name
    profiles := (∅ : Table Profile).insert "default" promoted
    syntheticProfileVariantSource := some (base, name) }

/-- A base id with its config and one of its named profiles. -/
structure Expansion where
  base : String
  config : Config
  name : String
  profile : Profile

section

variable (configs : Table Config)

def expansions : List Expansion :=
  configs.toList.flatMap fun entry =>
    (entry.2.profiles.toList.filter fun profile => profile.1 ≠ "default").map fun profile =>
      ⟨entry.1, entry.2, profile.1, profile.2⟩

/-- A variant whose id some config already has is skipped. -/
def expandProfile (expansion : Expansion) : Except LoadError (Option Config) := do
  let promoted ← variantDefault expansion.config.profiles expansion.name expansion.profile
  return if variantName expansion.base expansion.name ∈ configs then none
    else some (variantConfig expansion.base expansion.config expansion.name promoted)

def byId (config : Config) : String × Config :=
  (config.sieId, config)

def expandProfileVariants : Except LoadError (Table Config) := do
  let variants ← (expansions configs).mapM (expandProfile configs)
  let routable := configs.filter fun _ config => "default" ∈ config.profiles
  return insertAll routable (variants.reduceOption.map byId)

end

def isPythonRuntimeAdapter (path : String) : Bool :=
  !path.startsWith "sie_server_rust."

variable [Letters]

def poolOf (config : Config) : String :=
  match config.pool with
  | none => "default"
  | some pool => if pool = "" then "default" else canonicalPool pool

section

variable (pool : Option String)

def acceptsConfigPool (config : Config) : Except LoadError Bool :=
  if pool.any (· ≠ poolOf config) then .ok false
  else do
    let resolved ← resolveProfile config.profiles "default"
    return isPythonRuntimeAdapter resolved.adapterPath

def keepAccepted (entry : String × Config) : Except LoadError (Option (String × Config)) := do
  let accepted ← acceptsConfigPool pool entry.2
  return if accepted then some entry else none

/-- The registry's name for its pool; none when it was given no name. -/
def poolName : Option String :=
  (pool.filter (· ≠ "")).map canonicalPool

/-- `replace_configs_async` on configs read from the control plane. -/
def replaceConfigs (raws : List ModelConfig) : Except LoadError (Table Config) := do
  let configs ← raws.mapM modelConfig
  ensure (decide (configs.map Config.sieId).Nodup) .duplicateConfig
  let expanded ← expandProfileVariants (insertAll ∅ (configs.map byId))
  let accepted ← expanded.toList.mapM (keepAccepted (poolName pool))
  return insertAll ∅ accepted.reduceOption

end

end Expanding

section Hashing

def bundleAdapterModules (bundle : BundleInfo) : List String :=
  bundle.adapters.filter (· ≠ "")

def adapterModule (path : String) : Option String :=
  if path = "" then none else some (moduleOf path)

def sectionTable (sections : Sections) : Table Json :=
  insertAll ∅ (([("loadtime", sections.loadtime), ("runtime", sections.runtime)].filter
    fun entry => entry.2 ≠ []).map fun entry => (entry.1, .object entry.2))

def compactAdapterOptionsForHash (sections : Sections) : Option Options :=
  if sections.loadtime = [] ∧ sections.runtime = [] then none
  else some (.object (sectionTable sections))

def overlayForHash (profile : Profile) (resolved : HashConfig) : HashConfig where
  adapterOptions := compactAdapterOptionsForHash
    (overlaySections (sectionsOf resolved.adapterOptions) profile.adapterOptions)
  adapterPath := profile.adapterPath.or resolved.adapterPath
  computePrecision := profile.computePrecision.or resolved.computePrecision
  maxBatchTokens := (profile.maxBatchTokens.map .integer).or resolved.maxBatchTokens

def resolvedProfileForHash (profiles : Table Profile) :
    ℕ → List String → String → Except LoadError HashConfig
  | 0, _, name => .error (.cyclic name)
  | fuel + 1, seen, name =>
    match profiles[name]? with
    | none => .error (.unknownProfile name)
    | some profile =>
      if name ∈ seen then .error (.cyclic name)
      else match profile.extendsProfile.filter (· ≠ "") with
        | none => .ok (overlayForHash profile ⟨none, none, none, none⟩)
        | some parent => do
            let resolved ← resolvedProfileForHash profiles fuel (name :: seen) parent
            return overlayForHash profile resolved

/-- No walk meets more names than there are profiles. -/
def profileConfigForHash (profiles : Table Profile) (name : String) : Except LoadError HashConfig :=
  resolvedProfileForHash profiles (profiles.size + 1) [] name

def isSyntheticProfileVariant (config : Config) (configs : Table Config) : Bool :=
  config.syntheticProfileVariantSource.any fun source =>
    source.1 ∈ configs && source.2 ≠ "" && config.sieId = variantName source.1 source.2

section

variable (adapters : List String)

def profileMatchesBundle (profiles : Table Profile) (name : String) : Except LoadError Bool := do
  let resolved ← resolveProfile profiles name
  return (adapterModule resolved.adapterPath).any (· ∈ adapters)

variable (config : Config)

def modelHasBundleAdapter : Except LoadError Bool := do
  let found ← config.profiles.keys.mapM (profileMatchesBundle adapters config.profiles)
  return found.any id

/-- What one config adds to the hash: some profiles of a base model. -/
structure Contribution where
  base : String
  revision : Option String
  profiles : List (String × HashConfig)

/-- Each profile of the config with the name the base model has for it. -/
def profileNameMap : List (String × String) :=
  match config.syntheticProfileVariantSource with
  | none => config.profiles.keys.map fun name => (name, name)
  | some source => [("default", source.2)]

def listProfile (names : String × String) : Except LoadError (Option (String × HashConfig)) := do
  let found ← profileMatchesBundle adapters config.profiles names.1
  if found then
    let shown ← profileConfigForHash config.profiles names.1
    return some (names.2, shown)
  else return none

end

variable (configs : Table Config)

def contribution (adapters : List String) (config : Config) :
    Except LoadError (Option Contribution) :=
  if isSyntheticProfileVariant config configs then .ok none
  else do
    let routed ← modelHasBundleAdapter adapters config
    if routed then
      let profiles ← (profileNameMap config).mapM (listProfile adapters config)
      return some ⟨(config.syntheticProfileVariantSource.map Prod.fst).getD config.sieId,
        config.hfRevision, profiles.reduceOption⟩
    else return none

/-- What is known of a base model: the revision seen first and its profiles. -/
structure Listing where
  revision : Option String
  profiles : Table HashConfig

def record (listings : Table Listing) (added : Contribution) : Table Listing :=
  let listing := (listings[added.base]?).getD ⟨added.revision, ∅⟩
  listings.insert added.base
    { listing with profiles := insertAll listing.profiles added.profiles }

def hashItem (id : String) (listing : Listing) : Option HashItem :=
  let profiles := listing.profiles.toList.map fun entry => (⟨entry.1, entry.2⟩ : HashProfile)
  if profiles = [] then none else some ⟨id, listing.revision, profiles⟩

/-- The worker's `_compute_bundle_config_hash`. -/
def computeBundleConfigHash (bundle : BundleInfo) : Except LoadError Preimage := do
  let added ← configs.toList.mapM fun entry =>
    contribution configs (bundleAdapterModules bundle) entry.2
  return (added.reduceOption.foldl record ∅).toList.filterMap fun entry =>
    hashItem entry.1 entry.2

end Hashing

end SieCluster.WorkerConfigs
