import SieCluster.Config.Profiles

/-!
# The gateway's model registry

Model configs become route entries: one under the model's id when it has a
`default` profile, and one under `id:profile` for every other profile.  Ids and
variant names share one table.  JSON objects list their fields in key order, each
key once.
-/

namespace SieCluster.ModelRegistry

open Tables
open AdapterOptions
open Profiles
open Streaming (Json)

variable [Letters]

structure CanonicalProfile where
  kvBudgetTokens : Option ℕ
  adapterPath : Option String
  maxBatchTokens : Option BatchTokens
  computePrecision : Option String
  maxOutputTokens : Option ℕ
  adapterOptions : Option Options
  grammarProfile : Option String
  chatTemplateKwargs : Option Json
  deriving DecidableEq

/-- `CanonicalProfile::from_profile`. -/
def fromProfile (profile : ProfileConfig) : CanonicalProfile where
  kvBudgetTokens := profile.kvBudgetTokens
  adapterPath := profile.adapterPath
  maxBatchTokens := profile.maxBatchTokens
  computePrecision := profile.computePrecision
  maxOutputTokens := profile.maxOutputTokens
  adapterOptions := profile.adapterOptions.bind canonicalizeAdapterOptions
  grammarProfile := profile.grammarProfile
  chatTemplateKwargs := profile.chatTemplateKwargs

/-- A route entry; `grammarProfile` is the model-wide fallback of its `info_extras`. -/
structure ModelEntry where
  name : String
  canonicalBaseModel : String
  canonicalProfile : String
  pool : Option String
  bundles : List String
  adapterModules : List String
  profileConfigs : Table CanonicalProfile
  grammarProfile : Option String
  deriving DecidableEq

inductive RegistryError where
  | missingId
  | controlCharacter (id : String)
  | missingProfiles
  | missingAdapterPath (profile : String)
  | unroutable (modules : List String)
  | badPool
  | unresolvedProfile (profile : String)
  | badProfileName (profile : String)
  | grammarFallback (profile : String)
  | poolConflict (id : String)
  | profileConflict (profile id : String)
  deriving DecidableEq

section Resolution

/-- One profile laid over what its parent resolved to. -/
def overlayProfile (profile resolved : ProfileConfig) : ProfileConfig where
  kvBudgetTokens := profile.kvBudgetTokens.or resolved.kvBudgetTokens
  adapterPath := profile.adapterPath.or resolved.adapterPath
  maxBatchTokens := profile.maxBatchTokens.or resolved.maxBatchTokens
  computePrecision := profile.computePrecision.or resolved.computePrecision
  maxOutputTokens := profile.maxOutputTokens.or resolved.maxOutputTokens
  grammarProfile := profile.grammarProfile
  chatTemplateKwargs := profile.chatTemplateKwargs.or resolved.chatTemplateKwargs
  adapterOptions := mergeAdapterOptions resolved.adapterOptions profile.adapterOptions
  extendsProfile := none

/-- The profiles of a lineage laid over each other from the root down. -/
def overlayLineage (profiles : List ProfileConfig) : ProfileConfig :=
  profiles.foldr overlayProfile emptyProfileConfig

section

variable (profiles : Table ProfileConfig)

def resolvedProfileFromProfiles (name : String) : Except RegistryError CanonicalProfile :=
  let line := lineage gatewayParent profiles name
  if line.complete then .ok (fromProfile (overlayLineage line.profiles))
  else .error (.unresolvedProfile name)

def effectiveAdapterPathFromProfiles (name : String) : Option String :=
  effectiveAdapterPath (lineage gatewayParent profiles name)

def adapterModuleFromPath (path : String) : Option String :=
  if path = "" then none else some (moduleOf path)

def baseRouteAdapterModulesFromProfiles : List String :=
  if "default" ∈ profiles then
    ((effectiveAdapterPathFromProfiles profiles "default").bind adapterModuleFromPath).toList
  else []

/-- Stores the resolved form of each name, or stops at the first that does not resolve. -/
def insertResolved (names : List String)
    (stored : Table CanonicalProfile) : Except RegistryError (Table CanonicalProfile) :=
  names.foldlM (fun table name => do
    let profile ← resolvedProfileFromProfiles profiles name
    return table.insert name profile) stored

end

end Resolution

section Entries

section Reading

def asObject : Json → Option (List (String × Json))
  | .object fields => some fields
  | _ => none

def field (key : String) (value : Json) : Option Json :=
  (asObject value).bind fun fields => fields.lookup key

def asText : Json → Option String
  | .string text => some text
  | _ => none

def loadtimeValue (options : Option Options) (key : String) : Option Json :=
  ((fieldsOf options)["loadtime"]?).bind (field key)

/-- The `grammar_profile` of the generate task. -/
def declaredGrammarProfile (tasks : Option Json) : Option String :=
  ((tasks.bind (field "generate")).bind (field "grammar_profile")).bind asText

end Reading

def isProfileNameChar (letter : Char) : Bool :=
  letter.isAlphanum || letter ∈ ['-', '_', '.']

def validateProfileName (name : String) : Except RegistryError Unit :=
  if name ≠ "" ∧ name.toList.all isProfileNameChar then .ok ()
  else .error (.badProfileName name)

def isPoolChar (letter : Char) : Bool :=
  letter.isAlphanum || letter ∈ ['_', '-']

def wellFormedPool (pool : String) : Bool :=
  pool.length ≤ 128 && pool ≠ "_default" && pool.toList.all isPoolChar

def normalizeModelPool : Option String → Except RegistryError (Option String)
  | none => .ok none
  | some raw =>
    let pool := canonicalPool raw
    if pool = "" ∨ pool = "default" then .ok none
    else if wellFormedPool pool then .ok (some pool)
    else .error .badPool

section

variable (profile : CanonicalProfile)

def profileDoesNotEnableSpeculation : Bool :=
  match loadtimeValue profile.adapterOptions "speculative" with
  | none => true
  | some value => field "enabled" value = some (.bool false)

def profileExplicitlyDisablesSpeculation : Bool :=
  (loadtimeValue profile.adapterOptions "speculative").bind (field "enabled") = some (.bool false)

def profileLoadtimeWithoutSpeculation : Option (List (String × Json)) :=
  (((fieldsOf profile.adapterOptions)["loadtime"]?).bind asObject).map fun fields =>
    fields.filter fun entry => entry.1 ≠ "speculative"

end

def profileScopedGrammarFallbackIsCompatible (source target : CanonicalProfile) : Bool :=
  source.adapterPath = target.adapterPath && source.kvBudgetTokens = target.kvBudgetTokens &&
    source.maxBatchTokens = target.maxBatchTokens &&
    source.computePrecision = target.computePrecision &&
    source.maxOutputTokens = target.maxOutputTokens &&
    source.chatTemplateKwargs = target.chatTemplateKwargs &&
    profileExplicitlyDisablesSpeculation target &&
    profileLoadtimeWithoutSpeculation source = profileLoadtimeWithoutSpeculation target

/-- A fallback target present in the entry neither chains on nor speculates. -/
def globalGrammarFallbackHolds (entry : ModelEntry) : Bool :=
  match entry.grammarProfile.bind fun target => entry.profileConfigs[target]? with
  | none => true
  | some target => target.grammarProfile.isNone && profileDoesNotEnableSpeculation target

def profileGrammarFallbackHolds (entry : ModelEntry) (name : String)
    (profile : CanonicalProfile) : Bool :=
  match profile.grammarProfile with
  | none => true
  | some targetName =>
    name ≠ "default" && targetName ≠ "default" && targetName ≠ name &&
      match entry.profileConfigs[targetName]? with
      | none => false
      | some target =>
        target.grammarProfile.isNone && profileScopedGrammarFallbackIsCompatible profile target

def validateProfileGrammarFallbacks (entry : ModelEntry) : Except RegistryError Unit :=
  if globalGrammarFallbackHolds entry then
    match entry.profileConfigs.toList.find? fun profile =>
        !profileGrammarFallbackHolds entry profile.1 profile.2 with
    | some profile => .error (.grammarFallback profile.1)
    | none => .ok ()
  else .error (.grammarFallback (entry.grammarProfile.getD ""))

def modelEntryFromConfig (config : ModelConfig) : Except RegistryError ModelEntry := do
  let pool ← normalizeModelPool config.pool
  let profiles ← insertResolved config.profiles config.profiles.keys ∅
  let entry : ModelEntry :=
    { name := config.name
      canonicalBaseModel := config.name
      canonicalProfile := "default"
      pool := pool
      bundles := []
      adapterModules := baseRouteAdapterModulesFromProfiles config.profiles
      profileConfigs := profiles
      grammarProfile := declaredGrammarProfile config.tasks }
  validateProfileGrammarFallbacks entry
  return entry

def variantName (base profile : String) : String :=
  base ++ ":" ++ profile

/-- The entry of one named profile, which becomes its own `default`. -/
def variantEntry (base : ModelEntry) (profileName : String) (profile : CanonicalProfile)
    (path : Option String) : ModelEntry where
  name := variantName base.name profileName
  canonicalBaseModel := base.canonicalBaseModel
  canonicalProfile := profileName
  pool := base.pool
  bundles := []
  adapterModules := (path.bind adapterModuleFromPath).toList
  profileConfigs := (∅ : Table CanonicalProfile).insert "default" profile
  grammarProfile := none

/-- The base entry when there is a default profile, then one variant for each other
profile in name order. -/
def expandVariants (base : ModelEntry) (variant : String → Except RegistryError ModelEntry) :
    Except RegistryError (List ModelEntry) := do
  let variants ← (base.profileConfigs.keys.filter (· ≠ "default")).mapM fun name => do
    validateProfileName name
    variant name
  return (if "default" ∈ base.profileConfigs then [base] else []) ++ variants

def expandModelConfigIntoProfileVariants (config : ModelConfig) :
    Except RegistryError (List ModelEntry) := do
  let base ← modelEntryFromConfig config
  expandVariants base fun name => do
    let profile ← resolvedProfileFromProfiles config.profiles name
    return variantEntry base name profile (effectiveAdapterPathFromProfiles config.profiles name)

variable (entry : ModelEntry)

/-- Cheapest bundle first, equal priorities by name. -/
def bundleOrder (left right : ℤ × String) : Prop :=
  left.1 < right.1 ∨ left.1 = right.1 ∧ left.2 ≤ right.2

instance : DecidableRel bundleOrder := fun _ _ => inferInstanceAs (Decidable (_ ∨ _))

def assignBundles (bundles : Table BundleInfo) (entry : ModelEntry) : ModelEntry :=
  let matching := bundles.toList.filter fun bundle =>
    entry.adapterModules.any (· ∈ bundle.2.adapters)
  { entry with
    bundles := ((matching.map fun bundle => (bundle.2.priority, bundle.2.name)).insertionSort
      bundleOrder).map Prod.snd }

end Entries

structure Snapshot where
  bundles : Table BundleInfo
  models : Table ModelEntry
  modelNamesLower : Table String

section Installing

def isControl (letter : Char) : Bool :=
  letter.toNat < 0x20 || 0x7f ≤ letter.toNat && letter.toNat ≤ 0x9f

def adapterModules (profiles : Table ProfileConfig) : List String :=
  profiles.keys.filterMap fun name =>
    (effectiveAdapterPathFromProfiles profiles name).bind adapterModuleFromPath

/-- The checks both install paths start with. -/
def checkConfig (bundles : Table BundleInfo) (config : ModelConfig) : Except RegistryError Unit :=
  if config.name = "" then .error .missingId
  else if config.name.toList.any isControl then .error (.controlCharacter config.name)
  else if config.profiles.isEmpty then .error .missingProfiles
  else
    match config.profiles.toList.find? fun profile =>
        (effectiveAdapterPathFromProfiles config.profiles profile.1).isNone &&
          profile.2.extendsProfile.isNone with
    | some profile => .error (.missingAdapterPath profile.1)
    | none =>
      match (adapterModules config.profiles).filter fun name =>
          !bundles.toList.any fun bundle => name ∈ bundle.2.adapters with
      | [] => .ok ()
      | missing => .error (.unroutable missing)

/-- Files an entry under its name, and its name under its lower case. -/
def insertEntry (tables : Table ModelEntry × Table String) (entry : ModelEntry) :
    Table ModelEntry × Table String :=
  (tables.1.insert entry.name entry, tables.2.insert (lowercase entry.name) entry.name)

def installConfig (bundles : Table BundleInfo) (tables : Table ModelEntry × Table String)
    (config : ModelConfig) : Except RegistryError (Table ModelEntry × Table String) := do
  checkConfig bundles config
  let entries ← expandModelConfigIntoProfileVariants config
  return (entries.map (assignBundles bundles)).foldl insertEntry tables

/-- `replace_model_configs_authoritative`. -/
def replaceModelConfigsAuthoritative (snapshot : Snapshot) (configs : List ModelConfig) :
    Except RegistryError Snapshot := do
  let tables ← configs.foldlM (installConfig snapshot.bundles) (∅, ∅)
  return ⟨snapshot.bundles, tables.1, tables.2⟩

end Installing

end SieCluster.ModelRegistry
