import SieCluster.Config.ModelCatalogue

/-!
# The config API

The three write handlers of the control plane.  Each validates its request
against the live registry, the config store and the model files, and then
commits in a fixed order: the store, the registry, the epoch.  What a handler
has decided to commit is its `Work`.
-/

namespace SieCluster.ConfigApi

open Tables
open Fallible
open Profiles
open ConfigRegistry
open ModelCatalogue
open ModelIds (HttpError)
open ConfigStore (StoreError fileOf idOf)

variable [Letters]

/-- The registry in memory and the config store, each stored YAML by its file name and
as what it parses to. -/
structure Plane where
  registry : Registry
  stored : Table ModelConfig

inductive Request where
  | addModel (config : ModelConfig)
  /-- A body without an id has the empty one. -/
  | replaceModel (modelId : String) (config : ModelConfig)
  | deleteModel (modelId : String)

inductive ApiError where
  | invalidModelId (problem : HttpError)
  | modelIdMismatch (modelId bodyId : String)
  | validation (problem : ConfigError)
  | conflictingFields (modelId : String) (fields : List String)
  | conflictingProfiles (modelId : String) (profiles : List String)
  | filesystemFallbackInvalid (modelId : String)
  | filesystemFallbackMismatch (modelId : String)
  | storeRefused (problem : StoreError)
  deriving DecidableEq

section Store

variable (stored : Table ModelConfig)

def readModel (modelId : String) : Except StoreError (Option ModelConfig) := do
  ConfigStore.validateModelId modelId
  return stored[fileOf modelId]?

end Store

section Deciding

/-- What a request commits. -/
inductive Work where
  /-- The request's config, and the document to store when it brings new profiles. -/
  | append (config : ModelConfig) (document : Option ModelConfig)
  /-- Nothing when the registry has just this config. -/
  | replace (config : Option ModelConfig)
  | remove (modelId : String) (fallback : Option ModelConfig)

def clash {Value : Type} [DecidableEq Value] (field : String)
    (existing incoming : Option Value) : Option String :=
  if existing.isSome && incoming.isSome && existing ≠ incoming then some field else none

/-- The top-level fields that both configs set, to different values. -/
def clashingFields (existing config : ModelConfig) : List String :=
  [clash "hf_revision" existing.hfRevision config.hfRevision,
    clash "inputs" existing.inputs config.inputs,
    clash "max_sequence_length" existing.maxSequenceLength config.maxSequenceLength,
    clash "pool" existing.pool config.pool,
    clash "tasks" existing.tasks config.tasks].reduceOption

def agreeOnFields (existing : Option ModelConfig) (config : ModelConfig) : Except ApiError Unit :=
  let fields := (existing.map fun found => clashingFields found config).getD []
  ensure (fields = []) (.conflictingFields config.name fields)

/-- The document the store gets: its own fields are kept, the profiles joined. -/
def mergedDocument (document : Option ModelConfig) (config : ModelConfig) : ModelConfig :=
  match document with
  | none => config
  | some existing => fillConfig existing config config.profiles

/-- The profiles of the request that the stored document does not have like this. -/
def differingProfiles (document : Option ModelConfig) (config : ModelConfig) : List String :=
  (document.map fun found =>
    config.profiles.keys.filter fun name =>
      found.profiles[name]? ≠ config.profiles[name]?).getD []

def checkModelId (modelId : String) : Except ApiError Unit :=
  (ModelIds.validateModelId modelId).mapError .invalidModelId

/-- A body without an id is left for the registry to refuse. -/
def checkBodyId (bodyId : String) : Except ApiError Unit :=
  if bodyId = "" then .ok () else checkModelId bodyId

def addModel (plane : Plane) (incoming : ModelConfig) : Except ApiError Work := do
  checkBodyId incoming.name
  let config ← (validateConfig plane.registry incoming).mapError .validation
  agreeOnFields plane.registry.models[config.name]? config
  let document ← (readModel plane.stored config.name).mapError .storeRefused
  if createdProfiles plane.registry config = [] then
    ensure (differingProfiles document config = [])
      (.conflictingProfiles config.name (differingProfiles document config))
    return .append config none
  else
    agreeOnFields document config
    return .append config (some (mergedDocument document config))

def replaceModel (plane : Plane) (modelId : String) (body : ModelConfig) :
    Except ApiError Work := do
  checkModelId modelId
  ensure (body.name = "" || body.name = modelId) (.modelIdMismatch modelId body.name)
  let config ← (validateStructure plane.registry { body with name := modelId }).mapError .validation
  if plane.registry.models[modelId]? = some config then return .replace none
  else
    (ConfigStore.validateModelId modelId).mapError .storeRefused
    return .replace (some config)

section

variable (catalogue : Catalogue)

/-- The config that removing an API-written model reveals. -/
def fallbackConfig (registry : Registry) (modelId : String) :
    Except ApiError (Option ModelConfig) :=
  match loadFilesystemYaml catalogue.files modelId with
  | none => .ok none
  | some none => .error (.filesystemFallbackInvalid modelId)
  | some (some config) =>
    if config.name ≠ modelId then .error (.filesystemFallbackMismatch modelId)
    else match validateStructure registry config with
      | .error _ => .error (.filesystemFallbackInvalid modelId)
      | .ok fallback => .ok (some fallback)

def deleteModel (plane : Plane) (modelId : String) : Except ApiError Work := do
  checkModelId modelId
  let fallback ← fallbackConfig catalogue plane.registry modelId
  (ConfigStore.validateModelId modelId).mapError .storeRefused
  return .remove modelId fallback

def decideWork (plane : Plane) : Request → Except ApiError Work
  | .addModel config => addModel plane config
  | .replaceModel modelId body => replaceModel plane modelId body
  | .deleteModel modelId => deleteModel catalogue plane modelId

end

end Deciding

section Committing

section

variable (stored : Table ModelConfig)

/-- Whether the work changes the store, which is also when the epoch is incremented. -/
def persists : Work → Bool
  | .append _ document => document.isSome
  | .replace config => config.isSome
  | .remove modelId _ => fileOf modelId ∈ stored

def applyStore : Work → Table ModelConfig
  | .append config (some document) => stored.insert (fileOf config.name) document
  | .replace (some config) => stored.insert (fileOf config.name) config
  | .remove modelId _ => stored.erase (fileOf modelId)
  | _ => stored

def applyRegistry (registry : Registry) : Work → Except ConfigError Registry
  | .append config _ => addModelConfig registry config
  | .replace (some config) => replaceModelConfig registry config
  | .replace none => .ok registry
  | .remove modelId fallback => removeModelConfig registry modelId fallback

/-- The registry is left alone when there was no stored file to remove. -/
def touchesRegistry : Work → Bool
  | .remove modelId _ => fileOf modelId ∈ stored
  | _ => true

end

def changeRegistry (plane : Plane) (work : Work) : Except ConfigError Registry :=
  if touchesRegistry plane.stored work then applyRegistry plane.registry work
  else .ok plane.registry

def commit (plane : Plane) (work : Work) : Except ConfigError Plane := do
  let registry ← changeRegistry plane work
  return ⟨registry, applyStore plane.stored work⟩

end Committing

section Exporting

variable (catalogue : Catalogue)

/-- The stored YAML, or else the file's, unless it has no profiles. -/
def exportConfig (plane : Plane) (modelId : String)
    (full : ModelConfig) : Except StoreError ModelConfig := do
  let document ← readModel plane.stored modelId
  let found := document.or (loadFilesystemYaml catalogue.files modelId).join
  return (found.filter fun config => !config.profiles.isEmpty).getD full

/-- The models of `/v1/configs/export` with their configs. -/
def exportModels (plane : Plane) : Except StoreError (List (String × ModelConfig)) :=
  plane.registry.models.toList.mapM fun entry => do
    return (entry.1, ← exportConfig catalogue plane entry.1 entry.2)

end Exporting

/-! ## What each handler decides -/

omit [Letters] in
theorem readModel_eq_ok
    (hread : readModel stored modelId = .ok document) : document = stored[fileOf modelId]? := by
  obtain ⟨⟨⟩, -, hread⟩ := bind_eq_ok.1 hread
  exact (Except.ok.inj hread).symm

omit [Letters] in
theorem agreeOnFields_eq_ok
    (hagree : agreeOnFields existing config = .ok ()) (hfound : existing = some found) :
    clashingFields found config = [] := by
  subst hfound
  simpa [agreeOnFields] using ensure_eq_ok.1 hagree

/-- An accepted append, by whether it brings new profiles. -/
structure Appends (plane : Plane) (incoming config : ModelConfig)
    (document : Option ModelConfig) : Prop where
  valid : validateConfig plane.registry incoming = .ok config
  agrees : ∀ existing, plane.registry.models[config.name]? = some existing →
    clashingFields existing config = []
  replayed : createdProfiles plane.registry config = [] → document = none
  stored : createdProfiles plane.registry config ≠ [] →
    document = some (mergedDocument plane.stored[fileOf config.name]? config) ∧
      ∀ existing, plane.stored[fileOf config.name]? = some existing →
        clashingFields existing config = []

theorem addModel_eq_ok (hadd : addModel plane incoming = .ok work) :
    ∃ config document, work = .append config document ∧ Appends plane incoming config document := by
  obtain ⟨⟨⟩, -, hadd⟩ := bind_eq_ok.1 hadd
  obtain ⟨config, hvalid, hadd⟩ := bind_eq_ok.1 hadd
  obtain ⟨⟨⟩, hagrees, hadd⟩ := bind_eq_ok.1 hadd
  obtain ⟨document, hread, hadd⟩ := bind_eq_ok.1 hadd
  have hdocument := readModel_eq_ok (mapError_eq_ok.1 hread)
  have hvalid := mapError_eq_ok.1 hvalid
  split at hadd
  · rename_i hcreated
    obtain ⟨⟨⟩, -, hadd⟩ := bind_eq_ok.1 hadd
    cases hadd
    exact ⟨config, none, rfl, hvalid, fun existing => agreeOnFields_eq_ok hagrees,
      fun _ => rfl, fun hnew => absurd hcreated hnew⟩
  · rename_i hcreated
    obtain ⟨⟨⟩, hstored, hadd⟩ := bind_eq_ok.1 hadd
    cases hadd
    subst hdocument
    exact ⟨config, _, rfl, hvalid, fun existing => agreeOnFields_eq_ok hagrees,
      fun hnone => absurd hnone hcreated,
      fun _ => ⟨rfl, fun existing => agreeOnFields_eq_ok hstored⟩⟩

theorem replaceModel_eq_ok (hreplace : replaceModel plane modelId body = .ok work) :
    ∃ config, validateStructure plane.registry { body with name := modelId } = .ok config ∧
      (plane.registry.models[modelId]? = some config ∧ work = .replace none ∨
        plane.registry.models[modelId]? ≠ some config ∧ work = .replace (some config)) := by
  obtain ⟨⟨⟩, -, hreplace⟩ := bind_eq_ok.1 hreplace
  obtain ⟨⟨⟩, -, hreplace⟩ := bind_eq_ok.1 hreplace
  obtain ⟨config, hvalid, hreplace⟩ := bind_eq_ok.1 hreplace
  refine ⟨config, mapError_eq_ok.1 hvalid, ?_⟩
  split at hreplace
  · rename_i hsame
    cases hreplace
    exact .inl ⟨hsame, rfl⟩
  · rename_i hchanged
    obtain ⟨⟨⟩, -, hreplace⟩ := bind_eq_ok.1 hreplace
    cases hreplace
    exact .inr ⟨hchanged, rfl⟩

theorem fallbackConfig_eq_ok
    (hfallback : fallbackConfig catalogue registry modelId = .ok fallback) :
    loadFilesystemYaml catalogue.files modelId = none ∧ fallback = none ∨
      ∃ config revealed, loadFilesystemYaml catalogue.files modelId = some (some config) ∧
        config.name = modelId ∧ validateStructure registry config = .ok revealed ∧
        fallback = some revealed := by
  unfold fallbackConfig at hfallback
  split at hfallback
  · rename_i hnone
    cases hfallback
    exact .inl ⟨hnone, rfl⟩
  · cases hfallback
  · rename_i config hfound
    split_ifs at hfallback with hname
    split at hfallback
    · cases hfallback
    · rename_i revealed hvalid
      cases hfallback
      exact .inr ⟨config, revealed, hfound, not_not.1 hname, hvalid, rfl⟩

theorem deleteModel_eq_ok (hdelete : deleteModel catalogue plane modelId = .ok work) :
    ∃ fallback, fallbackConfig catalogue plane.registry modelId = .ok fallback ∧
      work = .remove modelId fallback := by
  obtain ⟨⟨⟩, -, hdelete⟩ := bind_eq_ok.1 hdelete
  obtain ⟨fallback, hfallback, hdelete⟩ := bind_eq_ok.1 hdelete
  obtain ⟨⟨⟩, -, hdelete⟩ := bind_eq_ok.1 hdelete
  cases hdelete
  exact ⟨fallback, hfallback, rfl⟩

/-! ## A decided request commits -/

omit [Letters] in
theorem applyStore_of_not_persists
    (hidle : persists stored work = false) : applyStore stored work = stored := by
  cases work with
  | append _ document =>
    cases document with
    | none => rfl
    | some => cases hidle
  | replace config =>
    cases config with
    | none => rfl
    | some => cases hidle
  | remove => exact erase_of_notMem (of_decide_eq_false hidle)

theorem replaceModelConfig_isOk (hvalid : validateStructure registry config = .ok config) :
    ∃ result, replaceModelConfig registry config = .ok result := by
  simp only [replaceModelConfig, bind_eq_ok]
  exact ⟨_, config, hvalid, rfl⟩

variable (hwork : decideWork catalogue plane request = .ok work)
include hwork

/-- The registry accepts what the handler validated: nothing fails after the store has
been changed. -/
theorem applyRegistry_isOk : ∃ registry, applyRegistry plane.registry work = .ok registry := by
  cases request with
  | addModel =>
    obtain ⟨config, document, rfl, happends⟩ := addModel_eq_ok hwork
    simp only [applyRegistry, addModelConfig, bind_eq_ok]
    exact ⟨_, config, validateConfig_again happends.valid, rfl⟩
  | replaceModel =>
    obtain ⟨config, hvalid, ⟨-, rfl⟩ | ⟨-, rfl⟩⟩ := replaceModel_eq_ok hwork
    · exact ⟨plane.registry, rfl⟩
    · exact replaceModelConfig_isOk (validateStructure_again hvalid)
  | deleteModel =>
    obtain ⟨fallback, hfallback, rfl⟩ := deleteModel_eq_ok hwork
    obtain ⟨-, rfl⟩ | ⟨config, revealed, -, -, hvalid, rfl⟩ := fallbackConfig_eq_ok hfallback
    · exact ⟨_, rfl⟩
    · exact replaceModelConfig_isOk (validateStructure_again hvalid)

theorem changeRegistry_isOk : ∃ registry, changeRegistry plane work = .ok registry := by
  unfold changeRegistry
  split
  · exact applyRegistry_isOk hwork
  · exact ⟨plane.registry, rfl⟩

end SieCluster.ConfigApi
