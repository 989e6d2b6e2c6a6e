import SieCluster.Config.ConfigRegistry
import SieCluster.Config.ConfigStore

/-!
# Model files and whole-model writes

The control plane starts from a directory of YAML files, one model a file.
Loading them is lenient: a file with an unusable profile name is left out, and
nothing asks whether a bundle can serve the model.  Replacing a model and
removing one are checked against the incoming config alone, without the
append-only rules.
-/

namespace SieCluster.ModelCatalogue

open Tables
open Fallible
open Profiles
open ConfigRegistry

variable [Letters]

/-- The bundles, and the files of the model directory with what each parses to.  The profiles
of a file are mappings. -/
structure Catalogue where
  bundles : Table BundleInfo
  files : List (String × Option ModelConfig)

section Loading

def loadable (config : ModelConfig) : Bool :=
  config.name ≠ "" &&
    config.profiles.keys.all fun name => name = "default" || wellFormedProfileName name

/-- One round of the file loop of `reload`.  The variants of an earlier file with the
same id stay. -/
def loadModel (registry : Registry) (config : ModelConfig) : Registry :=
  if loadable config then
    let tables := (config.profiles.keys.filter (· ≠ "default")).foldl (registerVariant config.name)
      (registry.profileVariantBaseModels, registry.profileVariantNamesLower)
    { registry with
      models := registry.models.insert config.name config
      profileVariantBaseModels := tables.1
      profileVariantNamesLower := tables.2 }
  else registry

def loadModels (bundles : Table BundleInfo) (configs : List ModelConfig) : Registry :=
  configs.foldl loadModel (emptyRegistry bundles)

def reload (catalogue : Catalogue) : Registry :=
  loadModels catalogue.bundles (catalogue.files.filterMap Prod.snd)

/-- The file with the canonical name, whatever it holds, or else the first one with the
model's id in it. -/
def loadFilesystemYaml (files : List (String × Option ModelConfig)) (modelId : String) :
    Option (Option ModelConfig) :=
  match files.find? fun entry => entry.1 = ConfigStore.fileOf modelId with
  | some entry => some entry.2
  | none =>
    (files.find? fun entry => entry.2.any fun config => config.name = modelId).map Prod.snd

end Loading

section Replacing

def checkReplacement (profiles : Table ProfileConfig) : Except ConfigError Unit :=
  forM profiles.toList fun entry =>
    if wellFormedProfileName entry.1 = false then .error (.badProfileName entry.1)
    -- unlike an append, there is no stored profile that could supply the path
    else if (effectivePath profiles entry.1).isNone then .error (.missingAdapterPath entry.1)
    else .ok ()

section

variable (registry : Registry)

def strayModules (config : ModelConfig) : List String :=
  (adapterModulesForProfiles config.profiles config.profiles.keys).filter
    fun name => !routable registry name

variable (incoming : ModelConfig)

/-- `_validate_structure_locked`; the config comes back with its pool in canonical form. -/
def validateStructure : Except ConfigError ModelConfig := do
  require (incoming.name ≠ "") .missingId
  let config ← normalizePoolName incoming
  require (!config.profiles.isEmpty) .missingProfiles
  checkReplacement config.profiles
  require (strayModules registry config).isEmpty (.unroutable (strayModules registry config))
  return config

def replaceModelConfig : Except ConfigError Registry := do
  let config ← validateStructure registry incoming
  let tables := rebuildVariants registry config.name config.profiles
  return { registry with
    models := registry.models.insert config.name config
    profileVariantBaseModels := tables.1
    profileVariantNamesLower := tables.2 }

/-- Without a file to fall back to, the model and its variants go. -/
def eraseModel (modelId : String) : Registry :=
  { registry with
    models := registry.models.erase modelId
    profileVariantBaseModels := (rebuildVariants registry modelId ∅).1
    profileVariantNamesLower := (rebuildVariants registry modelId ∅).2 }

/-- The caller has checked that the fallback is a config of this model. -/
def removeModelConfig (modelId : String)
    (fallback : Option ModelConfig) : Except ConfigError Registry :=
  match fallback with
  | some config => replaceModelConfig registry config
  | none => .ok (if modelId ∈ registry.models then eraseModel registry modelId else registry)

end

end Replacing

/-! ## Accepted configs -/

/-- What an append asks of a config whose pool is in canonical form. -/
structure Admissible (registry : Registry) (config : ModelConfig) : Prop where
  nonempty : config.profiles.isEmpty = false
  checked : checkProfiles config.profiles = .ok ()
  routed : unroutableModules registry config = []
  pool : poolAgrees registry config = true
  unchanged : conflictingProfiles registry config = []
  reaches : reachesBundle registry config = true

omit [Letters] in
theorem require_eq_ok : require holds problem = .ok () ↔ holds = true :=
  ensure_eq_ok

theorem validateConfig_eq_ok_iff : validateConfig registry incoming = .ok config ↔
      incoming.name ≠ "" ∧ normalizePoolName incoming = .ok config ∧
        Admissible registry config := by
  simp only [validateConfig, bind_eq_ok]
  constructor
  · rintro ⟨⟨⟩, hname, normal, hnormal, ⟨⟩, hnonempty, ⟨⟩, hchecked, ⟨⟩, hrouted, ⟨⟩, hpool,
      ⟨⟩, hunchanged, ⟨⟩, hreaches, ⟨⟩⟩
    rw [require_eq_ok] at hname hnonempty hrouted hpool hunchanged hreaches
    exact ⟨by simpa using hname, hnormal, by simpa using hnonempty, hchecked,
      List.isEmpty_iff.1 hrouted, hpool, List.isEmpty_iff.1 hunchanged, hreaches⟩
  · rintro ⟨hname, hnormal, hadmissible⟩
    exact ⟨(), require_eq_ok.2 (by simpa using hname), config, hnormal,
      (), require_eq_ok.2 (by simp [hadmissible.nonempty]), (), hadmissible.checked,
      (), require_eq_ok.2 (List.isEmpty_iff.2 hadmissible.routed),
      (), require_eq_ok.2 hadmissible.pool,
      (), require_eq_ok.2 (List.isEmpty_iff.2 hadmissible.unchanged),
      (), require_eq_ok.2 hadmissible.reaches, rfl⟩

/-- What a replacement asks of a config whose pool is in canonical form. -/
structure WellFormed (registry : Registry) (config : ModelConfig) : Prop where
  nonempty : config.profiles.isEmpty = false
  checked : checkReplacement config.profiles = .ok ()
  routed : strayModules registry config = []

theorem validateStructure_eq_ok_iff : validateStructure registry incoming = .ok config ↔
      incoming.name ≠ "" ∧ normalizePoolName incoming = .ok config ∧
        WellFormed registry config := by
  simp only [validateStructure, bind_eq_ok]
  constructor
  · rintro ⟨⟨⟩, hname, normal, hnormal, ⟨⟩, hnonempty, ⟨⟩, hchecked, ⟨⟩, hrouted, ⟨⟩⟩
    rw [require_eq_ok] at hname hnonempty hrouted
    exact ⟨by simpa using hname, hnormal, by simpa using hnonempty, hchecked,
      List.isEmpty_iff.1 hrouted⟩
  · rintro ⟨hname, hnormal, hformed⟩
    exact ⟨(), require_eq_ok.2 (by simpa using hname), config, hnormal,
      (), require_eq_ok.2 (by simp [hformed.nonempty]), (), hformed.checked,
      (), require_eq_ok.2 (List.isEmpty_iff.2 hformed.routed), rfl⟩

/-- A pool in canonical form is left as it is. -/
theorem normalizePoolName_again (hnormal : normalizePoolName incoming = .ok config) :
    normalizePoolName config = .ok config := by
  unfold normalizePoolName at hnormal
  split at hnormal
  · rename_i hpool
    cases hnormal
    rw [normalizePoolName, hpool]
  · dsimp only at hnormal
    split_ifs at hnormal with hempty hformed
    · cases hnormal
      rfl
    · cases hnormal
      simp only [normalizePoolName, canonicalPool_canonicalPool, if_neg hempty, if_pos hformed]

theorem validateConfig_again (hvalid : validateConfig registry incoming = .ok config) :
    validateConfig registry config = .ok config := by
  obtain ⟨hname, hnormal, hadmissible⟩ := validateConfig_eq_ok_iff.1 hvalid
  rw [← (normalizePoolName_eq_ok hnormal).1] at hname
  exact validateConfig_eq_ok_iff.2 ⟨hname, normalizePoolName_again hnormal, hadmissible⟩

theorem validateStructure_again (hvalid : validateStructure registry incoming = .ok config) :
    validateStructure registry config = .ok config := by
  obtain ⟨hname, hnormal, hformed⟩ := validateStructure_eq_ok_iff.1 hvalid
  rw [← (normalizePoolName_eq_ok hnormal).1] at hname
  exact validateStructure_eq_ok_iff.2 ⟨hname, normalizePoolName_again hnormal, hformed⟩

/-! ## A small catalogue -/

def sampleConfig : ModelConfig :=
  ⟨"a", none, none, (∅ : Table ProfileConfig).insert "default"
      { emptyProfileConfig with adapterPath := some "adapters:Text" },
    none, none, none⟩

/-- One bundle, and no model files. -/
def sampleCatalogue : Catalogue :=
  ⟨(∅ : Table BundleInfo).insert "text" ⟨"text", 0, ["adapters"], "pytorch"⟩, []⟩

end SieCluster.ModelCatalogue
