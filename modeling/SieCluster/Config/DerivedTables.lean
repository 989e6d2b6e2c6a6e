import SieCluster.Core.Runs
import SieCluster.Config.RegistryTables

/-!
# What every registry derives

The entries, the adapter modules, the profile names and the cached hashes of a
registry are those of its full configs, whatever files it was loaded from and
whatever was written since.
-/

namespace SieCluster.DerivedTables

open Runs
open Tables
open Profiles
open ConfigRegistry
open ModelCatalogue
open RegistryTables
open ModelRegistry (variantName bundleOrder)

/-- What is done to a registry: a write, or a question for a bundle's hash. -/
inductive Action where
  | write (operation : Operation)
  | askHash (bundleId : String)

section Tables

variable [Letters]

def act (live : LiveRegistry) : Action → Option LiveRegistry
  | .write operation => (perform live operation).map Prod.fst
  | .askHash bundleId => some (cachedBundleConfigHash live bundleId).2

/-- Every bundle is filed under its name. -/
def WellNamed (bundles : Table BundleInfo) : Prop :=
  ∀ (id : String) (bundle : BundleInfo), bundles[id]? = some bundle → bundle.name = id

structure Derived (live : LiveRegistry) : Prop where
  infos : ∀ id : String, live.modelInfos[id]? =
    (live.models[id]?).map fun config => baseInfo live.bundles id config.profiles
  modules : ∀ id : String, live.modelAdapterModules[id]? =
    (live.models[id]?).map fun config => allModules config.profiles
  profiles : ∀ id : String, live.modelProfiles[id]? =
    (live.models[id]?).map fun config => config.profiles.keys.toFinset
  cache : ∀ (bundleId : String) (hash : Preimage), live.bundleHashCache[bundleId]? = some hash →
    hash = computeBundleConfigHashLocked live.toRegistry bundleId none

section

variable (hderived : Derived live)
include hderived

variable (id : String)

theorem Derived.storedModules : (live.modelAdapterModules[id]?).getD ∅ =
      allModules (storedProfiles live.toRegistry id) := by
  rw [hderived.modules id, storedProfiles]
  cases live.models[id]? with
  | none =>
    simp only [Option.map_none, Option.getD_none, allModules, adapterModulesForProfiles]
    rfl
  | some => rfl

theorem Derived.mem_modelInfos : id ∈ live.modelInfos ↔ id ∈ live.models := by
  rw [Std.ExtTreeMap.mem_iff_isSome_getElem?, Std.ExtTreeMap.mem_iff_isSome_getElem?,
    hderived.infos id, Option.isSome_map]

theorem store_derived (config : ModelConfig) : Derived (store live id config) where
  infos := by
    intro other
    simp only [store, get_insert]
    split_ifs with hother
    · subst hother
      rfl
    · exact hderived.infos other
  modules := by
    intro other
    simp only [store, get_insert]
    split_ifs with hother
    · rfl
    · exact hderived.modules other
  profiles := by
    intro other
    simp only [store, get_insert]
    split_ifs with hother
    · rfl
    · exact hderived.profiles other
  cache := by
    intro bundleId hash hcached
    simp [store] at hcached

theorem drop_derived : Derived (drop live id) where
  infos := by
    intro other
    simp only [drop, get_erase]
    split_ifs with hother
    · rfl
    · exact hderived.infos other
  modules := by
    intro other
    simp only [drop, get_erase]
    split_ifs with hother
    · rfl
    · exact hderived.modules other
  profiles := by
    intro other
    simp only [drop, get_erase]
    split_ifs with hother
    · rfl
    · exact hderived.profiles other
  cache := by
    intro bundleId hash hcached
    simp [drop] at hcached

/-- Loading asks for no hash. -/
theorem loadLive_derived (hempty : live.bundleHashCache = ∅) (config : ModelConfig) :
    Derived (loadLive live config) ∧ (loadLive live config).bundleHashCache = ∅ := by
  unfold loadLive
  split
  · rename_i hloadable
    refine ⟨⟨?_, ?_, ?_, ?_⟩, hempty⟩
    · intro other
      simp only [loadModel, if_pos hloadable, get_insert]
      split_ifs with hother
      · subst hother
        rfl
      · exact hderived.infos other
    · intro other
      simp only [loadModel, if_pos hloadable, get_insert]
      split_ifs with hother
      · rfl
      · exact hderived.modules other
    · intro other
      simp only [loadModel, if_pos hloadable, get_insert]
      split_ifs with hother
      · rfl
      · exact hderived.profiles other
    · intro bundleId hash hcached
      simp [hempty] at hcached
  · exact ⟨hderived, hempty⟩

end

theorem loadAll_derived (bundles : Table BundleInfo) (configs : List ModelConfig) :
    Derived (loadAll bundles configs) := by
  have hfold : ∀ live : LiveRegistry, Derived live → live.bundleHashCache = ∅ →
      Derived (configs.foldl loadLive live) := by
    induction configs with
    | nil => exact fun live hderived _ => hderived
    | cons config _ ih =>
      intro live hderived hempty
      obtain ⟨hloaded, hstill⟩ := loadLive_derived hderived hempty config
      exact ih (loadLive live config) hloaded hstill
  refine hfold (emptyLive bundles) ⟨?_, ?_, ?_, ?_⟩ rfl
  · intro id
    simp [emptyLive]
  · intro id
    simp [emptyLive]
  · intro id
    simp [emptyLive]
  · intro bundleId hash hcached
    simp [emptyLive] at hcached

/-- An accepted operation stores a config, drops a model or does nothing. -/
theorem perform_cases (hperform : perform live operation = some (after, affected)) :
    (∃ id config, after = store live id config) ∨ (∃ id, after = drop live id) ∨ after = live := by
  cases operation with
  | remove modelId fallback =>
    simp only [perform, Option.ite_none_right_eq_some] at hperform
    obtain ⟨-, hperform⟩ := hperform
    have hremove := Fallible.toOption_eq_some.1 hperform
    cases fallback with
    | some =>
      obtain ⟨config, -, hresult⟩ := Fallible.bind_eq_ok.1 hremove
      cases hresult
      exact .inl ⟨_, _, rfl⟩
    | none =>
      simp only [RegistryTables.removeModelConfig] at hremove
      split at hremove
      · cases hremove
        exact .inr (.inl ⟨modelId, rfl⟩)
      · cases hremove
        exact .inr (.inr rfl)
  | _ =>
    obtain ⟨config, -, hresult⟩ := Fallible.bind_eq_ok.1 (Fallible.toOption_eq_some.1 hperform)
    cases hresult
    exact .inl ⟨_, _, rfl⟩

theorem act_derived (hderived : Derived live)
    (hact : act live action = some after) : Derived after ∧ after.bundles = live.bundles := by
  cases action with
  | write =>
    obtain ⟨⟨performed, affected⟩, hperform, rfl⟩ := Option.map_eq_some_iff.1 hact
    obtain ⟨id, config, rfl⟩ | ⟨id, rfl⟩ | rfl := perform_cases hperform
    · exact ⟨store_derived hderived id config, rfl⟩
    · exact ⟨drop_derived hderived id, rfl⟩
    · exact ⟨hderived, rfl⟩
  | askHash bundleId =>
    cases hact
    cases hcached : live.bundleHashCache[bundleId]? with
    | some =>
      simp only [cachedBundleConfigHash, hcached]
      exact ⟨hderived, trivial⟩
    | none =>
      simp only [cachedBundleConfigHash, hcached]
      refine ⟨⟨hderived.infos, hderived.modules, hderived.profiles, ?_⟩, trivial⟩
      intro other hash hother
      simp only [get_insert] at hother
      split_ifs at hother with hsame
      · cases hother
        rw [← hsame]
      · exact hderived.cache other hash hother

theorem loadAll_bundles (bundles : Table BundleInfo) (configs : List ModelConfig) :
    (loadAll bundles configs).bundles = bundles := by
  have hfold : ∀ live : LiveRegistry, (configs.foldl loadLive live).bundles = live.bundles := by
    induction configs with
    | nil => exact fun _ => rfl
    | cons _ _ ih =>
      intro live
      rw [List.foldl_cons, ih, loadLive]
      split
      · rename_i hloadable
        simp only [loadModel, if_pos hloadable]
      · rfl
  exact hfold (emptyLive bundles)

theorem run_derived (hrun : run act (loadAll bundles configs) actions = some live) :
    Derived live ∧ live.bundles = bundles := by
  refine run_invariant (fun live => Derived live ∧ live.bundles = bundles) ?_
    ⟨loadAll_derived bundles configs, loadAll_bundles bundles configs⟩ hrun
  rintro before action after ⟨hderived, hbundles⟩ hact
  obtain ⟨hafter, hsame⟩ := act_derived hderived hact
  exact ⟨hafter, hsame.trans hbundles⟩

end Tables

section Samples

def modelWith (id profile path : String) : ModelConfig :=
  ⟨id, none, none, (∅ : Table ProfileConfig).insert profile
    { emptyProfileConfig with adapterPath := some path }, none, none, none⟩

/-- Two bundles with one adapter module each. -/
def twoBundles : Table BundleInfo :=
  ((∅ : Table BundleInfo).insert "x" ⟨"x", 0, ["mx"], "pytorch"⟩).insert "y"
    ⟨"y", 0, ["my"], "pytorch"⟩

theorem twoBundles_wellNamed : WellNamed twoBundles := by
  intro id bundle hget
  simp only [twoBundles, get_insert] at hget
  split_ifs at hget with hy hx
  · cases hget
    exact hy
  · cases hget
    exact hx
  · simp at hget

end Samples

end SieCluster.DerivedTables
