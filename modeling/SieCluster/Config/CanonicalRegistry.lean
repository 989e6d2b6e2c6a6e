import SieCluster.Config.RegistryIndexes

/-!
# The registry against a fresh one

A registry that has been written to should be the one that a fresh process
computes from the full configs it holds.  It is, whatever was written and in
whatever order the fresh process lists the configs, as long as no two models
were ever registered with ids or variants that are equal up to letter case, no
file was loaded over another one of the same model with more profiles, and no
file was left halfway.
-/

namespace SieCluster.CanonicalRegistry

open List hiding all drop ext_getElem keys map mem_keys
open Option hiding all all_eq_true map map_map mem_map
open Std.ExtTreeMap hiding keys map map_map mem_map
open Runs
open Tables
open Profiles
open ConfigRegistry
open ModelCatalogue (loadable loadModel)
open RegistryTables
open DerivedTables
open RegistryIndexes
open ModelRegistry (variantName)

section Registries

variable [Letters]

/-! ## Writes and loads register a model -/

variable {live : LiveRegistry}

theorem store_registers (hindexed : Indexed live) (id : String) (config : ModelConfig) :
    Registers live (store live id config) id config
      (live.profileVariantBaseModels.filter fun _ base => base ≠ id)
      (live.profileVariantNamesLower.filter fun _ name =>
        live.profileVariantBaseModels[name]? ≠ some id)
      (live.profileVariantModels.filter fun name _ =>
        live.profileVariantBaseModels[name]? ≠ some id) where
  bundles := rfl
  models := rfl
  baseTable := rfl
  nameTable := rfl
  infoTable := rfl
  lowerTable := by
    intro key
    by_cases hknown : id ∈ live.modelInfos
    · -- the id of a known model is in the table already
      have hmem := (hindexed.derived.mem_modelInfos id).1 hknown
      simp only [store, if_pos hknown]
      split_ifs with hkey
      · exact (hindexed.lower key id).2 ⟨hmem, hkey⟩
      · rfl
    · simp only [store, if_neg hknown, get_insert]

theorem loadLive_registers (hloadable : loadable config = true) :
    Registers live (loadLive live config) config.name config live.profileVariantBaseModels
      live.profileVariantNamesLower live.profileVariantModels where
  bundles := by simp only [loadLive, loadModel, if_pos hloadable]
  models := by simp only [loadLive, loadModel, if_pos hloadable]
  baseTable := by
    simp only [loadLive, loadModel, if_pos hloadable]
    rfl
  nameTable := by
    simp only [loadLive, loadModel, if_pos hloadable]
    rfl
  infoTable := by simp only [loadLive, if_pos hloadable]
  lowerTable := by
    intro key
    simp only [loadLive, if_pos hloadable, get_insert]

/-! ## Every operation keeps the indexes -/

omit [Letters] in
theorem otherBases_ne (live : LiveRegistry) (id variant : String) :
    (live.profileVariantBaseModels.filter fun _ base => base ≠ id)[variant]? ≠ some id := by
  intro hbase
  rw [Std.ExtTreeMap.getElem?_filter', filter_eq_some_iff] at hbase
  exact of_decide_eq_true hbase.2 rfl

theorem store_indexed (hindexed : Indexed live) {id : String}
    (hname : config.name = id) (hloadable : loadable config = true)
    (hfree : Unmistaken live config) : Indexed (store live id config) :=
  (store_registers hindexed id config).indexed hindexed (store_derived hindexed.derived id config)
    (trimmed_filtered hindexed id) hname hloadable hfree

theorem store_noLeftover (hindexed : Indexed live)
    (hnone : NoLeftover live) (id : String) (config : ModelConfig) :
    NoLeftover (store live id config) :=
  (store_registers hindexed id config).noLeftover hnone (trimmed_filtered hindexed id).baseFrom
    (otherBases_ne live id)

theorem drop_profileVariantModels (live : LiveRegistry) (id : String) :
    (drop live id).profileVariantModels = live.profileVariantModels.filter fun name _ =>
        live.profileVariantBaseModels[name]? ≠ some id := by
  simp only [drop, mem_removedVariants]

section Dropping

variable {id : String}

theorem drop_found (hstored : (drop live id).models[other]? = some stored) :
    other ≠ id ∧ live.models[other]? = some stored := by
  simp only [drop, get_erase] at hstored
  split_ifs at hstored with hsame
  exact ⟨Ne.symm hsame, hstored⟩

theorem mem_drop_models : other ∈ (drop live id).models ↔ other ≠ id ∧ other ∈ live.models := by
  simp only [drop, mem_erase, ne_eq, compare_eq_iff_eq]
  rw [eq_comm]

variable (hindexed : Indexed live)
include hindexed

theorem base_of_other_ne (hother : other ≠ id) (hstored : live.models[other]? = some stored)
    (hprofile : profile ∈ variantProfiles stored.profiles) :
    live.profileVariantBaseModels[variantName other profile]? ≠ some id := by
  rw [hindexed.bases other stored hstored profile hprofile]
  exact fun hsame => hother (some.inj hsame)

theorem drop_indexed : Indexed (drop live id) where
  derived := drop_derived hindexed.derived id
  named := fun other stored hstored => hindexed.named other stored (drop_found hstored).2
  distinct := fun first second one two hone htwo =>
    hindexed.distinct first second one two (drop_found hone).2 (drop_found htwo).2
  lower := by
    intro key other
    rw [mem_drop_models, and_assoc, ← hindexed.lower]
    simp only [drop, Std.ExtTreeMap.getElem?_filter', filter_eq_some_iff, decide_eq_true_eq]
    exact and_comm
  bases := by
    intro other stored hstored profile hprofile
    obtain ⟨hother, hold⟩ := drop_found hstored
    exact (trimmed_filtered hindexed id).baseKept _ _
      (hindexed.bases other stored hold profile hprofile) hother
  variants := by
    intro other stored hstored profile hprofile
    obtain ⟨hother, hold⟩ := drop_found hstored
    rw [drop_profileVariantModels, (trimmed_filtered hindexed id).infoKept _
      (base_of_other_ne hindexed hother hold hprofile)]
    exact hindexed.variants other stored hold profile hprofile
  lowerVariants := by
    intro other stored hstored key variant hlast
    obtain ⟨hother, hold⟩ := drop_found hstored
    obtain ⟨profile, hprofile, rfl, -⟩ := lastVariant_eq_some hlast
    exact (trimmed_filtered hindexed id).nameKept key _
      (hindexed.lowerVariants other stored hold key _ hlast)
      (base_of_other_ne hindexed hother hold hprofile)
  baseOf := by
    intro variant other hbase
    exact hindexed.baseOf variant other
      ((trimmed_filtered hindexed id).baseFrom variant other hbase)
  infoOf := by
    intro variant hvariant
    rw [drop_profileVariantModels] at hvariant
    exact (trimmed_filtered hindexed id).infoFrom variant hvariant
  lowerOf := by
    intro key variant hvariant
    obtain ⟨hbefore, hbase⟩ := (trimmed_filtered hindexed id).nameFrom key variant hvariant
    exact ⟨(hindexed.lowerOf key variant hbefore).1, hbase⟩

theorem drop_noLeftover (hnone : NoLeftover live) : NoLeftover (drop live id) := by
  intro variant other hbase
  have hother : id ≠ other := by
    rintro rfl
    exact otherBases_ne live id variant hbase
  obtain ⟨stored, hstored, hprofile⟩ :=
    hnone variant other ((trimmed_filtered hindexed id).baseFrom variant other hbase)
  refine ⟨stored, ?_, hprofile⟩
  simp only [drop, get_erase, if_neg hother, hstored]

end Dropping

/-! ## Loading -/

variable {configs : List ModelConfig}

/-- No two files of different models have ids or variants that differ only in letter case. -/
def CaseDistinct (configs : List ModelConfig) : Prop :=
  ∀ first ∈ configs, ∀ second ∈ configs, loadable first = true → loadable second = true →
    Alike first second → first.name = second.name

theorem foldl_loadLive_indexed (hfiles : CaseDistinct configs)
    (hindexed : Indexed live) (hempty : live.bundleHashCache = ∅)
    (hfree : ∀ config ∈ configs, loadable config = true → Unmistaken live config) :
    Indexed (configs.foldl loadLive live) := by
  induction configs generalizing live with
  | nil => exact hindexed
  | cons config rest ih =>
    have hrest : CaseDistinct rest := fun first hfirst second hsecond =>
      hfiles first (mem_cons_of_mem _ hfirst) second (mem_cons_of_mem _ hsecond)
    rw [foldl_cons]
    by_cases hloadable : loadable config = true
    · have hregisters := @loadLive_registers _ live config hloadable
      obtain ⟨hderived, hstill⟩ := loadLive_derived hindexed.derived hempty config
      refine ih hrest (hregisters.indexed hindexed hderived (trimmed_whole hindexed _) rfl
        hloadable (hfree config mem_cons_self hloadable)) hstill ?_
      intro later hlater hlaterLoadable stored hstored halike
      obtain ⟨other, hget⟩ := RegistryRoutes.mem_exported.1 hstored
      obtain ⟨rfl, rfl⟩ | ⟨-, hold⟩ := hregisters.found hget
      · exact hfiles stored mem_cons_self later (mem_cons_of_mem _ hlater)
          hloadable hlaterLoadable halike
      · exact hfree later (mem_cons_of_mem _ hlater) hlaterLoadable stored
          (RegistryRoutes.mem_exported.2 ⟨other, hold⟩) halike
    · have hskipped : loadLive live config = live := by rw [loadLive, if_neg hloadable]
      rw [hskipped]
      exact ih hrest hindexed hempty fun later hlater =>
        hfree later (mem_cons_of_mem _ hlater)

theorem emptyLive_indexed (bundles : Table BundleInfo) : Indexed (emptyLive bundles) := by
  refine ⟨loadAll_derived bundles [], ?_, ?_, ?_, ?_, ?_, ?_, ?_, ?_, ?_⟩
  all_goals simp [emptyLive]

theorem loadAll_indexed (bundles : Table BundleInfo) (hfiles : CaseDistinct configs) :
    Indexed (loadAll bundles configs) := by
  refine foldl_loadLive_indexed hfiles (emptyLive_indexed bundles) rfl ?_
  intro config _ _ stored hstored
  obtain ⟨other, hget⟩ := RegistryRoutes.mem_exported.1 hstored
  simp [emptyLive] at hget

/-- Loading models of distinct ids leaves nothing over. -/
theorem foldl_loadLive_noLeftover (hloadable : ∀ config ∈ configs, loadable config = true)
    (hnodup : (configs.map ModelConfig.name).Nodup)
    (hnone : NoLeftover live) (hnew : ∀ config ∈ configs, config.name ∉ live.models) :
    NoLeftover (configs.foldl loadLive live) := by
  induction configs generalizing live with
  | nil => exact hnone
  | cons config _ ih =>
    have hregisters := @loadLive_registers _ live config (hloadable config mem_cons_self)
    rw [map_cons, nodup_cons] at hnodup
    rw [foldl_cons]
    refine ih (fun later hlater => hloadable later (mem_cons_of_mem _ hlater)) hnodup.2
      (hregisters.noLeftover hnone (fun _ _ hbase => hbase) ?_) ?_
    · intro variant hbase
      obtain ⟨stored, hstored, -⟩ := hnone variant config.name hbase
      exact hnew config mem_cons_self (mem_of_get hstored)
    · intro later hlater hmem
      obtain hsame | hold := hregisters.mem_models.1 hmem
      · exact hnodup.1 (hsame ▸ mem_map_of_mem hlater)
      · exact hnew later (mem_cons_of_mem _ hlater) hold

theorem foldl_loadLive_models
    (hloadable : ∀ config ∈ configs, loadable config = true) (live : LiveRegistry) :
    (configs.foldl loadLive live).models =
      insertAll live.models (configs.map fun config => (config.name, config)) := by
  induction configs generalizing live with
  | nil => rfl
  | cons config _ ih =>
    rw [foldl_cons, ih fun later hlater => hloadable later (mem_cons_of_mem _ hlater),
      (loadLive_registers (hloadable config mem_cons_self)).models]
    rfl

/-! ## The indexes determine the tables -/

structure Kept (live : LiveRegistry) : Prop where
  indexed : Indexed live
  noLeftover : NoLeftover live

section Determined

variable (hkept : Kept live)
include hkept

theorem Kept.base_iff (variant id : String) : live.profileVariantBaseModels[variant]? = some id ↔
      ∃ config : ModelConfig, live.models[id]? = some config ∧
        ∃ profile ∈ variantProfiles config.profiles, variant = variantName id profile := by
  refine ⟨hkept.noLeftover variant id, ?_⟩
  rintro ⟨config, hconfig, profile, hprofile, rfl⟩
  exact hkept.indexed.bases id config hconfig profile hprofile

theorem Kept.info_iff (variant : String) (info : ModelInfo) :
    live.profileVariantModels[variant]? = some info ↔
      ∃ (id : String) (config : ModelConfig), live.models[id]? = some config ∧
        ∃ profile ∈ variantProfiles config.profiles, variant = variantName id profile ∧
          info = variantInfo live.bundles id config.profiles profile := by
  constructor
  · intro hinfo
    obtain ⟨id, hbase⟩ := Tables.exists_of_mem (hkept.indexed.infoOf variant (mem_of_get hinfo))
    obtain ⟨config, hconfig, profile, hprofile, rfl⟩ := hkept.noLeftover variant id hbase
    rw [hkept.indexed.variants id config hconfig profile hprofile] at hinfo
    exact ⟨id, config, hconfig, profile, hprofile, rfl, (some.inj hinfo).symm⟩
  · rintro ⟨id, config, hconfig, profile, hprofile, rfl, rfl⟩
    exact hkept.indexed.variants id config hconfig profile hprofile

theorem Kept.lower_iff (key variant : String) : live.profileVariantNamesLower[key]? = some variant ↔
      ∃ (id : String) (config : ModelConfig), live.models[id]? = some config ∧
        lastVariant id (variantProfiles config.profiles) key = some variant := by
  constructor
  · intro hname
    obtain ⟨rfl, hmem⟩ := hkept.indexed.lowerOf key variant hname
    obtain ⟨id, hbase⟩ := Tables.exists_of_mem hmem
    obtain ⟨config, hconfig, profile, hprofile, rfl⟩ := hkept.noLeftover variant id hbase
    obtain ⟨last, hlast⟩ := @lastVariant_isSome _ profile id _ hprofile
    have hfound := hkept.indexed.lowerVariants id config hconfig _ last hlast
    rw [hname] at hfound
    rw [← some.inj hfound] at hlast
    exact ⟨id, config, hconfig, hlast⟩
  · rintro ⟨id, config, hconfig, hlast⟩
    exact hkept.indexed.lowerVariants id config hconfig key variant hlast

end Determined

/-- Two registries of the same configs with kept indexes differ at most in the hashes they
have cached. -/
theorem Kept.unique {other : LiveRegistry} (hkept : Kept live) (hother : Kept other)
    (hbundles : live.bundles = other.bundles) (hmodels : live.models = other.models) :
    { live with bundleHashCache := ∅ } = { other with bundleHashCache := ∅ } := by
  have hinfos : live.modelInfos = other.modelInfos := by
    apply Std.ExtTreeMap.ext_getElem?
    intro id
    rw [hkept.indexed.derived.infos, hother.indexed.derived.infos, hbundles, hmodels]
  have hmodules : live.modelAdapterModules = other.modelAdapterModules := by
    apply Std.ExtTreeMap.ext_getElem?
    intro id
    rw [hkept.indexed.derived.modules, hother.indexed.derived.modules, hmodels]
  have hprofiles : live.modelProfiles = other.modelProfiles := by
    apply Std.ExtTreeMap.ext_getElem?
    intro id
    rw [hkept.indexed.derived.profiles, hother.indexed.derived.profiles, hmodels]
  have hlower : live.modelNamesLower = other.modelNamesLower := by
    apply Std.ExtTreeMap.ext_getElem?
    intro key
    apply Option.ext
    intro id
    rw [hkept.indexed.lower, hother.indexed.lower, hmodels]
  have hbases : live.profileVariantBaseModels = other.profileVariantBaseModels := by
    apply Std.ExtTreeMap.ext_getElem?
    intro variant
    apply Option.ext
    intro id
    rw [hkept.base_iff, hother.base_iff, hmodels]
  have hvariants : live.profileVariantModels = other.profileVariantModels := by
    apply Std.ExtTreeMap.ext_getElem?
    intro variant
    apply Option.ext
    intro info
    rw [hkept.info_iff, hother.info_iff, hmodels, hbundles]
  have hnames : live.profileVariantNamesLower = other.profileVariantNamesLower := by
    apply Std.ExtTreeMap.ext_getElem?
    intro key
    apply Option.ext
    intro variant
    rw [hkept.lower_iff, hother.lower_iff, hmodels]
  obtain ⟨⟨_, _, _, _⟩, _, _, _, _, _, _⟩ := live
  obtain ⟨⟨_, _, _, _⟩, _, _, _, _, _, _⟩ := other
  simp_all

/-! ## Accepted configs are loadable -/

omit [Letters] in
theorem loadable_of_profiles (hname : config.name ≠ "")
    (hprofiles : ∀ name ∈ config.profiles, name = "default" ∨ wellFormedProfileName name = true) :
    loadable config = true := by
  simp only [loadable, Bool.and_eq_true, all_eq_true, Bool.or_eq_true, decide_eq_true_eq, mem_keys]
  exact ⟨hname, hprofiles⟩

omit [Letters] in
theorem profiles_of_loadable (hloadable : loadable config = true) :
    ∀ name ∈ config.profiles, name = "default" ∨ wellFormedProfileName name = true := by
  simp only [loadable, Bool.and_eq_true, all_eq_true, Bool.or_eq_true, decide_eq_true_eq,
    mem_keys] at hloadable
  exact hloadable.2

theorem storedConfig_loadable (hindexed : Indexed live)
    (hvalid : validateConfig live.toRegistry incoming = .ok config) :
    (storedConfig live.toRegistry config).name = config.name ∧
      loadable (storedConfig live.toRegistry config) = true := by
  obtain ⟨hnonempty, hnormal, -⟩ := ModelCatalogue.validateConfig_eq_ok_iff.1 hvalid
  obtain ⟨hname, -, hcheck⟩ := validateConfig_eq_ok hvalid
  have hsame : (storedConfig live.toRegistry config).name = config.name := by
    unfold storedConfig
    split
    · rfl
    · rename_i existing hexisting
      exact (hindexed.named config.name existing hexisting).1
  refine ⟨hsame, loadable_of_profiles ?_ fun name hmem => ?_⟩
  · rwa [hsame, hname]
  · obtain ⟨profile, hprofile⟩ := Tables.exists_of_mem hmem
    obtain hnew | ⟨existing, hexisting, hold⟩ := get_storedConfig hprofile
    · exact .inr (checkProfiles_eq_ok hcheck hnew)
    · exact profiles_of_loadable (hindexed.named config.name existing hexisting).2 name
        (mem_of_get hold)

theorem replacement_loadable
    (hvalid : ModelCatalogue.validateStructure registry incoming = .ok config) :
    config.name = incoming.name ∧ loadable config = true := by
  obtain ⟨hnonempty, hnormal, hformed⟩ := ModelCatalogue.validateStructure_eq_ok_iff.1 hvalid
  obtain ⟨hname, -⟩ := normalizePoolName_eq_ok hnormal
  refine ⟨hname, loadable_of_profiles ?_ fun name hmem => .inr ?_⟩
  · rwa [hname]
  · obtain ⟨profile, hprofile⟩ := Tables.exists_of_mem hmem
    have hentry := Fallible.forM_eq_ok.1 hformed.checked (name, profile)
      (mem_toList_iff_getElem?_eq_some.2 hprofile)
    dsimp only at hentry
    split_ifs at hentry with hplain
    simpa using hplain

/-! ## Runs -/

/-- A write does not name a model that has another registered model's id or variant in
other letters. -/
def Recognisable (live : LiveRegistry) : Action → Prop
  | .write (.add config) => Unmistaken live config
  | .write (.replace config) => Unmistaken live config
  | .write (.remove _ (some fallback)) => Unmistaken live fallback
  | .write (.remove _ none) => True
  | .askHash _ => True

instance (live : LiveRegistry) : ∀ action : Action, Decidable (Recognisable live action)
  | .write (.add config) => inferInstanceAs (Decidable (Unmistaken live config))
  | .write (.replace config) => inferInstanceAs (Decidable (Unmistaken live config))
  | .write (.remove _ (some fallback)) => inferInstanceAs (Decidable (Unmistaken live fallback))
  | .write (.remove _ none) => isTrue trivial
  | .askHash _ => isTrue trivial

/-- What a recognisable action does: it stores a config under its name, drops a model, or
caches a hash. -/
inductive Recognised (live : LiveRegistry) : LiveRegistry → Prop where
  | store (id : String) (config : ModelConfig) (hname : config.name = id)
      (hloadable : loadable config = true) (hfree : Unmistaken live config) :
      Recognised live (store live id config)
  | drop (id : String) : Recognised live (drop live id)
  | cache (hashes : Table Preimage) (hderived : Derived { live with bundleHashCache := hashes }) :
      Recognised live { live with bundleHashCache := hashes }

variable {after : LiveRegistry}

/-- What is alike depends on the id and the names of the profiles only. -/
theorem unmistaken_of_profiles (hfree : Unmistaken live incoming)
    (hname : config.name = incoming.name) (hprofiles : config.profiles = incoming.profiles) :
    Unmistaken live config := by
  intro stored hstored halike
  rw [Alike, hname, hprofiles] at halike
  rw [hname]
  exact hfree stored hstored halike

/-- The profiles that an append leaves are its own and those that were there. -/
theorem unmistaken_storedConfig (hfree : Unmistaken live config) (hindexed : Indexed live)
    (hname : (storedConfig live.toRegistry config).name = config.name) :
    Unmistaken live (storedConfig live.toRegistry config) := by
  intro stored hstored halike
  rw [hname]
  obtain ⟨other, hget⟩ := RegistryRoutes.mem_exported.1 hstored
  obtain hsame | ⟨profile, hprofile, name, hmem, hsame⟩ := halike
  · exact hfree stored hstored (.inl (by rw [hsame, hname]))
  · rw [hname] at hsame
    obtain ⟨hkey, hne⟩ := mem_variantProfiles.1 hmem
    obtain ⟨found, hfound⟩ := Tables.exists_of_mem hkey
    obtain hnew | ⟨existing, hexisting, hold⟩ := get_storedConfig hfound
    · have hvariant := mem_variantProfiles.2 ⟨mem_of_get hnew, hne⟩
      exact hfree stored hstored (.inr ⟨profile, hprofile, name, hvariant, hsame⟩)
    · have hvariant := mem_variantProfiles.2 ⟨mem_of_get hold, hne⟩
      rw [(hindexed.named other stored hget).1]
      refine hindexed.distinct other config.name stored existing hget hexisting
        (.inr ⟨profile, hprofile, name, hvariant, ?_⟩)
      rw [hsame, (hindexed.named config.name existing hexisting).1]

theorem replaceModelConfig_recognised
    (hreplace : RegistryTables.replaceModelConfig live incoming = .ok (after, affected))
    (hfree : Unmistaken live incoming) : Recognised live after := by
  obtain ⟨config, hvalid, hresult⟩ := Fallible.bind_eq_ok.1 hreplace
  obtain ⟨hname, hloadable⟩ := replacement_loadable hvalid
  obtain ⟨-, hnormal, -⟩ := ModelCatalogue.validateStructure_eq_ok_iff.1 hvalid
  cases hresult
  exact .store config.name config rfl hloadable
    (unmistaken_of_profiles hfree hname (normalizePoolName_eq_ok hnormal).2)

theorem act_recognised (hindexed : Indexed live)
    (hfree : Recognisable live action) (hact : act live action = some after) :
    Recognised live after := by
  cases action with
  | write operation =>
    obtain ⟨⟨performed, affected⟩, hperform, rfl⟩ := map_eq_some_iff.1 hact
    cases operation with
    | add =>
      obtain ⟨config, hvalid, hresult⟩ :=
        Fallible.bind_eq_ok.1 (Fallible.toOption_eq_some.1 hperform)
      obtain ⟨hname, hloadable⟩ := storedConfig_loadable hindexed hvalid
      obtain ⟨hsame, hprofiles, -⟩ := validateConfig_eq_ok hvalid
      cases hresult
      have hconfig : Unmistaken live config := unmistaken_of_profiles hfree hsame hprofiles
      exact .store _ _ hname hloadable (unmistaken_storedConfig hconfig hindexed hname)
    | replace =>
      exact replaceModelConfig_recognised (Fallible.toOption_eq_some.1 hperform) hfree
    | remove modelId fallback =>
      simp only [perform, ite_none_right_eq_some] at hperform
      obtain ⟨hsame, hperform⟩ := hperform
      have hremove := Fallible.toOption_eq_some.1 hperform
      cases fallback with
      | some incoming =>
        obtain rfl : incoming.name = modelId := by simpa using hsame
        exact replaceModelConfig_recognised hremove hfree
      | none =>
        simp only [RegistryTables.removeModelConfig] at hremove
        split at hremove
        · cases hremove
          exact .drop modelId
        · cases hremove
          exact .cache live.bundleHashCache hindexed.derived
  | askHash bundleId =>
    obtain ⟨hderived, -⟩ := act_derived hindexed.derived hact
    cases hact
    cases hcached : live.bundleHashCache[bundleId]? with
    | some =>
      simp only [cachedBundleConfigHash, hcached]
      exact .cache live.bundleHashCache hindexed.derived
    | none =>
      simp only [cachedBundleConfigHash, hcached] at hderived ⊢
      exact .cache _ hderived

theorem Recognised.indexed (hrecognised : Recognised live after)
    (hindexed : Indexed live) : Indexed after := by
  cases hrecognised with
  | store _ _ hname hloadable hfree => exact store_indexed hindexed hname hloadable hfree
  | drop => exact drop_indexed hindexed
  | cache _ hderived =>
    exact { hindexed with derived := hderived }

theorem Recognised.noLeftover (hrecognised : Recognised live after)
    (hindexed : Indexed live) (hnone : NoLeftover live) : NoLeftover after := by
  cases hrecognised with
  | store id config => exact store_noLeftover hindexed hnone id config
  | drop => exact drop_noLeftover hindexed hnone
  | cache => exact hnone

/-- Every registry that recognisable actions reach from a load has its indexes. -/
theorem run_indexed (hfiles : CaseDistinct configs)
    (hguarded : Guarded act Recognisable (loadAll bundles configs) actions)
    (hrun : run act (loadAll bundles configs) actions = some live) : Indexed live :=
  guarded_invariant Indexed
    (fun _ _ _ hindexed hfree hact => (act_recognised hindexed hfree hact).indexed hindexed)
    (loadAll_indexed bundles hfiles) hguarded hrun

/-! ## The main result -/

/-- Beside its cached hashes, the registry is the one that a fresh process computes from the
same full configs in any order, and every hash it has cached is the one that process
computes. -/
def Canonical (live : LiveRegistry) : Prop :=
  ∀ listing : List ModelConfig, listing.Perm (exportConfigs live.toRegistry) →
    { live with bundleHashCache := ∅ } = loadAll live.bundles listing ∧
      ∀ (bundleId : String) (hash : Preimage), live.bundleHashCache[bundleId]? = some hash →
        hash = (cachedBundleConfigHash (loadAll live.bundles listing) bundleId).1

section Fresh

variable (hkept : Kept live) {listing : List ModelConfig}
  (hlisting : listing.Perm (exportConfigs live.toRegistry))
include hkept hlisting

theorem mem_listing : config ∈ listing ↔ live.models[config.name]? = some config := by
  rw [hlisting.mem_iff, exportConfigs, RegistryRoutes.mem_exported]
  constructor
  · rintro ⟨id, hconfig⟩
    rwa [(hkept.indexed.named id config hconfig).1]
  · exact fun hconfig => ⟨config.name, hconfig⟩

theorem listing_loadable (hconfig : config ∈ listing) : loadable config = true :=
  (hkept.indexed.named _ config ((mem_listing hkept hlisting).1 hconfig)).2

theorem listing_nodup : (listing.map ModelConfig.name).Nodup := by
  have hnames : (exportConfigs live.toRegistry).map ModelConfig.name = live.models.keys := by
    rw [exportConfigs, RegistryRoutes.exported, map_map, ← map_fst_toList_eq_keys]
    apply map_congr_left
    rintro ⟨id, config⟩ hentry
    exact (hkept.indexed.named id config (mem_toList_iff_getElem?_eq_some.1 hentry)).1
  rw [(hlisting.map ModelConfig.name).nodup_iff, hnames]
  exact nodup_keys

theorem fresh_models : (loadAll live.bundles listing).models = live.models := by
  rw [loadAll, foldl_loadLive_models fun config hconfig => listing_loadable hkept hlisting hconfig]
  apply Std.ExtTreeMap.ext_getElem?
  intro id
  apply Option.ext
  intro config
  rw [insertAll_eq_some_iff]
  · simp only [mem_map, Prod.mk.injEq, emptyLive]
    constructor
    · rintro (⟨found, hfound, rfl, rfl⟩ | ⟨-, hempty⟩)
      · exact (mem_listing hkept hlisting).1 hfound
      · simp at hempty
    · intro hconfig
      obtain ⟨rfl, -⟩ := hkept.indexed.named id config hconfig
      exact .inl ⟨config, (mem_listing hkept hlisting).2 hconfig, rfl, rfl⟩
  · simp only [mem_map]
    rintro - ⟨first, hfirst, rfl⟩ - ⟨second, hsecond, rfl⟩ hsame
    have hfound := (mem_listing hkept hlisting).1 hfirst
    dsimp only at hsame ⊢
    rw [hsame, (mem_listing hkept hlisting).1 hsecond] at hfound
    exact (some.inj hfound).symm

theorem fresh_kept : Kept (loadAll live.bundles listing) where
  indexed := by
    apply loadAll_indexed
    intro first hfirst second hsecond _ _ halike
    exact hkept.indexed.distinct _ _ first second ((mem_listing hkept hlisting).1 hfirst)
      ((mem_listing hkept hlisting).1 hsecond) halike
  noLeftover := by
    refine foldl_loadLive_noLeftover (fun config hconfig => listing_loadable hkept hlisting hconfig)
      (listing_nodup hkept hlisting) ?_ ?_
    · intro variant id hbase
      simp [emptyLive] at hbase
    · intro config _ hmem
      simp [emptyLive] at hmem

end Fresh

theorem loadAll_cache (bundles : Table BundleInfo) (configs : List ModelConfig) :
    (loadAll bundles configs).bundleHashCache = ∅ := by
  have hfold : ∀ live : LiveRegistry, live.bundleHashCache = ∅ →
      (configs.foldl loadLive live).bundleHashCache = ∅ := by
    induction configs with
    | nil => exact fun _ hempty => hempty
    | cons _ _ ih =>
      intro live hempty
      rw [foldl_cons]
      apply ih
      rw [loadLive]
      split
      · exact hempty
      · exact hempty
  exact hfold (emptyLive bundles) rfl

theorem Kept.canonical (hkept : Kept live) : Canonical live := by
  intro listing hlisting
  have hfresh := fresh_kept hkept hlisting
  have hcache := loadAll_cache live.bundles listing
  have hsame := hkept.unique hfresh (loadAll_bundles live.bundles listing).symm
    (fresh_models hkept hlisting).symm
  have hwhole : { loadAll live.bundles listing with bundleHashCache := ∅ } =
      loadAll live.bundles listing := by
    rw [← hcache]
  rw [hwhole] at hsame
  refine ⟨hsame, fun bundleId hash hcached => ?_⟩
  rw [hkept.indexed.derived.cache bundleId hash hcached]
  have hmiss : (loadAll live.bundles listing).bundleHashCache[bundleId]? = none := by
    rw [hcache]
    simp
  simp only [cachedBundleConfigHash, hmiss]
  rw [← hsame]

/-- Every registry reached from a reload of whole files by writes that name no model with
another registered model's id or variant in other letters is canonical. -/
theorem run_canonical {bundles : Table BundleInfo} {files : List ModelFile}
    {actions : List Action} {live : LiveRegistry}
    (hwhole : ∀ file ∈ files, file.unreadable = [])
    (hfiles : CaseDistinct (files.map ModelFile.config))
    (hleftover : NoLeftover (loadFiles bundles files))
    (hguarded : Guarded act Recognisable (loadFiles bundles files) actions)
    (hrun : run act (loadFiles bundles files) actions = some live) : Canonical live := by
  rw [loadFiles_eq hwhole] at hleftover hguarded hrun
  have hstep : ∀ state action next, Kept state → Recognisable state action →
      act state action = some next → Kept next := by
    intro state action next hkept hfree hact
    have hrecognised := act_recognised hkept.indexed hfree hact
    exact ⟨hrecognised.indexed hkept.indexed, hrecognised.noLeftover hkept.indexed hkept.noLeftover⟩
  have hkept : Kept live := guarded_invariant Kept hstep
    ⟨loadAll_indexed bundles hfiles, hleftover⟩ hguarded hrun
  exact hkept.canonical

end Registries

attribute [local instance] ascii

/-- One file, of a model with one profile. -/
def oneFile (id path : String) : List ModelFile :=
  [⟨modelWith id "default" path, []⟩]

def movedModel : List Action :=
  [.write (.add (modelWith "b" "p" "my:B")), .askHash "y",
    .write (.replace (modelWith "b" "q" "mx:C")), .write (.remove "a" none), .askHash "x"]

theorem run_canonical_movedModel :
    ∃ live, run act (loadFiles twoBundles (oneFile "a" "mx:A")) movedModel = some live ∧
      live.profileVariantModels.keys = ["b:q"] ∧ live.bundleHashCache.keys = ["x"] ∧
      Canonical live := by
  have hguarded : Guarded act Recognisable (loadFiles twoBundles (oneFile "a" "mx:A"))
      movedModel := by decide +kernel
  refine ⟨_, (some_get ?_).symm, ?_, ?_, run_canonical ?_ ?_ ?_ hguarded (some_get _).symm⟩
  · decide +kernel
  · decide +kernel
  · decide +kernel
  · simp [oneFile]
  · simp [CaseDistinct, oneFile]
  · have hnone : (loadFiles twoBundles (oneFile "a" "mx:A")).profileVariantBaseModels = ∅ := by
      with_unfolding_all rfl
    intro variant id hbase
    simp [hnone] at hbase

/-- Storing a new model takes the lower-case name for it. -/
theorem store_lower_new {id key : String} (config : ModelConfig)
    (hnew : id ∉ live.modelInfos) (hkey : lowercase id = key) :
    (store live id config).modelNamesLower[key]? = some id := by
  simp only [store, if_neg hnew, get_insert, if_pos hkey]

/-- The registry of `Foo` after `foo` has come and gone. -/
def removedTwin : LiveRegistry :=
  drop (store (loadAll twoBundles [modelWith "Foo" "default" "mx:A"]) "foo"
    (modelWith "foo" "default" "my:B")) "foo"

/-- Removing a model whose id was another's in other letters takes the other's lower-case
name away. -/
theorem removedTwin_not_canonical :
    ∃ live, run act (loadAll twoBundles [modelWith "Foo" "default" "mx:A"])
        [.write (.add (modelWith "foo" "default" "my:B")), .write (.remove "foo" none)] =
        some live ∧ ¬ Canonical live := by
  refine ⟨removedTwin, by with_unfolding_all rfl, fun hcanonical => ?_⟩
  have hlost : removedTwin.modelNamesLower["foo"]? = none := by
    have htaken := @store_lower_new (loadAll twoBundles [modelWith "Foo" "default" "mx:A"])
      "foo" "foo" (modelWith "foo" "default" "my:B") (by decide +kernel) (by decide +kernel)
    simp only [removedTwin, drop, Std.ExtTreeMap.getElem?_filter', htaken]
    rfl
  have hexported : exportConfigs removedTwin.toRegistry = [modelWith "Foo" "default" "mx:A"] := by
    decide +kernel
  have hfresh : (loadAll removedTwin.bundles
      [modelWith "Foo" "default" "mx:A"]).modelNamesLower["foo"]? = some "Foo" := by
    decide +kernel
  have hsame := (hcanonical _ (List.Perm.refl _)).1
  rw [hexported] at hsame
  rw [← hsame, hlost] at hfresh
  cases hfresh

end SieCluster.CanonicalRegistry
