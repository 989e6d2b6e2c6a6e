import SieCluster.Gateway.BundleResolution
import SieCluster.Config.NotifiedBundles
import SieCluster.Config.CanonicalRegistry

/-!
# What a name resolves to

A model owns its id, which stands for its default profile, and one name for each
other profile.  As long as no two owned names are equal up to letter case, the
control plane and the gateway both lead every owned name to its own entry, and
to a bundle that serves the adapter of its profile when there is one.  A name
whose profile no bundle serves, or which has no default profile, is not found.
-/

namespace SieCluster.NameResolution

open Option hiding any map mem_map
open List
open Runs
open Tables
open Profiles
open ConfigRegistry
open ModelCatalogue (loadable)
open RegistryTables
open DerivedTables
open RegistryIndexes
open CanonicalRegistry
open NotifiedBundles (Serves mem_matchingBundleNames)
open ModelRegistry (variantName Snapshot ModelEntry assignBundles replaceModelConfigsAuthoritative
  effectiveAdapterPathFromProfiles)
open RegistryRoutes (exported mem_exported filedEntries entriesOf baseEntry variantOf
  mem_entriesOf installed)
open BundleResolution (canonicalModelName resolveBundleWithEngine)

section Registries

variable [Letters]

/-- The names of a model, each with the profile it stands for. -/
def ownedNames (config : ModelConfig) : List (String × String) :=
  (config.name, "default") ::
    (variantProfiles config.profiles).map fun profile => (variantName config.name profile, profile)

/-- Names that are equal up to letter case are one name of one model. -/
def Unambiguous (configs : Table ModelConfig) : Prop :=
  ∀ config ∈ exported configs, ∀ other ∈ exported configs,
    ∀ owned ∈ ownedNames config, ∀ name ∈ ownedNames other,
      lowercase owned.1 = lowercase name.1 → config = other ∧ owned.2 = name.2

instance (configs : Table ModelConfig) : Decidable (Unambiguous configs) :=
  inferInstanceAs (Decidable (∀ config ∈ exported configs, _))

omit [Letters] in
theorem mem_ownedNames : (name, profile) ∈ ownedNames config ↔
      (name = config.name ∧ profile = "default") ∨
        profile ∈ variantProfiles config.profiles ∧ name = variantName config.name profile := by
  simp only [ownedNames, mem_cons, Prod.mk.injEq, mem_map]
  constructor
  · rintro (hbase | ⟨found, hfound, rfl, rfl⟩)
    · exact .inl hbase
    · exact .inr ⟨hfound, rfl⟩
  · rintro (hbase | ⟨hprofile, rfl⟩)
    · exact .inl hbase
    · exact .inr ⟨profile, hprofile, rfl, rfl⟩

/-! ## The control plane -/

section Control

omit [Letters] in
/-- The default route is the route of the profile of that name. -/
theorem baseRouteAdapterModules_eq (profiles : Table ProfileConfig) :
    baseRouteAdapterModules profiles = profileModules profiles "default" := by
  unfold baseRouteAdapterModules
  split
  · rfl
  · rename_i hmissing
    simp only [profileModules, effectivePath, lineage_missing hmissing]
    rfl

theorem entryFor_of_lower (hlower : live.modelNamesLower[lowercase model]? = some canonical) :
    entryFor live model = live.modelInfos[canonical]? := by
  simp only [entryFor, hlower]

/-- An owned name leads to its own entry, with the bundles of its profile. -/
theorem entryFor_owned (hindexed : Indexed live) (hunambiguous : Unambiguous live.models)
    {id name profile : String} (hconfig : live.models[id]? = some config)
    (howned : (name, profile) ∈ ownedNames config) :
    entryFor live name =
      some ⟨name, matchingBundleNames (profileModules config.profiles profile) live.bundles⟩ := by
  obtain ⟨hname, -⟩ := hindexed.named id config hconfig
  have hlisted : config ∈ exported live.models := mem_exported.2 ⟨id, hconfig⟩
  obtain ⟨rfl, rfl⟩ | ⟨hprofile, rfl⟩ := mem_ownedNames.1 howned
  · rw [hname]
    have hlower : live.modelNamesLower[lowercase id]? = some id :=
      (hindexed.lower (lowercase id) id).2 ⟨mem_of_get hconfig, rfl⟩
    rw [entryFor_of_lower hlower, hindexed.derived.infos, hconfig, map_some, baseInfo,
      baseRouteAdapterModules_eq]
  · rw [hname]
    -- no model's id has the variant's lower case
    have hnone : live.modelNamesLower[lowercase (variantName id profile)]? = none := by
      rw [eq_none_iff_forall_ne_some]
      intro other hother
      obtain ⟨hmem, hlower⟩ := (hindexed.lower _ other).1 hother
      obtain ⟨stored, hstored⟩ := Tables.exists_of_mem hmem
      obtain ⟨hother', -⟩ := hindexed.named other stored hstored
      have hbase : (other, "default") ∈ ownedNames stored :=
        mem_ownedNames.2 (.inl ⟨hother'.symm, rfl⟩)
      rw [← hname] at hlower
      have hsame := (hunambiguous stored (mem_exported.2 ⟨other, hstored⟩) config hlisted
        (other, "default") hbase (variantName config.name profile, profile) howned hlower).2
      exact (mem_variantProfiles.1 hprofile).2 hsame.symm
    obtain ⟨last, hlast⟩ := @lastVariant_isSome _ profile id _ hprofile
    have hvariant : live.profileVariantNamesLower[lowercase (variantName id profile)]? =
        some (variantName id profile) := by
      rw [hindexed.lowerVariants id config hconfig _ last hlast]
      obtain ⟨found, hfound, rfl, hlower⟩ := lastVariant_eq_some hlast
      rw [← hname] at hlower
      have hother : (variantName config.name found, found) ∈ ownedNames config :=
        mem_ownedNames.2 (.inr ⟨hfound, rfl⟩)
      have hsame := (hunambiguous config hlisted config hlisted _ hother _ howned hlower).2
      dsimp only at hsame
      rw [hsame]
    simp only [entryFor, hnone, hvariant, bind_some,
      hindexed.variants id config hconfig profile hprofile, some_or, variantInfo]

/-- The control plane leads a name to its own entry, and to a bundle of its profile when
there is one. -/
structure ControlResolves (live : LiveRegistry) (config : ModelConfig) (name profile : String) :
    Prop where
  own : ∃ info, entryFor live name = some info ∧ info.name = name
  supports : ∀ bundleOverride chosen, resolveBundle live name bundleOverride = .ok chosen →
    ∃ bundle, live.bundles[chosen]? = some bundle ∧
      Serves bundle (profileModules config.profiles profile)
  found : ∀ (id : String) (bundle : BundleInfo), live.bundles[id]? = some bundle →
    Serves bundle (profileModules config.profiles profile) →
      (∃ chosen, resolveBundle live name none = .ok chosen) ∧
        resolveBundle live name (some id) = .ok id
  missing : (∀ (id : String) (bundle : BundleInfo), live.bundles[id]? = some bundle →
      ¬ Serves bundle (profileModules config.profiles profile)) →
    ∀ bundleOverride, resolveBundle live name bundleOverride = .error (.modelNotFound name)

theorem controlResolves_owned (hindexed : Indexed live) (hnamed : WellNamed live.bundles)
    (hunambiguous : Unambiguous live.models) {id name profile : String}
    (hconfig : live.models[id]? = some config) (howned : (name, profile) ∈ ownedNames config) :
    ControlResolves live config name profile := by
  have hentry := entryFor_owned hindexed hunambiguous hconfig howned
  have hserves : ∀ chosen : String,
      chosen ∈ matchingBundleNames (profileModules config.profiles profile) live.bundles ↔
        ∃ bundle, live.bundles[chosen]? = some bundle ∧
          Serves bundle (profileModules config.profiles profile) :=
    fun _ => mem_matchingBundleNames hnamed
  refine ⟨⟨_, hentry, rfl⟩, ?_, ?_, ?_⟩
  · intro bundleOverride chosen hchosen
    rw [← hserves]
    simp only [resolveBundle, hentry, map_some, getD_some] at hchosen
    split at hchosen
    · cases hchosen
    · rename_i preferred others hlist
      rw [hlist]
      split at hchosen
      · cases hchosen
        exact mem_cons_self
      · split_ifs at hchosen with hlisted
        cases hchosen
        exact hlisted
  · intro other bundle hbundle hserved
    have hmem := (hserves other).2 ⟨bundle, hbundle, hserved⟩
    obtain ⟨preferred, others, hlist⟩ := exists_cons_of_ne_nil (ne_nil_of_mem hmem)
    rw [hlist] at hmem
    simp only [resolveBundle, hentry, map_some, getD_some, hlist, if_pos hmem]
    exact ⟨⟨preferred, rfl⟩, trivial⟩
  · intro hnone bundleOverride
    have hempty : matchingBundleNames (profileModules config.profiles profile) live.bundles =
        [] := by
      rw [eq_nil_iff_forall_not_mem]
      intro chosen hchosen
      obtain ⟨bundle, hbundle, hserved⟩ := (hserves chosen).1 hchosen
      exact hnone chosen bundle hbundle hserved
    simp only [resolveBundle, hentry, map_some, getD_some, hempty]

end Control

/-! ## The gateway -/

section Gateway

variable {bundles : Table BundleInfo} {configs : Table ModelConfig}

/-- The bundle lists the adapter module of the profile, as the gateway reads it. -/
def GatewayServes (bundle : BundleInfo) (profiles : Table ProfileConfig) (profile : String) :
    Prop :=
  ∃ adapter ∈ bundle.adapters,
    (effectiveAdapterPathFromProfiles profiles profile).bind ModelRegistry.adapterModuleFromPath =
      some adapter

/-- The entry of one profile of a config. -/
def profileEntry (config : ModelConfig) (profile : String) : ModelEntry :=
  if profile = "default" then baseEntry config else variantOf config profile

variable {config : ModelConfig} {profile : String}

theorem mem_entriesOf_iff :
    entry ∈ entriesOf config ↔
      ∃ profile ∈ config.profiles, entry = profileEntry config profile := by
  rw [mem_entriesOf]
  constructor
  · rintro (⟨hdefault, rfl⟩ | ⟨name, hname, hne, rfl⟩)
    · exact ⟨"default", hdefault, rfl⟩
    · exact ⟨name, hname, (if_neg hne).symm⟩
  · rintro ⟨profile, hprofile, rfl⟩
    unfold profileEntry
    split_ifs with hdefault
    · exact .inl ⟨hdefault ▸ hprofile, rfl⟩
    · exact .inr ⟨profile, hprofile, hdefault, rfl⟩

theorem profileEntry_owned (hprofile : profile ∈ config.profiles) :
    ((profileEntry config profile).name, profile) ∈ ownedNames config := by
  rw [mem_ownedNames]
  unfold profileEntry
  split_ifs with hdefault
  · exact .inl ⟨rfl, hdefault⟩
  · exact .inr ⟨mem_variantProfiles.2 ⟨hprofile, hdefault⟩, rfl⟩

/-- The entries filed under an owned name, in any letters, are that of its profile. -/
theorem filed_of_owned (hunambiguous : Unambiguous configs) {id : String}
    (hconfig : configs[id]? = some config) (howned : (name, profile) ∈ ownedNames config)
    (hentry : entry ∈ filedEntries bundles (exported configs))
    (hlower : lowercase entry.name = lowercase name) :
    profile ∈ config.profiles ∧ entry = assignBundles bundles (profileEntry config profile) := by
  obtain ⟨other, found, hfound, plain, hplain, rfl⟩ := RegistryRoutes.mem_filedEntries.1 hentry
  obtain ⟨named, hnamed, rfl⟩ := mem_entriesOf_iff.1 hplain
  obtain ⟨rfl, hsame⟩ := hunambiguous found (mem_exported.2 ⟨other, hfound⟩) config
    (mem_exported.2 ⟨id, hconfig⟩) _ (profileEntry_owned hnamed) (name, profile) howned hlower
  obtain rfl : named = profile := hsame
  exact ⟨hnamed, rfl⟩

theorem name_of_owned (howned : (name, profile) ∈ ownedNames config) :
    (profileEntry config profile).name = name := by
  obtain ⟨rfl, rfl⟩ | ⟨hprofile, rfl⟩ := mem_ownedNames.1 howned
  · rfl
  · rw [profileEntry, if_neg (mem_variantProfiles.1 hprofile).2]
    rfl

theorem gateway_entryFor_owned (hunambiguous : Unambiguous configs) {id : String}
    (hconfig : configs[id]? = some config) (howned : (name, profile) ∈ ownedNames config) :
    BundleResolution.entryFor (installed bundles (exported configs)) name =
      if profile ∈ config.profiles then some (assignBundles bundles (profileEntry config profile))
      else none := by
  split_ifs with hprofile
  · have hfiled : assignBundles bundles (profileEntry config profile) ∈
        filedEntries bundles (exported configs) :=
      RegistryRoutes.mem_filedEntries.2 ⟨id, config, hconfig, _,
        mem_entriesOf_iff.2 ⟨profile, hprofile, rfl⟩, rfl⟩
    have hname : (assignBundles bundles (profileEntry config profile)).name = name :=
      name_of_owned howned
    have hown := BundleResolution.entryFor_of_unique hfiled fun other hother hlower =>
      (filed_of_owned hunambiguous hconfig howned hother (by rw [hlower, hname])).2
    rwa [hname] at hown
  · apply BundleResolution.entryFor_eq_none
    intro other hother hlower
    exact hprofile (filed_of_owned hunambiguous hconfig howned hother hlower).1

omit [Letters] in
theorem mem_assignBundles (hnamed : WellNamed bundles) :
    name ∈ (assignBundles bundles entry).bundles ↔ ∃ bundle, bundles[name]? = some bundle ∧
        ∃ adapter ∈ bundle.adapters, adapter ∈ entry.adapterModules := by
  unfold assignBundles
  simp only [mem_map, mem_insertionSort, mem_filter, Prod.exists,
    Std.ExtTreeMap.mem_toList_iff_getElem?_eq_some, List.any_eq_true, decide_eq_true_eq,
    Prod.mk.injEq]
  constructor
  · rintro ⟨priority, label, ⟨id, bundle, ⟨hget, adapter, hadapter, hlisted⟩, -, rfl⟩, rfl⟩
    obtain rfl := hnamed id bundle hget
    exact ⟨bundle, hget, adapter, hlisted, hadapter⟩
  · rintro ⟨bundle, hget, adapter, hlisted, hadapter⟩
    exact ⟨bundle.priority, name, ⟨name, bundle, ⟨hget, adapter, hadapter, hlisted⟩, rfl,
      hnamed name bundle hget⟩, rfl⟩

theorem profileEntry_adapterModules (hprofile : profile ∈ config.profiles) :
    (profileEntry config profile).adapterModules =
      ((effectiveAdapterPathFromProfiles config.profiles profile).bind
        ModelRegistry.adapterModuleFromPath).toList := by
  unfold profileEntry
  split_ifs with hdefault
  · subst hdefault
    exact if_pos hprofile
  · rfl

/-- The gateway leads a name to no entry but its own, and to a bundle of its profile when
there is one. -/
structure GatewayResolves (snapshot : Snapshot) (config : ModelConfig) (name profile : String) :
    Prop where
  own : ∀ entry, BundleResolution.entryFor snapshot name = some entry →
    entry.name = name ∧ entry.canonicalBaseModel = config.name ∧ entry.canonicalProfile = profile
  supports : ∀ bundleOverride engineFilter chosen,
    resolveBundleWithEngine snapshot name bundleOverride engineFilter = .ok chosen →
      ∃ bundle, snapshot.bundles[chosen]? = some bundle ∧
        GatewayServes bundle config.profiles profile
  found : ∀ (id : String) (bundle : BundleInfo), snapshot.bundles[id]? = some bundle →
    GatewayServes bundle config.profiles profile →
      (∃ chosen, resolveBundleWithEngine snapshot name none none = .ok chosen) ∧
        resolveBundleWithEngine snapshot name (some id) none = .ok id
  missing : (∀ (id : String) (bundle : BundleInfo), snapshot.bundles[id]? = some bundle →
      ¬ GatewayServes bundle config.profiles profile) →
    ∀ bundleOverride engineFilter,
      resolveBundleWithEngine snapshot name bundleOverride engineFilter =
        .error (.modelNotFound name)

omit [Letters] in
/-- A profile that is not there has no adapter. -/
theorem mem_of_gatewayServes
    (hserves : GatewayServes bundle profiles profile) : profile ∈ profiles := by
  by_contra hmissing
  obtain ⟨adapter, -, hadapter⟩ := hserves
  rw [effectiveAdapterPathFromProfiles, lineage_missing hmissing] at hadapter
  cases hadapter

theorem gatewayResolves_owned (hnamed : WellNamed bundles) (hunambiguous : Unambiguous configs)
    {id : String} (hconfig : configs[id]? = some config)
    (howned : (name, profile) ∈ ownedNames config) :
    GatewayResolves (installed bundles (exported configs)) config name profile := by
  have hentry := @gateway_entryFor_owned _ bundles configs config profile name hunambiguous id
    hconfig howned
  have hbundles : ∀ chosen : String, chosen ∈ ((BundleResolution.entryFor
      (installed bundles (exported configs)) name).map ModelEntry.bundles).getD [] ↔
        ∃ bundle, bundles[chosen]? = some bundle ∧
          GatewayServes bundle config.profiles profile := by
    intro chosen
    rw [hentry]
    split_ifs with hprofile
    · rw [map_some, getD_some, mem_assignBundles hnamed, profileEntry_adapterModules hprofile]
      simp only [mem_toList, GatewayServes]
    · simp only [map_none, getD_none, not_mem_nil, false_iff]
      rintro ⟨bundle, -, hserves⟩
      exact hprofile (mem_of_gatewayServes hserves)
  refine ⟨?_, ?_, ?_, ?_⟩
  · intro entry hfound
    rw [hentry] at hfound
    split_ifs at hfound with hprofile
    cases hfound
    refine ⟨name_of_owned howned, ?_, ?_⟩
    · simp only [assignBundles, profileEntry]
      split_ifs
      · rfl
      · rfl
    · simp only [assignBundles, profileEntry]
      split_ifs with hdefault
      · exact hdefault.symm
      · rfl
  · intro bundleOverride engineFilter chosen hchosen
    exact (hbundles chosen).1 (BundleResolution.mem_of_resolveBundleWithEngine hchosen)
  · intro other bundle hbundle hserves
    have hmem := (hbundles other).2 ⟨bundle, hbundle, hserves⟩
    exact ⟨BundleResolution.resolveBundleWithEngine_found (ne_nil_of_mem hmem),
      BundleResolution.resolveBundleWithEngine_override hmem⟩
  · intro hnone bundleOverride engineFilter
    apply BundleResolution.resolveBundleWithEngine_missing
    rw [eq_nil_iff_forall_not_mem]
    intro chosen hchosen
    obtain ⟨bundle, hbundle, hserves⟩ := (hbundles chosen).1 hchosen
    exact hnone chosen bundle hbundle hserves

end Gateway

end Registries

attribute [local instance] ascii

def emptySnapshot (bundles : Table BundleInfo) : Snapshot :=
  ⟨bundles, ∅, ∅⟩

def addProfileOnly : List Action := [.write (.add (modelWith "m" "p" "mx:A"))]

def addTwins : List Action :=
  [.write (.add (modelWith "Foo" "default" "mx:A")),
    .write (.add (modelWith "foo" "default" "my:B"))]

theorem profileOnly_notFound :
    ∃ live, run act (loadAll twoBundles []) addProfileOnly = some live ∧ "m" ∈ live.models ∧
      resolveBundle live "m" none = .error (.modelNotFound "m") ∧
      resolveBundleWithEngine (installed twoBundles (exportConfigs live.toRegistry)) "m" none
        none = .error (.modelNotFound "m") := by
  refine ⟨_, (some_get ?_).symm, ?_, ?_, BundleResolution.resolveBundleWithEngine_missing ?_ _ _⟩
  all_goals decide +kernel

def twins : LiveRegistry :=
  store (store (loadAll twoBundles []) "Foo" (modelWith "Foo" "default" "mx:A")) "foo"
    (modelWith "foo" "default" "my:B")

theorem twin_misresolved :
    ∃ live, run act (loadAll twoBundles []) addTwins = some live ∧ "Foo" ∈ live.models ∧
      entryFor live "Foo" = some ⟨"foo", ["y"]⟩ ∧
      canonicalModelName (installed twoBundles (exportConfigs live.toRegistry)) "Foo" =
        some "foo" := by
  have hupper : lowercase "Foo" = "foo" := by decide +kernel
  have hplain : lowercase "foo" = "foo" := by decide +kernel
  refine ⟨twins, by with_unfolding_all rfl, by decide +kernel, ?_, ?_⟩
  · have hlower : twins.modelNamesLower[lowercase "Foo"]? = some "foo" :=
      store_lower_new _ (by decide +kernel) (hplain.trans hupper.symm)
    rw [entryFor_of_lower hlower]
    decide +kernel
  · have hexported : exportConfigs twins.toRegistry =
        [modelWith "Foo" "default" "mx:A", modelWith "foo" "default" "my:B"] := by
      decide +kernel
    have hfiled : filedEntries twoBundles
        [modelWith "Foo" "default" "mx:A", modelWith "foo" "default" "my:B"] =
          [assignBundles twoBundles (baseEntry (modelWith "Foo" "default" "mx:A"))] ++
            [assignBundles twoBundles (baseEntry (modelWith "foo" "default" "my:B"))] := by
      with_unfolding_all rfl
    rw [hexported, BundleResolution.canonicalModelName_last hfiled (hplain.trans hupper.symm)]
    rfl

end SieCluster.NameResolution
