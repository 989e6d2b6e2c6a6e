import SieCluster.Server.WorkerListings

/-!
# Worker and control plane hash the same configs

The control plane hashes configs as they were written; a worker hashes the entries
it kept of them.  The pre-images are equal when every profile of the bundle is one
that both sides show, with batch tokens that were written as an integer.
-/

namespace SieCluster.WorkerParity

open Tables Option Std.ExtTreeMap
open Profiles
open ModelRegistry (variantName)
open ConfigRegistry (HashConfig HashProfile HashItem Registry getModelProfileNames
  addModelConfig emptyRegistry exportConfigs)
open HashItems
open WorkerConfigs
open WorkerProfiles
open WorkerEntries
open WorkerListings
open Fallible

section Agreement

variable [Letters]

section Profiles

variable (registry : Registry)

/-- The control plane takes the model for a variant of another one. -/
def ReadAsVariant (id : String) : Prop :=
  lowercase id ∈ registry.profileVariantNamesLower ∨ id ∈ registry.profileVariantBaseModels

/-- A profile of the bundle whose tokens were written as an integer, which the control plane
names, and which the worker holds in the model's own entry or in one of its own. -/
structure Regular (raw : ModelConfig) (name : String) : Prop where
  tokens : ∃ count, (controlHashConfig raw.profiles name).maxBatchTokens = some (.integer count)
  named : ReadAsVariant registry raw.name → name = "default"
  held : "default" ∈ raw.profiles ∧ RunsInPython raw.profiles "default" ∨
    name ≠ "default" ∧ RunsInPython raw.profiles name ∧
      variantName raw.name name ∉ registry.models

/-- The pool's name is not blank, no profile of the pool has a blank adapter module, and
those of the bundle are regular. -/
structure Plain (bundle : BundleInfo) (pool : Option String) : Prop where
  named : ∀ name, pool = some name → name ≠ "" ∧ canonicalPool name ≠ ""
  modules : ∀ (id : String) (raw : ModelConfig), registry.models[id]? = some raw →
    InScope (scopedPool pool) raw → ∀ name ∈ raw.profiles, ∀ path,
      nearestPath raw.profiles name = some path → moduleOf path ≠ ""
  regular : ∀ (id : String) (raw : ModelConfig), registry.models[id]? = some raw →
    InScope (scopedPool pool) raw → ∀ name ∈ raw.profiles,
      InBundle bundle.adapters raw.profiles name → Regular registry raw name

/-- The control plane lists the model for the bundle and shows the profile. -/
def ControlShows (adapters : List String) (scope : Option String)
    (id : String) (raw : ModelConfig) (name : String) : Prop :=
  ControlLists registry adapters scope id raw ∧
    ControlListsProfile registry adapters id raw.profiles name

end Profiles

variable {registry : Registry} {bundle : BundleInfo} {id : String} {raw : ModelConfig}

theorem poolName_eq (hplain : Plain registry bundle pool) : poolName pool = scopedPool pool := by
  unfold poolName scopedPool
  cases pool with
  | none => rfl
  | some name =>
    obtain ⟨hnonempty, hnonblank⟩ := hplain.named name rfl
    simp [filter_some, hnonempty, hnonblank]

theorem mem_getModelProfileNames (hraw : registry.models[id]? = some raw)
    (hname : name ∈ raw.profiles) (hnamed : ReadAsVariant registry id → name = "default") :
    name ∈ getModelProfileNames registry id := by
  unfold getModelProfileNames
  split
  · rename_i hvariant
    exact List.mem_singleton.2 (hnamed hvariant)
  · rw [hraw]
    exact mem_keys.2 hname

omit [Letters] in
theorem effectivePath_of_nearest
    (hpath : nearestPath raw.profiles name = some path) (hnonempty : path ≠ "") :
    ConfigRegistry.effectivePath raw.profiles name = some path := by
  unfold ConfigRegistry.effectivePath effectiveAdapterPath
  unfold nearestPath at hpath
  generalize (lineage controlParent raw.profiles name).profiles = line at hpath
  induction line with
  | nil => cases hpath
  | cons profile _ ih =>
    rw [List.findSome?_cons] at hpath ⊢
    cases hadapter : profile.adapterPath with
    | none =>
      rw [hadapter] at hpath
      exact ih hpath
    | some =>
      rw [hadapter] at hpath
      cases hpath
      simp [filter_some, hnonempty]

section Shown

variable (hplain : Plain registry bundle pool) (hfiled : RegistryRoutes.Filed registry.models)
  (hraw : registry.models[id]? = some raw) (hname : name ∈ raw.profiles)

include hplain hraw hname

theorem shows_of_controlShows (hpath : nearestPath raw.profiles name = some path)
    (hshows : ControlShows registry bundle.adapters (scopedPool pool) id raw name) :
    Shows registry.models (scopedPool pool) bundle.adapters raw name := by
  have hscope := hshows.1.inScope
  have hmodule := hplain.modules id raw hraw hscope name hname path hpath
  have hin : InBundle bundle.adapters raw.profiles name := by
    refine ⟨path, hpath, hmodule, (hshows.2.2 path hpath).resolve_left ?_⟩
    rintro rfl
    exact hmodule moduleOf_empty
  refine ⟨hname, hin, ?_⟩
  rcases (hplain.regular id raw hraw hscope name hname hin).held with
    ⟨hdefault, hpython⟩ | ⟨hne, hpython, hfree⟩
  · exact .inl ⟨hdefault, hscope, hpython⟩
  · exact .inr ⟨hname, hne, hfree, hscope, hpython⟩

theorem regular_of_shows
    (hshows : Shows registry.models (scopedPool pool) bundle.adapters raw name) :
    InScope (scopedPool pool) raw ∧ Regular registry raw name := by
  have hscope : InScope (scopedPool pool) raw :=
    hshows.keeps.elim (fun hbase => hbase.accepted.1) fun hvariant => hvariant.accepted.1
  exact ⟨hscope, hplain.regular id raw hraw hscope name hname hshows.inBundle⟩

theorem hash_of_shows
    (hshows : Shows registry.models (scopedPool pool) bundle.adapters raw name) :
    workerHashConfig raw.profiles name = controlHashConfig raw.profiles name := by
  obtain ⟨count, hcount⟩ := (regular_of_shows hplain hraw hname hshows).2.tokens
  unfold workerHashConfig typed
  rw [hcount, bind_some, readTokens, map_some, ← hcount]

include hfiled

theorem controlShows_of_shows
    (hshows : Shows registry.models (scopedPool pool) bundle.adapters raw name) :
    ControlShows registry bundle.adapters (scopedPool pool) id raw name := by
  obtain ⟨hscope, hregular⟩ := regular_of_shows hplain hraw hname hshows
  obtain ⟨path, hpath, hmodule, hadapter⟩ := hshows.inBundle
  have hnonempty : path ≠ "" := by
    rintro rfl
    exact hmodule moduleOf_empty
  have hnamed : name ∈ getModelProfileNames registry id :=
    mem_getModelProfileNames hraw hname (hfiled.name id raw hraw ▸ hregular.named)
  have hprofile : ControlListsProfile registry bundle.adapters id raw.profiles name := by
    refine ⟨hnamed, fun found hfound => .inr ?_⟩
    rw [hpath] at hfound
    cases hfound
    exact hadapter
  refine ⟨⟨hscope, ⟨name, hname, moduleOf path, hadapter, ?_⟩, ⟨name, hname, hprofile⟩⟩, hprofile⟩
  rw [effectivePath_of_nearest hpath hnonempty]
  simp [ConfigRegistry.adapterModuleFromPath, filter_some, hnonempty, hmodule]

end Shown

section Parity

variable (scope : Option String) {listings : Table Listing}

omit [Letters] in
theorem workerItem_eq_some_iff {id : String} {item : HashItem} :
    (listings[id]?).bind (hashItem id) = some item ↔ ∃ listing, listings[id]? = some listing ∧
        (∃ (name : String) (shown : HashConfig), listing.profiles[name]? = some shown) ∧
        item = ⟨id, listing.revision,
          listing.profiles.toList.map fun entry => ⟨entry.1, entry.2⟩⟩ := by
  have hempty : ∀ listing : Listing, (listing.profiles.toList.map fun entry =>
      (⟨entry.1, entry.2⟩ : HashProfile)) = [] ↔
        ¬ ∃ (name : String) (shown : HashConfig), listing.profiles[name]? = some shown := by
    intro listing
    rw [List.map_eq_nil_iff, List.eq_nil_iff_forall_not_mem]
    simp only [Prod.forall, mem_toList_iff_getElem?_eq_some, not_exists]
  rw [bind_eq_some_iff]
  constructor
  · rintro ⟨listing, hlisting, hitem⟩
    unfold hashItem at hitem
    dsimp only at hitem
    split_ifs at hitem with hnone
    cases hitem
    exact ⟨listing, hlisting, not_not.1 (mt (hempty listing).2 hnone), rfl⟩
  · rintro ⟨listing, hlisting, hsome, rfl⟩
    exact ⟨listing, hlisting, if_neg fun hnone => (hempty listing).1 hnone hsome⟩

/-- Both sides show the same profiles of the model, with the same fields. -/
structure SameShown (registry : Registry) (adapters : List String) (scope : Option String)
    (id : String) (raw : ModelConfig) : Prop where
  shown : ∀ name ∈ raw.profiles, (ControlShows registry adapters scope id raw name ↔
    Shows registry.models scope adapters raw name)
  hash : ∀ name ∈ raw.profiles, Shows registry.models scope adapters raw name →
    workerHashConfig raw.profiles name = controlHashConfig raw.profiles name

variable (hsame : SameShown registry bundle.adapters scope id raw)

include hsame

/-- A listing shows what the control plane shows of a model it lists. -/
theorem listing_profiles_eq {listing : Listing}
    (hlists : ControlLists registry bundle.adapters scope id raw)
    (hmeaning : ∀ (name : String) (shown : HashConfig), listing.profiles[name]? = some shown ↔
      Shows registry.models scope bundle.adapters raw name ∧
        shown = workerHashConfig raw.profiles name) :
    (listing.profiles.toList.map fun entry => (⟨entry.1, entry.2⟩ : HashProfile)) =
      controlProfiles registry bundle.adapters id raw.profiles := by
  rw [← List.filterMap_eq_map]
  refine filterMap_toList_congr (fun name shown => some (⟨name, shown⟩ : HashProfile))
    (fun name _ => if ControlListsProfile registry bundle.adapters id raw.profiles name then
      some ⟨name, controlHashConfig raw.profiles name⟩ else none) fun name => ?_
  by_cases hname : name ∈ raw.profiles
  · obtain ⟨profile, hprofile⟩ := Tables.exists_of_mem hname
    rw [hprofile, bind_some]
    by_cases hcontrol : ControlListsProfile registry bundle.adapters id raw.profiles name
    · have hshows := (hsame.shown name hname).1 ⟨hlists, hcontrol⟩
      rw [(hmeaning name _).2 ⟨hshows, rfl⟩, if_pos hcontrol, hsame.hash name hname hshows]
      rfl
    · have hnone : listing.profiles[name]? = none := by
        rw [eq_none_iff_forall_ne_some]
        intro shown hshown
        exact hcontrol ((hsame.shown name hname).2 ((hmeaning name shown).1 hshown).1).2
      rw [hnone, if_neg hcontrol]
      rfl
  · have hnone : listing.profiles[name]? = none := by
      rw [eq_none_iff_forall_ne_some]
      intro shown hshown
      exact hname ((hmeaning name shown).1 hshown).1.mem
    rw [hnone, Std.ExtTreeMap.getElem?_eq_none hname]
    rfl

theorem items_eq (hraw : registry.models[id]? = some raw)
    (hresolves : ∀ name ∈ raw.profiles, Resolves raw.profiles name)
    (hlisted : Listed registry.models scope bundle.adapters listings) :
    (listings[id]?).bind (hashItem id) =
      ConfigRegistry.hashItem registry bundle.adapters scope id raw := by
  have hlisting : ∀ {listing}, listings[id]? = some listing → listing.revision = raw.hfRevision ∧
      ∀ (name : String) (shown : HashConfig), listing.profiles[name]? = some shown ↔
        Shows registry.models scope bundle.adapters raw name ∧
          shown = workerHashConfig raw.profiles name := by
    intro listing hget
    obtain ⟨found, hfound, hrevision, hmeaning⟩ := hlisted.listing id listing hget
    rw [hraw] at hfound
    cases hfound
    exact ⟨hrevision, hmeaning⟩
  apply Option.ext
  intro item
  rw [workerItem_eq_some_iff, control_hashItem_eq_some_iff hraw hresolves]
  constructor
  · rintro ⟨listing, hget, ⟨name, shown, hentry⟩, rfl⟩
    obtain ⟨hrevision, hmeaning⟩ := hlisting hget
    have hshows := ((hmeaning name shown).1 hentry).1
    have hlists := ((hsame.shown name hshows.mem).2 hshows).1
    rw [hrevision, listing_profiles_eq scope hsame hlists hmeaning]
    exact ⟨hlists, rfl⟩
  · rintro ⟨hlists, rfl⟩
    obtain ⟨name, hname, hprofile⟩ := hlists.shown
    have hshows := (hsame.shown name hname).1 ⟨hlists, hprofile⟩
    obtain ⟨listing, hget⟩ := Tables.exists_of_mem (hlisted.found id raw name hraw hshows)
    obtain ⟨hrevision, hmeaning⟩ := hlisting hget
    refine ⟨listing, hget, ⟨name, _, (hmeaning name _).2 ⟨hshows, rfl⟩⟩, ?_⟩
    rw [hrevision, listing_profiles_eq scope hsame hlists hmeaning]

end Parity

end Agreement

section Instances

attribute [local instance] ascii

variable (fastPath : Option String) (tokens : BatchTokens)

/-- A model with a profile that extends its default one. -/
def twoProfiles : ModelConfig where
  name := "bge"
  hfRevision := none
  pool := none
  profiles := ((∅ : Table ProfileConfig).insert "default"
    { emptyProfileConfig with
      adapterPath := some "flag:Adapter"
      maxBatchTokens := some tokens }).insert "fast"
    { emptyProfileConfig with
      adapterPath := fastPath
      extendsProfile := some "default" }
  inputs := none
  maxSequenceLength := none
  tasks := none

def writtenRegistry : Except ConfigRegistry.ConfigError Registry :=
  [twoProfiles fastPath tokens].foldlM addModelConfig (emptyRegistry oneBundle)

def torchBundle : BundleInfo := ⟨"torch", 10, ["flag"], "pytorch"⟩

def loadedConfigs (registry : Registry) : Except LoadError (Table Config) :=
  replaceConfigs (some "default") (exportConfigs registry)

theorem inherited_plain
    (hwritten : (writtenRegistry none (.integer 16)).toOption.isSome = true) :
    Plain ((writtenRegistry none (.integer 16)).toOption.get hwritten) torchBundle
      (some "default") := by
  have hmodels : ((writtenRegistry none (.integer 16)).toOption.get hwritten).models =
      (∅ : Table ModelConfig).insert "bge" (twoProfiles none (.integer 16)) := by
    decide +kernel +revert
  have hvariant :
      ¬ ReadAsVariant ((writtenRegistry none (.integer 16)).toOption.get hwritten) "bge" := by
    unfold ReadAsVariant
    decide +kernel +revert
  have hraw : ∀ (id : String) (raw : ModelConfig),
      ((writtenRegistry none (.integer 16)).toOption.get hwritten).models[id]? = some raw →
        raw = twoProfiles none (.integer 16) := by
    intro id raw hget
    rw [hmodels, get_insert] at hget
    split_ifs at hget
    · exact (some.inj hget).symm
    · simp at hget
  have hnames : ∀ name ∈ (twoProfiles none (.integer 16)).profiles,
      name = "default" ∨ name = "fast" := by
    intro name hname
    obtain ⟨profile, hprofile⟩ := Tables.exists_of_mem hname
    rw [twoProfiles, get_insert, get_insert] at hprofile
    split_ifs at hprofile with hfast hdefault
    · exact .inr hfast.symm
    · exact .inl hdefault.symm
    · simp at hprofile
  have hpaths : ∀ name ∈ (twoProfiles none (.integer 16)).profiles,
      nearestPath (twoProfiles none (.integer 16)).profiles name = some "flag:Adapter" := by
    intro name hname
    rcases hnames name hname with rfl | rfl <;> decide +kernel
  refine ⟨?_, fun id raw hget _ name hname path hpath => ?_, fun id raw hget _ name hname _ => ?_⟩
  · rintro name ⟨⟩
    decide
  · cases hraw id raw hget
    cases (hpaths name hname).symm.trans hpath
    decide
  · cases hraw id raw hget
    refine ⟨⟨16, ?_⟩, fun hread => absurd hread hvariant, .inl ⟨by decide +kernel, ?_⟩⟩
    · rcases hnames name hname with rfl | rfl <;> decide +kernel
    · intro path hpath
      cases (hpaths "default" (by decide +kernel)).symm.trans hpath
      decide +kernel

/-- The worker's pre-image of what the control plane accepted and exported is not that of the
control plane. -/
def HashedApart (written : Except ConfigRegistry.ConfigError Registry) : Prop :=
  ∃ registry loaded, written = .ok registry ∧ loadedConfigs registry = .ok loaded ∧
    oneBundle["torch"]? = some torchBundle ∧
    computeBundleConfigHash loaded torchBundle ≠
      .ok (ConfigRegistry.computeBundleConfigHash registry "torch" (some "default"))

end Instances

end SieCluster.WorkerParity
