import SieCluster.Server.WorkerEntries

/-!
# What a worker lists of each model

The worker goes through its entries and collects the profiles of each base model
whose adapter is in its bundle.  What it collects is, of each model, the profiles it
kept, with the fields it resolved for them.
-/

namespace SieCluster.WorkerListings

open Tables List
open Profiles
open ConfigRegistry (HashConfig)
open RegistryRoutes (Filed)
open HashItems (nearestPath)
open WorkerConfigs
open WorkerProfiles
open WorkerEntries
open Fallible

variable [Letters]

/-- The profile's adapter module is in the bundle, and is not blank. -/
def InBundle (adapters : List String) (profiles : Table ProfileConfig) (name : String) : Prop :=
  ∃ path, nearestPath profiles name = some path ∧ moduleOf path ≠ "" ∧ moduleOf path ∈ adapters

variable {raw : ModelConfig}

section Contributions

variable (bundle : BundleInfo)

omit [Letters] in
theorem moduleOf_empty : moduleOf "" = "" := rfl

omit [Letters] in
theorem profileMatchesBundle_eq_ok (hresolve : resolveProfile profiles name = .ok resolved)
    (hpath : nearestPath raw.profiles shownName = some resolved.adapterPath) :
    ∃ found, profileMatchesBundle (bundleAdapterModules bundle) profiles name = .ok found ∧
      (found = true ↔ InBundle bundle.adapters raw.profiles shownName) := by
  unfold profileMatchesBundle
  rw [hresolve]
  refine ⟨_, rfl, ?_⟩
  unfold adapterModule InBundle bundleAdapterModules
  rw [hpath]
  by_cases hempty : resolved.adapterPath = ""
  · simp [hempty, moduleOf_empty]
  · simp [hempty, and_comm]

/-- The profiles of an entry, each with the profile of the model it stands for. -/
structure Stands (raw : ModelConfig) (config : Config) (original : String → String) : Prop where
  names : profileNameMap config = config.profiles.keys.map fun name => (name, original name)
  base : (config.syntheticProfileVariantSource.map Prod.fst).getD config.sieId = raw.name
  revision : config.hfRevision = raw.hfRevision
  resolves : ∀ name ∈ config.profiles, ∃ resolved,
    resolveProfile config.profiles name = .ok resolved ∧
      profileConfigForHash config.profiles name = .ok (hashOf resolved) ∧
      ResolvesTo raw.profiles (original name) resolved

/-- The contribution is about the model and lists just these profiles of it. -/
structure Lists (raw : ModelConfig) (shows : String → Prop) (added : Option Contribution) :
    Prop where
  about : ∀ made, added = some made → made.base = raw.name ∧ made.revision = raw.hfRevision
  profiles : ∀ (name : String) (shown : HashConfig),
    (∃ made, added = some made ∧ (name, shown) ∈ made.profiles) ↔
      shows name ∧ shown = workerHashConfig raw.profiles name

section

variable (hstands : Stands raw config original)
include hstands

omit [Letters] in
theorem listProfile_eq_ok (hname : name ∈ config.profiles) :
    ∃ listed, listProfile (bundleAdapterModules bundle) config (name, original name) = .ok listed ∧
      ∀ (shownName : String) (shown : HashConfig), listed = some (shownName, shown) ↔
        original name = shownName ∧ InBundle bundle.adapters raw.profiles shownName ∧
          shown = workerHashConfig raw.profiles shownName := by
  obtain ⟨resolved, hresolve, hhash, hresolved⟩ := hstands.resolves name hname
  obtain ⟨found, hfound, hbundle⟩ :=
    profileMatchesBundle_eq_ok bundle hresolve hresolved.path
  unfold listProfile
  rw [hfound]
  cases found with
  | false =>
    refine ⟨none, rfl, fun shownName shown => ⟨nofun, ?_⟩⟩
    rintro ⟨rfl, hin, -⟩
    exact absurd (hbundle.2 hin) (by decide)
  | true =>
    refine ⟨some (original name, hashOf resolved), ?_, fun shownName shown => ⟨?_, ?_⟩⟩
    · rw [bind_eq_ok]
      refine ⟨true, rfl, ?_⟩
      rw [if_pos rfl, bind_eq_ok]
      exact ⟨hashOf resolved, hhash, rfl⟩
    · intro hsame
      cases hsame
      exact ⟨rfl, hbundle.1 rfl, hresolved.worker.symm⟩
    · rintro ⟨rfl, -, rfl⟩
      rw [hresolved.worker]

omit [Letters] in
theorem modelHasBundleAdapter_eq_ok :
    ∃ routed, modelHasBundleAdapter (bundleAdapterModules bundle) config = .ok routed ∧
      (routed = true ↔ ∃ name ∈ config.profiles,
        InBundle bundle.adapters raw.profiles (original name)) := by
  have hstep : ∀ name ∈ config.profiles.keys, ∃ found,
      profileMatchesBundle (bundleAdapterModules bundle) config.profiles name = .ok found ∧
        (found = true ↔ InBundle bundle.adapters raw.profiles (original name)) := by
    intro name hname
    obtain ⟨resolved, hresolve, -, hresolved⟩ :=
      hstands.resolves name (Std.ExtTreeMap.mem_keys.1 hname)
    exact profileMatchesBundle_eq_ok bundle hresolve hresolved.path
  obtain ⟨found, hfound⟩ := mapM_isOk fun name hname =>
    (hstep name hname).imp fun _ hresult => hresult.1
  unfold modelHasBundleAdapter
  rw [hfound]
  refine ⟨_, rfl, ?_⟩
  rw [any_eq_true]
  constructor
  · rintro ⟨answer, hanswer, htrue⟩
    obtain ⟨name, hname, hresult⟩ := (mem_of_mapM_eq_ok hfound).1 hanswer
    obtain ⟨answer', hresult', hbundle⟩ := hstep name hname
    rw [hresult] at hresult'
    cases hresult'
    exact ⟨name, Std.ExtTreeMap.mem_keys.1 hname, hbundle.1 htrue⟩
  · rintro ⟨name, hname, hin⟩
    obtain ⟨answer, hresult, hbundle⟩ := hstep name (Std.ExtTreeMap.mem_keys.2 hname)
    exact ⟨answer, (mem_of_mapM_eq_ok hfound).2 ⟨name, Std.ExtTreeMap.mem_keys.2 hname, hresult⟩,
      hbundle.2 hin⟩

omit [Letters] in
theorem contribution_lists (hown : isSyntheticProfileVariant config configs = false) :
    ∃ added, contribution configs (bundleAdapterModules bundle) config = .ok added ∧
      Lists raw (fun shownName => ∃ name ∈ config.profiles, original name = shownName ∧
        InBundle bundle.adapters raw.profiles shownName) added := by
  obtain ⟨routed, hrouted, hbundle⟩ := modelHasBundleAdapter_eq_ok bundle hstands
  unfold contribution
  rw [if_neg (by rw [hown]; decide), hrouted]
  cases routed with
  | false =>
    refine ⟨none, rfl, ⟨nofun, fun shownName shown => ⟨nofun, ?_⟩⟩⟩
    rintro ⟨⟨name, hname, rfl, hin⟩, -⟩
    exact absurd (hbundle.2 ⟨name, hname, hin⟩) (by decide)
  | true =>
    have hstep : ∀ names ∈ profileNameMap config, ∃ listed,
        listProfile (bundleAdapterModules bundle) config names = .ok listed := by
      intro names hnames
      rw [hstands.names] at hnames
      obtain ⟨name, hname, rfl⟩ := mem_map.1 hnames
      exact (listProfile_eq_ok bundle hstands (Std.ExtTreeMap.mem_keys.1 hname)).imp
        fun _ hresult => hresult.1
    obtain ⟨listed, hlisted⟩ := mapM_isOk hstep
    refine ⟨some ⟨raw.name, raw.hfRevision, listed.reduceOption⟩, ?_, ⟨?_, ?_⟩⟩
    · rw [bind_eq_ok, ← hstands.base, ← hstands.revision]
      refine ⟨true, rfl, ?_⟩
      rw [if_pos rfl, bind_eq_ok]
      exact ⟨listed, hlisted, rfl⟩
    · intro made hmade
      cases hmade
      exact ⟨rfl, rfl⟩
    · intro shownName shown
      simp only [Option.some.injEq, exists_eq_left', reduceOption_mem_iff,
        mem_of_mapM_eq_ok hlisted, hstands.names, mem_map, exists_exists_and_eq_and,
        Std.ExtTreeMap.mem_keys]
      constructor
      · rintro ⟨name, hname, hresult⟩
        obtain ⟨answer, hanswer, hmeaning⟩ := listProfile_eq_ok bundle hstands hname
        rw [hresult] at hanswer
        cases hanswer
        obtain ⟨horiginal, hin, hshown⟩ := (hmeaning shownName shown).1 rfl
        exact ⟨⟨name, hname, horiginal, hin⟩, hshown⟩
      · rintro ⟨⟨name, hname, horiginal, hin⟩, hshown⟩
        obtain ⟨answer, hanswer, hmeaning⟩ := listProfile_eq_ok bundle hstands hname
        rw [(hmeaning shownName shown).2 ⟨horiginal, hin, hshown⟩] at hanswer
        exact ⟨name, hname, hanswer⟩

end

theorem stands_base (hentry : BaseEntry raw config)
    (hresolves : ∀ name ∈ raw.profiles, ∃ resolved, ResolvesTo raw.profiles name resolved) :
    Stands raw config id where
  names := by
    unfold profileNameMap
    rw [hentry.source]
    rfl
  base := by
    rw [hentry.source]
    exact hentry.id
  revision := hentry.revision
  resolves := by
    intro name hname
    rw [hentry.profiles] at hname ⊢
    obtain ⟨resolved, hresolved⟩ := hresolves name (mem_readProfiles.1 hname)
    exact ⟨resolved, hresolved.resolve, hresolved.hash, hresolved⟩

theorem stands_variant (hentry : VariantEntry raw shownName config) :
    Stands raw config fun _ => shownName where
  names := by
    obtain ⟨resolved, -, hprofiles⟩ := hentry.profiles
    unfold profileNameMap
    rw [hentry.source, hprofiles]
    rfl
  base := by
    rw [hentry.source]
    rfl
  revision := hentry.revision
  resolves := by
    obtain ⟨resolved, hresolved, hprofiles⟩ := hentry.profiles
    intro name hname
    rw [hprofiles] at hname ⊢
    have hdefault : "default" = name := by simpa using hname
    subst hdefault
    refine ⟨resolved, resolveProfile_toProfile resolved, ?_, hresolved⟩
    unfold profileConfigForHash resolvedProfileForHash
    rw [get_insert, if_pos rfl]
    exact congrArg Except.ok (overlay_toProfile resolved)

end Contributions

section Listings

/-- The listings hold what the contributions so far say. -/
structure Records (added : List Contribution) (listings : Table Listing) : Prop where
  found : ∀ made ∈ added, made.base ∈ listings
  revision : ∀ (id : String) (listing : Listing), listings[id]? = some listing →
    ∃ made ∈ added, made.base = id ∧ listing.revision = made.revision
  profiles : ∀ (id : String) (listing : Listing), listings[id]? = some listing →
    ∀ (name : String) (shown : HashConfig), listing.profiles[name]? = some shown ↔
      ∃ made ∈ added, made.base = id ∧ (name, shown) ∈ made.profiles

/-- No two contributions show one profile of a model differently. -/
def Coherent (added : List Contribution) : Prop :=
  ∀ first ∈ added, ∀ second ∈ added, first.base = second.base →
    ∀ (name : String) (shown other : HashConfig),
      (name, shown) ∈ first.profiles → (name, other) ∈ second.profiles → shown = other

omit [Letters] in
theorem records_step (hcoherent : Coherent (added ++ [made])) (hrecords : Records added listings) :
    Records (added ++ [made]) (record listings made) := by
  have hmade : made ∈ added ++ [made] := mem_append_right _ mem_cons_self
  have hold : ∀ {other}, other ∈ added → other ∈ added ++ [made] := mem_append_left _
  have hget : ∀ (id : String) (listing : Listing), (record listings made)[id]? = some listing →
      (id = made.base ∧ listing = { (listings[made.base]?).getD ⟨made.revision, ∅⟩ with
        profiles := insertAll ((listings[made.base]?).getD ⟨made.revision, ∅⟩).profiles
          made.profiles }) ∨ id ≠ made.base ∧ listings[id]? = some listing := by
    intro id listing hlisting
    unfold record at hlisting
    rw [get_insert] at hlisting
    split_ifs at hlisting with hid
    · cases hlisting
      exact .inl ⟨hid.symm, rfl⟩
    · exact .inr ⟨fun hsame => hid hsame.symm, hlisting⟩
  refine ⟨?_, ?_, ?_⟩
  · intro other hother
    unfold record
    rw [Std.ExtTreeMap.mem_insert]
    rcases mem_append.1 hother with hother | hother
    · exact .inr (hrecords.found other hother)
    · rw [mem_singleton.1 hother]
      exact .inl (by simp)
  · intro id listing hlisting
    rcases hget id listing hlisting with ⟨rfl, rfl⟩ | ⟨-, hlisting⟩
    · cases hbefore : listings[made.base]? with
      | none => exact ⟨made, hmade, rfl, rfl⟩
      | some before =>
        obtain ⟨other, hother, hbase, hrevision⟩ := hrecords.revision _ before hbefore
        exact ⟨other, hold hother, hbase, hrevision⟩
    · obtain ⟨other, hother, hbase, hrevision⟩ := hrecords.revision id listing hlisting
      exact ⟨other, hold hother, hbase, hrevision⟩
  · intro id listing hlisting name shown
    rcases hget id listing hlisting with ⟨rfl, rfl⟩ | ⟨hid, hlisting⟩
    · -- what was listed of the model before this contribution
      have hbefore : ((listings[made.base]?).getD ⟨made.revision, ∅⟩).profiles[name]? =
          some shown ↔
            ∃ other ∈ added, other.base = made.base ∧ (name, shown) ∈ other.profiles := by
        cases hbefore : listings[made.base]? with
        | none =>
          refine ⟨fun hnone => by simp at hnone, ?_⟩
          rintro ⟨other, hother, hbase, -⟩
          have hfound := hrecords.found other hother
          rw [hbase, Std.ExtTreeMap.mem_iff_isSome_getElem?, hbefore] at hfound
          cases hfound
        | some before => exact hrecords.profiles _ before hbefore name shown
      dsimp only
      rw [insertAll_eq_some_iff, hbefore]
      · constructor
        · rintro (hlisted | ⟨-, other, hother, hbase, hlisted⟩)
          · exact ⟨made, hmade, rfl, hlisted⟩
          · exact ⟨other, hold hother, hbase, hlisted⟩
        · rintro ⟨other, hother, hbase, hlisted⟩
          by_cases hnamed : ∀ entry ∈ made.profiles, entry.1 ≠ name
          · rcases mem_append.1 hother with hother | hother
            · exact .inr ⟨hnamed, other, hother, hbase, hlisted⟩
            · rw [mem_singleton.1 hother] at hlisted
              exact .inl hlisted
          · push Not at hnamed
            obtain ⟨⟨entryName, value⟩, hentry, hname⟩ := hnamed
            cases (hname : entryName = name)
            rw [hcoherent other hother made hmade hbase entryName shown value hlisted hentry]
            exact .inl hentry
      · rintro ⟨first, value⟩ hfirst ⟨second, value'⟩ hsecond hname
        cases (hname : first = second)
        exact hcoherent made hmade made hmade rfl first value value' hfirst hsecond
    · rw [hrecords.profiles id listing hlisting]
      constructor
      · rintro ⟨other, hother, hbase, hlisted⟩
        exact ⟨other, hold hother, hbase, hlisted⟩
      · rintro ⟨other, hother, hbase, hlisted⟩
        rcases mem_append.1 hother with hother | hother
        · exact ⟨other, hother, hbase, hlisted⟩
        · rw [mem_singleton.1 hother] at hbase
          exact absurd hbase.symm hid

omit [Letters] in
theorem records_run (hcoherent : Coherent added) : Records added (added.foldl record ∅) := by
  induction added using List.reverseRecOn with
  | nil =>
    refine ⟨nofun, ?_, ?_⟩
    all_goals
      intro id listing hlisting
      simp at hlisting
  | append_singleton _ _ ih =>
    rw [foldl_append, foldl_cons, foldl_nil]
    refine records_step hcoherent (ih ?_)
    intro first hfirst second hsecond
    exact hcoherent first (mem_append_left _ hfirst) second (mem_append_left _ hsecond)

end Listings

variable {id : String}

section Hashing

variable
  (bundle : BundleInfo)

section

variable (models : Table ModelConfig) (scope : Option String)

/-- The worker keeps the profile, in the model's own entry or in one of its own. -/
def Keeps (raw : ModelConfig) (name : String) : Prop :=
  KeepsBase scope raw ∨ KeepsVariant models scope raw name

variable (adapters : List String)

/-- The profile belongs to the bundle and the worker keeps it. -/
structure Shows (raw : ModelConfig) (name : String) : Prop where
  mem : name ∈ raw.profiles
  inBundle : InBundle adapters raw.profiles name
  keeps : Keeps models scope raw name

/-- The listings hold, of each model, the profiles the worker shows. -/
structure Listed (listings : Table Listing) : Prop where
  listing : ∀ (id : String) (listing : Listing), listings[id]? = some listing →
    ∃ raw, models[id]? = some raw ∧ listing.revision = raw.hfRevision ∧
      ∀ (name : String) (shown : HashConfig), listing.profiles[name]? = some shown ↔
        Shows models scope adapters raw name ∧ shown = workerHashConfig raw.profiles name
  found : ∀ (id : String) (raw : ModelConfig) (name : String), models[id]? = some raw →
    Shows models scope adapters raw name → id ∈ listings

/-- What an entry adds: profiles of one model that the worker shows, as it hashes
them. -/
def Meant (made : Contribution) : Prop :=
  ∃ raw, models[made.base]? = some raw ∧ made.revision = raw.hfRevision ∧
    ∀ (name : String) (shown : HashConfig), (name, shown) ∈ made.profiles →
      Shows models scope adapters raw name ∧ shown = workerHashConfig raw.profiles name

end

variable (hfiled : Filed models) (hloads : Loads models scope loaded)

include hfiled hloads

omit hloads in
theorem Lists.meant (hlists : Lists raw shows added) (hraw : models[id]? = some raw)
    (hshows : ∀ name, shows name → Shows models scope adapters raw name) :
    ∀ made, added = some made → Meant models scope adapters made := by
  intro made hmade
  obtain ⟨hbase, hrevision⟩ := hlists.about made hmade
  rw [hfiled.name id raw hraw] at hbase
  refine ⟨raw, by rw [hbase]; exact hraw, hrevision, fun name shown hlisted => ?_⟩
  obtain ⟨hlisted, hshown⟩ := (hlists.profiles name shown).1 ⟨made, hmade, hlisted⟩
  exact ⟨hshows name hlisted, hshown⟩

section

variable (hraw : models[id]? = some raw)
include hraw

theorem loads_resolves (hname : name ∈ raw.profiles) :
    ∃ resolved, ResolvesTo raw.profiles name resolved :=
  resolvesTo_of_loadable (hloads.loadable id raw hraw) (empty_not_mem hfiled hraw) hname

/-- A variant is passed over exactly when the model's own entry is there. -/
theorem isSynthetic_variant
    (hkeeps : KeepsVariant models scope raw name) (hentry : VariantEntry raw name config) :
    isSyntheticProfileVariant config loaded = true ↔ KeepsBase scope raw := by
  have hid := hfiled.name id raw hraw
  have hnonempty := (hfiled.plain id raw hraw name hkeeps.mem hkeeps.named).2
  unfold isSyntheticProfileVariant
  rw [hentry.source, hentry.id]
  simp only [Option.any_some, hnonempty, ne_eq, not_false_eq_true, decide_true, Bool.and_true,
    decide_eq_true_eq]
  constructor
  · intro hmem
    obtain ⟨base, hbase⟩ := Tables.exists_of_mem hmem
    rcases hloads.entry raw.name base hbase with ⟨found, hfound, hkept, -⟩ |
      ⟨other, found, otherName, hfound, hkey, hkept, -⟩
    · rw [hid, hraw] at hfound
      cases hfound
      exact hkept
    · refine absurd ?_ hkept.free
      rw [← hkey, hid]
      exact mem_of_get hraw
  · intro hkept
    obtain ⟨base, hbase, -⟩ := hloads.base id raw hraw hkept
    rw [hid]
    exact mem_of_get hbase

/-- The model's own entry lists its profiles in the bundle. -/
theorem base_lists (hentry : BaseEntry raw config) :
    ∃ added, contribution loaded (bundleAdapterModules bundle) config = .ok added ∧
      Lists raw (fun shownName => ∃ name ∈ config.profiles, name = shownName ∧
        InBundle bundle.adapters raw.profiles shownName) added := by
  have hstands := stands_base hentry fun _ hname => loads_resolves hfiled hloads hraw hname
  refine contribution_lists bundle hstands ?_
  unfold isSyntheticProfileVariant
  rw [hentry.source]
  rfl

end

theorem contribution_of_entry {key : String} {config : Config}
    (hconfig : loaded[key]? = some config) :
    ∃ added, contribution loaded (bundleAdapterModules bundle) config = .ok added ∧
      ∀ made, added = some made → Meant models scope bundle.adapters made := by
  rcases hloads.entry key config hconfig with ⟨raw, hraw, hkept, hentry⟩ |
    ⟨id, raw, name, hraw, -, hkept, hentry⟩
  · obtain ⟨added, hadded, hlists⟩ := base_lists bundle hfiled hloads hraw hentry
    refine ⟨added, hadded, hlists.meant hfiled hraw ?_⟩
    rintro name ⟨entryName, hmem, rfl, hin⟩
    rw [hentry.profiles, mem_readProfiles] at hmem
    exact ⟨hmem, hin, .inl hkept⟩
  · by_cases hskip : isSyntheticProfileVariant config loaded = true
    · exact ⟨none, if_pos hskip, nofun⟩
    · obtain ⟨added, hadded, hlists⟩ := contribution_lists bundle (stands_variant hentry)
        (Bool.eq_false_iff.2 hskip)
      refine ⟨added, hadded, hlists.meant hfiled hraw ?_⟩
      rintro shownName ⟨entryName, -, rfl, hin⟩
      exact ⟨hkept.mem, hin, .inr hkept⟩

/-- Every profile the worker shows is added by some entry. -/
theorem contribution_of_shows (hraw : models[id]? = some raw)
    (hshows : Shows models scope bundle.adapters raw name) :
    ∃ (key : String) (config : Config) (made : Contribution), loaded[key]? = some config ∧
      contribution loaded (bundleAdapterModules bundle) config = .ok (some made) ∧
      made.base = id ∧ (name, workerHashConfig raw.profiles name) ∈ made.profiles := by
  have hid := hfiled.name id raw hraw
  by_cases hbase : KeepsBase scope raw
  · obtain ⟨config, hconfig, hentry⟩ := hloads.base id raw hraw hbase
    obtain ⟨added, hadded, hlists⟩ := base_lists bundle hfiled hloads hraw hentry
    have hmem : name ∈ config.profiles := by
      rw [hentry.profiles, mem_readProfiles]
      exact hshows.mem
    obtain ⟨made, rfl, hlisted⟩ := (hlists.profiles name _).2
      ⟨⟨name, hmem, rfl, hshows.inBundle⟩, rfl⟩
    exact ⟨id, config, made, hconfig, hadded, (hlists.about made rfl).1.trans hid, hlisted⟩
  · have hkept := hshows.keeps.resolve_left hbase
    obtain ⟨config, hconfig, hentry⟩ := hloads.variant id raw name hraw hkept
    have hown : isSyntheticProfileVariant config loaded = false := by
      rw [Bool.eq_false_iff]
      exact mt (isSynthetic_variant hfiled hloads hraw hkept hentry).1 hbase
    obtain ⟨added, hadded, hlists⟩ := contribution_lists bundle (stands_variant hentry) hown
    have hmem : "default" ∈ config.profiles := by
      obtain ⟨resolved, -, hprofiles⟩ := hentry.profiles
      rw [hprofiles]
      simp
    obtain ⟨made, rfl, hlisted⟩ := (hlists.profiles name _).2
      ⟨⟨"default", hmem, rfl, hshows.inBundle⟩, rfl⟩
    exact ⟨_, config, made, hconfig, hadded, (hlists.about made rfl).1.trans hid, hlisted⟩

/-- The worker's pre-image is made of listings that hold, of each model, the profiles it
shows. -/
theorem computeBundleConfigHash_eq_ok : ∃ listings : Table Listing,
      computeBundleConfigHash loaded bundle =
        .ok (listings.toList.filterMap fun entry => hashItem entry.1 entry.2) ∧
      Listed models scope bundle.adapters listings := by
  have hstep : ∀ entry ∈ loaded.toList, ∃ made,
      contribution loaded (bundleAdapterModules bundle) entry.2 = .ok made := by
    rintro ⟨key, config⟩ hentry
    obtain ⟨made, hmade, -⟩ := contribution_of_entry bundle hfiled hloads
      (Std.ExtTreeMap.mem_toList_iff_getElem?_eq_some.1 hentry)
    exact ⟨made, hmade⟩
  obtain ⟨added, hadded⟩ := mapM_isOk hstep
  have hmeaning : ∀ made ∈ added.reduceOption, Meant models scope bundle.adapters made := by
    intro made hmade
    obtain ⟨⟨key, config⟩, hentry, hresult⟩ :=
      (mem_of_mapM_eq_ok hadded).1 (reduceOption_mem_iff.1 hmade)
    obtain ⟨found, hfound, hstated⟩ := contribution_of_entry bundle hfiled hloads
      (Std.ExtTreeMap.mem_toList_iff_getElem?_eq_some.1 hentry)
    rw [hresult] at hfound
    cases hfound
    exact hstated made rfl
  have hshown : ∀ (id : String) (raw : ModelConfig) (name : String), models[id]? = some raw →
      Shows models scope bundle.adapters raw name →
      ∃ made ∈ added.reduceOption, made.base = id ∧
        (name, workerHashConfig raw.profiles name) ∈ made.profiles := by
    intro id raw name hraw hshows
    obtain ⟨key, config, made, hconfig, hresult, hbase, hlisted⟩ :=
      contribution_of_shows bundle hfiled hloads hraw hshows
    exact ⟨made, reduceOption_mem_iff.2 ((mem_of_mapM_eq_ok hadded).2 ⟨(key, config),
      Std.ExtTreeMap.mem_toList_iff_getElem?_eq_some.2 hconfig, hresult⟩), hbase, hlisted⟩
  have hcoherent : Coherent added.reduceOption := by
    intro first hfirst second hsecond hbase name shown other hlisted hlisted'
    obtain ⟨raw, hraw, -, hstated⟩ := hmeaning first hfirst
    obtain ⟨raw', hraw', -, hstated'⟩ := hmeaning second hsecond
    rw [hbase, hraw'] at hraw
    cases hraw
    rw [(hstated name shown hlisted).2, (hstated' name other hlisted').2]
  have hrecords := records_run hcoherent
  refine ⟨added.reduceOption.foldl record ∅, ?_, ⟨?_, ?_⟩⟩
  · unfold computeBundleConfigHash
    rw [hadded]
    rfl
  · intro id listing hlisting
    obtain ⟨made, hmade, rfl, hrevision⟩ := hrecords.revision id listing hlisting
    obtain ⟨raw, hraw, hrevision', -⟩ := hmeaning made hmade
    refine ⟨raw, hraw, hrevision.trans hrevision', fun name shown => ?_⟩
    rw [hrecords.profiles made.base listing hlisting]
    constructor
    · rintro ⟨other, hother, hbase, hlisted⟩
      obtain ⟨found, hfound, -, hstated⟩ := hmeaning other hother
      rw [hbase, hraw] at hfound
      cases hfound
      exact hstated name shown hlisted
    · rintro ⟨hshows, rfl⟩
      exact hshown made.base raw name hraw hshows
  · intro id raw name hraw hshows
    obtain ⟨made, hmade, rfl, -⟩ := hshown id raw name hraw hshows
    exact hrecords.found made hmade

end Hashing

end SieCluster.WorkerListings
