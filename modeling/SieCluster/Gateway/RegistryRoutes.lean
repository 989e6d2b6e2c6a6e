import SieCluster.Gateway.ModelRegistry
import SieCluster.Core.Fallible

/-!
# The entries an install leaves

What each install function returns when it succeeds, and from that the table of
entries an authoritative install of an export leaves: under every key the entry
of one route, a model's own id before a variant of the same name.
-/

namespace SieCluster.RegistryRoutes

open List hiding ext_getElem
open Std.ExtTreeMap
open Tables
open AdapterOptions
open Profiles
open ModelRegistry
open Fallible

section Entries

def resolves (profiles : Table ProfileConfig) (name : String) : Prop :=
  (lineage gatewayParent profiles name).complete = true

def resolvedProfile (profiles : Table ProfileConfig) (name : String) : CanonicalProfile :=
  fromProfile (overlayLineage (lineage gatewayParent profiles name).profiles)

theorem resolvedProfileFromProfiles_eq_ok :
    resolvedProfileFromProfiles profiles name = .ok profile ↔
      resolves profiles name ∧ profile = resolvedProfile profiles name := by
  unfold resolvedProfileFromProfiles resolves resolvedProfile
  dsimp only
  split
  · rename_i hcomplete
    simp only [hcomplete, true_and, Except.ok.injEq]
    exact eq_comm
  · rename_i hcomplete
    simp [hcomplete]

/-- The stored profiles with each name of the list set to its resolved form. -/
def storeResolved (profiles : Table ProfileConfig) (names : List String)
    (stored : Table CanonicalProfile) : Table CanonicalProfile :=
  names.foldl (fun table name => table.insert name (resolvedProfile profiles name)) stored

theorem insertResolved_eq_ok : insertResolved profiles names stored = .ok table ↔
      (∀ name ∈ names, resolves profiles name) ∧ table = storeResolved profiles names stored := by
  apply foldlM_eq_ok
  intro name _ state result
  rw [bind_eq_ok]
  constructor
  · rintro ⟨profile, hprofile, hresult⟩
    obtain ⟨hresolves, rfl⟩ := resolvedProfileFromProfiles_eq_ok.1 hprofile
    cases hresult
    exact ⟨hresolves, rfl⟩
  · rintro ⟨hresolves, rfl⟩
    exact ⟨_, resolvedProfileFromProfiles_eq_ok.2 ⟨hresolves, rfl⟩, rfl⟩

theorem get_storeResolved (profiles : Table ProfileConfig) (names : List String)
    (stored : Table CanonicalProfile) (key : String) :
    (storeResolved profiles names stored)[key]? =
      if key ∈ names then some (resolvedProfile profiles key) else stored[key]? := by
  unfold storeResolved
  induction names generalizing stored with
  | nil => simp
  | cons name rest ih =>
    rw [foldl_cons, ih, get_insert]
    by_cases hrest : key ∈ rest
    · simp [hrest]
    · by_cases hname : name = key
      · simp [hname, hrest]
      · simp [hname, hrest, Ne.symm hname]

variable [Letters]

section

variable (config : ModelConfig)

/-- The base entry of a config, as `model_entry_from_config` builds it. -/
def baseEntry : ModelEntry where
  name := config.name
  canonicalBaseModel := config.name
  canonicalProfile := "default"
  pool := ((normalizeModelPool config.pool).toOption).join
  bundles := []
  adapterModules := baseRouteAdapterModulesFromProfiles config.profiles
  profileConfigs := storeResolved config.profiles config.profiles.keys ∅
  grammarProfile := declaredGrammarProfile config.tasks

/-- The checks an install makes of a config after those of `check_config`. -/
structure Expandable (config : ModelConfig) : Prop where
  pool : ∃ pool, normalizeModelPool config.pool = .ok pool
  resolves : ∀ name ∈ config.profiles.keys, resolves config.profiles name
  grammar : validateProfileGrammarFallbacks (baseEntry config) = .ok ()
  names : ∀ name ∈ config.profiles.keys, name ≠ "default" → validateProfileName name = .ok ()

theorem get_baseEntry (key : String) : (baseEntry config).profileConfigs[key]? =
      if key ∈ config.profiles then some (resolvedProfile config.profiles key) else none := by
  unfold baseEntry
  rw [get_storeResolved]
  simp

theorem keys_baseEntry : (baseEntry config).profileConfigs.keys = config.profiles.keys := by
  have hsame : (baseEntry config).profileConfigs =
      config.profiles.map fun name _ => resolvedProfile config.profiles name := by
    apply Std.ExtTreeMap.ext_getElem?
    intro key
    rw [get_baseEntry, Std.ExtTreeMap.getElem?_map]
    by_cases hkey : key ∈ config.profiles
    · rw [if_pos hkey]
      obtain ⟨profile, hprofile⟩ := Tables.exists_of_mem hkey
      rw [hprofile]
      rfl
    · rw [if_neg hkey, Std.ExtTreeMap.getElem?_eq_none hkey]
      rfl
  rw [hsame]
  exact keys_map

theorem mem_baseEntry (key : String) :
    key ∈ (baseEntry config).profileConfigs ↔ key ∈ config.profiles := by
  rw [← Std.ExtTreeMap.mem_keys, keys_baseEntry, Std.ExtTreeMap.mem_keys]

end

theorem modelEntryFromConfig_eq_ok : modelEntryFromConfig config = .ok entry ↔
      ((∃ pool, normalizeModelPool config.pool = .ok pool) ∧
        (∀ name ∈ config.profiles.keys, resolves config.profiles name) ∧
        validateProfileGrammarFallbacks (baseEntry config) = .ok ()) ∧
      entry = baseEntry config := by
  unfold modelEntryFromConfig
  rw [bind_eq_ok]
  constructor
  · rintro ⟨pool, hpool, hrest⟩
    obtain ⟨profiles, hprofiles, hrest⟩ := bind_eq_ok.1 hrest
    obtain ⟨hresolves, rfl⟩ := insertResolved_eq_ok.1 hprofiles
    obtain ⟨⟨⟩, hgrammar, hentry⟩ := bind_eq_ok.1 hrest
    cases hentry
    have hsame : pool = (normalizeModelPool config.pool).toOption.join := by
      rw [hpool]
      rfl
    subst hsame
    exact ⟨⟨⟨_, hpool⟩, hresolves, hgrammar⟩, rfl⟩
  · rintro ⟨⟨⟨pool, hpool⟩, hresolves, hgrammar⟩, rfl⟩
    have hsame : pool = (normalizeModelPool config.pool).toOption.join := by
      rw [hpool]
      rfl
    subst hsame
    refine ⟨_, hpool, bind_eq_ok.2 ⟨_, insertResolved_eq_ok.2 ⟨hresolves, rfl⟩, ?_⟩⟩
    exact bind_eq_ok.2 ⟨(), hgrammar, rfl⟩

section

variable (config : ModelConfig)

/-- The variant entry of a named profile. -/
def variantOf (name : String) : ModelEntry :=
  variantEntry (baseEntry config) name (resolvedProfile config.profiles name)
    (effectiveAdapterPathFromProfiles config.profiles name)

def variantNames : List String :=
  config.profiles.keys.filter (· ≠ "default")

def entriesOf : List ModelEntry :=
  (if "default" ∈ config.profiles then [baseEntry config] else []) ++
    (variantNames config).map (variantOf config)

end

theorem expandModelConfig_eq_ok : expandModelConfigIntoProfileVariants config = .ok entries ↔
      Expandable config ∧ entries = entriesOf config := by
  unfold expandModelConfigIntoProfileVariants expandVariants
  rw [bind_eq_ok]
  have hstep : ∀ name ∈ variantNames config, ∀ item, (do
        validateProfileName name
        let profile ← resolvedProfileFromProfiles config.profiles name
        return variantEntry (baseEntry config) name profile
          (effectiveAdapterPathFromProfiles config.profiles name)) = Except.ok item ↔
      (validateProfileName name = .ok () ∧ resolves config.profiles name) ∧
        item = variantOf config name := by
    intro name _ item
    rw [bind_eq_ok]
    constructor
    · rintro ⟨⟨⟩, hname, hrest⟩
      obtain ⟨profile, hprofile, hitem⟩ := bind_eq_ok.1 hrest
      obtain ⟨hresolves, rfl⟩ := resolvedProfileFromProfiles_eq_ok.1 hprofile
      cases hitem
      exact ⟨⟨hname, hresolves⟩, rfl⟩
    · rintro ⟨⟨hname, hresolves⟩, rfl⟩
      exact ⟨(), hname, bind_eq_ok.2 ⟨_, resolvedProfileFromProfiles_eq_ok.2 ⟨hresolves, rfl⟩, rfl⟩⟩
  constructor
  · rintro ⟨base, hbase, hrest⟩
    obtain ⟨⟨hpool, hresolves, hgrammar⟩, rfl⟩ := modelEntryFromConfig_eq_ok.1 hbase
    obtain ⟨variants, hvariants, hentries⟩ := bind_eq_ok.1 hrest
    rw [keys_baseEntry] at hvariants
    obtain ⟨hall, rfl⟩ := (mapM_eq_ok_map hstep).1 hvariants
    cases hentries
    refine ⟨⟨hpool, hresolves, hgrammar, fun name hname hdefault => ?_⟩, ?_⟩
    · exact (hall name (mem_filter.2 ⟨hname, by simpa using hdefault⟩)).1
    · simp only [entriesOf, mem_baseEntry]
  · rintro ⟨hexpands, rfl⟩
    refine ⟨_, modelEntryFromConfig_eq_ok.2
      ⟨⟨hexpands.pool, hexpands.resolves, hexpands.grammar⟩, rfl⟩, ?_⟩
    refine bind_eq_ok.2 ⟨(variantNames config).map (variantOf config), ?_, ?_⟩
    · rw [keys_baseEntry]
      refine (mapM_eq_ok_map hstep).2 ⟨fun name hname => ?_, rfl⟩
      obtain ⟨hkey, hdefault⟩ := mem_filter.1 hname
      exact ⟨hexpands.names name hkey (by simpa using hdefault), hexpands.resolves name hkey⟩
    · simp only [entriesOf, mem_baseEntry]
      rfl

end Entries

section Names

theorem variantName_inj (hprofile : ':' ∉ profile.toList)
    (hname : ':' ∉ name.toList) (hsame : variantName base profile = variantName other name) :
    base = other ∧ profile = name := by
  -- read from the end, both names stop at the colon before the profile
  have hreversed : profile.toList.reverse ++ ':' :: base.toList.reverse =
      name.toList.reverse ++ ':' :: other.toList.reverse := by
    simpa [variantName, String.toList_append] using congrArg (reverse ∘ String.toList) hsame
  have hstop : ∀ front back : List Char, ':' ∉ front →
      (front ++ ':' :: back).takeWhile (· ≠ ':') = front := by
    intro front back hfront
    rw [takeWhile_append_of_pos fun letter hletter => by
      simpa using ne_of_mem_of_not_mem hletter hfront]
    simp
  have hprofiles := congrArg (takeWhile (· ≠ ':')) hreversed
  rw [hstop _ _ (by simpa using hprofile), hstop _ _ (by simpa using hname)] at hprofiles
  rw [hprofiles, append_cancel_left_eq, cons.injEq] at hreversed
  simp only [reverse_inj, String.toList_inj] at hprofiles hreversed
  exact ⟨hreversed.2, hprofiles⟩

end Names

section Installing

variable [Letters]

theorem installConfig_eq_ok : installConfig bundles tables config = .ok result ↔
      (checkConfig bundles config = .ok () ∧ Expandable config) ∧
        result = ((entriesOf config).map (assignBundles bundles)).foldl insertEntry tables := by
  unfold installConfig
  rw [bind_eq_ok]
  constructor
  · rintro ⟨⟨⟩, hcheck, hrest⟩
    obtain ⟨entries, hentries, hresult⟩ := bind_eq_ok.1 hrest
    obtain ⟨hexpands, rfl⟩ := expandModelConfig_eq_ok.1 hentries
    cases hresult
    exact ⟨⟨hcheck, hexpands⟩, rfl⟩
  · rintro ⟨⟨hcheck, hexpands⟩, rfl⟩
    exact ⟨(), hcheck, bind_eq_ok.2 ⟨_, expandModelConfig_eq_ok.2 ⟨hexpands, rfl⟩, rfl⟩⟩

section

variable (bundles : Table BundleInfo) (configs : List ModelConfig)

/-- The entries of a list of configs in the order they are filed. -/
def filedEntries : List ModelEntry :=
  (configs.flatMap entriesOf).map (assignBundles bundles)

theorem foldl_filedEntries (tables : Table ModelEntry × Table String) :
    configs.foldl (fun tables config =>
      ((entriesOf config).map (assignBundles bundles)).foldl insertEntry tables) tables =
      (filedEntries bundles configs).foldl insertEntry tables := by
  unfold filedEntries
  rw [map_flatMap, foldl_flatMap]

/-- The snapshot an authoritative install of these configs leaves. -/
def installed : Snapshot :=
  let tables := (filedEntries bundles configs).foldl insertEntry (∅, ∅)
  ⟨bundles, tables.1, tables.2⟩

end

theorem replaceModelConfigsAuthoritative_eq_ok :
    replaceModelConfigsAuthoritative snapshot configs = .ok result ↔
      (∀ config ∈ configs, checkConfig snapshot.bundles config = .ok () ∧ Expandable config) ∧
        result = installed snapshot.bundles configs := by
  unfold replaceModelConfigsAuthoritative
  rw [bind_eq_ok]
  have hloop : ∀ tables, configs.foldlM (installConfig snapshot.bundles) (∅, ∅) = .ok tables ↔
      (∀ config ∈ configs, checkConfig snapshot.bundles config = .ok () ∧ Expandable config) ∧
        tables = (filedEntries snapshot.bundles configs).foldl insertEntry (∅, ∅) := by
    intro tables
    have hstep : ∀ config ∈ configs, ∀ state result,
        installConfig snapshot.bundles state config = .ok result ↔
          (checkConfig snapshot.bundles config = .ok () ∧ Expandable config) ∧
            result = ((entriesOf config).map (assignBundles snapshot.bundles)).foldl
              insertEntry state :=
      fun config _ state result => installConfig_eq_ok
    rw [← foldl_filedEntries]
    exact foldlM_eq_ok hstep
  constructor
  · rintro ⟨tables, htables, hresult⟩
    obtain ⟨hall, rfl⟩ := (hloop tables).1 htables
    cases hresult
    exact ⟨hall, rfl⟩
  · rintro ⟨hall, rfl⟩
    exact ⟨_, (hloop _).2 ⟨hall, rfl⟩, rfl⟩

end Installing

section Filing

variable [Letters] {entries : List ModelEntry}

theorem get_foldl_insertEntry_of_ne (hne : ∀ entry ∈ entries, entry.name ≠ key) :
    (entries.foldl insertEntry tables).1[key]? = tables.1[key]? := by
  induction entries generalizing tables with
  | nil => rfl
  | cons _ _ ih =>
    obtain ⟨hhead, hrest⟩ := forall_mem_cons.1 hne
    rw [foldl_cons, ih hrest, insertEntry, get_insert, if_neg hhead]

/-- The last entry filed under a key is the one found there. -/
theorem get_foldl_insertEntry_last {entry : ModelEntry} {before after : List ModelEntry}
    (hentries : entries = before ++ entry :: after) (hname : entry.name = key)
    (hafter : ∀ other ∈ after, other.name ≠ key) :
    (entries.foldl insertEntry tables).1[key]? = some entry := by
  rw [hentries, foldl_append, foldl_cons, get_foldl_insertEntry_of_ne hafter,
    insertEntry, get_insert, if_pos hname]

/-- When all entries of a name agree, that one is found. -/
theorem get_foldl_insertEntry_unique {entry : ModelEntry} (hmem : entry ∈ entries)
    (hname : entry.name = key) (hsame : ∀ other ∈ entries, other.name = key → other = entry) :
    (entries.foldl insertEntry tables).1[key]? = some entry := by
  induction entries generalizing tables with
  | nil => cases hmem
  | cons _ rest ih =>
    obtain ⟨hhead, hrest⟩ := forall_mem_cons.1 hsame
    by_cases hlater : entry ∈ rest
    · exact ih hlater hrest
    · have hne : ∀ other ∈ rest, other.name ≠ key := by
        intro other hother hkey
        exact hlater (hrest other hother hkey ▸ hother)
      rcases mem_cons.1 hmem with rfl | hrestMem
      · exact get_foldl_insertEntry_last (nil_append _).symm hname hne
      · exact absurd hrestMem hlater

end Filing

section Routes

section

variable (configs : Table ModelConfig)

/-- Every config stands under its own id and its named profiles have plain names. -/
structure Filed (configs : Table ModelConfig) : Prop where
  name : ∀ (id : String) (config : ModelConfig), configs[id]? = some config → config.name = id
  plain : ∀ (id : String) (config : ModelConfig), configs[id]? = some config →
    ∀ name ∈ config.profiles, name ≠ "default" → ':' ∉ name.toList ∧ name ≠ ""

def exported : List ModelConfig :=
  configs.toList.map Prod.snd

end

theorem mem_exported : config ∈ exported configs ↔ ∃ id : String, configs[id]? = some config := by
  simp [exported, mem_toList_iff_getElem?_eq_some]

variable [Letters]

theorem mem_entriesOf : entry ∈ entriesOf config ↔
      ("default" ∈ config.profiles ∧ entry = baseEntry config) ∨
        ∃ name ∈ config.profiles, name ≠ "default" ∧ entry = variantOf config name := by
  unfold entriesOf variantNames
  rw [mem_append, mem_map]
  constructor
  · rintro (hbase | ⟨name, hname, rfl⟩)
    · split_ifs at hbase with hdefault
      · exact .inl ⟨hdefault, mem_singleton.1 hbase⟩
      · cases hbase
    · obtain ⟨hkey, hne⟩ := mem_filter.1 hname
      exact .inr ⟨name, mem_keys.1 hkey, by simpa using hne, rfl⟩
  · rintro (⟨hdefault, rfl⟩ | ⟨name, hname, hne, rfl⟩)
    · exact .inl (by simp [hdefault])
    · exact .inr ⟨name, mem_filter.2 ⟨mem_keys.2 hname, by simpa using hne⟩, rfl⟩

theorem mem_filedEntries : entry ∈ filedEntries bundles (exported configs) ↔
      ∃ (id : String) (config : ModelConfig), configs[id]? = some config ∧
        ∃ plain ∈ entriesOf config, entry = assignBundles bundles plain := by
  unfold filedEntries
  simp only [mem_map, mem_flatMap, mem_exported]
  constructor
  · rintro ⟨plain, ⟨config, ⟨id, hconfig⟩, hplain⟩, rfl⟩
    exact ⟨id, config, hconfig, plain, hplain, rfl⟩
  · rintro ⟨id, config, hconfig, plain, hplain, rfl⟩
    exact ⟨plain, ⟨config, ⟨id, hconfig⟩, hplain⟩, rfl⟩

end Routes

end SieCluster.RegistryRoutes
