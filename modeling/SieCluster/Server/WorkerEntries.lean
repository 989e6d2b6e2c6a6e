import SieCluster.Server.WorkerProfiles

/-!
# The entries a worker keeps

Which entries a worker holds after it loaded a set of configs, said about these
configs: the model's own entry when it has a default profile that runs in Python,
and one for each named profile that does and whose id no model has.
-/

namespace SieCluster.WorkerEntries

open Tables Option Std.ExtTreeMap
open Profiles
open ModelRegistry (variantName)
open RegistryRoutes (exported mem_exported variantName_inj Filed)
open ConfigRegistry (modelPoolName)
open HashItems (nearestPath InScope scope_any_iff)
open WorkerConfigs
open WorkerProfiles
open Fallible

variable [Letters]

/-- The entry the worker makes for one named profile of a model. -/
structure VariantEntry (raw : ModelConfig) (name : String) (config : Config) : Prop where
  id : config.sieId = variantName raw.name name
  revision : config.hfRevision = raw.hfRevision
  pool : poolOf config = modelPoolName raw
  profiles : ∃ resolved, ResolvesTo raw.profiles name resolved ∧
    config.profiles = (∅ : Table Profile).insert "default" resolved.toProfile
  source : config.syntheticProfileVariantSource = some (raw.name, name)

variable (scope : Option String)

def RunsInPython (profiles : Table ProfileConfig) (name : String) : Prop :=
  ∀ path, nearestPath profiles name = some path → isPythonRuntimeAdapter path = true

/-- The model is of the worker's pool and the profile runs in Python. -/
def Accepted (raw : ModelConfig) (name : String) : Prop :=
  InScope scope raw ∧ RunsInPython raw.profiles name

structure KeepsBase (raw : ModelConfig) : Prop where
  hasDefault : "default" ∈ raw.profiles
  accepted : Accepted scope raw "default"

structure KeepsVariant (models : Table ModelConfig) (scope : Option String) (raw : ModelConfig)
    (name : String) : Prop where
  mem : name ∈ raw.profiles
  named : name ≠ "default"
  free : variantName raw.name name ∉ models
  accepted : Accepted scope raw name

/-- What a worker of the pool holds after it loaded the configs. -/
structure Loads (models : Table ModelConfig) (scope : Option String) (loaded : Table Config) :
    Prop where
  loadable : ∀ (id : String) (raw : ModelConfig), models[id]? = some raw → Loadable raw.profiles
  entry : ∀ (key : String) (config : Config), loaded[key]? = some config →
    (∃ raw, models[key]? = some raw ∧ KeepsBase scope raw ∧ BaseEntry raw config) ∨
      ∃ (id : String) (raw : ModelConfig) (name : String), models[id]? = some raw ∧
        key = variantName raw.name name ∧ KeepsVariant models scope raw name ∧
        VariantEntry raw name config
  base : ∀ (id : String) (raw : ModelConfig), models[id]? = some raw → KeepsBase scope raw →
    ∃ config, loaded[id]? = some config ∧ BaseEntry raw config
  variant : ∀ (id : String) (raw : ModelConfig) (name : String), models[id]? = some raw →
    KeepsVariant models scope raw name →
      ∃ config, loaded[variantName raw.name name]? = some config ∧ VariantEntry raw name config

section Reading

omit [Letters] in
theorem empty_not_mem (hfiled : Filed models) {id : String} {raw : ModelConfig}
    (hraw : models[id]? = some raw) : "" ∉ raw.profiles :=
  fun hmem => (hfiled.plain id raw hraw "" hmem (by decide)).2 rfl

omit [Letters] in
theorem mem_readProfiles : name ∈ readProfiles raw ↔ name ∈ raw :=
  mem_map

/-- The typed configs by their ids. -/
theorem get_read (hfiled : Filed models) {configs : List Config}
    (hconfigs : (exported models).mapM modelConfig = .ok configs) {key : String} :
    (insertAll (∅ : Table Config) (configs.map byId))[key]? = some config ↔
      ∃ raw, models[key]? = some raw ∧ modelConfig raw = .ok config := by
  have hlisted : ∀ {key : String} {config : Config}, (key, config) ∈ configs.map byId ↔
      ∃ raw, models[key]? = some raw ∧ modelConfig raw = .ok config := by
    intro key config
    rw [List.mem_map]
    constructor
    · rintro ⟨config, hmem, hkey⟩
      cases hkey
      obtain ⟨raw, hraw, hread⟩ := (mem_of_mapM_eq_ok hconfigs).1 hmem
      obtain ⟨id, hraw⟩ := mem_exported.1 hraw
      obtain ⟨-, hentry⟩ := modelConfig_eq_ok hread
      rw [hentry.id, hfiled.name id raw hraw]
      exact ⟨raw, hraw, hread⟩
    · rintro ⟨raw, hraw, hread⟩
      obtain ⟨-, hentry⟩ := modelConfig_eq_ok hread
      refine ⟨config, (mem_of_mapM_eq_ok hconfigs).2 ⟨raw, mem_exported.2 ⟨key, hraw⟩, hread⟩, ?_⟩
      rw [byId, hentry.id, hfiled.name key raw hraw]
  rw [insertAll_eq_some_iff, hlisted]
  · simp
  · rintro ⟨key, first⟩ hfirst ⟨other, second⟩ hsecond hkey
    cases (hkey : key = other)
    obtain ⟨raw, hraw, hread⟩ := hlisted.1 hfirst
    obtain ⟨found, hfound, hread'⟩ := hlisted.1 hsecond
    rw [hraw] at hfound
    cases hfound
    rw [hread] at hread'
    cases hread'
    rfl

omit [Letters] in
theorem mem_expansions : expansion ∈ expansions configs ↔
      configs[expansion.base]? = some expansion.config ∧
        expansion.config.profiles[expansion.name]? = some expansion.profile ∧
        expansion.name ≠ "default" := by
  obtain ⟨base, config, name, profile⟩ := expansion
  unfold expansions
  simp only [List.mem_flatMap, List.mem_map, List.mem_filter, Prod.exists,
    mem_toList_iff_getElem?_eq_some, Expansion.mk.injEq, decide_eq_true_eq]
  constructor
  · rintro ⟨id, found, hconfig, profileName, foundProfile, ⟨hprofile, hnamed⟩, rfl, rfl, rfl, rfl⟩
    exact ⟨hconfig, hprofile, hnamed⟩
  · rintro ⟨hconfig, hprofile, hnamed⟩
    exact ⟨base, config, hconfig, name, profile, ⟨hprofile, hnamed⟩, rfl, rfl, rfl, rfl⟩

omit [Letters] in
theorem expandProfile_eq_ok_some : expandProfile configs expansion = .ok (some config) ↔
      variantName expansion.base expansion.name ∉ configs ∧
        ∃ promoted, variantDefault expansion.config.profiles expansion.name expansion.profile =
            .ok promoted ∧
          config = variantConfig expansion.base expansion.config expansion.name promoted := by
  unfold expandProfile
  rw [bind_eq_ok]
  constructor
  · rintro ⟨promoted, hpromoted, hresult⟩
    by_cases htaken : variantName expansion.base expansion.name ∈ configs
    · rw [if_pos htaken] at hresult
      cases hresult
    · rw [if_neg htaken] at hresult
      cases hresult
      exact ⟨htaken, promoted, hpromoted, rfl⟩
  · rintro ⟨hfree, promoted, hpromoted, rfl⟩
    refine ⟨promoted, hpromoted, ?_⟩
    rw [if_neg hfree]
    rfl

omit [Letters] in
theorem sieId_of_expandProfile (hmade : expandProfile configs expansion = .ok (some config)) :
    config.sieId = variantName expansion.base expansion.name := by
  obtain ⟨-, promoted, -, rfl⟩ := expandProfile_eq_ok_some.1 hmade
  rfl

omit [Letters] in
theorem eq_of_mem_expansions (hfirst : first ∈ expansions configs)
    (hsecond : second ∈ expansions configs) (hbase : first.base = second.base)
    (hname : first.name = second.name) : first = second := by
  obtain ⟨base, config, name, profile⟩ := first
  obtain ⟨base', config', name', profile'⟩ := second
  obtain ⟨hconfig, hprofile, -⟩ := mem_expansions.1 hfirst
  obtain ⟨hconfig', hprofile', -⟩ := mem_expansions.1 hsecond
  cases (hbase : base = base')
  cases (hname : name = name')
  cases (hconfig.symm.trans hconfig' : some config = some config')
  cases (hprofile.symm.trans hprofile' : some profile = some profile')
  rfl

omit [Letters] in
/-- The entries after the named profiles got their own. -/
theorem get_expanded (hplain : ∀ expansion ∈ expansions configs, ':' ∉ expansion.name.toList)
    (hvariants : (expansions configs).mapM (expandProfile configs) = .ok variants) :
    (insertAll (configs.filter fun _ config => "default" ∈ config.profiles)
        (variants.reduceOption.map byId))[key]? = some config ↔
      (∃ expansion ∈ expansions configs,
        expandProfile configs expansion = .ok (some config) ∧ config.sieId = key) ∨
      configs[key]? = some config ∧ "default" ∈ config.profiles := by
  have hlisted : ∀ {key : String} {config : Config},
      (key, config) ∈ variants.reduceOption.map byId ↔ ∃ expansion ∈ expansions configs,
        expandProfile configs expansion = .ok (some config) ∧ config.sieId = key := by
    intro key config
    rw [List.mem_map]
    constructor
    · rintro ⟨config, hmem, hkey⟩
      cases hkey
      obtain ⟨expansion, hexpansion, hmade⟩ :=
        (mem_of_mapM_eq_ok hvariants).1 (List.reduceOption_mem_iff.1 hmem)
      exact ⟨expansion, hexpansion, hmade, rfl⟩
    · rintro ⟨expansion, hexpansion, hmade, rfl⟩
      exact ⟨config, List.reduceOption_mem_iff.2 ((mem_of_mapM_eq_ok hvariants).2
        ⟨expansion, hexpansion, hmade⟩), rfl⟩
  have hfilter : (configs.filter fun _ config => decide ("default" ∈ config.profiles))[key]? =
      some config ↔ configs[key]? = some config ∧ "default" ∈ config.profiles := by
    rw [Std.ExtTreeMap.getElem?_filter', filter_eq_some_iff, decide_eq_true_iff]
  rw [insertAll_eq_some_iff, hlisted, hfilter]
  · refine or_congr_right (and_iff_right_of_imp ?_)
    -- an id that some config has is not given to a variant
    rintro ⟨hconfig, -⟩ ⟨other, variant⟩ hvariant hkey
    obtain ⟨expansion, hexpansion, hmade, hid⟩ := hlisted.1 hvariant
    obtain ⟨hfree, promoted, -, rfl⟩ := expandProfile_eq_ok_some.1 hmade
    refine hfree ?_
    have hsame : variantName expansion.base expansion.name = key := hid.trans hkey
    rw [hsame, mem_iff_isSome_getElem?, hconfig]
    rfl
  · rintro ⟨key, first⟩ hfirst ⟨other, second⟩ hsecond hkey
    obtain ⟨expansion, hexpansion, hmade, hid⟩ := hlisted.1 hfirst
    obtain ⟨expansion', hexpansion', hmade', hid'⟩ := hlisted.1 hsecond
    have hname : variantName expansion.base expansion.name =
        variantName expansion'.base expansion'.name := by
      rw [← sieId_of_expandProfile hmade, ← sieId_of_expandProfile hmade', hid, hid']
      exact hkey
    obtain ⟨hbase, hprofile⟩ :=
      variantName_inj (hplain expansion hexpansion) (hplain expansion' hexpansion') hname
    have hsame := eq_of_mem_expansions hexpansion hexpansion' hbase hprofile
    rw [hsame, hmade'] at hmade
    cases hmade
    rfl

end Reading

section Accepting

variable {scope : Option String}

theorem acceptsConfigPool_iff (hpool : poolOf config = modelPoolName raw)
    (hresolve : resolveProfile config.profiles "default" = .ok resolved)
    (hpath : nearestPath raw.profiles name = some resolved.adapterPath) :
    acceptsConfigPool scope config = .ok true ↔ Accepted scope raw name := by
  unfold acceptsConfigPool Accepted InScope
  simp only [RunsInPython, scope_any_iff, hpool, hpath, some.injEq, forall_eq']
  by_cases hscope : ∀ pool, scope = some pool → modelPoolName raw = pool
  · rw [if_neg (not_not_intro hscope), hresolve, and_iff_right hscope]
    constructor
    · intro haccepts
      exact Except.ok.inj haccepts
    · intro hpython
      exact congrArg Except.ok hpython
  · rw [if_pos hscope]
    exact ⟨nofun, fun haccepted => absurd haccepted.1 hscope⟩

omit [Letters] in
theorem resolveProfile_toProfile (resolved : ResolvedProfile) :
    resolveProfile ((∅ : Table Profile).insert "default" resolved.toProfile) "default" =
      .ok resolved := by
  unfold resolveProfile
  rw [get_insert, if_pos rfl]
  rfl

theorem keepAccepted_eq_ok_some : keepAccepted scope entry = .ok (some kept) ↔
      acceptsConfigPool scope entry.2 = .ok true ∧ kept = entry := by
  unfold keepAccepted
  rw [bind_eq_ok]
  constructor
  · rintro ⟨accepted, haccepted, hkept⟩
    cases accepted with
    | false => cases hkept
    | true =>
      cases hkept
      exact ⟨haccepted, rfl⟩
  · rintro ⟨haccepted, rfl⟩
    exact ⟨true, haccepted, rfl⟩

/-- The entries left after the pool's were picked. -/
theorem get_kept {expanded : Table Config} {kept : List (Option (String × Config))}
    (hkept : expanded.toList.mapM (keepAccepted scope) = .ok kept) {key : String} :
    (insertAll (∅ : Table Config) kept.reduceOption)[key]? = some config ↔
      expanded[key]? = some config ∧ acceptsConfigPool scope config = .ok true := by
  have hlisted : ∀ {entry : String × Config}, entry ∈ kept.reduceOption ↔
      expanded[entry.1]? = some entry.2 ∧ acceptsConfigPool scope entry.2 = .ok true := by
    intro entry
    rw [List.reduceOption_mem_iff, mem_of_mapM_eq_ok hkept, ← mem_toList_iff_getElem?_eq_some]
    constructor
    · rintro ⟨found, hfound, hentry⟩
      obtain ⟨haccepts, rfl⟩ := keepAccepted_eq_ok_some.1 hentry
      exact ⟨hfound, haccepts⟩
    · rintro ⟨hfound, haccepts⟩
      exact ⟨entry, hfound, keepAccepted_eq_ok_some.2 ⟨haccepts, rfl⟩⟩
  rw [insertAll_eq_some_iff, hlisted]
  · simp
  · rintro ⟨key, first⟩ hfirst ⟨other, second⟩ hsecond hkey
    cases (hkey : key = other)
    exact some.inj ((hlisted.1 hfirst).1.symm.trans (hlisted.1 hsecond).1)

end Accepting

section Loading

variable (hfiled : Filed models)
include hfiled

theorem mem_read_iff (hconfigs : (exported models).mapM modelConfig = .ok configs) (key : String) :
    key ∈ insertAll (∅ : Table Config) (configs.map byId) ↔ key ∈ models := by
  rw [mem_iff_isSome_getElem?, mem_iff_isSome_getElem?, isSome_iff_exists, isSome_iff_exists]
  constructor
  · rintro ⟨config, hconfig⟩
    obtain ⟨raw, hraw, -⟩ := (get_read hfiled hconfigs).1 hconfig
    exact ⟨raw, hraw⟩
  · rintro ⟨raw, hraw⟩
    obtain ⟨config, hread⟩ := ok_of_mapM_eq_ok hconfigs (mem_exported.2 ⟨key, hraw⟩)
    exact ⟨config, (get_read hfiled hconfigs).2 ⟨raw, hraw, hread⟩⟩

/-- The entries before the pool's are picked, said about the configs as written. -/
theorem expanded_cases (hconfigs : (exported models).mapM modelConfig = .ok configs)
    (hvariants : (expansions (insertAll ∅ (configs.map byId))).mapM
      (expandProfile (insertAll ∅ (configs.map byId))) = .ok variants)
    {key : String} {config : Config} :
    (insertAll ((insertAll (∅ : Table Config) (configs.map byId)).filter
        fun _ config => "default" ∈ config.profiles) (variants.reduceOption.map byId))[key]? =
          some config ↔
      (∃ (raw : ModelConfig) (name : String), models[raw.name]? = some raw ∧
        name ∈ raw.profiles ∧ name ≠ "default" ∧ variantName raw.name name ∉ models ∧
        key = variantName raw.name name ∧ ∃ base resolved, modelConfig raw = .ok base ∧
          ResolvesTo raw.profiles name resolved ∧
          config = variantConfig raw.name base name resolved.toProfile) ∨
      ∃ raw, models[key]? = some raw ∧ "default" ∈ raw.profiles ∧ modelConfig raw = .ok config := by
  have hsource : ∀ expansion ∈ expansions (insertAll (∅ : Table Config) (configs.map byId)),
      ∃ raw, models[expansion.base]? = some raw ∧ modelConfig raw = .ok expansion.config ∧
        ∃ profile, raw.profiles[expansion.name]? = some profile ∧
          readProfile profile = expansion.profile ∧ expansion.name ≠ "default" := by
    intro expansion hexpansion
    obtain ⟨hbase, hprofile, hnamed⟩ := mem_expansions.1 hexpansion
    obtain ⟨raw, hraw, hread⟩ := (get_read hfiled hconfigs).1 hbase
    rw [(modelConfig_eq_ok hread).2.profiles, get_readProfiles, map_eq_some_iff] at hprofile
    obtain ⟨profile, hget, hsame⟩ := hprofile
    exact ⟨raw, hraw, hread, profile, hget, hsame, hnamed⟩
  have hplain : ∀ expansion ∈ expansions (insertAll (∅ : Table Config) (configs.map byId)),
      ':' ∉ expansion.name.toList := by
    intro expansion hexpansion
    obtain ⟨raw, hraw, -, profile, hget, -, hnamed⟩ := hsource expansion hexpansion
    exact (hfiled.plain _ raw hraw expansion.name (mem_of_get hget) hnamed).1
  rw [get_expanded hplain hvariants]
  refine or_congr ?_ ?_
  · constructor
    · rintro ⟨expansion, hexpansion, hmade, rfl⟩
      obtain ⟨raw, hraw, hread, profile, hget, hsame, hnamed⟩ := hsource expansion hexpansion
      have hname := hfiled.name _ raw hraw
      obtain ⟨hload, hentry⟩ := modelConfig_eq_ok hread
      obtain ⟨resolved, hresolved⟩ :=
        resolvesTo_of_loadable hload (empty_not_mem hfiled hraw) (mem_of_get hget)
      obtain ⟨hfree, promoted, hpromoted, hconfig⟩ := expandProfile_eq_ok_some.1 hmade
      rw [hentry.profiles, ← hsame, hresolved.promoted profile hget] at hpromoted
      cases hpromoted
      rw [mem_read_iff hfiled hconfigs] at hfree
      rw [← hname] at hraw hfree hconfig
      exact ⟨raw, expansion.name, hraw, mem_of_get hget, hnamed, hfree,
        congrArg Config.sieId hconfig, expansion.config, resolved, hread, hresolved, hconfig⟩
    · rintro ⟨raw, name, hraw, hmem, hnamed, hfree, rfl, base, resolved, hread, hresolved, rfl⟩
      obtain ⟨profile, hget⟩ := Tables.exists_of_mem hmem
      have hentry := (modelConfig_eq_ok hread).2
      refine ⟨⟨raw.name, base, name, readProfile profile⟩, mem_expansions.2 ⟨?_, ?_, hnamed⟩,
        expandProfile_eq_ok_some.2 ⟨?_, resolved.toProfile, ?_, rfl⟩, rfl⟩
      · exact (get_read hfiled hconfigs).2 ⟨raw, hraw, hread⟩
      · rw [hentry.profiles, get_readProfiles, hget]
        rfl
      · rw [mem_read_iff hfiled hconfigs]
        exact hfree
      · rw [hentry.profiles]
        exact hresolved.promoted profile hget
  · rw [get_read hfiled hconfigs]
    constructor
    · rintro ⟨⟨raw, hraw, hread⟩, hdefault⟩
      rw [(modelConfig_eq_ok hread).2.profiles, mem_readProfiles] at hdefault
      exact ⟨raw, hraw, hdefault, hread⟩
    · rintro ⟨raw, hraw, hdefault, hread⟩
      refine ⟨⟨raw, hraw, hread⟩, ?_⟩
      rw [(modelConfig_eq_ok hread).2.profiles, mem_readProfiles]
      exact hdefault

theorem replaceConfigs_loads {pool : Option String}
    {loaded : Table Config} (hload : replaceConfigs pool (exported models) = .ok loaded) :
    Loads models (poolName pool) loaded := by
  unfold replaceConfigs at hload
  obtain ⟨configs, hconfigs, hload⟩ := bind_eq_ok.1 hload
  obtain ⟨⟨⟩, -, hload⟩ := bind_eq_ok.1 hload
  obtain ⟨expanded, hexpanded, hload⟩ := bind_eq_ok.1 hload
  obtain ⟨kept, hkept, hload⟩ := bind_eq_ok.1 hload
  cases hload
  unfold expandProfileVariants at hexpanded
  obtain ⟨variants, hvariants, hexpanded⟩ := bind_eq_ok.1 hexpanded
  cases hexpanded
  have hread : ∀ (id : String) (raw : ModelConfig), models[id]? = some raw →
      ∃ config, modelConfig raw = .ok config :=
    fun id raw hraw => ok_of_mapM_eq_ok hconfigs (mem_exported.2 ⟨id, hraw⟩)
  have hresolves : ∀ (id : String) (raw : ModelConfig), models[id]? = some raw →
      ∀ name ∈ raw.profiles, ∃ resolved, ResolvesTo raw.profiles name resolved := by
    intro id raw hraw name hname
    obtain ⟨config, hconfig⟩ := hread id raw hraw
    exact resolvesTo_of_loadable (modelConfig_eq_ok hconfig).1 (empty_not_mem hfiled hraw) hname
  -- a model's own entry is accepted for its default profile, a variant for the profile it is of
  have hbase : ∀ {id : String} {raw : ModelConfig} {config : Config}, models[id]? = some raw →
      "default" ∈ raw.profiles → BaseEntry raw config →
      (acceptsConfigPool (poolName pool) config = .ok true ↔
        Accepted (poolName pool) raw "default") := by
    intro id raw config hraw hdefault hentry
    obtain ⟨resolved, hresolved⟩ := hresolves id raw hraw "default" hdefault
    refine acceptsConfigPool_iff hentry.pool ?_ hresolved.path
    rw [hentry.profiles]
    exact hresolved.resolve
  have hvariant : ∀ {raw : ModelConfig} {name : String} {base : Config}
      {resolved : ResolvedProfile}, modelConfig raw = .ok base →
      ResolvesTo raw.profiles name resolved →
      VariantEntry raw name (variantConfig raw.name base name resolved.toProfile) ∧
      (acceptsConfigPool (poolName pool) (variantConfig raw.name base name resolved.toProfile) =
        .ok true ↔ Accepted (poolName pool) raw name) := by
    intro raw name base resolved hbase hresolved
    have hentry := (modelConfig_eq_ok hbase).2
    exact ⟨⟨rfl, hentry.revision, hentry.pool, ⟨resolved, hresolved, rfl⟩, rfl⟩,
      acceptsConfigPool_iff hentry.pool (resolveProfile_toProfile resolved) hresolved.path⟩
  refine ⟨?_, ?_, ?_, ?_⟩
  · intro id raw hraw
    obtain ⟨config, hconfig⟩ := hread id raw hraw
    exact (modelConfig_eq_ok hconfig).1
  · intro key config hget
    obtain ⟨hget, haccepts⟩ := (get_kept hkept).1 hget
    rcases (expanded_cases hfiled hconfigs hvariants).1 hget with
      ⟨raw, name, hraw, hmem, hnamed, hfree, rfl, base, resolved, hconfig, hresolved, rfl⟩ |
      ⟨raw, hraw, hdefault, hconfig⟩
    · obtain ⟨hentry, haccepted⟩ := hvariant hconfig hresolved
      exact .inr ⟨raw.name, raw, name, hraw, rfl, ⟨hmem, hnamed, hfree, haccepted.1 haccepts⟩,
        hentry⟩
    · have hentry := (modelConfig_eq_ok hconfig).2
      exact .inl ⟨raw, hraw, ⟨hdefault, (hbase hraw hdefault hentry).1 haccepts⟩, hentry⟩
  · intro id raw hraw hkeeps
    obtain ⟨config, hconfig⟩ := hread id raw hraw
    have hentry := (modelConfig_eq_ok hconfig).2
    refine ⟨config, (get_kept hkept).2 ⟨(expanded_cases hfiled hconfigs hvariants).2
      (.inr ⟨raw, hraw, hkeeps.hasDefault, hconfig⟩), ?_⟩, hentry⟩
    exact (hbase hraw hkeeps.hasDefault hentry).2 hkeeps.accepted
  · intro id raw name hraw hkeeps
    obtain ⟨config, hconfig⟩ := hread id raw hraw
    obtain ⟨resolved, hresolved⟩ := hresolves id raw hraw name hkeeps.mem
    obtain ⟨hentry, haccepted⟩ := hvariant hconfig hresolved
    rw [← hfiled.name id raw hraw] at hraw
    refine ⟨_, (get_kept hkept).2 ⟨(expanded_cases hfiled hconfigs hvariants).2
      (.inl ⟨raw, name, hraw, hkeeps.mem, hkeeps.named, hkeeps.free, rfl, config, resolved,
        hconfig, hresolved, rfl⟩), haccepted.2 hkeeps.accepted⟩, hentry⟩

end Loading

end SieCluster.WorkerEntries
