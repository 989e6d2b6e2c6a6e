import SieCluster.Gateway.RegistryRoutes

/-!
# How the gateway resolves a model name

A name is looked up in lower case first and as it is written only when that
fails.  The entry found names the bundles that can serve it, the preferred one
first; an engine and an explicit bundle narrow the choice.
-/

namespace SieCluster.BundleResolution

open Tables List
open Profiles
open ModelRegistry
open RegistryRoutes

variable [Letters]

inductive ResolveError where
  | modelNotFound (model : String)
  | bundleConflict (model bundle : String) (compatible : List String)
  deriving DecidableEq

section

variable (snapshot : Snapshot) (model : String)

def canonicalModelName : Option String :=
  (snapshot.modelNamesLower[lowercase model]?).or
    (if model ∈ snapshot.models then some model else none)

/-- The entry that a name stands for. -/
def entryFor : Option ModelEntry :=
  (canonicalModelName snapshot model).bind fun canonical => snapshot.models[canonical]?

def engineBundles (names : List String) : Option String → List String
  | some engine =>
    names.filter fun name => (snapshot.bundles[name]?).any fun bundle => bundle.engine = engine
  | none => names

def resolveBundleWithEngine
    (bundleOverride engineFilter : Option String) : Except ResolveError String :=
  match ((entryFor snapshot model).map ModelEntry.bundles).getD [] with
  | [] => .error (.modelNotFound model)
  | first :: rest =>
    match engineBundles snapshot (first :: rest) engineFilter with
    | [] => .error (.bundleConflict model (engineFilter.getD "") (first :: rest))
    | preferred :: others =>
      match bundleOverride with
      | some bundle =>
        if bundle ∈ preferred :: others then .ok bundle
        else .error (.bundleConflict model bundle (preferred :: others))
      | none => .ok preferred

end

omit [Letters] in
theorem mem_engineBundles (hname : name ∈ engineBundles snapshot names engine) : name ∈ names := by
  cases engine with
  | none => exact hname
  | some => exact (mem_filter.1 hname).1

/-- Whatever the override and the engine, the bundle is one of the entry's. -/
theorem mem_of_resolveBundleWithEngine
    (hchosen : resolveBundleWithEngine snapshot model bundleOverride engineFilter = .ok chosen) :
    chosen ∈ ((entryFor snapshot model).map ModelEntry.bundles).getD [] := by
  unfold resolveBundleWithEngine at hchosen
  split at hchosen
  · cases hchosen
  · rename_i first rest hbundles
    rw [hbundles]
    split at hchosen
    · cases hchosen
    · rename_i preferred others hfiltered
      have hsubset : ∀ name ∈ preferred :: others, name ∈ first :: rest := by
        intro name hname
        rw [← hfiltered] at hname
        exact mem_engineBundles hname
      split at hchosen
      · rename_i bundle
        split_ifs at hchosen with hlisted
        cases hchosen
        exact hsubset _ hlisted
      · cases hchosen
        exact hsubset _ mem_cons_self

theorem resolveBundleWithEngine_missing
    (hnone : ((entryFor snapshot model).map ModelEntry.bundles).getD [] = [])
    (bundleOverride engineFilter : Option String) :
    resolveBundleWithEngine snapshot model bundleOverride engineFilter =
      .error (.modelNotFound model) := by
  unfold resolveBundleWithEngine
  rw [hnone]

theorem resolveBundleWithEngine_found
    (hsome : ((entryFor snapshot model).map ModelEntry.bundles).getD [] ≠ []) :
    ∃ chosen, resolveBundleWithEngine snapshot model none none = .ok chosen := by
  obtain ⟨first, rest, hbundles⟩ := exists_cons_of_ne_nil hsome
  unfold resolveBundleWithEngine
  rw [hbundles]
  exact ⟨first, rfl⟩

theorem resolveBundleWithEngine_override
    (hbundle : bundle ∈ ((entryFor snapshot model).map ModelEntry.bundles).getD []) :
    resolveBundleWithEngine snapshot model (some bundle) none = .ok bundle := by
  obtain ⟨first, rest, hbundles⟩ := exists_cons_of_ne_nil (ne_nil_of_mem hbundle)
  rw [hbundles] at hbundle
  unfold resolveBundleWithEngine
  rw [hbundles]
  exact if_pos hbundle

/-! ## The names an install files -/

section Filing

variable {entries : List ModelEntry}

theorem lower_foldl_insertEntry_of_ne (hne : ∀ entry ∈ entries, lowercase entry.name ≠ key) :
    (entries.foldl insertEntry tables).2[key]? = tables.2[key]? := by
  induction entries generalizing tables with
  | nil => rfl
  | cons _ _ ih =>
    obtain ⟨hhead, hrest⟩ := forall_mem_cons.1 hne
    rw [foldl_cons, ih hrest, insertEntry, get_insert, if_neg hhead]

theorem lower_foldl_insertEntry_unique (hmem : entry ∈ entries)
    (hsame : ∀ other ∈ entries, lowercase other.name = lowercase entry.name → other = entry) :
    (entries.foldl insertEntry tables).2[lowercase entry.name]? = some entry.name := by
  induction entries generalizing tables with
  | nil => cases hmem
  | cons first rest ih =>
    obtain ⟨hhead, hrest⟩ := forall_mem_cons.1 hsame
    rw [foldl_cons]
    by_cases hlater : entry ∈ rest
    · exact ih hlater hrest
    · obtain rfl : entry = first := (mem_cons.1 hmem).resolve_right hlater
      rw [lower_foldl_insertEntry_of_ne, insertEntry, get_insert, if_pos rfl]
      intro other hother hlower
      exact hlater (hrest other hother hlower ▸ hother)

end Filing

/-- A name that alone has its lower case leads to its own entry. -/
theorem entryFor_of_unique (hentry : entry ∈ filedEntries bundles configs)
    (hunique : ∀ other ∈ filedEntries bundles configs,
      lowercase other.name = lowercase entry.name → other = entry) :
    entryFor (installed bundles configs) entry.name = some entry := by
  have hlower : (installed bundles configs).modelNamesLower[lowercase entry.name]? =
      some entry.name := lower_foldl_insertEntry_unique hentry hunique
  have hfound : (installed bundles configs).models[entry.name]? = some entry := by
    refine get_foldl_insertEntry_unique hentry rfl fun other hother hname => ?_
    exact hunique other hother (by rw [hname])
  simp [entryFor, canonicalModelName, hlower, hfound]

/-- Among names equal up to letter case, the one filed last is taken. -/
theorem canonicalModelName_last (hentries : filedEntries bundles configs = before ++ [entry])
    (hlower : lowercase entry.name = lowercase name) :
    canonicalModelName (installed bundles configs) name = some entry.name := by
  have hfound : (installed bundles configs).modelNamesLower[lowercase name]? = some entry.name := by
    simp only [installed, hentries, foldl_append, foldl_cons, foldl_nil,
      insertEntry, get_insert, if_pos hlower]
  simp [canonicalModelName, hfound]

/-- A name whose lower case no entry has is not found. -/
theorem entryFor_eq_none
    (hnone : ∀ other ∈ filedEntries bundles configs, lowercase other.name ≠ lowercase name) :
    entryFor (installed bundles configs) name = none := by
  have hlower : (installed bundles configs).modelNamesLower[lowercase name]? = none := by
    have hsame : ((filedEntries bundles configs).foldl insertEntry (∅, ∅)).2[lowercase name]? =
        (∅ : Table String)[lowercase name]? := lower_foldl_insertEntry_of_ne hnone
    exact hsame.trans (by simp)
  have hmissing : (installed bundles configs).models[name]? = none := by
    have hsame : ((filedEntries bundles configs).foldl insertEntry (∅, ∅)).1[name]? =
        (∅ : Table ModelEntry)[name]? :=
      get_foldl_insertEntry_of_ne fun other hother hname => hnone other hother (by rw [hname])
    exact hsame.trans (by simp)
  have habsent : name ∉ (installed bundles configs).models := by
    rw [Std.ExtTreeMap.mem_iff_isSome_getElem?, hmissing]
    simp
  simp [entryFor, canonicalModelName, hlower, habsent]

end SieCluster.BundleResolution
