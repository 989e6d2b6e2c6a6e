import SieCluster.Server.WorkerConfigs

/-!
# What a worker makes of one profile

The worker reads a config's profiles into typed ones and resolves them with its
own rules.  For every config it accepts, the fields it hashes of a profile are
those the control plane hashes of it with the batch tokens read as an integer,
whether it takes them from the model's own entry or from the entry it made for
that profile.
-/

namespace SieCluster.WorkerProfiles

open Tables Option Std.ExtTreeMap
open AdapterOptions
open Profiles
open ConfigRegistry (modelPoolName HashConfig)
open HashItems (nearestPath Resolves controlHashConfig)
open WorkerConfigs
open Fallible
open Streaming (Json)

section Options

section

variable (sections : Sections)

def sectionAt (key : String) : List (String × Json) :=
  if key = "loadtime" then sections.loadtime
  else if key = "runtime" then sections.runtime else []

theorem get_sectionTable (key : String) : (sectionTable sections)[key]? =
      if sectionAt sections key = [] then none else some (.object (sectionAt sections key)) := by
  have hlisted : ∀ entry : String × Json,
      (entry ∈ (([("loadtime", sections.loadtime), ("runtime", sections.runtime)].filter
        fun entry => entry.2 ≠ []).map fun entry => (entry.1, Json.object entry.2)) ↔
      sectionAt sections entry.1 ≠ [] ∧ .object (sectionAt sections entry.1) = entry.2) := by
    rintro ⟨name, value⟩
    unfold sectionAt
    by_cases hloadtime : name = "loadtime"
    · subst hloadtime
      simp
    · by_cases hruntime : name = "runtime"
      · subst hruntime
        simp
      · simp [hloadtime, hruntime]
  apply Option.ext
  intro value
  unfold sectionTable
  rw [insertAll_eq_some_iff, hlisted]
  · by_cases hsection : sectionAt sections key = []
    · simp [hsection]
    · simp [hsection]
  · intro entry hentry other hother hkey
    rw [← ((hlisted entry).1 hentry).2, ← ((hlisted other).1 hother).2, hkey]

theorem sectionAt_overlay (inherited child : Sections) (key : String) :
    sectionAt (overlaySections inherited child) key =
      if sectionAt child key = [] then sectionAt inherited key else sectionAt child key := by
  unfold sectionAt overlaySections
  split_ifs <;> simp_all

theorem compact_nil : compactAdapterOptionsForHash ⟨[], []⟩ = none := rfl

theorem compact_eq : compactAdapterOptionsForHash sections =
      if sectionTable sections = ∅ then none else some (.object (sectionTable sections)) := by
  have hempty : (sections.loadtime = [] ∧ sections.runtime = []) ↔ sectionTable sections = ∅ := by
    constructor
    · rintro ⟨hloadtime, hruntime⟩
      unfold sectionTable
      rw [hloadtime, hruntime]
      rfl
    · intro hnone
      have hget : ∀ key, sectionAt sections key = [] := by
        intro key
        by_contra hsection
        have hkey := get_sectionTable sections key
        rw [hnone, if_neg hsection] at hkey
        simp at hkey
      exact ⟨hget "loadtime", hget "runtime"⟩
  unfold compactAdapterOptionsForHash
  simp only [hempty]

/-- Options whose sections, the empty ones left out, are these collapse to them. -/
theorem canonicalize_eq_compact {fields : Table Json} {sections : Sections} (hget : ∀ key : String,
      (fields[key]?).filter (fun value => !isEmptyMap value) = (sectionTable sections)[key]?) :
    canonicalizeAdapterOptions (.object fields) = compactAdapterOptionsForHash sections := by
  have hcompact : (fields.filter fun _ value => !isEmptyMap value) = sectionTable sections := by
    apply ext_getElem?
    intro key
    rw [Std.ExtTreeMap.getElem?_filter']
    exact hget key
  have hfalsy : ((sectionTable sections).toList.all fun entry => isFalsy entry.2) = true ↔
      sectionTable sections = ∅ := by
    rw [toList_all fun _ value => isFalsy value]
    constructor
    · intro hall
      apply ext_getElem?
      intro key
      rw [get_sectionTable]
      by_cases hsection : sectionAt sections key = []
      · simp [hsection]
      · have hkey := hall key (.object (sectionAt sections key)) (by
          rw [get_sectionTable, if_neg hsection])
        simp [isFalsy, hsection] at hkey
    · intro hempty key value hvalue
      rw [hempty] at hvalue
      simp at hvalue
  unfold canonicalizeAdapterOptions
  rw [compact_eq]
  simp only [hcompact, hfalsy]

theorem sectionAt_object (fields : Table Json) (key : String) :
    sectionAt (sectionsOf (some (.object fields))) key =
      if key = "loadtime" ∨ key = "runtime" then sectionFields fields[key]? else [] := by
  unfold sectionAt
  by_cases hloadtime : key = "loadtime"
  · rw [if_pos hloadtime, if_pos (.inl hloadtime), hloadtime]
    rfl
  · by_cases hruntime : key = "runtime"
    · rw [if_neg hloadtime, if_pos hruntime, if_pos (.inr hruntime), hruntime]
      rfl
    · rw [if_neg hloadtime, if_neg hruntime, if_neg (by simp [hloadtime, hruntime])]

/-- A well-formed section is a mapping and reads back as itself. -/
theorem get_wellFormed {fields : Table Json}
    (hformed : wellFormedOptions (some (.object fields)) = true) (key : String) :
    (fields[key]? = none ∧ sectionAt (sectionsOf (some (.object fields))) key = []) ∨
      fields[key]? = some (.object (sectionAt (sectionsOf (some (.object fields))) key)) ∧
        (key = "loadtime" ∨ key = "runtime") := by
  have hall := (toList_all fun key value =>
    (decide (key = "loadtime") || decide (key = "runtime")) && isObject value).1 hformed key
  rw [sectionAt_object]
  cases hget : fields[key]? with
  | none =>
    left
    exact ⟨rfl, by split_ifs <;> rfl⟩
  | some value =>
    have hvalue := hall value hget
    simp only [Bool.and_eq_true, Bool.or_eq_true, decide_eq_true_eq] at hvalue
    obtain ⟨hkey, hobject⟩ := hvalue
    right
    rw [if_pos hkey]
    cases value with
    | object => exact ⟨rfl, hkey⟩
    | _ => cases hobject

theorem fieldsOf_compact :
    fieldsOf (compactAdapterOptionsForHash sections) = sectionTable sections := by
  rw [compact_eq]
  split_ifs with hempty
  · exact hempty.symm
  · rfl

end

/-- Laying well-formed options over inherited sections the way the control plane does gives
what the worker gets. -/
theorem merge_compact (inherited : Sections) {options : Option Options}
    (hformed : wellFormedOptions options = true) :
    mergeHashAdapterOptions (compactAdapterOptionsForHash inherited) options =
      compactAdapterOptionsForHash (overlaySections inherited (sectionsOf options)) := by
  have hsections : ∀ (sections : Sections) (key : String),
      ((sectionTable sections)[key]?).filter (fun value => !isEmptyMap value) =
        (sectionTable sections)[key]? := by
    intro sections key
    rw [get_sectionTable]
    cases hsection : sectionAt sections key with
    | nil => rfl
    | cons => rfl
  cases options with
  | none =>
    have hsame : overlaySections inherited (sectionsOf none) = inherited := rfl
    rw [hsame, mergeHashAdapterOptions, compact_eq]
    split_ifs with hempty
    · rfl
    · rw [bind_some, canonicalize_eq_compact (hsections inherited), compact_eq, if_neg hempty]
  | some options =>
    cases options with
    | plain => cases hformed
    | object child =>
      rw [mergeHashAdapterOptions, fieldsOf_compact]
      apply canonicalize_eq_compact
      intro key
      have hinherited := hsections inherited key
      rw [get_sectionTable] at hinherited
      rw [Std.ExtTreeMap.getElem?_union, Std.ExtTreeMap.getElem?_filter', get_sectionTable,
        get_sectionTable, sectionAt_overlay]
      rcases get_wellFormed hformed key with ⟨hnone, hsection⟩ | ⟨hsome, hkey⟩
      · rw [hnone, hsection]
        simpa using hinherited
      · rw [hsome]
        cases hsection : sectionAt (sectionsOf (some (.object child))) key with
        | nil =>
          have hreplaces : replaces key (.object []) = false := by
            rcases hkey with rfl | rfl <;> rfl
          simpa [filter_some, hreplaces] using hinherited
        | cons member rest =>
          have hreplaces : replaces key (.object (member :: rest)) = true := by
            simp [replaces, isEmptyMap]
          simp [filter_some, hreplaces, isEmptyMap]

theorem sectionsOf_compact (sections : Sections) :
    sectionsOf (compactAdapterOptionsForHash sections) = sections := by
  have hread : ∀ key, sectionFields (sectionTable sections)[key]? = sectionAt sections key := by
    intro key
    rw [get_sectionTable]
    split_ifs with hsection
    · rw [hsection]
      rfl
    · rfl
  rw [compact_eq]
  split_ifs with hempty
  · have hloadtime := hread "loadtime"
    have hruntime := hread "runtime"
    rw [hempty] at hloadtime hruntime
    obtain ⟨loadtime, runtime⟩ := sections
    cases (hloadtime : [] = loadtime)
    cases (hruntime : [] = runtime)
    rfl
  · unfold sectionsOf
    dsimp only
    rw [hread, hread]
    rfl

end Options

section Reading

/-- What the worker's validators leave of a config's profiles. -/
structure Loadable (profiles : Table ProfileConfig) : Prop where
  fields : ∀ (name : String) (profile : ProfileConfig), profiles[name]? = some profile →
    wellFormedOptions profile.adapterOptions = true ∧
      profile.maxBatchTokens.all (fun tokens => (readTokens tokens).isSome) = true
  standalone : ∀ (name : String) (profile : ProfileConfig), profiles[name]? = some profile →
    profile.extendsProfile = none →
      ∃ path tokens, profile.adapterPath = some path ∧
        profile.maxBatchTokens.bind readTokens = some tokens
  extending : ∀ (name : String) (profile : ProfileConfig) (parent : String),
    profiles[name]? = some profile → profile.extendsProfile = some parent →
      ∃ parentProfile, profiles[parent]? = some parentProfile ∧ parentProfile.extendsProfile = none

theorem get_readProfiles (raw : Table ProfileConfig) (name : String) :
    (readProfiles raw)[name]? = (raw[name]?).map readProfile :=
  Std.ExtTreeMap.getElem?_map

theorem validatePoolName_eq_ok [Letters]
    (hpool : validatePoolName raw.pool = .ok pool) (hconfig : config.pool = pool) :
    poolOf config = modelPoolName raw := by
  unfold poolOf modelPoolName
  rw [hconfig]
  cases hraw : raw.pool with
  | none =>
    rw [hraw] at hpool
    cases hpool
    rfl
  | some =>
    rw [hraw] at hpool
    unfold validatePoolName at hpool
    dsimp only at hpool
    split_ifs at hpool with hempty hformed
    · cases hpool
      dsimp only
      rw [if_pos hempty]
    · cases hpool
      dsimp only
      rw [if_neg hempty, if_neg hempty, canonicalPool_canonicalPool]

theorem validateProfiles_eq_ok
    (hoptions : ∀ entry ∈ raw.toList, checkFields entry.1 entry.2 = .ok ())
    (hvalid : validateProfiles (readProfiles raw) = .ok ()) : Loadable raw := by
  obtain ⟨-, -, hvalid⟩ := bind_eq_ok.1 hvalid
  have hprofile : ∀ (name : String) (profile : ProfileConfig), raw[name]? = some profile →
      validateProfile (readProfiles raw) name (readProfile profile) = .ok () := by
    intro name profile hget
    refine forM_eq_ok.1 hvalid (name, readProfile profile) ?_
    rw [mem_toList_iff_getElem?_eq_some, get_readProfiles, hget]
    rfl
  refine ⟨?_, ?_, ?_⟩
  · intro name profile hget
    have hfields := hoptions (name, profile) (mem_toList_iff_getElem?_eq_some.2 hget)
    obtain ⟨⟨⟩, hformed, hrest⟩ := bind_eq_ok.1 hfields
    obtain ⟨⟨⟩, htokens, -⟩ := bind_eq_ok.1 hrest
    exact ⟨ensure_eq_ok.1 hformed, ensure_eq_ok.1 htokens⟩
  · intro name profile hget hstandalone
    have hchecked := hprofile name profile hget
    unfold validateProfile at hchecked
    have hnone : (readProfile profile).extendsProfile = none := hstandalone
    rw [hnone] at hchecked
    obtain ⟨⟨⟩, hpath, htokens⟩ := bind_eq_ok.1 hchecked
    obtain ⟨path, hpath⟩ := isSome_iff_exists.1 (ensure_eq_ok.1 hpath)
    obtain ⟨tokens, htokens⟩ := isSome_iff_exists.1 (ensure_eq_ok.1 htokens)
    exact ⟨path, tokens, hpath, htokens⟩
  · intro name profile parent hget hextends
    have hchecked := hprofile name profile hget
    unfold validateProfile at hchecked
    have hsome : (readProfile profile).extendsProfile = some parent := hextends
    rw [hsome] at hchecked
    dsimp only at hchecked
    rw [get_readProfiles] at hchecked
    cases hparent : raw[parent]? with
    | none =>
      rw [hparent] at hchecked
      cases hchecked
    | some parentProfile =>
      rw [hparent] at hchecked
      exact ⟨parentProfile, rfl, isNone_iff_eq_none.1 (ensure_eq_ok.1 hchecked)⟩

/-- The worker's entry of a model itself. -/
structure BaseEntry [Letters] (raw : ModelConfig) (config : Config) : Prop where
  id : config.sieId = raw.name
  revision : config.hfRevision = raw.hfRevision
  pool : poolOf config = modelPoolName raw
  profiles : config.profiles = readProfiles raw.profiles
  source : config.syntheticProfileVariantSource = none

theorem modelConfig_eq_ok [Letters]
    (hread : modelConfig raw = .ok config) : Loadable raw.profiles ∧ BaseEntry raw config := by
  unfold modelConfig at hread
  obtain ⟨⟨⟩, hfields, hread⟩ := bind_eq_ok.1 hread
  obtain ⟨pool, hpool, hread⟩ := bind_eq_ok.1 hread
  obtain ⟨⟨⟩, hvalid, hread⟩ := bind_eq_ok.1 hread
  cases hread
  exact ⟨validateProfiles_eq_ok (forM_eq_ok.1 hfields) hvalid,
    ⟨rfl, rfl, validatePoolName_eq_ok hpool rfl, rfl, rfl⟩⟩

end Reading

section Resolving

/-- The hashed fields of a resolved profile. -/
def hashOf (resolved : ResolvedProfile) : HashConfig :=
  ⟨compactAdapterOptionsForHash resolved.adapterOptions, some resolved.adapterPath,
    resolved.computePrecision, some (.integer resolved.maxBatchTokens)⟩

/-- The hashed fields with the batch tokens as a typed config holds them. -/
def typed (config : HashConfig) : HashConfig :=
  { config with
    maxBatchTokens := (config.maxBatchTokens.bind readTokens).map .integer }

def workerHashConfig (profiles : Table ProfileConfig) (name : String) : HashConfig :=
  typed (controlHashConfig profiles name)

/-- Everything the worker and the control plane make of one profile. -/
structure ResolvesTo (profiles : Table ProfileConfig) (name : String)
    (resolved : ResolvedProfile) : Prop where
  complete : Resolves profiles name
  path : nearestPath profiles name = some resolved.adapterPath
  worker : workerHashConfig profiles name = hashOf resolved
  resolve : resolveProfile (readProfiles profiles) name = .ok resolved
  hash : profileConfigForHash (readProfiles profiles) name = .ok (hashOf resolved)
  promoted : ∀ profile, profiles[name]? = some profile →
    variantDefault (readProfiles profiles) name (readProfile profile) = .ok resolved.toProfile

/-- One profile laid over inherited fields, by either side. -/
theorem overlay_agrees {inherited : HashConfig} {sections : Sections}
    (hfields : wellFormedOptions profile.adapterOptions = true ∧
      profile.maxBatchTokens.all (fun tokens => (readTokens tokens).isSome) = true)
    (hsections : inherited.adapterOptions = compactAdapterOptionsForHash sections) :
    typed (ConfigRegistry.overlayHashConfig profile inherited) =
      overlayForHash (readProfile profile) (typed inherited) := by
  have htokens : ((profile.maxBatchTokens.or inherited.maxBatchTokens).bind readTokens).map
        BatchTokens.integer = ((profile.maxBatchTokens.bind readTokens).map .integer).or
          ((inherited.maxBatchTokens.bind readTokens).map .integer) := by
    cases hraw : profile.maxBatchTokens with
    | none => rfl
    | some tokens =>
      have hreads := hfields.2
      rw [hraw, all_some] at hreads
      obtain ⟨count, hcount⟩ := isSome_iff_exists.1 hreads
      simp [hcount]
  unfold typed ConfigRegistry.overlayHashConfig overlayForHash
  rw [hsections, merge_compact sections hfields.1, sectionsOf_compact]
  exact congrArg (HashConfig.mk _ _ _) htokens

theorem overlay_toProfile (resolved : ResolvedProfile) :
    overlayForHash resolved.toProfile ⟨none, none, none, none⟩ = hashOf resolved := by
  have hsections : overlaySections (sectionsOf none) resolved.adapterOptions =
      resolved.adapterOptions := by
    unfold overlaySections
    cases hread : resolved.adapterOptions with
    | mk loadtime runtime => cases loadtime <;> cases runtime <;> rfl
  unfold overlayForHash hashOf ResolvedProfile.toProfile
  dsimp only
  rw [hsections, or_none, or_none, or_none]
  rfl

theorem overlay_root
    (hpath : profile.adapterPath = some path)
    (htokens : profile.maxBatchTokens.bind readTokens = some tokens) :
    overlayForHash (readProfile profile) ⟨none, none, none, none⟩ =
      hashOf ⟨tokens, profile.computePrecision, path, sectionsOf profile.adapterOptions⟩ := by
  rw [← overlay_toProfile]
  unfold overlayForHash readProfile ResolvedProfile.toProfile
  rw [hpath, htokens]

theorem size_pos {Value : Type} {table : Table Value} {key : String} {value : Value}
    (hget : table[key]? = some value) : ∃ count, table.size = count + 1 := by
  refine Nat.exists_eq_succ_of_ne_zero fun hsize => ?_
  have hempty : table = ∅ := eq_empty_iff_size_eq_zero.2 hsize
  rw [hempty] at hget
  simp at hget

theorem lineage_child {parent : String} {parentProfile : ProfileConfig}
    (hget : profiles[name]? = some profile) (hextends : profile.extendsProfile = some parent)
    (hparent : profiles[parent]? = some parentProfile) (hnonempty : parent ≠ "")
    (hroot : parentProfile.extendsProfile = none) :
    lineage controlParent profiles name = ⟨[profile, parentProfile], true⟩ := by
  have hne : parent ≠ name := by
    rintro rfl
    rw [hget] at hparent
    cases hparent
    rw [hextends] at hroot
    cases hroot
  obtain ⟨count, hcount⟩ := size_pos hget
  unfold lineage
  rw [hcount]
  simp [climb, hget, controlParent, hextends, hparent, hroot, hne, filter_some, hnonempty]

/-- The fields of a child over those of its parent, as the worker resolves them. -/
def childOver (child parentProfile : ProfileConfig) (path : String) (tokens : ℤ) :
    ResolvedProfile where
  maxBatchTokens := (child.maxBatchTokens.bind readTokens).getD tokens
  computePrecision := child.computePrecision.or parentProfile.computePrecision
  adapterPath := child.adapterPath.getD path
  adapterOptions := overlaySections (sectionsOf parentProfile.adapterOptions)
    (sectionsOf child.adapterOptions)

variable (hload : Loadable profiles)
include hload

theorem resolvesTo_root (hget : profiles[name]? = some profile)
    (hroot : profile.extendsProfile = none) : ∃ resolved, ResolvesTo profiles name resolved := by
  obtain ⟨path, tokens, hpath, htokens⟩ := hload.standalone name profile hget hroot
  have hline : lineage controlParent profiles name = ⟨[profile], true⟩ :=
    lineage_root hget (by rw [controlParent, hroot]; rfl)
  have hread : (readProfiles profiles)[name]? = some (readProfile profile) := by
    rw [get_readProfiles, hget]
    rfl
  have hextends : (readProfile profile).extendsProfile = none := hroot
  have hcomplete : completeProfile name (readProfile profile) =
      .ok ⟨tokens, profile.computePrecision, path, sectionsOf profile.adapterOptions⟩ := by
    unfold completeProfile readProfile
    rw [hpath, htokens]
  refine ⟨⟨tokens, profile.computePrecision, path, sectionsOf profile.adapterOptions⟩,
    ⟨?_, ?_, ?_, ?_, ?_, ?_⟩⟩
  · unfold Resolves
    rw [hline]
  · unfold nearestPath
    rw [hline, List.findSome?_cons, hpath]
  · unfold workerHashConfig controlHashConfig
    rw [hline, List.foldr_cons, List.foldr_nil, ← overlay_root hpath htokens]
    exact overlay_agrees (hload.fields name profile hget) compact_nil.symm
  · unfold resolveProfile
    rw [hread]
    dsimp only
    rw [hextends]
    exact hcomplete
  · unfold profileConfigForHash resolvedProfileForHash
    rw [hread]
    dsimp only
    rw [hextends, if_neg List.not_mem_nil]
    exact congrArg Except.ok (overlay_root hpath htokens)
  · intro found hfound
    rw [hget] at hfound
    cases hfound
    unfold variantDefault
    rw [hextends]
    unfold ResolvedProfile.toProfile readProfile
    rw [hroot, hpath, htokens]

theorem resolvesTo_child (hplain : "" ∉ profiles) (hget : profiles[name]? = some profile)
    {parent : String} (hextends : profile.extendsProfile = some parent) :
    ∃ resolved, ResolvesTo profiles name resolved := by
  obtain ⟨parentProfile, hparent, hroot⟩ := hload.extending name profile parent hget hextends
  obtain ⟨path, tokens, hpath, htokens⟩ :=
    hload.standalone parent parentProfile hparent hroot
  have hnonempty : parent ≠ "" := by
    rintro rfl
    refine hplain ?_
    rw [mem_iff_isSome_getElem?, hparent]
    rfl
  have hline := lineage_child hget hextends hparent hnonempty hroot
  have hread : ∀ (key : String) (found : ProfileConfig), profiles[key]? = some found →
      (readProfiles profiles)[key]? = some (readProfile found) := by
    intro key found hfound
    rw [get_readProfiles, hfound]
    rfl
  have hsome : (readProfile profile).extendsProfile = some parent := hextends
  have hnone : (readProfile parentProfile).extendsProfile = none := hroot
  have hresolve : resolveProfile (readProfiles profiles) name =
      .ok (childOver profile parentProfile path tokens) := by
    unfold resolveProfile
    rw [hread name profile hget]
    dsimp only
    rw [hsome]
    dsimp only
    rw [hread parent parentProfile hparent]
    unfold completeProfile overlayProfile readProfile
    dsimp only
    rw [hpath, htokens, or_some, or_some]
    rfl
  have hoverlay : overlayForHash (readProfile profile)
      (overlayForHash (readProfile parentProfile) ⟨none, none, none, none⟩) =
        hashOf (childOver profile parentProfile path tokens) := by
    rw [overlay_root hpath htokens]
    unfold overlayForHash hashOf childOver readProfile
    dsimp only
    rw [sectionsOf_compact, or_some, or_some, getD_map]
  refine ⟨childOver profile parentProfile path tokens, ⟨?_, ?_, ?_, hresolve, ?_, ?_⟩⟩
  · unfold Resolves
    rw [hline]
  · unfold nearestPath childOver
    rw [hline, List.findSome?_cons, List.findSome?_cons, hpath]
    cases profile.adapterPath <;> rfl
  · unfold workerHashConfig controlHashConfig
    have hparentFields := hload.fields parent parentProfile hparent
    rw [hline, List.foldr_cons, List.foldr_cons, List.foldr_nil, ← hoverlay,
      overlay_agrees (hload.fields name profile hget),
      overlay_agrees hparentFields compact_nil.symm]
    · rfl
    · exact merge_compact ⟨[], []⟩ hparentFields.1
  · have hne : parent ∉ [name] := by
      rw [List.mem_singleton]
      rintro rfl
      rw [hget] at hparent
      cases hparent
      rw [hextends] at hroot
      cases hroot
    have hfilter : (some parent).filter (fun text => decide (text ≠ "")) = some parent := by
      rw [filter_some, if_pos (decide_eq_true hnonempty)]
    obtain ⟨count, hcount⟩ := size_pos (hread name profile hget)
    unfold profileConfigForHash
    rw [hcount, resolvedProfileForHash, hread name profile hget]
    dsimp only
    rw [hsome, hfilter, if_neg List.not_mem_nil]
    dsimp only
    rw [resolvedProfileForHash, hread parent parentProfile hparent]
    dsimp only
    rw [hnone, if_neg hne]
    exact congrArg Except.ok hoverlay
  · intro found hfound
    rw [hget] at hfound
    cases hfound
    unfold variantDefault
    rw [hsome]
    dsimp only
    rw [hresolve]
    rfl

theorem resolvesTo_of_loadable (hplain : "" ∉ profiles)
    (hname : name ∈ profiles) : ∃ resolved, ResolvesTo profiles name resolved := by
  obtain ⟨profile, hget⟩ := Tables.exists_of_mem hname
  cases hextends : profile.extendsProfile with
  | none => exact resolvesTo_root hload hget hextends
  | some => exact resolvesTo_child hload hplain hget hextends

end Resolving

end SieCluster.WorkerProfiles
