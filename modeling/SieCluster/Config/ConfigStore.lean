import SieCluster.Config.ModelIds
import SieCluster.Core.Runs
import SieCluster.Core.Substitution
import SieCluster.Core.Tables

/-!
# The config store

The control plane keeps one file for each model it was given through the API.
The file name is the model id with every `/` written as `__`, and listing reads
the ids back from the file names.  The store is meant to be a map from ids to
the YAML last written for them.
-/

namespace SieCluster.ConfigStore

open List hiding ext_getElem map
open Option hiding map mem_map
open Std.ExtTreeMap
open Substitution ModelIds Tables

def separator : List Char := ['_', '_']

def yamlSuffix : List Char := ['.', 'y', 'a', 'm', 'l']

def removeSuffix (suffix text : List Char) : List Char :=
  if suffix <:+ text then text.take (text.length - suffix.length) else text

def fileOf (modelId : String) : String :=
  String.ofList (substitute '/' separator modelId.toList ++ yamlSuffix)

/-- A directory, or a bucket that is reached through URLs. -/
inductive Backend where
  | directory
  | objects

/-- The characters that `urlparse` deletes from a URL. -/
def urlUnsafe : List Char := ['\t', '\r', '\n']

/-- The name that a file has in the backend.  The accepted ids have no symbol that would end
the path of a URL. -/
def Backend.stored : Backend → List Char → List Char
  | .directory, name => name
  | .objects, name => name.filter fun letter => letter ∉ urlUnsafe

def keyOf (backend : Backend) (modelId : String) : String :=
  String.ofList (backend.stored (fileOf modelId).toList)

/-- The model id that listing reads back from a file name. -/
def idOf (file : String) : String :=
  String.ofList (replaceAll separator ['/'] (removeSuffix yamlSuffix file.toList))

inductive StoreError where
  | reservedSequence (modelId : String)
  deriving DecidableEq

def isReserved (modelId : String) : Bool :=
  decide (separator <:+: modelId.toList)

def validateModelId (modelId : String) : Except StoreError Unit :=
  if isReserved modelId then .error (.reservedSequence modelId) else .ok ()

/-- The files under `models/` and their contents. -/
abbrev Files := Table String

section

variable (backend : Backend) (files : Files)

def writeModel (modelId configYaml : String) : Except StoreError Files := do
  validateModelId modelId
  return files.insert (keyOf backend modelId) configYaml

def readModel (modelId : String) : Except StoreError (Option String) := do
  validateModelId modelId
  return files[keyOf backend modelId]?

/-- Whether a stored file was deleted, and the files after it. -/
def deleteModel (modelId : String) : Except StoreError (Bool × Files) := do
  validateModelId modelId
  let key := keyOf backend modelId
  return if key ∈ files then (true, files.erase key) else (false, files)

def listModels : List String :=
  (files.keys.map idOf).insertionSort (· ≤ ·)

end

variable {Config : Type}

section Loading

variable (parse : String → Option Config) (backend : Backend)

/-- What loading takes from one file: nothing if it is missing, empty or does not parse. -/
def loadContent (content : Option String) : Option Config :=
  (content.filter (· ≠ "")).bind parse

def loadModel (files : Files) (loaded : Table Config) (modelId : String) :
    Except StoreError (Table Config) := do
  let content ← readModel backend files modelId
  return match loadContent parse content with
    | none => loaded
    | some config => loaded.insert modelId config

def loadAllModels (files : Files) : Except StoreError (Table Config) :=
  (listModels files).foldlM (loadModel parse backend files) ∅

/-- A YAML text that loads. -/
structure Document where
  text : String
  config : Config
  nonempty : text ≠ ""
  parses : parse text = some config

/-- The calls whose sequences are considered. -/
inductive Operation where
  | write (modelId : String) (document : Document parse)
  | delete (modelId : String)

/-- The store beside the map it is meant to be.  A call that raises changes neither. -/
structure World where
  files : Files
  documents : Table (Document parse)

def World.empty : World parse := ⟨∅, ∅⟩

variable {parse} (world : World parse)

def step : Operation parse → Option (World parse)
  | .write modelId document =>
    match writeModel backend world.files modelId document.text with
    | .ok files => some ⟨files, world.documents.insert modelId document⟩
    | .error _ => some world
  | .delete modelId =>
    match deleteModel backend world.files modelId with
    | .ok (_, files) => some ⟨files, world.documents.erase modelId⟩
    | .error _ => some world

/-- Listing and loading return exactly the map. -/
def Faithful : Prop :=
  listModels world.files = world.documents.keys ∧ loadAllModels parse backend world.files =
      .ok (world.documents.map fun _ document => document.config)

/-- The id passes the check for `__`, but has an underscore before a slash, so that its file
name has the separator one place too early, or a symbol that the backend drops. -/
def Confusable (modelId : String) : Prop :=
  isReserved modelId = false ∧
    (['_', '/'] <:+: modelId.toList ∨ backend.stored modelId.toList ≠ modelId.toList)

instance (modelId : String) : Decidable (Confusable backend modelId) :=
  inferInstanceAs (Decidable (_ ∧ _))

/-- The call writes no confusable id, and deletes none whose file is stored. -/
def Separate : Operation parse → Prop
  | .write modelId _ => ¬ Confusable backend modelId
  | .delete modelId => ¬ (Confusable backend modelId ∧ keyOf backend modelId ∈ world.files)

end Loading

/-! ## File names -/

theorem removeSuffix_append (text suffix : List Char) :
    removeSuffix suffix (text ++ suffix) = text := by
  simp [removeSuffix]

theorem slash_notMem_written (modelId : String) :
    '/' ∉ substitute '/' separator modelId.toList := by
  intro hmem
  rcases mem_substitute _ _ hmem with hseparator | ⟨-, hself⟩
  · exact absurd hseparator (by decide)
  · exact hself rfl

theorem idOf_fileOf (modelId : String) : idOf (fileOf modelId) =
      String.ofList (replaceAll separator ['/'] (substitute '/' separator modelId.toList)) := by
  simp only [idOf, fileOf, String.toList_ofList, removeSuffix_append]

/-- A file name is the name of the id it is listed under. -/
theorem fileOf_idOf_fileOf (modelId : String) :
    fileOf (idOf (fileOf modelId)) = fileOf modelId := by
  rw [idOf_fileOf, fileOf, String.toList_ofList,
    substitute_replaceAll (slash_notMem_written modelId) (by decide)]
  rfl

/-- In an id without `__`, a separator can only begin early at an underscore before a
slash. -/
theorem falseMatch_iff (text : List Char) (hreserved : ¬ separator <:+: text) :
    FalseMatch '/' separator text ↔ ['_', '/'] <:+: text := by
  induction text with
  | nil => simp [not_falseMatch_nil]
  | cons letter rest ih =>
    rw [falseMatch_cons, ih fun hwithin => hreserved (hwithin.trans (infix_cons infix_rfl)),
      infix_cons_iff]
    refine or_congr_left ?_
    by_cases hslash : letter = '/'
    · simp [hslash, cons_prefix_cons]
    · rw [substitute_cons_of_ne _ _ hslash, and_iff_right hslash, separator,
        cons_prefix_cons, cons_prefix_cons]
      refine and_congr_right fun hletter => ?_
      cases rest with
      | nil => simp
      | cons next tail =>
        by_cases hnext : next = '/'
        · simp [hnext, cons_prefix_cons]
        · -- A second underscore would be the reserved sequence.
          have hplain : next ≠ '_' := by
            rintro rfl
            exact hreserved (hletter ▸ (prefix_append ['_', '_'] tail).isInfix)
          simp [substitute_cons_of_ne _ _ hnext, cons_prefix_cons, Ne.symm hnext, Ne.symm hplain]

theorem idOf_fileOf_iff (hreserved : isReserved modelId = false) :
    idOf (fileOf modelId) = modelId ↔ ¬ ['_', '/'] <:+: modelId.toList := by
  have hplain : ¬ separator <:+: modelId.toList := of_decide_eq_false hreserved
  rw [idOf_fileOf, ← falseMatch_iff _ hplain, ← replaceAll_substitute_iff (by decide),
    ← String.toList_inj, String.toList_ofList]

/-- The names in a backend are file names, of ids without what it drops. -/
theorem keyOf_eq_fileOf (backend : Backend) (modelId : String) :
    keyOf backend modelId = fileOf (String.ofList (backend.stored modelId.toList)) := by
  cases backend with
  | directory => simp [keyOf, Backend.stored]
  | objects =>
    simp only [keyOf, fileOf, Backend.stored, String.toList_ofList, filter_append]
    rw [filter_substitute '/' separator rfl rfl]
    rfl

/-- Nothing is dropped from an id that was read back from a name in the backend. -/
theorem stored_idOf (backend : Backend) (modelId : String) :
    backend.stored (idOf (keyOf backend modelId)).toList =
      (idOf (keyOf backend modelId)).toList := by
  cases backend with
  | directory => rfl
  | objects =>
    refine filter_eq_self.2 fun letter hletter => ?_
    rw [keyOf_eq_fileOf, idOf_fileOf, String.toList_ofList, String.toList_ofList] at hletter
    rcases mem_replaceAll _ hletter with hslash | hwritten
    · rw [mem_singleton.1 hslash]
      decide
    · rcases mem_substitute _ _ hwritten with hseparator | ⟨hkept, -⟩
      · obtain rfl : letter = '_' := by simpa [separator] using hseparator
        decide
      · exact (mem_filter.1 hkept).2

theorem keyOf_idOf_keyOf (backend : Backend) (modelId : String) :
    keyOf backend (idOf (keyOf backend modelId)) = keyOf backend modelId := by
  rw [keyOf_eq_fileOf backend (idOf _), stored_idOf, String.ofList_toList, keyOf_eq_fileOf,
    fileOf_idOf_fileOf]

theorem idOf_keyOf_iff (hreserved : isReserved modelId = false) :
    idOf (keyOf backend modelId) = modelId ↔ ¬ Confusable backend modelId := by
  rw [Confusable, and_iff_right hreserved, not_or, not_not]
  by_cases hkept : backend.stored modelId.toList = modelId.toList
  · rw [keyOf_eq_fileOf, hkept, String.ofList_toList, idOf_fileOf_iff hreserved,
      and_iff_left rfl]
  · refine iff_of_false (fun hread => hkept ?_) fun hboth => hkept hboth.2
    rw [← hread]
    exact stored_idOf backend modelId

/-! ## Files and documents -/

section Mirroring

variable {parse : String → Option Config} {backend : Backend}

variable (backend) in
/-- Every document has its own file, and every file is some document's. -/
structure Mirrors (world : World parse) : Prop where
  stored : ∀ (modelId : String) (document : Document parse),
    world.documents[modelId]? = some document →
      isReserved modelId = false ∧ ¬ Confusable backend modelId ∧
        world.files[keyOf backend modelId]? = some document.text
  owned : ∀ file ∈ world.files, ∃ modelId ∈ world.documents, file = keyOf backend modelId

variable {world : World parse}

section

variable (hmirrors : Mirrors backend world)
include hmirrors

theorem Mirrors.mem_files (hmodel : modelId ∈ world.documents) :
    keyOf backend modelId ∈ world.files := by
  obtain ⟨document, hdocument⟩ := Tables.exists_of_mem hmodel
  exact mem_of_get (hmirrors.stored modelId document hdocument).2.2

theorem Mirrors.idOf_keyOf (hmodel : modelId ∈ world.documents) :
    idOf (keyOf backend modelId) = modelId := by
  obtain ⟨document, hdocument⟩ := Tables.exists_of_mem hmodel
  obtain ⟨hreserved, hconfusable, -⟩ := hmirrors.stored modelId document hdocument
  exact (idOf_keyOf_iff hreserved).2 hconfusable

theorem Mirrors.listModels_eq : listModels world.files = world.documents.keys := by
  apply insertionSort_eq_keys
  · refine Nodup.map_on ?_ nodup_keys
    intro first hfirst second hsecond hsame
    obtain ⟨firstId, hfirstId, rfl⟩ := hmirrors.owned first (Std.ExtTreeMap.mem_keys.1 hfirst)
    obtain ⟨secondId, hsecondId, rfl⟩ := hmirrors.owned second (Std.ExtTreeMap.mem_keys.1 hsecond)
    rw [hmirrors.idOf_keyOf hfirstId, hmirrors.idOf_keyOf hsecondId] at hsame
    rw [hsame]
  · intro modelId
    rw [List.mem_map]
    constructor
    · rintro ⟨file, hfile, rfl⟩
      obtain ⟨owner, howner, rfl⟩ := hmirrors.owned file (Std.ExtTreeMap.mem_keys.1 hfile)
      rwa [hmirrors.idOf_keyOf howner]
    · intro hmodel
      exact ⟨keyOf backend modelId, mem_keys.2 (hmirrors.mem_files hmodel),
        hmirrors.idOf_keyOf hmodel⟩

/-- Loading some of the documents. -/
theorem Mirrors.load (modelIds : List String) : (∀ modelId ∈ modelIds, modelId ∈ world.documents) →
    ∀ loaded : Table Config, ∃ result : Table Config,
      modelIds.foldlM (loadModel parse backend world.files) loaded = .ok result ∧
      ∀ key : String, result[key]? =
        if key ∈ modelIds then (world.documents[key]?).map Document.config else loaded[key]? := by
  induction modelIds with
  | nil => exact fun _ loaded => ⟨loaded, rfl, by simp⟩
  | cons modelId _ ih =>
    intro hknown loaded
    obtain ⟨document, hdocument⟩ := mem_iff_isSome_getElem?.1
      (hknown modelId mem_cons_self) |> isSome_iff_exists.1
    obtain ⟨hreserved, -, hfile⟩ := hmirrors.stored modelId document hdocument
    have hread : readModel backend world.files modelId = .ok (some document.text) := by
      simp [readModel, validateModelId, hreserved, hfile]
    have hload : loadModel parse backend world.files loaded modelId =
        .ok (loaded.insert modelId document.config) := by
      simp [loadModel, hread, loadContent, filter_some, document.nonempty, document.parses]
    obtain ⟨result, hresult, hkeys⟩ :=
      ih (fun other hother => hknown other (mem_cons_of_mem _ hother))
        (loaded.insert modelId document.config)
    refine ⟨result, ?_, ?_⟩
    · rw [foldlM_cons, hload]
      exact hresult
    · intro key
      rw [hkeys, get_insert]
      by_cases hkey : key = modelId
      · simp [hkey, hdocument]
      · simp [hkey, Ne.symm hkey]

theorem Mirrors.faithful : Faithful backend world := by
  refine ⟨hmirrors.listModels_eq, ?_⟩
  obtain ⟨result, hresult, hkeys⟩ := hmirrors.load world.documents.keys
    (fun modelId => Std.ExtTreeMap.mem_keys.1) ∅
  rw [loadAllModels, hmirrors.listModels_eq, hresult]
  congr 1
  apply Std.ExtTreeMap.ext_getElem?
  intro key
  rw [hkeys, Std.ExtTreeMap.getElem?_map]
  by_cases hkey : key ∈ world.documents
  · rw [if_pos (mem_keys.2 hkey)]
  · rw [if_neg (mt Std.ExtTreeMap.mem_keys.1 hkey), Std.ExtTreeMap.getElem?_eq_none hkey]
    simp

end

/-! ## One call -/

def Operation.modelId : Operation parse → String
  | .write modelId _ => modelId
  | .delete modelId => modelId

theorem step_reserved (hreserved : isReserved operation.modelId = true) :
    step backend world operation = some world := by
  cases operation with
  | write modelId =>
    have hmodel : isReserved modelId = true := hreserved
    simp [step, writeModel, validateModelId, hmodel]
  | delete modelId =>
    have hmodel : isReserved modelId = true := hreserved
    simp [step, deleteModel, validateModelId, hmodel]

theorem step_write (document : Document parse) (hreserved : isReserved modelId = false) :
    step backend world (.write modelId document) =
      some ⟨world.files.insert (keyOf backend modelId) document.text,
        world.documents.insert modelId document⟩ := by
  simp [step, writeModel, validateModelId, hreserved]

theorem step_delete (hreserved : isReserved modelId = false) :
    step backend world (.delete modelId) =
      some ⟨world.files.erase (keyOf backend modelId), world.documents.erase modelId⟩ := by
  have herase : keyOf backend modelId ∉ world.files →
      world.files.erase (keyOf backend modelId) = world.files := by
    intro habsent
    apply Std.ExtTreeMap.ext_getElem?
    intro file
    rw [get_erase]
    by_cases hfile : keyOf backend modelId = file
    · rw [if_pos hfile, ← hfile, Std.ExtTreeMap.getElem?_eq_none habsent]
    · rw [if_neg hfile]
  by_cases hstored : keyOf backend modelId ∈ world.files
  · simp [step, deleteModel, validateModelId, hreserved, hstored]
  · simp [step, deleteModel, validateModelId, hreserved, hstored, herase hstored]

section

variable (hmirrors : Mirrors backend world)
include hmirrors

theorem not_confusable_of_mem (hmodel : modelId ∈ world.documents) :
    ¬ Confusable backend modelId := by
  obtain ⟨document, hdocument⟩ := Tables.exists_of_mem hmodel
  exact (hmirrors.stored modelId document hdocument).2.1

/-- Ids that read back keep their files apart. -/
theorem keyOf_ne (hread : idOf (keyOf backend modelId) = modelId)
    (hother : other ∈ world.documents) (hne : modelId ≠ other) :
    keyOf backend modelId ≠ keyOf backend other := by
  intro hsame
  rw [hsame, hmirrors.idOf_keyOf hother] at hread
  exact hne hread.symm

theorem Mirrors.write (document : Document parse)
    (hreserved : isReserved modelId = false) (hconfusable : ¬ Confusable backend modelId) :
    Mirrors backend ⟨world.files.insert (keyOf backend modelId) document.text,
      world.documents.insert modelId document⟩ where
  stored := by
    intro other found hfound
    rw [get_insert] at hfound ⊢
    by_cases hsame : modelId = other
    · subst hsame
      rw [if_pos rfl] at hfound ⊢
      cases hfound
      exact ⟨hreserved, hconfusable, rfl⟩
    · rw [if_neg hsame] at hfound
      have hfiles := keyOf_ne hmirrors ((idOf_keyOf_iff hreserved).2 hconfusable)
        (mem_of_get hfound) hsame
      rw [if_neg hfiles]
      exact hmirrors.stored other found hfound
  owned := by
    intro file hfile
    rcases mem_insert.1 hfile with hnew | hold
    · exact ⟨modelId, mem_insert_self, (compare_eq_iff_eq.1 hnew).symm⟩
    · obtain ⟨owner, howner, rfl⟩ := hmirrors.owned file hold
      exact ⟨owner, mem_insert.2 (.inr howner), rfl⟩

theorem Mirrors.delete (hreserved : isReserved modelId = false)
    (hseparate : ¬ (Confusable backend modelId ∧ keyOf backend modelId ∈ world.files)) :
    Mirrors backend ⟨world.files.erase (keyOf backend modelId), world.documents.erase modelId⟩ where
  stored := by
    intro other found hfound
    rw [get_erase] at hfound ⊢
    by_cases hsame : modelId = other
    · rw [if_pos hsame] at hfound
      cases hfound
    · rw [if_neg hsame] at hfound
      have hother := mem_of_get hfound
      -- A confusable id that is deleted has no file, so it shares none with a document.
      have hfiles : keyOf backend modelId ≠ keyOf backend other := by
        by_cases hconfusable : Confusable backend modelId
        · intro heq
          refine hseparate ⟨hconfusable, ?_⟩
          rw [heq]
          exact hmirrors.mem_files hother
        · exact keyOf_ne hmirrors ((idOf_keyOf_iff hreserved).2 hconfusable) hother hsame
      rw [if_neg hfiles]
      exact hmirrors.stored other found hfound
  owned := by
    intro file hfile
    obtain ⟨hne, hold⟩ := mem_erase.1 hfile
    obtain ⟨owner, howner, rfl⟩ := hmirrors.owned file hold
    refine ⟨owner, mem_erase.2 ⟨?_, howner⟩, rfl⟩
    intro hsame
    rw [compare_eq_iff_eq.1 hsame] at hne
    exact hne (compare_eq_iff_eq.2 rfl)

theorem Mirrors.step {next : World parse} (hseparate : Separate backend world operation)
    (hstep : step backend world operation = some next) : Mirrors backend next := by
  cases hreserved : isReserved operation.modelId with
  | true =>
    rw [step_reserved hreserved, some.injEq] at hstep
    exact hstep ▸ hmirrors
  | false =>
    cases operation with
    | write modelId document =>
      have hmodel : isReserved modelId = false := hreserved
      rw [step_write document hmodel, some.injEq] at hstep
      exact hstep ▸ hmirrors.write document hmodel hseparate
    | delete modelId =>
      have hmodel : isReserved modelId = false := hreserved
      rw [step_delete hmodel, some.injEq] at hstep
      exact hstep ▸ hmirrors.delete hmodel hseparate

end

/-! ## A confusable id is never listed -/

theorem Faithful.mem_iff (hfaithful : Faithful backend world) (modelId : String) :
    modelId ∈ world.documents ↔ ∃ file ∈ world.files, idOf file = modelId := by
  rw [← Std.ExtTreeMap.mem_keys, ← hfaithful.1, listModels, List.mem_insertionSort, List.mem_map]
  simp only [Std.ExtTreeMap.mem_keys]

/-- Files that were written for some id. -/
theorem keyOf_eq_of_idOf (hmirrors : Mirrors backend world) (hfile : file ∈ world.files) :
    keyOf backend (idOf file) = file := by
  obtain ⟨owner, -, rfl⟩ := hmirrors.owned file hfile
  exact keyOf_idOf_keyOf backend owner

theorem separate_of_faithful {next : World parse} (hmirrors : Mirrors backend world)
    (hstep : ConfigStore.step backend world operation = some next)
    (hfaithful : Faithful backend next) :
    Separate backend world operation := by
  cases operation with
  | write modelId document =>
    intro hconfusable
    rw [step_write document hconfusable.1, some.injEq] at hstep
    subst hstep
    obtain ⟨file, hfile, hlisted⟩ :=
      (hfaithful.mem_iff modelId).1 mem_insert_self
    have hname : keyOf backend modelId = file := by
      rcases mem_insert.1 hfile with hnew | hold
      · exact compare_eq_iff_eq.1 hnew
      · rw [← hlisted, keyOf_eq_of_idOf hmirrors hold]
    rw [← hname] at hlisted
    exact (idOf_keyOf_iff hconfusable.1).1 hlisted hconfusable
  | delete modelId =>
    rintro ⟨hconfusable, hstored⟩
    rw [step_delete hconfusable.1, some.injEq] at hstep
    subst hstep
    obtain ⟨owner, howner, hname⟩ := hmirrors.owned _ hstored
    have hne : modelId ≠ owner := by
      rintro rfl
      exact not_confusable_of_mem hmirrors howner hconfusable
    have hkept : owner ∈ world.documents.erase modelId :=
      mem_erase.2 ⟨mt compare_eq_iff_eq.1 hne, howner⟩
    obtain ⟨file, hfile, hlisted⟩ := (hfaithful.mem_iff owner).1 hkept
    obtain ⟨hother, hold⟩ := mem_erase.1 hfile
    apply hother
    rw [compare_eq_iff_eq, hname, ← hlisted, keyOf_eq_of_idOf hmirrors hold]

/-! ## Sequences of calls -/

theorem mirrors_empty : Mirrors backend (World.empty parse) where
  stored := by simp [World.empty]
  owned := by simp [World.empty]

variable (backend) in
theorem exists_step (world : World parse) (operation : Operation parse) :
    ∃ next, ConfigStore.step backend world operation = some next := by
  cases hreserved : isReserved operation.modelId with
  | true => exact ⟨_, step_reserved hreserved⟩
  | false =>
    cases operation with
    | write _ document => exact ⟨_, step_write document hreserved⟩
    | delete => exact ⟨_, step_delete hreserved⟩

variable (operations : List (Operation parse))

variable (backend) in
theorem faithful_iff_guarded :
    ∀ start : World parse, Mirrors backend start → ((∀ before world, before <+: operations →
          Runs.run (ConfigStore.step backend) start before = some world → Faithful backend world) ↔
        Runs.Guarded (ConfigStore.step backend) (Separate backend) start operations) := by
  induction operations with
  | nil =>
    intro start hmirrors
    refine iff_of_true ?_ trivial
    intro before world hbefore hrun
    rw [prefix_nil.1 hbefore, Runs.run_nil, some.injEq] at hrun
    exact hrun ▸ hmirrors.faithful
  | cons operation _ ih =>
    intro start hmirrors
    obtain ⟨next, hnext⟩ := exists_step backend start operation
    constructor
    · intro hall
      have hfaithful : Faithful backend next := by
        apply hall [operation] next (prefix_append _ _)
        rw [Runs.run_cons_eq_some]
        exact ⟨next, hnext, rfl⟩
      have hseparate := separate_of_faithful hmirrors hnext hfaithful
      refine ⟨hseparate, fun other hother => ?_⟩
      obtain rfl : next = other := some.inj (hnext.symm.trans hother)
      rw [← ih next (hmirrors.step hseparate hnext)]
      intro before world hbefore hrun
      apply hall (operation :: before) world (cons_prefix_cons.2 ⟨rfl, hbefore⟩)
      rw [Runs.run_cons_eq_some]
      exact ⟨next, hnext, hrun⟩
    · rintro ⟨hseparate, hrest⟩ before world hbefore hrun
      cases before with
      | nil =>
        rw [Runs.run_nil, some.injEq] at hrun
        exact hrun ▸ hmirrors.faithful
      | cons _ before =>
        obtain ⟨rfl, htail⟩ := cons_prefix_cons.1 hbefore
        obtain ⟨middle, hmiddle, hafter⟩ := (Runs.run_cons_eq_some ..).1 hrun
        exact (ih middle (hmirrors.step hseparate hmiddle)).2 (hrest middle hmiddle)
          before world htail hafter

variable (backend) in
/-- From an empty store of either kind, listing and loading are exactly the map after every
call of a sequence if and only if no call writes a confusable id or deletes one whose file is
stored. -/
theorem store_faithful_iff : (∀ before world, before <+: operations →
        Runs.run (ConfigStore.step backend) (World.empty parse) before = some world →
          Faithful backend world) ↔
      Runs.Guarded (ConfigStore.step backend) (Separate backend) (World.empty parse) operations :=
  faithful_iff_guarded backend operations _ mirrors_empty

end Mirroring

/-- Two accepted ids with one file: the second write takes the place of the first
config, and it is listed under the first id. -/
def sharedFile : List (Operation some) :=
  [.write "org/_model" ⟨"first", "first", by decide, rfl⟩,
    .write "org_/model" ⟨"second", "second", by decide, rfl⟩]

theorem sharedFile_unfaithful : (Accepted "org/_model" ∧ Accepted "org_/model") ∧
    ∃ world, Runs.run (step .directory) (World.empty some) sharedFile = some world ∧
      listModels world.files = ["org/_model"] ∧ ¬ Faithful .directory world := by
  refine ⟨?_, _, (some_get ?_).symm, ?_, fun hfaithful => absurd hfaithful.1 ?_⟩
  all_goals decide +kernel

end SieCluster.ConfigStore
