import SieCluster.Config.ConfigApi
import SieCluster.Config.EpochStore

/-!
# Commits under cancellation

A write handler runs as a task that may be cancelled wherever it waits.  It
holds the write lock from its first read to its last publish.  The waits after
the decision are shielded: a cancellation there is remembered and raised when
the handler has finished.  The one exception is the read of the epoch with which
a deletion continues once the stored file is gone.  Apart from that, whenever
the lock is free the registry has what the store and the model files describe.
-/

namespace SieCluster.CommitAtomicity

open Runs Option
open Tables
open Profiles
open ConfigRegistry
open ModelCatalogue
open ConfigApi
open ConfigStore (fileOf idOf)
open EpochStore (Content incrementEpoch storedEpoch)

/-- What a write commits to. -/
structure Committed where
  plane : Plane
  epoch : Content

def bump (epoch : Content) : Content :=
  (incrementEpoch epoch .answered .written).1

section Files

theorem fillConfig_fillConfig (file document config : ModelConfig) :
    fillConfig (fillConfig file document document.profiles) config config.profiles =
      fillConfig file (fillConfig document config config.profiles)
        (document.profiles ∪ config.profiles) := by
  have hprofiles : file.profiles ∪ document.profiles ∪ config.profiles =
      file.profiles ∪ (document.profiles ∪ config.profiles) := by
    apply Std.ExtTreeMap.ext_getElem?
    intro name
    simp only [Std.ExtTreeMap.getElem?_union, Option.or_assoc]
  simp only [fillConfig, Option.or_assoc, hprofiles]

theorem notFile_of_loadFilesystemYaml {catalogue : Catalogue}
    (hnone : loadFilesystemYaml catalogue.files modelId = none) :
    ∀ file ∈ catalogue.files.filterMap Prod.snd, file.name ≠ modelId := by
  unfold loadFilesystemYaml at hnone
  split at hnone
  · cases hnone
  · rw [map_eq_none_iff, List.find?_eq_none] at hnone
    intro file hfile hname
    obtain ⟨entry, hentry, hparsed⟩ := List.mem_filterMap.1 hfile
    exact hnone entry hentry (by simp [hparsed, hname])

end Files

section Handlers

variable [Letters]

section Whole

/-- A request carried out as a whole. -/
def complete (catalogue : Catalogue) (committed : Committed) (request : Request) :
    Option Committed := do
  let work ← (decideWork catalogue committed.plane request).toOption
  let plane ← (commit committed.plane work).toOption
  return ⟨plane,
    if persists committed.plane.stored work then bump committed.epoch else committed.epoch⟩

end Whole

section Tasks

/-- Where the holder of the write lock waits. -/
inductive Stage where
  /-- The reads before anything is committed. -/
  | reading (request : Request)
  | storing (work : Work)
  /-- Only a deletion waits here, knowing whether there was a file to delete. -/
  | readingEpoch (work : Work) (deleted : Bool)
  | incrementing (work : Work)
  | listing (work : Work)
  | publishing

structure Holder where
  stage : Stage
  cancellationDeferred : Bool

structure Server where
  committed : Committed
  natsConnected : Bool
  holder : Option Holder

inductive Event where
  | acquire (request : Request)
  /-- What the handler waits for is done, and it runs on to its next wait. -/
  | advance
  | cancel

section

variable (server : Server)

def Server.release : Server :=
  { server with holder := none }

def Server.await (stage : Stage) : Server :=
  { server with holder := some ⟨stage, (server.holder.map Holder.cancellationDeferred).getD false⟩ }

/-- The registry changes without a wait.  An exception leaves the `async with`. -/
def Server.change (work : Work) (next : Server → Server) : Server :=
  match applyRegistry server.committed.plane.registry work with
  | .error _ => server.release
  | .ok registry =>
    next { server with
      committed := ⟨⟨registry, server.committed.plane.stored⟩, server.committed.epoch⟩ }

variable (catalogue : Catalogue)

section

variable (server : Server)

/-- A request is decided: it is refused, has nothing to store, or goes to the store. -/
def Server.start (request : Request) : Server :=
  match decideWork catalogue server.committed.plane request with
  | .error _ => server.release
  | .ok (.append config none) => server.change (.append config none) Server.release
  | .ok (.replace none) => server.release
  | .ok work => server.await (.storing work)

def Server.stored (work : Work) : Server :=
  { server with
    committed :=
      ⟨⟨server.committed.plane.registry, applyStore server.committed.plane.stored work⟩,
        server.committed.epoch⟩ }

def Server.advance : Stage → Server
  | .reading request => server.start catalogue request
  | .storing work =>
    match work with
    | .remove modelId _ =>
      (server.stored work).await
        (.readingEpoch work (fileOf modelId ∈ server.committed.plane.stored))
    | _ => (server.stored work).change work (·.await (.incrementing work))
  | .readingEpoch work deleted =>
    if deleted then server.change work (·.await (.incrementing work)) else server.release
  | .incrementing work =>
    Server.await { server with
      committed := ⟨server.committed.plane, bump server.committed.epoch⟩ } (.listing work)
  | .listing work =>
    match work with
    | .remove _ _ => server.release
    | _ => if server.natsConnected then server.await .publishing else server.release
  | .publishing => server.release

/-- Whether `_await_committed` surrounds the wait. -/
def Stage.shielded : Stage → Bool
  | .reading _ => false
  | .readingEpoch _ _ => false
  | _ => true

def step : Event → Option Server
  | .acquire request =>
    match server.holder, request with
    | some _, _ => none
    -- a replacement reads nothing before it decides
    | none, .replaceModel _ _ => some (server.start catalogue request)
    | none, _ => some (server.await (.reading request))
  | .advance => server.holder.map fun holder => server.advance catalogue holder.stage
  | .cancel =>
    server.holder.map fun holder =>
      if holder.stage.shielded then { server with holder := some ⟨holder.stage, true⟩ }
      else server.release

end

/-- The stored file is gone, and the registry still has the model. -/
def Stage.halfDeleted : Stage → Bool
  | .readingEpoch _ deleted => deleted
  | _ => false

end

end Tasks

/-! ## Registry and store -/

section Describing

variable (catalogue : Catalogue)

/-- The id is read back from the name of its file. -/
def Readable (modelId : String) : Prop :=
  idOf (fileOf modelId) = modelId

instance (modelId : String) : Decidable (Readable modelId) :=
  inferInstanceAs (Decidable (_ = _))

/-- The config of a model file, as it is read or with its pool in canonical form. -/
def FromFile (id : String) (config : ModelConfig) : Prop :=
  ∃ file ∈ catalogue.files.filterMap Prod.snd, file.name = id ∧
    (config = file ∨ normalizePoolName file = .ok config)

/-- What the registry has of a model against the document stored for it: the document, alone
or over a model file, and without a document what the files say. -/
def Describes (id : String) : Option ModelConfig → Option ModelConfig → Prop
  | none, none =>
    ∀ file ∈ catalogue.files.filterMap Prod.snd, loadable file = true → file.name ≠ id
  | none, some full => FromFile catalogue id full
  | some _, none => False
  | some document, some full => full = document ∨
      ∃ file, FromFile catalogue id file ∧ full = fillConfig file document document.profiles

/-- Registry and store describe the same models. -/
def InStep (plane : Plane) : Prop :=
  ∀ id, Readable id → Describes catalogue id plane.stored[fileOf id]? plane.registry.models[id]?

/-- The id can be read back, and an append brings no field that only the registry gets and
no profile that only the store gets. -/
def Regular (plane : Plane) : Work → Prop
  | .append config document => Readable config.name ∧
      (document = none →
        plane.registry.models[config.name]? = some (storedConfig plane.registry config)) ∧
      ∀ name ∈ config.profiles.keys, name ∈ createdProfiles plane.registry config ∨
        name ∈ storedProfiles plane.registry config.name
  | .replace config => ∀ found ∈ config, Readable found.name
  | .remove modelId _ => Readable modelId

instance (plane : Plane) : ∀ work, Decidable (Regular plane work)
  | .append _ _ => inferInstanceAs (Decidable (_ ∧ _ ∧ _))
  | .replace _ => inferInstanceAs (Decidable (∀ found ∈ _, Readable (ModelConfig.name found)))
  | .remove _ _ => inferInstanceAs (Decidable (Readable _))

/-- A request whose work is regular, and no cancellation of a deletion that has removed the
stored file and waits to read the epoch. -/
def Sound (server : Server) : Event → Prop
  | .acquire request =>
    ∀ work ∈ (decideWork catalogue server.committed.plane request).toOption,
      Regular server.committed.plane work
  | .advance => True
  | .cancel => (server.holder.any fun holder => holder.stage.halfDeleted) = false

instance (server : Server) : ∀ event, Decidable (Sound catalogue server event)
  | .acquire _ => inferInstanceAs (Decidable (∀ work ∈ _, Regular server.committed.plane work))
  | .advance => inferInstanceAs (Decidable True)
  | .cancel => inferInstanceAs (Decidable (_ = _))

end Describing

section Keeping

variable {catalogue : Catalogue} {plane : Plane}

/-- A change under one id leaves the other ids in step. -/
theorem InStep.update (hinStep : InStep catalogue plane) {registry : Registry}
    {stored : Table ModelConfig} {id : String} (hreadable : Readable id)
    (hmodels : ∀ other, id ≠ other → registry.models[other]? = plane.registry.models[other]?)
    (hstored : ∀ file, fileOf id ≠ file → stored[file]? = plane.stored[file]?)
    (hhere : Describes catalogue id stored[fileOf id]? registry.models[id]?) :
    InStep catalogue ⟨registry, stored⟩ := by
  intro other hother
  by_cases hsame : id = other
  · rwa [← hsame]
  · have hfile : fileOf id ≠ fileOf other := by
      intro hfile
      have hread : idOf (fileOf id) = idOf (fileOf other) := congrArg idOf hfile
      rw [hreadable, hother] at hread
      exact hsame hread
    simp only [hmodels other hsame, hstored _ hfile]
    exact hinStep other hother

/-- The registry gets all profiles of an append, since those that are not created are there. -/
theorem storedConfig_eq (hvalid : validateConfig registry incoming = .ok config)
    (hexisting : registry.models[config.name]? = some existing)
    (hnames : ∀ name ∈ config.profiles.keys, name ∈ createdProfiles registry config ∨
      name ∈ storedProfiles registry config.name) :
    storedConfig registry config = fillConfig existing config config.profiles := by
  obtain ⟨-, -, hadmissible⟩ := validateConfig_eq_ok_iff.1 hvalid
  have hmem : config.name ∈ registry.models := mem_of_get hexisting
  have hstored : storedProfiles registry config.name = existing.profiles := by
    rw [storedProfiles, hexisting]
    rfl
  have hprofiles : existing.profiles ∪
      (config.profiles.filter fun name _ => name ∈ createdProfiles registry config) =
        existing.profiles ∪ config.profiles := by
    apply Std.ExtTreeMap.ext_getElem?
    intro name
    simp only [Std.ExtTreeMap.getElem?_union, Std.ExtTreeMap.getElem?_filter']
    cases hprofile : config.profiles[name]? with
    | none => rfl
    | some profile =>
      by_cases hcreated : name ∈ createdProfiles registry config
      · simp [Option.filter, hcreated]
      · have hkey : name ∈ config.profiles.keys := Std.ExtTreeMap.mem_keys.2 (mem_of_get hprofile)
        have hnamed : name ∈ getModelProfileNames registry config.name := by
          simpa [createdProfiles, hmem, Std.ExtTreeMap.mem_keys.1 hkey] using hcreated
        have hold := (hnames name hkey).resolve_left hcreated
        rw [hstored] at hold
        obtain ⟨stored, hfound⟩ := Tables.exists_of_mem hold
        -- a profile that is there is not changed
        have hsame : stored = profile := by
          by_contra hne
          have hconflict : name ∈ conflictingProfiles registry config := by
            refine List.mem_filter.2 ⟨hkey, ?_⟩
            simp only [hstored, hfound, hprofile, any_some, Bool.and_eq_true, decide_eq_true_eq]
            exact ⟨⟨hmem, hnamed⟩, fun hsame => hne (some.inj hsame)⟩
          rw [hadmissible.unchanged] at hconflict
          cases hconflict
        simp [Option.filter, hcreated, hfound, hsame]
  rw [storedConfig, hexisting]
  simp only [fillConfig, hprofiles]

theorem append_describes (hinStep : InStep catalogue plane)
    (happends : Appends plane incoming config document)
    (hregular : Regular plane (.append config document)) :
    Describes catalogue config.name
      (applyStore plane.stored (.append config document))[fileOf config.name]?
      (some (storedConfig plane.registry config)) := by
  obtain ⟨hreadable, hunchanged, hnames⟩ := hregular
  have hbefore := hinStep config.name hreadable
  cases document with
  | none => rwa [← hunchanged rfl]
  | some document =>
    have hcreated : createdProfiles plane.registry config ≠ [] :=
      fun hnone => nomatch happends.replayed hnone
    obtain ⟨hdocument, -⟩ := happends.stored hcreated
    cases hdocument
    simp only [applyStore, get_insert, if_true]
    cases hexisting : plane.registry.models[config.name]? with
    | none =>
      rw [hexisting] at hbefore
      cases hstored : plane.stored[fileOf config.name]? with
      | none =>
        left
        rw [storedConfig, hexisting]
        rfl
      | some =>
        rw [hstored] at hbefore
        exact hbefore.elim
    | some existing =>
      rw [hexisting] at hbefore
      rw [storedConfig_eq (validateConfig_again happends.valid) hexisting hnames]
      cases hstored : plane.stored[fileOf config.name]? with
      | none =>
        rw [hstored] at hbefore
        exact .inr ⟨existing, hbefore, rfl⟩
      | some old =>
        rw [hstored] at hbefore
        obtain rfl | ⟨file, hfile, rfl⟩ := hbefore
        · exact .inl rfl
        · exact .inr ⟨file, hfile, fillConfig_fillConfig file old config⟩

theorem fromFile_of_loadFilesystemYaml
    (hfound : loadFilesystemYaml catalogue.files modelId = some (some file))
    (hname : file.name = modelId) (hnormal : normalizePoolName file = .ok config) :
    FromFile catalogue modelId config := by
  refine ⟨file, List.mem_filterMap.2 ?_, hname, .inr hnormal⟩
  unfold loadFilesystemYaml at hfound
  split at hfound
  · rename_i entry hentry
    exact ⟨entry, List.mem_of_find?_eq_some hentry, some.inj hfound⟩
  · obtain ⟨entry, hentry, hparsed⟩ := map_eq_some_iff.1 hfound
    exact ⟨entry, List.mem_of_find?_eq_some hentry, hparsed⟩

/-- A regular work that is committed as a whole leaves registry and store in step. -/
theorem commit_inStep (hinStep : InStep catalogue plane)
    (hwork : decideWork catalogue plane request = .ok work) (hregular : Regular plane work)
    (hcommit : commit plane work = .ok next) : InStep catalogue next := by
  obtain ⟨registry, hchange, hnext⟩ := Fallible.bind_eq_ok.1 hcommit
  cases hnext
  cases request with
  | addModel =>
    obtain ⟨config, document, rfl, happends⟩ := addModel_eq_ok hwork
    obtain ⟨again, hagain, -, hmodels⟩ := addModelConfig_eq_ok hchange
    obtain rfl : config = again :=
      Except.ok.inj ((validateConfig_again happends.valid).symm.trans hagain)
    refine hinStep.update hregular.1 ?_ ?_ ?_
    · intro other hother
      rw [hmodels, get_insert, if_neg hother]
    · intro file hfile
      cases document with
      | none => rfl
      | some => simp only [applyStore, get_insert, if_neg hfile]
    · rw [hmodels, get_insert, if_pos rfl]
      exact append_describes hinStep happends hregular
  | replaceModel =>
    obtain ⟨config, hvalid, ⟨-, rfl⟩ | ⟨-, rfl⟩⟩ := replaceModel_eq_ok hwork
    · cases hchange
      exact hinStep
    · obtain ⟨again, hagain, hresult⟩ := Fallible.bind_eq_ok.1 hchange
      cases (validateStructure_again hvalid).symm.trans hagain
      cases hresult
      refine hinStep.update (hregular config rfl) ?_ ?_ ?_
      · intro other hother
        rw [get_insert, if_neg hother]
      · intro file hfile
        simp only [applyStore, get_insert, if_neg hfile]
      · simp only [applyStore, get_insert, if_true]
        exact .inl rfl
  | deleteModel modelId =>
    obtain ⟨fallback, hfallback, rfl⟩ := deleteModel_eq_ok hwork
    by_cases hstored : fileOf modelId ∈ plane.stored
    · simp only [changeRegistry, touchesRegistry, hstored, decide_true, if_true] at hchange
      have hothers : ∀ file, fileOf modelId ≠ file →
          (plane.stored.erase (fileOf modelId))[file]? = plane.stored[file]? := by
        intro file hfile
        rw [get_erase, if_neg hfile]
      obtain ⟨hnone, rfl⟩ | ⟨file, revealed, hfound, hname, hvalid, rfl⟩ :=
        fallbackConfig_eq_ok hfallback
      · have hmodels : registry.models = plane.registry.models.erase modelId := by
          cases hchange
          split
          · rfl
          · rename_i hmissing
            exact (erase_of_notMem hmissing).symm
        refine hinStep.update hregular ?_ hothers ?_
        · intro other hother
          rw [hmodels, get_erase, if_neg hother]
        · simp only [applyStore, hmodels, get_erase, if_true]
          exact fun file hfile _ => notFile_of_loadFilesystemYaml hnone file hfile
      · obtain ⟨again, hagain, hresult⟩ := Fallible.bind_eq_ok.1 hchange
        cases (validateStructure_again hvalid).symm.trans hagain
        cases hresult
        obtain ⟨-, hnormal, -⟩ := validateStructure_eq_ok_iff.1 hvalid
        have hrevealed : revealed.name = modelId := (normalizePoolName_eq_ok hnormal).1.trans hname
        refine hinStep.update hregular ?_ hothers ?_
        · intro other hother
          rw [get_insert, hrevealed, if_neg hother]
        · simp only [applyStore, get_erase, get_insert, hrevealed, if_true]
          exact fromFile_of_loadFilesystemYaml hfound hname hnormal
    · simp only [changeRegistry, touchesRegistry, hstored, decide_false, Bool.false_eq_true,
        if_false] at hchange
      cases hchange
      rw [applyStore, erase_of_notMem hstored]
      exact hinStep

end Keeping

/-! ## A request as a whole -/

/-- Whether the work goes to the store at all. -/
def callsStore : Work → Bool
  | .append _ document => document.isSome
  | .replace config => config.isSome
  | .remove _ _ => true

variable {committed : Committed} {server : Server}

section

variable (hwork : decideWork catalogue committed.plane request = .ok work)
include hwork

theorem complete_of_touches (htouches : touchesRegistry committed.plane.stored work = true)
    (hregistry : applyRegistry committed.plane.registry work = .ok registry) :
    complete catalogue committed request = some ⟨⟨registry, applyStore committed.plane.stored work⟩,
        if persists committed.plane.stored work then bump committed.epoch
        else committed.epoch⟩ := by
  simp [complete, hwork, commit, changeRegistry, htouches, hregistry, Except.toOption]

/-- A request that stores nothing changes at most the registry. -/
theorem complete_of_idle (hidle : callsStore work = false)
    (hregistry : applyRegistry committed.plane.registry work = .ok registry) :
    complete catalogue committed request =
      some ⟨⟨registry, committed.plane.stored⟩, committed.epoch⟩ := by
  cases work with
  | append _ document =>
    cases document with
    | some => cases hidle
    | none => exact complete_of_touches hwork rfl hregistry
  | replace config =>
    cases config with
    | some => cases hidle
    | none => exact complete_of_touches hwork rfl hregistry
  | remove => cases hidle

/-! ## The holder's progress -/

end

section

variable (catalogue : Catalogue)

/-- How far the holder has come with a request, from what was committed before it. -/
inductive Standing (before : Committed) : Committed → Option Stage → Prop
  | free : Standing before before none
  | reading (request : Request)
      (regular : ∀ work ∈ (decideWork catalogue before.plane request).toOption,
        Regular before.plane work) :
      Standing before before (some (.reading request))
  | storing {request : Request} {work : Work}
      (decided : decideWork catalogue before.plane request = .ok work)
      (regular : Regular before.plane work) (stores : callsStore work = true) :
      Standing before before (some (.storing work))
  | readingEpoch {modelId : String} {fallback : Option ModelConfig} {request : Request}
      (decided : decideWork catalogue before.plane request = .ok (.remove modelId fallback))
      (regular : Readable modelId) :
      Standing before
        ⟨⟨before.plane.registry, before.plane.stored.erase (fileOf modelId)⟩, before.epoch⟩
        (some (.readingEpoch (.remove modelId fallback) (fileOf modelId ∈ before.plane.stored)))
  | incrementing {request : Request} {work : Work} {registry : Registry}
      (decided : decideWork catalogue before.plane request = .ok work)
      (regular : Regular before.plane work)
      (touches : touchesRegistry before.plane.stored work = true)
      (persists : persists before.plane.stored work = true)
      (applied : applyRegistry before.plane.registry work = .ok registry) :
      Standing before ⟨⟨registry, applyStore before.plane.stored work⟩, before.epoch⟩
        (some (.incrementing work))
  | listing (work : Work) : Standing before before (some (.listing work))
  | publishing : Standing before before (some .publishing)

def Server.stage (server : Server) : Option Stage :=
  server.holder.map Holder.stage

/-- Everything committed is the outcome of whole requests, but for the one that the
holder is at, and was in step before that one. -/
def Tracked (start : Committed) (server : Server) : Prop :=
  ∃ requests before, run (complete catalogue) start requests = some before ∧
    InStep catalogue before.plane ∧ Standing catalogue before server.committed server.stage

end

section

variable (hrun : run (complete catalogue) start requests = some before)
  (hinStep : InStep catalogue before.plane)
include hrun hinStep

/-- A regular request that is over is one more whole request. -/
theorem Tracked.of_standing (hwork : decideWork catalogue before.plane request = .ok work)
    (hregular : Regular before.plane work)
    (hcomplete : complete catalogue before request = some after)
    (hstanding : Standing catalogue after server.committed server.stage) :
    Tracked catalogue start server := by
  refine ⟨requests ++ [request], after, ?_, ?_, hstanding⟩
  · rw [run_append, hrun]
    simp [run, hcomplete]
  · simp only [complete, hwork, Except.toOption, Option.bind_eq_bind, bind_some] at hcomplete
    obtain ⟨plane, hcommit, hafter⟩ := bind_eq_some_iff.1 hcomplete
    cases hafter
    exact commit_inStep hinStep hwork hregular (Fallible.toOption_eq_some.1 hcommit)

/-- A decided request that has something to store waits for the store, and one that has
not is over. -/
theorem start_tracked (hcommitted : server.committed = before)
    (hregular : ∀ work ∈ (decideWork catalogue before.plane request).toOption,
      Regular before.plane work) :
    Tracked catalogue start (server.start catalogue request) := by
  subst hcommitted
  have hdecided : ∀ work, decideWork catalogue server.committed.plane request = .ok work →
      Regular server.committed.plane work :=
    fun work hwork => hregular work (Fallible.toOption_eq_some.2 hwork)
  unfold Server.start
  split
  · exact ⟨requests, _, hrun, hinStep, .free⟩
  · rename_i config hwork
    obtain ⟨registry, hregistry⟩ := applyRegistry_isOk hwork
    simp only [Server.change, hregistry]
    exact .of_standing hrun hinStep hwork (hdecided _ hwork)
      (complete_of_idle hwork rfl hregistry) .free
  · exact ⟨requests, _, hrun, hinStep, .free⟩
  · rename_i work happend hreplace hwork
    refine ⟨requests, _, hrun, hinStep, .storing hwork (hdecided _ hwork) ?_⟩
    cases work with
    | append config document =>
      cases document with
      | none => exact absurd rfl (happend config)
      | some => rfl
    | replace config =>
      cases config with
      | none => exact absurd rfl hreplace
      | some => rfl
    | remove => rfl

theorem advance_tracked (hstanding : Standing catalogue before server.committed (some stage)) :
    Tracked catalogue start (server.advance catalogue stage) := by
  obtain ⟨committed, natsConnected, holder⟩ := server
  cases hstanding with
  | reading request regular => exact start_tracked hrun hinStep rfl regular
  | storing decided regular stores =>
    rename_i request work
    obtain ⟨registry, hregistry⟩ := applyRegistry_isOk decided
    cases work with
    | remove => exact ⟨requests, _, hrun, hinStep, .readingEpoch decided regular⟩
    | _ =>
      simp only [Server.advance, Server.stored, Server.change, hregistry]
      exact ⟨requests, _, hrun, hinStep, .incrementing decided regular rfl stores hregistry⟩
  | readingEpoch decided regular =>
    rename_i modelId fallback request
    obtain ⟨registry, hregistry⟩ := applyRegistry_isOk decided
    by_cases hdeleted : fileOf modelId ∈ before.plane.stored
    · simp only [Server.advance, hdeleted, decide_true, if_true, Server.change, hregistry]
      have hpersists : persists before.plane.stored (.remove modelId fallback) = true :=
        decide_eq_true hdeleted
      exact ⟨requests, _, hrun, hinStep,
        .incrementing decided regular hpersists hpersists hregistry⟩
    · simp only [Server.advance, hdeleted, decide_false, Bool.false_eq_true, if_false]
      rw [erase_of_notMem hdeleted]
      exact ⟨requests, _, hrun, hinStep, .free⟩
  | incrementing decided regular touches persists applied =>
    have hcomplete := complete_of_touches decided touches applied
    rw [if_pos persists] at hcomplete
    exact .of_standing hrun hinStep decided regular hcomplete (.listing _)
  | listing work =>
    cases work with
    | remove => exact ⟨requests, _, hrun, hinStep, .free⟩
    | _ =>
      cases natsConnected with
      | false => exact ⟨requests, _, hrun, hinStep, .free⟩
      | true => exact ⟨requests, _, hrun, hinStep, .publishing⟩
  | publishing => exact ⟨requests, _, hrun, hinStep, .free⟩

end

theorem step_tracked (htracked : Tracked catalogue start server)
    (hsound : Sound catalogue server event) (hstep : step catalogue server event = some next) :
    Tracked catalogue start next := by
  obtain ⟨requests, before, hrun, hinStep, hstanding⟩ := htracked
  obtain ⟨committed, natsConnected, holder⟩ := server
  cases event with
  | acquire request =>
    cases holder with
    | some => cases hstep
    | none =>
      cases hstanding
      cases request with
      | replaceModel =>
        cases hstep
        exact start_tracked hrun hinStep rfl hsound
      | _ =>
        cases hstep
        exact ⟨requests, _, hrun, hinStep, .reading _ hsound⟩
  | advance =>
    cases holder with
    | none => cases hstep
    | some =>
      cases hstep
      exact advance_tracked hrun hinStep hstanding
  | cancel =>
    cases holder with
    | none => cases hstep
    | some holder =>
      obtain ⟨stage, cancellationDeferred⟩ := holder
      simp only [step, map_some, some.injEq] at hstep
      split at hstep
      -- a shielded wait goes on
      · cases hstep
        exact ⟨requests, before, hrun, hinStep, hstanding⟩
      · rename_i hunshielded
        cases hstep
        cases stage with
        | reading =>
          cases hstanding
          exact ⟨requests, _, hrun, hinStep, .free⟩
        | readingEpoch work deleted =>
          cases hstanding with
          | readingEpoch decided regular =>
            rename_i modelId fallback request
            have hkept : fileOf modelId ∉ before.plane.stored :=
              of_decide_eq_false hsound
            simp only [erase_of_notMem hkept]
            exact ⟨requests, _, hrun, hinStep, .free⟩
        | _ => exact absurd rfl hunshielded

/-- No task, and nothing committed but what was there. -/
def idle (natsConnected : Bool) (start : Committed) : Server :=
  ⟨start, natsConnected, none⟩

end Handlers

section Samples

attribute [local instance] ascii

def freshStart : Committed :=
  ⟨⟨reload sampleCatalogue, ∅⟩, .absent⟩

theorem freshStart_inStep : InStep sampleCatalogue freshStart.plane := by
  intro id _
  have hmodels : freshStart.plane.registry.models[id]? = none := by
    simp [freshStart, reload, sampleCatalogue, loadModels, emptyRegistry]
  have hstored : freshStart.plane.stored[fileOf id]? = none := by simp [freshStart]
  rw [hmodels, hstored]
  simp [Describes, sampleCatalogue]

/-- A replacement that is cancelled while it waits for the store and for the epoch, and an
append. -/
def shieldedCancels : List Event :=
  [.acquire (.replaceModel "a" sampleConfig), .cancel, .advance, .cancel, .advance, .advance,
    .acquire (.addModel { sampleConfig with
      profiles := (∅ : Table ProfileConfig).insert "fast"
        { emptyProfileConfig with adapterPath := some "adapters:Text" } }),
    .advance, .advance, .cancel, .advance, .advance]

/-- A model is stored, and its deletion is cancelled once the file is gone. -/
def interruptedDeletion : List Event :=
  [.acquire (.replaceModel "a" sampleConfig), .advance, .advance, .advance,
    .acquire (.deleteModel "a"), .advance, .advance, .cancel]

/-- A model is stored, and a revision is appended without a new profile. -/
def appendedRevision : List Event :=
  [.acquire (.replaceModel "a" sampleConfig), .advance, .advance, .advance,
    .acquire (.addModel { sampleConfig with hfRevision := some "main" }), .advance]

/-- Without a model file, the registry has just what is stored. -/
theorem models_eq_stored (hinStep : InStep sampleCatalogue plane) :
    plane.registry.models["a"]? = plane.stored[fileOf "a"]? := by
  have hdescribes := hinStep "a" (by decide +kernel)
  revert hdescribes
  cases plane.stored[fileOf "a"]? with
  | none =>
    cases plane.registry.models["a"]? with
    | none => exact fun _ => rfl
    | some => simp [Describes, FromFile, sampleCatalogue]
  | some =>
    cases plane.registry.models["a"]? with
    | none => exact False.elim
    | some => simp [Describes, FromFile, sampleCatalogue]

end Samples

end SieCluster.CommitAtomicity
