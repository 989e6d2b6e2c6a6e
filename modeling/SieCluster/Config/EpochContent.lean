import SieCluster.Config.ConfigApi
import SieCluster.Config.EpochStore

/-!
# What an epoch stands for

A consumer that has seen an epoch takes the export with the same epoch for the
one it has.  A write changes the store and the registry before it increments
the epoch, and the increment may fail; the request is then answered with an
error, but what it changed stays, and repeating the request finds nothing left
to change.
-/

namespace SieCluster.EpochContent

open Runs Option Std.ExtTreeMap
open Tables
open Profiles
open ConfigRegistry
open ModelCatalogue
open ConfigApi
open EpochStore (Content ReadOutcome WriteOutcome readEpoch incrementEpoch storedEpoch)

section Epochs

variable [Letters]

/-- What a client sees of the service, in order. -/
inductive Observation where
  | exported (epoch : ℕ) (models : List (String × ModelConfig))
  /-- A success, of a request that changed the store or a model of the registry. -/
  | changed
  deriving DecidableEq

structure Service where
  plane : Plane
  epoch : Content
  log : List Observation

/-- The backend's answers to the reads and the write of the epoch file. -/
structure EpochAnswers where
  /-- The read with which a deletion continues. -/
  read : ReadOutcome
  incrementRead : ReadOutcome
  incrementWrite : WriteOutcome

inductive Event where
  | write (request : Request) (answers : EpochAnswers)
  | exportSnapshot (read : ReadOutcome)

section Handlers

/-- A deletion that cannot read the epoch stops after the store. -/
def stopsAtEpoch (epoch : Content) (answers : EpochAnswers) : Work → Bool
  | .remove _ _ => (readEpoch epoch answers.read).toOption.isNone
  | _ => false

variable (service : Service)

/-- A success that left a changed registry behind. -/
def answer (plane : Plane) : List Observation :=
  if plane.registry.models = service.plane.registry.models then service.log
  else service.log ++ [.changed]

def increment (plane : Plane) (answers : EpochAnswers) : Service :=
  match incrementEpoch service.epoch answers.incrementRead answers.incrementWrite with
  | (epoch, .ok _) => ⟨plane, epoch, service.log ++ [.changed]⟩
  | (epoch, .error _) => ⟨plane, epoch, service.log⟩

def carryOut (work : Work) (answers : EpochAnswers) : Service :=
  let stored := applyStore service.plane.stored work
  if stopsAtEpoch service.epoch answers work then
    { service with plane := ⟨service.plane.registry, stored⟩ }
  else match changeRegistry service.plane work with
    | .error _ => { service with plane := ⟨service.plane.registry, stored⟩ }
    | .ok registry =>
      if persists service.plane.stored work then
        increment service ⟨registry, stored⟩ answers
      else ⟨⟨registry, stored⟩, service.epoch, answer service ⟨registry, stored⟩⟩

section

variable (catalogue : Catalogue) (service : Service)

def handleWrite (request : Request) (answers : EpochAnswers) : Service :=
  match decideWork catalogue service.plane request with
  | .error _ => service
  | .ok work => carryOut service work answers

def exportSnapshot (read : ReadOutcome) : Option Observation := do
  let epoch ← (readEpoch service.epoch read).toOption
  let models ← (exportModels catalogue service.plane).toOption
  return .exported epoch models

def step : Event → Option Service
  | .write request answers => some (handleWrite catalogue service request answers)
  | .exportSnapshot read =>
    some { service with log := service.log ++ (exportSnapshot catalogue service read).toList }

end

end Handlers

section Properties

/-- Exports with one epoch have the same models, and a change separates the epochs of
the exports before it from those after it. -/
structure Identifies (log : List Observation) : Prop where
  same : ∀ epoch first second, .exported epoch first ∈ log → .exported epoch second ∈ log →
    first = second
  apart : ∀ before after, log = before ++ .changed :: after →
    ∀ earlier first, .exported earlier first ∈ before →
      ∀ later second, .exported later second ∈ after → earlier < later

/-- The body sets a field that the model does not have yet. -/
def addsField (existing incoming : ModelConfig) : Bool :=
  existing.hfRevision.isNone && incoming.hfRevision.isSome ||
    existing.inputs.isNone && incoming.inputs.isSome ||
    existing.maxSequenceLength.isNone && incoming.maxSequenceLength.isSome ||
    existing.pool.isNone && (incoming.pool.any fun pool => canonicalPool pool ≠ "") ||
    existing.tasks.isNone && incoming.tasks.isSome

/-- An append without a new profile brings nothing else that is new. -/
def BringsNothingElse (registry : Registry) : Request → Prop
  | .addModel incoming =>
    createdProfiles registry incoming = [] →
      (registry.models[incoming.name]?.all fun existing => !addsField existing incoming) = true
  | _ => True

/-- The read is answered, or fails while there is no epoch to miss. -/
def Exact (epoch : Content) (read : ReadOutcome) : Prop :=
  read.isMasked = true → storedEpoch epoch = 0

/-- The epoch is read as it is and the increment reaches the backend, and the request
changes no model without an increment. -/
def Advancing (service : Service) : Event → Prop
  | .write request answers =>
    answers.read ≠ .raised ∧ answers.incrementRead ≠ .raised ∧
      Exact service.epoch answers.incrementRead ∧ answers.incrementWrite ≠ .raised ∧
      BringsNothingElse service.plane.registry request
  | .exportSnapshot read => Exact service.epoch read

instance (epoch : Content) (read : ReadOutcome) : Decidable (Exact epoch read) :=
  inferInstanceAs (Decidable (_ → _))

instance (registry : Registry) (request : Request) :
    Decidable (BringsNothingElse registry request) :=
  match request with
  | .addModel _ => inferInstanceAs (Decidable (_ → _))
  | .replaceModel _ _ => inferInstanceAs (Decidable True)
  | .deleteModel _ => inferInstanceAs (Decidable True)

instance (service : Service) (event : Event) : Decidable (Advancing service event) :=
  match event with
  | .write _ _ => inferInstanceAs (Decidable (_ ∧ _))
  | .exportSnapshot _ => inferInstanceAs (Decidable (Exact _ _))

end Properties

/-! ## The log -/

omit [Letters] in
/-- The change that splits a log is the last entry, or splits what was there before. -/
theorem split_concat {log before after : List Observation} {last : Observation}
    (hsplit : log ++ [last] = before ++ .changed :: after) :
    (last = .changed ∧ before = log ∧ after = []) ∨
      ∃ rest, after = rest ++ [last] ∧ log = before ++ .changed :: rest := by
  cases after using List.reverseRecOn with
  | nil =>
    obtain ⟨rfl, hlast⟩ := List.append_inj' hsplit rfl
    exact .inl ⟨List.singleton_inj.1 hlast, rfl, rfl⟩
  | append_singleton rest =>
    rw [← List.cons_append, ← List.append_assoc] at hsplit
    obtain ⟨hlog, hlast⟩ := List.append_inj' hsplit rfl
    rw [List.singleton_inj.1 hlast]
    exact .inr ⟨rest, rfl, hlog⟩

/-- The stored epoch bounds every export, and the exports at it show what there is. -/
structure Sound (catalogue : Catalogue) (service : Service) : Prop where
  identifies : Identifies service.log
  bounded : ∀ epoch models, .exported epoch models ∈ service.log → epoch ≤ storedEpoch service.epoch
  current : ∀ models, .exported (storedEpoch service.epoch) models ∈ service.log →
    exportModels catalogue service.plane = .ok models
  behind : ∀ before after, service.log = before ++ .changed :: after →
    ∀ epoch models, .exported epoch models ∈ before → epoch < storedEpoch service.epoch

omit [Letters] in
theorem exported_mem_concat_changed {log : List Observation} {epoch : ℕ} :
    .exported epoch models ∈ log ++ [.changed] ↔ .exported epoch models ∈ log := by
  simp

section

variable (hsound : Sound catalogue service)
include hsound

omit [Letters] in
/-- A greater epoch has not been exported yet, so anything may have changed. -/
theorem Sound.advance (hepoch : storedEpoch next.epoch = storedEpoch service.epoch + 1)
    (hlog : next.log = service.log) : Sound catalogue next := by
  obtain ⟨identifies, bounded, -, behind⟩ := hsound
  refine ⟨hlog ▸ identifies, ?_, ?_, ?_⟩
  · intro epoch models hmem
    rw [hlog] at hmem
    have hle := bounded epoch models hmem
    omega
  · intro models hmem
    rw [hlog] at hmem
    have hle := bounded _ models hmem
    omega
  · intro before after hsplit epoch models hmem
    rw [hlog] at hsplit
    have hlt := behind before after hsplit epoch models hmem
    omega

omit [Letters] in
theorem Sound.noteChange (hbehind : ∀ epoch models, .exported epoch models ∈ service.log →
      epoch < storedEpoch service.epoch) :
    Sound catalogue { service with log := service.log ++ [.changed] } := by
  obtain ⟨identifies, bounded, current, behind⟩ := hsound
  refine ⟨⟨?_, ?_⟩, ?_, ?_, ?_⟩
  · intro epoch first second hfirst hsecond
    exact identifies.same epoch first second (exported_mem_concat_changed.1 hfirst)
      (exported_mem_concat_changed.1 hsecond)
  · intro before after hsplit earlier first hfirst later second hsecond
    rcases split_concat hsplit with ⟨-, -, rfl⟩ | ⟨rest, rfl, hlog⟩
    · cases hsecond
    · exact identifies.apart before rest hlog earlier first hfirst later second
        (exported_mem_concat_changed.1 hsecond)
  · intro epoch models hmem
    exact bounded epoch models (exported_mem_concat_changed.1 hmem)
  · intro models hmem
    exact current models (exported_mem_concat_changed.1 hmem)
  · intro before after hsplit epoch models hmem
    rcases split_concat hsplit with ⟨-, rfl, -⟩ | ⟨rest, -, hlog⟩
    · exact hbehind epoch models hmem
    · exact behind before rest hlog epoch models hmem

omit [Letters] in
theorem Sound.noteExport (hmodels : exportModels catalogue service.plane = .ok models) :
    Sound catalogue { service with
      log := service.log ++ [.exported (storedEpoch service.epoch) models] } := by
  obtain ⟨identifies, bounded, current, behind⟩ := hsound
  -- an export that is there was there before, or shows what there is
  have hmem : ∀ {epoch found}, .exported epoch found ∈ service.log ++
      [.exported (storedEpoch service.epoch) models] → .exported epoch found ∈ service.log ∨
          epoch = storedEpoch service.epoch ∧ found = models := by
    intro epoch found hmem
    simpa using hmem
  have hcurrent : ∀ found, .exported (storedEpoch service.epoch) found ∈ service.log →
      found = models := by
    intro found hfound
    exact Except.ok.inj ((current found hfound).symm.trans hmodels)
  refine ⟨⟨?_, ?_⟩, ?_, ?_, ?_⟩
  · intro epoch first second hfirst hsecond
    rcases hmem hfirst with holdFirst | ⟨rfl, rfl⟩
    · rcases hmem hsecond with holdSecond | ⟨rfl, rfl⟩
      · exact identifies.same epoch first second holdFirst holdSecond
      · exact hcurrent first holdFirst
    · rcases hmem hsecond with holdSecond | ⟨-, rfl⟩
      · exact (hcurrent second holdSecond).symm
      · rfl
  · intro before after hsplit earlier first hfirst later second hsecond
    rcases split_concat hsplit with ⟨hlast, -, -⟩ | ⟨rest, rfl, hlog⟩
    · cases hlast
    · rcases List.mem_append.1 hsecond with hrest | hlast
      · exact identifies.apart before rest hlog earlier first hfirst later second hrest
      · cases List.mem_singleton.1 hlast
        exact behind before rest hlog earlier first hfirst
  · intro epoch found hfound
    rcases hmem hfound with hold | ⟨rfl, -⟩
    · exact bounded epoch found hold
    · exact le_rfl
  · intro found hfound
    rcases hmem hfound with hold | ⟨-, rfl⟩
    · exact current found hold
    · exact hmodels
  · intro before after hsplit epoch found hfound
    rcases split_concat hsplit with ⟨hlast, -, -⟩ | ⟨rest, -, hlog⟩
    · cases hlast
    · exact behind before rest hlog epoch found hfound

/-! ## One request -/

end

theorem pool_eq_none_of_normalizePoolName (hnormal : normalizePoolName incoming = .ok config)
    (hblank : (incoming.pool.any fun pool => canonicalPool pool ≠ "") = false) :
    config.pool = none := by
  unfold normalizePoolName at hnormal
  split at hnormal
  · rename_i hpool
    cases hnormal
    exact hpool
  · rename_i pool hpool
    simp only [hpool, any_some, decide_eq_false_iff_not, not_not] at hblank
    simp only [hblank, if_true] at hnormal
    cases hnormal
    rfl

/-- The other fields come through the pool's normalization. -/
theorem fields_of_normalizePoolName (hnormal : normalizePoolName incoming = .ok config) :
    config = { incoming with pool := config.pool } := by
  unfold normalizePoolName at hnormal
  split at hnormal
  · cases hnormal
    rfl
  · dsimp only at hnormal
    split_ifs at hnormal <;> cases hnormal <;> rfl

omit [Letters] in
theorem or_eq_left {Value : Type} {existing incoming : Option Value}
    (hnothing : (existing.isNone && incoming.isSome) = false) :
    existing.or incoming = existing := by
  cases existing with
  | some => rfl
  | none =>
    cases incoming with
    | none => rfl
    | some => cases hnothing

/-- An append that brings nothing new stores what is there. -/
theorem storedConfig_eq_self {registry : Registry} {existing : ModelConfig}
    (hnormal : normalizePoolName incoming = .ok config)
    (hexisting : registry.models[config.name]? = some existing)
    (hcreated : createdProfiles registry config = [])
    (hnothing : addsField existing incoming = false) : storedConfig registry config = existing := by
  simp only [addsField, Bool.or_eq_false_iff] at hnothing
  obtain ⟨⟨⟨⟨hrevision, hinputs⟩, hlength⟩, hpool⟩, htasks⟩ := hnothing
  have hfields := fields_of_normalizePoolName hnormal
  have hprofiles : existing.profiles ∪ config.profiles.filter
      (fun name _ => name ∈ createdProfiles registry config) = existing.profiles := by
    apply ext_getElem?
    intro name
    rw [Std.ExtTreeMap.getElem?_union, Std.ExtTreeMap.getElem?_filter', hcreated]
    simp
  have hkept : existing.pool.or config.pool = existing.pool := by
    cases hold : existing.pool with
    | some => rfl
    | none =>
      rw [hold] at hpool
      rw [pool_eq_none_of_normalizePoolName hnormal (by simpa using hpool)]
      rfl
  unfold storedConfig
  rw [hexisting]
  dsimp only
  rw [fillConfig, hprofiles, hkept]
  rw [hfields]
  simp only [or_eq_left hrevision, or_eq_left hinputs, or_eq_left hlength, or_eq_left htasks]

/-- A request that stores nothing leaves the models of the registry as they are. -/
theorem models_of_not_persists (hwork : decideWork catalogue plane request = .ok work)
    (hnothing : BringsNothingElse plane.registry request)
    (hidle : persists plane.stored work = false)
    (hregistry : changeRegistry plane work = .ok registry) :
    registry.models = plane.registry.models := by
  cases request with
  | addModel incoming =>
    obtain ⟨config, document, rfl, happends⟩ := addModel_eq_ok hwork
    obtain ⟨-, hnormal, hadmissible⟩ := validateConfig_eq_ok_iff.1 happends.valid
    obtain ⟨hname, hprofiles⟩ := normalizePoolName_eq_ok hnormal
    have hcreated : createdProfiles plane.registry config = [] := by
      by_contra hnew
      rw [(happends.stored hnew).1] at hidle
      cases hidle
    have hadd : addModelConfig plane.registry config = .ok registry := hregistry
    obtain ⟨again, hagain, -, hmodels⟩ := addModelConfig_eq_ok hadd
    cases (validateConfig_again happends.valid).symm.trans hagain
    have hexisting : config.name ∈ plane.registry.models := by
      by_contra habsent
      rw [createdProfiles, if_neg habsent] at hcreated
      have hempty := hadmissible.nonempty
      rw [← isEmpty_keys, hcreated] at hempty
      cases hempty
    obtain ⟨existing, hget⟩ := Tables.exists_of_mem hexisting
    have hsame : createdProfiles plane.registry incoming = [] := by
      simpa only [createdProfiles, hname, hprofiles] using hcreated
    have hadds := hnothing hsame
    rw [← hname, hget, all_some, Bool.not_eq_true'] at hadds
    rw [hmodels, storedConfig_eq_self hnormal hget hcreated hadds]
    apply ext_getElem?
    intro id
    rw [get_insert]
    split_ifs with hid
    · rw [← hid, hget]
    · rfl
  | replaceModel =>
    obtain ⟨config, -, ⟨-, rfl⟩ | ⟨-, rfl⟩⟩ := replaceModel_eq_ok hwork
    · cases hregistry
      rfl
    · cases hidle
  | deleteModel modelId =>
    obtain ⟨fallback, -, rfl⟩ := deleteModel_eq_ok hwork
    have huntouched : touchesRegistry plane.stored (.remove modelId fallback) = false := hidle
    rw [changeRegistry, huntouched] at hregistry
    cases hregistry
    rfl

omit [Letters] in
/-- An increment that reaches the backend counts on, with or without an answer. -/
theorem incrementEpoch_reaches {epoch : Content} {read : ReadOutcome} {write : WriteOutcome}
    (hread : read ≠ .raised) (hexact : Exact epoch read) (hwrite : write ≠ .raised) :
    ∃ result, incrementEpoch epoch read write = (.number (storedEpoch epoch + 1), result) := by
  obtain ⟨current, hcurrent⟩ : ∃ current, readEpoch epoch read = .ok current := by
    cases read with
    | answered => exact ⟨_, rfl⟩
    | raised => exact absurd rfl hread
    | _ => exact ⟨0, rfl⟩
  unfold incrementEpoch
  rw [hcurrent, EpochStore.readEpoch_eq hexact hcurrent]
  cases write with
  | raised => exact absurd rfl hwrite
  | _ => exact ⟨_, rfl⟩

section

variable (hsound : Sound catalogue service)
include hsound

omit [Letters] in
theorem increment_sound (plane : Plane) {answers : EpochAnswers}
    (hread : answers.incrementRead ≠ .raised) (hexact : Exact service.epoch answers.incrementRead)
    (hwrite : answers.incrementWrite ≠ .raised) :
    Sound catalogue (increment service plane answers) := by
  obtain ⟨result, hresult⟩ := incrementEpoch_reaches hread hexact hwrite
  have hadvanced : Sound catalogue ⟨plane, .number (storedEpoch service.epoch + 1), service.log⟩ :=
    hsound.advance rfl rfl
  unfold increment
  rw [hresult]
  cases result with
  | error => exact hadvanced
  | ok =>
    refine hadvanced.noteChange ?_
    intro seen models hmem
    exact Nat.lt_succ_of_le (hsound.bounded seen models hmem)

theorem handleWrite_sound (hadvancing : Advancing service (.write request answers)) :
    Sound catalogue (handleWrite catalogue service request answers) := by
  obtain ⟨hread, hincrementRead, hexact, hwrite, hnothing⟩ := hadvancing
  unfold handleWrite
  split
  · exact hsound
  · rename_i work hwork
    have hgoes : stopsAtEpoch service.epoch answers work = false := by
      cases work with
      | remove =>
        cases hanswer : answers.read with
        | raised => exact absurd hanswer hread
        | _ => simp [stopsAtEpoch, hanswer, readEpoch, Except.toOption]
      | _ => rfl
    obtain ⟨registry, hregistry⟩ := changeRegistry_isOk hwork
    simp only [carryOut, hgoes, Bool.false_eq_true, if_false, hregistry]
    split
    · exact increment_sound hsound _ hincrementRead hexact hwrite
    · rename_i hidle
      have hidle := Bool.eq_false_iff.2 hidle
      have hmodels := models_of_not_persists hwork hnothing hidle hregistry
      have hstored := applyStore_of_not_persists hidle
      rw [answer, if_pos hmodels]
      refine ⟨hsound.identifies, hsound.bounded, ?_, hsound.behind⟩
      intro models hmem
      refine Eq.trans ?_ (hsound.current models hmem)
      simp only [exportModels, exportConfig, hmodels, hstored]

theorem step_sound
    (hadvancing : Advancing service event) (hstep : step catalogue service event = some next) :
    Sound catalogue next := by
  cases event with
  | write =>
    cases hstep
    exact handleWrite_sound hsound hadvancing
  | exportSnapshot read =>
    cases hstep
    cases hexport : exportSnapshot catalogue service read with
    | none => simpa using hsound
    | some =>
      obtain ⟨epoch, hepoch, hexport⟩ := bind_eq_some_iff.1 hexport
      obtain ⟨models, hmodels, hexport⟩ := bind_eq_some_iff.1 hexport
      cases hexport
      have hread := Fallible.toOption_eq_some.1 hepoch
      rw [EpochStore.readEpoch_eq hadvancing hread]
      exact hsound.noteExport (Fallible.toOption_eq_some.1 hmodels)

/-! ## Whole runs -/

end

/-- While every increment reaches the backend from an exact read, and no append changes a
model without a new profile, the epoch of an export identifies its models. -/
theorem epoch_identifies (catalogue : Catalogue) (plane : Plane) (epoch : Content)
    (events : List Event) (final : Service)
    (hguarded : Guarded (step catalogue) Advancing ⟨plane, epoch, []⟩ events)
    (hrun : run (step catalogue) ⟨plane, epoch, []⟩ events = some final) :
    Identifies final.log := by
  have hstart : Sound catalogue ⟨plane, epoch, []⟩ := by
    refine ⟨⟨?_, ?_⟩, ?_, ?_, ?_⟩ <;> simp
  exact (guarded_invariant (Sound catalogue)
    (fun _ _ _ hsound => step_sound hsound) hstart hguarded hrun).identifies

end Epochs

section Samples

attribute [local instance] ascii

def freshService : Service :=
  ⟨⟨reload sampleCatalogue, ∅⟩, .absent, []⟩

def answeredWith (incrementWrite : WriteOutcome) : EpochAnswers :=
  ⟨.answered, .answered, incrementWrite⟩

/-- Exports around an append whose increment is made but not answered, and around its
deletion. -/
def countedWrites : List Event :=
  [.exportSnapshot .answered, .write (.addModel sampleConfig) (answeredWith .raisedAfterWriting),
    .exportSnapshot .answered, .write (.deleteModel "a") (answeredWith .written),
    .exportSnapshot .answered]

theorem epoch_identifies_countedWrites :
    ∃ final, run (step sampleCatalogue) freshService countedWrites = some final ∧
      final.log = [.exported 0 [], .exported 1 [("a", sampleConfig)], .changed, .exported 2 []] ∧
      Identifies final.log := by
  have hguarded : Guarded (step sampleCatalogue) Advancing freshService countedWrites := by
    decide +kernel
  refine ⟨_, (some_get ?_).symm, ?_,
    epoch_identifies sampleCatalogue _ _ countedWrites _ hguarded (some_get _).symm⟩
  · decide +kernel
  · decide +kernel

/-- The increment fails, and the client repeats the request. -/
def lostIncrement : List Event :=
  [.exportSnapshot .answered, .write (.addModel sampleConfig) (answeredWith .raised),
    .write (.addModel sampleConfig) (answeredWith .written), .exportSnapshot .answered]

theorem lostIncrement_unidentified :
    ∃ final, run (step sampleCatalogue) freshService lostIncrement = some final ∧
      final.log = [.exported 0 [], .exported 0 [("a", sampleConfig)]] ∧
      ¬ Identifies final.log := by
  refine ⟨_, (some_get ?_).symm, ?_, fun hidentifies =>
    absurd (hidentifies.same 0 [] [("a", sampleConfig)] ?_ ?_) nofun⟩
  all_goals decide +kernel

end Samples

end SieCluster.EpochContent
