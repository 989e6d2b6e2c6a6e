import SieCluster.Config.Idempotency

/-!
# The sections of idempotent writes

What a section can do to the tables of the idempotency state is said once, as
`Change`.  It has six cases; every invariant is followed through them and never
through the sections themselves.
-/

namespace SieCluster.IdempotentWrites

open Runs Totals Idempotency Option
open Profiles (ModelConfig Letters)

variable {Body Digest : Type} {digest : Body → Digest}

/-- The request executes: with a key, it owns that key. -/
def running : Phase → Bool
  | .claiming _ => false
  | .waiting _ => false
  | .ended _ => false
  | _ => true

def holdsLock : Phase → Bool
  | .caching _ => true
  | .clearing _ => true
  | _ => false

/-- The idempotency state plays no part. -/
def apart : Phase → Bool
  | .claiming _ => false
  | .waiting _ => false
  | .finishing _ => false
  | .failing _ => false
  | .caching _ => false
  | .clearing _ => false
  | .ended (.executed _ _) => true
  | .ended (.failed _) => true
  | .ended _ => false
  | _ => true

section Changes

variable (digest)

/-- Why a request that owns no key gets to a phase. -/
def Excused (service : Service Body Digest) (task : Write Body) (key : String) : Phase → Prop
  | .waiting owner =>
    service.inFlight.lookup key = some owner ∧
      (service.markers.lookup owner).map Marker.payloadHash = some (digest task.body)
  | .claiming (some owner) =>
    task.phase = .waiting owner ∧
      ∃ marker, service.markers.lookup owner = some marker ∧ marker.succeeded = true
  | .ended (.replayed response) => service.cached key = some (response, digest task.body)
  | .ended .replayEvicted =>
    service.cached key = none ∧ ∃ owner, task.phase = .claiming (some owner)
  | .ended (.executed _ _) => False
  | .ended (.failed _) => False
  | .ended _ => True
  | _ => False

variable (service after : Service Body Digest)

/-- Everything but the tasks and the locks. -/
structure SameKeys : Prop where
  cache : after.cache = service.cache
  inFlight : after.inFlight = service.inFlight
  markers : after.markers = service.markers

/-- The request that is resolved leaves the lock and its key. -/
structure Resolves (id : ℕ) (old : Write Body)
    (key : String) (resolved : Marker Digest → Marker Digest) (answer : Answer) : Prop where
  found : service.tasks.lookup id = some old
  keyed : old.key = some key
  holds : holdsLock old.phase = true
  tasks : after.tasks = service.tasks.insert id (old.at (.ended answer))
  inFlight : after.inFlight =
    if service.inFlight.lookup key = some id then service.inFlight.erase key
    else service.inFlight
  markers : after.markers = service.markers ∨ ∃ marker, service.markers.lookup id = some marker ∧
      after.markers = service.markers.insert id { resolved marker with event := true }
  lock : after.lock = none

inductive Change : Prop where
  | arrives (id : ℕ) (new : Write Body) (hnew : service.tasks.lookup id = none)
      (hphase : new.key = none ∨ new.phase = .claiming none)
      (hkeyed : new.key = none → apart new.phase = true)
      (hcommitted : new.committed = false)
      (htasks : after.tasks = service.tasks.insert id new)
      (hsame : SameKeys service after) (hlock : after.lock = service.lock)
  | goesAside (id : ℕ) (old : Write Body) (key : String) (phase : Phase)
      (hold : service.tasks.lookup id = some old) (hidle : running old.phase = false)
      (hopen : ∀ answer, old.phase ≠ .ended answer) (hkey : old.key = some key)
      (hexcused : Excused digest service old key phase)
      (htasks : after.tasks = service.tasks.insert id (old.at phase))
      (hsame : SameKeys service after) (hlock : after.lock = service.lock)
  | claims (id : ℕ) (old : Write Body) (key : String) (phase : Phase)
      (hold : service.tasks.lookup id = some old) (hidle : old.phase = .claiming none)
      (hkey : old.key = some key) (hcache : service.cached key = none)
      (hfree : service.inFlight.lookup key = none) (hrunning : running phase = true)
      (htasks : after.tasks = service.tasks.insert id (old.at phase))
      (hinFlight : after.inFlight = service.inFlight.insert key id)
      (hmarkers : after.markers = service.markers.insert id ⟨false, none, digest old.body, false⟩)
      (hsame : after.cache = service.cache) (hlock : after.lock = service.lock)
  | works (id : ℕ) (old new : Write Body) (hold : service.tasks.lookup id = some old)
      (hkey : new.key = old.key) (hbody : new.body = old.body)
      (hbefore : running old.phase = true)
      (hrunning : running new.phase = true ∨ old.key = none)
      (hkeyed : new.key = none → apart new.phase = true)
      (hcommitted : old.committed = true → new.committed = true)
      (htasks : after.tasks = service.tasks.insert id new)
      (hsame : SameKeys service after)
      (hlock : after.lock = service.lock ∧
          (holdsLock old.phase = true → holdsLock new.phase = true) ∨
        after.lock = some id ∧ holdsLock new.phase = true ∧ new.key ≠ none)
  | stores (id : ℕ) (old : Write Body) (key : String) (response : Response)
      (hresolves : Resolves service after id old key ({ · with succeeded := true })
        (.executed response old.cancellationDeferred))
      (hcache : after.cache = remember service.cache key response (digest old.body))
  | clears (id : ℕ) (old : Write Body) (key : String) (failure : Failure)
      (hresolves : Resolves service after id old key ({ · with exception := some failure })
        (.failed failure))
      (hcache : after.cache = service.cache)

end Changes

/-! ## What a section does -/

variable {task : Write Body}

section Sections

variable {service : Service Body Digest} {id : ℕ}

def Keyless (service : Service Body Digest) : Prop :=
  ∀ id task, service.tasks.lookup id = some task → task.key = none → apart task.phase = true

theorem settled_key (task : Write Body) : task.settled.key = task.key := by
  unfold Write.settled
  split <;> rfl

theorem settled_body (task : Write Body) : task.settled.body = task.body := by
  unfold Write.settled
  split <;> rfl

theorem settled_committed (task : Write Body) : task.settled.committed = task.committed := by
  unfold Write.settled
  split <;> rfl

theorem settled_keyed (hkey : task.key ≠ none) : task.settled = task := by
  unfold Write.settled
  split
  · rename_i hnone _
    exact absurd hnone hkey
  · rename_i hnone _
    exact absurd hnone hkey
  · rfl

theorem settled_running (hrunning : running task.phase = true) :
    running task.settled.phase = true ∨ task.key = none := by
  by_cases hkey : task.key = none
  · exact .inr hkey
  · rw [settled_keyed hkey]
    exact .inl hrunning

theorem settled_apart (hkey : task.key = none)
    (hrunning : running task.phase = true) (hlock : holdsLock task.phase = false) :
    apart task.settled.phase = true := by
  obtain ⟨key, body, phase, deferred, committed⟩ := task
  cases hkey
  cases phase with
  | claiming => cases hrunning
  | waiting => cases hrunning
  | caching => cases hlock
  | clearing => cases hlock
  | ended => cases hrunning
  | _ => rfl

/-- Nothing that the idempotency state consists of has changed. -/
structure SameTables (service base : Service Body Digest) : Prop extends SameKeys service base where
  tasks : base.tasks = service.tasks
  lock : base.lock = service.lock

/-- The execution of a request has gone on. -/
structure Continues (old new : Write Body) : Prop where
  key : new.key = old.key
  body : new.body = old.body
  committed : old.committed = true → new.committed = true

theorem Continues.refl (task : Write Body) : Continues task task := ⟨rfl, rfl, id⟩

theorem Continues.commits (hcontinues : Continues old new) : Continues old new.commits :=
  ⟨hcontinues.key, hcontinues.body, fun _ => rfl⟩

theorem Continues.at (hcontinues : Continues old new) (phase : Phase) :
    Continues old (new.at phase) :=
  { hcontinues with }

section Working

variable {base : Service Body Digest} {old new : Write Body}
  (hold : service.tasks.lookup id = some old) (hbefore : running old.phase = true)
  (hfree : holdsLock old.phase = false) (hbase : SameTables service base)
  (hcontinues : Continues old new)

include hold hbefore hfree hbase hcontinues

theorem put_change (hrunning : running new.phase = true) (hapart : apart new.phase = true) :
    Change digest service (base.put id new) := by
  refine .works id old new hold hcontinues.key hcontinues.body hbefore (.inl hrunning)
    (fun _ => hapart) hcontinues.committed ?_ ?_ (.inl ⟨hbase.lock, ?_⟩)
  · simp only [Service.put, hbase.tasks]
  · exact ⟨hbase.cache, hbase.inFlight, hbase.markers⟩
  · intro hheld
    rw [hfree] at hheld
    cases hheld

theorem settle_change (hrunning : running new.phase = true)
    (hnoLock : holdsLock new.phase = false) :
    Change digest service (base.put id new.settled) := by
  refine .works id old new.settled hold ?_ ?_ hbefore ?_ ?_ ?_ ?_
    ⟨hbase.cache, hbase.inFlight, hbase.markers⟩ (.inl ⟨hbase.lock, ?_⟩)
  · rw [settled_key, hcontinues.key]
  · rw [settled_body, hcontinues.body]
  · rw [← hcontinues.key]
    exact settled_running hrunning
  · rw [settled_key]
    exact fun hkey => settled_apart hkey hrunning hnoLock
  · rw [settled_committed]
    exact hcontinues.committed
  · simp only [Service.put, hbase.tasks]
  · intro hheld
    rw [hfree] at hheld
    cases hheld

theorem fail_change (failure : Failure) : Change digest service (base.fail id new failure) :=
  settle_change hold hbefore hfree { hbase with } (hcontinues.at (.failing failure)) rfl rfl

theorem finish_change (response : Response) : Change digest service (base.finish id new response) :=
  settle_change hold hbefore hfree { hbase with } (hcontinues.at (.finishing response)) rfl rfl

theorem change_change [Letters] (config : ModelConfig) (work : ConfigApi.Work) (onwards : Bool) :
    Change digest service (base.change id new config work onwards) := by
  have hchanged : ∀ committed, SameTables service { base with committed := committed } :=
    fun _ => { hbase with }
  cases hregistry : ConfigApi.applyRegistry base.committed.plane.registry work with
  | error =>
    simp only [Service.change, hregistry]
    exact fail_change hold hbefore hfree hbase hcontinues _
  | ok =>
    cases onwards with
    | true =>
      simp only [Service.change, hregistry, if_true]
      exact put_change hold hbefore hfree (hchanged _) (hcontinues.commits.at _) rfl rfl
    | false =>
      simp only [Service.change, hregistry, Bool.false_eq_true, if_false]
      exact finish_change hold hbefore hfree (hchanged _) hcontinues.commits _

end Working

theorem SameTables.refl (service : Service Body Digest) : SameTables service service :=
  ⟨⟨rfl, rfl, rfl⟩, rfl, rfl⟩

theorem decide_change [Letters] (hold : service.tasks.lookup id = some task)
    (hbefore : running task.phase = true) (hfree : holdsLock task.phase = false)
    (config : ModelConfig) : Change digest service (service.decide id task config) := by
  cases hwork : ConfigApi.addModel service.committed.plane config with
  | error =>
    simp only [Service.decide, hwork]
    exact fail_change hold hbefore hfree (.refl service) (.refl task) _
  | ok =>
    simp only [Service.decide, hwork]
    split
    · exact put_change hold hbefore hfree (.refl service) ((Continues.refl task).at _) rfl rfl
    · exact change_change hold hbefore hfree (.refl service) (.refl task) _ _ _

theorem proceed_change [Letters] (hold : service.tasks.lookup id = some task)
    (hstep : service.proceed id task outcome = some after) :
    Change digest service after := by
  have hraised : running task.phase = true → holdsLock task.phase = false →
      Change digest service (service.fail id task .storeFailed) := fun hbefore hfree =>
    fail_change hold hbefore hfree (.refl service) (.refl task) _
  obtain ⟨key, body, phase, deferred, committed⟩ := task
  cases phase with
  | publishing =>
    cases hstep
    exact finish_change hold rfl rfl (.refl service) (.refl _) _
  | reading config =>
    cases outcome with
    | done =>
      cases hstep
      exact decide_change hold rfl rfl config
    | raised =>
      cases hstep
      exact hraised rfl rfl
    | publishedPartly => cases hstep
  | storing _ work =>
    cases outcome with
    | done =>
      cases hstep
      have hstored : SameTables service (service.store work) :=
        ⟨⟨rfl, rfl, rfl⟩, rfl, rfl⟩
      exact change_change hold rfl rfl hstored (Continues.refl _).commits _ _ _
    | raised =>
      cases hstep
      exact hraised rfl rfl
    | publishedPartly => cases hstep
  | incrementing =>
    cases outcome with
    | done =>
      cases hstep
      have hincremented : SameTables service service.increment :=
        ⟨⟨rfl, rfl, rfl⟩, rfl, rfl⟩
      exact put_change hold rfl rfl hincremented ((Continues.refl _).at _) rfl rfl
    | raised =>
      cases hstep
      exact hraised rfl rfl
    | publishedPartly => cases hstep
  | listing =>
    cases outcome with
    | done =>
      simp only [Service.proceed] at hstep
      split at hstep
      · cases hstep
        exact put_change hold rfl rfl (.refl service) ((Continues.refl _).at _) rfl rfl
      · cases hstep
        exact finish_change hold rfl rfl (.refl service) (.refl _) _
    | raised =>
      cases hstep
      exact hraised rfl rfl
    | publishedPartly => cases hstep
  | _ => cases outcome <;> cases hstep

theorem begin_running (parse : Body → Option ModelConfig) (task : Write Body) :
    running (task.begin parse) = true ∧ holdsLock (task.begin parse) = false := by
  unfold Write.begin
  split
  · exact ⟨rfl, rfl⟩
  · split <;> exact ⟨rfl, rfl⟩

theorem arrive_change (hnew : service.tasks.lookup id = none) (key : Option String)
    (body : Body) : Change digest service (service.arrive parse id key body) := by
  simp only [Service.arrive]
  cases hkey : key.filter (· ≠ "") with
  | none =>
    obtain ⟨hrunning, hlock⟩ :=
      begin_running parse (⟨none, body, .claiming none, false, false⟩ : Write Body)
    refine .arrives id _ hnew (.inl ?_) (fun _ => ?_) ?_ rfl ⟨rfl, rfl, rfl⟩ rfl
    · exact settled_key _
    · exact settled_apart rfl hrunning hlock
    · exact settled_committed _
  | some =>
    refine .arrives id _ hnew (.inr rfl) ?_ rfl rfl ⟨rfl, rfl, rfl⟩ rfl
    intro hnone
    cases hnone

section

variable (hold : service.tasks.lookup id = some task)
include hold

theorem claim_change [DecidableEq Digest]
    (hphase : task.phase = .claiming waited) (hkey : task.key = some key) :
    Change digest service (service.claim parse digest id task key waited) := by
  have haside : ∀ phase, Excused digest service task key phase →
      Change digest service (service.put id (task.at phase)) := fun phase hexcused =>
    .goesAside id task key phase hold (by rw [hphase]; rfl) (by simp [hphase]) hkey hexcused
      rfl ⟨rfl, rfl, rfl⟩ rfl
  unfold Service.claim
  cases hcached : service.cached key with
  | some entry =>
    obtain ⟨response, payloadHash⟩ := entry
    by_cases hhash : digest task.body = payloadHash
    · simp only [hhash, ne_eq, not_true_eq_false, if_false]
      refine haside _ ?_
      simpa only [Excused, hhash] using hcached
    · simp only [hhash, ne_eq, not_false_eq_true, if_true]
      exact haside _ trivial
  | none =>
    cases waited with
    | some owner => exact haside _ ⟨hcached, owner, hphase⟩
    | none =>
      cases hinFlight : service.inFlight.lookup key with
      | none =>
        exact .claims id task key _ hold hphase hkey hcached hinFlight
          (begin_running parse task).1 rfl rfl rfl rfl rfl
      | some =>
        simp only [isSome_none, Bool.false_eq_true, if_false]
        split
        · exact haside _ trivial
        · rename_i hhash
          exact haside _ ⟨hinFlight, not_not.1 hhash⟩

theorem wake_change (hphase : task.phase = .waiting owner)
    (hkey : task.key = some key) (hmarker : service.markers.lookup owner = some marker) :
    Change digest service (service.put id (task.at (afterWait owner marker))) := by
  refine .goesAside id task key _ hold (by rw [hphase]; rfl) (by simp [hphase]) hkey ?_ rfl
    ⟨rfl, rfl, rfl⟩ rfl
  unfold afterWait
  split
  · trivial
  · trivial
  · split
    · rename_i hsucceeded
      exact ⟨hphase, marker, hmarker, hsucceeded⟩
    · trivial

theorem conclude_change (hkey : task.key = some key)
    (hstep : service.conclude digest id task key = some after) :
    Change digest service after := by
  have hmarkers : ∀ (cache : List (String × Response × Digest))
      (resolved : Marker Digest → Marker Digest),
      (Service.resolve { service with cache := cache } id key resolved).markers = service.markers ∨
        ∃ marker, service.markers.lookup id = some marker ∧
          (Service.resolve { service with cache := cache } id key resolved).markers =
            service.markers.insert id { resolved marker with event := true } := by
    intro cache resolved
    cases hmarker : service.markers.lookup id with
    | none => exact .inl (by simp only [Service.resolve, hmarker])
    | some marker => exact .inr ⟨marker, rfl, by simp only [Service.resolve, hmarker]⟩
  cases hphase : task.phase with
  | caching response =>
    simp only [Service.conclude, hphase] at hstep
    cases hstep
    exact .stores id task key response
      ⟨hold, hkey, by rw [hphase]; rfl, rfl, rfl, hmarkers _ _, rfl⟩
      (by simp only [Service.put, Service.resolve])
  | clearing failure =>
    simp only [Service.conclude, hphase] at hstep
    cases hstep
    exact .clears id task key failure
      ⟨hold, hkey, by rw [hphase]; rfl, rfl, rfl, hmarkers service.cache _, rfl⟩ rfl
  | _ => simp [Service.conclude, hphase] at hstep

end

theorem cancel_change (hkeyless : Keyless service) (hold : service.tasks.lookup id = some task)
    (hstep : service.cancel id task = some after) : Change digest service after := by
  have haside : running task.phase = false → apart task.phase = false →
      (∀ answer, task.phase ≠ .ended answer) →
      Change digest service (service.put id (task.at (.ended .cancelled))) := by
    intro hidle hapart hopen
    cases hkey : task.key with
    | none => exact absurd (hkeyless id task hold hkey) (by simp [hapart])
    | some key =>
      exact .goesAside id task key (.ended .cancelled) hold hidle hopen hkey trivial rfl
        ⟨rfl, rfl, rfl⟩ rfl
  have hdeferred : running task.phase = true → Change digest service
      (service.put id { task with cancellationDeferred := true }) := fun hbefore =>
    .works id task { task with cancellationDeferred := true } hold rfl rfl hbefore
      (.inl hbefore) (hkeyless id task hold) (fun hcommitted => hcommitted) rfl
      ⟨rfl, rfl, rfl⟩ (.inl ⟨rfl, fun hheld => hheld⟩)
  obtain ⟨key, body, phase, deferred, committed⟩ := task
  cases phase with
  | ended => cases hstep
  | claiming =>
    cases hstep
    exact haside rfl rfl nofun
  | waiting =>
    cases hstep
    exact haside rfl rfl nofun
  | queued =>
    cases hstep
    exact settle_change hold rfl rfl (.refl service) ((Continues.refl _).at _) rfl rfl
  | reading =>
    cases hstep
    exact fail_change hold rfl rfl (.refl service) (.refl _) _
  | _ =>
    cases hstep
    exact hdeferred rfl

theorem enter_change
    (hold : service.tasks.lookup id = some task) (hphase : task.phase = .queued config) :
    Change digest service
      (Service.put { service with writeLock := some id } id (task.at (.reading config))) := by
  have hbase : SameTables service { service with writeLock := some id } :=
    ⟨⟨rfl, rfl, rfl⟩, rfl, rfl⟩
  exact put_change hold (by rw [hphase]; rfl) (by rw [hphase]; rfl) hbase
    ((Continues.refl task).at _) rfl rfl

theorem acquire_change (hkeyless : Keyless service) (hold : service.tasks.lookup id = some task)
    (hbefore : running task.phase = true) (hapart : apart task.phase = false)
    (hrunning : running phase = true) (hlock : holdsLock phase = true) :
    Change digest service (Service.put { service with lock := some id } id (task.at phase)) := by
  have hkey : task.key ≠ none := by
    intro hnone
    rw [hkeyless id task hold hnone] at hapart
    cases hapart
  exact .works id task (task.at phase) hold rfl rfl hbefore (.inl hrunning)
    (fun hnone => absurd hnone hkey) (fun hcommitted => hcommitted) rfl ⟨rfl, rfl, rfl⟩
    (.inr ⟨rfl, hlock, hkey⟩)

/-- Every section is one of the six changes. -/
theorem step_change [Letters] [DecidableEq Digest] (hkeyless : Keyless service)
    (hstep : step parse digest service event = some after) : Change digest service after := by
  cases event with
  | arrive _ key body =>
    simp only [step, ite_none_right_eq_some] at hstep
    cases hstep.2
    exact arrive_change hstep.1 key body
  | claim =>
    obtain ⟨task, hold, hstep⟩ := bind_eq_some_iff.1 hstep
    obtain ⟨key, hkey, hstep⟩ := bind_eq_some_iff.1 hstep
    cases hphase : task.phase with
    | claiming =>
      cases hlock : service.lock with
      | none =>
        simp only [hphase, hlock] at hstep
        cases hstep
        exact claim_change hold hphase hkey
      | some => simp [hphase, hlock] at hstep
    | _ => simp [hphase] at hstep
  | wake id =>
    obtain ⟨task, hold, hstep⟩ := bind_eq_some_iff.1 hstep
    cases hphase : task.phase with
    | waiting =>
      simp only [hphase] at hstep
      obtain ⟨marker, hmarker, hstep⟩ := bind_eq_some_iff.1 hstep
      obtain ⟨-, hafter⟩ := ite_none_right_eq_some.1 hstep
      cases hafter
      cases hkey : task.key with
      | none =>
        have hapart := hkeyless id task hold hkey
        rw [hphase] at hapart
        cases hapart
      | some => exact wake_change hold hphase hkey hmarker
    | _ => simp [hphase] at hstep
  | enter =>
    obtain ⟨task, hold, hstep⟩ := bind_eq_some_iff.1 hstep
    cases hphase : task.phase with
    | queued =>
      cases hlock : service.writeLock with
      | none =>
        simp only [hphase, hlock] at hstep
        cases hstep
        exact enter_change hold hphase
      | some => simp [hphase, hlock] at hstep
    | _ => simp [hphase] at hstep
  | proceed =>
    obtain ⟨task, hold, hstep⟩ := bind_eq_some_iff.1 hstep
    exact proceed_change hold hstep
  | acquire =>
    obtain ⟨task, hold, hstep⟩ := bind_eq_some_iff.1 hstep
    cases hlock : service.lock with
    | some => cases hphase : task.phase <;> simp [hphase, hlock] at hstep
    | none =>
      cases hphase : task.phase with
      | finishing =>
        simp only [hphase, hlock] at hstep
        cases hstep
        exact acquire_change hkeyless hold (by rw [hphase]; rfl) (by rw [hphase]; rfl) rfl rfl
      | failing =>
        simp only [hphase, hlock] at hstep
        cases hstep
        exact acquire_change hkeyless hold (by rw [hphase]; rfl) (by rw [hphase]; rfl) rfl rfl
      | _ => simp [hphase] at hstep
  | conclude =>
    obtain ⟨task, hold, hstep⟩ := bind_eq_some_iff.1 hstep
    obtain ⟨key, hkey, hstep⟩ := bind_eq_some_iff.1 hstep
    exact conclude_change hold hkey hstep
  | cancel =>
    obtain ⟨task, hold, hstep⟩ := bind_eq_some_iff.1 hstep
    exact cancel_change hkeyless hold hstep

end Sections

end SieCluster.IdempotentWrites
