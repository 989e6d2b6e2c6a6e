import SieCluster.Config.IdempotencyTables

/-!
# Writes under idempotency keys

At most one execution commits while a key is in flight or cached, replays are
those of an equal payload, and a key is never left with an owner that has ended.
A request that waits may find the response it waited for evicted.
-/

namespace SieCluster.IdempotentWrites

open List hiding keys
open AList hiding keys
open Option
open Runs Totals Idempotency
open Profiles (ModelConfig Letters)

variable {Body Digest : Type} {parse : Body → Option ModelConfig} {digest : Body → Digest}

/-! ## Commits under one key -/

section Commits

variable {service after : Service Body Digest}

section

variable (key : String)

/-- The key is in flight or cached. -/
def Claimed (service : Service Body Digest) : Prop :=
  service.inFlight.lookup key ≠ none ∨ service.cached key ≠ none

instance (key : String) (service : Service Body Digest) : Decidable (Claimed key service) :=
  inferInstanceAs (Decidable (_ ∨ _))

def commitWeight (task : Write Body) : ℕ :=
  if task.key = some key ∧ task.committed = true then 1 else 0

variable (service : Service Body Digest)

/-- How many executions under the key have committed. -/
def commits : ℕ :=
  total (commitWeight key) service.tasks

/-- The owner of the key has yet to commit. -/
def mayCommit : ℕ :=
  ((service.inFlight.lookup key).bind service.tasks.lookup).elim 0 fun task =>
    if task.committed then 0 else 1

theorem mayCommit_le : mayCommit key service ≤ 1 := by
  unfold mayCommit
  cases (service.inFlight.lookup key).bind service.tasks.lookup with
  | none => exact Nat.zero_le 1
  | some =>
    simp only [elim_some]
    split <;> omega

end

theorem commitWeight_of_ne (hkey : task.key ≠ some key) : commitWeight key task = 0 :=
  if_neg fun hboth => hkey hboth.1

/-- A request that keeps its key and its commit leaves the count as it is. -/
theorem commits_insert_same {id : ℕ} {old new : Write Body}
    (hold : service.tasks.lookup id = some old) (htasks : after.tasks = service.tasks.insert id new)
    (hweight : commitWeight key new = commitWeight key old) :
    commits key after = commits key service := by
  have hreplace := total_insert_replace (commitWeight key) hold new
  rw [commits, htasks]
  unfold commits
  omega

theorem mayCommit_eq {id : ℕ} {task : Write Body}
    (hinFlight : service.inFlight.lookup key = some id)
    (htask : service.tasks.lookup id = some task) :
    mayCommit key service = if task.committed then 0 else 1 := by
  simp [mayCommit, hinFlight, htask]

/-- Another request's move changes nothing. -/
theorem mayCommit_elsewhere {id : ℕ} {new : Write Body}
    (hother : ∀ owner, service.inFlight.lookup key = some owner → owner ≠ id)
    (hinFlight : after.inFlight.lookup key = service.inFlight.lookup key)
    (htasks : after.tasks = service.tasks.insert id new) :
    mayCommit key after = mayCommit key service := by
  cases hlookup : service.inFlight.lookup key with
  | none => simp [mayCommit, hinFlight, hlookup]
  | some owner =>
    simp [mayCommit, hinFlight, hlookup, htasks, lookup_insert_ne (hother owner hlookup)]

theorem Resolves.commits_le (hsound : Sound digest service) {id : ℕ} {old : Write Body}
    {found : String} {resolved : Marker Digest → Marker Digest} {answer : Answer}
    (hresolves : Resolves service after id old found resolved answer) :
    commits key after + mayCommit key after ≤ commits key service + mayCommit key service := by
  have hcommits : commits key after = commits key service :=
    commits_insert_same hresolves.found hresolves.tasks rfl
  have hfreed := hresolves.freed hsound
  by_cases hkey : key = found
  · subst hkey
    have hnone : mayCommit key after = 0 := by simp [mayCommit, hfreed]
    omega
  · have hsame : mayCommit key after = mayCommit key service := by
      refine mayCommit_elsewhere ?_ ?_ hresolves.tasks
      · rintro owner howner rfl
        obtain ⟨task, htask, htaskKey, -⟩ := hsound.inFlight key owner howner
        cases htask.symm.trans hresolves.found
        exact hkey (some.inj (htaskKey.symm.trans hresolves.keyed))
      · rw [hfreed, lookup_erase_ne hkey]
    omega

/-- While the key is claimed, a commit uses up the only one its owner may make. -/
theorem Change.commits_le (hsound : Sound digest service) (hchange : Change digest service after)
    (hclaimed : Claimed key service) :
    commits key after + mayCommit key after ≤ commits key service + mayCommit key service := by
  cases hchange with
  | arrives _ new hnew _ _ hcommitted htasks hsame =>
    have hweight : commitWeight key new = 0 := if_neg (by simp [hcommitted])
    have hcommits : commits key after = commits key service := by
      rw [commits, htasks, total_insert_new _ hnew, hweight, Nat.zero_add, commits]
    have hmay : mayCommit key after = mayCommit key service := by
      refine mayCommit_elsewhere ?_ (by rw [hsame.inFlight]) htasks
      rintro owner howner rfl
      obtain ⟨task, htask, -⟩ := hsound.inFlight key owner howner
      exact some_ne_none task (htask.symm.trans hnew)
    omega
  | goesAside _ _ _ _ hold hidle _ _ _ htasks hsame =>
    have hcommits : commits key after = commits key service :=
      commits_insert_same hold htasks rfl
    have hmay : mayCommit key after = mayCommit key service :=
      mayCommit_elsewhere
        (fun owner howner => (hsound.inFlight key owner howner).ne_of_idle hold hidle)
        (by rw [hsame.inFlight]) htasks
    omega
  | claims _ _ found _ hold hidle _ hcache hfree _ htasks hinserted =>
    have hne : key ≠ found := by
      rintro rfl
      exact hclaimed.elim (fun hinFlight => hinFlight hfree) fun hcached => hcached hcache
    have hcommits : commits key after = commits key service :=
      commits_insert_same hold htasks rfl
    have hmay : mayCommit key after = mayCommit key service :=
      mayCommit_elsewhere (fun owner howner =>
          (hsound.inFlight key owner howner).ne_of_idle hold (by rw [hidle]; rfl))
        (by rw [hinserted, lookup_insert_ne hne]) htasks
    omega
  | works id old new hold hsameKey _ hbefore _ _ hcommitted htasks hsame =>
    by_cases hkey : old.key = some key
    · have hinFlight := hsound.owned id old key hold hbefore hkey
      have hinFlightAfter : after.inFlight.lookup key = some id := by
        rw [hsame.inFlight, hinFlight]
      have hfoundAfter : after.tasks.lookup id = some new := by
        rw [htasks, lookup_insert]
      have hreplace := total_insert_replace (commitWeight key) hold new
      rw [mayCommit_eq hinFlight hold, mayCommit_eq hinFlightAfter hfoundAfter, commits,
        htasks, commits]
      have hweight : ∀ task : Write Body, task.key = some key →
          commitWeight key task = if task.committed then 1 else 0 := by
        intro task htask
        simp [commitWeight, htask]
      rw [hweight old hkey, hweight new (hsameKey.trans hkey)] at hreplace
      cases hbeforehand : old.committed with
      | true =>
        rw [hbeforehand, hcommitted hbeforehand] at hreplace
        rw [hcommitted hbeforehand]
        omega
      | false =>
        rw [hbeforehand] at hreplace
        cases hnow : new.committed with
        | true =>
          rw [hnow] at hreplace
          simp only [if_true, Bool.false_eq_true, if_false] at hreplace ⊢
          omega
        | false =>
          rw [hnow] at hreplace
          omega
    · have hweight : commitWeight key new = commitWeight key old := by
        rw [commitWeight_of_ne hkey, commitWeight_of_ne (hsameKey ▸ hkey)]
      have hcommits : commits key after = commits key service :=
        commits_insert_same hold htasks hweight
      have hmay : mayCommit key after = mayCommit key service := by
        refine mayCommit_elsewhere ?_ (by rw [hsame.inFlight]) htasks
        rintro owner howner rfl
        obtain ⟨task, htask, htaskKey, -⟩ := hsound.inFlight key owner howner
        cases htask.symm.trans hold
        exact hkey htaskKey
      omega
  | stores _ _ _ _ hresolves => exact hresolves.commits_le hsound
  | clears _ _ _ _ hresolves => exact hresolves.commits_le hsound

end Commits

/-! ## Whole runs -/

section Whole

variable {service later : Service Body Digest}

theorem start_sound (committed : CommitAtomicity.Committed) (natsConnected : Bool) :
    Sound digest (start Body Digest committed natsConnected) where
  keyless := by simp [Keyless, start]
  owned := by simp [start]
  inFlight := by simp [start]
  unstored := by simp [start]
  marked := by simp [start]
  stored := by simp [start]
  answered := by simp [start]
  locked := by simp [start]

variable [Letters] [DecidableEq Digest] {events : List (Event Body)}

section

variable (hsound : Sound digest service)
include hsound

theorem run_ended {id : ℕ} {answer : Answer}
    (htask : service.tasks.lookup id = some task) (hended : task.phase = .ended answer)
    (hrun : run (step parse digest) service events = some later) :
    later.tasks.lookup id = some task := by
  have hboth : Sound digest later ∧ later.tasks.lookup id = some task := by
    refine run_invariant
      (fun service => Sound digest service ∧ service.tasks.lookup id = some task) ?_
      ⟨hsound, htask⟩ hrun
    rintro before event next ⟨hbefore, hfound⟩ hstep
    have hchange := step_change hbefore.keyless hstep
    obtain ⟨new, hnew, -, -, hsame⟩ := hchange.kept id task hfound
    exact ⟨hchange.sound hbefore, by rw [hnew, hsame answer hended]⟩
  exact hboth.2

variable (hrun : run (step parse digest) service events = some later)
include hrun

theorem run_sound : Sound digest later :=
  run_invariant (Sound digest)
    (fun _ _ _ hsound hstep => (step_change hsound.keyless hstep).sound hsound) hsound hrun

theorem run_commits_le
    (hclaimed : Guarded (step parse digest) (fun service _ => Claimed key service) service
      events) : commits key later ≤ commits key service + 1 := by
  have hbound : Sound digest later ∧
      commits key later + mayCommit key later ≤ commits key service + mayCommit key service := by
    refine guarded_invariant (fun next => Sound digest next ∧
        commits key next + mayCommit key next ≤ commits key service + mayCommit key service)
      ?_ ⟨hsound, le_rfl⟩ hclaimed hrun
    rintro before event next ⟨hbefore, hle⟩ hheld hstep
    have hchange := step_change hbefore.keyless hstep
    exact ⟨hchange.sound hbefore, (hchange.commits_le hbefore hheld).trans hle⟩
  have hone := mayCommit_le key service
  omega

end

/-- The holder of the lock needs nothing more to resolve its marker. -/
theorem conclude_isSome {id : ℕ} (htask : service.tasks.lookup id = some task)
    (hkey : task.key = some key) (hheld : holdsLock task.phase = true) :
    ∃ answer next, step parse digest service (.conclude id) = some next ∧ next.lock = none ∧
      next.tasks = service.tasks.insert id (task.at (.ended answer)) := by
  have hstep : step parse digest service (.conclude id) = service.conclude digest id task key := by
    simp [step, htask, hkey]
  rw [hstep]
  cases hphase : task.phase with
  | caching =>
    simp only [Service.conclude, hphase]
    exact ⟨_, _, rfl, rfl, rfl⟩
  | clearing =>
    simp only [Service.conclude, hphase]
    exact ⟨_, _, rfl, rfl, rfl⟩
  | _ =>
    rw [hphase] at hheld
    cases hheld

theorem freed_of_unlocked (hsound : Sound digest service) (hlock : service.lock = none) {id : ℕ}
    {failure : Failure} (htask : service.tasks.lookup id = some task) (hkey : task.key = some key)
    (hphase : task.phase = .failing failure) :
    ∃ later, run (step parse digest) service [.acquire id, .conclude id] = some later ∧
      later.tasks.lookup id = some (task.at (.ended (.failed failure))) ∧
      later.inFlight.lookup key = none := by
  have hinFlight := hsound.owned id task key htask (by rw [hphase]; rfl) hkey
  have hacquire : step parse digest service (.acquire id) =
      some (Service.put { service with lock := some id } id (task.at (.clearing failure))) := by
    simp [step, htask, hphase, hlock]
  have hconclude : step parse digest
      (Service.put { service with lock := some id } id (task.at (.clearing failure)))
      (.conclude id) = Service.conclude digest
        (Service.put { service with lock := some id } id (task.at (.clearing failure))) id
        (task.at (.clearing failure)) key := by
    simp [step, Service.put, Write.at, hkey]
  refine ⟨_, (run_cons_eq_some ..).2 ⟨_, hacquire, (run_cons_eq_some ..).2
    ⟨_, hconclude.trans rfl, rfl⟩⟩, ?_, ?_⟩
  · exact lookup_insert _
  · simp [Service.put, Service.resolve, hinFlight]

/-- A request that has failed can always release its key. -/
theorem failing_freed (hsound : Sound digest service) {id : ℕ} {failure : Failure}
    (htask : service.tasks.lookup id = some task) (hkey : task.key = some key)
    (hphase : task.phase = .failing failure) :
    ∃ events later, run (step parse digest) service events = some later ∧
      later.tasks.lookup id = some (task.at (.ended (.failed failure))) ∧
      later.inFlight.lookup key = none := by
  cases hlock : service.lock with
  | none => exact ⟨_, freed_of_unlocked hsound hlock htask hkey hphase⟩
  | some holder =>
    obtain ⟨held, found, hheld, hfound, hholds⟩ := hsound.locked holder hlock
    have hother : id ≠ holder := by
      rintro rfl
      cases htask.symm.trans hheld
      rw [hphase] at hholds
      cases hholds
    obtain ⟨answer, next, hstep, hnextLock, hnextTasks⟩ :
        ∃ answer next, step parse digest service (.conclude holder) = some next ∧
          next.lock = none ∧ next.tasks = service.tasks.insert holder (held.at (.ended answer)) :=
      conclude_isSome hheld hfound hholds
    have hnext := (step_change hsound.keyless hstep).sound hsound
    have hnextTask : next.tasks.lookup id = some task := by
      rw [hnextTasks, lookup_insert_ne hother, htask]
    obtain ⟨later, hrun, hfreed⟩ :
        ∃ later, run (step parse digest) next [.acquire id, .conclude id] = some later ∧
          later.tasks.lookup id = some (task.at (.ended (.failed failure))) ∧
          later.inFlight.lookup key = none :=
      freed_of_unlocked hnext hnextLock hnextTask hkey hphase
    exact ⟨_, later, (run_cons_eq_some ..).2 ⟨next, hstep, hrun⟩, hfreed⟩

/-- The digest of the payload that the key stands for. -/
def claimedHash (service : Service Body Digest) (key : String) : Option Digest :=
  ((service.cached key).map Prod.snd).or ((service.inFlight.lookup key).bind fun owner =>
      (service.markers.lookup owner).map Marker.payloadHash)

theorem claim_mismatch {id : ℕ} {payloadHash : Digest} (htask : service.tasks.lookup id = some task)
    (hkey : task.key = some key) (hphase : task.phase = .claiming none)
    (hlock : service.lock = none) (hclaimed : claimedHash service key = some payloadHash)
    (hother : digest task.body ≠ payloadHash) :
    step parse digest service (.claim id) = some (service.put id (task.at (.ended .mismatch))) := by
  have hstep : step parse digest service (.claim id) =
      some (service.claim parse digest id task key none) := by
    simp [step, htask, hkey, hphase, hlock]
  rw [hstep]
  cases hcached : service.cached key with
  | some entry =>
    have hhash : entry.2 = payloadHash := by simpa [claimedHash, hcached] using hclaimed
    simp [Service.claim, hcached, hhash, hother]
  | none =>
    cases hinFlight : service.inFlight.lookup key with
    | none => simp [claimedHash, hcached, hinFlight] at hclaimed
    | some owner =>
      have hhash : (service.markers.lookup owner).map Marker.payloadHash = some payloadHash := by
        simpa [claimedHash, hcached, hinFlight] using hclaimed
      simp [Service.claim, hcached, hinFlight, hhash, Ne.symm hother]

variable (parse digest) in
/-- What holds of the idempotency state between two sections. -/
structure Idempotent (service : Service Body Digest) : Prop where
  once : ∀ key events later, run (step parse digest) service events = some later →
    Guarded (step parse digest) (fun service _ => Claimed key service) service events →
      commits key later ≤ commits key service + 1
  replayed : ∀ id task response, service.tasks.lookup id = some task →
    task.phase = .ended (.replayed response) →
      ∃ owner other cancelled, service.tasks.lookup owner = some other ∧
        other.key = task.key ∧ other.body = task.body ∧
        other.phase = .ended (.executed response cancelled)
  evicted : ∀ id task, service.tasks.lookup id = some task → task.phase = .ended .replayEvicted →
      ∃ owner other response cancelled, service.tasks.lookup owner = some other ∧
        other.key = task.key ∧ other.body = task.body ∧
        other.phase = .ended (.executed response cancelled)
  noticed : ∀ event later id task, step parse digest service event = some later →
    later.tasks.lookup id = some task → task.phase = .ended .replayEvicted →
    service.tasks.lookup id ≠ some task → ∃ key, task.key = some key ∧ service.cached key = none
  exclusive : ∀ id task key, service.tasks.lookup id = some task →
    running task.phase = true → task.key = some key →
      service.inFlight.lookup key = some id ∧ service.cached key = none
  refused : ∀ id task key payloadHash, service.tasks.lookup id = some task →
    task.key = some key → task.phase = .claiming none → service.lock = none →
    claimedHash service key = some payloadHash → digest task.body ≠ payloadHash →
      step parse digest service (.claim id) = some (service.put id (task.at (.ended .mismatch)))
  lasting : ∀ id task answer, service.tasks.lookup id = some task →
    task.phase = .ended answer → ∀ events later,
      run (step parse digest) service events = some later → later.tasks.lookup id = some task
  released : ∀ key id, service.inFlight.lookup key = some id →
    ∃ task, service.tasks.lookup id = some task ∧ task.key = some key ∧ running task.phase = true
  freed : ∀ id task key failure, service.tasks.lookup id = some task →
    task.key = some key → task.phase = .failing failure →
      ∃ events later, run (step parse digest) service events = some later ∧
        later.tasks.lookup id = some (task.at (.ended (.failed failure))) ∧
        later.inFlight.lookup key = none

/-- The digest tells the payloads of the requests apart. -/
def Distinguishes (digest : Body → Digest) (service : Service Body Digest) : Prop :=
  ∀ first second one other, service.tasks.lookup first = some one →
    service.tasks.lookup second = some other → digest one.body = digest other.body →
      one.body = other.body

end Whole

attribute [local instance] Profiles.ascii

def parseEither (body : Bool) : Option ModelConfig :=
  if body then some ModelCatalogue.sampleConfig else none

def answerOf : Phase → Option Answer
  | .ended answer => some answer
  | _ => none

/-- The owner is cancelled while it stores, a request with its payload waits for it, and one
with another payload comes in between. -/
def sharedKey : List (Event Bool) :=
  [.arrive 0 (some "key") true, .claim 0, .arrive 1 (some "key") true, .claim 1, .enter 0,
    .proceed 0 .done, .cancel 0, .arrive 2 (some "key") false, .claim 2, .proceed 0 .done,
    .proceed 0 .done, .proceed 0 .done, .acquire 0, .conclude 0, .wake 1, .claim 1]

variable {count : ℕ}

section Eviction

def parseSample : Unit → Option ModelConfig :=
  fun _ => some ModelCatalogue.sampleConfig

/-- What the first write of the sample leaves behind. -/
def posted : CommitAtomicity.Committed :=
  ⟨⟨{ CommitAtomicity.freshStart.plane.registry with
      models := (∅ : Tables.Table ModelConfig).insert "a" ModelCatalogue.sampleConfig },
    (∅ : Tables.Table ModelConfig).insert (ConfigStore.fileOf "a") ModelCatalogue.sampleConfig⟩,
    CommitAtomicity.bump CommitAtomicity.freshStart.epoch⟩

theorem addModel_posted : ConfigApi.addModel posted.plane ModelCatalogue.sampleConfig =
    .ok (.append ModelCatalogue.sampleConfig none) := by
  with_unfolding_all rfl

theorem applyRegistry_posted : ConfigApi.applyRegistry posted.plane.registry
    (.append ModelCatalogue.sampleConfig none) = .ok posted.plane.registry := by
  with_unfolding_all rfl

theorem checkBodyId_sample : ConfigApi.checkBodyId ModelCatalogue.sampleConfig.name = .ok () := by
  with_unfolding_all rfl

/-- A request waits for the owner of its key, and the owner stores its response. -/
def waitedFor : List (Event Unit) :=
  [.arrive 0 (some "key") (), .arrive 1 (some "key") (), .claim 0, .claim 1, .enter 0,
    .proceed 0 .done, .proceed 0 .done, .proceed 0 .done, .proceed 0 .done, .acquire 0,
    .conclude 0, .wake 1]

theorem waitedFor_isSome : (run (step parseSample id)
    (start Unit Unit CommitAtomicity.freshStart false) waitedFor).isSome = true := by
  decide +kernel

def afterOwner : Service Unit Unit :=
  (run (step parseSample id) (start Unit Unit CommitAtomicity.freshStart false)
    waitedFor).get waitedFor_isSome

def otherKey (index : ℕ) : String := String.ofList (List.replicate (index + 4) 'k')

/-- A write that repeats the first one, under a key of its own. -/
def otherWrite (index : ℕ) : List (Event Unit) :=
  [.arrive (index + 2) (some (otherKey index)) (), .claim (index + 2), .enter (index + 2),
    .proceed (index + 2) .done, .acquire (index + 2), .conclude (index + 2)]

theorem otherKey_injective : Function.Injective otherKey := by
  intro first second hsame
  have hlist : (otherKey first).toList = (otherKey second).toList := by rw [hsame]
  simp only [otherKey, String.toList_ofList] at hlist
  have hlength := congrArg List.length hlist
  simp only [length_replicate] at hlength
  omega

theorem otherKey_ne (index : ℕ) : otherKey index ≠ "key" := by
  intro hsame
  have hlength := congrArg (fun text => text.toList.length) hsame
  simp [otherKey] at hlength

theorem otherKey_filter (index : ℕ) :
    (some (otherKey index)).filter (· ≠ "") = some (otherKey index) := by
  have hkey : otherKey index ≠ "" := by
    intro hempty
    have hlength := congrArg (fun text => text.toList.length) hempty
    simp [otherKey] at hlength
  simp [filter_some, hkey]

def repeated : Response := respond posted.plane.registry ModelCatalogue.sampleConfig

theorem otherWrite_run (hcached : cache.lookup (otherKey count) = none)
    (hinFlight : inFlight.lookup (otherKey count) = none)
    (hfresh : tasks.lookup (count + 2) = none) :
    run (step parseSample id) ⟨posted, natsConnected, none, none, cache, inFlight, markers, tasks⟩
        (otherWrite count) =
      some ⟨posted, natsConnected, none, none, remember cache (otherKey count) repeated (),
        (inFlight.insert (otherKey count) (count + 2)).erase (otherKey count),
        markers.insert (count + 2) ⟨true, none, (), true⟩,
        tasks.insert (count + 2)
          ⟨some (otherKey count), (), .ended (.executed repeated false), false, true⟩⟩ := by
  have harrive : step parseSample id
      ⟨posted, natsConnected, none, none, cache, inFlight, markers, tasks⟩
      (.arrive (count + 2) (some (otherKey count)) ()) =
        some ⟨posted, natsConnected, none, none, cache, inFlight, markers, tasks.insert (count + 2)
            ⟨some (otherKey count), (), .claiming none, false, false⟩⟩ := by
    simp only [step, hfresh, if_true, Service.arrive, otherKey_filter]
    rfl
  simp only [otherWrite, run, harrive, bind_some]
  simp [step, Service.put, Service.claim, Service.cached, hcached, hinFlight, Write.at,
    Write.begin, parseSample, checkBodyId_sample, Service.proceed, Service.decide,
    addModel_posted, ConfigApi.persists, Service.change, applyRegistry_posted, Service.finish,
    Service.leave, Write.commits, Write.settled, Service.conclude, Service.resolve, repeated]

def otherWrites (count : ℕ) : List (Event Unit) := (List.range count).flatMap otherWrite

/-- The keys in the order in which their responses were stored. -/
def storedKeys (count : ℕ) : List String := "key" :: (List.range count).map otherKey

/-- No request runs, and so many other writes have been made. -/
structure Filled (count : ℕ) (service : Service Unit Unit) : Prop where
  committed : service.committed = posted
  writeLock : service.writeLock = none
  lock : service.lock = none
  inFlight : ∀ key, service.inFlight.lookup key = none
  fresh : ∀ id, count + 2 ≤ id → service.tasks.lookup id = none
  others : ∀ id < 2, service.tasks.lookup id = afterOwner.tasks.lookup id
  cache : service.cache.map Prod.fst = (storedKeys count).drop (count + 1 - maxIdempotencyCacheSize)

theorem otherKey_notMem (count : ℕ) : otherKey count ∉ storedKeys count := by
  intro hmem
  obtain hkey | hother := mem_cons.1 hmem
  · exact otherKey_ne count hkey
  · obtain ⟨index, hindex, hsame⟩ := List.mem_map.1 hother
    have hlt := mem_range.1 hindex
    exact hlt.ne (otherKey_injective hsame)

theorem remember_keys (hkey : key ∉ cache.map Prod.fst) (response : Response) :
    (remember cache key response ()).map Prod.fst =
      (cache.map Prod.fst ++ [key]).drop (cache.length + 1 - maxIdempotencyCacheSize) := by
  have hsame : cache.filter (·.1 ≠ key) = cache := by
    refine filter_eq_self.2 fun entry hentry => ?_
    refine decide_eq_true fun heq => hkey ?_
    exact heq ▸ mem_map_of_mem hentry
  simp only [remember, hsame, map_drop, map_append, map_cons, map_nil,
    length_append, length_singleton]

theorem Filled.next (hfilled : Filled count service) (hcount : count < maxIdempotencyCacheSize) :
    ∃ after, run (step parseSample id) service (otherWrite count) = some after ∧
      Filled (count + 1) after := by
  obtain ⟨committed, natsConnected, writeLock, lock, cache, inFlight, markers, tasks⟩ := service
  obtain ⟨rfl, rfl, rfl, hinFlight, hfresh, hothers, hcache⟩ := hfilled
  simp only at hinFlight hfresh hothers hcache
  rw [Nat.sub_eq_zero_of_le hcount, drop_zero] at hcache
  have hkey : otherKey count ∉ cache.map Prod.fst := hcache ▸ otherKey_notMem count
  have hcached : cache.lookup (otherKey count) = none := by
    rw [lookup_eq_none_iff]
    intro entry hentry
    rw [bne_iff_ne]
    rintro heq
    exact hkey (heq ▸ mem_map_of_mem hentry)
  refine ⟨_, otherWrite_run hcached (hinFlight _) (hfresh _ le_rfl),
    ⟨rfl, rfl, rfl, ?_, ?_, ?_, ?_⟩⟩
  · intro key
    by_cases hsame : key = otherKey count
    · rw [hsame, lookup_erase]
    · rw [lookup_erase_ne hsame, lookup_insert_ne hsame, hinFlight]
  · intro id hid
    rw [lookup_insert_ne (by omega), hfresh id (by omega)]
  · intro id hid
    rw [lookup_insert_ne (by omega), hothers id hid]
  · have hlength : cache.length = count + 1 := by
      have hkeys := congrArg List.length hcache
      simpa [storedKeys] using hkeys
    rw [remember_keys hkey, hcache, hlength]
    simp [storedKeys, range_succ]

theorem afterOwner_filled : Filled 0 afterOwner where
  committed := by with_unfolding_all rfl
  writeLock := by with_unfolding_all rfl
  lock := by with_unfolding_all rfl
  inFlight := by
    have hempty : afterOwner.inFlight.entries = [] := by with_unfolding_all rfl
    intro key
    simp [AList.lookup, hempty]
  fresh := by
    have hkeys : afterOwner.tasks.keys = [1, 0] := by with_unfolding_all rfl
    intro id hid
    rw [AList.lookup_eq_none, AList.mem_keys, hkeys]
    simp only [mem_cons, not_mem_nil, or_false]
    omega
  others := fun _ _ => rfl
  cache := by with_unfolding_all rfl

theorem otherWrites_run (hcount : count ≤ maxIdempotencyCacheSize) :
    ∃ service, run (step parseSample id) afterOwner (otherWrites count) = some service ∧
      Filled count service := by
  induction count with
  | zero => exact ⟨afterOwner, rfl, afterOwner_filled⟩
  | succ _ ih =>
    obtain ⟨service, hrun, hfilled⟩ := ih (by omega)
    obtain ⟨after, hafter, hnext⟩ := hfilled.next hcount
    refine ⟨after, ?_, hnext⟩
    rw [otherWrites, range_succ, flatMap_append, run_append, ← otherWrites, hrun]
    simpa using hafter

end Eviction

end SieCluster.IdempotentWrites
