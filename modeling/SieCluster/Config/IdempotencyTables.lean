import SieCluster.Config.IdempotencySections

/-!
# The tables of the idempotency state

A key in flight belongs to a request that executes, a cached response to one that
has executed, and a request that has met another one knows that it has its key
and its digest.
-/

namespace SieCluster.IdempotentWrites

open Totals Idempotency Option AList

variable {Body Digest : Type} {digest : Body → Digest} {id : ℕ}

section Invariants

variable (digest)

/-- A request with this key and the digest of this body. -/
structure Peer (key : Option String) (body : Body) (other : Write Body) : Prop where
  key : other.key = key
  digest : digest other.body = digest body

section

variable (tasks : Table ℕ (Write Body))

/-- The request `owner` is a peer that has executed. -/
def ExecutedPeer (key : Option String) (body : Body) (owner : ℕ) (response : Response) : Prop :=
  ∃ other cancelled, tasks.lookup owner = some other ∧ Peer digest key body other ∧
    other.phase = .ended (.executed response cancelled)

/-- What is known of the request that another one has met. -/
def Answered (key : Option String) (body : Body) : Phase → Prop
  | .waiting owner => ∃ other, tasks.lookup owner = some other ∧ Peer digest key body other
  | .claiming (some owner) => ∃ response, ExecutedPeer digest tasks key body owner response
  | .ended (.replayed response) => ∃ owner, ExecutedPeer digest tasks key body owner response
  | .ended .replayEvicted =>
    ∃ owner response, ExecutedPeer digest tasks key body owner response
  | _ => True

variable (service : Service Body Digest)

/-- The request executes under its key, and its marker has its digest. -/
def OwnedBy (key : String) (id : ℕ) : Prop :=
  ∃ task, service.tasks.lookup id = some task ∧ task.key = some key ∧ running task.phase = true ∧
    (service.markers.lookup id).map Marker.payloadHash = some (digest task.body)

/-- A marker that has succeeded is that of a request that has executed. -/
def Marked (id : ℕ) (succeeded : Bool) : Prop :=
  ∃ task, tasks.lookup id = some task ∧ (succeeded = true →
    ∃ response cancelled, task.phase = .ended (.executed response cancelled))

structure Sound : Prop where
  keyless : Keyless service
  owned : ∀ id task key, service.tasks.lookup id = some task → running task.phase = true →
    task.key = some key → service.inFlight.lookup key = some id
  inFlight : ∀ key id, service.inFlight.lookup key = some id → OwnedBy digest service key id
  unstored : ∀ key id, service.inFlight.lookup key = some id →
    ∀ entry ∈ service.cache, entry.1 ≠ key
  marked : ∀ id marker, service.markers.lookup id = some marker →
    Marked service.tasks id marker.succeeded
  stored : ∀ entry ∈ service.cache,
    ∃ id task cancelled, service.tasks.lookup id = some task ∧ task.key = some entry.1 ∧
      digest task.body = entry.2.2 ∧ task.phase = .ended (.executed entry.2.1 cancelled)
  answered : ∀ id task, service.tasks.lookup id = some task →
    Answered digest service.tasks task.key task.body task.phase
  locked : ∀ id, service.lock = some id → ∃ task key, service.tasks.lookup id = some task ∧
    task.key = some key ∧ holdsLock task.phase = true

/-- The entry is the response of a request that has executed. -/
def StoredBy (entry : String × Response × Digest) : Prop :=
  ∃ id task cancelled, tasks.lookup id = some task ∧ task.key = some entry.1 ∧
    digest task.body = entry.2.2 ∧ task.phase = .ended (.executed entry.2.1 cancelled)

end

variable {digest} {service after : Service Body Digest}

/-- Requests stay, and those that have ended stay as they are. -/
def Kept (tasks after : Table ℕ (Write Body)) : Prop :=
  ∀ id task, tasks.lookup id = some task → ∃ new, after.lookup id = some new ∧
    new.key = task.key ∧ new.body = task.body ∧ (∀ answer, task.phase = .ended answer → new = task)

variable {new old : Write Body} {resolved : Marker Digest → Marker Digest}

theorem kept_insert
    (hold : ∀ old, tasks.lookup id = some old → new.key = old.key ∧ new.body = old.body ∧
      ∀ answer, old.phase ≠ .ended answer) : Kept tasks (tasks.insert id new) := by
  intro other task htask
  by_cases hid : other = id
  · subst hid
    obtain ⟨hkey, hbody, hopen⟩ := hold task htask
    exact ⟨new, lookup_insert tasks, hkey, hbody, fun answer hended => absurd hended (hopen answer)⟩
  · exact ⟨task, (lookup_insert_ne hid).trans htask, rfl, rfl, fun _ _ => rfl⟩

theorem kept_replace (hold : tasks.lookup id = some old) (hkey : new.key = old.key)
    (hbody : new.body = old.body) (hopen : ∀ answer, old.phase ≠ .ended answer) :
    Kept tasks (tasks.insert id new) := by
  refine kept_insert fun found hfound => ?_
  cases hold.symm.trans hfound
  exact ⟨hkey, hbody, hopen⟩

theorem not_ended_of_running (hrunning : running phase = true) (answer : Answer) :
    phase ≠ .ended answer := by
  rintro rfl
  cases hrunning

theorem running_of_holdsLock (hlock : holdsLock phase = true) : running phase = true := by
  cases phase with
  | caching => rfl
  | clearing => rfl
  | _ => cases hlock

theorem Resolves.kept (hresolves : Resolves service after id old key resolved answer) :
    Kept service.tasks after.tasks := by
  rw [hresolves.tasks]
  exact kept_replace hresolves.found rfl rfl
    (not_ended_of_running (running_of_holdsLock hresolves.holds))

theorem Change.kept (hchange : Change digest service after) : Kept service.tasks after.tasks := by
  cases hchange with
  | arrives _ _ hnew _ _ _ htasks =>
    rw [htasks]
    refine kept_insert fun old hold => ?_
    rw [hnew] at hold
    cases hold
  | goesAside _ _ _ _ hold _ hopen _ _ htasks =>
    rw [htasks]
    exact kept_replace hold rfl rfl hopen
  | claims _ _ _ _ hold hidle _ _ _ _ htasks =>
    rw [htasks]
    exact kept_replace hold rfl rfl (by simp [hidle])
  | works _ _ _ hold hkey hbody hbefore _ _ _ htasks =>
    rw [htasks]
    exact kept_replace hold hkey hbody (not_ended_of_running hbefore)
  | stores _ _ _ _ hresolves => exact hresolves.kept
  | clears _ _ _ _ hresolves => exact hresolves.kept

theorem ExecutedPeer.mono {key : Option String} {owner : ℕ} {response : Response}
    (hpeer : ExecutedPeer digest tasks key body owner response) (hkept : Kept tasks later) :
    ExecutedPeer digest later key body owner response := by
  obtain ⟨other, cancelled, hother, hpeer, hphase⟩ := hpeer
  obtain ⟨new, hnew, -, -, hsame⟩ := hkept owner other hother
  obtain rfl := hsame _ hphase
  exact ⟨new, cancelled, hnew, hpeer, hphase⟩

theorem Answered.mono {key : Option String} (hanswered : Answered digest tasks key body phase)
    (hkept : Kept tasks later) : Answered digest later key body phase := by
  cases phase with
  | waiting owner =>
    obtain ⟨other, hother, hpeer⟩ := hanswered
    obtain ⟨new, hnew, hkey, hbody, -⟩ := hkept owner other hother
    exact ⟨new, hnew, hkey.trans hpeer.key, (congrArg digest hbody).trans hpeer.digest⟩
  | claiming waited =>
    cases waited with
    | none => trivial
    | some =>
      obtain ⟨response, hpeer⟩ := hanswered
      exact ⟨response, hpeer.mono hkept⟩
  | ended answer =>
    cases answer with
    | replayed =>
      obtain ⟨owner, hpeer⟩ := hanswered
      exact ⟨owner, hpeer.mono hkept⟩
    | replayEvicted =>
      obtain ⟨owner, response, hpeer⟩ := hanswered
      exact ⟨owner, response, hpeer.mono hkept⟩
    | _ => trivial
  | _ => trivial

theorem mem_of_cached (hcached : service.cached key = some entry) :
    (key, entry) ∈ service.cache := by
  obtain ⟨front, back, hcache, -⟩ := List.lookup_eq_some_iff.1 hcached
  rw [hcache]
  exact List.mem_append_right front List.mem_cons_self

theorem cached_eq_none : service.cached key = none ↔ ∀ entry ∈ service.cache, entry.1 ≠ key := by
  simp only [Service.cached, List.lookup_eq_none_iff, bne_iff_ne, ne_comm]

theorem mem_remember (hentry : entry ∈ remember cache key response payloadHash) :
    entry = (key, response, payloadHash) ∨ entry ∈ cache := by
  have hstored := List.mem_of_mem_drop hentry
  obtain hold | hnew := List.mem_append.1 hstored
  · exact .inr (List.mem_filter.1 hold).1
  · exact .inl (List.mem_singleton.1 hnew)

theorem answered_of_running {key : Option String} (hrunning : running phase = true) :
    Answered digest tasks key body phase := by
  cases phase with
  | claiming => cases hrunning
  | waiting => cases hrunning
  | ended => cases hrunning
  | _ => trivial

theorem answered_of_apart {key : Option String} (hapart : apart phase = true) :
    Answered digest tasks key body phase := by
  cases phase with
  | claiming => cases hapart
  | waiting => cases hapart
  | ended answer =>
    cases answer with
    | replayed => cases hapart
    | replayEvicted => cases hapart
    | _ => trivial
  | _ => trivial

theorem Excused.not_running (hexcused : Excused digest service task key phase) :
    running phase = false := by
  cases phase with
  | claiming => rfl
  | waiting => rfl
  | ended => rfl
  | _ => cases hexcused

/-- The notice of an eviction is given while no response is stored under the key. -/
theorem Change.evicted (hchange : Change digest service after)
    (htask : after.tasks.lookup id = some task) (hphase : task.phase = .ended .replayEvicted)
    (hchanged : service.tasks.lookup id ≠ some task) :
    ∃ key, task.key = some key ∧ service.cached key = none := by
  have hinserted : ∀ (other : ℕ) (new : Write Body),
      after.tasks = service.tasks.insert other new → task = new := by
    intro other new htasks
    rw [htasks] at htask
    obtain ⟨-, hnew⟩ | ⟨-, hfound⟩ := lookup_insert_iff.1 htask
    · exact hnew.symm
    · exact absurd hfound hchanged
  cases hchange with
  | arrives other new _ hnew hkeyed _ htasks =>
    obtain rfl := hinserted other new htasks
    obtain hkey | hclaiming := hnew
    · have hapart := hkeyed hkey
      rw [hphase] at hapart
      cases hapart
    · rw [hphase] at hclaiming
      cases hclaiming
  | goesAside other old key phase _ _ _ hkey hexcused htasks =>
    obtain rfl := hinserted other (old.at phase) htasks
    obtain rfl : phase = .ended .replayEvicted := hphase
    exact ⟨key, hkey, hexcused.1⟩
  | claims other old _ phase _ _ _ _ _ hrunning htasks =>
    obtain rfl := hinserted other (old.at phase) htasks
    exact absurd hphase (not_ended_of_running hrunning _)
  | works other _ new _ hkey _ _ hrunning hkeyed _ htasks =>
    obtain rfl := hinserted other new htasks
    obtain hrunning | hnone := hrunning
    · exact absurd hphase (not_ended_of_running hrunning _)
    · have hapart := hkeyed (hkey.trans hnone)
      rw [hphase] at hapart
      cases hapart
  | stores other _ _ _ hresolves =>
    obtain rfl := hinserted other _ hresolves.tasks
    cases hphase
  | clears other _ _ _ hresolves =>
    obtain rfl := hinserted other _ hresolves.tasks
    cases hphase

section

variable (hsound : Sound digest service)
include hsound

/-- The reasons of a request that goes aside are those its answer needs. -/
theorem Excused.answered (htask : service.tasks.lookup id = some task)
    (hkey : task.key = some key) (hexcused : Excused digest service task key phase) :
    Answered digest service.tasks task.key task.body phase := by
  have hmet := hsound.answered id task htask
  cases phase with
  | waiting owner =>
    obtain ⟨hinFlight, hhash⟩ := hexcused
    obtain ⟨other, hother, hotherKey, -, hmarker⟩ := hsound.inFlight key owner hinFlight
    exact ⟨other, hother, hotherKey.trans hkey.symm, some.inj (hmarker.symm.trans hhash)⟩
  | claiming waited =>
    cases waited with
    | none => trivial
    | some owner =>
      obtain ⟨hphase, marker, hmarker, hsucceeded⟩ := hexcused
      rw [hphase] at hmet
      obtain ⟨other, hother, hpeer⟩ := hmet
      obtain ⟨marked, hmarked, hexecuted⟩ := hsound.marked owner marker hmarker
      cases hother.symm.trans hmarked
      obtain ⟨response, cancelled, hended⟩ := hexecuted hsucceeded
      exact ⟨response, other, cancelled, hother, hpeer, hended⟩
  | ended answer =>
    cases answer with
    | replayed =>
      obtain ⟨owner, other, cancelled, hother, hotherKey, hhash, hended⟩ :=
        hsound.stored _ (mem_of_cached hexcused)
      exact ⟨owner, other, cancelled, hother, ⟨hotherKey.trans hkey.symm, hhash⟩, hended⟩
    | replayEvicted =>
      obtain ⟨-, owner, hphase⟩ := hexcused
      rw [hphase] at hmet
      obtain ⟨response, hpeer⟩ := hmet
      exact ⟨owner, response, hpeer⟩
    | _ => trivial
  | _ => trivial

theorem Change.answered (hchange : Change digest service after) :
    ∀ id task, after.tasks.lookup id = some task →
      Answered digest after.tasks task.key task.body task.phase := by
  have hkept := hchange.kept
  have hinsert : ∀ (id : ℕ) (new : Write Body), after.tasks = service.tasks.insert id new →
      Answered digest service.tasks new.key new.body new.phase →
      ∀ other task, after.tasks.lookup other = some task →
        Answered digest after.tasks task.key task.body task.phase := by
    intro id new htasks hnew other task htask
    rw [htasks] at htask
    obtain ⟨-, rfl⟩ | ⟨-, hfound⟩ := lookup_insert_iff.1 htask
    · exact hnew.mono hkept
    · exact (hsound.answered other task hfound).mono hkept
  cases hchange with
  | arrives id new _ hphase hkeyed _ htasks =>
    refine hinsert id new htasks ?_
    obtain hkey | hclaiming := hphase
    · exact answered_of_apart (hkeyed hkey)
    · rw [hclaiming]
      trivial
  | goesAside id old _ phase hold _ _ hkey hexcused htasks =>
    have hanswered := hexcused.answered hsound hold hkey
    exact hinsert id (old.at phase) htasks hanswered
  | claims id _ _ _ _ _ _ _ _ hrunning htasks =>
    exact hinsert id _ htasks (answered_of_running hrunning)
  | works id _ new _ hkey _ _ hrunning hkeyed _ htasks =>
    refine hinsert id new htasks ?_
    obtain hrunning | hnone := hrunning
    · exact answered_of_running hrunning
    · exact answered_of_apart (hkeyed (hkey.trans hnone))
  | stores id _ _ _ hresolves => exact hinsert id _ hresolves.tasks trivial
  | clears id _ _ _ hresolves => exact hinsert id _ hresolves.tasks trivial

theorem Change.keyless (hchange : Change digest service after) : Keyless after := by
  have hinsert : ∀ (id : ℕ) (new : Write Body), after.tasks = service.tasks.insert id new →
      (new.key = none → apart new.phase = true) → Keyless after := by
    intro id new htasks hnew
    rw [Keyless, htasks]
    exact forall_insert hsound.keyless hnew
  have hkeyed : ∀ (old : Write Body) (key : String), old.key = some key →
      ∀ phase, (old.at phase).key = none → apart (old.at phase).phase = true := by
    intro old key hkey phase hnone
    exact absurd (hkey.symm.trans hnone) (some_ne_none key)
  cases hchange with
  | arrives id new _ _ hapart _ htasks =>
    exact hinsert id new htasks hapart
  | goesAside id old key phase _ _ _ hkey _ htasks =>
    exact hinsert id _ htasks (hkeyed old key hkey phase)
  | claims id old key phase _ _ hkey _ _ _ htasks =>
    exact hinsert id _ htasks (hkeyed old key hkey phase)
  | works id _ new _ _ _ _ _ hapart _ htasks =>
    exact hinsert id new htasks hapart
  | stores id old key _ hresolves =>
    exact hinsert id _ hresolves.tasks (hkeyed old key hresolves.keyed _)
  | clears id old key _ hresolves =>
    exact hinsert id _ hresolves.tasks (hkeyed old key hresolves.keyed _)

section

variable (hresolves : Resolves service after id old key resolved answer)
include hresolves

/-- The key of the request that is resolved is its own, and is free afterwards. -/
theorem Resolves.freed : after.inFlight = service.inFlight.erase key := by
  rw [hresolves.inFlight, if_pos (hsound.owned id old key hresolves.found
    (running_of_holdsLock hresolves.holds) hresolves.keyed)]

theorem Resolves.owned :
    ∀ other task found, after.tasks.lookup other = some task → running task.phase = true →
      task.key = some found → after.inFlight.lookup found = some other := by
  intro other task found htask hrunning hfound
  rw [hresolves.tasks] at htask
  obtain ⟨-, rfl⟩ | ⟨hother, htask⟩ := lookup_insert_iff.1 htask
  · cases hrunning
  · have hmine := hsound.owned other task found htask hrunning hfound
    have howner := hsound.owned id old key hresolves.found
      (running_of_holdsLock hresolves.holds) hresolves.keyed
    have hkey : found ≠ key := by
      rintro rfl
      exact hother (some.inj (hmine.symm.trans howner))
    rw [hresolves.freed hsound, lookup_erase_ne hkey]
    exact hmine

end

theorem Change.owned (hchange : Change digest service after) :
    ∀ id task key, after.tasks.lookup id = some task → running task.phase = true →
      task.key = some key → after.inFlight.lookup key = some id := by
  have hframe {id : ℕ} {new : Write Body} (htasks : after.tasks = service.tasks.insert id new)
      (hsame : SameKeys service after) (hnew : ∀ key, running new.phase = true →
        new.key = some key → service.inFlight.lookup key = some id) :
      ∀ id task key, after.tasks.lookup id = some task → running task.phase = true →
        task.key = some key → after.inFlight.lookup key = some id := by
    intro other task key htask
    rw [htasks] at htask
    rw [hsame.inFlight]
    obtain ⟨rfl, rfl⟩ | ⟨-, htask⟩ := lookup_insert_iff.1 htask
    · exact hnew key
    · exact hsound.owned other task key htask
  cases hchange with
  | arrives _ _ _ hphase _ _ htasks hsame =>
    refine hframe htasks hsame fun key hrunning hkey => ?_
    obtain hnone | hclaiming := hphase
    · rw [hnone] at hkey
      cases hkey
    · rw [hclaiming] at hrunning
      cases hrunning
  | goesAside _ _ _ phase _ _ _ _ hexcused htasks hsame =>
    refine hframe htasks hsame fun key hrunning _ => ?_
    have hphase : running phase = true := hrunning
    rw [hexcused.not_running] at hphase
    cases hphase
  | claims _ _ found _ _ _ hfound _ hfree _ htasks hinFlight =>
    intro other task key htask hrunning hkey
    rw [htasks] at htask
    rw [hinFlight]
    obtain ⟨rfl, rfl⟩ | ⟨-, htask⟩ := lookup_insert_iff.1 htask
    · cases hfound.symm.trans hkey
      exact lookup_insert service.inFlight
    · have hmine := hsound.owned other task key htask hrunning hkey
      have hne : key ≠ found := by
        rintro rfl
        exact some_ne_none other (hmine.symm.trans hfree)
      rw [lookup_insert_ne hne]
      exact hmine
  | works id old _ hold hsameKey _ hbefore _ _ _ htasks hsame =>
    exact hframe htasks hsame fun key _ hkey =>
      hsound.owned id old key hold hbefore (hsameKey.symm.trans hkey)
  | stores _ _ _ _ hresolves => exact hresolves.owned hsound
  | clears _ _ _ _ hresolves => exact hresolves.owned hsound

end

theorem OwnedBy.elsewhere (howned : OwnedBy digest service key other) (hother : other ≠ id)
    (htasks : after.tasks = service.tasks.insert id new)
    (hmarkers : after.markers.lookup other = service.markers.lookup other) :
    OwnedBy digest after key other := by
  obtain ⟨task, htask, hkey, hrunning, hmarker⟩ := howned
  refine ⟨task, ?_, hkey, hrunning, hmarkers ▸ hmarker⟩
  rw [htasks, lookup_insert_ne hother]
  exact htask

theorem OwnedBy.ne_of_idle (howned : OwnedBy digest service key other)
    (htask : service.tasks.lookup id = some task) (hidle : running task.phase = false) :
    other ≠ id := by
  rintro rfl
  obtain ⟨owner, howner, -, hrunning, -⟩ := howned
  cases howner.symm.trans htask
  rw [hidle] at hrunning
  cases hrunning

theorem Resolves.lookup_markers
    (hresolves : Resolves service after id old key resolved answer) (hother : other ≠ id) :
    after.markers.lookup other = service.markers.lookup other := by
  obtain hsame | ⟨marker, -, hmarkers⟩ := hresolves.markers
  · rw [hsame]
  · rw [hmarkers, lookup_insert_ne hother]

section

variable (hsound : Sound digest service)
include hsound

section

variable (hresolves : Resolves service after id old key resolved answer)
include hresolves

/-- After a request is resolved, the keys in flight are those of the others. -/
theorem Resolves.inFlight_others
    {found : String} (hinFlight : after.inFlight.lookup found = some other) :
    found ≠ key ∧ service.inFlight.lookup found = some other := by
  rw [hresolves.freed hsound] at hinFlight
  exact lookup_erase_iff.1 hinFlight

theorem Resolves.ownedBy :
    ∀ found other, after.inFlight.lookup found = some other → OwnedBy digest after found other := by
  intro found other hinFlight
  obtain ⟨hfound, hinFlight⟩ := hresolves.inFlight_others hsound hinFlight
  have howned := hsound.inFlight found other hinFlight
  have hother : other ≠ id := by
    rintro rfl
    obtain ⟨task, htask, hkey, -⟩ := howned
    cases htask.symm.trans hresolves.found
    exact hfound (some.inj (hkey.symm.trans hresolves.keyed))
  exact howned.elsewhere hother hresolves.tasks (hresolves.lookup_markers hother)

end

section

variable (hchange : Change digest service after)
include hchange

theorem Change.inFlight :
    ∀ key id, after.inFlight.lookup key = some id → OwnedBy digest after key id := by
  cases hchange with
  | arrives id _ hnew _ _ _ htasks hsame =>
    intro key other hinFlight
    rw [hsame.inFlight] at hinFlight
    have howned := hsound.inFlight key other hinFlight
    have hother : other ≠ id := by
      rintro rfl
      obtain ⟨task, htask, -⟩ := howned
      exact some_ne_none task (htask.symm.trans hnew)
    exact howned.elsewhere hother htasks (by rw [hsame.markers])
  | goesAside _ _ _ _ hold hidle _ _ _ htasks hsame =>
    intro key other hinFlight
    rw [hsame.inFlight] at hinFlight
    have howned := hsound.inFlight key other hinFlight
    exact howned.elsewhere (howned.ne_of_idle hold hidle) htasks (by rw [hsame.markers])
  | claims id old found phase hold hidle hfound _ _ hstarts htasks hinserted hmarkers =>
    intro key other hinFlight
    rw [hinserted] at hinFlight
    by_cases hkey : key = found
    · subst hkey
      rw [lookup_insert, some.injEq] at hinFlight
      subst hinFlight
      refine ⟨old.at phase, ?_, hfound, hstarts, ?_⟩
      · rw [htasks, lookup_insert]
      · rw [hmarkers, lookup_insert]
        rfl
    · rw [lookup_insert_ne hkey] at hinFlight
      have howned := hsound.inFlight key other hinFlight
      have hother : other ≠ id := howned.ne_of_idle hold (by rw [hidle]; rfl)
      exact howned.elsewhere hother htasks (by rw [hmarkers, lookup_insert_ne hother])
  | works id _ new hold hsameKey hbody _ hafter _ _ htasks hsame =>
    intro key other hinFlight
    rw [hsame.inFlight] at hinFlight
    have howned := hsound.inFlight key other hinFlight
    by_cases hother : other = id
    · subst hother
      obtain ⟨task, htask, hkey, -, hmarker⟩ := howned
      cases htask.symm.trans hold
      refine ⟨new, ?_, hsameKey.trans hkey, ?_, ?_⟩
      · rw [htasks, lookup_insert]
      · exact hafter.resolve_right fun hnone =>
          some_ne_none key (hkey.symm.trans hnone)
      · rw [hsame.markers, hbody]
        exact hmarker
    · exact howned.elsewhere hother htasks (by rw [hsame.markers])
  | stores _ _ _ _ hresolves => exact hresolves.ownedBy hsound
  | clears _ _ _ _ hresolves => exact hresolves.ownedBy hsound

theorem Change.unstored :
    ∀ key id, after.inFlight.lookup key = some id → ∀ entry ∈ after.cache, entry.1 ≠ key := by
  have hframe : SameKeys service after → ∀ key id, after.inFlight.lookup key = some id →
      ∀ entry ∈ after.cache, entry.1 ≠ key := by
    intro hsame
    rw [hsame.inFlight, hsame.cache]
    exact hsound.unstored
  cases hchange with
  | claims _ _ _ _ _ _ _ hcache _ _ _ hinserted _ hsame =>
    rw [hinserted, hsame]
    exact forall_insert hsound.unstored (cached_eq_none.1 hcache)
  | stores _ _ _ _ hresolves hcache =>
    intro found other hinFlight entry hentry
    obtain ⟨hfound, hinFlight⟩ := hresolves.inFlight_others hsound hinFlight
    rw [hcache] at hentry
    obtain rfl | hentry := mem_remember hentry
    · exact hfound.symm
    · exact hsound.unstored found other hinFlight entry hentry
  | clears _ _ _ _ hresolves hcache =>
    intro found other hinFlight
    obtain ⟨-, hinFlight⟩ := hresolves.inFlight_others hsound hinFlight
    rw [hcache]
    exact hsound.unstored found other hinFlight
  | _ => exact hframe ‹_›

theorem Change.stored : ∀ entry ∈ after.cache, StoredBy digest after.tasks entry := by
  have hkept := hchange.kept
  have hframe : ∀ entry ∈ service.cache, StoredBy digest after.tasks entry := by
    intro entry hentry
    obtain ⟨id, task, cancelled, htask, hkey, hdigest, hphase⟩ := hsound.stored entry hentry
    obtain ⟨new, hnew, -, -, hsame⟩ := hkept id task htask
    obtain rfl := hsame _ hphase
    exact ⟨id, new, cancelled, hnew, hkey, hdigest, hphase⟩
  cases hchange with
  | claims _ _ _ _ _ _ _ _ _ _ _ _ _ hsame =>
    rw [hsame]
    exact hframe
  | stores id old _ response hresolves hcache =>
    intro entry hentry
    rw [hcache] at hentry
    obtain rfl | hentry := mem_remember hentry
    · refine ⟨id, old.at (.ended (.executed response old.cancellationDeferred)),
        old.cancellationDeferred, ?_, hresolves.keyed, rfl, rfl⟩
      rw [hresolves.tasks, lookup_insert]
    · exact hframe entry hentry
  | clears _ _ _ _ _ hcache =>
    rw [hcache]
    exact hframe
  | _ =>
    rw [SameKeys.cache ‹_›]
    exact hframe

end

end

theorem Marked.mono {succeeded : Bool} (hmarked : Marked tasks id succeeded)
    (hkept : Kept tasks later) : Marked later id succeeded := by
  obtain ⟨task, htask, hexecuted⟩ := hmarked
  obtain ⟨new, hnew, -, -, hsame⟩ := hkept id task htask
  refine ⟨new, hnew, fun hsucceeded => ?_⟩
  obtain ⟨response, cancelled, hphase⟩ := hexecuted hsucceeded
  obtain rfl := hsame _ hphase
  exact ⟨response, cancelled, hphase⟩

section

variable (hsound : Sound digest service) (hchange : Change digest service after)
include hsound hchange

theorem Change.marked : ∀ id marker, after.markers.lookup id = some marker →
      Marked after.tasks id marker.succeeded := by
  have hkept := hchange.kept
  have hframe : ∀ id marker, service.markers.lookup id = some marker →
      Marked after.tasks id marker.succeeded := fun id marker hmarker =>
    (hsound.marked id marker hmarker).mono hkept
  cases hchange with
  | claims _ old _ phase _ _ _ _ _ _ htasks _ hmarkers =>
    rw [hmarkers]
    refine forall_insert hframe ⟨old.at phase, ?_, nofun⟩
    rw [htasks, lookup_insert]
  | stores _ old _ response hresolves =>
    obtain hsame | ⟨found, -, hmarkers⟩ := hresolves.markers
    · rw [hsame]
      exact hframe
    · rw [hmarkers]
      refine forall_insert hframe ⟨old.at (.ended (.executed response old.cancellationDeferred)),
        ?_, fun _ => ⟨response, old.cancellationDeferred, rfl⟩⟩
      rw [hresolves.tasks, lookup_insert]
  | clears _ _ _ _ hresolves =>
    obtain hsame | ⟨found, hfound, hmarkers⟩ := hresolves.markers
    · rw [hsame]
      exact hframe
    · rw [hmarkers]
      exact forall_insert hframe (hframe _ found hfound)
  | _ =>
    rw [SameKeys.markers ‹_›]
    exact hframe

theorem Change.locked : ∀ id, after.lock = some id → ∃ task key, after.tasks.lookup id = some task ∧
      task.key = some key ∧ holdsLock task.phase = true := by
  -- the holder of the lock is another request than the one that moves
  have hframe : ∀ (id : ℕ) (new : Write Body), after.tasks = service.tasks.insert id new →
      after.lock = service.lock →
      (∀ old, service.tasks.lookup id = some old → holdsLock old.phase = true →
        new.key = old.key ∧ holdsLock new.phase = true) →
      ∀ holder, after.lock = some holder → ∃ task key, after.tasks.lookup holder = some task ∧
        task.key = some key ∧ holdsLock task.phase = true := by
    intro id new htasks hlock hnew holder hholder
    rw [hlock] at hholder
    obtain ⟨task, key, htask, hkey, hheld⟩ := hsound.locked holder hholder
    by_cases hid : holder = id
    · subst hid
      obtain ⟨hnewKey, hnewHeld⟩ := hnew task htask hheld
      exact ⟨new, key, by rw [htasks, lookup_insert], hnewKey.trans hkey, hnewHeld⟩
    · exact ⟨task, key, by rw [htasks, lookup_insert_ne hid, htask], hkey, hheld⟩
  have hidle : ∀ (id : ℕ) (old : Write Body), service.tasks.lookup id = some old →
      running old.phase = false → ∀ (new found : Write Body),
      service.tasks.lookup id = some found → holdsLock found.phase = true →
        new.key = found.key ∧ holdsLock new.phase = true := by
    intro id old hold hnot new found hfound hheld
    cases hold.symm.trans hfound
    rw [running_of_holdsLock hheld] at hnot
    cases hnot
  cases hchange with
  | arrives id new hnew _ _ _ htasks _ hlock =>
    refine hframe id new htasks hlock fun old hold => ?_
    exact absurd (hold.symm.trans hnew) (some_ne_none old)
  | goesAside id old _ _ hold hnot _ _ _ htasks _ hlock =>
    exact hframe id _ htasks hlock (hidle id old hold hnot _)
  | claims id old _ _ hold hclaiming _ _ _ _ htasks _ _ _ hlock =>
      exact hframe id _ htasks hlock (hidle id old hold (by rw [hclaiming]; rfl) _)
  | works id _ new hold hsameKey _ _ _ _ _ htasks _ hlock =>
    obtain ⟨hlock, hheld⟩ | ⟨hlock, hheld, hkey⟩ := hlock
    · refine hframe id new htasks hlock fun found hfound hfoundHeld => ?_
      cases hold.symm.trans hfound
      exact ⟨hsameKey, hheld hfoundHeld⟩
    · intro holder hholder
      cases hlock.symm.trans hholder
      obtain ⟨key, hkey⟩ := ne_none_iff_exists'.1 hkey
      exact ⟨new, key, by rw [htasks, lookup_insert], hkey, hheld⟩
  | stores _ _ _ _ hresolves =>
    intro holder hholder
    rw [hresolves.lock] at hholder
    cases hholder
  | clears _ _ _ _ hresolves =>
    intro holder hholder
    rw [hresolves.lock] at hholder
    cases hholder

theorem Change.sound : Sound digest after where
  keyless := hchange.keyless hsound
  owned := hchange.owned hsound
  inFlight := hchange.inFlight hsound
  unstored := hchange.unstored hsound
  marked := hchange.marked hsound
  stored := hchange.stored hsound
  answered := hchange.answered hsound
  locked := hchange.locked hsound

end

end Invariants

end SieCluster.IdempotentWrites
