import SieCluster.Core.Totals
import SieCluster.Config.CommitAtomicity

/-!
# Idempotency keys

A write request that carries an idempotency key first claims it: it finds the
stored response of an earlier request, waits for the request that owns the key,
or becomes the owner itself.  An owner executes the write and ends by storing its
response or by recording its failure.  A request runs in sections between its
waits, and the sections of many requests come in any order; a cancellation may
arrive at each wait.
-/

namespace SieCluster.Idempotency

open Runs
open Totals (Table total)
open Profiles
open ConfigRegistry
open ConfigApi
open CommitAtomicity (Committed bump)

variable [Letters]

def maxIdempotencyCacheSize : ℕ := 1000

/-- What a handler raises. -/
inductive Failure where
  | parseError
  | refused (problem : ApiError)
  /-- The exception of a call of the store. -/
  | storeFailed
  | cancelled
  deriving DecidableEq

inductive Warning where
  | publishPartial (failedBundles : List String)
  | publishFailed
  deriving DecidableEq

structure Response where
  statusCode : ℕ
  modelId : String
  createdProfiles : List String
  existingProfilesSkipped : List String
  warnings : List Warning
  deriving DecidableEq

/-- How a request ends. -/
inductive Answer where
  /-- A cancellation that was deferred is raised once the response is stored. -/
  | executed (response : Response) (cancelled : Bool)
  | failed (failure : Failure)
  | replayed (response : Response)
  | replayEvicted
  | mismatch
  | ownerFailed (failure : Failure)
  | inflightCancelled
  | inflightAborted
  /-- Cancelled before it had claimed its key. -/
  | cancelled
  deriving DecidableEq

/-- Where a request waits. -/
inductive Phase where
  /-- For the lock of the idempotency state, perhaps after a wait for another owner. -/
  | claiming (waited : Option ℕ)
  /-- For the event of the owner's marker. -/
  | waiting (owner : ℕ)
  /-- For the write lock. -/
  | queued (config : ModelConfig)
  | reading (config : ModelConfig)
  | storing (config : ModelConfig) (work : Work)
  | incrementing (response : Response)
  | listing (response : Response)
  | publishing (response : Response)
  /-- For the lock of the idempotency state, to store the response. -/
  | finishing (response : Response)
  | failing (failure : Failure)
  /-- The lock is held. -/
  | caching (response : Response)
  | clearing (failure : Failure)
  | ended (answer : Answer)

structure Write (Body : Type) where
  key : Option String
  body : Body
  phase : Phase
  cancellationDeferred : Bool
  /-- Whether the execution has changed the store or the registry. -/
  committed : Bool

structure Marker (Digest : Type) where
  event : Bool
  exception : Option Failure
  payloadHash : Digest
  succeeded : Bool

/-- Markers are named by the request that made them. -/
structure Service (Body Digest : Type) where
  committed : Committed
  natsConnected : Bool
  writeLock : Option ℕ
  lock : Option ℕ
  /-- The least recently stored first. -/
  cache : List (String × Response × Digest)
  inFlight : Table String ℕ
  markers : Table ℕ (Marker Digest)
  tasks : Table ℕ (Write Body)

def start (Body Digest : Type) (committed : Committed) (natsConnected : Bool) :
    Service Body Digest where
  committed := committed
  natsConnected := natsConnected
  writeLock := none
  lock := none
  cache := []
  inFlight := ∅
  markers := ∅
  tasks := ∅

/-- How the call that a request waits for comes back. -/
inductive Outcome where
  | done
  | publishedPartly (failedBundles : List String)
  | raised

inductive Event (Body : Type) where
  | arrive (id : ℕ) (key : Option String) (body : Body)
  | claim (id : ℕ)
  | wake (id : ℕ)
  | enter (id : ℕ)
  | proceed (id : ℕ) (outcome : Outcome)
  | acquire (id : ℕ)
  | conclude (id : ℕ)
  | cancel (id : ℕ)

section Sections

variable {Body Digest : Type} [DecidableEq Digest] (parse : Body → Option ModelConfig)
  (digest : Body → Digest)

def Write.at (task : Write Body) (phase : Phase) : Write Body :=
  { task with phase := phase }

section

variable (service : Service Body Digest)

section

variable (id : ℕ)

def Service.put (task : Write Body) : Service Body Digest :=
  { service with tasks := service.tasks.insert id task }

def Service.cached (key : String) : Option (Response × Digest) :=
  service.cache.lookup key

/-- What comes before the write lock. -/
def Write.begin (task : Write Body) : Phase :=
  match parse task.body with
  | none => .failing .parseError
  | some config =>
    match checkBodyId config.name with
    | .error problem => .failing (.refused problem)
    | .ok () => .queued config

/-- Without a key there is no marker to resolve. -/
def Write.settled (task : Write Body) : Write Body :=
  match task.key, task.phase with
  | none, .finishing response =>
    task.at (.ended (.executed response task.cancellationDeferred))
  | none, .failing failure => task.at (.ended (.failed failure))
  | _, _ => task

def Service.arrive (key : Option String) (body : Body) : Service Body Digest :=
  let task : Write Body := ⟨key.filter (· ≠ ""), body, .claiming none, false, false⟩
  match task.key with
  | none => service.put id (task.at (task.begin parse)).settled
  | some _ => service.put id task

variable (task : Write Body) (key : String)

/-- The locked section of `_idempotency_claim`. -/
def Service.claim (waited : Option ℕ) : Service Body Digest :=
  match service.cached key with
  | some (response, payloadHash) =>
    if digest task.body ≠ payloadHash then service.put id (task.at (.ended .mismatch))
    else service.put id (task.at (.ended (.replayed response)))
  | none =>
    if waited.isSome then service.put id (task.at (.ended .replayEvicted))
    else
      match service.inFlight.lookup key with
      | none =>
        { service with
          inFlight := service.inFlight.insert key id
          markers := service.markers.insert id ⟨false, none, digest task.body, false⟩
          tasks := service.tasks.insert id (task.at (task.begin parse)) }
      | some owner =>
        if (service.markers.lookup owner).map Marker.payloadHash ≠ some (digest task.body) then
          service.put id (task.at (.ended .mismatch))
        else service.put id (task.at (.waiting owner))

/-- What a request makes of the marker it has waited for. -/
def afterWait (owner : ℕ) (marker : Marker Digest) : Phase :=
  match marker.exception with
  | some .cancelled => .ended .inflightCancelled
  | some failure => .ended (.ownerFailed failure)
  | none => if marker.succeeded then .claiming (some owner) else .ended .inflightAborted

def Service.leave : Service Body Digest :=
  { service with writeLock := none }

def Service.finish (response : Response) : Service Body Digest :=
  service.leave.put id (task.at (.finishing response)).settled

def Service.fail (failure : Failure) : Service Body Digest :=
  service.leave.put id (task.at (.failing failure)).settled

def Write.commits : Write Body :=
  { task with committed := true }

def skippedProfiles (registry : Registry) (config : ModelConfig) : List String :=
  config.profiles.keys.filter (· ∉ createdProfiles registry config)

def respond (registry : Registry) (config : ModelConfig) : Response where
  statusCode := if createdProfiles registry config = [] then 200 else 201
  modelId := config.name
  createdProfiles := createdProfiles registry config
  existingProfilesSkipped := skippedProfiles registry config
  warnings := []

/-- The registry is changed without a wait; then a write with new profiles goes on to the
epoch, and one without is done. -/
def Service.change (config : ModelConfig) (work : Work) (onwards : Bool) : Service Body Digest :=
  let registry := service.committed.plane.registry
  match applyRegistry registry work with
  | .error problem => service.fail id task (.refused (.validation problem))
  | .ok changed =>
    let service := { service with
      committed := ⟨⟨changed, service.committed.plane.stored⟩, service.committed.epoch⟩ }
    if onwards then
      service.put id (task.commits.at (.incrementing (respond registry config)))
    else service.finish id task.commits (respond registry config)

def Service.decide (config : ModelConfig) : Service Body Digest :=
  match addModel service.committed.plane config with
  | .error problem => service.fail id task (.refused problem)
  | .ok work =>
    if persists service.committed.plane.stored work then
      service.put id (task.at (.storing config work))
    else service.change id task config work false

def Service.store (work : Work) : Service Body Digest :=
  { service with
    committed :=
      ⟨⟨service.committed.plane.registry, applyStore service.committed.plane.stored work⟩,
        service.committed.epoch⟩ }

def Service.increment : Service Body Digest :=
  { service with committed := ⟨service.committed.plane, bump service.committed.epoch⟩ }

/-- A publish that fails is a warning in the response. -/
def publishWarnings : Outcome → List Warning
  | .done => []
  | .publishedPartly failedBundles => [.publishPartial failedBundles]
  | .raised => [.publishFailed]

def Service.proceed (outcome : Outcome) : Option (Service Body Digest) :=
  match task.phase, outcome with
  | .publishing response, _ =>
    some (service.finish id task { response with warnings := publishWarnings outcome })
  | .reading config, .done => some (service.decide id task config)
  | .storing config work, .done =>
    some ((service.store work).change id task.commits config work true)
  | .incrementing response, .done => some (service.increment.put id (task.at (.listing response)))
  | .listing response, .done =>
    if service.natsConnected then some (service.put id (task.at (.publishing response)))
    else some (service.finish id task response)
  | .reading _, .raised => some (service.fail id task .storeFailed)
  | .storing _ _, .raised => some (service.fail id task .storeFailed)
  | .incrementing _, .raised => some (service.fail id task .storeFailed)
  | .listing _, .raised => some (service.fail id task .storeFailed)
  | _, _ => none

/-- The response is stored under the key, and the oldest ones are dropped. -/
def remember (cache : List (String × Response × Digest)) (key : String) (response : Response)
    (payloadHash : Digest) : List (String × Response × Digest) :=
  let stored := cache.filter (·.1 ≠ key) ++ [(key, response, payloadHash)]
  stored.drop (stored.length - maxIdempotencyCacheSize)

/-- The marker is popped unless another request's has taken its place. -/
def Service.resolve (resolved : Marker Digest → Marker Digest) : Service Body Digest :=
  { service with
    lock := none
    inFlight :=
      if service.inFlight.lookup key = some id then service.inFlight.erase key
      else service.inFlight
    markers :=
      match service.markers.lookup id with
      | none => service.markers
      | some marker => service.markers.insert id { resolved marker with event := true } }

def Service.conclude : Option (Service Body Digest) :=
  match task.phase with
  | .caching response =>
    some ((Service.resolve
      { service with cache := remember service.cache key response (digest task.body) } id key
        ({ · with succeeded := true })).put id
          (task.at (.ended (.executed response task.cancellationDeferred))))
  | .clearing failure =>
    some ((service.resolve id key ({ · with exception := some failure })).put id
      (task.at (.ended (.failed failure))))
  | _ => none

/-- From the store call on, every wait is shielded. -/
def Service.cancel : Option (Service Body Digest) :=
  match task.phase with
  | .ended _ => none
  | .claiming _ => some (service.put id (task.at (.ended .cancelled)))
  | .waiting _ => some (service.put id (task.at (.ended .cancelled)))
  | .queued _ => some (service.put id (task.at (.failing .cancelled)).settled)
  | .reading _ => some (service.fail id task .cancelled)
  | _ => some (service.put id { task with cancellationDeferred := true })

end

def step : Event Body → Option (Service Body Digest)
  | .arrive id key body =>
    if service.tasks.lookup id = none then some (service.arrive parse id key body) else none
  | .claim id => do
      let task ← service.tasks.lookup id
      let key ← task.key
      match task.phase, service.lock with
      | .claiming waited, none => some (service.claim parse digest id task key waited)
      | _, _ => none
  | .wake id => do
      let task ← service.tasks.lookup id
      match task.phase with
      | .waiting owner => do
          let marker ← service.markers.lookup owner
          if marker.event then some (service.put id (task.at (afterWait owner marker))) else none
      | _ => none
  | .enter id => do
      let task ← service.tasks.lookup id
      match task.phase, service.writeLock with
      | .queued config, none =>
        some (Service.put { service with writeLock := some id } id (task.at (.reading config)))
      | _, _ => none
  | .proceed id outcome => do
      let task ← service.tasks.lookup id
      service.proceed id task outcome
  | .acquire id => do
      let task ← service.tasks.lookup id
      match task.phase, service.lock with
      | .finishing response, none =>
        some (Service.put { service with lock := some id } id (task.at (.caching response)))
      | .failing failure, none =>
        some (Service.put { service with lock := some id } id (task.at (.clearing failure)))
      | _, _ => none
  | .conclude id => do
      let task ← service.tasks.lookup id
      let key ← task.key
      service.conclude digest id task key
  | .cancel id => do
      let task ← service.tasks.lookup id
      service.cancel id task

end

end Sections

end SieCluster.Idempotency
