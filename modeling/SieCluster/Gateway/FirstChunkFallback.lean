import SieCluster.Core.Runs
import SieCluster.Server.CancelRegistry

/-!
# The first-chunk fallback across gateway, broker and workers

A generation that was dispatched to one worker and produced no chunk in time is
cancelled and then republished to the pool.  The cancel is published once and
delivered to the sidecar of every worker, each at its own time or not at all; the
work item and its republished copy are delivered to any workers, also again
after a redelivery.  A run is an interleaving of these deliveries with the steps
of the gateway and of the attempts.
-/

namespace SieCluster.FirstChunkFallback

open List
open Dicts (Dict get)
open CancelRegistry

/-! ## The gateway -/

inductive FirstChunkDeadlineAction where
  | republishToPool
  | waitForOverall
  | surfaceTimeout
  deriving DecidableEq

def suppressFirstChunkRepublishForLane (wasDirectDispatched : Bool)
    (poolFallbackLaneWorkerCount : ℕ) : Bool :=
  wasDirectDispatched && poolFallbackLaneWorkerCount ≤ 1

def firstChunkDeadlineAction (supportsPoolRepublish wasDirectDispatched
    republishAlreadyAttempted singleConsumerLaneAtDispatch : Bool) :
    FirstChunkDeadlineAction :=
  if !supportsPoolRepublish then .waitForOverall
  else if wasDirectDispatched && !republishAlreadyAttempted &&
      !singleConsumerLaneAtDispatch then .republishToPool
  else if wasDirectDispatched && !republishAlreadyAttempted &&
      singleConsumerLaneAtDispatch then .waitForOverall
  else .surfaceTimeout

/-- Where the wait loop of a request stands. -/
inductive Phase where
  | waiting
  /-- `publish_cancel` is done, `republish_to_pool` is next. -/
  | cancelled
  | timedOut
  deriving DecidableEq

/-- What the wait loop of a request reads at the first-chunk deadline; of the
collector, its republish guard. -/
structure Request where
  supportsPoolRepublish : Bool
  wasDirectDispatched : Bool
  singleConsumerLaneAtDispatch : Bool
  republishedForFirstChunk : Bool := false
  republished : Bool := false
  phase : Phase := .waiting
  deriving DecidableEq

/-! ## The cluster -/

/-- The two messages that carry a work item. -/
inductive Copy where
  | original
  | republished
  deriving DecidableEq

/-- An attempt at a work item, until it unregisters. -/
structure Attempt where
  requestId : String
  attemptId : String
  copy : Copy
  refused : Bool
  deriving DecidableEq

structure Worker where
  processor : StreamingProcessor := {}
  running : List Attempt := []
  heard : List Heard := []
  deriving DecidableEq

inductive Ending where
  /-- The `transport_failure` terminal of a tombstone. -/
  | refused
  /-- The `cancelled` terminal of a cancel event. -/
  | cancelled
  /-- Any end that the attempt comes to on its own. -/
  | other
  deriving DecidableEq

structure Ended where
  attempt : Attempt
  ending : Ending
  deriving DecidableEq

structure Cluster where
  now : ℕ := 0
  requests : Dict String Request := []
  work : List (String × Copy) := []
  cancels : List (ℕ × String) := []
  workers : List Worker
  ended : List Ended := []
  deriving DecidableEq

def start (workerCount : ℕ) : Cluster where
  workers := List.replicate workerCount {}

/-- How a publish to the pool ends: its message may be in the stream although it
was not acknowledged. -/
inductive PublishEnd where
  | acknowledged
  | unacknowledged
  | lost
  deriving DecidableEq

inductive ClusterEvent where
  | dispatch (requestId : String) (supportsPoolRepublish wasDirectDispatched : Bool)
      (poolFallbackLaneWorkerCount : ℕ)
  | nakRepublish (requestId : String) (publish : PublishEnd)
  | firstChunkDeadline (requestId : String) (cancelSent : Bool)
  | republish (requestId : String) (publish : PublishEnd)
  | cancelDelivered (position : ℕ) (requestId : String)
  | pickUp (position : ℕ) (requestId : String) (copy : Copy) (attemptId : String)
  | cancelObserved (position : ℕ) (attemptId : String)
  | attemptEnds (position : ℕ) (attemptId : String)
  | elapse (milliseconds : ℕ)

namespace Worker

section

variable (worker : Worker)

/-- A cancel reaches the processor through the sidecar. -/
def hearCancel (now : ℕ) (requestId : String) : Worker :=
  { worker with
    processor := worker.processor.signalCancel now requestId
    heard := .cancel requestId now (worker.processor.hasAttempt requestId) :: worker.heard }

/-- A work item is picked up and its attempt refused or begun. -/
def pickUp (now : ℕ) (requestId : String) (copy : Copy) (attemptId : String) : Worker × Attempt :=
  let begun := worker.processor.beginAttempt now requestId attemptId
  let attempt : Attempt := {
    requestId := requestId
    attemptId := attemptId
    copy := copy
    refused := begun.2 }
  ({ processor := begun.1
     running := worker.running ++ [attempt]
     heard := .started requestId :: worker.heard }, attempt)

/-- An attempt unregisters its event and is gone. -/
def leave (attempt : Attempt) : Worker :=
  { worker with
    processor := worker.processor.unregisterCancel attempt.requestId attempt.attemptId
    running := worker.running.filter fun other =>
      other.attemptId ≠ attempt.attemptId }

def findAttempt (attemptId : String) : Option Attempt :=
  worker.running.find? fun attempt => attempt.attemptId = attemptId

end

end Worker

namespace Cluster

section

variable (cluster : Cluster) (requestId : String) (request : Request)

def updateRequest : Cluster :=
  { cluster with requests := Dicts.set cluster.requests requestId request }

/-- `republish_to_pool`, with the request as it is left behind.  The guard is
taken back when the publish is not acknowledged. -/
def republishToPool (publish : PublishEnd) : Cluster × Request :=
  if request.republished then (cluster, request)
  else ({ cluster with
      work := if publish = .lost then cluster.work
        else cluster.work ++ [(requestId, .republished)] },
    { request with republished := publish = .acknowledged })

/-- The branch of the wait loop at the first-chunk deadline, up to the end of
`publish_cancel`.  Every sidecar is subscribed to `cancel.>`. -/
def firstChunkDeadline (cancelSent : Bool) : Cluster :=
  match firstChunkDeadlineAction request.supportsPoolRepublish
      request.wasDirectDispatched request.republishedForFirstChunk
      request.singleConsumerLaneAtDispatch with
  | .republishToPool =>
    { cluster with
      cancels := if cancelSent
        then cluster.cancels ++ (List.range cluster.workers.length).map
          fun position => (position, requestId)
        else cluster.cancels }.updateRequest requestId { request with
      republishedForFirstChunk := true
      phase := .cancelled }
  | .waitForOverall => cluster.updateRequest requestId
      { request with republishedForFirstChunk := true }
  | .surfaceTimeout => cluster.updateRequest requestId
      { request with phase := .timedOut }

def updateWorker (position : ℕ) (worker : Worker) : Cluster :=
  { cluster with workers := cluster.workers.set position worker }

def recordEnd (attempt : Attempt) (ending : Ending) : Cluster :=
  { cluster with ended := cluster.ended ++ [⟨attempt, ending⟩] }

end

end Cluster

/-- One step of the gateway, the broker or a worker.  Request ids and attempt ids
are fresh. -/
def step (cluster : Cluster) : ClusterEvent → Option Cluster
  | .dispatch requestId supportsPoolRepublish wasDirectDispatched poolFallbackLaneWorkerCount =>
      match get cluster.requests requestId with
      | some _ => none
      | none => some ({ cluster with
          work := cluster.work ++ [(requestId, Copy.original)] }.updateRequest requestId {
              supportsPoolRepublish := supportsPoolRepublish
              wasDirectDispatched := wasDirectDispatched
              singleConsumerLaneAtDispatch := suppressFirstChunkRepublishForLane
                wasDirectDispatched poolFallbackLaneWorkerCount })
  | .nakRepublish requestId publish =>
    match get cluster.requests requestId with
    | none => none
    | some request =>
      let republished := cluster.republishToPool requestId request publish
      some (republished.1.updateRequest requestId republished.2)
  | .firstChunkDeadline requestId cancelSent =>
    match get cluster.requests requestId with
    | none => none
    | some request =>
      if request.phase = .waiting
      then some (cluster.firstChunkDeadline requestId request cancelSent)
      else none
  | .republish requestId publish =>
    match get cluster.requests requestId with
    | none => none
    | some request =>
      if request.phase = .cancelled then
        let republished := cluster.republishToPool requestId request publish
        -- The loop waits for the copy only when it was published just now.
        some (republished.1.updateRequest requestId { republished.2 with
          phase := if !request.republished && publish = .acknowledged
            then .waiting else .timedOut })
      else none
  | .cancelDelivered position requestId =>
    match cluster.workers[position]? with
    | none => none
    | some worker =>
      if (position, requestId) ∈ cluster.cancels then
        some ({ cluster with
          cancels := cluster.cancels.erase (position, requestId)
        }.updateWorker position (worker.hearCancel cluster.now requestId))
      else none
  | .pickUp position requestId copy attemptId =>
    match cluster.workers[position]? with
    | none => none
    | some worker =>
      if (requestId, copy) ∈ cluster.work ∧ worker.findAttempt attemptId = none then
        let picked := worker.pickUp cluster.now requestId copy attemptId
        let updated := cluster.updateWorker position picked.1
        some (if picked.2.refused then updated.recordEnd picked.2 .refused
          else updated)
      else none
  | .cancelObserved position attemptId =>
    match cluster.workers[position]? with
    | none => none
    | some worker =>
      match worker.findAttempt attemptId with
      | none => none
      | some attempt =>
        if !attempt.refused && eventOf worker.processor attempt.requestId
            attempt.attemptId = some true then
          some ((cluster.updateWorker position (worker.leave attempt)).recordEnd attempt .cancelled)
        else none
  | .attemptEnds position attemptId =>
    match cluster.workers[position]? with
    | none => none
    | some worker =>
      match worker.findAttempt attemptId with
      | none => none
      | some attempt =>
        let left := cluster.updateWorker position (worker.leave attempt)
        some (if attempt.refused then left else left.recordEnd attempt .other)
  | .elapse milliseconds => some { cluster with now := cluster.now + milliseconds }

/-! ## Sparing the republished copy -/

/-- No republished copy was refused or cancelled, nor is one about to be. -/
def CopySpared (cluster : Cluster) : Prop :=
  (∀ ended ∈ cluster.ended, ended.attempt.copy = .republished → ended.ending = .other) ∧
  ∀ worker ∈ cluster.workers, ∀ attempt ∈ worker.running, attempt.copy = .republished →
      eventOf worker.processor attempt.requestId attempt.attemptId = some false

/-- A step that keeps the cancel and the republished copy apart: the cancel
reaches no worker that is running the copy, and no worker picks the copy up that
the cancel reached, up to two minutes ago, when it had no attempt of the request,
and that has had none since. -/
def KeepsApart (cluster : Cluster) : ClusterEvent → Prop
  | .cancelDelivered position requestId =>
    ∀ worker ∈ cluster.workers[position]?, ∀ attempt ∈ worker.running,
      attempt.requestId = requestId → attempt.copy = .original
  | .pickUp position requestId .republished _ =>
    ∀ worker ∈ cluster.workers[position]?, ∀ time ∈ unmet worker.heard requestId,
        time + cancelTombstoneTtl ≤ cluster.now
  | _ => True

instance (cluster : Cluster) (event : ClusterEvent) : Decidable (KeepsApart cluster event) := by
  unfold KeepsApart
  split <;> infer_instance

/-- A worker whose tombstones are explained and whose copies are not cancelled. -/
structure Worker.Sound (worker : Worker) : Prop where
  explained : Explained worker.heard worker.processor
  spared : ∀ attempt ∈ worker.running, attempt.copy = .republished →
    eventOf worker.processor attempt.requestId attempt.attemptId = some false

structure Sound (cluster : Cluster) : Prop where
  workers : ∀ worker ∈ cluster.workers, worker.Sound
  ended : ∀ ended ∈ cluster.ended, ended.attempt.copy = .republished → ended.ending = .other

theorem Sound.copySpared (hsound : Sound cluster) : CopySpared cluster :=
  ⟨hsound.ended, fun worker hworker => (hsound.workers worker hworker).spared⟩

theorem sound_start (workerCount : ℕ) : Sound (start workerCount) where
  workers := by
    intro worker hworker
    rw [eq_of_mem_replicate hworker]
    exact ⟨by simp [Explained], by simp⟩
  ended := by simp [start]

section Workers

variable {worker : Worker}

section

variable (hsound : worker.Sound)
include hsound

theorem Worker.Sound.hearCancel (now : ℕ)
    (hapart : ∀ attempt ∈ worker.running, attempt.requestId = requestId →
      attempt.copy = .original) :
    (worker.hearCancel now requestId).Sound where
  explained := hsound.explained.signalCancel now requestId
  spared := by
    intro attempt hattempt hcopy
    have hother : requestId ≠ attempt.requestId := by
      rintro rfl
      rw [hapart attempt hattempt rfl] at hcopy
      cases hcopy
    unfold Worker.hearCancel
    simp only [eventOf_signalCancel, if_neg hother]
    exact hsound.spared attempt hattempt hcopy

theorem Worker.Sound.pickUp (now : ℕ) (requestId : String) (copy : Copy)
    (hfresh : worker.findAttempt attemptId = none) :
    (worker.pickUp now requestId copy attemptId).1.Sound where
  explained := hsound.explained.beginAttempt now requestId attemptId
  spared := by
    intro attempt hattempt hcopy
    unfold Worker.pickUp at hattempt ⊢
    simp only [eventOf_beginAttempt]
    rcases mem_append.1 hattempt with hold | hnew
    · have hne : attempt.attemptId ≠ attemptId := by
        simpa using List.find?_eq_none.1 hfresh attempt hold
      rw [if_neg (fun hsame => hne hsame.2.symm)]
      exact hsound.spared attempt hold hcopy
    · rw [mem_singleton.1 hnew]
      exact if_pos ⟨rfl, rfl⟩

/-- The copy is refused only by a worker that an unmet cancel has reached. -/
theorem Worker.Sound.not_refused
    (hold : ∀ time ∈ unmet worker.heard requestId, time + cancelTombstoneTtl ≤ now) :
    (worker.pickUp now requestId copy attemptId).2.refused = false := by
  by_contra hrefused
  rw [Bool.not_eq_false] at hrefused
  obtain ⟨time, hunmet, hyoung⟩ := hsound.explained.refused hrefused
  exact absurd (hold time hunmet) (Nat.not_le.2 hyoung)

theorem Worker.Sound.leave (attempt : Attempt) : (worker.leave attempt).Sound where
  explained := hsound.explained.unregisterCancel _ _
  spared := by
    intro other hother hcopy
    unfold Worker.leave at hother ⊢
    obtain ⟨hmem, hne⟩ := mem_filter.1 hother
    rw [decide_eq_true_eq] at hne
    simp only [eventOf_unregisterCancel]
    rw [if_neg (fun hsame => hne hsame.2.symm)]
    exact hsound.spared other hmem hcopy

end

end Workers

section Clusters

variable {cluster : Cluster}

/-- Steps that change neither workers nor endings. -/
theorem Sound.of_eq {next : Cluster} (hsound : Sound cluster)
    (hworkers : next.workers = cluster.workers)
    (hended : next.ended = cluster.ended) : Sound next where
  workers := hworkers ▸ hsound.workers
  ended := hended ▸ hsound.ended

theorem Sound.updateWorker (hsound : Sound cluster) (hworker : worker.Sound) (position : ℕ) :
    Sound (cluster.updateWorker position worker) where
  workers := by
    intro other hother
    rcases mem_or_eq_of_mem_set hother with hold | rfl
    · exact hsound.workers other hold
    · exact hworker
  ended := hsound.ended

theorem Sound.recordEnd (hsound : Sound cluster)
    (hending : attempt.copy = .republished → ending = .other) :
    Sound (cluster.recordEnd attempt ending) where
  workers := hsound.workers
  ended := by
    exact forall_mem_append.2 ⟨hsound.ended, forall_mem_singleton.2 hending⟩

theorem republishToPool_frame : (cluster.republishToPool requestId request publish).1.workers =
        cluster.workers ∧
      (cluster.republishToPool requestId request publish).1.ended =
        cluster.ended := by
  unfold Cluster.republishToPool
  split <;> exact ⟨rfl, rfl⟩

theorem firstChunkDeadline_frame (cancelSent : Bool) :
    (cluster.firstChunkDeadline requestId request cancelSent).workers = cluster.workers ∧
      (cluster.firstChunkDeadline requestId request cancelSent).ended =
        cluster.ended := by
  unfold Cluster.firstChunkDeadline
  split <;> exact ⟨rfl, rfl⟩

end Clusters

theorem step_sound (cluster : Cluster) (event : ClusterEvent) (next : Cluster)
    (hsound : Sound cluster) (hapart : KeepsApart cluster event)
    (hstep : step cluster event = some next) : Sound next := by
  unfold step at hstep
  cases event with
  | dispatch =>
    simp only [] at hstep
    split at hstep
    · cases hstep
    · cases hstep
      exact hsound.of_eq rfl rfl
  | nakRepublish =>
    simp only [] at hstep
    split at hstep
    · cases hstep
    · cases hstep
      exact hsound.of_eq republishToPool_frame.1 republishToPool_frame.2
  | firstChunkDeadline _ cancelSent =>
    simp only [] at hstep
    split at hstep
    · cases hstep
    split at hstep
    · cases hstep
      exact hsound.of_eq (firstChunkDeadline_frame cancelSent).1
        (firstChunkDeadline_frame cancelSent).2
    · cases hstep
  | republish =>
    simp only [] at hstep
    split at hstep
    · cases hstep
    split at hstep
    · cases hstep
      exact hsound.of_eq republishToPool_frame.1 republishToPool_frame.2
    · cases hstep
  | cancelDelivered position =>
    simp only [] at hstep
    split at hstep
    · cases hstep
    rename_i worker hworker
    split at hstep
    · cases hstep
      have hsoundWorker := hsound.workers worker (mem_of_getElem? hworker)
      exact (hsound.updateWorker (hsoundWorker.hearCancel cluster.now
        (hapart worker hworker)) position).of_eq rfl rfl
    · cases hstep
  | pickUp position requestId copy =>
    simp only [] at hstep
    split at hstep
    · cases hstep
    rename_i worker hworker
    split at hstep
    · rename_i henabled
      have hsoundWorker := hsound.workers worker (mem_of_getElem? hworker)
      have hupdated := hsound.updateWorker (hsoundWorker.pickUp cluster.now
        requestId copy henabled.2) position
      cases hstep
      split
      · rename_i hrefused
        refine hupdated.recordEnd fun hcopy => ?_
        -- Only the copy is subject to the condition, and it is not refused.
        have hcopy : copy = .republished := hcopy
        subst hcopy
        rw [hsoundWorker.not_refused (hapart worker hworker)] at hrefused
        cases hrefused
      · exact hupdated
    · cases hstep
  | cancelObserved position =>
    simp only [] at hstep
    split at hstep
    · cases hstep
    rename_i worker hworker
    split at hstep
    · cases hstep
    rename_i attempt hfind
    split at hstep
    · rename_i hset
      cases hstep
      have hsoundWorker := hsound.workers worker (mem_of_getElem? hworker)
      refine (hsound.updateWorker (hsoundWorker.leave attempt) position).recordEnd fun hcopy => ?_
      have hspared := hsoundWorker.spared attempt (mem_of_find?_eq_some hfind) hcopy
      simp [hspared] at hset
    · cases hstep
  | attemptEnds position =>
    simp only [] at hstep
    split at hstep
    · cases hstep
    rename_i worker hworker
    split at hstep
    · cases hstep
    rename_i attempt hfind
    cases hstep
    have hsoundWorker := hsound.workers worker (mem_of_getElem? hworker)
    have hleft := hsound.updateWorker (hsoundWorker.leave attempt) position
    split
    · exact hleft
    · exact hleft.recordEnd fun _ => rfl
  | elapse =>
    cases hstep
    exact hsound.of_eq rfl rfl

/-- For any number of workers, in every run whose steps keep the cancel and the
republished copy apart, the copy is neither refused nor cancelled. -/
theorem fallback_copy_spared {workerCount : ℕ} {events : List ClusterEvent} {final : Cluster}
    (hapart : Runs.Guarded step KeepsApart (start workerCount) events)
    (hrun : Runs.run step (start workerCount) events = some final) :
    CopySpared final :=
  (Runs.guarded_invariant Sound (fun cluster event next hsound hcondition hstep =>
      step_sound cluster event next hsound hcondition hstep)
    (sound_start workerCount) hapart hrun).copySpared

/-- The cancel reaches only the worker that was slow, and stops it. -/
def slowWorker : List ClusterEvent := [
  .dispatch "req-1" true true 2,
  .pickUp 0 "req-1" .original "att-A",
  .elapse 30000,
  .firstChunkDeadline "req-1" true,
  .cancelDelivered 0 "req-1",
  .republish "req-1" .acknowledged,
  .pickUp 1 "req-1" .republished "att-B",
  .cancelObserved 0 "att-A",
  .attemptEnds 1 "att-B"]

theorem fallback_copy_spared_slowWorker : ∃ final, Runs.run step (start 2) slowWorker = some final ∧
      final.ended.map Ended.ending = [.cancelled, .other] ∧
      CopySpared final := by
  have hapart : Runs.Guarded step KeepsApart (start 2) slowWorker := by
    decide
  exact ⟨_, rfl, by decide, fallback_copy_spared hapart rfl⟩

/-- The full guarantee, without a condition on the steps. -/
def CopyAlwaysSpared : Prop :=
  ∀ workerCount events final,
    Runs.run step (start workerCount) events = some final → CopySpared final

/-- The cancel reaches the idle worker before the copy does, and the copy is
refused there. -/
theorem not_copyAlwaysSpared : ¬ CopyAlwaysSpared := by
  intro hclaim
  have hended := (hclaim 2 [.dispatch "req-1" true true 2, .pickUp 0 "req-1" .original "att-A",
    .elapse 30000,
    .firstChunkDeadline "req-1" true,
    .cancelDelivered 1 "req-1",
    .republish "req-1" .acknowledged,
    .pickUp 1 "req-1" .republished "att-B"] _ rfl).1
  revert hended
  decide

end SieCluster.FirstChunkFallback
