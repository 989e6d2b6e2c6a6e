import SieCluster.Core.Runs
import SieCluster.Gateway.ResultChunks

/-!
# The pending results of the gateway

`pending_results` maps request ids to collectors.  Its entries are changed in
sections: a handler locks one entry, works on it and lets go.  Between two
sections of one handler those of others may run, on this request or another, so
a run is a sequence of sections.  `Handling` is what a handler takes from one
section to the next.
-/

namespace SieCluster.PendingResults

open Totals
open ResultChunks

/-- A handler between two of its sections. -/
inductive Handling where
  /-- A fragment was rejected; its request is to be failed. -/
  | rejected (requestId : String)
  /-- A transfer is complete; its bytes are to be decoded and stored. -/
  | completed (completed : CompletedResultTransfer)
  /-- All results are there; the collector is to be taken out. -/
  | allDone (requestId : String)
  /-- A collector was taken out and is to be dropped. -/
  | removed (collector : ResultCollector)

/-- A fallback between two of its publishes, or awaiting its acknowledgements. -/
structure Fallback where
  requestId : String
  remaining : List ℕ
  indices : List ℕ
  deriving DecidableEq

/-- Where the handler that publishes a request is. -/
inductive Publisher where
  | sending
  /-- The direct publish failed and all items were published to the pool. -/
  | retrying
  | confirmed
  deriving DecidableEq

/-- The items a fallback took, with the results there were at that moment.  The initial one
is the retry of a direct publish that failed. -/
structure FallbackTake where
  requestId : String
  initial : Bool
  indices : List ℕ
  results : List (Option WorkResult)
  deriving DecidableEq

/-- The gateway, and next to it what was observed: the item counts of all
requests, the results stored, the requests of rejected transfers, the vectors
sent to the waiting handlers, what fallbacks took and which items they published. -/
structure Gateway where
  budget : ResultChunkBudget := {}
  pending : Table String ResultCollector := ∅
  handling : List Handling := []
  fallbacks : List Fallback := []
  publishers : Table String Publisher := ∅
  issued : Table String ℕ := ∅
  accepted : List (String × ℕ × WorkResult) := []
  rejections : List String := []
  delivered : List (String × List WorkResult) := []
  takes : List FallbackTake := []
  republished : List (String × ℕ) := []

namespace Gateway

section

variable (gateway : Gateway)

def handOver (handling : Handling) : Gateway :=
  { gateway with handling := gateway.handling ++ [handling] }

section

variable (requestId : String)

def logRejection : Gateway :=
  { gateway with rejections := gateway.rejections ++ [requestId] }

/-- Write back an entry that a section has changed. -/
def put (state : Budgeted) : Gateway :=
  { gateway with
    budget := state.budget
    pending := gateway.pending.insert requestId state.collector }

/-- Take an entry out, sending a vector to its waiting handler if there is one
to send.  The collector itself is dropped in a later section. -/
def remove (collector : ResultCollector) (results : Option (List WorkResult)) : Gateway :=
  { gateway with
    pending := gateway.pending.erase requestId
    delivered := match results, collector.senderPresent with
      | some results, true => gateway.delivered ++ [(requestId, results)]
      | _, _ => gateway.delivered
    handling := gateway.handling ++ [.removed { collector with senderPresent := false }] }

/-- `fail_pending_result_chunk_request`. -/
def failPendingResultChunkRequest : Gateway :=
  match gateway.pending.lookup requestId with
  | none => gateway
  | some collector => gateway.remove requestId collector
      (some (failedResults requestId collector.results.length))

/-- `drop_pending_result`, and the other paths that abandon a request. -/
def dropPendingResult : Gateway :=
  match gateway.pending.lookup requestId with
  | none => gateway
  | some collector => gateway.remove requestId collector none

end

/-- `handle_result_chunk` up to the end of its locked section. -/
def handleResultChunk (sha256 : Bytes → Digest) (gateway : Gateway)
    (chunk : ResultChunkV1) : Gateway :=
  match gateway.pending.lookup chunk.requestId with
  | none => gateway
  | some collector =>
    let applied := applyResultChunk sha256
      { budget := gateway.budget, collector := collector } chunk
    let written := gateway.put chunk.requestId applied.1
    match applied.2 with
    | .error _ => (written.logRejection chunk.requestId).handOver (.rejected chunk.requestId)
    | .ok { status := .complete completed, retryReplaced := _ } =>
      written.handOver (.completed completed)
    | .ok _ => written

/-- `handle_result_with_chunk_reservation` up to the end of its locked
section. -/
def handleResult (result : WorkResult) (completedReservationBytes : ℕ) : Gateway :=
  match gateway.pending.lookup result.requestId with
  | none => gateway
  | some collector =>
    let stored := storeSection
      { budget := gateway.budget, collector := collector } result
      completedReservationBytes
    let written := { gateway.put result.requestId stored.1 with
      accepted :=
        if (storeResultIfMissing collector result).2 = .stored then
          gateway.accepted ++ [(result.requestId, result.itemIndex, result)]
        else gateway.accepted }
    if stored.2 then written.handOver (.allDone result.requestId) else written

/-- The section with which a handler goes on. -/
def resume (decode : Bytes → Option WorkResult) (gateway : Gateway) : Handling → Gateway
  | .rejected requestId => gateway.failPendingResultChunkRequest requestId
  | .completed completed =>
    match decodeCompletedResult decode completed with
    | .error _ => (gateway.logRejection completed.requestId).failPendingResultChunkRequest
        completed.requestId
    | .ok result => gateway.handleResult result completed.reservationBytes
  | .allDone requestId =>
    match gateway.pending.lookup requestId with
    | none => gateway
    | some collector => gateway.remove requestId collector
        (some (collector.results.filterMap id))
  | .removed collector => { gateway with
      budget := Budgeted.drop
        { budget := gateway.budget, collector := collector } }

/-- `republish_pending_result_to_pool` up to the end of its locked section. -/
def startFallback (requestId : String) : Gateway :=
  match gateway.pending.lookup requestId with
  | none => gateway
  | some collector =>
    match takeDirectFallbackPayloads collector with
    | none => gateway
    | some (taken, _, _, payloads) =>
      { gateway with
        pending := gateway.pending.insert requestId taken
        fallbacks := gateway.fallbacks ++ [{
          requestId := requestId
          remaining := payloads.map Prod.fst
          indices := payloads.map Prod.fst }]
        takes := gateway.takes ++ [{
          requestId := requestId
          initial := false
          indices := payloads.map Prod.fst
          results := collector.results }] }

/-- The pool copies of all items after a failed direct publish.  Nothing is read off the
collector. -/
def retryPublish (requestId : String) (totalItems : ℕ) : Gateway :=
  { gateway with
    publishers := gateway.publishers.insert requestId .retrying
    takes := gateway.takes ++ [{
      requestId := requestId
      initial := true
      indices := List.range totalItems
      results := ((gateway.pending.lookup requestId).map ResultCollector.results).getD [] }]
    republished := gateway.republished ++ (List.range totalItems).map fun index =>
      (requestId, index) }

/-- Change the fallback fields of an entry, if it is still there. -/
def updateCollector (requestId : String) (update : ResultCollector → ResultCollector) : Gateway :=
  match gateway.pending.lookup requestId with
  | none => gateway
  | some collector => { gateway with
      pending := gateway.pending.insert requestId (update collector) }

end

end Gateway

inductive GatewayEvent where
  | newRequest (requestId : String) (totalItems : ℕ)
      (poolFallbackSubject directFallbackWorkerId : Option String)
  | resultChunk (chunk : ResultChunkV1)
  | resultChunkDecodeFailure (requestId : String)
  | result (result : WorkResult)
  | abandon (requestId : String)
  | resume (position : ℕ)
  | retryPublish (requestId : String)
  | initialFallbackConfirmed (requestId : String)
  | cachePayloads (requestId : String) (published : List (ℕ × Bytes))
  | startFallback (requestId : String)
  | publishFallback (position : ℕ) (sent : Bool)
  | fallbackAcked (position : ℕ) (confirmed : Bool)

/-- One section of the gateway.  Request ids are fresh. -/
def step (sha256 : Bytes → Digest) (decode : Bytes → Option WorkResult)
    (gateway : Gateway) : GatewayEvent → Option Gateway
  | .newRequest requestId totalItems poolFallbackSubject directFallbackWorkerId =>
    if requestId ∈ gateway.issued then none
    else some { gateway with
      issued := gateway.issued.insert requestId totalItems
      publishers := gateway.publishers.insert requestId .sending
      pending := gateway.pending.insert requestId
        (.new totalItems poolFallbackSubject directFallbackWorkerId) }
  | .resultChunk chunk => some (gateway.handleResultChunk sha256 chunk)
  | .resultChunkDecodeFailure requestId =>
    some ((gateway.logRejection requestId).failPendingResultChunkRequest requestId)
  | .result result => some (gateway.handleResult result 0)
  | .abandon requestId => some (gateway.dropPendingResult requestId)
  | .resume position =>
    match gateway.handling[position]? with
    | none => none
    | some handling => some ({ gateway with
        handling := gateway.handling.eraseIdx position
      }.resume decode handling)
  | .retryPublish requestId =>
    match gateway.publishers.lookup requestId, gateway.issued.lookup requestId with
    | some .sending, some totalItems => some (gateway.retryPublish requestId totalItems)
    | _, _ => none
  | .initialFallbackConfirmed requestId =>
    match gateway.publishers.lookup requestId, gateway.issued.lookup requestId with
    | some .retrying, some totalItems =>
      some ({ gateway with
        publishers := gateway.publishers.insert requestId .confirmed
      }.updateCollector requestId (markDirectFallbackConfirmed · (List.range totalItems)))
    | _, _ => none
  | .cachePayloads requestId published =>
    if (gateway.publishers.lookup requestId).any (· ≠ .retrying) then
      some ({ gateway with
        publishers := gateway.publishers.erase requestId
      }.updateCollector requestId (cacheDirectFallbackPayloads · published))
    else none
  | .startFallback requestId => some (gateway.startFallback requestId)
  | .publishFallback position sent =>
    match gateway.fallbacks[position]? with
    | none => none
    | some fallback =>
      match fallback.remaining with
      | [] => none
      | index :: remaining =>
        -- A failed publish ends the fallback; the guard stays set.
        some { gateway with
          fallbacks := if sent
            then gateway.fallbacks.set position
              { fallback with remaining := remaining }
            else gateway.fallbacks.eraseIdx position
          republished :=
            gateway.republished ++ [(fallback.requestId, index)] }
  | .fallbackAcked position confirmed =>
    match gateway.fallbacks[position]? with
    | none => none
    | some fallback =>
      if fallback.remaining ≠ [] then none
      else
        let finished := { gateway with
          fallbacks := gateway.fallbacks.eraseIdx position }
        if confirmed then some (finished.updateCollector fallback.requestId
          (markDirectFallbackConfirmed · fallback.indices))
        else some finished

/-! ## What an enabled section has found -/

section Inversion

theorem step_resume_eq_some (hstep : step sha256 decode gateway (.resume position) = some next) :
    ∃ handling, gateway.handling[position]? = some handling ∧
      next = { gateway with
        handling := gateway.handling.eraseIdx position }.resume decode handling := by
  simp only [step] at hstep
  split at hstep
  · cases hstep
  · rename_i handling hhandling
    exact ⟨handling, hhandling, (Option.some.inj hstep).symm⟩

theorem step_retryPublish_eq_some
    (hstep : step sha256 decode gateway (.retryPublish requestId) = some next) :
    ∃ totalItems, gateway.publishers.lookup requestId = some .sending ∧
      gateway.issued.lookup requestId = some totalItems ∧
      next = gateway.retryPublish requestId totalItems := by
  simp only [step] at hstep
  split at hstep
  · rename_i totalItems hpublisher hissued
    exact ⟨totalItems, hpublisher, hissued, (Option.some.inj hstep).symm⟩
  · cases hstep

theorem step_initialFallbackConfirmed_eq_some
    (hstep : step sha256 decode gateway (.initialFallbackConfirmed requestId) = some next) :
    ∃ totalItems, gateway.publishers.lookup requestId = some .retrying ∧
      gateway.issued.lookup requestId = some totalItems ∧
      next = { gateway with
        publishers := gateway.publishers.insert requestId .confirmed
      }.updateCollector requestId (markDirectFallbackConfirmed · (List.range totalItems)) := by
  simp only [step] at hstep
  split at hstep
  · rename_i totalItems hpublisher hissued
    exact ⟨totalItems, hpublisher, hissued, (Option.some.inj hstep).symm⟩
  · cases hstep

theorem step_publishFallback_eq_some
    (hstep : step sha256 decode gateway (.publishFallback position sent) = some next) :
    ∃ fallback index remaining, gateway.fallbacks[position]? = some fallback ∧
      fallback.remaining = index :: remaining ∧
      next = { gateway with
        fallbacks := if sent
          then gateway.fallbacks.set position { fallback with remaining := remaining }
          else gateway.fallbacks.eraseIdx position
        republished := gateway.republished ++ [(fallback.requestId, index)] } := by
  simp only [step] at hstep
  split at hstep
  · cases hstep
  rename_i fallback hfallback
  split at hstep
  · cases hstep
  rename_i index remaining hremaining
  exact ⟨fallback, index, remaining, hfallback, hremaining, (Option.some.inj hstep).symm⟩

/-- The fallback is over; a confirmed one leaves its mark on the collector. -/
theorem step_fallbackAcked_eq_some
    (hstep : step sha256 decode gateway (.fallbackAcked position confirmed) = some next) :
    let finished := { gateway with fallbacks := gateway.fallbacks.eraseIdx position }
    next = finished ∨ ∃ requestId indices, next = finished.updateCollector requestId
      (markDirectFallbackConfirmed · indices) := by
  simp only [step] at hstep
  split at hstep
  · cases hstep
  rename_i fallback hfallback
  split at hstep
  · cases hstep
  split at hstep
  · exact .inr ⟨_, _, (Option.some.inj hstep).symm⟩
  · exact .inl (Option.some.inj hstep).symm

/-- What a fallback takes: every item without a result whose payload is
cached, once. -/
theorem takeDirectFallbackPayloads_eq_some
    (htake : takeDirectFallbackPayloads collector = some (taken, subject, workerId, payloads)) :
    collector.directFallbackRepublished = false ∧
      taken = { collector with directFallbackRepublished := true } ∧
      payloads = missingPayloads collector ∧ missingPayloads collector ≠ [] := by
  unfold takeDirectFallbackPayloads at htake
  split at htake
  · cases htake
  rename_i hclear
  split at htake
  · cases htake
  simp only [] at htake
  split at htake
  · cases htake
  rename_i hmissing
  cases htake
  exact ⟨by simpa using hclear, rfl, rfl, by simpa using hmissing⟩

end Inversion

end SieCluster.PendingResults
