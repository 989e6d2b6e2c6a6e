import SieCluster.Gateway.PendingResults
import SieCluster.Gateway.ResultAccounts
import SieCluster.Gateway.ResultReassembly

/-!
# The shared result budget over whole runs

The budget that all requests share holds exactly what the pending collectors
have reserved, together with the collectors that were taken out and are not
dropped yet.  A section of one request changes the accounts of no other.
-/

namespace SieCluster.ResultLedger

open Totals List AList
open ResultChunks
open ResultSections
open ResultAccounts
open PendingResults
open ResultReassembly (halfResult lengthHash)

/-! ## Bytes between two sections -/

/-- The reservation a handler carries for a request. -/
def owedBy (requestId : String) : Handling → ℕ
  | .completed completed =>
    if completed.requestId = requestId then completed.reservationBytes else 0
  | _ => 0

/-- The reservation of a collector that is not dropped yet. -/
def undroppedBy : Handling → ℕ
  | .removed collector => collector.resultChunkReservedBytes
  | _ => 0

def owed (handling : List Handling) (requestId : String) : ℕ :=
  (handling.map (owedBy requestId)).sum

def undropped (handling : List Handling) : ℕ :=
  (handling.map undroppedBy).sum

theorem owed_eq_zero (hother : ∀ completed, .completed completed ∈ handling →
      completed.requestId ≠ requestId) : owed handling requestId = 0 := by
  refine sum_eq_zero fun bytes hbytes => ?_
  obtain ⟨handler, hmem, rfl⟩ := mem_map.1 hbytes
  cases handler with
  | completed completed => simp [owedBy, hother completed hmem]
  | _ => rfl

/-- A handler that works for one request and holds no collector. -/
def About (requestId : String) : Handling → Prop
  | .rejected other => other = requestId
  | .completed completed => completed.requestId = requestId
  | .allDone other => other = requestId
  | .removed _ => False

/-- Only handlers of one request have come or gone. -/
structure OnlyAbout (requestId : String) (before after : List Handling) : Prop where
  undropped : undropped after = undropped before
  owed : ∀ other, other ≠ requestId → owed after other = owed before other
  rejected : ∀ other, other ≠ requestId → .rejected other ∈ before → .rejected other ∈ after
  completed : ∀ completed, .completed completed ∈ after →
    .completed completed ∈ before ∨ completed.requestId = requestId

theorem OnlyAbout.refl (requestId : String) (handling : List Handling) :
    OnlyAbout requestId handling handling where
  undropped := rfl
  owed := fun _ _ => rfl
  rejected := fun _ _ hmem => hmem
  completed := fun _ hmem => .inl hmem

theorem owedBy_of_about (habout : About requestId handler)
    (hother : other ≠ requestId) : owedBy other handler = 0 := by
  cases handler with
  | completed completed =>
    have hrequest : completed.requestId = requestId := habout
    simp [owedBy, hrequest, Ne.symm hother]
  | _ => rfl

theorem undroppedBy_of_about (habout : About requestId handler) : undroppedBy handler = 0 := by
  cases handler with
  | removed => exact habout.elim
  | _ => rfl

/-- A handler of the request joins. -/
theorem OnlyAbout.join {before after : List Handling} (honly : OnlyAbout requestId before after)
    (handler : Handling) (habout : About requestId handler) :
    OnlyAbout requestId before (after ++ [handler]) where
  undropped := by
    rw [← honly.undropped]
    simp [ResultLedger.undropped, undroppedBy_of_about habout]
  owed := by
    intro other hother
    rw [← honly.owed other hother]
    simp [ResultLedger.owed, owedBy_of_about habout hother]
  rejected := fun other hother hmem =>
    mem_append_left _ (honly.rejected other hother hmem)
  completed := by
    intro completed hmem
    rcases mem_append.1 hmem with hold | hnew
    · exact honly.completed completed hold
    · rw [mem_singleton] at hnew
      subst hnew
      exact .inr habout

/-- A handler of the request is taken up. -/
theorem onlyAbout_tail (requestId : String) (handler : Handling)
    (rest : List Handling) (habout : About requestId handler) :
    OnlyAbout requestId (handler :: rest) rest where
  undropped := by
    simp [ResultLedger.undropped, undroppedBy_of_about habout]
  owed := by
    intro other hother
    simp [ResultLedger.owed, owedBy_of_about habout hother]
  rejected := by
    intro other hother hmem
    rcases mem_cons.1 hmem with rfl | hrest
    · exact absurd habout hother
    · exact hrest
  completed := fun _ hmem => .inl (mem_cons_of_mem _ hmem)

/-! ## The invariant -/

/-- The accounts of all requests and of the shared budget.  A collector may
hold more than its data needs only while one of its fragments was rejected and
the request is about to be failed. -/
structure Accounted (budget : ResultChunkBudget) (pending : Table String ResultCollector)
    (handling : List Handling) (issued : Table String ℕ) : Prop where
  requests : ∀ requestId collector, pending.lookup requestId = some collector →
      ∃ slack, Balanced (slack + owed handling requestId) collector ∧
        (slack ≠ 0 → .rejected requestId ∈ handling)
  shared : budget.reservedBytes =
    total ResultCollector.resultChunkReservedBytes pending + undropped handling
  withinGlobal : budget.reservedBytes ≤ maxResultChunkReservedBytesGlobal
  limitOf : budget.limit = maxResultChunkReservedBytesGlobal
  unsaturated : budget.saturated = false
  pendingIssued : ∀ requestId ∈ pending, requestId ∈ issued
  handlingIssued : ∀ completed, .completed completed ∈ handling → completed.requestId ∈ issued

/-- What the accounts of one request are in the eyes of its own section. -/
theorem Accounted.sound (haccounted : Accounted budget pending handling issued)
    (hentry : pending.lookup requestId = some collector) :
    ∃ slack, (slack ≠ 0 → .rejected requestId ∈ handling) ∧ Sound maxResultChunkReservedBytesGlobal
        (total ResultCollector.resultChunkReservedBytes (pending.erase requestId)
          + undropped handling)
        (slack + owed handling requestId)
        { budget := budget, collector := collector } := by
  obtain ⟨slack, hbalanced, hslack⟩ := haccounted.requests requestId collector hentry
  refine ⟨slack, hslack, { hbalanced with
    shared := ?_
    withinGlobal := haccounted.withinGlobal
    limitOf := haccounted.limitOf
    unsaturated := haccounted.unsaturated }⟩
  have htotal := total_erase ResultCollector.resultChunkReservedBytes hentry
  have hshared := haccounted.shared
  simp only []
  omega

theorem mem_of_lookup {Value : Type} {table : Table String Value} {key : String}
    {value : Value} (hentry : table.lookup key = some value) : key ∈ table :=
  lookup_isSome.1 (by rw [hentry]; rfl)

section

variable (haccounted : Accounted budget pending handling issued)
include haccounted

section

variable (hentry : pending.lookup requestId = some collector)
  (honly : OnlyAbout requestId handling rest)
include hentry honly

/-- A section of one request writes its entry back. -/
theorem Accounted.put (next : Budgeted) (slack : ℕ)
    (hsound : Sound maxResultChunkReservedBytesGlobal
      (total ResultCollector.resultChunkReservedBytes (pending.erase requestId)
        + undropped handling) (slack + owed rest requestId) next)
    (hslack : slack ≠ 0 → .rejected requestId ∈ rest) :
    Accounted next.budget (pending.insert requestId next.collector) rest issued where
  __ := hsound
  requests := by
    intro other found hfound
    rcases lookup_insert_iff.1 hfound with ⟨rfl, rfl⟩ | ⟨hother, hfound⟩
    · exact ⟨slack, hsound.toBalanced, hslack⟩
    · obtain ⟨slack', hbalanced, hslack'⟩ := haccounted.requests other found hfound
      rw [← honly.owed other hother] at hbalanced
      exact ⟨slack', hbalanced, fun hne =>
        honly.rejected other hother (hslack' hne)⟩
  shared := by
    have hshared := hsound.shared
    rw [total_insert, honly.undropped]
    omega
  pendingIssued := by
    intro other hother
    rcases (mem_insert _).1 hother with rfl | hold
    · exact haccounted.pendingIssued _ (mem_of_lookup hentry)
    · exact haccounted.pendingIssued other hold
  handlingIssued := by
    intro completed hmem
    rcases honly.completed completed hmem with hold | hrequest
    · exact haccounted.handlingIssued completed hold
    · rw [hrequest]
      exact haccounted.pendingIssued _ (mem_of_lookup hentry)

/-- A section takes the entry of its request out. -/
theorem Accounted.remove {removed : ResultCollector}
    (hremoved : removed.resultChunkReservedBytes = collector.resultChunkReservedBytes) :
    Accounted budget (pending.erase requestId) (rest ++ [.removed removed]) issued where
  __ := haccounted
  requests := by
    intro other found hfound
    obtain ⟨hother, hfound⟩ := lookup_erase_iff.1 hfound
    obtain ⟨slack, hbalanced, hslack⟩ := haccounted.requests other found hfound
    refine ⟨slack, ?_, fun hne => mem_append_left _ (honly.rejected other hother (hslack hne))⟩
    rw [← honly.owed other hother] at hbalanced
    simpa [owed, owedBy] using hbalanced
  shared := by
    have htotal := total_erase ResultCollector.resultChunkReservedBytes hentry
    have hshared := haccounted.shared
    have hundropped := honly.undropped
    simp only [undropped, map_append, map_singleton, sum_append,
      sum_singleton, undroppedBy, hremoved] at hshared hundropped ⊢
    omega
  pendingIssued := fun other hother =>
    haccounted.pendingIssued other (mem_erase.1 hother).2
  handlingIssued := by
    intro completed hmem
    have hrest : .completed completed ∈ rest := by simpa using hmem
    rcases honly.completed completed hrest with hold | hrequest
    · exact haccounted.handlingIssued completed hold
    · rw [hrequest]
      exact haccounted.pendingIssued _ (mem_of_lookup hentry)

end

/-- A handler whose request is gone ends. -/
theorem Accounted.forget (hentry : pending.lookup requestId = none)
    (honly : OnlyAbout requestId handling rest)
    (hissued : ∀ completed, .completed completed ∈ rest → .completed completed ∈ handling) :
    Accounted budget pending rest issued where
  __ := haccounted
  requests := by
    intro other found hfound
    have hother : other ≠ requestId := by
      rintro rfl
      rw [hentry] at hfound
      cases hfound
    obtain ⟨slack, hbalanced, hslack⟩ := haccounted.requests other found hfound
    rw [← honly.owed other hother] at hbalanced
    exact ⟨slack, hbalanced, fun hne =>
      honly.rejected other hother (hslack hne)⟩
  shared := by
    rw [honly.undropped]
    exact haccounted.shared
  handlingIssued := fun completed hmem =>
    haccounted.handlingIssued completed (hissued completed hmem)

theorem Accounted.perm (hperm : handling.Perm other) : Accounted budget pending other issued where
  __ := haccounted
  requests := by
    intro requestId collector hentry
    obtain ⟨slack, hbalanced, hslack⟩ :=
      haccounted.requests requestId collector hentry
    have howed : owed handling requestId = owed other requestId :=
      (hperm.map _).sum_eq
    rw [howed] at hbalanced
    exact ⟨slack, hbalanced, fun hne => hperm.mem_iff.1 (hslack hne)⟩
  shared := by
    have hundropped : undropped handling = undropped other :=
      (hperm.map _).sum_eq
    rw [← hundropped]
    exact haccounted.shared
  handlingIssued := fun completed hmem =>
    haccounted.handlingIssued completed (hperm.mem_iff.2 hmem)

end

/-! ## The sections -/

def AccountedGateway (gateway : Gateway) : Prop :=
  Accounted gateway.budget gateway.pending gateway.handling gateway.issued

variable {gateway : Gateway}

/-- Failing a request, from the handler in `handling` or from an inbox
message. -/
theorem Accounted.failRequest (haccounted : Accounted gateway.budget gateway.pending handling
      gateway.issued)
    (honly : OnlyAbout requestId handling gateway.handling)
    (hissued : ∀ completed, .completed completed ∈ gateway.handling →
      .completed completed ∈ handling) :
    AccountedGateway (gateway.failPendingResultChunkRequest requestId) := by
  unfold Gateway.failPendingResultChunkRequest
  split
  · rename_i hentry
    exact haccounted.forget hentry honly hissued
  · rename_i collector hentry
    exact haccounted.remove hentry honly rfl

theorem AccountedGateway.dropPendingResult
    (haccounted : AccountedGateway gateway) (requestId : String) :
    AccountedGateway (gateway.dropPendingResult requestId) := by
  unfold Gateway.dropPendingResult
  split
  · exact haccounted
  · rename_i collector hentry
    exact Accounted.remove haccounted hentry (.refl _ _) rfl

/-- A fragment changes the accounts of its own request only. -/
theorem AccountedGateway.handleResultChunk
    (haccounted : AccountedGateway gateway) (chunk : ResultChunkV1) :
    AccountedGateway (gateway.handleResultChunk sha256 chunk) := by
  unfold Gateway.handleResultChunk
  split
  · exact haccounted
  rename_i collector hentry
  obtain ⟨slack, hslack, hsound⟩ := Accounted.sound haccounted hentry
  have happlied := applyResultChunk_applied sha256
    { budget := gateway.budget, collector := collector } chunk
  obtain ⟨handed, hhands, hnext⟩ := hsound.applied happlied
  simp only []
  split
  · -- A rejected fragment may leave its reservation behind.
    refine Accounted.put haccounted hentry
      ((OnlyAbout.refl _ _).join (.rejected chunk.requestId) rfl) _
      (handed + slack) ?_ (fun _ => by simp)
    simpa [owed, owedBy, Nat.add_assoc] using hnext
  · rename_i completed replaced hanswer
    rw [hanswer] at hhands
    have hbytes : handed = completed.reservationBytes := hhands
    have hrequest := (happlied.identity hanswer).2.1
    refine Accounted.put haccounted hentry
      ((OnlyAbout.refl _ _).join (.completed completed) hrequest) _
      slack ?_ (fun hne => mem_append_left _ (hslack hne))
    subst hbytes
    have howed : slack + owed (gateway.handling ++ [.completed completed])
        chunk.requestId = completed.reservationBytes +
          (slack + owed gateway.handling chunk.requestId) := by
      simp only [owed, map_append, map_singleton, sum_append,
        sum_singleton, owedBy, hrequest, if_true]
      omega
    rw [howed]
    exact hnext
  · rename_i applied hnotComplete hanswer
    have hbytes : handed = 0 := by
      rw [hanswer] at hhands
      unfold Hands at hhands
      split at hhands
      · rename_i hcomplete
        cases hcomplete
        exact absurd rfl (hnotComplete _ _)
      · exact hhands
      · cases ‹_ = _›
    subst hbytes
    refine Accounted.put haccounted hentry (.refl _ _) _ slack ?_ hslack
    simpa using hnext

/-- A result that arrives whole or out of a completed transfer. -/
theorem Accounted.handleResult {result : WorkResult} {reservationBytes : ℕ}
    (haccounted : Accounted gateway.budget gateway.pending handling gateway.issued)
    (honly : OnlyAbout result.requestId handling gateway.handling)
    (howed : owed handling result.requestId =
      reservationBytes + owed gateway.handling result.requestId)
    (hrejected : .rejected result.requestId ∈ handling →
      .rejected result.requestId ∈ gateway.handling)
    (hissued : ∀ completed, .completed completed ∈ gateway.handling →
      .completed completed ∈ handling) :
    AccountedGateway (gateway.handleResult result reservationBytes) := by
  unfold Gateway.handleResult
  split
  · rename_i hentry
    exact haccounted.forget hentry honly hissued
  rename_i collector hentry
  obtain ⟨slack, hslack, hsound⟩ := haccounted.sound hentry
  rw [howed, Nat.add_left_comm] at hsound
  have hstored := hsound.storeSection result
  simp only []
  split
  · refine haccounted.put hentry (honly.join (.allDone result.requestId) rfl) _
      slack ?_ (fun hne => mem_append_left _ (hrejected (hslack hne)))
    simpa [owed, owedBy] using hstored
  · exact haccounted.put hentry honly _ slack hstored (fun hne => hrejected (hslack hne))

/-- Dropping a collector that was taken out gives back what it had reserved. -/
theorem Accounted.dropRemoved
    (haccounted : Accounted budget pending (.removed collector :: rest) issued) :
    Accounted (budget.release collector.resultChunkReservedBytes) pending rest
      issued := by
  have hshared := haccounted.shared
  have hwithin := haccounted.withinGlobal
  simp only [undropped, map_cons, sum_cons, undroppedBy] at hshared
  exact {
    requests := by
      intro requestId found hfound
      obtain ⟨slack, hbalanced, hslack⟩ :=
        haccounted.requests requestId found hfound
      refine ⟨slack, ?_, fun hne => by simpa using hslack hne⟩
      simpa [owed, owedBy] using hbalanced
    shared := by
      simp only [reservedBytes_release, undropped]
      omega
    withinGlobal := by
      rw [reservedBytes_release]
      omega
    limitOf := by
      rw [limit_release]
      exact haccounted.limitOf
    unsaturated := unsaturated_release haccounted.unsaturated (by omega)
    pendingIssued := haccounted.pendingIssued
    handlingIssued := fun completed hmem =>
      haccounted.handlingIssued completed (mem_cons_of_mem _ hmem) }

/-- A handler goes on with its next section. -/
theorem Accounted.resume (haccounted : Accounted gateway.budget gateway.pending
      (handler :: gateway.handling) gateway.issued) :
    AccountedGateway (gateway.resume decode handler) := by
  have hissued : ∀ completed, .completed completed ∈ gateway.handling →
      Handling.completed completed ∈ handler :: gateway.handling :=
    fun _ hmem => mem_cons_of_mem _ hmem
  cases handler with
  | rejected requestId =>
    exact haccounted.failRequest (onlyAbout_tail requestId _ _ rfl) hissued
  | completed completed =>
    have honly := onlyAbout_tail completed.requestId (.completed completed) gateway.handling rfl
    simp only [Gateway.resume]
    split
    · have hlogged : Accounted (gateway.logRejection completed.requestId).budget
          (gateway.logRejection completed.requestId).pending
          (.completed completed :: (gateway.logRejection completed.requestId).handling)
          (gateway.logRejection completed.requestId).issued := haccounted
      exact hlogged.failRequest honly hissued
    · rename_i result hdecode
      have hrequest := (decodeCompletedResult_eq_ok.1 hdecode).2.2.1
      rw [← hrequest] at honly
      refine haccounted.handleResult honly ?_ ?_ hissued
      · simp [owed, owedBy, hrequest]
      · intro hmem
        simpa using hmem
  | allDone requestId =>
    have honly := onlyAbout_tail requestId (.allDone requestId) gateway.handling rfl
    simp only [Gateway.resume]
    split
    · rename_i hentry
      exact haccounted.forget hentry honly hissued
    · rename_i collector hentry
      exact haccounted.remove hentry honly rfl
  | removed => exact haccounted.dropRemoved

/-! ## The fallback -/

/-- The fields of a collector that the accounts are about. -/
def accounts (collector : ResultCollector) :
    Table String PartialResultTransfer × ℕ × ℕ × ℕ × List ℕ :=
  (collector.resultChunkTransfers, collector.resultChunkBufferedBytes,
    collector.resultChunkReservedBytes, collector.resultChunkReservedLimit,
    collector.storedReservations)

theorem accounts_takeDirectFallbackPayloads
    (htake : takeDirectFallbackPayloads collector = some (taken, subject, workerId, payloads)) :
    accounts taken = accounts collector := by
  obtain ⟨-, rfl, -⟩ := takeDirectFallbackPayloads_eq_some htake
  rfl

section

variable (haccounted : AccountedGateway gateway)
include haccounted

/-- An update of the other fields of an entry keeps all accounts. -/
theorem AccountedGateway.updateEntry (hentry : gateway.pending.lookup requestId = some collector)
    (hsame : accounts updated = accounts collector) :
    Accounted gateway.budget (gateway.pending.insert requestId updated)
      gateway.handling gateway.issued := by
  obtain ⟨slack, hslack, hsound⟩ := Accounted.sound haccounted hentry
  simp only [accounts, Prod.mk.injEq] at hsame
  obtain ⟨htransfers, hbuffered, hreserved, hlimit, hstored⟩ := hsame
  refine Accounted.put haccounted hentry (.refl _ _)
    { budget := gateway.budget, collector := updated } slack ?_ hslack
  exact {
    consistent := by
      rw [htransfers]
      exact hsound.consistent
    buffered := by
      rw [htransfers, hbuffered]
      exact hsound.buffered
    reserved := by
      rw [htransfers, hreserved, hstored]
      exact hsound.reserved
    withinRequest := by
      rw [hreserved, hlimit]
      exact hsound.withinRequest
    requestLimit := hlimit.trans hsound.requestLimit
    shared := by
      rw [hreserved]
      exact hsound.shared
    withinGlobal := hsound.withinGlobal
    limitOf := hsound.limitOf
    unsaturated := hsound.unsaturated }

theorem AccountedGateway.updateCollector
    (requestId : String) (hsame : ∀ collector, accounts (update collector) = accounts collector) :
    AccountedGateway (gateway.updateCollector requestId update) := by
  unfold Gateway.updateCollector
  split
  · exact haccounted
  · rename_i collector hentry
    exact haccounted.updateEntry hentry (hsame collector)

theorem AccountedGateway.startFallback (requestId : String) :
    AccountedGateway (gateway.startFallback requestId) := by
  unfold Gateway.startFallback
  split
  · exact haccounted
  rename_i collector hentry
  split
  · exact haccounted
  · rename_i taken subject workerId payloads htake
    exact haccounted.updateEntry hentry (accounts_takeDirectFallbackPayloads htake)

end

/-! ## Runs -/

/-- A fresh request has empty accounts and no handler. -/
theorem AccountedGateway.newRequest (haccounted : AccountedGateway gateway)
    (hfresh : requestId ∉ gateway.issued) (totalItems : ℕ)
    (poolFallbackSubject directFallbackWorkerId : Option String) :
    Accounted gateway.budget (gateway.pending.insert requestId
        (.new totalItems poolFallbackSubject directFallbackWorkerId))
      gateway.handling (gateway.issued.insert requestId totalItems) := by
  have hnew : gateway.pending.lookup requestId = none :=
    lookup_eq_none.2 fun hmem =>
      hfresh (haccounted.pendingIssued requestId hmem)
  have howed : owed gateway.handling requestId = 0 :=
    owed_eq_zero fun completed hmem hsame =>
      hfresh (hsame ▸ haccounted.handlingIssued completed hmem)
  exact {
    __ := haccounted
    requests := by
      refine forall_insert haccounted.requests ⟨0, ?_, fun hne => absurd rfl hne⟩
      rw [howed]
      exact balanced_new _ _ _
    shared := by
      rw [total_insert_new _ hnew]
      simpa [ResultCollector.new] using haccounted.shared
    pendingIssued := by
      intro other hother
      rw [mem_insert] at hother ⊢
      exact hother.imp_right (haccounted.pendingIssued other)
    handlingIssued := fun completed hmem =>
      (mem_insert _).2 (.inr (haccounted.handlingIssued completed hmem)) }

/-- The step lemma. -/
theorem step_accounted {next : Gateway} {event : GatewayEvent}
    (haccounted : AccountedGateway gateway) (hstep : step sha256 decode gateway event = some next) :
    AccountedGateway next := by
  cases event with
  | newRequest =>
    simp only [step, Option.ite_none_left_eq_some, Option.some.injEq] at hstep
    obtain ⟨hfresh, rfl⟩ := hstep
    exact haccounted.newRequest hfresh _ _ _
  | resultChunk chunk =>
    cases hstep
    exact haccounted.handleResultChunk chunk
  | resultChunkDecodeFailure =>
    cases hstep
    exact Accounted.failRequest haccounted (.refl _ _) fun _ hmem => hmem
  | result =>
    cases hstep
    exact Accounted.handleResult haccounted (.refl _ _) (by simp)
      (fun hmem => hmem) fun _ hmem => hmem
  | abandon requestId =>
    cases hstep
    exact haccounted.dropPendingResult requestId
  | resume =>
    obtain ⟨handler, hhandler, rfl⟩ := step_resume_eq_some hstep
    obtain ⟨hposition, hget⟩ := List.getElem?_eq_some_iff.1 hhandler
    refine Accounted.resume (Accounted.perm haccounted ?_)
    rw [← hget]
    exact (getElem_cons_eraseIdx_perm hposition).symm
  | retryPublish =>
    obtain ⟨totalItems, -, -, rfl⟩ := step_retryPublish_eq_some hstep
    exact haccounted
  | initialFallbackConfirmed requestId =>
    obtain ⟨totalItems, -, -, rfl⟩ := step_initialFallbackConfirmed_eq_some hstep
    have hconfirmed : AccountedGateway { gateway with
        publishers := gateway.publishers.insert requestId .confirmed } := haccounted
    exact hconfirmed.updateCollector requestId fun _ => rfl
  | cachePayloads requestId =>
    obtain ⟨-, hafter⟩ := Option.ite_none_right_eq_some.1 hstep
    cases hafter
    have hthrough : AccountedGateway { gateway with
        publishers := gateway.publishers.erase requestId } := haccounted
    refine hthrough.updateCollector requestId fun collector => ?_
    unfold cacheDirectFallbackPayloads
    split <;> rfl
  | startFallback requestId =>
    cases hstep
    exact haccounted.startFallback requestId
  | publishFallback =>
    obtain ⟨fallback, index, remaining, -, -, rfl⟩ :=
      step_publishFallback_eq_some hstep
    exact haccounted
  | fallbackAcked position =>
    have hfinished : AccountedGateway { gateway with
        fallbacks := gateway.fallbacks.eraseIdx position } := haccounted
    obtain rfl | ⟨requestId, indices, rfl⟩ := step_fallbackAcked_eq_some hstep
    · exact hfinished
    · exact hfinished.updateCollector _ fun _ => rfl

theorem run_accounted {events : List GatewayEvent}
    (hrun : Runs.run (step sha256 decode) {} events = some gateway) :
    AccountedGateway gateway := by
  refine Runs.run_invariant AccountedGateway (fun _ _ _ => step_accounted) ?_ hrun
  exact {
    requests := by
      intro requestId collector hentry
      cases hentry
    shared := rfl
    withinGlobal := Nat.zero_le _
    limitOf := rfl
    unsaturated := rfl
    pendingIssued := fun requestId hmem => absurd hmem (notMem_empty _)
    handlingIssued := by simp }

/-! ## The main result -/

/-- A fragment that its collector answers as a duplicate or as stale. -/
def Ignored (sha256 : Bytes → Digest) (gateway : Gateway) (chunk : ResultChunkV1) : Prop :=
  ∃ collector status retryReplaced, gateway.pending.lookup chunk.requestId = some collector ∧
      (status = .duplicate ∨ status = .staleRetry) ∧
      (applyResultChunk sha256
        { budget := gateway.budget, collector := collector } chunk).2 =
        .ok { status := status, retryReplaced := retryReplaced }

/-- An ignored fragment changes no account and no entry. -/
theorem handleResultChunk_ignored (hignored : Ignored sha256 gateway chunk) :
    (gateway.handleResultChunk sha256 chunk).budget = gateway.budget ∧
      (gateway.handleResultChunk sha256 chunk).handling = gateway.handling ∧
      ∀ requestId, (gateway.handleResultChunk sha256 chunk).pending.lookup requestId =
          gateway.pending.lookup requestId := by
  obtain ⟨collector, status, retryReplaced, hentry, hstatus, hanswer⟩ := hignored
  have hunchanged := (applyResultChunk_applied sha256 _ chunk).unchanged hstatus hanswer
  have hhandled : gateway.handleResultChunk sha256 chunk = gateway.put chunk.requestId
        { budget := gateway.budget, collector := collector } := by
    unfold Gateway.handleResultChunk
    simp only [hentry, hanswer, hunchanged]
    rcases hstatus with rfl | rfl <;> rfl
  rw [hhandled]
  refine ⟨rfl, rfl, fun requestId => ?_⟩
  simp only [Gateway.put]
  by_cases hsame : requestId = chunk.requestId
  · rw [hsame, lookup_insert, hentry]
  · rw [lookup_insert_ne hsame]

/-- In every state that the gateway reaches the byte accounts agree with the
data.  What a collector has reserved is exact whenever no message of its request
is being handled; the shared budget counts collectors until they are dropped. -/
theorem accounts_agree (sha256 : Bytes → Digest) (decode : Bytes → Option WorkResult)
    (events : List GatewayEvent) (gateway : Gateway)
    (hrun : Runs.run (step sha256 decode) {} events = some gateway) :
    (∀ requestId collector, gateway.pending.lookup requestId = some collector →
        collector.resultChunkBufferedBytes = total receivedBytes collector.resultChunkTransfers ∧
        collector.resultChunkReservedBytes ≤ maxResultChunkReservedBytesPerRequest ∧
        ((∀ handler ∈ gateway.handling, ¬ About requestId handler) →
          collector.resultChunkReservedBytes = total PartialResultTransfer.reservationBytes
              collector.resultChunkTransfers +
            collector.storedReservations.sum)) ∧
      gateway.budget.reservedBytes =
        total ResultCollector.resultChunkReservedBytes gateway.pending +
          undropped gateway.handling ∧
      gateway.budget.reservedBytes ≤ maxResultChunkReservedBytesGlobal ∧
      (∀ chunk, Ignored sha256 gateway chunk →
        (gateway.handleResultChunk sha256 chunk).budget = gateway.budget ∧ ∀ requestId,
            (gateway.handleResultChunk sha256 chunk).pending.lookup requestId =
              gateway.pending.lookup requestId) ∧
      gateway.budget.saturated = false ∧
      (gateway.pending = ∅ → gateway.handling = [] → gateway.budget.reservedBytes = 0) := by
  have haccounted := run_accounted hrun
  refine ⟨?_, haccounted.shared, haccounted.withinGlobal, ?_, haccounted.unsaturated, ?_⟩
  · intro requestId collector hentry
    obtain ⟨slack, hbalanced, hslack⟩ :=
      haccounted.requests requestId collector hentry
    refine ⟨hbalanced.buffered_eq_received, ?_, ?_⟩
    · rw [← hbalanced.requestLimit]
      exact hbalanced.withinRequest
    · intro hquiet
      have hexact : slack = 0 := by
        by_contra hne
        exact hquiet _ (hslack hne) rfl
      have howed : owed gateway.handling requestId = 0 :=
        owed_eq_zero fun completed hmem => hquiet _ hmem
      have hreserved := hbalanced.reserved
      omega
  · intro chunk hignored
    obtain ⟨hbudget, -, hpending⟩ := handleResultChunk_ignored hignored
    exact ⟨hbudget, hpending⟩
  · intro hpending hhandling
    have hshared := haccounted.shared
    rw [hpending, hhandling] at hshared
    simpa [undropped] using hshared

/-- A request of two items: one attempt at its first result is replaced, the
retry completes and its result is stored. -/
def retriedItem : List GatewayEvent :=
  [.newRequest "req-1" 2 none none, .resultChunk (halfResult 9 0),
    .resultChunk (halfResult 2 0), .resultChunk (halfResult 9 1),
    .resultChunk (halfResult 2 1), .resume 0]

def decodeFirstItem (bytes : Bytes) : Option WorkResult :=
  some {
    workItemId := "req-1.0", requestId := "req-1", success := true
    resultMsgpack := bytes }

theorem accounts_agree_retriedItem :
    ∃ gateway, Runs.run (step lengthHash decodeFirstItem) {} retriedItem = some gateway ∧
      gateway.budget.reservedBytes = 4102 ∧
      gateway.budget.reservedBytes =
        total ResultCollector.resultChunkReservedBytes gateway.pending +
          undropped gateway.handling ∧
      gateway.budget.saturated = false := by
  obtain ⟨-, hshared, -, -, hunsaturated, -⟩ :=
    accounts_agree lengthHash decodeFirstItem retriedItem _ rfl
  exact ⟨_, rfl, rfl, hshared, hunsaturated⟩

end SieCluster.ResultLedger
