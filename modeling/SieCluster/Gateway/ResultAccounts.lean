import SieCluster.Core.Runs
import SieCluster.Gateway.ResultSections

/-!
# Byte accounts of pending results

The byte counters of a collector and of the shared budget are kept by hand: they
are raised when a transfer starts, handed over when one is replaced or its
result is stored, and lowered when one is dropped.  `Sound` says that they agree
with the data; every operation of the collector keeps it, with the bytes that
are between two owners counted as owed.
-/

namespace SieCluster.ResultAccounts

open Totals List
open ResultChunks
open ResultSections

/-- The bytes of the fragments a transfer has received. -/
def receivedBytes (transfer : PartialResultTransfer) : ℕ :=
  (transfer.chunks.map fun slot => (slot.getD []).length).sum

/-- A transfer has one slot for every fragment and counts what it received. -/
structure Consistent (transfer : PartialResultTransfer) : Prop where
  buffered : transfer.bufferedBytes = receivedBytes transfer
  slots : transfer.chunks.length = transfer.chunkCount

/-- The counters of a collector agree with its data.  `owed` are reserved bytes
that belong to a completed or rejected transfer whose handling goes on. -/
structure Balanced (owed : ℕ) (collector : ResultCollector) : Prop where
  consistent : ∀ workItemId transfer,
    collector.resultChunkTransfers.lookup workItemId = some transfer → Consistent transfer
  buffered : collector.resultChunkBufferedBytes =
    total PartialResultTransfer.bufferedBytes collector.resultChunkTransfers
  reserved : collector.resultChunkReservedBytes =
    total PartialResultTransfer.reservationBytes collector.resultChunkTransfers +
      collector.storedReservations.sum + owed
  withinRequest : collector.resultChunkReservedBytes ≤ collector.resultChunkReservedLimit
  requestLimit : collector.resultChunkReservedLimit = maxResultChunkReservedBytesPerRequest

variable {budget : ResultChunkBudget}

theorem Balanced.buffered_eq_received (hbalanced : Balanced bytes collector) :
    collector.resultChunkBufferedBytes = total receivedBytes collector.resultChunkTransfers := by
  rw [hbalanced.buffered]
  exact total_congr fun workItemId transfer hactive =>
    (hbalanced.consistent workItemId transfer hactive).buffered

/-- The shared budget holds what this collector and the others have reserved. -/
structure Sound (globalLimit others owed : ℕ) (state : Budgeted) : Prop extends
    Balanced owed state.collector where
  shared : state.budget.reservedBytes = others + state.collector.resultChunkReservedBytes
  withinGlobal : state.budget.reservedBytes ≤ globalLimit
  limitOf : state.budget.limit = globalLimit
  unsaturated : state.budget.saturated = false

variable {next : Budgeted}

/-! ## Operations on the accounts -/

theorem unsaturated_observeSub (hunsaturated : budget.saturated = false)
    (henough : bytes ≤ account) : (budget.observeSub account bytes).saturated = false := by
  simp [ResultChunkBudget.observeSub, hunsaturated, henough]

@[simp]
theorem reservedBytes_release (budget : ResultChunkBudget) (bytes : ℕ) :
    (budget.release bytes).reservedBytes = budget.reservedBytes - bytes := by
  unfold ResultChunkBudget.release
  split
  · omega
  · simp only []
    omega

@[simp]
theorem limit_release (budget : ResultChunkBudget) (bytes : ℕ) :
    (budget.release bytes).limit = budget.limit := by
  unfold ResultChunkBudget.release
  split <;> rfl

theorem unsaturated_release (hunsaturated : budget.saturated = false)
    (henough : bytes ≤ budget.reservedBytes) : (budget.release bytes).saturated = false := by
  unfold ResultChunkBudget.release
  split
  · exact hunsaturated
  · simp [hunsaturated, henough]

/-- Releasing owed bytes. -/
theorem Sound.release (hsound : Sound globalLimit others (bytes + owed) state) :
    Sound globalLimit others owed (state.releaseResultChunkReservation bytes) := by
  have hreserved := hsound.reserved
  have hshared := hsound.shared
  have hglobal := hsound.withinGlobal
  have hlimit := hsound.withinRequest
  have henough : bytes ≤ state.collector.resultChunkReservedBytes := by omega
  exact {
    __ := hsound
    reserved := by
      simp only [Budgeted.releaseResultChunkReservation]
      omega
    withinRequest := by
      simp only [Budgeted.releaseResultChunkReservation]
      omega
    shared := by
      simp only [Budgeted.releaseResultChunkReservation, reservedBytes_release,
        ResultChunkBudget.observeSub]
      omega
    withinGlobal := by
      simp only [Budgeted.releaseResultChunkReservation, reservedBytes_release,
        ResultChunkBudget.observeSub]
      omega
    limitOf := by
      simp only [Budgeted.releaseResultChunkReservation, limit_release]
      exact hsound.limitOf
    unsaturated := by
      refine unsaturated_release (unsaturated_observeSub hsound.unsaturated henough) ?_
      simp only [ResultChunkBudget.observeSub]
      omega }

theorem tryReserve_eq_some (hreserve : budget.tryReserve bytes = some reserved) :
    budget.reservedBytes + bytes ≤ budget.limit ∧ reserved = { budget with
        reservedBytes := budget.reservedBytes + bytes } := by
  unfold ResultChunkBudget.tryReserve at hreserve
  split at hreserve
  · cases hreserve
  rename_i sum hsum
  split at hreserve
  · cases hreserve
  cases hreserve
  rw [checkedAdd_eq_some hsum] at *
  exact ⟨by omega, rfl⟩

/-- A started transfer takes over the reservation owed to it. -/
theorem Sound.putNew (hsound : Sound globalLimit others (transfer.reservationBytes + owed) state)
    (hactive : active state workItemId = none) (hconsistent : Consistent transfer) :
    Sound globalLimit others owed (state.putTransfer workItemId transfer
      (state.collector.resultChunkBufferedBytes + transfer.bufferedBytes)) where
  __ := hsound
  consistent := forall_insert hsound.consistent hconsistent
  buffered := by
    simp only [Budgeted.putTransfer]
    rw [total_insert_new _ hactive, hsound.buffered, Nat.add_comm]
  reserved := by
    have hreserved := hsound.reserved
    simp only [Budgeted.putTransfer]
    rw [total_insert_new _ hactive]
    omega

section

variable (hsound : Sound globalLimit others owed state)
include hsound

/-- A new reservation is owed until its transfer is in the table. -/
theorem Sound.reserve
    (hreserve : state.reserveResultChunkTransfer totalBytes = .ok (reserved, reservationBytes)) :
    Sound globalLimit others (reservationBytes + owed) reserved := by
  unfold Budgeted.reserveResultChunkTransfer at hreserve
  split at hreserve
  · cases hreserve
  split at hreserve
  · cases hreserve
  rename_i requestTotal hrequestTotal
  split at hreserve
  · cases hreserve
  rename_i hwithin
  split at hreserve
  · cases hreserve
  rename_i budget hbudget
  cases hreserve
  obtain ⟨hroom, rfl⟩ := tryReserve_eq_some hbudget
  have hsum := checkedAdd_eq_some hrequestTotal
  have hreserved := hsound.reserved
  have hshared := hsound.shared
  have hlimitOf := hsound.limitOf
  exact {
    consistent := hsound.consistent
    buffered := hsound.buffered
    reserved := by simp only []; omega
    withinRequest := by simp only []; omega
    requestLimit := hsound.requestLimit
    shared := by simp only []; omega
    withinGlobal := by simp only []; omega
    limitOf := hlimitOf
    unsaturated := hsound.unsaturated }

variable (hactive : active state workItemId = some transfer)
include hactive

/-- A removed transfer's reservation is owed. -/
theorem Sound.removeTransfer : Sound globalLimit others (transfer.reservationBytes + owed)
      (state.removeTransfer workItemId transfer) where
  __ := hsound
  consistent := forall_erase hsound.consistent workItemId
  buffered := by
    have htotal := total_erase PartialResultTransfer.bufferedBytes hactive
    have hbuffered := hsound.buffered
    simp only [Budgeted.removeTransfer]
    omega
  reserved := by
    have htotal := total_erase PartialResultTransfer.reservationBytes hactive
    have hreserved := hsound.reserved
    simp only [Budgeted.removeTransfer]
    omega
  unsaturated := by
    refine unsaturated_observeSub hsound.unsaturated ?_
    rw [hsound.buffered]
    exact weight_le_total _ hactive

/-- A fragment added to the active transfer raises both buffer counts. -/
theorem Sound.putExtended (hreservation : extended.reservationBytes = transfer.reservationBytes)
    (hbuffered : extended.bufferedBytes = transfer.bufferedBytes + bytes)
    (hconsistent : Consistent extended) :
    Sound globalLimit others owed (state.putTransfer workItemId extended
      (state.collector.resultChunkBufferedBytes + bytes)) where
  __ := hsound
  consistent := forall_insert hsound.consistent hconsistent
  buffered := by
    have htotal := total_insert_replace PartialResultTransfer.bufferedBytes hactive extended
    have hcount := hsound.buffered
    simp only [Budgeted.putTransfer]
    omega
  reserved := by
    have htotal := total_insert_replace PartialResultTransfer.reservationBytes hactive extended
    have hcount := hsound.reserved
    simp only [Budgeted.putTransfer]
    omega

end

/-! ## Received bytes -/

/-- Filling an empty slot adds the length of the payload. -/
theorem sum_lengths_set (slots : List (Option Bytes)) (hindex : index < slots.length)
    (hempty : slots.getD index none = none) (payload : Bytes) :
    ((slots.set index (some payload)).map fun slot => (slot.getD []).length).sum =
      (slots.map fun slot => (slot.getD []).length).sum + payload.length := by
  induction slots generalizing index with
  | nil => simp at hindex
  | cons _ _ ih =>
    cases index with
    | zero =>
      simp only [getD_cons_zero] at hempty
      subst hempty
      simp only [set_cons_zero, map_cons, sum_cons, Option.getD_some, Option.getD_none, length_nil]
      omega
    | succ =>
      simp only [getD_cons_succ] at hempty
      simp only [length_cons, Nat.add_lt_add_iff_right] at hindex
      simp only [set_cons_succ, map_cons, sum_cons, ih hindex hempty]
      omega

theorem Consistent.addFragment (hconsistent : Consistent transfer)
    (hindex : chunk.chunkIndex < transfer.chunkCount)
    (hmissing : transfer.chunks.getD chunk.chunkIndex none = none) :
    Consistent (transfer.addFragment chunk (transfer.bufferedBytes + chunk.payload.length)) where
  buffered := by
    have hbound : chunk.chunkIndex < transfer.chunks.length := by
      rw [hconsistent.slots]
      exact hindex
    simp only [PartialResultTransfer.addFragment, receivedBytes]
    rw [sum_lengths_set transfer.chunks hbound hmissing, hconsistent.buffered]
    rfl
  slots := by
    simpa [PartialResultTransfer.addFragment] using hconsistent.slots

theorem consistent_firstFragment (hindex : chunk.chunkIndex < chunk.chunkCount)
    (reservationBytes : ℕ) :
    Consistent (firstFragment chunk digest reservationBytes replacement) where
  buffered := by
    have hempty : (List.replicate chunk.chunkCount (none : Option Bytes)).getD
        chunk.chunkIndex none = none := by
      rw [getD_eq_getElem _ _ (by simpa using hindex)]
      simp
    simp only [receivedBytes, firstFragment]
    rw [sum_lengths_set _ (by simpa using hindex) hempty]
    simp
  slots := by simp [firstFragment]

/-! ## Applying a fragment -/

/-- A reservation made or taken over is owed. -/
theorem Sound.reserveTransfer
    (hsound : Sound globalLimit others (replacement.reservationBytes.getD 0 + owed) state)
    (hreserve : reserveTransfer state chunk replacement = .ok (reserved, reservationBytes)) :
    Sound globalLimit others (reservationBytes + owed) reserved := by
  unfold ResultChunks.reserveTransfer at hreserve
  split at hreserve
  · rename_i bytes hbytes
    cases hreserve
    simpa [hbytes] using hsound
  · rename_i hbytes
    simp only [hbytes, Option.getD_none, Nat.zero_add] at hsound
    exact hsound.reserve hreserve

/-- The reservation that an answer leaves without a transfer in the table. -/
def Hands (answer : Except ResultChunkReject ResultChunkApply) (bytes : ℕ) :
    Prop :=
  match answer with
  | .ok { status := .complete completed, retryReplaced := _ } =>
    bytes = completed.reservationBytes
  | .ok _ => bytes = 0
  | .error _ => True

section

variable (hsound : Sound globalLimit others owed state)
include hsound

/-- Replacing a transfer leaves its reservation owed when it is handed on. -/
theorem Sound.proceeds (hproceeds : Proceeds state chunk digest next replacement) :
    Sound globalLimit others (replacement.reservationBytes.getD 0 + owed)
      next := by
  cases hproceeds with
  | newDigest _ hactive =>
    simpa using (hsound.removeTransfer hactive).release
  | newLayout _ hactive =>
    simpa using hsound.removeTransfer hactive
  | _ => simpa using hsound

theorem Sound.stores (hvalid : ValidChunk collector chunk digest)
    (hproceeds : Proceeds state chunk digest replaced replacement)
    (hstores : Stores replaced chunk digest replacement next transfer) :
    Sound globalLimit others owed next := by
  have hreplaced := hsound.proceeds hproceeds
  cases hstores with
  | extended _ hactive _ _ hcount _ hmissing =>
    rcases hproceeds.active_eq with hnone | ⟨rfl, rfl, -⟩
    · simp [hactive] at hnone
    · refine hsound.putExtended hactive rfl rfl ?_
      refine (hsound.consistent _ _ hactive).addFragment ?_ hmissing
      rw [hcount]
      exact hvalid.chunkIndex
  | started _ reservationBytes hactive hreserve =>
    refine Sound.putNew (hreplaced.reserveTransfer hreserve) ?_
      (consistent_firstFragment hvalid.chunkIndex reservationBytes)
    obtain ⟨budget, requestTotal, rfl⟩ := reserveTransfer_eq hreserve
    exact hactive

/-- Applying a fragment keeps the accounts; what a completed transfer had
reserved is owed to its result. -/
theorem Sound.applied (happlied : Applied sha256 state chunk next answer) :
    ∃ handed, Hands answer handed ∧ Sound globalLimit others (handed + owed) next := by
  cases happlied with
  | refused => exact ⟨0, trivial, by simpa using hsound⟩
  | ignored _ hstatus =>
    refine ⟨0, ?_, by simpa using hsound⟩
    rcases hstatus with rfl | rfl <;> rfl
  | unstarted _ _ _ _ _ _ hproceeds hunstarted =>
    have hreplaced := hsound.proceeds hproceeds
    cases hunstarted with
    | unreserved => exact ⟨_, trivial, hreplaced⟩
    | reserved _ _ hreserve =>
      exact ⟨_, trivial, hreplaced.reserveTransfer hreserve⟩
  | stored _ _ _ replacement _ hvalid _ hproceeds hstores =>
    have hbuffered := hsound.stores hvalid hproceeds hstores
    obtain ⟨after, answer, hfinish, hfinishes⟩ :=
      hstores.exists_finishes sha256 replacement.retryReplaced
    rw [hfinish]
    cases hfinishes with
    | waiting => exact ⟨0, rfl, by simpa using hbuffered⟩
    | mismatch =>
      exact ⟨_, trivial, hbuffered.removeTransfer hstores.active_eq⟩
    | complete => exact ⟨_, rfl, hbuffered.removeTransfer hstores.active_eq⟩

end

/-! ## Storing a result -/

/-- Dropping a transfer gives its reservation back. -/
theorem Sound.dropTransfer (hsound : Sound globalLimit others owed state) (workItemId : String) :
    Sound globalLimit others owed (dropResultChunkTransfer state workItemId) := by
  unfold dropResultChunkTransfer
  split
  · exact hsound
  · rename_i transfer hactive
    exact (hsound.removeTransfer hactive).release

/-- A stored result keeps the reservation owed to it, any other gives it
back. -/
theorem Sound.storeSection (hsound : Sound globalLimit others (reservationBytes + owed) state)
    (result : WorkResult) :
    Sound globalLimit others owed (storeSection state result reservationBytes).1 := by
  unfold ResultChunks.storeSection storeResultWithCompletedChunkReservation storeResultIfMissing
  split_ifs with houtside hstale hpresent
  · exact hsound.release
  · exact hsound.release
  · exact hsound.release
  · simp only [if_true]
    refine Sound.dropTransfer ?_ result.workItemId
    have hreserved := hsound.reserved
    exact {
      __ := hsound
      reserved := by
        simp only [sum_append, sum_singleton]
        omega
      unsaturated := hsound.unsaturated }

/-- A new collector has empty accounts. -/
theorem balanced_new (totalItems : ℕ) (poolFallbackSubject directFallbackWorkerId : Option String) :
    Balanced 0 (.new totalItems poolFallbackSubject directFallbackWorkerId) where
  consistent := by
    intro workItemId transfer hactive
    cases hactive
  buffered := rfl
  reserved := rfl
  withinRequest := Nat.zero_le _
  requestLimit := rfl

end SieCluster.ResultAccounts
