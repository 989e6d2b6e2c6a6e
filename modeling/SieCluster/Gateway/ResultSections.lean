import SieCluster.Gateway.ResultChunks

/-!
# What applying a fragment can do

The inversion lemmas of `applyResultChunk`: the ways an active transfer is kept
or replaced, the ways a fragment is buffered, and what comes out of both.  All
invariants of the collector are derived from these.
-/

namespace SieCluster.ResultSections

open Totals AList
open ResultChunks

variable {chunk : ResultChunkV1}

section

variable (state : Budgeted)

/-- The active transfer of the item a fragment belongs to. -/
def active (workItemId : String) : Option PartialResultTransfer :=
  state.collector.resultChunkTransfers.lookup workItemId

/-! ## Envelope checks -/

/-- The envelope facts that the later parts rely on. -/
structure ValidChunk (collector : ResultCollector) (chunk : ResultChunkV1)
    (digest : Digest) : Prop where
  kind : chunk.kind = resultChunkKind
  requestId : chunk.requestId ≠ ""
  itemIndex : chunk.itemIndex < collector.results.length
  workItemId : chunk.workItemId = canonicalWorkItemId chunk.requestId chunk.itemIndex
  digest : digest.val = chunk.transferDigest
  chunkCount : 0 < chunk.chunkCount ∧ chunk.chunkCount ≤ maxResultChunksPerItem
  chunkIndex : chunk.chunkIndex < chunk.chunkCount
  totalBytes : 0 < chunk.totalBytes ∧ chunk.totalBytes ≤ maxResultChunkItemBytes
  payload : chunk.payload.length ≤ chunk.totalBytes

theorem canonicalWorkItemId_ne_empty (requestId : String) (itemIndex : ℕ) :
    canonicalWorkItemId requestId itemIndex ≠ "" := by
  intro hempty
  have hlength := congrArg String.length hempty
  simp [canonicalWorkItemId, String.length_append] at hlength

theorem ofBytes?_eq_some : Digest.ofBytes? bytes = some digest ↔ digest.val = bytes := by
  unfold Digest.ofBytes?
  split
  · rw [Option.some.injEq, ← Subtype.val_inj]
    exact eq_comm
  · rename_i hlength
    simp only [reduceCtorEq, false_iff]
    intro hbytes
    exact hlength (hbytes ▸ digest.2)

theorem validateResultChunk_eq_ok :
    validateResultChunk collector chunk = .ok digest ↔ ValidChunk collector chunk digest := by
  unfold validateResultChunk
  constructor
  · intro hvalid
    split at hvalid
    · cases hvalid
    rename_i hkind
    split at hvalid
    · cases hvalid
    rename_i hnonempty
    split at hvalid
    · cases hvalid
    rename_i hidentity
    split at hvalid
    · cases hvalid
    rename_i found hdigest
    split at hvalid
    · cases hvalid
    split at hvalid
    · cases hvalid
    split at hvalid
    · cases hvalid
    split at hvalid
    · cases hvalid
    cases hvalid
    push Not at hidentity
    simp only [Bool.or_eq_true, String.isEmpty_iff, not_or] at hnonempty
    exact {
      kind := not_ne_iff.1 hkind
      requestId := hnonempty.1
      itemIndex := hidentity.1
      workItemId := hidentity.2
      digest := ofBytes?_eq_some.1 hdigest
      chunkCount := by omega
      chunkIndex := by omega
      totalBytes := by omega
      payload := by omega }
  · intro hvalid
    have hcount := hvalid.chunkCount
    have htotal := hvalid.totalBytes
    have hworkItemId : chunk.workItemId ≠ "" := by
      rw [hvalid.workItemId]
      exact canonicalWorkItemId_ne_empty _ _
    have hindex : ¬ (chunk.itemIndex ≥ collector.results.length ∨ chunk.workItemId ≠
          canonicalWorkItemId chunk.requestId chunk.itemIndex) := by
      push Not
      exact ⟨hvalid.itemIndex, hvalid.workItemId⟩
    rw [if_neg (not_ne_iff.2 hvalid.kind), if_neg (by
      simp [String.isEmpty_iff, hvalid.requestId, hworkItemId]), if_neg hindex,
      ofBytes?_eq_some.2 hvalid.digest]
    simp only []
    rw [if_neg (by omega), if_neg (Nat.not_le.2 hvalid.chunkIndex),
      if_neg (by omega), if_neg (Nat.not_lt.2 hvalid.payload)]

/-! ## Replacing the active transfer -/

variable (chunk : ResultChunkV1) (digest : Digest)

/-- How a fragment that is neither stale nor contradicting meets the active
transfer of its item. -/
inductive Proceeds : Budgeted → Replacement → Prop
  | first (hactive : active state chunk.workItemId = none) : Proceeds state {}
  | same (transfer : PartialResultTransfer)
      (hactive : active state chunk.workItemId = some transfer)
      (hdigest : transfer.transferDigest = digest)
      (htotal : transfer.totalBytes = chunk.totalBytes)
      (hcount : transfer.chunkCount = chunk.chunkCount) :
      Proceeds state {}
  | newDigest (transfer : PartialResultTransfer)
      (hactive : active state chunk.workItemId = some transfer)
      (hdigest : transfer.transferDigest ≠ digest)
      (hzero : chunk.chunkIndex = 0)
      (hfresh : digest ∉ transfer.retiredDigests) :
      Proceeds ((state.removeTransfer chunk.workItemId transfer)
          |>.releaseResultChunkReservation transfer.reservationBytes)
        { retiredDigests := retire maxRetiredResultChunkDigests
            transfer.retiredDigests transfer.transferDigest
          retryReplaced := true }
  | newLayout (transfer : PartialResultTransfer)
      (hactive : active state chunk.workItemId = some transfer)
      (hdigest : transfer.transferDigest = digest)
      (htotal : transfer.totalBytes = chunk.totalBytes)
      (hcount : transfer.chunkCount ≠ chunk.chunkCount)
      (hzero : chunk.chunkIndex = 0)
      (hfresh : chunk.chunkCount ∉ transfer.retiredChunkCounts) :
      Proceeds (state.removeTransfer chunk.workItemId transfer)
        { retiredDigests := transfer.retiredDigests
          retiredChunkCounts := retire maxRetiredResultChunkLayouts
            transfer.retiredChunkCounts transfer.chunkCount
          reservationBytes := some transfer.reservationBytes
          retryReplaced := true }

theorem replaceTransfer_cases : replaceTransfer state chunk digest = (state, .staleRetry) ∨
      replaceTransfer state chunk digest = (state, .reject .metadataConflict) ∨
      ∃ next replacement, replaceTransfer state chunk digest = (next, .proceed replacement) ∧
          Proceeds state chunk digest next replacement := by
  unfold replaceTransfer
  split
  · rename_i hactive
    exact .inr (.inr ⟨_, _, rfl, .first hactive⟩)
  rename_i transfer hactive
  split
  · rename_i hdigest
    split
    · exact .inl rfl
    · rename_i hfresh
      push Not at hfresh
      exact .inr (.inr ⟨_, _, rfl, .newDigest transfer hactive hdigest hfresh.1 hfresh.2⟩)
  rename_i hdigest
  split
  · exact .inr (.inl rfl)
  rename_i htotal
  split
  · rename_i hcount
    split
    · exact .inl rfl
    rename_i hfresh
    split
    · exact .inr (.inl rfl)
    rename_i hzero
    exact .inr (.inr ⟨_, _, rfl, .newLayout transfer hactive
      (not_ne_iff.1 hdigest) (not_ne_iff.1 htotal) hcount
      (not_ne_iff.1 hzero) hfresh⟩)
  · rename_i hcount
    exact .inr (.inr ⟨_, _, rfl, .same transfer hactive (not_ne_iff.1 hdigest)
      (not_ne_iff.1 htotal) (not_ne_iff.1 hcount)⟩)

end

/-- Only a fragment of the active layout leaves a transfer in place. -/
theorem Proceeds.active_eq (hproceeds : Proceeds state chunk digest next replacement) :
    active next chunk.workItemId = none ∨
      next = state ∧ replacement = {} ∧ ∃ transfer, active state chunk.workItemId = some transfer ∧
          transfer.transferDigest = digest := by
  cases hproceeds with
  | first hactive => exact .inl hactive
  | same transfer hactive hdigest => exact .inr ⟨rfl, rfl, transfer, hactive, hdigest⟩
  | _ => exact .inl (lookup_erase _ _)

/-! ## Buffering a fragment -/

theorem checkedAdd_eq_some (hadd : checkedAdd left right = some sum) : sum = left + right := by
  unfold checkedAdd at hadd
  split at hadd
  · cases hadd
    rfl
  · cases hadd

/-- How a fragment is stored, and the transfer that holds it then. -/
inductive Stores (state : Budgeted) (chunk : ResultChunkV1) (digest : Digest)
    (replacement : Replacement) : Budgeted → PartialResultTransfer → Prop
  | extended (transfer : PartialResultTransfer)
      (hactive : active state chunk.workItemId = some transfer)
      (hrequest : transfer.requestId = chunk.requestId)
      (hitem : transfer.itemIndex = chunk.itemIndex)
      (hcount : transfer.chunkCount = chunk.chunkCount)
      (htotal : transfer.totalBytes = chunk.totalBytes)
      (hmissing : transfer.chunks.getD chunk.chunkIndex none = none)
      (hroom : transfer.bufferedBytes + chunk.payload.length ≤ transfer.totalBytes) :
      Stores state chunk digest replacement (state.putTransfer chunk.workItemId
          (transfer.addFragment chunk (transfer.bufferedBytes + chunk.payload.length))
          (state.collector.resultChunkBufferedBytes + chunk.payload.length))
        (transfer.addFragment chunk (transfer.bufferedBytes + chunk.payload.length))
  | started (reserved : Budgeted) (reservationBytes : ℕ)
      (hactive : active state chunk.workItemId = none)
      (hreserve : reserveTransfer state chunk replacement = .ok (reserved, reservationBytes)) :
      Stores state chunk digest replacement (reserved.putTransfer chunk.workItemId
          (firstFragment chunk digest reservationBytes replacement)
          (reserved.collector.resultChunkBufferedBytes + chunk.payload.length))
        (firstFragment chunk digest reservationBytes replacement)

theorem extendTransfer_cases (replacement : Replacement) (digest : Digest)
    (hactive : active state chunk.workItemId = some transfer) :
    (∃ reason, extendTransfer state chunk transfer = (state, .reject reason)) ∨
      extendTransfer state chunk transfer = (state, .duplicate) ∨
      ∃ next transfer', extendTransfer state chunk transfer = (next, .stored) ∧
        Stores state chunk digest replacement next transfer' := by
  unfold extendTransfer
  split
  · exact .inl ⟨_, rfl⟩
  rename_i hsame
  push Not at hsame
  obtain ⟨hrequest, hitem, hcount, htotal⟩ := hsame
  split
  · split
    · exact .inr (.inl rfl)
    · exact .inl ⟨_, rfl⟩
  rename_i hmissing
  split
  · exact .inl ⟨_, rfl⟩
  rename_i newTransferBytes hadd
  split
  · exact .inl ⟨_, rfl⟩
  rename_i hroom
  split
  · exact .inl ⟨_, rfl⟩
  rename_i newRequestBytes hrequestAdd
  rw [checkedAdd_eq_some hadd] at hroom ⊢
  rw [checkedAdd_eq_some hrequestAdd]
  exact .inr (.inr ⟨_, _, rfl, .extended transfer hactive hrequest hitem hcount
    htotal hmissing (by omega)⟩)

/-- A transfer that cannot be started leaves at most a reservation behind. -/
inductive Unstarted (state : Budgeted) (chunk : ResultChunkV1)
    (replacement : Replacement) : Budgeted → Prop
  | unreserved : Unstarted state chunk replacement state
  | reserved (reserved : Budgeted) (reservationBytes : ℕ)
      (hreserve : reserveTransfer state chunk replacement = .ok (reserved, reservationBytes)) :
      Unstarted state chunk replacement reserved

theorem startTransfer_cases (chunk : ResultChunkV1) (digest : Digest) (replacement : Replacement)
    (hactive : active state chunk.workItemId = none) :
    (∃ next reason, startTransfer state chunk digest replacement = (next, .reject reason) ∧
        Unstarted state chunk replacement next) ∨
      ∃ next transfer, startTransfer state chunk digest replacement = (next, .stored) ∧
          Stores state chunk digest replacement next transfer := by
  unfold startTransfer
  split
  · exact .inl ⟨_, _, rfl, .unreserved⟩
  rename_i reserved reservationBytes hreserve
  split
  · exact .inl ⟨_, _, rfl, .reserved _ _ hreserve⟩
  rename_i newRequestBytes hadd
  rw [checkedAdd_eq_some hadd]
  exact .inr ⟨_, _, rfl, .started reserved reservationBytes hactive hreserve⟩

/-- Stored fragments are in the active transfer of their item. -/
theorem Stores.active_eq (hstores : Stores state chunk digest replacement next transfer) :
    active next chunk.workItemId = some transfer := by
  cases hstores with
  | extended => exact lookup_insert _
  | started => exact lookup_insert _

/-! ## The whole function -/

section

variable (sha256 : Bytes → Digest)

section

variable (state : Budgeted) (chunk : ResultChunkV1)

/-- What `applyResultChunk` leaves behind and answers. -/
inductive Applied : Budgeted → Except ResultChunkReject ResultChunkApply → Prop
  | refused (reason : ResultChunkReject) : Applied state (.error reason)
  | ignored (status : ResultChunkStatus) (hstatus : status = .duplicate ∨ status = .staleRetry) :
      Applied state (.ok { status := status, retryReplaced := false })
  | unstarted (digest : Digest) (replaced next : Budgeted)
      (replacement : Replacement) (reason : ResultChunkReject)
      (hvalid : ValidChunk state.collector chunk digest)
      (hproceeds : Proceeds state chunk digest replaced replacement)
      (hunstarted : Unstarted replaced chunk replacement next)
      (hactive : active replaced chunk.workItemId = none) :
      Applied next (.error reason)
  | stored (digest : Digest) (replaced buffered : Budgeted)
      (replacement : Replacement) (transfer : PartialResultTransfer)
      (hvalid : ValidChunk state.collector chunk digest)
      (hmissing : state.collector.results.getD chunk.itemIndex none = none)
      (hproceeds : Proceeds state chunk digest replaced replacement)
      (hstores : Stores replaced chunk digest replacement buffered transfer) :
      Applied (finishTransfer sha256 buffered chunk replacement.retryReplaced).1
        (finishTransfer sha256 buffered chunk replacement.retryReplaced).2

theorem applyResultChunk_applied :
    Applied sha256 state chunk (applyResultChunk sha256 state chunk).1
      (applyResultChunk sha256 state chunk).2 := by
  unfold applyResultChunk
  split
  · exact .refused _
  rename_i digest hvalidate
  have hvalid := validateResultChunk_eq_ok.1 hvalidate
  split
  · exact .ignored _ (.inl rfl)
  rename_i hslot
  have hmissing : state.collector.results.getD chunk.itemIndex none = none := by
    simpa using hslot
  rcases replaceTransfer_cases state chunk digest with
    hreplace | hreplace | ⟨replaced, replacement, hreplace, hproceeds⟩
  · simp only [hreplace]
    exact .ignored _ (.inr rfl)
  · simp only [hreplace]
    exact .refused _
  simp only [hreplace]
  rcases hproceeds.active_eq with hnone | ⟨rfl, rfl, transfer, hactive, -⟩
  · have hbuffer : bufferFragment replaced chunk digest replacement =
        startTransfer replaced chunk digest replacement := by
      unfold bufferFragment
      rw [show replaced.collector.resultChunkTransfers.lookup chunk.workItemId = none from hnone]
    rw [hbuffer]
    rcases startTransfer_cases chunk digest replacement hnone with
      ⟨next, reason, hstart, hunstarted⟩ | ⟨next, transfer, hstart, hstores⟩
    · simp only [hstart]
      exact .unstarted digest replaced next replacement reason hvalid hproceeds hunstarted hnone
    · simp only [hstart]
      exact .stored digest replaced next replacement transfer hvalid hmissing hproceeds hstores
  · have hbuffer : bufferFragment replaced chunk digest {} =
        extendTransfer replaced chunk transfer := by
      unfold bufferFragment
      rw [show replaced.collector.resultChunkTransfers.lookup chunk.workItemId =
        some transfer from hactive]
    rw [hbuffer]
    rcases extendTransfer_cases {} digest hactive with
      ⟨reason, hextend⟩ | hextend | ⟨next, extended, hextend, hstores⟩
    · simp only [hextend]
      exact .refused _
    · simp only [hextend]
      exact .ignored _ (.inl rfl)
    · simp only [hextend]
      exact .stored digest replaced next {} extended hvalid hmissing hproceeds hstores

/-! ## Reassembly -/

/-- What the last part can do: nothing while fragments are missing, else take
the transfer out and check it. -/
inductive Finishes (retryReplaced : Bool) (transfer : PartialResultTransfer) :
    Budgeted → Except ResultChunkReject ResultChunkApply → Prop
  | waiting (hmissing : transfer.chunks.all Option.isSome = false) :
      Finishes retryReplaced transfer state
        (.ok { status := .buffered, retryReplaced := retryReplaced })
  | mismatch (reason : ResultChunkReject) : Finishes retryReplaced transfer
        (state.removeTransfer chunk.workItemId transfer) (.error reason)
  | complete (hall : transfer.chunks.all Option.isSome = true)
      (hlength : (transfer.chunks.flatMap (·.getD [])).length = transfer.totalBytes)
      (hdigest : sha256 (transfer.chunks.flatMap (·.getD [])) = transfer.transferDigest) :
      Finishes retryReplaced transfer (state.removeTransfer chunk.workItemId transfer) (.ok {
          status := .complete {
            workItemId := chunk.workItemId
            requestId := transfer.requestId
            itemIndex := transfer.itemIndex
            encodedWorkResult := transfer.chunks.flatMap (·.getD [])
            reservationBytes := transfer.reservationBytes }
          retryReplaced := retryReplaced })

end

theorem finishTransfer_finishes (retryReplaced : Bool)
    (hactive : active state chunk.workItemId = some transfer) :
    Finishes sha256 state chunk retryReplaced transfer
      (finishTransfer sha256 state chunk retryReplaced).1
      (finishTransfer sha256 state chunk retryReplaced).2 := by
  unfold finishTransfer
  rw [show state.collector.resultChunkTransfers.lookup chunk.workItemId =
    some transfer from hactive]
  simp only []
  split
  · rename_i hall
    split
    · exact .mismatch _
    split
    · exact .mismatch _
    rename_i hlength
    split
    · exact .mismatch _
    rename_i hdigest
    exact .complete hall (not_ne_iff.1 hlength) (not_ne_iff.1 hdigest)
  · rename_i hmissing
    exact .waiting (by simpa using hmissing)

end

/-- A stored fragment is followed by the last part. -/
theorem Stores.exists_finishes (hstores : Stores state chunk digest replacement buffered transfer)
    (sha256 : Bytes → Digest) (retryReplaced : Bool) :
    ∃ after answer, finishTransfer sha256 buffered chunk retryReplaced = (after, answer) ∧
      Finishes sha256 buffered chunk retryReplaced transfer after answer :=
  ⟨_, _, rfl, finishTransfer_finishes sha256 retryReplaced hstores.active_eq⟩

/-! ## Other items -/

/-- A reservation changes the two accounts it is made on and nothing else. -/
theorem reserveTransfer_eq
    (hreserve : reserveTransfer state chunk replacement = .ok (reserved, reservationBytes)) :
    ∃ budget requestTotal, reserved = {
      budget := budget
      collector := { state.collector with
        resultChunkReservedBytes := requestTotal } } := by
  unfold reserveTransfer at hreserve
  split at hreserve
  · cases hreserve
    exact ⟨_, _, rfl⟩
  unfold Budgeted.reserveResultChunkTransfer at hreserve
  split at hreserve
  · cases hreserve
  split at hreserve
  · cases hreserve
  split at hreserve
  · cases hreserve
  split at hreserve
  · cases hreserve
  cases hreserve
  exact ⟨_, _, rfl⟩

theorem Unstarted.active_eq
    (hunstarted : Unstarted state chunk replacement next) (workItemId : String) :
    active next workItemId = active state workItemId := by
  cases hunstarted with
  | unreserved => rfl
  | reserved _ _ hreserve =>
    obtain ⟨budget, requestTotal, rfl⟩ := reserveTransfer_eq hreserve
    rfl

section OtherItems

variable (hother : workItemId ≠ chunk.workItemId)
include hother

theorem Proceeds.active_other (hproceeds : Proceeds state chunk digest next replacement) :
    active next workItemId = active state workItemId := by
  cases hproceeds with
  | first => rfl
  | same => rfl
  | _ => exact lookup_erase_ne hother

theorem Stores.active_other (hstores : Stores state chunk digest replacement next transfer) :
    active next workItemId = active state workItemId := by
  cases hstores with
  | extended => exact lookup_insert_ne hother
  | started _ _ _ hreserve =>
    obtain ⟨budget, requestTotal, rfl⟩ := reserveTransfer_eq hreserve
    exact lookup_insert_ne hother

theorem Finishes.active_other
    (hfinishes : Finishes sha256 state chunk retryReplaced transfer next answer) :
    active next workItemId = active state workItemId := by
  cases hfinishes with
  | waiting => rfl
  | _ => exact lookup_erase_ne hother

/-- A fragment leaves the transfers of other items alone. -/
theorem Applied.active_other (happlied : Applied sha256 state chunk next answer) :
    active next workItemId = active state workItemId := by
  cases happlied with
  | unstarted _ _ _ _ _ _ hproceeds hunstarted =>
    rw [hunstarted.active_eq, hproceeds.active_other hother]
  | stored _ _ _ _ _ _ _ hproceeds hstores =>
    rw [(finishTransfer_finishes sha256 _ hstores.active_eq).active_other
      hother, hstores.active_other hother, hproceeds.active_other hother]
  | _ => rfl

end OtherItems

/-! ## Storing a result -/

theorem active_dropResultChunkTransfer (state : Budgeted) (dropped workItemId : String) :
    active (dropResultChunkTransfer state dropped) workItemId =
      if workItemId = dropped then none else active state workItemId := by
  unfold dropResultChunkTransfer
  split
  · rename_i hnone
    split
    · rename_i hkey
      rw [hkey]
      exact hnone
    · rfl
  · split
    · rename_i hkey
      rw [hkey]
      exact lookup_erase _ _
    · rename_i hkey
      exact lookup_erase_ne hkey

/-- Storing a result keeps every transfer or drops the one of its item. -/
theorem active_storeSection
    (hactive : active (storeSection state result reservationBytes).1 workItemId = some transfer) :
    active state workItemId = some transfer := by
  have hstored : active (storeResultWithCompletedChunkReservation state result
      reservationBytes).1 workItemId = active state workItemId := by
    unfold storeResultWithCompletedChunkReservation storeResultIfMissing
    split_ifs <;> rfl
  unfold storeSection at hactive
  simp only [] at hactive
  split at hactive
  · rw [active_dropResultChunkTransfer] at hactive
    split at hactive
    · cases hactive
    · rwa [hstored] at hactive
  · rwa [hstored] at hactive

/-- A fragment answered as a duplicate or as stale has changed nothing. -/
theorem Applied.unchanged (happlied : Applied sha256 state chunk next answer)
    (hstatus : status = .duplicate ∨ status = .staleRetry)
    (hanswer : answer = .ok { status := status, retryReplaced := retryReplaced }) :
    next = state := by
  cases happlied with
  | unstarted => cases hanswer
  | stored _ _ _ replacement _ _ _ _ hstores =>
    obtain ⟨after, answer, hfinish, hfinishes⟩ :=
      hstores.exists_finishes sha256 replacement.retryReplaced
    rw [hfinish] at hanswer ⊢
    cases hfinishes with
    | mismatch => cases hanswer
    | _ =>
      cases hanswer
      rcases hstatus with hstatus | hstatus <;> cases hstatus
  | _ => rfl

/-! ## Identity of completed transfers -/

theorem Stores.identity (hstores : Stores state chunk digest replacement next transfer) :
    transfer.requestId = chunk.requestId ∧ transfer.itemIndex = chunk.itemIndex := by
  cases hstores with
  | extended _ _ hrequest hitem => exact ⟨hrequest, hitem⟩
  | started => exact ⟨rfl, rfl⟩

/-- A completed transfer is the one of the fragment that completed it. -/
theorem Applied.identity (happlied : Applied sha256 state chunk next answer)
    (hcomplete : answer = .ok { status := .complete completed, retryReplaced := retryReplaced }) :
    completed.workItemId = chunk.workItemId ∧ completed.requestId = chunk.requestId ∧
      completed.itemIndex = chunk.itemIndex := by
  cases happlied with
  | ignored _ hstatus => rcases hstatus with rfl | rfl <;> cases hcomplete
  | stored _ _ _ replacement _ _ _ _ hstores =>
    obtain ⟨after, answer, hfinish, hfinishes⟩ :=
      hstores.exists_finishes sha256 replacement.retryReplaced
    rw [hfinish] at hcomplete
    cases hfinishes with
    | complete =>
      cases hcomplete
      exact ⟨rfl, hstores.identity⟩
    | _ => cases hcomplete
  | _ => cases hcomplete

theorem decodeCompletedResult_eq_ok : decodeCompletedResult decode completed = .ok result ↔
      decode completed.encodedWorkResult = some result ∧ result.workItemId = completed.workItemId ∧
        result.requestId = completed.requestId ∧
        result.itemIndex = completed.itemIndex := by
  unfold decodeCompletedResult
  cases decode completed.encodedWorkResult with
  | none => simp
  | some =>
    simp only [Option.some.injEq]
    split
    · rename_i hdiffers
      constructor
      · intro hresult
        cases hresult
      · rintro ⟨rfl, hworkItemId, hrequestId, hitemIndex⟩
        rcases hdiffers with hne | hne | hne <;> contradiction
    · rename_i hsame
      push Not at hsame
      constructor
      · intro hresult
        cases hresult
        exact ⟨rfl, hsame⟩
      · rintro ⟨rfl, -⟩
        rfl

/-! ## Results and fallback fields

Fragments do not touch the results of a collector nor what belongs to its
direct-to-pool fallback. -/

/-- The fields of a collector other than its transfers and byte accounts. -/
structure AnswerFields where
  results : List (Option WorkResult)
  senderPresent : Bool
  poolFallbackSubject : Option String
  republishedIndices : Finset ℕ
  payloads : List (Option Bytes)
  republished : Bool

def answerFields (collector : ResultCollector) : AnswerFields where
  results := collector.results
  senderPresent := collector.senderPresent
  poolFallbackSubject := collector.poolFallbackSubject
  republishedIndices := collector.directFallbackRepublishedIndices
  payloads := collector.directFallbackPayloads
  republished := collector.directFallbackRepublished

theorem Proceeds.answerFields_eq (hproceeds : Proceeds state chunk digest next replacement) :
    answerFields next.collector = answerFields state.collector := by
  cases hproceeds <;> rfl

theorem Unstarted.answerFields_eq (hunstarted : Unstarted state chunk replacement next) :
    answerFields next.collector = answerFields state.collector := by
  cases hunstarted with
  | unreserved => rfl
  | reserved _ _ hreserve =>
    obtain ⟨budget, requestTotal, rfl⟩ := reserveTransfer_eq hreserve
    rfl

theorem Stores.answerFields_eq (hstores : Stores state chunk digest replacement next transfer) :
    answerFields next.collector = answerFields state.collector := by
  cases hstores with
  | extended => rfl
  | started _ _ _ hreserve =>
    obtain ⟨budget, requestTotal, rfl⟩ := reserveTransfer_eq hreserve
    rfl

theorem Applied.answerFields_eq (happlied : Applied sha256 state chunk next answer) :
    answerFields next.collector = answerFields state.collector := by
  cases happlied with
  | unstarted _ _ _ _ _ _ hproceeds hunstarted =>
    rw [hunstarted.answerFields_eq, hproceeds.answerFields_eq]
  | stored _ _ _ replacement _ _ _ hproceeds hstores =>
    rw [← hproceeds.answerFields_eq, ← hstores.answerFields_eq]
    obtain ⟨after, answer, hfinish, hfinishes⟩ :=
      hstores.exists_finishes sha256 replacement.retryReplaced
    rw [hfinish]
    cases hfinishes <;> rfl
  | _ => rfl

/-- A result is stored in an empty slot, and not for a direct attempt whose
fallback is confirmed; else nothing of these fields changes. -/
theorem storeSection_cases (state : Budgeted) (result : WorkResult) (reservationBytes : ℕ) :
    (storeResultIfMissing state.collector result).2 = .stored ∧
        state.collector.results[result.itemIndex]? = some none ∧
        ¬ (result.workerDirect = true ∧ result.itemIndex ∈
          state.collector.directFallbackRepublishedIndices) ∧
        answerFields (storeSection state result reservationBytes).1.collector =
          { answerFields state.collector with
            results := state.collector.results.set result.itemIndex (some result) } ∨
      (storeResultIfMissing state.collector result).2 ≠ .stored ∧
        answerFields (storeSection state result reservationBytes).1.collector =
          answerFields state.collector := by
  unfold storeSection storeResultWithCompletedChunkReservation storeResultIfMissing
  split_ifs with houtside hstale hpresent
  · exact .inr ⟨by simp, rfl⟩
  · exact .inr ⟨by simp, rfl⟩
  · exact .inr ⟨by simp, rfl⟩
  · refine .inl ⟨rfl, ?_, by simpa using hstale, ?_⟩
    · have hbound : result.itemIndex < state.collector.results.length := by
        omega
      rw [List.getD_eq_getElem _ _ hbound] at hpresent
      rw [List.getElem?_eq_getElem hbound]
      simpa using hpresent
    · simp only [if_true]
      unfold dropResultChunkTransfer
      split <;> rfl

end SieCluster.ResultSections
