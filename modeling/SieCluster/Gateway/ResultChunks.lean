import SieCluster.Core.Totals

/-!
# Collecting the results of a request

A worker answers every item of a non-streaming request with a `WorkResult`.  A
result that is too large for one broker message arrives in fragments, which the
`ResultCollector` of the request buffers until all of them are there.  Every
transfer holds a conservative reservation of bytes, both in its request and in
a budget shared by all requests of the process.
-/

namespace SieCluster.ResultChunks

open Totals

abbrev Bytes := List UInt8

/-- A SHA-256 digest. -/
abbrev Digest := { bytes : Bytes // bytes.length = 32 }

def Digest.ofBytes? (bytes : Bytes) : Option Digest :=
  if hlength : bytes.length = 32 then some ⟨bytes, hlength⟩ else none

structure WorkResult where
  workItemId : String := ""
  requestId : String
  itemIndex : ℕ := 0
  success : Bool := false
  resultMsgpack : Bytes := []
  error : Option String := none
  errorCode : Option String := none
  workerDirect : Bool := false
  deriving DecidableEq

/-- One bounded fragment of an encoded `WorkResult`. -/
structure ResultChunkV1 where
  kind : String
  workItemId : String
  requestId : String
  itemIndex : ℕ
  transferDigest : Bytes
  chunkIndex : ℕ
  chunkCount : ℕ
  totalBytes : ℕ
  payload : Bytes
  deriving DecidableEq

def resultChunkKind : String := "result_chunk_v1"
def maxResultChunkItemBytes : ℕ := 16 * 1024 * 1024
def maxResultChunksPerItem : ℕ := 64
def maxResultChunkReservedBytesPerRequest : ℕ := 64 * 1024 * 1024
def maxResultChunkReservedBytesGlobal : ℕ := 256 * 1024 * 1024
def resultChunkCopyReservationMultiplier : ℕ := 3
def resultChunkTransferOverheadBytes : ℕ := 4 * 1024
def maxRetiredResultChunkDigests : ℕ := 8
def maxRetiredResultChunkLayouts : ℕ := 8

def canonicalWorkItemId (requestId : String) (itemIndex : ℕ) : String :=
  requestId ++ "." ++ toString itemIndex

/-! ## Byte accounts

`usize` is 64 bits wide.  `saturated` is not in the source: it records that some
subtraction on a byte account found less than it was to take away. -/

def checkedAdd (left right : ℕ) : Option ℕ :=
  if left + right < 2 ^ 64 then some (left + right) else none

def checkedMul (left right : ℕ) : Option ℕ :=
  if left * right < 2 ^ 64 then some (left * right) else none

structure ResultChunkBudget where
  reservedBytes : ℕ := 0
  limit : ℕ := maxResultChunkReservedBytesGlobal
  saturated : Bool := false
  deriving DecidableEq

namespace ResultChunkBudget

section

variable (budget : ResultChunkBudget)

def tryReserve (bytes : ℕ) : Option ResultChunkBudget :=
  match checkedAdd budget.reservedBytes bytes with
  | none => none
  | some next =>
    if next > budget.limit then none
    else some { budget with reservedBytes := next }

def release (bytes : ℕ) : ResultChunkBudget :=
  if bytes = 0 then budget
  else { budget with
    reservedBytes := budget.reservedBytes - min budget.reservedBytes bytes
    saturated := budget.saturated || budget.reservedBytes < bytes }

/-- Record whether a saturating subtraction of a collector's account saturates. -/
def observeSub (account bytes : ℕ) : ResultChunkBudget :=
  { budget with saturated := budget.saturated || account < bytes }

end

end ResultChunkBudget

def resultChunkReservationBytes (totalBytes : ℕ) : Option ℕ :=
  (checkedMul totalBytes resultChunkCopyReservationMultiplier).bind
    (checkedAdd · resultChunkTransferOverheadBytes)

/-! ## The collector -/

structure PartialResultTransfer where
  requestId : String
  itemIndex : ℕ
  transferDigest : Digest
  chunkCount : ℕ
  totalBytes : ℕ
  chunks : List (Option Bytes)
  bufferedBytes : ℕ
  reservationBytes : ℕ
  retiredDigests : List Digest := []
  retiredChunkCounts : List ℕ := []
  deriving DecidableEq

/-- `storedReservations` is not in the source: the reservations that stay held
for the reassembled items in `results`. -/
structure ResultCollector where
  results : List (Option WorkResult)
  resultChunkTransfers : Table String PartialResultTransfer := ∅
  resultChunkBufferedBytes : ℕ := 0
  resultChunkReservedBytes : ℕ := 0
  resultChunkReservedLimit : ℕ := maxResultChunkReservedBytesPerRequest
  senderPresent : Bool := true
  poolFallbackSubject : Option String := none
  directFallbackWorkerId : Option String := none
  directFallbackRepublishedIndices : Finset ℕ := ∅
  directFallbackPayloads : List (Option Bytes)
  directFallbackRepublished : Bool := false
  storedReservations : List ℕ := []

/-- The collector that a new request is given. -/
def ResultCollector.new (totalItems : ℕ)
    (poolFallbackSubject directFallbackWorkerId : Option String := none) :
    ResultCollector where
  results := List.replicate totalItems none
  poolFallbackSubject := poolFallbackSubject
  directFallbackWorkerId := directFallbackWorkerId
  directFallbackPayloads := List.replicate totalItems none

/-- A collector together with the budget it shares with all others. -/
structure Budgeted where
  budget : ResultChunkBudget
  collector : ResultCollector

inductive ResultChunkReject where
  | kind
  | identity
  | digest
  | chunkCount
  | chunkIndex
  | itemSize
  | payloadSize
  | aggregateSize
  | globalBudget
  | metadataConflict
  | duplicateConflict
  | totalMismatch
  | digestMismatch
  | decode
  deriving DecidableEq

structure CompletedResultTransfer where
  workItemId : String
  requestId : String
  itemIndex : ℕ
  encodedWorkResult : Bytes
  reservationBytes : ℕ
  deriving DecidableEq

inductive ResultChunkStatus where
  | buffered
  | duplicate
  | staleRetry
  | complete (completed : CompletedResultTransfer)
  deriving DecidableEq

structure ResultChunkApply where
  status : ResultChunkStatus
  retryReplaced : Bool
  deriving DecidableEq

namespace Budgeted

section

variable (state : Budgeted)

def reserveResultChunkTransfer (totalBytes : ℕ) : Except ResultChunkReject (Budgeted × ℕ) :=
  match resultChunkReservationBytes totalBytes with
  | none => .error .aggregateSize
  | some reservationBytes =>
    match checkedAdd state.collector.resultChunkReservedBytes reservationBytes with
    | none => .error .aggregateSize
    | some requestTotal =>
      if requestTotal > state.collector.resultChunkReservedLimit then
        .error .aggregateSize
      else match state.budget.tryReserve reservationBytes with
        | none => .error .globalBudget
        | some budget => .ok ({
            budget := budget
            collector := { state.collector with
              resultChunkReservedBytes := requestTotal } },
            reservationBytes)

def releaseResultChunkReservation (bytes : ℕ) : Budgeted where
  budget := (state.budget.observeSub state.collector.resultChunkReservedBytes bytes).release bytes
  collector := { state.collector with
    resultChunkReservedBytes :=
      state.collector.resultChunkReservedBytes - bytes }

/-- Take a transfer out of the collector together with its buffered bytes. -/
def removeTransfer (workItemId : String) (transfer : PartialResultTransfer) : Budgeted where
  budget := state.budget.observeSub state.collector.resultChunkBufferedBytes transfer.bufferedBytes
  collector := { state.collector with
    resultChunkTransfers := state.collector.resultChunkTransfers.erase workItemId
    resultChunkBufferedBytes :=
      state.collector.resultChunkBufferedBytes - transfer.bufferedBytes }

/-- `Drop`: what is still reserved goes back to the shared budget. -/
def drop : ResultChunkBudget :=
  state.budget.release state.collector.resultChunkReservedBytes

end

end Budgeted

/-! ## Applying a fragment

`apply_result_chunk` is cut at the points where the source goes from checking
the envelope to replacing an abandoned transfer, to buffering the payload, to
reassembling the result.  Every part hands on the state it leaves behind, also
when it rejects. -/

/-- The checks of the envelope itself. -/
def validateResultChunk (collector : ResultCollector) (chunk : ResultChunkV1) :
    Except ResultChunkReject Digest :=
  if chunk.kind ≠ resultChunkKind then .error .kind
  else if chunk.requestId.isEmpty || chunk.workItemId.isEmpty then
    .error .identity
  else if chunk.itemIndex ≥ collector.results.length ∨
      chunk.workItemId ≠ canonicalWorkItemId chunk.requestId chunk.itemIndex then
    .error .identity
  else match Digest.ofBytes? chunk.transferDigest with
    | none => .error .digest
    | some transferDigest =>
      if chunk.chunkCount = 0 ∨ chunk.chunkCount > maxResultChunksPerItem then
        .error .chunkCount
      else if chunk.chunkIndex ≥ chunk.chunkCount then .error .chunkIndex
      else if chunk.totalBytes = 0 ∨
          chunk.totalBytes > maxResultChunkItemBytes then .error .itemSize
      else if chunk.payload.length > chunk.totalBytes then .error .payloadSize
      else .ok transferDigest

/-- What a new transfer inherits from the one it replaces. -/
structure Replacement where
  retiredDigests : List Digest := []
  retiredChunkCounts : List ℕ := []
  reservationBytes : Option ℕ := none
  retryReplaced : Bool := false

/-- Add to a bounded list of tombstones, dropping the oldest when it is full. -/
def retire {Value : Type} (limit : ℕ) (retired : List Value) (value : Value) : List Value :=
  (if retired.length = limit then retired.tail else retired) ++ [value]

inductive RetryDecision where
  | proceed (replacement : Replacement)
  | staleRetry
  | reject (reason : ResultChunkReject)

section

variable (state : Budgeted) (chunk : ResultChunkV1)

section

variable (transferDigest : Digest)

/-- Decide what a fragment means for the active transfer of its item: it belongs
to it, it restarts it, or it is a late one of an abandoned attempt. -/
def replaceTransfer : Budgeted × RetryDecision :=
  match state.collector.resultChunkTransfers.lookup chunk.workItemId with
  | none => (state, .proceed {})
  | some current =>
    if current.transferDigest ≠ transferDigest then
      if chunk.chunkIndex ≠ 0 ∨ transferDigest ∈ current.retiredDigests then
        (state, .staleRetry)
      else
        ((state.removeTransfer chunk.workItemId current)
          |>.releaseResultChunkReservation current.reservationBytes,
        .proceed {
          retiredDigests := retire maxRetiredResultChunkDigests
            current.retiredDigests current.transferDigest
          retryReplaced := true })
    else if current.totalBytes ≠ chunk.totalBytes then
      (state, .reject .metadataConflict)
    else if current.chunkCount ≠ chunk.chunkCount then
      if chunk.chunkCount ∈ current.retiredChunkCounts then
        (state, .staleRetry)
      else if chunk.chunkIndex ≠ 0 then (state, .reject .metadataConflict)
      else
        (state.removeTransfer chunk.workItemId current, .proceed {
          retiredDigests := current.retiredDigests
          retiredChunkCounts := retire maxRetiredResultChunkLayouts
            current.retiredChunkCounts current.chunkCount
          reservationBytes := some current.reservationBytes
          retryReplaced := true })
    else (state, .proceed {})

inductive BufferDecision where
  | stored
  | duplicate
  | reject (reason : ResultChunkReject)

def PartialResultTransfer.addFragment (transfer : PartialResultTransfer)
    (chunk : ResultChunkV1) (newTransferBytes : ℕ) : PartialResultTransfer :=
  { transfer with
    chunks := transfer.chunks.set chunk.chunkIndex (some chunk.payload)
    bufferedBytes := newTransferBytes }

/-- A new transfer, holding its first fragment. -/
def firstFragment (reservationBytes : ℕ) (replacement : Replacement) : PartialResultTransfer where
  requestId := chunk.requestId
  itemIndex := chunk.itemIndex
  transferDigest := transferDigest
  chunkCount := chunk.chunkCount
  totalBytes := chunk.totalBytes
  chunks := (List.replicate chunk.chunkCount none).set chunk.chunkIndex (some chunk.payload)
  bufferedBytes := chunk.payload.length
  reservationBytes := reservationBytes
  retiredDigests := replacement.retiredDigests
  retiredChunkCounts := replacement.retiredChunkCounts

def Budgeted.putTransfer (workItemId : String)
    (transfer : PartialResultTransfer) (newRequestBytes : ℕ) : Budgeted :=
  { state with collector := { state.collector with
    resultChunkTransfers :=
      state.collector.resultChunkTransfers.insert workItemId transfer
    resultChunkBufferedBytes := newRequestBytes } }

/-- Add a fragment to the active transfer of its item. -/
def extendTransfer (transfer : PartialResultTransfer) : Budgeted × BufferDecision :=
  if transfer.requestId ≠ chunk.requestId ∨ transfer.itemIndex ≠ chunk.itemIndex ∨
      transfer.chunkCount ≠ chunk.chunkCount ∨
      transfer.totalBytes ≠ chunk.totalBytes then
    (state, .reject .metadataConflict)
  else match transfer.chunks.getD chunk.chunkIndex none with
    | some existing =>
      if existing = chunk.payload then (state, .duplicate)
      else (state, .reject .duplicateConflict)
    | none =>
      match checkedAdd transfer.bufferedBytes chunk.payload.length with
      | none => (state, .reject .payloadSize)
      | some newTransferBytes =>
        if newTransferBytes > transfer.totalBytes then
          (state, .reject .payloadSize)
        else match checkedAdd state.collector.resultChunkBufferedBytes chunk.payload.length with
          | none => (state, .reject .aggregateSize)
          | some newRequestBytes =>
            (state.putTransfer chunk.workItemId (transfer.addFragment chunk newTransferBytes)
              newRequestBytes, .stored)

variable (replacement : Replacement)

/-- The reservation of a new transfer: taken over or made now. -/
def reserveTransfer : Except ResultChunkReject (Budgeted × ℕ) :=
  match replacement.reservationBytes with
  | some bytes => .ok (state, bytes)
  | none => state.reserveResultChunkTransfer chunk.totalBytes

/-- Start a transfer with its first fragment. -/
def startTransfer : Budgeted × BufferDecision :=
  match reserveTransfer state chunk replacement with
  | .error reason => (state, .reject reason)
  | .ok (reserved, reservationBytes) =>
    match checkedAdd reserved.collector.resultChunkBufferedBytes chunk.payload.length with
    | none => (reserved, .reject .aggregateSize)
    | some newRequestBytes =>
      (reserved.putTransfer chunk.workItemId
        (firstFragment chunk transferDigest reservationBytes replacement)
        newRequestBytes, .stored)

def bufferFragment : Budgeted × BufferDecision :=
  match state.collector.resultChunkTransfers.lookup chunk.workItemId with
  | some transfer => extendTransfer state chunk transfer
  | none => startTransfer state chunk transferDigest replacement

end

variable (sha256 : Bytes → Digest)

/-- Reassemble the transfer of an item once every fragment is there.  The hash
function is a parameter. -/
def finishTransfer (state : Budgeted) (chunk : ResultChunkV1) (retryReplaced : Bool) :
    Budgeted × Except ResultChunkReject ResultChunkApply :=
  match state.collector.resultChunkTransfers.lookup chunk.workItemId with
  | none => (state, .ok { status := .buffered, retryReplaced := retryReplaced })
  | some transfer =>
    if transfer.chunks.all Option.isSome then
      let removed := state.removeTransfer chunk.workItemId transfer
      let encodedWorkResult := transfer.chunks.flatMap (·.getD [])
      if transfer.bufferedBytes ≠ transfer.totalBytes then
        (removed, .error .totalMismatch)
      else if encodedWorkResult.length ≠ transfer.totalBytes then
        (removed, .error .totalMismatch)
      else if sha256 encodedWorkResult ≠ transfer.transferDigest then
        (removed, .error .digestMismatch)
      else (removed, .ok {
        status := .complete {
          workItemId := chunk.workItemId
          requestId := transfer.requestId
          itemIndex := transfer.itemIndex
          encodedWorkResult := encodedWorkResult
          reservationBytes := transfer.reservationBytes }
        retryReplaced := retryReplaced })
    else (state, .ok { status := .buffered, retryReplaced := retryReplaced })

def applyResultChunk (state : Budgeted) (chunk : ResultChunkV1) :
    Budgeted × Except ResultChunkReject ResultChunkApply :=
  match validateResultChunk state.collector chunk with
  | .error reason => (state, .error reason)
  | .ok transferDigest =>
    -- A full result may have won while fragments were in flight.
    if (state.collector.results.getD chunk.itemIndex none).isSome then
      (state, .ok { status := .duplicate, retryReplaced := false })
    else match replaceTransfer state chunk transferDigest with
      | (state, .reject reason) => (state, .error reason)
      | (state, .staleRetry) =>
        (state, .ok { status := .staleRetry, retryReplaced := false })
      | (state, .proceed replacement) =>
        match bufferFragment state chunk transferDigest replacement with
        | (state, .reject reason) => (state, .error reason)
        | (state, .duplicate) => (state, .ok {
            status := .duplicate
            retryReplaced := replacement.retryReplaced })
        | (state, .stored) =>
          finishTransfer sha256 state chunk replacement.retryReplaced

def dropResultChunkTransfer (workItemId : String) : Budgeted :=
  match state.collector.resultChunkTransfers.lookup workItemId with
  | none => state
  | some transfer =>
    (state.removeTransfer workItemId transfer).releaseResultChunkReservation
      transfer.reservationBytes

/-- The decoder of results is a parameter. -/
def decodeCompletedResult (decode : Bytes → Option WorkResult)
    (completed : CompletedResultTransfer) :
    Except ResultChunkReject WorkResult :=
  match decode completed.encodedWorkResult with
  | none => .error .decode
  | some result =>
    if result.workItemId ≠ completed.workItemId ∨ result.requestId ≠ completed.requestId ∨
        result.itemIndex ≠ completed.itemIndex then .error .identity
    else .ok result

/-! ## Storing results -/

inductive StoreResultOutcome where
  | stored
  | duplicate
  | staleDirectFallback
  | outOfRange
  deriving DecidableEq

def storeResultIfMissing (collector : ResultCollector) (result : WorkResult) :
    ResultCollector × StoreResultOutcome :=
  if result.itemIndex ≥ collector.results.length then (collector, .outOfRange)
  else if result.workerDirect && result.itemIndex ∈ collector.directFallbackRepublishedIndices then
    (collector, .staleDirectFallback)
  else if (collector.results.getD result.itemIndex none).isSome then
    (collector, .duplicate)
  else ({ collector with
    results := collector.results.set result.itemIndex (some result) }, .stored)

def storeResultWithCompletedChunkReservation (result : WorkResult) (reservationBytes : ℕ) :
    Budgeted × StoreResultOutcome :=
  match storeResultIfMissing state.collector result with
  | (collector, .stored) => ({ state with collector := { collector with
      storedReservations := collector.storedReservations ++ [reservationBytes] }
    }, .stored)
  | (collector, outcome) =>
    ({ state with collector := collector }.releaseResultChunkReservation reservationBytes, outcome)

/-- The locked section of `handle_result_with_chunk_reservation`, with its
verdict whether the request has all its results. -/
def storeSection (result : WorkResult) (reservationBytes : ℕ) : Budgeted × Bool :=
  let stored :=
    storeResultWithCompletedChunkReservation state result reservationBytes
  let settled := if stored.2 = .stored
    then dropResultChunkTransfer stored.1 result.workItemId else stored.1
  (settled, settled.collector.results.all Option.isSome)

end

/-! ## Direct-to-pool fallback -/

section

variable (collector : ResultCollector)

/-- The cached payloads of the items that have no result yet. -/
def missingPayloads : List (ℕ × Bytes) :=
  (List.range collector.directFallbackPayloads.length).filterMap fun index =>
    if collector.results[index]? = some none then
      (collector.directFallbackPayloads.getD index none).map (index, ·)
    else none

/-- `take_direct_fallback_payloads`: the collector, marked as republished, and
the subject, the direct worker and the payloads to send. -/
def takeDirectFallbackPayloads :
    Option (ResultCollector × String × Option String × List (ℕ × Bytes)) :=
  if collector.directFallbackRepublished then none
  else match collector.poolFallbackSubject with
    | none => none
    | some subject =>
      let payloads := missingPayloads collector
      if payloads.isEmpty then none
      else some ({ collector with directFallbackRepublished := true }, subject,
        collector.directFallbackWorkerId, payloads)

def markDirectFallbackConfirmed (indices : List ℕ) : ResultCollector :=
  { collector with
    directFallbackRepublished := true
    directFallbackRepublishedIndices :=
      collector.directFallbackRepublishedIndices ∪ indices.toFinset }

/-- The payloads that are kept for a later fallback once they are published. -/
def cacheDirectFallbackPayloads (published : List (ℕ × Bytes)) : ResultCollector :=
  if collector.poolFallbackSubject.isSome then { collector with
    directFallbackPayloads := published.foldl
      (fun payloads item => payloads.set item.1 (some item.2))
      collector.directFallbackPayloads }
  else collector

end

/-- The vector sent for a request whose result transfer was rejected. -/
def failedResults (requestId : String) (totalItems : ℕ) : List WorkResult :=
  (List.range totalItems).map fun itemIndex => {
    workItemId := canonicalWorkItemId requestId itemIndex
    requestId := requestId
    itemIndex := itemIndex
    success := false
    error := some "Worker result transport validation failed"
    errorCode := some "transport_failure" }

end SieCluster.ResultChunks
