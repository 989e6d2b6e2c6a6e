import SieCluster.Gateway.ResultAccounts
import SieCluster.Gateway.ResultReassembly
import SieCluster.Sidecar.ChunkPlan

/-!
# Delivering the fragments of a plan

The inbox decodes an envelope and hands it to the worker task of its request.
All messages of one request go to the same task, so a fragment is applied, and a
completed transfer decoded and stored, before the next fragment is looked at.
The envelopes of a plan complete exactly one transfer, in whatever order and
however often they arrive, and its bytes are those that were planned.
-/

namespace SieCluster.ChunkDelivery

open Msgpack List
open ResultChunks hiding Bytes resultChunkKind
open ResultSections
open ResultAccounts (Consistent consistent_firstFragment receivedBytes)
open ResultReassembly (Declares)
open ChunkPlan

/-! ## Decoding an envelope -/

section

variable (record : Record) (name : String)

/-- The value of a field that is there exactly once. -/
def field : Option Scalar :=
  match record.filter fun entry => entry.1 = name with
  | [entry] => some entry.2
  | _ => none

/-- A `String` field. -/
def textField : Option String :=
  match field record name with
  | some (.str text) => some text
  | some (.bin bytes) => String.fromUTF8? ⟨bytes.toArray⟩
  | _ => none

/-- A `serde_bytes` field. -/
def bytesField : Option Bytes :=
  match field record name with
  | some (.bin bytes) => some bytes
  | some (.str text) => some (utf8 text)
  | _ => none

/-- An unsigned field of the given number of bits. -/
def numberField (bits : ℕ) (name : String) : Option ℕ :=
  match field record name with
  | some (.uint value) => if value < 2 ^ bits then some value else none
  | _ => none

end

/-- An inbox payload as a `ResultChunkV1`; fields of other names are ignored. -/
def decodeResultChunk (payload : Bytes) : Option ResultChunkV1 := do
  let record ← readRecord payload
  let kind ← textField record "kind"
  let workItemId ← textField record "work_item_id"
  let requestId ← textField record "request_id"
  let itemIndex ← numberField record 32 "item_index"
  let transferDigest ← bytesField record "transfer_digest"
  let chunkIndex ← numberField record 32 "chunk_index"
  let chunkCount ← numberField record 32 "chunk_count"
  let totalBytes ← numberField record 64 "total_bytes"
  let payload ← bytesField record "payload"
  return {
    kind := kind
    workItemId := workItemId
    requestId := requestId
    itemIndex := itemIndex
    transferDigest := transferDigest
    chunkIndex := chunkIndex
    chunkCount := chunkCount
    totalBytes := totalBytes
    payload := payload }

/-- The numbers of an envelope are within the widths of their types, and its
texts and byte strings within what the format has room for. -/
structure Encodable (chunk : ResultChunkV1) : Prop where
  kind : (utf8 chunk.kind).length < 2 ^ 32
  workItemId : (utf8 chunk.workItemId).length < 2 ^ 32
  requestId : (utf8 chunk.requestId).length < 2 ^ 32
  itemIndex : chunk.itemIndex < 2 ^ 32
  transferDigest : chunk.transferDigest.length < 2 ^ 32
  chunkIndex : chunk.chunkIndex < 2 ^ 32
  chunkCount : chunk.chunkCount < 2 ^ 32
  totalBytes : chunk.totalBytes < 2 ^ 64
  payload : chunk.payload.length < 2 ^ 32

theorem numberField_eq_some
    (hfield : field record name = some (.uint value)) (hvalue : value < 2 ^ bits) :
    numberField record bits name = some value := by
  simp [numberField, hfield, hvalue]

/-- The gateway takes back the envelope that the sidecar wrote. -/
theorem decodeResultChunk_toVecNamed (hencodable : Encodable chunk) :
    decodeResultChunk (toVecNamed chunk) = some chunk := by
  let record := resultChunkRecord chunk
  have hnames : ∀ name ∈ ["kind", "work_item_id", "request_id", "item_index",
      "transfer_digest", "chunk_index", "chunk_count", "total_bytes", "payload"],
      (utf8 name).length < 2 ^ 32 := by
    decide
  have hread : readRecord (toVecNamed chunk) = some record := by
    refine readRecord_writeRecord (by simp [resultChunkRecord])
      fun field hfield => ⟨hnames _ (mem_map_of_mem hfield), ?_⟩
    simp only [resultChunkRecord, mem_cons, not_mem_nil, or_false] at hfield
    obtain rfl | rfl | rfl | rfl | rfl | rfl | rfl | rfl | rfl := hfield
    · exact hencodable.kind
    · exact hencodable.workItemId
    · exact hencodable.requestId
    · exact hencodable.itemIndex.trans (by decide)
    · exact hencodable.transferDigest
    · exact hencodable.chunkIndex.trans (by decide)
    · exact hencodable.chunkCount.trans (by decide)
    · exact hencodable.totalBytes
    · exact hencodable.payload
  have hitemIndex : numberField record 32 "item_index" =
      some chunk.itemIndex := numberField_eq_some rfl hencodable.itemIndex
  have hchunkIndex : numberField record 32 "chunk_index" =
      some chunk.chunkIndex := numberField_eq_some rfl hencodable.chunkIndex
  have hchunkCount : numberField record 32 "chunk_count" =
      some chunk.chunkCount := numberField_eq_some rfl hencodable.chunkCount
  have htotalBytes : numberField record 64 "total_bytes" =
      some chunk.totalBytes := numberField_eq_some rfl hencodable.totalBytes
  simp only [decodeResultChunk, hread, Option.bind_eq_bind, Option.bind_some,
    hitemIndex, hchunkIndex, hchunkCount, htotalBytes]
  rfl

/-! ## The inbox task of a request -/

/-- The request of an inbox task: its collector, until that is taken out, and
the transfers that `apply_result_chunk` completed. -/
structure Inbox where
  pending : Option Budgeted
  completions : List CompletedResultTransfer := []

/-- Decode and store a completed transfer.  The collector is taken out when the
bytes do not decode to the announced result, and when no result is missing. -/
def storeCompleted (decode : Bytes → Option WorkResult) (state : Budgeted)
    (completed : CompletedResultTransfer) : Option Budgeted :=
  match decodeCompletedResult decode completed with
  | .error _ => none
  | .ok result =>
    let stored := storeSection state result completed.reservationBytes
    if stored.2 then none else some stored.1

section

variable (sha256 : Bytes → Digest) (decode : Bytes → Option WorkResult)

/-- `handle_result_chunk`.  A rejected fragment fails the request. -/
def handleResultChunk (inbox : Inbox) (chunk : ResultChunkV1) :
    Inbox :=
  match inbox.pending with
  | none => inbox
  | some state =>
    match applyResultChunk sha256 state chunk with
    | (_, .error _) => { inbox with pending := none }
    | (next, .ok { status := .complete completed, retryReplaced := _ }) => {
        pending := storeCompleted decode next completed
        completions := inbox.completions ++ [completed] }
    | (next, .ok _) => { inbox with pending := some next }

/-- One envelope.  One that does not decode fails the request. -/
def receive (inbox : Inbox) (payload : Bytes) : Inbox :=
  match decodeResultChunk payload with
  | none => { inbox with pending := none }
  | some chunk => handleResultChunk sha256 decode inbox chunk

variable (plan : ChunkedWorkResult)

/-- Deliver the envelopes of a plan, in the order and as often as listed. -/
def deliver (inbox : Inbox) (order : List ℕ) : Inbox :=
  order.foldl (fun inbox chunkIndex =>
    receive sha256 decode inbox (plan.encodeChunk chunkIndex)) inbox

theorem deliver_cons (inbox : Inbox) (chunkIndex : ℕ) (order : List ℕ) :
    deliver sha256 decode plan inbox (chunkIndex :: order) = deliver sha256 decode plan
        (receive sha256 decode inbox (plan.encodeChunk chunkIndex)) order := by
  simp only [deliver, foldl_cons]

end

/-! ## Slots of a plan -/

section

variable (plan : ChunkedWorkResult)

section

variable (seen : List ℕ)

/-- The slots of a transfer that has received the fragments in `seen`. -/
def slots : List (Option Bytes) :=
  (List.range plan.chunkCount).map fun chunkIndex =>
    if chunkIndex ∈ seen then some (plan.chunk chunkIndex).payload else none

@[simp]
theorem length_slots : (slots plan seen).length = plan.chunkCount := by
  simp [slots]

theorem getD_slots (hindex : chunkIndex < plan.chunkCount) :
    (slots plan seen).getD chunkIndex none =
      if chunkIndex ∈ seen then some (plan.chunk chunkIndex).payload else none := by
  rw [getD_eq_getElem _ _ (by simpa using hindex)]
  simp [slots]

@[simp]
theorem slots_nil : slots plan [] = List.replicate plan.chunkCount none := by
  simp [slots, map_const']

theorem slots_set (chunkIndex : ℕ) :
    (slots plan seen).set chunkIndex (some (plan.chunk chunkIndex).payload) =
      slots plan (seen ++ [chunkIndex]) := by
  refine ext_getElem (by simp) fun slot hslot hother => ?_
  by_cases hsame : chunkIndex = slot
  · subst hsame
    simp [slots]
  · simp [slots, hsame, Ne.symm hsame]

end

theorem slots_of_mem
    (hseen : chunkIndex ∈ seen) : slots plan (seen ++ [chunkIndex]) = slots plan seen := by
  have hmem : ∀ slot, slot ∈ seen ++ [chunkIndex] ↔ slot ∈ seen := by
    simp [hseen]
  simp only [slots, hmem]

theorem slots_all (seen : List ℕ) : (slots plan seen).all Option.isSome = true ↔
      ∀ chunkIndex < plan.chunkCount, chunkIndex ∈ seen := by
  simp only [slots, all_map, all_eq_true, mem_range, Function.comp_apply]
  refine forall₂_congr fun chunkIndex _ => ?_
  split <;> simp_all

theorem slots_full (hall : ∀ chunkIndex < plan.chunkCount, chunkIndex ∈ seen) :
    (slots plan seen).flatMap (·.getD []) = (List.range plan.chunkCount).flatMap fun chunkIndex =>
        (plan.chunk chunkIndex).payload := by
  rw [slots, flatMap_map]
  refine flatMap_congr fun chunkIndex hindex => ?_
  rw [if_pos (hall chunkIndex (mem_range.1 hindex))]
  rfl

/-- The fragments received so far are no longer than all of them together. -/
theorem sum_slots_le (seen : List ℕ) :
    ((slots plan seen).map fun slot => (slot.getD []).length).sum ≤
      ((List.range plan.chunkCount).flatMap fun chunkIndex =>
        (plan.chunk chunkIndex).payload).length := by
  rw [length_flatMap, slots, map_map]
  refine sum_le_sum fun chunkIndex _ => ?_
  simp only [Function.comp_apply]
  split <;> simp

end

/-! ## Applying the fragments of a plan -/

theorem checkedAdd_of_lt (hsum : left + right < 2 ^ 64) :
    checkedAdd left right = some (left + right) :=
  if_pos hsum

/-- The request that a plan answers, with the collector it starts from: the
result is announced under its own ids, and both byte limits have room for it. -/
structure Awaits (plan : ChunkedWorkResult) (fresh : Budgeted) : Prop where
  requestId : plan.requestId ≠ ""
  workItemId : plan.workItemId = canonicalWorkItemId plan.requestId plan.itemIndex
  slot : fresh.collector.results[plan.itemIndex]? = some none
  notRepublished : fresh.collector.directFallbackRepublishedIndices = ∅
  noTransfers : fresh.collector.resultChunkTransfers = ∅
  noBytes : fresh.collector.resultChunkBufferedBytes = 0
  reservation : ∃ reserved reservationBytes, fresh.reserveResultChunkTransfer plan.totalBytes =
      .ok (reserved, reservationBytes)

/-- The collector while fragments of a plan are missing. -/
structure Waiting (plan : ChunkedWorkResult) (fresh : Budgeted) (seen : List ℕ)
    (state : Budgeted) (transfer : PartialResultTransfer) : Prop where
  isActive : active state plan.workItemId = some transfer
  declares : ∀ chunkIndex, Declares plan.workItemId transfer (plan.chunk chunkIndex)
  chunks : transfer.chunks = slots plan seen
  consistent : Consistent transfer
  buffered : state.collector.resultChunkBufferedBytes = transfer.bufferedBytes
  answer : answerFields state.collector = answerFields fresh.collector

variable {state : Budgeted}

section Fragments

variable (hawaits : Awaits plan fresh)
include hawaits

theorem slot_of_answer (hanswer : answerFields state.collector = answerFields fresh.collector) :
    state.collector.results[plan.itemIndex]? = some none := by
  have hresults : state.collector.results = fresh.collector.results :=
    congrArg AnswerFields.results hanswer
  rw [hresults]
  exact hawaits.slot

variable (hplanned : Planned sha256 result resultBytes maxPayload plan)
include hplanned

variable (hindex : chunkIndex < plan.chunkCount)
include hindex

/-- Every fragment of the plan passes the checks of its envelope. -/
theorem validChunk (hitem : plan.itemIndex < state.collector.results.length) :
    ValidChunk state.collector (plan.chunk chunkIndex) plan.transferDigest where
  kind := rfl
  requestId := hawaits.requestId
  itemIndex := hitem
  workItemId := hawaits.workItemId
  digest := rfl
  chunkCount := ⟨hplanned.chunkCount_pos, hplanned.chunkCount_le⟩
  chunkIndex := hindex
  totalBytes := ⟨hplanned.totalBytes_pos, hplanned.totalBytes_le⟩
  payload := hplanned.payload_le_totalBytes hindex

/-- A fragment of the plan that belongs to what the collector already has. -/
theorem apply_eq (hanswer : answerFields state.collector = answerFields fresh.collector)
    (hreplace : replaceTransfer state (plan.chunk chunkIndex)
      plan.transferDigest = (state, .proceed {})) :
    applyResultChunk sha256 state (plan.chunk chunkIndex) =
      match bufferFragment state (plan.chunk chunkIndex) plan.transferDigest {} with
      | (next, .reject reason) => (next, .error reason)
      | (next, .duplicate) =>
        (next, .ok { status := .duplicate, retryReplaced := false })
      | (next, .stored) =>
        finishTransfer sha256 next (plan.chunk chunkIndex) false := by
  have hslot := slot_of_answer hawaits hanswer
  have hmissing : state.collector.results.getD plan.itemIndex none = none := by
    rw [getD_eq_getElem?_getD, hslot]
    rfl
  have hvalid := validChunk hawaits hplanned hindex (List.getElem?_eq_some_iff.1 hslot).1
  unfold applyResultChunk
  rw [validateResultChunk_eq_ok.2 hvalid]
  have hempty : state.collector.results.getD (plan.chunk chunkIndex).itemIndex
      none = none := hmissing
  rcases hbuffer : bufferFragment state (plan.chunk chunkIndex)
    plan.transferDigest {} with ⟨next, decision⟩
  cases decision <;>
    simp only [hempty, Option.isSome_none, Bool.false_eq_true, if_false, hreplace, hbuffer]

end Fragments

section Waiting

variable (hwaiting : Waiting plan fresh seen state transfer)
include hwaiting

theorem Waiting.transferDigest_eq : transfer.transferDigest = plan.transferDigest :=
  Subtype.ext (hwaiting.declares 0).transferDigest.symm

theorem Waiting.lookup : state.collector.resultChunkTransfers.lookup
    (plan.chunk chunkIndex).workItemId = some transfer :=
  hwaiting.isActive

theorem Waiting.replaceTransfer_eq :
    replaceTransfer state (plan.chunk chunkIndex) plan.transferDigest = (state, .proceed {}) := by
  have hdeclares := hwaiting.declares chunkIndex
  unfold replaceTransfer
  rw [hwaiting.lookup]
  simp only []
  rw [if_neg (not_ne_iff.2 hwaiting.transferDigest_eq),
    if_neg (not_ne_iff.2 hdeclares.totalBytes.symm),
    if_neg (not_ne_iff.2 hdeclares.chunkCount.symm)]

/-- The fragment goes to the active transfer, and its identity is the same. -/
theorem Waiting.bufferFragment_eq :
    bufferFragment state (plan.chunk chunkIndex) plan.transferDigest {} =
      extendTransfer state (plan.chunk chunkIndex) transfer := by
  unfold bufferFragment
  rw [hwaiting.lookup]

theorem Waiting.sameIdentity : ¬ (transfer.requestId ≠ (plan.chunk chunkIndex).requestId ∨
      transfer.itemIndex ≠ (plan.chunk chunkIndex).itemIndex ∨
      transfer.chunkCount ≠ (plan.chunk chunkIndex).chunkCount ∨
      transfer.totalBytes ≠ (plan.chunk chunkIndex).totalBytes) := by
  have hdeclares := hwaiting.declares chunkIndex
  push Not
  exact ⟨hdeclares.requestId.symm, hdeclares.itemIndex.symm,
    hdeclares.chunkCount.symm, hdeclares.totalBytes.symm⟩

theorem Waiting.buffer_seen (hindex : chunkIndex < plan.chunkCount) (hseen : chunkIndex ∈ seen) :
    bufferFragment state (plan.chunk chunkIndex) plan.transferDigest {} = (state, .duplicate) := by
  have hslot : transfer.chunks.getD (plan.chunk chunkIndex).chunkIndex none =
      some (plan.chunk chunkIndex).payload := by
    rw [hwaiting.chunks]
    exact (getD_slots plan seen hindex).trans (if_pos hseen)
  rw [hwaiting.bufferFragment_eq, extendTransfer, if_neg hwaiting.sameIdentity, hslot]
  simp

variable (hplanned : Planned sha256 result resultBytes maxPayload plan)
include hplanned

omit hwaiting in
theorem sum_slots_le_totalBytes (seen : List ℕ) :
    ((slots plan seen).map fun slot => (slot.getD []).length).sum ≤
      plan.totalBytes := by
  refine (sum_slots_le plan seen).trans_eq ?_
  rw [hplanned.flatMap_payload, hplanned.totalBytes_eq]

/-- A fragment that is new is added to the active transfer. -/
theorem Waiting.buffer_new (hindex : chunkIndex < plan.chunkCount) (hunseen : chunkIndex ∉ seen) :
    ∃ next extended, bufferFragment state (plan.chunk chunkIndex) plan.transferDigest {} =
        (next, .stored) ∧
      Waiting plan fresh (seen ++ [chunkIndex]) next extended := by
  let added := transfer.addFragment (plan.chunk chunkIndex) (transfer.bufferedBytes + (plan.chunk
    chunkIndex).payload.length)
  have hslot : transfer.chunks.getD (plan.chunk chunkIndex).chunkIndex none =
      none := by
    rw [hwaiting.chunks]
    exact (getD_slots plan seen hindex).trans (if_neg hunseen)
  have hconsistent := hwaiting.consistent.addFragment
    ((hwaiting.declares chunkIndex).chunkCount ▸ hindex) hslot
  have hset : added.chunks = slots plan (seen ++ [chunkIndex]) := by
    rw [← slots_set, ← hwaiting.chunks]
    rfl
  have hroom : transfer.bufferedBytes + (plan.chunk chunkIndex).payload.length ≤
      plan.totalBytes := by
    have hbuffered := hconsistent.buffered
    rw [receivedBytes, hset] at hbuffered
    exact hbuffered.trans_le (sum_slots_le_totalBytes hplanned _)
  have hsmall := hplanned.totalBytes_le
  unfold maxChunkedResultBytes at hsmall
  have htotal : transfer.totalBytes = plan.totalBytes :=
    (hwaiting.declares chunkIndex).totalBytes.symm
  refine ⟨state.putTransfer plan.workItemId added
    (transfer.bufferedBytes + (plan.chunk chunkIndex).payload.length), _, ?_, {
      isActive := AList.lookup_insert _
      declares := by
        intro index
        obtain ⟨hwork, hrequest, hitem, hdigest, hcount, htotal⟩ :=
          hwaiting.declares index
        exact ⟨hwork, hrequest, hitem, hdigest, hcount, htotal⟩
      chunks := hset
      consistent := hconsistent
      buffered := rfl
      answer := hwaiting.answer }⟩
  rw [hwaiting.bufferFragment_eq, extendTransfer, if_neg hwaiting.sameIdentity, hslot]
  simp only [hwaiting.buffered]
  rw [checkedAdd_of_lt (by omega)]
  simp only []
  rw [if_neg (by omega)]
  rfl

/-- A transfer that has every fragment yields the planned bytes. -/
theorem Waiting.finish_all (hall : ∀ index < plan.chunkCount, index ∈ seen)
    (hdigest : plan.transferDigest = sha256 resultBytes) :
    ∃ completed : CompletedResultTransfer,
      finishTransfer sha256 state (plan.chunk chunkIndex) false =
        (state.removeTransfer plan.workItemId transfer,
          .ok { status := .complete completed, retryReplaced := false }) ∧
      completed.encodedWorkResult = resultBytes ∧
      completed.workItemId = plan.workItemId ∧
      completed.requestId = plan.requestId ∧
      completed.itemIndex = plan.itemIndex := by
  have hbytes : transfer.chunks.flatMap (·.getD []) = resultBytes := by
    rw [hwaiting.chunks, slots_full plan hall, hplanned.flatMap_payload]
  have hbuffered : transfer.bufferedBytes = resultBytes.length := by
    rw [hwaiting.consistent.buffered, receivedBytes, ← length_flatMap, hbytes]
  have htotal : transfer.totalBytes = resultBytes.length :=
    (hwaiting.declares 0).totalBytes.symm.trans hplanned.totalBytes_eq
  refine ⟨{
    workItemId := plan.workItemId
    requestId := transfer.requestId
    itemIndex := transfer.itemIndex
    encodedWorkResult := resultBytes
    reservationBytes := transfer.reservationBytes }, ?_, rfl, rfl,
    (hwaiting.declares 0).requestId.symm, (hwaiting.declares 0).itemIndex.symm⟩
  unfold finishTransfer
  rw [hwaiting.lookup]
  simp only [hwaiting.chunks, (slots_all plan seen).2 hall, if_true]
  rw [← hwaiting.chunks]
  simp only [hbytes]
  rw [if_neg (by omega), if_neg (by omega),
    if_neg (not_ne_iff.2 (hwaiting.transferDigest_eq.trans hdigest).symm)]
  rfl

omit hplanned in
theorem Waiting.finish_missing (hmissing : ¬ ∀ index < plan.chunkCount, index ∈ seen) :
    finishTransfer sha256 state (plan.chunk chunkIndex) false =
      (state, .ok { status := .buffered, retryReplaced := false }) := by
  have hslots : transfer.chunks.all Option.isSome ≠ true := by
    rw [hwaiting.chunks, Ne, slots_all]
    exact hmissing
  unfold finishTransfer
  rw [hwaiting.lookup]
  simp only []
  rw [if_neg hslots]

end Waiting

/-! ## All fragments of a plan -/

section Delivery

/-- How far the delivery of a plan has come. -/
inductive Progress (plan : ChunkedWorkResult) (resultBytes : Bytes)
    (fresh : Budgeted) (seen : List ℕ) : Inbox → Prop
  | untouched (hseen : seen = []) : Progress plan resultBytes fresh seen { pending := some fresh }
  | waiting (state : Budgeted) (transfer : PartialResultTransfer)
      (hmissing : ¬ ∀ chunkIndex < plan.chunkCount, chunkIndex ∈ seen)
      (hwaiting : Waiting plan fresh seen state transfer) :
      Progress plan resultBytes fresh seen { pending := some state }
  | done (pending : Option Budgeted) (completed : CompletedResultTransfer)
      (hall : ∀ chunkIndex < plan.chunkCount, chunkIndex ∈ seen)
      (hbytes : completed.encodedWorkResult = resultBytes)
      (hstored : ∀ state, pending = some state →
        (state.collector.results.getD plan.itemIndex none).isSome) :
      Progress plan resultBytes fresh seen
        { pending := pending, completions := [completed] }

variable (hplanned : Planned sha256 result resultBytes maxPayload plan)
  (hawaits : Awaits plan fresh)
include hplanned hawaits

omit hplanned hawaits in
theorem storeResultIfMissing_stored (hslot : collector.results[result.itemIndex]? = some none)
    (hrepublished : collector.directFallbackRepublishedIndices = ∅) :
    (storeResultIfMissing collector result).2 = .stored := by
  have hbound := (List.getElem?_eq_some_iff.1 hslot).1
  unfold storeResultIfMissing
  rw [if_neg (Nat.not_le.2 hbound), if_neg (by simp [hrepublished]), if_neg (by simp [hslot])]

/-- The first fragment starts a transfer. -/
theorem buffer_first (hindex : chunkIndex < plan.chunkCount) : ∃ next started,
      bufferFragment fresh (plan.chunk chunkIndex) plan.transferDigest {} = (next, .stored) ∧
      Waiting plan fresh [chunkIndex] next started := by
  obtain ⟨reserved, reservationBytes, hreserve⟩ := hawaits.reservation
  have hreserveTransfer : reserveTransfer fresh (plan.chunk chunkIndex) {} =
      .ok (reserved, reservationBytes) := hreserve
  obtain ⟨budget, requestTotal, hreserved⟩ := reserveTransfer_eq hreserveTransfer
  have hbuffered : reserved.collector.resultChunkBufferedBytes = 0 := by
    rw [hreserved]
    exact hawaits.noBytes
  have hsmall := (hplanned.payload_le_totalBytes hindex).trans hplanned.totalBytes_le
  unfold maxChunkedResultBytes at hsmall
  have hactive : fresh.collector.resultChunkTransfers.lookup
      (plan.chunk chunkIndex).workItemId = none := by
    rw [hawaits.noTransfers]
    exact AList.lookup_empty _
  refine ⟨reserved.putTransfer plan.workItemId
    (firstFragment (plan.chunk chunkIndex) plan.transferDigest reservationBytes {})
    (plan.chunk chunkIndex).payload.length, _, ?_, {
      isActive := AList.lookup_insert _
      declares := fun _ => ⟨rfl, rfl, rfl, rfl, rfl, rfl⟩
      chunks := by
        rw [← nil_append [chunkIndex], ← slots_set, slots_nil]
        rfl
      consistent := consistent_firstFragment hindex reservationBytes
      buffered := rfl
      answer := by
        rw [hreserved]
        rfl }⟩
  unfold bufferFragment startTransfer
  rw [hactive]
  simp only [hreserveTransfer]
  rw [hbuffered, checkedAdd_of_lt (by omega)]
  simp only [Nat.zero_add]
  rfl

omit hplanned in
/-- A completed transfer leaves its result behind, or no collector at all. -/
theorem storeCompleted_stored {next : Budgeted} {completed : CompletedResultTransfer}
    (hanswer : answerFields state.collector = answerFields fresh.collector)
    (hitem : completed.itemIndex = plan.itemIndex)
    (hnext : storeCompleted decode state completed = some next) :
    (next.collector.results.getD plan.itemIndex none).isSome := by
  have hslot := slot_of_answer hawaits hanswer
  have hrepublished : state.collector.directFallbackRepublishedIndices = ∅ :=
    (congrArg AnswerFields.republishedIndices hanswer).trans hawaits.notRepublished
  unfold storeCompleted at hnext
  split at hnext
  · cases hnext
  rename_i result hdecode
  have hresult : result.itemIndex = plan.itemIndex :=
    (decodeCompletedResult_eq_ok.1 hdecode).2.2.2.trans hitem
  rw [← hresult] at hslot ⊢
  simp only [] at hnext
  split at hnext
  · cases hnext
  cases hnext
  rcases storeSection_cases state result completed.reservationBytes with
    ⟨-, -, -, hstored⟩ | ⟨hnot, -⟩
  · have hresults := congrArg AnswerFields.results hstored
    simp only [answerFields] at hresults
    rw [hresults, getD_eq_getElem?_getD,
      List.getElem?_set_self (List.getElem?_eq_some_iff.1 hslot).1]
    rfl
  · exact absurd (storeResultIfMissing_stored hslot hrepublished) hnot

/-- What a fragment does that goes into the table. -/
theorem handle_stored {next : Budgeted} {transfer : PartialResultTransfer}
    (hindex : chunkIndex < plan.chunkCount)
    (hanswer : answerFields state.collector = answerFields fresh.collector)
    (hreplace : replaceTransfer state (plan.chunk chunkIndex)
      plan.transferDigest = (state, .proceed {}))
    (hbuffer : bufferFragment state (plan.chunk chunkIndex)
      plan.transferDigest {} = (next, .stored))
    (hwaiting : Waiting plan fresh (seen ++ [chunkIndex]) next transfer) :
    Progress plan resultBytes fresh (seen ++ [chunkIndex])
      (handleResultChunk sha256 decode { pending := some state } (plan.chunk chunkIndex)) := by
  have happly := apply_eq hawaits hplanned hindex hanswer hreplace
  rw [hbuffer] at happly
  simp only [] at happly
  unfold handleResultChunk
  simp only [happly]
  by_cases hall : ∀ index < plan.chunkCount, index ∈ seen ++ [chunkIndex]
  · obtain ⟨completed, hfinish, hbytes, hwork, hrequest, hitem⟩ :=
      hwaiting.finish_all hplanned hall (congrArg ChunkedWorkResult.transferDigest hplanned.fields)
    rw [hfinish]
    have hremoved : answerFields (next.removeTransfer plan.workItemId transfer).collector =
          answerFields fresh.collector := hwaiting.answer
    exact .done _ completed hall hbytes fun stored hstored =>
      storeCompleted_stored hawaits hremoved hitem hstored
  · rw [hwaiting.finish_missing hall]
    exact .waiting next transfer hall hwaiting

/-- One more fragment of the plan. -/
theorem Progress.handle {inbox : Inbox} (hprogress : Progress plan resultBytes fresh seen inbox)
    (hindex : chunkIndex < plan.chunkCount) :
    Progress plan resultBytes fresh (seen ++ [chunkIndex])
      (handleResultChunk sha256 decode inbox (plan.chunk chunkIndex)) := by
  cases hprogress with
  | untouched hseen =>
    subst hseen
    obtain ⟨next, started, hbuffer, hwaiting⟩ :=
      buffer_first hplanned hawaits hindex
    have hreplace : replaceTransfer fresh (plan.chunk chunkIndex)
        plan.transferDigest = (fresh, .proceed {}) := by
      unfold replaceTransfer
      rw [hawaits.noTransfers, AList.lookup_empty]
    exact handle_stored hplanned hawaits hindex rfl hreplace hbuffer hwaiting
  | waiting state transfer hmissing hwaiting =>
    by_cases hseen : chunkIndex ∈ seen
    · have happly := apply_eq hawaits hplanned hindex hwaiting.answer hwaiting.replaceTransfer_eq
      rw [hwaiting.buffer_seen hindex hseen] at happly
      simp only [] at happly
      unfold handleResultChunk
      simp only [happly]
      refine .waiting state transfer ?_ { hwaiting with
        chunks := by rw [slots_of_mem plan hseen, hwaiting.chunks] }
      intro hall
      refine hmissing fun index hlt => ?_
      rcases mem_append.1 (hall index hlt) with hold | hnew
      · exact hold
      · exact mem_singleton.1 hnew ▸ hseen
    · obtain ⟨next, extended, hbuffer, hextended⟩ :=
        hwaiting.buffer_new hplanned hindex hseen
      exact handle_stored hplanned hawaits hindex hwaiting.answer
        hwaiting.replaceTransfer_eq hbuffer hextended
  | done pending completed hall hbytes hstored =>
    have hall' : ∀ index < plan.chunkCount, index ∈ seen ++ [chunkIndex] :=
      fun index hlt => mem_append_left _ (hall index hlt)
    cases pending with
    | none => exact .done none completed hall' hbytes hstored
    | some state =>
      -- The stored result answers every later fragment.
      have hsome := hstored state rfl
      have hitem : plan.itemIndex < state.collector.results.length := by
        by_contra hout
        rw [getD_eq_default _ _ (Nat.le_of_not_lt hout)] at hsome
        cases hsome
      have happly : applyResultChunk sha256 state (plan.chunk chunkIndex) =
          (state, .ok { status := .duplicate, retryReplaced := false }) := by
        unfold applyResultChunk
        rw [validateResultChunk_eq_ok.2 (validChunk hawaits hplanned hindex hitem)]
        simp only [show (state.collector.results.getD
          (plan.chunk chunkIndex).itemIndex none).isSome = true from hsome,
          if_true]
      unfold handleResultChunk
      simp only [happly]
      exact .done (some state) completed hall' hbytes hstored

section

variable (hencodable : ∀ chunkIndex < plan.chunkCount, Encodable (plan.chunk chunkIndex))
include hencodable

theorem Progress.deliver (hprogress : Progress plan resultBytes fresh seen inbox)
    (horder : ∀ chunkIndex ∈ order, chunkIndex < plan.chunkCount) :
    Progress plan resultBytes fresh (seen ++ order) (deliver sha256 decode plan inbox order) := by
  induction order generalizing seen inbox with
  | nil => simpa [ChunkDelivery.deliver] using hprogress
  | cons chunkIndex _ ih =>
    have hindex := horder chunkIndex (by simp)
    have hnext : Progress plan resultBytes fresh (seen ++ [chunkIndex])
        (receive sha256 decode inbox (plan.encodeChunk chunkIndex)) := by
      unfold receive ChunkedWorkResult.encodeChunk
      rw [decodeResultChunk_toVecNamed (hencodable chunkIndex hindex)]
      exact hprogress.handle hplanned hawaits hindex
    have hrest := ih hnext fun other hother => horder other (by simp [hother])
    rw [append_assoc] at hrest
    rw [deliver_cons]
    exact hrest

/-- The envelopes of a plan complete one transfer with the planned bytes, once
each of them has arrived. -/
theorem completions_deliver (horder : ∀ chunkIndex ∈ order, chunkIndex < plan.chunkCount) :
    (deliver sha256 decode plan { pending := some fresh } order).completions.map
        CompletedResultTransfer.encodedWorkResult =
      if ∀ chunkIndex < plan.chunkCount, chunkIndex ∈ order
      then [resultBytes] else [] := by
  have hprogress : Progress plan resultBytes fresh ([] ++ order)
      (deliver sha256 decode plan { pending := some fresh } order) :=
    Progress.deliver hplanned hawaits hencodable (.untouched rfl) horder
  rw [nil_append] at hprogress
  generalize deliver sha256 decode plan { pending := some fresh } order = final at hprogress ⊢
  cases hprogress with
  | untouched hempty =>
    have hmissing : ¬ ∀ chunkIndex < plan.chunkCount, chunkIndex ∈ order := by
      rw [hempty]
      exact fun hall => not_mem_nil (hall 0 hplanned.chunkCount_pos)
    rw [if_neg hmissing]
    rfl
  | waiting _ _ hmissing =>
    rw [if_neg hmissing]
    rfl
  | done _ _ hall hbytes =>
    rw [if_pos hall, ← hbytes]
    rfl

end

end Delivery

/-! ## A fresh collector -/

/-- The shared budget has room for the reservation of a transfer. -/
def Room (budget : ResultChunkBudget) (totalBytes : ℕ) : Prop :=
  budget.limit < 2 ^ 64 ∧
    budget.reservedBytes + (totalBytes * resultChunkCopyReservationMultiplier +
      resultChunkTransferOverheadBytes) ≤ budget.limit

theorem reservationBytes_eq (hsize : totalBytes ≤ maxResultChunkItemBytes) :
    resultChunkReservationBytes totalBytes =
      some (totalBytes * resultChunkCopyReservationMultiplier +
        resultChunkTransferOverheadBytes) := by
  unfold maxResultChunkItemBytes at hsize
  unfold resultChunkReservationBytes resultChunkCopyReservationMultiplier
    resultChunkTransferOverheadBytes checkedMul
  rw [if_pos (by omega), Option.bind_some, checkedAdd_of_lt (by omega)]

/-- A collector that has reserved nothing has room for any one transfer. -/
theorem reserveResultChunkTransfer_ok (hsize : totalBytes ≤ maxResultChunkItemBytes)
    (hroom : Room state.budget totalBytes)
    (hreserved : state.collector.resultChunkReservedBytes = 0)
    (hrequest : state.collector.resultChunkReservedLimit = maxResultChunkReservedBytesPerRequest) :
    ∃ reserved reservationBytes, state.reserveResultChunkTransfer totalBytes =
        .ok (reserved, reservationBytes) := by
  obtain ⟨hlimit, hroom⟩ := hroom
  have hbytes := reservationBytes_eq hsize
  have hsmall : totalBytes * resultChunkCopyReservationMultiplier +
      resultChunkTransferOverheadBytes ≤ maxResultChunkReservedBytesPerRequest := by
    unfold maxResultChunkItemBytes at hsize
    unfold resultChunkCopyReservationMultiplier resultChunkTransferOverheadBytes
      maxResultChunkReservedBytesPerRequest
    omega
  generalize totalBytes * resultChunkCopyReservationMultiplier +
    resultChunkTransferOverheadBytes = bytes at hbytes hsmall hroom
  have hwidth : maxResultChunkReservedBytesPerRequest < 2 ^ 64 := by decide
  unfold Budgeted.reserveResultChunkTransfer ResultChunkBudget.tryReserve
  rw [hbytes]
  simp only []
  rw [hreserved, hrequest, checkedAdd_of_lt (by omega)]
  simp only []
  rw [if_neg (by omega), checkedAdd_of_lt (by omega)]
  simp only []
  rw [if_neg (by omega)]
  exact ⟨_, _, rfl⟩

theorem length_utf8_append (left right : String) :
    (utf8 (left ++ right)).length = (utf8 left).length + (utf8 right).length := by
  simp [utf8]

theorem Planned.encodable (hplanned : Planned sha256 result resultBytes maxPayload plan)
    (hcanonical : plan.workItemId = canonicalWorkItemId plan.requestId plan.itemIndex)
    (hworkItemId : (utf8 plan.workItemId).length < 2 ^ 32) (hitemIndex : plan.itemIndex < 2 ^ 32)
    (hindex : chunkIndex < plan.chunkCount) :
    Encodable (plan.chunk chunkIndex) := by
  have hcount := hplanned.chunkCount_le
  have htotal := hplanned.totalBytes_le
  have hpayload := hplanned.payload_le_totalBytes hindex
  unfold maxResultChunks at hcount
  unfold maxChunkedResultBytes at htotal
  have hrequestId : (utf8 plan.requestId).length ≤ (utf8 plan.workItemId).length := by
    rw [hcanonical, canonicalWorkItemId, length_utf8_append, length_utf8_append]
    omega
  have hkind : (utf8 ChunkPlan.resultChunkKind).length < 2 ^ 32 := by decide
  exact {
    kind := hkind
    workItemId := hworkItemId
    requestId := hrequestId.trans_lt hworkItemId
    itemIndex := hitemIndex
    transferDigest := plan.transferDigest.2.trans_lt (by decide)
    chunkIndex := hindex.trans_le (by omega)
    chunkCount := Nat.lt_of_le_of_lt hcount (by decide)
    totalBytes := Nat.lt_of_le_of_lt htotal (by decide)
    payload := Nat.lt_of_le_of_lt (hpayload.trans htotal) (by decide) }

/-- A result and the collector of its request agree on its identity, which the
envelope can carry. -/
structure Addressed (result : WorkResult) (totalItems : ℕ) : Prop where
  requestId : result.requestId ≠ ""
  workItemId : result.workItemId = canonicalWorkItemId result.requestId result.itemIndex
  item : result.itemIndex < totalItems
  itemWidth : result.itemIndex < 2 ^ 32
  idWidth : (utf8 result.workItemId).length < 2 ^ 32

theorem Addressed.awaits (haddressed : Addressed result totalItems)
    (hplanned : Planned sha256 result resultBytes maxPayload plan)
    (hroom : Room budget resultBytes.length)
    (poolFallbackSubject directFallbackWorkerId : Option String) :
    Awaits plan {
      budget := budget
      collector := .new totalItems poolFallbackSubject directFallbackWorkerId } := by
  rw [← hplanned.totalBytes_eq] at hroom
  have hreservation : ∃ reserved reservationBytes, Budgeted.reserveResultChunkTransfer {
        budget := budget
        collector := .new totalItems poolFallbackSubject directFallbackWorkerId }
        plan.totalBytes = .ok (reserved, reservationBytes) :=
    reserveResultChunkTransfer_ok hplanned.totalBytes_le hroom rfl rfl
  rw [hplanned.fields] at hreservation ⊢
  exact {
    requestId := haddressed.requestId
    workItemId := haddressed.workItemId
    slot := by
      rw [ResultCollector.new, List.getElem?_replicate, if_pos haddressed.item]
    notRepublished := rfl
    noTransfers := rfl
    noBytes := rfl
    reservation := hreservation }

/-- The fragments of a plan are few, short, in order and all that is needed, and
delivering their envelopes to a fresh collector, in any order and any number of
times, completes the result exactly once, as soon as each has arrived. -/
theorem chunked_result_delivered {sha256 : Bytes → Digest} (decode : Bytes → Option WorkResult)
    {result : WorkResult} {resultBytes : Bytes} {maxPayload : ℕ} {plan : ChunkedWorkResult}
    (hplan : planChunkedWorkResult sha256 result resultBytes maxPayload = some plan) :
    (0 < plan.chunkCount ∧ plan.chunkCount ≤ 64) ∧
    (∀ chunkIndex < plan.chunkCount, (plan.chunk chunkIndex).chunkIndex = chunkIndex ∧
      (plan.chunk chunkIndex).payload ≠ [] ∧
      (plan.chunk chunkIndex).payload.length ≤ 768 * 1024 ∧
      (plan.encodeChunk chunkIndex).length ≤ maxPayload) ∧
    (List.range plan.chunkCount).flatMap (fun chunkIndex =>
      (plan.chunk chunkIndex).payload) = resultBytes ∧
    (∀ chunkCount, 0 < chunkCount → chunkCount < plan.chunkCount → ∃ chunkIndex < chunkCount,
        768 * 1024 < ({ plan with
          chunkCount := chunkCount }.chunk chunkIndex).payload.length ∨
        maxPayload < ({ plan with
          chunkCount := chunkCount }.encodeChunk chunkIndex).length) ∧
    ∀ (totalItems : ℕ) (poolFallbackSubject directFallbackWorkerId : Option String)
      (budget : ResultChunkBudget) (order : List ℕ),
      Addressed result totalItems → Room budget resultBytes.length →
      (∀ chunkIndex ∈ order, chunkIndex < plan.chunkCount) →
      (deliver sha256 decode plan {
        pending := some {
          budget := budget
          collector := .new totalItems poolFallbackSubject
            directFallbackWorkerId } } order).completions.map
        CompletedResultTransfer.encodedWorkResult =
      if ∀ chunkIndex < plan.chunkCount, chunkIndex ∈ order
      then [resultBytes] else [] := by
  have hplanned := planned_of_eq_some hplan
  refine ⟨⟨hplanned.chunkCount_pos, hplanned.chunkCount_le⟩, ?_,
    hplanned.flatMap_payload, fun chunkCount => hplanned.no_smaller_count, ?_⟩
  · intro chunkIndex hindex
    exact ⟨rfl, length_pos_iff.1 (hplanned.payload_pos hindex),
      hplanned.payload_le_target hindex, hplanned.encodeChunk_fits hindex⟩
  · intro totalItems poolFallbackSubject directFallbackWorkerId budget order haddressed hroom horder
    refine completions_deliver hplanned (haddressed.awaits hplanned hroom
      poolFallbackSubject directFallbackWorkerId) (fun chunkIndex hindex => ?_)
      horder
    rw [hplanned.fields] at hindex ⊢
    exact Planned.encodable (hplanned.fields ▸ hplanned) haddressed.workItemId
      haddressed.idWidth haddressed.itemWidth hindex

/-- Forty bytes in two fragments, for a limit of 198 bytes. -/
def twoFragments : ChunkedWorkResult where
  workItemId := "req-1.0"
  requestId := "req-1"
  itemIndex := 0
  transferDigest := ⟨List.replicate 32 0, rfl⟩
  resultBytes := List.replicate 40 7
  chunkCount := 2

theorem chunked_result_delivered_twoFragments :
    planChunkedWorkResult (fun _ => ⟨List.replicate 32 0, rfl⟩)
        { workItemId := "req-1.0", requestId := "req-1" } (List.replicate 40 7)
        198 = some twoFragments ∧
      (deliver (fun _ => ⟨List.replicate 32 0, rfl⟩) (fun _ => none) twoFragments {
        pending := some { budget := {}, collector := .new 1 } }
        [1, 0, 1, 0]).completions.map CompletedResultTransfer.encodedWorkResult =
          [List.replicate 40 7] := by
  have hplan : planChunkedWorkResult (fun _ => ⟨List.replicate 32 0, rfl⟩)
      { workItemId := "req-1.0", requestId := "req-1" } (List.replicate 40 7)
      198 = some twoFragments := by
    decide +kernel
  refine ⟨hplan, ?_⟩
  exact (chunked_result_delivered (fun _ => none) hplan).2.2.2.2 1 none none {}
    [1, 0, 1, 0] ⟨by decide, by decide, by decide, by decide, by decide⟩
    ⟨by decide, by decide⟩ (by decide)

end SieCluster.ChunkDelivery
