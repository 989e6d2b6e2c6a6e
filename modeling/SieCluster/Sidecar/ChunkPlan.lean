import SieCluster.Core.Msgpack
import SieCluster.Core.Slices
import SieCluster.Gateway.ResultChunks

/-!
# Planning the fragments of a large result

An encoded result that does not fit the payload limit of the broker is cut into
balanced fragments.  The planner tries the chunk counts in increasing order and
encodes for each one a single probe, with the last index and a payload as long
as the longest fragment.  The fragments of the plan it returns all fit, because
no envelope is longer than the probe; and no smaller count would have done,
because some fragment is as long as the probe's payload.
-/

namespace SieCluster.ChunkPlan

open Msgpack List
open ResultChunks (Digest ResultChunkV1 WorkResult)
open Slices

def resultChunkKind : String := "result_chunk_v1"
def resultChunkPayloadTargetBytes : ℕ := 768 * 1024
def maxChunkedResultBytes : ℕ := 16 * 1024 * 1024
def maxResultChunks : ℕ := 64

/-- The fields of an envelope in the order in which they are serialized. -/
def resultChunkRecord (chunk : ResultChunkV1) : Record := [
  ("kind", .str chunk.kind),
  ("work_item_id", .str chunk.workItemId),
  ("request_id", .str chunk.requestId),
  ("item_index", .uint chunk.itemIndex),
  ("transfer_digest", .bin chunk.transferDigest),
  ("chunk_index", .uint chunk.chunkIndex),
  ("chunk_count", .uint chunk.chunkCount),
  ("total_bytes", .uint chunk.totalBytes),
  ("payload", .bin chunk.payload)]

/-- `rmp_serde::to_vec_named` of an envelope. -/
def toVecNamed (chunk : ResultChunkV1) : Bytes :=
  writeRecord (resultChunkRecord chunk)

structure ChunkedWorkResult where
  workItemId : String
  requestId : String
  itemIndex : ℕ
  transferDigest : Digest
  resultBytes : Bytes
  chunkCount : ℕ
  deriving DecidableEq

namespace ChunkedWorkResult

section

variable (plan : ChunkedWorkResult)

def totalBytes : ℕ :=
  plan.resultBytes.length

variable (chunkIndex : ℕ)

def chunkBounds : ℕ × ℕ :=
  (balancedBound plan.totalBytes plan.chunkCount chunkIndex,
    balancedBound plan.totalBytes plan.chunkCount (chunkIndex + 1))

/-- The envelope that `encode_chunk` serializes. -/
def chunk : ResultChunkV1 where
  kind := resultChunkKind
  workItemId := plan.workItemId
  requestId := plan.requestId
  itemIndex := plan.itemIndex
  transferDigest := plan.transferDigest.val
  chunkIndex := chunkIndex
  chunkCount := plan.chunkCount
  totalBytes := plan.totalBytes
  payload := slice plan.resultBytes (plan.chunkBounds chunkIndex).1 (plan.chunkBounds chunkIndex).2

def encodeChunk : Bytes :=
  toVecNamed (plan.chunk chunkIndex)

end

end ChunkedWorkResult

/-- The envelope that is encoded to try a chunk count. -/
def probe (result : WorkResult) (transferDigest : Digest) (resultBytes : Bytes)
    (chunkCount : ℕ) : ResultChunkV1 where
  kind := resultChunkKind
  workItemId := result.workItemId
  requestId := result.requestId
  itemIndex := result.itemIndex
  transferDigest := transferDigest.val
  chunkIndex := chunkCount - 1
  chunkCount := chunkCount
  totalBytes := resultBytes.length
  payload := resultBytes.take (resultBytes.length ⌈/⌉ chunkCount)

def minChunks (resultBytes : Bytes) : ℕ :=
  max (resultBytes.length ⌈/⌉ resultChunkPayloadTargetBytes) 1

def maxChunks (resultBytes : Bytes) : ℕ :=
  min maxResultChunks resultBytes.length

def planChunkedWorkResult (sha256 : Bytes → Digest) (result : WorkResult)
    (resultBytes : Bytes) (maxPayload : ℕ) : Option ChunkedWorkResult :=
  if resultBytes.isEmpty || maxChunkedResultBytes < resultBytes.length then none
  else
    let transferDigest := sha256 resultBytes
    let chunkCounts := List.range' (minChunks resultBytes)
      (maxChunks resultBytes + 1 - minChunks resultBytes)
    let chunkCount := chunkCounts.find? fun chunkCount =>
      (toVecNamed (probe result transferDigest resultBytes chunkCount)).length ≤ maxPayload
    chunkCount.map fun chunkCount => {
      workItemId := result.workItemId
      requestId := result.requestId
      itemIndex := result.itemIndex
      transferDigest := transferDigest
      resultBytes := resultBytes
      chunkCount := chunkCount }

/-! ## What a plan is -/

/-- A plan holds the result it was made for, and its chunk count is the first
admissible one whose probe fits. -/
structure Planned (sha256 : Bytes → Digest) (result : WorkResult)
    (resultBytes : Bytes) (maxPayload : ℕ) (plan : ChunkedWorkResult) : Prop where
  fields : plan = {
    workItemId := result.workItemId
    requestId := result.requestId
    itemIndex := result.itemIndex
    transferDigest := sha256 resultBytes
    resultBytes := resultBytes
    chunkCount := plan.chunkCount }
  nonempty : 0 < resultBytes.length
  size : resultBytes.length ≤ maxChunkedResultBytes
  lower : minChunks resultBytes ≤ plan.chunkCount
  upper : plan.chunkCount ≤ maxChunks resultBytes
  fits : (toVecNamed (probe result (sha256 resultBytes) resultBytes
    plan.chunkCount)).length ≤ maxPayload
  least : ∀ chunkCount, minChunks resultBytes ≤ chunkCount → chunkCount < plan.chunkCount →
      maxPayload < (toVecNamed (probe result (sha256 resultBytes) resultBytes chunkCount)).length

section Planned

theorem planned_of_eq_some
    (hplan : planChunkedWorkResult sha256 result resultBytes maxPayload = some plan) :
    Planned sha256 result resultBytes maxPayload plan := by
  unfold planChunkedWorkResult at hplan
  split at hplan
  · cases hplan
  rename_i hsize
  simp only [Bool.or_eq_true, List.isEmpty_iff, decide_eq_true_eq, not_or, Nat.not_lt] at hsize
  obtain ⟨chunkCount, hfind, rfl⟩ := Option.map_eq_some_iff.1 hplan
  obtain ⟨hfits, hmem, hleast⟩ := List.find?_range'_eq_some.1 hfind
  obtain ⟨hlower, hupper⟩ := mem_range'_1.1 hmem
  exact {
    fields := rfl
    nonempty := List.length_pos_iff.2 hsize.1
    size := hsize.2
    lower := hlower
    upper := by
      simp only []
      omega
    fits := by simpa using hfits
    least := by
      intro smaller hmin hlt
      simpa using hleast smaller hmin hlt }

variable (hplanned : Planned sha256 result resultBytes maxPayload plan)
include hplanned

theorem Planned.resultBytes_eq : plan.resultBytes = resultBytes :=
  congrArg ChunkedWorkResult.resultBytes hplanned.fields

theorem Planned.totalBytes_eq : plan.totalBytes = resultBytes.length :=
  congrArg List.length hplanned.resultBytes_eq

theorem Planned.totalBytes_pos : 0 < plan.totalBytes :=
  hplanned.nonempty.trans_eq hplanned.totalBytes_eq.symm

theorem Planned.totalBytes_le : plan.totalBytes ≤ maxChunkedResultBytes :=
  hplanned.totalBytes_eq.trans_le hplanned.size

theorem Planned.chunkCount_pos : 0 < plan.chunkCount :=
  (le_max_right _ 1).trans hplanned.lower

theorem Planned.chunkCount_le : plan.chunkCount ≤ maxResultChunks :=
  hplanned.upper.trans (min_le_left _ _)

theorem Planned.chunkCount_le_length : plan.chunkCount ≤ resultBytes.length :=
  hplanned.upper.trans (min_le_right _ _)

end Planned

/-! ## Payloads -/

theorem length_part (resultBytes : Bytes) (hindex : chunkIndex < chunkCount) :
    (slice resultBytes (balancedBound resultBytes.length chunkCount chunkIndex)
      (balancedBound resultBytes.length chunkCount (chunkIndex + 1))).length =
        balancedBound resultBytes.length chunkCount (chunkIndex + 1) -
          balancedBound resultBytes.length chunkCount chunkIndex :=
  length_slice _ _ _ (balancedBound_le _ hindex (by omega))

section Payloads

variable (hplanned : Planned sha256 result resultBytes maxPayload plan)
include hplanned

/-- The payloads are parts of the encoded result, also when it is cut into
another number of them. -/
theorem Planned.payload_recut (chunkCount chunkIndex : ℕ) :
    ({ plan with chunkCount := chunkCount }.chunk chunkIndex).payload = slice resultBytes
        (balancedBound resultBytes.length chunkCount chunkIndex)
        (balancedBound resultBytes.length chunkCount (chunkIndex + 1)) := by
  rw [hplanned.fields]
  rfl

theorem Planned.payload_eq (chunkIndex : ℕ) : (plan.chunk chunkIndex).payload = slice resultBytes
      (balancedBound resultBytes.length plan.chunkCount chunkIndex)
      (balancedBound resultBytes.length plan.chunkCount (chunkIndex + 1)) :=
  hplanned.payload_recut plan.chunkCount chunkIndex

/-- The payloads in order of their index are the encoded result. -/
theorem Planned.flatMap_payload : (List.range plan.chunkCount).flatMap (fun chunkIndex =>
      (plan.chunk chunkIndex).payload) = resultBytes := by
  simp only [hplanned.payload_eq]
  rw [flatMap_slices resultBytes (balancedBound_monotone _ plan.chunkCount),
    balancedBound_zero, balancedBound_count _ hplanned.chunkCount_pos, slice_full]

section

variable (hindex : chunkIndex < plan.chunkCount)
include hindex

theorem Planned.payload_pos : 0 < (plan.chunk chunkIndex).payload.length := by
  rw [hplanned.payload_eq, length_part _ hindex]
  exact Nat.sub_pos_of_lt (balancedBound_lt_succ hplanned.chunkCount_pos
    hplanned.chunkCount_le_length chunkIndex)

theorem Planned.payload_le :
    (plan.chunk chunkIndex).payload.length ≤ resultBytes.length ⌈/⌉ plan.chunkCount := by
  rw [hplanned.payload_eq, length_part _ hindex]
  have hle := balancedBound_succ_le resultBytes.length chunkIndex hplanned.chunkCount_pos
  omega

theorem Planned.payload_le_totalBytes :
    (plan.chunk chunkIndex).payload.length ≤ plan.totalBytes := by
  have hceil : resultBytes.length ⌈/⌉ plan.chunkCount ≤ resultBytes.length :=
    (ceilDiv_le_iff_le_mul hplanned.chunkCount_pos).2
      (Nat.le_mul_of_pos_left _ hplanned.chunkCount_pos)
  rw [hplanned.totalBytes_eq]
  exact (hplanned.payload_le hindex).trans hceil

/-- The smallest admissible count keeps every payload within the target. -/
theorem Planned.payload_le_target :
    (plan.chunk chunkIndex).payload.length ≤ resultChunkPayloadTargetBytes := by
  have htarget : 0 < resultChunkPayloadTargetBytes := by decide
  have hlower : resultBytes.length ⌈/⌉ resultChunkPayloadTargetBytes ≤
      plan.chunkCount := (le_max_left _ 1).trans hplanned.lower
  rw [ceilDiv_le_iff_le_mul htarget, Nat.mul_comm] at hlower
  exact (hplanned.payload_le hindex).trans
    ((ceilDiv_le_iff_le_mul hplanned.chunkCount_pos).2 hlower)

end

end Payloads

/-! ## Envelope sizes -/

/-- Two envelopes that differ in their index and payload only. -/
def SameHeader (left right : ResultChunkV1) : Prop :=
  { left with chunkIndex := 0, payload := [] } =
    { right with chunkIndex := 0, payload := [] }

/-- An envelope with a short index is not longer than one with a short index and
at least as much payload. -/
theorem length_toVecNamed_mono (hsame : SameHeader left right) (hleft : left.chunkIndex < 128)
    (hright : right.chunkIndex < 128) (hle : left.payload.length ≤ right.payload.length) :
    (toVecNamed left).length ≤ (toVecNamed right).length := by
  have hpayload := length_writeScalar_bin_mono hle
  have hindex : (writeScalar (.uint left.chunkIndex)).length =
      (writeScalar (.uint right.chunkIndex)).length :=
    (length_writeUint_of_lt hleft).trans (length_writeUint_of_lt hright).symm
  obtain ⟨hkind, hworkItemId, hrequestId, hitemIndex, hdigest, -, hcount, htotal, -⟩ :=
    (ResultChunkV1.mk.injEq ..).mp hsame
  simp only [toVecNamed, writeRecord, resultChunkRecord, flatMap_cons,
    flatMap_nil, writeField, length_append, length_cons,
    length_nil, hkind, hworkItemId, hrequestId, hitemIndex, hdigest, hcount,
    htotal, hindex]
  omega

theorem length_probe_payload (result : WorkResult) (transferDigest : Digest)
    (resultBytes : Bytes) (hpos : 0 < chunkCount) :
    (probe result transferDigest resultBytes chunkCount).payload.length =
      resultBytes.length ⌈/⌉ chunkCount := by
  have hceil : resultBytes.length ⌈/⌉ chunkCount ≤ resultBytes.length :=
    (ceilDiv_le_iff_le_mul hpos).2 (Nat.le_mul_of_pos_left _ hpos)
  rw [probe, length_take, min_eq_left hceil]

section Envelopes

variable (hplanned : Planned sha256 result resultBytes maxPayload plan)
include hplanned

theorem Planned.sameHeader (chunkCount chunkIndex : ℕ) :
    SameHeader ({ plan with chunkCount := chunkCount }.chunk chunkIndex)
      (probe result (sha256 resultBytes) resultBytes chunkCount) := by
  rw [hplanned.fields]
  rfl

/-- Every envelope fits, not only the probed one. -/
theorem Planned.encodeChunk_fits (hindex : chunkIndex < plan.chunkCount) :
    (plan.encodeChunk chunkIndex).length ≤ maxPayload := by
  have hcount := hplanned.chunkCount_le
  unfold maxResultChunks at hcount
  refine le_trans (length_toVecNamed_mono
    (hplanned.sameHeader plan.chunkCount chunkIndex) ?_ ?_ ?_) hplanned.fits
  · exact hindex.trans_le (by omega)
  · exact (Nat.sub_le plan.chunkCount 1).trans_lt (by omega)
  · rw [length_probe_payload _ _ _ hplanned.chunkCount_pos]
    exact hplanned.payload_le hindex

/-- With fewer fragments some payload would be above the target or some envelope
above the limit. -/
theorem Planned.no_smaller_count (hpos : 0 < chunkCount) (hlt : chunkCount < plan.chunkCount) :
    ∃ chunkIndex < chunkCount, resultChunkPayloadTargetBytes <
          ({ plan with chunkCount := chunkCount }.chunk chunkIndex).payload.length ∨
        maxPayload < ({ plan with chunkCount := chunkCount }.encodeChunk chunkIndex).length := by
  have hcount := hplanned.chunkCount_le
  unfold maxResultChunks at hcount
  obtain ⟨chunkIndex, hindex, hlongest⟩ :=
    exists_longest_part hplanned.nonempty hpos
  have hlength : ({ plan with chunkCount := chunkCount }.chunk
      chunkIndex).payload.length = resultBytes.length ⌈/⌉ chunkCount := by
    rw [hplanned.payload_recut, length_part _ hindex, hlongest]
  refine ⟨chunkIndex, hindex, ?_⟩
  by_cases hmin : minChunks resultBytes ≤ chunkCount
  · right
    refine lt_of_lt_of_le (hplanned.least chunkCount hmin hlt)
      (length_toVecNamed_mono (hplanned.sameHeader chunkCount chunkIndex).symm ?_ ?_ ?_)
    · exact (Nat.sub_le chunkCount 1).trans_lt (by omega)
    · exact hindex.trans_le (by omega)
    · rw [length_probe_payload _ _ _ hpos, hlength]
  · left
    have hceil : ¬ resultBytes.length ⌈/⌉ resultChunkPayloadTargetBytes ≤
        chunkCount := by
      unfold minChunks at hmin
      omega
    rw [ceilDiv_le_iff_le_mul (by decide), Nat.mul_comm,
      ← ceilDiv_le_iff_le_mul hpos, ← hlength] at hceil
    exact Nat.lt_of_not_le hceil

end Envelopes

end SieCluster.ChunkPlan
