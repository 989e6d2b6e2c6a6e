import SieCluster.Core.Msgpack

/-!
# Responses the worker writes to the sidecar

A response is serialized once.  If it fits one frame it is sent as it is; a
larger one is cut into chunks of a fixed size, each in a frame of its own, when
the sidecar has said that it takes chunks.
-/

namespace SieCluster.IpcResponses

open Msgpack

def ipcVersion : ℕ := 1
def maxFrameBytes : ℕ := 32 * 1024 * 1024
def ipcResponseChunkPayloadBytes : ℕ := 4 * 1024 * 1024
def maxChunkedIpcResponseBytes : ℕ := 128 * 1024 * 1024
def maxIpcResponseChunks : ℕ := 64

def chunkKind : String := "ipc_response_chunk_v1"

/-- A response, with everything after the key `ok` already serialized. -/
structure ResponseEnvelope where
  requestId : String
  rest : Bytes
  deriving DecidableEq

/-- The serialized envelope: five fields, the first two with the version and the id. -/
def packEnvelope (envelope : ResponseEnvelope) : Bytes :=
  writeMapLen 5 ++ writeField ("version", .uint ipcVersion) ++
    writeField ("request_id", .str envelope.requestId) ++ writeScalar (.str "ok") ++ envelope.rest

/-- `ok` false, no body, and the message. -/
def errorEnvelope (requestId message : String) : ResponseEnvelope where
  requestId := requestId
  rest := [0xc2] ++ writeScalar (.str "body") ++ [0xc0] ++ writeScalar (.str "error") ++
    writeScalar (.str message)

structure IpcResponseChunkV1 where
  version : ℕ
  requestId : String
  transferDigest : Bytes
  chunkIndex : ℕ
  chunkCount : ℕ
  totalBytes : ℕ
  payload : Bytes
  kind : String
  deriving DecidableEq

variable (chunk : IpcResponseChunkV1)

/-- The fields of a chunk in the order in which they are serialized. -/
def chunkRecord : Record := [
  ("version", .uint chunk.version),
  ("request_id", .str chunk.requestId),
  ("transfer_digest", .bin chunk.transferDigest),
  ("chunk_index", .uint chunk.chunkIndex),
  ("chunk_count", .uint chunk.chunkCount),
  ("total_bytes", .uint chunk.totalBytes),
  ("payload", .bin chunk.payload),
  ("kind", .str chunk.kind)]

def packChunk : Bytes :=
  writeRecord (chunkRecord chunk)

section Writing

variable (sha256 : Bytes → Bytes)

def chunkCountOf (payload : Bytes) : ℕ :=
  (payload.length + ipcResponseChunkPayloadBytes - 1) / ipcResponseChunkPayloadBytes

def chunkOf (requestId : String) (payload : Bytes) (chunkIndex : ℕ) : IpcResponseChunkV1 where
  version := ipcVersion
  requestId := requestId
  transferDigest := sha256 payload
  chunkIndex := chunkIndex
  chunkCount := chunkCountOf payload
  totalBytes := payload.length
  payload := (payload.drop (chunkIndex * ipcResponseChunkPayloadBytes)).take
    ipcResponseChunkPayloadBytes
  kind := chunkKind

/-- The frames that reach the connection; a frame that is too large raises, and nothing
after it is written. -/
def writeFrames (frames : List Bytes) : List Bytes :=
  frames.takeWhile fun frame => frame.length ≤ maxFrameBytes

def writeResponseEnvelope (acceptsResponseChunksV1 : Bool) (envelope : ResponseEnvelope) :
    List Bytes :=
  let payload := packEnvelope envelope
  let chunkCount := chunkCountOf payload
  if payload.length ≤ maxFrameBytes then writeFrames [payload]
  else if acceptsResponseChunksV1 = false then
    writeFrames [packEnvelope (errorEnvelope envelope.requestId
      "IPC response exceeds the legacy frame limit; response chunking v1 was not negotiated")]
  else if payload.length > maxChunkedIpcResponseBytes ∨ chunkCount > maxIpcResponseChunks then
    writeFrames [packEnvelope (errorEnvelope envelope.requestId
      "IPC response exceeds the negotiated response chunking v1 bounds")]
  else
    writeFrames ((List.range chunkCount).map fun chunkIndex =>
      packChunk (chunkOf sha256 envelope.requestId payload chunkIndex))

end Writing

/-! ## Sizes -/

theorem chunkCountOf_mul_lt (hpayload : payload ≠ []) :
    (chunkCountOf payload - 1) * ipcResponseChunkPayloadBytes < payload.length ∧
      payload.length ≤ chunkCountOf payload * ipcResponseChunkPayloadBytes := by
  have hpositive := List.length_pos_iff.2 hpayload
  unfold chunkCountOf ipcResponseChunkPayloadBytes
  omega

/-- Everything in a chunk frame but the id and the payload takes a few hundred bytes. -/
theorem length_packChunk_le (chunk : IpcResponseChunkV1)
    (hdigest : chunk.transferDigest.length = 32) (hkind : chunk.kind = chunkKind) :
    (packChunk chunk).length ≤ chunk.payload.length + (utf8 chunk.requestId).length + 256 := by
  have hversion := length_writeScalar_uint_le chunk.version
  have hid := length_writeScalar_str_le chunk.requestId
  have hdigestSize := length_writeScalar_bin_le chunk.transferDigest
  have hindex := length_writeScalar_uint_le chunk.chunkIndex
  have hcount := length_writeScalar_uint_le chunk.chunkCount
  have htotal := length_writeScalar_uint_le chunk.totalBytes
  have hpayload := length_writeScalar_bin_le chunk.payload
  have hkindSize : (writeScalar (.str chunk.kind)).length = 22 := by
    rw [hkind]
    decide +kernel
  have hkeys : (writeScalar (.str "version")).length + (writeScalar (.str "request_id")).length +
      (writeScalar (.str "transfer_digest")).length +
      (writeScalar (.str "chunk_index")).length + (writeScalar (.str "chunk_count")).length +
      (writeScalar (.str "total_bytes")).length + (writeScalar (.str "payload")).length +
      (writeScalar (.str "kind")).length + (writeMapLen 8).length = 85 := by
    decide +kernel
  simp only [packChunk, writeRecord, chunkRecord, writeField, List.flatMap_cons,
    List.flatMap_nil, List.length_append, List.length_cons, List.length_nil, Nat.reduceAdd]
  omega

end SieCluster.IpcResponses
