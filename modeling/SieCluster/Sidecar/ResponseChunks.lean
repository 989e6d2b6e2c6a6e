import SieCluster.Server.IpcResponses

/-!
# Reassembling chunked responses

The sidecar routes every frame of a connection to the call its request id names.
A frame that is not a chunk is the whole response.  Chunks are collected in
order into one buffer, for which twice the announced size is reserved from a
budget shared by the whole process, and the response is handed over when its
length and its digest are as announced.
-/

namespace SieCluster.ResponseChunks

open Msgpack
open IpcResponses (IpcResponseChunkV1 chunkKind packChunk)

def ipcVersion : ℕ := 1
def responseDecodeHeadroomBytes : ℕ := 4 * 1024
def maxChunkedIpcResponseBytes : ℕ := 128 * 1024 * 1024

structure ResponseChunkLimits where
  legacyFrameBytes : ℕ
  maxChunkPayloadBytes : ℕ
  maxChunkedBytes : ℕ
  maxChunks : ℕ
  deriving DecidableEq

def ResponseChunkLimits.production : ResponseChunkLimits where
  legacyFrameBytes := 32 * 1024 * 1024
  maxChunkPayloadBytes := 4 * 1024 * 1024
  maxChunkedBytes := maxChunkedIpcResponseBytes
  maxChunks := 64

def ResponseChunkLimits.maxChunkFrameBytes (limits : ResponseChunkLimits) : ℕ :=
  limits.maxChunkPayloadBytes + responseDecodeHeadroomBytes

def maxGlobalIpcResponseAssemblyBytes : ℕ :=
  2 * maxChunkedIpcResponseBytes + responseDecodeHeadroomBytes

inductive ResponseChunkError where
  | malformedEnvelope
  | missingRequestId
  | requestIdMismatch
  | malformedChunk
  | versionMismatch
  | missingFirstChunk
  | outOfOrder
  | layoutMismatch
  | invalidBounds
  | invalidDigest
  | globalBudgetExceeded
  | legacyDuringTransfer
  deriving DecidableEq

structure ResponseFrameHead where
  kind : Option String
  requestId : String
  deriving DecidableEq

/-- What a chunk the format has room for may hold. -/
structure Encodable (chunk : IpcResponseChunkV1) : Prop where
  version : chunk.version < 2 ^ 32
  requestId : (utf8 chunk.requestId).length < 2 ^ 32
  transferDigest : chunk.transferDigest.length < 2 ^ 32
  chunkIndex : chunk.chunkIndex < 2 ^ 32
  chunkCount : chunk.chunkCount < 2 ^ 32
  totalBytes : chunk.totalBytes < 2 ^ 64
  payload : chunk.payload.length < 2 ^ 32
  kind : (utf8 chunk.kind).length < 2 ^ 32

/-- The deserializer.  It may do anything with a frame the worker did not pack. -/
structure Decoder where
  head : Bytes → Option ResponseFrameHead
  chunk : Bytes → Option IpcResponseChunkV1
  head_packChunk : ∀ packed, Encodable packed →
    head (packChunk packed) = some ⟨some packed.kind, packed.requestId⟩
  chunk_packChunk : ∀ packed, Encodable packed → chunk (packChunk packed) = some packed

/-! ## Routing a frame -/

def readText (bytes : Bytes) : Option (String × Bytes) :=
  match readScalar bytes with
  | some (.str text, rest) => some (text, rest)
  | _ => none

/-- The text that must come next. -/
def expectText (expected : String) (bytes : Bytes) : Option Bytes :=
  (readText bytes).bind fun (text, rest) => if text = expected then some rest else none

def expectByte (expected : UInt8) : Bytes → Option Bytes
  | [] => none
  | byte :: rest => if byte = expected then some rest else none

/-- A small map of at least three entries. -/
def expectFixMap : Bytes → Option Bytes
  | [] => none
  | marker :: rest => if 0x83 ≤ marker ∧ marker < 0x90 then some rest else none

/-- The id of a frame laid out as the worker packs it, and whether it is a chunk. -/
def canonicalResponseFrameRoute (frame : Bytes) : Option (String × Bool) := do
  let rest ← expectFixMap frame
  let rest ← expectText "version" rest
  let rest ← expectByte (UInt8.ofNat ipcVersion) rest
  let rest ← expectText "request_id" rest
  let (requestId, rest) ← readText rest
  let (thirdKey, _) ← readText rest
  if thirdKey = "ok" then some (requestId, false)
  else if thirdKey = "transfer_digest" then some (requestId, true)
  else none

/-- Everything reassembly does not decide, and its bounds. -/
structure Setting where
  decoder : Decoder
  sha256 : Bytes → Bytes
  limits : ResponseChunkLimits
  budgetLimit : ℕ

variable (setting : Setting)

def responseFrameHead (frame : Bytes) : Except ResponseChunkError ResponseFrameHead :=
  match setting.decoder.head frame with
  | none => .error .malformedEnvelope
  | some head =>
    if head.kind = some chunkKind ∧ frame.length > setting.limits.maxChunkFrameBytes then
      .error .invalidBounds
    else .ok head

structure ResponseFrameRoute where
  requestId : String
  requiresChunkParser : Bool
  deriving DecidableEq

def namedRoute (requestId : String) (requiresChunkParser : Bool) :
    Except ResponseChunkError ResponseFrameRoute :=
  if requestId = "" then .error .missingRequestId else .ok ⟨requestId, requiresChunkParser⟩

def responseFrameRoute (frame : Bytes) : Except ResponseChunkError ResponseFrameRoute :=
  match canonicalResponseFrameRoute frame with
  | some (requestId, requiresChunkParser) => namedRoute requestId requiresChunkParser
  | none =>
    (responseFrameHead setting frame).bind fun head =>
      namedRoute head.requestId (head.kind = some chunkKind)

/-! ## Assembling -/

structure TransferState where
  digest : Bytes
  chunkCount : ℕ
  totalBytes : ℕ
  nextIndex : ℕ
  bytes : Bytes
  reservation : ℕ
  deriving DecidableEq

structure AssembledResponse where
  bytes : Bytes
  /-- What stays charged to the budget until the caller drops the response. -/
  reservation : ℕ
  chunkCount : Option ℕ
  deriving DecidableEq

inductive ResponseFrameStatus where
  | pending
  | complete (response : AssembledResponse)
  deriving DecidableEq

/-- One assembler beside the budget it reserves from. -/
structure Assembly where
  transfer : Option TransferState
  used : ℕ
  deriving DecidableEq

def reserve (used bytes : ℕ) : Except ResponseChunkError ℕ :=
  if used + bytes > setting.budgetLimit then .error .globalBudgetExceeded
  else .ok (used + bytes)

def withinBounds (chunk : IpcResponseChunkV1) : Prop :=
  ¬ (chunk.chunkCount = 0 ∨ chunk.chunkCount > setting.limits.maxChunks ∨
    chunk.totalBytes = 0 ∨ chunk.totalBytes ≤ setting.limits.legacyFrameBytes ∨
    chunk.totalBytes > setting.limits.maxChunkedBytes ∨ chunk.payload = [] ∨
    chunk.payload.length > setting.limits.maxChunkPayloadBytes ∨
    chunk.payload.length > chunk.totalBytes ∨ chunk.chunkCount > chunk.totalBytes ∨
    chunk.transferDigest.length ≠ 32)

instance (chunk : IpcResponseChunkV1) : Decidable (withinBounds setting chunk) :=
  inferInstanceAs (Decidable (¬ _))

def reservationOf (totalBytes : ℕ) : ℕ :=
  totalBytes * 2 + responseDecodeHeadroomBytes

/-- The transfer a chunk belongs to, a new one if none is going on. -/
def openTransfer (assembly : Assembly) (chunk : IpcResponseChunkV1) :
    Except ResponseChunkError (TransferState × ℕ) :=
  match assembly.transfer with
  | some transfer => .ok (transfer, assembly.used)
  | none =>
    if chunk.chunkIndex ≠ 0 then .error .missingFirstChunk
    else
      (reserve setting assembly.used (reservationOf chunk.totalBytes)).map fun used =>
        (⟨chunk.transferDigest, chunk.chunkCount, chunk.totalBytes, 0, [],
          reservationOf chunk.totalBytes⟩, used)

/-- The transfer with the payload taken in. -/
def TransferState.extend (transfer : TransferState) (payload : Bytes) : TransferState :=
  { transfer with
    bytes := transfer.bytes ++ payload
    nextIndex := transfer.nextIndex + 1 }

/-- Takes a chunk into an open transfer. -/
def appendChunk (transfer : TransferState) (used : ℕ) (chunk : IpcResponseChunkV1) :
    Assembly × Except ResponseChunkError ResponseFrameStatus :=
  let next := transfer.extend chunk.payload
  if chunk.chunkCount ≠ transfer.chunkCount ∨ chunk.totalBytes ≠ transfer.totalBytes ∨
      chunk.transferDigest ≠ transfer.digest then
    (⟨some transfer, used⟩, .error .layoutMismatch)
  else if chunk.chunkIndex ≠ transfer.nextIndex then
    (⟨some transfer, used⟩, .error .outOfOrder)
  else if next.bytes.length > transfer.totalBytes then
    (⟨some transfer, used⟩, .error .invalidBounds)
  else if next.nextIndex < next.chunkCount then
    if next.bytes.length = next.totalBytes then (⟨some next, used⟩, .error .invalidBounds)
    else (⟨some next, used⟩, .ok .pending)
  else if next.nextIndex ≠ next.chunkCount ∨ next.bytes.length ≠ next.totalBytes then
    (⟨some next, used⟩, .error .invalidBounds)
  else if setting.sha256 next.bytes ≠ next.digest then
    -- The finished transfer is dropped, and its reservation with it.
    (⟨none, used - next.reservation⟩, .error .invalidDigest)
  else
    (⟨none, used⟩, .ok (.complete ⟨next.bytes, next.reservation, some next.chunkCount⟩))

variable (expectedRequestId : String) (assembly : Assembly)

def pushChunk (chunk : IpcResponseChunkV1) :
    Assembly × Except ResponseChunkError ResponseFrameStatus :=
  if chunk.version ≠ ipcVersion then (assembly, .error .versionMismatch)
  else if chunk.requestId ≠ expectedRequestId then (assembly, .error .requestIdMismatch)
  else if ¬ withinBounds setting chunk then (assembly, .error .invalidBounds)
  else
    match openTransfer setting assembly chunk with
    | .error error => (assembly, .error error)
    | .ok (transfer, used) => appendChunk setting transfer used chunk

def pushLegacy (frame : Bytes) : Assembly × Except ResponseChunkError ResponseFrameStatus :=
  if assembly.transfer.isSome then (assembly, .error .legacyDuringTransfer)
  else (assembly, .ok (.complete ⟨frame, 0, none⟩))

def push (frame : Bytes) : Assembly × Except ResponseChunkError ResponseFrameStatus :=
  match responseFrameHead setting frame with
  | .error error => (assembly, .error error)
  | .ok head =>
    if head.requestId = "" then (assembly, .error .missingRequestId)
    else if head.requestId ≠ expectedRequestId then (assembly, .error .requestIdMismatch)
    else if head.kind ≠ some chunkKind then pushLegacy assembly frame
    else
      match setting.decoder.chunk frame with
      | none => (assembly, .error .malformedChunk)
      | some chunk => pushChunk setting expectedRequestId assembly chunk

/-- The reader's choice between the two entry points. -/
def pushRouted (route : ResponseFrameRoute) (assembly : Assembly) (frame : Bytes) :
    Assembly × Except ResponseChunkError ResponseFrameStatus :=
  if route.requiresChunkParser then push setting route.requestId assembly frame
  else pushLegacy assembly frame

end SieCluster.ResponseChunks
