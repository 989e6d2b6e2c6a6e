import SieCluster.Core.Runs
import SieCluster.Sidecar.ResponseReader

/-!
# Responses as the worker writes them

Frames the worker writes come out of the reader as the bytes it serialized,
however the frames of different responses are interleaved, as long as every
transfer fits the budget when it begins.
-/

namespace SieCluster.ResponseRoundTrip

open Option hiding filter filter_map map
open List
open Msgpack ResponseChunks ResponseReader
open IpcResponses hiding ipcVersion maxChunkedIpcResponseBytes

/-! ## Frames the worker writes -/

theorem readText_writeScalar (hfits : (utf8 text).length < 2 ^ 32)
    (rest : Bytes) : readText (writeScalar (.str text) ++ rest) = some (text, rest) := by
  have hscalar : (Scalar.str text).Fits := hfits
  rw [readText, readScalar_writeScalar hscalar]

theorem expectText_writeScalar (hfits : (utf8 text).length < 2 ^ 32)
    (rest : Bytes) : expectText text (writeScalar (.str text) ++ rest) = some rest := by
  simp [expectText, readText_writeScalar hfits]

/-- The start of every frame the worker packs. -/
theorem route_of_head (marker : UInt8) (hmarker : 0x83 ≤ marker ∧ marker < 0x90)
    (hid : (utf8 requestId).length < 2 ^ 32)
    (hthird : (utf8 third).length < 2 ^ 32) (rest : Bytes) :
    canonicalResponseFrameRoute (marker :: (writeScalar (.str "version") ++
      (writeScalar (.uint 1) ++ (writeScalar (.str "request_id") ++
        (writeScalar (.str requestId) ++ (writeScalar (.str third) ++ rest)))))) =
      if third = "ok" then some (requestId, false)
      else if third = "transfer_digest" then some (requestId, true) else none := by
  have hversion (tail : Bytes) :
      expectByte (UInt8.ofNat ResponseChunks.ipcVersion) (writeScalar (.uint 1) ++ tail) =
        some tail := rfl
  simp only [canonicalResponseFrameRoute, expectFixMap, if_pos hmarker, bind_eq_bind,
    bind_some, expectText_writeScalar (show (utf8 "version").length < 2 ^ 32 by decide +kernel),
    hversion, expectText_writeScalar (show (utf8 "request_id").length < 2 ^ 32 by decide +kernel),
    readText_writeScalar hid, readText_writeScalar hthird]

theorem route_packEnvelope (hid : (utf8 envelope.requestId).length < 2 ^ 32) :
    canonicalResponseFrameRoute (packEnvelope envelope) = some (envelope.requestId, false) := by
  have hroute := route_of_head 0x85 (by decide) hid
    (show (utf8 "ok").length < 2 ^ 32 by decide +kernel) envelope.rest
  rw [if_pos rfl] at hroute
  rw [← hroute]
  simp only [packEnvelope, writeField, append_assoc]
  rfl

theorem route_packChunk (chunk : IpcResponseChunkV1) (hversion : chunk.version = 1)
    (hid : (utf8 chunk.requestId).length < 2 ^ 32) :
    canonicalResponseFrameRoute (packChunk chunk) = some (chunk.requestId, true) := by
  have hroute (rest : Bytes) := route_of_head 0x88 (by decide) hid
    (show (utf8 "transfer_digest").length < 2 ^ 32 by decide +kernel) rest
  have hother : ¬ "transfer_digest" = "ok" := by decide
  simp only [if_neg hother, if_pos] at hroute
  simp only [packChunk, writeRecord, chunkRecord, writeField, flatMap_cons, append_assoc, hversion]
  exact hroute _

/-! ## One chunk of a response -/

/-- The production bounds, and a digest of 32 bytes. -/
structure Production (setting : Setting) : Prop where
  limits : setting.limits = .production
  digest : ∀ bytes, (setting.sha256 bytes).length = 32

/-- A response that is sent in chunks. -/
structure Chunked (requestId : String) (payload : Bytes) : Prop where
  named : requestId ≠ ""
  short : (utf8 requestId).length ≤ 3072
  large : maxFrameBytes < payload.length
  bounded : payload.length ≤ IpcResponses.maxChunkedIpcResponseBytes
  count : chunkCountOf payload ≤ maxIpcResponseChunks

variable {setting : Setting}

section Chunks

theorem Chunked.chunkCount_pos (hchunked : Chunked requestId payload) :
    1 < chunkCountOf payload := by
  have hlarge := hchunked.large
  unfold maxFrameBytes at hlarge
  unfold chunkCountOf ipcResponseChunkPayloadBytes
  omega

theorem Chunked.chunk_bounds (hchunked : Chunked requestId payload)
    (hindex : index < chunkCountOf payload) :
    index * ipcResponseChunkPayloadBytes < payload.length := by
  have hne : payload ≠ [] := length_pos_iff.1 (Nat.zero_lt_of_lt hchunked.large)
  have hlast := (chunkCountOf_mul_lt hne).1
  exact (Nat.mul_le_mul_right _ (by omega)).trans_lt hlast

theorem length_payload_chunkOf (sha256 : Bytes → Bytes) (requestId : String) (payload : Bytes)
    (index : ℕ) :
    (chunkOf sha256 requestId payload index).payload.length =
      min ipcResponseChunkPayloadBytes (payload.length - index * ipcResponseChunkPayloadBytes) := by
  simp [chunkOf]

section

variable (hproduction : Production setting) (hchunked : Chunked requestId payload)
include hproduction hchunked

theorem encodable_chunkOf (hindex : index < chunkCountOf payload) :
    Encodable (chunkOf setting.sha256 requestId payload index) where
  version := by simp [chunkOf, IpcResponses.ipcVersion]
  requestId := by
    have hshort := hchunked.short
    simp only [chunkOf]
    omega
  transferDigest := by simp [chunkOf, hproduction.digest]
  chunkIndex := by
    have hcount := hchunked.count
    simp only [chunkOf, maxIpcResponseChunks] at hcount ⊢
    omega
  chunkCount := by
    have hcount := hchunked.count
    simp only [chunkOf, maxIpcResponseChunks] at hcount ⊢
    omega
  totalBytes := by
    have hbounded := hchunked.bounded
    simp only [chunkOf, IpcResponses.maxChunkedIpcResponseBytes] at hbounded ⊢
    omega
  payload := by
    rw [length_payload_chunkOf]
    unfold ipcResponseChunkPayloadBytes
    omega
  kind := by
    simp only [chunkOf]
    decide +kernel

theorem length_frame_le (index : ℕ) :
    (packChunk (chunkOf setting.sha256 requestId payload index)).length ≤
      setting.limits.maxChunkFrameBytes := by
  have hframe := length_packChunk_le (chunkOf setting.sha256 requestId payload index)
    (hproduction.digest payload) rfl
  have hpayload := length_payload_chunkOf setting.sha256 requestId payload index
  have hid : (utf8 (chunkOf setting.sha256 requestId payload index).requestId).length ≤ 3072 :=
    hchunked.short
  rw [hproduction.limits]
  simp only [ResponseChunkLimits.maxChunkFrameBytes, ResponseChunkLimits.production,
    responseDecodeHeadroomBytes, ipcResponseChunkPayloadBytes] at hpayload ⊢
  omega

theorem withinBounds_chunkOf (hindex : index < chunkCountOf payload) :
    withinBounds setting (chunkOf setting.sha256 requestId payload index) := by
  let chunk := chunkOf setting.sha256 requestId payload index
  have hstart := hchunked.chunk_bounds hindex
  have hpositive := hchunked.chunkCount_pos
  obtain ⟨-, -, hlarge, hbounded, hcount⟩ := hchunked
  have hsize := length_payload_chunkOf setting.sha256 requestId payload index
  have hnonempty : chunk.payload ≠ [] := by
    rw [← length_pos_iff, hsize]
    unfold ipcResponseChunkPayloadBytes at hstart ⊢
    omega
  have hdigest : chunk.transferDigest.length = 32 :=
    hproduction.digest payload
  have htotal : chunk.totalBytes = payload.length := rfl
  have hchunks : chunk.chunkCount = chunkCountOf payload := rfl
  unfold withinBounds
  rw [hproduction.limits, htotal, hchunks, hsize]
  simp only [ResponseChunkLimits.production, ResponseChunks.maxChunkedIpcResponseBytes]
  unfold IpcResponses.maxChunkedIpcResponseBytes at hbounded
  unfold maxFrameBytes at hlarge
  unfold maxIpcResponseChunks at hcount
  unfold ipcResponseChunkPayloadBytes
  rintro (hbad | hbad | hbad | hbad | hbad | hbad | hbad | hbad | hbad | hbad)
  · omega
  · omega
  · omega
  · omega
  · omega
  · exact hnonempty hbad
  · omega
  · omega
  · omega
  · exact hbad hdigest

end

variable (sha256 : Bytes → Bytes)

/-- The transfer after some of the chunks. -/
def transferAt (payload : Bytes) (index : ℕ) : TransferState where
  digest := sha256 payload
  chunkCount := chunkCountOf payload
  totalBytes := payload.length
  nextIndex := index
  bytes := payload.take (index * ipcResponseChunkPayloadBytes)
  reservation := reservationOf payload.length

def transferAfter (payload : Bytes) (index : ℕ) : Option TransferState :=
  if index = 0 then none else some (transferAt sha256 payload index)

/-- What the budget is charged when a transfer begins. -/
def charge (payload : Bytes) (index : ℕ) : ℕ :=
  if index = 0 then reservationOf payload.length else 0

theorem openTransfer_chunkOf
    (hbudget : index = 0 → used + reservationOf payload.length ≤ setting.budgetLimit) :
    openTransfer setting ⟨transferAfter setting.sha256 payload index, used⟩
        (chunkOf setting.sha256 requestId payload index) =
      .ok (transferAt setting.sha256 payload index, used + charge payload index) := by
  by_cases hfirst : index = 0
  · subst hfirst
    have hfits : ¬ used + reservationOf payload.length > setting.budgetLimit :=
      (hbudget rfl).not_gt
    simp [openTransfer, transferAfter, chunkOf, reserve, hfits, Except.map, transferAt, charge]
  · simp [openTransfer, transferAfter, hfirst, charge]

theorem extend_transferAt (index : ℕ) : (transferAt setting.sha256 payload index).extend
        (chunkOf setting.sha256 requestId payload index).payload =
      transferAt setting.sha256 payload (index + 1) := by
  have hbytes : payload.take (index * ipcResponseChunkPayloadBytes) ++
      (payload.drop (index * ipcResponseChunkPayloadBytes)).take ipcResponseChunkPayloadBytes =
        payload.take ((index + 1) * ipcResponseChunkPayloadBytes) := by
    rw [Nat.succ_mul, take_add]
  simp only [TransferState.extend, transferAt, chunkOf, hbytes]

theorem layout_chunkOf (setting : Setting) (requestId : String) (payload : Bytes) (index : ℕ) :
    ¬ ((chunkOf setting.sha256 requestId payload index).chunkCount ≠
        (transferAt setting.sha256 payload index).chunkCount ∨
      (chunkOf setting.sha256 requestId payload index).totalBytes ≠
        (transferAt setting.sha256 payload index).totalBytes ∨
      (chunkOf setting.sha256 requestId payload index).transferDigest ≠
        (transferAt setting.sha256 payload index).digest) ∧
    ¬ (chunkOf setting.sha256 requestId payload index).chunkIndex ≠
      (transferAt setting.sha256 payload index).nextIndex := by
  simp [chunkOf, transferAt]

/-- A chunk that is not the last leaves the transfer one chunk further. -/
theorem appendChunk_pending (hchunked : Chunked requestId payload) (used : ℕ)
    (hindex : index + 1 < chunkCountOf payload) :
    appendChunk setting (transferAt setting.sha256 payload index) used
        (chunkOf setting.sha256 requestId payload index) =
      (⟨some (transferAt setting.sha256 payload (index + 1)), used⟩, .ok .pending) := by
  let next := transferAt setting.sha256 payload (index + 1)
  have hbelow := hchunked.chunk_bounds hindex
  have hlength : next.bytes.length = (index + 1) * ipcResponseChunkPayloadBytes := by
    simp only [next, transferAt, length_take]
    omega
  obtain ⟨hlayout, horder⟩ := layout_chunkOf setting requestId payload index
  have hroom : ¬ next.bytes.length > (transferAt setting.sha256 payload index).totalBytes := by
    rw [hlength]
    exact hbelow.not_gt
  have hmore : next.nextIndex <
      next.chunkCount := hindex
  have hpart : ¬ next.bytes.length =
      next.totalBytes := by
    rw [hlength]
    exact hbelow.ne
  simp only [appendChunk, extend_transferAt]
  rw [if_neg hlayout, if_neg horder, if_neg hroom, if_pos hmore, if_neg hpart]

/-- The last chunk completes the response. -/
theorem appendChunk_complete (hchunked : Chunked requestId payload) (used : ℕ)
    (hindex : index + 1 = chunkCountOf payload) :
    appendChunk setting (transferAt setting.sha256 payload index) used
        (chunkOf setting.sha256 requestId payload index) =
      (⟨none, used⟩, .ok (.complete
        ⟨payload, reservationOf payload.length, some (chunkCountOf payload)⟩)) := by
  let next := transferAt setting.sha256 payload (index + 1)
  have hne : payload ≠ [] := length_pos_iff.1 (Nat.zero_lt_of_lt hchunked.large)
  have hbytes : next.bytes = payload := by
    simp only [next, transferAt, hindex]
    exact take_of_length_le (chunkCountOf_mul_lt hne).2
  obtain ⟨hlayout, horder⟩ := layout_chunkOf setting requestId payload index
  have hroom : ¬ next.bytes.length > (transferAt setting.sha256 payload index).totalBytes := by
    rw [hbytes]
    exact lt_irrefl _
  have hlast : ¬ next.nextIndex <
      next.chunkCount := hindex.ge.not_gt
  have hwhole : ¬ (next.nextIndex ≠ next.chunkCount ∨ next.bytes.length ≠ next.totalBytes) := by
    rw [hbytes]
    rintro (hcount | hlength)
    · exact hcount hindex
    · exact hlength rfl
  have hdigest : ¬ setting.sha256 next.bytes ≠
      next.digest := by
    rw [hbytes]
    exact fun hdiffers => hdiffers rfl
  simp only [appendChunk, extend_transferAt]
  rw [if_neg hlayout, if_neg horder, if_neg hroom, if_neg hlast, if_neg hwhole, if_neg hdigest,
    hbytes]
  rfl

variable (hproduction : Production setting)
include hproduction

section

variable (hchunked : Chunked requestId payload)
include hchunked

section

variable (hindex : index < chunkCountOf payload)
include hindex

/-- A chunk the worker wrote passes every check that does not depend on the transfer. -/
theorem push_packChunk (assembly : Assembly) :
    push setting requestId assembly (packChunk (chunkOf setting.sha256 requestId payload index)) =
      pushChunk setting requestId assembly (chunkOf setting.sha256 requestId payload index) := by
  have hencodable := encodable_chunkOf hproduction hchunked hindex
  have hhead : responseFrameHead setting
      (packChunk (chunkOf setting.sha256 requestId payload index)) =
        .ok ⟨some chunkKind, requestId⟩ := by
    have hsize := (length_frame_le hproduction hchunked index).not_gt
    rw [responseFrameHead, setting.decoder.head_packChunk _ hencodable]
    simp only
    rw [if_neg fun hlong => hsize hlong.2]
    rfl
  simp only [push, hhead, if_neg hchunked.named, ne_eq, not_true_eq_false, if_false,
    setting.decoder.chunk_packChunk _ hencodable]

theorem pushChunk_chunkOf (assembly : Assembly) :
    (∀ error, openTransfer setting assembly (chunkOf setting.sha256 requestId payload index) =
        .error error →
      pushChunk setting requestId assembly (chunkOf setting.sha256 requestId payload index) =
        (assembly, .error error)) ∧
    ∀ transfer used,
      openTransfer setting assembly (chunkOf setting.sha256 requestId payload index) =
        .ok (transfer, used) →
      pushChunk setting requestId assembly (chunkOf setting.sha256 requestId payload index) =
        appendChunk setting transfer used (chunkOf setting.sha256 requestId payload index) := by
  have hversion : ¬ (chunkOf setting.sha256 requestId payload index).version ≠
      ResponseChunks.ipcVersion := fun hother => hother rfl
  have hid : ¬ (chunkOf setting.sha256 requestId payload index).requestId ≠ requestId :=
    fun hother => hother rfl
  have hbounds := withinBounds_chunkOf hproduction hchunked hindex
  rw [pushChunk, if_neg hversion, if_neg hid, if_neg (not_not.2 hbounds)]
  constructor
  · intro error hopen
    rw [hopen]
  · intro transfer used hopen
    rw [hopen]

/-- What the next chunk of a response does to its assembler. -/
theorem push_chunkOf
    (hbudget : index = 0 → used + reservationOf payload.length ≤ setting.budgetLimit) :
    push setting requestId ⟨transferAfter setting.sha256 payload index, used⟩
        (packChunk (chunkOf setting.sha256 requestId payload index)) =
      appendChunk setting (transferAt setting.sha256 payload index) (used + charge payload index)
        (chunkOf setting.sha256 requestId payload index) := by
  rw [push_packChunk hproduction hchunked hindex]
  exact (pushChunk_chunkOf hproduction hchunked hindex _).2 _ _ (openTransfer_chunkOf hbudget)

end

/-- A transfer that does not fit the budget is refused with its first chunk. -/
theorem push_overBudget (hover : setting.budgetLimit < used + reservationOf payload.length) :
    push setting requestId ⟨none, used⟩ (packChunk (chunkOf setting.sha256 requestId payload 0)) =
      (⟨none, used⟩, .error .globalBudgetExceeded) := by
  have hfirst := Nat.zero_lt_of_lt hchunked.chunkCount_pos
  rw [push_packChunk hproduction hchunked hfirst]
  refine (pushChunk_chunkOf hproduction hchunked hfirst _).1 _ ?_
  have hrefused : used + reservationOf payload.length > setting.budgetLimit := hover
  simp [openTransfer, chunkOf, reserve, hrefused, Except.map]

end

end Chunks

/-! ## The worker's side of a connection -/

/-- A response the worker sends in one frame. -/
structure Whole (envelope : ResponseEnvelope) : Prop where
  named : envelope.requestId ≠ ""
  short : (utf8 envelope.requestId).length ≤ 3072
  small : (packEnvelope envelope).length ≤ maxFrameBytes

/-- A response within the limits: small enough for one frame, or for chunks. -/
def WithinLimits (envelope : ResponseEnvelope) : Prop :=
  Whole envelope ∨ Chunked envelope.requestId (packEnvelope envelope)

theorem writeFrames_eq_self
    (hframes : ∀ frame ∈ frames, frame.length ≤ maxFrameBytes) : writeFrames frames = frames := by
  rw [writeFrames, takeWhile_eq_self_iff]
  exact fun frame hframe => decide_eq_true (hframes frame hframe)

theorem frames_whole (sha256 : Bytes → Bytes) (accepts : Bool) (hwhole : Whole envelope) :
    writeResponseEnvelope sha256 accepts envelope = [packEnvelope envelope] := by
  rw [writeResponseEnvelope]
  simp only [if_pos hwhole.small]
  apply writeFrames_eq_self
  intro frame hframe
  rw [mem_singleton.1 hframe]
  exact hwhole.small

theorem frames_chunked (hproduction : Production setting)
    (hchunked : Chunked envelope.requestId (packEnvelope envelope)) :
    writeResponseEnvelope setting.sha256 true envelope =
      (List.range (chunkCountOf (packEnvelope envelope))).map fun index =>
        packChunk (chunkOf setting.sha256 envelope.requestId (packEnvelope envelope) index) := by
  have hlarge := hchunked.large.not_ge
  have hbounds : ¬ ((packEnvelope envelope).length > IpcResponses.maxChunkedIpcResponseBytes ∨
      chunkCountOf (packEnvelope envelope) > maxIpcResponseChunks) := by
    rintro (hlong | hmany)
    · exact hchunked.bounded.not_gt hlong
    · exact hchunked.count.not_gt hmany
  rw [writeResponseEnvelope]
  simp only [if_neg hlarge, Bool.true_eq_false, if_false, if_neg hbounds]
  apply writeFrames_eq_self
  intro frame hframe
  obtain ⟨index, -, rfl⟩ := mem_map.1 hframe
  refine (length_frame_le hproduction hchunked index).trans ?_
  rw [hproduction.limits]
  decide

/-- A connection with the responses it carries, and how much of each has been written. -/
structure Link where
  reader : Reader
  sent : String → ℕ

/-- The worker writes the next frame of a response, or a caller drops one. -/
inductive Turn where
  | write (requestId : String)
  | release (requestId : String)
  deriving DecidableEq

/-- Calls in flight with the responses the worker has for them. -/
structure Traffic where
  calls : List String
  envelope : String → ResponseEnvelope
  named : ∀ requestId ∈ calls, (envelope requestId).requestId = requestId
  within : ∀ requestId ∈ calls, WithinLimits (envelope requestId)

section Links

variable (setting : Setting) (traffic : Traffic)

def Traffic.payload (requestId : String) : Bytes :=
  packEnvelope (traffic.envelope requestId)

def framesOf (requestId : String) : List Bytes :=
  writeResponseEnvelope setting.sha256 true (traffic.envelope requestId)

variable (link : Link)

def turn : Turn → Option Link
  | .write requestId =>
    if requestId ∈ traffic.calls then
      ((framesOf setting traffic requestId)[link.sent requestId]?).map fun frame =>
        ⟨readFrame setting link.reader frame,
          Function.update link.sent requestId (link.sent requestId + 1)⟩
    else none
  | .release requestId => some ⟨release link.reader requestId, link.sent⟩

/-- A transfer that begins fits the budget. -/
def Affordable : Turn → Prop
  | .write requestId =>
    (traffic.payload requestId).length > maxFrameBytes → link.sent requestId = 0 →
      link.reader.used + reservationOf (traffic.payload requestId).length ≤ setting.budgetLimit
  | .release _ => True

/-- What the caller of a response gets. -/
def responseOf (payload : Bytes) : AssembledResponse :=
  if payload.length ≤ maxFrameBytes then ⟨payload, 0, none⟩
  else ⟨payload, reservationOf payload.length, some (chunkCountOf payload)⟩

/-- What is in flight for a call after some of its frames. -/
def inflightAfter (requestId : String) (sent : ℕ) : Option (Option TransferState) :=
  if sent < (framesOf setting traffic requestId).length then
    some (transferAfter setting.sha256 (traffic.payload requestId) sent)
  else none

def outcomesAfter (requestId : String) (sent : ℕ) :
    List (Except ResponseChunkError AssembledResponse) :=
  if sent < (framesOf setting traffic requestId).length then []
  else [.ok (responseOf (traffic.payload requestId))]

/-- How far each call has come is how much of its response has been written. -/
structure InStep : Prop where
  connected : link.reader.connected = true
  sent : ∀ requestId ∈ traffic.calls,
    link.sent requestId ≤ (framesOf setting traffic requestId).length
  inflight : ∀ requestId ∈ traffic.calls, link.reader.inflight.lookup requestId =
    inflightAfter setting traffic requestId (link.sent requestId)
  outcomes : ∀ requestId ∈ traffic.calls, outcomesOf link.reader requestId =
    outcomesAfter setting traffic requestId (link.sent requestId)

/-- A frame of a call changes that call only. -/
structure Advances (requestId : String) (sent : ℕ) (reader next : Reader) : Prop where
  connected : next.connected = true
  own : next.inflight.lookup requestId = inflightAfter setting traffic requestId (sent + 1)
  others : ∀ other, other ≠ requestId → next.inflight.lookup other = reader.inflight.lookup other
  outcomes : next.outcomes = reader.outcomes ++
    (outcomesAfter setting traffic requestId (sent + 1)).map fun outcome => (requestId, outcome)
  used : (traffic.payload requestId).length > maxFrameBytes →
    next.used = reader.used + charge (traffic.payload requestId) sent

end Links

section Steps

theorem readFrame_routed (setting : Setting) (hconnected : reader.connected = true)
    (hsize : frame.length ≤ maxFrameBytes) (hnamed : requestId ≠ "")
    (hroute : canonicalResponseFrameRoute frame = some (requestId, requiresChunkParser))
    (hinflight : reader.inflight.lookup requestId = some transfer) :
    readFrame setting reader frame = deliver reader requestId
        (pushRouted setting ⟨requestId, requiresChunkParser⟩ ⟨transfer, reader.used⟩ frame).1
        (pushRouted setting ⟨requestId, requiresChunkParser⟩ ⟨transfer, reader.used⟩ frame).2 := by
  have hok : responseFrameRoute setting frame = .ok ⟨requestId, requiresChunkParser⟩ := by
    rw [responseFrameRoute, hroute]
    exact if_neg hnamed
  rw [readFrame, hconnected, if_neg (by decide), if_neg hsize.not_gt, hok]
  simp only [hinflight]

theorem advances_whole (hin : InStep setting traffic link) (hcall : requestId ∈ traffic.calls)
    (hwhole : Whole (traffic.envelope requestId)) (hsent : link.sent requestId = 0) :
    framesOf setting traffic requestId = [traffic.payload requestId] ∧
      Advances setting traffic requestId 0 link.reader
        (readFrame setting link.reader (traffic.payload requestId)) := by
  have hname := traffic.named requestId hcall
  have hframes : framesOf setting traffic requestId = [traffic.payload requestId] :=
    frames_whole setting.sha256 true hwhole
  have hinflight : link.reader.inflight.lookup requestId = some none := by
    rw [hin.inflight requestId hcall, hsent, inflightAfter, hframes]
    rfl
  have hroute : canonicalResponseFrameRoute (traffic.payload requestId) =
      some (requestId, false) := by
    have hshort := hwhole.short
    rw [Traffic.payload, route_packEnvelope (by omega), hname]
  have hsmall : (traffic.payload requestId).length ≤ maxFrameBytes := hwhole.small
  have hread := readFrame_routed setting hin.connected hsmall (hname ▸ hwhole.named) hroute
    hinflight
  have hpush : pushRouted setting ⟨requestId, false⟩ ⟨none, link.reader.used⟩
      (traffic.payload requestId) =
        (⟨none, link.reader.used⟩, .ok (.complete ⟨traffic.payload requestId, 0, none⟩)) := rfl
  rw [hpush] at hread
  refine ⟨hframes, ?_⟩
  rw [hread]
  exact {
    connected := hin.connected
    own := by
      rw [inflightAfter, hframes]
      exact AList.lookup_erase _ _
    others := fun other hother => AList.lookup_erase_ne hother
    outcomes := by
      rw [outcomesAfter, hframes, responseOf, if_pos hsmall]
      rfl
    used := fun hlarge => absurd hsmall hlarge.not_ge }

section

variable (hproduction : Production setting)
include hproduction

theorem length_framesOf_chunked (hcall : requestId ∈ traffic.calls)
    (hchunked : Chunked requestId (traffic.payload requestId)) :
    (framesOf setting traffic requestId).length = chunkCountOf (traffic.payload requestId) ∧
      ∀ index, index < chunkCountOf (traffic.payload requestId) →
        (framesOf setting traffic requestId)[index]? =
          some (packChunk
            (chunkOf setting.sha256 requestId (traffic.payload requestId) index)) := by
  have hname := traffic.named requestId hcall
  have hframes := frames_chunked hproduction (show Chunked (traffic.envelope requestId).requestId
    (packEnvelope (traffic.envelope requestId)) from hname.symm ▸ hchunked)
  rw [hname] at hframes
  have hall : framesOf setting traffic requestId =
      (List.range (chunkCountOf (traffic.payload requestId))).map fun index =>
        packChunk (chunkOf setting.sha256 requestId (traffic.payload requestId) index) := hframes
  rw [hall]
  refine ⟨by simp, fun index hindex => ?_⟩
  rw [List.getElem?_map, List.getElem?_range hindex]
  rfl

section

variable (hin : InStep setting traffic link)
include hin

theorem advances_chunked (hcall : requestId ∈ traffic.calls)
    (hchunked : Chunked requestId (traffic.payload requestId))
    (haffordable : Affordable setting traffic link (.write requestId))
    (hsent : link.sent requestId < chunkCountOf (traffic.payload requestId)) :
    Advances setting traffic requestId (link.sent requestId) link.reader
      (readFrame setting link.reader (packChunk
        (chunkOf setting.sha256 requestId (traffic.payload requestId) (link.sent requestId)))) := by
  obtain ⟨hcount, -⟩ := length_framesOf_chunked hproduction hcall hchunked
  have hsize := (length_frame_le hproduction hchunked (link.sent requestId)).trans
    (show setting.limits.maxChunkFrameBytes ≤ maxFrameBytes by rw [hproduction.limits]; decide)
  have hroute := route_packChunk (chunkOf setting.sha256 requestId
    (traffic.payload requestId) (link.sent requestId)) rfl
    (encodable_chunkOf hproduction hchunked hsent).requestId
  have hinflight : link.reader.inflight.lookup requestId =
      some (transferAfter setting.sha256 (traffic.payload requestId) (link.sent requestId)) := by
    rw [hin.inflight requestId hcall, inflightAfter, hcount, if_pos hsent]
  have hread := readFrame_routed setting hin.connected hsize hchunked.named hroute hinflight
  have hpush : pushRouted setting ⟨requestId, true⟩ ⟨transferAfter setting.sha256
      (traffic.payload requestId) (link.sent requestId), link.reader.used⟩ (packChunk
        (chunkOf setting.sha256 requestId (traffic.payload requestId) (link.sent requestId))) = _ :=
    push_chunkOf hproduction hchunked hsent (haffordable hchunked.large)
  rw [hpush] at hread
  have hlarge : ¬ (traffic.payload requestId).length ≤ maxFrameBytes := hchunked.large.not_ge
  rw [hread]
  rcases Nat.lt_or_eq_of_le (Nat.succ_le_of_lt hsent) with hmore | hlast
  · rw [appendChunk_pending hchunked _ hmore]
    exact {
      connected := hin.connected
      own := by
        rw [inflightAfter, hcount, if_pos hmore, transferAfter, if_neg (Nat.succ_ne_zero _)]
        exact AList.lookup_insert _
      others := fun other hother => AList.lookup_insert_ne hother
      outcomes := by
        rw [outcomesAfter, hcount, if_pos hmore]
        exact (append_nil _).symm
      used := fun _ => rfl }
  · have hdone : ¬ link.sent requestId + 1 < chunkCountOf (traffic.payload requestId) :=
      hlast.ge.not_gt
    rw [appendChunk_complete hchunked _ hlast]
    exact {
      connected := hin.connected
      own := by
        rw [inflightAfter, hcount, if_neg hdone]
        exact AList.lookup_erase _ _
      others := fun other hother => AList.lookup_erase_ne hother
      outcomes := by
        rw [outcomesAfter, hcount, if_neg hdone, responseOf, if_neg hlarge]
        rfl
      used := fun _ => rfl }

/-- The next frame of a call advances it. -/
theorem advances_next (hcall : requestId ∈ traffic.calls)
    (haffordable : Affordable setting traffic link (.write requestId))
    (hframe : (framesOf setting traffic requestId)[link.sent requestId]? = some frame) :
    Advances setting traffic requestId (link.sent requestId) link.reader
      (readFrame setting link.reader frame) := by
  have hsent := (List.getElem?_eq_some_iff.1 hframe).1
  rcases traffic.within requestId hcall with hwhole | hchunked
  · have hlength : (framesOf setting traffic requestId).length = 1 := by
      rw [show framesOf setting traffic requestId = _ from frames_whole setting.sha256 true hwhole]
      rfl
    have hzero : link.sent requestId = 0 := by omega
    obtain ⟨hframes, hadvances⟩ := advances_whole hin hcall hwhole hzero
    rw [hframes, hzero] at hframe
    rw [hzero, ← some.inj hframe]
    exact hadvances
  · rw [traffic.named requestId hcall] at hchunked
    obtain ⟨hcount, hframes⟩ := length_framesOf_chunked hproduction hcall hchunked
    rw [hcount] at hsent
    have hnext := advances_chunked hproduction hin hcall hchunked haffordable hsent
    rw [hframes _ hsent] at hframe
    rwa [some.inj hframe] at hnext

theorem turn_inStep {next : Link} {event : Turn}
    (haffordable : Affordable setting traffic link event)
    (hturn : turn setting traffic link event = some next) : InStep setting traffic next := by
  cases event with
  | release released =>
    rw [turn, some.injEq] at hturn
    subst hturn
    obtain ⟨hconnected, hsent, hinflight, houtcomes⟩ := hin
    cases hheld : link.reader.held.lookup released with
    | none => simp only [release, hheld]; exact ⟨hconnected, hsent, hinflight, houtcomes⟩
    | some =>
      simp only [release, hheld]
      exact ⟨hconnected, hsent, hinflight, houtcomes⟩
  | write written =>
    rw [turn] at hturn
    split_ifs at hturn with hcall
    obtain ⟨frame, hframe, rfl⟩ := map_eq_some_iff.1 hturn
    have hadvances := advances_next hproduction hin hcall haffordable hframe
    have hbelow := (List.getElem?_eq_some_iff.1 hframe).1
    have hothers (other : String) (hother : other ≠ written) :
        outcomesOf (readFrame setting link.reader frame) other = outcomesOf link.reader other := by
      rw [outcomesOf, hadvances.outcomes, filter_append, outcomesOf]
      simp [filter_map, Function.comp_def, Ne.symm hother]
    have hown : outcomesOf (readFrame setting link.reader frame) written =
        outcomesOf link.reader written ++
          outcomesAfter setting traffic written (link.sent written + 1) := by
      rw [outcomesOf, hadvances.outcomes, filter_append, outcomesOf]
      simp [filter_map, Function.comp_def]
    refine ⟨hadvances.connected, ?_, ?_, ?_⟩
    · intro other hother
      by_cases hsame : other = written
      · simpa [hsame] using hbelow
      · simpa [hsame] using hin.sent other hother
    · intro other hother
      by_cases hsame : other = written
      · subst hsame
        simpa using hadvances.own
      · simpa [hsame, hadvances.others other hsame] using hin.inflight other hother
    · intro other hother
      by_cases hsame : other = written
      · subst hsame
        have hbefore := hin.outcomes other hother
        rw [outcomesAfter, if_pos hbelow] at hbefore
        rw [hown, hbefore]
        simp
      · simpa [hsame, hothers other hsame] using hin.outcomes other hother

end

end

/-- Every call is in flight, nothing of its response has been sent. -/
structure Fresh (traffic : Traffic) (reader : Reader) : Prop where
  connected : reader.connected = true
  inflight : ∀ requestId ∈ traffic.calls, reader.inflight.lookup requestId = some none
  outcomes : ∀ requestId ∈ traffic.calls, outcomesOf reader requestId = []

variable (hproduction : Production setting)
include hproduction

theorem framesOf_ne_nil (hcall : requestId ∈ traffic.calls) :
    0 < (framesOf setting traffic requestId).length := by
  rcases traffic.within requestId hcall with hwhole | hchunked
  · rw [show framesOf setting traffic requestId = _ from frames_whole setting.sha256 true hwhole]
    exact Nat.zero_lt_one
  · rw [traffic.named requestId hcall] at hchunked
    rw [(length_framesOf_chunked hproduction hcall hchunked).1]
    exact Nat.zero_lt_of_lt hchunked.chunkCount_pos

theorem inStep_fresh (hfresh : Fresh traffic reader) :
    InStep setting traffic ⟨reader, fun _ => 0⟩ where
  connected := hfresh.connected
  sent := fun _ _ => Nat.zero_le _
  inflight := by
    intro requestId hcall
    rw [hfresh.inflight requestId hcall, inflightAfter, if_pos (framesOf_ne_nil hproduction hcall)]
    rfl
  outcomes := by
    intro requestId hcall
    rw [hfresh.outcomes requestId hcall, outcomesAfter, if_pos (framesOf_ne_nil hproduction hcall)]

section

variable (hin : InStep setting traffic link) (hcall : requestId ∈ traffic.calls)
  (hchunked : Chunked requestId (traffic.payload requestId)) (hsent : link.sent requestId = 0)
include hin hcall hchunked hsent

/-- A response that does not fit the budget when it begins is lost. -/
theorem turn_overBudget (hover : setting.budgetLimit <
      link.reader.used + reservationOf (traffic.payload requestId).length) :
    ∃ next, turn setting traffic link (.write requestId) = some next ∧
      outcomesOf next.reader requestId = [.error .globalBudgetExceeded] := by
  let chunk := chunkOf setting.sha256 requestId (traffic.payload requestId) 0
  obtain ⟨hcount, hframes⟩ := length_framesOf_chunked hproduction hcall hchunked
  have hfirst := Nat.zero_lt_of_lt hchunked.chunkCount_pos
  have hsize := (length_frame_le hproduction hchunked 0).trans
    (show setting.limits.maxChunkFrameBytes ≤ maxFrameBytes by rw [hproduction.limits]; decide)
  have hroute := route_packChunk chunk rfl (encodable_chunkOf hproduction hchunked hfirst).requestId
  have hinflight : link.reader.inflight.lookup requestId = some none := by
    rw [hin.inflight requestId hcall, hsent, inflightAfter, hcount, if_pos hfirst]
    rfl
  have hnone : outcomesOf link.reader requestId = [] := by
    rw [hin.outcomes requestId hcall, hsent, outcomesAfter, hcount, if_pos hfirst]
  have hread := readFrame_routed setting hin.connected hsize hchunked.named hroute hinflight
  have hpush : pushRouted setting ⟨requestId, true⟩ ⟨none, link.reader.used⟩ (packChunk
      chunk) = _ :=
    push_overBudget hproduction hchunked hover
  rw [hpush] at hread
  refine ⟨⟨readFrame setting link.reader (packChunk chunk),
      Function.update link.sent requestId 1⟩, ?_, ?_⟩
  · rw [turn, if_pos hcall, hsent, hframes 0 hfirst]
    rfl
  · rw [hread, outcomesOf, deliver]
    simp only [filter_append, map_append]
    have hbefore : (link.reader.outcomes.filter fun outcome => outcome.1 = requestId).map
      Prod.snd = [] := hnone
    rw [hbefore]
    simp

/-- The first frame of a response in chunks charges the whole of it to the budget. -/
theorem turn_begins (haffordable : Affordable setting traffic link (.write requestId)) :
    ∃ next, turn setting traffic link (.write requestId) = some next ∧
      next.sent = Function.update link.sent requestId 1 ∧
      next.reader.used = link.reader.used + reservationOf (traffic.payload requestId).length := by
  obtain ⟨frame, hframe⟩ : ∃ frame, (framesOf setting traffic requestId)[0]? = some frame :=
    ⟨_, (length_framesOf_chunked hproduction hcall hchunked).2 0
      (Nat.zero_lt_of_lt hchunked.chunkCount_pos)⟩
  have hadvances := advances_next hproduction hin hcall haffordable (hsent.symm ▸ hframe)
  refine ⟨⟨readFrame setting link.reader frame, Function.update link.sent requestId 1⟩, ?_, rfl, ?_⟩
  · rw [turn, if_pos hcall, hsent, hframe]
    rfl
  · rw [hadvances.used hchunked.large, charge, if_pos hsent]

end

/-- Two responses each of which fits the budget, but not both. -/
theorem run_overBudget (hfresh : Fresh traffic reader) {first second : String}
    (hother : second ≠ first) (hfirst : first ∈ traffic.calls) (hsecond : second ∈ traffic.calls)
    (hchunkedFirst : Chunked first (traffic.payload first))
    (hchunkedSecond : Chunked second (traffic.payload second))
    (hfits : reader.used + reservationOf (traffic.payload first).length ≤ setting.budgetLimit)
    (hover : setting.budgetLimit < reader.used + reservationOf (traffic.payload first).length +
      reservationOf (traffic.payload second).length) :
    ∃ final, Runs.run (turn setting traffic) ⟨reader, fun _ => 0⟩
        [.write first, .write second] = some final ∧
      outcomesOf final.reader second = [.error .globalBudgetExceeded] := by
  have hstart := inStep_fresh hproduction hfresh
  have haffordable : Affordable setting traffic ⟨reader, fun _ => 0⟩ (.write first) :=
    fun _ _ => hfits
  obtain ⟨middle, hbegins, hsent, hused⟩ :=
    turn_begins hproduction hstart hfirst hchunkedFirst rfl haffordable
  have hmiddle := turn_inStep hproduction hstart haffordable hbegins
  have hwaiting : middle.sent second = 0 := by
    rw [hsent, Function.update_of_ne hother]
  have hfull : setting.budgetLimit <
      middle.reader.used + reservationOf (traffic.payload second).length := by
    rw [hused]
    exact hover
  obtain ⟨final, hrefused, houtcome⟩ :=
    turn_overBudget hproduction hmiddle hsecond hchunkedSecond hwaiting hfull
  refine ⟨final, (Runs.run_cons_eq_some _ _ _ _ _).2 ⟨middle, hbegins, ?_⟩, houtcome⟩
  exact (Runs.run_cons_eq_some _ _ _ _ _).2 ⟨final, hrefused, rfl⟩

/-- In every interleaving, a call has its whole response once all its frames are written,
and nothing before. -/
theorem run_outcomes (hfresh : Fresh traffic reader) {turns : List Turn} {final : Link}
    (haffordable : Runs.Guarded (turn setting traffic) (Affordable setting traffic)
      ⟨reader, fun _ => 0⟩ turns)
    (hrun : Runs.run (turn setting traffic) ⟨reader, fun _ => 0⟩ turns = some final)
    (hcall : requestId ∈ traffic.calls) :
    outcomesOf final.reader requestId =
      outcomesAfter setting traffic requestId (final.sent requestId) :=
  (Runs.guarded_invariant (InStep setting traffic)
    (fun _ _ _ hin haffordable hturn => turn_inStep hproduction hin haffordable hturn)
    (inStep_fresh hproduction hfresh) haffordable hrun).outcomes requestId hcall

end Steps

end SieCluster.ResponseRoundTrip
