import SieCluster.Gateway.ChunkDelivery
import SieCluster.Sidecar.ResponseSoundness

/-!
# Responses across the connection

What the worker writes and what the sidecar hands over, for any interleaving of
the responses of one connection and for any frames at all.
-/

namespace SieCluster.ResponseDelivery

open Msgpack ResponseChunks ResponseReader List
open ResponseRoundTrip ResponseSoundness
open ChunkDelivery (textField bytesField numberField numberField_eq_some)
open IpcResponses hiding ipcVersion maxChunkedIpcResponseBytes

/-! ## Decoding named fields -/

def decodeHead (frame : Bytes) : Option ResponseFrameHead := do
  let record ← readRecord frame
  return ⟨textField record "kind", (textField record "request_id").getD ""⟩

def decodeChunk (frame : Bytes) : Option IpcResponseChunkV1 := do
  let record ← readRecord frame
  let version ← numberField record 32 "version"
  let requestId ← textField record "request_id"
  let transferDigest ← bytesField record "transfer_digest"
  let chunkIndex ← numberField record 32 "chunk_index"
  let chunkCount ← numberField record 32 "chunk_count"
  let totalBytes ← numberField record 64 "total_bytes"
  let payload ← bytesField record "payload"
  let kind ← textField record "kind"
  return {
    version := version
    requestId := requestId
    transferDigest := transferDigest
    chunkIndex := chunkIndex
    chunkCount := chunkCount
    totalBytes := totalBytes
    payload := payload
    kind := kind }

theorem readRecord_packChunk {chunk : IpcResponseChunkV1} (hencodable : Encodable chunk) :
    readRecord (packChunk chunk) = some (chunkRecord chunk) := by
  have hnames : ∀ name ∈ ["version", "request_id", "transfer_digest", "chunk_index",
      "chunk_count", "total_bytes", "payload", "kind"], (utf8 name).length < 2 ^ 32 := by
    decide
  refine readRecord_writeRecord (by simp [chunkRecord])
    fun field hfield => ⟨hnames _ (mem_map_of_mem hfield), ?_⟩
  simp only [chunkRecord, mem_cons, not_mem_nil, or_false] at hfield
  obtain rfl | rfl | rfl | rfl | rfl | rfl | rfl | rfl := hfield
  · exact hencodable.version.trans (by decide)
  · exact hencodable.requestId
  · exact hencodable.transferDigest
  · exact hencodable.chunkIndex.trans (by decide)
  · exact hencodable.chunkCount.trans (by decide)
  · exact hencodable.totalBytes
  · exact hencodable.payload
  · exact hencodable.kind

/-- A deserializer of maps of scalars. -/
def recordDecoder : Decoder where
  head := decodeHead
  chunk := decodeChunk
  head_packChunk := by
    intro packed hencodable
    simp only [decodeHead, readRecord_packChunk hencodable]
    rfl
  chunk_packChunk := by
    intro packed hencodable
    have hversion : numberField (chunkRecord packed) 32 "version" = some packed.version :=
      numberField_eq_some rfl hencodable.version
    have hindex : numberField (chunkRecord packed) 32 "chunk_index" = some packed.chunkIndex :=
      numberField_eq_some rfl hencodable.chunkIndex
    have hcount : numberField (chunkRecord packed) 32 "chunk_count" = some packed.chunkCount :=
      numberField_eq_some rfl hencodable.chunkCount
    have htotal : numberField (chunkRecord packed) 64 "total_bytes" = some packed.totalBytes :=
      numberField_eq_some rfl hencodable.totalBytes
    simp only [decodeChunk, readRecord_packChunk hencodable, Option.bind_eq_bind,
      Option.bind_some, hversion, hindex, hcount, htotal]
    rfl

/-! ## Both directions -/

/-- While every transfer fits the budget when it begins, each call gets its own response
once all its frames are written and nothing before, in every interleaving.  Whatever the
frames are, a call gets at most one outcome, and bytes only for one whole response. -/
theorem responses_delivered {setting : Setting} (hproduction : Production setting) :
    (∀ (traffic : Traffic) (reader : Reader) (turns : List Turn) (final : Link),
      Fresh traffic reader →
      Runs.Guarded (turn setting traffic) (Affordable setting traffic) ⟨reader, fun _ => 0⟩ turns →
      Runs.run (turn setting traffic) ⟨reader, fun _ => 0⟩ turns = some final →
      ∀ requestId ∈ traffic.calls, outcomesOf final.reader requestId =
        if final.sent requestId < (framesOf setting traffic requestId).length then []
        else [.ok (responseOf (traffic.payload requestId))]) ∧
    ∀ (requestId : String) (reader : Reader) (frames : List Bytes),
      reader.inflight.lookup requestId = some none → outcomesOf reader requestId = [] →
      Tracked setting requestId frames (frames.foldl (readFrame setting) reader) := by
  constructor
  · intro traffic reader turns final hfresh haffordable hrun requestId hcall
    exact run_outcomes hproduction hfresh haffordable hrun hcall
  · intro requestId reader frames hinflight houtcomes
    exact readFrames_tracked hinflight houtcomes frames

/-- The production bounds with a given digest. -/
def productionSetting (sha256 : Bytes → Bytes) : Setting where
  decoder := recordDecoder
  sha256 := sha256
  limits := .production
  budgetLimit := maxGlobalIpcResponseAssemblyBytes

/-- A digest of the right length. -/
def zeroDigest (_ : Bytes) : Bytes :=
  List.replicate 32 0

theorem production_zeroDigest : Production (productionSetting zeroDigest) where
  limits := rfl
  digest := fun _ => rfl

def pairCalls : List String := ["mw-1", "mw-2"]

/-- Two calls that wait. -/
def waitingReader : Reader where
  inflight := ((∅ : Totals.Table String (Option TransferState)).insert "mw-1" none).insert
    "mw-2" none
  used := 0
  held := ∅
  outcomes := []
  connected := true

theorem length_packEnvelope (hcall : requestId ∈ pairCalls) (rest : Bytes) :
    (packEnvelope ⟨requestId, rest⟩).length = 29 + rest.length := by
  have hsplit : (packEnvelope ⟨requestId, rest⟩).length =
      (packEnvelope ⟨requestId, []⟩).length + rest.length := by
    simp only [packEnvelope, length_append, length_nil, Nat.add_zero]
  have hhead : ∀ call ∈ pairCalls, (packEnvelope ⟨call, []⟩).length = 29 := by decide +kernel
  rw [hsplit, hhead requestId hcall]

theorem withinLimits_pair (hrest : rest.length ≤ 64 * 1024 * 1024)
    (requestId : String) (hcall : requestId ∈ pairCalls) : WithinLimits ⟨requestId, rest⟩ := by
  have hnamed : requestId ≠ "" := by
    rintro rfl
    exact absurd hcall (by decide)
  have hshort : ∀ call ∈ pairCalls, (utf8 call).length ≤ 3072 := by decide
  have hlength := length_packEnvelope hcall rest
  by_cases hsmall : (packEnvelope ⟨requestId, rest⟩).length ≤ maxFrameBytes
  · exact .inl ⟨hnamed, hshort _ hcall, hsmall⟩
  · refine .inr ⟨hnamed, hshort _ hcall, not_le.1 hsmall, ?_, ?_⟩
    · rw [hlength, IpcResponses.maxChunkedIpcResponseBytes]
      omega
    · rw [chunkCountOf, hlength, ipcResponseChunkPayloadBytes, maxIpcResponseChunks]
      omega

/-- The calls get responses that end in the given bytes. -/
def pairTraffic (rest : String → Bytes)
    (hrest : ∀ requestId, (rest requestId).length ≤ 64 * 1024 * 1024) : Traffic where
  calls := pairCalls
  envelope := fun requestId => ⟨requestId, rest requestId⟩
  named := fun _ _ => rfl
  within := fun requestId => withinLimits_pair (hrest requestId) requestId

section

variable {rest : String → Bytes}
  {hrest : ∀ requestId, (rest requestId).length ≤ 64 * 1024 * 1024}

theorem fresh_waitingReader : Fresh (pairTraffic rest hrest) waitingReader where
  connected := rfl
  inflight := by
    have hboth : ∀ call ∈ pairCalls, waitingReader.inflight.lookup call = some none := by decide
    exact hboth
  outcomes := fun _ _ => rfl

theorem chunked_pair (hcall : requestId ∈ pairCalls)
    (hlarge : (rest requestId).length = size) (hsize : maxFrameBytes < 29 + size) :
    Chunked requestId ((pairTraffic rest hrest).payload requestId) ∧
      ((pairTraffic rest hrest).payload requestId).length = 29 + size := by
  have hlength : ((pairTraffic rest hrest).payload requestId).length = 29 + size := by
    rw [← hlarge]
    exact length_packEnvelope hcall _
  refine ⟨?_, hlength⟩
  rcases withinLimits_pair (hrest requestId) requestId hcall with hwhole | hchunked
  · exact absurd hwhole.small (hlength ▸ hsize.not_ge)
  · exact hchunked

end

/-- Frames of responses that fit one frame, or have begun, need no room in the budget. -/
theorem run_begun {setting : Setting} {traffic : Traffic} {writes : List String} {link : Link}
    (hcalls : ∀ requestId ∈ writes, requestId ∈ traffic.calls)
    (hframes : ∀ requestId ∈ writes, link.sent requestId + writes.count requestId ≤
      (framesOf setting traffic requestId).length)
    (hbegun : ∀ requestId ∈ writes, (traffic.payload requestId).length > maxFrameBytes →
      link.sent requestId ≠ 0) :
    Runs.Guarded (turn setting traffic) (Affordable setting traffic) link (writes.map .write) ∧
      ∃ final, Runs.run (turn setting traffic) link (writes.map .write) = some final ∧
        ∀ requestId, final.sent requestId = link.sent requestId + writes.count requestId := by
  induction writes generalizing link with
  | nil => exact ⟨trivial, link, rfl, fun _ => rfl⟩
  | cons first writes ih =>
    obtain ⟨hcall, hcalls⟩ := forall_mem_cons.1 hcalls
    obtain ⟨hnow, hlater⟩ := forall_mem_cons.1 hbegun
    obtain ⟨hfirst, hframes⟩ := forall_mem_cons.1 hframes
    rw [count_cons_self] at hfirst
    obtain ⟨next, hturn, hsent⟩ : ∃ next, turn setting traffic link (.write first) = some next ∧
        ∀ requestId, next.sent requestId = link.sent requestId + [first].count requestId := by
      rw [turn, if_pos hcall, getElem?_eq_getElem (by omega)]
      refine ⟨_, rfl, fun requestId => ?_⟩
      by_cases hsame : requestId = first
      · simp [hsame]
      · simp [hsame, Ne.symm hsame]
    have hcount : ∀ requestId, next.sent requestId + writes.count requestId =
        link.sent requestId + (first :: writes).count requestId := by
      intro requestId
      rw [hsent, Nat.add_assoc, ← count_append, singleton_append]
    obtain ⟨hguarded, final, hrun, hfinal⟩ := ih hcalls
      (fun requestId hmem => (hcount requestId).trans_le (hframes requestId hmem))
      fun requestId hmem hlarge => by
        have hpos := hlater requestId hmem hlarge
        rw [hsent]
        omega
    refine ⟨⟨fun hlarge hzero => absurd hzero (hnow hlarge), fun other hother => ?_⟩, final,
      (Runs.run_cons_eq_some _ _ _ _ _).2 ⟨next, hturn, hrun⟩,
      fun requestId => (hfinal requestId).trans (hcount requestId)⟩
    cases hturn.symm.trans hother
    exact hguarded

/-- A response in nine chunks and one in a single frame. -/
def mixedRest (requestId : String) : Bytes :=
  List.replicate (if requestId = "mw-1" then 32 * 1024 * 1024 else 1) 0xc3

def mixedTraffic : Traffic :=
  pairTraffic mixedRest fun requestId => by
    rw [mixedRest, length_replicate]
    split <;> decide

/-- The other response is written between the chunks. -/
def interleaved : List String :=
  "mw-1" :: "mw-2" :: List.replicate 7 "mw-1"

theorem responses_delivered_pair : Production (productionSetting zeroDigest) ∧
      ∃ final, Runs.run (turn (productionSetting zeroDigest) mixedTraffic)
          ⟨waitingReader, fun _ => 0⟩ (.write "mw-1" :: interleaved.map .write) = some final ∧
        (framesOf (productionSetting zeroDigest) mixedTraffic "mw-1").length = 9 ∧
        ∀ requestId ∈ pairCalls, outcomesOf final.reader requestId =
          [.ok (responseOf (mixedTraffic.payload requestId))] := by
  have hrest : (mixedRest "mw-1").length = 32 * 1024 * 1024 := by
    rw [mixedRest, length_replicate, if_pos rfl]
  have hfirst : "mw-1" ∈ pairCalls := by decide
  obtain ⟨hchunked, hlength⟩ : Chunked "mw-1" (mixedTraffic.payload "mw-1") ∧
      (mixedTraffic.payload "mw-1").length = _ := chunked_pair hfirst hrest (by decide)
  obtain ⟨hnine, -⟩ := length_framesOf_chunked production_zeroDigest hfirst hchunked
  rw [chunkCountOf, hlength] at hnine
  have hfits : Affordable (productionSetting zeroDigest) mixedTraffic
      ⟨waitingReader, fun _ => 0⟩ (.write "mw-1") := by
    intro _ _
    rw [hlength]
    decide
  have hfresh : Fresh mixedTraffic waitingReader := fresh_waitingReader
  obtain ⟨next, hturn, hsent, -⟩ := turn_begins production_zeroDigest
    (inStep_fresh production_zeroDigest hfresh) hfirst hchunked rfl hfits
  have hframes : ∀ requestId ∈ pairCalls, next.sent requestId + interleaved.count requestId =
      (framesOf (productionSetting zeroDigest) mixedTraffic requestId).length := by
    simp only [pairCalls, forall_mem_cons, hnine, hsent]
    decide +kernel
  have hcalls : ∀ requestId ∈ interleaved, requestId ∈ pairCalls := by decide
  obtain ⟨hguarded, final, hrun, hfinal⟩ := run_begun hcalls
    (fun requestId hmem => (hframes requestId (hcalls _ hmem)).le) fun requestId hmem hlarge => by
      rcases (by decide : ∀ call ∈ interleaved, call = "mw-1" ∨ call = "mw-2") _ hmem with
        rfl | rfl
      · simp [hsent]
      · exact absurd hlarge (by decide +kernel)
  have hwhole := (Runs.run_cons_eq_some _ _ _ _ _).2 ⟨next, hturn, hrun⟩
  have hall : Runs.Guarded (turn (productionSetting zeroDigest) mixedTraffic)
      (Affordable (productionSetting zeroDigest) mixedTraffic) ⟨waitingReader, fun _ => 0⟩
      (.write "mw-1" :: interleaved.map .write) := by
    refine ⟨hfits, fun other hother => ?_⟩
    cases hturn.symm.trans hother
    exact hguarded
  refine ⟨production_zeroDigest, final, hwhole, hnine, fun requestId hcall => ?_⟩
  rw [(responses_delivered production_zeroDigest).1 mixedTraffic waitingReader _ final hfresh
    hall hwhole requestId hcall, hfinal, hframes requestId hcall, if_neg (lt_irrefl _)]

/-- Two responses of 64 MiB each. -/
def largeTraffic : Traffic :=
  pairTraffic (fun _ => List.replicate (64 * 1024 * 1024) 0) fun _ => length_replicate.le

theorem chunked_largeTraffic (hcall : requestId ∈ pairCalls) :
    Chunked requestId (largeTraffic.payload requestId) ∧
      (largeTraffic.payload requestId).length = 29 + 64 * 1024 * 1024 :=
  chunked_pair hcall length_replicate (by decide)

/-- A map of three entries; the worker's responses have five. -/
def foreignFrame : Bytes :=
  writeMapLen 3 ++ writeField ("version", .uint 1) ++ writeField ("request_id", .str "mw-1") ++
    writeScalar (.str "ok") ++ [0xc3]

/-- Every frame the worker writes is a map of five or of eight entries. -/
theorem head_of_mem_writeResponseEnvelope
    (hframe : frame ∈ writeResponseEnvelope sha256 accepts envelope) :
    frame.head? = some 0x85 ∨ frame.head? = some 0x88 := by
  have hwritten {frames : List Bytes} (hmem : frame ∈ writeFrames frames) : frame ∈ frames :=
    (takeWhile_sublist _).subset hmem
  have hwhole {whole : ResponseEnvelope} (hmem : frame ∈ writeFrames [packEnvelope whole]) :
      frame.head? = some 0x85 ∨ frame.head? = some 0x88 := by
    rw [mem_singleton.1 (hwritten hmem)]
    exact .inl rfl
  unfold writeResponseEnvelope at hframe
  dsimp only at hframe
  split_ifs at hframe
  · exact hwhole hframe
  · exact hwhole hframe
  · exact hwhole hframe
  · obtain ⟨index, -, rfl⟩ := mem_map.1 (hwritten hframe)
    exact .inr rfl

/-- The budget has no room for a second large response while the first is being sent, and
a whole response in one frame is not checked against the worker's layout. -/
theorem largePair_refused : (∃ final, Runs.run (turn (productionSetting zeroDigest) largeTraffic)
        ⟨waitingReader, fun _ => 0⟩ [.write "mw-1", .write "mw-2"] = some final ∧
      outcomesOf final.reader "mw-2" = [.error .globalBudgetExceeded]) ∧
    outcomesOf (readFrame (productionSetting zeroDigest) waitingReader foreignFrame) "mw-1" =
      [.ok ⟨foreignFrame, 0, none⟩] ∧
    ∀ sha256 accepts envelope, foreignFrame ∉ writeResponseEnvelope sha256 accepts envelope := by
  have hfirst : "mw-1" ∈ pairCalls := by decide
  have hsecond : "mw-2" ∈ pairCalls := by decide
  refine ⟨?_, by decide +kernel, fun sha256 accepts envelope hframe => ?_⟩
  · obtain ⟨hchunkedFirst, hlengthFirst⟩ := chunked_largeTraffic hfirst
    obtain ⟨hchunkedSecond, hlengthSecond⟩ := chunked_largeTraffic hsecond
    have hfresh : Fresh largeTraffic waitingReader := fresh_waitingReader
    refine run_overBudget production_zeroDigest hfresh (by decide) hfirst hsecond hchunkedFirst
      hchunkedSecond ?_ ?_
    · rw [hlengthFirst]
      decide
    · rw [hlengthFirst, hlengthSecond]
      decide
  · exact absurd (head_of_mem_writeResponseEnvelope hframe) (by decide +kernel)

end SieCluster.ResponseDelivery
