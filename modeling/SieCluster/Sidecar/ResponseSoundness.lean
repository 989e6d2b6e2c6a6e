import SieCluster.Core.Fallible
import SieCluster.Sidecar.ResponseRoundTrip

/-!
# What a call that gets bytes was sent

Over arbitrary frames, a call gets at most one outcome, and bytes only when the
frames that name it are one whole response.
-/

namespace SieCluster.ResponseSoundness

open Msgpack ResponseChunks ResponseReader List
open IpcResponses (IpcResponseChunkV1 chunkKind)

/-- The chunk continues the transfer. -/
structure Continues (transfer : TransferState) (chunk : IpcResponseChunkV1) : Prop where
  chunkCount : chunk.chunkCount = transfer.chunkCount
  totalBytes : chunk.totalBytes = transfer.totalBytes
  digest : chunk.transferDigest = transfer.digest
  index : chunk.chunkIndex = transfer.nextIndex

/-- The chunks of a call so far: its own, numbered from 0, and all of one layout. -/
structure InOrder (requestId : String) (chunks : List IpcResponseChunkV1)
    (chunkCount totalBytes : ℕ) (digest : Bytes) : Prop where
  own : ∀ chunk ∈ chunks, chunk.version = 1 ∧ chunk.requestId = requestId
  numbered : chunks.map IpcResponseChunkV1.chunkIndex = List.range chunks.length
  layout : ∀ chunk ∈ chunks, chunk.chunkCount = chunkCount ∧ chunk.totalBytes = totalBytes ∧
    chunk.transferDigest = digest

section Sound

variable (setting : Setting)

/-- The frames of a call that are in its assembler. -/
def Collected (requestId : String) (frames : List Bytes) : Option TransferState → Prop
  | none => frames = []
  | some transfer => ∃ chunks : List IpcResponseChunkV1,
      frames.map setting.decoder.chunk = chunks.map some ∧
      InOrder requestId chunks transfer.chunkCount transfer.totalBytes transfer.digest ∧
      chunks.length = transfer.nextIndex ∧
      chunks.flatMap IpcResponseChunkV1.payload = transfer.bytes

/-- A frame that is a whole response, not a chunk of one. -/
def Unchunked (frame : Bytes) : Prop :=
  (∃ requestId, canonicalResponseFrameRoute frame = some (requestId, false)) ∨
    ∃ head, responseFrameHead setting frame = .ok head ∧ head.kind ≠ some chunkKind

/-- The frames of a call are one whole response: a single frame that is no chunk, or all
the chunks of a transfer, of the announced number, length and digest. -/
def Delivers (requestId : String) (frames : List Bytes) (bytes : Bytes) : Prop :=
  frames = [bytes] ∧ Unchunked setting bytes ∨
    ∃ (chunks : List IpcResponseChunkV1) (digest : Bytes),
      frames.map setting.decoder.chunk = chunks.map some ∧
      InOrder requestId chunks chunks.length bytes.length digest ∧
      chunks.flatMap IpcResponseChunkV1.payload = bytes ∧ setting.sha256 bytes = digest

variable {setting} {assembly : Assembly}

theorem InOrder.append
    (hchunks : InOrder requestId chunks transfer.chunkCount transfer.totalBytes transfer.digest)
    (hlength : chunks.length = transfer.nextIndex) (hversion : chunk.version = 1)
    (hid : chunk.requestId = requestId) (hcontinues : Continues transfer chunk) :
    InOrder requestId (chunks ++ [chunk]) transfer.chunkCount transfer.totalBytes
      transfer.digest where
  own := by
    refine forall_mem_append.2 ⟨hchunks.own, forall_mem_singleton.2 ?_⟩
    exact ⟨hversion, hid⟩
  numbered := by
    simp [hchunks.numbered, hcontinues.index, hlength, range_succ]
  layout := by
    refine forall_mem_append.2 ⟨hchunks.layout, forall_mem_singleton.2 ?_⟩
    exact ⟨hcontinues.chunkCount, hcontinues.totalBytes, hcontinues.digest⟩

/-- When appending a chunk succeeds, the chunk continues the transfer. -/
theorem appendChunk_eq_ok (happend : (appendChunk setting transfer used chunk).2 = .ok status) :
    Continues transfer chunk ∧ (status = .pending ∧ (appendChunk setting transfer used chunk).1 =
          ⟨some (transfer.extend chunk.payload), used⟩ ∨
        ∃ response, status = .complete response ∧
          response.bytes = (transfer.extend chunk.payload).bytes ∧
          transfer.nextIndex + 1 = transfer.chunkCount ∧
          response.bytes.length = transfer.totalBytes ∧
          setting.sha256 response.bytes = transfer.digest) := by
  unfold appendChunk at happend ⊢
  dsimp only at happend ⊢
  split_ifs at happend ⊢ with hlayout horder hroom hmore hfull hwhole hdigest
  · simp only [not_or, ne_eq, not_not] at hlayout horder
    refine ⟨⟨hlayout.1, hlayout.2.1, hlayout.2.2, horder⟩, .inl ⟨?_, rfl⟩⟩
    exact (Except.ok.inj happend).symm
  · simp only [not_or, ne_eq, not_not] at hlayout horder hwhole hdigest
    refine ⟨⟨hlayout.1, hlayout.2.1, hlayout.2.2, horder⟩, .inr ⟨_,
      (Except.ok.inj happend).symm, rfl, hwhole.1, hwhole.2, hdigest⟩⟩

section

variable (hcollected : Collected setting requestId frames assembly.transfer)
include hcollected

theorem openTransfer_collected
    (hopen : openTransfer setting assembly chunk = .ok (transfer, used)) :
    Collected setting requestId frames (some transfer) := by
  cases htransfer : assembly.transfer with
  | some =>
    simp only [openTransfer, htransfer, Except.ok.injEq, Prod.mk.injEq] at hopen
    rw [htransfer] at hcollected
    exact hopen.1 ▸ hcollected
  | none =>
    rw [htransfer] at hcollected
    rw [show frames = [] from hcollected]
    simp only [openTransfer, htransfer] at hopen
    split_ifs at hopen
    obtain ⟨reserved, -, hfresh⟩ := Fallible.map_eq_ok.1 hopen
    obtain ⟨rfl, -⟩ := Prod.mk.inj hfresh
    exact ⟨[], rfl, ⟨by simp, rfl, by simp⟩, rfl, rfl⟩

theorem pushChunk_sound (hdecode : setting.decoder.chunk frame = some chunk)
    (hpush : (pushChunk setting requestId assembly chunk).2 = .ok status) :
    status = .pending ∧ Collected setting requestId (frames ++ [frame])
        (pushChunk setting requestId assembly chunk).1.transfer ∨
      ∃ response, status = .complete response ∧
        Delivers setting requestId (frames ++ [frame]) response.bytes := by
  unfold pushChunk at hpush ⊢
  split_ifs at hpush ⊢ with hversion hid hbounds
  cases hopen : openTransfer setting assembly chunk with
  | error => simp [hopen] at hpush
  | ok opened =>
    obtain ⟨transfer, used⟩ := opened
    simp only [hopen] at hpush ⊢
    obtain ⟨chunks, hframes, hchunks, hlength, hbytes⟩ :=
      openTransfer_collected hcollected hopen
    obtain ⟨hcontinues, hstatus⟩ := appendChunk_eq_ok hpush
    have hdecoded : (frames ++ [frame]).map setting.decoder.chunk =
        (chunks ++ [chunk]).map some := by
      simp [hframes, hdecode]
    have hextended := hchunks.append hlength (not_not.1 hversion) (not_not.1 hid) hcontinues
    have hpayload : (chunks ++ [chunk]).flatMap IpcResponseChunkV1.payload =
        (transfer.extend chunk.payload).bytes := by
      simp [hbytes, TransferState.extend]
    rcases hstatus with ⟨rfl, hnext⟩ | ⟨response, rfl, hresponse, hcount, htotal, hdigest⟩
    · left
      refine ⟨rfl, ?_⟩
      rw [hnext]
      exact ⟨chunks ++ [chunk], hdecoded, hextended, by simp [hlength, TransferState.extend],
        hpayload⟩
    · right
      refine ⟨response, rfl, .inr ⟨chunks ++ [chunk], transfer.digest, hdecoded, ?_,
        hpayload.trans hresponse.symm, hdigest⟩⟩
      have hlast : (chunks ++ [chunk]).length = transfer.chunkCount := by
        simp [hlength, hcount]
      rw [hlast, htotal]
      exact hextended

theorem pushLegacy_sound (hunchunked : Unchunked setting frame)
    (hpush : (pushLegacy assembly frame).2 = .ok status) :
    ∃ response, status = .complete response ∧
      Delivers setting requestId (frames ++ [frame]) response.bytes := by
  unfold pushLegacy at hpush
  split_ifs at hpush with hgoing
  have hnone : assembly.transfer = none := Option.not_isSome_iff_eq_none.1 hgoing
  rw [hnone] at hcollected
  refine ⟨_, (Except.ok.inj hpush).symm, .inl ⟨?_, hunchunked⟩⟩
  rw [show frames = [] from hcollected]
  rfl

end

/-- The route a frame takes past the chunk parser. -/
theorem unchunked_of_route (hroute : responseFrameRoute setting frame = .ok route)
    (hparser : ¬ route.requiresChunkParser = true) : Unchunked setting frame := by
  unfold responseFrameRoute namedRoute at hroute
  cases hcanonical : canonicalResponseFrameRoute frame with
  | some found =>
    obtain ⟨requestId, requiresChunkParser⟩ := found
    simp only [hcanonical] at hroute
    split_ifs at hroute
    cases hroute
    have hlegacy : requiresChunkParser = false := Bool.eq_false_of_not_eq_true hparser
    exact .inl ⟨requestId, hlegacy ▸ hcanonical⟩
  | none =>
    simp only [hcanonical] at hroute
    obtain ⟨head, hhead, hnamed⟩ := Fallible.bind_eq_ok.1 hroute
    split_ifs at hnamed
    cases hnamed
    exact .inr ⟨head, hhead, by simpa using hparser⟩

/-- A frame that is taken in is collected with the frames before it, or completes one
response with them. -/
theorem pushRouted_sound (hroute : responseFrameRoute setting frame = .ok route)
    (hcollected : Collected setting route.requestId frames assembly.transfer)
    (hpush : (pushRouted setting route assembly frame).2 = .ok status) :
    status = .pending ∧ Collected setting route.requestId (frames ++ [frame])
        (pushRouted setting route assembly frame).1.transfer ∨
      ∃ response, status = .complete response ∧
        Delivers setting route.requestId (frames ++ [frame]) response.bytes := by
  unfold pushRouted at hpush ⊢
  split_ifs at hpush ⊢ with hparser
  · unfold push at hpush ⊢
    cases hhead : responseFrameHead setting frame with
    | error => simp [hhead] at hpush
    | ok head =>
      simp only [hhead] at hpush ⊢
      split_ifs at hpush ⊢ with hnamed hid hkind
      · exact .inr (pushLegacy_sound hcollected (.inr ⟨head, hhead, hkind⟩) hpush)
      · cases hdecode : setting.decoder.chunk frame with
        | none => simp [hdecode] at hpush
        | some =>
          simp only [hdecode] at hpush ⊢
          exact pushChunk_sound hcollected hdecode hpush
  · exact .inr (pushLegacy_sound hcollected (unchunked_of_route hroute hparser) hpush)

/-! ### Any frames -/

def namesCall (setting : Setting) (requestId : String) (frame : Bytes) : Bool :=
  match responseFrameRoute setting frame with
  | .ok route => route.requestId = requestId
  | .error _ => false

/-- The frames that name a call. -/
def routedTo (setting : Setting) (requestId : String) (frames : List Bytes) : List Bytes :=
  frames.filter (namesCall setting requestId)

/-- A call in flight holds the frames sent to it; one that is over got one outcome, and
bytes only for one whole response. -/
def Tracked (setting : Setting) (requestId : String) (frames : List Bytes) (reader : Reader) :
    Prop :=
  (∃ transfer, reader.inflight.lookup requestId = some transfer ∧ outcomesOf reader requestId = [] ∧
      (reader.connected = true →
        Collected setting requestId (routedTo setting requestId frames) transfer)) ∨
    reader.inflight.lookup requestId = none ∧ ∃ outcome, outcomesOf reader requestId = [outcome] ∧
        ∀ response, outcome = .ok response → ∃ before, before <+: frames ∧
          Delivers setting requestId (routedTo setting requestId before) response.bytes

theorem routedTo_append (requestId : String) (frames : List Bytes) (frame : Bytes) :
    routedTo setting requestId (frames ++ [frame]) =
      routedTo setting requestId frames ++ routedTo setting requestId [frame] :=
  filter_append _ _

/-- Delivery to one call leaves the others alone. -/
theorem deliver_other (reader : Reader) (hother : other ≠ requestId)
    (assembly : Assembly) (result : Except ResponseChunkError ResponseFrameStatus) :
    (deliver reader requestId assembly result).inflight.lookup other =
        reader.inflight.lookup other ∧
      outcomesOf (deliver reader requestId assembly result) other = outcomesOf reader other ∧
      (deliver reader requestId assembly result).connected = reader.connected := by
  rcases result with error | ⟨⟩ | response
  · exact ⟨AList.lookup_erase_ne hother, by simp [deliver, outcomesOf, Ne.symm hother], rfl⟩
  · exact ⟨AList.lookup_insert_ne hother, rfl, rfl⟩
  · exact ⟨AList.lookup_erase_ne hother, by simp [deliver, outcomesOf, Ne.symm hother], rfl⟩

/-- What the reader knows of a call does not depend on frames it does not take in. -/
theorem Tracked.skip {next : Reader} (htracked : Tracked setting requestId frames reader)
    (hinflight : next.inflight.lookup requestId = reader.inflight.lookup requestId)
    (houtcomes : outcomesOf next requestId = outcomesOf reader requestId)
    (hframe : next.connected = true → reader.connected = true ∧
        (routedTo setting requestId [frame] = [] ∨ reader.inflight.lookup requestId = none)) :
    Tracked setting requestId (frames ++ [frame]) next := by
  rcases htracked with ⟨transfer, htransfer, hnone, hcollected⟩ | ⟨hover, outcome, hone, hwhole⟩
  · left
    refine ⟨transfer, hinflight.trans htransfer, houtcomes.trans hnone, fun hconnected => ?_⟩
    obtain ⟨hbefore, hskipped | habsent⟩ := hframe hconnected
    · rw [routedTo_append, hskipped, append_nil]
      exact hcollected hbefore
    · rw [habsent] at htransfer
      cases htransfer
  · right
    refine ⟨hinflight.trans hover, outcome, houtcomes.trans hone, fun response hresponse => ?_⟩
    obtain ⟨before, hbefore, hdelivers⟩ := hwhole response hresponse
    exact ⟨before, hbefore.trans (prefix_append _ _), hdelivers⟩

/-- A frame for a call in flight. -/
theorem Tracked.take {transfer : Option TransferState} (hconnected : reader.connected = true)
    (hroute : responseFrameRoute setting frame = .ok route)
    (htracked : Tracked setting route.requestId frames reader)
    (hinflight : reader.inflight.lookup route.requestId = some transfer) :
    Tracked setting route.requestId (frames ++ [frame]) (deliver reader route.requestId
        (pushRouted setting route ⟨transfer, reader.used⟩ frame).1
        (pushRouted setting route ⟨transfer, reader.used⟩ frame).2) := by
  rcases htracked with ⟨going, hgoing, hnone, hcollected⟩ | ⟨hover, -⟩
  · obtain rfl : going = transfer := Option.some.inj (hgoing.symm.trans hinflight)
    have hframes : routedTo setting route.requestId (frames ++ [frame]) =
        routedTo setting route.requestId frames ++ [frame] := by
      rw [routedTo_append]
      simp [routedTo, namesCall, hroute]
    have hown (outcome : Except ResponseChunkError AssembledResponse) :
        ((reader.outcomes ++ [(route.requestId, outcome)]).filter
          fun found => found.1 = route.requestId).map Prod.snd = [outcome] := by
      rw [filter_append, map_append]
      have hbefore : (reader.outcomes.filter
        fun found => found.1 = route.requestId).map Prod.snd = [] := hnone
      rw [hbefore]
      simp
    cases hresult : (pushRouted setting route ⟨going, reader.used⟩ frame).2 with
    | error error =>
      right
      exact ⟨AList.lookup_erase _ _, .error error, hown _, fun response hresponse =>
        nomatch hresponse⟩
    | ok =>
      rcases pushRouted_sound hroute (hcollected hconnected) hresult with
        ⟨rfl, hmore⟩ | ⟨response, rfl, hdelivers⟩
      · left
        exact ⟨_, AList.lookup_insert _, hnone, fun _ => hframes ▸ hmore⟩
      · right
        refine ⟨AList.lookup_erase _ _, .ok response, hown _, fun other hother => ?_⟩
        cases hother
        exact ⟨frames ++ [frame], prefix_rfl, hframes ▸ hdelivers⟩
  · rw [hover] at hinflight
    cases hinflight

theorem readFrame_tracked (htracked : Tracked setting requestId frames reader) (frame : Bytes) :
    Tracked setting requestId (frames ++ [frame]) (readFrame setting reader frame) := by
  unfold readFrame
  split_ifs with hlost hlarge
  · exact htracked.skip rfl rfl fun hconnected => absurd (hlost.symm.trans hconnected) (by decide)
  · exact htracked.skip rfl rfl fun hconnected => nomatch hconnected
  · have hconnected : reader.connected = true := by simpa using hlost
    cases hroute : responseFrameRoute setting frame with
    | error => exact htracked.skip rfl rfl fun hconnected => nomatch hconnected
    | ok route =>
      have hnames : namesCall setting requestId frame = decide (route.requestId = requestId) := by
        rw [namesCall, hroute]
      cases hinflight : reader.inflight.lookup route.requestId with
      | none =>
        simp only [hinflight]
        refine htracked.skip rfl rfl fun _ => ⟨hconnected, ?_⟩
        by_cases hsame : route.requestId = requestId
        · exact .inr (hsame ▸ hinflight)
        · exact .inl (by simp [routedTo, hnames, hsame])
      | some transfer =>
        simp only [hinflight]
        by_cases hsame : route.requestId = requestId
        · subst hsame
          exact htracked.take hconnected hroute hinflight
        · obtain ⟨hlookup, houtcomes, -⟩ := deliver_other reader
            (Ne.symm hsame) (pushRouted setting route ⟨transfer, reader.used⟩ frame).1
            (pushRouted setting route ⟨transfer, reader.used⟩ frame).2
          exact htracked.skip hlookup houtcomes fun _ =>
            ⟨hconnected, .inl (by simp [routedTo, hnames, hsame])⟩

theorem readFrames_tracked (hinflight : start.inflight.lookup requestId = some none)
    (houtcomes : outcomesOf start requestId = []) (frames : List Bytes) :
    Tracked setting requestId frames (frames.foldl (readFrame setting) start) := by
  induction frames using List.reverseRecOn with
  | nil => exact .inl ⟨none, hinflight, houtcomes, fun _ => rfl⟩
  | append_singleton _ frame ih =>
    rw [foldl_append]
    exact readFrame_tracked ih frame

end Sound

end SieCluster.ResponseSoundness
