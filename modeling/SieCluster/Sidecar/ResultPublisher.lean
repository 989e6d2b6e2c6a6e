import SieCluster.Core.CallLogs
import SieCluster.Sidecar.ChunkPlan
import SieCluster.Sidecar.Intake

/-!
# Publishing a result

The outcome of one work item is put on the wire as one message, as the fragments
of a chunk plan followed by a flush, or, when neither fits the payload limit of
the broker, as a compact error in its place.  Publishing succeeds only when every
message of the result has been accepted; the first one that is refused ends it.
-/

namespace SieCluster.ResultPublisher

open CallLogs ChunkPlan
open Intake (isWhitespace)
open Msgpack (Bytes)
open ResultChunks (Digest ResultChunkV1)

/-! ## Outcomes and results -/

inductive Disposition
  | publishAndAck
  | publishErrorAndAck
  | nakRetry
  deriving DecidableEq, Repr

structure UnitCounts where
  inputTokens : Option ℕ
  pages : Option ℕ
  images : Option ℕ
  audioMs : Option ℕ
  pairs : Option ℕ
  deriving DecidableEq, Repr

/-- What the backend reports for one item.  `RawOutput` is an array output whose
framing is left to the sidecar. -/
structure ItemOutcome (RawOutput : Type) where
  workItemId : String
  requestId : String
  itemIndex : ℕ
  disposition : Disposition
  nakDelayMs : Option ℕ := none
  resultMsgpack : Bytes := []
  error : Option String := none
  errorCode : Option String := none
  inferenceMs : Option ℚ := none
  tokenizationMs : Option ℚ := none
  postprocessingMs : Option ℚ := none
  rawOutput : Option RawOutput := none
  units : Option UnitCounts := none

structure Timings where
  queueMs : ℚ
  payloadFetchMs : ℚ
  deriving DecidableEq

structure WorkResultRef where
  workItemId : String
  requestId : String
  itemIndex : ℕ
  success : Bool
  resultMsgpack : Bytes
  error : Option String
  errorCode : Option String
  inferenceMs : Option ℚ
  queueMs : Option ℚ
  processingMs : Option ℚ
  workerId : Option String
  tokenizationMs : Option ℚ
  postprocessingMs : Option ℚ
  payloadFetchMs : Option ℚ
  units : Option UnitCounts
  workerDirect : Bool
  executedBundleConfigHash : Option String
  deriving DecidableEq

/-- The three fields that are stamped from the timings. -/
def timingFields : Option Timings → Option ℚ × Option ℚ × Option ℚ
  | none => (none, none, none)
  | some timings =>
    (some timings.queueMs, some 0,
      if 0 < timings.payloadFetchMs then some timings.payloadFetchMs else none)

variable {RawOutput : Type}

section

variable (outcome : ItemOutcome RawOutput)

def WorkResultRef.fromOutcome (workerId : String) (timings : Option Timings) (workerDirect : Bool)
    (executedBundleConfigHash : Option String) : WorkResultRef where
  workItemId := outcome.workItemId
  requestId := outcome.requestId
  itemIndex := outcome.itemIndex
  success := outcome.disposition = .publishAndAck
  resultMsgpack := outcome.resultMsgpack
  error := match outcome.disposition with
    | .publishAndAck => none
    | .publishErrorAndAck => outcome.error
    | .nakRetry => some (outcome.error.getD "nak_retry reached publisher")
  errorCode := if outcome.disposition = .publishAndAck then none else outcome.errorCode
  inferenceMs := outcome.inferenceMs
  queueMs := (timingFields timings).1
  processingMs := (timingFields timings).2.1
  workerId := some workerId
  tokenizationMs := outcome.tokenizationMs
  postprocessingMs := outcome.postprocessingMs
  payloadFetchMs := (timingFields timings).2.2
  units := outcome.units
  workerDirect := workerDirect
  executedBundleConfigHash := executedBundleConfigHash.filter (· ≠ "")

def payloadTooLargeErrorCode : String := "PAYLOAD_TOO_LARGE"

variable (result : WorkResultRef)

def WorkResultRef.compactPayloadTooLarge (oversizedBytes maxPayload : ℕ) : WorkResultRef :=
  { result with
    success := false
    resultMsgpack := []
    error := some ("Encoded result exceeds the transport limit (" ++
      toString oversizedBytes ++ " > " ++ toString maxPayload ++
      " bytes); reduce the input length or requested output size.")
    errorCode := some payloadTooLargeErrorCode }

/-- The fields of a result that the gateway reads. -/
def WorkResultRef.header : ResultChunks.WorkResult where
  workItemId := result.workItemId
  requestId := result.requestId
  itemIndex := result.itemIndex
  success := result.success
  resultMsgpack := result.resultMsgpack
  error := result.error
  errorCode := result.errorCode
  workerDirect := result.workerDirect

/-! ## Framing raw outputs -/

/-- The shapers: array outputs to payload bytes, with the caller's item id echoed. -/
structure Shapers (RawOutput : Type) where
  shape : RawOutput → Option String → Except String Bytes
  multivectorPayload : (valuesF16 : Bytes) → (numTokens tokenDims : ℕ) →
    Option String → Except String Bytes

def rawOutputShapeErrorCode : String := "raw_output_shape_error"

/-- An outcome in place of one whose output could not be framed. -/
def downgraded (error : String) : ItemOutcome RawOutput :=
  { outcome with
    disposition := .publishErrorAndAck
    resultMsgpack := []
    error := some error
    errorCode := some rawOutputShapeErrorCode
    rawOutput := none }

variable (errorContext : String)

/-- The outcome with its framed output, or the error that framing ended in. -/
def framed : Except String Bytes → ItemOutcome RawOutput
  | .ok bytes => { outcome with resultMsgpack := bytes, rawOutput := none }
  | .error error => downgraded outcome (errorContext ++ error)

variable (shapers : Shapers RawOutput)

def shapeRawOutputForWire (outcome : ItemOutcome RawOutput)
    (callerItemId : Option String) : ItemOutcome RawOutput :=
  match outcome.rawOutput with
  | none => outcome
  | some raw =>
    if outcome.resultMsgpack ≠ [] then outcome
    else if outcome.disposition ≠ .publishAndAck then outcome
    else framed outcome "raw_output shape: " (shapers.shape raw callerItemId)

def shapeBatchedF16MultivectorBytes (outcome : ItemOutcome RawOutput) (valuesF16 : Bytes)
    (numTokens tokenDims : ℕ) (callerItemId : Option String) : ItemOutcome RawOutput :=
  if outcome.resultMsgpack ≠ [] ∨ outcome.disposition ≠ .publishAndAck then outcome
  else framed outcome "batched f16 multivector shape: "
    (shapers.multivectorPayload valuesF16 numTokens tokenDims callerItemId)

def batchedF16MultivectorErrorOutcome (message : String) : ItemOutcome RawOutput :=
  downgraded outcome ("batched f16 multivector: " ++ message)

@[simp]
theorem framed_workItemId (bytes : Except String Bytes) :
    (framed outcome errorContext bytes).workItemId = outcome.workItemId := by
  cases bytes <;> rfl

end

section

variable (shapers : Shapers RawOutput) (outcome : ItemOutcome RawOutput)

@[simp]
theorem shapeRawOutputForWire_workItemId (callerItemId : Option String) :
    (shapeRawOutputForWire shapers outcome callerItemId).workItemId =
      outcome.workItemId := by
  unfold shapeRawOutputForWire
  split
  · rfl
  · split_ifs <;> simp

@[simp]
theorem shapeBatched_workItemId (valuesF16 : Bytes)
    (numTokens tokenDims : ℕ) (callerItemId : Option String) :
    (shapeBatchedF16MultivectorBytes shapers outcome valuesF16 numTokens tokenDims
      callerItemId).workItemId = outcome.workItemId := by
  unfold shapeBatchedF16MultivectorBytes
  split_ifs <;> simp

/-! ## Messages on the wire -/

/-- What a message of a result serializes. -/
inductive Frame
  | result (result : WorkResultRef)
  | chunk (chunk : ResultChunkV1)
  deriving DecidableEq

/-- Everything the dispatcher asks of the broker and of the local ingest callers. -/
inductive Call
  | publish (subject : String) (frame : Frame)
  | flush
  | ack (token : ℕ)
  | nak (token delayMs : ℕ)
  | sendResult (token : ℕ) (result : WorkResultRef)
  | sendRetry (token delayMs : ℕ)
  deriving DecidableEq

inductive PublishError
  | nats
  | encode
  | emptyReplySubject
  | noPublisher
  | resultPayloadTooLarge (size maxPayload : ℕ)
  | resultChunkPayloadTooLarge (size maxPayload : ℕ)
  deriving DecidableEq, Repr

/-- `toVecNamed` is the serializer of results, which may fail. -/
structure WorkPublisher where
  workerId : String
  maxPayload : ℕ
  sha256 : Bytes → Digest
  toVecNamed : WorkResultRef → Option Bytes

inductive EncodedWorkResult
  | single (result : WorkResultRef)
  | chunked (plan : ChunkedWorkResult)

variable (publisher : WorkPublisher)

def compactOversizedWorkResult (result : WorkResultRef)
    (oversizedBytes : ℕ) : Except PublishError EncodedWorkResult :=
  let compact := result.compactPayloadTooLarge oversizedBytes publisher.maxPayload
  match publisher.toVecNamed compact with
  | none => .error .encode
  | some fallback =>
    if publisher.maxPayload < fallback.length then
      .error (.resultPayloadTooLarge fallback.length publisher.maxPayload)
    else .ok (.single compact)

def encodeWorkResultDelivery (result : WorkResultRef)
    (acceptsResultChunks : Bool) : Except PublishError EncodedWorkResult :=
  match publisher.toVecNamed result with
  | none => .error .encode
  | some bytes =>
    if bytes.length ≤ publisher.maxPayload then .ok (.single result)
    else
      let plan := if acceptsResultChunks ∧ bytes.length ≤ maxChunkedResultBytes then
          planChunkedWorkResult publisher.sha256 result.header bytes publisher.maxPayload
        else none
      match plan with
      | some plan => .ok (.chunked plan)
      | none => compactOversizedWorkResult publisher result bytes.length

/-- The fragments with the given indexes, each sent when the one before it has been
accepted. -/
def publishChunks (publisher : WorkPublisher) (replySubject : String)
    (plan : ChunkedWorkResult) : List ℕ → Program Call (Except PublishError Unit)
  | [] => pure (.ok ())
  | chunkIndex :: rest =>
    let size := (plan.encodeChunk chunkIndex).length
    if publisher.maxPayload < size then
      pure (.error (.resultChunkPayloadTooLarge size publisher.maxPayload))
    else do
      let accepted ← perform (.publish replySubject (.chunk (plan.chunk chunkIndex)))
      if accepted then publishChunks publisher replySubject plan rest
      else pure (.error .nats)

/-- The end of a publish or flush that may have been refused. -/
def accepted (answer : Bool) : Except PublishError Unit :=
  if answer then .ok () else .error .nats

def publishEncoded (replySubject : String) :
    EncodedWorkResult → Program Call (Except PublishError Unit)
  | .single result => do
      return accepted (← perform (.publish replySubject (.result result)))
  | .chunked plan => do
      match ← publishChunks publisher replySubject plan (List.range plan.chunkCount) with
      | .error error => return .error error
      | .ok () => return accepted (← perform .flush)

def isBlank (subject : String) : Bool :=
  subject.toList.all isWhitespace

structure PublishResultContext where
  callerItemId : Option String
  timings : Option Timings
  workerDirect : Bool
  executedBundleConfigHash : Option String
  acceptsResultChunks : Bool

def buildWorkResult (workerId : String)
    (outcome : ItemOutcome RawOutput) (context : PublishResultContext) : WorkResultRef :=
  .fromOutcome (shapeRawOutputForWire shapers outcome context.callerItemId) workerId
    context.timings context.workerDirect context.executedBundleConfigHash

end

section

variable (publisher : WorkPublisher)

def publishResult (shapers : Shapers RawOutput)
    (replySubject : String) (outcome : ItemOutcome RawOutput)
    (context : PublishResultContext) : Program Call (Except PublishError Unit) :=
  if isBlank replySubject then pure (.error .emptyReplySubject)
  else
    let result := buildWorkResult shapers publisher.workerId outcome context
    match encodeWorkResultDelivery publisher result context.acceptsResultChunks with
    | .error error => pure (.error error)
    | .ok encoded => publishEncoded publisher replySubject encoded

/-! ## What is published -/

variable (replySubject : String) (result : WorkResultRef)

/-- A result is on its way to a subject as a whole: in one message, or as all
fragments of a plan for its bytes, in order, and a flush after them. -/
def CompletelyPublished (log : Log Call) : Prop :=
  (.publish replySubject (.result result), true) ∈ log ∨
    ∃ bytes plan, publisher.toVecNamed result = some bytes ∧
      Planned publisher.sha256 result.header bytes publisher.maxPayload plan ∧
      (List.range plan.chunkCount).map (fun chunkIndex =>
        (Call.publish replySubject (.chunk (plan.chunk chunkIndex)), true)) ++
          [(.flush, true)] <:+: log

/-- A message is one of those that carry a result. -/
def Carries : Frame → Prop
  | .result published => published = result
  | .chunk chunk =>
    ∃ bytes plan, publisher.toVecNamed result = some bytes ∧
      Planned publisher.sha256 result.header bytes publisher.maxPayload plan ∧
      ∃ chunkIndex < plan.chunkCount, chunk = plan.chunk chunkIndex

/-- A result, or the compact error that stands in for it. -/
def SameItem (result published : WorkResultRef) : Prop :=
  published = result ∨ ∃ oversizedBytes maxPayload,
      published = result.compactPayloadTooLarge oversizedBytes maxPayload

/-- Calls that send a result, or the compact error in its place, and nothing else. -/
def OnlySends (made : Log Call) : Prop :=
  ∀ entry ∈ made, entry.1 = .flush ∨ ∃ frame published,
    entry.1 = .publish replySubject frame ∧ SameItem result published ∧
      Carries publisher published frame

end

/-- Nothing but a result is sent; it is sent completely when the sender says so, and
only a blank subject is reported as missing. -/
structure Sends (publisher : WorkPublisher) (replySubject : String)
    (result : WorkResultRef) (value : Except PublishError Unit) (made : Log Call) :
    Prop where
  only : OnlySends publisher replySubject result made
  complete : value = .ok () → ∃ published, SameItem result published ∧
    CompletelyPublished publisher replySubject published made
  missing : value = .error .emptyReplySubject → isBlank replySubject = true

/-- Ending without a call, in an error that is not about the subject. -/
theorem sends_nothing (herror : error = .emptyReplySubject → isBlank replySubject = true) :
    Sends publisher replySubject result (.error error) [] where
  only := by simp [OnlySends]
  complete := by simp
  missing := by simpa using herror

section Publishing

/-- What an encoded delivery is of a result: the result or the compact error in one
message, or a plan for its bytes. -/
def EncodedFrom (publisher : WorkPublisher) (result : WorkResultRef) :
    Except PublishError EncodedWorkResult → Prop
  | .error error => error ≠ .emptyReplySubject
  | .ok (.single published) => SameItem result published
  | .ok (.chunked plan) => ∃ bytes, publisher.toVecNamed result = some bytes ∧
      Planned publisher.sha256 result.header bytes publisher.maxPayload plan

theorem compactOversizedWorkResult_encodedFrom (result : WorkResultRef) (oversizedBytes : ℕ) :
    EncodedFrom publisher result (compactOversizedWorkResult publisher result oversizedBytes) := by
  unfold compactOversizedWorkResult
  simp only
  split
  · simp [EncodedFrom]
  · split
    · simp [EncodedFrom]
    · exact .inr ⟨_, _, rfl⟩

theorem encodeWorkResultDelivery_encodedFrom (publisher : WorkPublisher) (result : WorkResultRef)
    (acceptsResultChunks : Bool) :
    EncodedFrom publisher result
      (encodeWorkResultDelivery publisher result acceptsResultChunks) := by
  unfold encodeWorkResultDelivery
  split
  · simp [EncodedFrom]
  · rename_i bytes hbytes
    split
    · exact .inl rfl
    · simp only
      split
      · rename_i plan hplan
        split at hplan
        · exact ⟨bytes, hbytes, planned_of_eq_some hplan⟩
        · cases hplan
      · exact compactOversizedWorkResult_encodedFrom result bytes.length

/-- The fragments go out in order, and all of them when none is refused. -/
theorem publishChunks_ensures (plan : ChunkedWorkResult) (indexes : List ℕ) :
    Ensures (publishChunks publisher replySubject plan indexes) fun value made =>
      (∀ entry ∈ made, ∃ chunkIndex ∈ indexes,
        entry.1 = .publish replySubject (.chunk (plan.chunk chunkIndex))) ∧
      (value = .ok () → made = indexes.map fun chunkIndex =>
        (.publish replySubject (.chunk (plan.chunk chunkIndex)), true)) ∧
      value ≠ .error .emptyReplySubject := by
  induction indexes with
  | nil => exact ensures_pure _ (by simp)
  | cons chunkIndex _ ih =>
    unfold publishChunks
    simp only
    split
    · exact ensures_pure _ (by simp)
    · refine ensures_perform_bind fun answer => ?_
      cases answer with
      | false => exact ensures_pure _ (by simp)
      | true =>
        refine ih.mono fun value made hmade => ?_
        obtain ⟨honly, hall, herror⟩ := hmade
        refine ⟨?_, fun hok => by simp [hall hok], herror⟩
        intro entry hentry
        rcases List.mem_cons.1 hentry with rfl | hentry
        · exact ⟨chunkIndex, by simp, rfl⟩
        · obtain ⟨index, hindex, hcall⟩ := honly entry hentry
          exact ⟨index, by simp [hindex], hcall⟩

theorem accepted_eq_ok (hok : accepted answer = .ok ()) : answer = true := by
  cases answer with
  | false => cases hok
  | true => rfl

theorem accepted_ne_emptyReplySubject (answer : Bool) :
    accepted answer ≠ .error .emptyReplySubject := by
  cases answer <;> simp [accepted]

theorem publishEncoded_single_ensures (hsame : SameItem result published) :
    Ensures (publishEncoded publisher replySubject (.single published))
      (Sends publisher replySubject result) := by
  refine ensures_perform_bind fun answer => ensures_pure _ ?_
  refine { only := ?_, complete := ?_, missing := ?_ }
  · intro entry hentry
    obtain rfl := List.mem_singleton.1 hentry
    exact .inr ⟨_, published, rfl, hsame, rfl⟩
  · intro hok
    obtain rfl := accepted_eq_ok hok
    exact ⟨published, hsame, .inl (by simp)⟩
  · exact fun herror => absurd herror (accepted_ne_emptyReplySubject answer)

theorem publishEncoded_chunked_ensures (hbytes : publisher.toVecNamed result = some bytes)
    (hplanned : Planned publisher.sha256 result.header bytes publisher.maxPayload plan) :
    Ensures (publishEncoded publisher replySubject (.chunked plan))
      (Sends publisher replySubject result) := by
  refine (publishChunks_ensures plan (List.range plan.chunkCount)).bind ?_
  rintro value made ⟨hchunks, hall, herror⟩
  have honly : OnlySends publisher replySubject result made := by
    intro entry hentry
    obtain ⟨chunkIndex, hindex, hcall⟩ := hchunks entry hentry
    exact .inr ⟨_, result, hcall, .inl rfl, bytes, plan, hbytes, hplanned, chunkIndex,
      List.mem_range.1 hindex, rfl⟩
  cases value with
  | error =>
    refine ensures_pure _ { only := by simpa using honly, complete := by simp, missing := ?_ }
    exact fun hmissing => absurd hmissing herror
  | ok =>
    refine ensures_perform_bind fun answer => ensures_pure _ ?_
    refine { only := ?_, complete := ?_, missing := ?_ }
    · exact List.forall_mem_append.2 ⟨honly, List.forall_mem_singleton.2 (.inl rfl)⟩
    · intro hok
      obtain rfl := accepted_eq_ok hok
      refine ⟨result, .inl rfl, .inr ⟨bytes, plan, hbytes, hplanned, ?_⟩⟩
      rw [hall rfl]
    · exact fun hmissing => absurd hmissing (accepted_ne_emptyReplySubject answer)

theorem publishResult_ensures (shapers : Shapers RawOutput)
    (outcome : ItemOutcome RawOutput) (context : PublishResultContext) :
    Ensures (publishResult publisher shapers replySubject outcome context)
      (Sends publisher replySubject
        (buildWorkResult shapers publisher.workerId outcome context)) := by
  unfold publishResult
  split
  · rename_i hblank
    exact ensures_pure _ (sends_nothing fun _ => hblank)
  · have hfrom := encodeWorkResultDelivery_encodedFrom publisher
      (buildWorkResult shapers publisher.workerId outcome context)
      context.acceptsResultChunks
    simp only
    split
    · rename_i error hencoded
      rw [hencoded] at hfrom
      exact ensures_pure _ (sends_nothing fun hmissing => absurd hmissing hfrom)
    · rename_i encoded hencoded
      rw [hencoded] at hfrom
      cases encoded with
      | single => exact publishEncoded_single_ensures hfrom
      | chunked =>
        obtain ⟨bytes, hbytes, hplanned⟩ := hfrom
        exact publishEncoded_chunked_ensures hbytes hplanned

end Publishing

end SieCluster.ResultPublisher
