import Mathlib

/-!
# Streaming reply collector of the gateway

Workers publish chunk envelopes for a generation request; the gateway keeps one
`StreamCollector` per request that latches an attempt id, drops redeliveries by
their `seq`, fans accepted chunks out to the SSE tap and builds the aggregated
outcome once a terminal chunk has been applied.  `bumpAttemptGeneration` and
`rewindAttemptGeneration` are the two halves of a pool republish.

Instants are natural numbers of nanoseconds.  Sequence numbers are natural
numbers: the only addition on them is made after `seq ≤ last` has failed, so it
cannot reach the end of the 32-bit range.
-/

namespace SieCluster.Streaming

/-- JSON values carried through the collector unchanged. -/
inductive Json where
  | null
  | bool (value : Bool)
  | number (value : ℚ)
  | string (text : String)
  | array (items : List Json)
  | object (fields : List (String × Json))

/-- A floating-point duration in milliseconds: only its finiteness is ever
inspected. -/
inductive Millis where
  | finite (value : ℚ)
  | nonFinite
  deriving DecidableEq

def Millis.isFinite : Millis → Bool
  | .finite _ => true
  | .nonFinite => false

structure UsageBlock where
  promptTokens : ℕ := 0
  completionTokens : ℕ := 0
  totalTokens : ℕ := 0
  deriving DecidableEq

structure ChunkError where
  code : String := ""
  message : String := ""
  deriving DecidableEq

structure ToolCallFunctionWire where
  name : Option String := none
  arguments : String := ""
  deriving DecidableEq

/-- One tool-call delta on the wire; `id` and `function.name` appear only on
the first delta of a call. -/
structure ToolCallDeltaWire where
  index : ℕ := 0
  id : Option String := none
  kind : String := "function"
  function : Option ToolCallFunctionWire := none
  deriving DecidableEq

structure CandidateData where
  text : String := ""
  finishReason : Option String := none
  logprobs : Option (List Json) := none
  toolCalls : Option (List Json) := none

/-- One chunk envelope decoded from the worker's publish.  The defaults are
those of the wire format. -/
structure ChunkEnvelope where
  kind : String
  requestId : String
  attemptId : String := ""
  seq : ℕ := 0
  textDelta : String := ""
  done : Bool := false
  isFirst : Bool := false
  finishReason : Option String := none
  usage : Option UsageBlock := none
  ttftMs : Option Millis := none
  error : Option ChunkError := none
  toolCalls : Option (List ToolCallDeltaWire) := none
  logprobs : Option (List Json) := none
  candidates : List CandidateData := []
  choiceIndex : ℕ := 0
  executedBundleConfigHash : Option String := none
  executionIdentitySha256 : Option String := none

/-- Fully assembled tool call of the non-streaming response. -/
structure AggregatedToolCall where
  index : ℕ
  id : String
  kind : String
  name : String
  arguments : String
  deriving DecidableEq

structure TerminalMeta where
  finishReason : String
  usage : Option UsageBlock
  ttftMs : Option Millis
  error : Option ChunkError
  candidates : List CandidateData
  executedBundleConfigHash : Option String

/-- Outcome delivered to the HTTP handler once a terminal chunk arrives. -/
structure StreamOutcome where
  text : String
  finishReason : String
  usage : Option UsageBlock
  attemptId : String
  ttftMs : Option Millis
  tpotMs : Option Millis
  error : Option ChunkError
  toolCalls : Option (List AggregatedToolCall)
  logprobs : Option (List Json)
  candidates : List CandidateData
  executedBundleConfigHash : Option String
  executionIdentitySha256 : Option String

abbrev ToolCallMap := Std.TreeMap ℕ AggregatedToolCall

/-- State saved by `bumpAttemptGeneration` so that a failed publish can restore
it. -/
structure AttemptSnapshot where
  chunks : List (ℕ × String)
  toolCallsByIndex : ToolCallMap
  logprobs : List Json
  firstChunkAt : Option ℕ
  lastChunkAt : Option ℕ
  lastOutputAt : Option ℕ
  outputEventCount : ℕ
  currentAttemptId : Option String
  lastAppliedSeq : Option ℕ
  executionIdentitySha256 : Option String
  executionIdentityConsistent : Bool

/-- Per-request streaming aggregator.  `chunkTap` holds everything sent on the
broadcast channel so far, or `none` when no tap is installed. -/
structure StreamCollector where
  currentAttemptId : Option String := none
  lastAppliedSeq : Option ℕ := none
  chunks : List (ℕ × String) := []
  finalMeta : Option TerminalMeta := none
  publishedAt : ℕ := 0
  firstChunkAt : Option ℕ := none
  lastChunkAt : Option ℕ := none
  lastOutputAt : Option ℕ := none
  outputEventCount : ℕ := 0
  attemptGeneration : ℕ := 0
  encodedPayload : Option (List UInt8) := none
  poolFallbackSubject : Option String := none
  republished : Bool := false
  chunkTap : Option (List ChunkEnvelope) := none
  toolCallsByIndex : ToolCallMap := ∅
  logprobs : List Json := []
  executionIdentitySha256 : Option String := none
  executionIdentityConsistent : Bool := true
  abandonedAttemptId : Option String := none
  snapshot : Option AttemptSnapshot := none

inductive ChunkApplied where
  | delta
  | terminal
  | stale
  | duplicate
  | seqGap
  deriving DecidableEq

/-- Bytes of a lower-case hexadecimal digit. -/
def isLowerHexByte (byte : UInt8) : Bool :=
  (48 ≤ byte && byte ≤ 57) || (97 ≤ byte && byte ≤ 102)

def isLowerSha256 (value : String) : Bool :=
  value.utf8ByteSize == 64 && value.toUTF8.data.toList.all isLowerHexByte

/-- Wire-level allowlist for `finish_reason`. -/
def isKnownFinishReason (reason : String) : Bool :=
  ["stop", "length", "tool_calls", "content_filter", "function_call", "error",
    "cancelled"].contains reason

namespace StreamCollector

/-- `StreamCollector::new`, published at `publishedAt`. -/
def new (publishedAt : ℕ) : StreamCollector := { publishedAt := publishedAt }

section

variable (collector : StreamCollector)

def installChunkTap : StreamCollector :=
  { collector with chunkTap := some [] }

/-- `attempt_generation` is a 64-bit counter incremented with saturation. -/
def maxGeneration : ℕ := 2 ^ 64 - 1

def bumpAttemptGeneration : StreamCollector :=
  { collector with
    attemptGeneration := min (collector.attemptGeneration + 1) maxGeneration
    snapshot := some {
      chunks := collector.chunks
      toolCallsByIndex := collector.toolCallsByIndex
      logprobs := collector.logprobs
      firstChunkAt := collector.firstChunkAt
      lastChunkAt := collector.lastChunkAt
      lastOutputAt := collector.lastOutputAt
      outputEventCount := collector.outputEventCount
      currentAttemptId := collector.currentAttemptId
      lastAppliedSeq := collector.lastAppliedSeq
      executionIdentitySha256 := collector.executionIdentitySha256
      executionIdentityConsistent := collector.executionIdentityConsistent }
    chunks := []
    toolCallsByIndex := ∅
    logprobs := []
    abandonedAttemptId := collector.currentAttemptId
    currentAttemptId := none
    lastAppliedSeq := none
    firstChunkAt := none
    lastOutputAt := none
    outputEventCount := 0
    executionIdentitySha256 := none
    executionIdentityConsistent := true
    lastChunkAt := none }

def recordAbandonedAttemptId (attemptId : String) : StreamCollector :=
  if attemptId.isEmpty || collector.currentAttemptId.isSome ||
      collector.abandonedAttemptId.isSome then
    collector
  else
    { collector with abandonedAttemptId := some attemptId }

def rewindAttemptGeneration : StreamCollector :=
  let generation := collector.attemptGeneration - 1
  match collector.snapshot with
  | some snap =>
    { collector with
      attemptGeneration := generation
      snapshot := none
      chunks := snap.chunks
      toolCallsByIndex := snap.toolCallsByIndex
      logprobs := snap.logprobs
      firstChunkAt := snap.firstChunkAt
      lastChunkAt := snap.lastChunkAt
      lastOutputAt := snap.lastOutputAt
      outputEventCount := snap.outputEventCount
      currentAttemptId := snap.currentAttemptId
      lastAppliedSeq := snap.lastAppliedSeq
      executionIdentitySha256 := snap.executionIdentitySha256
      executionIdentityConsistent := snap.executionIdentityConsistent
      abandonedAttemptId := none }
  | none =>
    -- The defensive branch: `chunks`, `toolCallsByIndex` and `logprobs`
    -- are left as they are.
    { collector with
      attemptGeneration := generation
      currentAttemptId := none
      lastAppliedSeq := none
      firstChunkAt := none
      lastChunkAt := none
      lastOutputAt := none
      outputEventCount := 0
      executionIdentitySha256 := none
      executionIdentityConsistent := true
      abandonedAttemptId := none }

end

end StreamCollector

/-- Wire-level checks made before anything else. -/
def ChunkEnvelope.wellFormed (chunk : ChunkEnvelope) : Bool :=
  chunk.kind == "chunk" && chunk.ttftMs.all Millis.isFinite &&
    chunk.finishReason.all isKnownFinishReason

def ChunkEnvelope.hasOutput (chunk : ChunkEnvelope) : Bool :=
  !chunk.textDelta.isEmpty || chunk.toolCalls.any fun toolCalls => !toolCalls.isEmpty

/-- The latched execution identity: whether every chunk so far agreed, and the
digest they agreed on. -/
def absorbIdentity (identity : Bool × Option String) (chunk : ChunkEnvelope) :
    Bool × Option String :=
  match chunk.executionIdentitySha256 with
  | some value =>
    if isLowerSha256 value && identity.1 then
      match identity.2 with
      | some current => if current != value then (false, none) else identity
      | none => (identity.1, some value)
    else (false, none)
  | none => (false, none)

/-- One tool-call delta absorbed into the per-index map. -/
def absorbToolCall (calls : ToolCallMap) (delta : ToolCallDeltaWire) :
    ToolCallMap :=
  let entry := calls.getD delta.index {
    index := delta.index, id := "", kind := delta.kind, name := "",
    arguments := "" }
  let entry := match delta.id with
    | some id => if entry.id.isEmpty then { entry with id := id } else entry
    | none => entry
  let entry := match delta.function with
    | some func =>
      let entry := match func.name with
        | some name =>
          if entry.name.isEmpty then { entry with name := name } else entry
        | none => entry
      { entry with arguments := entry.arguments ++ func.arguments }
    | none => entry
  calls.insert delta.index entry

def absorbToolCalls (calls : ToolCallMap) (chunk : ChunkEnvelope) :
    ToolCallMap :=
  (chunk.toolCalls.getD []).foldl absorbToolCall calls

namespace StreamCollector

section

variable (collector : StreamCollector)

/-- The latch: `none` when the chunk belongs to another attempt than the
current one, or to the attempt that was just abandoned. -/
def latch (chunk : ChunkEnvelope) : Option StreamCollector :=
  match collector.currentAttemptId with
  | none =>
    if collector.abandonedAttemptId == some chunk.attemptId then none
    else some { collector with
      currentAttemptId := some chunk.attemptId
      abandonedAttemptId := none }
  | some current =>
    if current != chunk.attemptId then none else some collector

/-- The per-attempt `seq` check; a terminal chunk is exempt from it. -/
def seqVerdict (chunk : ChunkEnvelope) : Option ChunkApplied :=
  if chunk.done then none
  else match collector.lastAppliedSeq with
    | some last =>
      if chunk.seq ≤ last then some .duplicate
      else if last + 1 < chunk.seq then some .seqGap
      else none
    | none => none

/-- Everything `apply` does to an accepted chunk. -/
def absorb (now : ℕ) (chunk : ChunkEnvelope) : StreamCollector :=
  let identity := absorbIdentity (collector.executionIdentityConsistent,
    collector.executionIdentitySha256) chunk
  { collector with
    lastAppliedSeq := some chunk.seq
    executionIdentityConsistent := identity.1
    executionIdentitySha256 := identity.2
    firstChunkAt :=
      if chunk.hasOutput then collector.firstChunkAt <|> some now
      else collector.firstChunkAt
    lastOutputAt := if chunk.hasOutput then some now else collector.lastOutputAt
    outputEventCount :=
      if chunk.hasOutput then min (collector.outputEventCount + 1) (2 ^ 64 - 1)
      else collector.outputEventCount
    lastChunkAt := some now
    chunkTap := collector.chunkTap.map (· ++ [chunk])
    chunks :=
      if chunk.textDelta.isEmpty then collector.chunks
      else collector.chunks ++ [(chunk.seq, chunk.textDelta)]
    toolCallsByIndex := absorbToolCalls collector.toolCallsByIndex chunk
    logprobs := collector.logprobs ++ chunk.logprobs.getD []
    finalMeta :=
      if chunk.done then some {
        finishReason := chunk.finishReason.getD "stop"
        usage := chunk.usage
        ttftMs := chunk.ttftMs
        error := chunk.error
        candidates := chunk.candidates
        executedBundleConfigHash := chunk.executedBundleConfigHash }
      else collector.finalMeta }

/-- `StreamCollector::apply` at instant `now`. -/
def apply (now : ℕ) (chunk : ChunkEnvelope) : StreamCollector × ChunkApplied :=
  if !chunk.wellFormed then (collector, .stale)
  else match collector.latch chunk with
    | none => (collector, .stale)
    | some latched =>
      match latched.seqVerdict chunk with
      | some rejected => (latched, rejected)
      | none =>
        (latched.absorb now chunk, if chunk.done then .terminal else .delta)

/-- Milliseconds between two instants, read as an exact rational. -/
def elapsedMs (start finish : ℕ) : ℚ := ((finish - start : ℕ) : ℚ) / 1000000

def tpotMs (terminal : TerminalMeta) : Option Millis :=
  match collector.firstChunkAt, collector.lastOutputAt with
  | some first, some last =>
    if first < last then
      let reported := terminal.usage.bind fun usage =>
        if 0 < usage.completionTokens then some usage.completionTokens
        else none
      let completion := reported.getD collector.outputEventCount
      if 0 < completion then
        some (.finite (elapsedMs first last / completion))
      else none
    else none
  | _, _ => none

/-- `StreamCollector::build_outcome`: `none` until a terminal chunk was
applied. -/
def buildOutcome : Option StreamOutcome :=
  collector.finalMeta.map fun terminal => {
    text := collector.chunks.foldl (fun text chunk => text ++ chunk.2) ""
    finishReason := terminal.finishReason
    usage := terminal.usage
    attemptId := collector.currentAttemptId.getD ""
    ttftMs := terminal.ttftMs <|> collector.firstChunkAt.map fun first =>
      .finite (elapsedMs collector.publishedAt first)
    tpotMs := collector.tpotMs terminal
    error := terminal.error
    toolCalls :=
      if collector.toolCallsByIndex.isEmpty then none
      else some collector.toolCallsByIndex.values
    logprobs :=
      if collector.logprobs.isEmpty then none else some collector.logprobs
    candidates := terminal.candidates
    executedBundleConfigHash := terminal.executedBundleConfigHash
    executionIdentitySha256 :=
      if collector.executionIdentityConsistent then
        collector.executionIdentitySha256
      else none }

end

end StreamCollector

end SieCluster.Streaming
