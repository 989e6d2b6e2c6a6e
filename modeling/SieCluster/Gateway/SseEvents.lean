import SieCluster.Core.Dicts
import SieCluster.Gateway.Streaming

/-!
# Server-sent events of a generation stream

The bodies of the events that a streaming client receives, in the three shapes
that the gateway serves: chat completions, legacy completions and the native
generate stream.  `closes` is what a client looks for before `[DONE]`: a chunk
that shows how the generation finished, or an error.
-/

namespace SieCluster.SseEvents

open Dicts (get)
open Streaming

inductive SseEndpoint where
  | chat (includeUsage : Bool)
  | generate
  | completion (includeUsage : Bool)
  deriving DecidableEq

inductive SseEvent where
  | data (body : Json)
  /-- The literal `[DONE]`. -/
  | done

/-- What the bodies of one stream have in common.  The fingerprint is computed
from the model and the gateway version. -/
structure StreamIds where
  requestId : String
  streamChatId : String
  created : ℕ
  model : String
  systemFingerprint : String

/-! ## Bodies -/

def mapChatFinishReason (sie : String) : String :=
  if sie = "length" then "length"
  else if sie = "tool_calls" then "tool_calls"
  else if sie = "content_filter" then "content_filter"
  else if sie = "function_call" then "function_call"
  else "stop"

def workerErrorOpenaiTypeFor (code : String) : String :=
  if code = "invalid_request" ∨ code = "unsupported_field" then
    "invalid_request_error"
  else if code = "context_exceeded" then "context_length_exceeded"
  else if code = "rate_limit_exceeded" then "rate_limit_error"
  else "server_error"

/-- An optional member of an object. -/
def member (name : String) (value : Option Json) : List (String × Json) :=
  (value.map (name, ·)).toList

def toolCallJson (call : ToolCallDeltaWire) : Json :=
  .object ([("index", .number call.index)] ++ member "id" (call.id.map .string) ++
    [("type", .string call.kind)] ++
    member "function" (call.function.map fun function =>
      .object (member "name" (function.name.map .string) ++
        [("arguments", .string function.arguments)])))

section

variable (chunk : ChunkEnvelope)

def chatDelta (emitRole : Bool) : Json :=
  .object ((if emitRole then [("role", .string "assistant")] else []) ++
    (if chunk.textDelta.isEmpty then []
      else [("content", .string chunk.textDelta)]) ++
    match chunk.toolCalls with
    | none => []
    | some calls => if calls.isEmpty then []
        else [("tool_calls", .array (calls.map toolCallJson))])

/-- A terminal with an error does not claim a finish. -/
def chatFinishReason : Json :=
  if chunk.done then
    if chunk.error.isSome then .null
    else .string (mapChatFinishReason (chunk.finishReason.getD "stop"))
  else match chunk.finishReason with
    | some raw => .string (mapChatFinishReason raw)
    | none => .null

variable (ids : StreamIds)

/-- The members that open every OpenAI-shaped body. -/
def openaiHeader (object : String) : List (String × Json) := [
  ("id", .string ids.streamChatId),
  ("object", .string object),
  ("created", .number ids.created),
  ("model", .string ids.model),
  ("system_fingerprint", .string ids.systemFingerprint)]

def buildChatChunkEvent (chunk : ChunkEnvelope) (emitRole : Bool) : Json :=
  .object (openaiHeader ids "chat.completion.chunk" ++ [
    ("choices", .array [.object [
      ("index", .number chunk.choiceIndex),
      ("delta", chatDelta chunk emitRole),
      ("logprobs", match chunk.logprobs with
        | some content => .object [("content", .array content), ("refusal", .null)]
        | none => .null),
      ("finish_reason", chatFinishReason chunk)]])] ++
    match chunk.error with
    | none => []
    | some error => [
        ("error", .object [
          ("message", .string error.message),
          ("type", .string (workerErrorOpenaiTypeFor error.code)),
          ("param", .null),
          ("code", .string error.code)]),
        ("request_id", .string chunk.requestId)])

def buildTextCompletionChunkEvent (chunk : ChunkEnvelope) : Json :=
  .object (openaiHeader ids "text_completion" ++ [
    ("choices", .array [.object [
      ("text", .string chunk.textDelta),
      ("index", .number 0),
      ("finish_reason", if chunk.done
        then .string (mapChatFinishReason (chunk.finishReason.getD "stop"))
        else .null)]])])

/-- `merge_terminal_usage_extras`: members that the block does not have yet. -/
def mergeTerminalUsageExtras (usage extras : List (String × Json)) : List (String × Json) :=
  extras.foldl (fun usage extra =>
    if (get usage extra.1).isNone then usage ++ [extra] else usage) usage

def usageJson (usage : UsageBlock) (terminalExtras : List (String × Json)) : Json :=
  .object (mergeTerminalUsageExtras [
    ("prompt_tokens", .number usage.promptTokens),
    ("completion_tokens", .number usage.completionTokens),
    ("total_tokens", .number usage.totalTokens)] terminalExtras)

variable (endpoint : SseEndpoint)

/-- The trailing usage chunk, when it was asked for and counts were reported. -/
def buildUsageOnlyChunkEvent (ids : StreamIds)
    (chunk : ChunkEnvelope) (terminalExtras : List (String × Json)) :
    Option Json :=
  let body (object : String) := chunk.usage.map fun usage =>
    Json.object (openaiHeader ids object ++ [
      ("choices", .array []),
      ("usage", usageJson usage terminalExtras)])
  match endpoint with
  | .chat true => body "chat.completion.chunk"
  | .completion true => body "text_completion"
  | _ => none

/-- Whether a terminal will show usage at all. -/
def terminalCarriesUsage (chunk : ChunkEnvelope) : Bool :=
  if chunk.usage.isNone then false
  else match endpoint with
    | .generate => true
    | .chat includeUsage | .completion includeUsage => includeUsage

def millisJson : Millis → Json
  | .finite value => .number value
  | .nonFinite => .null

def buildGenerateChunkEvent (terminalExtras : List (String × Json)) : Json :=
  .object ([
    ("request_id", .string chunk.requestId),
    ("seq", .number chunk.seq),
    ("text_delta", .string chunk.textDelta),
    ("done", .bool chunk.done)] ++
    member "finish_reason" (chunk.finishReason.map .string) ++
    member "usage" (chunk.usage.map (usageJson · terminalExtras)) ++
    member "ttft_ms" (chunk.ttftMs.map millisJson) ++
    member "logprobs" (chunk.logprobs.map .array) ++
    member "error" (chunk.error.map fun error => .object [
      ("code", .string error.code), ("message", .string error.message)]))

end

section

variable (endpoint : SseEndpoint) (ids : StreamIds)

/-- The body for one chunk, in the shape of the endpoint. -/
def chunkEvent (chunk : ChunkEnvelope)
    (emitRole : Bool) (terminalExtras : List (String × Json)) : Json :=
  match endpoint with
  | .chat _ => buildChatChunkEvent ids chunk emitRole
  | .generate => buildGenerateChunkEvent chunk terminalExtras
  | .completion _ => buildTextCompletionChunkEvent ids chunk

/-- The body of `send_error_chunk`. -/
def errorChunk (code message : String) : Json :=
  let openaiError := Json.object [
    ("message", .string message),
    ("type", .string "server_error"),
    ("param", .null),
    ("code", .string code)]
  match endpoint with
  | .chat _ => .object (openaiHeader ids "chat.completion.chunk" ++ [
      ("choices", .array [.object [
        ("index", .number 0),
        ("delta", .object []),
        ("logprobs", .null),
        ("finish_reason", .null)]]),
      ("error", openaiError),
      ("request_id", .string ids.requestId)])
  | .generate => .object [
      ("request_id", .string ids.requestId),
      ("seq", .number 0),
      ("text_delta", .string ""),
      ("done", .bool true),
      ("finish_reason", .string "error"),
      ("error", .object [("code", .string code), ("message", .string message)])]
  | .completion _ => .object (openaiHeader ids "text_completion" ++ [
      ("choices", .array [.object [
        ("text", .string ""),
        ("index", .number 0),
        ("finish_reason", .null),
        ("logprobs", .null)]]),
      ("error", openaiError)])

/-! ## What a client sees -/

def field : Json → String → Option Json
  | .object fields, name => get fields name
  | _, _ => none

def isText : Option Json → Bool
  | some (.string _) => true
  | _ => false

/-- `choices[0].finish_reason` is a text; in the native shape `finish_reason` is
one or `done` is true. -/
def showsFinish (body : Json) : Bool :=
  match endpoint with
  | .generate => isText (field body "finish_reason") ||
      match field body "done" with
      | some (.bool value) => value
      | _ => false
  | _ => match field body "choices" with
      | some (.array (choice :: _)) => isText (field choice "finish_reason")
      | _ => false

def showsError (body : Json) : Bool :=
  (field body "error").isSome

/-- A finish chunk or an error event. -/
def closes : SseEvent → Bool
  | .data body => showsFinish endpoint body || showsError body
  | .done => false

/-- A terminal chunk that is forwarded shows a finish or an error in every
shape. -/
theorem closes_terminal (hdone : chunk.done = true) (emitRole : Bool)
    (terminalExtras : List (String × Json)) :
    closes endpoint (.data (chunkEvent endpoint ids chunk emitRole terminalExtras)) =
      true := by
  cases endpoint with
  | chat =>
    cases herror : chunk.error with
    | none =>
      simp [closes, showsFinish, chunkEvent, buildChatChunkEvent, openaiHeader,
        field, isText, Dicts.get, chatFinishReason, hdone, herror]
    | some =>
      simp [closes, showsError, chunkEvent, buildChatChunkEvent, openaiHeader,
        field, Dicts.get, herror]
  | generate =>
    simp [closes, showsFinish, chunkEvent, buildGenerateChunkEvent, field, Dicts.get, hdone]
  | completion =>
    simp [closes, showsFinish, chunkEvent, buildTextCompletionChunkEvent,
      openaiHeader, field, isText, Dicts.get, hdone]

/-- A chunk that finishes its candidate, on an endpoint that shows it before the terminal. -/
def endsCandidate (chunk : ChunkEnvelope) : Bool :=
  match endpoint with
  | .completion _ => false
  | _ => chunk.finishReason.isSome

theorem closes_of_endsCandidate (hends : endsCandidate endpoint chunk = true)
    (hdone : chunk.done = false) (emitRole : Bool) (terminalExtras : List (String × Json)) :
    closes endpoint (.data (chunkEvent endpoint ids chunk emitRole terminalExtras)) =
      true := by
  cases endpoint with
  | completion => cases hends
  | chat =>
    obtain ⟨reason, hreason⟩ := Option.isSome_iff_exists.1 hends
    simp [closes, showsFinish, chunkEvent, buildChatChunkEvent, openaiHeader,
      field, isText, Dicts.get, chatFinishReason, hdone, hreason]
  | generate =>
    obtain ⟨reason, hreason⟩ := Option.isSome_iff_exists.1 hends
    simp [closes, showsFinish, chunkEvent, buildGenerateChunkEvent, field, isText, Dicts.get,
      member, hreason]

end

end SieCluster.SseEvents
