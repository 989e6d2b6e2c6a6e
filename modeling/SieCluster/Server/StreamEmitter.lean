import Mathlib

/-!
# What a generation stream puts on its queue

The worker reads the adapter's chunks one at a time, gathers their text, and puts
numbered envelopes on a bounded queue.  A put either gets a slot in time or is
given up, and what is put next depends on which of the two happened.  The producer
is therefore a tree: it waits for the adapter, or it waits for a put and goes on
one way or the other, or it has left the loop.
-/

namespace SieCluster.StreamEmitter

inductive FinishReason
  | stop
  | length
  | cancelled
  | error
  | toolCalls
  deriving DecidableEq, Repr

structure ToolCallDelta where
  index : ℕ
  id : Option String := none
  functionName : Option String := none
  argumentsDelta : String := ""
  deriving DecidableEq, Repr

section

variable (Logprob Candidate : Type)

/-- A chunk of the adapter's stream.  `Logprob` and `Candidate` are the entries
that are handed on as they are. -/
structure GenerationChunk where
  textDelta : String
  done : Bool := false
  finishReason : Option FinishReason := none
  promptTokens : Option ℕ := none
  completionTokens : Option ℕ := none
  toolCallDelta : Option ToolCallDelta := none
  errorCode : Option String := none
  errorMessage : Option String := none
  logprobs : List Logprob := []
  candidates : List Candidate := []
  choiceIndex : ℕ := 0
  deriving DecidableEq

/-- The arguments of `_encode_chunk`; request and attempt id are the same in all
envelopes of an attempt. -/
structure Envelope where
  seq : ℕ
  textDelta : String := ""
  done : Bool := false
  isFirst : Bool := false
  finishReason : Option FinishReason := none
  promptTokens : Option ℕ := none
  completionTokens : Option ℕ := none
  ttftMs : Option ℕ := none
  errorCode : Option String := none
  errorMessage : Option String := none
  toolCallDelta : Option ToolCallDelta := none
  logprobs : List Logprob := []
  candidates : List Candidate := []
  choiceIndex : ℕ := 0
  deriving DecidableEq

/-! ## The producer -/

def flushIntervalMs : ℕ := 50
def flushMaxTokens : ℕ := 32

/-- What the loop carries from chunk to chunk; times are in milliseconds. -/
structure Loop (Logprob : Type) where
  seq : ℕ := 0
  pendingText : List String := []
  pendingLogprobs : List Logprob := []
  pendingCount : ℕ := 0
  lastFlushTs : ℕ
  firstTextAt : Option ℕ := none
  publishAt : ℕ

inductive Producer
  | awaiting (loop : Loop Logprob)
  | putting (envelope : Envelope Logprob Candidate) (accepted : (now : ℕ) → Producer)
      (timedOut : Producer)
  | stopped (terminalSent transportFailurePublished : Bool)

end

variable {Logprob Candidate : Type}

def computeTtftMs (publishAt : ℕ) (firstTextAt : Option ℕ) : Option ℕ :=
  firstTextAt.map fun time => time - publishAt

section

variable (loop : Loop Logprob)

/-- Put the pending text, if there is any, and go on with `next`; `overflow` is
what follows a put that is given up. -/
def flushPending (next : Loop Logprob → Producer Logprob Candidate)
    (overflow : Producer Logprob Candidate) : Producer Logprob Candidate :=
  if loop.pendingText = [] then next loop
  else .putting {
      seq := loop.seq
      textDelta := String.join loop.pendingText
      isFirst := loop.seq = 0
      logprobs := loop.pendingLogprobs }
    (fun now => next { loop with
      seq := loop.seq + 1
      pendingText := []
      pendingLogprobs := []
      pendingCount := 0
      lastFlushTs := now })
    overflow

/-- A terminal put at the current number, and the end it leads to. -/
def putTerminal (terminal : Envelope Logprob Candidate)
    (timedOut : Producer Logprob Candidate) : Producer Logprob Candidate :=
  .putting terminal (fun _ => .stopped true false) timedOut

def enqueueTransportFailure (seq : ℕ) : Producer Logprob Candidate :=
  .putting {
      seq := seq
      done := true
      finishReason := some .error
      errorCode := some "transport_failure"
      errorMessage := some "sustained chunk publish failure or queue overflow" }
    (fun _ => .stopped true true)
    (.stopped false true)

variable (chunk : GenerationChunk Logprob Candidate)

/-- The adapter's chunk joins the pending text. -/
def Loop.gather : Loop Logprob :=
  { loop with
    pendingText :=
      if chunk.textDelta = "" then loop.pendingText
      else loop.pendingText ++ [chunk.textDelta]
    pendingCount :=
      if chunk.textDelta = "" then loop.pendingCount
      else loop.pendingCount + max 1 chunk.textDelta.length
    pendingLogprobs := loop.pendingLogprobs ++ chunk.logprobs }

/-- The time of the first chunk that has text. -/
def Loop.noteText (now : ℕ) : Loop Logprob :=
  { loop with
    firstTextAt :=
      if chunk.textDelta ≠ "" ∧ loop.firstTextAt = none then some now
      else loop.firstTextAt }

def onCandidateDelta : Producer Logprob Candidate :=
  .putting {
      seq := loop.seq
      textDelta := chunk.textDelta
      finishReason := chunk.finishReason
      choiceIndex := chunk.choiceIndex
      logprobs := chunk.logprobs
      toolCallDelta := chunk.toolCallDelta }
    (fun _ => .awaiting { loop with seq := loop.seq + 1 })
    (enqueueTransportFailure loop.seq)

def onDone : Producer Logprob Candidate :=
  flushPending (loop.gather chunk) (fun flushed => putTerminal {
        seq := flushed.seq
        done := true
        finishReason := some (chunk.finishReason.getD .stop)
        promptTokens := chunk.promptTokens
        completionTokens := chunk.completionTokens
        ttftMs := computeTtftMs flushed.publishAt flushed.firstTextAt
        errorCode := chunk.errorCode
        errorMessage := chunk.errorMessage
        candidates := chunk.candidates }
      (enqueueTransportFailure flushed.seq))
    (enqueueTransportFailure loop.seq)

/-- A tool-call delta goes out alone, after the pending text; the text of its own
chunk is not gathered. -/
def onToolCall (delta : ToolCallDelta) : Producer Logprob Candidate :=
  flushPending loop (fun flushed => .putting {
        seq := flushed.seq
        isFirst := flushed.seq = 0
        toolCallDelta := some delta }
      (fun _ => .awaiting { flushed with seq := flushed.seq + 1 })
      (enqueueTransportFailure flushed.seq))
    (enqueueTransportFailure loop.seq)

def onDelta (now : ℕ) : Producer Logprob Candidate :=
  let gathered := loop.gather chunk
  if flushMaxTokens ≤ gathered.pendingCount ∨
      gathered.pendingText ≠ [] ∧ flushIntervalMs ≤ now - gathered.lastFlushTs then
    flushPending gathered .awaiting (enqueueTransportFailure loop.seq)
  else .awaiting gathered

/-- One turn of the loop.  `multiCandidate` is set when several candidates are
streamed. -/
def onChunk (multiCandidate : Bool) (loop : Loop Logprob)
    (chunk : GenerationChunk Logprob Candidate) (now : ℕ) : Producer Logprob Candidate :=
  let noted := loop.noteText chunk now
  if multiCandidate ∧ ¬ chunk.done then onCandidateDelta noted chunk
  else if chunk.done then onDone noted chunk
  else match chunk.toolCallDelta with
    | some delta => onToolCall noted delta
    | none => onDelta noted chunk now

/-- The iterator ended without a terminal chunk. -/
def onExhausted : Producer Logprob Candidate :=
  flushPending loop (fun flushed => putTerminal {
        seq := flushed.seq
        done := true
        finishReason := some .stop
        ttftMs := computeTtftMs flushed.publishAt flushed.firstTextAt }
      (.stopped false false))
    (enqueueTransportFailure loop.seq)

/-- The iterator raised; the pending text is dropped. -/
def onRaised (message : String) : Producer Logprob Candidate :=
  putTerminal {
      seq := loop.seq
      done := true
      finishReason := some .error
      errorCode := some "inference_error"
      errorMessage := some message }
    (.stopped false false)

def onCancelled : Producer Logprob Candidate :=
  flushPending loop (fun flushed => putTerminal {
        seq := flushed.seq
        done := true
        finishReason := some .cancelled
        ttftMs := computeTtftMs flushed.publishAt flushed.firstTextAt }
      (.stopped false false))
    (.stopped false false)

end

/-! ## Sound producers -/

/-- The text of a list of envelopes. -/
def textOf (sent : List (Envelope Logprob Candidate)) : String :=
  String.join (sent.map fun envelope => envelope.textDelta)

@[simp]
theorem textOf_append (sent more : List (Envelope Logprob Candidate)) :
    textOf (sent ++ more) = textOf sent ++ textOf more := by
  simp [textOf]

@[simp]
theorem textOf_singleton (envelope : Envelope Logprob Candidate) :
    textOf [envelope] = envelope.textDelta := by
  simp [textOf]

/-- Numbered from zero, with no terminal yet. -/
structure Unfinished (sent : List (Envelope Logprob Candidate)) : Prop where
  numbered : sent.map (fun envelope => envelope.seq) = List.range sent.length
  running : ∀ envelope ∈ sent, envelope.done = false

def Succeeds (terminal : Envelope Logprob Candidate) : Prop :=
  terminal.finishReason ≠ some .error ∧ terminal.finishReason ≠ some .cancelled

/-- Numbered from zero up to one terminal, which closes the whole text when it
reports success. -/
structure Finished (spoken : String) (sent : List (Envelope Logprob Candidate)) : Prop where
  closed : ∃ front terminal, sent = front ++ [terminal] ∧ Unfinished front ∧
    terminal.seq = front.length ∧ terminal.done = true ∧ (Succeeds terminal → textOf sent = spoken)

/-- The loop can go on: the text spoken so far has been put or is pending. -/
structure Ready (spoken : String) (sent : List (Envelope Logprob Candidate))
    (loop : Loop Logprob) : Prop where
  unfinished : Unfinished sent
  next : loop.seq = sent.length
  text : textOf sent ++ String.join loop.pendingText = spoken

/-- However the puts of a producer end, the accepted ones are numbered from zero and
end with a terminal exactly when the producer says so. -/
def Sound (multiCandidate : Bool) (spoken : String) :
    List (Envelope Logprob Candidate) → Producer Logprob Candidate → Prop
  | sent, .awaiting loop =>
    Ready spoken sent loop ∧ (multiCandidate = true → loop.pendingText = [])
  | sent, .putting envelope accepted timedOut =>
    (∀ now, Sound multiCandidate spoken (sent ++ [envelope]) (accepted now)) ∧
      Sound multiCandidate spoken sent timedOut
  | sent, .stopped true _ => Finished spoken sent
  | sent, .stopped false _ => Unfinished sent

theorem unfinished_nil : Unfinished ([] : List (Envelope Logprob Candidate)) where
  numbered := rfl
  running := by simp

variable {sent : List (Envelope Logprob Candidate)} {envelope : Envelope Logprob Candidate}

theorem Unfinished.append (hsent : Unfinished sent) (hseq : envelope.seq = sent.length)
    (hdone : envelope.done = false) :
    Unfinished (sent ++ [envelope]) where
  numbered := by simp [hsent.numbered, hseq, List.range_succ]
  running := by
    exact List.forall_mem_append.2 ⟨hsent.running, List.forall_mem_singleton.2 hdone⟩

section Steps

variable {loop : Loop Logprob}

theorem putTerminal_sound (hsent : Unfinished sent)
    (hseq : terminal.seq = sent.length) (hdone : terminal.done = true)
    (htext : Succeeds terminal → textOf (sent ++ [terminal]) = spoken)
    (htimedOut : Sound multiCandidate spoken sent timedOut) :
    Sound multiCandidate spoken sent (putTerminal terminal timedOut) :=
  ⟨fun _ => ⟨sent, terminal, rfl, hsent, hseq, hdone, htext⟩, htimedOut⟩

theorem enqueueTransportFailure_sound (hsent : Unfinished sent) (hseq : seq = sent.length) :
    Sound multiCandidate spoken sent (enqueueTransportFailure seq) :=
  ⟨fun _ => ⟨sent, _, rfl, hsent, hseq, rfl, fun hsucceeds => absurd rfl hsucceeds.1⟩, hsent⟩

section

variable (hready : Ready spoken sent loop)
include hready

/-- After a flush everything spoken has been put. -/
theorem flushPending_sound
    (hnext : ∀ flushed more, Ready spoken more flushed → flushed.pendingText = [] →
      Sound multiCandidate spoken more (next flushed))
    (hoverflow : Sound multiCandidate spoken sent overflow) :
    Sound multiCandidate spoken sent (flushPending loop next overflow) := by
  unfold flushPending
  split
  · rename_i hempty
    exact hnext loop sent hready hempty
  · refine ⟨fun now => hnext _ _ ?_ rfl, hoverflow⟩
    exact {
      unfinished := hready.unfinished.append hready.next rfl
      next := by simp [hready.next]
      text := by simpa [String.join] using hready.text }

variable (chunk : GenerationChunk Logprob Candidate)

theorem Ready.gather : Ready (spoken ++ chunk.textDelta) sent (loop.gather chunk) where
  unfinished := hready.unfinished
  next := hready.next
  text := by
    rw [← hready.text]
    by_cases hempty : chunk.textDelta = ""
    · simp [Loop.gather, hempty]
    · simp [Loop.gather, hempty, String.append_assoc]

theorem Ready.noteText (now : ℕ) : Ready spoken sent (loop.noteText chunk now) :=
  ⟨hready.unfinished, hready.next, hready.text⟩

theorem onCandidateDelta_sound (hempty : loop.pendingText = [])
    (chunk : GenerationChunk Logprob Candidate) :
    Sound multiCandidate (spoken ++ chunk.textDelta) sent (onCandidateDelta loop chunk) := by
  refine ⟨fun _ => ⟨?_, fun _ => hempty⟩,
    enqueueTransportFailure_sound hready.unfinished hready.next⟩
  exact {
    unfinished := hready.unfinished.append hready.next rfl
    next := by simp [hready.next]
    text := by simpa [hempty, String.join] using hready.text }

theorem onDone_sound :
    Sound multiCandidate (spoken ++ chunk.textDelta) sent (onDone loop chunk) := by
  refine flushPending_sound (hready.gather chunk) (fun flushed more hflushed hempty => ?_)
    (enqueueTransportFailure_sound hready.unfinished hready.next)
  refine putTerminal_sound hflushed.unfinished hflushed.next rfl (fun _ => ?_)
    (enqueueTransportFailure_sound hflushed.unfinished hflushed.next)
  simpa [hempty, String.join] using hflushed.text

theorem onToolCall_sound (delta : ToolCallDelta) :
    Sound multiCandidate spoken sent (onToolCall loop delta) := by
  refine flushPending_sound hready (fun flushed more hflushed hempty => ?_)
    (enqueueTransportFailure_sound hready.unfinished hready.next)
  refine ⟨fun _ => ⟨?_, fun _ => hempty⟩,
    enqueueTransportFailure_sound hflushed.unfinished hflushed.next⟩
  exact {
    unfinished := hflushed.unfinished.append hflushed.next rfl
    next := by simp [hflushed.next]
    text := by simpa using hflushed.text }

theorem onDelta_sound (now : ℕ) :
    Sound false (spoken ++ chunk.textDelta) sent (onDelta loop chunk now) := by
  unfold onDelta
  simp only
  split
  · exact flushPending_sound (hready.gather chunk)
      (fun flushed more hflushed hempty => ⟨hflushed, fun _ => hempty⟩)
      (enqueueTransportFailure_sound hready.unfinished hready.next)
  · exact ⟨hready.gather chunk, by simp⟩

end

/-- The text of a chunk that is handed on: all of it, unless the chunk carries a
tool-call delta in a stream of a single candidate. -/
def spokenText (multiCandidate : Bool) (chunk : GenerationChunk Logprob Candidate) :
    String :=
  if ¬ multiCandidate ∧ ¬ chunk.done ∧ chunk.toolCallDelta.isSome then ""
  else chunk.textDelta

theorem onChunk_sound (hloop : Sound multiCandidate spoken sent (.awaiting loop))
    (chunk : GenerationChunk Logprob Candidate) (now : ℕ) :
    Sound multiCandidate (spoken ++ spokenText multiCandidate chunk) sent
      (onChunk multiCandidate loop chunk now) := by
  obtain ⟨hready, hdirect⟩ := hloop
  have hnoted := hready.noteText chunk now
  unfold onChunk
  simp only
  split
  · rename_i hcandidate
    rw [spokenText, if_neg (by simp [hcandidate.1])]
    exact onCandidateDelta_sound hnoted (hdirect hcandidate.1) chunk
  · rename_i hsingle
    split
    · rename_i hdone
      rw [spokenText, if_neg (by simp [hdone])]
      exact onDone_sound hnoted chunk
    · rename_i hdone
      obtain rfl : multiCandidate = false := by
        cases multiCandidate with
        | false => rfl
        | true => exact absurd ⟨rfl, hdone⟩ hsingle
      split
      · rename_i delta hdelta
        rw [spokenText, if_pos (by simp [hdone, hdelta]), String.append_empty]
        exact onToolCall_sound hnoted delta
      · rename_i hdelta
        rw [spokenText, if_neg (by simp [hdelta])]
        exact onDelta_sound hnoted chunk now

section

variable (hready : Ready spoken sent loop)
include hready

theorem onExhausted_sound : Sound multiCandidate spoken sent
      (onExhausted loop : Producer Logprob Candidate) := by
  refine flushPending_sound hready (fun flushed more hflushed hempty => ?_)
    (enqueueTransportFailure_sound hready.unfinished hready.next)
  refine putTerminal_sound hflushed.unfinished hflushed.next rfl (fun _ => ?_) hflushed.unfinished
  simpa [hempty, String.join] using hflushed.text

theorem onRaised_sound (message : String) :
    Sound multiCandidate spoken sent (onRaised loop message : Producer Logprob Candidate) :=
  putTerminal_sound hready.unfinished hready.next rfl
    (fun hsucceeds => absurd rfl hsucceeds.1) hready.unfinished

theorem onCancelled_sound : Sound multiCandidate spoken sent
      (onCancelled loop : Producer Logprob Candidate) :=
  flushPending_sound hready (fun _ _ hflushed _ =>
    putTerminal_sound hflushed.unfinished hflushed.next rfl
      (fun hsucceeds => absurd rfl hsucceeds.2) hflushed.unfinished)
    hready.unfinished

end

/-- What a producer has put so far is in order, finished or not. -/
theorem Sound.inOrder (hsound : Sound multiCandidate spoken sent producer) :
    Unfinished sent ∨ Finished spoken sent := by
  induction producer with
  | awaiting => exact .inl hsound.1.unfinished
  | putting _ _ _ _ ih => exact ih hsound.2
  | stopped terminalSent =>
    cases terminalSent with
    | true => exact .inr hsound
    | false => exact .inl hsound

end Steps

theorem Unfinished.seq_eq (hsent : Unfinished sent)
    (hget : sent[index]? = some envelope) : envelope.seq = index := by
  have hmap := congrArg (·[index]?) hsent.numbered
  simp only [List.getElem?_map, hget, Option.map_some] at hmap
  obtain ⟨hlt, hindex⟩ := List.getElem?_eq_some_iff.1 hmap.symm
  simpa using hindex.symm

/-- An envelope of a stream in order carries its position; a terminal is the last. -/
theorem getElem_of_inOrder (horder : Unfinished sent ∨ Finished spoken sent)
    (hget : sent[index]? = some envelope) :
    envelope.seq = index ∧ (envelope.done = true → index + 1 = sent.length ∧
      (Succeeds envelope → textOf sent = spoken)) := by
  rcases horder with hrunning | ⟨front, terminal, rfl, hfront, hseq, hdone, htext⟩
  · refine ⟨hrunning.seq_eq hget, fun hdone => ?_⟩
    rw [hrunning.running envelope (List.mem_of_getElem? hget)] at hdone
    cases hdone
  · rcases lt_or_ge index front.length with hlt | hge
    · rw [List.getElem?_append_left hlt] at hget
      refine ⟨hfront.seq_eq hget, fun hdone => ?_⟩
      rw [hfront.running envelope (List.mem_of_getElem? hget)] at hdone
      cases hdone
    · rw [List.getElem?_append_right hge, List.getElem?_singleton] at hget
      split at hget
      · rename_i hindex
        cases hget
        have hlast : index = front.length := by omega
        exact ⟨hseq.trans hlast.symm, fun _ => ⟨by simp [hlast], htext⟩⟩
      · cases hget

end SieCluster.StreamEmitter
