import SieCluster.Core.Runs
import SieCluster.Server.StreamEmitter

/-!
# One attempt at a generation request

An attempt first passes a row of checks, any of which may end it with a single
message.  Then a producer fills a bounded queue while a publisher drains it, each
at its own pace; puts may be given up, publishes may fail, the caller may cancel.
When the producer has left its loop the queue is closed, the publisher is joined
or given up, and only then the work message is acknowledged or left.
-/

namespace SieCluster.StreamAttempt

open Runs StreamEmitter List

/-! ## Checks before the stream -/

inductive LoadAnswer
  | notRegistered
  | failed
  | loaded (isGenerationAdapter : Bool)
  deriving DecidableEq, Repr

/-- An error code and its message. -/
abbrev Refusal := String × String

/-- What each check finds when it is made.  The four cancel answers are what the
cancel event shows after the load, the template, the length check and the grammar. -/
structure PreflightAnswers where
  modelId : String
  tombstone : Bool
  load : LoadAnswer
  cancelledAfterLoad : Bool
  validation : Option Refusal
  imagesUnsupported : Bool
  template : Option Refusal
  cancelledAfterTemplate : Bool
  contextLength : Option Refusal
  cancelledAfterContext : Bool
  toolChoice : Option String
  grammar : Option Refusal
  cancelledAfterGrammar : Bool
  admitted : Bool
  deriving DecidableEq, Repr

inductive Wire (Logprob Candidate : Type)
  | chunk (envelope : Envelope Logprob Candidate)
  | nak (reason : String)
  deriving DecidableEq

inductive PreflightEnd (Logprob Candidate : Type)
  | reply (message : Wire Logprob Candidate)
  | nakWork
  | stream

variable {Logprob Candidate : Type}

def terminalError (refusal : Refusal) : PreflightEnd Logprob Candidate :=
  .reply (.chunk {
    seq := 0
    done := true
    finishReason := some .error
    errorCode := some refusal.1
    errorMessage := some refusal.2 })

def cancelledReply : PreflightEnd Logprob Candidate :=
  .reply (.chunk { seq := 0, done := true, finishReason := some .cancelled })

def tombstoneRefusal : Refusal :=
  ("transport_failure", "request cancelled before this worker registered " ++
    "(first-chunk fallback race); another attempt is authoritative")

def notGenerationRefusal (modelId : String) : Refusal :=
  ("unsupported_field", "Model '" ++ modelId ++
    "' adapter does not support generate (not a GenerationAdapter)")

def imageRefusal (modelId : String) : Refusal :=
  ("invalid_request", "model '" ++ modelId ++ "' does not support image input")

/-- The checks from the validated parameters on. -/
def preflightLoaded (answers : PreflightAnswers) : PreflightEnd Logprob Candidate :=
  if answers.cancelledAfterLoad then cancelledReply
  else if let some refusal := answers.validation then terminalError refusal
  else if answers.imagesUnsupported then terminalError (imageRefusal answers.modelId)
  else if let some refusal := answers.template then terminalError refusal
  else if answers.cancelledAfterTemplate then cancelledReply
  else if let some refusal := answers.contextLength then terminalError refusal
  else if answers.cancelledAfterContext then cancelledReply
  else if let some message := answers.toolChoice then
    terminalError ("invalid_request", message)
  else if let some refusal := answers.grammar then terminalError refusal
  else if answers.cancelledAfterGrammar then cancelledReply
  else if ¬ answers.admitted then .reply (.nak "kv_budget")
  else .stream

def preflight (answers : PreflightAnswers) : PreflightEnd Logprob Candidate :=
  if answers.tombstone then terminalError tombstoneRefusal
  else match answers.load with
    | .notRegistered => .reply (.nak "model_not_loaded")
    | .failed => .nakWork
    | .loaded false => terminalError (notGenerationRefusal answers.modelId)
    | .loaded true => preflightLoaded answers

/-! ## The attempt -/

def chunkQueueMax : ℕ := 64

section

variable (Logprob Candidate : Type)

/-- The publisher task: between two items, in the middle of a publish, or over. -/
inductive Publisher
  | idle (sawTerminal : Bool)
  | sending (envelope : Envelope Logprob Candidate) (sawTerminal : Bool)
  | finished (ok : Bool)

inductive Phase
  | preflight
  | replying (message : Wire Logprob Candidate)
  | streaming (producer : Producer Logprob Candidate)
  | closing (terminalSent transportFailurePublished sentinelTried : Bool)
  | ended

/-- `produced` is the history of the adapter's stream; a `none` in the queue is the
sentinel that ends the publisher. -/
structure State where
  phase : Phase Logprob Candidate := .preflight
  queue : List (Option (Envelope Logprob Candidate)) := []
  publisher : Publisher Logprob Candidate := .idle false
  published : List (Wire Logprob Candidate) := []
  produced : List (GenerationChunk Logprob Candidate) := []
  acked : Bool := false

/-- What can happen next.  A publish that ends has reached the subject or not, and
has ended well or not; a message may be out although its publish ended in an error. -/
inductive Event
  | preflight (answers : PreflightAnswers) (now : ℕ)
  | preflightRaised
  | replied (reached ok : Bool)
  | yields (chunk : GenerationChunk Logprob Candidate) (now : ℕ)
  | exhausted
  | raises (message : String)
  | cancelled
  | aborted
  | put (now : ℕ)
  | putTimeout
  | leave
  | sentinel
  | noSentinel
  | take
  | sent (reached ok : Bool)
  | join
  | joinTimeout (reached : Bool)

end

def publishIf (reached : Bool) (message : Wire Logprob Candidate)
    (state : State Logprob Candidate) : State Logprob Candidate :=
  if reached then { state with published := state.published ++ [message] } else state

section

variable (multiCandidate : Bool)

/-- Events of the producer while it waits for the adapter. -/
def react (loop : Loop Logprob) : Event Logprob Candidate → Option (Producer Logprob Candidate)
  | .yields chunk now => some (onChunk multiCandidate loop chunk now)
  | .exhausted => some (onExhausted loop)
  | .raises message => some (onRaised loop message)
  | .cancelled => some (onCancelled loop)
  | .aborted => some (.stopped false false)
  | _ => none

/-- The adapter's stream up to and including an event. -/
def heard (produced : List (GenerationChunk Logprob Candidate)) :
    Event Logprob Candidate → List (GenerationChunk Logprob Candidate)
  | .yields chunk _ => produced ++ [chunk]
  | _ => produced

variable (state : State Logprob Candidate)

def stepProducer (producer : Producer Logprob Candidate) (event : Event Logprob Candidate) :
    Option (State Logprob Candidate) :=
  match producer, event with
  | .awaiting loop, event =>
    (react multiCandidate loop event).map fun next =>
      { state with
        phase := .streaming next
        produced := heard state.produced event }
  | .putting envelope accepted _, .put now =>
    if state.queue.length < chunkQueueMax then
      some { state with
        phase := .streaming (accepted now)
        queue := state.queue ++ [some envelope] }
    else none
  | .putting _ _ timedOut, .putTimeout =>
    some { state with phase := .streaming timedOut }
  | .stopped terminalSent transportFailurePublished, .leave =>
    some { state with phase := .closing terminalSent transportFailurePublished false }
  | _, _ => none

def stepClosing (terminalSent transportFailurePublished sentinelTried : Bool) :
    Event Logprob Candidate → Option (State Logprob Candidate)
  | .sentinel =>
    if ¬ sentinelTried ∧ state.queue.length < chunkQueueMax then
      some { state with
        phase := .closing terminalSent transportFailurePublished true
        queue := state.queue ++ [none] }
    else none
  | .noSentinel =>
    if ¬ sentinelTried ∧ ¬ state.queue.length < chunkQueueMax then
      some { state with phase := .closing terminalSent transportFailurePublished true }
    else none
  | .join =>
    match state.publisher with
    | .finished publisherOk =>
      if sentinelTried then
        some { state with
          phase := .ended
          acked := terminalSent && publisherOk && !transportFailurePublished }
      else none
    | _ => none
  | .joinTimeout reached =>
    match state.publisher with
    | .finished _ => none
    | .idle _ =>
      if sentinelTried then
        some { state with phase := .ended, publisher := .finished false }
      else none
    | .sending envelope _ =>
      if sentinelTried then
        some (publishIf reached (.chunk envelope)
          { state with phase := .ended, publisher := .finished false })
      else none
  | _ => none

def stepPublisher : Event Logprob Candidate → Option (State Logprob Candidate)
  | .take =>
    match state.publisher, state.queue with
    | .idle sawTerminal, some envelope :: rest =>
      some { state with queue := rest, publisher := .sending envelope sawTerminal }
    | .idle sawTerminal, none :: rest =>
      some { state with queue := rest, publisher := .finished sawTerminal }
    | _, _ => none
  | .sent reached ok =>
    match state.publisher with
    | .sending envelope sawTerminal =>
      if ok then
        some (publishIf true (.chunk envelope)
          { state with publisher := .idle (sawTerminal || envelope.done) })
      else
        some (publishIf reached (.chunk envelope)
          { state with publisher := .finished false })
    | _ => none
  | _ => none

def stepReply (message : Wire Logprob Candidate) :
    Event Logprob Candidate → Option (State Logprob Candidate)
  | .replied reached ok =>
    some (publishIf (reached || ok) message { state with phase := .ended, acked := ok })
  | _ => none

def stepPreflight : Event Logprob Candidate → Option (State Logprob Candidate)
  | .preflight answers now =>
    match preflight answers with
    | .reply message => some { state with phase := .replying message }
    | .nakWork => some { state with phase := .ended }
    | .stream => some { state with
        phase := .streaming (.awaiting { lastFlushTs := now, publishAt := now }) }
  | .preflightRaised => some { state with phase := .ended }
  | _ => none

/-- A step of the publisher, or else one of the phase the attempt is in. -/
def step (event : Event Logprob Candidate) : Option (State Logprob Candidate) :=
  (stepPublisher state event).or (match state.phase with
      | .preflight => stepPreflight state event
      | .replying message => stepReply state message event
      | .streaming producer => stepProducer multiCandidate state producer event
      | .closing terminalSent transportFailurePublished sentinelTried =>
        stepClosing state terminalSent transportFailurePublished sentinelTried event
      | .ended => none)

end

/-! ## Queue and publisher -/

/-- How far the publisher has got with what the producer has put: everything is
published, in its hands or queued, until it gives up. -/
def Drains (sent out : List (Envelope Logprob Candidate))
    (queue : List (Option (Envelope Logprob Candidate))) :
    Publisher Logprob Candidate → Prop
  | .idle sawTerminal =>
    sent = out ++ queue.reduceOption ∧ sawTerminal = out.any fun envelope => envelope.done
  | .sending envelope sawTerminal =>
    sent = out ++ envelope :: queue.reduceOption ∧
      sawTerminal = out.any fun envelope => envelope.done
  | .finished ok =>
    out <+: sent ∧ (ok = true → (out.any fun envelope => envelope.done) = true)

theorem Drains.starts (hdrains : Drains sent out queue publisher) : out <+: sent := by
  cases publisher with
  | finished => exact hdrains.1
  | _ =>
    rw [hdrains.1]
    exact prefix_append _ _

theorem Drains.put
    (hdrains : Drains sent out queue publisher) (envelope : Envelope Logprob Candidate) :
    Drains (sent ++ [envelope]) out (queue ++ [some envelope]) publisher := by
  cases publisher with
  | idle => exact ⟨by simp [hdrains.1, reduceOption_append], hdrains.2⟩
  | sending =>
    exact ⟨by simp [hdrains.1, reduceOption_append], hdrains.2⟩
  | finished => exact ⟨hdrains.1.trans (prefix_append _ _), hdrains.2⟩

theorem Drains.sentinel
    (hdrains : Drains sent out queue publisher) : Drains sent out (queue ++ [none]) publisher := by
  cases publisher with
  | idle => exact ⟨by simp [hdrains.1, reduceOption_append], hdrains.2⟩
  | sending =>
    exact ⟨by simp [hdrains.1, reduceOption_append], hdrains.2⟩
  | finished => exact hdrains

/-- All text the stream has produced, as far as it is handed on. -/
def spokenOf (multiCandidate : Bool)
    (produced : List (GenerationChunk Logprob Candidate)) : String :=
  String.join (produced.map (spokenText multiCandidate))

/-- The producer is sound for what it has put, and the publisher is somewhere in it. -/
def Flows (multiCandidate : Bool) (state : State Logprob Candidate)
    (producer : Producer Logprob Candidate) : Prop :=
  state.acked = false ∧ ∃ sent out, state.published = out.map Wire.chunk ∧
    Drains sent out state.queue state.publisher ∧
      Sound multiCandidate (spokenOf multiCandidate state.produced) sent producer

variable {next : State Logprob Candidate}

section Publishing

theorem stepPublisher_phase (hstep : stepPublisher state event = some next) :
    next.phase = state.phase := by
  unfold stepPublisher at hstep
  split at hstep
  · split at hstep <;> cases hstep <;> rfl
  · split at hstep
    · split at hstep <;> cases hstep <;> (unfold publishIf; split <;> rfl)
    · cases hstep
  · cases hstep

theorem Drains.publisher (hpublished : state.published = out.map Wire.chunk)
    (hdrains : Drains sent out state.queue state.publisher)
    (hstep : stepPublisher state event = some next) :
    (next.acked = state.acked ∧ next.produced = state.produced) ∧
      ∃ out, next.published = out.map Wire.chunk ∧ Drains sent out next.queue next.publisher := by
  unfold stepPublisher at hstep
  split at hstep
  · split at hstep
    · rename_i sawTerminal envelope rest hpublisher hqueue
      cases hstep
      rw [hpublisher, hqueue] at hdrains
      exact ⟨⟨rfl, rfl⟩, out, hpublished, by simpa [Drains] using hdrains⟩
    · rename_i sawTerminal rest hpublisher hqueue
      cases hstep
      rw [hpublisher, hqueue] at hdrains
      refine ⟨⟨rfl, rfl⟩, out, hpublished, hdrains.starts, ?_⟩
      rintro rfl
      exact hdrains.2.symm
    · cases hstep
  · split at hstep
    · rename_i reached ok publisher envelope sawTerminal hpublisher
      rw [hpublisher] at hdrains
      obtain ⟨hsent, hsaw⟩ := hdrains
      have hout : state.published ++ [.chunk envelope] = (out ++ [envelope]).map Wire.chunk := by
        simp [hpublished]
      have hstarts : out ++ [envelope] <+: sent :=
        ⟨state.queue.reduceOption, by simp [hsent]⟩
      split at hstep
      · cases hstep
        exact ⟨⟨rfl, rfl⟩, out ++ [envelope], hout, by simp [hsent, publishIf], by simp [hsaw]⟩
      · cases hstep
        cases reached with
        | true => exact ⟨⟨rfl, rfl⟩, out ++ [envelope], hout, hstarts, by simp⟩
        | false =>
          exact ⟨⟨rfl, rfl⟩, out, hpublished, (prefix_append _ _).trans hstarts, by simp⟩
    · cases hstep
  · cases hstep

theorem Flows.publisher (hflows : Flows multiCandidate state producer)
    (hstep : stepPublisher state event = some next) :
    Flows multiCandidate next producer := by
  obtain ⟨hacked, sent, out, hpublished, hdrains, hsound⟩ := hflows
  obtain ⟨⟨hsame, hproduced⟩, later, hlater⟩ := hdrains.publisher hpublished hstep
  rw [Flows, hsame, hproduced]
  exact ⟨hacked, sent, later, hlater.1, hlater.2, hsound⟩

/-- While the producer waits for the adapter. -/
theorem Flows.react (hflows : Flows multiCandidate state (.awaiting loop))
    (hreact : react multiCandidate loop event = some reaction) :
    Flows multiCandidate { state with
      phase := .streaming reaction
      produced := heard state.produced event } reaction := by
  obtain ⟨hacked, sent, out, hpublished, hdrains, hsound⟩ := hflows
  have hready := hsound.1
  refine ⟨hacked, sent, out, hpublished, hdrains, ?_⟩
  unfold StreamAttempt.react at hreact
  split at hreact
  · cases hreact
    simpa [spokenOf, heard] using onChunk_sound hsound _ _
  · cases hreact
    exact onExhausted_sound hready
  · cases hreact
    exact onRaised_sound hready _
  · cases hreact
    exact onCancelled_sound hready
  · cases hreact
    exact hready.unfinished
  · cases hreact

end Publishing

/-! ## What an attempt emits -/

/-- A single message that ends an attempt before its stream: a refusal, or a hand-over
to another worker. -/
def IsReply : Wire Logprob Candidate → Prop
  | .chunk envelope => envelope.seq = 0 ∧ envelope.done = true ∧ ¬ Succeeds envelope
  | .nak _ => True

theorem isReply_of_terminalError
    (hreply : terminalError refusal = .reply message) : IsReply message := by
  cases hreply
  exact ⟨rfl, rfl, fun hsucceeds => hsucceeds.1 rfl⟩

theorem isReply_of_cancelledReply (hreply : cancelledReply = .reply message) : IsReply message := by
  cases hreply
  exact ⟨rfl, rfl, fun hsucceeds => hsucceeds.2 rfl⟩

theorem isReply_of_preflight (hreply : preflight answers = .reply message) : IsReply message := by
  unfold preflight preflightLoaded at hreply
  repeat' split at hreply
  all_goals first
    | exact isReply_of_terminalError hreply
    | exact isReply_of_cancelledReply hreply
    | (cases hreply <;> trivial)

/-- What has been published is a stretch of a stream in order, or a single hand-over;
an acknowledged attempt has published its end. -/
def InOrder (multiCandidate : Bool) (state : State Logprob Candidate) : Prop :=
  (∃ sent out, state.published = out.map Wire.chunk ∧ out <+: sent ∧
      (Unfinished sent ∨ Finished (spokenOf multiCandidate state.produced) sent) ∧
      (state.acked = true → (out.any fun envelope => envelope.done) = true)) ∨
    ∃ reason, state.published = [.nak reason]

/-- Nothing is left for the publisher to do. -/
def Quiet (state : State Logprob Candidate) : Prop :=
  state.queue = [] ∧ state.publisher = .idle false ∨ ∃ ok, state.publisher = .finished ok

def Untouched (state : State Logprob Candidate) : Prop :=
  state.queue = [] ∧ state.publisher = .idle false ∧ state.published = [] ∧
    state.produced = [] ∧ state.acked = false

def Invariant (multiCandidate : Bool) (state : State Logprob Candidate) : Prop :=
  match state.phase with
  | .preflight => Untouched state
  | .replying message => Untouched state ∧ IsReply message
  | .streaming producer => Flows multiCandidate state producer
  | .closing terminalSent transportFailurePublished _ =>
    Flows multiCandidate state (.stopped terminalSent transportFailurePublished)
  | .ended => Quiet state ∧ InOrder multiCandidate state

section Steps

theorem inOrder_untouched (huntouched : Untouched state) : InOrder multiCandidate state := by
  obtain ⟨-, -, hpublished, -, hacked⟩ := huntouched
  exact .inl ⟨[], [], hpublished, prefix_rfl, .inl unfinished_nil, by simp [hacked]⟩

theorem Flows.inOrder (hflows : Flows multiCandidate state producer) :
    InOrder multiCandidate state := by
  obtain ⟨hacked, sent, out, hpublished, hdrains, hsound⟩ := hflows
  exact .inl ⟨sent, out, hpublished, hdrains.starts, hsound.inOrder, by simp [hacked]⟩

theorem Invariant.inOrder (hinvariant : Invariant multiCandidate state) :
    InOrder multiCandidate state := by
  unfold Invariant at hinvariant
  split at hinvariant
  · exact inOrder_untouched hinvariant
  · exact inOrder_untouched hinvariant.1
  · exact hinvariant.inOrder
  · exact hinvariant.inOrder
  · exact hinvariant.2

theorem stepPublisher_of_quiet (hquiet : Quiet state) : stepPublisher state event = none := by
  unfold stepPublisher
  rcases hquiet with ⟨hqueue, hpublisher⟩ | ⟨ok, hpublisher⟩
  · simp only [hqueue, hpublisher]
    split <;> rfl
  · simp only [hpublisher]
    split <;> rfl

theorem Untouched.quiet (huntouched : Untouched state) : Quiet state :=
  .inl ⟨huntouched.1, huntouched.2.1⟩

theorem invariant_stepPreflight (huntouched : Untouched state)
    (hstep : stepPreflight state event = some next) :
    Invariant multiCandidate next := by
  unfold stepPreflight at hstep
  split at hstep
  · split at hstep
    · rename_i message hreply
      cases hstep
      exact ⟨huntouched, isReply_of_preflight hreply⟩
    · cases hstep
      exact ⟨huntouched.quiet, inOrder_untouched huntouched⟩
    · cases hstep
      obtain ⟨hqueue, hpublisher, hpublished, hproduced, hacked⟩ := huntouched
      refine ⟨hacked, [], [], hpublished, ?_, ⟨unfinished_nil, rfl, ?_⟩, fun _ => rfl⟩
      · simp [hqueue, hpublisher, Drains]
      · simp [hproduced, spokenOf, textOf, String.join]
  · cases hstep
    exact ⟨huntouched.quiet, inOrder_untouched huntouched⟩
  · cases hstep

theorem invariant_stepReply (huntouched : Untouched state) (hreply : IsReply message)
    (hstep : stepReply state message event = some next) :
    Invariant multiCandidate next := by
  unfold stepReply at hstep
  split at hstep
  · rename_i reached ok
    cases hstep
    obtain ⟨hqueue, hpublisher, hpublished, hproduced, hacked⟩ := huntouched
    cases hout : reached || ok with
    | false =>
      obtain ⟨rfl, rfl⟩ := Bool.or_eq_false_iff.1 hout
      exact ⟨.inl ⟨hqueue, hpublisher⟩, .inl ⟨[], [], hpublished, prefix_rfl,
        .inl unfinished_nil, by simp [publishIf]⟩⟩
    | true =>
      refine ⟨.inl ⟨hqueue, hpublisher⟩, ?_⟩
      cases message with
      | nak reason => exact .inr ⟨reason, by simp [publishIf, hpublished]⟩
      | chunk envelope =>
        obtain ⟨hseq, hdone, hfails⟩ := hreply
        refine .inl ⟨[envelope], [envelope], by simp [publishIf, hpublished],
          prefix_rfl, .inr ⟨[], envelope, rfl, unfinished_nil, hseq, hdone, ?_⟩,
          by simp [hdone]⟩
        exact fun hsucceeds => absurd hsucceeds hfails
  · cases hstep

theorem invariant_stepProducer (hflows : Flows multiCandidate state producer)
    (hstep : stepProducer multiCandidate state producer event = some next) :
    Invariant multiCandidate next := by
  unfold stepProducer at hstep
  split at hstep
  · obtain ⟨reaction, hreact, rfl⟩ := Option.map_eq_some_iff.1 hstep
    exact hflows.react hreact
  · obtain ⟨hacked, sent, out, hpublished, hdrains, hsound⟩ := hflows
    split at hstep
    · cases hstep
      exact ⟨hacked, _, out, hpublished, hdrains.put _, hsound.1 _⟩
    · cases hstep
  · cases hstep
    obtain ⟨hacked, sent, out, hpublished, hdrains, hsound⟩ := hflows
    exact ⟨hacked, sent, out, hpublished, hdrains, hsound.2⟩
  · cases hstep
    exact hflows
  · cases hstep

theorem invariant_stepClosing
    (hflows : Flows multiCandidate state (.stopped terminalSent transportFailurePublished))
    (hstep : stepClosing state terminalSent transportFailurePublished sentinelTried event =
      some next) :
    Invariant multiCandidate next := by
  have horder := hflows.inOrder
  obtain ⟨hacked, sent, out, hpublished, hdrains, hsound⟩ := hflows
  unfold stepClosing at hstep
  split at hstep
  · split at hstep
    · cases hstep
      exact ⟨hacked, sent, out, hpublished, hdrains.sentinel, hsound⟩
    · cases hstep
  · split at hstep
    · cases hstep
      exact ⟨hacked, sent, out, hpublished, hdrains, hsound⟩
    · cases hstep
  · split at hstep
    · rename_i publisherOk hpublisher
      split at hstep
      · cases hstep
        rw [hpublisher] at hdrains
        refine ⟨.inr ⟨publisherOk, hpublisher⟩, .inl ⟨sent, out, hpublished, hdrains.1,
          hsound.inOrder, fun hack => hdrains.2 ?_⟩⟩
        simp only [Bool.and_eq_true] at hack
        exact hack.1.2
      · cases hstep
    · cases hstep
  · split at hstep
    · cases hstep
    · split at hstep
      · cases hstep
        exact ⟨.inr ⟨false, rfl⟩, horder⟩
      · cases hstep
    · rename_i reached publisher envelope sawTerminal hpublisher
      split at hstep
      · cases hstep
        rw [hpublisher] at hdrains
        cases reached with
        | false => exact ⟨.inr ⟨false, rfl⟩, horder⟩
        | true =>
          refine ⟨.inr ⟨false, rfl⟩, .inl ⟨sent, out ++ [envelope],
            by simp [publishIf, hpublished], ⟨state.queue.reduceOption, ?_⟩,
            hsound.inOrder, by simp [publishIf, hacked]⟩⟩
          simp [hdrains.1]
      · cases hstep
  · cases hstep

theorem invariant_step (hinvariant : Invariant multiCandidate state)
    (hstep : step multiCandidate state event = some next) :
    Invariant multiCandidate next := by
  unfold step at hstep
  rcases Option.or_eq_some_iff.1 hstep with hpublisher | ⟨-, hphase⟩
  · have hsame := stepPublisher_phase hpublisher
    unfold Invariant at hinvariant ⊢
    rw [hsame]
    split at hinvariant
    · rw [stepPublisher_of_quiet hinvariant.quiet] at hpublisher
      cases hpublisher
    · rw [stepPublisher_of_quiet hinvariant.1.quiet] at hpublisher
      cases hpublisher
    · exact hinvariant.publisher hpublisher
    · exact hinvariant.publisher hpublisher
    · rw [stepPublisher_of_quiet hinvariant.1] at hpublisher
      cases hpublisher
  · unfold Invariant at hinvariant
    split at hphase
    · rename_i hcase
      rw [hcase] at hinvariant
      exact invariant_stepPreflight hinvariant hphase
    · rename_i message hcase
      rw [hcase] at hinvariant
      exact invariant_stepReply hinvariant.1 hinvariant.2 hphase
    · rename_i producer hcase
      rw [hcase] at hinvariant
      exact invariant_stepProducer hinvariant hphase
    · rename_i terminalSent transportFailurePublished sentinelTried hcase
      rw [hcase] at hinvariant
      exact invariant_stepClosing hinvariant hphase
    · cases hphase

end Steps

/-- What the caller can rely on: the published envelopes are numbered from zero, a
terminal is the last of them, a hand-over stands alone, an acknowledged attempt has
published its end, and a terminal that reports success closes the whole text. -/
structure Emits (multiCandidate : Bool) (state : State Logprob Candidate) : Prop where
  numbered : ∀ (index : ℕ) (envelope : Envelope Logprob Candidate),
    state.published[index]? = some (.chunk envelope) → envelope.seq = index
  terminalLast : ∀ (index : ℕ) (envelope : Envelope Logprob Candidate),
    state.published[index]? = some (.chunk envelope) → envelope.done = true →
      index + 1 = state.published.length
  handOverAlone : ∀ reason, .nak reason ∈ state.published → state.published = [.nak reason]
  acknowledged : state.acked = true → ∃ message ∈ state.published,
    (∃ envelope, message = .chunk envelope ∧ envelope.done = true) ∨ ∃ reason, message = .nak reason
  text : ∀ envelope, .chunk envelope ∈ state.published → envelope.done = true →
    Succeeds envelope → String.join (state.published.map fun
        | .chunk published => published.textDelta
        | .nak _ => "") =
      String.join (state.produced.map (spokenText multiCandidate))

theorem InOrder.emits (horder : InOrder multiCandidate state) : Emits multiCandidate state := by
  rcases horder with ⟨sent, out, hpublished, hstarts, hsent, hacked⟩ | ⟨reason, hnak⟩
  · have hget : ∀ (index : ℕ) envelope, state.published[index]? = some (.chunk envelope) →
        sent[index]? = some envelope ∧ index < out.length := by
      intro index envelope hindex
      rw [hpublished, List.getElem?_map] at hindex
      obtain ⟨other, hother, heq⟩ := Option.map_eq_some_iff.1 hindex
      cases heq
      obtain ⟨hlt, -⟩ := List.getElem?_eq_some_iff.1 hother
      obtain ⟨rest, rfl⟩ := hstarts
      exact ⟨by rw [List.getElem?_append_left hlt, hother], hlt⟩
    refine {
      numbered := fun index envelope hindex =>
        (getElem_of_inOrder hsent (hget index envelope hindex).1).1
      terminalLast := ?_
      handOverAlone := by simp [hpublished]
      acknowledged := ?_
      text := ?_ }
    · intro index envelope hindex hdone
      obtain ⟨hin, hlt⟩ := hget index envelope hindex
      have hlast := ((getElem_of_inOrder hsent hin).2 hdone).1
      have hle := hstarts.length_le
      rw [hpublished, length_map]
      omega
    · intro hack
      obtain ⟨envelope, hmem, hdone⟩ := any_eq_true.1 (hacked hack)
      exact ⟨.chunk envelope, by simpa [hpublished] using hmem, .inl ⟨envelope, rfl, hdone⟩⟩
    · intro envelope hmem hdone hsucceeds
      obtain ⟨index, hindex⟩ := mem_iff_getElem?.1 hmem
      obtain ⟨hin, hlt⟩ := hget index envelope hindex
      obtain ⟨hlast, htext⟩ := (getElem_of_inOrder hsent hin).2 hdone
      -- the terminal is out, so everything before it is
      have hall : out = sent := hstarts.eq_of_length_le (by omega)
      rw [hpublished, hall, map_map]
      exact htext hsucceeds
  · exact {
      numbered := by
        intro index envelope hindex
        rw [hnak] at hindex
        cases index with
        | zero => simp at hindex
        | succ => simp at hindex
      terminalLast := by
        intro index envelope hindex
        rw [hnak] at hindex
        cases index with
        | zero => simp at hindex
        | succ => simp at hindex
      handOverAlone := by
        intro other hother
        rw [hnak, mem_singleton] at hother
        rw [hnak, hother]
      acknowledged := fun _ => ⟨.nak reason, by simp [hnak], .inr ⟨reason, rfl⟩⟩
      text := by simp [hnak] }

/-- Whatever the checks find, the adapter produces and the queue and the broker do, an
attempt emits its stream in order and is acknowledged only after its end. -/
theorem attempt_emits_in_order (multiCandidate : Bool) {events : List (Event Logprob Candidate)}
    {state : State Logprob Candidate} (hrun : run (step multiCandidate) {} events = some state) :
    Emits multiCandidate state := by
  have hstart : Invariant multiCandidate ({} : State Logprob Candidate) :=
    show Untouched _ from ⟨rfl, rfl, rfl, rfl, rfl⟩
  have hinvariant := run_invariant (Invariant multiCandidate)
    (fun _ _ _ hstate hstep => invariant_step hstate hstep) hstart hrun
  exact hinvariant.inOrder.emits

/-- Checks that all pass. -/
def passingAnswers : PreflightAnswers where
  modelId := "org/m"
  tombstone := false
  load := .loaded true
  cancelledAfterLoad := false
  validation := none
  imagesUnsupported := false
  template := none
  cancelledAfterTemplate := false
  contextLength := none
  cancelledAfterContext := false
  toolChoice := none
  grammar := none
  cancelledAfterGrammar := false
  admitted := true

/-- Two chunks, the second one the terminal, both put and published at once. -/
def twoChunkEvents (first : GenerationChunk Unit Unit) : List (Event Unit Unit) :=
  [.preflight passingAnswers 0, .yields first 60, .put 60, .take, .sent true true,
    .yields { textDelta := "", done := true, finishReason := some .stop } 70,
    .put 70, .take, .sent true true, .leave, .sentinel, .take, .join]

theorem attempt_emits_in_order_twoChunks :
    ∃ state, run (step false) {} (twoChunkEvents { textDelta := "a" }) = some state ∧
      state.acked = true ∧ Emits false state := by
  have hdefined : (run (step false) {} (twoChunkEvents { textDelta := "a" })).isSome :=
    rfl
  have hrun := (Option.some_get hdefined).symm
  exact ⟨_, hrun, rfl, attempt_emits_in_order false hrun⟩

/-- The text of a chunk that also carries a tool-call delta is not published, and the
attempt is acknowledged after a terminal that reports success. -/
theorem text_lost_beside_toolCall : ∃ state, run (step false) {} (twoChunkEvents
        { textDelta := "a", toolCallDelta := some { index := 0 } }) = some state ∧
      state.acked = true ∧
      state.published = [
        .chunk { seq := 0, isFirst := true, toolCallDelta := some { index := 0 } },
        .chunk {
          seq := 1
          done := true
          finishReason := some .stop
          ttftMs := some 60 }] ∧
      String.join (state.produced.map fun chunk => chunk.textDelta) = "a" :=
  ⟨_, rfl, rfl, rfl, by decide⟩

end SieCluster.StreamAttempt
