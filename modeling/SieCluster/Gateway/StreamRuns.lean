import SieCluster.Core.Runs
import SieCluster.Gateway.Streaming

/-!
# Runs of one stream collector

The four operations of a collector may come in any order; a rewind undoes the
last bump and nothing else.  Every state such a run reaches is described by an
abstract log: the chunks accepted for the attempt in force, and the chunks that
the last bump has put aside.  The collector's per-attempt fields are a function
of that log (`attemptOf`), which is what the results about outcomes use.
-/

namespace SieCluster.StreamRuns

open Streaming List Option

/-- The fields of a collector that belong to the attempt in force. -/
def attempt (collector : StreamCollector) : AttemptSnapshot where
  chunks := collector.chunks
  toolCallsByIndex := collector.toolCallsByIndex
  logprobs := collector.logprobs
  firstChunkAt := collector.firstChunkAt
  lastChunkAt := collector.lastChunkAt
  lastOutputAt := collector.lastOutputAt
  outputEventCount := collector.outputEventCount
  currentAttemptId := collector.currentAttemptId
  lastAppliedSeq := collector.lastAppliedSeq
  executionIdentitySha256 := collector.executionIdentitySha256
  executionIdentityConsistent := collector.executionIdentityConsistent

/-- An attempt of which nothing has been accepted yet. -/
def emptyAttempt : AttemptSnapshot := attempt (StreamCollector.new 0)

/-- What accepting one chunk does to the attempt's fields. -/
def absorbAttempt (fields : AttemptSnapshot) (entry : ℕ × ChunkEnvelope) :
    AttemptSnapshot :=
  let collector : StreamCollector := {
    chunks := fields.chunks
    toolCallsByIndex := fields.toolCallsByIndex
    logprobs := fields.logprobs
    firstChunkAt := fields.firstChunkAt
    lastChunkAt := fields.lastChunkAt
    lastOutputAt := fields.lastOutputAt
    outputEventCount := fields.outputEventCount
    currentAttemptId := some entry.2.attemptId
    lastAppliedSeq := fields.lastAppliedSeq
    executionIdentitySha256 := fields.executionIdentitySha256
    executionIdentityConsistent := fields.executionIdentityConsistent }
  attempt (collector.absorb entry.1 entry.2)

variable (log : List (ℕ × ChunkEnvelope))

/-- The attempt's fields after the given chunks were accepted, each at its
instant. -/
def attemptOf : AttemptSnapshot :=
  log.foldl absorbAttempt emptyAttempt

@[simp]
theorem attemptOf_nil : attemptOf [] = emptyAttempt := rfl

theorem attemptOf_concat (entry : ℕ × ChunkEnvelope) :
    attemptOf (log ++ [entry]) = absorbAttempt (attemptOf log) entry := by
  simp [attemptOf]

theorem snapshot_bump (collector : StreamCollector) :
    collector.bumpAttemptGeneration.snapshot = some (attempt collector) := rfl

variable {collector : StreamCollector}

theorem attempt_rewind (hsnapshot : collector.snapshot = some snap) :
    attempt collector.rewindAttemptGeneration = snap := by
  simp [StreamCollector.rewindAttemptGeneration, hsnapshot, attempt]

section

variable (collector : StreamCollector) (attemptId : String)

theorem record_eq_or : collector.recordAbandonedAttemptId attemptId = collector ∨
      collector.recordAbandonedAttemptId attemptId =
        { collector with abandonedAttemptId := some attemptId } := by
  unfold StreamCollector.recordAbandonedAttemptId
  split
  · exact .inl rfl
  · exact .inr rfl

theorem attempt_record :
    attempt (collector.recordAbandonedAttemptId attemptId) = attempt collector := by
  rcases record_eq_or collector attemptId with heq | heq
  · rw [heq]
  · rw [heq]
    rfl

theorem snapshot_record : (collector.recordAbandonedAttemptId attemptId).snapshot =
      collector.snapshot := by
  rcases record_eq_or collector attemptId with heq | heq <;> rw [heq]

/-! ## The answers of `apply` -/

/-- A chunk was taken into the attempt in force. -/
def Accepted (answer : ChunkApplied) : Prop :=
  answer = .delta ∨ answer = .terminal

instance (answer : ChunkApplied) : Decidable (Accepted answer) :=
  inferInstanceAs (Decidable (_ ∨ _))

variable (chunk : ChunkEnvelope)

/-- The attempt that a chunk may be accepted for: the latched one, or any but
the abandoned one while the latch is open. -/
def Admits : Prop :=
  match collector.currentAttemptId with
  | some current => current = chunk.attemptId
  | none => collector.abandonedAttemptId ≠ some chunk.attemptId

/-- The `seq` of a non-terminal chunk follows the watermark, or there is no
watermark yet. -/
def Follows : Prop :=
  ∀ last, collector.lastAppliedSeq = some last → chunk.seq = last + 1

/-- The collector right after the latch of an admitted chunk. -/
def latched : StreamCollector :=
  { collector with
    currentAttemptId := some chunk.attemptId
    abandonedAttemptId :=
      if collector.currentAttemptId.isSome then collector.abandonedAttemptId
      else none }

end

theorem latch_eq_some {after : StreamCollector} (hlatch : collector.latch chunk = some after) :
    Admits collector chunk ∧ after = latched collector chunk := by
  unfold StreamCollector.latch at hlatch
  cases hcurrent : collector.currentAttemptId with
  | none =>
    simp only [hcurrent] at hlatch
    split at hlatch
    · cases hlatch
    · rename_i hother
      cases hlatch
      refine ⟨?_, ?_⟩
      · simpa [Admits, hcurrent] using hother
      · simp [latched, hcurrent]
  | some current =>
    simp only [hcurrent] at hlatch
    split at hlatch
    · cases hlatch
    · rename_i hsame
      cases hlatch
      have hid : current = chunk.attemptId := by simpa using hsame
      refine ⟨by simp [Admits, hcurrent, hid], ?_⟩
      simp only [latched, hcurrent, ← hid, isSome_some, if_true]
      rw [← hcurrent]

theorem seqVerdict_eq_some (hverdict : collector.seqVerdict chunk = some rejected) :
    ¬ Accepted rejected ∧ collector.lastAppliedSeq ≠ none := by
  unfold StreamCollector.seqVerdict at hverdict
  split at hverdict
  · cases hverdict
  split at hverdict
  · rename_i last hlast
    rw [hlast]
    split at hverdict
    · cases hverdict
      simp [Accepted]
    split at hverdict
    · cases hverdict
      simp [Accepted]
    · cases hverdict
  · cases hverdict

theorem seqVerdict_eq_none (hverdict : collector.seqVerdict chunk = none) :
    chunk.done = true ∨ Follows collector chunk := by
  by_cases hdone : chunk.done = true
  · exact .inl hdone
  right
  intro last hlast
  simp only [StreamCollector.seqVerdict, hdone, hlast, Bool.false_eq_true, if_false] at hverdict
  split at hverdict
  · cases hverdict
  split at hverdict
  · cases hverdict
  · omega

/-- Everything that one `apply` can do: refuse the chunk, possibly after the
latch, or accept an admitted chunk that follows the watermark or is terminal. -/
theorem apply_cases (collector : StreamCollector) (now : ℕ) (chunk : ChunkEnvelope) :
    (¬ Accepted (collector.apply now chunk).2 ∧ ((collector.apply now chunk).1 = collector ∨
        collector.lastAppliedSeq ≠ none ∧ Admits collector chunk ∧
          (collector.apply now chunk).1 = latched collector chunk)) ∨
    (chunk.wellFormed = true ∧ Admits collector chunk ∧
      (chunk.done = true ∨ Follows collector chunk) ∧
      collector.apply now chunk = ((latched collector chunk).absorb now chunk,
          if chunk.done then .terminal else .delta)) := by
  unfold StreamCollector.apply
  by_cases hformed : chunk.wellFormed = true
  swap
  · left
    simp [hformed, Accepted]
  simp only [hformed, Bool.not_true, Bool.false_eq_true, if_false]
  cases hlatch : collector.latch chunk with
  | none =>
    left
    simp [Accepted]
  | some =>
    obtain ⟨hadmits, rfl⟩ := latch_eq_some hlatch
    cases hverdict : (latched collector chunk).seqVerdict chunk with
    | some =>
      left
      obtain ⟨hrejected, hwatermark⟩ := seqVerdict_eq_some hverdict
      simp only [hverdict]
      exact ⟨hrejected, .inr ⟨hwatermark, hadmits, trivial⟩⟩
    | none =>
      right
      simp only [hverdict]
      exact ⟨trivial, hadmits, seqVerdict_eq_none hverdict, trivial⟩

/-! ## The attempt's fields read off the log -/

section

variable (log : List (ℕ × ChunkEnvelope))

theorem attemptOf_currentAttemptId :
    (attemptOf log).currentAttemptId = log.getLast?.map fun entry => entry.2.attemptId := by
  induction log using List.reverseRecOn with
  | nil => rfl
  | append_singleton =>
    rw [attemptOf_concat, List.getLast?_concat]
    rfl

theorem attemptOf_lastAppliedSeq : (attemptOf log).lastAppliedSeq =
      log.getLast?.map fun entry => entry.2.seq := by
  induction log using List.reverseRecOn with
  | nil => rfl
  | append_singleton =>
    rw [attemptOf_concat, List.getLast?_concat]
    rfl

theorem attemptOf_toolCalls : (attemptOf log).toolCallsByIndex =
      (log.map Prod.snd).foldl absorbToolCalls ∅ := by
  rw [foldl_map]
  exact (foldl_hom AttemptSnapshot.toolCallsByIndex fun _ _ => rfl).symm

theorem attemptOf_identity :
    ((attemptOf log).executionIdentityConsistent, (attemptOf log).executionIdentitySha256) =
      (log.map Prod.snd).foldl absorbIdentity (true, none) := by
  rw [foldl_map]
  exact (foldl_hom (fun fields : AttemptSnapshot =>
    (fields.executionIdentityConsistent, fields.executionIdentitySha256))
    fun _ _ => rfl).symm

theorem attemptOf_logprobs : (attemptOf log).logprobs =
      (log.map Prod.snd).flatMap fun chunk => chunk.logprobs.getD [] := by
  induction log using List.reverseRecOn with
  | nil => rfl
  | append_singleton _ _ ih =>
    rw [attemptOf_concat, map_append, flatMap_append, ← ih]
    simp [absorbAttempt, attempt, StreamCollector.absorb]

/-- The text built from the accumulated deltas is the concatenation of the
deltas of all chunks of the log; empty deltas are not stored. -/
theorem attemptOf_text : (attemptOf log).chunks.foldl (fun text chunk => text ++ chunk.2) "" =
      String.join ((log.map Prod.snd).map ChunkEnvelope.textDelta) := by
  induction log using List.reverseRecOn with
  | nil => rfl
  | append_singleton _ _ ih =>
    rw [attemptOf_concat]
    simp only [map_append, map_cons, map_nil, String.join,
      foldl_append, foldl_cons, foldl_nil] at ih ⊢
    rw [← ih]
    simp only [absorbAttempt, attempt, StreamCollector.absorb]
    split
    · rename_i hempty
      simp [String.isEmpty_iff.1 hempty]
    · simp

/-! ## Runs -/

end

/-- One of the four operations of a collector. -/
inductive StreamEvent where
  | apply (now : ℕ) (chunk : ChunkEnvelope)
  | bumpAttemptGeneration
  | recordAbandonedAttemptId (attemptId : String)
  | rewindAttemptGeneration

/-- A collector together with the answers `apply` has given so far. -/
structure StreamRun where
  collector : StreamCollector
  answers : List (ChunkEnvelope × ChunkApplied) := []

/-- A rewind is only ever issued to undo the last bump, so it is enabled while
that bump's snapshot has not been consumed. -/
def step (state : StreamRun) : StreamEvent → Option StreamRun
  | .apply now chunk =>
    let applied := state.collector.apply now chunk
    some {
      collector := applied.1
      answers := state.answers ++ [(chunk, applied.2)] }
  | .bumpAttemptGeneration =>
    some { state with collector := state.collector.bumpAttemptGeneration }
  | .recordAbandonedAttemptId attemptId =>
    some { state with
      collector := state.collector.recordAbandonedAttemptId attemptId }
  | .rewindAttemptGeneration =>
    if state.collector.snapshot.isSome then
      some { state with collector := state.collector.rewindAttemptGeneration }
    else none

/-- A fresh collector, with the SSE tap installed or not. -/
def start (publishedAt : ℕ) (tapped : Bool) : StreamRun where
  collector :=
    if tapped then (StreamCollector.new publishedAt).installChunkTap
    else StreamCollector.new publishedAt

section

variable (answers : List (ChunkEnvelope × ChunkApplied))

/-- The chunks that `apply` accepted, in order. -/
def acceptedChunks : List ChunkEnvelope :=
  (answers.filter fun entry => Accepted entry.2).map Prod.fst

/-- No terminal chunk has been applied. -/
def Open (state : StreamRun) : Prop :=
  ∀ entry ∈ state.answers, entry.2 ≠ .terminal

/-- Chunks of one attempt, none terminal, with consecutive `seq`. -/
structure Sequential (log : List (ℕ × ChunkEnvelope)) : Prop where
  singleAttempt : ∀ first ∈ log, ∀ second ∈ log,
    first.2.attemptId = second.2.attemptId
  consecutive : log.IsChain fun first second => second.2.seq = first.2.seq + 1
  nonTerminal : ∀ entry ∈ log, entry.2.done = false

/-- The abstract log behind a collector: what was accepted for the attempt in
force, and what the last bump has put aside. -/
structure AttemptLog where
  live : List (ℕ × ChunkEnvelope)
  saved : Option (List (ℕ × ChunkEnvelope))

structure Tracks (state : StreamRun) (log : AttemptLog) : Prop where
  attempt_eq : attempt state.collector = attemptOf log.live
  snapshot_eq : state.collector.snapshot = log.saved.map attemptOf
  live_sequential : Sequential log.live
  saved_sequential : ∀ saved ∈ log.saved, Sequential saved
  live_accepted : (log.live.map Prod.snd).Sublist (acceptedChunks state.answers)
  saved_accepted : ∀ saved ∈ log.saved, (saved.map Prod.snd).Sublist (acceptedChunks state.answers)

theorem attempt_absorb (collector : StreamCollector) (now : ℕ) (chunk : ChunkEnvelope) :
    attempt ((latched collector chunk).absorb now chunk) =
      absorbAttempt (attempt collector) (now, chunk) := rfl

theorem acceptedChunks_concat (chunk : ChunkEnvelope) (answer : ChunkApplied) :
    acceptedChunks (answers ++ [(chunk, answer)]) =
      acceptedChunks answers ++ if Accepted answer then [chunk] else [] := by
  by_cases haccepted : Accepted answer <;>
    simp [acceptedChunks, filter_append, haccepted]

theorem acceptedChunks_sublist_concat (entry : ChunkEnvelope × ChunkApplied) :
    (acceptedChunks answers).Sublist (acceptedChunks (answers ++ [entry])) := by
  rw [acceptedChunks_concat]
  exact sublist_append_left _ _

end

section Tracking

variable {log : AttemptLog}

section

variable (htracks : Tracks state log)
include htracks

theorem Tracks.currentAttemptId : state.collector.currentAttemptId =
      log.live.getLast?.map fun entry => entry.2.attemptId := by
  rw [← attemptOf_currentAttemptId, ← htracks.attempt_eq]
  rfl

theorem Tracks.lastAppliedSeq : state.collector.lastAppliedSeq =
      log.live.getLast?.map fun entry => entry.2.seq := by
  rw [← attemptOf_lastAppliedSeq, ← htracks.attempt_eq]
  rfl

variable (now : ℕ)

/-- A chunk answered stale, duplicate or with a gap changes nothing. -/
theorem Tracks.refused_unchanged (chunk : ChunkEnvelope)
    (hrefused : ¬ Accepted (state.collector.apply now chunk).2) :
    (state.collector.apply now chunk).1 = state.collector := by
  rcases apply_cases state.collector now chunk with
    ⟨_, hsame | ⟨hwatermark, hadmits, hlatched⟩⟩ | ⟨_, _, _, happly⟩
  · exact hsame
  · -- A watermark exists only for a latched attempt, so the latch was a no-op.
    rw [hlatched]
    rw [htracks.lastAppliedSeq] at hwatermark
    cases hlast : log.live.getLast? with
    | none => simp [hlast] at hwatermark
    | some =>
      have hcurrent := htracks.currentAttemptId
      simp only [hlast, map_some] at hcurrent
      simp only [Admits, hcurrent] at hadmits
      simp only [latched, hcurrent, ← hadmits, isSome_some, if_true]
      rw [← hcurrent]
  · rw [happly] at hrefused
    by_cases hdone : chunk.done = true <;> simp [hdone, Accepted] at hrefused

/-- An accepted chunk belongs to the attempt of the log. -/
theorem Tracks.accepted_attempt (hadmits : Admits state.collector chunk) :
    ∀ entry ∈ log.live, entry.2.attemptId = chunk.attemptId := by
  intro entry hentry
  have hcurrent := htracks.currentAttemptId
  cases hlast : log.live.getLast? with
  | none => simp [List.getLast?_eq_none_iff.1 hlast] at hentry
  | some last =>
    simp only [hlast, map_some] at hcurrent
    simp only [Admits, hcurrent] at hadmits
    have hmem : last ∈ log.live := mem_of_getLast? hlast
    exact (htracks.live_sequential.singleAttempt entry hentry last hmem).trans hadmits

/-- Accepting a non-terminal chunk extends the log by the next `seq`. -/
theorem Tracks.sequential_concat (hadmits : Admits state.collector chunk)
    (hfollows : Follows state.collector chunk) (hdone : chunk.done = false) :
    Sequential (log.live ++ [(now, chunk)]) where
  singleAttempt := by
    have hattempt := htracks.accepted_attempt hadmits
    intro first hfirst second hsecond
    have hto : ∀ entry ∈ log.live ++ [(now, chunk)], entry.2.attemptId = chunk.attemptId := by
      exact forall_mem_append.2 ⟨hattempt, forall_mem_singleton.2 rfl⟩
    exact (hto first hfirst).trans (hto second hsecond).symm
  consecutive := by
    refine isChain_append.2 ⟨htracks.live_sequential.consecutive, isChain_singleton _, ?_⟩
    intro last hlast next hnext
    simp only [List.head?_cons, mem_some_iff] at hnext
    subst hnext
    apply hfollows
    rw [htracks.lastAppliedSeq, hlast]
    rfl
  nonTerminal := by
    refine forall_mem_append.2 ⟨htracks.live_sequential.nonTerminal, ?_⟩
    exact forall_mem_singleton.2 hdone

variable (chunk : ChunkEnvelope)

/-- An accepted non-terminal chunk is appended to the log. -/
theorem step_accept_tracks (haccepted : Accepted (state.collector.apply now chunk).2)
    (hopen : (state.collector.apply now chunk).2 ≠ .terminal) :
    Tracks
      { collector := (state.collector.apply now chunk).1
        answers := state.answers ++ [(chunk, (state.collector.apply now chunk).2)] }
      { log with live := log.live ++ [(now, chunk)] } := by
  rcases apply_cases state.collector now chunk with
    ⟨hrefused, _⟩ | ⟨_, hadmits, hseq, happly⟩
  · exact absurd haccepted hrefused
  have hdone : chunk.done = false := by
    by_contra hterminal
    simp [happly, hterminal] at hopen
  have hfollows : Follows state.collector chunk :=
    hseq.resolve_left (by simp [hdone])
  constructor
  · show attempt (state.collector.apply now chunk).1 = _
    rw [happly, attempt_absorb, htracks.attempt_eq, attemptOf_concat]
  · show (state.collector.apply now chunk).1.snapshot = _
    rw [happly]
    exact htracks.snapshot_eq
  · exact htracks.sequential_concat now hadmits hfollows hdone
  · exact htracks.saved_sequential
  · rw [map_append, acceptedChunks_concat, if_pos haccepted]
    exact htracks.live_accepted.append (List.Sublist.refl _)
  · intro saved hsaved
    exact (htracks.saved_accepted saved hsaved).trans (acceptedChunks_sublist_concat _ _)

/-- A refused chunk leaves the log as it is. -/
theorem step_refuse_tracks (hrefused : ¬ Accepted (state.collector.apply now chunk).2) : Tracks
      { collector := (state.collector.apply now chunk).1
        answers := state.answers ++ [(chunk, (state.collector.apply now chunk).2)] } log := by
  rw [htracks.refused_unchanged now chunk hrefused]
  exact ⟨htracks.attempt_eq, htracks.snapshot_eq, htracks.live_sequential, htracks.saved_sequential,
    htracks.live_accepted.trans (acceptedChunks_sublist_concat _ _),
    fun saved hsaved => (htracks.saved_accepted saved hsaved).trans
      (acceptedChunks_sublist_concat _ _)⟩

end

theorem Sequential.nil : Sequential [] := ⟨by simp, by simp, by simp⟩

variable (htracks : Tracks state log)
include htracks

/-- A bump puts the log aside and starts an empty one. -/
theorem step_bump_tracks : Tracks
      { state with collector := state.collector.bumpAttemptGeneration }
      { live := [], saved := some log.live } where
  attempt_eq := rfl
  snapshot_eq := by
    rw [snapshot_bump, htracks.attempt_eq]
    rfl
  live_sequential := .nil
  saved_sequential := by
    intro saved hsaved
    cases hsaved
    exact htracks.live_sequential
  live_accepted := nil_sublist _
  saved_accepted := by
    intro saved hsaved
    cases hsaved
    exact htracks.live_accepted

theorem step_record_tracks (attemptId : String) : Tracks
      { state with
        collector := state.collector.recordAbandonedAttemptId attemptId }
      log where
  __ := htracks
  attempt_eq := (attempt_record _ _).trans htracks.attempt_eq
  snapshot_eq := (snapshot_record _ _).trans htracks.snapshot_eq

/-- A rewind brings the log back that the bump has put aside; what was accepted
in between is dropped. -/
theorem step_rewind_tracks (hsnapshot : state.collector.snapshot.isSome) :
    ∃ saved ∈ log.saved, Tracks
      { state with collector := state.collector.rewindAttemptGeneration }
      { live := saved, saved := none } := by
  have heq := htracks.snapshot_eq
  cases hsaved : log.saved with
  | none => simp [heq, hsaved] at hsnapshot
  | some saved =>
    rw [hsaved, map_some] at heq
    refine ⟨saved, rfl, ?_⟩
    constructor
    · exact attempt_rewind heq
    · simp [StreamCollector.rewindAttemptGeneration, heq]
    · exact htracks.saved_sequential saved hsaved
    · simp
    · exact htracks.saved_accepted saved hsaved
    · simp

end Tracking

theorem start_tracks (publishedAt : ℕ) (tapped : Bool) :
    Tracks (start publishedAt tapped) { live := [], saved := none } := by
  constructor <;>
    cases tapped <;>
      simp [start, Sequential.nil, acceptedChunks, StreamCollector.new,
        StreamCollector.installChunkTap, emptyAttempt, attempt]

/-- The step lemma: as long as no terminal chunk was applied, every operation
leads from a tracked state to a tracked state. -/
theorem step_tracks {state next : StreamRun} {event : StreamEvent}
    (htracks : ∃ log, Tracks state log) (hopen : Open next)
    (hstep : step state event = some next) : ∃ log, Tracks next log := by
  obtain ⟨log, htracks⟩ := htracks
  cases event with
  | apply now chunk =>
    cases hstep
    by_cases haccepted : Accepted (state.collector.apply now chunk).2
    · exact ⟨_, step_accept_tracks htracks now chunk haccepted (hopen (chunk, _) (by simp))⟩
    · exact ⟨log, step_refuse_tracks htracks now chunk haccepted⟩
  | bumpAttemptGeneration =>
    cases hstep
    exact ⟨_, step_bump_tracks htracks⟩
  | recordAbandonedAttemptId attemptId =>
    cases hstep
    exact ⟨log, step_record_tracks htracks attemptId⟩
  | rewindAttemptGeneration =>
    simp only [step, ite_none_right_eq_some] at hstep
    obtain ⟨hsnapshot, hnext⟩ := hstep
    cases hnext
    obtain ⟨saved, -, hrewound⟩ := step_rewind_tracks htracks hsnapshot
    exact ⟨_, hrewound⟩

/-- Answers are only ever appended, so a run that is open now was open before
each of its steps. -/
theorem open_of_step {state next : StreamRun} {event : StreamEvent}
    (hstep : step state event = some next) (hopen : Open next) :
    Open state := by
  intro entry hentry
  apply hopen entry
  cases event with
  | apply =>
    cases hstep
    simp [hentry]
  | rewindAttemptGeneration =>
    simp only [step, ite_none_right_eq_some] at hstep
    cases hstep.2
    exact hentry
  | _ =>
    cases hstep
    exact hentry

/-- Every state reached before the first terminal chunk is tracked. -/
theorem run_tracks {publishedAt : ℕ} {tapped : Bool} {events : List StreamEvent} {final : StreamRun}
    (hrun : Runs.run step (start publishedAt tapped) events = some final)
    (hopen : Open final) : ∃ log, Tracks final log := by
  refine Runs.run_invariant (fun state => Open state → ∃ log, Tracks state log)
    ?_ (fun _ => ⟨_, start_tracks publishedAt tapped⟩) hrun hopen
  intro state event next ih hstep hnext
  exact step_tracks (ih (open_of_step hstep hnext)) hnext hstep

end SieCluster.StreamRuns
