import SieCluster.Gateway.StreamRuns

/-!
# The outcome of a stream is pure

The outcome built at the first terminal chunk is assembled from accepted chunks
of one attempt only, in `seq` order and with the terminal chunk last.  The
execution identity is attested exactly when all of them carried it.
-/

namespace SieCluster.StreamPurity

open Streaming List
open StreamRuns

/-! ## The identity latch -/

variable (identity : Bool × Option String)

theorem absorbIdentity_eq_attested (chunk : ChunkEnvelope) (digest : String) :
    absorbIdentity identity chunk = (true, some digest) ↔
      chunk.executionIdentitySha256 = some digest ∧ isLowerSha256 digest = true ∧
        (identity = (true, none) ∨ identity = (true, some digest)) := by
  obtain ⟨consistent, current⟩ := identity
  unfold absorbIdentity
  cases chunk.executionIdentitySha256 with
  | none => simp
  | some value =>
    by_cases hvalid : isLowerSha256 value = true
    swap
    · simp only [hvalid, Bool.false_and, Bool.false_eq_true, if_false]
      constructor
      · intro h
        simp at h
      · rintro ⟨hvalue, hlower, -⟩
        cases hvalue
        exact absurd hlower hvalid
    cases consistent with
    | false => simp
    | true =>
      cases current with
      | none =>
        simp only [hvalid, Bool.and_self, if_true]
        constructor
        · intro h
          cases h
          exact ⟨rfl, hvalid, .inl trivial⟩
        · rintro ⟨hvalue, -, -⟩
          cases hvalue
          rfl
      | some current =>
        by_cases hsame : current = value
        · subst hsame
          simp only [hvalid, Bool.and_self, if_true, bne_self_eq_false,
            Bool.false_eq_true, if_false]
          constructor
          · intro h
            cases h
            exact ⟨rfl, hvalid, .inr rfl⟩
          · rintro ⟨hvalue, -, -⟩
            cases hvalue
            rfl
        · simp only [hvalid, Bool.and_self, if_true, bne_iff_ne, ne_eq,
            hsame, not_false_eq_true, Prod.mk.injEq, Bool.false_eq_true,
            Option.some.injEq, reduceCtorEq, and_false, true_and,
            false_or, false_iff, not_and]
          rintro rfl -
          exact hsame

theorem absorbIdentity_ne_initial
    (chunk : ChunkEnvelope) : absorbIdentity identity chunk ≠ (true, none) := by
  unfold absorbIdentity
  split
  · split
    · split
      · split
        · simp
        · rename_i hcurrent _
          intro heq
          simp [heq] at hcurrent
      · simp
    · simp
  · simp

section

variable (chunks : List ChunkEnvelope)

theorem identity_eq_initial :
    chunks.foldl absorbIdentity (true, none) = (true, none) ↔ chunks = [] := by
  induction chunks using List.reverseRecOn with
  | nil => simp
  | append_singleton _ chunk =>
    simp only [foldl_append, foldl_cons, foldl_nil,
      append_eq_nil_iff, cons_ne_self, and_false, iff_false]
    exact absorbIdentity_ne_initial _ chunk

/-- The latch ends attested exactly when every chunk carried the digest. -/
theorem identity_eq_attested (digest : String) :
    chunks.foldl absorbIdentity (true, none) = (true, some digest) ↔
      chunks ≠ [] ∧ isLowerSha256 digest = true ∧
        ∀ chunk ∈ chunks, chunk.executionIdentitySha256 = some digest := by
  induction chunks using List.reverseRecOn with
  | nil => simp
  | append_singleton chunks chunk ih =>
    simp only [foldl_append, foldl_cons, foldl_nil]
    rw [absorbIdentity_eq_attested, identity_eq_initial, ih]
    constructor
    · rintro ⟨hchunk, hlower, hbefore⟩
      refine ⟨by simp, hlower, fun other hother => ?_⟩
      rcases mem_append.1 hother with hmem | hlast
      · rcases hbefore with rfl | ⟨-, -, hall⟩
        · simp at hmem
        · exact hall other hmem
      · rw [mem_singleton.1 hlast]
        exact hchunk
    · rintro ⟨-, hlower, hall⟩
      refine ⟨hall chunk (by simp), hlower, ?_⟩
      by_cases hempty : chunks = []
      · exact .inl hempty
      · exact .inr ⟨hempty, hlower, fun other hother =>
          hall other (mem_append_left _ hother)⟩

/-! ## Purity -/

/-- The tool calls of a response, assembled from the deltas of `chunks`. -/
def aggregateToolCalls : Option (List AggregatedToolCall) :=
  let calls := chunks.foldl absorbToolCalls ∅
  if calls.isEmpty then none else some calls.values

/-- The concatenated logprobs of `chunks`, or `none` when there are none. -/
def aggregateLogprobs : Option (List Json) :=
  let logprobs := chunks.flatMap fun chunk => chunk.logprobs.getD []
  if logprobs.isEmpty then none else some logprobs

end

/-- `outcome` is assembled from `deltas` and the terminal chunk alone. -/
structure AssembledFrom (deltas : List ChunkEnvelope) (terminal : ChunkEnvelope)
    (outcome : StreamOutcome) : Prop where
  oneAttempt : ∀ chunk ∈ deltas ++ [terminal], chunk.attemptId = outcome.attemptId
  nonTerminal : ∀ chunk ∈ deltas, chunk.done = false
  terminal_done : terminal.done = true
  increasing : (deltas.map ChunkEnvelope.seq).Pairwise (· < ·)
  text_eq : outcome.text = String.join ((deltas ++ [terminal]).map ChunkEnvelope.textDelta)
  toolCalls_eq : outcome.toolCalls = aggregateToolCalls (deltas ++ [terminal])
  logprobs_eq : outcome.logprobs = aggregateLogprobs (deltas ++ [terminal])
  identity_iff : ∀ digest, outcome.executionIdentitySha256 = some digest ↔
    isLowerSha256 digest = true ∧ ∀ chunk ∈ deltas ++ [terminal],
        chunk.executionIdentitySha256 = some digest

/-- Consecutive `seq` numbers increase strictly. -/
theorem Sequential.increasing (hsequential : Sequential log) :
    ((log.map Prod.snd).map ChunkEnvelope.seq).Pairwise (· < ·) := by
  rw [map_map, pairwise_map]
  apply isChain_iff_pairwise.1
  exact hsequential.consecutive.imp fun first second hnext => by
    simp only [Function.comp_apply, hnext, Nat.lt_succ_self]

/-- The outcome built right after a terminal chunk was accepted. -/
theorem buildOutcome_of_terminal (htracks : Tracks state log) (now : ℕ) (chunk : ChunkEnvelope)
    (hterminal : (state.collector.apply now chunk).2 = .terminal) :
    ∃ outcome, (state.collector.apply now chunk).1.buildOutcome = some outcome ∧
      AssembledFrom (log.live.map Prod.snd) chunk outcome := by
  rcases apply_cases state.collector now chunk with
    ⟨hrefused, _⟩ | ⟨_, hadmits, _, happly⟩
  · exact absurd (.inr hterminal) hrefused
  have hdone : chunk.done = true := by
    by_contra hdelta
    simp [happly, hdelta] at hterminal
  have hattempt : attempt (state.collector.apply now chunk).1 =
      attemptOf (log.live ++ [(now, chunk)]) := by
    rw [happly, attempt_absorb, htracks.attempt_eq, attemptOf_concat]
  have hmap : (log.live ++ [(now, chunk)]).map Prod.snd =
      log.live.map Prod.snd ++ [chunk] := by simp
  have hmeta : (state.collector.apply now chunk).1.finalMeta ≠ none := by
    rw [happly]
    simp [StreamCollector.absorb, hdone]
  generalize (state.collector.apply now chunk).1 = after at hattempt hmeta
  obtain ⟨terminal, hfinal⟩ := Option.ne_none_iff_exists'.1 hmeta
  have hcurrent : after.currentAttemptId = some chunk.attemptId := by
    have := congrArg AttemptSnapshot.currentAttemptId hattempt
    rw [attemptOf_currentAttemptId, List.getLast?_concat] at this
    exact this
  refine ⟨_, by rw [StreamCollector.buildOutcome, hfinal]; rfl, ?_⟩
  constructor
  · intro other hother
    simp only [hcurrent, Option.getD_some]
    rcases mem_append.1 hother with hlive | hlast
    · obtain ⟨entry, hentry, rfl⟩ := mem_map.1 hlive
      exact htracks.accepted_attempt hadmits entry hentry
    · rw [mem_singleton.1 hlast]
  · intro other hother
    obtain ⟨entry, hentry, rfl⟩ := mem_map.1 hother
    exact htracks.live_sequential.nonTerminal entry hentry
  · exact hdone
  · exact Sequential.increasing htracks.live_sequential
  · have := attemptOf_text (log.live ++ [(now, chunk)])
    rw [← hattempt, hmap] at this
    exact this
  · have := attemptOf_toolCalls (log.live ++ [(now, chunk)])
    rw [← hattempt, hmap] at this
    simp only [aggregateToolCalls, ← this]
    rfl
  · have := attemptOf_logprobs (log.live ++ [(now, chunk)])
    rw [← hattempt, hmap] at this
    simp only [aggregateLogprobs, ← this]
    rfl
  · intro digest
    have hidentity := attemptOf_identity (log.live ++ [(now, chunk)])
    rw [← hattempt, hmap] at hidentity
    have hiff := identity_eq_attested (log.live.map Prod.snd ++ [chunk]) digest
    rw [← hidentity] at hiff
    simp only [attempt, Prod.mk.injEq] at hiff
    have hnonempty : log.live.map Prod.snd ++ [chunk] ≠ [] := by simp
    simp only [ne_eq, hnonempty, not_false_eq_true, true_and] at hiff
    rw [← hiff]
    by_cases hconsistent : after.executionIdentityConsistent = true <;>
      simp [hconsistent]

/-- **Purity.**  For every interleaving of chunk arrivals, bumps, abandoned-id
recordings and rewinds, the outcome built the first time `apply` answers
`terminal` is assembled from accepted chunks of one attempt, with the terminal
chunk last. -/
theorem first_terminal_outcome_pure (publishedAt : ℕ) (tapped : Bool) (events : List StreamEvent)
    (before : StreamRun) (hrun : Runs.run step (start publishedAt tapped) events = some before)
    (hfirst : Open before) (now : ℕ) (chunk : ChunkEnvelope)
    (hterminal : (before.collector.apply now chunk).2 = .terminal) :
    ∃ outcome deltas, (before.collector.apply now chunk).1.buildOutcome = some outcome ∧
      (deltas ++ [chunk]).Sublist (acceptedChunks (before.answers ++ [(chunk, .terminal)])) ∧
      AssembledFrom deltas chunk outcome := by
  obtain ⟨log, htracks⟩ := run_tracks hrun hfirst
  obtain ⟨outcome, hbuilt, hassembled⟩ :=
    buildOutcome_of_terminal htracks now chunk hterminal
  refine ⟨outcome, log.live.map Prod.snd, hbuilt, ?_, hassembled⟩
  rw [acceptedChunks_concat, if_pos (.inr rfl)]
  exact htracks.live_accepted.append (List.Sublist.refl _)

/-- A chunk of attempt `attemptId` with the given `seq` and text. -/
def textChunk (attemptId : String) (seq : ℕ) (text : String)
    (done : Bool := false) : ChunkEnvelope where
  kind := "chunk"
  requestId := "req-1"
  attemptId := attemptId
  seq := seq
  textDelta := text
  done := done

/-- A republish that fails while a chunk of the old attempt and a chunk of a
foreign attempt are in flight. -/
def failedRepublish : List StreamEvent :=
  [.apply 1 (textChunk "att-A" 0 "Hel"), .bumpAttemptGeneration,
    .recordAbandonedAttemptId "att-C", .apply 2 (textChunk "att-A" 1 "lo"),
    .apply 3 (textChunk "att-B" 0 "other"), .rewindAttemptGeneration,
    .apply 4 (textChunk "att-A" 1 "lo")]

theorem first_terminal_outcome_pure_failedRepublish :
    ∃ before, Runs.run step (start 0 true) failedRepublish = some before ∧ ∃ outcome deltas,
        (before.collector.apply 5 (textChunk "att-A" 2 "!" true)).1.buildOutcome = some outcome ∧
        (deltas ++ [textChunk "att-A" 2 "!" true]).Sublist (acceptedChunks (before.answers ++
            [(textChunk "att-A" 2 "!" true, .terminal)])) ∧
        AssembledFrom deltas (textChunk "att-A" 2 "!" true) outcome :=
  ⟨_, rfl, first_terminal_outcome_pure 0 true failedRepublish _ rfl
    (by unfold Open; decide) 5 _ (by decide)⟩

end SieCluster.StreamPurity
