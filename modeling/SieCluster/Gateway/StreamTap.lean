import SieCluster.Gateway.StreamPurity

/-!
# The SSE tap and the aggregated outcome

Every accepted chunk is pushed to the tap, and nothing is ever taken back from
it, while a bump clears and a rewind restores the aggregate.  The two agree as
long as no attempt latches after something of an earlier attempt was forwarded
and no chunk is accepted between a bump and its rewind.
-/

namespace SieCluster.StreamTap

open Streaming
open StreamRuns
open StreamPurity

/-- The chunk meets an open latch and is not turned away by it. -/
def Latches (collector : StreamCollector) (chunk : ChunkEnvelope) : Prop :=
  chunk.wellFormed = true ∧ collector.currentAttemptId = none ∧
    collector.abandonedAttemptId ≠ some chunk.attemptId

/-- The condition on a step, in the state before it: a chunk that latches an
attempt finds the tap empty, and a rewind finds the latch open. -/
def Forwardable (state : StreamRun) : StreamEvent → Prop
  | .apply _ chunk => Latches state.collector chunk →
      state.collector.chunkTap = some []
  | .rewindAttemptGeneration => state.collector.currentAttemptId = none
  | _ => True

/-- How the tap relates to the log of accepted chunks: it shows the log in
force, or the latch is open on a tap that is not empty; and while the latch is
open the log put aside is what the tap shows, or empty. -/
structure TapShows (tap : List ChunkEnvelope) (log : AttemptLog) : Prop where
  live : log.live.map Prod.snd = tap ∨ log.live = []
  saved : log.live = [] → ∀ saved ∈ log.saved, saved.map Prod.snd = tap ∨ saved = []

/-- A state whose tap relates to its log. -/
def Shown (state : StreamRun) : Prop :=
  ∃ log tap, Tracks state log ∧ state.collector.chunkTap = some tap ∧ TapShows tap log

theorem latched_iff (htracks : Tracks state log) :
    state.collector.currentAttemptId = none ↔ log.live = [] := by
  rw [htracks.currentAttemptId, Option.map_eq_none_iff, List.getLast?_eq_none_iff]

/-- An accepted chunk is pushed to the tap. -/
theorem chunkTap_of_accepted {collector : StreamCollector} {now : ℕ} {chunk : ChunkEnvelope}
    (haccepted : Accepted (collector.apply now chunk).2) :
    (collector.apply now chunk).1.chunkTap = collector.chunkTap.map (· ++ [chunk]) := by
  rcases apply_cases collector now chunk with
    ⟨hrefused, _⟩ | ⟨_, _, _, happly⟩
  · exact absurd haccepted hrefused
  · rw [happly]
    rfl

/-- When a chunk is accepted, the tap shows exactly the log in force. -/
theorem live_eq_tap (htracks : Tracks state log) (htap : state.collector.chunkTap = some tap)
    (hshows : TapShows tap log) (hforward : Forwardable state (.apply now chunk))
    (haccepted : Accepted (state.collector.apply now chunk).2) : log.live.map Prod.snd = tap := by
  rcases hshows.live with hlive | hempty
  · exact hlive
  rcases apply_cases state.collector now chunk with
    ⟨hrefused, _⟩ | ⟨hformed, hadmits, _, _⟩
  · exact absurd haccepted hrefused
  have hcurrent := (latched_iff htracks).2 hempty
  simp only [Admits, hcurrent] at hadmits
  have hclear := hforward ⟨hformed, hcurrent, hadmits⟩
  rw [htap, Option.some.injEq] at hclear
  simp [hempty, hclear]

theorem step_shown {next : StreamRun} {event : StreamEvent} (hshown : Shown state)
    (hforward : Forwardable state event) (hopen : Open next)
    (hstep : step state event = some next) : Shown next := by
  obtain ⟨log, tap, htracks, htap, hshows⟩ := hshown
  cases event with
  | apply now chunk =>
    cases hstep
    by_cases haccepted : Accepted (state.collector.apply now chunk).2
    · have hlive := live_eq_tap htracks htap hshows hforward haccepted
      refine ⟨_, tap ++ [chunk], step_accept_tracks htracks now chunk haccepted
        (hopen (chunk, _) (by simp)), ?_, ?_⟩
      · rw [chunkTap_of_accepted haccepted, htap]
        rfl
      · constructor
        · left
          simp [hlive]
        · simp
    · refine ⟨log, tap, step_refuse_tracks htracks now chunk haccepted, ?_, hshows⟩
      rw [htracks.refused_unchanged now chunk haccepted]
      exact htap
  | bumpAttemptGeneration =>
    cases hstep
    refine ⟨_, tap, step_bump_tracks htracks, htap, ?_⟩
    constructor
    · exact .inr rfl
    · intro _ saved hsaved
      cases hsaved
      exact hshows.live
  | recordAbandonedAttemptId attemptId =>
    cases hstep
    refine ⟨log, tap, step_record_tracks htracks attemptId, ?_, hshows⟩
    rcases record_eq_or state.collector attemptId with heq | heq
    · rw [heq]
      exact htap
    · rw [heq]
      exact htap
  | rewindAttemptGeneration =>
    simp only [step, Option.ite_none_right_eq_some] at hstep
    obtain ⟨hsnapshot, hnext⟩ := hstep
    cases hnext
    obtain ⟨saved, hsaved, hrewound⟩ := step_rewind_tracks htracks hsnapshot
    -- The latch is open, so nothing was forwarded since the bump.
    have hlive : log.live = [] := (latched_iff htracks).1 hforward
    refine ⟨_, tap, hrewound, ?_, ?_⟩
    · obtain ⟨snap, hsnap⟩ := Option.isSome_iff_exists.1 hsnapshot
      simpa [StreamCollector.rewindAttemptGeneration, hsnap] using htap
    · constructor
      · exact hshows.saved hlive saved hsaved
      · simp

/-- **The client was shown what the outcome reports.**  In every run with a tap
whose steps are all forwardable, the envelopes pushed to the tap up to and
including the first terminal one belong to one attempt, and their text is the
text of the outcome. -/
theorem tap_eq_outcome (publishedAt : ℕ) (events : List StreamEvent) (before : StreamRun)
    (hrun : Runs.run step (start publishedAt true) events = some before)
    (hguarded : Runs.Guarded step Forwardable (start publishedAt true) events)
    (hfirst : Open before) (now : ℕ) (chunk : ChunkEnvelope)
    (hforward : Forwardable before (.apply now chunk))
    (hterminal : (before.collector.apply now chunk).2 = .terminal) :
    ∃ outcome tap, (before.collector.apply now chunk).1.buildOutcome = some outcome ∧
      (before.collector.apply now chunk).1.chunkTap = some tap ∧
      (∀ envelope ∈ tap, envelope.attemptId = outcome.attemptId) ∧
      String.join (tap.map ChunkEnvelope.textDelta) = outcome.text := by
  have hshown : Open before → Shown before := by
    refine Runs.guarded_invariant (fun state => Open state → Shown state) ?_
      (fun _ => ⟨_, [], start_tracks publishedAt true, rfl, by simp, by simp⟩)
      hguarded hrun
    intro state event next ih hcondition hstep hnext
    exact step_shown (ih (open_of_step hstep hnext)) hcondition hnext hstep
  obtain ⟨log, tap, htracks, htap, hshows⟩ := hshown hfirst
  obtain ⟨outcome, hbuilt, hassembled⟩ :=
    buildOutcome_of_terminal htracks now chunk hterminal
  have hlive := live_eq_tap htracks htap hshows hforward (.inr hterminal)
  rw [hlive] at hassembled
  refine ⟨outcome, tap ++ [chunk], hbuilt, ?_, hassembled.oneAttempt, hassembled.text_eq.symm⟩
  rw [chunkTap_of_accepted (.inr hterminal), htap]
  rfl

/-- A republish that fails before any chunk arrives, followed by one that
succeeds. -/
def quietRepublish : List StreamEvent :=
  [.bumpAttemptGeneration, .recordAbandonedAttemptId "att-A",
    .rewindAttemptGeneration, .bumpAttemptGeneration,
    .apply 1 (textChunk "att-B" 0 "Hello")]

theorem tap_eq_outcome_quietRepublish :
    ∃ before, Runs.run step (start 0 true) quietRepublish = some before ∧ ∃ outcome tap,
        (before.collector.apply 2 (textChunk "att-B" 1 "!" true)).1.buildOutcome = some outcome ∧
        (before.collector.apply 2 (textChunk "att-B" 1 "!" true)).1.chunkTap = some tap ∧
        (∀ envelope ∈ tap, envelope.attemptId = outcome.attemptId) ∧
        String.join (tap.map ChunkEnvelope.textDelta) = outcome.text := by
  refine ⟨_, rfl, tap_eq_outcome 0 quietRepublish _ rfl ?_
    (by unfold Open; decide) 2 _ (fun h => by cases h.2.1) (by decide)⟩
  refine ⟨trivial, fun _ h => ?_⟩
  cases h
  refine ⟨trivial, fun _ h => ?_⟩
  cases h
  refine ⟨rfl, fun _ h => ?_⟩
  cases h
  refine ⟨trivial, fun _ h => ?_⟩
  cases h
  exact ⟨fun _ => rfl, fun _ _ => trivial⟩

/-- The full guarantee, without a condition on the steps. -/
def TapEqOutcome : Prop :=
  ∀ (publishedAt : ℕ) (events : List StreamEvent) (before : StreamRun)
    (now : ℕ) (chunk : ChunkEnvelope) (outcome : StreamOutcome)
    (tap : List ChunkEnvelope),
    Runs.run step (start publishedAt true) events = some before →
    Open before → (before.collector.apply now chunk).2 = .terminal →
    (before.collector.apply now chunk).1.buildOutcome = some outcome →
    (before.collector.apply now chunk).1.chunkTap = some tap →
    (∃ attemptId, ∀ envelope ∈ tap, envelope.attemptId = attemptId) ∧
      String.join (tap.map ChunkEnvelope.textDelta) = outcome.text

/-- The first chunk of the direct attempt is forwarded just before the
first-chunk timeout bumps the generation; the client is shown it in front of
the successor's text. -/
theorem not_tapEqOutcome : ¬ TapEqOutcome := by
  intro hclaim
  have htext := (hclaim 0 [.apply 1 (textChunk "att-A" 0 "Hel"), .bumpAttemptGeneration] _ 2
    (textChunk "att-B" 0 "Hello!" true) _ _ rfl (by unfold Open; decide)
    (by decide) rfl rfl).2
  revert htext
  decide

end SieCluster.StreamTap
