import SieCluster.Core.Slices
import SieCluster.Gateway.StreamPurity

/-!
# What a stream may lose

A worker numbers the chunks of an attempt `0, 1, 2, …` and ends with one
terminal chunk; the transport may drop, duplicate or delay any of them.  The
collector rejects a gap between two non-terminal chunks.  The first chunk of an
attempt is accepted at any `seq` and the terminal chunk is exempt from the gap
check, so an outcome holds a contiguous block of the attempt's deltas followed
by the terminal one, and not always all of them.  The block is all that was
accepted since the last republish that stands, unless a rewind has forgotten
chunks that were accepted after its bump.
-/

namespace SieCluster.StreamLoss

open Streaming List
open StreamRuns
open StreamPurity
open Slices

/-- What the worker of one attempt emits. -/
structure Emission (attemptId : String) where
  deltas : List ChunkEnvelope
  terminal : ChunkEnvelope
  numbered : ∀ (index : ℕ) (chunk : ChunkEnvelope), deltas[index]? = some chunk →
    chunk.seq = index ∧ chunk.done = false ∧ chunk.attemptId = attemptId
  terminal_last : terminal.seq = deltas.length ∧ terminal.done = true ∧
    terminal.attemptId = attemptId

namespace Emission

variable (emission : Emission attemptId)

def chunks : List ChunkEnvelope := emission.deltas ++ [emission.terminal]

def text : String := String.join (emission.chunks.map ChunkEnvelope.textDelta)

theorem eq_terminal_of_done (hmem : chunk ∈ emission.chunks) (hdone : chunk.done = true) :
    chunk = emission.terminal := by
  rcases mem_append.1 hmem with hdelta | hlast
  · obtain ⟨index, hindex⟩ := mem_iff_getElem?.1 hdelta
    simp [(emission.numbered index chunk hindex).2.1] at hdone
  · exact mem_singleton.1 hlast

theorem getElem_seq_of_not_done (hmem : chunk ∈ emission.chunks) (hdone : chunk.done = false) :
    emission.deltas[chunk.seq]? = some chunk := by
  rcases mem_append.1 hmem with hdelta | hlast
  · obtain ⟨index, hindex⟩ := mem_iff_getElem?.1 hdelta
    rwa [(emission.numbered index chunk hindex).1]
  · rw [mem_singleton.1 hlast] at hdone
    simp [emission.terminal_last.2.1] at hdone

end Emission

/-- The emissions of all attempts of a request, by attempt id. -/
abbrev Emissions := (attemptId : String) → Emission attemptId

/-- A chunk that some worker emitted. -/
def Emissions.Has (emitted : Emissions) (chunk : ChunkEnvelope) : Prop :=
  chunk ∈ (emitted chunk.attemptId).chunks

/-- The transport delivers nothing but emitted chunks. -/
def Delivers (emitted : Emissions) : StreamEvent → Prop
  | .apply _ chunk => emitted.Has chunk
  | _ => True

/-- Everything answered so far was emitted by its attempt's worker. -/
theorem run_answers_emitted (hrun : Runs.run step (start publishedAt tapped) events = some final)
    (hdelivers : ∀ event ∈ events, Delivers emitted event) :
    ∀ entry ∈ final.answers, emitted.Has entry.1 := by
  refine Runs.guarded_invariant (fun state => ∀ entry ∈ state.answers, emitted.Has entry.1) ?_
    (by cases tapped <;> simp [start])
    (Runs.guarded_of_forall step hdelivers _) hrun
  intro state event next ih hevent hstep
  cases event with
  | apply =>
    cases hstep
    refine forall_mem_append.2 ⟨ih, forall_mem_singleton.2 ?_⟩
    exact hevent
  | rewindAttemptGeneration =>
    simp only [step, Option.ite_none_right_eq_some] at hstep
    cases hstep.2
    exact ih
  | _ =>
    cases hstep
    exact ih

theorem mem_of_mem_acceptedChunks
    (hmem : chunk ∈ acceptedChunks answers) : ∃ entry ∈ answers, entry.1 = chunk := by
  obtain ⟨entry, hentry, rfl⟩ := mem_map.1 hmem
  exact ⟨entry, mem_of_mem_filter hentry, rfl⟩

/-! ## What was accepted since the last republish that stands -/

/-- Numbers of answers: all of them, those before the last bump that was not
rewound, and those before the bump under it. -/
structure Marks where
  answered : ℕ := 0
  standing : ℕ := 0
  undone : ℕ := 0

def Marks.next (marks : Marks) : StreamEvent → Marks
  | .apply _ _ => { marks with answered := marks.answered + 1 }
  | .bumpAttemptGeneration =>
    { marks with standing := marks.answered, undone := marks.standing }
  | .recordAbandonedAttemptId _ => marks
  | .rewindAttemptGeneration => { marks with standing := marks.undone }

/-- The chunks accepted since the last bump that was not rewound. -/
def acceptedSince (events : List StreamEvent) (answers : List (ChunkEnvelope × ChunkApplied)) :
    List ChunkEnvelope :=
  acceptedChunks (answers.drop (events.foldl Marks.next {}).standing)

/-- A rewind comes only while nothing was accepted since its bump. -/
def KeepsAccepted (state : StreamRun) : StreamEvent → Prop
  | .rewindAttemptGeneration => state.collector.lastAppliedSeq = none
  | _ => True

/-- The log of a run is what was accepted since the marks. -/
structure Marked (state : StreamRun) (marks : Marks) (log : AttemptLog) : Prop where
  tracks : Tracks state log
  answered : marks.answered = state.answers.length
  standing_le : marks.standing ≤ marks.answered
  live_eq : log.live.map Prod.snd = acceptedChunks (state.answers.drop marks.standing)
  saved_eq : ∀ saved ∈ log.saved, marks.undone ≤ marks.answered ∧
    saved.map Prod.snd ++ log.live.map Prod.snd =
      acceptedChunks (state.answers.drop marks.undone)

theorem acceptedChunks_drop_concat (hmark : mark ≤ answers.length) (chunk : ChunkEnvelope)
    (answer : ChunkApplied) :
    acceptedChunks ((answers ++ [(chunk, answer)]).drop mark) =
      acceptedChunks (answers.drop mark) ++ if Accepted answer then [chunk] else [] := by
  rw [drop_append_of_le_length hmark, acceptedChunks_concat]

theorem step_marked {next : StreamRun} (hmarked : Marked state marks log)
    (hkeeps : KeepsAccepted state event) (hopen : Open next)
    (hstep : step state event = some next) : ∃ log, Marked next (marks.next event) log := by
  obtain ⟨htracks, hanswered, hstanding, hlive, hsaved⟩ := hmarked
  cases event with
  | apply now chunk =>
    cases hstep
    have hcount : marks.answered + 1 =
        (state.answers ++ [(chunk, (state.collector.apply now chunk).2)]).length := by
      rw [length_append, hanswered, length_singleton]
    have hlive' := acceptedChunks_drop_concat (hanswered ▸ hstanding) chunk
      (state.collector.apply now chunk).2
    have hsaved' := fun saved hmem => acceptedChunks_drop_concat
      (hanswered ▸ (hsaved saved hmem).1) chunk (state.collector.apply now chunk).2
    by_cases haccepted : Accepted (state.collector.apply now chunk).2
    · refine ⟨_, step_accept_tracks htracks now chunk haccepted (hopen (chunk, _) (by simp)),
        hcount, Nat.le_succ_of_le hstanding, ?_, fun saved hmem =>
          ⟨Nat.le_succ_of_le (hsaved saved hmem).1, ?_⟩⟩
      · rw [Marks.next, hlive', if_pos haccepted, ← hlive, map_append]
        rfl
      · rw [Marks.next, hsaved' saved hmem, if_pos haccepted, ← (hsaved saved hmem).2,
          map_append, append_assoc]
        rfl
    · refine ⟨log, step_refuse_tracks htracks now chunk haccepted, hcount,
        Nat.le_succ_of_le hstanding, ?_, fun saved hmem =>
          ⟨Nat.le_succ_of_le (hsaved saved hmem).1, ?_⟩⟩
      · rw [Marks.next, hlive', if_neg haccepted, append_nil, hlive]
      · rw [Marks.next, hsaved' saved hmem, if_neg haccepted, append_nil, (hsaved saved hmem).2]
  | bumpAttemptGeneration =>
    cases hstep
    refine ⟨_, step_bump_tracks htracks, hanswered, le_rfl, ?_, fun saved hmem => ?_⟩
    · simp [Marks.next, hanswered, acceptedChunks]
    · cases hmem
      exact ⟨hstanding, (append_nil _).trans hlive⟩
  | recordAbandonedAttemptId attemptId =>
    cases hstep
    exact ⟨log, step_record_tracks htracks attemptId, hanswered, hstanding, hlive, hsaved⟩
  | rewindAttemptGeneration =>
    simp only [step, Option.ite_none_right_eq_some] at hstep
    obtain ⟨hsnapshot, hnext⟩ := hstep
    cases hnext
    obtain ⟨saved, hmem, hrewound⟩ := step_rewind_tracks htracks hsnapshot
    obtain ⟨hundone, hsame⟩ := hsaved saved hmem
    -- nothing was accepted since the bump, so the log put aside is all there is
    have hempty : log.live = [] := by
      have hnone := htracks.lastAppliedSeq.symm.trans hkeeps
      rwa [Option.map_eq_none_iff, getLast?_eq_none_iff] at hnone
    rw [hempty, map_nil, append_nil] at hsame
    exact ⟨_, hrewound, hanswered, hundone, hsame, by simp⟩

/-- The run lemma: up to the first terminal answer the log is what was accepted
since the last bump that stands. -/
theorem run_marked (hmarked : Marked state marks log)
    (hkeeps : Runs.Guarded step KeepsAccepted state events)
    (hrun : Runs.run step state events = some final) (hopen : Open final) :
    ∃ log, Marked final (events.foldl Marks.next marks) log := by
  induction events generalizing state marks log with
  | nil =>
    cases hrun
    exact ⟨log, hmarked⟩
  | cons event rest ih =>
    obtain ⟨next, hnext, hrest⟩ := (Runs.run_cons_eq_some ..).1 hrun
    have hopened : Open next :=
      Runs.run_invariant (fun state => Open state → Open next)
        (fun _ _ _ hbefore hstep hlater => hbefore (open_of_step hstep hlater))
        (fun hnow => hnow) hrest hopen
    obtain ⟨log, hmarked⟩ := step_marked hmarked hkeeps.1 hopened hnext
    exact ih hmarked (hkeeps.2 next hnext) hrest

/-- Accepted chunks with consecutive `seq` form a slice of the deltas that
their attempt's worker emitted. -/
theorem live_eq_slice {emitted : Emissions} {state : StreamRun} {log : AttemptLog}
    (htracks : Tracks state log) (hemitted : ∀ entry ∈ state.answers, emitted.Has entry.1)
    (attemptId : String) (hattempt : ∀ entry ∈ log.live, entry.2.attemptId = attemptId) :
    ∃ first stop, first ≤ stop ∧ stop ≤ (emitted attemptId).deltas.length ∧ log.live.map Prod.snd =
        slice (emitted attemptId).deltas first stop := by
  have hposition : ∀ chunk ∈ log.live.map Prod.snd,
      (emitted attemptId).deltas[chunk.seq]? = some chunk := by
    intro chunk hchunk
    obtain ⟨entry, hentry, hsame⟩ :=
      mem_of_mem_acceptedChunks (htracks.live_accepted.subset hchunk)
    have hhas := hemitted entry hentry
    obtain ⟨live, hlive, rfl⟩ := mem_map.1 hchunk
    rw [hsame, Emissions.Has, hattempt live hlive] at hhas
    exact (emitted attemptId).getElem_seq_of_not_done hhas
      (htracks.live_sequential.nonTerminal live hlive)
  have hchain : (log.live.map Prod.snd).IsChain fun first second =>
      second.seq = first.seq + 1 :=
    (isChain_map Prod.snd).2 htracks.live_sequential.consecutive
  cases hlive : log.live.map Prod.snd with
  | nil => exact ⟨0, 0, le_rfl, Nat.zero_le _, by simp⟩
  | cons head tail =>
    rw [hlive] at hposition hchain
    have hblock := eq_slice_of_consecutive hposition hchain rfl
    refine ⟨head.seq, head.seq + (head :: tail).length, by omega, ?_, hblock⟩
    by_contra hlong
    have hlength := congrArg List.length hblock
    simp only [slice, length_drop, length_take, length_cons] at hlength hlong
    omega

/-- A gap between two non-terminal chunks is answered `seqGap` and leaves the
collector as it was. -/
theorem apply_gap {collector : StreamCollector} {last : ℕ} (now : ℕ)
    (hformed : chunk.wellFormed = true)
    (hcurrent : collector.currentAttemptId = some chunk.attemptId)
    (hlast : collector.lastAppliedSeq = some last) (hdone : chunk.done = false)
    (hgap : last + 1 < chunk.seq) : collector.apply now chunk = (collector, .seqGap) := by
  have hseq : ¬ chunk.seq ≤ last := by omega
  simp [StreamCollector.apply, hformed, StreamCollector.latch, hcurrent,
    StreamCollector.seqVerdict, hdone, hlast, hseq, hgap]

/-- **What survives.**  In every run over emitted chunks whose rewinds forget
nothing accepted, up to the first terminal answer: a non-terminal chunk that
skips a `seq` of the latched attempt is answered `seqGap`; and the text built at
the terminal answer is that of all chunks accepted since the last republish that
stands, which are a contiguous block of the deltas of one attempt, followed by
its terminal chunk.  The block is everything the attempt emitted when it starts
at `0` and ends right below the terminal's `seq`. -/
theorem terminal_text_contiguous (emitted : Emissions) (publishedAt : ℕ) (tapped : Bool)
    (events : List StreamEvent) (before : StreamRun)
    (hrun : Runs.run step (start publishedAt tapped) events = some before)
    (hkeeps : Runs.Guarded step KeepsAccepted (start publishedAt tapped) events)
    (hdelivers : ∀ event ∈ events, Delivers emitted event) (hfirst : Open before) (now : ℕ)
    (chunk : ChunkEnvelope) (hchunk : emitted.Has chunk) :
    (∀ last, chunk.wellFormed = true → before.collector.currentAttemptId = some chunk.attemptId →
      before.collector.lastAppliedSeq = some last →
      chunk.done = false → last + 1 < chunk.seq →
      before.collector.apply now chunk = (before.collector, .seqGap)) ∧
    ((before.collector.apply now chunk).2 = .terminal → ∃ outcome first stop,
        (before.collector.apply now chunk).1.buildOutcome = some outcome ∧
        chunk = (emitted outcome.attemptId).terminal ∧
        first ≤ stop ∧ stop ≤ (emitted outcome.attemptId).deltas.length ∧
        slice (emitted outcome.attemptId).deltas first stop =
          acceptedSince events before.answers ∧
        outcome.text = String.join ((acceptedSince events before.answers ++
            [chunk]).map ChunkEnvelope.textDelta) ∧
        (first = 0 → stop = chunk.seq → outcome.text = (emitted outcome.attemptId).text)) := by
  refine ⟨fun last hformed hcurrent hlast hdone hgap =>
    apply_gap now hformed hcurrent hlast hdone hgap, fun hterminal => ?_⟩
  have hstart : Marked (start publishedAt tapped) {} ⟨[], none⟩ := by
    refine ⟨start_tracks publishedAt tapped, ?_, le_rfl, ?_, by simp⟩ <;>
      cases tapped <;> rfl
  obtain ⟨log, hmarked⟩ := run_marked hstart hkeeps hrun hfirst
  have htracks := hmarked.tracks
  obtain ⟨outcome, hbuilt, hassembled⟩ :=
    buildOutcome_of_terminal htracks now chunk hterminal
  have hid : chunk.attemptId = outcome.attemptId :=
    hassembled.oneAttempt chunk (by simp)
  have hlast : chunk = (emitted outcome.attemptId).terminal := by
    rw [Emissions.Has, hid] at hchunk
    exact (emitted outcome.attemptId).eq_terminal_of_done hchunk hassembled.terminal_done
  obtain ⟨first, stop, horder, hstop, hlive⟩ :=
    live_eq_slice htracks (run_answers_emitted hrun hdelivers) outcome.attemptId fun entry hentry =>
        hassembled.oneAttempt entry.2 (mem_append_left _ (mem_map_of_mem hentry))
  have hsince : log.live.map Prod.snd = acceptedSince events before.answers := hmarked.live_eq
  have htext := hassembled.text_eq
  rw [hsince] at hlive htext
  refine ⟨outcome, first, stop, hbuilt, hlast, horder, hstop, hlive.symm, htext, ?_⟩
  rintro rfl rfl
  rw [htext, hlive, hlast, (emitted outcome.attemptId).terminal_last.1, slice_full]
  rfl

/-- Every attempt emits `Hel`, `lo` and then a terminal `!`. -/
def helloEmissions : Emissions := fun attemptId => {
  deltas := [textChunk attemptId 0 "Hel", textChunk attemptId 1 "lo"]
  terminal := textChunk attemptId 2 "!" true
  numbered := by
    intro index chunk hchunk
    match index with
    | 0 => cases hchunk; exact ⟨rfl, rfl, rfl⟩
    | 1 => cases hchunk; exact ⟨rfl, rfl, rfl⟩
    | index + 2 => simp at hchunk
  terminal_last := ⟨rfl, rfl, rfl⟩ }

/-- The transport loses `lo`, then delivers the terminal chunk. -/
def lostDelta : List StreamEvent := [.apply 1 (textChunk "att-A" 0 "Hel")]

theorem lostDelta_delivers : ∀ event ∈ lostDelta, Delivers helloEmissions event := by
  intro event hevent
  rw [mem_singleton.1 hevent]
  exact mem_append_left _ (mem_cons_self ..)

theorem helloEmissions_has_terminal : helloEmissions.Has (textChunk "att-A" 2 "!" true) :=
  mem_append_right _ (mem_singleton.2 rfl)

/-- A republish is rolled back before the first chunk arrives. -/
theorem terminal_text_contiguous_lostDelta : ∃ before,
    Runs.run step (start 0 false) (.bumpAttemptGeneration :: .rewindAttemptGeneration ::
      lostDelta) = some before ∧ ∃ outcome first stop,
        (before.collector.apply 2 (textChunk "att-A" 2 "!" true)).1.buildOutcome = some outcome ∧
        first ≤ stop ∧ stop ≤ (helloEmissions outcome.attemptId).deltas.length ∧
        slice (helloEmissions outcome.attemptId).deltas first stop = [textChunk "att-A" 0 "Hel"] ∧
        outcome.text = "Hel!" := by
  refine ⟨_, rfl, ?_⟩
  obtain ⟨outcome, first, stop, hbuilt, -, horder, hstop, hblock, htext, -⟩ :=
    (terminal_text_contiguous helloEmissions 0 false
      (.bumpAttemptGeneration :: .rewindAttemptGeneration :: lostDelta) _ rfl
      ⟨trivial, by
        rintro - ⟨⟩
        exact ⟨rfl, by rintro - ⟨⟩; exact ⟨trivial, by simp [Runs.Guarded]⟩⟩⟩
      (by simpa [Delivers] using lostDelta_delivers) (by unfold Open; decide) 2
      (textChunk "att-A" 2 "!" true) helloEmissions_has_terminal).2 (by decide)
  exact ⟨outcome, first, stop, hbuilt, horder, hstop, hblock, htext.trans (by decide)⟩

/-- The full guarantee: whenever a run over emitted chunks ends in a terminal
answer without an error, the text is that of all chunks the attempt emitted. -/
def NoSilentLoss : Prop :=
  ∀ (emitted : Emissions) (publishedAt : ℕ) (tapped : Bool)
    (events : List StreamEvent) (before : StreamRun) (now : ℕ)
    (chunk : ChunkEnvelope) (outcome : StreamOutcome),
    Runs.run step (start publishedAt tapped) events = some before →
    (∀ event ∈ events, Delivers emitted event) → Open before →
    emitted.Has chunk → (before.collector.apply now chunk).2 = .terminal →
    (before.collector.apply now chunk).1.buildOutcome = some outcome →
    outcome.error = none → outcome.text = (emitted outcome.attemptId).text

/-- The terminal chunk is accepted over the lost delta and the outcome reports
`Hel!` instead of `Hello!`. -/
theorem not_noSilentLoss : ¬ NoSilentLoss := by
  intro hclaim
  have htext := hclaim helloEmissions 0 false lostDelta _ 2
    (textChunk "att-A" 2 "!" true) _ rfl lostDelta_delivers
    (by unfold Open; decide) helloEmissions_has_terminal (by decide) rfl rfl
  revert htext
  decide

end SieCluster.StreamLoss
