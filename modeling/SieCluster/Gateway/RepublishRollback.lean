import SieCluster.Gateway.StreamRuns

/-!
# A republish that is rolled back

A republish bumps the attempt generation before it publishes, and rewinds it when
the publish or its acknowledgement fails.  Chunks may arrive in between; they are
judged against the cleared state, and the rewind puts the state of the bump back.
-/

namespace SieCluster.RepublishRollback

open Streaming StreamRuns

section

variable (collector : StreamCollector) (chunks : List (ℕ × ChunkEnvelope))

/-- The collector after chunks, each applied at its instant. -/
def applyAll : StreamCollector :=
  chunks.foldl (fun collector entry => (collector.apply entry.1 entry.2).1) collector

/-- `bump_attempt_generation`, the chunks, and the `rewind_attempt_generation` that undoes the
bump. -/
def rolledBack : StreamCollector :=
  (applyAll collector.bumpAttemptGeneration chunks).rewindAttemptGeneration

/-- The collector refuses the chunk: it is malformed, of another attempt, or out of sequence
for the latched one. -/
def Refuses (chunk : ChunkEnvelope) : Prop :=
  chunk.wellFormed = false ∨ ¬ Admits collector chunk ∨
    collector.currentAttemptId.isSome ∧ chunk.done = false ∧ ¬ Follows collector chunk

end

theorem latched_of_isSome (hsome : collector.currentAttemptId.isSome)
    (hadmits : Admits collector chunk) : latched collector chunk = collector := by
  obtain ⟨current, hcurrent⟩ := Option.isSome_iff_exists.1 hsome
  have hsame : current = chunk.attemptId := by simpa [Admits, hcurrent] using hadmits
  simp only [latched, hcurrent, Option.isSome_some, if_true, ← hsame]
  rw [← hcurrent]

/-- A refused chunk changes nothing. -/
theorem apply_of_refuses (now : ℕ) (hrefuses : Refuses collector chunk) :
    (collector.apply now chunk).1 = collector := by
  rcases hrefuses with hformed | hother | ⟨hsome, hdone, hgap⟩
  · simp [StreamCollector.apply, hformed]
  · rcases apply_cases collector now chunk with ⟨-, hsame | ⟨-, hadmits, -⟩⟩ | ⟨-, hadmits, -⟩
    · exact hsame
    · exact absurd hadmits hother
    · exact absurd hadmits hother
  · rcases apply_cases collector now chunk with
      ⟨-, hsame | ⟨-, hadmits, hlatched⟩⟩ | ⟨-, -, hfollows, -⟩
    · exact hsame
    · exact hlatched.trans (latched_of_isSome hsome hadmits)
    · exact absurd (hfollows.resolve_left (by simp [hdone])) hgap

theorem applyAll_of_refuses (hrefuses : ∀ entry ∈ chunks, Refuses collector entry.2) :
    applyAll collector chunks = collector := by
  induction chunks with
  | nil => rfl
  | cons entry rest ih =>
    have hfirst := apply_of_refuses entry.1 (hrefuses entry List.mem_cons_self)
    change applyAll (collector.apply entry.1 entry.2).1 rest = collector
    rw [hfirst]
    exact ih fun other hother => hrefuses other (List.mem_cons_of_mem entry hother)

variable (collector : StreamCollector)

/-- What a chunk never touches. -/
theorem apply_keeps (now : ℕ) (chunk : ChunkEnvelope) :
    (collector.apply now chunk).1.snapshot = collector.snapshot ∧
      (collector.apply now chunk).1.attemptGeneration = collector.attemptGeneration := by
  rcases apply_cases collector now chunk with ⟨-, hsame | ⟨-, -, hlatched⟩⟩ | ⟨-, -, -, happly⟩
  · rw [hsame]
    exact ⟨rfl, rfl⟩
  · rw [hlatched]
    exact ⟨rfl, rfl⟩
  · rw [happly]
    exact ⟨rfl, rfl⟩

variable (chunks : List (ℕ × ChunkEnvelope))

theorem applyAll_keeps : (applyAll collector chunks).snapshot = collector.snapshot ∧
      (applyAll collector chunks).attemptGeneration = collector.attemptGeneration := by
  induction chunks generalizing collector with
  | nil => exact ⟨rfl, rfl⟩
  | cons entry _ ih =>
    obtain ⟨hsnapshot, hgeneration⟩ := ih (collector.apply entry.1 entry.2).1
    obtain ⟨hfirst, hsecond⟩ := apply_keeps collector entry.1 entry.2
    exact ⟨hsnapshot.trans hfirst, hgeneration.trans hsecond⟩

/-- Whatever arrives in between, a rolled back republish leaves the attempt as it was, with no
abandoned attempt and, short of the end of the counter, at the same generation.  Where the
collector would have refused the chunks, this is what they do without the republish. -/
theorem rolledBack_restores : attempt (rolledBack collector chunks) = attempt collector ∧
      (rolledBack collector chunks).abandonedAttemptId = none ∧
      (collector.attemptGeneration < StreamCollector.maxGeneration →
        (rolledBack collector chunks).attemptGeneration = collector.attemptGeneration) ∧
      ((∀ entry ∈ chunks, Refuses collector entry.2) →
        attempt (rolledBack collector chunks) = attempt (applyAll collector chunks) ∧
        (collector.abandonedAttemptId = none → (rolledBack collector chunks).abandonedAttemptId =
          (applyAll collector chunks).abandonedAttemptId) ∧
        (collector.attemptGeneration < StreamCollector.maxGeneration →
          (rolledBack collector chunks).attemptGeneration =
            (applyAll collector chunks).attemptGeneration)) := by
  obtain ⟨hsnapshot, hgeneration⟩ := applyAll_keeps collector.bumpAttemptGeneration chunks
  rw [snapshot_bump] at hsnapshot
  have hattempt : attempt (rolledBack collector chunks) = attempt collector :=
    attempt_rewind hsnapshot
  have habandoned : (rolledBack collector chunks).abandonedAttemptId = none := by
    simp [rolledBack, StreamCollector.rewindAttemptGeneration, hsnapshot]
  have hcount : collector.attemptGeneration < StreamCollector.maxGeneration →
      (rolledBack collector chunks).attemptGeneration = collector.attemptGeneration := by
    intro hbelow
    have hrewound : (rolledBack collector chunks).attemptGeneration =
        (applyAll collector.bumpAttemptGeneration chunks).attemptGeneration - 1 := by
      simp [rolledBack, StreamCollector.rewindAttemptGeneration, hsnapshot]
    have hbumped : collector.bumpAttemptGeneration.attemptGeneration =
        min (collector.attemptGeneration + 1) StreamCollector.maxGeneration := rfl
    omega
  refine ⟨hattempt, habandoned, hcount, fun hrefuses => ?_⟩
  rw [applyAll_of_refuses hrefuses]
  exact ⟨hattempt, fun hnone => habandoned.trans hnone.symm, hcount⟩

def delta (attemptId : String) (seq : ℕ) (text : String) : ChunkEnvelope :=
  { kind := "chunk", requestId := "req", attemptId := attemptId, seq := seq, textDelta := text }

/-- A duplicate of the latched attempt and a chunk of another one arrive in between. -/
theorem rolledBack_restores_duplicate :
    attempt (rolledBack (applyAll (.new 0) [(1, delta "att-A" 0 "Hel")])
        [(2, delta "att-A" 0 "Hel"), (3, delta "att-B" 0 "Bye")]) =
      attempt (applyAll (applyAll (.new 0) [(1, delta "att-A" 0 "Hel")])
        [(2, delta "att-A" 0 "Hel"), (3, delta "att-B" 0 "Bye")]) := by
  refine ((rolledBack_restores _ _).2.2.2 fun entry hentry => ?_).1
  rcases List.mem_cons.1 hentry with rfl | hentry
  · refine .inr (.inr ⟨by decide, rfl, ?_⟩)
    intro hfollows
    cases hfollows 0 (by decide)
  · rw [List.mem_singleton.1 hentry]
    refine .inr (.inl fun hadmits => ?_)
    have hsame : "att-A" = "att-B" := hadmits
    exact absurd hsame (by decide)

/-- The first chunk of a slow worker, between the bump of the first-chunk timeout and the
rewind, is lost: its next chunk then starts the text. -/
theorem slowFirstChunk_lost : (rolledBack (.new 0) [(1, delta "att-A" 0 "Hel")]).chunks ≠
        (applyAll (.new 0) [(1, delta "att-A" 0 "Hel")]).chunks ∧
      (applyAll (rolledBack (.new 0) [(1, delta "att-A" 0 "Hel")])
        [(2, delta "att-A" 1 "lo")]).chunks = [(1, "lo")] := by
  decide

end SieCluster.RepublishRollback
