import SieCluster.Core.Tables

/-!
# Tombstones of cancelled batches

A worker remembers a cancelled request for a fixed time, and drops what has
expired whenever it is told of a request or asked about one.
-/

namespace SieCluster.BatchCancel

open Tables

/-- In nanoseconds. -/
def batchCancelTtl : ℕ := 120 * 10 ^ 9

variable (entries : Table ℕ) (now : ℕ) (requestId : String)

def pruneExpired : Table ℕ :=
  entries.filter fun _ expiresAt => now < expiresAt

def cancel : Table ℕ :=
  (pruneExpired entries now).insert requestId (now + batchCancelTtl)

def isCancelled : Bool × Table ℕ :=
  (requestId ∈ pruneExpired entries now, pruneExpired entries now)

inductive Call where
  | cancel (requestId : String)
  | isCancelled (requestId : String)

/-- A call with the time it is made at. -/
def after (entries : Table ℕ) : ℕ × Call → Table ℕ
  | (now, .cancel requestId) => cancel entries now requestId
  | (now, .isCancelled requestId) => (isCancelled entries now requestId).2

def Remembered : Prop :=
  ∃ expiresAt, entries[requestId]? = some expiresAt ∧ now < expiresAt

theorem get_pruneExpired : (pruneExpired entries now)[requestId]? = some expiresAt ↔
    entries[requestId]? = some expiresAt ∧ now < expiresAt := by
  simp [pruneExpired, Option.filter_eq_some_iff]

theorem isCancelled_iff :
    (isCancelled entries now requestId).1 ↔ Remembered entries now requestId := by
  simp only [isCancelled, decide_eq_true_eq, Std.ExtTreeMap.mem_iff_isSome_getElem?,
    Option.isSome_iff_exists, get_pruneExpired, Remembered]

/-- What is dropped at one time is not asked for later. -/
theorem remembered_pruneExpired (hlater : time ≤ now) :
    Remembered (pruneExpired entries time) now requestId ↔ Remembered entries now requestId := by
  simp only [Remembered, get_pruneExpired]
  refine exists_congr fun expiresAt => ?_
  constructor
  · exact fun ⟨⟨hget, _⟩, hlive⟩ => ⟨hget, hlive⟩
  · exact fun ⟨hget, hlive⟩ => ⟨⟨hget, by omega⟩, hlive⟩

/-- A request counts as cancelled exactly when a cancel came less than the time to live ago. -/
theorem isCancelled_run (calls : List (ℕ × Call))
    (htimes : (calls.map Prod.fst).Pairwise (· ≤ ·)) (hnow : ∀ call ∈ calls, call.1 ≤ now) :
    (isCancelled (calls.foldl after ∅) now requestId).1 ↔
      ∃ time, (time, .cancel requestId) ∈ calls ∧ now < time + batchCancelTtl := by
  rw [isCancelled_iff]
  induction calls using List.reverseRecOn with
  | nil => simp [Remembered]
  | append_singleton calls last ih =>
    obtain ⟨time, call⟩ := last
    simp only [List.map_append, List.pairwise_append, List.forall_mem_append] at htimes hnow
    specialize ih htimes.1 hnow.1
    have hlater : time ≤ now := hnow.2 (time, call) (by simp)
    rw [List.foldl_concat]
    cases call with
    | isCancelled =>
      simp [after, isCancelled, remembered_pruneExpired _ _ _ hlater, ih]
    | cancel other =>
      rw [after, cancel, Remembered]
      by_cases hsame : other = requestId
      · -- an earlier cancel of the same request expires no later than this one
        have hearlier : ∀ earlier, (earlier, .cancel requestId) ∈ calls → earlier ≤ time :=
          fun earlier hcall => htimes.2.2 earlier (List.mem_map_of_mem hcall) time (by simp)
        simp only [get_insert, if_pos hsame]
        grind
      · simp only [get_insert, if_neg hsame]
        rw [← Remembered, remembered_pruneExpired _ _ _ hlater, ih]
        simp [Ne.symm hsame]

/-- Two requests are cancelled, one of them again before the other expires. -/
def repeated : List (ℕ × Call) :=
  [(0, .cancel "a"), (1, .cancel "b"), (2, .isCancelled "a"), (batchCancelTtl, .cancel "b")]

theorem isCancelled_run_repeated :
    (isCancelled (repeated.foldl after ∅) (batchCancelTtl + 5) "b").1 ∧
      ¬ (isCancelled (repeated.foldl after ∅) (batchCancelTtl + 5) "a").1 := by
  rw [isCancelled_run _ "b" repeated (by decide) (by decide),
    isCancelled_run _ "a" repeated (by decide) (by decide)]
  refine ⟨⟨batchCancelTtl, by simp [repeated], by decide⟩, ?_⟩
  rintro ⟨time, hcancel, hlive⟩
  simp [repeated] at hcancel
  omega

end SieCluster.BatchCancel
