import Mathlib

/-!
# Picking a worker

Of the workers of a ring the one under the least pressure is picked, and among
equals the one with the highest hash.  The pressure is a cost for each slot, which
is rounded up in machine integers.
-/

namespace SieCluster.WorkerPick

open List

-- The order of a complete lattice would not compute.
local instance (priority := 2000) intPreorder : Preorder ℤ := Int.instLinearOrder.toPreorder

/-- What an `i64` holds of an integer. -/
def wrap (value : ℤ) : ℤ :=
  value.bmod (2 ^ 64)

/-- The numbers are those that `with_pressure` makes of an `i32` or an `i64`. -/
structure RingEntry where
  workerId : String
  workerIdHash : BitVec 64
  readyGpuSlots : ℤ
  queueDepth : ℤ
  pendingCost : ℤ
  inflightBatches : ℤ
  slots_mem : readyGpuSlots ∈ Set.Ico 1 (2 ^ 31)
  cost_mem : pendingCost ∈ Set.Ico 0 (2 ^ 63)

def ceilDiv (value divisor : ℤ) : ℤ :=
  if value ≤ 0 then 0 else (wrap (value + max divisor 1 - 1)).tdiv (max divisor 1)

section

variable (xxh3 : List (BitVec 8) → BitVec 64)

def withPressure (workerId : String) (readyGpuSlots queueDepth : Int32) (pendingCost : Int64)
    (inflightBatches : Int32) : RingEntry where
  workerId := workerId
  workerIdHash := xxh3 (workerId.toUTF8.toList.map UInt8.toBitVec)
  readyGpuSlots := max readyGpuSlots.toInt 1
  queueDepth := max queueDepth.toInt 0
  pendingCost := max pendingCost.toInt 0
  inflightBatches := max inflightBatches.toInt 0
  slots_mem := ⟨le_max_right _ _, max_lt readyGpuSlots.toInt_lt (by decide)⟩
  cost_mem := ⟨le_max_right _ _, max_lt pendingCost.toInt_lt (by decide)⟩

def pressureKey (entry : RingEntry) : ℤ ×ₗ ℤ ×ₗ ℤ ×ₗ ℤ ×ₗ ℤ ×ₗ ℤ :=
  let slots := max entry.readyGpuSlots 1
  toLex (ceilDiv (max entry.pendingCost 0) slots, toLex (ceilDiv (max entry.queueDepth 0) slots,
      toLex (ceilDiv (max entry.inflightBatches 0) slots, toLex (max entry.pendingCost 0,
          toLex (max entry.queueDepth 0, max entry.inflightBatches 0)))))

def combine (requestHash workerIdHash : BitVec 64) : BitVec 64 :=
  let mixed := workerIdHash.rotateLeft 32 ^^^ requestHash
  xxh3 ((List.range 8).map fun byte => mixed.extractLsb' (8 * byte) 8)

/-- The order in which entries are compared: the higher hash and the higher name come first. -/
def rank (requestHash : BitVec 64) (entry : RingEntry) :
    (ℤ ×ₗ ℤ ×ₗ ℤ ×ₗ ℤ ×ₗ ℤ ×ₗ ℤ) ×ₗ ℕᵒᵈ ×ₗ Stringᵒᵈ :=
  toLex (pressureKey entry, toLex (.toDual (combine xxh3 requestHash entry.workerIdHash).toNat,
    .toDual entry.workerId))

def pickWorker (ring : List RingEntry) (hash : Option (BitVec 64)) : Option String :=
  if ring.isEmpty then none
  else hash.bind fun requestHash => (ring.argmin (rank xxh3 requestHash)).map RingEntry.workerId

/-- The pending cost for each slot, rounded up. -/
def costShare (entry : RingEntry) : ℤ :=
  ⌈(entry.pendingCost : ℚ) / entry.readyGpuSlots⌉

end

/-- What the pick from a ring should be. -/
structure PickCorrect (pick : List RingEntry → Option String) (ring : List RingEntry) : Prop where
  order : ∀ other : List RingEntry, other.Perm ring → pick other = pick ring
  added : ∀ entry, pick (entry :: ring) = pick ring ∨ pick (entry :: ring) = some entry.workerId
  removed : ∀ entry rest, ring.Perm (entry :: rest) → pick ring ≠ some entry.workerId →
    pick rest = pick ring
  cheapest : ∀ entry ∈ ring, (∀ other ∈ ring, other.workerId ≠ entry.workerId →
    costShare entry < costShare other) → pick ring = some entry.workerId

/-- The rounding does not leave the range of an `i64`. -/
def Fits (entry : RingEntry) : Prop :=
  entry.pendingCost + entry.readyGpuSlots - 1 < 2 ^ 63

/-- The pick is an entry that no other comes before. -/
theorem pickWorker_eq_some_iff :
    pickWorker xxh3 ring (some requestHash) = some workerId ↔ ∃ entry ∈ ring,
      entry.workerId = workerId ∧
        ∀ other ∈ ring, rank xxh3 requestHash entry ≤ rank xxh3 requestHash other := by
  cases ring with
  | nil => simp [pickWorker]
  | cons first rest =>
    simp only [pickWorker, isEmpty_cons, Bool.false_eq_true, if_false, Option.bind_some,
      Option.map_eq_some_iff]
    constructor
    · rintro ⟨entry, hentry, rfl⟩
      exact ⟨entry, argmin_mem hentry, rfl, fun _ hother => le_of_mem_argmin hother hentry⟩
    · rintro ⟨entry, hmem, rfl, hleast⟩
      cases hfound : (first :: rest).argmin (rank xxh3 requestHash) with
      | none => cases argmin_eq_none.1 hfound
      | some found =>
        have hsame := (le_of_mem_argmin hmem hfound).antisymm (hleast found (argmin_mem hfound))
        exact ⟨found, rfl, congrArg (fun rank => (ofLex (ofLex rank).2).2) hsame⟩

theorem pickWorker_eq_none_iff : pickWorker xxh3 ring (some requestHash) = none ↔ ring = [] := by
  cases ring <;> simp [pickWorker, argmin_eq_none]

section

variable (entry : RingEntry)

/-- Within the range the code rounds up. -/
theorem pressureKey_fst (hfits : Fits entry) : (ofLex (pressureKey entry)).1 = costShare entry := by
  obtain ⟨hslots, -⟩ := entry.slots_mem
  obtain ⟨hcost, -⟩ := entry.cost_mem
  unfold Fits at hfits
  have hwrap : wrap (entry.pendingCost + entry.readyGpuSlots - 1) =
      entry.pendingCost + entry.readyGpuSlots - 1 := by
    simp only [wrap, Int.bmod]
    omega
  simp only [pressureKey, ceilDiv, max_eq_left hslots, max_eq_left hcost, hwrap, ofLex_toLex]
  have hpositive : (0 : ℚ) < entry.readyGpuSlots := by exact_mod_cast hslots
  refine Eq.symm (Int.ceil_eq_iff.2 ?_)
  rw [lt_div_iff₀ hpositive, div_le_iff₀ hpositive]
  split_ifs with hzero
  · simp [hzero.antisymm hcost, hpositive]
  · rw [Int.tdiv_eq_ediv_of_nonneg (by omega)]
    generalize entry.readyGpuSlots = slots at *
    have hdivides := Int.emod_add_mul_ediv (entry.pendingCost + slots - 1) slots
    have hleast := Int.emod_nonneg (entry.pendingCost + slots - 1) (by omega : slots ≠ 0)
    have hmost := Int.emod_lt_of_pos (entry.pendingCost + slots - 1) hslots
    generalize (entry.pendingCost + slots - 1) / slots = share at *
    have hbounds : (share - 1) * slots < entry.pendingCost ∧ entry.pendingCost ≤ share * slots := by
      constructor <;> linarith
    exact_mod_cast hbounds

/-- Past the range the code rounds to a negative number. -/
theorem pressureKey_fst_neg (hfits : ¬ Fits entry) : (ofLex (pressureKey entry)).1 < 0 := by
  obtain ⟨hslots, hslotsTop⟩ := entry.slots_mem
  obtain ⟨hcost, hcostTop⟩ := entry.cost_mem
  unfold Fits at hfits
  have hwrap : wrap (entry.pendingCost + entry.readyGpuSlots - 1) =
      -(2 ^ 64 - (entry.pendingCost + entry.readyGpuSlots - 1)) := by
    simp only [wrap, Int.bmod]
    omega
  simp only [pressureKey, ceilDiv, max_eq_left hslots, max_eq_left hcost, hwrap, ofLex_toLex]
  rw [if_neg (by omega), Int.neg_tdiv, Int.tdiv_eq_ediv_of_nonneg (by omega)]
  have hone := Int.le_ediv_of_mul_le hslots
    (by omega : 1 * _ ≤ 2 ^ 64 - (entry.pendingCost + entry.readyGpuSlots - 1))
  omega

end

theorem pressureKey_fst_le (hrank : rank xxh3 requestHash first ≤ rank xxh3 requestHash second) :
    (ofLex (pressureKey first)).1 ≤ (ofLex (pressureKey second)).1 :=
  Prod.Lex.monotone_fst _ _ (Prod.Lex.monotone_fst _ _ hrank)

theorem pickCorrect_of_fits (hfits : ring.length ≤ 1 ∨ ∀ entry ∈ ring, Fits entry) :
    PickCorrect (pickWorker xxh3 · (some requestHash)) ring where
  order := by
    intro other hperm
    ext workerId
    simp only [pickWorker_eq_some_iff, hperm.mem_iff]
  added := by
    intro entry
    cases hpick : pickWorker xxh3 (entry :: ring) (some requestHash) with
    | none => cases pickWorker_eq_none_iff.1 hpick
    | some =>
      obtain ⟨found, hmem, rfl, hleast⟩ := pickWorker_eq_some_iff.1 hpick
      rcases mem_cons.1 hmem with rfl | hold
      · exact .inr rfl
      · refine .inl (Eq.symm (pickWorker_eq_some_iff.2 ⟨found, hold, rfl, ?_⟩))
        exact fun other hother => hleast other (mem_cons_of_mem _ hother)
  removed := by
    intro entry rest hperm hother
    cases hpick : pickWorker xxh3 ring (some requestHash) with
    | none =>
      rw [pickWorker_eq_none_iff.1 hpick] at hperm
      cases hperm.nil_eq
    | some =>
      obtain ⟨found, hmem, rfl, hleast⟩ := pickWorker_eq_some_iff.1 hpick
      have hrest : found ∈ rest := by
        refine (mem_cons.1 (hperm.mem_iff.1 hmem)).resolve_left ?_
        rintro rfl
        exact hother hpick
      refine pickWorker_eq_some_iff.2 ⟨found, hrest, rfl, ?_⟩
      exact fun other hmem => hleast other (hperm.mem_iff.2 (mem_cons_of_mem _ hmem))
  cheapest := by
    intro entry hentry hcheapest
    cases hpick : pickWorker xxh3 ring (some requestHash) with
    | none => simp [pickWorker_eq_none_iff.1 hpick] at hentry
    | some =>
      obtain ⟨found, hmem, rfl, hleast⟩ := pickWorker_eq_some_iff.1 hpick
      by_contra hother
      have hcost := hcheapest found hmem fun hsame => hother (congrArg some hsame)
      rcases hfits with hsingle | hfits
      · obtain ⟨only, rfl⟩ : ∃ only, ring = [only] :=
          length_eq_one_iff.1 (hsingle.antisymm (length_pos_of_mem hmem))
        rw [mem_singleton.1 hmem, mem_singleton.1 hentry] at hcost
        exact lt_irrefl _ hcost
      · have hkeys := pressureKey_fst_le (hleast entry hentry)
        rw [pressureKey_fst found (hfits found hmem), pressureKey_fst entry (hfits entry hentry)]
          at hkeys
        exact absurd hcost hkeys.not_gt

/-- A worker without work, under another name. -/
def idleBeside (entry : RingEntry) : RingEntry :=
  ⟨entry.workerId ++ "+", 0, 1, 0, 0, 0, by simp, by simp⟩

/-- Beside a worker without work, an entry out of range is picked wrongly. -/
theorem not_pickCorrect_of_not_fits (entry : RingEntry) (hfits : ¬ Fits entry) :
    ¬ PickCorrect (pickWorker xxh3 · (some requestHash)) [entry, idleBeside entry] := by
  intro hring
  obtain ⟨hslots, hslotsTop⟩ := entry.slots_mem
  have hcost : 0 < entry.pendingCost := by
    unfold Fits at hfits
    omega
  have hname : entry.workerId ≠ (idleBeside entry).workerId := by
    intro hsame
    have hlength := congrArg String.length hsame
    simp [idleBeside] at hlength
  have hidle : Fits (idleBeside entry) := by
    simp [Fits, idleBeside]
  have hnone : costShare (idleBeside entry) = 0 := by
    simp [costShare, idleBeside]
  have hshare : 0 < costShare entry := by
    have hpositive : (0 : ℚ) < entry.pendingCost / entry.readyGpuSlots := by
      apply div_pos <;> exact_mod_cast ‹_›
    exact Int.ceil_pos.2 hpositive
  have hpick := hring.cheapest (idleBeside entry) (by simp) (by simp [hnone, hshare])
  obtain ⟨found, hmem, hfound, hleast⟩ := pickWorker_eq_some_iff.1 hpick
  have hkeys := pressureKey_fst_le (hleast entry (by simp))
  have hnegative := pressureKey_fst_neg entry hfits
  rcases mem_pair.1 hmem with rfl | rfl
  · exact hname hfound
  · rw [pressureKey_fst _ hidle] at hkeys
    omega

/-- The pick from a ring is right if the ring has at most one entry or the rounding of every
entry stays in range; an entry out of range is picked wrongly from some ring of two. -/
theorem ring_pickCorrect (xxh3 : List (BitVec 8) → BitVec 64) (requestHash : BitVec 64) :
    (∀ ring : List RingEntry, (ring.length ≤ 1 ∨ ∀ entry ∈ ring, Fits entry) →
      PickCorrect (pickWorker xxh3 · (some requestHash)) ring) ∧
    ∀ entry, ¬ Fits entry →
      ¬ PickCorrect (pickWorker xxh3 · (some requestHash)) [entry, idleBeside entry] :=
  ⟨fun _ => pickCorrect_of_fits, not_pickCorrect_of_not_fits⟩

/-- Two slots share a cost that is as large as can be. -/
def busyEntry : RingEntry :=
  withPressure (fun _ => 0) "busy" 2 0 Int64.maxValue 0

theorem busyEntry_picked : costShare (idleBeside busyEntry) < costShare busyEntry ∧
    pickWorker (fun _ => 0) [busyEntry, idleBeside busyEntry] (some 0) = some "busy" := by
  decide +kernel

end SieCluster.WorkerPick
