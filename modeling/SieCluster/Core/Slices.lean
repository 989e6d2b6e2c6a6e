import Mathlib

/-!
# Contiguous slices of a list

`slice values start stop` is the half-open range `start..stop` of a list.
Adjacent slices concatenate, a monotone sequence of bounds cuts a list into
slices that concatenate to the whole, and a list whose elements sit at
consecutive positions of another list is one of its slices.  Balanced bounds
cut a length into parts that differ by at most one.
-/

namespace SieCluster.Slices

open List

variable {A : Type*}

/-- The elements at positions `start, …, stop - 1`. -/
def slice (values : List A) (start stop : ℕ) : List A :=
  (values.take stop).drop start

section

variable (values : List A)

theorem length_slice (start stop : ℕ) (hstop : stop ≤ values.length) :
    (slice values start stop).length = stop - start := by
  simp [slice, Nat.min_eq_left hstop]

@[simp]
theorem slice_self (start : ℕ) : slice values start start = [] := by
  simp [slice]

@[simp]
theorem slice_full : slice values 0 values.length = values := by
  simp [slice]

/-- Adjacent slices concatenate. -/
theorem slice_append (hfirst : start ≤ middle) (hsecond : middle ≤ stop) :
    slice values start middle ++ slice values middle stop = slice values start stop := by
  have hsplit : values.take stop = values.take middle ++ (values.take stop).drop middle := by
    conv_lhs => rw [← take_append_drop middle (values.take stop)]
    rw [take_take, Nat.min_eq_left hsecond]
  conv_rhs => rw [slice, hsplit]
  by_cases hlength : middle ≤ values.length
  · rw [drop_append_of_le_length (by simp [hfirst, hlength])]
    rfl
  · have hempty : (values.take stop).drop middle = [] := by
      rw [drop_eq_nil_iff, length_take]
      omega
    simp [slice, hempty]

/-- Slices between consecutive monotone bounds concatenate. -/
theorem flatMap_slices (hmono : Monotone bound) (count : ℕ) :
    (List.range count).flatMap (fun index => slice values (bound index) (bound (index + 1))) =
      slice values (bound 0) (bound count) := by
  induction count with
  | zero => simp
  | succ count ih =>
    rw [range_succ, flatMap_append, ih]
    simp only [flatMap_cons, flatMap_nil, append_nil]
    exact slice_append values (hmono (Nat.zero_le count)) (hmono (Nat.le_succ count))

theorem slice_cons (hlt : start < stop) (hvalue : values[start]? = some value) :
    slice values start stop = value :: slice values (start + 1) stop := by
  have htake : (values.take stop)[start]? = some value := by
    rw [List.getElem?_take_of_lt hlt, hvalue]
  obtain ⟨hbound, hget⟩ := List.getElem?_eq_some_iff.1 htake
  rw [slice, drop_eq_getElem_cons hbound, hget]
  rfl

end

/-- Elements found at consecutive positions of `values` form a slice. -/
theorem eq_slice_of_consecutive {values block : List A} {position : A → ℕ}
    (hposition : ∀ value ∈ block, values[position value]? = some value)
    (hconsecutive : block.IsChain fun first second => position second = position first + 1)
    {first : A} {rest : List A} (hblock : block = first :: rest) :
    block = slice values (position first) (position first + block.length) := by
  subst hblock
  induction rest generalizing first with
  | nil =>
    rw [slice_cons values (by simp) (hposition first (by simp))]
    simp
  | cons second rest ih =>
    obtain ⟨hnext, hchain⟩ := isChain_cons_cons.1 hconsecutive
    have htail := ih (fun value hvalue =>
      hposition value (mem_cons_of_mem _ hvalue)) hchain
    rw [slice_cons values (by simp) (hposition first (by simp))]
    have hstop : position first + (first :: second :: rest).length =
        position second + (second :: rest).length := by
      simp only [length_cons, hnext]
      omega
    rw [hstop, ← hnext, ← htail]

/-! ## Balanced cuts -/

/-- Where part `index` begins when `total` is cut into `count` equal parts. -/
def balancedBound (total count index : ℕ) : ℕ :=
  total * index / count

theorem balancedBound_monotone (total count : ℕ) : Monotone (balancedBound total count) :=
  fun _ _ hle => Nat.div_le_div_right (Nat.mul_le_mul_left total hle)

@[simp]
theorem balancedBound_zero (total count : ℕ) : balancedBound total count 0 = 0 := by
  simp [balancedBound]

variable {count : ℕ}

theorem balancedBound_count (total : ℕ) (hcount : 0 < count) :
    balancedBound total count count = total :=
  Nat.mul_div_cancel total hcount

theorem balancedBound_le (total : ℕ) (hindex : index ≤ count) (hcount : 0 < count) :
    balancedBound total count index ≤ total :=
  (balancedBound_monotone total count hindex).trans_eq (balancedBound_count total hcount)

/-- No part is longer than the length divided by the count, rounded up. -/
theorem balancedBound_succ_le (total index : ℕ) (hcount : 0 < count) :
    balancedBound total count (index + 1) ≤ balancedBound total count index + total ⌈/⌉ count := by
  have hceil : total ≤ count * (total ⌈/⌉ count) := le_smul_ceilDiv hcount
  calc total * (index + 1) / count ≤ (total * index + count * (total ⌈/⌉ count)) / count :=
        Nat.div_le_div_right (by rw [Nat.mul_succ]; omega)
    _ = total * index / count + total ⌈/⌉ count :=
        Nat.add_mul_div_left _ _ hcount

/-- No part is empty when there are at most as many parts as elements. -/
theorem balancedBound_lt_succ (hcount : 0 < count) (hle : count ≤ total) (index : ℕ) :
    balancedBound total count index < balancedBound total count (index + 1) := by
  calc total * index / count < (total * index + count) / count := by
        rw [Nat.add_div_right _ hcount]
        exact Nat.lt_succ_self _
    _ ≤ total * (index + 1) / count :=
        Nat.div_le_div_right (by rw [Nat.mul_succ]; omega)

/-- Some part is as long as the bound for all of them. -/
theorem exists_longest_part (htotal : 0 < total) (hcount : 0 < count) :
    ∃ index < count, balancedBound total count (index + 1) -
      balancedBound total count index = total ⌈/⌉ count := by
  by_contra hshort
  push Not at hshort
  have hsum : ∑ index ∈ Finset.range count,
      (balancedBound total count (index + 1) - balancedBound total count index) =
        total := by
    rw [Finset.sum_range_tsub (balancedBound_monotone total count),
      balancedBound_count total hcount, balancedBound_zero, Nat.sub_zero]
  have hparts : ∀ index ∈ Finset.range count,
      balancedBound total count (index + 1) - balancedBound total count index ≤
        total ⌈/⌉ count - 1 := by
    intro index hindex
    have hne := hshort index (Finset.mem_range.1 hindex)
    have hle := balancedBound_succ_le total index hcount
    omega
  have hbound := Finset.sum_le_sum hparts
  rw [hsum, Finset.sum_const, Finset.card_range, smul_eq_mul] at hbound
  have hleast : total ⌈/⌉ count ≤ total ⌈/⌉ count - 1 :=
    (ceilDiv_le_iff_le_mul hcount).2 hbound
  have hceil : total ≤ count * (total ⌈/⌉ count) := le_smul_ceilDiv hcount
  have hzero : total ⌈/⌉ count = 0 := by omega
  rw [hzero] at hceil
  omega

end SieCluster.Slices
