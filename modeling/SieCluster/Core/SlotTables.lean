import Mathlib

/-!
# Slot tables

A sender numbers the fragments of a message and a receiver puts each payload
into the slot of its number.  `Fills` relates such a table to the fragments it
was filled with; when no slot is empty, the fragments can be arranged by number
and the table is the list of their payloads.
-/

namespace SieCluster.SlotTables

open List

variable {Fragment Payload : Type*}

/-- The filled slots are exactly those of the fragments, one each. -/
structure Fills (index : Fragment → ℕ) (payload : Fragment → Payload)
    (slots : List (Option Payload)) (fragments : List Fragment) : Prop where
  nodup : (fragments.map index).Nodup
  bound : ∀ fragment ∈ fragments, index fragment < slots.length
  filled : ∀ slot value, slots.getD slot none = some value ↔
    ∃ fragment ∈ fragments, index fragment = slot ∧ payload fragment = value

variable {index : Fragment → ℕ} {payload : Fragment → Payload}
  {slots : List (Option Payload)} {fragments : List Fragment}

theorem fills_replicate (index : Fragment → ℕ) (payload : Fragment → Payload)
    (count : ℕ) : Fills index payload (List.replicate count none) [] where
  nodup := by simp
  bound := by simp
  filled := by
    intro slot value
    simp only [getD_eq_getElem?_getD, List.getElem?_replicate,
      not_mem_nil, false_and, exists_false, iff_false]
    split <;> simp

variable (hfills : Fills index payload slots fragments)
include hfills

/-- A fragment for an empty slot can be added. -/
theorem Fills.set (hbound : index fragment < slots.length)
    (hempty : slots.getD (index fragment) none = none) :
    Fills index payload (slots.set (index fragment) (some (payload fragment)))
      (fragments ++ [fragment]) where
  nodup := by
    have hfresh : index fragment ∉ fragments.map index := by
      intro hmem
      obtain ⟨other, hother, hindex⟩ := mem_map.1 hmem
      have hfilled := (hfills.filled (index fragment) (payload other)).2
        ⟨other, hother, hindex, rfl⟩
      rw [hempty] at hfilled
      cases hfilled
    rw [map_append, map_singleton, nodup_append]
    refine ⟨hfills.nodup, by simp, ?_⟩
    intro left hleft right hright hsame
    rw [mem_singleton] at hright
    exact hfresh (hright ▸ hsame ▸ hleft)
  bound := by
    intro other hother
    rw [length_set]
    rcases mem_append.1 hother with hold | hnew
    · exact hfills.bound other hold
    · rw [mem_singleton.1 hnew]
      exact hbound
  filled := by
    intro slot value
    by_cases hslot : slot = index fragment
    · subst hslot
      simp only [getD_eq_getElem?_getD, List.getElem?_set_self hbound,
        Option.getD_some, Option.some.injEq, mem_append,
        mem_singleton]
      constructor
      · rintro rfl
        exact ⟨fragment, .inr rfl, rfl, rfl⟩
      · rintro ⟨other, hold | rfl, hindex, hvalue⟩
        · have hfilled := (hfills.filled _ _).2 ⟨other, hold, hindex, hvalue⟩
          rw [hempty] at hfilled
          cases hfilled
        · exact hvalue
    · have hset : (slots.set (index fragment) (some (payload fragment))).getD slot
          none = slots.getD slot none := by
        simp only [getD_eq_getElem?_getD, List.getElem?_set_ne (Ne.symm hslot)]
      rw [hset, hfills.filled]
      constructor
      · rintro ⟨other, hold, hindex, hvalue⟩
        exact ⟨other, mem_append_left _ hold, hindex, hvalue⟩
      · rintro ⟨other, hother, hindex, hvalue⟩
        rcases mem_append.1 hother with hold | hnew
        · exact ⟨other, hold, hindex, hvalue⟩
        · rw [mem_singleton.1 hnew] at hindex
          exact absurd hindex.symm hslot

/-- The slots taken are those of the fragments. -/
theorem Fills.isSome_iff (slot : ℕ) : (slots.getD slot none).isSome ↔
      ∃ fragment ∈ fragments, index fragment = slot := by
  rw [Option.isSome_iff_exists]
  constructor
  · rintro ⟨value, hvalue⟩
    obtain ⟨fragment, hmem, hindex, -⟩ := (hfills.filled slot value).1 hvalue
    exact ⟨fragment, hmem, hindex⟩
  · rintro ⟨fragment, hmem, hindex⟩
    exact ⟨_, (hfills.filled _ _).2 ⟨fragment, hmem, hindex, rfl⟩⟩

/-- The fragments of a full table can be arranged by slot, and the table holds
their payloads in that order. -/
theorem Fills.arrange (hfull : slots.all Option.isSome = true) :
    ∃ arranged : List Fragment, arranged.Perm fragments ∧
      arranged.map index = List.range slots.length ∧
      slots = arranged.map fun fragment => some (payload fragment) := by
  have hperm : (List.range slots.length).Perm (fragments.map index) := by
    refine (perm_ext_iff_of_nodup nodup_range hfills.nodup).2 ?_
    intro slot
    rw [mem_range, mem_map]
    constructor
    · intro hslot
      have hsome : (slots.getD slot none).isSome := by
        rw [getD_eq_getElem _ _ hslot]
        exact all_eq_true.1 hfull _ (getElem_mem hslot)
      exact (hfills.isSome_iff slot).1 hsome
    · rintro ⟨fragment, hmem, rfl⟩
      exact hfills.bound fragment hmem
  have hcomp := eq_map_comp_perm index
  obtain ⟨arranged, harranged, hsame⟩ :=
    (congrFun (congrFun hcomp _) _).mpr hperm
  refine ⟨arranged, hsame, harranged.symm, ?_⟩
  have hlength : arranged.length = slots.length := by
    have := congrArg List.length harranged
    simpa using this.symm
  refine ext_getElem (by simp [hlength]) fun slot hslot hother => ?_
  have hposition : slot < arranged.length := by omega
  have hindex : index arranged[slot] = slot := by
    have hget : (arranged.map index)[slot]? = (List.range slots.length)[slot]? :=
      congrArg (·[slot]?) harranged.symm
    simpa [List.getElem?_range, hslot, hposition] using hget
  have hfilled := (hfills.filled slot (payload arranged[slot])).2
    ⟨arranged[slot], hsame.mem_iff.1 (getElem_mem _), hindex, rfl⟩
  rw [getD_eq_getElem _ _ hslot] at hfilled
  simpa using hfilled

end SieCluster.SlotTables
