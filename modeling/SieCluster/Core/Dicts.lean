import Mathlib

/-!
# Insertion-ordered dictionaries

A dictionary that remembers the order in which its keys were added, as a list of
entries with the oldest first.  Setting a key that is there keeps its place;
popping a key and setting it again moves it to the end.
-/

namespace SieCluster.Dicts

open List

variable {Key Value : Type*}

abbrev Dict (Key Value : Type*) := List (Key × Value)

variable [DecidableEq Key]

def get : Dict Key Value → Key → Option Value
  | [], _ => none
  | (other, value) :: rest, key => if other = key then some value else get rest key

def set : Dict Key Value → Key → Value → Dict Key Value
  | [], key, value => [(key, value)]
  | (other, old) :: rest, key, value =>
    if other = key then (key, value) :: rest
    else (other, old) :: set rest key value

section

variable (dict : Dict Key Value)

def pop (key : Key) : Dict Key Value :=
  dict.filter fun entry => entry.1 ≠ key

def mapValues (update : Value → Value) (dict : Dict Key Value) : Dict Key Value :=
  dict.map fun entry => (entry.1, update entry.2)

@[simp]
theorem get_nil (key : Key) : get ([] : Dict Key Value) key = none := rfl

theorem get_set (key other : Key) (value : Value) : get (set dict key value) other =
      if key = other then some value else get dict other := by
  induction dict with
  | nil => rfl
  | cons entry _ ih =>
    obtain ⟨first, old⟩ := entry
    by_cases hfirst : first = key
    · subst hfirst
      simp only [set, if_true, get]
      split <;> rfl
    · simp only [set, if_neg hfirst, get, ih]
      by_cases hother : first = other
      · rw [if_pos hother, if_pos hother, if_neg]
        rintro rfl
        exact hfirst hother
      · rw [if_neg hother, if_neg hother]

theorem get_pop (key other : Key) :
    get (pop dict key) other = if key = other then none else get dict other := by
  induction dict with
  | nil => simp [pop]
  | cons entry _ ih =>
    obtain ⟨first, value⟩ := entry
    unfold pop at ih ⊢
    by_cases hfirst : first = key
    · subst hfirst
      rw [filter_cons_of_neg (by simp), ih, get]
      split <;> rfl
    · rw [filter_cons_of_pos (by simp [hfirst]), get, ih, get]
      by_cases hother : first = other
      · rw [if_pos hother, if_pos hother, if_neg]
        rintro rfl
        exact hfirst hother
      · rw [if_neg hother, if_neg hother]

end

theorem get_mapValues (update : Value → Value) (dict : Dict Key Value) (key : Key) :
    get (mapValues update dict) key = (get dict key).map update := by
  induction dict with
  | nil => rfl
  | cons entry _ ih =>
    obtain ⟨first, value⟩ := entry
    unfold mapValues at ih ⊢
    simp only [map_cons, get, ih]
    split <;> rfl

variable {dict : Dict Key Value}

theorem mem_of_get (hget : get dict key = some value) : (key, value) ∈ dict := by
  induction dict with
  | nil => cases hget
  | cons entry _ ih =>
    obtain ⟨first, old⟩ := entry
    unfold get at hget
    split at hget
    · rename_i hfirst
      cases hget
      rw [hfirst]
      exact mem_cons_self
    · exact mem_cons_of_mem _ (ih hget)

theorem mem_pop : entry ∈ pop dict key ↔ entry ∈ dict ∧ entry.1 ≠ key := by
  simp [pop]

theorem mem_set (hentry : entry ∈ set dict key value) : entry = (key, value) ∨ entry ∈ dict := by
  induction dict with
  | nil => exact .inl (mem_singleton.1 hentry)
  | cons _ _ ih =>
    unfold set at hentry
    split at hentry
    · rcases mem_cons.1 hentry with hsame | hrest
      · exact .inl hsame
      · exact .inr (mem_cons_of_mem _ hrest)
    · rcases mem_cons.1 hentry with hsame | hrest
      · exact .inr (mem_cons.2 (.inl hsame))
      · rcases ih hrest with hsame | hold
        · exact .inl hsame
        · exact .inr (mem_cons_of_mem _ hold)

end SieCluster.Dicts
