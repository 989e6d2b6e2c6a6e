import Mathlib

/-!
# Tables keyed by text

Finite maps from text to values, equal when they hold the same entries and
listed in the order of their keys.
-/

namespace SieCluster.Tables

open List hiding ext_getElem keys
open Std.ExtTreeMap hiding keys

variable {Value Other Item : Type*}

abbrev Table (Value : Type*) := Std.ExtTreeMap String Value

theorem get_insert (table : Table Value) (key other : String) (value : Value) :
    (table.insert key value)[other]? = if key = other then some value else table[other]? := by
  simp [Std.ExtTreeMap.getElem?_insert]

theorem get_erase (table : Table Value) (key other : String) :
    (table.erase key)[other]? = if key = other then none else table[other]? := by
  simp [Std.ExtTreeMap.getElem?_erase]

variable {table : Table Value}

theorem erase_of_notMem (habsent : key ∉ table) : table.erase key = table := by
  apply Std.ExtTreeMap.ext_getElem?
  intro other
  rw [get_erase]
  split_ifs with hsame
  · rw [← hsame, Std.ExtTreeMap.getElem?_eq_none habsent]
  · rfl

theorem mem_of_get (hget : table[key]? = some value) : key ∈ table := by
  rw [mem_iff_isSome_getElem?, hget]
  rfl

theorem exists_of_mem (hmem : key ∈ table) : ∃ value, table[key]? = some value :=
  Option.isSome_iff_exists.1 (mem_iff_isSome_getElem?.1 hmem)

/-- Sorting a list of distinct texts gives the keys of the table that has them. -/
theorem insertionSort_eq_keys {names : List String} (hnodup : names.Nodup)
    (hnames : ∀ name, name ∈ names ↔ name ∈ table) : names.insertionSort (· ≤ ·) = table.keys := by
  have hperm : names.Perm table.keys := by
    rw [perm_ext_iff_of_nodup hnodup nodup_keys]
    intro name
    rw [hnames, Std.ExtTreeMap.mem_keys]
  have hsorted : table.keys.Pairwise (· ≤ ·) :=
    ordered_keys.imp fun hlt => (compare_lt_iff_lt.1 hlt).le
  exact Perm.eq_of_pairwise (fun _ _ _ _ => le_antisymm) (pairwise_insertionSort _ names) hsorted
    ((perm_insertionSort _ names).trans hperm)

/-- The table with the listed entries stored one after the other. -/
def insertAll (table : Table Value) (entries : List (String × Value)) : Table Value :=
  entries.foldl (fun stored entry => stored.insert entry.1 entry.2) table

/-- When no key is listed with two values, the order the entries are stored in does not
matter. -/
theorem insertAll_eq_some_iff
    (hsame : ∀ entry ∈ entries, ∀ other ∈ entries, entry.1 = other.1 → entry.2 = other.2) :
    (insertAll table entries)[key]? = some value ↔ (key, value) ∈ entries ∨
        (∀ entry ∈ entries, entry.1 ≠ key) ∧ table[key]? = some value := by
  unfold insertAll
  induction entries generalizing table with
  | nil => simp
  | cons entry rest ih =>
    rw [foldl_cons, ih fun first hfirst second hsecond =>
      hsame first (mem_cons_of_mem _ hfirst) second (mem_cons_of_mem _ hsecond),
      get_insert]
    by_cases hhead : entry.1 = key
    · rw [if_pos hhead]
      constructor
      · rintro (hlisted | ⟨-, hvalue⟩)
        · exact .inl (mem_cons_of_mem _ hlisted)
        · cases hvalue
          exact .inl (by rw [← hhead]; exact mem_cons_self)
      · rintro (hlisted | ⟨hnone, -⟩)
        · have hvalue : entry.2 = value :=
            hsame entry mem_cons_self (key, value) hlisted hhead
          by_cases hrest : (key, value) ∈ rest
          · exact .inl hrest
          · refine .inr ⟨fun other hother hkey => hrest ?_, by rw [hvalue]⟩
            have hother' : other.2 = value := hsame other (mem_cons_of_mem _ hother)
              (key, value) hlisted hkey
            rw [← hkey, ← hother']
            exact hother
        · exact absurd hhead (hnone entry mem_cons_self)
    · rw [if_neg hhead]
      have hne : (key, value) ≠ entry := by
        rintro rfl
        exact hhead rfl
      rw [mem_cons, forall_mem_cons, or_iff_right hne, and_iff_right hhead]

variable (test : String → Value → Bool)

theorem toList_all : (table.toList.all fun entry => test entry.1 entry.2) = true ↔
      ∀ (key : String) (value : Value), table[key]? = some value → test key value = true := by
  simp only [all_eq_true, Prod.forall, mem_toList_iff_getElem?_eq_some]

theorem mem_filterMap_toList {make : String → Value → Option Item} {item : Item} :
    item ∈ table.toList.filterMap (fun entry => make entry.1 entry.2) ↔
      ∃ (key : String) (value : Value), table[key]? = some value ∧ make key value = some item := by
  simp only [mem_filterMap, Prod.exists, mem_toList_iff_getElem?_eq_some]

/-- What a list made entry by entry from a table holds, as the values of a table. -/
theorem filterMap_toList (table : Table Value) (make : String → Value → Option Item) :
    table.toList.filterMap (fun entry => make entry.1 entry.2) =
      (Std.ExtTreeMap.filterMap make table).toList.map Prod.snd := by
  rw [toList_filterMap, map_filterMap]
  simp only [Option.map_map, Function.comp_def, Option.map_id']

section

variable (left : String → Value → Option Item) (right : String → Other → Option Item)

/-- A list made entry by entry from a table depends only on what each key gives. -/
theorem filterMap_toList_congr {first : Table Value} {second : Table Other}
    (hsame : ∀ key : String, (first[key]?).bind (left key) = (second[key]?).bind (right key)) :
    first.toList.filterMap (fun entry => left entry.1 entry.2) =
      second.toList.filterMap (fun entry => right entry.1 entry.2) := by
  have htable : Std.ExtTreeMap.filterMap left first = Std.ExtTreeMap.filterMap right second := by
    apply Std.ExtTreeMap.ext_getElem?
    intro key
    rw [Std.ExtTreeMap.getElem?_filterMap', Std.ExtTreeMap.getElem?_filterMap']
    exact hsame key
  rw [filterMap_toList, filterMap_toList, htable]

/-- When every item tells the key it was made from, equal lists were made alike at
every key. -/
theorem bind_eq_of_filterMap_toList_eq {first : Table Value} {second : Table Other}
        (label : Item → String)
    (hleft : ∀ key value item, left key value = some item → label item = key)
    (hright : ∀ key value item, right key value = some item → label item = key)
    (hlists : first.toList.filterMap (fun entry => left entry.1 entry.2) =
      second.toList.filterMap (fun entry => right entry.1 entry.2)) (key : String) :
    (first[key]?).bind (left key) = (second[key]?).bind (right key) := by
  have hitems : ∀ item, (∃ (key : String) (value : Value), first[key]? = some value ∧
      left key value = some item) ↔ ∃ (key : String) (value : Other),
        second[key]? = some value ∧ right key value = some item := by
    intro item
    rw [← mem_filterMap_toList, ← mem_filterMap_toList, hlists]
  apply Option.ext
  intro item
  rw [Option.bind_eq_some_iff, Option.bind_eq_some_iff]
  constructor
  · rintro ⟨value, hget, hmake⟩
    obtain ⟨key', value', hget', hmake'⟩ := (hitems item).1 ⟨key, value, hget, hmake⟩
    have hkey : key' = key :=
      (hright key' value' item hmake').symm.trans (hleft key value item hmake)
    subst hkey
    exact ⟨value', hget', hmake'⟩
  · rintro ⟨value, hget, hmake⟩
    obtain ⟨key', value', hget', hmake'⟩ := (hitems item).2 ⟨key, value, hget, hmake⟩
    have hkey : key' = key :=
      (hleft key' value' item hmake').symm.trans (hright key value item hmake)
    subst hkey
    exact ⟨value', hget', hmake'⟩

end

end SieCluster.Tables
