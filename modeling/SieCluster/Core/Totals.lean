import Mathlib

/-!
# Totals over keyed tables

A table maps keys to values, each key at most once.  The total of a weight over
a table is what an accounting counter next to the table is meant to hold; the
rules below say how it moves when an entry is inserted, replaced or removed.
-/

namespace SieCluster.Totals

open List AList

variable {Key Value : Type*}

abbrev Table (Key Value : Type*) := AList fun _ : Key => Value

/-- The sum of a weight over the entries of a table. -/
def total (weight : Value → ℕ) (table : Table Key Value) : ℕ :=
  (table.entries.map fun entry => weight entry.2).sum

@[simp]
theorem total_empty (weight : Value → ℕ) : total weight (∅ : Table Key Value) = 0 := rfl

variable [DecidableEq Key] {table : Table Key Value}
  {property : Key → Value → Prop}

theorem erase_of_lookup_none (hlookup : table.lookup key = none) : table.erase key = table :=
  AList.ext (kerase_of_notMem_keys (lookup_eq_none.1 hlookup))

section

variable (weight : Value → ℕ)

/-- Removing an entry takes its weight out of the total. -/
theorem total_erase (hlookup : table.lookup key = some value) :
    total weight (table.erase key) + weight value = total weight table := by
  have hmem : key ∈ table.entries.keys :=
    lookup_isSome.1 (by rw [hlookup]; rfl)
  obtain ⟨found, front, back, hfront, hentries, herase⟩ :=
    exists_of_kerase hmem
  have hfound : found = value := by
    have hdlookup : table.entries.dlookup key = some value := hlookup
    rw [hentries, dlookup_append, dlookup_eq_none.2 hfront] at hdlookup
    simpa using hdlookup
  subst hfound
  have herased : (table.erase key).entries = front ++ back := herase
  simp only [total, herased, hentries, map_append, map_cons, sum_append, sum_cons]
  omega

theorem total_insert (table : Table Key Value) (key : Key) (value : Value) :
    total weight (table.insert key value) = weight value + total weight (table.erase key) := by
  simp [total, AList.insert, AList.erase, List.kinsert]

/-- A new entry adds its weight to the total. -/
theorem total_insert_new (hlookup : table.lookup key = none) (value : Value) :
    total weight (table.insert key value) = weight value + total weight table := by
  rw [total_insert, erase_of_lookup_none hlookup]

/-- A replaced entry exchanges its weight for the new one. -/
theorem total_insert_replace (hlookup : table.lookup key = some old) (value : Value) :
    total weight (table.insert key value) + weight old = weight value + total weight table := by
  rw [total_insert, ← total_erase weight hlookup]
  omega

theorem weight_le_total (hlookup : table.lookup key = some value) :
    weight value ≤ total weight table := by
  have herase := total_erase weight hlookup
  omega

end

/-- Weights that agree on the entries have one total. -/
theorem total_congr (hsame : ∀ key value, table.lookup key = some value →
      first value = second value) : total first table = total second table := by
  unfold total
  congr 1
  refine map_congr_left fun entry hentry => ?_
  exact hsame entry.1 entry.2 (mem_lookup_iff.2 hentry)

theorem total_eq_zero (hzero : ∀ key value, table.lookup key = some value → weight value = 0) :
    total weight table = 0 := by
  unfold total
  rw [List.sum_eq_zero_iff_forall_eq_nat]
  intro weighed hweighed
  obtain ⟨entry, hentry, rfl⟩ := mem_map.1 hweighed
  exact hzero entry.1 entry.2 (mem_lookup_iff.2 hentry)

theorem lookup_insert_iff : (table.insert key value).lookup other = some found ↔
    other = key ∧ value = found ∨ other ≠ key ∧ table.lookup other = some found := by
  by_cases hkey : other = key
  · subst hkey
    simp [lookup_insert]
  · simp [lookup_insert_ne hkey, hkey]

theorem lookup_erase_iff : (table.erase key).lookup other = some found ↔
    other ≠ key ∧ table.lookup other = some found := by
  by_cases hkey : other = key
  · subst hkey
    simp [lookup_erase]
  · simp [lookup_erase_ne hkey, hkey]

theorem exists_lookup_insert (hold : other ≠ key → ∃ found, table.lookup other = some found) :
    ∃ found, (table.insert key value).lookup other = some found := by
  by_cases hkey : other = key
  · exact ⟨value, hkey ▸ lookup_insert _⟩
  · rw [lookup_insert_ne hkey]
    exact hold hkey

section

variable (hall : ∀ key value, table.lookup key = some value → property key value)
include hall

/-- A property of all entries survives an insertion of an entry that has it. -/
theorem forall_insert (hnew : property key value) :
    ∀ other found, (table.insert key value).lookup other = some found → property other found := by
  intro other found hfound
  rcases lookup_insert_iff.1 hfound with ⟨rfl, rfl⟩ | ⟨-, hbefore⟩
  · exact hnew
  · exact hall other found hbefore

/-- A property of all entries survives a removal. -/
theorem forall_erase (key : Key) :
    ∀ other found, (table.erase key).lookup other = some found → property other found :=
  fun other found hfound => hall other found (lookup_erase_iff.1 hfound).2

end

end SieCluster.Totals
