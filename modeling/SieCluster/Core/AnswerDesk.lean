import Mathlib

/-!
# First answers win

A desk opens requests with a number of slots, accepts the first answer for each
slot and closes a request at most once with a vector: the answers of all its
slots, or, for a request it has rejected something of, a vector that says that it
failed.  The desk keeps a record of what it accepted, rejected and delivered.
`Orderly` is what this record always satisfies; a program whose steps are steps of
a desk inherits it.
-/

namespace SieCluster.AnswerDesk

open List

variable {Request Answer : Type*} [DecidableEq Request]

/-- The open requests with their slots, the sizes of all requests, and the
record. -/
structure Desk (Request Answer : Type*) where
  slots : Request → Option (List (Option Answer))
  issued : Request → Option ℕ
  accepted : List (Request × ℕ × Answer)
  rejected : List Request
  delivered : List (Request × List Answer)

/-- A desk at which nothing has happened. -/
def Desk.empty : Desk Request Answer where
  slots := fun _ => none
  issued := fun _ => none
  accepted := []
  rejected := []
  delivered := []

section

variable (failed : Request → ℕ → List Answer)

/-- What a desk may do. -/
inductive Step : Desk Request Answer → Desk Request Answer → Prop
  | stays (desk : Desk Request Answer) (rejected : List Request)
      (hrejected : desk.rejected ⊆ rejected) : Step desk { desk with rejected := rejected }
  | opens (desk : Desk Request Answer) (request : Request) (size : ℕ)
      (hfresh : desk.issued request = none) :
      Step desk { desk with
        slots := Function.update desk.slots request (some (List.replicate size none))
        issued := Function.update desk.issued request (some size) }
  | accepts (desk : Desk Request Answer) (request : Request)
      (slots : List (Option Answer)) (index : ℕ) (answer : Answer)
      (hopen : desk.slots request = some slots)
      (hempty : slots[index]? = some none) :
      Step desk { desk with
        slots := Function.update desk.slots request (some (slots.set index (some answer)))
        accepted := desk.accepted ++ [(request, index, answer)] }
  | delivers (desk : Desk Request Answer) (request : Request)
      (slots : List (Option Answer)) (vector : List Answer) (rejected : List Request)
      (hopen : desk.slots request = some slots) (hrejected : desk.rejected ⊆ rejected)
      (hvector : slots = vector.map some ∨
        vector = failed request slots.length ∧ request ∈ rejected) :
      Step desk { desk with
        slots := Function.update desk.slots request none
        rejected := rejected
        delivered := desk.delivered ++ [(request, vector)] }
  | closes (desk : Desk Request Answer) (request : Request) : Step desk { desk with
        slots := Function.update desk.slots request none }

variable (desk : Desk Request Answer)

/-- The vector holds the accepted answers of all slots, in order. -/
def Answers (request : Request) (size : ℕ) (vector : List Answer) : Prop :=
  vector.length = size ∧ ∀ index answer, vector[index]? = some answer →
    (request, index, answer) ∈ desk.accepted

structure Orderly : Prop where
  size : ∀ request slots, desk.slots request = some slots → desk.issued request = some slots.length
  held : ∀ request slots, desk.slots request = some slots →
    ∀ index answer, slots[index]? = some (some answer) ↔ (request, index, answer) ∈ desk.accepted
  first : (desk.accepted.map fun entry => (entry.1, entry.2.1)).Nodup
  known : ∀ entry ∈ desk.accepted, desk.issued entry.1 ≠ none
  once : (desk.delivered.map Prod.fst).Nodup
  vectors : ∀ entry ∈ desk.delivered, desk.slots entry.1 = none ∧
    ∃ size, desk.issued entry.1 = some size ∧
      (Answers desk entry.1 size entry.2 ∨
        entry.2 = failed entry.1 size ∧ entry.1 ∈ desk.rejected)

end

variable {failed : Request → ℕ → List Answer} {desk next : Desk Request Answer}

omit [DecidableEq Request] in
theorem orderly_empty : Orderly failed (Desk.empty : Desk Request Answer) where
  size := by simp [Desk.empty]
  held := by simp [Desk.empty]
  first := by simp [Desk.empty]
  known := by simp [Desk.empty]
  once := by simp [Desk.empty]
  vectors := by simp [Desk.empty]

section

variable (horderly : Orderly failed desk)
include horderly

omit [DecidableEq Request] in
theorem Orderly.rejects (hrejected : desk.rejected ⊆ rejected) :
    Orderly failed { desk with rejected := rejected } where
  __ := horderly
  vectors := by
    intro entry hentry
    obtain ⟨hclosed, size, hissued, hvector⟩ := horderly.vectors entry hentry
    exact ⟨hclosed, size, hissued, hvector.imp_right fun hfailed =>
      ⟨hfailed.1, hrejected hfailed.2⟩⟩

theorem Orderly.opens (hfresh : desk.issued request = none) (size : ℕ) : Orderly failed { desk with
      slots := Function.update desk.slots request (some (List.replicate size none))
      issued := Function.update desk.issued request (some size) } where
  size := by
    intro other slots hslots
    by_cases hother : other = request
    · subst hother
      simp only [Function.update_self, Option.some.injEq] at hslots ⊢
      rw [← hslots, length_replicate]
    · simp only [Function.update_of_ne hother] at hslots ⊢
      exact horderly.size other slots hslots
  held := by
    intro other slots hslots index answer
    by_cases hother : other = request
    · subst hother
      simp only [Function.update_self, Option.some.injEq] at hslots
      subst hslots
      constructor
      · intro hanswer
        rw [List.getElem?_replicate] at hanswer
        split at hanswer <;> simp at hanswer
      · intro hmem
        exact absurd hfresh (horderly.known _ hmem)
    · simp only [Function.update_of_ne hother] at hslots
      exact horderly.held other slots hslots index answer
  first := horderly.first
  known := by
    intro entry hentry
    by_cases hother : entry.1 = request
    · simp [hother]
    · simp only [Function.update_of_ne hother]
      exact horderly.known entry hentry
  once := horderly.once
  vectors := by
    intro entry hentry
    obtain ⟨hclosed, count, hissued, hvector⟩ := horderly.vectors entry hentry
    have hother : entry.1 ≠ request := by
      rintro rfl
      simp [hfresh] at hissued
    simp only [Function.update_of_ne hother]
    exact ⟨hclosed, count, hissued, hvector⟩

/-- The slot of an accepted answer was empty, so none is accepted twice. -/
theorem Orderly.accepts
    (answer : Answer) (hopen : desk.slots request = some slots)
    (hempty : slots[index]? = some none) :
    Orderly failed { desk with
      slots := Function.update desk.slots request (some (slots.set index (some answer)))
      accepted := desk.accepted ++ [(request, index, answer)] } where
  size := by
    intro other found hfound
    by_cases hother : other = request
    · subst hother
      simp only [Function.update_self, Option.some.injEq] at hfound
      rw [← hfound, length_set]
      exact horderly.size other slots hopen
    · simp only [Function.update_of_ne hother] at hfound
      exact horderly.size other found hfound
  held := by
    intro other found hfound position value
    simp only [mem_append, mem_singleton, Prod.mk.injEq]
    by_cases hother : other = request
    · subst hother
      simp only [Function.update_self, Option.some.injEq] at hfound
      subst hfound
      obtain ⟨hbound, -⟩ := List.getElem?_eq_some_iff.1 hempty
      by_cases hposition : position = index
      · subst hposition
        have hfresh : (other, position, value) ∉ desk.accepted := by
          intro hmem
          have hheld := (horderly.held other slots hopen position value).2 hmem
          simp [hempty] at hheld
        simp [List.getElem?_set_self hbound, hfresh, eq_comm]
      · rw [List.getElem?_set_ne (Ne.symm hposition), horderly.held other slots hopen]
        simp [hposition]
    · simp only [Function.update_of_ne hother] at hfound
      rw [horderly.held other found hfound]
      simp [hother]
  first := by
    rw [map_append, map_singleton, nodup_append]
    refine ⟨horderly.first, by simp, ?_⟩
    intro left hleft right hright hsame
    obtain ⟨entry, hentry, hkey⟩ := mem_map.1 hleft
    rw [mem_singleton.1 hright] at hsame
    rw [← hkey, Prod.mk.injEq] at hsame
    obtain ⟨other, position, value⟩ := entry
    obtain ⟨rfl, rfl⟩ := hsame
    have hheld := (horderly.held other slots hopen position value).2 hentry
    simp [hempty] at hheld
  known := by
    intro entry hentry
    rcases mem_append.1 hentry with hold | hnew
    · exact horderly.known entry hold
    · rw [mem_singleton.1 hnew, horderly.size request slots hopen]
      simp
  once := horderly.once
  vectors := by
    intro entry hentry
    obtain ⟨hclosed, count, hissued, hvector⟩ := horderly.vectors entry hentry
    have hother : entry.1 ≠ request := by
      rintro rfl
      simp [hopen] at hclosed
    refine ⟨by simpa only [Function.update_of_ne hother] using hclosed, count,
      hissued, hvector.imp_left fun hanswers => ⟨hanswers.1, ?_⟩⟩
    intro position value hvalue
    exact mem_append_left _ (hanswers.2 position value hvalue)

/-- A request that is closed stays as recorded. -/
theorem Orderly.closes (request : Request) : Orderly failed { desk with
      slots := Function.update desk.slots request none } where
  __ := horderly
  size := by
    intro other slots hslots
    by_cases hother : other = request
    · simp [hother] at hslots
    · simp only [Function.update_of_ne hother] at hslots
      exact horderly.size other slots hslots
  held := by
    intro other slots hslots
    by_cases hother : other = request
    · simp [hother] at hslots
    · simp only [Function.update_of_ne hother] at hslots
      exact horderly.held other slots hslots
  vectors := by
    intro entry hentry
    obtain ⟨hclosed, hrest⟩ := horderly.vectors entry hentry
    refine ⟨?_, hrest⟩
    by_cases hother : entry.1 = request
    · simp [hother]
    · simpa only [Function.update_of_ne hother] using hclosed

theorem Orderly.delivers (hopen : desk.slots request = some slots)
    (hvector : slots = vector.map some ∨
      vector = failed request slots.length ∧ request ∈ desk.rejected) :
    Orderly failed { desk with
      slots := Function.update desk.slots request none
      delivered := desk.delivered ++ [(request, vector)] } :=
  { horderly.closes request with
    once := by
      rw [map_append, map_singleton, nodup_append]
      refine ⟨horderly.once, by simp, ?_⟩
      intro left hleft right hright hsame
      obtain ⟨entry, hentry, rfl⟩ := mem_map.1 hleft
      rw [mem_singleton.1 hright] at hsame
      have hclosed := (horderly.vectors entry hentry).1
      rw [hsame, hopen] at hclosed
      cases hclosed
    vectors := by
      refine forall_mem_append.2 ⟨((horderly.closes request).vectors), forall_mem_singleton.2 ?_⟩
      refine ⟨by simp, slots.length, horderly.size request slots hopen,
        hvector.imp_left fun hall => ?_⟩
      refine ⟨by simp [hall], fun index answer hanswer => ?_⟩
      refine (horderly.held request slots hopen index answer).1 ?_
      rw [hall, List.getElem?_map, hanswer]
      rfl }

end

/-- Every step of a desk keeps its record orderly. -/
theorem Step.orderly (hstep : Step failed desk next)
    (horderly : Orderly failed desk) : Orderly failed next := by
  cases hstep with
  | stays _ hrejected => exact horderly.rejects hrejected
  | opens _ size hfresh => exact horderly.opens hfresh size
  | accepts _ _ _ answer hopen hempty =>
    exact horderly.accepts answer hopen hempty
  | delivers _ _ _ _ hopen hrejected hvector =>
    exact (horderly.rejects hrejected).delivers hopen hvector
  | closes request => exact horderly.closes request

/-- Nothing recorded is ever taken back. -/
theorem Step.record (hstep : Step failed desk next) :
    desk.accepted <+: next.accepted ∧ desk.delivered <+: next.delivered := by
  cases hstep with
  | accepts => exact ⟨prefix_append _ _, prefix_rfl⟩
  | delivers => exact ⟨prefix_rfl, prefix_append _ _⟩
  | _ => exact ⟨prefix_rfl, prefix_rfl⟩

end SieCluster.AnswerDesk
