import SieCluster.Core.Runs
import SieCluster.Core.Totals

/-!
# Admission by the key-value budget

A generation attempt reserves its tokens before it streams and gives them back
on every way out, possibly more than once.  A second release is recognised by
the attempt's id in a set of released ids, which forgets the oldest ones.  Both
operations run under one lock, so an interleaving of the attempts is a list of
them.
-/

namespace SieCluster.KvAdmission

open Runs Totals List

@[irreducible]
def releasedRequestsMax : ℕ := 1024

/-- `releasedRequests` are the keys of an ordered dict, the oldest first. -/
structure Processor where
  kvBudgetTokens : Option ℕ
  admissionEnabled : Bool
  reserved : ℕ := 0
  generationInflight : ℕ := 0
  releasedRequests : List String := []

structure Reservation where
  requestId : Option String
  attemptId : Option String
  reserveTokens : ℕ
  budgetOverride : Option ℕ
  admissionEnabledOverride : Option Bool

def releaseDedupKey (requestId attemptId : Option String) : Option String :=
  attemptId.or requestId

section

variable (processor : Processor) (reservation : Reservation)

def budget : Option ℕ :=
  reservation.budgetOverride.or processor.kvBudgetTokens

def enabled : Bool :=
  reservation.admissionEnabledOverride.getD processor.admissionEnabled

/-- An enabled gate without a budget admits everything. -/
def tryReserve : Bool × Processor :=
  if enabled processor reservation ∧ (budget processor reservation).any fun limit =>
      limit < processor.reserved + reservation.reserveTokens then (false, processor)
  else (true, { processor with
    reserved := processor.reserved + reservation.reserveTokens
    generationInflight := processor.generationInflight + 1
    releasedRequests :=
      match releaseDedupKey reservation.requestId reservation.attemptId with
      | some key => processor.releasedRequests.erase key
      | none => processor.releasedRequests })

/-- Pops the oldest keys while there are too many. -/
def evict (keys : List String) : List String :=
  keys.drop (keys.length - releasedRequestsMax)

/-- Both counters are clamped at zero. -/
def giveBack (reserveTokens : ℕ) : Processor :=
  { processor with
    reserved := processor.reserved - reserveTokens
    generationInflight := processor.generationInflight - 1 }

def releaseReservation (reserveTokens : ℕ) (requestId attemptId : Option String) : Processor :=
  match releaseDedupKey requestId attemptId with
  | none => giveBack processor reserveTokens
  | some key =>
    if key ∈ processor.releasedRequests then processor
    else giveBack { processor with
      releasedRequests := evict (processor.releasedRequests ++ [key]) } reserveTokens

end

/-! ## Attempts -/

/-- An admitted attempt; `released` is the place of its first release in the history. -/
structure Attempt where
  requestId : String
  reserveTokens : ℕ
  released : Option ℕ

/-- `attempts` are the admitted attempts by their ids, `releases` the ids of all calls that
released, in order. -/
structure State extends Processor where
  attempts : Table String Attempt := ∅
  releases : List String := []

inductive Event where
  | reserve (attemptId requestId : String) (reserveTokens : ℕ) (budgetOverride : Option ℕ)
      (admissionEnabledOverride : Option Bool)
  | release (attemptId : String)

section

variable (state : State)

def release (attemptId : String) (attempt : Attempt) : State where
  toProcessor := releaseReservation state.toProcessor attempt.reserveTokens
    (some attempt.requestId) (some attemptId)
  attempts := if attempt.released = none then state.attempts.insert attemptId
      { attempt with released := some state.releases.length } else state.attempts
  releases := state.releases ++ [attemptId]

/-- An attempt does not reserve while it holds a reservation; only an admitted one releases. -/
def step : Event → Option State
  | .reserve attemptId requestId reserveTokens budgetOverride admissionEnabledOverride =>
    if ∀ attempt ∈ state.attempts.lookup attemptId, attempt.released ≠ none then
      match tryReserve state.toProcessor ⟨some requestId, some attemptId, reserveTokens,
        budgetOverride, admissionEnabledOverride⟩ with
      | (false, processor) => some { state with toProcessor := processor }
      | (true, processor) => some { state with
          toProcessor := processor
          attempts := state.attempts.insert attemptId ⟨requestId, reserveTokens, none⟩ }
    else none
  | .release attemptId => (state.attempts.lookup attemptId).map (release state attemptId)

/-- The calls of other attempts that released since the attempt first did. -/
def othersSince (attemptId : String) (place : ℕ) : ℕ :=
  (state.releases.drop place).countP (· ≠ attemptId)

/-- A repeated release comes before as many others as the set can hold. -/
def Spaced : Event → Prop
  | .release attemptId => ∀ attempt ∈ state.attempts.lookup attemptId,
      ∀ place ∈ attempt.released, othersSince state attemptId place < releasedRequestsMax
  | _ => True

instance : (event : Event) → Decidable (Spaced state event)
  | .release _ => inferInstanceAs (Decidable (∀ _ ∈ _, _))
  | .reserve .. => isTrue trivial

end

/-- The weight of an attempt that has not released yet. -/
def held (weight : Attempt → ℕ) (attempt : Attempt) : ℕ :=
  if attempt.released = none then weight attempt else 0

/-- The set of released ids lacks an attempt that has not released.  It holds one that has, with
no more ids after it than others have released since, or has had to forget it. -/
def Remembered (state : State) (attemptId : String) : Option ℕ → Prop
  | none => attemptId ∉ state.releasedRequests
  | some place => place ≤ state.releases.length ∧
      (releasedRequestsMax ≤ othersSince state attemptId place ∨
        ∃ front back, state.releasedRequests = front ++ attemptId :: back ∧
          back.length ≤ othersSince state attemptId place)

/-- The counters are those of the attempts that hold a reservation. -/
structure Counted (state : State) : Prop where
  reserved : state.reserved = total (held Attempt.reserveTokens) state.attempts
  inflight : state.generationInflight = total (held fun _ => 1) state.attempts

structure Sound (state : State) : Prop extends Counted state where
  nodup : state.releasedRequests.Nodup
  remembered : ∀ attemptId attempt, state.attempts.lookup attemptId = some attempt →
    Remembered state attemptId attempt.released

variable {state next : State} {attemptId : String}

theorem othersSince_release (hplace : place ≤ state.releases.length) :
    othersSince (release state other attempt) attemptId place =
      othersSince state attemptId place + if other = attemptId then 0 else 1 := by
  simp only [othersSince, release, drop_append_of_le_length hplace, countP_append, countP_singleton]
  by_cases hsame : other = attemptId <;> simp [hsame]

theorem evict_sublist (keys : List String) : evict keys <+ keys :=
  drop_sublist ..

/-- Only the keys that make the list too long go. -/
theorem evict_append_cons {front back : List String} {key : String}
    (hroom : back.length < releasedRequestsMax) :
    ∃ kept, evict (front ++ key :: back) = kept ++ key :: back := by
  have hdrop : (front ++ key :: back).length - releasedRequestsMax ≤ front.length := by
    simp only [length_append, length_cons]
    omega
  exact ⟨_, drop_append_of_le_length hdrop⟩

theorem erase_append_cons {front back : List String} {kept erased : String}
    (hne : kept ≠ erased) : ∃ front' back', (front ++ kept :: back).erase erased =
      front' ++ kept :: back' ∧ back'.length ≤ back.length := by
  rw [erase_append]
  split_ifs
  · exact ⟨_, _, rfl, le_rfl⟩
  · rw [erase_cons_tail (by simpa using hne)]
    exact ⟨_, _, rfl, length_erase_le⟩

theorem release_toProcessor_of_mem (hmem : attemptId ∈ state.releasedRequests) :
    (release state attemptId attempt).toProcessor = state.toProcessor :=
  if_pos hmem

theorem release_toProcessor_of_notMem (hnew : attemptId ∉ state.releasedRequests) :
    (release state attemptId attempt).toProcessor = giveBack { state.toProcessor with
      releasedRequests := evict (state.releasedRequests ++ [attemptId]) }
      attempt.reserveTokens :=
  if_neg hnew

/-- A release adds at most one id after those that the set holds, and then counts as one more. -/
theorem Remembered.release (hremembered : Remembered state attemptId released)
    (hother : released = none → other ≠ attemptId) :
    Remembered (release state other attempt) attemptId released := by
  cases released with
  | none =>
    intro hin
    by_cases hmem : other ∈ state.releasedRequests
    · rw [release_toProcessor_of_mem hmem] at hin
      exact hremembered hin
    · rw [release_toProcessor_of_notMem hmem] at hin
      rcases mem_append.1 ((evict_sublist _).subset hin) with hbefore | hlast
      · exact hremembered hbefore
      · exact hother rfl (mem_singleton.1 hlast).symm
  | some place =>
    obtain ⟨hwithin, hheld⟩ := hremembered
    rw [Remembered, othersSince_release hwithin]
    refine ⟨hwithin.trans (by simp [KvAdmission.release]), ?_⟩
    rcases hheld with hmany | ⟨front, back, hkeys, hback⟩
    · exact .inl (hmany.trans (Nat.le_add_right ..))
    by_cases hmem : other ∈ state.releasedRequests
    · rw [release_toProcessor_of_mem hmem]
      exact .inr ⟨front, back, hkeys, hback.trans (Nat.le_add_right ..)⟩
    · have hne : other ≠ attemptId := fun hsame => hmem (by simp [hkeys, hsame])
      rw [release_toProcessor_of_notMem hmem, hkeys, if_neg hne, append_assoc, cons_append]
      have hlength : (back ++ [other]).length ≤ othersSince state attemptId place + 1 := by
        rw [length_append]
        exact Nat.succ_le_succ hback
      rcases Nat.lt_or_ge (back ++ [other]).length releasedRequestsMax with hroom | hfull
      · obtain ⟨kept, hkept⟩ := @evict_append_cons front _ attemptId hroom
        exact .inr ⟨kept, _, hkept, hlength⟩
      · exact .inl (hfull.trans hlength)

/-- An attempt that holds nothing has no part in the totals. -/
theorem total_erase_released (weight : Attempt → ℕ)
    (hreleased : ∀ attempt ∈ state.attempts.lookup attemptId, attempt.released ≠ none) :
    total (held weight) (state.attempts.erase attemptId) = total (held weight) state.attempts := by
  cases hlookup : state.attempts.lookup attemptId with
  | none => rw [erase_of_lookup_none hlookup]
  | some attempt =>
    rw [← total_erase _ hlookup, held, if_neg (hreleased attempt hlookup), Nat.add_zero]

section

variable (hsound : Sound state)
include hsound

theorem Sound.reserve (attemptId requestId : String) (reserveTokens : ℕ)
    (hreleased : ∀ attempt ∈ state.attempts.lookup attemptId, attempt.released ≠ none) :
    Sound { state with
      reserved := state.reserved + reserveTokens
      generationInflight := state.generationInflight + 1
      releasedRequests := state.releasedRequests.erase attemptId
      attempts := state.attempts.insert attemptId ⟨requestId, reserveTokens, none⟩ } where
  reserved := by
    rw [total_insert, total_erase_released _ hreleased, ← hsound.reserved]
    exact Nat.add_comm ..
  inflight := by
    rw [total_insert, total_erase_released _ hreleased, ← hsound.inflight]
    exact Nat.add_comm ..
  nodup := hsound.nodup.erase attemptId
  remembered other attempt hlookup := by
    rcases lookup_insert_iff.1 hlookup with ⟨rfl, rfl⟩ | ⟨hne, hbefore⟩
    · exact hsound.nodup.not_mem_erase
    have hremembered := hsound.remembered other attempt hbefore
    cases hplace : attempt.released with
    | none =>
      rw [hplace] at hremembered
      exact fun hmem => hremembered (mem_of_mem_erase hmem)
    | some =>
      rw [hplace] at hremembered
      obtain ⟨hwithin, hmany | ⟨front, back, hkeys, hback⟩⟩ := hremembered
      · exact ⟨hwithin, .inl hmany⟩
      · obtain ⟨front', back', herase, hle⟩ :=
          @erase_append_cons front back other attemptId hne
        exact ⟨hwithin, .inr ⟨front', back', hkeys ▸ herase, hle.trans hback⟩⟩

variable (hlookup : state.attempts.lookup attemptId = some attempt)
include hlookup

theorem Sound.unclamped (hheld : attempt.released = none) : attempt.reserveTokens ≤ state.reserved ∧
      1 ≤ state.generationInflight := by
  have htokens := weight_le_total (held Attempt.reserveTokens) hlookup
  have hcount := weight_le_total (held fun _ => 1) hlookup
  rw [held, if_pos hheld] at htokens hcount
  exact ⟨hsound.reserved ▸ htokens, hsound.inflight ▸ hcount⟩

theorem Sound.repeated (hspaced : Spaced state (.release attemptId))
    (hreleased : attempt.released ≠ none) :
    (release state attemptId attempt).toProcessor = state.toProcessor := by
  obtain ⟨place, hplace⟩ := Option.ne_none_iff_exists'.1 hreleased
  have hfew := hspaced attempt hlookup place hplace
  have hremembered := hsound.remembered attemptId attempt hlookup
  rw [hplace] at hremembered
  obtain ⟨-, hmany | ⟨front, back, hkeys, -⟩⟩ := hremembered
  · exact absurd hmany hfew.not_ge
  · exact release_toProcessor_of_mem (by simp [hkeys])

theorem Sound.releaseHeld (hheld : attempt.released = none) :
    Sound (release state attemptId attempt) := by
  have hnew : attemptId ∉ state.releasedRequests := by
    have hremembered := hsound.remembered attemptId attempt hlookup
    rwa [hheld] at hremembered
  have hprocessor := @release_toProcessor_of_notMem _ _ attempt hnew
  have hattempts : (release state attemptId attempt).attempts = state.attempts.insert attemptId
      { attempt with released := some state.releases.length } := if_pos hheld
  have htotal (weight : Attempt → ℕ) := total_insert_replace (held weight) hlookup
    { attempt with released := some state.releases.length }
  simp only [held, hheld, reduceCtorEq, if_true, if_false, Nat.zero_add] at htotal
  refine ⟨⟨?_, ?_⟩, ?_, ?_⟩
  · rw [hprocessor, hattempts]
    exact Nat.sub_eq_of_eq_add (hsound.reserved.trans (htotal _).symm)
  · rw [hprocessor, hattempts]
    exact Nat.sub_eq_of_eq_add (hsound.inflight.trans (htotal _).symm)
  · rw [hprocessor]
    exact (hsound.nodup.append (nodup_singleton _) (by simpa using hnew)).sublist (evict_sublist _)
  · intro other found hfound
    rw [hattempts] at hfound
    rcases lookup_insert_iff.1 hfound with ⟨rfl, rfl⟩ | ⟨hne, hbefore⟩
    · obtain ⟨kept, hkept⟩ := @evict_append_cons state.releasedRequests [] other (by decide +kernel)
      rw [Remembered, hprocessor]
      exact ⟨by simp [release], .inr ⟨kept, [], hkept, Nat.zero_le _⟩⟩
    exact (hsound.remembered other found hbefore).release fun _ => hne.symm

theorem Sound.releaseAgain (hspaced : Spaced state (.release attemptId))
    (hreleased : attempt.released ≠ none) : Sound (release state attemptId attempt) := by
  have hprocessor := hsound.repeated hlookup hspaced hreleased
  have hattempts : (release state attemptId attempt).attempts = state.attempts :=
    if_neg hreleased
  refine ⟨⟨?_, ?_⟩, ?_, ?_⟩
  · rw [hprocessor, hattempts, hsound.reserved]
  · rw [hprocessor, hattempts, hsound.inflight]
  · rw [hprocessor]
    exact hsound.nodup
  · intro other found hfound
    rw [hattempts] at hfound
    refine (hsound.remembered other found hfound).release ?_
    rintro hnone rfl
    cases hlookup.symm.trans hfound
    exact hreleased hnone

end

theorem step_sound (hsound : Sound state) (hspaced : Spaced state event)
    (hstep : step state event = some next) : Sound next := by
  cases event with
  | reserve attemptId requestId reserveTokens =>
    rw [step, tryReserve] at hstep
    split at hstep
    · rename_i hreleased
      split at hstep <;> cases hstep <;> rename_i hreserve <;> split at hreserve <;>
        cases hreserve
      · exact hsound
      · exact hsound.reserve attemptId requestId reserveTokens hreleased
    · cases hstep
  | release =>
    obtain ⟨attempt, hlookup, rfl⟩ := Option.map_eq_some_iff.1 hstep
    by_cases hheld : attempt.released = none
    · exact hsound.releaseHeld hlookup hheld
    · exact hsound.releaseAgain hlookup hspaced hheld

/-- The counters are right, a release that comes next stays off the clamps, and a reservation
that comes next is refused without effect or leaves the counter within its budget. -/
structure Accounted (state : State) : Prop extends Counted state where
  unclamped : ∀ attemptId attempt, state.attempts.lookup attemptId = some attempt →
    attempt.released = none → attempt.reserveTokens ≤ state.reserved ∧ 1 ≤ state.generationInflight
  repeated : ∀ attemptId attempt, state.attempts.lookup attemptId = some attempt →
    Spaced state (.release attemptId) → attempt.released ≠ none →
      releaseReservation state.toProcessor attempt.reserveTokens (some attempt.requestId)
        (some attemptId) = state.toProcessor
  refused : ∀ reservation, (tryReserve state.toProcessor reservation).1 = false →
    (tryReserve state.toProcessor reservation).2 = state.toProcessor
  within : ∀ reservation limit, (tryReserve state.toProcessor reservation).1 = true →
    enabled state.toProcessor reservation → budget state.toProcessor reservation = some limit →
      (tryReserve state.toProcessor reservation).2.reserved ≤ limit

variable (kvBudgetTokens : Option ℕ) (admissionEnabled : Bool)

def start : State where
  kvBudgetTokens := kvBudgetTokens
  admissionEnabled := admissionEnabled

theorem counters_accounted (events : List Event)
    (hspaced : Guarded step Spaced (start kvBudgetTokens admissionEnabled) events)
    (hrun : run step (start kvBudgetTokens admissionEnabled) events = some state) :
    Accounted state := by
  have hstart : Sound (start kvBudgetTokens admissionEnabled) := ⟨⟨rfl, rfl⟩, nodup_nil, nofun⟩
  have hsound := guarded_invariant Sound (fun _ _ _ => step_sound) hstart hspaced hrun
  exact
    { hsound with
      unclamped := fun _ _ => hsound.unclamped
      repeated := fun _ _ => hsound.repeated
      refused := by
        intro reservation hrefused
        rw [tryReserve] at hrefused ⊢
        split_ifs at hrefused ⊢
        rfl
      within := by
        intro reservation limit hadmitted henabled hlimit
        rw [tryReserve] at hadmitted ⊢
        split_ifs at hadmitted ⊢ with hover
        simp only [henabled, hlimit, Option.any_some, decide_eq_true_eq, true_and, not_lt] at hover
        exact hover }

def contendedEvents : List Event :=
  [.reserve "first" "r" 3 none none, .reserve "second" "r" 4 none none, .release "first",
    .reserve "third" "s" 4 none none, .release "first"]

/-- The second attempt is refused, and the first one's second release gives nothing back. -/
theorem counters_accounted_contended : ∃ state, run step (start (some 5) true) contendedEvents =
    some state ∧ state.reserved = 4 ∧ Accounted state := by
  have hrun : (run step (start (some 5) true) contendedEvents).map (·.reserved) = some 4 := by
    decide +kernel
  obtain ⟨state, hstate, hreserved⟩ := Option.map_eq_some_iff.1 hrun
  exact ⟨state, hstate, hreserved, counters_accounted _ _ _ (by decide +kernel) hstate⟩

end SieCluster.KvAdmission
