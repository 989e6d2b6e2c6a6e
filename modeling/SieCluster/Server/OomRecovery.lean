import Mathlib

/-!
# Recovery from out-of-memory errors

The executor runs one group of items.  When a dispatch runs out of memory it
tries the configured mitigations and, at the end, halves the group; when an
adapter rejects an input it separates the requests of the group.  Both happen
recursively, so an item may be dispatched many times before its request gets a
result or an error.
-/

namespace SieCluster.OomRecovery

open List

variable {Request Output Slice : Type} [DecidableEq Request]

/-- One item of a group: the request it belongs to and its place in that request. -/
structure Entry (Request : Type) where
  request : Request
  index : ℕ
  deriving DecidableEq

inductive Failure where
  | outOfMemory (message : String)
  | invalidInput (message : String)
  | other (message : String)
  deriving DecidableEq

/-- What is set on a future: the failure itself, or the wrapper for exhausted recovery. -/
inductive Error where
  | raised (failure : Failure)
  | resourceExhausted (attempts : ℕ) (originalMessage : String)
  deriving DecidableEq

/-- One call of the adapter with its fan-out.  A slice may fail after the adapter
has returned, so an attempt can have both an output and a failure. -/
structure Attempt (Request Output : Type) where
  group : List (Entry Request)
  output : Option Output
  failure : Option Failure

inductive OomRecoveryAction where
  | cacheClear
  | evictLru
  | splitBatch
  deriving DecidableEq

structure OomRecoveryConfig where
  enabled : Bool
  strategy : List OomRecoveryAction
  maxSplitDepth : ℕ

structure OomRecoveryStats where
  recoveriesAttempted : ℕ
  recoveriesSucceeded : ℕ
  cacheClears : ℕ
  evictionsTriggered : ℕ
  batchSplits : ℕ
  terminalFailures : ℕ
  deriving DecidableEq

/-- What the executor does not decide: how each dispatch ends, given all earlier
attempts, whether an eviction frees a sibling, and how an output is sliced. -/
structure Surroundings (Request Output Slice : Type) where
  dispatch : List (Attempt Request Output) → List (Entry Request) → Except Failure Output
  evicts : ℕ → Bool
  sliceOutput : Output → ℕ → Except Failure Slice

structure State (Request Output Slice : Type) where
  attempts : List (Attempt Request Output)
  evictions : ℕ
  partialResults : Entry Request → Option Slice
  /-- Every error set on the request's future, in order. -/
  futures : Request → List Error
  stats : OomRecoveryStats

variable {group : List (Entry Request)}

section Executor

variable (surroundings : Surroundings Request Output Slice) (config : OomRecoveryConfig)

def storePartial (state : State Request Output Slice) (entry : Entry Request) (slice : Slice) :
    State Request Output Slice :=
  { state with partialResults := Function.update state.partialResults entry (some slice) }

/-- Stores the slice at each item's position, up to the first slice that fails. -/
def fanOut (output : Output) : ℕ → List (Entry Request) → State Request Output Slice →
      State Request Output Slice × Option Failure
  | _, [], state => (state, none)
  | position, entry :: rest, state =>
    match surroundings.sliceOutput output position with
    | .ok slice => fanOut output (position + 1) rest (storePartial state entry slice)
    | .error failure => (state, some failure)

def recordAttempt (attempt : Attempt Request Output) (state : State Request Output Slice) :
    State Request Output Slice :=
  { state with attempts := state.attempts ++ [attempt] }

section

variable (group : List (Entry Request)) (state : State Request Output Slice)

def dispatchAndFanOut : State Request Output Slice × Option Failure :=
  match surroundings.dispatch state.attempts group with
  | .ok output =>
    let fanned := fanOut surroundings output 0 group state
    (recordAttempt ⟨group, some output, fanned.2⟩ fanned.1, fanned.2)
  | .error failure => (recordAttempt ⟨group, none, some failure⟩ state, some failure)

/-- Sets the error unless the future is done. -/
def setException (error : Error) (state : State Request Output Slice) (request : Request) :
    State Request Output Slice :=
  if state.futures request = [] then
    { state with futures := Function.update state.futures request [error] }
  else state

/-- The requests of a group in the order they first appear. -/
def requestIds : List Request :=
  (group.map Entry.request).reverse.dedup.reverse

def failGroup (error : Error) (state : State Request Output Slice) : State Request Output Slice :=
  (requestIds group).foldl (setException error) state

def distinctCount : ℕ :=
  (requestIds group).length

/-- Requests of the group whose future is still open. -/
def openCount : ℕ :=
  ((requestIds group).filter fun request => state.futures request = []).length

end

/-- How a group with an invalid input is taken apart. -/
abbrev Isolate (Request Output Slice : Type) :=
  List (Entry Request) → Failure → State Request Output Slice → State Request Output Slice

section

variable (isolate : Isolate Request Output Slice)

/-- The handlers around an attempt.  Only an out-of-memory error is left to the caller. -/
def handleFailure (group : List (Entry Request))
    (onOutOfMemory : String → State Request Output Slice → State Request Output Slice) :
    State Request Output Slice × Option Failure → State Request Output Slice
  | (state, none) => state
  | (state, some (.invalidInput message)) => isolate group (.invalidInput message) state
  | (state, some (.other message)) => failGroup group (.raised (.other message)) state
  | (state, some (.outOfMemory message)) => onOutOfMemory message state

/-- The handlers around the attempt of a split.  The counts are the requests that got a
result and those that ran out of memory. -/
def handleSplitFailure (group : List (Entry Request))
    (onOutOfMemory : String → State Request Output Slice → State Request Output Slice × ℕ × ℕ) :
    State Request Output Slice × Option Failure → State Request Output Slice × ℕ × ℕ
  | (state, none) => (state, distinctCount group, 0)
  | (state, some (.invalidInput message)) =>
    let final := isolate group (.invalidInput message) state
    (final, openCount group final, 0)
  | (state, some (.other message)) =>
    (failGroup group (.raised (.other message)) state, 0, 0)
  | (state, some (.outOfMemory message)) => onOutOfMemory message state

def exhaust (depth : ℕ) (group : List (Entry Request)) (message : String)
    (state : State Request Output Slice) : State Request Output Slice × ℕ × ℕ :=
  (failGroup group (.resourceExhausted (depth + 1) message) state, 0, distinctCount group)

/-- Halves the group until each slice fits.  The first number counts down to the depth
limit and the second is the depth. -/
def runSplit (isolate : Isolate Request Output Slice) :
    ℕ → ℕ → List (Entry Request) → State Request Output Slice → State Request Output Slice × ℕ × ℕ
  | 0, depth, group, state =>
    handleSplitFailure isolate group (exhaust depth group)
      (dispatchAndFanOut surroundings group state)
  | budget + 1, depth, group, state =>
    handleSplitFailure isolate group (fun message next =>
        if group.length ≤ 1 then exhaust depth group message next
        else
          let middle := group.length / 2
          let left := runSplit isolate budget (depth + 1) (group.take middle) next
          let right := runSplit isolate budget (depth + 1) (group.drop middle) left.1
          (right.1, left.2.1 + right.2.1, left.2.2 + right.2.2))
      (dispatchAndFanOut surroundings group state)

/-- Changes to the counters only. -/
def count (change : OomRecoveryStats → OomRecoveryStats) (state : State Request Output Slice) :
    State Request Output Slice :=
  { state with stats := change state.stats }

/-- A split can count both as a success and as a terminal failure. -/
def countSplit (result : State Request Output Slice × ℕ × ℕ) : State Request Output Slice :=
  count (fun stats =>
    { stats with
      recoveriesSucceeded := stats.recoveriesSucceeded + if 0 < result.2.1 then 1 else 0
      terminalFailures := stats.terminalFailures + if 0 < result.2.2 then 1 else 0 }) result.1

def countRetry (attempted : State Request Output Slice × Option Failure) :
    State Request Output Slice × Option Failure :=
  match attempted with
  | (state, none) =>
    (count (fun stats =>
      { stats with recoveriesSucceeded := stats.recoveriesSucceeded + 1 }) state, none)
  | (state, some failure) => (state, some failure)

def tryEvictLru (state : State Request Output Slice) : State Request Output Slice × Bool :=
  ({ state with evictions := state.evictions + 1 }, surroundings.evicts state.evictions)

/-- The strategy loop after an out-of-memory error, with the message of the last one. -/
def recover (isolate : Isolate Request Output Slice) (group : List (Entry Request)) :
    List OomRecoveryAction → String → State Request Output Slice → State Request Output Slice
  | [], last, state =>
    failGroup group (.resourceExhausted config.strategy.length last) (count (fun stats =>
        { stats with terminalFailures := stats.terminalFailures + 1 }) state)
  | .splitBatch :: _, _, state =>
    countSplit (runSplit surroundings isolate config.maxSplitDepth 0 group
      (count (fun stats => { stats with batchSplits := stats.batchSplits + 1 }) state))
  | .cacheClear :: rest, _, state =>
    handleFailure isolate group (recover isolate group rest)
      (countRetry (dispatchAndFanOut surroundings group
        (count (fun stats => { stats with cacheClears := stats.cacheClears + 1 }) state)))
  | .evictLru :: rest, last, state =>
    match tryEvictLru surroundings state with
    | (next, false) => recover isolate group rest last next
    | (next, true) =>
      handleFailure isolate group (recover isolate group rest)
        (countRetry (dispatchAndFanOut surroundings group (count (fun stats =>
            { stats with evictionsTriggered := stats.evictionsTriggered + 1 }) next)))

/-- The body of the executor's entry point. -/
def runWith (group : List (Entry Request))
    (state : State Request Output Slice) : State Request Output Slice :=
  handleFailure isolate group (fun message next =>
      if config.enabled then
        recover surroundings config isolate group config.strategy message (count (fun stats =>
            { stats with recoveriesAttempted := stats.recoveriesAttempted + 1 }) next)
      else failGroup group (.raised (.outOfMemory message)) next)
    (dispatchAndFanOut surroundings group state)

end

section

variable (group : List (Entry Request))

def leftIds : List Request :=
  (requestIds group).take (distinctCount group / 2)

def leftGroup : List (Entry Request) :=
  group.filter fun entry => entry.request ∈ leftIds group

def rightGroup : List (Entry Request) :=
  group.filter fun entry => entry.request ∉ leftIds group

end

/-- Separates the requests of a group.  The number bounds the nesting; with none left a
group of several requests is not touched at all. -/
def isolateWithin : ℕ → Isolate Request Output Slice
  | 0, group, error, state =>
    if distinctCount group ≤ 1 then failGroup group (.raised error) state else state
  | fuel + 1, group, error, state =>
    if distinctCount group ≤ 1 then failGroup group (.raised error) state
    else
      runWith surroundings config (isolateWithin fuel) (rightGroup group)
        (runWith surroundings config (isolateWithin fuel) (leftGroup group) state)

/-- A group is never nested deeper than it has requests. -/
def isolateInvalidInput : Isolate Request Output Slice := fun group =>
  isolateWithin surroundings config (distinctCount group) group

section

variable (group : List (Entry Request))

def run (state : State Request Output Slice) : State Request Output Slice :=
  runWith surroundings config (isolateInvalidInput surroundings config) group state

/-! ## Nesting is bounded by the number of requests -/

theorem mem_requestIds (request : Request) :
    request ∈ requestIds group ↔ ∃ entry ∈ group, entry.request = request := by
  simp [requestIds]

theorem distinctCount_le_length (requests : List Request)
    (hrequests : ∀ entry ∈ group, entry.request ∈ requests) :
    distinctCount group ≤ requests.length := by
  refine (Nodup.subperm (nodup_reverse.2 (nodup_dedup _)) ?_).length_le
  intro request hrequest
  obtain ⟨entry, hentry, rfl⟩ := (mem_requestIds group request).1 hrequest
  exact hrequests entry hentry

end

theorem distinctCount_mono (hsubset : smaller ⊆ group) :
    distinctCount smaller ≤ distinctCount group := by
  apply distinctCount_le_length
  intro entry hentry
  exact (mem_requestIds group _).2 ⟨entry, hsubset hentry, rfl⟩

theorem distinctCount_leftGroup_le (group : List (Entry Request)) :
    distinctCount (leftGroup group) ≤ distinctCount group / 2 := by
  have hle : distinctCount (leftGroup group) ≤ (leftIds group).length := by
    apply distinctCount_le_length
    intro entry hentry
    exact of_decide_eq_true (mem_filter.1 hentry).2
  exact hle.trans (length_take_le _ _)

theorem distinctCount_rightGroup_le (group : List (Entry Request)) :
    distinctCount (rightGroup group) ≤ distinctCount group - distinctCount group / 2 := by
  have hle : distinctCount (rightGroup group) ≤
      ((requestIds group).drop (distinctCount group / 2)).length := by
    apply distinctCount_le_length
    intro entry hentry
    obtain ⟨hgroup, hright⟩ := mem_filter.1 hentry
    have hmem := (mem_requestIds group entry.request).2 ⟨entry, hgroup, rfl⟩
    rw [← take_append_drop (distinctCount group / 2) (requestIds group)] at hmem
    exact (mem_append.1 hmem).resolve_left (of_decide_eq_true hright)
  rwa [length_drop] at hle

/-- Two ways to isolate that do the same to every group of at most `bound` requests. -/
def AgreeUpTo (bound : ℕ) (first second : Isolate Request Output Slice) : Prop :=
  ∀ group, distinctCount group ≤ bound → first group = second group

section Agreement

variable {surroundings config} {first second : Isolate Request Output Slice}

theorem handleFailure_congr (hisolate : first group = second group) :
    handleFailure first group = handleFailure second group := by
  funext onOutOfMemory attempted
  rcases attempted with ⟨state, _ | ⟨message | message | message⟩⟩ <;>
    simp only [handleFailure, hisolate]

theorem handleSplitFailure_congr (hisolate : first group = second group) :
    handleSplitFailure first group = handleSplitFailure second group := by
  funext onOutOfMemory attempted
  rcases attempted with ⟨state, _ | ⟨message | message | message⟩⟩ <;>
    simp only [handleSplitFailure, hisolate]

variable (hagree : AgreeUpTo bound first second)
include hagree

theorem runSplit_congr (budget : ℕ) :
    ∀ (depth : ℕ) (group : List (Entry Request)) (state : State Request Output Slice),
      distinctCount group ≤ bound →
      runSplit surroundings first budget depth group state =
        runSplit surroundings second budget depth group state := by
  induction budget with
  | zero =>
    intro depth group state hbound
    simp only [runSplit, handleSplitFailure_congr (hagree group hbound)]
  | succ _ ih =>
    intro depth group state hbound
    have htake := (distinctCount_mono (take_subset (group.length / 2) group)).trans hbound
    have hdrop := (distinctCount_mono (drop_subset (group.length / 2) group)).trans hbound
    simp only [runSplit, handleSplitFailure_congr (hagree group hbound),
      ih _ _ _ htake, ih _ _ _ hdrop]

variable (hbound : distinctCount group ≤ bound)
include hbound

theorem recover_congr (actions : List OomRecoveryAction) :
    recover surroundings config first group actions =
      recover surroundings config second group actions := by
  induction actions with
  | nil => rfl
  | cons action _ ih =>
    funext last state
    have hhandle := handleFailure_congr (hagree group hbound)
    cases action with
    | splitBatch => simp only [recover, runSplit_congr hagree _ _ _ _ hbound]
    | _ => simp only [recover, hhandle, ih]

theorem runWith_congr :
    runWith surroundings config first group = runWith surroundings config second group := by
  funext state
  unfold runWith
  rw [recover_congr hagree hbound, handleFailure_congr (hagree group hbound)]

end Agreement

/-- Nesting deeper than the number of requests changes nothing. -/
theorem isolateWithin_agree (bound : ℕ) : ∀ fuel more : ℕ, bound ≤ fuel → bound ≤ more →
      AgreeUpTo bound (isolateWithin surroundings config fuel)
        (isolateWithin surroundings config more) := by
  induction bound with
  | zero =>
    intro fuel more _ _ group hbound
    funext error state
    have hone : distinctCount group ≤ 1 := by omega
    cases fuel <;> cases more <;> simp only [isolateWithin, if_pos hone]
  | succ bound ih =>
    intro fuel more hfuel hmore group hbound
    obtain ⟨fuel, rfl⟩ := Nat.exists_eq_add_of_le' (Nat.le_of_add_left_le hfuel)
    obtain ⟨more, rfl⟩ := Nat.exists_eq_add_of_le' (Nat.le_of_add_left_le hmore)
    have hagree := ih fuel more (by omega) (by omega)
    funext error state
    by_cases hone : distinctCount group ≤ 1
    · simp only [isolateWithin, if_pos hone]
    · have hleft : distinctCount (leftGroup group) ≤ bound := by
        have := distinctCount_leftGroup_le group
        omega
      have hright : distinctCount (rightGroup group) ≤ bound := by
        have := distinctCount_rightGroup_le group
        omega
      simp only [isolateWithin, if_neg hone, runWith_congr hagree hleft,
        runWith_congr hagree hright]

/-- The recursion of the source, with no bound on the nesting. -/
theorem isolateInvalidInput_eq (group : List (Entry Request)) (error : Failure)
    (state : State Request Output Slice) :
    isolateInvalidInput surroundings config group error state =
      if distinctCount group ≤ 1 then failGroup group (.raised error) state
      else run surroundings config (rightGroup group)
        (run surroundings config (leftGroup group) state) := by
  have hagree (fuel : ℕ) : AgreeUpTo fuel (isolateWithin surroundings config fuel)
        (isolateInvalidInput surroundings config) := by
    intro smaller hsmaller
    exact isolateWithin_agree surroundings config _ _ _ hsmaller le_rfl smaller le_rfl
  by_cases hone : distinctCount group ≤ 1
  · rw [if_pos hone, ← hagree 1 group hone, isolateWithin, if_pos hone]
  · have hleft := distinctCount_leftGroup_le group
    have hright := distinctCount_rightGroup_le group
    obtain ⟨fuel, hfuel⟩ := Nat.exists_eq_succ_of_ne_zero (by omega : distinctCount group ≠ 0)
    rw [if_neg hone, isolateInvalidInput, hfuel, isolateWithin, if_neg hone,
      runWith_congr (hagree fuel) (by omega), runWith_congr (hagree fuel) (by omega)]
    rfl

end Executor

end SieCluster.OomRecovery
