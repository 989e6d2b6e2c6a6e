import SieCluster.Server.OomRecovery

/-!
# What recovery does to the requests of a group

Every path through the recovery ends at groups whose last attempt either
succeeded, so that each of their items has a slice of its output, or failed, so
that each of their requests has an error.  The groups at the ends cover the
original group.  The statement about one group composes over the two halves of
a split, and a failed attempt in front of it changes nothing.
-/

namespace SieCluster.OomOutcomes

open OomRecovery List

variable {Request Output Slice : Type}

section

variable (surroundings : Surroundings Request Output Slice)

/-- The item's stored result is the slice at its own position of the output of one of
the attempts. -/
def Sliced (attempts : List (Attempt Request Output)) (state : State Request Output Slice)
    (entry : Entry Request) : Prop :=
  ∃ attempt ∈ attempts, ∃ output position slice,
    attempt.output = some output ∧ attempt.group[position]? = some entry ∧
      surroundings.sliceOutput output position = .ok slice ∧ state.partialResults entry = some slice

/-- A group with an item of the request failed in the last attempt of that group. -/
def Blamed (attempts : List (Attempt Request Output)) (request : Request) : Prop :=
  ∃ before attempt after, attempts = before ++ attempt :: after ∧
    attempt.failure.isSome ∧ (∃ entry ∈ attempt.group, entry.request = request) ∧
      ∀ later ∈ after, later.group ≠ attempt.group

/-- The attempt says what the dispatch of its group answered after the earlier ones; a
failure after an output is that of a slice. -/
def Answered (earlier : List (Attempt Request Output)) (attempt : Attempt Request Output) : Prop :=
  match surroundings.dispatch earlier attempt.group with
  | .ok output => attempt.output = some output ∧ ∀ failure, attempt.failure = some failure →
      ∃ position < attempt.group.length,
        surroundings.sliceOutput output position = .error failure
  | .error failure => attempt.output = none ∧ attempt.failure = some failure

/-- Each attempt is a dispatch of its own, after the ones before it. -/
def Genuine : List (Attempt Request Output) → List (Attempt Request Output) → Prop
  | _, [] => True
  | earlier, attempt :: rest =>
    Answered surroundings earlier attempt ∧ Genuine (earlier ++ [attempt]) rest

variable (group : List (Entry Request))

/-- The effect of running a group to its end with the given attempts. -/
structure Settles (attempts : List (Attempt Request Output))
    (start final : State Request Output Slice) : Prop where
  recorded : final.attempts = start.attempts ++ attempts
  genuine : Genuine surroundings start.attempts attempts
  within : ∀ attempt ∈ attempts, attempt.group.Sublist group
  kept : ∀ request, start.futures request ≠ [] → final.futures request = start.futures request
  once : ∀ request, start.futures request = [] → (final.futures request).length ≤ 1
  settled : ∀ entry ∈ group,
    final.futures entry.request ≠ [] ∨ Sliced surroundings attempts final entry
  sliced : ∀ entry, final.partialResults entry = start.partialResults entry ∨
    Sliced surroundings attempts final entry
  blamed : ∀ request, final.futures request = start.futures request ∨ Blamed attempts request

/-- One failed attempt of a group; some slices may have been stored before the failure. -/
structure Failed
    (attempt : Attempt Request Output) (start next : State Request Output Slice) : Prop where
  recorded : next.attempts = start.attempts ++ [attempt]
  answered : Answered surroundings start.attempts attempt
  ofGroup : attempt.group = group
  failure : attempt.failure.isSome
  futures : next.futures = start.futures
  sliced : ∀ entry, next.partialResults entry = start.partialResults entry ∨
    Sliced surroundings [attempt] next entry

/-- How an attempt of a group ends. -/
inductive Attempted (start : State Request Output Slice) :
    State Request Output Slice × Option Failure → Prop where
  | settled {attempts next} (hsettles : Settles surroundings group attempts start next) :
      Attempted start (next, none)
  | failed {attempt next failure} (hfailed : Failed surroundings group attempt start next) :
      Attempted start (next, some failure)

/-- The items of one config group; an item stands in it once. -/
structure ConfigGroup (Request : Type) where
  entries : List (Entry Request)
  nodup : entries.Nodup

/-- What a run from one state to another leaves behind. -/
structure Complete (start final : State Request Output Slice) : Prop where
  /-- The attempts of the run, each a dispatch of a part of the group. -/
  attempts : ∃ attempts, final.attempts = start.attempts ++ attempts ∧
    Genuine surroundings start.attempts attempts ∧
    (∀ attempt ∈ attempts, attempt.group.Sublist group) ∧
    -- Each request has one error, or its own slice for each of its items.
    (∀ request, (final.futures request).length = 1 ∨
      ∀ index, ⟨request, index⟩ ∈ group → Sliced surroundings attempts final ⟨request, index⟩) ∧
    (∀ entry, final.partialResults entry ≠ start.partialResults entry →
      Sliced surroundings attempts final entry) ∧
    ∀ request, final.futures request ≠ start.futures request → Blamed attempts request
  once : ∀ request, (final.futures request).length ≤ 1

end

variable {surroundings : Surroundings Request Output Slice}

section Composition

variable {attempts : List (Attempt Request Output)}

theorem Sliced.mono
    (hsliced : Sliced surroundings attempts state entry) (hsubset : attempts ⊆ more) :
    Sliced surroundings more state entry := by
  obtain ⟨attempt, hattempt, hrest⟩ := hsliced
  exact ⟨attempt, hsubset hattempt, hrest⟩

/-- A result that is not overwritten keeps its origin. -/
theorem Sliced.congr {next : State Request Output Slice}
    (hsliced : Sliced surroundings attempts state entry)
    (hsame : next.partialResults entry = state.partialResults entry) :
    Sliced surroundings attempts next entry := by
  obtain ⟨attempt, hattempt, output, position, slice, houtput, hentry, hslice, hstored⟩ := hsliced
  exact ⟨attempt, hattempt, output, position, slice, houtput, hentry, hslice, hsame.trans hstored⟩

theorem genuine_append {earlier second : List (Attempt Request Output)}
    (hfirst : Genuine surroundings earlier first)
    (hsecond : Genuine surroundings (earlier ++ first) second) :
    Genuine surroundings earlier (first ++ second) := by
  induction first generalizing earlier with
  | nil => simpa using hsecond
  | cons attempt rest ih =>
    exact ⟨hfirst.1, ih hfirst.2 (by simpa using hsecond)⟩

theorem Blamed.prepend (hblamed : Blamed attempts request)
    (earlier : List (Attempt Request Output)) : Blamed (earlier ++ attempts) request := by
  obtain ⟨before, attempt, after, rfl, hrest⟩ := hblamed
  exact ⟨earlier ++ before, attempt, after, (append_assoc _ _ _).symm, hrest⟩

/-- Later attempts of groups without the item do not repeat the group that failed. -/
theorem Blamed.append (hblamed : Blamed attempts request)
    (hleft : ∀ attempt ∈ attempts, attempt.group.Sublist left)
    (hright : ∀ attempt ∈ later, attempt.group.Sublist right)
    (hdisjoint : List.Disjoint left right) : Blamed (attempts ++ later) request := by
  obtain ⟨before, attempt, after, rfl, hfailure, ⟨entry, hentry, hrequest⟩, hlast⟩ := hblamed
  refine ⟨before, attempt, after ++ later, by simp, hfailure, ⟨entry, hentry, hrequest⟩, ?_⟩
  intro other hother hsame
  rcases mem_append.1 hother with hafter | hlater
  · exact hlast other hafter hsame
  · exact hdisjoint ((hleft attempt (by simp)).subset hentry)
      ((hright other hlater).subset (hsame ▸ hentry))

/-- Two halves settle the group they were cut from. -/
theorem Settles.append {left : List (Entry Request)} {first second : List (Attempt Request Output)}
    (hleft : Settles surroundings left first start middle)
    (hright : Settles surroundings right second middle final) (hleftSub : left.Sublist group)
    (hrightSub : right.Sublist group) (hcover : ∀ entry ∈ group, entry ∈ left ∨ entry ∈ right)
    (hdisjoint : List.Disjoint left right) :
    Settles surroundings group (first ++ second) start final where
  recorded := by rw [hright.recorded, hleft.recorded, append_assoc]
  genuine := genuine_append hleft.genuine (hleft.recorded ▸ hright.genuine)
  within := by
    exact forall_mem_append.2 ⟨fun attempt hfirst => (hleft.within attempt hfirst).trans hleftSub,
        fun attempt hsecond => (hright.within attempt hsecond).trans hrightSub⟩
  kept := by
    intro request hdone
    have hmiddle := hleft.kept request hdone
    rw [hright.kept request (hmiddle ▸ hdone), hmiddle]
  once := by
    intro request hopen
    by_cases hmiddle : middle.futures request = []
    · exact hright.once request hmiddle
    · rw [hright.kept request hmiddle]
      exact hleft.once request hopen
  settled := by
    intro entry hentry
    rcases hcover entry hentry with hinLeft | hinRight
    · rcases hleft.settled entry hinLeft with hdone | hsliced
      · left
        rw [hright.kept _ hdone]
        exact hdone
      · right
        rcases hright.sliced entry with hsame | hagain
        · exact (hsliced.congr hsame).mono (subset_append_left _ _)
        · exact hagain.mono (subset_append_right _ _)
    · exact (hright.settled entry hinRight).imp_right
        fun hsliced => hsliced.mono (subset_append_right _ _)
  sliced := by
    intro entry
    rcases hright.sliced entry with hsame | hagain
    · rcases hleft.sliced entry with hstart | hsliced
      · exact .inl (hsame.trans hstart)
      · exact .inr ((hsliced.congr hsame).mono (subset_append_left _ _))
    · exact .inr (hagain.mono (subset_append_right _ _))
  blamed := by
    intro request
    rcases hright.blamed request with hsame | hblamed
    · rcases hleft.blamed request with hstart | hblamed
      · exact .inl (hsame.trans hstart)
      · exact .inr (hblamed.append hleft.within hright.within hdisjoint)
    · exact .inr (hblamed.prepend first)

/-- A failed attempt in front of a run of the same group. -/
theorem Failed.settles {attempt : Attempt Request Output}
    (hfailed : Failed surroundings group attempt start middle)
    (hrest : Settles surroundings group attempts middle final) :
    Settles surroundings group (attempt :: attempts) start final where
  recorded := by rw [hrest.recorded, hfailed.recorded, append_assoc, singleton_append]
  genuine := ⟨hfailed.answered, hfailed.recorded ▸ hrest.genuine⟩
  within := by
    refine forall_mem_cons.2 ⟨?_, hrest.within⟩
    rw [hfailed.ofGroup]
  kept := by
    intro request hdone
    rw [← hfailed.futures] at hdone ⊢
    exact hrest.kept request hdone
  once := by
    intro request hopen
    rw [← hfailed.futures] at hopen
    exact hrest.once request hopen
  settled := by
    intro entry hentry
    exact (hrest.settled entry hentry).imp_right fun hsliced => hsliced.mono (subset_cons_self _ _)
  sliced := by
    intro entry
    rcases hrest.sliced entry with hsame | hsliced
    · rcases hfailed.sliced entry with hstart | hsliced
      · exact .inl (hsame.trans hstart)
      · exact .inr ((hsliced.congr hsame).mono (by simp))
    · exact .inr (hsliced.mono (subset_cons_self _ _))
  blamed := by
    intro request
    rw [← hfailed.futures]
    exact (hrest.blamed request).imp_right fun hblamed => hblamed.prepend [attempt]

/-! ### Counters do not matter -/

section Ledger

variable {next : State Request Output Slice}

/-- The part of the state that recovery is judged by, which is all but the counters. -/
def ledger (state : State Request Output Slice) :
    List (Attempt Request Output) × (Request → List Error) × (Entry Request → Option Slice) :=
  (state.attempts, state.futures, state.partialResults)

theorem Failed.of_ledger {attempt : Attempt Request Output}
    (hfailed : Failed surroundings group attempt start next)
    (hledger : ledger other = ledger next) :
    Failed surroundings group attempt start other := by
  obtain ⟨hattempts, hfutures, hpartial⟩ := by simpa only [ledger, Prod.mk.injEq] using hledger
  exact {
    recorded := hattempts.trans hfailed.recorded
    answered := hfailed.answered
    ofGroup := hfailed.ofGroup
    failure := hfailed.failure
    futures := hfutures.trans hfailed.futures
    sliced := by
      intro entry
      rcases hfailed.sliced entry with hsame | hsliced
      · exact .inl ((congrFun hpartial entry).trans hsame)
      · exact .inr (hsliced.congr (congrFun hpartial entry)) }

theorem Settles.of_ledger (hsettles : Settles surroundings group attempts start next)
    (hledger : ledger other = ledger next) : Settles surroundings group attempts start other := by
  obtain ⟨hattempts, hfutures, hpartial⟩ := by simpa only [ledger, Prod.mk.injEq] using hledger
  have hcongr (entry : Entry Request) (hsliced : Sliced surroundings attempts next entry) :
      Sliced surroundings attempts other entry :=
    hsliced.congr (congrFun hpartial entry)
  obtain ⟨hrecorded, hgenuine, hwithin, hkept, honce, hsettled, hslicedAll, hblamed⟩ := hsettles
  rw [← hattempts] at hrecorded
  rw [← hfutures] at hkept honce hsettled hblamed
  rw [← hpartial] at hslicedAll
  exact ⟨hrecorded, hgenuine, hwithin, hkept, honce,
    fun entry hentry => (hsettled entry hentry).imp_right (hcongr entry),
    fun entry => (hslicedAll entry).imp_right (hcongr entry), hblamed⟩

theorem Attempted.countRetry (hattempted : Attempted surroundings group start attempted) :
    Attempted surroundings group start (countRetry attempted) := by
  cases hattempted with
  | settled hsettles => exact .settled (hsettles.of_ledger rfl)
  | failed hfailed => exact .failed hfailed

end Ledger

/-- Continuing this way after a failed attempt of the group settles the group. -/
def SettlesAfter (surroundings : Surroundings Request Output Slice) (group : List (Entry Request))
    (continuation : State Request Output Slice → State Request Output Slice) : Prop :=
  ∀ start next attempt, Failed surroundings group attempt start next →
    ∃ attempts, Settles surroundings group attempts start (continuation next)

/-- Running the group anew after the failure. -/
theorem settlesAfter_of_settles (hsettles : ∀ start, ∃ attempts,
      Settles surroundings group attempts start (continuation start)) :
    SettlesAfter surroundings group continuation := by
  intro start next attempt hfailed
  obtain ⟨attempts, hrest⟩ := hsettles next
  exact ⟨attempt :: attempts, hfailed.settles hrest⟩

theorem Settles.complete (hsettles : Settles surroundings group attempts start final)
    (hstart : ∀ request, (start.futures request).length ≤ 1) :
    Complete surroundings group start final := by
  have honce (request : Request) : (final.futures request).length ≤ 1 := by
    by_cases hopen : start.futures request = []
    · exact hsettles.once request hopen
    · rw [hsettles.kept request hopen]
      exact hstart request
  refine ⟨⟨attempts, hsettles.recorded, hsettles.genuine, hsettles.within, ?_, ?_, ?_⟩, honce⟩
  · intro request
    by_cases hopen : final.futures request = []
    · exact .inr fun index hentry =>
        (hsettles.settled _ hentry).resolve_left fun hdone => hdone hopen
    · exact .inl (le_antisymm (honce request) (length_pos_iff.2 hopen))
  · intro entry hchanged
    exact (hsettles.sliced entry).resolve_left hchanged
  · intro request hchanged
    exact (hsettles.blamed request).resolve_left hchanged

end Composition

variable [DecidableEq Request]

section Attempts

variable (surroundings : Surroundings Request Output Slice)

theorem fanOut_frame (output : Output) (group : List (Entry Request)) :
    ∀ (position : ℕ) (state : State Request Output Slice),
      (fanOut surroundings output position group state).1.attempts = state.attempts ∧
        (fanOut surroundings output position group state).1.futures = state.futures := by
  induction group with
  | nil =>
    intro position state
    exact ⟨rfl, rfl⟩
  | cons head _ ih =>
    intro position state
    cases hslice : surroundings.sliceOutput output position with
    | error => simp only [fanOut, hslice, and_self]
    | ok slice =>
      simp only [fanOut, hslice]
      exact ih (position + 1) (storePartial state head slice)

theorem fanOut_failure {failure : Failure} (output : Output) (group : List (Entry Request)) :
    ∀ (position : ℕ) (state : State Request Output Slice),
      (fanOut surroundings output position group state).2 = some failure →
        ∃ index < group.length, surroundings.sliceOutput output (position + index) =
          .error failure := by
  induction group with
  | nil => exact nofun
  | cons head rest ih =>
    intro position state hfailure
    cases hslice : surroundings.sliceOutput output position with
    | error =>
      simp only [fanOut, hslice, Option.some.injEq] at hfailure
      exact ⟨0, by simp, hfailure ▸ hslice⟩
    | ok slice =>
      simp only [fanOut, hslice] at hfailure
      obtain ⟨index, hindex, herror⟩ := ih (position + 1) _ hfailure
      exact ⟨index + 1, Nat.succ_lt_succ hindex, by rwa [Nat.add_comm index, ← Nat.add_assoc]⟩

/-- The fan-out of a suffix of the group touches an item only with its own slice, and
without a failure it reaches every item of the suffix. -/
theorem fanOut_sliced (houtput : attempt.output = some output) (rest : List (Entry Request)) :
    ∀ (position : ℕ) (state : State Request Output Slice), attempt.group.drop position = rest →
      (∀ entry, (fanOut surroundings output position rest state).1.partialResults entry =
            state.partialResults entry ∨
          Sliced surroundings [attempt] (fanOut surroundings output position rest state).1 entry) ∧
      ((fanOut surroundings output position rest state).2 = none → ∀ entry ∈ rest,
        Sliced surroundings [attempt]
          (fanOut surroundings output position rest state).1 entry) := by
  induction rest with
  | nil =>
    intro position state _
    exact ⟨fun entry => .inl rfl, fun _ entry hentry => absurd hentry not_mem_nil⟩
  | cons head rest ih =>
    intro position state hdrop
    have hhead : attempt.group[position]? = some head := by
      rw [← Nat.add_zero position, ← List.getElem?_drop, hdrop]
      rfl
    have hrest : attempt.group.drop (position + 1) = rest := by
      rw [← drop_drop, hdrop]
      rfl
    cases hslice : surroundings.sliceOutput output position with
    | error =>
      simp only [fanOut, hslice]
      exact ⟨fun entry => .inl trivial, fun hnone => nomatch hnone⟩
    | ok slice =>
      simp only [fanOut, hslice]
      obtain ⟨hframe, hall⟩ := ih (position + 1) (storePartial state head slice) hrest
      -- The head keeps the slice just stored, or gets one from a later position.
      have hstored : Sliced surroundings [attempt] (fanOut surroundings output (position + 1) rest
            (storePartial state head slice)).1 head := by
        rcases hframe head with hsame | hagain
        · refine ⟨attempt, mem_singleton_self _, output, position, slice, houtput, hhead,
            hslice, ?_⟩
          rw [hsame]
          exact Function.update_self _ _ _
        · exact hagain
      constructor
      · intro entry
        by_cases hentry : entry = head
        · rw [hentry]
          exact .inr hstored
        · refine (hframe entry).imp_left fun hsame => ?_
          rw [hsame]
          exact Function.update_of_ne hentry _ _
      · exact fun hnone => forall_mem_cons.2 ⟨hstored, hall hnone⟩

/-- An attempt settles its group or fails with nothing settled. -/
theorem dispatchAndFanOut_attempted (group : List (Entry Request))
    (start : State Request Output Slice) :
    Attempted surroundings group start (dispatchAndFanOut surroundings group start) := by
  cases hdispatch : surroundings.dispatch start.attempts group with
  | error failure =>
    simp only [dispatchAndFanOut, hdispatch]
    have hfailed : Failed surroundings group ⟨group, none, some failure⟩ start
        (recordAttempt ⟨group, none, some failure⟩ start) :=
      ⟨rfl, by simp [Answered, hdispatch], rfl, rfl, rfl, fun entry => .inl rfl⟩
    exact .failed hfailed
  | ok output =>
    simp only [dispatchAndFanOut, hdispatch]
    obtain ⟨hattempts, hfutures⟩ := fanOut_frame surroundings output group 0 start
    obtain ⟨hsliced, hall⟩ := fanOut_sliced surroundings
      (rfl : (⟨group, some output, (fanOut surroundings output 0 group start).2⟩ :
        Attempt Request Output).output = some output) group 0 start rfl
    have hanswered : Answered surroundings start.attempts
        ⟨group, some output, (fanOut surroundings output 0 group start).2⟩ := by
      simp only [Answered, hdispatch, true_and]
      intro failure hfailure
      obtain ⟨position, hposition, herror⟩ :=
        fanOut_failure surroundings output group 0 start hfailure
      exact ⟨position, hposition, by rwa [Nat.zero_add] at herror⟩
    have hrecorded (attempt : Attempt Request Output) :
        (fanOut surroundings output 0 group start).1.attempts ++ [attempt] =
          start.attempts ++ [attempt] := by rw [hattempts]
    cases hfailure : (fanOut surroundings output 0 group start).2 with
    | none =>
      rw [hfailure] at hsliced hall hanswered
      have hsettles : Settles surroundings group [⟨group, some output, none⟩] start
          (recordAttempt ⟨group, some output, none⟩
            (fanOut surroundings output 0 group start).1) := {
        recorded := hrecorded _
        genuine := ⟨hanswered, trivial⟩
        within := by simp
        kept := fun request _ => congrFun hfutures request
        once := by
          intro request hopen
          have hnil := (congrFun hfutures request).trans hopen
          exact (congrArg List.length hnil).le.trans (Nat.zero_le 1)
        settled := fun entry hentry => .inr (hall rfl entry hentry)
        sliced := hsliced
        blamed := fun request => .inl (congrFun hfutures request) }
      exact .settled hsettles
    | some failure =>
      rw [hfailure] at hsliced hanswered
      have hfailed : Failed surroundings group ⟨group, some output, some failure⟩ start
          (recordAttempt ⟨group, some output, some failure⟩
            (fanOut surroundings output 0 group start).1) :=
        ⟨hrecorded _, hanswered, rfl, rfl, hfutures, hsliced⟩
      exact .failed hfailed

/-- Setting the error on every request of a list touches open futures only. -/
theorem setException_futures (error : Error) (requests : List Request) :
    ∀ (state : State Request Output Slice) (request : Request),
      (requests.foldl (setException error) state).futures request =
        if request ∈ requests ∧ state.futures request = [] then [error]
        else state.futures request := by
  induction requests with
  | nil => simp
  | cons head _ ih =>
    intro state request
    rw [foldl_cons, ih]
    by_cases hhead : request = head
    · by_cases hopen : state.futures head = [] <;> simp [setException, hhead, hopen]
    · by_cases hopen : state.futures head = [] <;>
        simp [setException, hhead, hopen, Function.update_of_ne]

theorem setException_frame (error : Error) (requests : List Request) :
    ∀ state : State Request Output Slice,
      (requests.foldl (setException error) state).attempts = state.attempts ∧
        (requests.foldl (setException error) state).partialResults = state.partialResults := by
  induction requests with
  | nil => exact fun state => ⟨rfl, rfl⟩
  | cons head _ ih =>
    intro state
    have hhead : (setException error state head).attempts = state.attempts ∧
        (setException error state head).partialResults = state.partialResults := by
      unfold setException
      split_ifs <;> exact ⟨rfl, rfl⟩
    rw [foldl_cons, (ih _).1, (ih _).2]
    exact hhead

/-- Failing the group right after its attempt failed settles it. -/
theorem Failed.failGroup {surroundings : Surroundings Request Output Slice}
    {group : List (Entry Request)} {start next : State Request Output Slice}
    (hfailed : Failed surroundings group attempt start next) (error : Error) :
    Settles surroundings group [attempt] start (failGroup group error next) := by
  obtain ⟨hattempts, hpartial⟩ := setException_frame error (requestIds group) next
  have hfutures (request : Request) := setException_futures error (requestIds group) next request
  rw [hfailed.futures] at hfutures
  exact {
    recorded := hattempts.trans hfailed.recorded
    genuine := ⟨hfailed.answered, trivial⟩
    within := by
      intro other hother
      rw [mem_singleton.1 hother, hfailed.ofGroup]
    kept := by
      intro request hdone
      exact (hfutures request).trans (if_neg fun hboth => hdone hboth.2)
    once := by
      intro request hopen
      refine (congrArg List.length (hfutures request)).trans_le ?_
      split_ifs <;> simp [hopen]
    settled := by
      intro entry hentry
      left
      have hmem := (mem_requestIds group entry.request).2 ⟨entry, hentry, rfl⟩
      intro hnil
      have hvalue := (hfutures entry.request).symm.trans hnil
      split_ifs at hvalue with hboth
      exact hboth ⟨hmem, hvalue⟩
    sliced := by
      intro entry
      rcases hfailed.sliced entry with hsame | hsliced
      · exact .inl ((congrFun hpartial entry).trans hsame)
      · exact .inr (hsliced.congr (congrFun hpartial entry))
    blamed := by
      intro request
      by_cases hboth : request ∈ requestIds group ∧ start.futures request = []
      · right
        refine ⟨[], attempt, [], rfl, hfailed.failure, ?_, by simp⟩
        rw [hfailed.ofGroup]
        exact (mem_requestIds group request).1 hboth.1
      · exact .inl ((hfutures request).trans (if_neg hboth)) }

end Attempts

/-! ## The recovery tree -/

section Recovery

theorem settlesAfter_failGroup (error : Error) :
    SettlesAfter surroundings group (failGroup group error) :=
  fun _ _ attempt hfailed => ⟨[attempt], hfailed.failGroup error⟩

theorem Attempted.handleFailure (hattempted : Attempted surroundings group start attempted)
    (hisolate : ∀ failure, SettlesAfter surroundings group (isolate group failure))
    (hmemory : ∀ message, SettlesAfter surroundings group (onOutOfMemory message)) :
    ∃ attempts, Settles surroundings group attempts start
      (handleFailure isolate group onOutOfMemory attempted) := by
  cases hattempted with
  | settled hsettles => exact ⟨_, hsettles⟩
  | @failed attempt next failure hfailed =>
    cases failure with
    | outOfMemory message => exact hmemory message start next attempt hfailed
    | invalidInput => exact hisolate _ start next attempt hfailed
    | other => exact settlesAfter_failGroup _ start next attempt hfailed

/-- The counts of a split aside, its handlers are the ones of the entry point. -/
theorem handleSplitFailure_fst (isolate : Isolate Request Output Slice)
    (onOutOfMemory : String → State Request Output Slice → State Request Output Slice × ℕ × ℕ) :
    (handleSplitFailure isolate group onOutOfMemory attempted).1 =
      handleFailure isolate group (fun message state => (onOutOfMemory message state).1)
        attempted := by
  rcases attempted with ⟨state, _ | ⟨message | message | message⟩⟩ <;> rfl

/-- Isolation that settles every group of at most `bound` requests. -/
def IsolatesUpTo (surroundings : Surroundings Request Output Slice) (bound : ℕ)
    (isolate : Isolate Request Output Slice) : Prop :=
  ∀ group, group.Nodup → distinctCount group ≤ bound →
    ∀ failure, SettlesAfter surroundings group (isolate group failure)

theorem runSplit_settles (hisolate : IsolatesUpTo surroundings bound isolate) (budget : ℕ) :
    ∀ (depth : ℕ) (group : List (Entry Request)) (start : State Request Output Slice),
      group.Nodup → distinctCount group ≤ bound →
      ∃ attempts, Settles surroundings group attempts start
        (runSplit surroundings isolate budget depth group start).1 := by
  induction budget with
  | zero =>
    intro depth group start hnodup hbound
    rw [runSplit, handleSplitFailure_fst]
    exact (dispatchAndFanOut_attempted surroundings group start).handleFailure
      (hisolate group hnodup hbound) fun message => settlesAfter_failGroup _
  | succ _ ih =>
    intro depth group start hnodup hbound
    rw [runSplit, handleSplitFailure_fst]
    refine (dispatchAndFanOut_attempted surroundings group start).handleFailure
      (hisolate group hnodup hbound) fun message => ?_
    by_cases hsmall : group.length ≤ 1
    · simp only [if_pos hsmall]
      exact settlesAfter_failGroup _
    · simp only [if_neg hsmall]
      refine settlesAfter_of_settles fun next => ?_
      -- The two halves are disjoint because no item occurs twice in the group.
      have htake : (group.take (group.length / 2)).Sublist group := take_sublist _ _
      have hdrop : (group.drop (group.length / 2)).Sublist group := drop_sublist _ _
      have hcover (entry : Entry Request) (hentry : entry ∈ group) :
          entry ∈ group.take (group.length / 2) ∨ entry ∈ group.drop (group.length / 2) := by
        rwa [← mem_append, take_append_drop]
      obtain ⟨first, hleft⟩ := ih (depth + 1) _ next (hnodup.sublist htake)
        ((distinctCount_mono htake.subset).trans hbound)
      obtain ⟨second, hright⟩ := ih (depth + 1) _ _ (hnodup.sublist hdrop)
        ((distinctCount_mono hdrop.subset).trans hbound)
      exact ⟨first ++ second, hleft.append hright htake hdrop hcover
        (disjoint_take_drop hnodup le_rfl)⟩

theorem recover_settles (hisolate : IsolatesUpTo surroundings bound isolate) (hnodup : group.Nodup)
    (hbound : distinctCount group ≤ bound) (actions : List OomRecoveryAction) :
    ∀ last, SettlesAfter surroundings group
      (recover surroundings config isolate group actions last) := by
  induction actions with
  | nil =>
    intro last start next attempt hfailed
    exact settlesAfter_failGroup _ start _ attempt (hfailed.of_ledger rfl)
  | cons action rest ih =>
    -- A mitigation changes nothing that matters, and the group is attempted again.
    have hretry (change : OomRecoveryStats → OomRecoveryStats) :
        SettlesAfter surroundings group fun next =>
          handleFailure isolate group (recover surroundings config isolate group rest)
            (countRetry (dispatchAndFanOut surroundings group (count change next))) := by
      intro start next attempt hfailed
      obtain ⟨attempts, hrest⟩ :=
        (dispatchAndFanOut_attempted surroundings group (count change next)).countRetry
          |>.handleFailure (hisolate group hnodup hbound) ih
      have hcounted : Failed surroundings group attempt start (count change next) :=
        hfailed.of_ledger rfl
      exact ⟨_, hcounted.settles hrest⟩
    intro last
    cases action with
    | cacheClear => exact hretry _
    | splitBatch =>
      intro start next attempt hfailed
      obtain ⟨attempts, hsplit⟩ := runSplit_settles hisolate config.maxSplitDepth 0 group
        (count (fun stats => { stats with batchSplits := stats.batchSplits + 1 }) next)
        hnodup hbound
      have hcounted : Failed surroundings group attempt start
          (count (fun stats => { stats with batchSplits := stats.batchSplits + 1 }) next) :=
        hfailed.of_ledger rfl
      exact ⟨_, (hcounted.settles hsplit).of_ledger rfl⟩
    | evictLru =>
      intro start next attempt hfailed
      have hevicted : Failed surroundings group attempt start
          (tryEvictLru surroundings next).1 := hfailed.of_ledger rfl
      cases hresult : surroundings.evicts next.evictions with
      | false =>
        simp only [recover, tryEvictLru, hresult]
        exact ih last start _ attempt hevicted
      | true =>
        simp only [recover, tryEvictLru, hresult]
        exact hretry _ start _ attempt hevicted

theorem runWith_settles (config : OomRecoveryConfig)
    (hisolate : IsolatesUpTo surroundings bound isolate) (hnodup : group.Nodup)
    (hbound : distinctCount group ≤ bound) (start : State Request Output Slice) :
    ∃ attempts, Settles surroundings group attempts start
      (runWith surroundings config isolate group start) := by
  refine (dispatchAndFanOut_attempted surroundings group start).handleFailure
    (hisolate group hnodup hbound) fun message => ?_
  cases henabled : config.enabled with
  | false => exact settlesAfter_failGroup _
  | true =>
    intro start next attempt hfailed
    exact recover_settles hisolate hnodup hbound config.strategy message start _ attempt
      (hfailed.of_ledger rfl)

/-- Separating the requests of a group settles it. -/
theorem isolateInvalidInput_settles (bound : ℕ) :
    IsolatesUpTo surroundings bound (isolateInvalidInput surroundings config) := by
  induction bound with
  | zero =>
    intro group _ hbound failure start next attempt hfailed
    rw [isolateInvalidInput_eq, if_pos (hbound.trans (Nat.zero_le 1))]
    exact settlesAfter_failGroup _ start next attempt hfailed
  | succ _ ih =>
    intro group hnodup hbound failure start next attempt hfailed
    rw [isolateInvalidInput_eq]
    by_cases hone : distinctCount group ≤ 1
    · rw [if_pos hone]
      exact settlesAfter_failGroup _ start next attempt hfailed
    · rw [if_neg hone]
      have hleftSub : (leftGroup group).Sublist group := filter_sublist
      have hrightSub : (rightGroup group).Sublist group := filter_sublist
      have hleftBound := distinctCount_leftGroup_le group
      have hrightBound := distinctCount_rightGroup_le group
      obtain ⟨first, hleft⟩ := runWith_settles config ih (hnodup.sublist hleftSub) (by omega) next
      obtain ⟨second, hright⟩ := runWith_settles config ih (hnodup.sublist hrightSub) (by omega) _
      refine ⟨_, hfailed.settles (hleft.append hright hleftSub hrightSub ?_ ?_)⟩
      · intro entry hentry
        by_cases hids : entry.request ∈ leftIds group
        · exact .inl (mem_filter.2 ⟨hentry, decide_eq_true hids⟩)
        · exact .inr (mem_filter.2 ⟨hentry, decide_eq_true hids⟩)
      · intro entry hinLeft hinRight
        exact of_decide_eq_true (mem_filter.1 hinRight).2
          (of_decide_eq_true (mem_filter.1 hinLeft).2)

end Recovery

/-! ## Completeness -/

/-- Recovery ends, however the dispatches fail, and leaves no request of the group without
its results or its one error.  Allowing more nesting than there are requests does not
change the outcome, so the recursion of the source reaches it. -/
theorem run_complete (surroundings : Surroundings Request Output Slice) (config : OomRecoveryConfig)
    (group : ConfigGroup Request) (start : State Request Output Slice)
    (hstart : ∀ request, (start.futures request).length ≤ 1) :
    (∀ fuel, distinctCount group.entries ≤ fuel →
      runWith surroundings config (isolateWithin surroundings config fuel) group.entries start =
        run surroundings config group.entries start) ∧
    Complete surroundings group.entries start (run surroundings config group.entries start) := by
  constructor
  · intro fuel hfuel
    have hagree : AgreeUpTo (distinctCount group.entries)
        (isolateWithin surroundings config fuel) (isolateInvalidInput surroundings config) := by
      intro smaller hsmaller
      exact isolateWithin_agree surroundings config _ _ _ (hsmaller.trans hfuel) le_rfl
        smaller le_rfl
    exact congrFun (runWith_congr hagree le_rfl) start
  · obtain ⟨attempts, hsettles⟩ := runWith_settles config
      (isolateInvalidInput_settles (distinctCount group.entries)) group.nodup le_rfl start
    exact hsettles.complete hstart

/-- An adapter with room for one item, which never fits an item of request 1. -/
def crampedAdapter : Surroundings ℕ Unit ℕ where
  dispatch _ group :=
    if group.length ≤ 1 ∧ ∀ entry ∈ group, entry.request ≠ 1 then .ok ()
    else .error (.outOfMemory "CUDA out of memory")
  evicts _ := false
  sliceOutput _ position := .ok position

def crampedConfig : OomRecoveryConfig where
  enabled := true
  strategy := [.cacheClear, .evictLru, .splitBatch]
  maxSplitDepth := 4

def crampedGroup : ConfigGroup ℕ where
  entries := [⟨0, 0⟩, ⟨0, 1⟩, ⟨1, 0⟩]
  nodup := by decide

def freshState : State ℕ Unit ℕ where
  attempts := []
  evictions := 0
  partialResults _ := none
  futures _ := []
  stats := ⟨0, 0, 0, 0, 0, 0⟩

theorem run_complete_cramped :
    ((run crampedAdapter crampedConfig crampedGroup.entries freshState).futures 1 =
        [.resourceExhausted 3 "CUDA out of memory"] ∧
      (run crampedAdapter crampedConfig crampedGroup.entries freshState).partialResults ⟨0, 1⟩ =
        some 0) ∧
    Complete crampedAdapter crampedGroup.entries freshState
      (run crampedAdapter crampedConfig crampedGroup.entries freshState) :=
  ⟨by decide +kernel, (run_complete crampedAdapter crampedConfig crampedGroup freshState
      fun _ => Nat.zero_le 1).2⟩

end SieCluster.OomOutcomes
