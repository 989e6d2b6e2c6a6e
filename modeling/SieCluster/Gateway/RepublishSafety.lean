import SieCluster.Gateway.Republish
import SieCluster.Gateway.StreamPurity

/-!
# Safety of the pool republish

Whatever the order of NAKs, timeouts, chunks and publish failures, the guard and
the generation counter stay in step: the generation is one while the guard is
set and zero otherwise, and at most one publish is awaited.  Hence all pool
republishes of a request carry one message id and none follows an acknowledged
one.
-/

namespace SieCluster.RepublishSafety

open Streaming List Option
open StreamRuns (Accepted apply_cases attempt record_eq_or)
open StreamPurity (textChunk)
open Republish

/-! ## What the sections do to the guard -/

/-- The fields of a collector that belong to the republish machinery. -/
structure Guard where
  republished : Bool
  generation : ℕ
  snapshot : Option AttemptSnapshot

section

variable (collector : StreamCollector)

def guard : Guard where
  republished := collector.republished
  generation := collector.attemptGeneration
  snapshot := collector.snapshot

theorem guard_apply (now : ℕ) (chunk : ChunkEnvelope) :
    guard (collector.apply now chunk).1 = guard collector := by
  rcases apply_cases collector now chunk with
    ⟨_, hsame | ⟨_, _, hlatched⟩⟩ | ⟨_, _, _, happly⟩
  · rw [hsame]
  · rw [hlatched]
    rfl
  · rw [happly]
    rfl

theorem guard_record (attemptId : String) :
    guard (collector.recordAbandonedAttemptId attemptId) = guard collector := by
  rcases record_eq_or collector attemptId with heq | heq
  · rw [heq]
  · rw [heq]
    rfl

theorem currentAttemptId_record (attemptId : String) :
    (collector.recordAbandonedAttemptId attemptId).currentAttemptId =
      collector.currentAttemptId := by
  rcases record_eq_or collector attemptId with heq | heq <;> rw [heq]

end

/-- A republish that gets past its locked section found the guard clear, has
set it, bumped the generation and put the attempt aside. -/
theorem beginRepublish_eq_ok
    (hbegin : beginRepublish collector reason abandonedAttemptId tokenTaken = .ok bumped) :
    collector.republished = false ∧ bumped.currentAttemptId = none ∧ guard bumped = {
        republished := true
        generation := min (collector.attemptGeneration + 1) StreamCollector.maxGeneration
        snapshot := some (attempt collector) } := by
  unfold beginRepublish at hbegin
  split at hbegin
  · cases hbegin
  rename_i hclear
  split at hbegin
  · cases hbegin
  split at hbegin
  · cases hbegin
  split at hbegin
  · cases hbegin
  refine ⟨by simpa using hclear, ?_⟩
  cases abandonedAttemptId with
  | none =>
    cases hbegin
    exact ⟨rfl, rfl⟩
  | some =>
    cases hbegin
    refine ⟨?_, ?_⟩
    · rw [currentAttemptId_record]
      rfl
    · rw [guard_record]
      rfl

/-- A rollback of the attempt that was begun clears the guard and restores what
was put aside. -/
theorem rollback_eq (hguard : guard collector = {
      republished := true, generation := generation, snapshot := some snap }) :
    guard (rollbackRepublishAttempt collector generation) = {
        republished := false, generation := generation - 1, snapshot := none } ∧
      (rollbackRepublishAttempt collector generation).currentAttemptId = snap.currentAttemptId ∧
      (rollbackRepublishAttempt collector generation).abandonedAttemptId =
        none := by
  simp only [guard, Guard.mk.injEq] at hguard
  obtain ⟨hset, hgeneration, hsnapshot⟩ := hguard
  simp [rollbackRepublishAttempt, hset, hgeneration, guard,
    StreamCollector.rewindAttemptGeneration, hsnapshot]

/-! ## The invariant -/

/-- A NAK of a named attempt acts only while no other attempt is latched, and
not while its own attempt is the recorded abandoned one with the latch open. -/
def NakAction.Rightful (action : NakAction) : Prop :=
  action.attemptId ≠ "" → (∀ current, action.currentAttemptId = some current →
      current = action.attemptId) ∧
    ¬ (action.currentAttemptId = none ∧ action.abandonedAttemptId = some action.attemptId)

/-- What is known of the collector while a republish is awaited. -/
def Awaited (collector : StreamCollector) (flight : Flight) : Prop :=
  ∃ snap, guard collector = {
      republished := true, generation := 1, snapshot := some snap } ∧
    flight.generation = 1 ∧
    ∀ attemptId, flight.origin = .nak attemptId → attemptId ≠ "" →
      ∀ current, snap.currentAttemptId = some current → current = attemptId

structure Safe (requestId : String) (state : PendingStream) : Prop where
  request : state.requestId = requestId
  generation : ∀ collector, state.collector = some collector →
    collector.attemptGeneration = if collector.republished then 1 else 0
  single : state.flights.length ≤ 1
  awaited : ∀ collector, state.collector = some collector →
    ∀ flight ∈ state.flights, Awaited collector flight
  acked : state.acked = true → state.flights = [] ∧ ∀ collector, state.collector = some collector →
      collector.republished = true
  sent : ∀ id ∈ state.sent, id = messageId requestId 1
  rightful : ∀ action ∈ state.nakActions, NakAction.Rightful action

theorem Awaited.of_guard_eq (hawaited : Awaited collector flight)
    (hguard : guard other = guard collector) : Awaited other flight := by
  obtain ⟨snap, hcollector, hrest⟩ := hawaited
  exact ⟨snap, hguard.trans hcollector, hrest⟩

variable {state : PendingStream}

section

variable (hsafe : Safe requestId state)
include hsafe

/-- Replacing the entry by one with the same guard keeps the invariant. -/
theorem Safe.of_guard_eq (hentry : state.collector = some collector)
    (hguard : guard other = guard collector) (acceptedAttempts latest : List String) :
    Safe requestId { state with
      collector := some other, acceptedAttempts := acceptedAttempts, latest := latest } where
  __ := hsafe
  generation := by
    intro entry hother
    cases hother
    have hrepublished := congrArg Guard.republished hguard
    have hgeneration := congrArg Guard.generation hguard
    simp only [guard] at hrepublished hgeneration
    rw [hrepublished, hgeneration]
    exact hsafe.generation collector hentry
  awaited := by
    intro entry hother flight hflight
    cases hother
    exact (hsafe.awaited collector hentry flight hflight).of_guard_eq hguard
  acked := by
    intro hacked
    refine ⟨(hsafe.acked hacked).1, fun entry hother => ?_⟩
    cases hother
    have hrepublished := congrArg Guard.republished hguard
    simp only [guard] at hrepublished
    rw [hrepublished]
    exact (hsafe.acked hacked).2 collector hentry

/-- Removing the entry keeps the invariant. -/
theorem Safe.of_removed (failure : Option ChunkError) (acceptedAttempts latest : List String) :
    Safe requestId { state with
      collector := none
      failure := failure
      acceptedAttempts := acceptedAttempts
      latest := latest } where
  __ := hsafe
  generation := by simp
  awaited := by simp
  acked := fun hacked => ⟨(hsafe.acked hacked).1, by simp⟩

theorem Safe.failOnNak (attemptId code message : String)
    (hrightful : ∀ collector, state.collector = some collector →
      NakAction.Rightful (state.nakAction collector attemptId .fail)) :
    Safe requestId (state.failOnNak attemptId code message) := by
  unfold PendingStream.failOnNak
  cases hentry : state.collector with
  | none => exact hsafe
  | some collector =>
    have hwith : Safe requestId { state with nakActions :=
        state.nakActions ++ [state.nakAction collector attemptId .fail] } := by
      refine { hsafe with rightful := ?_ }
      refine forall_mem_append.2 ⟨hsafe.rightful, forall_mem_singleton.2 ?_⟩
      exact hrightful collector hentry
    exact hwith.of_removed _ _ _

end

/-- A NAK that is not stale acts rightfully on the collector it was checked
against. -/
theorem rightful_of_not_stale
    (hstale : nakIsStale collector.currentAttemptId collector.abandonedAttemptId attemptId = false)
    (effect : NakEffect) :
    NakAction.Rightful (state.nakAction collector attemptId effect) := by
  intro hnamed
  simp only [PendingStream.nakAction] at hnamed ⊢
  have hnonempty : attemptId.isEmpty = false := by
    simpa [String.isEmpty_iff] using hnamed
  simp only [nakIsStale, hnonempty, Bool.false_eq_true, if_false] at hstale
  cases hcurrent : collector.currentAttemptId with
  | none =>
    simp only [hcurrent] at hstale
    refine ⟨by simp, ?_⟩
    rintro ⟨-, habandoned⟩
    simp [habandoned] at hstale
  | some =>
    simp only [hcurrent] at hstale
    refine ⟨?_, by simp⟩
    intro other hother
    cases hother
    simpa using hstale

section

variable (hsafe : Safe requestId state)
include hsafe

/-- A clear guard means that no publish is awaited. -/
theorem Safe.idle_of_clear (collector : StreamCollector)
    (hentry : state.collector = some collector) (hclear : collector.republished = false) :
    state.flights = [] := by
  cases hflights : state.flights with
  | nil => rfl
  | cons flight =>
    obtain ⟨snap, hset, -⟩ := hsafe.awaited collector hentry flight (by simp [hflights])
    simp [guard, hclear] at hset

/-- Starting a republish from a safe state. -/
theorem Safe.startRepublish (origin : Origin)
    (reason : String) (abandonedAttemptId : Option String) (tokenTaken : Bool)
    (horigin : ∀ attemptId collector, origin = .nak attemptId → state.collector = some collector →
      NakAction.Rightful (state.nakAction collector attemptId .republish)) :
    Safe requestId (state.startRepublish origin reason abandonedAttemptId tokenTaken).1 := by
  unfold PendingStream.startRepublish
  cases hentry : state.collector with
  | none => exact hsafe
  | some collector =>
    cases hbegin : beginRepublish collector reason abandonedAttemptId tokenTaken with
    | error => simpa only [hbegin] using hsafe
    | ok bumped =>
      simp only [hbegin]
      obtain ⟨hclear, -, hguard⟩ := beginRepublish_eq_ok hbegin
      have hzero := hsafe.generation collector hentry
      simp only [hclear, Bool.false_eq_true, if_false] at hzero
      have hone : min (collector.attemptGeneration + 1) StreamCollector.maxGeneration = 1 := by
        rw [hzero]
        decide
      rw [hone] at hguard
      have hgeneration : bumped.attemptGeneration = 1 :=
        congrArg Guard.generation hguard
      have hidle := hsafe.idle_of_clear collector hentry hclear
      constructor
      · exact hsafe.request
      · intro entry hother
        cases hother
        have hset := congrArg Guard.republished hguard
        simp only [guard] at hset
        rw [hset, hgeneration]
        rfl
      · simp [hidle]
      · intro entry hother flight hflight
        cases hother
        simp only [hidle, nil_append, mem_singleton] at hflight
        subst hflight
        refine ⟨attempt collector, hguard, hgeneration, ?_⟩
        intro attemptId hnak hnamed current hcurrent
        exact ((horigin attemptId collector hnak hentry) hnamed).1 current hcurrent
      · intro hacked
        have hset := (hsafe.acked hacked).2 collector hentry
        simp [hclear] at hset
      · refine forall_mem_append.2 ⟨hsafe.sent, forall_mem_singleton.2 ?_⟩
        rw [hgeneration, hsafe.request]
      · cases origin with
        | firstChunkTimeout => exact hsafe.rightful
        | nak attemptId =>
          refine forall_mem_append.2 ⟨hsafe.rightful, forall_mem_singleton.2 ?_⟩
          exact horigin attemptId collector rfl hentry

theorem Safe.handleNak (nak : NakEnvelope) : Safe requestId (state.handleNak nak) := by
  unfold PendingStream.handleNak
  by_cases hstale : nakIsStale (state.collector.bind StreamCollector.currentAttemptId)
      (state.collector.bind StreamCollector.abandonedAttemptId)
      nak.attemptId = true
  · simp only [hstale, if_true]
    exact hsafe
  simp only [hstale, Bool.false_eq_true, if_false]
  have hrightful : ∀ collector, state.collector = some collector → ∀ effect, NakAction.Rightful
        (state.nakAction collector nak.attemptId effect) := by
    intro collector hentry effect
    apply rightful_of_not_stale
    simpa [hentry] using hstale
  have hstarted := hsafe.startRepublish (.nak nak.attemptId)
    (nakReason nak.reason) (some nak.attemptId) true (by
      intro attemptId collector hnak hentry
      cases hnak
      exact hrightful collector hentry .republish)
  split
  · exact hstarted
  · cases hentry : state.collector with
    | none => exact hsafe
    | some =>
      simp only []
      split
      · exact hsafe
      · exact hsafe.of_guard_eq hentry (guard_record _ _) _ _
      · exact hsafe.failOnNak _ _ _ fun other hother =>
          hrightful other hother .fail
  · exact hsafe.failOnNak _ _ _ fun other hother =>
      hrightful other hother .fail
  · exact hsafe
  · exact hsafe

theorem Safe.handleChunk (now : ℕ)
    (chunk : ChunkEnvelope) : Safe requestId (state.handleChunk now chunk) := by
  unfold PendingStream.handleChunk
  cases hentry : state.collector with
  | none => exact hsafe
  | some collector =>
    have hguard := guard_apply collector now chunk
    simp only []
    split
    · exact hsafe.of_removed _ _ _
    · exact hsafe.of_removed _ _ _
    · exact hsafe.of_guard_eq hentry hguard _ _

end

/-- The settled flight was the only one, so none is awaited any more. -/
theorem eraseIdx_eq_nil {flights : List Flight} {index : ℕ} (hsingle : flights.length ≤ 1)
    (hflight : flights[index]? = some flight) : flights.eraseIdx index = [] ∧ flight ∈ flights := by
  obtain ⟨hindex, -⟩ := List.getElem?_eq_some_iff.1 hflight
  refine ⟨?_, mem_of_getElem? hflight⟩
  rw [← length_eq_zero_iff, length_eraseIdx_of_lt hindex]
  omega

theorem Safe.settle (hsafe : Safe requestId state) {index : ℕ}
    (hflight : state.flights[index]? = some flight) (acknowledged : Bool) :
    Safe requestId ({ state with
      flights := state.flights.eraseIdx index }.settle flight acknowledged) := by
  obtain ⟨hidle, hmem⟩ := eraseIdx_eq_nil hsafe.single hflight
  rw [hidle]
  cases acknowledged with
  | true =>
    simp only [PendingStream.settle, if_true]
    constructor
    · exact hsafe.request
    · exact hsafe.generation
    · simp
    · simp
    · intro _
      refine ⟨rfl, fun collector hentry => ?_⟩
      obtain ⟨snap, hset, -⟩ := hsafe.awaited collector hentry flight hmem
      exact congrArg Guard.republished hset
    · exact hsafe.sent
    · exact hsafe.rightful
  | false =>
    have hnotAcked : state.acked = false := by
      by_contra hacked
      have hnone := (hsafe.acked (by simpa using hacked)).1
      simp [hnone] at hmem
    have hrolled : Safe requestId { state with
        flights := []
        collector := state.collector.map (rollbackRepublishAttempt · flight.generation) } := by
      constructor
      · exact hsafe.request
      · intro entry hother
        obtain ⟨collector, hentry, rfl⟩ := map_eq_some_iff.1 hother
        obtain ⟨snap, hset, hgeneration, -⟩ :=
          hsafe.awaited collector hentry flight hmem
        rw [hgeneration]
        obtain ⟨hafter, -, -⟩ := rollback_eq hset
        simp only [guard, Guard.mk.injEq] at hafter
        rw [hafter.1, hafter.2.1]
        rfl
      · simp
      · simp
      · simp [hnotAcked]
      · exact hsafe.sent
      · exact hsafe.rightful
    simp only [PendingStream.settle, Bool.false_eq_true, if_false]
    cases horigin : flight.origin with
    | firstChunkTimeout => exact hrolled
    | nak attemptId =>
      refine hrolled.failOnNak _ _ _ ?_
      intro entry hother hnamed
      obtain ⟨collector, hentry, rfl⟩ := map_eq_some_iff.1 hother
      obtain ⟨snap, hset, hgeneration, hown⟩ :=
        hsafe.awaited collector hentry flight hmem
      rw [hgeneration]
      obtain ⟨-, hcurrent, habandoned⟩ := rollback_eq hset
      refine ⟨?_, ?_⟩
      · intro current hlatched
        exact hown attemptId horigin hnamed current (hcurrent.symm.trans hlatched)
      · rintro ⟨-, hrecorded⟩
        simp only [PendingStream.nakAction, habandoned] at hrecorded
        cases hrecorded

/-- The step lemma. -/
theorem step_safe {next : PendingStream} {event : RepublishEvent}
    (hsafe : Safe requestId state) (hstep : step state event = some next) :
    Safe requestId next := by
  cases event with
  | chunk now chunk =>
    simp only [step, ite_none_left_eq_some] at hstep
    cases hstep.2
    exact hsafe.handleChunk now chunk
  | nak nak =>
    simp only [step, ite_none_left_eq_some] at hstep
    cases hstep.2
    exact hsafe.handleNak nak
  | firstChunkTimeout =>
    cases hstep
    exact hsafe.startRepublish _ _ _ _ (by
      intro _ _ hnak
      cases hnak)
  | publishSettled _ acknowledged =>
    simp only [step] at hstep
    split at hstep
    · cases hstep
    · rename_i flight hflight
      cases hstep
      exact hsafe.settle hflight acknowledged
  | dropPendingStream =>
    cases hstep
    exact hsafe.of_removed _ _ _

theorem start_safe (requestId : String) (publishedAt : ℕ) (encodedPayload : Option (List UInt8))
    (poolFallbackSubject : Option String) (tapped : Bool) :
    Safe requestId (start requestId publishedAt encodedPayload poolFallbackSubject tapped) := by
  constructor
  · rfl
  · intro collector hentry
    cases hentry
    cases tapped <;> rfl
  all_goals simp [start]

/-! ## After an acknowledged republish -/

/-- What a request's republishes have left behind. -/
def ledger (state : PendingStream) : List String × Bool :=
  (state.sent, state.acked)

theorem ledger_failOnNak (attemptId code message : String) :
    ledger (state.failOnNak attemptId code message) = ledger state := by
  unfold PendingStream.failOnNak
  cases hentry : state.collector with
  | none => rfl
  | some => simp [PendingStream.failPendingStream, ledger]

theorem ledger_handleChunk (now : ℕ) (chunk : ChunkEnvelope) :
    ledger (state.handleChunk now chunk) = ledger state := by
  unfold PendingStream.handleChunk
  cases hentry : state.collector with
  | none => rfl
  | some =>
    simp only []
    split <;> rfl

section

variable (hsafe : Safe requestId state)
include hsafe

/-- Once a republish is acknowledged the guard stays set, so no other starts. -/
theorem startRepublish_of_acked (hacked : state.acked = true) (origin : Origin) (reason : String)
    (abandonedAttemptId : Option String) (tokenTaken : Bool) :
    (state.startRepublish origin reason abandonedAttemptId tokenTaken).1 =
      state := by
  unfold PendingStream.startRepublish
  cases hentry : state.collector with
  | none => rfl
  | some collector =>
    have hset := (hsafe.acked hacked).2 collector hentry
    simp [beginRepublish, hset]

theorem ledger_handleNak (hacked : state.acked = true) (nak : NakEnvelope) :
    ledger (state.handleNak nak) = ledger state := by
  unfold PendingStream.handleNak
  simp only [startRepublish_of_acked hsafe hacked]
  split
  · rfl
  split
  · rfl
  · split
    · rfl
    · split
      · rfl
      · rfl
      · exact ledger_failOnNak _ _ _
  · exact ledger_failOnNak _ _ _
  · rfl
  · rfl

theorem step_ledger_of_acked {next : PendingStream} {event : RepublishEvent}
    (hacked : state.acked = true) (hstep : step state event = some next) :
    ledger next = ledger state := by
  cases event with
  | chunk now chunk =>
    simp only [step, ite_none_left_eq_some] at hstep
    cases hstep.2
    exact ledger_handleChunk now chunk
  | nak nak =>
    simp only [step, ite_none_left_eq_some] at hstep
    cases hstep.2
    exact ledger_handleNak hsafe hacked nak
  | firstChunkTimeout =>
    cases hstep
    rw [startRepublish_of_acked hsafe hacked]
  | publishSettled =>
    simp [step, (hsafe.acked hacked).1] at hstep
  | dropPendingStream =>
    cases hstep
    rfl

theorem run_safe (hrun : Runs.run step state events = some final) : Safe requestId final :=
  Runs.run_invariant (Safe requestId) (fun _ _ _ => step_safe) hsafe hrun

theorem run_ledger_of_acked (hacked : state.acked = true)
    (hrun : Runs.run step state events = some final) : ledger final = ledger state := by
  have hkept : Safe requestId final ∧ ledger final = ledger state := by
    refine Runs.run_invariant
      (fun reached => Safe requestId reached ∧ ledger reached = ledger state)
      ?_ ⟨hsafe, rfl⟩ hrun
    intro reached event next hreached hstep
    have hstill : reached.acked = true :=
      (congrArg Prod.snd hreached.2).trans hacked
    exact ⟨step_safe hreached.1 hstep,
      (step_ledger_of_acked hreached.1 hstill hstep).trans hreached.2⟩
  exact hkept.2

end

/-! ## Runs without a rollback -/

/-- The event rolls no republish back. -/
def Stands : RepublishEvent → Prop
  | .publishSettled _ acknowledged => acknowledged = true
  | _ => True

/-- The chunks accepted since the last republish are of the latched attempt, now and at the
moment of each action. -/
structure Kept (state : PendingStream) : Prop where
  latched : ∀ collector, state.collector = some collector →
    ∀ attemptId ∈ state.latest, collector.currentAttemptId = some attemptId
  actions : ∀ action ∈ state.nakActions, ∀ attemptId ∈ action.latest,
    action.currentAttemptId = some attemptId

/-- What one chunk adds to the accepted ones is of the attempt it leaves latched. -/
theorem latched_apply {collector : StreamCollector}
    (hlatched : ∀ attemptId ∈ latest, collector.currentAttemptId = some attemptId) (now : ℕ)
    (chunk : ChunkEnvelope) :
    ∀ attemptId ∈ latest ++
        (if Accepted (collector.apply now chunk).2 then [chunk.attemptId] else []),
      (collector.apply now chunk).1.currentAttemptId = some attemptId := by
  have hadmitted : StreamRuns.Admits collector chunk → ∀ attemptId ∈ latest,
      some chunk.attemptId = some attemptId := by
    intro hadmits attemptId hmem
    simp only [StreamRuns.Admits, hlatched attemptId hmem] at hadmits
    rw [hadmits]
  rcases apply_cases collector now chunk with
    ⟨hrefused, hsame | ⟨-, hadmits, hsame⟩⟩ | ⟨-, hadmits, -, happly⟩
  · rwa [if_neg hrefused, append_nil, hsame]
  · rw [if_neg hrefused, append_nil, hsame]
    exact hadmitted hadmits
  · rw [happly]
    refine forall_mem_append.2 ⟨hadmitted hadmits, fun attemptId hnow => ?_⟩
    rw [mem_singleton.1 (mem_ite_nil_right.1 hnow).2]
    rfl

section

variable (hkept : Kept state)
include hkept

theorem Kept.act (hentry : state.collector = some collector) (attemptId : String)
    (effect : NakEffect) :
    ∀ action ∈ state.nakActions ++ [state.nakAction collector attemptId effect],
      ∀ attemptId ∈ action.latest, action.currentAttemptId = some attemptId :=
  forall_mem_append.2 ⟨hkept.actions, forall_mem_singleton.2 (hkept.latched collector hentry)⟩

theorem Kept.failOnNak (attemptId code message : String) :
    Kept (state.failOnNak attemptId code message) := by
  unfold PendingStream.failOnNak
  cases hentry : state.collector with
  | none => exact hkept
  | some =>
    exact ⟨by simp [PendingStream.failPendingStream], hkept.act hentry attemptId .fail⟩

theorem Kept.startRepublish (origin : Origin) (reason : String)
    (abandonedAttemptId : Option String) (tokenTaken : Bool) :
    Kept (state.startRepublish origin reason abandonedAttemptId tokenTaken).1 := by
  unfold PendingStream.startRepublish
  cases hentry : state.collector with
  | none => exact hkept
  | some collector =>
    cases hbegin : beginRepublish collector reason abandonedAttemptId tokenTaken with
    | error => simpa only [hbegin] using hkept
    | ok =>
      simp only [hbegin]
      refine ⟨by simp, ?_⟩
      cases origin with
      | firstChunkTimeout => exact hkept.actions
      | nak attemptId => exact hkept.act hentry attemptId .republish

theorem Kept.handleNak (nak : NakEnvelope) : Kept (state.handleNak nak) := by
  unfold PendingStream.handleNak
  simp only []
  split
  · exact hkept
  split
  · exact hkept.startRepublish _ _ _ _
  · cases hentry : state.collector with
    | none => exact hkept
    | some collector =>
      simp only []
      split
      · exact hkept
      · refine ⟨fun entry hother => ?_, hkept.actions⟩
        cases hother
        rw [currentAttemptId_record]
        exact hkept.latched collector hentry
      · exact hkept.failOnNak _ _ _
  · exact hkept.failOnNak _ _ _
  · exact hkept
  · exact hkept

theorem Kept.handleChunk (now : ℕ) (chunk : ChunkEnvelope) :
    Kept (state.handleChunk now chunk) := by
  unfold PendingStream.handleChunk
  cases hentry : state.collector with
  | none => exact hkept
  | some collector =>
    simp only []
    split
    · exact ⟨by simp, hkept.actions⟩
    · exact ⟨by simp [PendingStream.failPendingStream], hkept.actions⟩
    · refine ⟨fun entry hother => ?_, hkept.actions⟩
      cases hother
      exact latched_apply (hkept.latched collector hentry) now chunk

theorem step_kept {next : PendingStream} {event : RepublishEvent}
    (hstands : Stands event) (hstep : step state event = some next) : Kept next := by
  cases event with
  | chunk now chunk =>
    simp only [step, ite_none_left_eq_some] at hstep
    cases hstep.2
    exact hkept.handleChunk now chunk
  | nak nak =>
    simp only [step, ite_none_left_eq_some] at hstep
    cases hstep.2
    exact hkept.handleNak nak
  | firstChunkTimeout =>
    cases hstep
    exact hkept.startRepublish _ _ _ _
  | publishSettled =>
    simp only [step, PendingStream.settle, show _ = true from hstands, if_true] at hstep
    split at hstep <;> cases hstep
    exact ⟨hkept.latched, hkept.actions⟩
  | dropPendingStream =>
    cases hstep
    exact ⟨by simp, hkept.actions⟩

end

/-! ## The main result -/

/-- In every run of a pending stream all pool republishes carry one message id,
so a broker that drops repeated ids stores at most one; an acknowledged one is
the last; and a NAK that names an attempt acts neither against another latched
attempt nor for an attempt already abandoned while its successor is awaited.
Where no republish is rolled back, a NAK acts against no attempt of which a chunk
was accepted since the last republish. -/
theorem republish_once (requestId : String) (publishedAt : ℕ)
    (encodedPayload : Option (List UInt8)) (poolFallbackSubject : Option String)
    (tapped : Bool) (events : List RepublishEvent) (final : PendingStream)
    (hrun : Runs.run step (start requestId publishedAt encodedPayload
      poolFallbackSubject tapped) events = some final) :
    (∀ id ∈ final.sent, id = messageId requestId 1) ∧ final.sent.dedup.length ≤ 1 ∧
      (∀ earlier later middle, events = earlier ++ later →
        Runs.run step (start requestId publishedAt encodedPayload
          poolFallbackSubject tapped) earlier = some middle →
        middle.acked = true → final.sent = middle.sent) ∧
      (∀ action ∈ final.nakActions, NakAction.Rightful action) ∧
      ((∀ event ∈ events, Stands event) → ∀ action ∈ final.nakActions, action.attemptId ≠ "" →
        ∀ attemptId ∈ action.latest, attemptId = action.attemptId) := by
  have hstart := start_safe requestId publishedAt encodedPayload poolFallbackSubject tapped
  have hfinal := run_safe hstart hrun
  refine ⟨hfinal.sent, ?_, ?_, hfinal.rightful, fun hstands action hmem hnamed attemptId hlatest =>
    (hfinal.rightful action hmem hnamed).1 attemptId ?_⟩
  · have hsubset : final.sent.dedup ⊆ [messageId requestId 1] := by
      intro id hid
      simpa using hfinal.sent id (mem_dedup.1 hid)
    exact (nodup_dedup final.sent).subperm hsubset |>.length_le
  · intro earlier later middle hsplit hmiddle hacked
    subst hsplit
    rw [Runs.run_append, hmiddle] at hrun
    exact congrArg Prod.fst (run_ledger_of_acked (run_safe hstart hmiddle) hacked hrun)
  · have hkept : Kept final :=
      Runs.guarded_invariant Kept (fun _ _ _ hkept hevent hstep => step_kept hkept hevent hstep)
        ⟨by simp [start], by simp [start]⟩ (Runs.guarded_of_forall step hstands _) hrun
    exact hkept.actions action hmem attemptId hlatest

/-- The first attempt answers, gives up and is replaced; a late copy of its NAK
arrives when the successor has answered. -/
def replacedAttempt : List RepublishEvent :=
  [.chunk 1 (textChunk "att-A" 0 "Hel"),
    .nak { requestId := "req-1", attemptId := "att-A", reason := "kv_budget" },
    .publishSettled 0 true, .chunk 2 (textChunk "att-B" 0 "Hello"),
    .nak { requestId := "req-1", attemptId := "att-A", reason := "kv_budget" }]

theorem republish_once_replacedAttempt :
    ∃ final, Runs.run step (start "req-1" 0 (some []) (some "pool") false)
        replacedAttempt = some final ∧
      final.sent.dedup.length ≤ 1 ∧
      (∀ action ∈ final.nakActions, NakAction.Rightful action) ∧
      ∀ action ∈ final.nakActions, action.attemptId ≠ "" →
        ∀ attemptId ∈ action.latest, attemptId = action.attemptId := by
  obtain ⟨-, hsent, -, hrightful, hlatest⟩ :=
    republish_once "req-1" 0 (some []) (some "pool") false replacedAttempt _ rfl
  refine ⟨_, rfl, hsent, hrightful, hlatest ?_⟩
  simp [replacedAttempt, Stands]

/-- Reading the last guarantee as a ban on every NAK action after any chunk of
another attempt, also of an earlier one. -/
def NakSparesRequest : Prop :=
  ∀ (requestId : String) (publishedAt : ℕ)
    (encodedPayload : Option (List UInt8)) (poolFallbackSubject : Option String)
    (tapped : Bool) (events : List RepublishEvent) (final : PendingStream),
    Runs.run step (start requestId publishedAt encodedPayload
      poolFallbackSubject tapped) events = some final →
    ∀ action ∈ final.nakActions, action.attemptId ≠ "" →
      ∀ attemptId ∈ action.acceptedAttempts, attemptId = action.attemptId

/-- The successor answers before the acknowledgement of its republish is given up; the NAK of
the attempt it replaced then republishes once more, and fails the request with that. -/
def forgottenSuccessor : List RepublishEvent :=
  [.firstChunkTimeout true, .chunk 1 (textChunk "att-B" 0 "Hello"), .publishSettled 0 false,
    .nak { requestId := "req-1", attemptId := "att-A" }, .publishSettled 0 false]

/-- When the successor itself gives up the request has to fail, although the
attempt it replaced had delivered a chunk.  The second run is no such case: the
rollback has forgotten the successor's chunk. -/
theorem not_nakSparesRequest : ¬ NakSparesRequest ∧
    ∃ final, Runs.run step (start "req-1" 0 (some []) (some "pool") false)
        forgottenSuccessor = some final ∧ final.failure.isSome = true ∧
      final.nakActions.map NakAction.attemptId = ["att-A", "att-A"] ∧
      final.nakActions.map NakAction.effect = [.republish, .fail] ∧
      ∀ action ∈ final.nakActions, action.acceptedAttempts = ["att-B"] := by
  refine ⟨fun hspares => ?_, _, rfl, by decide, by decide, by decide, by decide⟩
  have hsame := hspares "req-1" 0 (some []) (some "pool") false
    [.chunk 1 (textChunk "att-A" 0 "Hel"), .nak { requestId := "req-1", attemptId := "att-A" },
      .publishSettled 0 true, .chunk 2 (textChunk "att-B" 0 "Hello"),
      .nak { requestId := "req-1", attemptId := "att-B" }] _ rfl
    { attemptId := "att-B", effect := .fail
      currentAttemptId := some "att-B", abandonedAttemptId := none
      acceptedAttempts := ["att-A", "att-B"], latest := ["att-B"] } (by decide) (by decide)
    "att-A" (by decide)
  revert hsame
  decide

end SieCluster.RepublishSafety
