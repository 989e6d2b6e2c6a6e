import SieCluster.Sidecar.IpcMux
import SieCluster.Sidecar.ResponseSoundness

/-!
# What every interleaving keeps

The sender of a call's answer is in one place at a time, an entry of the table
belongs to a call that is still there and whose sender was not used, and the
budget is what the pending responses and the answers on their way reserve.
-/

namespace SieCluster.MuxSafety

open Option hiding any any_eq_true or or_assoc
open List AList Totals
open Msgpack ResponseChunks IpcMux
open ResponseReader (reservationIn)
open ResponseSoundness (Collected Delivers namesCall pushRouted_sound)

/-! ## The parts of the invariant -/

/-- A call that has returned. -/
def isOver (call : Call) : Prop :=
  (∃ answer, call.stage = .returned answer) ∨ ∃ error, call.stage = .finished error

def stageReservation : Stage → ℕ
  | .returned answer => answerReservation answer
  | _ => 0

def callReservation (call : Call) : ℕ :=
  call.answer.elim 0 answerReservation + stageReservation call.stage

def deliveryReservation : Delivery → ℕ
  | .answer result => answerReservation result
  | _ => 0

def readerReservation : Reader → ℕ
  | .pushed _ _ delivery => deliveryReservation delivery
  | .settled _ delivery => deliveryReservation delivery
  | _ => 0

def objectReservation (object : PendingResponse) : ℕ :=
  reservationIn object.transfer

/-- Everything that is reserved, by whom it is held. -/
def reserved (mux : Mux) : ℕ :=
  Totals.total objectReservation mux.objects + Totals.total callReservation mux.calls +
    readerReservation mux.reader

def idOf (mux : Mux) (call : ℕ) : Option String :=
  (mux.calls.lookup call).map Call.requestId

section Provenance

variable (setting : Setting)

section

variable (requestId : String)

/-- The bytes came in frames that name the request id, and are one whole response. -/
def Carries (response : AssembledResponse) : Prop :=
  ∃ frames, (∀ frame ∈ frames, namesCall setting requestId frame = true) ∧
    Delivers setting requestId frames response.bytes

/-- An answer is an error or a response for the request id. -/
def Answers (answer : Answer) : Prop :=
  ∀ response, answer = .ok response → Carries setting requestId response

theorem answers_error (error : MuxError) : Answers setting requestId (.error error) := by
  intro response hresponse
  cases hresponse

/-- A pending response that can still be answered has collected frames of its id only. -/
def Gathers (object : PendingResponse) : Prop :=
  object.respond = true → ∃ frames, (∀ frame ∈ frames, namesCall setting requestId frame = true) ∧
      Collected setting requestId frames object.transfer

def DeliveryFits : Delivery → Prop
  | .answer result => Answers setting requestId result
  | _ => True

end

/-- What the reader is about to do concerns the call its frame names. -/
def ReaderFits (mux : Mux) : Reader → Prop
  | .routed route frame => responseFrameRoute setting frame = .ok route
  | .holding call route frame =>
    responseFrameRoute setting frame = .ok route ∧ idOf mux call = some route.requestId
  | .pushed call requestId delivery =>
    idOf mux call = some requestId ∧ DeliveryFits setting requestId delivery
  | .settled call delivery =>
    ∃ requestId, idOf mux call = some requestId ∧ DeliveryFits setting requestId delivery
  | _ => True

structure CallFits (call : Call) : Prop where
  answer : ∀ answer, call.answer = some answer → Answers setting call.requestId answer
  stage : ∀ answer, call.stage = .returned answer → Answers setting call.requestId answer

/-- The pending response of the call is on its way out: its entry was taken from the table. -/
def takenOut (mux : Mux) (call : ℕ) : Prop :=
  mux.writer.holds call = true ∨ mux.actor.holds call = true ∨
    ∃ delivery, mux.reader = .settled call delivery ∧ delivery ≠ .pending

/-- The invariant, but for one pending response that nothing may point to and for a
reservation that is being moved. -/
structure Safe (loose : Option ℕ) (hand : ℕ) (mux : Mux) : Prop where
  once : ∀ call, mux.senders call + mux.answers.count call ≤ 1
  bounded : ∀ call, mux.nextCall ≤ call → mux.calls.lookup call = none
  known : ∀ call, mux.calls.lookup call = none → mux.senders call + mux.answers.count call = 0
  settled : ∀ call found, mux.calls.lookup call = some found → isOver found → mux.senders call = 0
  pristine : ∀ call, 0 < mux.earlySenders call → mux.objects.lookup call = none
  answered : ∀ call found, mux.calls.lookup call = some found → found.answer.isSome →
    found.stage = .waiting ∧ 0 < mux.answers.count call
  mapped : ∀ requestId call, mux.inflight.lookup requestId = some call → 0 < mux.lateSenders call ∧
      ∃ found, mux.calls.lookup call = some found ∧ found.requestId = requestId ∧
        found.stage ≠ .cancelled
  taken : ∀ call, takenOut mux call → ∀ requestId, mux.inflight.lookup requestId ≠ some call
  ids : ∀ first second firstCall secondCall, first ≠ second →
    mux.calls.lookup first = some firstCall → mux.calls.lookup second = some secondCall →
    firstCall.requestId = secondCall.requestId →
    firstCall.mayRetry = true ∨ secondCall.mayRetry = true
  owned : ∀ call object, mux.objects.lookup call = some object →
    mux.references call = true ∨ loose = some call
  alive : ∀ call, mux.references call = true → ∃ object, mux.objects.lookup call = some object
  made : ∀ call object, mux.objects.lookup call = some object →
    ∃ found, mux.calls.lookup call = some found
  budget : mux.used = reserved mux + hand
  gathers : ∀ call object requestId, mux.objects.lookup call = some object →
    idOf mux call = some requestId → Gathers setting requestId object
  reads : ReaderFits setting mux mux.reader
  fits : ∀ call found, mux.calls.lookup call = some found → CallFits setting found
  resolvedOnce : (mux.resolved.map Prod.fst).Nodup
  resolvedOver : ∀ call answer, (call, answer) ∈ mux.resolved →
    ∃ found, mux.calls.lookup call = some found ∧ isOver found ∧
      Answers setting found.requestId answer
  parked : mux.actor ≠ .connected → mux.reader = .exited ∧ ∃ closed, mux.writer = .stopped closed

end Provenance

variable {setting : Setting} {mux : Mux} {hand : ℕ}

/-! ## References and senders -/

theorem registers_iff (mux : Mux) (call : ℕ) :
    mux.registers call = true ↔ ∃ requestId, mux.inflight.lookup requestId = some call := by
  unfold Mux.registers
  rw [any_eq_true]
  constructor
  · rintro ⟨entry, hentry, hcall⟩
    exact ⟨entry.1, by
      rw [← of_decide_eq_true hcall]
      exact mem_lookup_iff.2 hentry⟩
  · rintro ⟨requestId, hlookup⟩
    exact ⟨⟨requestId, call⟩, mem_lookup_iff.1 hlookup, decide_eq_true rfl⟩

theorem references_iff (mux : Mux) (call : ℕ) : mux.references call = true ↔
      (∃ requestId, mux.inflight.lookup requestId = some call) ∨ mux.reader.holds call = true ∨
        mux.writer.holds call = true ∨ mux.actor.holds call = true := by
  unfold Mux.references
  rw [Bool.or_eq_true, Bool.or_eq_true, Bool.or_eq_true, registers_iff, or_assoc, or_assoc]

variable {call : ℕ}

theorem idOf_eq_some : idOf mux call = some requestId ↔
      ∃ found, mux.calls.lookup call = some found ∧ found.requestId = requestId :=
  map_eq_some_iff

/-- A registered call is one that waits or is being dropped. -/
theorem Safe.of_mapped (hsafe : Safe setting loose hand mux)
    (hentry : mux.inflight.lookup requestId = some call) :
    0 < mux.lateSenders call ∧ mux.earlySenders call = 0 ∧ mux.answers.count call = 0 ∧
      idOf mux call = some requestId := by
  obtain ⟨hlate, found, hfound, hid, -⟩ := hsafe.mapped requestId call hentry
  have honce := hsafe.once call
  unfold Mux.senders at honce
  exact ⟨hlate, by omega, by omega, idOf_eq_some.2 ⟨found, hfound, hid⟩⟩

/-- What holds of the senders still holds when there are fewer. -/
theorem Safe.senders_le (hsafe : Safe setting loose hand mux) {next : Mux}
    (hless : ∀ call, next.senders call ≤ mux.senders call) :
    (∀ call, next.senders call + mux.answers.count call ≤ 1) ∧
      (∀ call, mux.calls.lookup call = none → next.senders call + mux.answers.count call = 0) ∧
      ∀ call found, mux.calls.lookup call = some found → isOver found → next.senders call = 0 := by
  refine ⟨fun call => ?_, fun call hnone => ?_, fun call found hfound hover => ?_⟩
  · exact (Nat.add_le_add_right (hless call) _).trans (hsafe.once call)
  · exact Nat.le_zero.1 ((Nat.add_le_add_right (hless call) _).trans (hsafe.known call hnone).le)
  · exact Nat.le_zero.1 ((hless call).trans (hsafe.settled call found hfound hover).le)

/-! ## Steps that change what the parties hold -/

/-- The state with other contents of what the parties hold among themselves. -/
def rearranged (mux : Mux) (clientDropped : Bool) (queue : List ℕ)
    (inflight : Totals.Table String ℕ) (writer : Writer) (reader : Reader) (actor : Actor) : Mux :=
  { mux with
    clientDropped := clientDropped
    queue := queue
    inflight := inflight
    writer := writer
    reader := reader
    actor := actor }

variable {hand' : ℕ}

/-- A step that leaves the calls, the pending responses and the budget as they are. -/
theorem Safe.move (hsafe : Safe setting loose hand mux) {loose' : Option ℕ}
    {clientDropped : Bool} {queue : List ℕ} {inflight : Totals.Table String ℕ} {writer : Writer}
    {actor : Actor} (hinflight : ∀ requestId call, inflight.lookup requestId = some call →
      mux.inflight.lookup requestId = some call)
    (hearly : ∀ call, queue.count call + writer.sender call ≤
      mux.queue.count call + mux.writer.sender call)
    (hlate : ∀ call, reader.sender call ≤ mux.reader.sender call)
    (hkept : ∀ requestId call, inflight.lookup requestId = some call →
      mux.reader.sender call ≤ reader.sender call)
    (hreserved : readerReservation reader + hand' = readerReservation mux.reader + hand)
    (hreferences : ∀ call, mux.references call = true ∨ loose = some call →
      (rearranged mux clientDropped queue inflight writer reader actor).references call = true ∨
        loose' = some call) (halive : ∀ call,
      (rearranged mux clientDropped queue inflight writer reader actor).references call = true →
        mux.references call = true) (htaken : ∀ call,
      takenOut (rearranged mux clientDropped queue inflight writer reader actor) call →
        ∀ requestId, inflight.lookup requestId ≠ some call) (hreads : ReaderFits setting mux reader)
    (hparked : actor ≠ .connected → reader = .exited ∧ ∃ closed, writer = .stopped closed) :
    Safe setting loose' hand'
      (rearranged mux clientDropped queue inflight writer reader actor) := by
  let next := rearranged mux clientDropped queue inflight writer reader actor
  have hearlySenders (call : ℕ) : next.earlySenders call ≤ mux.earlySenders call := by
    have hless := hearly call
    simp only [next, Mux.earlySenders, rearranged]
    omega
  have hsenders (call : ℕ) : next.senders call ≤ mux.senders call :=
    Nat.add_le_add (hearlySenders call) (Nat.add_le_add_left (hlate call) _)
  obtain ⟨honce, hknown, hsettled⟩ := hsafe.senders_le hsenders
  exact { hsafe with
    once := honce
    known := hknown
    settled := hsettled
    pristine := fun call hpositive => hsafe.pristine call (hpositive.trans_le (hearlySenders call))
    mapped := by
      intro requestId call hentry
      obtain ⟨hpositive, hfound⟩ := hsafe.mapped requestId call (hinflight requestId call hentry)
      have hmore : mux.lateSenders call ≤ next.lateSenders call :=
        Nat.add_le_add_left (hkept requestId call hentry) _
      exact ⟨hpositive.trans_le hmore, hfound⟩
    taken := htaken
    owned := fun call object hobject => hreferences call (hsafe.owned call object hobject)
    alive := fun call hreferenced => hsafe.alive call (halive call hreferenced)
    budget := by
      have hbudget := hsafe.budget
      simp only [reserved, rearranged] at hbudget ⊢
      omega
    reads := by
      cases reader <;> exact hreads
    parked := hparked }

/-- A call is registered under its own id only. -/
theorem Safe.mapped_unique (hsafe : Safe setting loose hand mux)
    (hfirst : mux.inflight.lookup first = some call)
    (hsecond : mux.inflight.lookup second = some call) : first = second :=
  some.inj ((hsafe.of_mapped hfirst).2.2.2.symm.trans (hsafe.of_mapped hsecond).2.2.2)

/-- An entry leaves the table; a party holds it now, or it is loose. -/
theorem Safe.unregister (hsafe : Safe setting none hand mux)
    (hentry : mux.inflight.lookup requestId = some call)
    (hearly : ∀ other, writer.sender other ≤ mux.writer.sender other)
    (hlate : ∀ other, reader.sender other = mux.reader.sender other)
    (hreserved : readerReservation reader = readerReservation mux.reader)
    (hwriter : ∀ other, mux.writer.holds other = true → writer.holds other = true)
    (hreader : ∀ other, mux.reader.holds other = true → reader.holds other = true)
    (hheld : reader.holds call = true ∨ writer.holds call = true ∨ loose' = some call)
    (hnew : ∀ other, reader.holds other = true ∨ writer.holds other = true →
      other = call ∨ mux.references other = true)
    (htaken : ∀ other, takenOut { mux with writer := writer, reader := reader } other →
      other = call ∨ takenOut mux other) (hreads : ReaderFits setting mux reader)
    (hparked : mux.actor ≠ .connected → reader = .exited ∧ ∃ closed, writer = .stopped closed) :
    Safe setting loose' hand { mux with
      inflight := mux.inflight.erase requestId
      writer := writer
      reader := reader } := by
  refine hsafe.move (fun other found hother => (lookup_erase_iff.1 hother).2)
    (fun other => Nat.add_le_add_left (hearly other) _) (fun other => (hlate other).le)
    (fun _ other _ => (hlate other).ge) (by rw [hreserved]) ?_ ?_ ?_ hreads hparked
  · intro other hreferences
    rw [references_iff] at hreferences ⊢
    rcases hreferences with (⟨key, hkey⟩ | hread | hwrite | hact) | hloose
    · by_cases hsame : key = requestId
      · have hcall : other = call := some.inj (hkey.symm.trans (hsame ▸ hentry))
        subst hcall
        rcases hheld with hread | hwrite | hloose
        · exact .inl (.inr (.inl hread))
        · exact .inl (.inr (.inr (.inl hwrite)))
        · exact .inr hloose
      · exact .inl (.inl ⟨key, (lookup_erase_ne hsame).trans hkey⟩)
    · exact .inl (.inr (.inl (hreader other hread)))
    · exact .inl (.inr (.inr (.inl (hwriter other hwrite))))
    · exact .inl (.inr (.inr (.inr hact)))
    · cases hloose
  · intro other hreferences
    have hcall : other = call → mux.references other = true := by
      rintro rfl
      exact (references_iff _ _).2 (.inl ⟨requestId, hentry⟩)
    rcases (references_iff _ _).1 hreferences with ⟨key, hkey⟩ | hread | hwrite | hact
    · exact (references_iff _ _).2 (.inl ⟨key, (lookup_erase_iff.1 hkey).2⟩)
    · exact (hnew other (.inl hread)).elim hcall id
    · exact (hnew other (.inr hwrite)).elim hcall id
    · exact (references_iff _ _).2 (.inr (.inr (.inr hact)))
  · intro other hout key hkey
    obtain ⟨hne, hbefore⟩ := lookup_erase_iff.1 hkey
    rcases htaken other hout with rfl | hout
    · exact hne (hsafe.mapped_unique hbefore hentry)
    · exact hsafe.taken other hout key hbefore

/-! ## Steps that change one call -/

/-- The state with one call replaced, and what goes with it. -/
def recorded (mux : Mux) (call : ℕ) (after : Call) (queue : List ℕ) (used : ℕ)
    (answers : List ℕ) (resolved : List (ℕ × Answer)) : Mux :=
  { mux with
    calls := mux.calls.insert call after
    queue := queue
    used := used
    answers := answers
    resolved := resolved }

section Recording

variable {after : Call} {queue : List ℕ} {used : ℕ} {answers : List ℕ}

theorem lookup_recorded_of_ne (hother : other ≠ call) :
    (recorded mux call after queue used answers resolved).calls.lookup other =
      mux.calls.lookup other :=
  lookup_insert_ne hother

theorem lookup_recorded :
    (recorded mux call after queue used answers resolved).calls.lookup call = some after :=
  lookup_insert _

theorem idOf_recorded (hfound : mux.calls.lookup call = some found)
    (hid : after.requestId = found.requestId) (other : ℕ) :
    idOf (recorded mux call after queue used answers resolved) other = idOf mux other := by
  unfold idOf
  by_cases hother : other = call
  · rw [hother, lookup_recorded, hfound, map_some, map_some, hid]
  · rw [lookup_recorded_of_ne hother]

theorem earlySenders_recorded_of_ne (hother : other ≠ call)
    (hqueue : queue.count other = mux.queue.count other) :
    (recorded mux call after queue used answers resolved).earlySenders other =
      mux.earlySenders other := by
  unfold Mux.earlySenders
  rw [lookup_recorded_of_ne hother]
  exact congrArg (fun count => _ + count + _) hqueue

theorem ReaderFits.of_ids {next : Mux}
    (hids : ∀ call requestId, idOf mux call = some requestId → idOf next call = some requestId)
    (hreads : ReaderFits setting mux reader) :
    ReaderFits setting next reader := by
  cases reader with
  | routed => exact hreads
  | holding call => exact ⟨hreads.1, hids call _ hreads.2⟩
  | pushed call => exact ⟨hids call _ hreads.1, hreads.2⟩
  | settled call =>
    obtain ⟨requestId, hid, hfits⟩ := hreads
    exact ⟨requestId, hids call _ hid, hfits⟩
  | _ => trivial

variable (setting mux hand call after queue used answers resolved) in
/-- What one call may do while everything else stays. -/
structure Change (hand' : ℕ) (found : Call) : Prop where
  lookup : mux.calls.lookup call = some found
  sameId : after.requestId = found.requestId
  otherQueue : ∀ other, other ≠ call → queue.count other = mux.queue.count other
  otherAnswers : ∀ other, other ≠ call → answers.count other = mux.answers.count other
  early : after.stage.sender + queue.count call ≤ found.stage.sender + mux.queue.count call
  once : (recorded mux call after queue used answers resolved).senders call + answers.count call ≤ 1
  settled : isOver after → (recorded mux call after queue used answers resolved).senders call = 0
  stays : isOver found → isOver after
  unmapped : after.stage = .cancelled → ∀ requestId, mux.inflight.lookup requestId ≠ some call
  retry : found.mayRetry = true → after.mayRetry = true
  answered : after.answer.isSome → after.stage = .waiting ∧ 0 < answers.count call
  budget : used + callReservation found + hand = mux.used + callReservation after + hand'
  fits : CallFits setting after
  logged : resolved = mux.resolved ∨ ∃ answer,
    resolved = mux.resolved ++ [(call, answer)] ∧ ¬ isOver found ∧ isOver after ∧
      Answers setting after.requestId answer

section

variable (hchange : Change setting mux hand call after queue used answers resolved hand' found)
  (hsafe : Safe setting loose hand mux)
include hchange hsafe

theorem Change.budget_eq :
    used = reserved (recorded mux call after queue used answers resolved) + hand' := by
  have hreplace := total_insert_replace callReservation hchange.lookup after
  have hbefore := hsafe.budget
  have hbudget := hchange.budget
  simp only [reserved, recorded] at hbefore ⊢
  omega

theorem Change.resolved_sound :
    (resolved.map Prod.fst).Nodup ∧ ∀ other answer, (other, answer) ∈ resolved →
      ∃ now, (mux.calls.insert call after).lookup other = some now ∧ isOver now ∧
        Answers setting now.requestId answer := by
  have hold : ∀ other answer, (other, answer) ∈ mux.resolved →
      ∃ now, (mux.calls.insert call after).lookup other = some now ∧ isOver now ∧
        Answers setting now.requestId answer := by
    intro other answer hmem
    obtain ⟨now, hnow, hover, hanswers⟩ := hsafe.resolvedOver other answer hmem
    by_cases hother : other = call
    · subst hother
      obtain rfl : now = found := some.inj (hnow.symm.trans hchange.lookup)
      exact ⟨after, lookup_insert _, hchange.stays hover, hchange.sameId ▸ hanswers⟩
    · exact ⟨now, (lookup_insert_ne hother).trans hnow, hover, hanswers⟩
  rcases hchange.logged with hsame | ⟨answer, hnew, hbefore, hover, hanswers⟩
  · rw [hsame]
    exact ⟨hsafe.resolvedOnce, hold⟩
  · rw [hnew]
    constructor
    · rw [map_append, nodup_append]
      refine ⟨hsafe.resolvedOnce, nodup_singleton _, ?_⟩
      -- Had the call been resolved before, it would be over by now.
      intro first hfirst second hsecond hsame
      obtain ⟨entry, hentry, rfl⟩ := mem_map.1 hfirst
      obtain ⟨now, hnow, hnowOver, -⟩ := hsafe.resolvedOver entry.1 entry.2 hentry
      rw [hsame, mem_singleton.1 hsecond] at hnow
      exact hbefore (some.inj (hnow.symm.trans hchange.lookup) ▸ hnowOver)
    · intro other found hmem
      rcases mem_append.1 hmem with hmem | hmem
      · exact hold other found hmem
      · cases mem_singleton.1 hmem
        exact ⟨after, lookup_insert _, hover, hanswers⟩

end

theorem Safe.record (hsafe : Safe setting loose hand mux)
    (hchange : Change setting mux hand call after queue used answers resolved hand' found) :
    Safe setting loose hand' (recorded mux call after queue used answers resolved) := by
  let next := recorded mux call after queue used answers resolved
  have hids (other : ℕ) : idOf next other = idOf mux other :=
    idOf_recorded hchange.lookup hchange.sameId other
  have hsenders {other : ℕ} (hother : other ≠ call) :
      next.senders other = mux.senders other :=
    congrArg (fun early => early + mux.lateSenders other)
      (earlySenders_recorded_of_ne hother (hchange.otherQueue other hother))
  have hback {other : ℕ} {now : Call} (hnow : next.calls.lookup other = some now) :
      ∃ before, mux.calls.lookup other = some before ∧ before.requestId = now.requestId ∧
        (before.mayRetry = true → now.mayRetry = true) := by
    rcases lookup_insert_iff.1 hnow with ⟨rfl, rfl⟩ | ⟨-, hbefore⟩
    · exact ⟨found, hchange.lookup, hchange.sameId.symm, hchange.retry⟩
    · exact ⟨now, hbefore, rfl, fun hretry => hretry⟩
  obtain ⟨hnodup, hresolved⟩ := hchange.resolved_sound hsafe
  exact { hsafe with
    once := by
      intro other
      by_cases hother : other = call
      · exact hother ▸ hchange.once
      · rw [hsenders hother]
        exact (hchange.otherAnswers other hother).symm ▸ hsafe.once other
    bounded := by
      intro other hbound
      have hnone := hsafe.bounded other hbound
      have hother : other ≠ call := by
        rintro rfl
        exact absurd (hnone.symm.trans hchange.lookup) (by simp)
      exact (lookup_recorded_of_ne hother).trans hnone
    known := by
      intro other hnone
      have hother : other ≠ call := by
        rintro rfl
        exact absurd (hnone.symm.trans lookup_recorded) (by simp)
      rw [lookup_recorded_of_ne hother] at hnone
      rw [hsenders hother]
      exact (hchange.otherAnswers other hother).symm ▸ hsafe.known other hnone
    settled := by
      intro other now hnow hover
      rcases lookup_insert_iff.1 hnow with ⟨rfl, rfl⟩ | ⟨hother, hbefore⟩
      · exact hchange.settled hover
      · exact (hsenders hother).trans (hsafe.settled other now hbefore hover)
    pristine := by
      intro other hpositive
      by_cases hother : other = call
      · subst hother
        refine hsafe.pristine other (hpositive.trans_le ?_)
        have hearly := hchange.early
        simp only [Mux.earlySenders, lookup_recorded, hchange.lookup, elim_some]
        exact Nat.add_le_add_right hearly _
      · rw [earlySenders_recorded_of_ne hother (hchange.otherQueue other hother)] at hpositive
        exact hsafe.pristine other hpositive
    answered := by
      intro other now hnow hanswer
      rcases lookup_insert_iff.1 hnow with ⟨rfl, rfl⟩ | ⟨hother, hnow⟩
      · exact hchange.answered hanswer
      · have hbefore := hsafe.answered other now hnow hanswer
        exact ⟨hbefore.1, (hchange.otherAnswers other hother).symm ▸ hbefore.2⟩
    mapped := by
      intro requestId other hentry
      obtain ⟨hlate, now, hnow, hid, hstage⟩ := hsafe.mapped requestId other hentry
      refine ⟨hlate, ?_⟩
      by_cases hother : other = call
      · subst hother
        obtain rfl : now = found := some.inj (hnow.symm.trans hchange.lookup)
        exact ⟨after, lookup_recorded, hchange.sameId.trans hid, fun hcancelled =>
          hchange.unmapped hcancelled requestId hentry⟩
      · exact ⟨now, (lookup_recorded_of_ne hother).trans hnow, hid, hstage⟩
    ids := by
      intro first second firstCall secondCall hne hfirst hsecond hsame
      obtain ⟨firstFound, hfirstFound, hfirstId, hfirstRetry⟩ := hback hfirst
      obtain ⟨secondFound, hsecondFound, hsecondId, hsecondRetry⟩ := hback hsecond
      have hidsFound := hfirstId.trans (hsame.trans hsecondId.symm)
      exact (hsafe.ids first second firstFound secondFound hne hfirstFound hsecondFound
        hidsFound).imp hfirstRetry hsecondRetry
    made := fun other object hobject =>
      exists_lookup_insert fun _ => hsafe.made other object hobject
    budget := hchange.budget_eq hsafe
    gathers := fun other object requestId hobject hid =>
      hsafe.gathers other object requestId hobject ((hids other).symm.trans hid)
    reads := hsafe.reads.of_ids fun other _ hid => (hids other).trans hid
    fits := forall_insert hsafe.fits hchange.fits
    resolvedOnce := hnodup
    resolvedOver := hresolved
    parked := hsafe.parked }

end Recording

/-! ## Pending responses -/

/-- A pending response that nothing points to is freed with what it reserved. -/
theorem Safe.discard (hsafe : Safe setting (some call) hand mux) :
    Safe setting none hand (mux.discard call) := by
  unfold Mux.discard
  cases hobject : mux.objects.lookup call with
  | none =>
    exact { hsafe with
      owned := by
        intro other object hother
        refine (hsafe.owned other object hother).imp id fun hloose => ?_
        rw [← some.inj hloose, hobject] at hother
        cases hother }
  | some object =>
    simp only
    split_ifs with hreferences
    · exact { hsafe with
        owned := by
          intro other found hother
          rcases hsafe.owned other found hother with hreferenced | hloose
          · exact .inl hreferenced
          · exact .inl (some.inj hloose ▸ hreferences) }
    · have hunheld := hreferences
      rw [references_iff] at hunheld
      have hlate {other : ℕ} (hother : other ≠ call) :
          (mux.objects.erase call).lookup other = mux.objects.lookup other :=
        lookup_erase_ne hother
      have hless (other : ℕ) :
          ((mux.objects.erase call).lookup other).elim 0 PendingResponse.sender ≤
            (mux.objects.lookup other).elim 0 PendingResponse.sender := by
        by_cases hother : other = call
        · rw [hother, lookup_erase]
          exact Nat.zero_le _
        · rw [hlate hother]
      have hsenders (other : ℕ) : Mux.senders { mux with
          objects := mux.objects.erase call
          used := mux.used - reservationIn object.transfer } other ≤ mux.senders other :=
        Nat.add_le_add_left (Nat.add_le_add_right (hless other) _) _
      obtain ⟨honce, hknown, hsettled⟩ := hsafe.senders_le hsenders
      exact { hsafe with
        once := honce
        known := hknown
        settled := hsettled
        pristine := by
          intro other hpositive
          by_cases hother : other = call
          · exact hother ▸ lookup_erase _ _
          · exact (hlate hother).trans (hsafe.pristine other hpositive)
        mapped := by
          intro requestId other hentry
          have hother : other ≠ call := by
            rintro rfl
            exact hunheld (.inl ⟨requestId, hentry⟩)
          obtain ⟨hpositive, hfound⟩ := hsafe.mapped requestId other hentry
          refine ⟨?_, hfound⟩
          unfold Mux.lateSenders at hpositive ⊢
          rw [hlate hother]
          exact hpositive
        owned := by
          intro other found hfound
          obtain ⟨hother, hfound⟩ := lookup_erase_iff.1 hfound
          exact .inl ((hsafe.owned other found hfound).resolve_right fun hloose =>
            hother (some.inj hloose).symm)
        alive := by
          intro other hreferenced
          have hother : other ≠ call := by
            rintro rfl
            exact hreferences hreferenced
          obtain ⟨found, hfound⟩ := hsafe.alive other hreferenced
          exact ⟨found, (hlate hother).trans hfound⟩
        made := fun other found hfound => hsafe.made other found (lookup_erase_iff.1 hfound).2
        budget := by
          have herase := total_erase objectReservation hobject
          have hbudget := hsafe.budget
          simp only [reserved, objectReservation] at herase hbudget ⊢
          omega
        gathers := fun other found requestId hfound hid =>
          hsafe.gathers other found requestId (lookup_erase_iff.1 hfound).2 hid
        reads := hsafe.reads.of_ids fun _ _ hid => hid
        parked := hsafe.parked }

/-! ## Answers -/

/-- A sender that was in hand is used up. -/
theorem Safe.send {answer : Answer} (hsafe : Safe setting loose (answerReservation answer) mux)
    (hsenders : mux.senders call = 0) (hcount : mux.answers.count call = 0)
    (hfound : mux.calls.lookup call = some found)
    (hanswers : Answers setting found.requestId answer) :
    Safe setting loose 0 (mux.send call answer) := by
  have hother {other : ℕ} (hne : other ≠ call) :
      (mux.answers ++ [call]).count other = mux.answers.count other := by
    rw [count_append, count_singleton, beq_false_of_ne hne.symm]
    rfl
  have hown : (mux.answers ++ [call]).count call = 1 := by
    rw [count_append, hcount, count_singleton_self]
  unfold Mux.send
  rw [hfound]
  dsimp only
  split_ifs with hwaiting
  · have hnone : found.answer = none := by
      by_contra hsome
      have hpositive := (hsafe.answered call found hfound (isSome_iff_ne_none.2 hsome)).2
      omega
    have hsame : (recorded mux call { found with answer := some answer } mux.queue mux.used
        (mux.answers ++ [call]) mux.resolved).senders call = 0 := by
      simp only [Mux.senders, Mux.earlySenders, hfound, elim_some] at hsenders
      simp only [Mux.senders, Mux.earlySenders, lookup_recorded, elim_some]
      exact hsenders
    have hchange : Change setting mux (answerReservation answer) call
        { found with answer := some answer } mux.queue mux.used (mux.answers ++ [call])
        mux.resolved 0 found :=
      { lookup := hfound
        sameId := rfl
        otherQueue := fun _ _ => rfl
        otherAnswers := fun _ hne => hother hne
        early := le_rfl
        once := by rw [hsame, hown]
        settled := fun _ => hsame
        stays := id
        unmapped := fun hcancelled => absurd (hwaiting.symm.trans hcancelled) (by decide)
        retry := id
        answered := fun _ => ⟨hwaiting, hown.symm ▸ Nat.zero_lt_one⟩
        budget := by
          simp only [callReservation, hnone, elim_none, elim_some]
          omega
        fits :=
          { answer := fun other hsome => some.inj hsome ▸ hanswers
            stage := (hsafe.fits call found hfound).stage }
        logged := .inl rfl }
    exact hsafe.record hchange
  · exact { hsafe with
      once := by
        intro other
        by_cases hne : other = call
        · subst hne
          exact (hown.symm ▸ hsenders.symm ▸ le_rfl :
            mux.senders other + (mux.answers ++ [other]).count other ≤ 1)
        · exact (hother hne).symm ▸ hsafe.once other
      known := by
        intro other hnone
        have hne : other ≠ call := by
          rintro rfl
          exact absurd (hnone.symm.trans hfound) (by simp)
        exact (hother hne).symm ▸ hsafe.known other hnone
      answered := fun other now hnow hsome =>
        ⟨(hsafe.answered other now hnow hsome).1, (hsafe.answered other now hnow hsome).2.trans_le
          (Sublist.count_le _ (sublist_append_left _ _))⟩
      budget := by
        have hbudget := hsafe.budget
        simp only [reserved] at hbudget ⊢
        omega
      reads := hsafe.reads.of_ids fun _ _ hid => hid }

/-- The call of a sender is known. -/
theorem Safe.exists_call (hsafe : Safe setting loose hand mux) (hsender : 0 < mux.senders call) :
    ∃ found, mux.calls.lookup call = some found := by
  cases hfound : mux.calls.lookup call with
  | some found => exact ⟨found, rfl⟩
  | none =>
    have hzero := hsafe.known call hfound
    omega

/-- The state with one pending response replaced, and what goes with it. -/
def replaced (mux : Mux) (call : ℕ) (object : PendingResponse) (used : ℕ) (reader : Reader) :
    Mux :=
  { mux with
    objects := mux.objects.insert call object
    used := used
    reader := reader }

theorem senders_replaced (mux : Mux) (call : ℕ) (after : PendingResponse) (used : ℕ)
    (reader : Reader) :
    (replaced mux call after used reader).senders call =
      mux.earlySenders call + (after.sender + reader.sender call) := by
  simp only [Mux.senders, Mux.lateSenders, replaced, lookup_insert, elim_some]
  rfl

/-- A pending response changes, and what it loses goes to the reader or is in hand. -/
theorem Safe.replace (hsafe : Safe setting loose hand mux) {object after : PendingResponse}
    {used : ℕ} (hobject : mux.objects.lookup call = some object)
    (hown : after.sender + reader.sender call ≤ object.sender + mux.reader.sender call)
    (hentry : 0 < after.sender + reader.sender call ∨
      ∀ requestId, mux.inflight.lookup requestId ≠ some call)
    (hothers : ∀ other, other ≠ call → reader.sender other = mux.reader.sender other)
    (hbudget : used + objectReservation object + readerReservation mux.reader + hand =
      mux.used + objectReservation after + readerReservation reader + hand')
    (hreferences : ∀ other, mux.references other = true →
      (replaced mux call after used reader).references other = true)
    (halive : ∀ other, (replaced mux call after used reader).references other = true →
      mux.references other = true)
    (htaken : ∀ other, takenOut (replaced mux call after used reader) other → takenOut mux other)
    (hgathers : ∀ requestId, idOf mux call = some requestId → Gathers setting requestId after)
    (hreads : ReaderFits setting mux reader) (hparked : mux.actor ≠ .connected → reader = .exited) :
    Safe setting loose hand' (replaced mux call after used reader) := by
  have hlate {other : ℕ} (hother : other ≠ call) :
      (replaced mux call after used reader).lateSenders other = mux.lateSenders other := by
    simp only [Mux.lateSenders, replaced, lookup_insert_ne hother, hothers other hother]
  have hself : (replaced mux call after used reader).lateSenders call =
      after.sender + reader.sender call := by
    simp only [Mux.lateSenders, replaced, lookup_insert, elim_some]
  have hless (other : ℕ) :
      (replaced mux call after used reader).lateSenders other ≤ mux.lateSenders other := by
    by_cases hother : other = call
    · rw [hother, hself]
      simp only [Mux.lateSenders, hobject, elim_some]
      exact hown
    · exact (hlate hother).le
  have hsenders (other : ℕ) :
      (replaced mux call after used reader).senders other ≤ mux.senders other :=
    Nat.add_le_add_left (hless other) _
  obtain ⟨honce, hknown, hsettled⟩ := hsafe.senders_le hsenders
  exact { hsafe with
    once := honce
    known := hknown
    settled := hsettled
    pristine := by
      intro other hpositive
      have hnone := hsafe.pristine other hpositive
      have hother : other ≠ call := by
        rintro rfl
        exact absurd (hnone.symm.trans hobject) (by simp)
      exact (lookup_insert_ne hother).trans hnone
    mapped := by
      intro requestId other hmapped
      obtain ⟨hpositive, hfound⟩ := hsafe.mapped requestId other hmapped
      refine ⟨?_, hfound⟩
      by_cases hother : other = call
      · subst hother
        rw [hself]
        exact hentry.resolve_right fun hnone => hnone requestId hmapped
      · rw [hlate hother]
        exact hpositive
    taken := fun other hout => hsafe.taken other (htaken other hout)
    owned := by
      intro other found hfound
      rcases lookup_insert_iff.1 hfound with ⟨rfl, -⟩ | ⟨-, hbefore⟩
      · exact (hsafe.owned other object hobject).imp (hreferences other) id
      · exact (hsafe.owned other found hbefore).imp (hreferences other) id
    alive := fun other hreferenced =>
      exists_lookup_insert fun _ => hsafe.alive other (halive other hreferenced)
    made := forall_insert hsafe.made (hsafe.made call object hobject)
    budget := by
      have hreplace := total_insert_replace objectReservation hobject after
      have hbefore := hsafe.budget
      simp only [reserved, replaced] at hbefore ⊢
      omega
    gathers := by
      intro other found requestId hfound hid
      rcases lookup_insert_iff.1 hfound with ⟨rfl, rfl⟩ | ⟨-, hbefore⟩
      · exact hgathers requestId hid
      · exact hsafe.gathers other found requestId hbefore hid
    reads := hreads.of_ids fun _ _ hid => hid
    parked := fun hactor => ⟨hparked hactor, (hsafe.parked hactor).2⟩ }

end SieCluster.MuxSafety
