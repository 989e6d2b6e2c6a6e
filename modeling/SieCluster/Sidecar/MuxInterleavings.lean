import SieCluster.Core.Runs
import SieCluster.Sidecar.MuxSteps
import SieCluster.Sidecar.ResponseDelivery

/-!
# Calls over every interleaving

Whatever the order of calls, cancellations, frames and failures, a call gets at
most one answer, which is an error or a response with its own id, and nothing is
left behind when the calls are gone.
-/

namespace SieCluster.MuxInterleavings

open Msgpack ResponseChunks IpcMux MuxSafety Option Totals MuxSteps

variable {setting : Setting} {mux : Mux} {found : Call}

/-! ## Callers -/

theorem senders_eq (hfound : mux.calls.lookup call = some found) :
    mux.senders call = found.stage.sender + mux.queue.count call + mux.writer.sender call +
      mux.lateSenders call := by
  simp only [Mux.senders, Mux.earlySenders, hfound, elim_some]

theorem senders_recorded (mux : Mux) (call : ℕ) (after : Call) (queue : List ℕ) (used : ℕ)
    (answers : List ℕ) (resolved : List (ℕ × Answer)) :
    (recorded mux call after queue used answers resolved).senders call =
      after.stage.sender + queue.count call + mux.writer.sender call + mux.lateSenders call := by
  simp only [Mux.senders, Mux.earlySenders, lookup_recorded, elim_some]
  rfl

section

variable (hlive : found.isLive = true)
include hlive

theorem not_isOver_of_live : ¬ isOver found := by
  rintro (⟨answer, hstage⟩ | ⟨error, hstage⟩) <;> simp [Call.isLive, hstage] at hlive

theorem not_mayRetry_of_live : ¬ found.mayRetry = true := by
  intro hretry
  cases hstage : found.stage <;> simp_all [Call.isLive, Call.mayRetry]

theorem stageReservation_of_live : stageReservation found.stage = 0 := by
  cases hstage : found.stage <;> simp_all [Call.isLive, stageReservation]

end

section

variable (hsafe : Safe setting loose 0 mux) (hfound : mux.calls.lookup call = some found)
include hsafe hfound

theorem callReservation_le : callReservation found ≤ mux.used := by
  have hweight := weight_le_total callReservation hfound
  have hbudget := hsafe.budget
  unfold reserved at hbudget
  omega

/-- A live call that does not wait goes on to another stage before it returns. -/
theorem live_safe (hlive : found.isLive = true) (hwaits : found.stage ≠ .waiting)
    (hqueue : ∀ other, other ≠ call → queue.count other = mux.queue.count other)
    (hsender : stage.sender + queue.count call ≤ found.stage.sender + mux.queue.count call)
    (hstage : stageReservation stage = 0) (hover : ¬ isOver { found with stage := stage })
    (hunmapped : stage = .cancelled → ∀ requestId, mux.inflight.lookup requestId ≠ some call) :
    Safe setting loose 0 { mux with
      calls := mux.calls.insert call { found with stage := stage }
      queue := queue } := by
  have hbefore := senders_eq hfound
  have hafter := senders_recorded mux call { found with stage := stage } queue mux.used
    mux.answers mux.resolved
  have honce := hsafe.once call
  have hfits := hsafe.fits call found hfound
  have hchange : Change setting mux 0 call { found with stage := stage } queue mux.used
      mux.answers mux.resolved 0 found :=
    { lookup := hfound
      sameId := rfl
      otherQueue := hqueue
      otherAnswers := fun _ _ => rfl
      early := hsender
      once := by
        rw [hafter]
        dsimp only
        omega
      settled := fun hnow => absurd hnow hover
      stays := fun hnow => absurd hnow (not_isOver_of_live hlive)
      unmapped := hunmapped
      retry := fun hretry => absurd hretry (not_mayRetry_of_live hlive)
      answered := fun hsome => absurd (hsafe.answered call found hfound hsome).1 hwaits
      budget := by
        simp only [callReservation, stageReservation_of_live hlive, hstage]
      fits :=
        { answer := hfits.answer
          stage := fun answer hreturned => absurd (.inl ⟨answer, hreturned⟩) hover }
      logged := .inl rfl }
  exact hsafe.record hchange

end

section

variable (hsafe : Safe setting none 0 mux)
include hsafe

section

variable (hfound : mux.calls.lookup call = some found)
include hfound

/-- A call goes to a stage in which it has no sender, and is not answered there. -/
theorem quiet_safe (hid : after.requestId = found.requestId)
    (hsender : after.stage.sender = 0) (hstage : after.stage ≠ .cancelled)
    (hquiet : isOver after → mux.senders call ≤ found.stage.sender)
    (hstays : isOver found → isOver after) (hretry : ¬ found.mayRetry = true)
    (hanswer : ¬ after.answer.isSome)
    (hbudget : used + callReservation found = mux.used + callReservation after)
    (hfits : CallFits setting after) (hlogged : resolved = mux.resolved ∨ ∃ answer,
      resolved = mux.resolved ++ [(call, answer)] ∧ ¬ isOver found ∧ isOver after ∧
        Answers setting after.requestId answer) :
    Safe setting none 0 { mux with
      calls := mux.calls.insert call after
      used := used
      resolved := resolved } := by
  have hbefore := senders_eq hfound
  have hafter := senders_recorded mux call after mux.queue used mux.answers resolved
  have honce := hsafe.once call
  have hchange : Change setting mux 0 call after mux.queue used mux.answers resolved 0 found :=
    { lookup := hfound
      sameId := hid
      otherQueue := fun _ _ => rfl
      otherAnswers := fun _ _ => rfl
      early := by omega
      once := by omega
      settled := fun hover => by
        have hless := hquiet hover
        omega
      stays := hstays
      unmapped := fun hcancelled => absurd hcancelled hstage
      retry := fun hmay => absurd hmay hretry
      answered := fun hsome => absurd hsome hanswer
      budget := hbudget
      fits := hfits
      logged := hlogged }
  exact hsafe.record hchange

/-- The future of a call returns. -/
theorem resolve_safe (hlive : found.isLive = true)
    (hsenders : mux.senders call ≤ found.stage.sender)
    (hreserved : answerReservation answer = found.answer.elim 0 answerReservation)
    (hanswers : Answers setting found.requestId answer) :
    Safe setting none 0 (mux.resolve call found answer) := by
  have hover : isOver { found with stage := .returned answer, answer := none } :=
    .inl ⟨answer, rfl⟩
  refine quiet_safe hsafe hfound rfl rfl nofun (fun _ => hsenders) (fun _ => hover)
    (not_mayRetry_of_live hlive) nofun ?_ ⟨nofun, ?_⟩
    (.inr ⟨answer, rfl, not_isOver_of_live hlive, hover, hanswers⟩)
  · have hreturned : stageReservation (.returned answer) = answerReservation answer := rfl
    simp only [callReservation, stageReservation_of_live hlive, elim_none, hreturned, hreserved]
    omega
  · rintro other hstage
    cases hstage
    exact hanswers

/-- The receiver is dropped, and with it an answer that nobody took. -/
theorem closeReceiver_safe
    (hlive : found.isLive = true) : Safe setting none 0 (mux.closeReceiver call found) := by
  have hle := callReservation_le hsafe hfound
  have hnotOver : ¬ isOver { found with stage := .closed, answer := none } := by
    rintro (⟨answer, hstage⟩ | ⟨error, hstage⟩) <;> cases hstage
  refine quiet_safe hsafe hfound rfl rfl nofun (fun hover => absurd hover hnotOver)
    (fun hover => absurd hover (not_isOver_of_live hlive)) (not_mayRetry_of_live hlive) nofun ?_
    ⟨nofun, nofun⟩ (.inl rfl)
  have hclosed : stageReservation .closed = 0 := rfl
  simp only [callReservation, stageReservation_of_live hlive, elim_none, hclosed] at hle ⊢
  omega

/-- The guard takes the entry out, and the call is gone. -/
theorem removeEntry_safe
    (hflagged : found.stage = .flagged) : Safe setting none 0 (mux.removeEntry call found) := by
  have hlive : found.isLive = true := by
    rw [Call.isLive, hflagged]
  have hnotOver : ¬ isOver { found with stage := .cancelled } := by
    rintro (⟨answer, hstage⟩ | ⟨error, hstage⟩) <;> cases hstage
  have hsender : Stage.sender .cancelled + mux.queue.count call ≤
      found.stage.sender + mux.queue.count call := Nat.add_le_add_right (Nat.zero_le _) _
  have hown {requestId : String} (hentry : mux.inflight.lookup requestId = some call) :
      requestId = found.requestId := by
    obtain ⟨now, hnow, hid⟩ := idOf_eq_some.1 (hsafe.of_mapped hentry).2.2.2
    rw [← hid, some.inj (hnow.symm.trans hfound)]
  unfold Mux.removeEntry
  cases hentry : mux.inflight.lookup found.requestId with
  | none =>
    refine live_safe hsafe hfound hlive (by simp [hflagged]) (fun _ _ => rfl) hsender rfl hnotOver
      fun _ requestId hmapped => ?_
    rw [hown hmapped, hentry] at hmapped
    cases hmapped
  | some registered =>
    have hout : Safe setting (some registered) 0 (mux.unregister found.requestId) :=
      hsafe.unregister hentry (fun _ => le_rfl) (fun _ => rfl) rfl (fun _ hwrite => hwrite)
        (fun _ hread => hread) (.inr (.inr rfl))
        (fun other hheld => .inr ((references_iff _ _).2
          (hheld.elim (fun hread => .inr (.inl hread)) fun hwrite => .inr (.inr (.inl hwrite)))))
        (fun _ hout => .inr hout) hsafe.reads hsafe.parked
    have hgone : Safe setting (some registered) 0
        ((mux.unregister found.requestId).setStage call found .cancelled) := by
      refine live_safe hout hfound hlive (by simp [hflagged]) (fun _ _ => rfl) hsender rfl hnotOver
        fun _ requestId hmapped => ?_
      obtain ⟨hne, hbefore⟩ := lookup_erase_iff.1 hmapped
      exact hne (hown hbefore)
    exact hgone.discard

theorem dropAnswer_safe (hstage : found.stage = .returned answer) :
    Safe setting none 0 (mux.dropAnswer call found answer) := by
  have hle := callReservation_le hsafe hfound
  have hsenders := hsafe.settled call found hfound (.inl ⟨answer, hstage⟩)
  have hdropped (error : Option MuxError) (used : ℕ)
      (hused : used + answerReservation answer = mux.used) :
      Safe setting none 0 { mux with
        calls := mux.calls.insert call { found with stage := .finished error }
        used := used } := by
    refine quiet_safe hsafe hfound rfl rfl nofun (fun _ => hsenders.le.trans (Nat.zero_le _))
      (fun _ => .inr ⟨error, rfl⟩) (by simp [Call.mayRetry, hstage]) ?_ ?_
      ⟨(hsafe.fits call found hfound).answer, nofun⟩ (.inl rfl)
    · intro hsome
      cases hstage.symm.trans (hsafe.answered call found hfound hsome).1
    · simp only [callReservation, hstage, stageReservation]
      omega
  cases answer with
  | error error => exact hdropped (some error) mux.used rfl
  | ok response =>
    refine hdropped none (mux.used - response.reservation) ?_
    simp only [callReservation, hstage, stageReservation, answerReservation] at hle ⊢
    omega

theorem callerStep_safe
    (hstep : mux.callerStep call found step = some next) : Safe setting none 0 next := by
  have honce := hsafe.once call
  have hsenders := senders_eq hfound
  cases step with
  | enqueue =>
    simp only [Mux.callerStep] at hstep
    split_ifs at hstep with hsending
    cases hstep
    refine live_safe hsafe hfound (by simp [Call.isLive, hsending.1]) (by simp [hsending.1])
      (fun other hother => ?_) ?_ rfl ?_ fun hcancelled => nomatch hcancelled
    · rw [List.count_append, List.count_singleton, beq_false_of_ne (Ne.symm hother)]
      rfl
    · rw [hsending.1, List.count_append, List.count_singleton_self]
      exact ((Nat.zero_add _).trans (Nat.add_comm _ _)).le
    · rintro (⟨answer, hstage⟩ | ⟨error, hstage⟩) <;> cases hstage
  | refuse =>
    simp only [Mux.callerStep] at hstep
    split_ifs at hstep with hsending
    cases hstep
    have hone : found.stage.sender = 1 := hsending.1 ▸ rfl
    refine resolve_safe hsafe hfound (by simp [Call.isLive, hsending.1]) (by omega) ?_
      (answers_error setting _ _)
    -- Nothing was sent while the caller still has the sender.
    have hnone : found.answer = none := by
      by_contra hsome
      have hpositive := (hsafe.answered call found hfound (isSome_iff_ne_none.2 hsome)).2
      omega
    rw [hnone]
    rfl
  | receive =>
    have hwaiting : found.stage = .waiting := by
      by_contra hother
      simp [Mux.callerStep, hother] at hstep
    simp only [Mux.callerStep, if_pos hwaiting] at hstep
    have hlive : found.isLive = true := by
      rw [Call.isLive, hwaiting]
    cases hanswer : found.answer with
    | some answer =>
      rw [hanswer] at hstep
      cases hstep
      have hpositive := (hsafe.answered call found hfound (hanswer ▸ rfl)).2
      exact resolve_safe hsafe hfound hlive (by omega) (hanswer ▸ rfl)
        ((hsafe.fits call found hfound).answer answer hanswer)
    | none =>
      simp only [hanswer] at hstep
      split_ifs at hstep with hdropped
      cases hstep
      exact resolve_safe hsafe hfound hlive (by omega) (hanswer ▸ rfl) (answers_error setting _ _)
  | closeReceiver =>
    simp only [Mux.callerStep] at hstep
    split_ifs at hstep with hopen
    cases hstep
    refine closeReceiver_safe hsafe hfound ?_
    rcases hopen with hstage | hstage <;> rw [Call.isLive, hstage]
  | setFlag =>
    simp only [Mux.callerStep] at hstep
    split_ifs at hstep with hclosed
    cases hstep
    refine live_safe hsafe hfound (by rw [Call.isLive, hclosed]) (by simp [hclosed])
      (fun _ _ => rfl) ?_ rfl ?_ fun hcancelled => nomatch hcancelled
    · exact Nat.add_le_add_right (Nat.zero_le _) _
    · rintro (⟨answer, hstage⟩ | ⟨error, hstage⟩) <;> cases hstage
  | removeEntry =>
    simp only [Mux.callerStep] at hstep
    split_ifs at hstep with hflagged
    cases hstep
    exact removeEntry_safe hsafe hfound hflagged
  | dropAnswer =>
    cases hstage : found.stage <;> simp only [Mux.callerStep, hstage, reduceCtorEq] at hstep
    cases hstep
    exact dropAnswer_safe hsafe hfound hstage

end

end

/-- The state with one more call. -/
def called (mux : Mux) (requestId : String) (payloadLength : ℕ) : Mux :=
  { mux with
    calls := mux.calls.insert mux.nextCall ⟨requestId, payloadLength, .sending, none⟩
    nextCall := mux.nextCall + 1 }

section

variable (hsafe : Safe setting none 0 mux)
include hsafe

theorem called_safe (payloadLength : ℕ)
    (hretry : ∀ other found, mux.calls.lookup other = some found → found.requestId = requestId →
      found.mayRetry = true) : Safe setting none 0 (called mux requestId payloadLength) := by
  let next := called mux requestId payloadLength
  have hnew : mux.calls.lookup mux.nextCall = none := hsafe.bounded _ le_rfl
  have hfresh := hsafe.known _ hnew
  have hlookup {other : ℕ} (hother : other ≠ mux.nextCall) :
      next.calls.lookup other = mux.calls.lookup other :=
    AList.lookup_insert_ne hother
  have hself : next.calls.lookup mux.nextCall =
      some ⟨requestId, payloadLength, .sending, none⟩ := AList.lookup_insert _
  have hold {other : ℕ} {found : Call} (hfound : mux.calls.lookup other = some found) :
      other ≠ mux.nextCall := by
    rintro rfl
    exact absurd (hnew.symm.trans hfound) (by simp)
  have hkept {other : ℕ} {found : Call} (hfound : mux.calls.lookup other = some found) :
      next.calls.lookup other = some found :=
    (hlookup (hold hfound)).trans hfound
  have hearly {other : ℕ} (hother : other ≠ mux.nextCall) :
      next.earlySenders other = mux.earlySenders other := by
    unfold Mux.earlySenders
    rw [hlookup hother]
    rfl
  have hsenders {other : ℕ} (hother : other ≠ mux.nextCall) :
      next.senders other = mux.senders other :=
    congrArg (fun early => early + mux.lateSenders other) (hearly hother)
  have hsendersSelf : next.senders mux.nextCall = 1 := by
    simp only [Mux.senders, Mux.earlySenders, hnew, elim_none] at hfresh
    simp only [Mux.senders, Mux.earlySenders, hself, elim_some]
    change 1 + mux.queue.count mux.nextCall + mux.writer.sender mux.nextCall +
      mux.lateSenders mux.nextCall = 1
    omega
  have hids {other : ℕ} {found : String} (hid : idOf mux other = some found) :
      idOf next other = some found := by
    obtain ⟨now, hnow, rfl⟩ := idOf_eq_some.1 hid
    exact idOf_eq_some.2 ⟨now, hkept hnow, rfl⟩
  exact {
    __ := hsafe
    once := by
      intro other
      by_cases hother : other = mux.nextCall
      · subst hother
        rw [hsendersSelf]
        change 1 + mux.answers.count mux.nextCall ≤ 1
        omega
      · rw [hsenders hother]
        exact hsafe.once other
    bounded := by
      intro other hbound
      have hlater : mux.nextCall < other := hbound
      exact (hlookup hlater.ne').trans (hsafe.bounded other hlater.le)
    known := by
      intro other hnone
      have hother : other ≠ mux.nextCall := by
        rintro rfl
        exact absurd (hself.symm.trans hnone) (by simp)
      rw [hsenders hother]
      exact hsafe.known other ((hlookup hother).symm.trans hnone)
    settled := by
      intro other found hfound hover
      rcases lookup_insert_iff.1 hfound with ⟨rfl, rfl⟩ | ⟨hother, hbefore⟩
      · rcases hover with ⟨answer, hstage⟩ | ⟨error, hstage⟩ <;> cases hstage
      · exact (hsenders hother).trans (hsafe.settled other found hbefore hover)
    pristine := by
      intro other hpositive
      by_cases hother : other = mux.nextCall
      · cases hobject : mux.objects.lookup other with
        | none => exact hobject
        | some object =>
          obtain ⟨found, hfound⟩ := hsafe.made other object hobject
          exact absurd hother (hold hfound)
      · rw [hearly hother] at hpositive
        exact hsafe.pristine other hpositive
    answered := by
      intro other found hfound hanswer
      rcases lookup_insert_iff.1 hfound with ⟨rfl, rfl⟩ | ⟨-, hbefore⟩
      · cases hanswer
      · exact hsafe.answered other found hbefore hanswer
    mapped := by
      intro key other hentry
      obtain ⟨hpositive, found, hfound, hid⟩ := hsafe.mapped key other hentry
      exact ⟨hpositive, found, hkept hfound, hid⟩
    ids := by
      intro first second firstCall secondCall hne hfirst hsecond hsame
      rcases lookup_insert_iff.1 hfirst with ⟨rfl, rfl⟩ | ⟨-, hfirst⟩
      · exact .inr (hretry second secondCall ((hlookup (Ne.symm hne)).symm.trans hsecond)
          hsame.symm)
      · rcases lookup_insert_iff.1 hsecond with ⟨rfl, rfl⟩ | ⟨-, hsecond⟩
        · exact .inl (hretry first firstCall hfirst hsame)
        · exact hsafe.ids first second firstCall secondCall hne hfirst hsecond hsame
    made := by
      intro other object hobject
      obtain ⟨found, hfound⟩ := hsafe.made other object hobject
      exact ⟨found, hkept hfound⟩
    budget := by
      have hinsert := total_insert_new callReservation hnew
        ⟨requestId, payloadLength, .sending, none⟩
      have hempty : callReservation ⟨requestId, payloadLength, .sending, none⟩ = 0 := rfl
      have hbudget := hsafe.budget
      simp only [reserved, called] at hbudget ⊢
      omega
    gathers := by
      intro other object key hobject hid
      obtain ⟨found, hfound⟩ := hsafe.made other object hobject
      refine hsafe.gathers other object key hobject (idOf_eq_some.2 ⟨found, hfound, ?_⟩)
      exact some.inj ((hids (idOf_eq_some.2 ⟨found, hfound, rfl⟩)).symm.trans hid)
    reads := hsafe.reads.of_ids fun _ _ hid => hids hid
    fits := by
      refine forall_insert hsafe.fits ⟨?_, ?_⟩
      · rintro answer ⟨⟩
      · rintro answer ⟨⟩
    resolvedOver := by
      intro other answer hmem
      obtain ⟨found, hfound, hover⟩ := hsafe.resolvedOver other answer hmem
      exact ⟨found, hkept hfound, hover⟩
    parked := hsafe.parked }

theorem call_safe
    (hcall : mux.call requestId payloadLength = some next) : Safe setting none 0 next := by
  unfold Mux.call at hcall
  split_ifs at hcall with hfree
  cases hcall
  refine called_safe hsafe payloadLength fun other found hfound hid => ?_
  have hall := List.all_eq_true.1 hfree.2 ⟨other, found⟩ (AList.mem_lookup_iff.1 hfound)
  simpa [hid] using hall

theorem dropClient_safe (hdrop : mux.dropClient = some next) : Safe setting none 0 next := by
  unfold Mux.dropClient at hdrop
  split_ifs at hdrop
  cases hdrop
  exact hsafe.move (fun _ _ hentry => hentry) (fun _ => le_rfl) (fun _ => le_rfl)
    (fun _ _ _ => le_rfl) rfl (fun _ hheld => hheld) (fun _ hheld => hheld) hsafe.taken
    hsafe.reads hsafe.parked

/-! ## Runs -/

theorem step_safe (hstep : mux.step setting event = some next) : Safe setting none 0 next := by
  cases event with
  | call => exact call_safe hsafe hstep
  | dropClient => exact dropClient_safe hsafe hstep
  | caller =>
    obtain ⟨found, hfound, hcaller⟩ := bind_eq_some_iff.1 hstep
    exact callerStep_safe hsafe hfound hcaller
  | writer => exact writerStep_safe hsafe hstep
  | reader => exact readerStep_safe hsafe hstep
  | actor => exact actorStep_safe hsafe hstep

end

theorem initial_safe (setting : Setting) : Safe setting none 0 Mux.initial where
  once := fun _ => Nat.zero_le _
  bounded := fun _ _ => rfl
  known := fun _ _ => rfl
  settled := fun _ _ hfound => nomatch hfound
  pristine := fun _ _ => rfl
  answered := fun _ _ hfound => nomatch hfound
  mapped := fun _ _ hentry => nomatch hentry
  taken := fun _ _ _ hentry => nomatch hentry
  ids := fun _ _ _ _ _ hfirst => nomatch hfirst
  owned := fun _ _ hobject => nomatch hobject
  alive := by
    intro call hreferenced
    rw [references_iff] at hreferenced
    rcases hreferenced with ⟨requestId, hentry⟩ | hread | hwrite | hact
    · cases hentry
    · cases hread
    · cases hwrite
    · cases hact
  made := fun _ _ hobject => nomatch hobject
  budget := rfl
  gathers := fun _ _ _ hobject => nomatch hobject
  reads := trivial
  fits := fun _ _ hfound => nomatch hfound
  resolvedOnce := List.nodup_nil
  resolvedOver := fun _ _ hmem => nomatch hmem
  parked := fun _ => ⟨rfl, false, rfl⟩

theorem run_safe (hrun : Runs.run (Mux.step setting) Mux.initial events = some mux) :
    Safe setting none 0 mux :=
  Runs.run_invariant (Safe setting none 0) (fun _ _ _ hsafe hstep => step_safe hsafe hstep)
    (initial_safe setting) hrun

/-! ## What a run leaves -/

section

variable (hsafe : Safe setting none 0 mux)
include hsafe

/-- A registered call is live. -/
theorem Safe.live_of_mapped (hentry : mux.inflight.lookup requestId = some call) :
    ∃ found, mux.calls.lookup call = some found ∧ found.requestId = requestId ∧
      found.isLive = true := by
  obtain ⟨hlate, found, hfound, hid, hstage⟩ := hsafe.mapped requestId call hentry
  refine ⟨found, hfound, hid, ?_⟩
  have hsettled := hsafe.settled call found hfound
  have hover : ¬ isOver found := by
    intro hnow
    have hzero := hsettled hnow
    unfold Mux.senders at hzero
    omega
  cases hnow : found.stage with
  | cancelled => exact absurd hnow hstage
  | returned answer => exact absurd (.inl ⟨answer, hnow⟩) hover
  | finished error => exact absurd (.inr ⟨error, hnow⟩) hover
  | _ => rw [Call.isLive, hnow]

section

variable (hfound : mux.calls.lookup call = some found) (hcancelled : found.stage = .cancelled)
include hfound hcancelled

/-- The calls that share the id of a cancelled call had failed before it. -/
theorem Safe.mayRetry_of_cancelled (hother : other ≠ call)
    (hlookup : mux.calls.lookup other = some otherCall)
    (hid : otherCall.requestId = found.requestId) : otherCall.mayRetry = true := by
  refine (hsafe.ids other call otherCall found hother hlookup hfound hid).resolve_right ?_
  rw [Call.mayRetry, hcancelled]
  exact Bool.false_ne_true

/-- The id of a cancelled call is not in the table. -/
theorem Safe.unmapped_of_cancelled : mux.inflight.lookup found.requestId = none := by
  cases hentry : mux.inflight.lookup found.requestId with
  | none => rfl
  | some other =>
    obtain ⟨otherCall, hother, hid, hlive⟩ := Safe.live_of_mapped hsafe hentry
    by_cases hsame : other = call
    · subst hsame
      obtain rfl : otherCall = found := some.inj (hother.symm.trans hfound)
      rw [Call.isLive, hcancelled] at hlive
      cases hlive
    · have hretry := Safe.mayRetry_of_cancelled hsafe hfound hcancelled hsame hother hid
      exact absurd hretry (not_mayRetry_of_live hlive)

end

section

variable (hcalls : ∀ call found, mux.calls.lookup call = some found → found.isLive = false)
include hcalls

/-- The table is empty when no call is live. -/
theorem Safe.inflight_empty (requestId : String) : mux.inflight.lookup requestId = none := by
  cases hentry : mux.inflight.lookup requestId with
  | none => rfl
  | some registered =>
    obtain ⟨found, hfound, -, hlive⟩ := Safe.live_of_mapped hsafe hentry
    exact absurd ((hcalls registered found hfound).symm.trans hlive) (by decide)

/-- Nothing is reserved once no party holds anything. -/
theorem Safe.used_eq_zero (hanswers : ∀ call found response, mux.calls.lookup call = some found →
      found.stage ≠ .returned (.ok response))
    (hholds : ∀ call, mux.reader.holds call = false ∧ mux.writer.holds call = false ∧
      mux.actor.holds call = false) : mux.used = 0 := by
  have hunmapped := Safe.inflight_empty hsafe hcalls
  have hobjects : Totals.total objectReservation mux.objects = 0 := by
    apply total_eq_zero
    intro other object hobject
    obtain ⟨hread, hwrite, hact⟩ := hholds other
    rcases (references_iff _ _).1 ((hsafe.owned other object hobject).resolve_right (by simp))
      with ⟨requestId, hentry⟩ | hheld | hheld | hheld
    · exact absurd ((hunmapped requestId).symm.trans hentry) (by simp)
    · exact absurd (hread.symm.trans hheld) (by decide)
    · exact absurd (hwrite.symm.trans hheld) (by decide)
    · exact absurd (hact.symm.trans hheld) (by decide)
  have hheld : Totals.total callReservation mux.calls = 0 := by
    apply total_eq_zero
    intro other found hfound
    have hdead := hcalls other found hfound
    have hnone : found.answer = none := by
      by_contra hsome
      have hwaiting := (hsafe.answered other found hfound (isSome_iff_ne_none.2 hsome)).1
      rw [Call.isLive, hwaiting] at hdead
      cases hdead
    have hstage : stageReservation found.stage = 0 := by
      cases hstage : found.stage with
      | returned answer =>
        cases answer with
        | error => rfl
        | ok response => exact absurd hstage (hanswers other found response hfound)
      | _ => rfl
    simp [callReservation, hnone, hstage]
  have hreader : readerReservation mux.reader = 0 := by
    cases hstate : mux.reader with
    | pushed held =>
      have hread := (hholds held).1
      simp [hstate, Reader.holds] at hread
    | settled held =>
      have hread := (hholds held).1
      simp [hstate, Reader.holds] at hread
    | _ => rfl
  rw [hsafe.budget, reserved, hobjects, hheld, hreader]

end

end

variable (setting mux) in
/-- What calls can rely on. -/
structure Isolated : Prop where
  /-- A call is answered and returns at most once. -/
  once : (∀ call, mux.answers.count call ≤ 1) ∧ (mux.resolved.map Prod.fst).Nodup
  /-- It gets an error or a response of its own id. -/
  own : ∀ call answer, (call, answer) ∈ mux.resolved → ∃ found, mux.calls.lookup call = some found ∧
      ∀ response, answer = .ok response → Carries setting found.requestId response
  /-- The reader gives a frame only to the call whose id the frame names. -/
  routed : ∀ call route frame, mux.reader = .holding call route frame →
    responseFrameRoute setting frame = .ok route ∧
      ∃ found, mux.calls.lookup call = some found ∧ found.requestId = route.requestId
  /-- A frame that names a cancelled call is discarded; no other call that could still get
  it has that id. -/
  late : ∀ call found, mux.calls.lookup call = some found → found.stage = .cancelled →
    (∀ other otherCall, other ≠ call → mux.calls.lookup other = some otherCall →
      otherCall.requestId = found.requestId → otherCall.isLive = false) ∧
    ∀ route frame, mux.reader = .routed route frame → route.requestId = found.requestId →
      mux.readerStep setting .lookup = some { mux with reader := .idle }
  /-- The table is empty when no call is live. -/
  inflight : (∀ call found, mux.calls.lookup call = some found → found.isLive = false) →
    ∀ requestId, mux.inflight.lookup requestId = none
  /-- So is the budget, if besides no caller has a response in hand and no task an entry. -/
  budget : (∀ call found, mux.calls.lookup call = some found → found.isLive = false) →
    (∀ call found response, mux.calls.lookup call = some found →
      found.stage ≠ .returned (.ok response)) →
    (∀ call, mux.reader.holds call = false ∧ mux.writer.holds call = false ∧
      mux.actor.holds call = false) → mux.used = 0

/-- Over every interleaving of calls, cancellations, frames, writer errors and lost
connections. -/
theorem run_isolated {events : List Event}
    (hrun : Runs.run (Mux.step setting) Mux.initial events = some mux) :
    Isolated setting mux where
  once := ⟨fun call => (Nat.le_add_left _ _).trans ((run_safe hrun).once call),
    (run_safe hrun).resolvedOnce⟩
  own := by
    intro call answer hmem
    obtain ⟨found, hfound, -, hanswers⟩ := (run_safe hrun).resolvedOver call answer hmem
    exact ⟨found, hfound, hanswers⟩
  routed := by
    intro call route frame hreader
    have hreads := (run_safe hrun).reads
    rw [hreader] at hreads
    exact ⟨hreads.1, idOf_eq_some.1 hreads.2⟩
  late := by
    intro call found hfound hcancelled
    have hsafe := run_safe hrun
    constructor
    · intro other otherCall hother hlookup hid
      have hretry := Safe.mayRetry_of_cancelled hsafe hfound hcancelled hother hlookup hid
      by_contra hlive
      exact not_mayRetry_of_live (Bool.eq_true_of_not_eq_false hlive) hretry
    · intro route frame hreader hid
      have hnone := Safe.unmapped_of_cancelled hsafe hfound hcancelled
      rw [← hid] at hnone
      simp only [Mux.readerStep, hreader, hnone]
  inflight := Safe.inflight_empty (run_safe hrun)
  budget := Safe.used_eq_zero (run_safe hrun)

/-! ## Two runs -/

/-- A call is made and its request written. -/
def writeCall (call : ℕ) (requestId : String) : List Event := [
  .call requestId 10,
  .caller call .enqueue,
  .writer .take,
  .writer .register,
  .writer .checkSize,
  .writer .writeDone]

def writtenCall : List Event :=
  .actor .connect :: writeCall 0 "w-1"

/-- The reader takes in one frame. -/
def readWhole (frame : Bytes) : List Event := [
  .reader (.read frame),
  .reader .lookup,
  .reader .push,
  .reader .settle,
  .reader .deliver]

/-- A chunk of a response of 33 MiB. -/
def largeChunk (chunkIndex : ℕ) : Bytes :=
  IpcResponses.packChunk ⟨1, "w-1", List.replicate 32 0, chunkIndex, 9, 33 * 1024 * 1024, [0],
    IpcResponses.chunkKind⟩

def smallResponse (requestId : String) : Bytes :=
  IpcResponses.packEnvelope ⟨requestId, [0xc3]⟩

/-- Two calls, of which the first is cancelled; its response comes late, before the other's. -/
def lateResponse : List Event :=
  writtenCall ++ writeCall 1 "w-2" ++
    [.caller 0 .closeReceiver, .caller 0 .setFlag, .caller 0 .removeEntry,
      .reader (.read (smallResponse "w-1")), .reader .lookup] ++
    readWhole (smallResponse "w-2") ++ [.caller 1 .receive]

theorem run_isolated_answered :
    ∃ mux, Runs.run (Mux.step (ResponseDelivery.productionSetting ResponseDelivery.zeroDigest))
        Mux.initial lateResponse = some mux ∧
      mux.resolved = [(1, .ok ⟨smallResponse "w-2", 0, none⟩)] ∧
      Isolated (ResponseDelivery.productionSetting ResponseDelivery.zeroDigest) mux := by
  have hresolved : (Runs.run
      (Mux.step (ResponseDelivery.productionSetting ResponseDelivery.zeroDigest)) Mux.initial
      lateResponse).map Mux.resolved =
        some [(1, .ok ⟨smallResponse "w-2", 0, none⟩)] := by decide +kernel
  obtain ⟨mux, hrun, hanswer⟩ := map_eq_some_iff.1 hresolved
  exact ⟨mux, hrun, hanswer, run_isolated hrun⟩

/-- A call may fail although its connection did not, and what a cancelled call had reserved is
charged until the reader is done with the frame it holds. -/
theorem cancelledCall_keepsBudget :
    (∃ mux, Runs.run (Mux.step (ResponseDelivery.productionSetting ResponseDelivery.zeroDigest))
        Mux.initial (writtenCall ++ readWhole (largeChunk 1) ++ [.caller 0 .receive]) = some mux ∧
      mux.resolved = [(0, .error (.responseChunk .missingFirstChunk))]) ∧
    ∃ mux, Runs.run (Mux.step (ResponseDelivery.productionSetting ResponseDelivery.zeroDigest))
        Mux.initial (writtenCall ++ readWhole (largeChunk 0) ++
          [.reader (.read (largeChunk 1)), .reader .lookup, .caller 0 .closeReceiver,
            .caller 0 .setFlag, .caller 0 .removeEntry]) = some mux ∧
      (∀ call found, mux.calls.lookup call = some found → found.isLive = false) ∧
      mux.used ≠ 0 := by
  let turn := Mux.step (ResponseDelivery.productionSetting ResponseDelivery.zeroDigest)
  constructor
  · have hresolved : (Runs.run turn Mux.initial
        (writtenCall ++ readWhole (largeChunk 1) ++ [.caller 0 .receive])).map Mux.resolved =
          some [(0, .error (.responseChunk .missingFirstChunk))] := by decide +kernel
    exact map_eq_some_iff.1 hresolved
  · have hfinal : (Runs.run turn Mux.initial (writtenCall ++ readWhole (largeChunk 0) ++
          [.reader (.read (largeChunk 1)), .reader .lookup, .caller 0 .closeReceiver,
            .caller 0 .setFlag, .caller 0 .removeEntry])).map
          (fun mux => (mux.calls.entries.map fun entry => entry.2.isLive, mux.used)) =
        some ([false], 2 * (33 * 1024 * 1024) + 4096) := by decide +kernel
    obtain ⟨mux, hrun, hstate⟩ := map_eq_some_iff.1 hfinal
    obtain ⟨hcalls, hused⟩ := Prod.mk.inj hstate
    refine ⟨mux, hrun, fun call found hfound => ?_, by rw [hused]; decide⟩
    have hmem : found.isLive ∈ mux.calls.entries.map fun entry => entry.2.isLive :=
      List.mem_map.2 ⟨⟨call, found⟩, AList.mem_lookup_iff.1 hfound, rfl⟩
    rw [hcalls] at hmem
    exact List.mem_singleton.1 hmem

end SieCluster.MuxInterleavings
