import SieCluster.Core.Runs
import SieCluster.Sidecar.MuxSafety

/-!
# Every step keeps the mux safe

One lemma for each thing a caller, the writer, the reader or the actor does, and
from them every interleaving.
-/

namespace SieCluster.MuxSteps

open Msgpack ResponseChunks IpcMux MuxSafety Option AList Totals
open ResponseReader (reservationIn)
open ResponseSoundness (Collected Delivers namesCall pushRouted_sound)

/-! ## Errors -/

theorem fail_safe (hsafe : Safe setting loose 0 mux)
    (hobject : mux.objects.lookup call = some object)
    (hentry : ∀ requestId, mux.inflight.lookup requestId ≠ some call) (error : MuxError) :
    Safe setting loose 0 (mux.fail call object error) := by
  unfold Mux.fail
  split_ifs with hrespond
  · have honce := hsafe.once call
    have hsender : object.sender = 1 := if_pos hrespond
    simp only [Mux.senders, Mux.lateSenders, hobject, elim_some, hsender] at honce
    have hsenders : 0 < mux.senders call := by
      simp only [Mux.senders, Mux.lateSenders, hobject, elim_some, hsender]
      omega
    obtain ⟨found, hfound⟩ := hsafe.exists_call hsenders
    have hclosed : ∀ requestId, idOf mux call = some requestId →
        Gathers setting requestId { object with respond := false } := by
      intro requestId _ hopen
      cases hopen
    have hout : Safe setting loose 0
        (replaced mux call { object with respond := false } mux.used mux.reader) :=
      hsafe.replace hobject (Nat.add_le_add_right (Nat.zero_le _) _) (.inr hentry)
        (fun _ _ => rfl) rfl (fun _ hreferences => hreferences)
        (fun _ hreferences => hreferences) (fun _ hout => hout)
        hclosed hsafe.reads fun hactor => (hsafe.parked hactor).1
    have hnone : PendingResponse.sender { object with respond := false } = 0 := rfl
    have hused := senders_replaced mux call { object with respond := false } mux.used mux.reader
    have hzero : (replaced mux call { object with respond := false } mux.used
        mux.reader).senders call = 0 := by
      omega
    exact hout.send hzero (show mux.answers.count call = 0 by omega) hfound
      (answers_error setting _ _)
  · exact hsafe

/-! ## The writer -/

theorem connected_of_writer (hsafe : Safe setting loose 0 mux)
    (hwriter : ∀ closed, mux.writer ≠ .stopped closed) : mux.actor = .connected := by
  by_contra hactor
  obtain ⟨-, closed, hstopped⟩ := hsafe.parked hactor
  exact hwriter closed hstopped

/-- A writer that neither holds an entry nor has a sender. -/
def Writer.Empty (writer : Writer) : Prop :=
  ∀ other, writer.holds other = false ∧ writer.sender other = 0

section

variable (hsafe : Safe setting none 0 mux)
include hsafe

/-- The writer goes on to a place where it holds and takes nothing more. -/
theorem writer_moves (queue : List ℕ) (hconnected : mux.actor = .connected)
    (hearly : ∀ other, queue.count other + writer.sender other ≤
      mux.queue.count other + mux.writer.sender other)
    (hbefore : ∀ other, mux.writer.holds other = false)
    (hafter : ∀ other, writer.holds other = false) :
    Safe setting none 0 { mux with queue := queue, writer := writer } := by
  have hreferences (other : ℕ) :
      Mux.references { mux with queue := queue, writer := writer } other =
        mux.references other := by
    simp only [Mux.references, Mux.registers, hbefore, hafter]
  refine hsafe.move (fun _ _ hentry => hentry) hearly (fun _ => le_rfl) (fun _ _ _ => le_rfl) rfl
    (fun other hheld => hheld.imp (hreferences other).trans id)
    (fun other hheld => (hreferences other).symm.trans hheld) ?_ hsafe.reads
    fun hactor => absurd hconnected hactor
  · intro other hout
    apply hsafe.taken other
    simp only [takenOut, rearranged, hafter, Bool.false_eq_true, false_or] at hout
    exact .inr hout

theorem writer_passes
    (hrunning : ∀ closed, mux.writer ≠ .stopped closed) (hbefore : Writer.Empty mux.writer)
    (hafter : Writer.Empty writer) : Safe setting none 0 { mux with writer := writer } := by
  refine writer_moves hsafe mux.queue (connected_of_writer hsafe hrunning) (fun other => ?_)
    (fun other => (hbefore other).1) fun other => (hafter other).1
  rw [(hafter other).2]
  exact Nat.add_le_add_left (Nat.zero_le _) _

theorem take_safe (hwriter : mux.writer = .idle)
    (hqueue : mux.queue = call :: rest) (found : Call) :
    Safe setting none 0 (mux.take call rest found) := by
  have hconnected := connected_of_writer hsafe (by simp [hwriter])
  unfold Mux.take
  split_ifs
  · refine writer_moves hsafe rest hconnected (fun other => ?_) (by simp [hwriter, Writer.holds])
      (by simp [hwriter, Writer.holds])
    rw [hqueue, List.count_cons]
    omega
  · refine writer_moves hsafe rest hconnected (fun other => ?_) (by simp [hwriter, Writer.holds])
      (by simp [Writer.holds])
    rw [hqueue, hwriter, List.count_cons]
    simp only [Writer.sender, beq_iff_eq]
    omega

end

/-- The state in which the writer has put a new pending response into the table. -/
def registeredState (mux : Mux) (call : ℕ) (requestId : String) : Mux :=
  { mux with
    inflight := mux.inflight.insert requestId call
    objects := mux.objects.insert call ⟨true, none⟩
    writer := .registered call }

section

variable (hsafe : Safe setting none 0 mux)
include hsafe

section

variable (hwriter : mux.writer = .checked call) (hfound : mux.calls.lookup call = some found)
include hwriter hfound

/-- Registering moves the sender from the writer into a new pending response; the entry that
was there before is loose. -/
theorem registeredState_safe (hcancelled : ¬ found.isCancelled = true) :
    Safe setting (mux.inflight.lookup found.requestId) 0
      (registeredState mux call found.requestId) := by
  have hconnected := connected_of_writer hsafe (by simp [hwriter])
  have hsender : mux.writer.sender call = 1 := by
    rw [hwriter]
    exact if_pos rfl
  have hearlier : 0 < mux.earlySenders call := by
    unfold Mux.earlySenders
    omega
  have hnew : mux.objects.lookup call = none := hsafe.pristine call hearlier
  have hlate {other : ℕ} (hother : other ≠ call) :
      (registeredState mux call found.requestId).lateSenders other = mux.lateSenders other := by
    simp only [Mux.lateSenders, registeredState, lookup_insert_ne hother]
  have hlateSelf : (registeredState mux call found.requestId).lateSenders call =
      mux.lateSenders call + 1 := by
    simp only [Mux.lateSenders, registeredState, lookup_insert, hnew, elim_some,
      elim_none, PendingResponse.sender, if_true]
    omega
  have hearly {other : ℕ} (hother : other ≠ call) :
      (registeredState mux call found.requestId).earlySenders other = mux.earlySenders other := by
    have hnone : mux.writer.sender other = 0 := by
      rw [hwriter]
      exact if_neg (Ne.symm hother)
    simp only [Mux.earlySenders, registeredState, hnone]
    rfl
  have hearlySelf : (registeredState mux call found.requestId).earlySenders call + 1 =
      mux.earlySenders call := by
    simp only [Mux.earlySenders, registeredState, hsender]
    rfl
  have hsenders (other : ℕ) :
      (registeredState mux call found.requestId).senders other = mux.senders other := by
    unfold Mux.senders
    by_cases hother : other = call
    · rw [hother, hlateSelf]
      omega
    · rw [hearly hother, hlate hother]
  exact {
    __ := hsafe
    once := fun other => (hsenders other).symm ▸ hsafe.once other
    known := fun other hnone => (hsenders other).symm ▸ hsafe.known other hnone
    settled := fun other now hnow hover =>
      (hsenders other).trans (hsafe.settled other now hnow hover)
    pristine := by
      intro other hpositive
      have hother : other ≠ call := by
        rintro rfl
        have honce := hsafe.once other
        unfold Mux.senders at honce
        omega
      rw [hearly hother] at hpositive
      exact (lookup_insert_ne hother).trans (hsafe.pristine other hpositive)
    mapped := by
      intro requestId other hentry
      rcases lookup_insert_iff.1 hentry with ⟨rfl, rfl⟩ | ⟨-, hbefore⟩
      · refine ⟨by omega, found, hfound, rfl, fun hstage => hcancelled ?_⟩
        rw [Call.isCancelled, hstage]
      · obtain ⟨hpositive, hknown⟩ := hsafe.mapped requestId other hbefore
        refine ⟨?_, hknown⟩
        by_cases hother : other = call
        · rw [hother, hlateSelf]
          omega
        · rw [hlate hother]
          exact hpositive
    taken := by
      rintro other (hholds | hholds | ⟨delivery, hsettled, hdelivery⟩) requestId hentry
      · cases hholds
      · rw [registeredState, hconnected] at hholds
        cases hholds
      · rcases lookup_insert_iff.1 hentry with ⟨rfl, rfl⟩ | ⟨-, hbefore⟩
        · -- The reader holds the pending response of an earlier call only.
          obtain ⟨object, hobject⟩ := hsafe.alive call ((references_iff _ _).2 (.inr (.inl (by
            rw [show mux.reader = _ from hsettled]
            exact decide_eq_true rfl))))
          exact absurd (hnew.symm.trans hobject) (by simp)
        · exact hsafe.taken other (.inr (.inr ⟨delivery, hsettled, hdelivery⟩)) requestId hbefore
    owned := by
      intro other object hobject
      rw [references_iff]
      rcases lookup_insert_iff.1 hobject with ⟨rfl, -⟩ | ⟨-, hbefore⟩
      · exact .inl (.inl ⟨found.requestId, lookup_insert _⟩)
      · rcases (references_iff _ _).1 ((hsafe.owned other object hbefore).resolve_right
          (by simp)) with ⟨requestId, hentry⟩ | hread | hwrite | hact
        · by_cases hrequest : requestId = found.requestId
          · exact .inr (hrequest ▸ hentry)
          · exact .inl (.inl ⟨requestId, (lookup_insert_ne hrequest).trans hentry⟩)
        · exact .inl (.inr (.inl hread))
        · rw [hwriter] at hwrite
          cases hwrite
        · exact .inl (.inr (.inr (.inr hact)))
    alive := by
      intro other hreferenced
      refine exists_lookup_insert fun hother => hsafe.alive other ?_
      rw [references_iff] at hreferenced ⊢
      rcases hreferenced with ⟨requestId, hentry⟩ | hread | hwrite | hact
      · rcases lookup_insert_iff.1 hentry with ⟨-, rfl⟩ | ⟨-, hbefore⟩
        · exact absurd rfl hother
        · exact .inl ⟨requestId, hbefore⟩
      · exact .inr (.inl hread)
      · cases hwrite
      · exact .inr (.inr (.inr hact))
    made := forall_insert hsafe.made ⟨found, hfound⟩
    budget := by
      have hinsert := total_insert_new objectReservation hnew ⟨true, none⟩
      have hbudget := hsafe.budget
      have hempty : objectReservation ⟨true, none⟩ = 0 := rfl
      simp only [reserved, registeredState] at hbudget ⊢
      omega
    gathers := by
      intro other object requestId hobject hid
      rcases lookup_insert_iff.1 hobject with ⟨rfl, rfl⟩ | ⟨-, hbefore⟩
      · exact fun _ => ⟨[], by simp, rfl⟩
      · exact hsafe.gathers other object requestId hbefore hid
    reads := hsafe.reads.of_ids fun _ _ hid => hid
    parked := fun hactor => absurd hconnected hactor }

theorem register_safe : Safe setting none 0 (mux.register call found) := by
  unfold Mux.register
  split_ifs with hcancelled
  · refine writer_moves hsafe mux.queue (connected_of_writer hsafe (by simp [hwriter]))
      (fun other => ?_) (by simp [hwriter, Writer.holds]) (by simp [Writer.holds])
    exact Nat.add_le_add_left (Nat.zero_le _) _
  · have hregistered := registeredState_safe hsafe hwriter hfound hcancelled
    cases hentry : mux.inflight.lookup found.requestId with
    | none =>
      rw [hentry] at hregistered
      exact hregistered
    | some =>
      rw [hentry] at hregistered
      exact hregistered.discard

end

/-- The entry of a failed request goes from the table to the writer. -/
theorem takeOut_safe (hconnected : mux.actor = .connected) (hwriter : Writer.Empty mux.writer)
    (found : Call) (error : MuxError) (hotherwise : Writer.Empty otherwise) :
    Safe setting none 0 (mux.takeOut found error otherwise) := by
  unfold Mux.takeOut
  cases hentry : mux.inflight.lookup found.requestId with
  | none =>
    refine writer_moves hsafe mux.queue hconnected (fun other => ?_)
      (fun other => (hwriter other).1) fun other => (hotherwise other).1
    rw [(hotherwise other).2]
    exact Nat.add_le_add_left (Nat.zero_le _) _
  | some =>
    refine hsafe.unregister hentry (fun _ => Nat.zero_le _) (fun _ => rfl) rfl
      (fun other hholds => ?_) (fun _ hholds => hholds)
      (.inr (.inl (decide_eq_true rfl))) ?_ ?_ hsafe.reads
      fun hactor => absurd hconnected hactor
    · rw [(hwriter other).1] at hholds
      cases hholds
    · rintro other (hread | hholds)
      · exact .inr ((references_iff _ _).2 (.inr (.inl hread)))
      · exact .inl (of_decide_eq_true hholds).symm
    · rintro other (hholds | hout)
      · exact .inl (of_decide_eq_true hholds).symm
      · exact .inr (.inr hout)

/-- A party lets go of a pending response, which may have been the last reference. -/
theorem letGo_safe (hearly : ∀ other, writer.sender other ≤ mux.writer.sender other)
    (hwriter : ∀ other, mux.writer.holds other = true → other = call ∨ writer.holds other = true)
    (hwriter' : ∀ other, writer.holds other = true → mux.writer.holds other = true)
    (hactor : ∀ other, mux.actor.holds other = true → other = call ∨ actor.holds other = true)
    (hactor' : ∀ other, actor.holds other = true → mux.actor.holds other = true)
    (hparked : actor ≠ .connected → mux.reader = .exited ∧ ∃ closed, writer = .stopped closed) :
    Safe setting none 0 (Mux.discard { mux with writer := writer, actor := actor } call) := by
  have hloose : Safe setting (some call) 0 { mux with writer := writer, actor := actor } := by
    refine hsafe.move (fun _ _ hentry => hentry) (fun other => Nat.add_le_add_left (hearly other) _)
      (fun _ => le_rfl) (fun _ _ _ => le_rfl) rfl ?_ ?_ ?_ hsafe.reads hparked
    · intro other hheld
      rw [references_iff] at hheld ⊢
      rcases hheld with (hentry | hread | hwrite | hact) | hnone
      · exact .inl (.inl hentry)
      · exact .inl (.inr (.inl hread))
      · rcases hwriter other hwrite with rfl | hwrite
        · exact .inr rfl
        · exact .inl (.inr (.inr (.inl hwrite)))
      · rcases hactor other hact with rfl | hact
        · exact .inr rfl
        · exact .inl (.inr (.inr (.inr hact)))
      · cases hnone
    · intro other hheld
      rw [references_iff] at hheld ⊢
      exact hheld.imp_right (Or.imp_right (Or.imp (hwriter' other) (hactor' other)))
    · intro other hout
      exact hsafe.taken other (hout.imp (hwriter' other) (Or.imp_left (hactor' other)))
  exact hloose.discard

end

theorem fail_parts (mux : Mux) (call : ℕ) (object : PendingResponse) (error : MuxError) :
    (mux.fail call object error).writer = mux.writer ∧
      (mux.fail call object error).reader = mux.reader ∧
      (mux.fail call object error).actor = mux.actor := by
  unfold Mux.fail Mux.send
  split_ifs
  · cases mux.calls.lookup call with
    | none => exact ⟨rfl, rfl, rfl⟩
    | some =>
      dsimp only
      split_ifs <;> exact ⟨rfl, rfl, rfl⟩
  · exact ⟨rfl, rfl, rfl⟩

theorem sendError_safe (hsafe : Safe setting none 0 mux)
    (hwriter : mux.writer = .failing call error) (hobject : mux.objects.lookup call = some object) :
    Safe setting none 0 (mux.sendError call object error) := by
  have hconnected := connected_of_writer hsafe (by simp [hwriter])
  have hholds : mux.writer.holds call = true := by
    rw [hwriter]
    exact decide_eq_true rfl
  have hfailed := fail_safe hsafe hobject (hsafe.taken call (.inl hholds)) error
  obtain ⟨hwriterSame, -, hactorSame⟩ := fail_parts mux call object error
  have hafter (other : ℕ) : (writerAfter error).holds other = false ∧
      (writerAfter error).sender other = 0 := by
    cases error <;> exact ⟨rfl, rfl⟩
  refine letGo_safe hfailed (fun other => ?_) (fun other hwrite => ?_) (fun other hwrite => ?_)
    (fun other hact => .inr hact) (fun other hact => hact)
    fun hactor => absurd (hactorSame.trans hconnected) hactor
  · rw [(hafter other).2]
    exact Nat.zero_le _
  · rw [hwriterSame, hwriter] at hwrite
    exact .inl (of_decide_eq_true hwrite).symm
  · rw [(hafter other).1] at hwrite
    cases hwrite

theorem writerStep_safe (hsafe : Safe setting none 0 mux)
    (hstep : mux.writerStep step = some next) : Safe setting none 0 next := by
  cases step with
  | take =>
    cases hwriter : mux.writer <;> cases hqueue : mux.queue <;>
      simp only [Mux.writerStep, hwriter, hqueue, reduceCtorEq] at hstep
    obtain ⟨found, -, rfl⟩ := map_eq_some_iff.1 hstep
    exact take_safe hsafe hwriter hqueue found
  | register =>
    cases hwriter : mux.writer <;> simp only [Mux.writerStep, hwriter, reduceCtorEq] at hstep
    obtain ⟨found, hfound, rfl⟩ := map_eq_some_iff.1 hstep
    exact register_safe hsafe hwriter hfound
  | checkSize =>
    cases hwriter : mux.writer <;> simp only [Mux.writerStep, hwriter, reduceCtorEq] at hstep
    obtain ⟨found, hfound, rfl⟩ := map_eq_some_iff.1 hstep
    have hempty : Writer.Empty mux.writer := fun other => hwriter ▸ ⟨rfl, rfl⟩
    unfold Mux.checkSize
    split_ifs
    · exact writer_passes hsafe (by simp [hwriter]) hempty fun other => ⟨rfl, rfl⟩
    · exact takeOut_safe hsafe (connected_of_writer hsafe (by simp [hwriter])) hempty found _
        fun other => ⟨rfl, rfl⟩
  | writeDone =>
    cases hwriter : mux.writer <;> simp only [Mux.writerStep, hwriter, reduceCtorEq] at hstep
    cases hstep
    exact writer_passes hsafe (by simp [hwriter]) (fun other => hwriter ▸ ⟨rfl, rfl⟩)
      fun other => ⟨rfl, rfl⟩
  | writeFails =>
    cases hwriter : mux.writer <;> simp only [Mux.writerStep, hwriter, reduceCtorEq] at hstep
    obtain ⟨found, hfound, rfl⟩ := map_eq_some_iff.1 hstep
    exact takeOut_safe hsafe (connected_of_writer hsafe (by simp [hwriter]))
      (fun other => hwriter ▸ ⟨rfl, rfl⟩) found .io fun other => ⟨rfl, rfl⟩
  | sendError =>
    cases hwriter : mux.writer <;> simp only [Mux.writerStep, hwriter, reduceCtorEq] at hstep
    obtain ⟨object, hobject, rfl⟩ := map_eq_some_iff.1 hstep
    exact sendError_safe hsafe hwriter hobject
  | channelClosed =>
    simp only [Mux.writerStep] at hstep
    split_ifs at hstep with hidle
    cases hstep
    exact writer_passes hsafe (by simp [hidle.1]) (fun other => hidle.1 ▸ ⟨rfl, rfl⟩)
      fun other => ⟨rfl, rfl⟩

/-! ## The reader -/

/-- What a complete response takes along. -/
def completeReservation : Except ResponseChunkError ResponseFrameStatus → ℕ
  | .ok (.complete response) => response.reservation
  | _ => 0

/-- The budget moves by what the assembler holds before and after, and by what it hands over. -/
def Accounts (assembly : Assembly)
    (pushed : Assembly × Except ResponseChunkError ResponseFrameStatus) : Prop :=
  pushed.1.used + reservationIn assembly.transfer =
    assembly.used + reservationIn pushed.1.transfer + completeReservation pushed.2

theorem accounts_appendChunk (setting : Setting)
    (hused : transfer.reservation ≤ used) (chunk : IpcResponses.IpcResponseChunkV1) :
    Accounts ⟨some transfer, used⟩ (appendChunk setting transfer used chunk) := by
  unfold Accounts appendChunk
  dsimp only
  split_ifs <;> simp only [reservationIn, TransferState.extend, completeReservation] <;> omega

/-- Opening a transfer reserves what the transfer then holds. -/
theorem openTransfer_reserves (hopen : openTransfer setting assembly chunk = .ok (transfer, used)) :
    used + reservationIn assembly.transfer = assembly.used + transfer.reservation := by
  unfold openTransfer at hopen
  cases htransfer : assembly.transfer with
  | some =>
    rw [htransfer] at hopen
    cases hopen
    rfl
  | none =>
    rw [htransfer] at hopen
    dsimp only at hopen
    split_ifs at hopen
    obtain ⟨reserved, hreserved, hfresh⟩ := Fallible.map_eq_ok.1 hopen
    obtain ⟨rfl, rfl⟩ := Prod.mk.inj hfresh
    unfold reserve at hreserved
    split_ifs at hreserved
    cases hreserved
    rfl

theorem accounts_pushChunk (setting : Setting) (requestId : String)
    (hused : reservationIn assembly.transfer ≤ assembly.used)
    (chunk : IpcResponses.IpcResponseChunkV1) :
    Accounts assembly (pushChunk setting requestId assembly chunk) := by
  have hsame (error : ResponseChunkError) : Accounts assembly (assembly, .error error) := rfl
  unfold pushChunk
  split_ifs
  · exact hsame _
  · exact hsame _
  · cases hopen : openTransfer setting assembly chunk with
    | error error => exact hsame error
    | ok opened =>
      obtain ⟨transfer, used⟩ := opened
      have hopened := openTransfer_reserves hopen
      have happend : _ + transfer.reservation = _ :=
        accounts_appendChunk setting (show transfer.reservation ≤ used by omega) chunk
      unfold Accounts
      dsimp only at happend ⊢
      omega
  · exact hsame _

theorem accounts_pushRouted (setting : Setting) (route : ResponseFrameRoute) (assembly : Assembly)
    (hused : reservationIn assembly.transfer ≤ assembly.used) (frame : Bytes) :
    Accounts assembly (pushRouted setting route assembly frame) := by
  have hsame (error : ResponseChunkError) : Accounts assembly (assembly, .error error) := rfl
  have hlegacy : Accounts assembly (pushLegacy assembly frame) := by
    unfold pushLegacy
    split_ifs
    · exact hsame _
    · rfl
  unfold pushRouted
  split_ifs
  · unfold push
    cases responseFrameHead setting frame with
    | error error => exact hsame error
    | ok =>
      dsimp only
      split_ifs
      · exact hsame _
      · exact hsame _
      · exact hlegacy
      · cases setting.decoder.chunk frame with
        | none => exact hsame _
        | some chunk => exact accounts_pushChunk setting route.requestId hused chunk
  · exact hlegacy

theorem deliveryOf_eq_pending : deliveryOf respond result = .pending ↔ result = .ok .pending := by
  rcases result with error | ⟨⟩ | response <;> cases respond <;> simp [deliveryOf]

/-- The sender stays in the pending response or goes with the delivery. -/
theorem sender_deliveryOf (object : PendingResponse) (transfer : Option TransferState)
    (result : Except ResponseChunkError ResponseFrameStatus) :
    PendingResponse.sender ⟨object.respond && decide (deliveryOf object.respond result = .pending),
      transfer⟩ + (deliveryOf object.respond result).sender = object.sender := by
  unfold PendingResponse.sender
  rcases result with error | ⟨⟩ | response <;> cases object.respond <;> rfl

theorem reservation_deliveryOf (respond : Bool)
    (result : Except ResponseChunkError ResponseFrameStatus) :
    deliveryReservation (deliveryOf respond result) + droppedReservation respond result =
      completeReservation result := by
  rcases result with error | ⟨⟩ | response <;> cases respond <;>
    simp [deliveryOf, deliveryReservation, droppedReservation, completeReservation,
      answerReservation]

theorem connected_of_reader (hsafe : Safe setting loose 0 mux) (hreader : mux.reader ≠ .exited) :
    mux.actor = .connected := by
  by_contra hactor
  exact hreader (hsafe.parked hactor).1

section

variable (hsafe : Safe setting none 0 mux)
include hsafe

section

variable (hreader : mux.reader = .holding call route frame)
  (hobject : mux.objects.lookup call = some object)
include hreader hobject

/-- What a pending response hands over was in frames that name its call. -/
theorem pushed_sound (hrespond : object.respond = true)
    (hok : (pushRouted setting route ⟨object.transfer, mux.used⟩ frame).2 = .ok status) :
    ∃ frames, (∀ other ∈ frames, namesCall setting route.requestId other = true) ∧
      (status = .pending ∧ Collected setting route.requestId frames
          (pushRouted setting route ⟨object.transfer, mux.used⟩ frame).1.transfer ∨
        ∃ response, status = .complete response ∧
          Delivers setting route.requestId frames response.bytes) := by
  have hreads := hsafe.reads
  rw [hreader] at hreads
  obtain ⟨hroute, hid⟩ := hreads
  obtain ⟨frames, hnames, hcollected⟩ := hsafe.gathers call object route.requestId hobject hid
    hrespond
  refine ⟨frames ++ [frame], ?_, pushRouted_sound hroute hcollected hok⟩
  refine List.forall_mem_append.2 ⟨hnames, List.forall_mem_singleton.2 ?_⟩
  rw [namesCall, hroute]
  exact decide_eq_true rfl

theorem pushed_fits : DeliveryFits setting route.requestId (deliveryOf object.respond
      (pushRouted setting route ⟨object.transfer, mux.used⟩ frame).2) := by
  cases hrespond : object.respond with
  | false =>
    rcases (pushRouted setting route ⟨object.transfer, mux.used⟩ frame).2 with
      error | ⟨⟩ | response <;> trivial
  | true =>
    rcases hresult : (pushRouted setting route ⟨object.transfer, mux.used⟩ frame).2 with
      error | ⟨⟩ | response
    · exact answers_error setting _ _
    · trivial
    · obtain ⟨frames, hnames, hcase⟩ := pushed_sound hsafe hreader hobject hrespond hresult
      rcases hcase with ⟨hpending, -⟩ | ⟨other, hcomplete, hdelivers⟩
      · cases hpending
      · cases hcomplete
        intro given hgiven
        cases hgiven
        exact ⟨frames, hnames, hdelivers⟩

/-- A frame goes into the pending response of the call it names. -/
theorem push_safe : Safe setting none 0 (mux.push setting call object route frame) := by
  have hconnected := connected_of_reader hsafe (by simp [hreader])
  have hid : idOf mux call = some route.requestId := by
    have hreads := hsafe.reads
    rw [hreader] at hreads
    exact hreads.2
  have hsenders := sender_deliveryOf object
    (pushRouted setting route ⟨object.transfer, mux.used⟩ frame).1.transfer
    (pushRouted setting route ⟨object.transfer, mux.used⟩ frame).2
  have hown (delivery : Delivery) :
      Reader.sender (.pushed call route.requestId delivery) call = delivery.sender := if_pos rfl
  have hreferences (other : ℕ) :
      (mux.push setting call object route frame).references other = mux.references other := by
    simp only [Mux.references, Mux.push, Mux.registers, hreader, Reader.holds]
  refine hsafe.replace hobject ?_ ?_ ?_ ?_ (fun other hheld => (hreferences other).trans hheld)
    (fun other hheld => (hreferences other).symm.trans hheld) ?_ ?_
    ⟨hid, pushed_fits hsafe hreader hobject⟩ fun hactor => absurd hconnected hactor
  · rw [hown, hsenders]
    exact Nat.le_add_right _ _
  · rw [hown, hsenders]
    cases hrespond : object.respond with
    | true => exact .inl (by simp [PendingResponse.sender, hrespond])
    | false =>
      right
      intro requestId hentry
      have hlate := (hsafe.of_mapped hentry).1
      simp [Mux.lateSenders, hobject, PendingResponse.sender, hrespond, hreader,
        Reader.sender] at hlate
  · intro other hother
    rw [hreader]
    exact if_neg (Ne.symm hother)
  · have hweight := Totals.weight_le_total objectReservation hobject
    have hbudget := hsafe.budget
    simp only [reserved, objectReservation] at hbudget hweight
    have haccounts := accounts_pushRouted setting route ⟨object.transfer, mux.used⟩
      (show reservationIn object.transfer ≤ mux.used by omega) frame
    have hresponse := reservation_deliveryOf object.respond
      (pushRouted setting route ⟨object.transfer, mux.used⟩ frame).2
    rw [hreader]
    simp only [Accounts, objectReservation, readerReservation] at haccounts ⊢
    omega
  · rintro other (hholds | hholds | ⟨delivery, hsettled, -⟩)
    · exact .inl hholds
    · exact .inr (.inl hholds)
    · cases hsettled
  · intro requestId howner hopen
    obtain rfl : requestId = route.requestId := some.inj (howner.symm.trans hid)
    rw [Bool.and_eq_true] at hopen
    have hpending := deliveryOf_eq_pending.1 (of_decide_eq_true hopen.2)
    obtain ⟨frames, hnames, hcase⟩ := pushed_sound hsafe hreader hobject hopen.1 hpending
    refine ⟨frames, hnames, ?_⟩
    rcases hcase with ⟨-, hcollected⟩ | ⟨response, hcomplete, -⟩
    · exact hcollected
    · cases hcomplete

end

/-- The entry of a call that is settled is no longer in the table. -/
theorem settle_safe (hreader : mux.reader = .pushed call requestId delivery) :
    Safe setting none 0 (mux.settle call requestId delivery) := by
  have hconnected := connected_of_reader hsafe (by simp [hreader])
  have hreads := hsafe.reads
  rw [hreader] at hreads
  have hsenders (other : ℕ) :
      Reader.sender (.settled call delivery) other = mux.reader.sender other := by
    rw [hreader]
    rfl
  have hreserved : readerReservation (.settled call delivery) = readerReservation mux.reader := by
    rw [hreader]
    rfl
  have hholds (other : ℕ) :
      Reader.holds (.settled call delivery) other = mux.reader.holds other := by
    rw [hreader]
    rfl
  unfold Mux.settle
  split_ifs with hentry
  · refine hsafe.unregister hentry.2 (fun _ => le_rfl) hsenders hreserved (fun _ hholds => hholds)
      (fun other hheld => (hholds other).trans hheld) (.inl (decide_eq_true rfl)) ?_ ?_
      ⟨requestId, hreads⟩ fun hactor => absurd hconnected hactor
    · rintro other (hread | hwrite)
      · exact .inl (of_decide_eq_true hread).symm
      · exact .inr ((references_iff _ _).2 (.inr (.inr (.inl hwrite))))
    · rintro other (hwrite | hact | ⟨other', hsettled, -⟩)
      · exact .inr (.inl hwrite)
      · exact .inr (.inr (.inl hact))
      · cases hsettled
        exact .inl rfl
  · have hreferences (other : ℕ) :
        Mux.references { mux with reader := .settled call delivery } other =
          mux.references other := by
      simp only [Mux.references, Mux.registers, hholds]
    refine hsafe.move (fun _ _ hentry => hentry) (fun _ => le_rfl)
      (fun other => (hsenders other).le) (fun _ other _ => (hsenders other).ge)
      (congrArg (fun held => held + 0) hreserved)
      (fun other hheld => hheld.imp (hreferences other).trans id)
      (fun other hheld => (hreferences other).symm.trans hheld) ?_ ⟨requestId, hreads⟩
      fun hactor => absurd hconnected hactor
    rintro other (hwrite | hact | ⟨other', hsettled, hdelivery⟩) key hkey
    · exact hsafe.taken other (.inl hwrite) key hkey
    · exact hsafe.taken other (.inr (.inl hact)) key hkey
    · cases hsettled
      -- A call is registered under the id its frames name, so this is the entry in question.
      have hid : requestId = key :=
        some.inj (hreads.1.symm.trans (hsafe.of_mapped hkey).2.2.2)
      exact hentry ⟨hdelivery, hid ▸ hkey⟩

end

theorem send_reader (mux : Mux) (call : ℕ) (answer : Answer) (reader : Reader) :
    { mux.send call answer with reader := reader } =
      Mux.send { mux with reader := reader } call answer := by
  unfold Mux.send
  cases mux.calls.lookup call with
  | none => rfl
  | some =>
    dsimp only
    split_ifs <;> rfl

section

variable (hsafe : Safe setting none 0 mux)
include hsafe

/-- The reader drops its clone; what it was about to send is in hand. -/
theorem dropClone_safe (hreader : mux.reader = .settled call delivery) :
    Safe setting (some call) (deliveryReservation delivery) { mux with reader := .idle } := by
  have hconnected := connected_of_reader hsafe (by simp [hreader])
  refine hsafe.move (fun _ _ hentry => hentry) (fun _ => le_rfl) (fun _ => Nat.zero_le _) ?_ ?_ ?_
    ?_ ?_ trivial fun hactor => absurd hconnected hactor
  · intro requestId other hentry
    by_cases hpending : delivery = .pending
    · rw [hreader, hpending]
      simp [Reader.sender, Delivery.sender]
    · have hne : call ≠ other := by
        rintro rfl
        exact hsafe.taken call (.inr (.inr ⟨delivery, hreader, hpending⟩)) requestId hentry
      rw [hreader]
      exact (if_neg hne).le
  · rw [hreader]
    exact Nat.zero_add _
  · intro other hheld
    rw [references_iff, hreader] at hheld
    rw [references_iff]
    rcases hheld with (hentry | hread | hwrite | hact) | hnone
    · exact .inl (.inl hentry)
    · exact .inr (congrArg some (of_decide_eq_true hread))
    · exact .inl (.inr (.inr (.inl hwrite)))
    · exact .inl (.inr (.inr (.inr hact)))
    · cases hnone
  · intro other hheld
    rw [references_iff] at hheld ⊢
    exact hheld.imp_right (Or.imp_left fun hread => nomatch hread)
  · rintro other (hwrite | hact | ⟨other', hsettled, -⟩)
    · exact hsafe.taken other (.inl hwrite)
    · exact hsafe.taken other (.inr (.inl hact))
    · cases hsettled

theorem deliver_safe (hreader : mux.reader = .settled call delivery) :
    Safe setting none 0 (mux.deliver call delivery) := by
  have hdropped := dropClone_safe hsafe hreader
  cases delivery with
  | answer =>
    have hsender : mux.reader.sender call = 1 := by
      rw [hreader]
      exact if_pos rfl
    have honce := hsafe.once call
    have hreads := hsafe.reads
    rw [hreader] at hreads
    obtain ⟨requestId, hid, hanswers⟩ := hreads
    obtain ⟨found, hfound, rfl⟩ := idOf_eq_some.1 hid
    simp only [Mux.senders, Mux.lateSenders, hsender] at honce
    have hzero : Mux.senders { mux with reader := .idle } call = 0 := by
      have hsplit : Mux.senders { mux with reader := .idle } call = mux.earlySenders call +
        ((mux.objects.lookup call).elim 0 PendingResponse.sender + 0) := rfl
      omega
    have hsent := hdropped.send hzero (show mux.answers.count call = 0 by omega) hfound hanswers
    rw [← send_reader] at hsent
    exact hsent.discard
  | _ => exact hdropped.discard

/-- The reader goes on without an entry, or takes a clone of one in the table. -/
theorem reader_passes (hrunning : mux.reader ≠ .exited)
    (hbefore : ∀ other, mux.reader.holds other = false ∧ mux.reader.sender other = 0)
    (hreserved : readerReservation mux.reader = 0)
    (hafter : ∀ other, reader.sender other = 0) (hafterReserved : readerReservation reader = 0)
    (hholds : ∀ other, reader.holds other = true →
      ∃ requestId, mux.inflight.lookup requestId = some other)
    (hsettled : ∀ other delivery, reader ≠ .settled other delivery)
    (hreads : ReaderFits setting mux reader) :
    Safe setting none 0 { mux with reader := reader } := by
  refine hsafe.move (fun _ _ hentry => hentry) (fun _ => le_rfl) (fun other => ?_)
    (fun _ other _ => ?_) (by rw [hafterReserved, hreserved]) ?_ ?_ ?_ hreads
    fun hactor => absurd (connected_of_reader hsafe hrunning) hactor
  · rw [hafter other]
    exact Nat.zero_le _
  · rw [(hbefore other).2]
    exact Nat.zero_le _
  · intro other hheld
    rw [references_iff] at hheld ⊢
    rcases hheld with (hentry | hread | hwrite | hact) | hnone
    · exact .inl (.inl hentry)
    · rw [(hbefore other).1] at hread
      cases hread
    · exact .inl (.inr (.inr (.inl hwrite)))
    · exact .inl (.inr (.inr (.inr hact)))
    · cases hnone
  · intro other hheld
    rw [references_iff] at hheld ⊢
    rcases hheld with hentry | hread | hrest
    · exact .inl hentry
    · exact .inl (hholds other hread)
    · exact .inr (.inr hrest)
  · rintro other (hwrite | hact | ⟨delivery, hreader, -⟩)
    · exact hsafe.taken other (.inl hwrite)
    · exact hsafe.taken other (.inr (.inl hact))
    · exact absurd hreader (hsettled other delivery)

theorem readerStep_safe (hstep : mux.readerStep setting step = some next) :
    Safe setting none 0 next := by
  have hpasses {reader : Reader} (hidle : mux.reader = .idle)
      (hafter : ∀ other, reader.sender other = 0) (hreserved : readerReservation reader = 0)
      (hholds : ∀ other, reader.holds other = false)
      (hsettled : ∀ other delivery, reader ≠ .settled other delivery)
      (hreads : ReaderFits setting mux reader) :
      Safe setting none 0 { mux with reader := reader } :=
    reader_passes hsafe (by simp [hidle]) (by simp [hidle, Reader.holds, Reader.sender])
      (by rw [hidle]; rfl) hafter hreserved
      (fun other hheld => absurd ((hholds other).symm.trans hheld) (by decide)) hsettled hreads
  cases step with
  | readFails =>
    simp only [Mux.readerStep] at hstep
    split_ifs at hstep with hidle
    cases hstep
    exact hpasses hidle (fun _ => rfl) rfl (fun _ => rfl) (by simp) trivial
  | read frame =>
    simp only [Mux.readerStep] at hstep
    split_ifs at hstep with hidle
    · cases hstep
      exact hpasses hidle (fun _ => rfl) rfl (fun _ => rfl) (by simp) trivial
    · cases hroute : responseFrameRoute setting frame with
      | error =>
        rw [hroute] at hstep
        cases hstep
        exact hpasses hidle (fun _ => rfl) rfl (fun _ => rfl) (by simp) trivial
      | ok =>
        rw [hroute] at hstep
        cases hstep
        exact hpasses hidle (fun _ => rfl) rfl (fun _ => rfl) (by simp) hroute
  | lookup =>
    cases hreader : mux.reader <;> simp only [Mux.readerStep, hreader, reduceCtorEq] at hstep
    rename_i route frame
    have hreads := hsafe.reads
    rw [hreader] at hreads
    have hempty (other : ℕ) :
        mux.reader.holds other = false ∧ mux.reader.sender other = 0 := hreader ▸ ⟨rfl, rfl⟩
    have hreserved : readerReservation mux.reader = 0 := hreader ▸ rfl
    cases hentry : mux.inflight.lookup route.requestId with
    | none =>
      rw [hentry] at hstep
      cases hstep
      exact reader_passes hsafe (by simp [hreader]) hempty hreserved (fun _ => rfl) rfl
        (fun _ hheld => nomatch hheld) (by simp) trivial
    | some =>
      rw [hentry] at hstep
      cases hstep
      refine reader_passes hsafe (by simp [hreader]) hempty hreserved (fun _ => rfl) rfl
        (fun other hheld => ⟨route.requestId, ?_⟩) (by simp)
        ⟨hreads, (hsafe.of_mapped hentry).2.2.2⟩
      rw [hentry, of_decide_eq_true hheld]
  | push =>
    cases hreader : mux.reader <;> simp only [Mux.readerStep, hreader, reduceCtorEq] at hstep
    obtain ⟨object, hobject, rfl⟩ := map_eq_some_iff.1 hstep
    exact push_safe hsafe hreader hobject
  | settle =>
    cases hreader : mux.reader <;> simp only [Mux.readerStep, hreader, reduceCtorEq] at hstep
    cases hstep
    exact settle_safe hsafe hreader
  | deliver =>
    cases hreader : mux.reader <;> simp only [Mux.readerStep, hreader, reduceCtorEq] at hstep
    cases hstep
    exact deliver_safe hsafe hreader

end

/-! ## The actor -/

variable (hsafe : Safe setting none 0 mux)
include hsafe

/-- Everything registered goes to the actor when both loops are gone. -/
theorem drain_safe (hconnected : mux.actor = .connected) (hreader : mux.reader.waits = true)
    (hwriter : ∀ other, mux.writer.holds other = false) (channelClosed : Bool) :
    Safe setting none 0 (mux.drain channelClosed) := by
  have hempty (other : ℕ) : mux.reader.holds other = false ∧ mux.reader.sender other = 0 := by
    cases hstate : mux.reader <;> rw [hstate] at hreader <;>
      first | exact ⟨rfl, rfl⟩ | cases hreader
  have hreserved : readerReservation mux.reader = 0 := by
    cases hstate : mux.reader <;> rw [hstate] at hreader <;> first | rfl | cases hreader
  have hdrained {other : ℕ} : Actor.holds (.draining channelClosed
      (mux.inflight.entries.map fun entry => entry.2)) other = true ↔
        ∃ requestId, mux.inflight.lookup requestId = some other := by
    rw [← registers_iff]
    simp [Actor.holds, Mux.registers]
  refine hsafe.move (fun _ _ hentry => nomatch hentry)
    (fun other => Nat.add_le_add_left (Nat.zero_le _) _) (fun _ => Nat.zero_le _)
    (fun _ _ hentry => nomatch hentry) (by rw [hreserved]; rfl) ?_ ?_
    (fun _ _ _ hentry => nomatch hentry) trivial fun _ => ⟨rfl, channelClosed, rfl⟩
  · intro other hheld
    rw [references_iff] at hheld ⊢
    rcases hheld with (hentry | hread | hwrite | hact) | hnone
    · exact .inl (.inr (.inr (.inr (hdrained.2 hentry))))
    · rw [(hempty other).1] at hread
      cases hread
    · rw [hwriter other] at hwrite
      cases hwrite
    · rw [hconnected] at hact
      cases hact
    · cases hnone
  · intro other hheld
    rw [references_iff] at hheld ⊢
    rcases hheld with ⟨requestId, hentry⟩ | hread | hwrite | hact
    · cases hentry
    · cases hread
    · cases hwrite
    · exact .inl (hdrained.1 hact)

/-- The actor goes on without an entry. -/
theorem actor_passes
    (hbefore : ∀ other, mux.actor.holds other = false) (hafter : ∀ other, actor.holds other = false)
    (hstopped : mux.reader = .exited ∧ ∃ closed, mux.writer = .stopped closed)
    (hwriter : ∀ other, writer.holds other = false ∧ writer.sender other = 0)
    (hreader : reader = .idle ∨ reader = .exited)
    (hparked : actor ≠ .connected → reader = .exited ∧ ∃ closed, writer = .stopped closed) :
    Safe setting none 0 { mux with writer := writer, reader := reader, actor := actor } := by
  obtain ⟨hexited, closed, hclosed⟩ := hstopped
  have hempty (other : ℕ) : reader.holds other = false ∧ reader.sender other = 0 := by
    rcases hreader with rfl | rfl <;> exact ⟨rfl, rfl⟩
  have hreferences (other : ℕ) : Mux.references { mux with
      writer := writer
      reader := reader
      actor := actor } other = mux.references other := by
    have hread : mux.reader.holds other = false := hexited ▸ rfl
    have hwrite : mux.writer.holds other = false := hclosed ▸ rfl
    simp only [Mux.references, Mux.registers, hread, hwrite, (hempty other).1,
      (hwriter other).1, hbefore, hafter]
  refine hsafe.move (fun _ _ hentry => hentry) (fun other => ?_) (fun other => ?_)
    (fun _ other _ => ?_) ?_ (fun other hheld => hheld.imp (hreferences other).trans id)
    (fun other hheld => (hreferences other).symm.trans hheld) ?_ ?_ hparked
  · rw [(hwriter other).2]
    exact Nat.add_le_add_left (Nat.zero_le _) _
  · rw [(hempty other).2]
    exact Nat.zero_le _
  · rw [hexited]
    exact Nat.zero_le _
  · rw [hexited]
    rcases hreader with rfl | rfl <;> rfl
  · rintro other (hwrite | hact | ⟨delivery, hsettled, -⟩)
    · exact absurd ((hwriter other).1.symm.trans hwrite) (by decide)
    · exact absurd ((hafter other).symm.trans hact) (by decide)
    · rcases hreader with rfl | rfl <;> cases hsettled
  · rcases hreader with rfl | rfl <;> trivial

theorem drainOne_safe (hactor : mux.actor = .draining channelClosed (call :: rest))
    (hobject : mux.objects.lookup call = some object) :
    Safe setting none 0 (mux.drainOne channelClosed call rest object) := by
  have hholds : mux.actor.holds call = true := by
    rw [hactor]
    simp [Actor.holds]
  have hfailed := fail_safe hsafe hobject (hsafe.taken call (.inr (.inl hholds))) .connectionLost
  obtain ⟨hwriterSame, hreaderSame, hactorSame⟩ := fail_parts mux call object .connectionLost
  have hparked := hsafe.parked (by simp [hactor])
  refine letGo_safe hfailed (fun _ => le_rfl) (fun _ hwrite => .inr hwrite) (fun _ hwrite => hwrite)
    (fun other hact => ?_) (fun other hact => ?_) fun _ => ?_
  · rw [hactorSame, hactor] at hact
    simpa [Actor.holds] using hact
  · rw [hactorSame, hactor]
    simp only [Actor.holds, List.contains_cons, Bool.or_eq_true] at hact ⊢
    exact .inr hact
  · rw [hwriterSame, hreaderSame]
    exact hparked

theorem actorStep_safe (hstep : mux.actorStep step = some next) : Safe setting none 0 next := by
  cases step with
  | connect =>
    simp only [Mux.actorStep] at hstep
    split_ifs at hstep with hactor
    cases hstep
    exact actor_passes hsafe (fun _ => hactor ▸ rfl) (fun _ => rfl)
      (hsafe.parked (by simp [hactor])) (fun _ => ⟨rfl, rfl⟩) (.inl rfl)
      fun hother => absurd rfl hother
  | writerWon =>
    cases hactor : mux.actor <;> cases hwriter : mux.writer <;>
      simp only [Mux.actorStep, hactor, hwriter, reduceCtorEq] at hstep
    split_ifs at hstep with hreader
    cases hstep
    exact drain_safe hsafe hactor hreader (fun _ => hwriter ▸ rfl) _
  | readerWon =>
    simp only [Mux.actorStep] at hstep
    split_ifs at hstep with hwon
    cases hstep
    refine drain_safe hsafe hwon.1 (hwon.2.1 ▸ rfl) (fun other => ?_) false
    cases hwriter : mux.writer with
    | failing =>
      rw [hwriter] at hwon
      exact absurd hwon.2.2 (by simp [Writer.waits])
    | _ => rfl
  | drainOne =>
    cases hactor : mux.actor with
    | draining _ drained =>
      cases drained with
      | nil => simp [Mux.actorStep, hactor] at hstep
      | cons =>
        simp only [Mux.actorStep, hactor] at hstep
        obtain ⟨object, hobject, rfl⟩ := map_eq_some_iff.1 hstep
        exact drainOne_safe hsafe hactor hobject
    | _ => simp [Mux.actorStep, hactor] at hstep
  | drained =>
    cases hactor : mux.actor with
    | draining channelClosed drained =>
      cases drained with
      | cons => simp [Mux.actorStep, hactor] at hstep
      | nil =>
        simp only [Mux.actorStep, hactor] at hstep
        cases hstep
        have hparked := hsafe.parked (by simp [hactor])
        refine actor_passes hsafe (fun _ => by simp [hactor, Actor.holds])
          (fun _ => by cases channelClosed <;> rfl) hparked (fun _ => ?_) (.inr hparked.1)
          fun _ => hparked
        obtain ⟨-, closed, hclosed⟩ := hparked
        exact hclosed ▸ ⟨rfl, rfl⟩
    | _ => simp [Mux.actorStep, hactor] at hstep

end SieCluster.MuxSteps
