import SieCluster.Core.AnswerDesk
import SieCluster.Gateway.PendingResults
import SieCluster.Gateway.ResultReassembly

/-!
# Delivery of results

The pending results of the gateway are an answer desk: every section accepts at
most one result for an empty slot, or closes a request with a vector, or leaves
both alone.  Whatever the order of whole and reassembled results, retries and
fallbacks, the first result for an item is therefore the one delivered.
-/

namespace SieCluster.ResultDelivery

open Totals List AList
open AnswerDesk (Desk Orderly Answers)
open ResultChunks
open ResultSections
open PendingResults

/-! ## The gateway as a desk -/

/-- What the gateway shows as an answer desk. -/
def view (gateway : Gateway) : Desk String WorkResult where
  slots := fun requestId =>
    (gateway.pending.lookup requestId).map ResultCollector.results
  issued := fun requestId => gateway.issued.lookup requestId
  accepted := gateway.accepted
  rejected := gateway.rejections
  delivered := gateway.delivered

/-- What a handler knows when it goes on. -/
def Knows (gateway : Gateway) : Handling → Prop
  | .rejected requestId => requestId ∈ gateway.rejections
  | .allDone requestId => requestId ∈ gateway.issued ∧
    ∀ collector, gateway.pending.lookup requestId = some collector →
      collector.results.all Option.isSome = true
  | _ => True

structure Ready (gateway : Gateway) : Prop where
  sender : ∀ requestId collector, gateway.pending.lookup requestId = some collector →
      collector.senderPresent = true
  knows : ∀ handler ∈ gateway.handling, Knows gateway handler
  pendingIssued : ∀ requestId ∈ gateway.pending, requestId ∈ gateway.issued

variable {next : Gateway}
  (pending : Table String ResultCollector)

theorem slots_insert (requestId : String) (collector : ResultCollector) :
    (fun other => ((pending.insert requestId collector).lookup other).map ResultCollector.results) =
      Function.update (fun other => (pending.lookup other).map ResultCollector.results)
        requestId (some collector.results) := by
  funext other
  by_cases hother : other = requestId
  · subst hother
    simp
  · simp [lookup_insert_ne hother, Function.update_of_ne hother]

theorem slots_erase (requestId : String) :
    (fun other => ((pending.erase requestId).lookup other).map ResultCollector.results) =
      Function.update (fun other => (pending.lookup other).map ResultCollector.results)
        requestId none := by
  funext other
  by_cases hother : other = requestId
  · subst hother
    simp
  · simp [lookup_erase_ne hother, Function.update_of_ne hother]

/-- An entry that is written back with the same results looks the same. -/
theorem slots_insert_same {pending : Table String ResultCollector}
    {updated : ResultCollector} (hentry : pending.lookup requestId = some collector)
    (hresults : updated.results = collector.results) :
    (fun other => ((pending.insert requestId updated).lookup other).map ResultCollector.results) =
      fun other => (pending.lookup other).map ResultCollector.results := by
  rw [slots_insert, hresults]
  refine Function.update_eq_self_iff.2 ?_
  simp [hentry]

section

variable (hready : Ready gateway) (hissued : next.issued = gateway.issued)
  (hrejections : gateway.rejections ⊆ next.rejections)
  (hhandling : ∀ handler ∈ next.handling, handler ∈ gateway.handling ∨ Knows next handler)
include hready hissued hrejections hhandling

/-- What the handlers know stays true if each entry comes from one with the same sender, and
complete results stay complete. -/
theorem Ready.carry
    (hpending : ∀ other found, next.pending.lookup other = some found →
      ∃ before, gateway.pending.lookup other = some before ∧
        found.senderPresent = before.senderPresent ∧
        (before.results.all Option.isSome = true → found.results.all Option.isSome = true)) :
    Ready next where
  sender := by
    intro other found hfound
    obtain ⟨before, hbefore, hsender, -⟩ := hpending other found hfound
    exact hsender.trans (hready.sender other before hbefore)
  knows := by
    intro handler hmem
    refine (hhandling handler hmem).elim (fun hold => ?_) fun hnew => hnew
    have hknew := hready.knows handler hold
    cases handler with
    | rejected => exact hrejections hknew
    | allDone =>
      refine ⟨hissued ▸ hknew.1, fun found hfound => ?_⟩
      obtain ⟨before, hbefore, -, hcomplete⟩ := hpending _ found hfound
      exact hcomplete (hknew.2 before hbefore)
    | _ => trivial
  pendingIssued := by
    rw [hissued]
    intro other hmem
    obtain ⟨found, hfound⟩ := Option.isSome_iff_exists.1 (lookup_isSome.2 hmem)
    obtain ⟨before, hbefore, -⟩ := hpending other found hfound
    exact hready.pendingIssued other (lookup_isSome.1 (by rw [hbefore]; rfl))

/-- Writing an entry back keeps what the handlers know. -/
theorem Ready.insert (hentry : gateway.pending.lookup requestId = some collector)
    (updated : ResultCollector)
    (hpending : next.pending = gateway.pending.insert requestId updated)
    (hsender : updated.senderPresent = collector.senderPresent)
    (hresults : collector.results.all Option.isSome = true →
      updated.results.all Option.isSome = true) :
    Ready next := by
  refine hready.carry hissued hrejections hhandling ?_
  rw [hpending]
  exact forall_insert (fun _ found hfound => ⟨found, hfound, rfl, id⟩)
    ⟨collector, hentry, hsender, hresults⟩

end

/-! ## The sections as steps of the desk -/

/-- A section is a step of the desk and keeps what handlers know. -/
def Matched (gateway next : Gateway) : Prop :=
  Ready next ∧ AnswerDesk.Step failedResults (view gateway) (view next)

section

variable (hready : Ready gateway)
include hready

theorem matched_keep (hpending : next.pending = gateway.pending)
    (hissued : next.issued = gateway.issued) (haccepted : next.accepted = gateway.accepted)
    (hdelivered : next.delivered = gateway.delivered)
    (hrejections : gateway.rejections ⊆ next.rejections)
    (hhandling : ∀ handler ∈ next.handling, handler ∈ gateway.handling ∨ Knows next handler) :
    Matched gateway next := by
  refine ⟨hready.carry hissued hrejections hhandling fun _ found hfound =>
    ⟨found, hpending ▸ hfound, rfl, id⟩, ?_⟩
  have hview : view next = { view gateway with rejected := next.rejections } := by
    simp only [view, hpending, hissued, haccepted, hdelivered]
  rw [hview]
  exact .stays _ _ hrejections

theorem matched_refl : Matched gateway gateway :=
  matched_keep hready rfl rfl rfl rfl (fun _ hmem => hmem) fun _ hmem => .inl hmem

section

variable (hentry : gateway.pending.lookup requestId = some collector)
include hentry

theorem matched_insert
    (updated : ResultCollector) (hpending : next.pending = gateway.pending.insert requestId updated)
    (hsame : answerFields updated = answerFields collector ∨ updated.results = collector.results ∧
        updated.senderPresent = collector.senderPresent) (hissued : next.issued = gateway.issued)
    (haccepted : next.accepted = gateway.accepted) (hdelivered : next.delivered = gateway.delivered)
    (hrejections : gateway.rejections ⊆ next.rejections)
    (hhandling : ∀ handler ∈ next.handling, handler ∈ gateway.handling ∨ Knows next handler) :
    Matched gateway next := by
  have hfields : updated.results = collector.results ∧
      updated.senderPresent = collector.senderPresent := by
    rcases hsame with hall | hboth
    · exact ⟨congrArg AnswerFields.results hall, congrArg AnswerFields.senderPresent hall⟩
    · exact hboth
  refine ⟨hready.insert hissued hrejections hhandling hentry updated hpending hfields.2
    fun hall => by rw [hfields.1]; exact hall, ?_⟩
  have hview : view next = { view gateway with rejected := next.rejections } := by
    simp only [view, hpending, hissued, haccepted, hdelivered, slots_insert_same hentry hfields.1]
  rw [hview]
  exact .stays _ _ hrejections

omit hentry in
theorem ready_remove (hrejections : gateway.rejections ⊆ rejections)
    (requestId : String) (collector : ResultCollector) (results : Option (List WorkResult)) :
    Ready ({ gateway with rejections := rejections }.remove requestId collector results) := by
  refine hready.carry rfl hrejections (fun handler hmem => ?_) fun _ found hfound =>
    ⟨found, (lookup_erase_iff.1 hfound).2, rfl, id⟩
  refine (mem_append.1 hmem).imp_right fun hnew => ?_
  rw [mem_singleton.1 hnew]
  trivial

/-- A section that takes an entry out with a vector closes its request. -/
theorem matched_deliver (hrejections : gateway.rejections ⊆ rejections)
    (hvector : collector.results = vector.map some ∨
        vector = failedResults requestId collector.results.length ∧ requestId ∈ rejections) :
    Matched gateway
      ({ gateway with rejections := rejections }.remove requestId collector (some vector)) := by
  refine ⟨ready_remove hready hrejections _ _ _, ?_⟩
  have hslots : (view gateway).slots requestId = some collector.results := by
    simp [view, hentry]
  have hview : view ({ gateway with rejections := rejections }.remove requestId collector
      (some vector)) =
      { view gateway with
        slots := Function.update (view gateway).slots requestId none
        rejected := rejections
        delivered := (view gateway).delivered ++ [(requestId, vector)] } := by
    simp only [view, Gateway.remove, slots_erase, hready.sender requestId collector hentry]
  rw [hview]
  exact .delivers _ _ collector.results vector _ hslots hrejections hvector

end

/-- The request of a rejection that is logged is failed. -/
theorem matched_failRequest (hrejections : gateway.rejections ⊆ rejections)
    (hrejected : requestId ∈ rejections) :
    Matched gateway
      ({ gateway with rejections := rejections }.failPendingResultChunkRequest requestId) := by
  unfold Gateway.failPendingResultChunkRequest
  split
  · exact matched_keep hready rfl rfl rfl rfl hrejections fun _ hmem => .inl hmem
  · rename_i collector hentry
    exact matched_deliver hready hentry hrejections (.inr ⟨rfl, hrejected⟩)

theorem matched_dropPendingResult (requestId : String) :
    Matched gateway (gateway.dropPendingResult requestId) := by
  unfold Gateway.dropPendingResult
  split
  · exact matched_refl hready
  · rename_i collector hentry
    refine ⟨ready_remove hready (fun _ hmem => hmem) _ _ _, ?_⟩
    have hview : view (gateway.remove requestId collector none) =
        { view gateway with slots := Function.update (view gateway).slots requestId none } := by
      simp only [view, Gateway.remove, slots_erase]
    rw [hview]
    exact .closes _ _

end

theorem matched_handleResultChunk (sha256 : Bytes → Digest)
    (hready : Ready gateway) (chunk : ResultChunkV1) :
    Matched gateway (gateway.handleResultChunk sha256 chunk) := by
  unfold Gateway.handleResultChunk
  split
  · exact matched_refl hready
  rename_i collector hentry
  have hfields := (applyResultChunk_applied sha256
    { budget := gateway.budget, collector := collector } chunk).answerFields_eq
  simp only []
  split
  · refine matched_insert hready hentry _ rfl (.inl hfields) rfl rfl rfl
      (subset_append_left _ _) fun handler hmem => (mem_append.1 hmem).imp_right fun hnew => ?_
    rw [mem_singleton.1 hnew]
    exact mem_append_right _ (mem_singleton_self _)
  · refine matched_insert hready hentry _ rfl (.inl hfields) rfl rfl rfl
      (fun _ hmem => hmem) fun handler hmem => (mem_append.1 hmem).imp_right fun hnew => ?_
    rw [mem_singleton.1 hnew]
    trivial
  · exact matched_insert hready hentry _ rfl (.inl hfields) rfl rfl rfl (fun _ hmem => hmem)
      fun handler hmem => .inl hmem

/-- The verdict of the store section is about the results it leaves. -/
theorem storeSection_verdict (state : Budgeted) (result : WorkResult) (reservationBytes : ℕ) :
    (storeSection state result reservationBytes).2 =
      (storeSection state result reservationBytes).1.collector.results.all
        Option.isSome := rfl

theorem all_isSome_set {Value : Type} {slots : List (Option Value)} (index : ℕ)
    (value : Value) (hall : slots.all Option.isSome = true) :
    (slots.set index (some value)).all Option.isSome = true := by
  rw [all_eq_true] at hall ⊢
  intro slot hslot
  rcases mem_or_eq_of_mem_set hslot with hold | rfl
  · exact hall slot hold
  · rfl

/-- A section that may store a result. -/
theorem matched_handleResult (hready : Ready gateway) (result : WorkResult) (reservationBytes : ℕ) :
    Matched gateway (gateway.handleResult result reservationBytes) := by
  unfold Gateway.handleResult
  split
  · exact matched_refl hready
  rename_i collector hentry
  have hverdict := storeSection_verdict
    { budget := gateway.budget, collector := collector } result reservationBytes
  have hcases := storeSection_cases
    { budget := gateway.budget, collector := collector } result reservationBytes
  generalize storeSection { budget := gateway.budget, collector := collector }
    result reservationBytes = stored at hverdict hcases
  obtain ⟨after, done⟩ := stored
  simp only [] at hverdict hcases ⊢
  -- A handler joins only when all results are there.
  have hjoined : ∀ base : Gateway, base.handling = gateway.handling →
      base.issued = gateway.issued →
      base.pending = gateway.pending.insert result.requestId after.collector →
      ∀ handler ∈ (if done = true then base.handOver (.allDone result.requestId)
        else base).handling, handler ∈ gateway.handling ∨
          Knows (if done = true then base.handOver (.allDone result.requestId) else base)
            handler := by
    intro base hbase hissued hpending handler hmem
    split at hmem
    · rename_i hdone
      rw [Gateway.handOver, hbase] at hmem
      refine (mem_append.1 hmem).imp_right fun hnew => ?_
      rw [mem_singleton.1 hnew, if_pos hdone]
      refine ⟨?_, fun found hfound => ?_⟩
      · exact hissued ▸ hready.pendingIssued _ (lookup_isSome.1 (by rw [hentry]; rfl))
      · simp only [Gateway.handOver, hpending, lookup_insert, Option.some.injEq] at hfound
        rw [← hfound, ← hverdict, hdone]
    · exact .inl (hbase ▸ hmem)
  rcases hcases with ⟨hstored, hempty, -, hfields⟩ | ⟨hnot, hfields⟩
  · have hresults : after.collector.results =
        collector.results.set result.itemIndex (some result) :=
      congrArg AnswerFields.results hfields
    have hslots : (view gateway).slots result.requestId = some collector.results := by
      simp [view, hentry]
    simp only [hstored, if_true]
    refine ⟨hready.insert ?_ ?_ (hjoined _ rfl rfl rfl) hentry after.collector ?_
      (congrArg AnswerFields.senderPresent hfields)
      fun hall => by rw [hresults]; exact all_isSome_set _ _ hall, ?_⟩
    · split <;> rfl
    · split <;> exact fun _ hmem => hmem
    · split <;> rfl
    · have haccepts : AnswerDesk.Step failedResults (view gateway) _ :=
        .accepts (view gateway) result.requestId collector.results
          result.itemIndex result hslots hempty
      convert haccepts using 1
      split <;>
        simp only [view, Gateway.put, Gateway.handOver, slots_insert, hresults]
  · simp only [hnot, if_false]
    refine matched_insert hready hentry after.collector ?_
      (.inl hfields) ?_ ?_ ?_ ?_ (hjoined _ rfl rfl rfl)
    · split <;> rfl
    · split <;> rfl
    · split <;> rfl
    · split <;> rfl
    · split <;> exact fun _ hmem => hmem

theorem eq_map_some_filterMap {Value : Type} {slots : List (Option Value)}
    (hall : slots.all Option.isSome = true) :
    slots = (slots.filterMap id).map some := by
  induction slots with
  | nil => rfl
  | cons _ _ ih =>
    rw [all_cons, Bool.and_eq_true] at hall
    obtain ⟨value, rfl⟩ := Option.isSome_iff_exists.1 hall.1
    exact congrArg (some value :: ·) (ih hall.2)

/-- The section with which a handler goes on. -/
theorem matched_resume (decode : Bytes → Option WorkResult) {handler : Handling}
    (hready : Ready gateway) (hknows : Knows gateway handler) :
    Matched gateway (gateway.resume decode handler) := by
  cases handler with
  | rejected => exact matched_failRequest hready (fun _ hmem => hmem) hknows
  | completed =>
    simp only [Gateway.resume]
    split
    · exact matched_failRequest hready (subset_append_left _ _)
        (mem_append_right _ (mem_singleton_self _))
    · exact matched_handleResult hready _ _
  | allDone =>
    simp only [Gateway.resume]
    split
    · exact matched_refl hready
    · rename_i collector hentry
      exact matched_deliver hready hentry (fun _ hmem => hmem)
        (.inl (eq_map_some_filterMap (hknows.2 collector hentry)))
  | removed =>
    exact matched_keep hready rfl rfl rfl rfl (fun _ hmem => hmem) fun _ hmem => .inl hmem

section

variable (hready : Ready gateway)
include hready

/-- Publishers, fallbacks and handlers that are through do not matter to the other handlers. -/
theorem Ready.sending (publishers : Table String Publisher) (fallbacks : List Fallback)
    (hhandling : handling ⊆ gateway.handling) : Ready { gateway with
      publishers := publishers
      fallbacks := fallbacks
      handling := handling } :=
  hready.carry rfl (fun _ hmem => hmem) (fun _ hmem => .inl (hhandling hmem))
    fun _ found hfound => ⟨found, hfound, rfl, id⟩

theorem matched_updateCollector (requestId : String)
    (hsame : ∀ collector, (update collector).results = collector.results ∧
      (update collector).senderPresent = collector.senderPresent) :
    Matched gateway (gateway.updateCollector requestId update) := by
  unfold Gateway.updateCollector
  split
  · exact matched_refl hready
  · rename_i collector hentry
    exact matched_insert hready hentry (update collector) rfl
      (.inr (hsame collector)) rfl rfl rfl (fun _ hmem => hmem) fun _ hmem => .inl hmem

theorem matched_startFallback (requestId : String) :
    Matched gateway (gateway.startFallback requestId) := by
  unfold Gateway.startFallback
  split
  · exact matched_refl hready
  rename_i collector hentry
  split
  · exact matched_refl hready
  · rename_i taken subject workerId payloads htake
    obtain ⟨-, rfl, -⟩ := takeDirectFallbackPayloads_eq_some htake
    exact matched_insert hready hentry _ rfl (.inr ⟨rfl, rfl⟩) rfl rfl rfl
      (fun _ hmem => hmem) fun _ hmem => .inl hmem

theorem matched_newRequest (hfresh : requestId ∉ gateway.issued)
    (totalItems : ℕ) (poolFallbackSubject directFallbackWorkerId : Option String) :
    Matched gateway { gateway with
      issued := gateway.issued.insert requestId totalItems
      publishers := gateway.publishers.insert requestId .sending
      pending := gateway.pending.insert requestId
        (.new totalItems poolFallbackSubject directFallbackWorkerId) } := by
  constructor
  · exact {
      sender := forall_insert hready.sender rfl
      knows := by
        intro handler hmem
        have hknew := hready.knows handler hmem
        cases handler with
        | rejected => exact hknew
        | allDone other =>
          refine ⟨(mem_insert _).2 (.inr hknew.1), fun found hfound => ?_⟩
          have hother : other ≠ requestId := fun hsame => hfresh (hsame ▸ hknew.1)
          simp only [lookup_insert_ne hother] at hfound
          exact hknew.2 found hfound
        | _ => trivial
      pendingIssued := by
        intro other hother
        rw [mem_insert] at hother ⊢
        exact hother.imp_right (hready.pendingIssued other) }
  · have hopens : AnswerDesk.Step failedResults (view gateway) _ :=
      .opens (view gateway) requestId totalItems (lookup_eq_none.2 hfresh)
    convert hopens using 1
    have hissued : (fun other =>
        (gateway.issued.insert requestId totalItems).lookup other) =
        Function.update (fun other => gateway.issued.lookup other) requestId (some totalItems) := by
      funext other
      by_cases hother : other = requestId
      · subst hother
        simp
      · simp [lookup_insert_ne hother, Function.update_of_ne hother]
    simp only [view, slots_insert, hissued, ResultCollector.new]

/-- Every section of the gateway is a step of the answer desk. -/
theorem step_matched
    (hstep : step sha256 decode gateway event = some next) : Matched gateway next := by
  cases event with
  | newRequest =>
    simp only [step, Option.ite_none_left_eq_some, Option.some.injEq] at hstep
    obtain ⟨hfresh, rfl⟩ := hstep
    exact matched_newRequest hready hfresh _ _ _
  | resultChunk chunk =>
    cases hstep
    exact matched_handleResultChunk sha256 hready chunk
  | resultChunkDecodeFailure =>
    cases hstep
    exact matched_failRequest hready (subset_append_left _ _)
      (mem_append_right _ (mem_singleton_self _))
  | result result =>
    cases hstep
    exact matched_handleResult hready result 0
  | abandon requestId =>
    cases hstep
    exact matched_dropPendingResult hready requestId
  | resume position =>
    obtain ⟨handler, hhandler, rfl⟩ := step_resume_eq_some hstep
    refine matched_resume decode (hready.sending _ _ (eraseIdx_subset ..)) ?_
    have hknows := hready.knows handler (mem_of_getElem? hhandler)
    cases handler <;> exact hknows
  | retryPublish =>
    obtain ⟨totalItems, -, -, rfl⟩ := step_retryPublish_eq_some hstep
    exact matched_keep hready rfl rfl rfl rfl (fun _ hmem => hmem) fun _ hmem => .inl hmem
  | initialFallbackConfirmed requestId =>
    obtain ⟨totalItems, -, -, rfl⟩ := step_initialFallbackConfirmed_eq_some hstep
    exact matched_updateCollector (hready.sending _ _ (Subset.refl _)) requestId fun _ => ⟨rfl, rfl⟩
  | cachePayloads requestId =>
    obtain ⟨-, hafter⟩ := Option.ite_none_right_eq_some.1 hstep
    cases hafter
    refine matched_updateCollector (hready.sending _ _ (Subset.refl _)) requestId
      fun collector => ?_
    unfold cacheDirectFallbackPayloads
    split <;> exact ⟨rfl, rfl⟩
  | startFallback requestId =>
    cases hstep
    exact matched_startFallback hready requestId
  | publishFallback =>
    obtain ⟨fallback, index, remaining, -, -, rfl⟩ :=
      step_publishFallback_eq_some hstep
    exact matched_keep hready rfl rfl rfl rfl (fun _ hmem => hmem) fun _ hmem => .inl hmem
  | fallbackAcked position =>
    obtain rfl | ⟨requestId, indices, rfl⟩ := step_fallbackAcked_eq_some hstep
    · exact matched_keep hready rfl rfl rfl rfl (fun _ hmem => hmem) fun _ hmem => .inl hmem
    · exact matched_updateCollector (hready.sending _ _ (Subset.refl _)) _ fun _ => ⟨rfl, rfl⟩

end

/-! ## Runs -/

theorem ready_empty : Ready {} where
  sender := by
    intro requestId collector hentry
    cases hentry
  knows := nofun
  pendingIssued := fun requestId hmem => absurd hmem (notMem_empty _)

/-- The gateway's record is that of an orderly desk, in every run. -/
theorem run_orderly (hrun : Runs.run (step sha256 decode) {} events = some gateway) :
    Orderly failedResults (view gateway) := by
  have hboth : Ready gateway ∧ Orderly failedResults (view gateway) := by
    refine Runs.run_invariant (fun reached => Ready reached ∧ Orderly failedResults (view reached))
      ?_ ⟨ready_empty, AnswerDesk.orderly_empty⟩ hrun
    intro reached event next hreached hstep
    obtain ⟨hready, hmatched⟩ := step_matched hreached.1 hstep
    exact ⟨hready, hmatched.orderly hreached.2⟩
  exact hboth.2

/-- Nothing that was accepted or delivered is taken back. -/
theorem run_record (hready : Ready gateway)
    (hrun : Runs.run (step sha256 decode) gateway events = some next) :
    gateway.accepted <+: next.accepted ∧ gateway.delivered <+: next.delivered := by
  have hkept : Ready next ∧ gateway.accepted <+: next.accepted ∧
      gateway.delivered <+: next.delivered := by
    refine Runs.run_invariant (fun reached => Ready reached ∧
      gateway.accepted <+: reached.accepted ∧ gateway.delivered <+: reached.delivered)
      ?_ ⟨hready, prefix_rfl, prefix_rfl⟩ hrun
    intro reached event after hreached hstep
    obtain ⟨hready, hmatched⟩ := step_matched hreached.1 hstep
    obtain ⟨haccepted, hdelivered⟩ := hmatched.record
    exact ⟨hready, hreached.2.1.trans haccepted, hreached.2.2.trans hdelivered⟩
  exact hkept.2

end SieCluster.ResultDelivery
