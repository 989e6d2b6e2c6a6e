import SieCluster.Sidecar.BatchFormer

/-!
# What a batch takes

Requests are packed in the order of their costs, so a batch holds as many of them
as its caps allow.  The same order lets cheap requests overtake a dear one.
-/

namespace SieCluster.BatchSelection

open BatchFormer HasCost List Runs

variable {Item Metadata : Type*} [HasCost Item]

instance : Std.Total (cheaper : PendingRequest Item Metadata → _ → Prop) :=
  ⟨fun _ _ => le_total _ _⟩

instance : IsTrans (PendingRequest Item Metadata) cheaper :=
  ⟨fun _ _ _ => le_trans⟩

/-! ## As many as the caps allow -/

/-- The front of a list in the order of costs is the cheapest choice of its length. -/
theorem totalOf_take_le {sorted chosen : List (PendingRequest Item Metadata)}
    (hsorted : sorted.Pairwise cheaper) (hchosen : chosen <+ sorted) :
    totalOf (sorted.take chosen.length) ≤ totalOf chosen := by
  induction hchosen with
  | slnil => rfl
  | @cons chosen rest request hchosen ih =>
    obtain ⟨hcheapest, hrest⟩ := pairwise_cons.1 hsorted
    refine le_trans ?_ (ih hrest)
    cases hlength : chosen.length with
    | zero => rfl
    | succ count =>
      have hcount : count < rest.length := by
        have hle := hchosen.length_le
        omega
      rw [take_succ_cons, take_succ_eq_append_getElem hcount, totalOf_append]
      have hle : cost request.item ≤ cost rest[count].item := hcheapest _ (getElem_mem hcount)
      simp only [totalOf, map_cons, sum_cons, map_nil, sum_nil]
      omega
  | @cons_cons _ _ _ _ ih =>
    have hrest := ih (pairwise_cons.1 hsorted).2
    simp only [length_cons, take_succ_cons, totalOf, map_cons, sum_cons] at hrest ⊢
    omega

/-- The running minimum is at most its start and each value. -/
theorem foldl_min_le (bound : ℕ) (caps : List ℕ) :
    ∀ cap ∈ bound :: caps, caps.foldl min bound ≤ cap := by
  induction caps generalizing bound with
  | nil => simp
  | cons first _ ih =>
    obtain ⟨hstart, hrest⟩ := forall_mem_cons.1 (ih (min bound first))
    refine forall_mem_cons.2 ⟨hstart.trans (min_le_left _ _), forall_mem_cons.2 ⟨?_, hrest⟩⟩
    exact hstart.trans (min_le_right _ _)

section

variable (inner : BatchFormer.Inner Item Metadata)

theorem effectiveMaxCost_le (hmem : request ∈ inner.pending)
    (hcap : hardBatchCostCap request.item = some cap) : effectiveMaxCost inner ≤ cap :=
  foldl_min_le _ _ cap (mem_cons_of_mem _ (mem_filterMap.2 ⟨request, hmem, hcap⟩))

/-- The caps of a batch: one request may cost more than the cap. -/
def WithinCaps (maxItems : ℕ) (chosen : List (PendingRequest Item Metadata)) : Prop :=
  chosen.length ≤ maxItems ∧ chosen.length ≤ inner.config.maxBatchRequests ∧
    (chosen.length = 1 ∨ totalOf chosen ≤ effectiveMaxCost inner)

instance (maxItems : ℕ) (chosen : List (PendingRequest Item Metadata)) :
    Decidable (WithinCaps inner maxItems chosen) :=
  inferInstanceAs (Decidable (_ ∧ _))

/-- A choice within the caps has no more requests than the loop takes. -/
theorem length_le_taken {sorted : List (PendingRequest Item Metadata)}
    (hpacked : Packed maxItems (effectiveMaxCost inner) inner.config.maxBatchRequests 0 0
      sorted taken) (hsorted : sorted.Pairwise cheaper) (hchosen : chosen.Subperm sorted)
    (hcaps : WithinCaps inner maxItems chosen) : chosen.length ≤ (sorted.take taken).length := by
  obtain ⟨arranged, hperm, hsublist⟩ := hchosen
  have hle := totalOf_take_le hsorted hsublist
  rw [totalOf_perm hperm, hperm.length_eq] at hle
  have hlength := hperm.length_eq ▸ hsublist.length_le
  obtain ⟨hitems, hrequests, hprice⟩ := hcaps
  rw [length_take]
  by_contra hmore
  -- A longer choice costs at least the front part that the loop refused.
  have hfront : totalOf (sorted.take (taken + 1)) ≤ totalOf (sorted.take chosen.length) :=
    ((take_sublist_take_left (by omega)).map _).sum_le_sum fun _ _ => Nat.zero_le _
  have hstops := hpacked.stops
  omega

/-- A batch holds as many of the pending requests as its caps allow, the cheapest ones. -/
theorem extractBatchUpTo_optimal (reason : FlushReason) (maxItems : ℕ)
    (hrequests : 0 < inner.config.maxBatchRequests) :
    ∃ drained rest, (drained ++ rest).Perm inner.pending ∧
      (extractBatchUpTo inner reason maxItems).1 =
        ⟨drained.map PendingRequest.item, drained.map PendingRequest.metadata,
          totalOf drained, reason⟩ ∧
      (extractBatchUpTo inner reason maxItems).2.pending = rest ∧
      (inner.pending ≠ [] → 0 < maxItems → drained ≠ []) ∧
      WithinCaps inner maxItems drained ∧
      (∀ request ∈ drained, ∀ cap, hardBatchCostCap request.item = some cap →
        drained.length = 1 ∨ totalOf drained ≤ cap) ∧
      (∀ taken ∈ drained, ∀ left ∈ rest, cost taken.item ≤ cost left.item) ∧
      ∀ other : List (PendingRequest Item Metadata), other.Subperm inner.pending →
        WithinCaps inner maxItems other → other.length ≤ drained.length := by
  obtain ⟨taken, hpacked, hbatch⟩ := exists_extracted inner reason maxItems
  have hperm := perm_insertionSort cheaper inner.pending
  have hsorted := pairwise_insertionSort cheaper inner.pending
  generalize inner.pending.insertionSort cheaper = sorted at *
  have hcaps : WithinCaps inner maxItems (sorted.take taken) := by
    obtain ⟨-, hitems, hcount, hprice, -⟩ := hpacked
    have hempty : (sorted.take taken).length = 0 → totalOf (sorted.take taken) = 0 := by
      intro hlength
      rw [length_eq_zero_iff.1 hlength]
      rfl
    have hlength := length_take (i := taken) (l := sorted)
    exact ⟨by omega, by omega, by omega⟩
  refine ⟨sorted.take taken, sorted.drop taken, ?_, by rw [hbatch], by rw [hbatch]; rfl, ?_,
    hcaps, ?_, ?_, ?_⟩
  · rwa [take_append_drop]
  · intro hpending hitems hempty
    have hlength := congrArg length hempty
    have hnonempty := length_pos_iff.2 hpending
    rw [← hperm.length_eq] at hnonempty
    have hstops := hpacked.stops
    simp only [length_take, length_nil] at hlength
    omega
  · intro request hmem cap hcap
    refine hcaps.2.2.imp_right fun hprice => hprice.trans ?_
    exact effectiveMaxCost_le inner (hperm.mem_iff.1 (mem_of_mem_take hmem)) hcap
  · rw [← take_append_drop taken sorted] at hsorted
    exact (pairwise_append.1 hsorted).2.2
  · intro other hother hwithin
    exact length_le_taken inner hpacked hsorted (hother.trans hperm.symm.subperm) hwithin

end

section Samples

/-- The last request has a cap of its own, so that two requests fit. -/
def sampleInner : BatchFormer.Inner SampleItem ℕ where
  pending := [⟨⟨5, none⟩, 1, 10⟩, ⟨⟨4, none⟩, 2, 11⟩, ⟨⟨2, some 6⟩, 3, 12⟩]
  totalCost := 11
  firstRequestTime := some 10
  lastSubmitTime := some 12
  config := ⟨8, 8, 10, 5, 1 / 2⟩

end Samples

theorem extractBatchUpTo_optimal_sampleInner : 0 < sampleInner.config.maxBatchRequests ∧
    ∀ other : List (PendingRequest SampleItem ℕ), other.Subperm sampleInner.pending →
      WithinCaps sampleInner 3 other → other.length ≤ 2 := by
  have hrequests : 0 < sampleInner.config.maxBatchRequests := by decide
  obtain ⟨drained, -, -, hbatch, -, -, -, -, -, hoptimal⟩ :=
    extractBatchUpTo_optimal sampleInner .drain 3 hrequests
  have hlength : drained.length = 2 := by
    have hitems : (extractBatchUpTo sampleInner .drain 3).1.items.length = 2 := by decide +kernel
    rwa [hbatch, length_map] at hitems
  exact ⟨hrequests, hlength ▸ hoptimal⟩

/-! ## Overtaking -/

variable {session after : Session Item Metadata} {request : PendingRequest Item Metadata}

/-- No request is submitted that costs less. -/
def AtLeast (price : ℕ) : Operation Item Metadata → Prop
  | .submit item _ _ => price ≤ cost item
  | .submitMany items => ∀ entry ∈ items, price ≤ cost entry.1
  | _ => True

/-- An operation adds requests at the end or cuts one batch. -/
inductive Moves (price : ℕ) (session after : Session Item Metadata) : Prop where
  | adds (added : List (PendingRequest Item Metadata))
    (hpending : after.former.inner.pending = session.former.inner.pending ++ added)
    (hbatches : after.batches = session.batches)
    (hcosts : ∀ request ∈ added, price ≤ cost request.item)
  | cuts (reason : FlushReason) (maxItems : ℕ) (hitems : 0 < maxItems)
    (hpending : after.former.inner.pending =
      (extractBatchUpTo session.former.inner reason maxItems).2.pending)
    (hbatches : after.batches =
      session.batches ++ [(extractBatchUpTo session.former.inner reason maxItems).1])

theorem Moves.same (hpending : after.former.inner.pending = session.former.inner.pending)
    (hbatches : after.batches = session.batches) : Moves price session after :=
  .adds [] (by rw [hpending, append_nil]) hbatches (by simp)

theorem receive_getBatch_moves (price : ℕ) (session : Session Item Metadata) (immediate : Bool)
    (now : ℕ) : Moves price session
      (session.receive now (session.former.getBatch immediate now)) := by
  unfold Former.getBatch
  cases flushReason session.former.inner immediate now with
  | none => exact .same rfl rfl
  | some reason => exact .cuts reason usizeMax (by decide) rfl rfl

theorem step_moves (hcosts : AtLeast price operation)
    (hstep : session.step operation = some after) : Moves price session after := by
  cases operation with
  | submit =>
    simp only [Session.step, Option.ite_none_right_eq_some, Option.some.injEq] at hstep
    obtain ⟨-, rfl⟩ := hstep
    exact .adds _ (submit_pending ..) rfl (forall_mem_singleton.2 hcosts)
  | submitMany =>
    simp only [Session.step, Option.ite_none_right_eq_some, Option.some.injEq] at hstep
    obtain ⟨-, rfl⟩ := hstep
    exact .adds _ (submitMany_pending ..) rfl (forall_mem_map.2 hcosts)
  | updateConfig =>
    cases hstep
    exact .same rfl rfl
  | getBatch | tryGetBatch =>
    simp only [Session.step, Option.ite_none_right_eq_some, Option.some.injEq] at hstep
    obtain ⟨-, rfl⟩ := hstep
    exact receive_getBatch_moves ..
  | tryDrainUpTo maxItems =>
    cases hstep
    unfold Former.tryDrainUpTo
    split
    · exact .same rfl rfl
    · exact .cuts .drain maxItems (by omega) rfl rfl

theorem orderedInsert_split (first : PendingRequest Item Metadata)
    (ahead : List (PendingRequest Item Metadata))
    (hbehind : ∀ later ∈ behind, cheaper request later) :
    ∃ before after, (ahead ++ request :: behind).orderedInsert cheaper first =
        before ++ request :: after ∧
      before.length ≤ ahead.length + 1 ∧ ∀ later ∈ after, cheaper request later := by
  induction ahead with
  | nil =>
    by_cases hcheaper : cheaper first request
    · exact ⟨[first], behind, by simp [hcheaper], le_rfl, hbehind⟩
    · refine ⟨[], behind.orderedInsert cheaper first, by simp [hcheaper], Nat.zero_le _, ?_⟩
      intro later hlater
      rcases (mem_orderedInsert cheaper).1 hlater with rfl | hold
      · exact (total_of cheaper _ _).resolve_left hcheaper
      · exact hbehind later hold
  | cons second ahead ih =>
    by_cases hcheaper : cheaper first second
    · exact ⟨first :: second :: ahead, behind, by simp [hcheaper], le_rfl, hbehind⟩
    · obtain ⟨before, after, hinsert, hlength, hafter⟩ := ih
      exact ⟨second :: before, after, by simp [hcheaper, hinsert], by simpa using hlength, hafter⟩

/-- Sorting puts at most those before a request that stood before it, if the ones behind
it cost at least as much. -/
theorem insertionSort_split (front : List (PendingRequest Item Metadata))
    (hback : ∀ later ∈ back, cheaper request later) :
    ∃ ahead behind, (front ++ request :: back).insertionSort cheaper = ahead ++ request :: behind ∧
      ahead.length ≤ front.length ∧ ∀ later ∈ behind, cheaper request later := by
  induction front with
  | nil =>
    have hsorted : ∀ later ∈ back.insertionSort cheaper, cheaper request later :=
      fun later hlater => hback later ((mem_insertionSort cheaper).1 hlater)
    refine ⟨[], back.insertionSort cheaper, ?_, le_rfl, hsorted⟩
    rw [nil_append, insertionSort_cons]
    cases hcases : back.insertionSort cheaper with
    | nil => rfl
    | cons later =>
      rw [hcases] at hsorted
      simp [hsorted later (by simp)]
  | cons first _ ih =>
    obtain ⟨ahead, behind, hsorted, hlength, hbehind⟩ := ih
    obtain ⟨before, after, hinsert, hmore, hafter⟩ := orderedInsert_split first ahead hbehind
    refine ⟨before, after, ?_, hmore.trans (Nat.succ_le_succ hlength), hafter⟩
    rw [cons_append, insertionSort_cons, hsorted, hinsert]

/-- A request that has been handed out in time, or has few enough before it. -/
def Awaited (request : PendingRequest Item Metadata) (start bound : ℕ)
    (session : Session Item Metadata) : Prop :=
  (∃ batch ∈ (session.batches.drop start).take bound,
    pairOf request ∈ batch.items.zip batch.metadata) ∨
  start ≤ session.batches.length ∧ ∃ front back,
    session.former.inner.pending = front ++ request :: back ∧
      (∀ later ∈ back, cheaper request later) ∧
      session.batches.length + front.length < start + bound

theorem Awaited.cut (hawaited : Awaited request start bound session) (hitems : 0 < maxItems)
    (hpending : after.former.inner.pending =
      (extractBatchUpTo session.former.inner reason maxItems).2.pending)
    (hbatches : after.batches =
      session.batches ++ [(extractBatchUpTo session.former.inner reason maxItems).1]) :
    Awaited request start bound after := by
  rw [Awaited, hbatches, hpending]
  rcases hawaited with ⟨batch, hbatch, hserved⟩ | ⟨hstart, front, back, hwaiting, hback, hfew⟩
  · exact .inl ⟨batch, (((prefix_append _ _).drop start).take bound).subset hbatch, hserved⟩
  obtain ⟨taken, hpacked, hbatch⟩ := exists_extracted session.former.inner reason maxItems
  obtain ⟨ahead, behind, hsorted, hlength, hbehind⟩ := insertionSort_split front hback
  rw [hwaiting, hsorted] at hpacked hbatch
  have htaken := hpacked.stops
  rw [length_append, length_cons] at htaken
  by_cases hreached : ahead.length < taken
  · refine .inl ⟨(extractBatchUpTo session.former.inner reason maxItems).1, ?_, ?_⟩
    · rw [drop_append_of_le_length hstart, take_of_length_le (by simp; omega)]
      exact mem_append_right _ (mem_singleton_self _)
    · rw [hbatch, zip_pairs]
      refine mem_map_of_mem (mem_take_iff_getElem.2 ⟨ahead.length, ?_, ?_⟩)
      · rw [length_append, length_cons]
        omega
      · simp
  · rw [hbatch]
    refine .inr ⟨by simp; omega, ahead.drop taken, behind, ?_, hbehind, ?_⟩
    · exact drop_append_of_le_length (by omega)
    · simp only [length_append, length_singleton, length_drop]
      omega

theorem Awaited.step (hawaited : Awaited request start bound session)
    (hmoves : Moves (cost request.item) session after) : Awaited request start bound after := by
  cases hmoves with
  | adds added hpending hbatches hcosts =>
    refine hawaited.imp (by rw [hbatches]; exact id) ?_
    rintro ⟨hstart, front, back, hwaiting, hback, hfew⟩
    rw [hwaiting, append_assoc, cons_append] at hpending
    exact ⟨hbatches ▸ hstart, front, back ++ added, hpending,
      forall_mem_append.2 ⟨hback, hcosts⟩, hbatches ▸ hfew⟩
  | cuts _ _ hitems hpending hbatches => exact hawaited.cut hitems hpending hbatches

/-- A request is in one of the next batches, as many as there are requests before it and
one more, whatever is submitted later that costs at least as much. -/
theorem run_serves {front back : List (PendingRequest Item Metadata)}
    {operations : List (Operation Item Metadata)} {final : Session Item Metadata}
    (hpending : session.former.inner.pending = front ++ request :: back)
    (hback : ∀ later ∈ back, cost request.item ≤ cost later.item)
    (hcosts : ∀ operation ∈ operations, AtLeast (cost request.item) operation)
    (hrun : run Session.step session operations = some final)
    (hbatches : session.batches.length + (front.length + 1) ≤ final.batches.length) :
    ∃ batch ∈ (final.batches.drop session.batches.length).take (front.length + 1),
      pairOf request ∈ batch.items.zip batch.metadata := by
  have hstart : Awaited request session.batches.length (front.length + 1) session :=
    .inr ⟨le_rfl, front, back, hpending, hback, by omega⟩
  have hfinal := guarded_invariant (Awaited request _ _)
    (fun _ _ _ hawaited hcosts hstep => hawaited.step (step_moves hcosts hstep)) hstart
    (guarded_of_forall Session.step hcosts session) hrun
  refine hfinal.resolve_right ?_
  rintro ⟨_, _, _, _, _, hfew⟩
  omega

section Samples

/-- Each round submits a cheap request and drains one. -/
def overtaking (rounds : ℕ) : List (Operation SampleItem ℕ) :=
  (replicate rounds [.submit ⟨1, none⟩ 1 0, .tryDrainUpTo 1]).flatten

/-- A dear request that has just been submitted. -/
def dearSession : Session SampleItem ℕ where
  former := (Former.withEpoch ⟨9, 1, 10, 5, 1 / 2⟩ 0).submit ⟨2, none⟩ 0 0
  clock := 0
  submitted := [(⟨2, none⟩, 0)]
  batches := []

theorem overtaking_runs (rounds : ℕ) (submitted : List (SampleItem × ℕ))
    (batches : List (FormattedBatch SampleItem ℕ)) :
    ∃ final, run Session.step { dearSession with submitted, batches } (overtaking rounds) =
        some final ∧
      final.batches = batches ++ replicate rounds ⟨[⟨1, none⟩], [1], 1, .drain⟩ := by
  induction rounds generalizing submitted batches with
  | zero => exact ⟨_, rfl, (append_nil _).symm⟩
  | succ _ ih =>
    obtain ⟨final, hrun, hbatches⟩ := ih (submitted ++ [(⟨1, none⟩, 1)])
      (batches ++ [⟨[⟨1, none⟩], [1], 1, .drain⟩])
    refine ⟨final, hrun, ?_⟩
    rw [hbatches, append_assoc]
    rfl

end Samples

theorem run_serves_dearSession : ∃ final,
    run Session.step dearSession [.submit ⟨3, none⟩ 1 4, .tryDrainUpTo 1] = some final ∧
      ∃ batch ∈ final.batches.take 1, (⟨2, none⟩, 0) ∈ batch.items.zip batch.metadata := by
  have hpending : dearSession.former.inner.pending = [] ++ ⟨⟨2, none⟩, 0, 0⟩ :: [] := rfl
  refine ⟨_, (Option.some_get ?_).symm, run_serves hpending (by simp) (by simp [AtLeast, cost])
    (Option.some_get _).symm ?_⟩
  · decide +kernel
  · decide +kernel

/-- No number of batches is enough for the dear request. -/
theorem dearSession_starves : ¬ ∃ bound, ∀ operations final,
    run Session.step dearSession operations = some final → bound ≤ final.batches.length →
      ∃ batch ∈ final.batches.take bound, (⟨2, none⟩, 0) ∈ batch.items.zip batch.metadata := by
  rintro ⟨bound, hbound⟩
  obtain ⟨final, hrun, hbatches⟩ := overtaking_runs bound [(⟨2, none⟩, 0)] []
  obtain ⟨batch, hmem, hserved⟩ := hbound _ final hrun (by simp [hbatches])
  rw [hbatches] at hmem
  rw [eq_of_mem_replicate (mem_of_mem_take hmem)] at hserved
  simp at hserved

end SieCluster.BatchSelection
