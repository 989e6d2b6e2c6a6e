import SieCluster.Sidecar.ResultPublisher

/-!
# Settling the deliveries of a batch

The backend answers a batch with a list of outcomes that need not match it: some
may be missing, repeated, out of order or about ids the batch does not have.  The
dispatcher binds each outcome to the earliest delivery with its id that is still
waiting, publishes and settles that delivery, and hands the deliveries that are
left back to the queue.
-/

namespace SieCluster.Settlement

open List hiding get set
open Option hiding map map_map
open CallLogs Dicts ResultPublisher
open Msgpack (Bytes)

/-! ## Deliveries -/

/-- The fields of a work item that settling it reads. -/
structure WorkItem where
  workItemId : String
  replySubject : String
  timestamp : ℚ
  acceptsResultChunks : Bool
  bundleConfigHash : String
  deriving DecidableEq

/-- Where a delivery came from: a message of the queue, with its subject, or the
socket of a local caller. -/
inductive Origin
  | queue (subject : String)
  | ingest
  deriving DecidableEq, Repr

/-- The right to settle one delivery; no two deliveries share a token. -/
structure Delivery where
  token : ℕ
  origin : Origin
  deriving DecidableEq, Repr

def Delivery.workerDirect (delivery : Delivery) : Bool :=
  match delivery.origin with
  | .queue subject => Intake.isWorkerDirectWorkSubject subject
  | .ingest => true

/-- A local delivery is settled by its result, so there is nothing to acknowledge. -/
def ack (delivery : Delivery) : Program Call Unit :=
  match delivery.origin with
  | .queue _ => do
      let _ ← perform (.ack delivery.token)
  | .ingest => pure ()

def nakOne (delivery : Delivery) (delayMs : ℕ) : Program Call Unit := do
  let _ ← perform (match delivery.origin with
    | .queue _ => .nak delivery.token delayMs
    | .ingest => .sendRetry delivery.token delayMs)

structure ResolvedWorkItem where
  workItem : WorkItem
  delivery : Delivery
  payloadFetchMs : ℚ
  callerItemId : Option String
  deriving DecidableEq

/-- The deliveries of one batch. -/
structure Batch where
  items : List ResolvedWorkItem
  distinct : (items.map fun item => item.delivery.token).Nodup

/-! ## Outcomes -/

structure BatchedF16MultivectorItem where
  workItemId : String
  byteOffset : ℕ
  byteLen : ℕ
  numTokens : ℕ
  tokenDims : ℕ
  deriving DecidableEq, Repr

/-- The values are given by their bits. -/
structure BatchedF16MultivectorOutput where
  valuesF16 : List UInt16
  items : List BatchedF16MultivectorItem
  deriving DecidableEq

structure BatchOutcome (RawOutput : Type) where
  outcomes : List (ItemOutcome RawOutput)
  batchedF16Multivectors : List BatchedF16MultivectorOutput

structure BatchedF16MultivectorSlice where
  valuesF16 : List UInt16
  numTokens : ℕ
  tokenDims : ℕ
  deriving DecidableEq

def f16Bytes : ℕ := 2

def batchedF16MultivectorSlice (batch : BatchedF16MultivectorOutput)
    (item : BatchedF16MultivectorItem) : Except String BatchedF16MultivectorSlice :=
  if item.byteOffset % f16Bytes ≠ 0 ∨ item.byteLen % f16Bytes ≠ 0 then
    .error "batched f16 multivector range is not f16-aligned"
  else if 2 ^ 64 ≤ item.byteOffset + item.byteLen then
    .error "batched f16 multivector byte range overflow"
  else
    let valueOffset := item.byteOffset / f16Bytes
    let valueEnd := (item.byteOffset + item.byteLen) / f16Bytes
    if batch.valuesF16.length < valueEnd then
      .error "batched f16 multivector byte range exceeds buffer"
    else .ok {
      valuesF16 := Slices.slice batch.valuesF16 valueOffset valueEnd
      numTokens := item.numTokens
      tokenDims := item.tokenDims }

/-- Little-endian bytes of the values. -/
def BatchedF16MultivectorSlice.bytes (slice : BatchedF16MultivectorSlice) : Bytes :=
  slice.valuesF16.flatMap fun value : UInt16 => [value.toUInt8, (value >>> 8).toUInt8]

/-- The entry of an id; an id that is there already becomes an error. -/
def insertMultivector (indexed : Dict String (Except String BatchedF16MultivectorSlice))
    (entry : String × Except String BatchedF16MultivectorSlice) :
    Dict String (Except String BatchedF16MultivectorSlice) :=
  set indexed entry.1 (if (get indexed entry.1).isSome then
    .error "duplicate batched f16 multivector work_item_id" else entry.2)

def indexBatchedF16Multivectors (batches : List BatchedF16MultivectorOutput) :
    Dict String (Except String BatchedF16MultivectorSlice) :=
  (batches.flatMap fun batch => batch.items.map fun item =>
    (item.workItemId, batchedF16MultivectorSlice batch item)).foldl insertMultivector []

/-- The positions of each id, in increasing order. -/
def waitingIndexes (resolvedIds : List String) : Dict String (List ℕ) :=
  resolvedIds.zipIdx.foldl (fun waiting entry =>
    set waiting entry.1 ((get waiting entry.1).getD [] ++ [entry.2])) []

/-- Each outcome takes the earliest position of its id that is left. -/
def bindOutcomes : Dict String (List ℕ) → List String → List (Option ℕ)
  | _, [] => []
  | waiting, workItemId :: rest =>
    match get waiting workItemId with
    | some (index :: later) => some index :: bindOutcomes (set waiting workItemId later) rest
    | _ => none :: bindOutcomes waiting rest

def resolveOutcomeIndices (resolvedIds outcomeIds : List String) : List (Option ℕ) :=
  bindOutcomes (waitingIndexes resolvedIds) outcomeIds

/-! ## The dispatcher -/

/-- `queueMsFrom` reads the clock; `configApplyState` is the check of a bundle hash
against the applied configs, where the worker has one. -/
structure Dispatcher (RawOutput : Type) where
  publisher : Option WorkPublisher
  workerId : String
  shapers : Shapers RawOutput
  configApplyState : Option (String → Bool)
  queueMsFrom : ℚ → ℚ
  baseNakDelayMs : ℕ

variable {RawOutput : Type}

section

variable (dispatcher : Dispatcher RawOutput)

def verifiedExecutionHash (workItem : WorkItem) : Option String :=
  if dispatcher.configApplyState.any (· workItem.bundleConfigHash) ∧
      workItem.bundleConfigHash ≠ "" then some workItem.bundleConfigHash
  else none

section

variable (item : ResolvedWorkItem)

def publishContext : PublishResultContext where
  callerItemId := item.callerItemId
  timings := some {
    queueMs := dispatcher.queueMsFrom item.workItem.timestamp
    payloadFetchMs := item.payloadFetchMs }
  workerDirect := item.delivery.workerDirect
  executedBundleConfigHash := verifiedExecutionHash dispatcher item.workItem
  acceptsResultChunks := item.workItem.acceptsResultChunks

variable (outcome : ItemOutcome RawOutput)

def deliverResult : Program Call (Except PublishError Unit) :=
  match item.delivery.origin with
  | .queue _ =>
    match dispatcher.publisher with
    | none => pure (.error .noPublisher)
    | some publisher =>
      publishResult publisher dispatcher.shapers item.workItem.replySubject outcome
        (publishContext dispatcher item)
  | .ingest => do
      -- a caller that is gone has nowhere to deliver to, which is not an error
      let _ ← perform (.sendResult item.delivery.token
        (buildWorkResult dispatcher.shapers dispatcher.workerId outcome
          (publishContext dispatcher item)))
      return .ok ()

def applyOutcome : Program Call Unit :=
  match outcome.disposition with
  | .nakRetry =>
    nakOne item.delivery (outcome.nakDelayMs.getD dispatcher.baseNakDelayMs)
  | .publishAndAck | .publishErrorAndAck => do
      match ← deliverResult dispatcher item outcome with
      | .ok () => ack item.delivery
      | .error .emptyReplySubject => ack item.delivery
      | .error _ => pure ()

end

/-- The outcome with the batched multivector of its id, where there is one. -/
def effectiveOutcome (shapers : Shapers RawOutput) (outcome : ItemOutcome RawOutput)
    (callerItemId : Option String) :
    Option (Except String BatchedF16MultivectorSlice) → ItemOutcome RawOutput
  | some (.ok slice) => shapeBatchedF16MultivectorBytes shapers outcome slice.bytes
      slice.numTokens slice.tokenDims callerItemId
  | some (.error message) => batchedF16MultivectorErrorOutcome outcome message
  | none => outcome

/-- The loop over the outcomes; what it leaves is not settled yet. -/
def applyBound (dispatcher : Dispatcher RawOutput) : List (ItemOutcome RawOutput × Option ℕ) →
      Dict String (Except String BatchedF16MultivectorSlice) →
      List (Option ResolvedWorkItem) → Program Call (List (Option ResolvedWorkItem))
  | [], _, slots => pure slots
  | (_, none) :: rest, indexed, slots => applyBound dispatcher rest indexed slots
  | (outcome, some index) :: rest, indexed, slots =>
    match slots[index]?.join with
    | none => applyBound dispatcher rest indexed slots
    | some item => do
        applyOutcome dispatcher item (effectiveOutcome dispatcher.shapers outcome
          item.callerItemId (get indexed outcome.workItemId))
        applyBound dispatcher rest (pop indexed outcome.workItemId) (slots.set index none)

def nakLeftover (dispatcher : Dispatcher RawOutput) :
    List (Option ResolvedWorkItem) → Program Call Unit
  | [] => pure ()
  | none :: rest => nakLeftover dispatcher rest
  | some item :: rest => do
      nakOne item.delivery dispatcher.baseNakDelayMs
      nakLeftover dispatcher rest

def applyOutcomes (outcome : BatchOutcome RawOutput)
    (resolved : List ResolvedWorkItem) : Program Call Unit := do
  let bindings := resolveOutcomeIndices (resolved.map fun item => item.workItem.workItemId)
    (outcome.outcomes.map fun itemOutcome => itemOutcome.workItemId)
  let leftover ← applyBound dispatcher (outcome.outcomes.zip bindings)
    (indexBatchedF16Multivectors outcome.batchedF16Multivectors) (resolved.map some)
  nakLeftover dispatcher leftover

end

/-! ## Binding outcomes to deliveries -/

/-- Every waiting position of an id holds that id. -/
def Waits (resolvedIds : List String) (waiting : Dict String (List ℕ)) : Prop :=
  ∀ workItemId, ∀ index ∈ (get waiting workItemId).getD [], resolvedIds[index]? = some workItemId

variable {dispatcher : Dispatcher RawOutput} {outcome : BatchOutcome RawOutput}
theorem waits_set (hwaits : Waits resolvedIds waiting)
    (hindexes : ∀ index ∈ indexes, resolvedIds[index]? = some workItemId) :
    Waits resolvedIds (set waiting workItemId indexes) := by
  intro other index hindex
  rw [get_set] at hindex
  split at hindex
  · rename_i heq
    exact heq ▸ hindexes index hindex
  · exact hwaits other index hindex

theorem waits_waitingIndexes (resolvedIds : List String) :
    Waits resolvedIds (waitingIndexes resolvedIds) := by
  refine List.foldlRecOn _ _ (motive := Waits resolvedIds) ?_ ?_
  · intro workItemId index hindex
    simp at hindex
  · intro waiting hwaits entry hentry
    refine waits_set hwaits (forall_mem_append.2 ⟨hwaits entry.1, ?_⟩)
    exact forall_mem_singleton.2 (mem_zipIdx_iff_getElem?.1 hentry)

/-- A bound outcome has the id of the delivery it is bound to. -/
theorem mem_zip_bindOutcomes {outcomes : List (ItemOutcome RawOutput)}
    (hwaits : Waits resolvedIds waiting) {outcome : ItemOutcome RawOutput} {index : ℕ}
    (hmem : (outcome, some index) ∈
      outcomes.zip (bindOutcomes waiting (outcomes.map fun other => other.workItemId))) :
    outcome ∈ outcomes ∧ resolvedIds[index]? = some outcome.workItemId := by
  induction outcomes generalizing waiting with
  | nil => simp at hmem
  | cons head _ ih =>
    refine ⟨(of_mem_zip hmem).1, ?_⟩
    rw [map_cons, bindOutcomes] at hmem
    split at hmem
    · rename_i first later hget
      have hhead : ∀ position ∈ first :: later, resolvedIds[position]? = some head.workItemId := by
        intro position hposition
        exact hwaits head.workItemId position (by simpa [hget] using hposition)
      rcases mem_cons.1 hmem with heq | hrest
      · cases heq
        exact hhead index (by simp)
      · exact (ih (waits_set hwaits fun position hposition =>
          hhead position (by simp [hposition])) hrest).2
    · rcases mem_cons.1 hmem with heq | hrest
      · cases heq
      · exact (ih hwaits hrest).2

/-- A slice in the index was cut for an item with its id. -/
def Indexes (batches : List BatchedF16MultivectorOutput)
    (indexed : Dict String (Except String BatchedF16MultivectorSlice)) : Prop :=
  ∀ workItemId slice, get indexed workItemId = some (.ok slice) →
    ∃ batch ∈ batches, ∃ item ∈ batch.items, item.workItemId = workItemId ∧
      batchedF16MultivectorSlice batch item = .ok slice

theorem indexes_pop (hindexes : Indexes batches indexed) (workItemId : String) :
    Indexes batches (pop indexed workItemId) := by
  intro other slice hget
  rw [get_pop] at hget
  split at hget
  · cases hget
  · exact hindexes other slice hget

theorem indexes_indexBatchedF16Multivectors (batches : List BatchedF16MultivectorOutput) :
    Indexes batches (indexBatchedF16Multivectors batches) := by
  refine List.foldlRecOn _ _ (motive := Indexes batches) ?_ ?_
  · intro workItemId slice hget
    simp at hget
  · intro indexed hindexed entry hentry workItemId slice hget
    rw [insertMultivector, get_set] at hget
    split at hget
    · rename_i heq
      split at hget
      · cases hget
      · obtain ⟨batch, hbatch, hmem⟩ := mem_flatMap.1 hentry
        obtain ⟨item, hitem, rfl⟩ := mem_map.1 hmem
        exact ⟨batch, hbatch, item, hitem, heq, some_inj.1 hget⟩
    · exact hindexed workItemId slice hget

/-! ## What is done for one delivery -/

/-- The token a call settles, if it settles one. -/
def settledToken : Call → Option ℕ
  | .ack token | .nak token _ | .sendResult token _ | .sendRetry token _ => some token
  | .publish .. | .flush => none

section

variable (dispatcher : Dispatcher RawOutput) (outcome : BatchOutcome RawOutput)
  (item : ResolvedWorkItem)

/-- A result made from the outcome reported for an id, with the multivector batched
for the same id, and from nothing the backend said of any other. -/
def ResultFor (result : WorkResultRef) : Prop :=
  ∃ itemOutcome ∈ outcome.outcomes, itemOutcome.workItemId = item.workItem.workItemId ∧
    ∃ multivector, (∀ slice, multivector = some (.ok slice) →
      ∃ batch ∈ outcome.batchedF16Multivectors, ∃ entry ∈ batch.items,
        entry.workItemId = item.workItem.workItemId ∧
          batchedF16MultivectorSlice batch entry = .ok slice) ∧
    ∃ workerId, SameItem (buildWorkResult dispatcher.shapers workerId
      (effectiveOutcome dispatcher.shapers itemOutcome item.callerItemId multivector)
      (publishContext dispatcher item)) result

/-- A call made for a delivery: it sends a result of its item to its caller, or
settles it. -/
def CallFor : Call → Prop
  | .publish subject frame => subject = item.workItem.replySubject ∧
      ∃ publisher result, dispatcher.publisher = some publisher ∧
        ResultFor dispatcher outcome item result ∧ Carries publisher result frame
  | .sendResult token result => token = item.delivery.token ∧
      ResultFor dispatcher outcome item result
  | .ack token | .nak token _ | .sendRetry token _ => token = item.delivery.token
  | .flush => True

/-- The calls made for one delivery. -/
structure SettlesOne (made : Log Call) : Prop where
  calls : ∀ entry ∈ made, CallFor dispatcher outcome item entry.1
  once : (made.filter fun entry => (settledToken entry.1).isSome).length ≤ 1
  acked : ∀ earlier answer later, made = earlier ++ (.ack item.delivery.token, answer) :: later →
    isBlank item.workItem.replySubject = false →
      ∃ publisher result, dispatcher.publisher = some publisher ∧
        ResultFor dispatcher outcome item result ∧
        CompletelyPublished publisher item.workItem.replySubject result earlier

end

theorem effectiveOutcome_workItemId (shapers : Shapers RawOutput)
    (outcome : ItemOutcome RawOutput) (callerItemId : Option String)
    (multivector : Option (Except String BatchedF16MultivectorSlice)) :
    (effectiveOutcome shapers outcome callerItemId multivector).workItemId =
      outcome.workItemId := by
  rcases multivector with - | (- | slice)
  · rfl
  · rfl
  · exact shapeBatched_workItemId ..

theorem ResultFor.workItemId_eq (hresult : ResultFor dispatcher outcome item result) :
    result.workItemId = item.workItem.workItemId := by
  obtain ⟨itemOutcome, -, hid, multivector, -, workerId, hsame⟩ := hresult
  have hbuilt : (buildWorkResult dispatcher.shapers workerId
      (effectiveOutcome dispatcher.shapers itemOutcome item.callerItemId multivector)
      (publishContext dispatcher item)).workItemId = item.workItem.workItemId := by
    simp [buildWorkResult, WorkResultRef.fromOutcome, effectiveOutcome_workItemId, hid]
  rcases hsame with rfl | ⟨oversizedBytes, maxPayload, rfl⟩
  · exact hbuilt
  · exact hbuilt

section OneDelivery

theorem settlesOne_nil : SettlesOne dispatcher outcome item [] where
  calls := by simp
  once := by simp
  acked := by simp

/-- A single call that is no acknowledgement. -/
theorem settlesOne_singleton (hcall : CallFor dispatcher outcome item call)
    (hack : ∀ token, call ≠ .ack token) :
    SettlesOne dispatcher outcome item [(call, answer)] where
  calls := by simpa using hcall
  once := (length_filter_le _ _).trans (by simp)
  acked := by
    intro earlier other later hmade
    have hmem : (Call.ack item.delivery.token, other) ∈ [(call, answer)] := by
      rw [hmade]
      simp
    rw [mem_singleton, Prod.mk.injEq] at hmem
    exact absurd hmem.1.symm (hack _)

theorem nakOne_ensures (delayMs : ℕ) : Ensures (nakOne item.delivery delayMs) fun _ made =>
      SettlesOne dispatcher outcome item made := by
  refine ensures_perform_bind fun answer => ensures_pure _ ?_
  refine settlesOne_singleton ?_ fun token => ?_
  · cases item.delivery.origin <;> exact rfl
  · cases item.delivery.origin <;> simp

/-- The messages of a result of the item, and none that settles anything. -/
theorem calls_of_onlySends (hpublisher : dispatcher.publisher = some publisher)
    (hresult : ∀ published, SameItem result published → ResultFor dispatcher outcome item published)
    (honly : OnlySends publisher item.workItem.replySubject result made) :
    ∀ entry ∈ made, CallFor dispatcher outcome item entry.1 ∧ settledToken entry.1 = none := by
  intro entry hentry
  rcases honly entry hentry with hflush | ⟨frame, published, hcall, hsame, hcarries⟩
  · rw [hflush]
    exact ⟨trivial, rfl⟩
  · rw [hcall]
    exact ⟨⟨rfl, publisher, published, hpublisher, hresult published hsame, hcarries⟩, rfl⟩

theorem settlesOne_of_unsettled (hmade : ∀ entry ∈ made, CallFor dispatcher outcome item entry.1 ∧
      settledToken entry.1 = none) :
    SettlesOne dispatcher outcome item made where
  calls := fun entry hentry => (hmade entry hentry).1
  once := by
    rw [filter_eq_nil_iff.2 fun entry hentry => by simp [(hmade entry hentry).2]]
    simp
  acked := by
    intro earlier answer later heq
    have hack := (hmade (.ack item.delivery.token, answer) (by simp [heq])).2
    cases hack

/-- An acknowledgement after calls that settle nothing and publish the result. -/
theorem settlesOne_ack (hpublisher : dispatcher.publisher = some publisher)
    (hmade : ∀ entry ∈ made, CallFor dispatcher outcome item entry.1 ∧
      settledToken entry.1 = none) (hpublished : isBlank item.workItem.replySubject = false →
      ∃ result, ResultFor dispatcher outcome item result ∧
        CompletelyPublished publisher item.workItem.replySubject result made) :
    SettlesOne dispatcher outcome item (made ++ [(.ack item.delivery.token, answer)]) where
  calls := by
    refine forall_mem_append.2 ⟨fun entry hentry => (hmade entry hentry).1, ?_⟩
    exact forall_mem_singleton.2 rfl
  once := by
    rw [List.filter_append, filter_eq_nil_iff.2 fun entry hentry => by
      simp [(hmade entry hentry).2], nil_append]
    exact (length_filter_le _ _).trans (by simp)
  acked := by
    intro earlier other later heq hreply
    -- the only acknowledgement is the last call
    have hearlier : earlier = made := by
      rcases eq_nil_or_concat later with rfl | ⟨front, last, rfl⟩
      · exact (append_inj_left' heq rfl).symm
      · rw [concat_eq_append, ← cons_append, ← append_assoc] at heq
        have hin := append_inj_left' heq rfl
        have hack := (hmade (.ack item.delivery.token, other) (by simp [hin])).2
        cases hack
    obtain ⟨result, hresult, hcomplete⟩ := hpublished hreply
    exact ⟨publisher, result, hpublisher, hresult, hearlier ▸ hcomplete⟩

theorem applyOutcome_ensures (hresult : ∀ workerId published,
      SameItem (buildWorkResult dispatcher.shapers workerId itemOutcome
        (publishContext dispatcher item)) published →
      ResultFor dispatcher outcome item published) :
    Ensures (applyOutcome dispatcher item itemOutcome) fun _ made =>
      SettlesOne dispatcher outcome item made := by
  unfold applyOutcome
  have hdeliver : Ensures (deliverResult dispatcher item itemOutcome >>= fun
      | .ok () => ack item.delivery
      | .error .emptyReplySubject => ack item.delivery
      | .error _ => pure ()) fun _ made => SettlesOne dispatcher outcome item made := by
    unfold deliverResult ack
    cases horigin : item.delivery.origin with
    | ingest =>
      refine ensures_perform_bind fun answer => ensures_pure _ ?_
      exact settlesOne_singleton ⟨rfl, hresult _ _ (.inl rfl)⟩ (by simp)
    | queue =>
      cases hpublisher : dispatcher.publisher with
      | none => exact ensures_pure _ settlesOne_nil
      | some publisher =>
        refine (publishResult_ensures dispatcher.shapers itemOutcome
          (publishContext dispatcher item)).bind fun value made hsends => ?_
        have hmade := calls_of_onlySends hpublisher (hresult publisher.workerId) hsends.only
        rcases value with error | sent
        · by_cases hmissing : error = .emptyReplySubject
          · subst hmissing
            refine ensures_perform_bind fun answer => ensures_pure _ ?_
            refine settlesOne_ack hpublisher hmade fun hreply => ?_
            rw [hsends.missing rfl] at hreply
            cases hreply
          · have hnothing : Ensures (pure () : Program Call Unit) fun _ rest =>
                SettlesOne dispatcher outcome item (made ++ rest) :=
              ensures_pure _ (by simpa using settlesOne_of_unsettled hmade)
            cases error <;> first | exact hnothing | exact absurd rfl hmissing
        · refine ensures_perform_bind fun answer => ensures_pure _ ?_
          refine settlesOne_ack hpublisher hmade fun _ => ?_
          obtain ⟨published, hsame, hcomplete⟩ := hsends.complete rfl
          exact ⟨published, hresult _ published hsame, hcomplete⟩
  split
  · exact nakOne_ensures _
  · exact hdeliver
  · exact hdeliver

end OneDelivery

/-! ## What is done for a batch -/

/-- The calls of a batch fall into one stretch for each of the given deliveries. -/
def SettlesAll (dispatcher : Dispatcher RawOutput) (outcome : BatchOutcome RawOutput)
    (items : List ResolvedWorkItem) (made : Log Call) : Prop :=
  ∃ stretches : List (ResolvedWorkItem × Log Call),
    (stretches.map Prod.fst).Perm items ∧ made = stretches.flatMap Prod.snd ∧
      ∀ stretch ∈ stretches, SettlesOne dispatcher outcome stretch.1 stretch.2

section Batches

theorem settlesAll_nil : SettlesAll dispatcher outcome [] [] :=
  ⟨[], by simp, by simp, by simp⟩

variable {slots : List (Option ResolvedWorkItem)}

theorem settlesAll_cons (hfirst : SettlesOne dispatcher outcome item first)
    (hrest : SettlesAll dispatcher outcome items rest) :
    SettlesAll dispatcher outcome (item :: items) (first ++ rest) := by
  obtain ⟨stretches, hperm, rfl, hall⟩ := hrest
  refine ⟨(item, first) :: stretches, by simpa using hperm, by simp, ?_⟩
  exact forall_mem_cons.2 ⟨hfirst, hall⟩

theorem SettlesAll.perm (hsettles : SettlesAll dispatcher outcome items made)
    (hperm : items.Perm others) : SettlesAll dispatcher outcome others made := by
  obtain ⟨stretches, hitems, hmade, hall⟩ := hsettles
  exact ⟨stretches, hitems.trans hperm, hmade, hall⟩

theorem nakLeftover_ensures (slots : List (Option ResolvedWorkItem)) :
    Ensures (nakLeftover dispatcher slots) fun _ made =>
      SettlesAll dispatcher outcome slots.reduceOption made := by
  induction slots with
  | nil => exact ensures_pure _ settlesAll_nil
  | cons slot _ ih =>
    cases slot with
    | none => exact ih
    | some item =>
      have hnak : Ensures (nakOne item.delivery dispatcher.baseNakDelayMs)
          fun _ made => SettlesOne dispatcher outcome item made := nakOne_ensures _
      refine hnak.bind fun _ made hmade => ?_
      exact ih.mono fun _ later hlater => settlesAll_cons hmade hlater

/-- Taking a filled slot takes its item and nothing else. -/
theorem perm_reduceOption_set (hslot : slots[index]? = some (some item)) :
    (item :: (slots.set index none).reduceOption).Perm slots.reduceOption := by
  induction slots generalizing index with
  | nil => simp at hslot
  | cons slot _ ih =>
    cases index with
    | zero =>
      obtain rfl : slot = some item := by simpa using hslot
      simp
    | succ =>
      have hrest := ih (by simpa using hslot)
      cases slot with
      | none => simpa using hrest
      | some other =>
        rw [set_cons_succ, reduceOption_cons_of_some, reduceOption_cons_of_some]
        exact (List.Perm.swap other item _).trans (hrest.cons other)

/-- What is left of the batch in the slots that have not been taken. -/
def Holds (resolved : List ResolvedWorkItem) (slots : List (Option ResolvedWorkItem)) :
    Prop :=
  ∀ (index : ℕ) (item : ResolvedWorkItem),
    slots[index]? = some (some item) → resolved[index]? = some item

theorem holds_set (hholds : Holds resolved slots) (taken : ℕ) :
    Holds resolved (slots.set taken none) := by
  intro index item hslot
  rw [List.getElem?_set] at hslot
  split_ifs at hslot
  · simp at hslot
  · exact hholds index item hslot

theorem SettlesAll.append (hfirst : SettlesAll dispatcher outcome items first)
    (hrest : SettlesAll dispatcher outcome others rest) :
    SettlesAll dispatcher outcome (items ++ others) (first ++ rest) := by
  obtain ⟨stretches, hperm, rfl, hall⟩ := hfirst
  obtain ⟨more, hmore, rfl, hallMore⟩ := hrest
  refine ⟨stretches ++ more, by simpa using hperm.append hmore, by simp, ?_⟩
  exact forall_mem_append.2 ⟨hall, hallMore⟩

/-- The loop over the outcomes settles the deliveries it takes, each from an outcome
with its id. -/
theorem applyBound_ensures (hpairs : ∀ itemOutcome index, (itemOutcome, some index) ∈ pairs →
      itemOutcome ∈ outcome.outcomes ∧ (resolved.map fun item => item.workItem.workItemId)[index]? =
          some itemOutcome.workItemId) (hindexes : Indexes outcome.batchedF16Multivectors indexed)
    (hholds : Holds resolved slots) :
    Ensures (applyBound dispatcher pairs indexed slots) fun leftover made =>
      ∃ settled, (settled ++ leftover.reduceOption).Perm slots.reduceOption ∧
        SettlesAll dispatcher outcome settled made := by
  induction pairs generalizing indexed slots with
  | nil => exact ensures_pure _ ⟨[], by simp, settlesAll_nil⟩
  | cons pair rest ih =>
    obtain ⟨itemOutcome, binding⟩ := pair
    have hrest : ∀ other index, (other, some index) ∈ rest → other ∈ outcome.outcomes ∧
          (resolved.map fun item => item.workItem.workItemId)[index]? = some other.workItemId :=
      fun other index hmem => hpairs other index (by simp [hmem])
    cases binding with
    | none => exact ih hrest hindexes hholds
    | some index =>
      unfold applyBound
      split
      · exact ih hrest hindexes hholds
      · rename_i item hslot
        rw [join_eq_some_iff] at hslot
        obtain ⟨hmem, hid⟩ := hpairs itemOutcome index (by simp)
        rw [List.getElem?_map, hholds index item hslot, map_some, some_inj] at hid
        have hone : Ensures (applyOutcome dispatcher item
            (effectiveOutcome dispatcher.shapers itemOutcome item.callerItemId
              (get indexed itemOutcome.workItemId)))
            fun _ made => SettlesOne dispatcher outcome item made := by
          refine applyOutcome_ensures fun workerId published hsame => ?_
          refine ⟨itemOutcome, hmem, hid.symm, _, ?_, workerId, hsame⟩
          intro slice hslice
          exact hid ▸ hindexes itemOutcome.workItemId slice hslice
        refine hone.bind fun _ made hmade => ?_
        refine (ih hrest (indexes_pop hindexes itemOutcome.workItemId)
          (holds_set hholds index)).mono fun leftover later hlater => ?_
        obtain ⟨settled, hperm, hsettles⟩ := hlater
        exact ⟨item :: settled, (hperm.cons item).trans (perm_reduceOption_set hslot),
          settlesAll_cons hmade hsettles⟩

theorem applyOutcomes_ensures (resolved : List ResolvedWorkItem) :
    Ensures (applyOutcomes dispatcher outcome resolved) fun _ made =>
      SettlesAll dispatcher outcome resolved made := by
  have hbound : Ensures (applyBound dispatcher (outcome.outcomes.zip
      (resolveOutcomeIndices (resolved.map fun item => item.workItem.workItemId)
        (outcome.outcomes.map fun itemOutcome => itemOutcome.workItemId)))
      (indexBatchedF16Multivectors outcome.batchedF16Multivectors) (resolved.map some))
      fun leftover made => ∃ settled,
        (settled ++ leftover.reduceOption).Perm (resolved.map some).reduceOption ∧
          SettlesAll dispatcher outcome settled made := by
    have hholds : Holds resolved (resolved.map some) := by
      intro index item hslot
      simpa using hslot
    exact applyBound_ensures (fun _ _ hmem => mem_zip_bindOutcomes (waits_waitingIndexes _) hmem)
      (indexes_indexBatchedF16Multivectors _) hholds
  refine hbound.bind fun leftover made hmade => ?_
  obtain ⟨settled, hperm, hsettles⟩ := hmade
  have hresolved : (resolved.map some).reduceOption = resolved := by
    simp [List.reduceOption]
  rw [hresolved] at hperm
  exact (nakLeftover_ensures leftover).mono fun _ rest hrest =>
    (hsettles.append hrest).perm hperm

end Batches

/-! ## Settlement of a batch -/

theorem completelyPublished_append
    (hpublished : CompletelyPublished publisher replySubject result log) (before : Log Call) :
    CompletelyPublished publisher replySubject result (before ++ log) := by
  rcases hpublished with hsingle | ⟨bytes, plan, hbytes, hplanned, hchunks⟩
  · exact .inl (mem_append_right before hsingle)
  · exact .inr ⟨bytes, plan, hbytes, hplanned, hchunks.trans (suffix_append before log).isInfix⟩

/-- A call for one delivery settles no other. -/
theorem token_eq_of_callFor (hcall : CallFor dispatcher outcome item call)
    (hsettles : settledToken call = some token) : token = item.delivery.token := by
  cases call with
  | publish => cases hsettles
  | flush => cases hsettles
  | sendResult => exact (some_inj.1 hsettles).symm.trans hcall.1
  | _ => exact (some_inj.1 hsettles).symm.trans hcall

/-- The calls for a delivery, between calls that settle other deliveries only. -/
theorem SettlesAll.stretch_of_mem {batch : Batch}
    (hsettles : SettlesAll dispatcher outcome batch.items made) (hitem : item ∈ batch.items) :
    ∃ before own after, made = before ++ own ++ after ∧ SettlesOne dispatcher outcome item own ∧
      ∀ entry ∈ before ++ after, settledToken entry.1 ≠ some item.delivery.token := by
  obtain ⟨stretches, hperm, rfl, hall⟩ := hsettles
  obtain ⟨stretch, hstretch, rfl⟩ := mem_map.1 (hperm.symm.subset hitem)
  obtain ⟨front, back, rfl⟩ := append_of_mem hstretch
  refine ⟨front.flatMap Prod.snd, stretch.2, back.flatMap Prod.snd, by simp,
    hall stretch hstretch, ?_⟩
  intro entry hentry hsettled
  have hother : entry ∈ (front ++ back).flatMap Prod.snd := by simpa using hentry
  obtain ⟨other, hmem, hin⟩ := mem_flatMap.1 hother
  have htoken := token_eq_of_callFor ((hall other (by
    rcases mem_append.1 hmem with hmem | hmem <;> simp [hmem])).calls entry hin)
    hsettled
  -- the tokens of the stretches are those of the batch, so no two agree
  have hdistinct := (((hperm.map fun item => item.delivery.token).nodup_iff).2 batch.distinct)
  rw [map_map, map_append, map_cons, nodup_middle] at hdistinct
  refine (nodup_cons.1 hdistinct).1 ?_
  rw [← map_append]
  exact mem_map.2 ⟨other, hmem, htoken.symm⟩

theorem SettlesAll.callFor (hsettles : SettlesAll dispatcher outcome items made) :
    ∀ entry ∈ made, ∃ item ∈ items, CallFor dispatcher outcome item entry.1 := by
  obtain ⟨stretches, hperm, rfl, hall⟩ := hsettles
  intro entry hentry
  obtain ⟨stretch, hstretch, hin⟩ := mem_flatMap.1 hentry
  exact ⟨stretch.1, hperm.subset (mem_map_of_mem hstretch), (hall stretch hstretch).calls entry hin⟩

section OwnStretch

variable {after : Log Call}

section

variable (hown : SettlesOne dispatcher outcome item own)
  (hothers : ∀ entry ∈ before ++ after, settledToken entry.1 ≠ some item.delivery.token)
include hown hothers

theorem SettlesOne.filter_append : ((before ++ own ++ after).filter fun entry =>
      settledToken entry.1 = some item.delivery.token).length ≤ 1 := by
  have hnone : ∀ part, part ⊆ before ++ after → part.filter (fun entry =>
      decide (settledToken entry.1 = some item.delivery.token)) = [] := by
    intro part hpart
    exact filter_eq_nil_iff.2 fun entry hentry => by
      simpa using hothers entry (hpart hentry)
  rw [List.filter_append, List.filter_append, hnone before (by simp), hnone after (by simp),
    nil_append, append_nil]
  refine le_trans (Sublist.length_le (monotone_filter_right own ?_)) hown.once
  intro entry hentry
  simp [of_decide_eq_true hentry]

theorem SettlesOne.acked_append
    (hmade : before ++ own ++ after = earlier ++ (.ack item.delivery.token, answer) :: later)
    (hreply : isBlank item.workItem.replySubject = false) :
    ∃ publisher result, dispatcher.publisher = some publisher ∧
      result.workItemId = item.workItem.workItemId ∧
      ResultFor dispatcher outcome item result ∧
      CompletelyPublished publisher item.workItem.replySubject result earlier := by
  have hout : ∀ part, part ⊆ before ++ after → (Call.ack item.delivery.token, answer) ∉ part :=
    fun part hpart hmem => hothers _ (hpart hmem) rfl
  rw [append_assoc] at hmade
  obtain ⟨first, rest, rfl, hearlier⟩ :=
    mem_middle (hout before (by simp)) (hout after (by simp)) hmade
  obtain ⟨publisher, result, hpublisher, hresult, hpublished⟩ :=
    hown.acked first answer rest rfl hreply
  exact ⟨publisher, result, hpublisher, hresult.workItemId_eq, hresult,
    hearlier ▸ completelyPublished_append hpublished before⟩

end

end OwnStretch

/-- However the backend answers and whichever calls fail, a batch settles each
delivery at most once, acknowledges one with a reply subject only when a result with
its item id has been published there as a whole, and sends to each caller nothing
but results made from what the backend reported for the caller's own item. -/
theorem applyOutcomes_settles_deliveries (dispatcher : Dispatcher RawOutput)
    (outcome : BatchOutcome RawOutput) (batch : Batch) (environment : Environment Call) :
    (∀ item ∈ batch.items,
      (((applyOutcomes dispatcher outcome batch.items).calls environment).filter
        fun entry => settledToken entry.1 = some item.delivery.token).length ≤ 1 ∧
      ∀ earlier answer later, (applyOutcomes dispatcher outcome batch.items).calls environment =
          earlier ++ (.ack item.delivery.token, answer) :: later →
        isBlank item.workItem.replySubject = false →
          ∃ publisher result, dispatcher.publisher = some publisher ∧
            result.workItemId = item.workItem.workItemId ∧
            ResultFor dispatcher outcome item result ∧
            CompletelyPublished publisher item.workItem.replySubject result earlier) ∧
    (∀ subject frame answer, (.publish subject frame, answer) ∈
        (applyOutcomes dispatcher outcome batch.items).calls environment →
      ∃ item ∈ batch.items, subject = item.workItem.replySubject ∧
        ∃ publisher result, dispatcher.publisher = some publisher ∧
          result.workItemId = item.workItem.workItemId ∧
          ResultFor dispatcher outcome item result ∧ Carries publisher result frame) ∧
    ∀ token result answer, (.sendResult token result, answer) ∈
        (applyOutcomes dispatcher outcome batch.items).calls environment →
      ∃ item ∈ batch.items, token = item.delivery.token ∧
        result.workItemId = item.workItem.workItemId ∧
        ResultFor dispatcher outcome item result := by
  have hsettles : SettlesAll dispatcher outcome batch.items
      ((applyOutcomes dispatcher outcome batch.items).calls environment) :=
    applyOutcomes_ensures batch.items environment []
  have hcalls := hsettles.callFor
  refine ⟨fun item hitem => ?_, ?_, ?_⟩
  · obtain ⟨before, own, after, hmade, hown, hothers⟩ := hsettles.stretch_of_mem hitem
    rw [hmade]
    exact ⟨hown.filter_append hothers, fun earlier answer later heq hreply =>
      hown.acked_append hothers heq hreply⟩
  · intro subject frame answer hmem
    obtain ⟨item, hitem, hsubject, publisher, result, hpublisher, hresult, hcarries⟩ :=
      hcalls _ hmem
    exact ⟨item, hitem, hsubject, publisher, result, hpublisher, hresult.workItemId_eq,
      hresult, hcarries⟩
  · intro token result answer hmem
    obtain ⟨item, hitem, htoken, hresult⟩ := hcalls _ hmem
    exact ⟨item, hitem, htoken, hresult.workItemId_eq, hresult⟩

section Instances

def delivered (token : ℕ) (id reply : String) : ResolvedWorkItem :=
  ⟨⟨id, reply, 0, false, ""⟩, ⟨token, .queue "work"⟩, 0, none⟩

def twoDeliveries : Batch :=
  ⟨[delivered 0 "a" "reply-a", delivered 1 "b" "reply-b"], by decide⟩

/-- Outcomes for an id the batch does not have and, twice, for its second item. -/
def mismatched : BatchOutcome Unit :=
  ⟨["x", "b", "b"].map fun id => ⟨id, "req", 0, .publishAndAck, none, [7], none, none, none,
    none, none, none, none⟩, []⟩

def plainDispatcher : Dispatcher Unit :=
  ⟨some ⟨"worker", 100, fun _ => List.Vector.replicate 32 0, fun _ => some [1]⟩, "worker",
    ⟨fun _ _ => .ok [], fun _ _ _ _ => .ok []⟩, none, id, 50⟩

def mismatchedCalls : Log Call :=
  (applyOutcomes plainDispatcher mismatched twoDeliveries.items).calls fun _ _ => true

/-- The second delivery is published and acknowledged, the first one handed back. -/
theorem applyOutcomes_settles_deliveries_mismatched :
    mismatchedCalls = mismatchedCalls.take 1 ++ [(.ack 1, true), (.nak 0 50, true)] ∧
      ∃ publisher result, plainDispatcher.publisher = some publisher ∧ result.workItemId = "b" ∧
        CompletelyPublished publisher "reply-b" result (mismatchedCalls.take 1) := by
  have hcalls : mismatchedCalls =
      mismatchedCalls.take 1 ++ [(.ack 1, true), (.nak 0 50, true)] := by decide +kernel
  obtain ⟨hitems, -⟩ := applyOutcomes_settles_deliveries plainDispatcher mismatched
    twoDeliveries (fun _ _ => true)
  obtain ⟨-, hacked⟩ := hitems (delivered 1 "b" "reply-b") (by decide)
  obtain ⟨publisher, result, hpublisher, hid, -, hpublished⟩ := hacked _ _ _ hcalls rfl
  exact ⟨hcalls, publisher, result, hpublisher, hid, hpublished⟩

end Instances

end SieCluster.Settlement
