import SieCluster.Core.Runs

/-!
# The batch former

Requests wait in one list under one lock.  A batch is cut from the front of the
list after a stable sort by cost, so it may leave requests behind that are older
than some it takes.  The total cost, the times of the oldest and the newest
request and the time stamp that other tasks read without the lock are kept
beside the list.
-/

namespace SieCluster.BatchFormer

open Option hiding filter filter_filter map map_map
open List
open Runs

/-- What an item tells the batcher. -/
class HasCost (Item : Type*) where
  cost : Item → ℕ
  hardBatchCostCap : Item → Option ℕ

open HasCost

variable {Item Metadata : Type*} [HasCost Item]

section

variable (Item Metadata : Type*)

/-- Times are in nanoseconds. -/
structure PendingRequest where
  item : Item
  metadata : Metadata
  arrivalTime : ℕ

inductive FlushReason where
  | costCap
  | countCap
  | timeout
  | coalesce
  | singleOversize
  | idleBypass
  | drain
  deriving DecidableEq

structure FormattedBatch where
  items : List Item
  metadata : List Metadata
  totalCost : ℕ
  flushReason : FlushReason

structure BatchConfig where
  maxBatchCost : ℕ
  maxBatchRequests : ℕ
  maxBatchWaitMs : ℚ
  coalesceMs : ℚ
  coalesceRatio : ℚ
  deriving DecidableEq

def BatchConfig.effectiveCoalesceMs (config : BatchConfig) : ℚ :=
  min config.coalesceMs (config.maxBatchWaitMs * config.coalesceRatio)

structure Inner where
  pending : List (PendingRequest Item Metadata)
  totalCost : ℕ
  firstRequestTime : Option ℕ
  lastSubmitTime : Option ℕ
  config : BatchConfig

/-- `fcfsHeadNs` is read without the lock, and zero when nothing is pending. -/
structure Former where
  inner : Inner Item Metadata
  epoch : ℕ
  fcfsHeadNs : ℕ

end

def Former.withEpoch (config : BatchConfig) (epoch : ℕ) : Former Item Metadata :=
  ⟨⟨[], 0, none, none, config⟩, epoch, 0⟩

section Submitting

def appendItem (inner : Inner Item Metadata) (item : Item) (metadata : Metadata) (now : ℕ) :
    Inner Item Metadata :=
  { inner with
    pending := inner.pending ++ [⟨item, metadata, now⟩]
    totalCost := inner.totalCost + cost item
    firstRequestTime := some (inner.firstRequestTime.getD now)
    lastSubmitTime := some now }

def maxTimestamp : ℕ := 2 ^ 64 - 1

/-- Zero is reserved for an empty batcher. -/
def timestampNs (epoch instant : ℕ) : ℕ :=
  max (min (instant - epoch) maxTimestamp) 1

section

variable (former : Former Item Metadata)

def Former.refreshFcfsHead : Former Item Metadata :=
  { former with
    fcfsHeadNs := (former.inner.firstRequestTime.map (timestampNs former.epoch)).getD 0 }

/-- The head is refreshed when the queue was empty. -/
def Former.refreshIfEmpty (inner : Inner Item Metadata) : Former Item Metadata :=
  if former.inner.pending.isEmpty then { former with inner := inner }.refreshFcfsHead
  else { former with inner := inner }

def Former.submit (item : Item) (metadata : Metadata) (now : ℕ) : Former Item Metadata :=
  former.refreshIfEmpty (appendItem former.inner item metadata now)

def appendAll (inner : Inner Item Metadata) (items : List (Item × Metadata × ℕ)) :
    Inner Item Metadata :=
  items.foldl (fun inner entry => appendItem inner entry.1 entry.2.1 entry.2.2) inner

/-- Each item comes with the time at which it is appended. -/
def Former.submitMany (items : List (Item × Metadata × ℕ)) : Former Item Metadata :=
  if items.isEmpty then former else former.refreshIfEmpty (appendAll former.inner items)

def Former.updateConfig (config : BatchConfig) : Former Item Metadata :=
  { former with inner := { former.inner with config := config } }

end

end Submitting

section Flushing

def elapsedMs (since now : ℕ) : ℚ :=
  ((now - since : ℕ) : ℚ) / 1000000

section

variable (inner : Inner Item Metadata)

def batchTimeoutExpired (now : ℕ) : Bool :=
  inner.firstRequestTime.any fun first => inner.config.maxBatchWaitMs ≤ elapsedMs first now

def coalesceExpired (now : ℕ) : Bool :=
  !inner.pending.isEmpty &&
    inner.lastSubmitTime.any fun last => inner.config.effectiveCoalesceMs ≤ elapsedMs last now

def effectiveMaxCost : ℕ :=
  (inner.pending.filterMap fun request => hardBatchCostCap request.item).foldl min
    inner.config.maxBatchCost

def flushReason (immediate : Bool) (now : ℕ) : Option FlushReason :=
  if inner.pending.isEmpty then none
  else if inner.pending.length = 1 ∧ inner.totalCost > effectiveMaxCost inner then
    some .singleOversize
  else if inner.totalCost ≥ effectiveMaxCost inner then some .costCap
  else if inner.pending.length ≥ inner.config.maxBatchRequests then some .countCap
  else if batchTimeoutExpired inner now then some .timeout
  else if coalesceExpired inner now then some .coalesce
  else if immediate then some .idleBypass
  else none

def cheaper (first second : PendingRequest Item Metadata) : Prop :=
  cost first.item ≤ cost second.item

instance : DecidableRel (cheaper : PendingRequest Item Metadata → _ → Prop) :=
  fun _ _ => inferInstanceAs (Decidable (_ ≤ _))

/-- The greedy loop: the cost and the number of the requests that are taken.  The first
one is taken even if it exceeds the cost cap alone. -/
def pack (maxItems maxCost maxRequests : ℕ) : ℕ → ℕ → List (PendingRequest Item Metadata) → ℕ × ℕ
  | batchCost, takeCount, [] => (batchCost, takeCount)
  | batchCost, takeCount, request :: rest =>
    if takeCount ≥ maxItems then (batchCost, takeCount)
    else if batchCost + cost request.item > maxCost ∧ takeCount > 0 then (batchCost, takeCount)
    else if takeCount + 1 ≥ maxRequests then (batchCost + cost request.item, takeCount + 1)
    else pack maxItems maxCost maxRequests (batchCost + cost request.item) (takeCount + 1) rest

/-- Both times are set again from the requests that remain. -/
def retimed (pending : List (PendingRequest Item Metadata))
    (totalCost : ℕ) : Inner Item Metadata where
  pending := pending
  totalCost := totalCost
  firstRequestTime := (pending.map PendingRequest.arrivalTime).min?
  lastSubmitTime := (pending.map PendingRequest.arrivalTime).max?
  config := inner.config

def extractBatchUpTo (reason : FlushReason) (maxItems : ℕ) :
    FormattedBatch Item Metadata × Inner Item Metadata :=
  let sorted := inner.pending.insertionSort cheaper
  let packed := pack maxItems (effectiveMaxCost { inner with pending := sorted })
    inner.config.maxBatchRequests 0 0 sorted
  let drained := sorted.take packed.2
  (⟨drained.map PendingRequest.item, drained.map PendingRequest.metadata, packed.1, reason⟩,
    retimed inner (sorted.drop packed.2) (inner.totalCost - packed.1))

def usizeMax : ℕ := 2 ^ 64 - 1

def extractBatch (reason : FlushReason) : FormattedBatch Item Metadata × Inner Item Metadata :=
  extractBatchUpTo inner reason usizeMax

end

section

variable (former : Former Item Metadata)

def Former.extract (result : FormattedBatch Item Metadata × Inner Item Metadata) :
    FormattedBatch Item Metadata × Former Item Metadata :=
  (result.1, { former with inner := result.2 }.refreshFcfsHead)

/-- One turn of the loop of `get_batch`: no batch means that it waits.  `try_get_batch` is
such a turn that is not immediate. -/
def Former.getBatch (immediate : Bool) (now : ℕ) :
    Option (FormattedBatch Item Metadata × Former Item Metadata) :=
  (flushReason former.inner immediate now).map fun reason =>
    former.extract (extractBatch former.inner reason)

def Former.tryDrainUpTo (maxItems : ℕ) :
    Option (FormattedBatch Item Metadata × Former Item Metadata) :=
  if maxItems = 0 ∨ former.inner.pending.isEmpty then none
  else some (former.extract (extractBatchUpTo former.inner .drain maxItems))

end

end Flushing

/-! ## What is kept beside the list -/

section

variable (pending : List (PendingRequest Item Metadata))

def arrivals : List ℕ :=
  pending.map PendingRequest.arrivalTime

def totalOf : ℕ :=
  (pending.map fun request => cost request.item).sum

/-- The summaries are those of the pending requests, all of which came before `clock`. -/
structure Sound (former : Former Item Metadata) (clock : ℕ) : Prop where
  totalCost : former.inner.totalCost = totalOf former.inner.pending
  first : former.inner.firstRequestTime = (arrivals former.inner.pending).min?
  last : former.inner.lastSubmitTime = (arrivals former.inner.pending).max?
  head : former.fcfsHeadNs =
    ((arrivals former.inner.pending).min?.map (timestampNs former.epoch)).getD 0
  arrived : ∀ arrival ∈ arrivals former.inner.pending, arrival ≤ clock

variable {now : ℕ}

theorem min?_concat (hbefore : ∀ time ∈ times, time ≤ now) :
    (times ++ [now]).min? = some (times.min?.getD now) := by
  cases hmin : times.min? with
  | none => simp [List.min?_eq_none_iff.1 hmin]
  | some least =>
    obtain ⟨hmem, hleast⟩ := List.min?_eq_some_iff.1 hmin
    rw [List.min?_eq_some_iff, getD_some]
    refine ⟨mem_append_left _ hmem, ?_⟩
    refine forall_mem_append.2 ⟨hleast, forall_mem_singleton.2 ?_⟩
    exact hbefore least hmem

theorem max?_concat (hbefore : ∀ time ∈ times, time ≤ now) : (times ++ [now]).max? = some now := by
  rw [List.max?_eq_some_iff]
  exact ⟨by simp, forall_mem_append.2 ⟨hbefore, forall_mem_singleton.2 le_rfl⟩⟩

omit [HasCost Item] in
theorem arrivals_concat (item : Item) (metadata : Metadata) (now : ℕ) :
    arrivals (pending ++ [⟨item, metadata, now⟩]) = arrivals pending ++ [now] := by
  simp [arrivals]

end

theorem totalOf_append (first second : List (PendingRequest Item Metadata)) :
    totalOf (first ++ second) = totalOf first + totalOf second := by
  simp [totalOf]

theorem totalOf_perm {first second : List (PendingRequest Item Metadata)}
    (hperm : first.Perm second) : totalOf first = totalOf second :=
  (hperm.map _).sum_eq

/-- The part of the invariant that the lock protects. -/
structure SoundInner (inner : Inner Item Metadata) (clock : ℕ) : Prop where
  totalCost : inner.totalCost = totalOf inner.pending
  first : inner.firstRequestTime = (arrivals inner.pending).min?
  last : inner.lastSubmitTime = (arrivals inner.pending).max?
  arrived : ∀ arrival ∈ arrivals inner.pending, arrival ≤ clock

variable {former : Former Item Metadata}

theorem Sound.soundInner (hsound : Sound former clock) : SoundInner former.inner clock :=
  { hsound with }

theorem Sound.later (hsound : Sound former clock) (hclock : clock ≤ now) : Sound former now :=
  { hsound with arrived := fun arrival hmem => (hsound.arrived arrival hmem).trans hclock }

theorem SoundInner.refresh
    (hsound : SoundInner former.inner clock) : Sound former.refreshFcfsHead clock := by
  refine { hsound with head := ?_ }
  simp only [Former.refreshFcfsHead]
  rw [hsound.first]

variable {inner : Inner Item Metadata}

theorem appendItem_sound (hsound : SoundInner inner clock) (hclock : clock ≤ now) (item : Item)
    (metadata : Metadata) : SoundInner (appendItem inner item metadata now) now := by
  have hbefore : ∀ arrival ∈ arrivals inner.pending, arrival ≤ now :=
    fun arrival hmem => (hsound.arrived arrival hmem).trans hclock
  refine ⟨?_, ?_, ?_, ?_⟩
  · simp only [appendItem, totalOf_append, hsound.totalCost]
    simp [totalOf]
  · simp only [appendItem, arrivals_concat, min?_concat hbefore, hsound.first]
  · simp only [appendItem, arrivals_concat, max?_concat hbefore]
  · intro arrival hmem
    simp only [appendItem, arrivals_concat] at hmem
    rcases mem_append.1 hmem with hold | hnew
    · exact hbefore arrival hold
    · exact (mem_singleton.1 hnew).le

/-- The last of the times, or the one before all of them. -/
def lastOf (clock : ℕ) (items : List (Item × Metadata × ℕ)) : ℕ :=
  items.foldl (fun _ entry => entry.2.2) clock

/-- Each time is at or after the one before it. -/
def InTime (clock : ℕ) : List (Item × Metadata × ℕ) → Prop
  | [] => True
  | entry :: rest => clock ≤ entry.2.2 ∧ InTime entry.2.2 rest

theorem appendAll_sound (hsound : SoundInner inner clock) (hintime : InTime clock items) :
    SoundInner (appendAll inner items) (lastOf clock items) := by
  induction items generalizing inner clock with
  | nil => exact hsound
  | cons entry _ ih =>
    exact ih (appendItem_sound hsound hintime.1 entry.1 entry.2.1) hintime.2

/-- Requests at the end do not change the time of the first. -/
theorem appendAll_first (hfirst : inner.firstRequestTime = some first) :
    (appendAll inner items).firstRequestTime = some first := by
  induction items generalizing inner with
  | nil => exact hfirst
  | cons _ _ ih =>
    refine ih ?_
    simp [appendItem, hfirst]

theorem refreshIfEmpty_sound (hsound : Sound former clock) (hinner : SoundInner inner now)
    (hkept : ∀ first, former.inner.firstRequestTime = some first →
      inner.firstRequestTime = some first) :
    Sound (former.refreshIfEmpty inner) now := by
  unfold Former.refreshIfEmpty
  split
  · exact SoundInner.refresh hinner
  · rename_i hnonempty
    refine { hinner with head := ?_ }
    obtain ⟨first, hfirst⟩ : ∃ first, (arrivals former.inner.pending).min? = some first := by
      rw [← isSome_iff_exists, isSome_iff_ne_none, ne_eq, List.min?_eq_none_iff]
      simpa [arrivals] using hnonempty
    have hsame := hkept first (hsound.first.trans hfirst)
    have hhead := hsound.head
    rw [hfirst] at hhead
    rw [hinner.first] at hsame
    rw [hsame]
    exact hhead

theorem submit_sound
    (hsound : Sound former clock) (hclock : clock ≤ now) (item : Item) (metadata : Metadata) :
    Sound (former.submit item metadata now) now := by
  refine refreshIfEmpty_sound hsound (appendItem_sound hsound.soundInner hclock item metadata) ?_
  intro first hfirst
  simp [appendItem, hfirst]

theorem submitMany_sound (hsound : Sound former clock) (hintime : InTime clock items) :
    Sound (former.submitMany items) (lastOf clock items) := by
  unfold Former.submitMany
  split
  · rename_i hempty
    rw [isEmpty_iff.1 hempty]
    exact hsound
  · exact refreshIfEmpty_sound hsound (appendAll_sound hsound.soundInner hintime)
      fun first => appendAll_first

/-! ## Cutting a batch -/

/-- What the loop has taken when it stops, and why it stops.  It counts after it takes, so
that a limit of no requests works like a limit of one. -/
structure Packed (maxItems maxCost maxRequests batchCost takeCount : ℕ)
    (requests : List (PendingRequest Item Metadata)) (taken : ℕ) : Prop where
  result : pack maxItems maxCost maxRequests batchCost takeCount requests =
    (batchCost + totalOf (requests.take taken), takeCount + taken)
  items : taken = 0 ∨ takeCount + taken ≤ maxItems
  count : takeCount + taken ≤ max maxRequests 1
  price : taken = 0 ∨ takeCount + taken = 1 ∨ batchCost + totalOf (requests.take taken) ≤ maxCost
  stops : requests.length ≤ taken ∨ maxItems ≤ takeCount + taken ∨
    max maxRequests 1 ≤ takeCount + taken ∨
      0 < takeCount + taken ∧ maxCost < batchCost + totalOf (requests.take (taken + 1))

theorem exists_packed (maxItems maxCost maxRequests batchCost : ℕ)
    (requests : List (PendingRequest Item Metadata)) (hroom : takeCount < max maxRequests 1) :
    ∃ taken, Packed maxItems maxCost maxRequests batchCost takeCount requests taken := by
  induction requests generalizing batchCost takeCount with
  | nil => exact ⟨0, rfl, .inl rfl, hroom.le, .inl rfl, .inl le_rfl⟩
  | cons request rest ih =>
    have htotal (count : ℕ) : totalOf ((request :: rest).take (count + 1)) =
        cost request.item + totalOf (rest.take count) := by
      simp [totalOf]
    by_cases hitems : takeCount ≥ maxItems
    · exact ⟨0, by simp [pack, hitems, totalOf], .inl rfl, hroom.le, .inl rfl, .inr (.inl hitems)⟩
    by_cases hcost : batchCost + cost request.item > maxCost ∧ takeCount > 0
    · refine ⟨0, by simp [pack, hitems, hcost, totalOf], .inl rfl, hroom.le, .inl rfl, ?_⟩
      exact .inr (.inr (.inr ⟨hcost.2, by simpa [totalOf] using hcost.1⟩))
    by_cases hfull : takeCount + 1 ≥ maxRequests
    · refine ⟨1, ?_, .inr (by omega), hroom, ?_, .inr (.inr (.inl (by omega)))⟩
      · rw [pack, if_neg hitems, if_neg hcost, if_pos hfull, htotal]
        simp [totalOf]
      · rw [htotal]
        simp only [totalOf, take_zero, map_nil, sum_nil]
        omega
    · have hnext : takeCount + 1 < max maxRequests 1 := by omega
      obtain ⟨taken, hresult, hcount, hrequests, hprice, hstops⟩ :=
        ih (batchCost + cost request.item) hnext
      refine ⟨taken + 1, ?_, by omega, by omega, ?_, ?_⟩
      · rw [pack, if_neg hitems, if_neg hcost, if_neg hfull, hresult, htotal]
        simp only [Prod.mk.injEq]
        omega
      · rw [htotal]
        rcases Nat.eq_zero_or_pos taken with rfl | htaken
        · simp only [totalOf, take_zero, map_nil, sum_nil]
          omega
        · omega
      · rw [htotal, length_cons]
        omega

section

variable (inner : Inner Item Metadata) (reason : FlushReason) (maxItems : ℕ)

/-- A batch is what the loop takes of the sorted list. -/
theorem exists_extracted :
    ∃ taken, Packed maxItems (effectiveMaxCost inner) inner.config.maxBatchRequests 0 0
        (inner.pending.insertionSort cheaper) taken ∧
      extractBatchUpTo inner reason maxItems =
        let drained := (inner.pending.insertionSort cheaper).take taken
        (⟨drained.map PendingRequest.item, drained.map PendingRequest.metadata,
            totalOf drained, reason⟩,
          retimed inner ((inner.pending.insertionSort cheaper).drop taken)
            (inner.totalCost - totalOf drained)) := by
  have hcaps : effectiveMaxCost { inner with pending := inner.pending.insertionSort cheaper } =
      effectiveMaxCost inner :=
    ((perm_insertionSort cheaper inner.pending).filterMap _).foldl_eq _
  have hroom : 0 < max inner.config.maxBatchRequests 1 := by simp
  obtain ⟨taken, hpacked⟩ := exists_packed maxItems (effectiveMaxCost inner)
    inner.config.maxBatchRequests 0 (inner.pending.insertionSort cheaper) hroom
  refine ⟨taken, hpacked, ?_⟩
  simp only [extractBatchUpTo, hcaps, hpacked.result, zero_add]

/-- A batch is a front part of the sorted list, and the rest stays. -/
theorem extractBatchUpTo_eq :
    ∃ drained rest, inner.pending.insertionSort cheaper = drained ++ rest ∧
      extractBatchUpTo inner reason maxItems =
        (⟨drained.map PendingRequest.item, drained.map PendingRequest.metadata,
            totalOf drained, reason⟩,
          retimed inner rest (inner.totalCost - totalOf drained)) := by
  obtain ⟨taken, -, hbatch⟩ := exists_extracted inner reason maxItems
  exact ⟨_, _, (take_append_drop taken _).symm, hbatch⟩

end

/-- The sort keeps the order of requests of one cost. -/
theorem filter_insertionSort_cheaper (pending : List (PendingRequest Item Metadata)) (price : ℕ) :
    (pending.insertionSort cheaper).filter (fun request => cost request.item = price) =
      pending.filter (fun request => cost request.item = price) := by
  have hordered : (pending.filter fun request => cost request.item = price).Pairwise cheaper := by
    refine Pairwise.imp_of_mem ?_ (pairwise_of_forall fun _ _ => trivial)
    intro first second hfirst hsecond _
    have hprices : cost first.item = price ∧ cost second.item = price := by
      simpa using And.intro (of_mem_filter hfirst) (of_mem_filter hsecond)
    exact (hprices.1.trans hprices.2.symm).le
  have hsublist := (sublist_insertionSort hordered filter_sublist).filter
    (fun request => cost request.item = price)
  rw [filter_filter] at hsublist
  simp only [Bool.and_self] at hsublist
  have hlength := ((perm_insertionSort cheaper pending).filter
    (fun request => cost request.item = price)).length_eq
  exact (hsublist.eq_of_length hlength.symm).symm

theorem retimed_sound (hsound : SoundInner inner clock)
    {drained rest : List (PendingRequest Item Metadata)}
    (hsorted : inner.pending.insertionSort cheaper = drained ++ rest) :
    SoundInner (retimed inner rest (inner.totalCost - totalOf drained)) clock := by
  have hperm : (drained ++ rest).Perm inner.pending :=
    hsorted ▸ perm_insertionSort cheaper inner.pending
  have htotal := totalOf_perm hperm
  rw [totalOf_append, ← hsound.totalCost] at htotal
  refine ⟨?_, rfl, rfl, ?_⟩
  · simp only [retimed]
    omega
  · intro arrival hmem
    obtain ⟨request, hrequest, rfl⟩ := mem_map.1 hmem
    exact hsound.arrived _ (mem_map_of_mem (hperm.mem_iff.1 (mem_append_right _ hrequest)))

theorem extractBatchUpTo_sound (hsound : Sound former clock) (reason : FlushReason) (maxItems : ℕ) :
    Sound (former.extract (extractBatchUpTo former.inner reason maxItems)).2 clock := by
  obtain ⟨drained, rest, hsorted, hbatch⟩ := extractBatchUpTo_eq former.inner reason maxItems
  rw [hbatch]
  exact SoundInner.refresh (retimed_sound hsound.soundInner hsorted)

/-! ## Whole runs -/

/-- A former with the history of what came in and what was handed out. -/
structure Session (Item Metadata : Type*) where
  former : Former Item Metadata
  clock : ℕ
  submitted : List (Item × Metadata)
  batches : List (FormattedBatch Item Metadata)

def Session.start (config : BatchConfig) (epoch : ℕ) : Session Item Metadata :=
  ⟨Former.withEpoch config epoch, epoch, [], []⟩

inductive Operation (Item Metadata : Type*) where
  | submit (item : Item) (metadata : Metadata) (now : ℕ)
  | submitMany (items : List (Item × Metadata × ℕ))
  | updateConfig (config : BatchConfig)
  | getBatch (immediate : Bool) (now : ℕ)
  | tryGetBatch (now : ℕ)
  | tryDrainUpTo (maxItems : ℕ)

instance (clock : ℕ) : (items : List (Item × Metadata × ℕ)) → Decidable (InTime clock items)
  | [] => inferInstanceAs (Decidable True)
  | entry :: rest =>
    haveI := instDecidableInTime entry.2.2 rest
    inferInstanceAs (Decidable (_ ∧ _))

section

variable (session : Session Item Metadata)

/-- A batch that was cut is handed out. -/
def Session.receive (now : ℕ)
    (result : Option (FormattedBatch Item Metadata × Former Item Metadata)) :
    Session Item Metadata :=
  match result with
  | none => { session with clock := now }
  | some (batch, former) => ⟨former, now, session.submitted, session.batches ++ [batch]⟩

/-- The clock is monotonic: an operation that reads an earlier time cannot happen. -/
def Session.step : Operation Item Metadata → Option (Session Item Metadata)
  | .submit item metadata now =>
    if session.clock ≤ now then
      some ⟨session.former.submit item metadata now, now,
        session.submitted ++ [(item, metadata)], session.batches⟩
    else none
  | .submitMany items =>
    if InTime session.clock items then
      some ⟨session.former.submitMany items, lastOf session.clock items,
        session.submitted ++ items.map (fun entry => (entry.1, entry.2.1)), session.batches⟩
    else none
  | .updateConfig config =>
    some { session with former := session.former.updateConfig config }
  | .getBatch immediate now =>
    if session.clock ≤ now then
      some (session.receive now (session.former.getBatch immediate now))
    else none
  | .tryGetBatch now =>
    if session.clock ≤ now then
      some (session.receive now (session.former.getBatch false now))
    else none
  | .tryDrainUpTo maxItems =>
    some (session.receive session.clock (session.former.tryDrainUpTo maxItems))

def pairOf (request : PendingRequest Item Metadata) : Item × Metadata :=
  (request.item, request.metadata)

def handedOut (batches : List (FormattedBatch Item Metadata)) : List (Item × Metadata) :=
  batches.flatMap fun batch => batch.items.zip batch.metadata

/-- What holds after each operation. -/
structure Coherent : Prop where
  totalCost : session.former.inner.totalCost = totalOf session.former.inner.pending
  first : session.former.inner.firstRequestTime = (arrivals session.former.inner.pending).min?
  last : session.former.inner.lastSubmitTime = (arrivals session.former.inner.pending).max?
  head : session.former.fcfsHeadNs =
    ((arrivals session.former.inner.pending).min?.map (timestampNs session.former.epoch)).getD 0
  head_eq_zero : session.former.fcfsHeadNs = 0 ↔ session.former.inner.pending = []
  paired : ∀ batch ∈ session.batches, batch.items.length = batch.metadata.length
  conserved : (session.former.inner.pending.map pairOf ++ handedOut session.batches).Perm
    session.submitted

/-- The invariant of a session, from which the rest follows. -/
structure SoundSession : Prop where
  sound : Sound session.former session.clock
  paired : ∀ batch ∈ session.batches, batch.items.length = batch.metadata.length
  conserved : (session.former.inner.pending.map pairOf ++ handedOut session.batches).Perm
    session.submitted

end

/-- The head is zero exactly when nothing is pending. -/
theorem Sound.head_eq_zero_iff
    (hsound : Sound former clock) : former.fcfsHeadNs = 0 ↔ former.inner.pending = [] := by
  rw [hsound.head]
  cases hmin : (arrivals former.inner.pending).min? with
  | none =>
    have hempty := List.min?_eq_none_iff.1 hmin
    simpa [arrivals] using hempty
  | some first =>
    have hpositive : 1 ≤ timestampNs former.epoch first := le_max_right _ _
    have hmem := (List.min?_eq_some_iff.1 hmin).1
    simp only [map_some, getD_some]
    refine ⟨fun hzero => by omega, fun hempty => ?_⟩
    rw [hempty] at hmem
    simp [arrivals] at hmem

variable {session : Session Item Metadata}

theorem SoundSession.coherent (hsound : SoundSession session) : Coherent session where
  __ := hsound.sound
  head_eq_zero := hsound.sound.head_eq_zero_iff
  paired := hsound.paired
  conserved := hsound.conserved

theorem start_sound (config : BatchConfig) (epoch : ℕ) :
    SoundSession (Session.start config epoch : Session Item Metadata) :=
  ⟨⟨rfl, rfl, rfl, rfl, by simp [Session.start, Former.withEpoch, arrivals]⟩,
    by simp [Session.start], .nil⟩

variable (former : Former Item Metadata)

theorem submit_pending (item : Item) (metadata : Metadata)
    (now : ℕ) : (former.submit item metadata now).inner.pending =
      former.inner.pending ++ [⟨item, metadata, now⟩] := by
  simp only [Former.submit, Former.refreshIfEmpty]
  split <;> rfl

theorem appendAll_pending (inner : Inner Item Metadata) (items : List (Item × Metadata × ℕ)) :
    (appendAll inner items).pending =
      inner.pending ++ items.map fun entry => ⟨entry.1, entry.2.1, entry.2.2⟩ := by
  induction items generalizing inner with
  | nil => simp [appendAll]
  | cons _ _ ih =>
    refine (ih _).trans ?_
    simp [appendItem]

theorem submitMany_pending (items : List (Item × Metadata × ℕ)) :
    (former.submitMany items).inner.pending =
      former.inner.pending ++ items.map fun entry => ⟨entry.1, entry.2.1, entry.2.2⟩ := by
  unfold Former.submitMany
  split
  · rename_i hempty
    simp [isEmpty_iff.1 hempty]
  · rw [← appendAll_pending]
    simp only [Former.refreshIfEmpty]
    split <;> rfl

omit [HasCost Item] in
/-- Requests that come in are pending beside the others. -/
theorem conserved_submit (added : List (PendingRequest Item Metadata))
    (hconserved : (pending.map pairOf ++ handed).Perm submitted) :
    ((pending ++ added).map pairOf ++ handed).Perm (submitted ++ added.map pairOf) := by
  rw [map_append, append_assoc]
  refine (perm_append_comm.append_left _).trans ?_
  rw [← append_assoc]
  exact hconserved.append_right _

/-- A batch moves the drained requests from one side to the other. -/
theorem conserved_extract {pending drained rest : List (PendingRequest Item Metadata)}
    {handed submitted : List (Item × Metadata)}
    (hsorted : pending.insertionSort cheaper = drained ++ rest)
    (hconserved : (pending.map pairOf ++ handed).Perm submitted) :
    (rest.map pairOf ++ (handed ++ drained.map pairOf)).Perm submitted := by
  have hperm : (drained ++ rest).Perm pending :=
    hsorted ▸ perm_insertionSort cheaper pending
  refine List.Perm.trans ?_ (((hperm.map pairOf).append_right handed).trans hconserved)
  rw [map_append, ← append_assoc]
  refine perm_append_comm.trans ?_
  rw [append_assoc]

omit [HasCost Item] in
theorem zip_pairs (drained : List (PendingRequest Item Metadata)) :
    (drained.map PendingRequest.item).zip (drained.map PendingRequest.metadata) =
      drained.map pairOf :=
  zip_map'

section

variable (hsound : SoundSession session)
include hsound

section

variable (hclock : session.clock ≤ now)
include hclock

/-- A batch that is cut, for whatever reason and of whatever size, keeps the invariant. -/
theorem receive_extract_sound (reason : FlushReason) (maxItems : ℕ) :
    SoundSession (session.receive now (some (session.former.extract
      (extractBatchUpTo session.former.inner reason maxItems)))) := by
  have hformer := extractBatchUpTo_sound hsound.sound reason maxItems
  obtain ⟨drained, rest, hsorted, hbatch⟩ :=
    extractBatchUpTo_eq session.former.inner reason maxItems
  rw [hbatch] at hformer ⊢
  refine ⟨hformer.later hclock, ?_, ?_⟩
  · refine forall_mem_append.2 ⟨hsound.paired, forall_mem_singleton.2 ?_⟩
    simp
  · have hmoved := conserved_extract hsorted hsound.conserved
    simpa [Session.receive, Former.extract, Former.refreshFcfsHead, retimed, handedOut,
      zip_pairs] using hmoved

theorem receive_none_sound : SoundSession (session.receive now none) :=
  ⟨hsound.sound.later hclock, hsound.paired, hsound.conserved⟩

theorem receive_getBatch_sound (immediate : Bool) :
    SoundSession (session.receive now (session.former.getBatch immediate now)) := by
  unfold Former.getBatch
  cases flushReason session.former.inner immediate now with
  | none => exact receive_none_sound hsound hclock
  | some reason => exact receive_extract_sound hsound hclock reason usizeMax

end

theorem receive_tryDrainUpTo_sound (maxItems : ℕ) :
    SoundSession (session.receive session.clock (session.former.tryDrainUpTo maxItems)) := by
  unfold Former.tryDrainUpTo
  split
  · exact receive_none_sound hsound le_rfl
  · exact receive_extract_sound hsound le_rfl .drain maxItems

theorem step_sound {after : Session Item Metadata} {operation : Operation Item Metadata}
    (hstep : session.step operation = some after) : SoundSession after := by
  cases operation with
  | submit item metadata now =>
    simp only [Session.step, ite_none_right_eq_some, some.injEq] at hstep
    obtain ⟨hclock, rfl⟩ := hstep
    refine ⟨submit_sound hsound.sound hclock item metadata, hsound.paired, ?_⟩
    rw [submit_pending]
    exact conserved_submit [⟨item, metadata, now⟩] hsound.conserved
  | submitMany items =>
    simp only [Session.step, ite_none_right_eq_some, some.injEq] at hstep
    obtain ⟨hintime, rfl⟩ := hstep
    refine ⟨submitMany_sound hsound.sound hintime, hsound.paired, ?_⟩
    rw [submitMany_pending]
    have hadded := conserved_submit
      (items.map fun entry => ⟨entry.1, entry.2.1, entry.2.2⟩) hsound.conserved
    rwa [map_map] at hadded
  | updateConfig =>
    simp only [Session.step, some.injEq] at hstep
    subst hstep
    obtain ⟨htotal, hfirst, hlast, hhead, harrived⟩ := hsound.sound
    exact ⟨⟨htotal, hfirst, hlast, hhead, harrived⟩, hsound.paired, hsound.conserved⟩
  | getBatch immediate =>
    simp only [Session.step, ite_none_right_eq_some, some.injEq] at hstep
    obtain ⟨hclock, rfl⟩ := hstep
    exact receive_getBatch_sound hsound hclock immediate
  | tryGetBatch =>
    simp only [Session.step, ite_none_right_eq_some, some.injEq] at hstep
    obtain ⟨hclock, rfl⟩ := hstep
    exact receive_getBatch_sound hsound hclock false
  | tryDrainUpTo maxItems =>
    simp only [Session.step, some.injEq] at hstep
    subst hstep
    exact receive_tryDrainUpTo_sound hsound maxItems

end

/-- After every sequence of operations the total cost, the two times and the head are
those of the pending requests, and no request was lost, doubled or taken apart. -/
theorem run_coherent (config : BatchConfig) (epoch : ℕ)
    {operations : List (Operation Item Metadata)} {session : Session Item Metadata}
    (hrun : run Session.step (Session.start config epoch) operations = some session) :
    Coherent session :=
  (run_invariant SoundSession (fun _ _ _ hsound hstep => step_sound hsound hstep)
    (start_sound config epoch) hrun).coherent

section Samples

structure SampleItem where
  cost : ℕ
  cap : Option ℕ
  deriving DecidableEq

instance : HasCost SampleItem :=
  ⟨SampleItem.cost, SampleItem.cap⟩

/-- The cheap item that came last is in the first batch, and the oldest one is not. -/
def sampleOperations : List (Operation SampleItem ℕ) :=
  [.submit ⟨5, none⟩ 1 10, .submitMany [(⟨4, none⟩, 2, 11), (⟨2, some 6⟩, 3, 12)],
    .getBatch true 13, .updateConfig ⟨9, 2, 10, 5, 1 / 2⟩, .tryGetBatch 14,
    .submit ⟨1, none⟩ 4 15, .tryDrainUpTo 1]

end Samples

theorem run_coherent_partial_batches : ∃ session : Session SampleItem ℕ,
      run Session.step (Session.start ⟨6, 8, 10, 5, 1 / 2⟩ 3) sampleOperations = some session ∧
      session.former.inner.pending.map pairOf = [(⟨5, none⟩, 1)] ∧
      session.former.fcfsHeadNs = 7 ∧ Coherent session := by
  refine ⟨_, (some_get ?_).symm, ?_, ?_, run_coherent _ _ (some_get _).symm⟩
  all_goals decide +kernel

end SieCluster.BatchFormer
