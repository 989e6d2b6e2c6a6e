import SieCluster.Core.Runs
import SieCluster.Core.SlotTables
import SieCluster.Gateway.ResultSections

/-!
# Soundness of reassembly

A log kept next to the collector holds, for every item, the fragments its active
transfer has taken since its latest start and the layouts that were replaced on
the way.  The collector tracks this log along every run, so a completed item is
the concatenation of the logged fragments.
-/

namespace SieCluster.ResultReassembly

open Totals List
open ResultChunks
open ResultSections
open SlotTables (Fills fills_replicate)

/-! ## Runs of one collector -/

/-- The history of the active transfer of one item. -/
structure ItemLog where
  fragments : List ResultChunkV1 := []
  replacedDigests : List Digest := []
  replacedChunkCounts : List ℕ := []

/-- The log once a fragment has been buffered: it starts over whenever the
fragment does not belong to the transfer that was active before. -/
def ItemLog.absorb (log : ItemLog) (before : Option PartialResultTransfer)
    (chunk : ResultChunkV1) : ItemLog :=
  match before with
  | none => { fragments := [chunk] }
  | some transfer =>
    if transfer.transferDigest.val ≠ chunk.transferDigest then {
      fragments := [chunk]
      replacedDigests := log.replacedDigests ++ [transfer.transferDigest] }
    else if transfer.chunkCount ≠ chunk.chunkCount then { log with
      fragments := [chunk]
      replacedChunkCounts :=
        log.replacedChunkCounts ++ [transfer.chunkCount] }
    else { log with fragments := log.fragments ++ [chunk] }

structure CollectorRun where
  state : Budgeted
  log : String → ItemLog := fun _ => {}

inductive CollectorEvent where
  | chunk (chunk : ResultChunkV1)
  | result (result : WorkResult) (reservationBytes : ℕ)
  | markDirectFallback (indices : Finset ℕ)
  | otherRequests (budget : ResultChunkBudget)

/-- Only buffered fragments enter the log; an item without an active transfer
has an empty one. -/
def nextLog (log : String → ItemLog) (before after : Budgeted)
    (absorbed : Option ResultChunkV1) (workItemId : String) : ItemLog :=
  match active after workItemId with
  | none => {}
  | some _ =>
    match absorbed with
    | none => log workItemId
    | some chunk =>
      if chunk.workItemId = workItemId
      then (log workItemId).absorb (active before workItemId) chunk
      else log workItemId

/-- The fragment, if it was answered as buffered. -/
def absorbed (chunk : ResultChunkV1) :
    Except ResultChunkReject ResultChunkApply → Option ResultChunkV1
  | .ok { status := .buffered, retryReplaced := _ } => some chunk
  | _ => none

/-- One section of the source that changes the collector, or a change of the
shared budget by other requests. -/
def step (sha256 : Bytes → Digest) (run : CollectorRun) : CollectorEvent → Option CollectorRun
  | .chunk chunk =>
    let applied := applyResultChunk sha256 run.state chunk
    some {
      state := applied.1
      log := nextLog run.log run.state applied.1 (absorbed chunk applied.2) }
  | .result result reservationBytes =>
    let stored := storeSection run.state result reservationBytes
    some {
      state := stored.1
      log := nextLog run.log run.state stored.1 none }
  | .markDirectFallback indices =>
    some { run with
      state := { run.state with
        collector := { run.state.collector with
          directFallbackRepublishedIndices :=
            run.state.collector.directFallbackRepublishedIndices ∪ indices } } }
  | .otherRequests budget => some { run with
      state := { run.state with budget := budget } }

def start (totalItems : ℕ) (budget : ResultChunkBudget) : CollectorRun where
  state := { budget := budget, collector := .new totalItems }

/-! ## The invariant -/

/-- Two fragments declare the same item, digest, chunk count and length. -/
structure SameLayout (left right : ResultChunkV1) : Prop where
  workItemId : left.workItemId = right.workItemId
  requestId : left.requestId = right.requestId
  itemIndex : left.itemIndex = right.itemIndex
  transferDigest : left.transferDigest = right.transferDigest
  chunkCount : left.chunkCount = right.chunkCount
  totalBytes : left.totalBytes = right.totalBytes

/-- A fragment declares the layout of a transfer. -/
structure Declares (workItemId : String) (transfer : PartialResultTransfer)
    (chunk : ResultChunkV1) : Prop where
  workItemId : chunk.workItemId = workItemId
  requestId : chunk.requestId = transfer.requestId
  itemIndex : chunk.itemIndex = transfer.itemIndex
  transferDigest : chunk.transferDigest = transfer.transferDigest.val
  chunkCount : chunk.chunkCount = transfer.chunkCount
  totalBytes : chunk.totalBytes = transfer.totalBytes

/-- A transfer agrees with the log of its item. -/
structure Logged (workItemId : String) (log : ItemLog)
    (transfer : PartialResultTransfer) : Prop where
  length : transfer.chunks.length = transfer.chunkCount
  fills : Fills ResultChunkV1.chunkIndex ResultChunkV1.payload transfer.chunks log.fragments
  declares : ∀ chunk ∈ log.fragments, Declares workItemId transfer chunk
  retiredDigests : transfer.retiredDigests = log.replacedDigests.rtake maxRetiredResultChunkDigests
  retiredChunkCounts : transfer.retiredChunkCounts =
    log.replacedChunkCounts.rtake maxRetiredResultChunkLayouts
  liveDigest : transfer.transferDigest ∉ transfer.retiredDigests
  liveChunkCount : transfer.chunkCount ∉ transfer.retiredChunkCounts

def Tracked (run : CollectorRun) : Prop :=
  ∀ workItemId transfer, active run.state workItemId = some transfer →
    Logged workItemId (run.log workItemId) transfer

/-! ## Tombstones -/

/-- Retiring keeps the most recent values. -/
theorem retire_rtake {Value : Type} (limit : ℕ) (values : List Value) (value : Value) :
    retire (limit + 1) (values.rtake (limit + 1)) value =
      (values ++ [value]).rtake (limit + 1) := by
  rw [rtake_concat_succ, retire]
  congr 1
  simp only [List.rtake, length_drop]
  split
  · rw [tail_drop]
    congr 1
    omega
  · rename_i hshort
    rw [show values.length - (limit + 1) = 0 by omega,
      show values.length - limit = 0 by omega]

theorem not_mem_retire {Value : Type} {limit : ℕ} {retired : List Value}
    {old value : Value} (hfresh : value ∉ retired) (hne : old ≠ value) :
    value ∉ retire limit retired old := by
  simp only [retire, mem_append, mem_singleton, not_or]
  refine ⟨?_, hne.symm⟩
  split
  · exact fun hmem => hfresh (mem_of_mem_tail hmem)
  · exact hfresh

/-! ## One fragment -/

/-- A transfer that a fragment has just started agrees with a log that has just
started over. -/
theorem logged_firstFragment (hvalid : ValidChunk collector chunk digest) (reservationBytes : ℕ)
    (hdigests : replacement.retiredDigests = digests.rtake maxRetiredResultChunkDigests)
    (hcounts : replacement.retiredChunkCounts = counts.rtake maxRetiredResultChunkLayouts)
    (hlive : digest ∉ replacement.retiredDigests)
    (hliveCount : chunk.chunkCount ∉ replacement.retiredChunkCounts) :
    Logged chunk.workItemId
      { fragments := [chunk], replacedDigests := digests
        replacedChunkCounts := counts }
      (firstFragment chunk digest reservationBytes replacement) where
  length := by simp [firstFragment]
  fills := by
    have hempty : (List.replicate chunk.chunkCount (none : Option Bytes)).getD
        chunk.chunkIndex none = none := by
      rw [getD_eq_getElem _ _ (by simpa using hvalid.chunkIndex)]
      simp
    exact (fills_replicate ResultChunkV1.chunkIndex ResultChunkV1.payload
      chunk.chunkCount).set (by simpa using hvalid.chunkIndex) hempty
  declares := by
    intro other hother
    rw [mem_singleton.1 hother]
    exact ⟨rfl, rfl, rfl, hvalid.digest.symm, rfl, rfl⟩
  retiredDigests := hdigests
  retiredChunkCounts := hcounts
  liveDigest := hlive
  liveChunkCount := hliveCount

/-- A fragment of the active layout joins the log. -/
theorem Logged.addFragment (hlogged : Logged workItemId log transfer)
    (hdeclares : Declares workItemId transfer chunk) (hindex : chunk.chunkIndex < chunk.chunkCount)
    (hmissing : transfer.chunks.getD chunk.chunkIndex none = none) (newTransferBytes : ℕ) :
    Logged workItemId { log with fragments := log.fragments ++ [chunk] }
      (transfer.addFragment chunk newTransferBytes) where
  __ := hlogged
  length := by simpa [PartialResultTransfer.addFragment] using hlogged.length
  fills := by
    refine hlogged.fills.set ?_ hmissing
    rw [hlogged.length, ← hdeclares.chunkCount]
    exact hindex
  declares := by
    intro other hother
    rcases mem_append.1 hother with hold | hnew
    · obtain ⟨hwork, hrequest, hitem, hdigest, hcount, htotal⟩ :=
        hlogged.declares other hold
      exact ⟨hwork, hrequest, hitem, hdigest, hcount, htotal⟩
    · obtain ⟨hwork, hrequest, hitem, hdigest, hcount, htotal⟩ := hdeclares
      rw [mem_singleton.1 hnew]
      exact ⟨hwork, hrequest, hitem, hdigest, hcount, htotal⟩

/-- A stored fragment that found no active transfer has started one. -/
theorem Stores.started_of_none
    (hstores : Stores replaced chunk digest replacement buffered transfer)
    (hactive : active replaced chunk.workItemId = none) :
    ∃ reservationBytes, transfer = firstFragment chunk digest reservationBytes replacement := by
  cases hstores with
  | extended _ hold => simp [hold] at hactive
  | started _ reservationBytes => exact ⟨reservationBytes, rfl⟩

/-- The transfer that holds a stored fragment agrees with the log that has
absorbed it. -/
theorem logged_of_stores (hlogged : ∀ old, active state chunk.workItemId = some old →
      Logged chunk.workItemId log old) (hvalid : ValidChunk collector chunk digest)
    (hproceeds : Proceeds state chunk digest replaced replacement)
    (hstores : Stores replaced chunk digest replacement buffered transfer) :
    Logged chunk.workItemId (log.absorb (active state chunk.workItemId) chunk)
      transfer := by
  cases hproceeds with
  | first hactive =>
    obtain ⟨reservationBytes, rfl⟩ := Stores.started_of_none hstores hactive
    simp only [ItemLog.absorb, hactive]
    exact logged_firstFragment hvalid reservationBytes (by simp) (by simp) (by simp) (by simp)
  | same old hactive hdigest htotal hcount =>
    cases hstores with
    | started _ _ hnone => simp [hactive] at hnone
    | extended _ hother hrequest hitem _ _ hmissing =>
      rw [hactive] at hother
      cases hother
      have hsame : old.transferDigest.val = chunk.transferDigest := by
        rw [hdigest, hvalid.digest]
      simp only [ItemLog.absorb, hactive, hsame, hcount, ne_eq, not_true_eq_false, if_false]
      exact (hlogged old hactive).addFragment
        ⟨rfl, hrequest.symm, hitem.symm, hsame.symm, hcount.symm,
          htotal.symm⟩ hvalid.chunkIndex hmissing _
  | newDigest old hactive hdigest _ hfresh =>
    obtain ⟨reservationBytes, rfl⟩ :=
      Stores.started_of_none hstores (AList.lookup_erase _ _)
    have hdiffers : old.transferDigest.val ≠ chunk.transferDigest := by
      rw [← hvalid.digest]
      exact fun hsame => hdigest (Subtype.val_injective hsame)
    simp only [ItemLog.absorb, hactive, hdiffers, ne_eq, not_false_eq_true, if_true]
    refine logged_firstFragment hvalid reservationBytes ?_ (by simp)
      (not_mem_retire hfresh hdigest) (by simp)
    rw [(hlogged old hactive).retiredDigests]
    exact retire_rtake _ _ _
  | newLayout old hactive hdigest _ hcount _ hfresh =>
    obtain ⟨reservationBytes, rfl⟩ :=
      Stores.started_of_none hstores (AList.lookup_erase _ _)
    have hsame : old.transferDigest.val = chunk.transferDigest := by
      rw [hdigest, hvalid.digest]
    simp only [ItemLog.absorb, hactive, hsame, hcount, ne_eq,
      not_true_eq_false, not_false_eq_true, if_true, if_false]
    refine logged_firstFragment hvalid reservationBytes (hlogged old hactive).retiredDigests ?_ ?_
      (not_mem_retire hfresh hcount)
    · rw [(hlogged old hactive).retiredChunkCounts]
      exact retire_rtake _ _ _
    · rw [← hdigest]
      exact (hlogged old hactive).liveDigest

/-! ## Runs -/

variable {next : CollectorRun}

/-- After a fragment the active transfer of its item agrees with the log. -/
theorem logged_of_applied {after : Budgeted} {answer : Except ResultChunkReject ResultChunkApply}
    (hlogged : ∀ old, active state chunk.workItemId = some old → Logged chunk.workItemId log old)
    (happlied : Applied sha256 state chunk after answer)
    (hactive : active after chunk.workItemId = some transfer) :
    Logged chunk.workItemId (match absorbed chunk answer with
        | none => log
        | some _ => log.absorb (active state chunk.workItemId) chunk)
      transfer := by
  cases happlied with
  | refused => exact hlogged transfer hactive
  | ignored _ hstatus =>
    rcases hstatus with rfl | rfl <;> exact hlogged transfer hactive
  | unstarted _ _ _ _ _ _ _ hunstarted hnone =>
    rw [hunstarted.active_eq, hnone] at hactive
    cases hactive
  | stored _ _ _ replacement _ hvalid _ hproceeds hstores =>
    obtain ⟨after, answer, hfinish, hfinishes⟩ :=
      hstores.exists_finishes sha256 replacement.retryReplaced
    rw [hfinish] at hactive ⊢
    cases hfinishes with
    | waiting =>
      rw [hstores.active_eq] at hactive
      cases hactive
      exact logged_of_stores hlogged hvalid hproceeds hstores
    | _ =>
      exact absurd (hactive.symm.trans (AList.lookup_erase _ _)) (by simp)

theorem absorbed_eq_or (chunk : ResultChunkV1)
    (answer : Except ResultChunkReject ResultChunkApply) :
    absorbed chunk answer = none ∨ absorbed chunk answer = some chunk := by
  unfold absorbed
  split
  · exact .inr rfl
  · exact .inl rfl

/-- The step lemma. -/
theorem step_tracked {event : CollectorEvent} (htracked : Tracked run)
    (hstep : step sha256 run event = some next) : Tracked next := by
  cases event with
  | chunk chunk =>
    cases hstep
    intro workItemId transfer hactive
    have happlied := applyResultChunk_applied sha256 run.state chunk
    simp only [nextLog, hactive]
    by_cases hkey : workItemId = chunk.workItemId
    · subst hkey
      have hlogged := logged_of_applied (htracked chunk.workItemId) happlied hactive
      rcases absorbed_eq_or chunk (applyResultChunk sha256 run.state chunk).2
        with habsorbed | habsorbed
      · simpa only [habsorbed] using hlogged
      · simpa only [habsorbed, if_true] using hlogged
    · rw [happlied.active_other hkey] at hactive
      rcases absorbed_eq_or chunk (applyResultChunk sha256 run.state chunk).2
        with habsorbed | habsorbed
      · simpa only [habsorbed] using htracked workItemId transfer hactive
      · simpa only [habsorbed, Ne.symm hkey, if_false] using
          htracked workItemId transfer hactive
  | result =>
    cases hstep
    intro workItemId transfer hactive
    simp only [nextLog, hactive]
    exact htracked workItemId transfer (active_storeSection hactive)
  | _ =>
    cases hstep
    exact htracked

theorem run_tracked (hrun : Runs.run (step sha256) (start totalItems budget) events = some run) :
    Tracked run := by
  refine Runs.run_invariant Tracked (fun _ _ _ => step_tracked) ?_ hrun
  intro workItemId transfer hactive
  cases hactive

/-! ## The main result -/

/-- The fragments that make up a completed item: all declare the layout of the
last one, they carry the numbers `0, …, count - 1`, and their concatenation is
what is delivered. -/
structure Reassembles (sha256 : Bytes → Digest) (fragments : List ResultChunkV1)
    (chunk : ResultChunkV1) (completed : CompletedResultTransfer) : Prop where
  sameLayout : ∀ fragment ∈ fragments, SameLayout fragment chunk
  numbered : fragments.map ResultChunkV1.chunkIndex = List.range chunk.chunkCount
  bytes : completed.encodedWorkResult = fragments.flatMap ResultChunkV1.payload
  length : completed.encodedWorkResult.length = chunk.totalBytes
  digest : (sha256 completed.encodedWorkResult).val = chunk.transferDigest
  workItemId : completed.workItemId = chunk.workItemId
  requestId : completed.requestId = chunk.requestId
  itemIndex : completed.itemIndex = chunk.itemIndex

/-- A full transfer that agrees with its log is made of the logged fragments. -/
theorem Logged.reassembles (hlogged : Logged chunk.workItemId log transfer)
    (hmem : chunk ∈ log.fragments) (hall : transfer.chunks.all Option.isSome = true)
    (hlength : (transfer.chunks.flatMap (·.getD [])).length = transfer.totalBytes)
    (hdigest : sha256 (transfer.chunks.flatMap (·.getD [])) = transfer.transferDigest) :
    ∃ fragments : List ResultChunkV1, fragments.Perm log.fragments ∧
      Reassembles sha256 fragments chunk {
        workItemId := chunk.workItemId
        requestId := transfer.requestId
        itemIndex := transfer.itemIndex
        encodedWorkResult := transfer.chunks.flatMap (·.getD [])
        reservationBytes := transfer.reservationBytes } := by
  obtain ⟨fragments, hperm, hnumbered, hslots⟩ := hlogged.fills.arrange hall
  have hchunk := hlogged.declares chunk hmem
  have hbytes : transfer.chunks.flatMap (·.getD []) = fragments.flatMap ResultChunkV1.payload := by
    rw [hslots, flatMap_map]
    rfl
  refine ⟨fragments, hperm, ?_, ?_, hbytes, ?_, ?_, rfl, hchunk.requestId.symm,
    hchunk.itemIndex.symm⟩
  · intro fragment hfragment
    have hother := hlogged.declares fragment (hperm.mem_iff.1 hfragment)
    exact ⟨hother.workItemId, hother.requestId.trans hchunk.requestId.symm,
      hother.itemIndex.trans hchunk.itemIndex.symm,
      hother.transferDigest.trans hchunk.transferDigest.symm,
      hother.chunkCount.trans hchunk.chunkCount.symm,
      hother.totalBytes.trans hchunk.totalBytes.symm⟩
  · rw [hnumbered, hlogged.length, hchunk.chunkCount]
  · rw [hlength, hchunk.totalBytes]
  · rw [hdigest, hchunk.transferDigest]

theorem mem_absorb (log : ItemLog) (before : Option PartialResultTransfer)
    (chunk : ResultChunkV1) : chunk ∈ (log.absorb before chunk).fragments := by
  unfold ItemLog.absorb
  split
  · simp
  · split_ifs <;> simp

/-- The log of the item of a fragment, once the fragment has been absorbed. -/
def CollectorRun.logWith (run : CollectorRun) (chunk : ResultChunkV1) : ItemLog :=
  (run.log chunk.workItemId).absorb (active run.state chunk.workItemId) chunk

/-- Whenever an item of a run is reported complete, the delivered bytes are the
concatenation, in order, of the fragments its transfer has taken since its
latest start.  The layout is neither a retired digest nor a retired chunk
count. -/
theorem complete_sound (sha256 : Bytes → Digest) (totalItems : ℕ)
    (budget : ResultChunkBudget) (events : List CollectorEvent)
    (run : CollectorRun)
    (hrun : Runs.run (step sha256) (start totalItems budget) events = some run)
    (chunk : ResultChunkV1) (completed : CompletedResultTransfer)
    (retryReplaced : Bool)
    (hcomplete : (applyResultChunk sha256 run.state chunk).2 =
      .ok { status := .complete completed, retryReplaced := retryReplaced }) :
    (∃ fragments : List ResultChunkV1, fragments.Perm (run.logWith chunk).fragments ∧
        Reassembles sha256 fragments chunk completed) ∧
      (∀ digest ∈ (run.logWith chunk).replacedDigests.rtake
        maxRetiredResultChunkDigests, digest.val ≠ chunk.transferDigest) ∧
      chunk.chunkCount ∉ (run.logWith chunk).replacedChunkCounts.rtake
        maxRetiredResultChunkLayouts := by
  have htracked := run_tracked hrun
  have happlied := applyResultChunk_applied sha256 run.state chunk
  generalize applyResultChunk sha256 run.state chunk = applied at happlied hcomplete
  obtain ⟨after, answer⟩ := applied
  cases happlied with
  | ignored _ hstatus => rcases hstatus with rfl | rfl <;> cases hcomplete
  | stored _ _ _ replacement held hvalid _ hproceeds hstores =>
    have hlogged := logged_of_stores (htracked chunk.workItemId) hvalid hproceeds hstores
    have hmem := mem_absorb (run.log chunk.workItemId) (active run.state chunk.workItemId) chunk
    obtain ⟨after, answer, hfinish, hfinishes⟩ :=
      hstores.exists_finishes sha256 replacement.retryReplaced
    rw [hfinish] at hcomplete
    cases hfinishes with
    | complete hall hlength hdigest =>
      cases hcomplete
      refine ⟨hlogged.reassembles hmem hall hlength hdigest, ?_, ?_⟩
      · intro retired hretired hsame
        have hheld := (hlogged.declares chunk hmem).transferDigest
        have hlive := hlogged.liveDigest
        rw [hlogged.retiredDigests] at hlive
        have hequal : retired = held.transferDigest :=
          Subtype.val_injective (hsame.trans hheld)
        exact hlive (hequal ▸ hretired)
      · have hlive := hlogged.liveChunkCount
        rw [hlogged.retiredChunkCounts, ← (hlogged.declares chunk hmem).chunkCount] at hlive
        exact hlive
    | _ => cases hcomplete
  | _ => cases hcomplete

/-- A hash that only tells lengths apart. -/
def lengthHash (bytes : Bytes) : Digest :=
  ⟨List.replicate 32 (UInt8.ofNat bytes.length), by simp⟩

/-- A one-byte fragment of a two-byte result, under a digest of equal bytes. -/
def halfResult (digestByte : UInt8) (chunkIndex : ℕ) : ResultChunkV1 where
  kind := resultChunkKind
  workItemId := "req-1.0"
  requestId := "req-1"
  itemIndex := 0
  transferDigest := List.replicate 32 digestByte
  chunkIndex := chunkIndex
  chunkCount := 2
  totalBytes := 2
  payload := [UInt8.ofNat chunkIndex]

/-- A retry replaces an attempt, a fragment of which is late. -/
def retriedResult : List CollectorEvent :=
  [.chunk (halfResult 9 0), .chunk (halfResult 2 0), .chunk (halfResult 9 1)]

theorem complete_sound_retriedResult :
    ∃ run, Runs.run (step lengthHash) (start 1 {}) retriedResult = some run ∧
      ∃ fragments : List ResultChunkV1, fragments.Perm (run.logWith (halfResult 2 1)).fragments ∧
          Reassembles lengthHash fragments (halfResult 2 1) {
            workItemId := "req-1.0"
            requestId := "req-1"
            itemIndex := 0
            encodedWorkResult := [0, 1]
            reservationBytes := 4102 } :=
  ⟨_, rfl, (complete_sound lengthHash 1 {} retriedResult _ rfl (halfResult 2 1) _ false (by rfl)).1⟩

/-- The stronger reading of the tombstones, as if they were never dropped: no
digest that the item's transfer has replaced comes back. -/
def ReplacedStaysOut : Prop :=
  ∀ (sha256 : Bytes → Digest) (totalItems : ℕ) (budget : ResultChunkBudget)
    (events : List CollectorEvent) (run : CollectorRun) (chunk : ResultChunkV1)
    (completed : CompletedResultTransfer) (retryReplaced : Bool),
    Runs.run (step sha256) (start totalItems budget) events = some run →
    (applyResultChunk sha256 run.state chunk).2 =
      .ok { status := .complete completed, retryReplaced := retryReplaced } →
    ∀ digest ∈ (run.logWith chunk).replacedDigests, digest.val ≠ chunk.transferDigest

/-- After nine replacements the first digest is no longer among the eight
tombstones; its late fragments are taken again. -/
theorem not_replacedStaysOut : ¬ ReplacedStaysOut := by
  intro hclaim
  have hdiffers := hclaim lengthHash 1 {}
    ([2, 10, 11, 12, 13, 14, 15, 16, 17, 18, 2].map fun digestByte =>
      .chunk (halfResult digestByte 0)) _ (halfResult 2 1) _ _ rfl (by rfl)
    ⟨List.replicate 32 2, rfl⟩
  exact hdiffers (by decide) rfl

end SieCluster.ResultReassembly
