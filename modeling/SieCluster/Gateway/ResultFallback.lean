import SieCluster.Gateway.ResultDelivery

/-!
# Direct-to-pool fallback of results

A direct dispatch that stays silent is republished to the pool, once and only
for the items that have no result.  After the pool copy is acknowledged, a late
result of the direct attempt is refused.  Both rest on two facts about every
section: the fallback guard and the marks of an entry only grow, and a result is
accepted only against the marks that its entry had.
-/

namespace SieCluster.ResultFallback

open Totals List AList
open ResultChunks
open ResultSections
open PendingResults
open ResultDelivery
open ResultReassembly (lengthHash)

/-! ## How entries evolve -/

/-- The fallback state of an entry grows. -/
structure Grows (before after : ResultCollector) : Prop where
  republished : before.directFallbackRepublished = true → after.directFallbackRepublished = true
  marks : before.directFallbackRepublishedIndices ⊆ after.directFallbackRepublishedIndices
  payloads : after.directFallbackPayloads = before.directFallbackPayloads

/-- An accepted result is old or was accepted against the marks its entry had. -/
def Accepts (gateway next : Gateway) : Prop :=
  ∀ entry ∈ next.accepted, entry ∈ gateway.accepted ∨
    ∃ collector, gateway.pending.lookup entry.1 = some collector ∧
      ¬ (entry.2.2.workerDirect = true ∧ entry.2.1 ∈ collector.directFallbackRepublishedIndices)

/-- What every section does to the entries and to the accepted results. -/
structure Evolves (gateway next : Gateway) : Prop where
  issued : ∀ requestId ∈ gateway.issued, requestId ∈ next.issued
  marks : ∀ requestId after, next.pending.lookup requestId = some after →
    requestId ∉ gateway.issued ∨ ∃ before, gateway.pending.lookup requestId = some before ∧
      before.directFallbackRepublishedIndices ⊆ after.directFallbackRepublishedIndices
  accepted : Accepts gateway next

/-- The fallback log: who is publishing, what was taken, what is running, what was
published. -/
def fallbackLog (gateway : Gateway) :
    Table String Publisher × List FallbackTake × List Fallback × List (String × ℕ) :=
  (gateway.publishers, gateway.takes, gateway.fallbacks, gateway.republished)

/-- A section that has nothing to do with fallbacks. -/
structure Plain (gateway next : Gateway) : Prop where
  issued : next.issued = gateway.issued
  pending : ∀ requestId after, next.pending.lookup requestId = some after →
    ∃ before, gateway.pending.lookup requestId = some before ∧ Grows before after
  accepted : Accepts gateway next
  log : fallbackLog next = fallbackLog gateway

variable {next : Gateway}

theorem Plain.evolves (hplain : Plain gateway next) : Evolves gateway next where
  issued := hplain.issued ▸ fun _ hmem => hmem
  marks := by
    intro requestId after hafter
    obtain ⟨before, hbefore, hgrows⟩ := hplain.pending requestId after hafter
    exact .inr ⟨before, hbefore, hgrows.marks⟩
  accepted := hplain.accepted

theorem Grows.refl (collector : ResultCollector) : Grows collector collector :=
  ⟨fun hset => hset, Finset.Subset.refl _, rfl⟩

theorem grows_of_eq {before after : ResultCollector}
    (hrepublished : after.directFallbackRepublished = before.directFallbackRepublished)
    (hmarks : after.directFallbackRepublishedIndices =
      before.directFallbackRepublishedIndices)
    (hpayloads : after.directFallbackPayloads = before.directFallbackPayloads) :
    Grows before after :=
  ⟨fun hset => hrepublished.trans hset, hmarks.ge, hpayloads⟩

theorem grows_of_answerFields {before after : ResultCollector}
    (hsame : answerFields after = answerFields before) : Grows before after :=
  grows_of_eq (congrArg AnswerFields.republished hsame)
    (congrArg AnswerFields.republishedIndices hsame) (congrArg AnswerFields.payloads hsame)

theorem plain_keep (hpending : next.pending = gateway.pending)
    (hissued : next.issued = gateway.issued) (haccepted : next.accepted = gateway.accepted)
    (hlog : fallbackLog next = fallbackLog gateway) : Plain gateway next where
  issued := hissued
  pending := by
    rw [hpending]
    exact fun requestId after hafter => ⟨after, hafter, .refl after⟩
  accepted := by
    rw [Accepts, haccepted]
    exact fun entry hentry => .inl hentry
  log := hlog

theorem plain_insert (hentry : gateway.pending.lookup requestId = some collector)
    (updated : ResultCollector) (hgrows : Grows collector updated)
    (hpending : next.pending = gateway.pending.insert requestId updated)
    (hissued : next.issued = gateway.issued)
    (haccepted : ∀ entry ∈ next.accepted, entry ∈ gateway.accepted ∨
      entry.1 = requestId ∧ ¬ (entry.2.2.workerDirect = true ∧
        entry.2.1 ∈ collector.directFallbackRepublishedIndices))
    (hlog : fallbackLog next = fallbackLog gateway) : Plain gateway next where
  issued := hissued
  pending := by
    rw [hpending]
    exact forall_insert (fun _ after hafter => ⟨after, hafter, .refl after⟩)
      ⟨collector, hentry, hgrows⟩
  accepted := by
    intro entry hmem
    rcases haccepted entry hmem with hold | ⟨hrequest, hallowed⟩
    · exact .inl hold
    · exact .inr ⟨collector, by rw [hrequest]; exact hentry, hallowed⟩
  log := hlog

theorem plain_remove (requestId : String) (collector : ResultCollector)
    (results : Option (List WorkResult)) (rejections : List String) :
    Plain gateway
      ({ gateway with rejections := rejections }.remove requestId collector results) := by
  refine ⟨rfl, ?_, fun entry hentry => .inl hentry, rfl⟩
  intro other after hafter
  exact ⟨after, (lookup_erase_iff.1 hafter).2, .refl after⟩

section

variable (gateway : Gateway)

theorem plain_refl : Plain gateway gateway :=
  plain_keep rfl rfl rfl rfl

theorem plain_failRequest (requestId : String) (rejections : List String) :
    Plain gateway
      ({ gateway with rejections := rejections }.failPendingResultChunkRequest requestId) := by
  unfold Gateway.failPendingResultChunkRequest
  split
  · exact plain_keep rfl rfl rfl rfl
  · exact plain_remove _ _ _ _

theorem plain_dropPendingResult (requestId : String) :
    Plain gateway (gateway.dropPendingResult requestId) := by
  unfold Gateway.dropPendingResult
  split
  · exact plain_refl gateway
  · exact plain_remove _ _ _ _

theorem plain_handleResultChunk (sha256 : Bytes → Digest) (gateway : Gateway)
    (chunk : ResultChunkV1) :
    Plain gateway (gateway.handleResultChunk sha256 chunk) := by
  unfold Gateway.handleResultChunk
  split
  · exact plain_refl gateway
  rename_i collector hentry
  have hgrows := grows_of_answerFields (applyResultChunk_applied sha256
    { budget := gateway.budget, collector := collector } chunk).answerFields_eq
  simp only []
  split <;>
    exact plain_insert hentry _ hgrows rfl rfl (fun entry hmem => .inl hmem) rfl

theorem plain_handleResult (result : WorkResult) (reservationBytes : ℕ) :
    Plain gateway (gateway.handleResult result reservationBytes) := by
  unfold Gateway.handleResult
  split
  · exact plain_refl gateway
  rename_i collector hentry
  have hcases := storeSection_cases
    { budget := gateway.budget, collector := collector } result reservationBytes
  generalize storeSection { budget := gateway.budget, collector := collector }
    result reservationBytes = stored at hcases
  obtain ⟨after, done⟩ := stored
  simp only [] at hcases ⊢
  rcases hcases with ⟨hstored, -, hallowed, hfields⟩ | ⟨hnot, hfields⟩
  · have hgrows : Grows collector after.collector :=
      grows_of_eq (congrArg AnswerFields.republished hfields)
        (congrArg AnswerFields.republishedIndices hfields) (congrArg AnswerFields.payloads hfields)
    simp only [hstored, if_true]
    refine plain_insert hentry after.collector hgrows ?_ ?_ ?_ ?_
    · split <;> rfl
    · split <;> rfl
    · intro entry hmem
      have hcases : entry ∈ gateway.accepted ++ [(result.requestId, result.itemIndex, result)] := by
        split at hmem <;> exact hmem
      rcases mem_append.1 hcases with hold | hnew
      · exact .inl hold
      · rw [mem_singleton.1 hnew]
        exact .inr ⟨rfl, hallowed⟩
    · split <;> rfl
  · simp only [hnot, if_false]
    refine plain_insert hentry after.collector (grows_of_answerFields hfields) ?_ ?_ ?_ ?_
    · split <;> rfl
    · split <;> rfl
    · intro entry hmem
      refine .inl ?_
      split at hmem <;> exact hmem
    · split <;> rfl

theorem plain_resume (decode : Bytes → Option WorkResult) (gateway : Gateway)
    (handler : Handling) : Plain gateway (gateway.resume decode handler) := by
  cases handler with
  | rejected requestId => exact plain_failRequest gateway requestId _
  | completed =>
    simp only [Gateway.resume]
    split
    · exact plain_failRequest gateway _ _
    · exact plain_handleResult gateway _ _
  | allDone =>
    simp only [Gateway.resume]
    split
    · exact plain_refl gateway
    · exact plain_remove _ _ _ _
  | removed => exact plain_keep rfl rfl rfl rfl

theorem plain_updateCollector (requestId : String)
    (hgrows : ∀ collector, Grows collector (update collector)) :
    Plain gateway (gateway.updateCollector requestId update) := by
  unfold Gateway.updateCollector
  split
  · exact plain_refl gateway
  · rename_i collector hentry
    exact plain_insert hentry _ (hgrows collector) rfl rfl (fun entry hmem => .inl hmem) rfl

theorem grows_markDirectFallbackConfirmed (collector : ResultCollector) (indices : List ℕ) :
    Grows collector (markDirectFallbackConfirmed collector indices) where
  republished := fun _ => rfl
  marks := Finset.subset_union_left
  payloads := rfl

/-- Where the publisher is does not matter to a change of an entry. -/
theorem updateCollector_publishers (publishers : Table String Publisher) (requestId : String)
    (update : ResultCollector → ResultCollector) :
    { gateway with publishers := publishers }.updateCollector requestId update =
      { gateway.updateCollector requestId update with publishers := publishers } := by
  unfold Gateway.updateCollector
  cases gateway.pending.lookup requestId <;> rfl

/-! ## The fallback log -/

variable (republished : List (String × ℕ))

/-- The items of a request that fallbacks have published, in order. -/
def publishedOf (requestId : String) : List ℕ :=
  republished.filterMap fun entry =>
    if entry.1 = requestId then some entry.2 else none

theorem publishedOf_append (requestId : String) (indices : List ℕ) (other : String) :
    publishedOf (republished ++ indices.map fun index => (requestId, index)) other =
      publishedOf republished other ++ if requestId = other then indices else [] := by
  unfold publishedOf
  rw [filterMap_append, filterMap_map]
  split <;> rename_i hsame <;> simp [hsame]

theorem publishedOf_concat (requestId : String) (index : ℕ) (other : String) :
    publishedOf (republished ++ [(requestId, index)]) other =
      publishedOf republished other ++ if requestId = other then [index] else [] :=
  publishedOf_append republished requestId [index] other

/-- Every request is taken at most once, by a later fallback with the items that were missing
then; a running fallback publishes them one after the other. -/
structure Logged (takes : List FallbackTake) (fallbacks : List Fallback) : Prop where
  missing : ∀ take ∈ takes, take.indices.Nodup ∧
    (take.initial = false → ∀ index ∈ take.indices, take.results[index]? = some none)
  single : (takes.map FallbackTake.requestId).Nodup
  published : ∀ requestId, publishedOf republished requestId ≠ [] →
    ∃ take ∈ takes, take.requestId = requestId ∧
      publishedOf republished requestId <+: take.indices
  running : ∀ fallback ∈ fallbacks, ∃ take ∈ takes,
    take.requestId = fallback.requestId ∧ take.indices = fallback.indices ∧
      publishedOf republished fallback.requestId ++ fallback.remaining = fallback.indices
  alone : (fallbacks.map Fallback.requestId).Nodup

/-- The log is in order, and a request in it is guarded.  Payloads are cached when the publisher
of the request is through, and only then a fallback finds any. -/
structure Republishing : Prop where
  logged : Logged gateway.republished gateway.takes gateway.fallbacks
  known : ∀ take ∈ gateway.takes, take.requestId ∈ gateway.issued
  guarded : ∀ take ∈ gateway.takes, ∀ collector,
    gateway.pending.lookup take.requestId = some collector →
      collector.directFallbackRepublished = true ∨
        gateway.publishers.lookup take.requestId = some .retrying
  unsent : ∀ requestId, gateway.publishers.lookup requestId = some .sending →
    ∀ take ∈ gateway.takes, take.requestId ≠ requestId
  uncached : ∀ requestId publisher collector,
    gateway.publishers.lookup requestId = some publisher →
      gateway.pending.lookup requestId = some collector →
        ∀ payload ∈ collector.directFallbackPayloads, payload = none

end

/-- A plain section keeps the log, and the guards of the requests in it. -/
theorem Republishing.plain (hrepublishing : Republishing gateway)
    (hplain : Plain gateway next) : Republishing next := by
  have hlog := hplain.log
  simp only [fallbackLog, Prod.mk.injEq] at hlog
  obtain ⟨hpublishers, htakes, hfallbacks, hrepublished⟩ := hlog
  constructor
  · rw [htakes, hfallbacks, hrepublished]
    exact hrepublishing.logged
  · rw [htakes, hplain.issued]
    exact hrepublishing.known
  · rw [htakes, hpublishers]
    intro take htake after hafter
    obtain ⟨before, hbefore, hgrows⟩ := hplain.pending _ after hafter
    exact (hrepublishing.guarded take htake before hbefore).imp_left hgrows.republished
  · rw [htakes, hpublishers]
    exact hrepublishing.unsent
  · rw [hpublishers]
    intro requestId publisher after hpublisher hafter
    obtain ⟨before, hbefore, hgrows⟩ := hplain.pending _ after hafter
    rw [hgrows.payloads]
    exact hrepublishing.uncached requestId publisher before hpublisher hbefore

/-- What a fallback takes is missing, and nothing is taken twice. -/
theorem missingPayloads_indices (collector : ResultCollector) :
    ((missingPayloads collector).map Prod.fst).Nodup ∧
      ∀ index ∈ (missingPayloads collector).map Prod.fst,
        collector.results[index]? = some none := by
  have hindices : (missingPayloads collector).map Prod.fst =
      (List.range collector.directFallbackPayloads.length).filter fun index =>
        collector.results[index]? = some none ∧
          (collector.directFallbackPayloads.getD index none).isSome := by
    unfold missingPayloads
    rw [map_filterMap, ← filterMap_eq_filter]
    congr 1
    funext index
    simp only [Option.guard]
    by_cases hmissing : collector.results[index]? = some none
    · simp only [hmissing, if_true, true_and, Bool.decide_eq_true]
      generalize collector.directFallbackPayloads.getD index none = payload
      cases payload <;> rfl
    · simp [hmissing]
  rw [hindices]
  refine ⟨nodup_range.filter _, fun index hindex => ?_⟩
  have hkept := (mem_filter.1 hindex).2
  exact (of_decide_eq_true hkept).1

/-! ## The sections of a fallback -/

theorem nodup_map_concat {entries : List Entry} {key : Entry → String}
    (hnodup : (entries.map key).Nodup) (hnew : ∀ other ∈ entries, key other ≠ key entry) :
    ((entries ++ [entry]).map key).Nodup := by
  rw [map_append, map_singleton, ← concat_eq_append]
  exact hnodup.concat (by simpa using hnew)

section

variable {republished : List (String × ℕ)} {takes : List FallbackTake} {fallbacks : List Fallback}
  (hlogged : Logged republished takes fallbacks)
include hlogged

/-- A request that was not taken has no trace in the log. -/
theorem Logged.untaken (htakes : ∀ take ∈ takes, take.requestId ≠ requestId) :
    (∀ fallback ∈ fallbacks, fallback.requestId ≠ requestId) ∧
      publishedOf republished requestId = [] := by
  refine ⟨?_, ?_⟩
  · intro fallback hfallback hsame
    obtain ⟨take, htake, hrequest, -⟩ := hlogged.running fallback hfallback
    exact htakes take htake (hrequest.trans hsame)
  · by_contra hpublished
    obtain ⟨take, htake, hrequest, -⟩ := hlogged.published requestId hpublished
    exact htakes take htake hrequest

/-- A request is taken for the first time. -/
theorem Logged.take (take : FallbackTake)
    (htakes : ∀ other ∈ takes, other.requestId ≠ take.requestId) (hindices : take.indices.Nodup)
    (hmissing : take.initial = false →
      ∀ index ∈ take.indices, take.results[index]? = some none) :
    Logged republished (takes ++ [take]) fallbacks where
  missing := forall_mem_append.2
    ⟨hlogged.missing, forall_mem_singleton.2 ⟨hindices, hmissing⟩⟩
  single := nodup_map_concat hlogged.single htakes
  published := by
    intro requestId hpublished
    obtain ⟨earlier, hearlier, hrest⟩ := hlogged.published requestId hpublished
    exact ⟨earlier, mem_append_left _ hearlier, hrest⟩
  running := by
    intro fallback hfallback
    obtain ⟨earlier, hearlier, hrest⟩ := hlogged.running fallback hfallback
    exact ⟨earlier, mem_append_left _ hearlier, hrest⟩
  alone := hlogged.alone

/-- The fallbacks may come in another order. -/
theorem Logged.perm (hperm : fallbacks.Perm others) : Logged republished takes others :=
  { hlogged with
    running := fun fallback hmem => hlogged.running fallback (hperm.mem_iff.2 hmem)
    alone := (hperm.map _).nodup_iff.1 hlogged.alone }

/-- Some of the fallbacks may be through. -/
theorem Logged.fewer (hsublist : others.Sublist fallbacks) : Logged republished takes others :=
  { hlogged with
    running := fun fallback hmem => hlogged.running fallback (hsublist.subset hmem)
    alone := hlogged.alone.sublist (hsublist.map _) }

end

/-- One publish moves an item from the remaining to the published ones. -/
theorem Logged.publish (hlogged : Logged republished takes (fallback :: rest))
    (hremaining : fallback.remaining = index :: remaining) :
    Logged (republished ++ [(fallback.requestId, index)]) takes
      ({ fallback with remaining := remaining } :: rest) := by
  have halone := hlogged.alone
  rw [map_cons, nodup_cons] at halone
  obtain ⟨take, htake, hrequest, hindices, hprogress⟩ := hlogged.running fallback mem_cons_self
  rw [hremaining] at hprogress
  have hnow : publishedOf (republished ++ [(fallback.requestId, index)])
      fallback.requestId ++ remaining = fallback.indices := by
    rw [publishedOf_concat, if_pos rfl, append_assoc]
    exact hprogress
  refine ⟨hlogged.missing, hlogged.single, ?_, ?_, nodup_cons.2 halone⟩
  · intro other hpublished
    by_cases hother : fallback.requestId = other
    · subst hother
      exact ⟨take, htake, hrequest, remaining, by rw [hindices]; exact hnow⟩
    · simp only [publishedOf_concat, hother, if_false, append_nil] at hpublished ⊢
      exact hlogged.published other hpublished
  · intro running hmem
    rcases mem_cons.1 hmem with rfl | hrest
    · exact ⟨take, htake, hrequest, hindices, hnow⟩
    · have hother : fallback.requestId ≠ running.requestId := fun hsame =>
        halone.1 (hsame ▸ mem_map_of_mem hrest)
      simp only [publishedOf_concat, hother, if_false, append_nil]
      exact hlogged.running running (mem_cons_of_mem _ hrest)

/-- A request with cached payloads is not being published any more. -/
theorem Republishing.published_of_missing (hrepublishing : Republishing gateway)
    (hentry : gateway.pending.lookup requestId = some collector)
    (hmissing : missingPayloads collector ≠ []) :
    gateway.publishers.lookup requestId = none := by
  by_contra hpublishing
  obtain ⟨publisher, hpublisher⟩ := Option.ne_none_iff_exists'.1 hpublishing
  have huncached := hrepublishing.uncached requestId publisher collector hpublisher hentry
  refine hmissing (filterMap_eq_nil_iff.2 fun index hindex => ?_)
  have hnone : collector.directFallbackPayloads.getD index none = none := by
    rw [getD_eq_getElem _ _ (mem_range.1 hindex)]
    exact huncached _ (getElem_mem _)
  rw [hnone]
  split <;> rfl

theorem evolves_startFallback (gateway : Gateway) (requestId : String) :
    Evolves gateway (gateway.startFallback requestId) := by
  unfold Gateway.startFallback
  split
  · exact (plain_refl gateway).evolves
  rename_i collector hentry
  split
  · exact (plain_refl gateway).evolves
  · rename_i taken subject workerId payloads htake
    obtain ⟨-, rfl, -⟩ := takeDirectFallbackPayloads_eq_some htake
    have hmarked : Plain gateway { gateway with
        pending := gateway.pending.insert requestId
          { collector with directFallbackRepublished := true } } :=
      plain_insert hentry { collector with directFallbackRepublished := true }
        ⟨fun _ => rfl, Finset.Subset.refl _, rfl⟩ rfl rfl (fun entry hmem => .inl hmem) rfl
    exact ⟨hmarked.evolves.issued, hmarked.evolves.marks, hmarked.evolves.accepted⟩

section

variable (hrepublishing : Republishing gateway)
include hrepublishing

theorem Republishing.startFallback
    (hissued : ∀ requestId ∈ gateway.pending, requestId ∈ gateway.issued) (requestId : String) :
    Republishing (gateway.startFallback requestId) := by
  unfold Gateway.startFallback
  split
  · exact hrepublishing
  rename_i collector hentry
  split
  · exact hrepublishing
  rename_i taken subject workerId payloads htake
  obtain ⟨hclear, rfl, rfl, hcached⟩ := takeDirectFallbackPayloads_eq_some htake
  have hpublisher := hrepublishing.published_of_missing hentry hcached
  have huntaken : ∀ take ∈ gateway.takes, take.requestId ≠ requestId := by
    rintro take hmem rfl
    have hguarded := hrepublishing.guarded take hmem collector hentry
    simp [hclear, hpublisher] at hguarded
  obtain ⟨hidle, hunpublished⟩ := hrepublishing.logged.untaken huntaken
  obtain ⟨hnodup, hmissing⟩ := missingPayloads_indices collector
  constructor
  · have htaken := hrepublishing.logged.take ⟨requestId, false, _, collector.results⟩ huntaken
      hnodup fun _ => hmissing
    refine { htaken with
      running := forall_mem_append.2 ⟨htaken.running, forall_mem_singleton.2 ?_⟩
      alone := nodup_map_concat htaken.alone hidle }
    refine ⟨_, mem_append_right _ (mem_singleton_self _), rfl, rfl, ?_⟩
    simp only [hunpublished, nil_append]
  · refine forall_mem_append.2 ⟨hrepublishing.known, forall_mem_singleton.2 ?_⟩
    exact hissued _ (lookup_isSome.1 (by rw [hentry]; rfl))
  · intro take hmem after hafter
    rcases mem_append.1 hmem with hold | hnew
    · simp only [lookup_insert_ne (huntaken take hold)] at hafter
      exact hrepublishing.guarded take hold after hafter
    · rw [mem_singleton.1 hnew] at hafter
      simp only [lookup_insert, Option.some.injEq] at hafter
      exact .inl (by rw [← hafter])
  · intro other hsending
    refine forall_mem_append.2 ⟨hrepublishing.unsent other hsending, forall_mem_singleton.2 ?_⟩
    rintro rfl
    cases hpublisher.symm.trans hsending
  · intro other publisher after hpublishing hafter
    rcases lookup_insert_iff.1 hafter with ⟨rfl, -⟩ | ⟨-, hafter⟩
    · cases hpublisher.symm.trans hpublishing
    · exact hrepublishing.uncached other publisher after hpublishing hafter

/-- The retry of a failed direct publish takes all items. -/
theorem Republishing.retryPublish
    (hpublisher : gateway.publishers.lookup requestId = some .sending)
    (hissued : gateway.issued.lookup requestId = some totalItems) :
    Republishing (gateway.retryPublish requestId totalItems) := by
  have huntaken := hrepublishing.unsent requestId hpublisher
  obtain ⟨hidle, hunpublished⟩ := hrepublishing.logged.untaken huntaken
  constructor
  · have htaken : Logged gateway.republished (gateway.retryPublish requestId totalItems).takes
        gateway.fallbacks := hrepublishing.logged.take _ huntaken nodup_range nofun
    refine { htaken with
      published := ?_
      running := ?_ }
    · intro other hpublished
      simp only [Gateway.retryPublish, publishedOf_append] at hpublished ⊢
      by_cases hother : requestId = other
      · subst hother
        refine ⟨_, mem_append_right _ (mem_singleton_self _), rfl, ?_⟩
        simp [hunpublished]
      · simp only [hother, if_false, append_nil] at hpublished ⊢
        exact htaken.published other hpublished
    · intro fallback hmem
      simp only [Gateway.retryPublish, publishedOf_append, (hidle fallback hmem).symm, if_false,
        append_nil]
      exact htaken.running fallback hmem
  · have hknown : requestId ∈ gateway.issued := lookup_isSome.1 (by rw [hissued]; rfl)
    exact forall_mem_append.2 ⟨hrepublishing.known, forall_mem_singleton.2 hknown⟩
  · intro take hmem after hafter
    rcases mem_append.1 hmem with hold | hnew
    · simp only [Gateway.retryPublish, lookup_insert_ne (huntaken take hold)]
      exact hrepublishing.guarded take hold after hafter
    · rw [mem_singleton.1 hnew]
      exact .inr (lookup_insert _)
  · intro other hsending
    rcases lookup_insert_iff.1 hsending with ⟨-, hstage⟩ | ⟨hother, hsending⟩
    · cases hstage
    · exact forall_mem_append.2 ⟨hrepublishing.unsent other hsending,
        forall_mem_singleton.2 (Ne.symm hother)⟩
  · intro other publisher after hpublishing hafter
    rcases lookup_insert_iff.1 hpublishing with ⟨rfl, -⟩ | ⟨-, hpublishing⟩
    · exact hrepublishing.uncached other _ after hpublisher hafter
    · exact hrepublishing.uncached other publisher after hpublishing hafter

/-- The publisher goes on from a stage in which it has sent nothing to the pool, or with the
guard set. -/
theorem Republishing.publisher
    (hguarded : ∀ take ∈ gateway.takes, ∀ collector,
      gateway.pending.lookup take.requestId = some collector →
        gateway.publishers.lookup take.requestId = some .retrying →
          publishers.lookup take.requestId = some .retrying ∨
            collector.directFallbackRepublished = true)
    (hstages : ∀ requestId publisher, publishers.lookup requestId = some publisher →
      publisher ≠ .sending ∧ (gateway.publishers.lookup requestId).isSome ∨
        gateway.publishers.lookup requestId = some publisher) :
    Republishing { gateway with publishers := publishers } :=
  { hrepublishing with
    guarded := by
      intro take htake collector hentry
      rcases hrepublishing.guarded take htake collector hentry with hset | hretrying
      · exact .inl hset
      · exact (hguarded take htake collector hentry hretrying).symm
    unsent := by
      intro requestId hsending
      rcases hstages requestId _ hsending with ⟨hne, -⟩ | hsame
      · exact absurd rfl hne
      · exact hrepublishing.unsent requestId hsame
    uncached := by
      intro requestId publisher collector hpublisher hentry
      rcases hstages requestId publisher hpublisher with ⟨-, hsome⟩ | hsame
      · obtain ⟨before, hbefore⟩ := Option.isSome_iff_exists.1 hsome
        exact hrepublishing.uncached requestId before collector hbefore hentry
      · exact hrepublishing.uncached requestId publisher collector hsame hentry }

end

/-! ## Runs -/

section

variable {gateway : Gateway} {requestId : String} (hfresh : requestId ∉ gateway.issued)
  (totalItems : ℕ) (poolFallbackSubject directFallbackWorkerId : Option String)

/-- The gateway with a new request, whose publisher starts. -/
def opened (gateway : Gateway) (requestId : String) (totalItems : ℕ)
    (poolFallbackSubject directFallbackWorkerId : Option String) : Gateway :=
  { gateway with
    issued := gateway.issued.insert requestId totalItems
    publishers := gateway.publishers.insert requestId .sending
    pending := gateway.pending.insert requestId
      (.new totalItems poolFallbackSubject directFallbackWorkerId) }

include hfresh

theorem evolves_newRequest : Evolves gateway
    (opened gateway requestId totalItems poolFallbackSubject directFallbackWorkerId) where
  issued := fun other hmem => (mem_insert _).2 (.inr hmem)
  marks := by
    intro other after hafter
    rcases lookup_insert_iff.1 hafter with ⟨rfl, -⟩ | ⟨-, hafter⟩
    · exact .inl hfresh
    · exact .inr ⟨after, hafter, Finset.Subset.refl _⟩
  accepted := fun entry hmem => .inl hmem

theorem Republishing.newRequest (hrepublishing : Republishing gateway) : Republishing
    (opened gateway requestId totalItems poolFallbackSubject directFallbackWorkerId) := by
  have hother : ∀ take ∈ gateway.takes, take.requestId ≠ requestId := by
    rintro take htake rfl
    exact hfresh (hrepublishing.known take htake)
  exact {
    logged := hrepublishing.logged
    known := fun take htake => (mem_insert _).2 (.inr (hrepublishing.known take htake))
    guarded := by
      intro take htake
      simp only [opened, lookup_insert_ne (hother take htake)]
      exact hrepublishing.guarded take htake
    unsent := by
      intro other hsending
      rcases lookup_insert_iff.1 hsending with ⟨rfl, -⟩ | ⟨-, hsending⟩
      · exact hother
      · exact hrepublishing.unsent other hsending
    uncached := by
      intro other publisher collector hpublisher hentry
      rcases lookup_insert_iff.1 hentry with ⟨-, rfl⟩ | ⟨hne, hentry⟩
      · exact fun payload hpayload => (mem_replicate.1 hpayload).2
      · rw [opened, lookup_insert_ne hne] at hpublisher
        exact hrepublishing.uncached other publisher collector hpublisher hentry }

end

/-- Payloads are cached for a request whose publisher is through. -/
theorem Republishing.cachePayloads (hrepublishing : Republishing gateway)
    (hthrough : gateway.publishers.lookup requestId = none) (published : List (ℕ × Bytes)) :
    Evolves gateway (gateway.updateCollector requestId
        (cacheDirectFallbackPayloads · published)) ∧
      Republishing (gateway.updateCollector requestId
        (cacheDirectFallbackPayloads · published)) := by
  unfold Gateway.updateCollector
  split
  · exact ⟨(plain_refl gateway).evolves, hrepublishing⟩
  rename_i collector hentry
  have hsame : (cacheDirectFallbackPayloads collector published).directFallbackRepublished =
      collector.directFallbackRepublished ∧
      (cacheDirectFallbackPayloads collector published).directFallbackRepublishedIndices =
      collector.directFallbackRepublishedIndices := by
    unfold cacheDirectFallbackPayloads
    split <;> exact ⟨rfl, rfl⟩
  constructor
  · refine ⟨fun _ hmem => hmem, ?_, fun _ hmem => .inl hmem⟩
    exact forall_insert (fun _ after hafter => .inr ⟨after, hafter, Finset.Subset.refl _⟩)
      (.inr ⟨collector, hentry, hsame.2.ge⟩)
  · exact { hrepublishing with
      guarded := by
        intro take htake after hafter
        rcases lookup_insert_iff.1 hafter with ⟨rfl, rfl⟩ | ⟨-, hafter⟩
        · rw [hsame.1]
          exact hrepublishing.guarded take htake collector hentry
        · exact hrepublishing.guarded take htake after hafter
      uncached := by
        intro other publisher after hpublisher hafter
        rcases lookup_insert_iff.1 hafter with ⟨rfl, -⟩ | ⟨-, hafter⟩
        · cases hthrough.symm.trans hpublisher
        · exact hrepublishing.uncached other publisher after hpublisher hafter }

/-- After a confirmation the guard is set, whatever the publisher's stage. -/
theorem Republishing.confirm (hrepublishing : Republishing gateway)
    (hretrying : gateway.publishers.lookup requestId = some .retrying) (indices : List ℕ) :
    Republishing { gateway.updateCollector requestId (markDirectFallbackConfirmed · indices) with
      publishers := gateway.publishers.insert requestId .confirmed } := by
  have hplain := plain_updateCollector gateway requestId
    fun collector => grows_markDirectFallbackConfirmed collector indices
  have hpublishers : (gateway.updateCollector requestId
      (markDirectFallbackConfirmed · indices)).publishers = gateway.publishers :=
    congrArg Prod.fst hplain.log
  refine (hrepublishing.plain hplain).publisher ?_ ?_
  · intro take _ collector hentry hstage
    by_cases hsame : take.requestId = requestId
    · refine .inr ?_
      rw [hsame] at hentry
      unfold Gateway.updateCollector at hentry
      split at hentry
      · rename_i hnone
        cases hnone.symm.trans hentry
      · simp only [lookup_insert, Option.some.injEq] at hentry
        rw [← hentry, markDirectFallbackConfirmed]
    · rw [hpublishers] at hstage
      exact .inl ((lookup_insert_ne hsame).trans hstage)
  · intro other publisher hpublisher
    rw [hpublishers]
    rcases lookup_insert_iff.1 hpublisher with ⟨rfl, rfl⟩ | ⟨-, hold⟩
    · exact .inl ⟨nofun, by rw [hretrying]; rfl⟩
    · exact .inr hold

/-- A section either has nothing to do with fallbacks, or is one of a
fallback. -/
theorem step_evolves (hready : Ready gateway) (hrepublishing : Republishing gateway)
    (hstep : step sha256 decode gateway event = some next) :
    Evolves gateway next ∧ Republishing next := by
  have hplain : ∀ {after}, Plain gateway after → Evolves gateway after ∧ Republishing after :=
    fun hafter => ⟨hafter.evolves, hrepublishing.plain hafter⟩
  cases event with
  | newRequest =>
    simp only [step, Option.ite_none_left_eq_some, Option.some.injEq] at hstep
    obtain ⟨hfresh, rfl⟩ := hstep
    exact ⟨evolves_newRequest hfresh _ _ _, hrepublishing.newRequest hfresh _ _ _⟩
  | resultChunk chunk =>
    cases hstep
    exact hplain (plain_handleResultChunk sha256 gateway chunk)
  | resultChunkDecodeFailure requestId =>
    cases hstep
    exact hplain (plain_failRequest gateway requestId _)
  | result result =>
    cases hstep
    exact hplain (plain_handleResult gateway result 0)
  | abandon requestId =>
    cases hstep
    exact hplain (plain_dropPendingResult gateway requestId)
  | resume position =>
    obtain ⟨handler, -, rfl⟩ := step_resume_eq_some hstep
    obtain ⟨hissued, hpending, haccepted, hlog⟩ := plain_resume decode
      { gateway with handling := gateway.handling.eraseIdx position } handler
    exact hplain ⟨hissued, hpending, haccepted, hlog⟩
  | retryPublish requestId =>
    obtain ⟨totalItems, hpublisher, hissued, rfl⟩ := step_retryPublish_eq_some hstep
    obtain ⟨hkept, hmarks, haccepted⟩ := (plain_refl gateway).evolves
    exact ⟨⟨hkept, hmarks, haccepted⟩, hrepublishing.retryPublish hpublisher hissued⟩
  | initialFallbackConfirmed requestId =>
    obtain ⟨totalItems, hretrying, -, rfl⟩ := step_initialFallbackConfirmed_eq_some hstep
    rw [updateCollector_publishers]
    obtain ⟨hkept, hmarks, haccepted⟩ := (plain_updateCollector gateway requestId fun collector =>
      grows_markDirectFallbackConfirmed collector (range totalItems)).evolves
    exact ⟨⟨hkept, hmarks, haccepted⟩, hrepublishing.confirm hretrying _⟩
  | cachePayloads requestId published =>
    obtain ⟨hstage, hafter⟩ := Option.ite_none_right_eq_some.1 hstep
    cases hafter
    have hthrough : Republishing { gateway with
        publishers := gateway.publishers.erase requestId } := by
      refine hrepublishing.publisher ?_ fun _ _ hpublisher =>
        .inr (lookup_erase_iff.1 hpublisher).2
      intro take _ _ _ hretrying
      refine .inl (lookup_erase_iff.2 ⟨?_, hretrying⟩)
      rintro rfl
      simp [hretrying] at hstage
    obtain ⟨hevolves, hafter⟩ := hthrough.cachePayloads (lookup_erase _ _) published
    exact ⟨⟨hevolves.issued, hevolves.marks, hevolves.accepted⟩, hafter⟩
  | startFallback requestId =>
    cases hstep
    exact ⟨evolves_startFallback gateway requestId,
      hrepublishing.startFallback hready.pendingIssued requestId⟩
  | publishFallback _ sent =>
    obtain ⟨fallback, index, remaining, hfallback, hremaining, rfl⟩ :=
      step_publishFallback_eq_some hstep
    obtain ⟨hkept, hmarks, haccepted⟩ := (plain_refl gateway).evolves
    refine ⟨⟨hkept, hmarks, haccepted⟩, ?_⟩
    obtain ⟨hposition, hget⟩ := List.getElem?_eq_some_iff.1 hfallback
    have hperm := (getElem_cons_eraseIdx_perm hposition).symm
    rw [hget] at hperm
    have hpublished := (hrepublishing.logged.perm hperm).publish hremaining
    refine { hrepublishing with logged := ?_ }
    cases sent with
    | true =>
      exact hpublished.perm (set_perm_cons_eraseIdx hposition _).symm
    | false => exact hpublished.fewer (sublist_cons_self _ _)
  | fallbackAcked position =>
    have hfewer : Republishing { gateway with
        fallbacks := gateway.fallbacks.eraseIdx position } :=
      { hrepublishing with logged := hrepublishing.logged.fewer (eraseIdx_sublist ..) }
    obtain rfl | ⟨requestId, indices, rfl⟩ := step_fallbackAcked_eq_some hstep
    · obtain ⟨hkept, hmarks, haccepted⟩ := (plain_refl gateway).evolves
      exact ⟨⟨hkept, hmarks, haccepted⟩, hfewer⟩
    · have hmarked := plain_updateCollector
        { gateway with fallbacks := gateway.fallbacks.eraseIdx position } requestId
        fun collector => grows_markDirectFallbackConfirmed collector indices
      exact ⟨⟨hmarked.evolves.issued, hmarked.evolves.marks, hmarked.evolves.accepted⟩,
        hfewer.plain hmarked⟩

theorem republishing_empty : Republishing {} where
  logged := ⟨by simp, by simp, by simp [publishedOf], by simp, by simp⟩
  known := by simp
  guarded := by simp
  unsent := by simp
  uncached := nofun

theorem run_republishing (hrun : Runs.run (step sha256 decode) {} events = some gateway) :
    Ready gateway ∧ Republishing gateway := by
  refine Runs.run_invariant (fun reached => Ready reached ∧ Republishing reached) ?_
    ⟨ready_empty, republishing_empty⟩ hrun
  intro reached event next hreached hstep
  exact ⟨(step_matched hreached.1 hstep).1, (step_evolves hreached.1 hreached.2 hstep).2⟩

/-! ## Confirmed items -/

/-- The fallback of an item is confirmed: as long as its request is pending,
the item is marked. -/
def Confirmed (gateway : Gateway) (requestId : String) (index : ℕ) : Prop :=
  requestId ∈ gateway.issued ∧ ∀ collector, gateway.pending.lookup requestId = some collector →
      index ∈ collector.directFallbackRepublishedIndices

theorem Confirmed.evolves (hconfirmed : Confirmed gateway requestId index)
    (hevolves : Evolves gateway next) : Confirmed next requestId index := by
  refine ⟨hevolves.issued _ hconfirmed.1, fun after hafter => ?_⟩
  rcases hevolves.marks _ after hafter with hfresh | ⟨before, hbefore, hmarks⟩
  · exact absurd hconfirmed.1 hfresh
  · exact hmarks (hconfirmed.2 before hbefore)

/-- From a confirmed state on, no result of the direct attempt is accepted. -/
theorem run_confirmed (hready : Ready gateway) (hrepublishing : Republishing gateway)
    (hconfirmed : Confirmed gateway requestId index)
    (hrun : Runs.run (step sha256 decode) gateway events = some next) :
    ∀ result, (requestId, index, result) ∈ next.accepted → result.workerDirect = true →
      (requestId, index, result) ∈ gateway.accepted := by
  have hkept : (Ready next ∧ Republishing next) ∧ Confirmed next requestId index ∧
      ∀ result, (requestId, index, result) ∈ next.accepted → result.workerDirect = true →
        (requestId, index, result) ∈ gateway.accepted := by
    refine Runs.run_invariant (fun reached =>
      (Ready reached ∧ Republishing reached) ∧
      Confirmed reached requestId index ∧
      ∀ result, (requestId, index, result) ∈ reached.accepted → result.workerDirect = true →
        (requestId, index, result) ∈ gateway.accepted)
      ?_ ⟨⟨hready, hrepublishing⟩, hconfirmed, fun _ hmem _ => hmem⟩ hrun
    intro reached event after hreached hstep
    obtain ⟨⟨hready, hrepublishing⟩, hconfirmed, hold⟩ := hreached
    obtain ⟨hevolves, hafter⟩ := step_evolves hready hrepublishing hstep
    refine ⟨⟨(step_matched hready hstep).1, hafter⟩,
      hconfirmed.evolves hevolves, fun result hmem hdirect => ?_⟩
    rcases hevolves.accepted _ hmem with hbefore | ⟨collector, hentry, hallowed⟩
    · exact hold result hbefore hdirect
    · exact absurd ⟨hdirect, hconfirmed.2 collector hentry⟩ hallowed
  exact hkept.2.2

theorem confirmed_updateCollector {gateway : Gateway} (hissued : requestId ∈ gateway.issued)
    (hindex : index ∈ indices) :
    Confirmed (gateway.updateCollector requestId (markDirectFallbackConfirmed · indices))
      requestId index := by
  unfold Gateway.updateCollector
  split
  · rename_i hnone
    exact ⟨hissued, fun collector hentry => by simp [hnone] at hentry⟩
  · refine ⟨hissued, fun after hafter => ?_⟩
    simp only [lookup_insert, Option.some.injEq] at hafter
    rw [← hafter]
    simp [markDirectFallbackConfirmed, hindex]

/-- The acknowledgement of a fallback confirms its items. -/
theorem confirmed_of_acked (hrepublishing : Republishing gateway)
    (hfallback : gateway.fallbacks[position]? = some fallback)
    (hstep : step sha256 decode gateway (.fallbackAcked position true) = some next) :
    ∀ index ∈ fallback.indices, Confirmed next fallback.requestId index := by
  intro index hindex
  obtain ⟨take, htake, hrequest, -⟩ :=
    hrepublishing.logged.running fallback (mem_of_getElem? hfallback)
  have hissued := hrepublishing.known take htake
  rw [hrequest] at hissued
  simp only [step, hfallback, if_true] at hstep
  split at hstep
  · cases hstep
  cases hstep
  exact confirmed_updateCollector hissued hindex

/-- The acknowledgement of the retry of a direct publish confirms all items. -/
theorem confirmed_of_retried
    (hstep : step sha256 decode gateway (.initialFallbackConfirmed requestId) = some next)
    (hissued : gateway.issued.lookup requestId = some totalItems) :
    ∀ index < totalItems, Confirmed next requestId index := by
  intro index hindex
  obtain ⟨count, -, hcount, rfl⟩ := step_initialFallbackConfirmed_eq_some hstep
  obtain rfl := Option.some.inj (hissued.symm.trans hcount)
  exact confirmed_updateCollector (lookup_isSome.1 (by rw [hissued]; rfl)) (mem_range.2 hindex)

/-! ## The main result -/

theorem nodup_of_publishedOf (hnodup : ∀ requestId, (publishedOf republished requestId).Nodup) :
    republished.Nodup := by
  induction republished with
  | nil => exact nodup_nil
  | cons entry republished ih =>
    have hcons : ∀ requestId, publishedOf (entry :: republished) requestId =
        (if entry.1 = requestId then [entry.2] else []) ++ publishedOf republished requestId := by
      intro requestId
      unfold publishedOf
      rw [filterMap_cons]
      split <;> rename_i hsome <;> split at hsome <;> simp_all
    refine nodup_cons.2 ⟨fun hmem => ?_, ih fun requestId => ?_⟩
    · have hown := hnodup entry.1
      rw [hcons, if_pos rfl, singleton_append, nodup_cons] at hown
      exact hown.1 (mem_filterMap.2 ⟨entry, hmem, if_pos rfl⟩)
    · have hrequest := hnodup requestId
      rw [hcons] at hrequest
      exact hrequest.of_append_right

/-- What holds of the record of results in every state. -/
structure FirstResultWins (gateway : Gateway) : Prop where
  first : (gateway.accepted.map fun entry => (entry.1, entry.2.1)).Nodup
  held : ∀ requestId collector, gateway.pending.lookup requestId = some collector →
      ∀ index result, collector.results[index]? = some (some result) ↔
        (requestId, index, result) ∈ gateway.accepted
  once : (gateway.delivered.map Prod.fst).Nodup
  vectors : ∀ entry ∈ gateway.delivered, ∃ size, gateway.issued.lookup entry.1 = some size ∧
      (entry.2.length = size ∧ (∀ index result, entry.2[index]? = some result →
          (entry.1, index, result) ∈ gateway.accepted) ∨
        entry.2 = failedResults entry.1 size ∧ entry.1 ∈ gateway.rejections)

/-- What holds of the fallbacks in every state: no item is published twice, and
an item is published only if it was missing when the fallback took it, or with all
others of its request after the direct publish failed. -/
structure FallbackOnce (gateway : Gateway) : Prop where
  once : gateway.republished.Nodup
  missing : ∀ entry ∈ gateway.republished, ∃ take ∈ gateway.takes,
    take.requestId = entry.1 ∧ entry.2 ∈ take.indices ∧
      (take.initial = true ∨ take.results[entry.2]? = some none)
  single : (gateway.takes.map FallbackTake.requestId).Nodup

theorem fallbackOnce_of_logged
    (hlogged : Logged gateway.republished gateway.takes gateway.fallbacks) :
    FallbackOnce gateway where
  once := by
    refine nodup_of_publishedOf fun requestId => ?_
    by_cases hpublished : publishedOf gateway.republished requestId = []
    · rw [hpublished]
      exact nodup_nil
    · obtain ⟨take, htake, -, hprogress⟩ :=
        hlogged.published requestId hpublished
      exact (hlogged.missing take htake).1.sublist hprogress.sublist
  missing := by
    intro entry hentry
    have hmem : entry.2 ∈ publishedOf gateway.republished entry.1 :=
      mem_filterMap.2 ⟨entry, hentry, if_pos rfl⟩
    obtain ⟨take, htake, hrequest, hprogress⟩ :=
      hlogged.published entry.1 (ne_nil_of_mem hmem)
    have hindex := hprogress.subset hmem
    refine ⟨take, htake, hrequest, hindex, ?_⟩
    cases hinitial : take.initial with
    | true => exact .inl rfl
    | false => exact .inr ((hlogged.missing take htake).2 hinitial entry.2 hindex)
  single := hlogged.single

/-- In every run the first accepted result of an item is kept and delivered, a
waiting handler is sent at most one vector, which says that the request failed only
after a rejection, an item is published to the pool at most once, by a later fallback
only while it is missing, and a confirmed fallback shuts out late results of the
direct attempt. -/
theorem first_result_wins (sha256 : Bytes → Digest) (decode : Bytes → Option WorkResult)
    (events : List GatewayEvent) (gateway : Gateway)
    (hrun : Runs.run (step sha256 decode) {} events = some gateway) :
    FirstResultWins gateway ∧ FallbackOnce gateway ∧
      (∀ earlier later middle, events = earlier ++ later →
        Runs.run (step sha256 decode) {} earlier = some middle →
        middle.accepted <+: gateway.accepted ∧
        ∀ requestId index, Confirmed middle requestId index →
          ∀ result, (requestId, index, result) ∈ gateway.accepted → result.workerDirect = true →
            (requestId, index, result) ∈ middle.accepted) ∧
      (∀ position fallback next, gateway.fallbacks[position]? = some fallback →
        step sha256 decode gateway (.fallbackAcked position true) = some next →
        ∀ index ∈ fallback.indices, Confirmed next fallback.requestId index) ∧
      ∀ requestId totalItems next, gateway.issued.lookup requestId = some totalItems →
        step sha256 decode gateway (.initialFallbackConfirmed requestId) = some next →
        ∀ index < totalItems, Confirmed next requestId index := by
  have horderly := run_orderly hrun
  obtain ⟨hready, hrepublishing⟩ := run_republishing hrun
  refine ⟨⟨horderly.first, ?_, horderly.once, ?_⟩, fallbackOnce_of_logged hrepublishing.logged,
    ?_, fun position fallback next hfallback hstep =>
      confirmed_of_acked hrepublishing hfallback hstep,
    fun requestId totalItems next hissued hstep => confirmed_of_retried hstep hissued⟩
  · intro requestId collector hentry
    exact horderly.held requestId collector.results (by simp [view, hentry])
  · intro entry hentry
    obtain ⟨-, size, hissued, hvector⟩ := horderly.vectors entry hentry
    exact ⟨size, hissued, hvector⟩
  · intro earlier later middle hsplit hmiddle
    subst hsplit
    rw [Runs.run_append, hmiddle] at hrun
    obtain ⟨hready, hrepublishing⟩ := run_republishing hmiddle
    exact ⟨(run_record hready hrun).1, fun requestId index hconfirmed =>
      run_confirmed hready hrepublishing hconfirmed hrun⟩

/-- A request of two items falls back to the pool; the direct attempt and the
pool both answer the first item. -/
def lateDirectResult : List GatewayEvent :=
  [.newRequest "req-1" 2 (some "pool") (some "worker-1"),
    .cachePayloads "req-1" [(0, [1]), (1, [2])], .startFallback "req-1",
    .publishFallback 0 true, .publishFallback 0 true, .fallbackAcked 0 true,
    .result { requestId := "req-1", itemIndex := 0, workerDirect := true },
    .result { requestId := "req-1", itemIndex := 1, success := true },
    .result { requestId := "req-1", itemIndex := 0, success := true },
    .resume 0]

theorem first_result_wins_lateDirectResult :
    ∃ gateway, Runs.run (step lengthHash fun _ => none) {} lateDirectResult = some gateway ∧
      FirstResultWins gateway ∧ FallbackOnce gateway ∧
      gateway.delivered.length = 1 ∧ gateway.republished.length = 2 := by
  obtain ⟨hfirst, hfallback, -⟩ := first_result_wins lengthHash (fun _ => none)
    lateDirectResult _ rfl
  exact ⟨_, rfl, hfirst, hfallback, rfl, rfl⟩

/-- The direct worker answers the first item before the publish of the second one fails; the
retry publishes both to the pool. -/
theorem retryPublish_answered :
    ∃ gateway, Runs.run (step lengthHash fun _ => none) {}
        [.newRequest "req-1" 2 (some "pool") (some "worker-1"),
          .result { requestId := "req-1", itemIndex := 0, workerDirect := true },
          .retryPublish "req-1"] = some gateway ∧
      ("req-1", 0) ∈ gateway.republished ∧
      ∀ take ∈ gateway.takes, take.results[0]? ≠ some none := by
  exact ⟨_, rfl, by decide, by decide⟩

end SieCluster.ResultFallback
