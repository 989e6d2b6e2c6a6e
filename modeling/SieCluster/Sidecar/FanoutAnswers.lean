import SieCluster.Sidecar.AdapterPool

/-!
# The answer to a config fan-out

A pool sends a config request to all of its children and merges what they answer.  The
merged answer is an application when every child applied the same configs; a child that
reports no hash agrees with any.
-/

namespace SieCluster.FanoutAnswers

open AdapterPool

def merged (kind : ConfigKind) (responses : List ConfigResponse) : Option ConfigResponse :=
  responses.foldl (fun combined response => some (merge kind combined response)) none

/-- What the pool answers; a child without an answer is a failure of the whole request. -/
def fanoutAnswer (kind : ConfigKind) (replies : List (Option ConfigResponse)) :
    Option ConfigResponse :=
  if replies.any Option.isNone then none else merged kind replies.reduceOption

/-- Nothing a child reports is against the answer. -/
@[mk_iff]
structure Agrees (kind : ConfigKind) (answer response : ConfigResponse) : Prop where
  applied : response.applied = true
  hash : response.bundleConfigHash = "" ∨ response.bundleConfigHash = answer.bundleConfigHash
  lists : kind = .replace → sorted response.appliedModels = sorted answer.appliedModels ∧
    sorted response.appliedProfiles = sorted answer.appliedProfiles

variable {kind : ConfigKind} {answer combined response : ConfigResponse}

theorem agrees_self : Agrees kind answer answer ↔ answer.applied = true :=
  ⟨Agrees.applied, fun happlied => ⟨happlied, .inr rfl, fun _ => ⟨rfl, rfl⟩⟩⟩

/-- A merged answer is one that both parts are. -/
theorem agrees_merge : Agrees kind answer (merge kind (some combined) response) ↔
    Agrees kind answer combined ∧ Agrees kind answer response := by
  cases kind with
  | apply =>
    simp only [agrees_iff, merge, mergeApply, mergeBundleHash, reduceCtorEq, false_imp_iff]
    split_ifs <;> grind
  | replace =>
    simp only [agrees_iff, merge, mergeReplace, mergeApply, mergeBundleHash, mergeNames,
      true_imp_iff]
    split_ifs <;> grind

theorem foldl_merge (answer : ConfigResponse) (responses : List ConfigResponse)
    (combined : Option ConfigResponse) :
    let final := responses.foldl (fun combined response => some (merge kind combined response))
      combined
    (final = none ↔ combined = none ∧ responses = []) ∧ ∀ found ∈ final,
      (Agrees kind answer found ↔ (∀ before ∈ combined, Agrees kind answer before) ∧
        ∀ response ∈ responses, Agrees kind answer response) := by
  induction responses generalizing combined with
  | nil => simp +contextual
  | cons response responses ih =>
    obtain ⟨hnone, hagrees⟩ := ih (some (merge kind combined response))
    refine ⟨by simpa using hnone, fun found hfound => ?_⟩
    rw [hagrees found hfound, List.forall_mem_cons, ← and_assoc]
    refine and_congr_left' ?_
    cases combined with
    | none => simp [merge]
    | some combined => simpa using agrees_merge

/-- An applied answer stays one, with its hash, when the children answer in another order. -/
theorem merged_perm (hperm : responses.Perm others)
    (hanswer : merged kind responses = some answer) : ∃ again, merged kind others = some again ∧
      (answer.applied = true → again.applied = true ∧
        (again.bundleConfigHash = "" ∨ again.bundleConfigHash = answer.bundleConfigHash)) := by
  cases hagain : merged kind others with
  | none =>
    obtain ⟨-, rfl⟩ := (foldl_merge answer others none).1.1 hagain
    cases hperm.eq_nil
    cases hanswer
  | some again =>
    refine ⟨again, rfl, fun happlied => ?_⟩
    have hall := ((foldl_merge answer responses none).2 answer hanswer).1 (agrees_self.2 happlied)
    have hagrees := ((foldl_merge answer others none).2 again hagain).2
      ⟨nofun, fun response hresponse => hall.2 response (hperm.mem_iff.2 hresponse)⟩
    exact ⟨hagrees.applied, hagrees.hash⟩

theorem hash_merge : (merge kind (some combined) response).bundleConfigHash =
    if combined.bundleConfigHash = "" then response.bundleConfigHash
    else combined.bundleConfigHash := by
  cases kind <;> simp only [merge, mergeReplace, mergeApply, mergeBundleHash] <;> split_ifs <;> rfl

/-- Where no two children report different hashes, the answer has the one they report. -/
theorem merged_hash {common : String} (hcommon : ∀ response ∈ responses,
      response.bundleConfigHash = "" ∨ response.bundleConfigHash = common)
    (hanswer : merged kind responses = some answer) : answer.bundleConfigHash =
      if responses.any (·.bundleConfigHash = common) then common else "" := by
  induction responses using List.reverseRecOn generalizing answer with
  | nil => cases hanswer
  | append_singleton responses last ih =>
    obtain ⟨hearlier, hlast⟩ := List.forall_mem_append.1 hcommon
    rw [List.forall_mem_singleton] at hlast
    rw [merged, List.foldl_concat, Option.some.injEq] at hanswer
    rw [List.any_append, List.any_cons, List.any_nil, Bool.or_false]
    cases hbefore : merged kind responses with
    | none =>
      obtain ⟨-, rfl⟩ := (foldl_merge last responses none).1.1 hbefore
      have hsame : last = answer := hanswer
      rw [hsame] at hlast ⊢
      grind
    | some before =>
      rw [show responses.foldl _ none = some before from hbefore] at hanswer
      rw [← hanswer, hash_merge, ih hearlier hbefore]
      grind

/-- The pool answers that a config was applied only if every child applied it with the answer's
hash or none and, for a replacement, with the same models and profiles; neither the verdict nor
the hash of such an answer depends on the order of the children, and no answer's hash does
where no two children report different ones. -/
theorem fanoutAnswer_sound (kind : ConfigKind) (replies : List (Option ConfigResponse)) :
    (∀ answer ∈ fanoutAnswer kind replies, answer.applied = true → ∀ reply ∈ replies,
      ∃ response, reply = some response ∧ Agrees kind answer response) ∧
    ∀ others, replies.Perm others →
      (fanoutAnswer kind others).map (·.applied) = (fanoutAnswer kind replies).map (·.applied) ∧
      ((fanoutAnswer kind others).filter (·.applied)).map (·.bundleConfigHash) =
        ((fanoutAnswer kind replies).filter (·.applied)).map (·.bundleConfigHash) ∧
      ∀ common, (∀ response, some response ∈ replies →
          response.bundleConfigHash = "" ∨ response.bundleConfigHash = common) →
        (fanoutAnswer kind others).map (·.bundleConfigHash) =
          (fanoutAnswer kind replies).map (·.bundleConfigHash) := by
  unfold fanoutAnswer
  constructor
  · intro answer hanswer happlied reply hreply
    split_ifs at hanswer with hfailed
    · cases hanswer
    cases reply with
    | none => exact absurd (List.any_of_mem hreply rfl) hfailed
    | some response =>
      have hall := ((foldl_merge answer replies.reduceOption none).2 answer hanswer).1
        (agrees_self.2 happlied)
      exact ⟨response, rfl, hall.2 response (List.reduceOption_mem_iff.2 hreply)⟩
  · intro others hperm
    have hresponses := hperm.filterMap id
    rw [← hperm.any_eq]
    split_ifs
    · exact ⟨rfl, rfl, fun _ _ => rfl⟩
    cases hanswer : merged kind replies.reduceOption with
    | none =>
      cases hagain : merged kind others.reduceOption with
      | none => exact ⟨rfl, rfl, fun _ _ => rfl⟩
      | some again =>
        obtain ⟨back, hback, -⟩ := merged_perm hresponses.symm hagain
        cases hanswer.symm.trans hback
    | some answer =>
      obtain ⟨again, hagain, hthere⟩ := merged_perm hresponses hanswer
      obtain ⟨back, hback, hhere⟩ := merged_perm hresponses.symm hagain
      cases hanswer.symm.trans hback
      rw [show merged kind others.reduceOption = some again from hagain, ← and_assoc]
      refine ⟨?_, fun common hcommon => ?_⟩
      · cases happlied : answer.applied <;> cases hother : again.applied <;> grind
      · have hreported : ∀ response ∈ replies.reduceOption, _ := fun response hresponse =>
          hcommon response (List.reduceOption_mem_iff.1 hresponse)
        rw [Option.map_some, Option.map_some, merged_hash hreported hanswer,
          merged_hash (fun response hresponse =>
            hreported response (hresponses.mem_iff.2 hresponse)) hagain, ← hresponses.any_eq]
        rfl

/-- A child that reports no hash is counted as one with the hash of the others. -/
theorem missingHash_merged :
    (fanoutAnswer .apply [some ⟨true, "a", 1, [], []⟩, some ⟨true, "", 1, [], []⟩]).map
        (fun answer => (answer.applied, answer.bundleConfigHash)) = some (true, "a") ∧
      (fanoutAnswer .apply [some ⟨true, "a", 1, [], []⟩, some ⟨true, "b", 1, [], []⟩]).map
          (·.bundleConfigHash) ≠
        (fanoutAnswer .apply [some ⟨true, "b", 1, [], []⟩, some ⟨true, "a", 1, [], []⟩]).map
          (·.bundleConfigHash) := by
  decide

end SieCluster.FanoutAnswers
