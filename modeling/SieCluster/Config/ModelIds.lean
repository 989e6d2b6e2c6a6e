import Mathlib

/-!
# Model ids the config API accepts

The control plane checks a model id before it writes or deletes a config.  The
pattern is anchored with `$`, which also matches before one final line break.
-/

namespace SieCluster.ModelIds

structure HttpError where
  statusCode : ℕ
  error : String
  message : String
  deriving DecidableEq, Repr

def isModelIdChar (letter : Char) : Bool :=
  letter.isAlphanum || letter ∈ ['.', '_', '/', ':', '@', '-']

/-- `^[a-zA-Z0-9][a-zA-Z0-9._/:@-]*$` as `re.match` reads it. -/
def modelIdPattern : List Char → Bool
  | [] => false
  | head :: rest =>
    head.isAlphanum && (rest.all isModelIdChar ||
        rest.getLast? = some '\n' && rest.dropLast.all isModelIdChar)

def validateModelId (modelId : String) : Except HttpError Unit :=
  if "..".toList <:+: modelId.toList ∨ '\\' ∈ modelId.toList ∨ ¬ modelIdPattern modelId.toList then
    .error ⟨400, "invalid_model_id", "Model ID contains invalid characters."⟩
  else if modelId = "status" ∨ "/status".toList <:+ modelId.toList then
    .error ⟨400, "invalid_model_id",
      "Model ID must not end with '/status' (reserved for the gateway status endpoint)."⟩
  else .ok ()

def Accepted (modelId : String) : Prop :=
  validateModelId modelId = .ok ()

instance (modelId : String) : Decidable (Accepted modelId) :=
  inferInstanceAs (Decidable (validateModelId modelId = .ok ()))

theorem accepted_iff : Accepted modelId ↔
      (¬ "..".toList <:+: modelId.toList ∧ '\\' ∉ modelId.toList ∧
        modelIdPattern modelId.toList = true) ∧
      modelId ≠ "status" ∧ ¬ "/status".toList <:+ modelId.toList := by
  unfold Accepted validateModelId
  split_ifs with hclass hstatus
  · simp only [false_iff]
    tauto
  · simp only [false_iff]
    tauto
  · simp only [true_iff]
    tauto

/-- Every symbol of an accepted id is in the pattern's class, a final line break
apart. -/
theorem mem_modelIdPattern (hpattern : modelIdPattern text = true) (hletter : letter ∈ text) :
    isModelIdChar letter = true ∨ letter = '\n' := by
  cases text with
  | nil => cases hletter
  | cons =>
    simp only [modelIdPattern, Bool.and_eq_true, Bool.or_eq_true, decide_eq_true_eq] at hpattern
    obtain ⟨hhead, hrest⟩ := hpattern
    rcases List.mem_cons.1 hletter with rfl | hmem
    · exact .inl (by simp [isModelIdChar, hhead])
    · rcases hrest with hall | ⟨hlast, hall⟩
      · exact .inl (List.all_eq_true.1 hall letter hmem)
      · rw [← List.dropLast_append_getLast? '\n' hlast] at hmem
        rcases List.mem_append.1 hmem with hfront | hend
        · exact .inl (List.all_eq_true.1 hall letter hfront)
        · exact .inr (List.mem_singleton.1 hend)

end SieCluster.ModelIds
