import SieCluster.Core.Substitution

/-!
# Work subjects

The gateway publishes a work item on a subject of dot-separated tokens that ends
in the model id, or in the model id and the worker it is meant for.  Ids are
rewritten so that each is one token; the pool is interpolated as it is, after the
request's pool name has been checked.
-/

namespace SieCluster.WorkSubjects

open Substitution

/-- The code points `char::is_control` accepts. -/
def isControl (letter : Char) : Bool :=
  letter.toNat < 32 || 127 ≤ letter.toNat && letter.toNat < 160

def normalizeChar (letter : Char) : List Char :=
  if letter = '/' then ['_', '_']
  else if letter = '.' then ['_', 'd', 'o', 't', '_']
  else if letter = '*' ∨ letter = '>' ∨ letter = ' ' then ['_']
  else if isControl letter then ['_']
  else [letter]

def normalizeModelId (modelId : String) : String :=
  String.ofList (modelId.toList.flatMap normalizeChar)

/-- Tokens written one after the other with a dot between each two. -/
def dotted (tokens : List String) : String :=
  String.ofList (['.'].intercalate (tokens.map String.toList))

def workSubject (pool machineProfile bundle model : String) : String :=
  dotted ["sie", "work", pool, normalizeModelId machineProfile, normalizeModelId bundle,
    normalizeModelId model]

def workSubjectWorker (pool machineProfile bundle model workerId : String) : String :=
  dotted ["sie", "work", pool, normalizeModelId machineProfile, normalizeModelId bundle,
    normalizeModelId model, normalizeModelId workerId]

inductive PublishTarget
  | worker (pool machineProfile bundle model workerId : String)
  | pool (pool machineProfile bundle model : String)
  deriving DecidableEq, Repr

def PublishTarget.subject : PublishTarget → String
  | .worker owner machineProfile bundle model workerId =>
    workSubjectWorker owner machineProfile bundle model workerId
  | .pool owner machineProfile bundle model => workSubject owner machineProfile bundle model

def PublishTarget.model : PublishTarget → String
  | .worker _ _ _ model _ => model
  | .pool _ _ _ model => model

def PublishTarget.poolName : PublishTarget → String
  | .worker owner _ _ _ _ => owner
  | .pool owner _ _ _ => owner

def isValidPoolName (pool : String) : Bool :=
  pool ≠ "" && pool.utf8ByteSize ≤ 128 && pool.toList.map Char.toLower ≠ "_default".toList &&
    pool.toList.all fun letter => letter.isAlphanum || letter ∈ ['_', '-']

/-! ## Tokens -/

theorem dot_notMem_normalizeChar (letter : Char) : '.' ∉ normalizeChar letter := by
  unfold normalizeChar
  split_ifs with hslash hdot
  all_goals simp
  exact Ne.symm hdot

theorem dot_notMem_normalizeModelId (modelId : String) :
    '.' ∉ (normalizeModelId modelId).toList := by
  intro hmem
  rw [normalizeModelId, String.toList_ofList] at hmem
  obtain ⟨letter, -, hletter⟩ := List.mem_flatMap.1 hmem
  exact dot_notMem_normalizeChar letter hletter

theorem newline_notMem_normalizeChar (letter : Char) : '\n' ∉ normalizeChar letter := by
  unfold normalizeChar
  split_ifs with hslash hdot hspecial hcontrol
  all_goals simp
  rintro rfl
  exact hcontrol (by decide)

theorem dot_notMem_pool (hpool : isValidPoolName pool = true) : '.' ∉ pool.toList := by
  intro hmem
  simp only [isValidPoolName, Bool.and_eq_true] at hpool
  have hclass := List.all_eq_true.1 hpool.2 _ hmem
  revert hclass
  decide

/-- The tokens of a target's subject. -/
def tokens : PublishTarget → List String
  | .worker pool machineProfile bundle model workerId =>
    ["sie", "work", pool, normalizeModelId machineProfile, normalizeModelId bundle,
      normalizeModelId model, normalizeModelId workerId]
  | .pool pool machineProfile bundle model =>
    ["sie", "work", pool, normalizeModelId machineProfile, normalizeModelId bundle,
      normalizeModelId model]

theorem dot_notMem_tokens (hpool : isValidPoolName target.poolName = true) :
    ∀ token ∈ (tokens target).map String.toList, '.' ∉ token := by
  have hclean := dot_notMem_pool hpool
  cases target <;>
    simpa [tokens, dot_notMem_normalizeModelId, PublishTarget.poolName] using hclean

theorem subject_eq_dotted (target : PublishTarget) : target.subject = dotted (tokens target) := by
  cases target <;> rfl

/-- Splitting a subject at its dots gives back the tokens it was made of. -/
theorem splitOn_subject (hpool : isValidPoolName target.poolName = true) :
    target.subject.toList.splitOn '.' = (tokens target).map String.toList := by
  rw [subject_eq_dotted, dotted, String.toList_ofList]
  refine List.splitOn_intercalate '.' (dot_notMem_tokens hpool) ?_
  cases target <;> simp [tokens]

end SieCluster.WorkSubjects
