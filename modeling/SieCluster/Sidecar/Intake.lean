import SieCluster.Core.Dicts
import SieCluster.Core.Substitution

/-!
# Intake of queued work on the worker

The sidecar recovers the model id from the subject a message arrived on and
trusts it over the one in the payload.  Messages that do not yield a work item
for this worker are settled at once; the others are handed on, generation items
one by one and all other items grouped by model id.
-/

namespace SieCluster.Intake

open Substitution Dicts

/-- White space of `str::trim`. -/
def isWhitespace (letter : Char) : Bool :=
  9 ≤ letter.toNat ∧ letter.toNat ≤ 13 || letter.toNat ∈ [32, 0x85, 0xA0, 0x1680, 0x2028,
    0x2029, 0x202F, 0x205F, 0x3000] || 0x2000 ≤ letter.toNat ∧ letter.toNat ≤ 0x200A

def trim (text : String) : String :=
  String.ofList ((text.toList.dropWhile isWhitespace).rdropWhile isWhitespace)

/-! ## Subjects -/

def modelTokenIndex : ℕ := 5
def minSubjectParts : ℕ := 6
def directWorkSubjectParts : ℕ := 7

/-- `__`, written for `/`. -/
def slashWord : List Char := ['_', '_']

/-- `_dot_`, written for `.`. -/
def dotWord : List Char := ['_', 'd', 'o', 't', '_']

def denormalizeModelId (normalized : String) : String :=
  String.ofList (replaceAll dotWord ['.'] (replaceAll slashWord ['/'] normalized.toList))

/-- The sidecar's own spelling of the gateway's rewriting. -/
def normalizeModelId (modelId : String) : String :=
  String.ofList ((substitute '.' dotWord (substitute '/' slashWord modelId.toList)).map
    fun letter => if letter = '*' ∨ letter = '>' ∨ letter = ' ' then '_' else letter)

def extractModelId (subject : String) : Option String :=
  let parts := subject.toList.splitOn '.'
  if parts.length < minSubjectParts then none
  else parts[modelTokenIndex]?.map fun token => denormalizeModelId (String.ofList token)

def isWorkerDirectWorkSubject (subject : String) : Bool :=
  let parts := subject.toList.splitOn '.'
  parts.length = directWorkSubjectParts && parts[0]? = some "sie".toList &&
    parts[1]? = some "work".toList

/-! ## Messages -/

/-- The fields of a work item that the intake reads. -/
structure WorkItem where
  workItemId : String
  requestId : String
  routerId : String
  operation : String
  modelId : String
  replySubject : String
  admissionPool : String
  deriving DecidableEq, Repr

/-- A message of the work stream; `payload` is what its bytes decode to. -/
structure QueuedMessage where
  subject : String
  payload : Option WorkItem
  deriving DecidableEq, Repr

/-- What the intake asks of the rest of the dispatcher: whether a request has been
abandoned, and whether this worker serves a work item's pool. -/
structure Dispatcher where
  cancellationFor : (routerId requestId operation : String) → (workerDirect : Bool) → Bool
  poolAdmission : Option (String → Bool)

def inboxMarker : List Char := "_INBOX.".toList

def replySubjectIsSafe (replySubject : String) : Bool :=
  replySubject = "" || inboxMarker <+: replySubject.toList

inductive NakReason
  | malformedSubject
  | undecodable
  | poolNotAssigned
  deriving DecidableEq, Repr

inductive Verdict
  | nak (reason : NakReason)
  | ackUnsafeReply
  | ackCancelled
  | decoded (item : WorkItem)
  deriving DecidableEq, Repr

section

variable (dispatcher : Dispatcher)

/-- One turn of the decoding loop of `handle_batch`. -/
def intake (message : QueuedMessage) : Verdict :=
  match extractModelId message.subject, message.payload with
  | none, _ => .nak .malformedSubject
  | some _, none => .nak .undecodable
  | some subjectModel, some item =>
    if ¬ replySubjectIsSafe item.replySubject then .ackUnsafeReply
    else if dispatcher.cancellationFor item.routerId item.requestId item.operation
        (isWorkerDirectWorkSubject message.subject) then .ackCancelled
    else if dispatcher.poolAdmission.any fun admits => ¬ admits item.admissionPool then
      .nak .poolNotAssigned
    else .decoded (if item.modelId ≠ subjectModel then
      { item with modelId := subjectModel } else item)

abbrev Work := WorkItem × QueuedMessage

def groupByModelOnly (items : List Work) : Dict String (List Work) :=
  items.foldl (fun groups work =>
    set groups work.1.modelId ((get groups work.1.modelId).getD [] ++ [work])) []

/-- What a batch is handed on as. -/
structure Dispatched where
  generateItems : List Work
  modelGroups : Dict String (List Work)

variable (messages : List QueuedMessage)

def decodeBatch : List Work :=
  messages.filterMap fun message =>
    match intake dispatcher message with
    | .decoded item => some (item, message)
    | _ => none

def handleBatch : Dispatched :=
  let decoded := decodeBatch dispatcher messages
  { generateItems := decoded.filter fun work => work.1.operation = "generate"
    modelGroups := groupByModelOnly (decoded.filter fun work => work.1.operation ≠ "generate") }

end

/-- A piece of work that a batch hands on under a model id: a generation item that
carries it, or a member of its group. -/
def HandedOn (dispatched : Dispatched) (modelId : String) (work : Work) : Prop :=
  work ∈ dispatched.generateItems ∧ work.1.modelId = modelId ∨
    ∃ group, get dispatched.modelGroups modelId = some group ∧ work ∈ group

/-! ## Routing follows the subject -/

/-- A decoded item carries the model id of its subject, whatever its payload said. -/
theorem extractModelId_of_intake (hintake : intake dispatcher message = .decoded item) :
    extractModelId message.subject = some item.modelId := by
  unfold intake at hintake
  split at hintake
  · cases hintake
  · cases hintake
  · rename_i subjectModel payload hsubject hpayload
    split_ifs at hintake with hsafe hcancelled hpool hmodel
    · cases hintake
      exact hsubject
    · cases hintake
      rw [hsubject, not_not.1 hmodel]

theorem mem_decodeBatch (hwork : work ∈ decodeBatch dispatcher messages) :
    work.2 ∈ messages ∧ intake dispatcher work.2 = .decoded work.1 := by
  obtain ⟨message, hmessage, hsome⟩ := List.mem_filterMap.1 hwork
  split at hsome
  · rename_i item hintake
    cases hsome
    exact ⟨hmessage, hintake⟩
  · cases hsome

/-- A group holds exactly the items with its model id, in order of arrival. -/
theorem get_groupByModelOnly (items : List Work) (modelId : String) :
    (get (groupByModelOnly items) modelId).getD [] =
      items.filter fun work => work.1.modelId = modelId := by
  induction items using List.reverseRecOn with
  | nil => rfl
  | append_singleton _ work ih =>
    rw [groupByModelOnly, List.foldl_append, ← groupByModelOnly, List.filter_append, ← ih]
    simp only [List.foldl_cons, List.foldl_nil, get_set]
    by_cases hmodel : work.1.modelId = modelId
    · simp [hmodel]
    · simp [hmodel]

theorem mem_group_iff :
    (∃ group, get (groupByModelOnly items) modelId = some group ∧ work ∈ group) ↔
      work ∈ items ∧ work.1.modelId = modelId := by
  have hgroup := get_groupByModelOnly items modelId
  constructor
  · rintro ⟨group, hget, hmem⟩
    rw [hget, Option.getD_some] at hgroup
    rw [hgroup] at hmem
    simpa using List.mem_filter.1 hmem
  · rintro ⟨hmem, hmodel⟩
    have hfilter : work ∈ (get (groupByModelOnly items) modelId).getD [] := by
      rw [hgroup]
      exact List.mem_filter.2 ⟨hmem, by simpa using hmodel⟩
    cases hget : get (groupByModelOnly items) modelId with
    | none => simp [hget] at hfilter
    | some group => exact ⟨group, rfl, by simpa [hget] using hfilter⟩

/-- A batch hands on each decoded item under the model id it carries and under no
other. -/
theorem handedOn_iff : HandedOn (handleBatch dispatcher messages) modelId work ↔
      work ∈ decodeBatch dispatcher messages ∧ work.1.modelId = modelId := by
  simp only [HandedOn, handleBatch, mem_group_iff, List.mem_filter]
  by_cases hgenerate : work.1.operation = "generate" <;> simp [hgenerate]

end SieCluster.Intake
