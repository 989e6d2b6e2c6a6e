import SieCluster.Sidecar.ModelIdentity

/-!
# Subjects and filters of three programs

The gateway publishes on a work subject, and the sidecar and the SDK build the
filters of the consumers.  Each program has its own rewriting of ids into tokens;
only the gateway's also rewrites control characters.
-/

namespace SieCluster.SubjectParity

open Substitution WorkSubjects ModelIdentity List
open Intake (slashWord dotWord)

/-- The SDK's `normalize_model_id`, one replacement after the other. -/
def sdkNormalizeModelId (modelId : String) : String :=
  String.ofList (substitute ' ' ['_'] (substitute '>' ['_'] (substitute '*' ['_']
    (substitute '.' dotWord (substitute '/' slashWord modelId.toList)))))

/-- `normalize_worker_id` of the SDK, which refuses a blank id; `isSpace` is what Python's
`strip` removes. -/
def sdkNormalizeWorkerId (isSpace : Char → Bool) (workerId : String) : Option String :=
  if workerId.toList.all isSpace then none else some (sdkNormalizeModelId workerId)

/-- What a work item is published for.  The gateway checks the pool name, and takes the machine
profile, bundle, model and worker from routes and reports without empty names. -/
structure Route where
  pool : String
  machineProfile : String
  bundle : String
  model : String
  workerId : String
  validPool : isValidPoolName pool = true
  machineProfile_ne : machineProfile ≠ ""
  bundle_ne : bundle ≠ ""
  model_ne : model ≠ ""
  workerId_ne : workerId ≠ ""

namespace Route

variable (route : Route)

def ids : List String := [route.machineProfile, route.bundle, route.model, route.workerId]

def poolSubject : String :=
  workSubject route.pool route.machineProfile route.bundle route.model

def workerSubject : String :=
  workSubjectWorker route.pool route.machineProfile route.bundle route.model route.workerId

/-- `stream_subject_filter`, the same in the sidecar and the SDK. -/
def streamFilter : String :=
  dotted ["sie", "work", route.pool, "*", "*", "*"]

def subjectFilter : String :=
  dotted ["sie", "work", route.pool, Intake.normalizeModelId route.machineProfile,
    Intake.normalizeModelId route.bundle, "*"]

/-- A worker's filter, with the rewriting and the worker's token of one program. -/
def filterOfWorker (normalize : String → String) (worker : String) : String :=
  dotted ["sie", "work", route.pool, normalize route.machineProfile, normalize route.bundle, "*",
    worker]

end Route

/-- A filter names each token or has a star for it. -/
def acceptsParts : List (List Char) → List (List Char) → Bool
  | [], [] => true
  | named :: filter, token :: subject => (named = ['*'] || named = token) &&
      acceptsParts filter subject
  | _, _ => false

def accepts (filter subject : String) : Bool :=
  acceptsParts (filter.toList.splitOn '.') (subject.toList.splitOn '.')

/-- So many tokens, none of them empty or with a wildcard. -/
def Shaped (count : ℕ) (subject : String) : Prop :=
  (subject.toList.splitOn '.').length = count ∧
    ∀ token ∈ subject.toList.splitOn '.', token ≠ [] ∧ '*' ∉ token ∧ '>' ∉ token

structure Agreed (isSpace : Char → Bool) (route : Route) : Prop where
  pooled : Shaped 6 route.poolSubject
  direct : Shaped 7 route.workerSubject
  sidecar : ∀ id ∈ route.ids, Intake.normalizeModelId id = normalizeModelId id
  sdk : ∀ id ∈ route.ids, sdkNormalizeModelId id = normalizeModelId id
  received : accepts route.streamFilter route.poolSubject = true ∧
    accepts route.subjectFilter route.poolSubject = true
  receivedDirect : accepts (route.filterOfWorker Intake.normalizeModelId
      (Intake.normalizeModelId route.workerId)) route.workerSubject = true ∧
    ∀ worker ∈ sdkNormalizeWorkerId isSpace route.workerId,
      accepts (route.filterOfWorker sdkNormalizeModelId worker) route.workerSubject = true

/-- No symbol that `char::is_control` accepts. -/
def Plain (id : String) : Prop :=
  ∀ letter ∈ id.toList, isControl letter = false

/-! ## Tokens -/

def Clean (token : String) : Prop :=
  token ≠ "" ∧ ∀ letter ∈ ['.', '*', '>'], letter ∉ token.toList

variable {tokens : List String}

theorem splitOn_dotted (hne : tokens ≠ []) (hclean : ∀ token ∈ tokens, '.' ∉ token.toList) :
    (dotted tokens).toList.splitOn '.' = tokens.map String.toList := by
  rw [dotted, String.toList_ofList]
  refine splitOn_intercalate '.' ?_ (by simpa using hne)
  intro text htext
  obtain ⟨token, htoken, rfl⟩ := mem_map.1 htext
  exact hclean token htoken

theorem shaped_dotted (hne : tokens ≠ []) (hclean : ∀ token ∈ tokens, Clean token) :
    Shaped tokens.length (dotted tokens) := by
  have hsplit := splitOn_dotted hne fun token htoken => (hclean token htoken).2 '.' (by simp)
  refine ⟨by rw [hsplit, length_map], ?_⟩
  rw [hsplit]
  intro text htext
  obtain ⟨token, htoken, rfl⟩ := mem_map.1 htext
  obtain ⟨hempty, hletters⟩ := hclean token htoken
  exact ⟨by simpa using hempty, hletters '*' (by simp), hletters '>' (by simp)⟩

theorem normalizeChar_clean (letter : Char) : normalizeChar letter ≠ [] ∧
    ∀ other ∈ normalizeChar letter, other ∉ ['.', '*', '>'] ∧ isControl other = false := by
  unfold normalizeChar
  split_ifs with hslash hdot hspecial hcontrol
  · simp [isControl]
  · simp [isControl]
  · simp [isControl]
  · simp [isControl]
  · refine ⟨by simp, ?_⟩
    intro other hother
    rw [mem_singleton.1 hother]
    simp only [not_or] at hspecial
    exact ⟨by simp [hdot, hspecial.1, hspecial.2.1], by simpa using hcontrol⟩

theorem clean_normalizeModelId {id : String} (hid : id ≠ "") : Clean (normalizeModelId id) := by
  refine ⟨?_, ?_⟩
  · intro hempty
    apply hid
    have hnil : id.toList.flatMap normalizeChar = [] := by
      simpa [normalizeModelId] using congrArg String.toList hempty
    cases hletters : id.toList with
    | nil => exact String.toList_eq_nil_iff.1 hletters
    | cons letter =>
      rw [hletters, flatMap_cons, append_eq_nil_iff] at hnil
      exact absurd hnil.1 (normalizeChar_clean letter).1
  · intro letter hletter hmem
    rw [normalizeModelId, String.toList_ofList] at hmem
    obtain ⟨source, -, hsource⟩ := mem_flatMap.1 hmem
    exact ((normalizeChar_clean source).2 letter hsource).1 hletter

theorem clean_pool (hpool : isValidPoolName pool = true) : Clean pool := by
  simp only [isValidPoolName, Bool.and_eq_true, decide_eq_true_eq] at hpool
  refine ⟨hpool.1.1.1, ?_⟩
  intro letter hletter hmem
  have hclass := all_eq_true.1 hpool.2 letter hmem
  simp only [mem_cons, not_mem_nil, or_false] at hletter
  rcases hletter with rfl | rfl | rfl <;> exact absurd hclass (by decide)

/-! ## The three rewritings -/

theorem sdk_eq_sidecar (id : String) : sdkNormalizeModelId id = Intake.normalizeModelId id := by
  simp only [sdkNormalizeModelId, Intake.normalizeModelId, substitute_singleton, map_map]
  refine congrArg String.ofList (map_congr_left fun letter _ => ?_)
  by_cases hstar : letter = '*'
  · simp [hstar]
  · by_cases hgreater : letter = '>' <;> simp [hstar, hgreater]

/-- The sidecar rewrites an id as the gateway does exactly when it has no control character. -/
theorem sidecar_eq_gateway_iff (id : String) :
    Intake.normalizeModelId id = normalizeModelId id ↔ Plain id := by
  refine ⟨?_, normalizeModelId_agree⟩
  intro hsame letter hletter
  by_contra hcontrol
  -- the sidecar keeps the letter, and the gateway writes none of its kind
  have hother : letter ∉ ['/', '.', '*', '>', ' '] := by
    intro hmem
    simp only [mem_cons, not_mem_nil, or_false] at hmem
    rcases hmem with rfl | rfl | rfl | rfl | rfl <;> exact hcontrol (by decide)
  simp only [mem_cons, not_mem_nil, or_false, not_or] at hother
  obtain ⟨hslash, hdot, hstar, hgreater, hspace⟩ := hother
  have hkept : letter ∈ (Intake.normalizeModelId id).toList := by
    rw [Intake.normalizeModelId, String.toList_ofList]
    refine mem_map.2 ⟨letter, ?_, by simp [hstar, hgreater, hspace]⟩
    exact mem_substitute_of_ne _ _ hdot (mem_substitute_of_ne _ _ hslash hletter)
  rw [hsame, normalizeModelId, String.toList_ofList] at hkept
  obtain ⟨source, -, hsource⟩ := mem_flatMap.1 hkept
  exact hcontrol ((normalizeChar_clean source).2 letter hsource).2

/-! ## Filters -/

theorem accepts_dotted (hpattern : pattern ≠ []) (htokens : tokens ≠ [])
    (hclean : ∀ token ∈ pattern ++ tokens, '.' ∉ token.toList) :
    accepts (dotted pattern) (dotted tokens) =
      acceptsParts (pattern.map String.toList) (tokens.map String.toList) := by
  rw [accepts, splitOn_dotted hpattern fun token htoken =>
      hclean token (mem_append_left _ htoken),
    splitOn_dotted htokens fun token htoken => hclean token (mem_append_right _ htoken)]

variable (route : Route) (isSpace : Char → Bool)

theorem route_clean : Clean route.pool ∧ ∀ id ∈ route.ids, Clean (normalizeModelId id) := by
  refine ⟨clean_pool route.validPool, ?_⟩
  intro id hid
  simp only [Route.ids, mem_cons, not_mem_nil, or_false] at hid
  apply clean_normalizeModelId
  rcases hid with rfl | rfl | rfl | rfl
  · exact route.machineProfile_ne
  · exact route.bundle_ne
  · exact route.model_ne
  · exact route.workerId_ne

/-- Every program reads and writes the subjects of a route alike exactly when none of its ids
has a control character. -/
theorem agreed_iff_plain : Agreed isSpace route ↔ ∀ id ∈ route.ids, Plain id := by
  refine ⟨fun hagreed id hid => (sidecar_eq_gateway_iff id).1 (hagreed.sidecar id hid), ?_⟩
  intro hplain
  have hsidecar (id : String) (hid : id ∈ route.ids) :=
    (sidecar_eq_gateway_iff id).2 (hplain id hid)
  obtain ⟨hpool, hids⟩ := route_clean route
  simp only [Route.ids, forall_mem_cons, not_mem_nil, false_imp_iff, implies_true,
    and_true] at hsidecar hids
  obtain ⟨hprofile, hbundle, hmodel, hworker⟩ := hids
  have hfixed : Clean "sie" ∧ Clean "work" := by simp [Clean]
  have hdot {token : String} (hclean : Clean token) : '.' ∉ token.toList :=
    hclean.2 '.' (by simp)
  have hdirect : accepts (route.filterOfWorker Intake.normalizeModelId
      (Intake.normalizeModelId route.workerId)) route.workerSubject = true := by
    rw [Route.filterOfWorker, hsidecar.1, hsidecar.2.1, hsidecar.2.2.2, Route.workerSubject,
      workSubjectWorker, accepts_dotted (by simp) (by simp) (by simp [*])]
    simp [acceptsParts]
  exact {
    pooled := shaped_dotted (by simp) (by simp [*])
    direct := shaped_dotted (by simp) (by simp [*])
    sidecar := by simpa [Route.ids] using hsidecar
    sdk := by simpa [Route.ids, sdk_eq_sidecar] using hsidecar
    received := by
      rw [Route.streamFilter, Route.subjectFilter, Route.poolSubject, workSubject,
        hsidecar.1, hsidecar.2.1]
      constructor
      · rw [accepts_dotted (by simp) (by simp) (by simp [*])]
        simp [acceptsParts]
      · rw [accepts_dotted (by simp) (by simp) (by simp [*])]
        simp [acceptsParts]
    receivedDirect := by
      refine ⟨hdirect, ?_⟩
      intro worker hworker
      unfold sdkNormalizeWorkerId at hworker
      split_ifs at hworker
      · exact absurd hworker (Option.not_mem_none worker)
      · rw [← Option.mem_some_iff.1 hworker, Route.filterOfWorker, sdk_eq_sidecar,
          sdk_eq_sidecar, sdk_eq_sidecar]
        exact hdirect }

/-- A worker whose id has a tab. -/
def tabbedWorker : Route where
  pool := "default"
  machineProfile := "l4"
  bundle := "sglang"
  model := "BAAI/bge-m3"
  workerId := "pod\t0"
  validPool := by decide
  machineProfile_ne := by decide
  bundle_ne := by decide
  model_ne := by decide
  workerId_ne := by decide

/-- What is published for it passes by its own filter. -/
theorem tabbedWorker_missed : accepts (tabbedWorker.filterOfWorker Intake.normalizeModelId
        (Intake.normalizeModelId tabbedWorker.workerId)) tabbedWorker.workerSubject = false ∧
      sdkNormalizeModelId tabbedWorker.workerId ≠ normalizeModelId tabbedWorker.workerId := by
  decide +kernel

end SieCluster.SubjectParity
