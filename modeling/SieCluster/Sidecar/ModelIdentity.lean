import SieCluster.Config.ModelIds
import SieCluster.Gateway.WorkSubjects
import SieCluster.Sidecar.Intake

/-!
# Model ids through the work queue

The gateway rewrites a model id into one subject token and the sidecar reads it
back by substring replacement.  For an id the config API accepts, the reading is
right exactly when the id has none of the factors below; two accepted ids outside
that set can share a subject.
-/

namespace SieCluster.ModelIdentity

open Substitution ModelIds WorkSubjects Intake List

/-- The factors after which reading a subject token gives another id. -/
def lossyFactors : List String :=
  ["__", "_/", "_.", "._", "./", "_dot_", "_dot.", "\n"]

def Recoverable (modelId : String) : Prop :=
  ∀ factor ∈ lossyFactors, ¬ factor.toList <:+: modelId.toList

instance (modelId : String) : Decidable (Recoverable modelId) :=
  inferInstanceAs (Decidable (∀ factor ∈ lossyFactors, ¬ factor.toList <:+: modelId.toList))

/-! ## Writing is two substitutions -/

variable {letter : Char}

theorem isAlphanum_bounds (hletter : letter.isAlphanum = true) :
    48 ≤ letter.toNat ∧ letter.toNat < 123 := by
  simp only [Char.isAlphanum, Char.isAlpha, Char.isUpper, Char.isLower, Char.isDigit,
    Bool.or_eq_true, Bool.and_eq_true, decide_eq_true_eq, ge_iff_le,
    UInt32.le_iff_toNat_le] at hletter
  have hranges : (65 ≤ letter.toNat ∧ letter.toNat ≤ 90 ∨ 97 ≤ letter.toNat ∧ letter.toNat ≤ 122) ∨
        48 ≤ letter.toNat ∧ letter.toNat ≤ 57 := hletter
  omega

theorem isControl_of_isModelIdChar (hletter : isModelIdChar letter = true) :
    isControl letter = false := by
  simp only [isModelIdChar, Bool.or_eq_true, decide_eq_true_eq] at hletter
  rcases hletter with halphanum | hmem
  · have hbounds := isAlphanum_bounds halphanum
    simp only [isControl, Bool.or_eq_false_iff, Bool.and_eq_false_iff, decide_eq_false_iff_not]
    omega
  · simp only [mem_cons, not_mem_nil, or_false] at hmem
    rcases hmem with rfl | rfl | rfl | rfl | rfl | rfl <;> decide

theorem normalizeChar_of_isModelIdChar (hletter : isModelIdChar letter = true)
    (hslash : letter ≠ '/') (hdot : letter ≠ '.') : normalizeChar letter = [letter] := by
  have hplain : ¬ (letter = '*' ∨ letter = '>' ∨ letter = ' ') := by
    rintro (rfl | rfl | rfl) <;> exact absurd hletter (by decide)
  simp [normalizeChar, hslash, hdot, hplain, isControl_of_isModelIdChar hletter]

theorem flatMap_normalizeChar (hclass : ∀ letter ∈ text, isModelIdChar letter = true) :
    text.flatMap normalizeChar =
      substitute '/' slashWord (substitute '.' dotWord text) := by
  induction text with
  | nil => rfl
  | cons letter _ ih =>
    have hrest := ih fun other hother => hclass other (mem_cons_of_mem _ hother)
    rw [flatMap_cons, hrest]
    by_cases hslash : letter = '/'
    · subst hslash
      rw [substitute_cons_of_ne _ _ (by decide), substitute_cons_self]
      rfl
    · by_cases hdot : letter = '.'
      · subst hdot
        rw [substitute_cons_self, substitute_append]
        rfl
      · rw [substitute_cons_of_ne _ _ hdot, substitute_cons_of_ne _ _ hslash,
          normalizeChar_of_isModelIdChar (hclass letter mem_cons_self) hslash hdot]
        rfl

theorem sidecar_spelling (hcontrol : ∀ letter ∈ text, isControl letter = false) :
    (substitute '.' dotWord (substitute '/' slashWord text)).map (fun letter =>
        if letter = '*' ∨ letter = '>' ∨ letter = ' ' then '_' else letter) =
      text.flatMap normalizeChar := by
  induction text with
  | nil => rfl
  | cons letter _ ih =>
    rw [flatMap_cons, ← ih fun other hother => hcontrol other (mem_cons_of_mem _ hother)]
    have hletter := hcontrol letter mem_cons_self
    by_cases hslash : letter = '/'
    · subst hslash
      simp [substitute_cons_self, slashWord, normalizeChar, substitute_cons_of_ne]
    · rw [substitute_cons_of_ne _ _ hslash]
      by_cases hdot : letter = '.'
      · subst hdot
        simp [dotWord, normalizeChar]
      · rw [substitute_cons_of_ne _ _ hdot]
        by_cases hspecial : letter = '*' ∨ letter = '>' ∨ letter = ' ' <;>
          simp [normalizeChar, hslash, hdot, hspecial, hletter]

/-- The two programs rewrite an id alike when it has no control character. -/
theorem normalizeModelId_agree (hcontrol : ∀ letter ∈ modelId.toList, isControl letter = false) :
    Intake.normalizeModelId modelId = WorkSubjects.normalizeModelId modelId := by
  rw [Intake.normalizeModelId, sidecar_spelling hcontrol, WorkSubjects.normalizeModelId]

/-! ## False matches are factors -/

theorem singleton_prefix_substitute_dot :
    ['_'] <+: substitute '.' dotWord text ↔ ['_'] <+: text ∨ ['.'] <+: text := by
  cases text with
  | nil => simp
  | cons letter =>
    by_cases hdot : letter = '.'
    · subst hdot
      simp [dotWord, cons_prefix_cons]
    · rw [substitute_cons_of_ne _ _ hdot]
      simp [cons_prefix_cons, Ne.symm hdot]

/-- Behind a letter that the rewriting keeps, the written text goes on as the text
does. -/
theorem cons_prefix_substitute_dot (hdot : letter ≠ '.') (hunderscore : letter ≠ '_')
    {tail first second : List Char}
    (htail : ∀ rest, tail <+: substitute '.' dotWord rest ↔ first <+: rest ∨ second <+: rest) :
    letter :: tail <+: substitute '.' dotWord text ↔
      letter :: first <+: text ∨ letter :: second <+: text := by
  have hfirst : ∃ first rest, dotWord = first :: rest ∧ first ≠ letter :=
    ⟨'_', _, rfl, Ne.symm hunderscore⟩
  rw [cons_prefix_substitute_iff hdot hfirst]
  cases text with
  | nil => simp
  | cons _ rest =>
    simp only [cons_prefix_cons, cons_eq_cons, htail]
    constructor
    · rintro ⟨other, ⟨rfl, rfl⟩, hstarts⟩
      exact hstarts.imp (⟨rfl, ·⟩) (⟨rfl, ·⟩)
    · rintro (⟨rfl, hstarts⟩ | ⟨rfl, hstarts⟩)
      · exact ⟨rest, ⟨rfl, rfl⟩, .inl hstarts⟩
      · exact ⟨rest, ⟨rfl, rfl⟩, .inr hstarts⟩

/-- The dot's word is found where it was not written exactly at `_dot_` and `_dot.`. -/
theorem falseMatch_dot_iff : FalseMatch '.' dotWord text ↔
      dotWord <:+: text ∨ ['_', 'd', 'o', 't', '.'] <:+: text := by
  have hword : ∀ rest, ['d', 'o', 't', '_'] <+: substitute '.' dotWord rest ↔
      ['d', 'o', 't', '_'] <+: rest ∨ ['d', 'o', 't', '.'] <+: rest := fun rest =>
    cons_prefix_substitute_dot (by decide) (by decide) fun rest =>
      cons_prefix_substitute_dot (by decide) (by decide) fun rest =>
        cons_prefix_substitute_dot (by decide) (by decide) fun rest =>
          singleton_prefix_substitute_dot
  induction text with
  | nil => simp [not_falseMatch_nil, dotWord]
  | cons letter rest ih =>
    have hhead : letter ≠ '.' ∧ dotWord <+: substitute '.' dotWord (letter :: rest) ↔
        dotWord <+: letter :: rest ∨ ['_', 'd', 'o', 't', '.'] <+: letter :: rest := by
      by_cases hdot : letter = '.'
      · subst hdot
        simp [dotWord, cons_prefix_cons]
      · rw [substitute_cons_of_ne _ _ hdot, show dotWord = '_' :: ['d', 'o', 't', '_'] from rfl,
          cons_prefix_cons, cons_prefix_cons, cons_prefix_cons]
        have hrest := hword rest
        unfold dotWord at hrest
        tauto
    simp only [falseMatch_cons, infix_cons_iff, hhead, ih]
    tauto

/-- The written text begins with an underscore. -/
theorem underscore_prefix_iff : ['_'] <+: substitute '/' slashWord (substitute '.' dotWord text) ↔
      ['_'] <+: text ∨ ['/'] <+: text ∨ ['.'] <+: text := by
  cases text with
  | nil => simp
  | cons letter =>
    by_cases hdot : letter = '.'
    · subst hdot
      rw [substitute_cons_self, substitute_append]
      simp [dotWord, substitute, cons_prefix_cons]
    · rw [substitute_cons_of_ne _ _ hdot]
      by_cases hslash : letter = '/'
      · subst hslash
        simp [slashWord, cons_prefix_cons]
      · rw [substitute_cons_of_ne _ _ hslash]
        simp [cons_prefix_cons, Ne.symm hdot, Ne.symm hslash]

/-- An underscore or a dot directly before an underscore, a slash or a dot. -/
def Joined (text : List Char) : Prop :=
  ∃ first ∈ ['_', '.'], ∃ second ∈ ['_', '/', '.'], [first, second] <:+: text

theorem joined_cons : Joined (letter :: rest) ↔ (letter = '_' ∨ letter = '.') ∧
        (['_'] <+: rest ∨ ['/'] <+: rest ∨ ['.'] <+: rest) ∨ Joined rest := by
  simp only [Joined, infix_cons_iff, cons_prefix_cons, mem_cons,
    not_mem_nil, or_false, exists_eq_or_imp, exists_eq_left]
  rw [eq_comm (a := '_') (b := letter), eq_comm (a := '.') (b := letter)]
  tauto

theorem falseMatch_slash_cons_of_ne (hletter : letter ≠ '_') :
    FalseMatch '/' slashWord (letter :: rest) ↔ FalseMatch '/' slashWord rest := by
  rw [falseMatch_cons, or_iff_right]
  rintro ⟨hslash, hfound⟩
  rw [substitute_cons_of_ne _ _ hslash] at hfound
  exact hletter (cons_prefix_cons.1 hfound).1.symm

theorem falseMatch_slash_cons_underscore : FalseMatch '/' slashWord ('_' :: rest) ↔
      ['_'] <+: substitute '/' slashWord rest ∨ FalseMatch '/' slashWord rest := by
  rw [falseMatch_cons, substitute_cons_of_ne _ _ (by decide)]
  simp [slashWord, cons_prefix_cons]

/-- The slash's word is found where it was not written exactly when two of the
letters that write underscores meet. -/
theorem falseMatch_slash_iff :
    FalseMatch '/' slashWord (substitute '.' dotWord text) ↔ Joined text := by
  induction text with
  | nil => simp [not_falseMatch_nil, Joined]
  | cons letter _ ih =>
    rw [joined_cons, ← ih, ← underscore_prefix_iff]
    by_cases hdot : letter = '.'
    · subst hdot
      rw [substitute_cons_self]
      simp only [dotWord, cons_append, nil_append]
      rw [falseMatch_slash_cons_underscore,
        falseMatch_slash_cons_of_ne (by decide), falseMatch_slash_cons_of_ne (by decide),
        falseMatch_slash_cons_of_ne (by decide), falseMatch_slash_cons_underscore]
      simp [substitute, cons_prefix_cons]
    · rw [substitute_cons_of_ne _ _ hdot]
      by_cases hunderscore : letter = '_'
      · subst hunderscore
        rw [falseMatch_slash_cons_underscore]
        simp
      · rw [falseMatch_slash_cons_of_ne hunderscore]
        simp [hdot, hunderscore]

theorem joined_iff (hdots : ¬ ['.', '.'] <:+: text) :
    Joined text ↔ ['_', '_'] <:+: text ∨ ['_', '/'] <:+: text ∨ ['_', '.'] <:+: text ∨
      ['.', '_'] <:+: text ∨ ['.', '/'] <:+: text := by
  simp only [Joined, mem_cons, not_mem_nil, or_false, exists_eq_or_imp, exists_eq_left]
  tauto

theorem recoverable_iff (hdots : ¬ ['.', '.'] <:+: modelId.toList) : Recoverable modelId ↔
      (¬ FalseMatch '/' slashWord (substitute '.' dotWord modelId.toList) ∧
        ¬ FalseMatch '.' dotWord modelId.toList) ∧ '\n' ∉ modelId.toList := by
  rw [falseMatch_slash_iff, joined_iff hdots, falseMatch_dot_iff]
  simp [Recoverable, lossyFactors, dotWord, singleton_infix_iff, and_assoc]

/-! ## What the queue does to an id -/

/-- Reading back the token of an accepted id gives the id exactly when it has no
lossy factor. -/
theorem denormalize_normalize_iff (haccepted : Accepted modelId) :
    denormalizeModelId (WorkSubjects.normalizeModelId modelId) = modelId ↔ Recoverable modelId := by
  obtain ⟨⟨hdots, -, hpattern⟩, -⟩ := accepted_iff.1 haccepted
  rw [recoverable_iff (by simpa using hdots), ← String.toList_inj, denormalizeModelId,
    WorkSubjects.normalizeModelId, String.toList_ofList, String.toList_ofList]
  by_cases hnewline : '\n' ∈ modelId.toList
  · -- the line break is rewritten to an underscore and never comes back
    refine iff_of_false (fun hread => ?_) (fun hclean => hclean.2 hnewline)
    rw [← hread] at hnewline
    rcases mem_replaceAll _ hnewline with hdot | hmem
    · exact absurd hdot (by decide)
    · rcases mem_replaceAll _ hmem with hslash | hwritten
      · exact absurd hslash (by decide)
      · obtain ⟨letter, -, hletter⟩ := mem_flatMap.1 hwritten
        exact newline_notMem_normalizeChar letter hletter
  · have hclass : ∀ letter ∈ modelId.toList, isModelIdChar letter = true := by
      intro letter hletter
      refine (mem_modelIdPattern hpattern hletter).resolve_right ?_
      rintro rfl
      exact hnewline hletter
    rw [flatMap_normalizeChar hclass, replaceAll_substitute_twice_iff (by decide)
      (by decide) (by decide) (by decide) (by decide), and_iff_left hnewline]

variable {target : PublishTarget}

theorem extractModelId_subject (hpool : isValidPoolName target.poolName = true) :
    extractModelId target.subject =
      some (denormalizeModelId (WorkSubjects.normalizeModelId target.model)) := by
  unfold extractModelId
  rw [splitOn_subject hpool]
  cases target <;> simp [tokens, minSubjectParts, modelTokenIndex, PublishTarget.model]

/-- A target whose pool passed the request check and whose model id passed the config
API's. -/
structure Publishable (target : PublishTarget) : Prop where
  pool : isValidPoolName target.poolName = true
  model : Accepted target.model

/-- The id published to a target is the one the sidecar reads from its subject, and
the only one under which a batch hands on the target's work. -/
def KeepsModelId (target : PublishTarget) : Prop :=
  extractModelId target.subject = some target.model ∧
    ∀ dispatcher messages work, work.2.subject = target.subject →
      ∀ modelId, HandedOn (handleBatch dispatcher messages) modelId work ↔
        work ∈ decodeBatch dispatcher messages ∧ modelId = target.model

theorem keepsModelId_iff (htarget : Publishable target) :
    KeepsModelId target ↔ Recoverable target.model := by
  have hread : extractModelId target.subject = some target.model ↔ Recoverable target.model := by
    rw [extractModelId_subject htarget.pool, Option.some_inj,
      denormalize_normalize_iff htarget.model]
  refine ⟨fun hkeeps => hread.1 hkeeps.1, fun hrecoverable => ⟨hread.2 hrecoverable, ?_⟩⟩
  intro dispatcher messages work hsubject modelId
  rw [handedOn_iff]
  refine and_congr_right fun hwork => ?_
  have hitem := extractModelId_of_intake (mem_decodeBatch hwork).2
  rw [hsubject, hread.2 hrecoverable] at hitem
  rw [← Option.some_inj.1 hitem]
  exact eq_comm

/-- Two published ids survive the queue, each read back and routed as itself and on
different subjects when they differ, exactly when neither has a lossy factor. -/
theorem modelIds_survive_queue_iff {first second : PublishTarget}
    (hfirst : Publishable first) (hsecond : Publishable second) :
    ((first.model ≠ second.model → first.subject ≠ second.subject) ∧
        KeepsModelId first ∧ KeepsModelId second) ↔
      Recoverable first.model ∧ Recoverable second.model := by
  rw [keepsModelId_iff hfirst, keepsModelId_iff hsecond]
  refine and_iff_right_of_imp ?_
  rintro ⟨hfirstRead, hsecondRead⟩ hne hsubject
  have hread := ((keepsModelId_iff hfirst).2 hfirstRead).1
  rw [hsubject, ((keepsModelId_iff hsecond).2 hsecondRead).1] at hread
  exact hne (Option.some_inj.1 hread).symm

theorem modelIds_survive_queue_versions :
    (PublishTarget.pool "default" "l4" "base" "org/m-v2.5").subject ≠
        (PublishTarget.worker "default" "l4" "base" "org/m:x@1" "w0").subject ∧
      KeepsModelId (.pool "default" "l4" "base" "org/m-v2.5") ∧
      KeepsModelId (.worker "default" "l4" "base" "org/m:x@1" "w0") := by
  have hfirst : Publishable (.pool "default" "l4" "base" "org/m-v2.5") :=
    ⟨by decide +kernel, by decide +kernel⟩
  have hsecond : Publishable (.worker "default" "l4" "base" "org/m:x@1" "w0") :=
    ⟨by decide +kernel, by decide +kernel⟩
  have hsurvive := (modelIds_survive_queue_iff hfirst hsecond).2
    ⟨by decide +kernel, by decide +kernel⟩
  exact ⟨hsurvive.1 (by decide +kernel), hsurvive.2⟩

/-- Two accepted ids that have neither `__` nor `_dot_` share a subject, and the
sidecar takes the work of the first for the second's. -/
theorem modelIds_lost_in_queue : Publishable (.pool "default" "l4" "base" "org_/m") ∧
      Publishable (.pool "default" "l4" "base" "org/_m") ∧
      (PublishTarget.pool "default" "l4" "base" "org_/m").subject =
        (PublishTarget.pool "default" "l4" "base" "org/_m").subject ∧
      extractModelId (PublishTarget.pool "default" "l4" "base" "org_/m").subject = some "org/_m" :=
  ⟨⟨by decide +kernel, by decide +kernel⟩, ⟨by decide +kernel, by decide +kernel⟩,
    by decide +kernel, by decide +kernel⟩

end SieCluster.ModelIdentity
