import Mathlib

/-!
# Substituting a symbol by a word and reading it back

`substitute symbol pattern` writes `pattern` for every occurrence of one symbol;
`replaceAll pattern replacement` scans from the left and replaces every
non-overlapping occurrence of `pattern`, as string libraries do.  Writing after
reading always gives the text back when the symbol does not occur in it.
Reading after writing gives the text back exactly when `pattern` never begins
at a position that was not written by the substitution.
-/

namespace SieCluster.Substitution

open List

variable {A : Type*} [DecidableEq A]

def substitute (symbol : A) (pattern text : List A) : List A :=
  text.flatMap fun letter => if letter = symbol then pattern else [letter]

/-- The scan of `replaceAll`, with `skip` symbols of a found pattern still to pass. -/
def replaceFrom (pattern replacement : List A) : ℕ → List A → List A
  | _, [] => []
  | skip + 1, _ :: rest => replaceFrom pattern replacement skip rest
  | 0, head :: rest =>
    if pattern <+: head :: rest then
      replacement ++ replaceFrom pattern replacement (pattern.length - 1) rest
    else head :: replaceFrom pattern replacement 0 rest

def replaceAll (pattern replacement text : List A) : List A :=
  replaceFrom pattern replacement 0 text

/-- Somewhere in the written text the pattern begins at a symbol that stands for
itself. -/
def FalseMatch (symbol : A) (pattern text : List A) : Prop :=
  ∃ letter rest, letter :: rest <:+ text ∧ letter ≠ symbol ∧
    pattern <+: substitute symbol pattern (letter :: rest)

section Substitute

variable (symbol : A) (pattern : List A)

@[simp]
theorem substitute_nil : substitute symbol pattern [] = [] := rfl

@[simp]
theorem substitute_cons_self (rest : List A) :
    substitute symbol pattern (symbol :: rest) = pattern ++ substitute symbol pattern rest := by
  simp [substitute]

theorem substitute_cons_of_ne (hne : letter ≠ symbol) (rest : List A) :
    substitute symbol pattern (letter :: rest) = letter :: substitute symbol pattern rest := by
  simp [substitute, hne]

theorem substitute_append (first second : List A) :
    substitute symbol pattern (first ++ second) =
      substitute symbol pattern first ++ substitute symbol pattern second := by
  simp [substitute]

theorem mem_substitute (hletter : letter ∈ substitute symbol pattern text) :
    letter ∈ pattern ∨ letter ∈ text ∧ letter ≠ symbol := by
  obtain ⟨source, hsource, hmem⟩ := mem_flatMap.1 hletter
  split at hmem
  · exact .inl hmem
  · rename_i hne
    cases mem_singleton.1 hmem
    exact .inr ⟨hsource, hne⟩

theorem mem_substitute_of_ne (hne : letter ≠ symbol) (hletter : letter ∈ text) :
    letter ∈ substitute symbol pattern text :=
  mem_flatMap.2 ⟨letter, hletter, by simp [hne]⟩

theorem filter_substitute {keep : A → Bool} (hsymbol : keep symbol = true)
    (hpattern : pattern.all keep = true) (text : List A) :
    (substitute symbol pattern text).filter keep =
      substitute symbol pattern (text.filter keep) := by
  induction text with
  | nil => rfl
  | cons letter rest ih =>
    by_cases hletter : letter = symbol
    · subst hletter
      rw [filter_cons_of_pos hsymbol, substitute_cons_self, substitute_cons_self, filter_append, ih,
        filter_eq_self.2 (all_eq_true.1 hpattern)]
    · rw [substitute_cons_of_ne _ _ hletter, filter_cons, filter_cons, ih]
      split_ifs
      · rw [substitute_cons_of_ne _ _ hletter]
      · rfl

theorem substitute_singleton (other : A) (text : List A) :
    substitute symbol [other] text =
      text.map fun letter => if letter = symbol then other else letter := by
  rw [substitute, map_eq_flatMap]
  exact flatMap_congr fun letter _ => by split_ifs <;> rfl

end Substitute

variable {pattern : List A}

section Replace

variable (replacement : List A)

@[simp]
theorem replaceAll_nil (pattern : List A) : replaceAll pattern replacement [] = [] := rfl

theorem replaceAll_cons_of_no_match {head : A} {rest : List A}
    (hmiss : ¬ pattern <+: head :: rest) :
    replaceAll pattern replacement (head :: rest) =
      head :: replaceAll pattern replacement rest := by
  simp only [replaceAll, replaceFrom, if_neg hmiss]

theorem replaceFrom_length_append (skipped rest : List A) :
    replaceFrom pattern replacement skipped.length (skipped ++ rest) =
      replaceAll pattern replacement rest := by
  induction skipped with
  | nil => rfl
  | cons _ _ ih => exact ih

theorem replaceAll_append_self (hne : pattern ≠ []) (rest : List A) :
    replaceAll pattern replacement (pattern ++ rest) =
      replacement ++ replaceAll pattern replacement rest := by
  obtain ⟨head, tail, rfl⟩ := exists_cons_of_ne_nil hne
  have hfound : head :: tail <+: head :: (tail ++ rest) := ⟨rest, rfl⟩
  simp only [replaceAll, cons_append, replaceFrom, if_pos hfound, length_cons, Nat.add_sub_cancel]
  rw [replaceFrom_length_append]
  rfl

theorem mem_replaceFrom (hletter : letter ∈ replaceFrom pattern replacement skip text) :
    letter ∈ replacement ∨ letter ∈ text := by
  induction text generalizing skip with
  | nil => cases skip <;> cases hletter
  | cons head rest ih =>
    have hrest : ∀ {skip}, letter ∈ replaceFrom pattern replacement skip rest →
        letter ∈ replacement ∨ letter ∈ head :: rest :=
      fun hmem => (ih hmem).imp_right (mem_cons_of_mem head)
    cases skip with
    | succ => exact hrest hletter
    | zero =>
      unfold replaceFrom at hletter
      split at hletter
      · exact (mem_append.1 hletter).elim .inl hrest
      · rcases mem_cons.1 hletter with rfl | hmem
        · exact .inr mem_cons_self
        · exact hrest hmem

theorem mem_replaceAll (hletter : letter ∈ replaceAll pattern replacement text) :
    letter ∈ replacement ∨ letter ∈ text :=
  mem_replaceFrom replacement hletter

end Replace

theorem substitute_replaceFrom (hsymbol : symbol ∉ text) (hne : pattern ≠ []) :
    substitute symbol pattern (replaceFrom pattern [symbol] skip text) = text.drop skip := by
  induction text generalizing skip with
  | nil => cases skip <;> rfl
  | cons head rest ih =>
    have hrest : symbol ∉ rest := fun hmem => hsymbol (mem_cons_of_mem _ hmem)
    cases skip with
    | succ => exact ih hrest
    | zero =>
      unfold replaceFrom
      split
      · rename_i hfound
        obtain ⟨after, hafter⟩ := hfound
        obtain ⟨first, tail, rfl⟩ := exists_cons_of_ne_nil hne
        obtain ⟨rfl, rfl⟩ := cons_eq_cons.1 hafter
        rw [singleton_append, substitute_cons_self, ih hrest]
        simp
      · have hhead : head ≠ symbol := fun heq => hsymbol (heq ▸ mem_cons_self)
        rw [substitute_cons_of_ne _ _ hhead, ih hrest]
        rfl

/-- Writing after reading gives back a text that does not use the symbol. -/
theorem substitute_replaceAll (hsymbol : symbol ∉ text) (hne : pattern ≠ []) :
    substitute symbol pattern (replaceAll pattern [symbol] text) = text :=
  substitute_replaceFrom hsymbol hne

/-! ## False matches -/

theorem not_falseMatch_nil : ¬ FalseMatch symbol pattern [] := by
  rintro ⟨letter, rest, hsuffix, -⟩
  exact absurd (suffix_nil.1 hsuffix) (cons_ne_nil _ _)

theorem falseMatch_cons : FalseMatch symbol pattern (letter :: rest) ↔
      letter ≠ symbol ∧ pattern <+: substitute symbol pattern (letter :: rest) ∨
        FalseMatch symbol pattern rest := by
  constructor
  · rintro ⟨first, tail, hsuffix, hfound⟩
    rcases suffix_cons_iff.1 hsuffix with heq | htail
    · obtain ⟨rfl, rfl⟩ := cons_eq_cons.1 heq
      exact .inl hfound
    · exact .inr ⟨first, tail, htail, hfound⟩
  · rintro (hfound | ⟨first, tail, hsuffix, hfound⟩)
    · exact ⟨letter, rest, suffix_rfl, hfound⟩
    · exact ⟨first, tail, hsuffix.trans (suffix_cons letter rest), hfound⟩

/-- Reading after writing gives the text back exactly when no pattern begins at a
symbol that stands for itself. -/
theorem replaceAll_substitute_iff (hne : pattern ≠ []) (text : List A) :
    replaceAll pattern [symbol] (substitute symbol pattern text) = text ↔
      ¬ FalseMatch symbol pattern text := by
  induction text with
  | nil => simp [not_falseMatch_nil]
  | cons letter rest ih =>
    rw [falseMatch_cons, not_or, ← ih]
    by_cases hletter : letter = symbol
    · subst hletter
      rw [substitute_cons_self, replaceAll_append_self _ hne]
      simp
    · by_cases hfound : pattern <+: substitute symbol pattern (letter :: rest)
      · -- the scan writes the symbol where the text has another letter
        obtain ⟨after, hafter⟩ := hfound
        have hread : replaceAll pattern [symbol] (substitute symbol pattern (letter :: rest)) =
              symbol :: replaceAll pattern [symbol] after := by
          rw [← hafter, replaceAll_append_self _ hne]
          rfl
        rw [hread]
        simp [hletter, Ne.symm hletter, ← hafter]
      · rw [substitute_cons_of_ne _ _ hletter] at hfound ⊢
        rw [replaceAll_cons_of_no_match _ hfound]
        simp [hfound]

/-- A letter that is neither the symbol nor begins the pattern opens the written
text only where it opens the text. -/
theorem cons_prefix_substitute_iff {tail : List A} (hsymbol : letter ≠ symbol)
    (hpattern : ∃ first rest, pattern = first :: rest ∧ first ≠ letter) :
    letter :: tail <+: substitute symbol pattern text ↔
      ∃ rest, text = letter :: rest ∧ tail <+: substitute symbol pattern rest := by
  obtain ⟨first, others, rfl, hfirst⟩ := hpattern
  cases text with
  | nil => simp
  | cons head rest =>
    by_cases hhead : head = symbol
    · subst hhead
      simp [cons_prefix_cons, Ne.symm hfirst, Ne.symm hsymbol]
    · rw [substitute_cons_of_ne _ _ hhead, cons_prefix_cons]
      constructor
      · rintro ⟨rfl, htail⟩
        exact ⟨rest, rfl, htail⟩
      · rintro ⟨other, heq, htail⟩
        obtain ⟨rfl, rfl⟩ := cons_eq_cons.1 heq
        exact ⟨rfl, htail⟩

/-- Two substitutions, one after the other, are read back in the opposite order
exactly when neither written text has a false match.  The inner symbol must not
occur in what the outer stage writes. -/
theorem replaceAll_substitute_twice_iff {inner outer : A} {innerPattern outerPattern : List A}
    (hinner : innerPattern ≠ []) (houter : outerPattern ≠ []) (hne : inner ≠ outer)
    (hinnerFresh : inner ∉ innerPattern) (houterFresh : inner ∉ outerPattern) (text : List A) :
    replaceAll innerPattern [inner] (replaceAll outerPattern [outer]
        (substitute outer outerPattern (substitute inner innerPattern text))) = text ↔
      ¬ FalseMatch outer outerPattern (substitute inner innerPattern text) ∧
        ¬ FalseMatch inner innerPattern text := by
  rw [← replaceAll_substitute_iff houter, ← replaceAll_substitute_iff hinner]
  constructor
  · intro hread
    have hfresh : inner ∉ replaceAll outerPattern [outer]
        (substitute outer outerPattern (substitute inner innerPattern text)) := by
      intro hmem
      rcases mem_replaceAll _ hmem with hsymbol | hwritten
      · exact hne (mem_singleton.1 hsymbol)
      · rcases mem_substitute _ _ hwritten with hpattern | ⟨htext, -⟩
        · exact houterFresh hpattern
        · rcases mem_substitute _ _ htext with hpattern | ⟨-, hself⟩
          · exact hinnerFresh hpattern
          · exact hself rfl
    have hwrite := substitute_replaceAll hfresh hinner
    rw [hread] at hwrite
    refine ⟨hwrite.symm, ?_⟩
    conv_lhs => rw [hwrite]
    exact hread
  · rintro ⟨hout, hin⟩
    rw [hout, hin]

end SieCluster.Substitution
