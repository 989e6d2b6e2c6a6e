import Mathlib

/-!
# Filters that overlap

A worker deletes a consumer whose filter overlaps its own, because the stream takes only
one of them.  Two filters overlap when some subject is for both.
-/

namespace SieCluster.FilterOverlap

abbrev Token := List Char

def hasGt (tokens : List Token) : Bool :=
  tokens.getLast? == some ['>']

def fixedLength (tokens : List Token) : ℕ :=
  if hasGt tokens then tokens.length - 1 else tokens.length

def clash (first second : Token) : Bool :=
  first ≠ ['*'] && second ≠ ['*'] && first ≠ second

def tokensOverlap (a b : List Token) : Bool :=
  if ((a.zip b).take (min (fixedLength a) (fixedLength b))).any fun (first, second) =>
    clash first second then false
  else match hasGt a, hasGt b with
    | false, false => a.length = b.length
    | true, false => a.length ≤ b.length
    | false, true => b.length ≤ a.length
    | true, true => true

def subjectsOverlap (a b : String) : Bool :=
  let aTokens := a.toList.splitOn '.'
  let bTokens := b.toList.splitOn '.'
  if aTokens.isEmpty || bTokens.isEmpty then false else tokensOverlap aTokens bTokens

/-! ## What filters mean -/

/-- The tokens of a filter the server accepts: none is empty, and only the last may be `>`. -/
def Accepted : List Token → Prop
  | [] => True
  | token :: rest => token ≠ [] ∧ '.' ∉ token ∧ (token = ['>'] → rest = []) ∧ Accepted rest

/-- A star stands for one token, and a last `>` for one or more. -/
def matchesTokens : List Token → List Token → Bool
  | [], [] => true
  | named :: filter, token :: subject => named = ['>'] && filter.isEmpty ||
      (named = ['*'] || named = token) && matchesTokens filter subject
  | _, _ => false

/-- Not empty and no wildcard. -/
def Concrete (token : Token) : Prop :=
  token ≠ [] ∧ '.' ∉ token ∧ token ≠ ['*'] ∧ token ≠ ['>']

structure Filter where
  tokens : List Token
  tokens_ne : tokens ≠ []
  accepted : Accepted tokens

def Filter.text (filter : Filter) : String :=
  String.ofList (['.'].intercalate filter.tokens)

/-- Some subject is for both filters. -/
def Share (a b : List Token) : Prop :=
  ∃ subject, (∀ token ∈ subject, Concrete token) ∧ matchesTokens a subject ∧ matchesTokens b subject

/-! ## Overlap is exact -/

@[simp]
theorem hasGt_nil : hasGt [] = false := rfl

@[simp]
theorem hasGt_gt : hasGt [['>']] = true := rfl

theorem tokensOverlap_cons (hfirst : first :: a ≠ [['>']]) (hsecond : second :: b ≠ [['>']]) :
    tokensOverlap (first :: a) (second :: b) = (!clash first second && tokensOverlap a b) := by
  have hasGt_cons {token : Token} {rest : List Token} (hne : token :: rest ≠ [['>']]) :
      hasGt (token :: rest) = hasGt rest ∧
        fixedLength (token :: rest) = fixedLength rest + 1 := by
    cases rest with
    | nil => simp_all [hasGt, fixedLength]
    | cons next rest =>
      refine ⟨rfl, ?_⟩
      rw [fixedLength, fixedLength]
      split <;> simp_all [hasGt]
  obtain ⟨hgtA, hfixedA⟩ := hasGt_cons hfirst
  obtain ⟨hgtB, hfixedB⟩ := hasGt_cons hsecond
  rw [tokensOverlap, hgtA, hgtB, hfixedA, hfixedB, Nat.add_min_add_right, List.zip_cons_cons,
    List.take_succ_cons, List.any_cons]
  simp [tokensOverlap, Bool.and_assoc]

theorem exists_matched (haccepted : Accepted filter) :
    ∃ subject, (∀ token ∈ subject, Concrete token) ∧ matchesTokens filter subject = true := by
  induction filter with
  | nil => exact ⟨[], nofun, rfl⟩
  | cons named filter ih =>
    obtain ⟨hempty, hdot, hlast, hrest⟩ := haccepted
    obtain ⟨subject, hconcrete, hmatches⟩ := ih hrest
    by_cases hwild : named = ['*'] ∨ named = ['>']
    · refine ⟨['x'] :: subject, List.forall_mem_cons.2 ⟨by simp [Concrete], hconcrete⟩, ?_⟩
      rcases hwild with rfl | rfl
      · simp [matchesTokens, hmatches]
      · simp [matchesTokens, hlast]
    · rw [not_or] at hwild
      exact ⟨named :: subject, List.forall_mem_cons.2 ⟨⟨hempty, hdot, hwild⟩, hconcrete⟩,
        by simp [matchesTokens, hmatches]⟩

theorem Share.symm (hshare : Share a b) : Share b a := by
  obtain ⟨subject, hconcrete, ha, hb⟩ := hshare
  exact ⟨subject, hconcrete, hb, ha⟩

theorem not_share_nil : ¬Share [] (token :: filter) := by
  rintro ⟨_ | _, -, hmatchA, hmatchB⟩
  · cases hmatchB
  · cases hmatchA

theorem share_gt (hne : filter ≠ []) (haccepted : Accepted filter) : Share [['>']] filter := by
  obtain ⟨subject, hconcrete, hmatches⟩ := exists_matched haccepted
  cases subject with
  | nil => cases filter <;> simp_all [matchesTokens]
  | cons token subject => exact ⟨token :: subject, hconcrete, rfl, hmatches⟩

theorem share_cons (hfirst : first ≠ ['>']) (hsecond : second ≠ ['>'])
    (ha : Accepted (first :: a)) (hb : Accepted (second :: b)) :
    Share (first :: a) (second :: b) ↔ clash first second = false ∧ Share a b := by
  have hcons {named token : Token} {filter subject : List Token} (hnamed : named ≠ ['>']) :
      matchesTokens (named :: filter) (token :: subject) = true ↔
        (named = ['*'] ∨ named = token) ∧ matchesTokens filter subject = true := by
    simp [matchesTokens, hnamed]
  constructor
  · rintro ⟨subject, hconcrete, hmatchA, hmatchB⟩
    cases subject with
    | nil => cases hmatchA
    | cons token subject =>
      obtain ⟨hheadA, hmatchA⟩ := (hcons hfirst).1 hmatchA
      obtain ⟨hheadB, hmatchB⟩ := (hcons hsecond).1 hmatchB
      refine ⟨?_, subject, (List.forall_mem_cons.1 hconcrete).2, hmatchA, hmatchB⟩
      rcases hheadA with rfl | rfl
      · rfl
      · rcases hheadB with rfl | rfl <;> simp [clash]
  · rintro ⟨hclash, subject, hconcrete, hmatchA, hmatchB⟩
    -- the token both heads stand for
    obtain ⟨token, htoken, hheadA, hheadB⟩ : ∃ token, Concrete token ∧
        (first = ['*'] ∨ first = token) ∧ (second = ['*'] ∨ second = token) := by
      by_cases hstarA : first = ['*']
      · by_cases hstarB : second = ['*']
        · exact ⟨['x'], by simp [Concrete], .inl hstarA, .inl hstarB⟩
        · exact ⟨second, ⟨hb.1, hb.2.1, hstarB, hsecond⟩, .inl hstarA, .inr rfl⟩
      · refine ⟨first, ⟨ha.1, ha.2.1, hstarA, hfirst⟩, .inr rfl, ?_⟩
        grind [clash]
    exact ⟨token :: subject, List.forall_mem_cons.2 ⟨htoken, hconcrete⟩,
      (hcons hfirst).2 ⟨hheadA, hmatchA⟩, (hcons hsecond).2 ⟨hheadB, hmatchB⟩⟩

theorem tokensOverlap_iff (ha : Accepted a) (hb : Accepted b) :
    tokensOverlap a b = true ↔ Share a b := by
  induction a generalizing b with
  | nil =>
    cases b with
    | nil => exact iff_of_true rfl ⟨[], nofun, rfl, rfl⟩
    | cons second b =>
      refine iff_of_false ?_ not_share_nil
      cases hgt : hasGt (second :: b) <;> simp [tokensOverlap, hgt]
  | cons first a ih =>
    cases b with
    | nil =>
      refine iff_of_false ?_ fun hshare => not_share_nil hshare.symm
      cases hgt : hasGt (first :: a) <;> simp [tokensOverlap, hgt]
    | cons second b =>
      by_cases hgtA : first :: a = [['>']]
      · rw [hgtA]
        refine iff_of_true ?_ (share_gt (by simp) hb)
        cases hgt : hasGt (second :: b) <;> simp [tokensOverlap, hgt, fixedLength]
      by_cases hgtB : second :: b = [['>']]
      · rw [hgtB]
        refine iff_of_true ?_ (share_gt (by simp) ha).symm
        cases hgt : hasGt (first :: a) <;> simp [tokensOverlap, hgt, fixedLength]
      have hfirst : first ≠ ['>'] := fun hgt => hgtA (by rw [hgt, ha.2.2.1 hgt])
      have hsecond : second ≠ ['>'] := fun hgt => hgtB (by rw [hgt, hb.2.2.1 hgt])
      rw [tokensOverlap_cons hgtA hgtB, share_cons hfirst hsecond ha hb, ← ih ha.2.2.2 hb.2.2.2]
      simp

theorem Accepted.dot_notMem (haccepted : Accepted filter) : ∀ token ∈ filter, '.' ∉ token := by
  induction filter with
  | nil => nofun
  | cons token filter ih => exact List.forall_mem_cons.2 ⟨haccepted.2.1, ih haccepted.2.2.2⟩

theorem splitOn_text (filter : Filter) : filter.text.toList.splitOn '.' = filter.tokens := by
  rw [Filter.text, String.toList_ofList]
  exact List.splitOn_intercalate '.' filter.accepted.dot_notMem filter.tokens_ne

/-- Two filters the server accepts are found to overlap exactly when some subject is for both, in
whichever order they are given. -/
theorem subjectsOverlap_exact (a b : Filter) :
    (subjectsOverlap a.text b.text = true ↔ Share a.tokens b.tokens) ∧
      subjectsOverlap a.text b.text = subjectsOverlap b.text a.text := by
  have hexact (a b : Filter) : subjectsOverlap a.text b.text = true ↔ Share a.tokens b.tokens := by
    rw [← tokensOverlap_iff a.accepted b.accepted]
    simp [subjectsOverlap, splitOn_text, a.tokens_ne, b.tokens_ne]
  refine ⟨hexact a b, Bool.eq_iff_iff.2 ?_⟩
  rw [hexact, hexact]
  exact ⟨Share.symm, Share.symm⟩

/-- The filter of a pool's lane for one machine and one bundle. -/
def laneFilter (pool machine bundle : String) (htokens : Accepted
    (["sie", "work", pool, machine, bundle, "*"].map String.toList)) : Filter :=
  ⟨_, by simp, htokens⟩

def defaultLane : Filter := laneFilter "l4" "l4" "default" (by simp [Accepted])

def everyLane : Filter := ⟨[['s', 'i', 'e'], ['>']], by simp, by simp [Accepted]⟩

theorem subjectsOverlap_exact_lanes : Share everyLane.tokens defaultLane.tokens ∧
    ¬ Share (laneFilter "l4" "l4" "sglang" (by simp [Accepted])).tokens defaultLane.tokens := by
  constructor
  · exact (subjectsOverlap_exact everyLane defaultLane).1.1 (by decide +kernel)
  · rw [← (subjectsOverlap_exact _ defaultLane).1]
    decide +kernel

end SieCluster.FilterOverlap
