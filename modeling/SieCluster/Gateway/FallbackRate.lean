import SieCluster.Core.Tables

/-!
# The rate of fallbacks

A first-chunk fallback republishes a request only if the bucket of its model and pool
has a token.  Tokens accrue with the time up to the burst, and a take costs one.
-/

namespace SieCluster.FallbackRate

open Tables

variable {ratePerSec burst : ℚ≥0}

/-- A bucket of a rate and a burst, with exact amounts and instants; no amount is below zero. -/
structure TokenBucket (ratePerSec burst : ℚ≥0) where
  tokens : ℚ
  lastRefill : ℚ
  tokens_nonneg : 0 ≤ tokens

namespace TokenBucket

variable (bucket : TokenBucket ratePerSec burst) (now : ℚ)

def new (ratePerSec burst : ℚ≥0) (now : ℚ) : TokenBucket ratePerSec burst :=
  ⟨burst, now, burst.coe_nonneg⟩

/-- The tokens at an instant, before one is taken. -/
def refilled : ℚ :=
  min (bucket.tokens + max 0 (now - bucket.lastRefill) * ratePerSec) burst

theorem refilled_nonneg : 0 ≤ bucket.refilled now := by
  have htokens := bucket.tokens_nonneg
  exact le_min (by positivity) burst.coe_nonneg

def tryTake : Bool × TokenBucket ratePerSec burst :=
  if h : 1 ≤ bucket.refilled now then
    (true, ⟨bucket.refilled now - 1, now, sub_nonneg.2 h⟩)
  else (false, ⟨bucket.refilled now, now, bucket.refilled_nonneg now⟩)

theorem tryTake_eq : (bucket.tryTake now).2.lastRefill = now ∧
    (bucket.tryTake now).2.tokens =
      bucket.refilled now - if (bucket.tryTake now).1 then 1 else 0 := by
  unfold tryTake
  split <;> simp

end TokenBucket

/-- The runs of a bucket: the attempts with their answers, newest first, and the bucket after
them. -/
inductive Run (ratePerSec burst : ℚ≥0) (created : ℚ) :
    List (ℚ × Bool) → TokenBucket ratePerSec burst → Prop
  | new : Run ratePerSec burst created [] (.new ratePerSec burst created)
  | take (hrun : Run ratePerSec burst created past bucket) (hnow : bucket.lastRefill ≤ now) :
    Run ratePerSec burst created ((now, (bucket.tryTake now).1) :: past) (bucket.tryTake now).2

def grantedSince (start : ℚ) (past : List (ℚ × Bool)) : ℕ :=
  past.countP fun (time, granted) => granted && start ≤ time

/-- How many attempts of a window were granted. -/
def grantedWithin (start finish : ℚ) (past : List (ℚ × Bool)) : ℕ :=
  grantedSince start (past.filter fun (time, _) => time ≤ finish)

/-- Since every instant the tokens and the granted attempts are covered by the burst and what
accrued, and since one instant nothing else was lost. -/
structure Balanced (ratePerSec burst : ℚ≥0) (past : List (ℚ × Bool)) (now tokens : ℚ) : Prop where
  past_le : ∀ attempt ∈ past, attempt.1 ≤ now
  covered : ∀ start ≤ now, tokens + grantedSince start past ≤ burst + ratePerSec * (now - start)
  kept : ∃ start ≤ now, burst + ratePerSec * (now - start) ≤ tokens + grantedSince start past

namespace Balanced

theorem none_since (hbalanced : Balanced ratePerSec burst past now tokens)
    (hstart : now < start) : grantedSince start past = 0 := by
  refine List.countP_eq_zero.2 fun attempt hattempt => ?_
  simp [(hbalanced.past_le attempt hattempt).trans_lt hstart]

theorem refilled {bucket : TokenBucket ratePerSec burst}
    (hbalanced : Balanced ratePerSec burst past bucket.lastRefill bucket.tokens)
    (hnow : bucket.lastRefill ≤ now) :
    Balanced ratePerSec burst past now (bucket.refilled now) := by
  rw [TokenBucket.refilled, max_eq_right (sub_nonneg.2 hnow)]
  refine ⟨fun attempt hattempt => (hbalanced.past_le attempt hattempt).trans hnow, ?_, ?_⟩
  · intro start hstart
    rcases le_or_gt start bucket.lastRefill with hearly | hlate
    · have hcovered := hbalanced.covered start hearly
      grw [min_le_left]
      linarith
    · have haccrued := mul_nonneg ratePerSec.coe_nonneg (sub_nonneg.2 hstart)
      rw [hbalanced.none_since hlate]
      grw [min_le_right]
      simpa using haccrued
  · obtain ⟨start, hstart, hkept⟩ := hbalanced.kept
    rcases min_choice (bucket.tokens + (now - bucket.lastRefill) * ratePerSec) burst with
      hmin | hmin
    · refine ⟨start, hstart.trans hnow, ?_⟩
      linarith
    · exact ⟨now, le_rfl, by simp [hmin]⟩

theorem taken (hbalanced : Balanced ratePerSec burst past now tokens) (granted : Bool) :
    Balanced ratePerSec burst ((now, granted) :: past) now
      (tokens - if granted then 1 else 0) := by
  have hcount (start : ℚ) (hstart : start ≤ now) :
      (tokens - if granted then 1 else 0) + (grantedSince start ((now, granted) :: past) : ℚ) =
        tokens + grantedSince start past := by
    cases granted <;> simp [grantedSince, hstart]
  refine ⟨List.forall_mem_cons.2 ⟨le_rfl, hbalanced.past_le⟩, ?_, ?_⟩
  · intro start hstart
    rw [hcount start hstart]
    exact hbalanced.covered start hstart
  · obtain ⟨start, hstart, hkept⟩ := hbalanced.kept
    exact ⟨start, hstart, by rwa [hcount start hstart]⟩

theorem limited (hbalanced : Balanced ratePerSec burst past now tokens)
    (htokens : 0 ≤ tokens) (hnow : now ≤ start + length) (hlength : 0 ≤ length) :
    (grantedWithin start (start + length) past : ℚ) ≤ burst + ratePerSec * length := by
  have hwithin : (grantedWithin start (start + length) past : ℚ) ≤ grantedSince start past :=
    Nat.cast_le.2 List.filter_sublist.countP_le
  rcases le_or_gt start now with hearly | hlate
  · have hcovered := hbalanced.covered start hearly
    have hlonger := mul_le_mul_of_nonneg_left hnow ratePerSec.coe_nonneg
    linarith
  · have haccrued := mul_nonneg ratePerSec.coe_nonneg hlength
    rw [hbalanced.none_since hlate, Nat.cast_zero] at hwithin
    linarith [burst.coe_nonneg]

end Balanced

theorem Run.balanced (hrun : Run ratePerSec burst created past bucket) :
    Balanced ratePerSec burst past bucket.lastRefill bucket.tokens := by
  induction hrun with
  | new =>
    refine ⟨nofun, fun start hstart => ?_, created, le_rfl, ?_⟩
    · have haccrued := mul_nonneg ratePerSec.coe_nonneg (sub_nonneg.2 hstart)
      simpa [TokenBucket.new, grantedSince] using haccrued
    · simp [TokenBucket.new, grantedSince]
  | @take past bucket now hrun hnow ih =>
    obtain ⟨hlast, htokens⟩ := bucket.tryTake_eq now
    rw [hlast, htokens]
    exact (ih.refilled hnow).taken _

/-- In every window the granted attempts are at most the burst and what accrues during it, and the
next attempt is refused only if less than one token is left of the burst and of what accrued since
some instant, after those granted since then. -/
theorem attempts_limited (hrun : Run ratePerSec burst created past bucket) :
    (∀ start length, 0 ≤ length →
      (grantedWithin start (start + length) past : ℚ) ≤ burst + ratePerSec * length) ∧
    ∀ now ≥ bucket.lastRefill, (bucket.tryTake now).1 = false →
      ∃ start ≤ now, burst + ratePerSec * (now - start) - grantedSince start past < 1 := by
  constructor
  · intro start length hlength
    induction hrun with
    | new => exact add_nonneg burst.coe_nonneg (mul_nonneg ratePerSec.coe_nonneg hlength)
    | @take past bucket now hrun hnow ih =>
      rcases le_or_gt now (start + length) with hfinish | hlate
      · have hbalanced := (hrun.take hnow).balanced
        rw [(bucket.tryTake_eq now).1] at hbalanced
        exact hbalanced.limited (TokenBucket.tokens_nonneg _) hfinish hlength
      · rwa [grantedWithin, List.filter_cons_of_neg (by simpa using hlate)]
  · intro now hnow hrefused
    obtain ⟨start, hstart, hkept⟩ := (hrun.balanced.refilled hnow).kept
    refine ⟨start, hstart, ?_⟩
    have hfew : bucket.refilled now < 1 := by
      unfold TokenBucket.tryTake at hrefused
      split at hrefused
      · cases hrefused
      · exact not_le.1 ‹_›
    linarith

/-- A second take at the instant of the first is refused, for the burst was one token. -/
theorem attempts_limited_second :
    Run 1 1 0 [(0, true)] ⟨0, 0, le_rfl⟩ ∧ grantedWithin 0 (0 + 0) [(0, true)] ≤ (1 + 1 * 0 : ℚ) ∧
      ∃ start ≤ 0, (1 + 1 * (0 - start) - grantedSince start [(0, true)] : ℚ) < 1 := by
  have hrun : Run 1 1 0 [(0, true)] ⟨0, 0, le_rfl⟩ := by
    simpa [TokenBucket.tryTake, TokenBucket.refilled, TokenBucket.new] using
      Run.new.take (le_refl (TokenBucket.new 1 1 0).lastRefill)
  obtain ⟨hlimited, hrefused⟩ := attempts_limited hrun
  exact ⟨hrun, hlimited 0 0 le_rfl, hrefused 0 le_rfl (by decide +kernel)⟩

/-! ## All lanes -/

abbrev Buckets (ratePerSec burst : ℚ≥0) := Table (TokenBucket ratePerSec burst)

/-- The bucket of a key, which is new at its first attempt. -/
def bucketOf (buckets : Buckets ratePerSec burst) (key : String) (entered : ℚ) :
    TokenBucket ratePerSec burst :=
  (buckets[key]?).getD (.new ratePerSec burst entered)

def laneKey (model pool : String) : String :=
  model ++ "|" ++ pool

/-- The clock is read for a bucket that may be new, and again for the take. -/
def tryTakeFallbackToken (buckets : Buckets ratePerSec burst) (model pool : String)
    (entered now : ℚ) : Bool × Buckets ratePerSec burst :=
  let taken := (bucketOf buckets (laneKey model pool) entered).tryTake now
  (taken.1, buckets.insert (laneKey model pool) taken.2)

/-- Up to its last bar a key is the model. -/
theorem laneKey_inj (hpool : '|' ∉ pool.toList) (hother : '|' ∉ other.toList)
    (hsame : laneKey model pool = laneKey name other) : model = name ∧ pool = other := by
  have hlists : pool.toList.reverse ++ '|' :: model.toList.reverse =
      other.toList.reverse ++ '|' :: name.toList.reverse := by
    simpa [laneKey] using congrArg (·.toList.reverse) hsame
  have hupTo (text : String) (hbar : '|' ∉ text.toList) (rest : List Char) :
      (text.toList.reverse ++ '|' :: rest).takeWhile (· ≠ '|') = text.toList.reverse := by
    rw [List.takeWhile_append_of_pos fun letter hmem => ?_]
    · simp
    · simpa using ne_of_mem_of_not_mem (List.mem_reverse.1 hmem) hbar
  have hpools := congrArg (List.takeWhile (· ≠ '|')) hlists
  rw [hupTo pool hpool, hupTo other hother, List.reverse_inj] at hpools
  obtain rfl := String.toList_inj.1 hpools
  exact ⟨String.toList_inj.1 (by simpa using hlists), rfl⟩

/-- The attempts of all lanes with their model, pool and answer, newest first, and the buckets
after them.  Only the readings for one bucket are in order, since lanes do not wait for each
other. -/
inductive Attempts : List ((String × String) × ℚ × Bool) → Buckets ratePerSec burst → Prop
  | start : Attempts [] ∅
  | attempt (hrun : Attempts past buckets)
    (hnow : (bucketOf buckets (laneKey model pool) entered).lastRefill ≤ now) : Attempts
      (((model, pool), now, (tryTakeFallbackToken buckets model pool entered now).1) :: past)
      (tryTakeFallbackToken buckets model pool entered now).2

def ofLane (lane : String × String) (past : List ((String × String) × ℚ × Bool)) :
    List (ℚ × Bool) :=
  (past.filter (·.1 = lane)).map Prod.snd

/-- Where no pool has a bar in its name, the bucket that the next attempt for a model and pool
meets is the one that their own attempts, with their answers, lead to: no model and pool spends
the tokens of another. -/
theorem lane_isolated {buckets : Buckets ratePerSec burst} (hrun : Attempts past buckets)
    (hpast : ∀ attempt ∈ past, '|' ∉ attempt.1.2.toList) (hpool : '|' ∉ pool.toList)
    (model : String) (entered : ℚ) : ∃ created, Run ratePerSec burst created
      (ofLane (model, pool) past) (bucketOf buckets (laneKey model pool) entered) := by
  induction hrun generalizing entered with
  | start => exact ⟨entered, .new⟩
  | @attempt past buckets name other first now hrun hnow ih =>
    rw [List.forall_mem_cons] at hpast
    by_cases hlane : (name, other) = (model, pool)
    · cases hlane
      obtain ⟨created, hlane⟩ := ih hpast.2 first
      refine ⟨created, ?_⟩
      simpa [ofLane, bucketOf, tryTakeFallbackToken, get_insert] using hlane.take hnow
    · have hkey : laneKey name other ≠ laneKey model pool := fun hsame =>
        hlane (Prod.ext_iff.2 (laneKey_inj hpast.1 hpool hsame))
      obtain ⟨created, hother⟩ := ih hpast.2 entered
      refine ⟨created, ?_⟩
      simpa [ofLane, bucketOf, tryTakeFallbackToken, get_insert, hkey, hlane] using hother

theorem lane_isolated_other : ∃ created, Run 1 1 created []
    (bucketOf (tryTakeFallbackToken ∅ "a" "p" 0 0).2 (laneKey "b" "p") 0) := by
  have hrun : Attempts _ (tryTakeFallbackToken (∅ : Buckets 1 1) "a" "p" 0 0).2 :=
    .attempt .start (le_refl 0)
  exact lane_isolated hrun (by decide) (by decide) "b" 0

end SieCluster.FallbackRate
