import SieCluster.Server.AdaptiveBatching
import SieCluster.Core.Runs

/-!
# The two adaptive controllers side by side

The controller of the sidecar is a port of the one of the worker.  Both get the
same tuning and the same history of samples, steps and resets.  They stay in the
same state as long as the worker's streak of small batches, which runs only while
both limits are at their floors and stops at a step without a batch size, is also
the streak of all small batches, which is what the sidecar counts.
-/

namespace SieCluster.ControllerParity

open Runs AdaptiveController

/-- What happens to a controller.  A step carries the time at which it reads the clock. -/
inductive Event where
  | recordInferenceSample (inferenceMs : ℚ)
  | step (now : ℚ) (observedP50Ms fillRatio : Option ℚ) (batchSize : Option ℕ)
  | reset

section Histories

variable (half : ℚ → ℚ) (tuning : Tuning)

/-- The clock is monotonic: it cannot show an earlier time than at the last step. -/
def sidecar (controller : Controller) : Event → Option Controller
  | .recordInferenceSample inferenceMs => some (controller.recordInferenceSample inferenceMs)
  | .step now observedP50Ms fillRatio batchSize =>
    if controller.lastStepTime.all (· ≤ now) then
      some (controller.step half tuning now observedP50Ms fillRatio batchSize)
    else none
  | .reset => some (controller.reset tuning)

def worker (controller : AdaptiveBatching.Controller) : Event → Option AdaptiveBatching.Controller
  | .recordInferenceSample inferenceMs => some (controller.recordInferenceSample inferenceMs)
  | .step now observedP50Ms fillRatio batchSize =>
    if controller.lastStepTime.all (· ≤ now) then
      controller.step half tuning now observedP50Ms fillRatio batchSize
    else none
  | .reset => some (controller.reset tuning)

end Histories

/-! ## One state seen as the other -/

def portedTracker (tracker : AdaptiveBatching.LatencyTracker) : LatencyTracker :=
  ⟨tracker.windowSize, tracker.minSamples, tracker.samples⟩

/-- The state of the sidecar's controller with the values of the worker's. -/
def ported (controller : AdaptiveBatching.Controller) : Controller where
  targetP50Ms := controller.targetP50Ms
  currentWaitMs := controller.currentWaitMs
  currentBatchCost := controller.currentBatchCost
  stepsSinceUpdate := controller.stepsSinceUpdate
  autoCalibrate := controller.autoCalibrate
  calibrated := controller.calibrated
  inferenceTracker := portedTracker controller.inferenceTracker
  integral := controller.integral
  lastStepTime := controller.lastStepTime
  starvationStreak := controller.starvationStreak
  starvationResets := controller.starvationResets

/-- The worker's fields that the sidecar has as constants, and the size of the window. -/
structure Anchored (tuning : Tuning) (controller : AdaptiveBatching.Controller) : Prop where
  initialWaitMs : controller.initialWaitMs = tuning.initialWaitMs
  initialBatchCost : controller.initialBatchCost = tuning.initialBatchCost
  integralMax : controller.integralMax = integralMax
  windowSize : controller.inferenceTracker.windowSize = inferenceTrackerWindow
  samples : controller.inferenceTracker.samples.length ≤ inferenceTrackerWindow

/-- The two rules for the streak give the same count at this step, no counter is full, and
the target is not zero, by which the worker does not divide. -/
def Comparable (tuning : Tuning) (controller : AdaptiveBatching.Controller) : Event → Prop
  | .step _ _ _ batchSize =>
    controller.starvationStreak < u32Max ∧ controller.starvationResets < u32Max ∧
      (batchSize = none → controller.starvationStreak = 0) ∧
      (batchSize.any (· ≤ tuning.starvationBatchSize) →
        AdaptiveBatching.isPinnedAtFloor tuning controller) ∧
      controller.targetP50Ms ≠ some 0
  | _ => True

instance (tuning : Tuning) (controller : AdaptiveBatching.Controller) :
    (event : Event) → Decidable (Comparable tuning controller event)
  | .step _ _ _ _ => inferInstanceAs (Decidable (_ ∧ _))
  | .recordInferenceSample _ => isTrue trivial
  | .reset => isTrue trivial

section Parts

variable {tracker : AdaptiveBatching.LatencyTracker}

theorem record_ported (hwindow : tracker.windowSize = inferenceTrackerWindow)
    (hsamples : tracker.samples.length ≤ inferenceTrackerWindow) (totalMs : ℚ) :
    (portedTracker tracker).record totalMs = portedTracker (tracker.record totalMs) := by
  simp only [portedTracker, LatencyTracker.record, AdaptiveBatching.LatencyTracker.record,
    LatencyTracker.mk.injEq, true_and, hwindow]
  split_ifs with hfull
  · rw [hfull, Nat.add_sub_cancel_left, List.drop_append_of_le_length, List.drop_one]
    rw [hfull]
    decide
  · rw [Nat.sub_eq_zero_of_le (by omega), List.drop_zero]

theorem record_length (hwindow : tracker.windowSize = inferenceTrackerWindow) (totalMs : ℚ) :
    (tracker.record totalMs).samples.length ≤ inferenceTrackerWindow := by
  simp only [AdaptiveBatching.LatencyTracker.record, hwindow, List.length_drop,
    List.length_append, List.length_singleton]
  omega

/-- A clamped cost fits in 64 bits. -/
theorem toU64_clamp (tuning : Tuning) (value : ℚ) :
    toU64 (clamp value tuning.minBatchCost tuning.maxBatchCost) =
      AdaptiveBatching.toInt (clamp value tuning.minBatchCost tuning.maxBatchCost) := by
  have hlow : (tuning.minBatchCost : ℚ) ≤ (u64Max : ℕ) := by
    exact_mod_cast tuning.minBatchCost_le
  have hhigh : (tuning.maxBatchCost : ℚ) ≤ (u64Max : ℕ) := by
    exact_mod_cast tuning.maxBatchCost_le
  have hclamp : clamp value tuning.minBatchCost tuning.maxBatchCost ≤ (u64Max : ℕ) :=
    max_le hlow ((min_le_left _ _).trans hhigh)
  have hfloor : (clamp value tuning.minBatchCost tuning.maxBatchCost).floor ≤ (u64Max : ℤ) := by
    exact_mod_cast (Rat.floor_le _).trans hclamp
  exact min_eq_left (Int.toNat_le.2 hfloor)

/-- The saturating product is cut to the same bound as the exact one. -/
theorem recoveryCost_ported (hanchored : Anchored tuning controller) :
    recoveryCost tuning = AdaptiveBatching.recoveryCost tuning controller := by
  have hcut : ∀ initial product : ℕ, min tuning.maxBatchCost (max initial (min product u64Max)) =
        min tuning.maxBatchCost (max initial product) := by
    intro initial product
    have hfits := tuning.maxBatchCost_le
    omega
  have hcast := congrArg (Nat.cast : ℕ → ℚ)
    (hcut (tuning.initialBatchCost / 2) (tuning.minBatchCost * 4))
  rw [recoveryCost, toU64_clamp, AdaptiveBatching.recoveryCost, hanchored.initialBatchCost]
  congr 1
  simp only [clamp, AdaptiveBatching.clamp]
  rw [← Nat.cast_min, hcast, Nat.cast_min]

theorem updateStarvationTracker_ported
    (hcomparable : Comparable tuning controller (.step now observedP50Ms fillRatio batchSize)) :
    updateStarvationTracker tuning (ported controller) batchSize =
      ported (AdaptiveBatching.updateStarvationTracker tuning controller batchSize
        (AdaptiveBatching.isPinnedAtFloor tuning controller)) := by
  obtain ⟨hstreak, -, hnone, hsmall, -⟩ := hcomparable
  cases batchSize with
  | none =>
    simp [updateStarvationTracker, AdaptiveBatching.updateStarvationTracker, ported,
      AdaptiveBatching.nextStreak, hnone rfl]
  | some size =>
    by_cases hlarge : size > tuning.starvationBatchSize
    · simp [updateStarvationTracker, AdaptiveBatching.updateStarvationTracker, ported,
        AdaptiveBatching.nextStreak, hlarge]
    · have hpinned := hsmall (by simpa using hlarge)
      simp only [updateStarvationTracker, AdaptiveBatching.updateStarvationTracker, ported,
        AdaptiveBatching.nextStreak, hlarge, hpinned, if_false, Bool.not_true,
        Bool.false_eq_true, Nat.min_eq_left (Nat.succ_le_of_lt hstreak)]

theorem maybeRecoverFromStarvation_ported (hanchored : Anchored tuning controller)
    (hresets : controller.starvationResets < u32Max) :
    maybeRecoverFromStarvation tuning (ported controller) =
      (AdaptiveBatching.maybeRecoverFromStarvation tuning controller).map ported := by
  have hrecover : recover tuning (ported controller) =
      ported (AdaptiveBatching.recover tuning controller) := by
    simp only [recover, AdaptiveBatching.recover, ported, recoveryCost_ported hanchored,
      hanchored.initialWaitMs, Nat.min_eq_left (Nat.succ_le_of_lt hresets)]
    rfl
  have hfloors : atFloors tuning (ported controller) =
      AdaptiveBatching.isPinnedAtFloor tuning controller := rfl
  have hstreak : (ported controller).starvationStreak = controller.starvationStreak := rfl
  simp only [maybeRecoverFromStarvation, starved, AdaptiveBatching.maybeRecoverFromStarvation,
    hfloors, hstreak, hrecover]
  by_cases henabled : tuning.starvationRecoveryEnabled <;>
    by_cases hwindow : controller.starvationStreak < tuning.starvationWindow <;>
    by_cases hpinned : AdaptiveBatching.isPinnedAtFloor tuning controller <;>
    simp [henabled, hwindow, hpinned, Nat.not_le.2, Nat.le_of_not_lt]

theorem calibrate_ported : calibrate tuning (ported controller) =
      ported (AdaptiveBatching.calibrate tuning controller) := by
  have hp50 : (ported controller).inferenceTracker.p50 = controller.inferenceTracker.p50 := rfl
  simp only [calibrate, AdaptiveBatching.calibrate, hp50]
  cases controller.inferenceTracker.p50 <;> rfl

theorem elapsed_ported (hclock : controller.lastStepTime.all (· ≤ now)) :
    elapsed (ported controller) now = AdaptiveBatching.elapsed controller now := by
  have htime : (ported controller).lastStepTime = controller.lastStepTime := rfl
  simp only [elapsed, AdaptiveBatching.elapsed, htime]
  cases hlast : controller.lastStepTime with
  | none => rfl
  | some previous =>
    have hforward : previous ≤ now := by simpa [hlast] using hclock
    simp only [max_eq_left (sub_nonneg.2 hforward), dtCapSecs]

variable (hanchored : Anchored tuning controller)
include hanchored

theorem adjust_ported (hclock : controller.lastStepTime.all (· ≤ now)) (observed : ℚ)
    (htarget : target ≠ 0) (fillRatio : Option ℚ) :
    adjust half tuning (ported controller) now observed target fillRatio =
      ported (AdaptiveBatching.adjust half tuning controller now observed target fillRatio) := by
  have hcost : adjustedCost tuning (ported controller) (target - observed) target fillRatio =
      AdaptiveBatching.adjustedCost tuning controller (target - observed) target fillRatio := by
    simp only [adjustedCost, proposedCost, if_neg htarget, toU64_clamp]
    rfl
  have hintegral : ∀ dt integral,
      integrated tuning (ported controller) (target - observed) dt integral =
        AdaptiveBatching.integrated tuning controller (target - observed) dt integral := by
    intro dt integral
    simp only [integrated, AdaptiveBatching.integrated, hanchored.integralMax]
    rfl
  simp only [adjust, hcost, hintegral, elapsed_ported hclock]
  rfl

theorem update_ported (hresets : controller.starvationResets < u32Max)
    (hclock : controller.lastStepTime.all (· ≤ now)) (hnonzero : controller.targetP50Ms ≠ some 0)
    (observedP50Ms fillRatio : Option ℚ) :
    some (update half tuning (ported controller) now observedP50Ms fillRatio) =
      (AdaptiveBatching.update half tuning controller now observedP50Ms fillRatio).map ported := by
  have hcalibrated : (ported controller).calibrated = controller.calibrated := rfl
  have htarget : (ported controller).targetP50Ms = controller.targetP50Ms := rfl
  simp only [update, AdaptiveBatching.update, hcalibrated, htarget, calibrate_ported,
    maybeRecoverFromStarvation_ported hanchored hresets]
  cases controller.calibrated with
  | false => rfl
  | true =>
    cases observedP50Ms with
    | none => rfl
    | some =>
      cases hsome : controller.targetP50Ms with
      | none => rfl
      | some target =>
        have hzero : target ≠ 0 := fun hzero => hnonzero (hzero ▸ hsome)
        cases AdaptiveBatching.maybeRecoverFromStarvation tuning controller with
        | some => rfl
        | none => simp [hzero, adjust_ported hanchored hclock]

theorem step_ported (hclock : controller.lastStepTime.all (· ≤ now))
    (hcomparable : Comparable tuning controller (.step now observedP50Ms fillRatio batchSize)) :
    some ((ported controller).step half tuning now observedP50Ms fillRatio batchSize) =
      (controller.step half tuning now observedP50Ms fillRatio batchSize).map ported := by
  simp only [Controller.step, AdaptiveBatching.Controller.step,
    updateStarvationTracker_ported hcomparable]
  set counted := AdaptiveBatching.updateStarvationTracker tuning controller batchSize
    (AdaptiveBatching.isPinnedAtFloor tuning controller)
  have hsteps : (ported counted).stepsSinceUpdate = counted.stepsSinceUpdate := rfl
  rw [hsteps]
  by_cases hearly : counted.stepsSinceUpdate + 1 < tuning.updateInterval
  · rw [if_pos hearly, if_pos hearly]
    rfl
  · rw [if_neg hearly, if_neg hearly]
    obtain ⟨hwait, hcost, hmax, hwindow, hsamples⟩ := hanchored
    have hreached : Anchored tuning { counted with stepsSinceUpdate := 0 } :=
      ⟨hwait, hcost, hmax, hwindow, hsamples⟩
    exact update_ported hreached hcomparable.2.1 hclock hcomparable.2.2.2.2 observedP50Ms fillRatio

theorem recordInferenceSample_ported (inferenceMs : ℚ) :
    (ported controller).recordInferenceSample inferenceMs =
      ported (controller.recordInferenceSample inferenceMs) := by
  have hcalibrated : (ported controller).calibrated = controller.calibrated := rfl
  have htracker : (ported controller).inferenceTracker =
    portedTracker controller.inferenceTracker := rfl
  simp only [Controller.recordInferenceSample,
    AdaptiveBatching.Controller.recordInferenceSample, hcalibrated, htracker,
    record_ported hanchored.windowSize hanchored.samples]
  split_ifs <;> rfl

theorem reset_ported : (ported controller).reset tuning = ported (controller.reset tuning) := by
  simp only [Controller.reset, AdaptiveBatching.Controller.reset, ported, toU64_clamp,
    hanchored.initialWaitMs, hanchored.initialBatchCost, apply_ite portedTracker]
  rfl

end Parts

/-! ## Whole histories -/

section Agreement

theorem new_anchored (tuning : Tuning) : Anchored tuning (AdaptiveBatching.Controller.new tuning) :=
  ⟨rfl, rfl, rfl, rfl, Nat.zero_le _⟩

section

variable (hanchored : Anchored tuning controller)
include hanchored

/-- No part of a step writes a constant or a sample. -/
theorem update_anchored
    (hupdate : AdaptiveBatching.update half tuning controller now observedP50Ms fillRatio =
      some next) : Anchored tuning next := by
  obtain ⟨hwait, hcost, hmax, hwindow, hsamples⟩ := hanchored
  simp only [AdaptiveBatching.update] at hupdate
  split at hupdate
  · cases hupdate
    unfold AdaptiveBatching.calibrate
    split <;> exact ⟨hwait, hcost, hmax, hwindow, hsamples⟩
  · split at hupdate
    · split at hupdate
      · rename_i recovered hrecovered
        cases hupdate
        simp only [AdaptiveBatching.maybeRecoverFromStarvation] at hrecovered
        split_ifs at hrecovered
        cases hrecovered
        exact ⟨hwait, hcost, hmax, hwindow, hsamples⟩
      · split at hupdate
        · cases hupdate
        · cases hupdate
          exact ⟨hwait, hcost, hmax, hwindow, hsamples⟩
    · cases hupdate
      exact ⟨hwait, hcost, hmax, hwindow, hsamples⟩

theorem worker_anchored
    (hstep : worker half tuning controller event = some next) : Anchored tuning next := by
  cases event with
  | recordInferenceSample inferenceMs =>
    cases hstep
    unfold AdaptiveBatching.Controller.recordInferenceSample
    split
    · exact hanchored
    · exact ⟨hanchored.initialWaitMs, hanchored.initialBatchCost, hanchored.integralMax,
        hanchored.windowSize, record_length hanchored.windowSize inferenceMs⟩
  | step =>
    obtain ⟨hwait, hcost, hmax, hwindow, hsamples⟩ := hanchored
    simp only [worker, AdaptiveBatching.Controller.step] at hstep
    split at hstep
    · split at hstep
      · cases hstep
        exact ⟨hwait, hcost, hmax, hwindow, hsamples⟩
      · refine update_anchored ?_ hstep
        exact ⟨hwait, hcost, hmax, hwindow, hsamples⟩
    · cases hstep
  | reset =>
    cases hstep
    refine ⟨hanchored.initialWaitMs, hanchored.initialBatchCost, hanchored.integralMax, ?_, ?_⟩
    · simp only [AdaptiveBatching.Controller.reset]
      split <;> exact hanchored.windowSize
    · simp only [AdaptiveBatching.Controller.reset]
      split
      · exact Nat.zero_le _
      · exact hanchored.samples

theorem event_ported (hcomparable : Comparable tuning controller event) :
    sidecar half tuning (ported controller) event =
      (worker half tuning controller event).map ported := by
  cases event with
  | recordInferenceSample inferenceMs =>
    exact congrArg some (recordInferenceSample_ported hanchored inferenceMs)
  | step =>
    have htime : (ported controller).lastStepTime = controller.lastStepTime := rfl
    simp only [sidecar, worker, htime]
    split_ifs with hclock
    · exact step_ported hanchored hclock hcomparable
    · rfl
  | reset => exact congrArg some (reset_ported hanchored)

end

/-- In every history whose steps the two rules for the streak count alike, and in which no
step has a target of zero, the controllers go through the same states, and so through the
same limits and recoveries. -/
theorem histories_agree (half : ℚ → ℚ) (tuning : Tuning) {events : List Event}
    (hcomparable : Guarded (worker half tuning) (Comparable tuning)
      (AdaptiveBatching.Controller.new tuning) events) :
    run (sidecar half tuning) (Controller.build tuning) events =
      (run (worker half tuning) (AdaptiveBatching.Controller.new tuning) events).map ported :=
  guarded_run_map ported (Anchored tuning)
    (fun _ _ _ hanchored hstep => worker_anchored hanchored hstep)
    (fun _ _ hanchored hevent => event_ported hanchored hevent)
    (new_anchored tuning) hcomparable

end Agreement

section Samples

/-- A large batch that drives the limits to the floors, two small ones, a recovery. -/
def sampleHistory : List Event :=
  [.step 1 (some 1000) (some 1) (some 8), .step 2 (some 1000) (some 1) (some 1),
    .step 3 (some 900) (some 1) (some 1), .step 4 (some 5) none (some 3), .reset]

/-- A small batch above the floors and one at the floors. -/
def earlyHistory : List Event :=
  [.step 1 (some 1000) (some 1) (some 1), .step 2 (some 1000) (some 1) (some 1)]

end Samples

theorem histories_agree_recovery : Guarded (worker id sampleTuning) (Comparable sampleTuning)
        (AdaptiveBatching.Controller.new sampleTuning) sampleHistory ∧
      (run (sidecar id sampleTuning) (Controller.build sampleTuning) sampleHistory).any
        (fun controller => controller.starvationResets = 1) = true ∧
      run (sidecar id sampleTuning) (Controller.build sampleTuning) sampleHistory =
        (run (worker id sampleTuning) (AdaptiveBatching.Controller.new sampleTuning)
          sampleHistory).map ported := by
  have hcomparable : Guarded (worker id sampleTuning) (Comparable sampleTuning)
      (AdaptiveBatching.Controller.new sampleTuning) sampleHistory := by
    decide +kernel
  exact ⟨hcomparable, by decide +kernel, histories_agree id sampleTuning hcomparable⟩

/-- The sidecar counts the small batch that came before the floors were reached, recovers at
the next one and raises both limits, while the worker stays at its floors. -/
theorem earlyHistory_diverges :
    (run (sidecar id sampleTuning) (Controller.build sampleTuning) earlyHistory).map
        (fun controller => (controller.currentWaitMs, controller.currentBatchCost,
          controller.starvationResets)) = some (3 / 2, 1024, 1) ∧
      (run (worker id sampleTuning) (AdaptiveBatching.Controller.new sampleTuning) earlyHistory).map
        (fun controller => (controller.currentWaitMs, controller.currentBatchCost,
          controller.starvationResets)) = some (1, 256, 0) := by
  decide +kernel

end SieCluster.ControllerParity
