import SieCluster.Sidecar.BatchFormer

/-!
# The adaptive batch controller of the sidecar

The controller moves the wait limit and the cost limit of the batchers after
each batch.  Floating-point numbers are read as exact rationals, and the power
of one half that lets the integral decay is a parameter.  Only the quotient by a
latency target of zero has no exact value; it is infinite or not a number.
-/

namespace SieCluster.AdaptiveController

open BatchFormer (BatchConfig)

def u32Max : ℕ := 2 ^ 32 - 1

def u64Max : ℕ := 2 ^ 64 - 1

/-- What a controller is built with.  Counts are 32 bits wide, costs 64. -/
structure Tuning where
  targetP50Ms : Option ℚ := none
  calibrationMultiplier : ℚ := 3 / 2
  minTargetP50Ms : ℚ := 5
  maxTargetP50Ms : ℚ := 500
  minWaitMs : ℚ := 1
  maxWaitMs : ℚ := 50
  minBatchCost : ℕ := 256
  maxBatchCost : ℕ := 65536
  gain : ℚ := 3 / 10
  integralGain : ℚ := 5 / 100
  costGain : ℚ := 15 / 100
  updateInterval : ℕ := 10
  fillRatioThreshold : ℚ := 7 / 10
  starvationRecoveryEnabled : Bool := true
  starvationWindow : ℕ := 20
  starvationBatchSize : ℕ := 1
  initialWaitMs : ℚ := 10
  initialBatchCost : ℕ := 16384
  minBatchCost_le : minBatchCost ≤ u64Max := by decide
  maxBatchCost_le : maxBatchCost ≤ u64Max := by decide
  initialBatchCost_le : initialBatchCost ≤ u64Max := by decide
  updateInterval_le : updateInterval ≤ u32Max := by decide
  starvationWindow_le : starvationWindow ≤ u32Max := by decide
  starvationBatchSize_le : starvationBatchSize ≤ u32Max := by decide

structure LatencyTracker where
  windowSize : ℕ
  minSamples : ℕ
  samples : List ℚ
  deriving DecidableEq

def LatencyTracker.new (windowSize minSamples : ℕ) : LatencyTracker :=
  ⟨windowSize, minSamples, []⟩

section

variable (tracker : LatencyTracker)

def LatencyTracker.record (totalMs : ℚ) : LatencyTracker :=
  { tracker with
    samples :=
      (if tracker.samples.length = tracker.windowSize then tracker.samples.tail
        else tracker.samples) ++ [totalMs] }

/-- The nearest rank, with the index cut to an integer. -/
def LatencyTracker.percentile (p : ℚ) : Option ℚ :=
  if tracker.samples.length < tracker.minSamples then none
  else (tracker.samples.insertionSort (· ≤ ·))[
    (p / 100 * ((tracker.samples.length - 1 : ℕ) : ℚ)).floor.toNat]?

def LatencyTracker.p50 : Option ℚ :=
  tracker.percentile 50

def LatencyTracker.reset : LatencyTracker :=
  { tracker with samples := [] }

end

structure Controller where
  targetP50Ms : Option ℚ
  currentWaitMs : ℚ
  currentBatchCost : ℕ
  stepsSinceUpdate : ℕ
  autoCalibrate : Bool
  calibrated : Bool
  inferenceTracker : LatencyTracker
  integral : ℚ
  lastStepTime : Option ℚ
  starvationStreak : ℕ
  starvationResets : ℕ
  deriving DecidableEq

def inferenceTrackerWindow : ℕ := 50

def inferenceTrackerMinSamples : ℕ := 10

def integralMax : ℚ := 20

def dtCapSecs : ℚ := 5

def idleDecayThresholdSecs : ℚ := 2

def Controller.build (tuning : Tuning) : Controller where
  targetP50Ms := tuning.targetP50Ms
  currentWaitMs := tuning.initialWaitMs
  currentBatchCost := tuning.initialBatchCost
  stepsSinceUpdate := 0
  autoCalibrate := tuning.targetP50Ms.isNone
  calibrated := tuning.targetP50Ms.isSome
  inferenceTracker := LatencyTracker.new inferenceTrackerWindow inferenceTrackerMinSamples
  integral := 0
  lastStepTime := none
  starvationStreak := 0
  starvationResets := 0

def clamp (value lo hi : ℚ) : ℚ :=
  max lo (min hi value)

/-- The cast of a float to a 64-bit integer cuts the fraction off and saturates. -/
def toU64 (value : ℚ) : ℕ :=
  min value.floor.toNat u64Max

def Controller.recordInferenceSample (controller : Controller) (inferenceMs : ℚ) :
    Controller :=
  if controller.calibrated then controller
  else { controller with
    inferenceTracker := controller.inferenceTracker.record inferenceMs }

section Stepping

variable (half : ℚ → ℚ) (tuning : Tuning)

section

variable (controller : Controller)

def updateStarvationTracker : Option ℕ → Controller
  | none => controller
  | some size =>
    { controller with
      starvationStreak :=
        if size > tuning.starvationBatchSize then 0
        else min (controller.starvationStreak + 1) u32Max }

def atFloors : Bool :=
  controller.currentWaitMs ≤ tuning.minWaitMs && controller.currentBatchCost ≤ tuning.minBatchCost

def starved : Bool :=
  tuning.starvationRecoveryEnabled &&
    tuning.starvationWindow ≤ controller.starvationStreak && atFloors tuning controller

def recoveryCost : ℕ :=
  toU64 (clamp (max (tuning.initialBatchCost / 2) (min (tuning.minBatchCost * 4) u64Max) : ℕ)
    tuning.minBatchCost tuning.maxBatchCost)

def recover : Controller :=
  { controller with
    currentWaitMs :=
      clamp ((tuning.minWaitMs + tuning.initialWaitMs) / 2) tuning.minWaitMs tuning.maxWaitMs
    currentBatchCost := recoveryCost tuning
    integral := 0
    lastStepTime := none
    starvationStreak := 0
    starvationResets := min (controller.starvationResets + 1) u32Max }

def maybeRecoverFromStarvation : Option Controller :=
  if starved tuning controller then some (recover tuning controller) else none

/-- The limits are held until the controller is calibrated. -/
def calibrate : Controller :=
  match controller.inferenceTracker.p50 with
  | none => controller
  | some inferenceP50 =>
    { controller with
      targetP50Ms := some (clamp (inferenceP50 * tuning.calibrationMultiplier)
        tuning.minTargetP50Ms tuning.maxTargetP50Ms)
      calibrated := true
      integral := 0
      lastStepTime := none }

/-- Seconds since the last step, capped. -/
def elapsed (now : ℚ) : ℚ :=
  match controller.lastStepTime with
  | none => 0
  | some previous => min (max (now - previous) 0) dtCapSecs

def decayed (integral dt : ℚ) : ℚ :=
  if dt > idleDecayThresholdSecs then integral * half (dt - idleDecayThresholdSecs)
  else integral

/-- The error is not summed up while the wait limit is clamped in its direction. -/
def integrated (headroom dt integral : ℚ) : ℚ :=
  if ¬ (controller.currentWaitMs ≥ tuning.maxWaitMs ∧ headroom > 0) ∧
      ¬ (controller.currentWaitMs ≤ tuning.minWaitMs ∧ headroom < 0) ∧
      tuning.integralGain > 0 then
    clamp (integral + headroom * dt) (-integralMax) integralMax
  else integral

/-- The new cost within its bounds.  With a target of zero it is infinite, with the sign of the
adjustment, or not a number; `min` and `max` return their other argument for the latter. -/
def proposedCost (headroom target : ℚ) : ℚ :=
  if target = 0 then
    if controller.currentBatchCost * headroom * tuning.costGain < 0 then tuning.minBatchCost
    else max tuning.minBatchCost tuning.maxBatchCost
  else
    clamp (controller.currentBatchCost +
        controller.currentBatchCost * (headroom / target) * tuning.costGain)
      tuning.minBatchCost tuning.maxBatchCost

/-- The cost limit moves only when the batches fill it. -/
def adjustedCost (headroom target : ℚ) (fillRatio : Option ℚ) : ℕ :=
  match fillRatio with
  | none => controller.currentBatchCost
  | some fill =>
    if fill ≥ tuning.fillRatioThreshold ∧
        ¬ (controller.currentBatchCost ≥ tuning.maxBatchCost ∧ headroom > 0) ∧
        ¬ (controller.currentBatchCost ≤ tuning.minBatchCost ∧ headroom < 0) then
      toU64 (proposedCost tuning controller headroom target)
    else controller.currentBatchCost

def adjust (now observed target : ℚ) (fillRatio : Option ℚ) : Controller :=
  let headroom := target - observed
  let dt := elapsed controller now
  let integral := integrated tuning controller headroom dt (decayed half controller.integral dt)
  { controller with
    lastStepTime := some now
    integral := integral
    currentWaitMs :=
      clamp (controller.currentWaitMs + (headroom * tuning.gain + integral * tuning.integralGain))
        tuning.minWaitMs tuning.maxWaitMs
    currentBatchCost := adjustedCost tuning controller headroom target fillRatio }

/-- The part of a step that runs once in an update interval. -/
def update (now : ℚ) (observedP50Ms fillRatio : Option ℚ) : Controller :=
  if !controller.calibrated then calibrate tuning controller
  else match observedP50Ms, controller.targetP50Ms with
    | some observed, some target =>
      match maybeRecoverFromStarvation tuning controller with
      | some recovered => recovered
      | none => adjust half tuning controller now observed target fillRatio
    | _, _ => controller

/-- The result's wait and cost limits are what the step returns. -/
def Controller.step (now : ℚ)
    (observedP50Ms fillRatio : Option ℚ) (batchSize : Option ℕ) : Controller :=
  let controller := updateStarvationTracker tuning controller batchSize
  if controller.stepsSinceUpdate + 1 < tuning.updateInterval then
    { controller with stepsSinceUpdate := controller.stepsSinceUpdate + 1 }
  else
    update half tuning { controller with stepsSinceUpdate := 0 } now observedP50Ms fillRatio

end

def Controller.reset (controller : Controller) : Controller :=
  { controller with
    currentWaitMs := clamp tuning.initialWaitMs tuning.minWaitMs tuning.maxWaitMs
    currentBatchCost :=
      toU64 (clamp tuning.initialBatchCost tuning.minBatchCost tuning.maxBatchCost)
    stepsSinceUpdate := 0
    integral := 0
    lastStepTime := none
    starvationStreak := 0
    calibrated := controller.calibrated && !controller.autoCalibrate
    targetP50Ms := if controller.autoCalibrate then none else controller.targetP50Ms
    inferenceTracker :=
      if controller.autoCalibrate then controller.inferenceTracker.reset
      else controller.inferenceTracker }

end Stepping

/-- Every step may move the limits, and two small batches at the floors are starvation. -/
def sampleTuning : Tuning where
  targetP50Ms := some 10
  updateInterval := 1
  starvationWindow := 2
  initialWaitMs := 2
  initialBatchCost := 300

end SieCluster.AdaptiveController
