import SieCluster.Sidecar.AdaptiveController

/-!
# The adaptive batch controller of the worker

The same controller in the worker process, from which the one of the sidecar was
ported.  It counts small batches towards starvation only while both limits are at
their floors.  Its counters are unbounded, and it raises when the latency target
is zero.
-/

namespace SieCluster.AdaptiveBatching

open AdaptiveController (Tuning)

/-- A queue that drops the oldest sample when it is full. -/
structure LatencyTracker where
  windowSize : ℕ
  minSamples : ℕ
  samples : List ℚ

section

variable (tracker : LatencyTracker)

def LatencyTracker.record (totalMs : ℚ) : LatencyTracker :=
  { tracker with
    samples := (tracker.samples ++ [totalMs]).drop
      (tracker.samples.length + 1 - tracker.windowSize) }

def LatencyTracker.percentile (p : ℚ) : Option ℚ :=
  if tracker.samples.length < tracker.minSamples then none
  else (tracker.samples.insertionSort (· ≤ ·))[
    (p / 100 * ((tracker.samples.length - 1 : ℕ) : ℚ)).floor.toNat]?

def LatencyTracker.p50 : Option ℚ :=
  tracker.percentile 50

def LatencyTracker.reset : LatencyTracker :=
  { tracker with samples := [] }

end

structure Controller where
  targetP50Ms : Option ℚ
  initialWaitMs : ℚ
  initialBatchCost : ℕ
  currentWaitMs : ℚ
  currentBatchCost : ℕ
  stepsSinceUpdate : ℕ
  autoCalibrate : Bool
  calibrated : Bool
  inferenceTracker : LatencyTracker
  integral : ℚ
  integralMax : ℚ
  lastStepTime : Option ℚ
  starvationStreak : ℕ
  starvationResets : ℕ

/-- The dataclass with its defaults after `__post_init__`. -/
def Controller.new (tuning : Tuning) : Controller where
  targetP50Ms := tuning.targetP50Ms
  initialWaitMs := tuning.initialWaitMs
  initialBatchCost := tuning.initialBatchCost
  currentWaitMs := tuning.initialWaitMs
  currentBatchCost := tuning.initialBatchCost
  stepsSinceUpdate := 0
  autoCalibrate := tuning.targetP50Ms.isNone
  calibrated := tuning.targetP50Ms.isSome
  inferenceTracker := ⟨50, 10, []⟩
  integral := 0
  integralMax := 20
  lastStepTime := none
  starvationStreak := 0
  starvationResets := 0

def clamp (value lo hi : ℚ) : ℚ :=
  max lo (min hi value)

/-- `int` of a number that is not negative. -/
def toInt (value : ℚ) : ℕ :=
  value.floor.toNat

def Controller.recordInferenceSample (controller : Controller) (inferenceMs : ℚ) :
    Controller :=
  if controller.calibrated then controller
  else { controller with
    inferenceTracker := controller.inferenceTracker.record inferenceMs }

section Stepping

variable (half : ℚ → ℚ) (tuning : Tuning)

section

variable (controller : Controller)

def isPinnedAtFloor : Bool :=
  controller.currentWaitMs ≤ tuning.minWaitMs && controller.currentBatchCost ≤ tuning.minBatchCost

def nextStreak (pinnedAtFloor : Bool) : Option ℕ → ℕ
  | none => 0
  | some size =>
    if !pinnedAtFloor then 0
    else if size > tuning.starvationBatchSize then 0
    else controller.starvationStreak + 1

def updateStarvationTracker (batchSize : Option ℕ) (pinnedAtFloor : Bool) : Controller :=
  { controller with
    starvationStreak := nextStreak tuning controller pinnedAtFloor batchSize }

def recoveryCost : ℕ :=
  toInt (clamp (max (controller.initialBatchCost / 2) (tuning.minBatchCost * 4) : ℕ)
    tuning.minBatchCost tuning.maxBatchCost)

def recover : Controller :=
  { controller with
    currentWaitMs :=
      clamp ((tuning.minWaitMs + controller.initialWaitMs) / 2) tuning.minWaitMs tuning.maxWaitMs
    currentBatchCost := recoveryCost tuning controller
    integral := 0
    lastStepTime := none
    starvationStreak := 0
    starvationResets := controller.starvationResets + 1 }

def maybeRecoverFromStarvation : Option Controller :=
  if !tuning.starvationRecoveryEnabled then none
  else if controller.starvationStreak < tuning.starvationWindow then none
  else if !isPinnedAtFloor tuning controller then none
  else some (recover tuning controller)

def calibrate : Controller :=
  match controller.inferenceTracker.p50 with
  | none => controller
  | some inferenceP50 =>
    { controller with
      targetP50Ms := some (clamp (inferenceP50 * tuning.calibrationMultiplier)
        tuning.minTargetP50Ms tuning.maxTargetP50Ms)
      calibrated := true
      integral := 0
      lastStepTime := none }

def elapsed (now : ℚ) : ℚ :=
  match controller.lastStepTime with
  | none => 0
  | some previous => min (now - previous) 5

def decayed (integral dt : ℚ) : ℚ :=
  if dt > 2 then integral * half (dt - 2) else integral

def integrated (headroom dt integral : ℚ) : ℚ :=
  if ¬ (controller.currentWaitMs ≥ tuning.maxWaitMs ∧ headroom > 0) ∧
      ¬ (controller.currentWaitMs ≤ tuning.minWaitMs ∧ headroom < 0) ∧
      tuning.integralGain > 0 then
    clamp (integral + headroom * dt) (-controller.integralMax) controller.integralMax
  else integral

def adjustedCost (headroom target : ℚ) (fillRatio : Option ℚ) : ℕ :=
  match fillRatio with
  | none => controller.currentBatchCost
  | some fill =>
    if fill ≥ tuning.fillRatioThreshold ∧
        ¬ (controller.currentBatchCost ≥ tuning.maxBatchCost ∧ headroom > 0) ∧
        ¬ (controller.currentBatchCost ≤ tuning.minBatchCost ∧ headroom < 0) then
      toInt (clamp (controller.currentBatchCost +
          controller.currentBatchCost * (headroom / target) * tuning.costGain)
        tuning.minBatchCost tuning.maxBatchCost)
    else controller.currentBatchCost

def adjust (now observed target : ℚ) (fillRatio : Option ℚ) : Controller :=
  let headroom := target - observed
  let dt := elapsed controller now
  let integral := integrated tuning controller headroom dt (decayed half controller.integral dt)
  { controller with
    lastStepTime := some now
    integral := integral
    currentWaitMs :=
      clamp (controller.currentWaitMs + (headroom * tuning.gain + integral * tuning.integralGain))
        tuning.minWaitMs tuning.maxWaitMs
    currentBatchCost := adjustedCost tuning controller headroom target fillRatio }

/-- No result stands for the `ZeroDivisionError` of a target that is zero. -/
def update (now : ℚ) (observedP50Ms fillRatio : Option ℚ) : Option Controller :=
  if !controller.calibrated then some (calibrate tuning controller)
  else match observedP50Ms, controller.targetP50Ms with
    | some observed, some target =>
      match maybeRecoverFromStarvation tuning controller with
      | some recovered => some recovered
      | none =>
        if target = 0 then none
        else some (adjust half tuning controller now observed target fillRatio)
    | _, _ => some controller

def Controller.step (now : ℚ)
    (observedP50Ms fillRatio : Option ℚ) (batchSize : Option ℕ) : Option Controller :=
  let controller :=
    updateStarvationTracker tuning controller batchSize (isPinnedAtFloor tuning controller)
  if controller.stepsSinceUpdate + 1 < tuning.updateInterval then
    some { controller with stepsSinceUpdate := controller.stepsSinceUpdate + 1 }
  else
    update half tuning { controller with stepsSinceUpdate := 0 } now observedP50Ms fillRatio

end

def Controller.reset (controller : Controller) : Controller :=
  { controller with
    currentWaitMs := clamp controller.initialWaitMs tuning.minWaitMs tuning.maxWaitMs
    currentBatchCost :=
      toInt (clamp controller.initialBatchCost tuning.minBatchCost tuning.maxBatchCost)
    stepsSinceUpdate := 0
    integral := 0
    lastStepTime := none
    starvationStreak := 0
    calibrated := controller.calibrated && !controller.autoCalibrate
    targetP50Ms := if controller.autoCalibrate then none else controller.targetP50Ms
    inferenceTracker :=
      if controller.autoCalibrate then controller.inferenceTracker.reset
      else controller.inferenceTracker }

end Stepping

end SieCluster.AdaptiveBatching
