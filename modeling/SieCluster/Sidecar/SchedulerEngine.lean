import SieCluster.Core.Totals
import SieCluster.Sidecar.AdaptiveController

/-!
# The scheduler of a model

Each operation and adapter has a batch former of its own, made when the first
request for it comes in.  Looking a former up, making it, filling it, picking the
one with the oldest head, cutting a batch and passing new limits on are separate
steps under separate locks, and the steps of all calls in progress interleave.
A former is named by its place in `entries`, which stands for the shared handle
that a call keeps after it has released the map.
-/

namespace SieCluster.SchedulerEngine

open Runs Totals
open BatchFormer AdaptiveController

inductive Op where
  | encode
  | score
  | extract
  deriving DecidableEq

/-- The empty name is the base model. -/
structure LoraKey where
  name : Option String
  name_ne : name ≠ some ""
  deriving DecidableEq

def LoraKey.base : LoraKey :=
  ⟨none, nofun⟩

abbrev BatcherKey := Op × LoraKey

/-- Scores always go to the base queue. -/
def routeKey : Op → LoraKey → BatcherKey
  | .score, _ => (.score, .base)
  | op, lora => (op, lora)

section

variable (Item Metadata : Type*)

structure Entry where
  key : BatcherKey
  former : Former Item Metadata

/-- `consume_next`, which waits, and `try_consume_next`, which does not. -/
inductive Consume where
  | next (immediate : Bool)
  | tryNext

/-- A call between two of its steps. -/
inductive Task where
  /-- The map had no former for the key when it was looked up. -/
  | missed (key : BatcherKey) (items : List (Item × Metadata))
  | holding (key : BatcherKey) (handle : ℕ) (items : List (Item × Metadata))
  /-- The heads are read one by one, under the read lock of the map. -/
  | scanning (remaining : List ℕ) (best : Option (ℕ × ℕ)) (mode : Consume)
  | picked (handle : ℕ) (mode : Consume)
  | draining (key : BatcherKey) (handle maxItems : ℕ)
  /-- The controller has been stepped to these limits. -/
  | stepped (waitMs : ℚ) (batchCost : ℕ)
  | configured (config : BatchConfig)
  | propagating (config : BatchConfig) (remaining : List ℕ)

/-- The call that holds the write lock of the map. -/
structure Creation where
  task : ℕ
  config : Option BatchConfig

/-- `submitted` and `delivered` are the history: what the formers took in, under the key it
was submitted for, and the batches, under the key they were reported for. -/
structure Scheduler where
  entries : List (Entry Item Metadata)
  batchers : Table BatcherKey ℕ
  creation : Option Creation
  controller : Controller
  config : BatchConfig
  epoch : ℕ
  clock : ℕ
  tasks : Table ℕ (Task Item Metadata)
  submitted : List (BatcherKey × Item × Metadata)
  delivered : List (BatcherKey × FormattedBatch Item Metadata)

end

variable {Item Metadata : Type*} [HasCost Item]

def Scheduler.build (config : BatchConfig) (controller : Controller) (epoch : ℕ) :
    Scheduler Item Metadata where
  entries := []
  batchers := ∅
  creation := none
  controller := controller
  config := config
  epoch := epoch
  clock := epoch
  tasks := ∅
  submitted := []
  delivered := []

/-- Whether the call is inside the read lock. -/
def Task.isScanning : Task Item Metadata → Bool
  | .scanning .. => true
  | _ => false

section Submitting

variable (scheduler : Scheduler Item Metadata)

/-- A call for the key, with its handle if the map has one. -/
def Scheduler.found (key : BatcherKey) (items : List (Item × Metadata)) : Task Item Metadata :=
  match scheduler.batchers.lookup key with
  | some handle => .holding key handle items
  | none => .missed key items

variable (task : ℕ)

/-- The fast path looks the key up under the read lock. -/
def Scheduler.submit (op : Op)
    (lora : LoraKey) (items : List (Item × Metadata)) : Option (Scheduler Item Metadata) :=
  if scheduler.tasks.lookup task = none ∧ scheduler.creation.isNone ∧ items ≠ [] then
    some { scheduler with
      tasks := scheduler.tasks.insert task (scheduler.found (routeKey op lora) items) }
  else none

/-- The slow path takes the write lock and looks again. -/
def Scheduler.lockMap
    (key : BatcherKey) (items : List (Item × Metadata)) : Option (Scheduler Item Metadata) :=
  if scheduler.creation.isNone ∧ scheduler.tasks.entries.all (fun entry => !entry.2.isScanning)
  then
    match scheduler.batchers.lookup key with
    | some handle =>
      some { scheduler with
        tasks := scheduler.tasks.insert task (.holding key handle items) }
    | none => some { scheduler with creation := some ⟨task, none⟩ }
  else none

def Scheduler.readConfig : Scheduler Item Metadata :=
  { scheduler with creation := some ⟨task, some scheduler.config⟩ }

def Scheduler.insertEntry
    (config : BatchConfig) (key : BatcherKey) (items : List (Item × Metadata)) :
    Scheduler Item Metadata :=
  { scheduler with
    entries := scheduler.entries ++ [⟨key, Former.withEpoch config scheduler.epoch⟩]
    batchers := scheduler.batchers.insert key scheduler.entries.length
    creation := none
    tasks := scheduler.tasks.insert task (.holding key scheduler.entries.length items) }

def withFormer (entries : List (Entry Item Metadata)) (handle : ℕ)
    (former : Former Item Metadata) : List (Entry Item Metadata) :=
  entries.modify handle fun entry => { entry with former := former }

def timed (items : List (Item × Metadata)) (times : List ℕ) : List (Item × Metadata × ℕ) :=
  items.zipWith (fun item time => (item.1, item.2, time)) times

/-- The items are appended under the lock of the former. -/
def Scheduler.append (key : BatcherKey)
    (handle : ℕ) (items : List (Item × Metadata)) (times : List ℕ) :
    Option (Scheduler Item Metadata) :=
  match scheduler.entries[handle]? with
  | none => none
  | some entry =>
    if items.length = times.length ∧ InTime scheduler.clock (timed items times) then
      some { scheduler with
        entries :=
          withFormer scheduler.entries handle (entry.former.submitMany (timed items times))
        clock := lastOf scheduler.clock (timed items times)
        tasks := scheduler.tasks.erase task
        submitted := scheduler.submitted ++ items.map fun item => (key, item) }
    else none

end Submitting

section Consuming

variable (scheduler : Scheduler Item Metadata)

def Scheduler.headAt (handle : ℕ) : ℕ :=
  (scheduler.entries[handle]?.map fun entry => entry.former.fcfsHeadNs).getD 0

/-- A smaller time stamp wins, and zero is an empty former. -/
def consider (best : Option (ℕ × ℕ)) (head handle : ℕ) : Option (ℕ × ℕ) :=
  if head = 0 then best
  else match best with
    | none => some (head, handle)
    | some (least, other) => if head < least then some (head, handle) else some (least, other)

def Scheduler.handles : List ℕ :=
  scheduler.batchers.entries.map fun entry => entry.2

/-- The whole scan without a step of another call in between.  The map gives its values in
any order. -/
def Scheduler.pickOldest (order : List ℕ) : Option ℕ :=
  (order.foldl (fun best handle => consider best (scheduler.headAt handle) handle) none).map
    Prod.snd

variable (task : ℕ)

def Scheduler.scan (mode : Consume) (order : List ℕ) : Option (Scheduler Item Metadata) :=
  if scheduler.tasks.lookup task = none ∧ scheduler.creation.isNone ∧
      order.isPerm scheduler.handles then
    some { scheduler with tasks := scheduler.tasks.insert task (.scanning order none mode) }
  else none

/-- A scan that finds nothing ends: `consume_next` waits and begins another one. -/
def Scheduler.look (remaining : List ℕ)
    (best : Option (ℕ × ℕ)) (mode : Consume) : Scheduler Item Metadata :=
  match remaining, best with
  | handle :: rest, best =>
    { scheduler with
      tasks := scheduler.tasks.insert task
        (.scanning rest (consider best (scheduler.headAt handle) handle) mode) }
  | [], some (_, handle) =>
    { scheduler with tasks := scheduler.tasks.insert task (.picked handle mode) }
  | [], none => { scheduler with tasks := scheduler.tasks.erase task }

/-- A batch that was cut is reported under the key. -/
def Scheduler.report (key : BatcherKey)
    (handle : ℕ) (result : FormattedBatch Item Metadata × Former Item Metadata) :
    Scheduler Item Metadata :=
  { scheduler with
    entries := withFormer scheduler.entries handle result.2
    tasks := scheduler.tasks.erase task
    delivered := scheduler.delivered ++ [(key, result.1)] }

/-- A former that is not ready keeps a waiting call. -/
def Scheduler.flush (task handle : ℕ) (mode : Consume)
    (now : ℕ) : Option (Scheduler Item Metadata) :=
  match scheduler.entries[handle]? with
  | none => none
  | some entry =>
    if scheduler.clock ≤ now then
      match mode with
      | .next immediate =>
        match entry.former.getBatch immediate now with
        | some result => some ({ scheduler with clock := now }.report task entry.key handle result)
        | none => some { scheduler with clock := now }
      | .tryNext =>
        match entry.former.getBatch false now with
        | some result => some ({ scheduler with clock := now }.report task entry.key handle result)
        | none =>
          some { scheduler with clock := now, tasks := scheduler.tasks.erase task }
    else none

def Scheduler.drainSame (op : Op)
    (lora : LoraKey) (maxItems : ℕ) : Option (Scheduler Item Metadata) :=
  if scheduler.tasks.lookup task = none ∧ scheduler.creation.isNone ∧ maxItems ≠ 0 then
    match scheduler.batchers.lookup (routeKey op lora) with
    | some handle =>
      some { scheduler with
        tasks := scheduler.tasks.insert task (.draining (routeKey op lora) handle maxItems) }
    | none => some scheduler
  else none

def Scheduler.drain (key : BatcherKey) (handle maxItems : ℕ) : Option (Scheduler Item Metadata) :=
  match scheduler.entries[handle]? with
  | none => none
  | some entry =>
    match entry.former.tryDrainUpTo maxItems with
    | some result => some (scheduler.report task key handle result)
    | none => some { scheduler with tasks := scheduler.tasks.erase task }

end Consuming

section Completing

variable (half : ℚ → ℚ) (tuning : Tuning)

section

variable (scheduler : Scheduler Item Metadata)

/-- What the trackers report is any value. -/
def Scheduler.complete (task : ℕ) (now : ℚ)
    (observedP50Ms fillRatio : Option ℚ) (batchSize : ℕ) : Option (Scheduler Item Metadata) :=
  if scheduler.tasks.lookup task = none then
    let controller :=
      scheduler.controller.step half tuning now observedP50Ms fillRatio (some batchSize)
    some { scheduler with
      controller := controller
      tasks := scheduler.tasks.insert task
        (.stepped controller.currentWaitMs controller.currentBatchCost) }
  else none

def limited (config : BatchConfig) (waitMs : ℚ) (batchCost : ℕ) : BatchConfig :=
  { config with
    maxBatchWaitMs := waitMs
    maxBatchCost := batchCost }

def Scheduler.writeConfig (task : ℕ) (waitMs : ℚ) (batchCost : ℕ) : Scheduler Item Metadata :=
  { scheduler with
    config := limited scheduler.config waitMs batchCost
    tasks := scheduler.tasks.insert task (.configured (limited scheduler.config waitMs batchCost)) }

def Scheduler.snapshot (task : ℕ) (config : BatchConfig)
    (order : List ℕ) : Option (Scheduler Item Metadata) :=
  if scheduler.creation.isNone ∧ order.isPerm scheduler.handles then
    some { scheduler with tasks := scheduler.tasks.insert task (.propagating config order) }
  else none

def Scheduler.propagate (task : ℕ) (config : BatchConfig)
    (remaining : List ℕ) : Option (Scheduler Item Metadata) :=
  match remaining with
  | [] => some { scheduler with tasks := scheduler.tasks.erase task }
  | handle :: rest =>
    match scheduler.entries[handle]? with
    | none => none
    | some entry =>
      some { scheduler with
        entries := withFormer scheduler.entries handle (entry.former.updateConfig config)
        tasks := scheduler.tasks.insert task (.propagating config rest) }

/-- A call begins, or a call in progress takes its next step.  The inputs of a step are what
it reads from outside: times, the order of a map and the measurements. -/
inductive Event (Item Metadata : Type*) where
  | submit (task : ℕ) (op : Op) (lora : LoraKey) (items : List (Item × Metadata))
  | consume (task : ℕ) (mode : Consume) (order : List ℕ)
  | drainSame (task : ℕ) (op : Op) (lora : LoraKey) (maxItems : ℕ)
  | complete (task : ℕ) (now : ℚ) (observedP50Ms fillRatio : Option ℚ) (batchSize : ℕ)
  | advance (task : ℕ) (times order : List ℕ)

/-- The next step of a call that is in progress. -/
def Scheduler.advance (task : ℕ)
    (times order : List ℕ) : Task Item Metadata → Option (Scheduler Item Metadata)
  | .missed key items =>
    match scheduler.creation with
    | none => scheduler.lockMap task key items
    | some ⟨owner, config⟩ =>
      if owner = task then
        match config with
        | none => some (scheduler.readConfig task)
        | some config => some (scheduler.insertEntry task config key items)
      else none
  | .holding key handle items => scheduler.append task key handle items times
  | .scanning remaining best mode => some (scheduler.look task remaining best mode)
  | .picked handle mode =>
    match times with
    | [now] => scheduler.flush task handle mode now
    | _ => none
  | .draining key handle maxItems => scheduler.drain task key handle maxItems
  | .stepped waitMs batchCost => some (scheduler.writeConfig task waitMs batchCost)
  | .configured config => scheduler.snapshot task config order
  | .propagating config remaining => scheduler.propagate task config remaining

def step : Event Item Metadata → Option (Scheduler Item Metadata)
  | .submit task op lora items => scheduler.submit task op lora items
  | .consume task mode order => scheduler.scan task mode order
  | .drainSame task op lora maxItems => scheduler.drainSame task op lora maxItems
  | .complete task now observedP50Ms fillRatio batchSize =>
    scheduler.complete half tuning task now observedP50Ms fillRatio batchSize
  | .advance task times order =>
    (scheduler.tasks.lookup task).bind (scheduler.advance task times order)

/-- No call is in progress. -/
def Scheduler.idle : Prop :=
  scheduler.tasks = ∅ ∧ scheduler.creation = none

end

end Completing

end SieCluster.SchedulerEngine
