import SieCluster.Core.Runs
import SieCluster.Core.Totals
import SieCluster.Sidecar.Intake

/-!
# The adapter worker pool

The sidecar keeps one client for each adapter process and decides which process
a model lives on.  Calls wait for the answer of a process, and between two waits
a call runs in one piece.  A config fan-out goes from child to child; from its
start the pool is quarantined, until the newest fan-out has succeeded.  A call
that is dropped while it waits does nothing more, apart from what its guards do.
-/

namespace SieCluster.AdapterPool

open Runs Totals

structure Child where
  ready : Bool
  inflightBatches : ℤ
  pendingItems : ℤ
  pendingCost : ℤ
  models : Finset String
  deriving DecidableEq

/-- The answer to a config request; an apply has no lists. -/
structure ConfigResponse where
  applied : Bool
  bundleConfigHash : String
  configVersion : ℕ
  appliedModels : List String
  appliedProfiles : List String
  deriving DecidableEq

inductive ConfigKind where
  | apply
  | replace
  deriving DecidableEq

/-- A call that waits for the answer of the child it names. -/
inductive Call where
  | ping (child : ℕ)
  | capabilities (child : ℕ)
  | fanout (kind : ConfigKind) (generation child : ℕ) (combined : Option ConfigResponse)
      (failed : Bool)
  | cancelGenerate (child : ℕ)
  | setPinned (child : ℕ)
  | generate (model : String) (child : ℕ)
  | batch (model : String) (child : ℕ)
  | ensureReady (model : String) (child : ℕ)
  deriving DecidableEq

/-- `calls` are the calls in progress; `appliedBy` notes the fan-outs, by generation, that a
child has applied. -/
structure Pool where
  children : List Child
  placements : Table String ℕ
  pinnedModels : Finset String
  pinnedAssignmentRevision : ℕ
  configQuarantined : Bool
  configFanoutGeneration : ℕ
  calls : Table ℕ Call
  appliedBy : List (ℕ × ℕ)

def Pool.new (count : ℕ) : Pool where
  children := List.replicate count ⟨false, 0, 0, 0, ∅⟩
  placements := ∅
  pinnedModels := ∅
  pinnedAssignmentRevision := 0
  configQuarantined := false
  configFanoutGeneration := 0
  calls := ∅
  appliedBy := []

section Children

variable (pool : Pool) (index : ℕ)

def Pool.isReady : Bool :=
  (pool.children[index]?.map Child.ready).getD false

def Pool.readyChildCount : ℕ :=
  pool.children.countP Child.ready

def Pool.modifyChild (change : Child → Child) : Pool :=
  { pool with children := pool.children.modify index change }

def Pool.setReady (ready : Bool) : Pool :=
  pool.modifyChild index fun child => { child with ready := ready }

def Pool.setAllReady (ready : Bool) : Pool :=
  { pool with children := pool.children.map fun child => { child with ready := ready } }

/-- A healthy answer makes a child ready, unless the pool is quarantined. -/
def Pool.markChildReadyFromHealthSuccess : Pool :=
  pool.setReady index !pool.configQuarantined

def Pool.addInflight (change : ℤ) : Pool :=
  pool.modifyChild index fun child =>
    { child with inflightBatches := child.inflightBatches + change }

end Children

section Placing

variable (pool : Pool) (model : String)

def Pool.markPinnedAssignmentChangedIfNeeded : Pool :=
  if model ∈ pool.pinnedModels then
    { pool with pinnedAssignmentRevision := pool.pinnedAssignmentRevision + 1 }
  else pool

/-- What children are compared by, in this order. -/
def Pool.childKey (index : ℕ) : List ℤ :=
  let child := pool.children[index]?.getD ⟨false, 0, 0, 0, ∅⟩
  [if 0 < pool.readyChildCount ∧ !child.ready then 1 else 0, child.models.card,
    child.pendingCost, child.pendingItems, child.inflightBatches, index]

/-- The child with the least key. -/
def Pool.chooseChildIndex : ℕ :=
  (List.range pool.children.length).foldl
    (fun best index => if pool.childKey index < pool.childKey best then index else best) 0

def Pool.unplace (index : ℕ) : Pool :=
  ({ pool with
    placements := pool.placements.erase model }.markPinnedAssignmentChangedIfNeeded
      model).modifyChild index fun child => { child with models := child.models.erase model }

def Pool.place (index : ℕ) : Pool :=
  ({ pool with
    placements := pool.placements.insert model index }.markPinnedAssignmentChangedIfNeeded
      model).modifyChild index fun child => { child with models := insert model child.models }

/-- A model stays on its child while the child is ready or no child is. -/
def Pool.childForModel : ℕ × Pool :=
  match pool.placements.lookup model with
  | some index =>
    if pool.isReady index ∨ pool.readyChildCount = 0 then (index, pool)
    else
      let pool := pool.unplace model index
      (pool.chooseChildIndex, pool.place model pool.chooseChildIndex)
  | none => (pool.chooseChildIndex, pool.place model pool.chooseChildIndex)

def Pool.clearModelIfOnChild (index : ℕ) : Pool :=
  if pool.placements.lookup model = some index then pool.unplace model index else pool

end Placing

section Pending

def maxCost : ℤ := 2 ^ 63 - 1

def clampCost (cost : ℕ) : ℤ :=
  min cost maxCost

variable (pool : Pool)

def Pool.recordModelPendingEnqueue (model : String) (cost : ℕ) : Pool :=
  let (index, pool) := pool.childForModel model
  pool.modifyChild index fun child =>
    { child with
      pendingItems := child.pendingItems + 1
      pendingCost := child.pendingCost + clampCost cost }

def Pool.recordChildPendingDequeue (index itemCount cost : ℕ) : Pool :=
  pool.modifyChild index fun child =>
    { child with
      pendingItems := max (child.pendingItems - itemCount) 0
      pendingCost := max (child.pendingCost - clampCost cost) 0 }

def Pool.recordModelPendingDequeue (model : String) (itemCount cost : ℕ) : Pool :=
  match pool.placements.lookup model with
  | none => pool
  | some index => pool.recordChildPendingDequeue index itemCount cost

end Pending

section Fanouts

variable (pool : Pool)

def Pool.beginConfigFanout : ℕ × Pool :=
  (pool.configFanoutGeneration + 1,
    { pool with
      configFanoutGeneration := pool.configFanoutGeneration + 1
      configQuarantined := true }.setAllReady false)

def Pool.quarantineConfigFanout (generation : ℕ) : Pool :=
  if pool.configFanoutGeneration ≠ generation then pool
  else { pool with configQuarantined := true }.setAllReady false

def Pool.clearConfigQuarantineAfterSuccess (generation : ℕ) : Pool :=
  if pool.configFanoutGeneration ≠ generation then pool
  else { pool with configQuarantined := false }.setAllReady true

/-- The first hash that is not empty stays, and another one is a rejection. -/
def mergeBundleHash (combined : ConfigResponse) (nextHash : String) : ConfigResponse :=
  if combined.bundleConfigHash = "" then { combined with bundleConfigHash := nextHash }
  else if nextHash ≠ "" ∧ combined.bundleConfigHash ≠ nextHash then
    { combined with applied := false }
  else combined

variable (combined response : ConfigResponse)

def mergeApply : ConfigResponse :=
  let merged := mergeBundleHash
    { combined with applied := combined.applied && response.applied } response.bundleConfigHash
  { merged with configVersion := max merged.configVersion response.configVersion }

def sorted (names : List String) : List String :=
  names.mergeSort fun first second => first ≤ second

/-- Lists that differ are a rejection, and are united. -/
def mergeNames (applied : Bool) (first second : List String) : Bool × List String :=
  if sorted first ≠ sorted second then (false, sorted (first ++ second).dedup)
  else (applied, first)

def mergeReplace : ConfigResponse :=
  let merged := mergeApply combined response
  let models := mergeNames merged.applied merged.appliedModels response.appliedModels
  let profiles := mergeNames models.1 merged.appliedProfiles response.appliedProfiles
  { merged with
    applied := profiles.1
    appliedModels := models.2
    appliedProfiles := profiles.2 }

def merge (kind : ConfigKind) (combined : Option ConfigResponse) (response : ConfigResponse) :
    ConfigResponse :=
  match combined, kind with
  | none, _ => response
  | some combined, .apply => mergeApply combined response
  | some combined, .replace => mergeReplace combined response

end Fanouts

/-! ## Calls in progress -/

inductive Request where
  | ping (child : ℕ)
  | capabilities
  | fanout (kind : ConfigKind)
  | cancelGenerate
  | setPinned (models : List String)
  | generate (model : String)
  | batch (model : String)
  | ensureReady (model : String)

/-- What a child answers, as far as the pool reads it. -/
inductive Reply where
  | ok
  | unready
  | config (response : ConfigResponse)
  | error
  deriving DecidableEq

inductive Event where
  | enqueue (model : String) (cost : ℕ)
  | dequeueChild (child itemCount cost : ℕ)
  | dequeueModel (model : String) (itemCount cost : ℕ)
  | call (task : ℕ) (request : Request)
  | answer (task : ℕ) (reply : Reply)
  | dropCall (task : ℕ)

section Calls

variable (pool : Pool)

section

variable (task : ℕ)

def Pool.start (call : Call) : Pool :=
  { pool with calls := pool.calls.insert task call }

def Pool.finish : Pool :=
  { pool with calls := pool.calls.erase task }

section

variable (models : List String)

def normalizePinnedModels : List String :=
  sorted ((models.map Intake.trim).filter (· ≠ "")).dedup

def Pool.updatePinnedModelSet : Pool :=
  if pool.pinnedModels ≠ models.toFinset then
    { pool with
      pinnedModels := models.toFinset
      pinnedAssignmentRevision := pool.pinnedAssignmentRevision + 1 }
  else pool

/-- Every pinned model is placed. -/
def Pool.pinnedModelsByChild : Pool :=
  models.foldl (fun pool model => (pool.childForModel model).2) pool

end

/-- The part of a call up to its first wait.  Under quarantine a generation and a readiness
call end at once, and a batch ends after it has placed its model. -/
def Pool.begin : Request → Pool
  | .ping child => pool.start task (.ping child)
  | .capabilities => pool.start task (.capabilities 0)
  | .fanout kind =>
    let (generation, pool) := pool.beginConfigFanout
    pool.start task (.fanout kind generation 0 none false)
  | .cancelGenerate => pool.start task (.cancelGenerate 0)
  | .setPinned models =>
    let models := normalizePinnedModels models
    ((pool.updatePinnedModelSet models).pinnedModelsByChild models).start task (.setPinned 0)
  | .generate model =>
    if pool.configQuarantined then pool
    else
      let (child, pool) := pool.childForModel model
      (pool.addInflight child 1).start task (.generate model child)
  | .batch model =>
    let (child, pool) := pool.childForModel model
    if pool.configQuarantined then pool
    else (pool.addInflight child 1).start task (.batch model child)
  | .ensureReady model =>
    if pool.configQuarantined then pool
    else
      let (child, pool) := pool.childForModel model
      pool.start task (.ensureReady model child)

/-- A call that goes from child to child waits for the next one or ends. -/
def Pool.next (task child : ℕ) (call : ℕ → Call) : Pool :=
  if child + 1 < pool.children.length then pool.start task (call (child + 1))
  else pool.finish task

/-- What is made of the answers of all children. -/
def Pool.concludeFanout (generation : ℕ) (combined : Option ConfigResponse)
    (failed : Bool) : Pool :=
  if failed then pool.quarantineConfigFanout generation
  else if combined.any ConfigResponse.applied then
    pool.clearConfigQuarantineAfterSuccess generation
  else pool.quarantineConfigFanout generation

def Pool.nextFanout (kind : ConfigKind) (generation child : ℕ)
    (combined : Option ConfigResponse) (failed : Bool) : Pool :=
  if child + 1 < pool.children.length then
    pool.start task (.fanout kind generation (child + 1) combined failed)
  else (pool.finish task).concludeFanout generation combined failed

def Pool.noteApplied (generation child : ℕ) (response : ConfigResponse) : Pool :=
  if response.applied then
    { pool with appliedBy := pool.appliedBy ++ [(generation, child)] }
  else pool

/-- The end of a call to the child a model is on. -/
def Pool.settle (model : String) (child : ℕ) (reply : Reply) : Pool :=
  if reply = .error then (pool.setReady child false).clearModelIfOnChild model child
  else pool.markChildReadyFromHealthSuccess child

/-- The part of a call between an answer and its next wait. -/
def Pool.resume (reply : Reply) : Call → Option Pool
  | .ping child =>
    some ((if reply = .ok then pool.markChildReadyFromHealthSuccess child
      else pool.setReady child false).finish task)
  | .capabilities child =>
    some ((if reply = .error then pool.setReady child false
      else pool.markChildReadyFromHealthSuccess child).next task child .capabilities)
  | .fanout kind generation child combined failed =>
    match reply with
    | .config response =>
      some ((pool.noteApplied generation child response).nextFanout task kind generation
        child (some (merge kind combined response)) failed)
    | .error =>
      some ((pool.setReady child false).nextFanout task kind generation child combined true)
    | _ => none
  | .cancelGenerate child =>
    some ((if reply = .error then pool.setReady child false else pool).next task child
      .cancelGenerate)
  | .setPinned child =>
    if reply = .error then some ((pool.setReady child false).finish task)
    else some ((pool.markChildReadyFromHealthSuccess child).next task child .setPinned)
  | .generate model child =>
    some (((pool.settle model child reply).addInflight child (-1)).finish task)
  | .batch model child =>
    some (((pool.addInflight child (-1)).settle model child reply).finish task)
  | .ensureReady model child => some ((pool.settle model child reply).finish task)

/-- Only a generation has a guard that counts it out. -/
def Pool.abandon : Call → Pool
  | .generate _ child => (pool.addInflight child (-1)).finish task
  | _ => pool.finish task

end

def step : Event → Option Pool
  | .enqueue model cost => some (pool.recordModelPendingEnqueue model cost)
  | .dequeueChild child itemCount cost =>
    some (pool.recordChildPendingDequeue child itemCount cost)
  | .dequeueModel model itemCount cost =>
    some (pool.recordModelPendingDequeue model itemCount cost)
  | .call task request =>
    if pool.calls.lookup task = none then some (pool.begin task request) else none
  | .answer task reply => (pool.calls.lookup task).bind (pool.resume task reply)
  | .dropCall task => (pool.calls.lookup task).map (pool.abandon task)

end Calls

end SieCluster.AdapterPool
