import SieCluster.Core.Runs

/-!
# The keyed worker pool

A message goes to the shard its key hashes to.  A shard is a bounded channel and
one task that takes the messages out in order and handles each to its end before
it takes the next.  `dispatch` waits for a free slot, `try_dispatch` does not.

The producers are calls in progress next to the shards, so that a run is one
interleaving of them with the tasks.
-/

namespace SieCluster.KeyedWorkerPool

open Option

variable {Item : Type} {shards : ℕ}

def fnvOffsetBasis : UInt64 := 0xcbf29ce484222325

def fnvPrime : UInt64 := 0x100000001b3

def fnvHash (key : String) : UInt64 :=
  key.toUTF8.data.toList.foldl (fun hash byte => (hash ^^^ byte.toUInt64) * fnvPrime) fnvOffsetBasis

def shardIndex (key : String) (shards : ℕ) : ℕ :=
  (fnvHash key).toNat % max shards 1

theorem shardIndex_lt [NeZero shards] (key : String) : shardIndex key shards < shards := by
  have hpositive := NeZero.pos shards
  exact (Nat.mod_lt _ (by omega)).trans_eq (by omega)

/-! ## A shard -/

/-- A channel, with the slots nobody has, and the task that drains it. -/
structure Shard (Item : Type) where
  queue : List Item
  slots : ℕ
  running : Option Item
  saturated : Bool
  /-- Whether the task is there; it is gone once a handler panics. -/
  alive : Bool
  /-- The messages of calls that returned `true`, in the order in which they did. -/
  accepted : List Item
  started : List Item
  finished : List Item

namespace Shard

variable (shard : Shard Item)

def put (item : Item) (slots : ℕ) (saturated : Bool) : Shard Item :=
  { shard with
    queue := shard.queue ++ [item]
    slots := slots
    saturated := saturated
    accepted := shard.accepted ++ [item] }

def start (item : Item) (rest : List Item) : Shard Item :=
  { shard with queue := rest, running := some item, started := shard.started ++ [item] }

def complete (item : Item) : Shard Item :=
  { shard with running := none, finished := shard.finished ++ [item] }

/-- The task takes the next message and calls the handler. -/
def receive : Option (Shard Item) :=
  match shard.alive, shard.running, shard.queue with
  | true, none, item :: rest => some (shard.start item rest)
  | _, _, _ => none

/-- The handler returns. -/
def finish : Option (Shard Item) :=
  match shard.alive, shard.running with
  | true, some item => some (shard.complete item)
  | _, _ => none

end Shard

/-! ## Producers and tasks -/

/-- How far a dispatch that found its channel full has come. -/
inductive Stage where
  | full
  | waiting
  | granted
  deriving DecidableEq

structure Pool (shards : ℕ) (Item : Type) where
  shard : Fin shards → Shard Item
  pending : List (Stage × Item)

def new (shards depth : ℕ) : Option (Pool shards Item) :=
  if 0 < shards ∧ 0 < depth then some ⟨fun _ => ⟨[], depth, none, false, true, [], [], []⟩, []⟩
  else none

inductive Event (shards : ℕ) (Item : Type) where
  | dispatch (item : Item)
  | tryDispatch (item : Item)
  /-- A dispatch that had to wait is polled. -/
  | proceed (index : ℕ)
  /-- Its future is dropped. -/
  | abandon (index : ℕ)
  | receive (shard : Fin shards)
  | finish (shard : Fin shards)
  | panics (shard : Fin shards)

def Pool.set (pool : Pool shards Item) (index : Fin shards) (shard : Shard Item) :
    Pool shards Item :=
  { pool with shard := Function.update pool.shard index shard }

@[simp]
theorem Pool.shard_set (pool : Pool shards Item) (index : Fin shards) (shard : Shard Item) :
    (pool.set index shard).shard index = shard :=
  Function.update_self ..

section Pools

variable [NeZero shards] (shardKey : Item → String)

/-- The shard of a message. -/
def owner (item : Item) : Fin shards :=
  ⟨shardIndex (shardKey item) shards, shardIndex_lt _⟩

/-- The longest-waiting call on a shard gets a slot. -/
def grantFirst (index : Fin shards) : List (Stage × Item) → Option (List (Stage × Item))
  | [] => none
  | (stage, item) :: rest =>
    if stage = .waiting ∧ owner shardKey item = index then some ((.granted, item) :: rest)
    else (grantFirst index rest).map fun granted => (stage, item) :: granted

namespace Pool

variable (pool : Pool shards Item)

/-- A slot becomes free. -/
def release (index : Fin shards) : Pool shards Item :=
  match grantFirst shardKey index pool.pending with
  | some pending => { pool with pending := pending }
  | none => pool.set index { pool.shard index with slots := (pool.shard index).slots + 1 }

/-- What `try_send` says. -/
inductive TrySend where
  | sent
  | full
  | closed
  deriving DecidableEq

def trySend (item : Item) : Pool shards Item × TrySend :=
  let shard := pool.shard (owner shardKey item)
  if shard.alive = false then (pool, .closed)
  else if 0 < shard.slots then
    (pool.set (owner shardKey item) (shard.put item (shard.slots - 1) false), .sent)
  else (pool.set (owner shardKey item) { shard with saturated := true }, .full)

/-- Returns at once, or waits if the channel is full. -/
def dispatch (item : Item) : Pool shards Item × Option Bool :=
  match pool.trySend shardKey item with
  | (next, .sent) => (next, some true)
  | (next, .full) => ({ next with pending := next.pending ++ [(.full, item)] }, none)
  | (next, .closed) => (next, some false)

def tryDispatch (item : Item) : Pool shards Item × Bool :=
  ((pool.trySend shardKey item).1, (pool.trySend shardKey item).2 = .sent)

/-- The call awaits the channel's `send`; a slot that was granted is its own.  It returns an
answer, or waits on. -/
def proceed (index : ℕ) : Stage × Item → Option (Pool shards Item × Option Bool)
  | (stage, item) =>
    let left := { pool with pending := pool.pending.eraseIdx index }
    let shard := pool.shard (owner shardKey item)
    if shard.alive = false then some (left, some false)
    else if stage = .granted then
      some (left.set (owner shardKey item) (shard.put item shard.slots shard.saturated), some true)
    else if stage = .waiting then none
    else if 0 < shard.slots then
      some (left.set (owner shardKey item) (shard.put item (shard.slots - 1) shard.saturated),
        some true)
    else some ({ left with pending := left.pending ++ [(.waiting, item)] }, none)

def abandon (index : ℕ) : Stage × Item → Pool shards Item
  | (stage, item) =>
    let left := { pool with pending := pool.pending.eraseIdx index }
    if stage = .granted then left.release shardKey (owner shardKey item) else left

def step : Event shards Item → Option (Pool shards Item)
  | .dispatch item => some (pool.dispatch shardKey item).1
  | .tryDispatch item => some (pool.tryDispatch shardKey item).1
  | .proceed index => (pool.pending[index]?.bind (pool.proceed shardKey index)).map Prod.fst
  | .abandon index => pool.pending[index]?.map (pool.abandon shardKey index)
  | .receive index =>
    (pool.shard index).receive.map fun shard => (pool.set index shard).release shardKey index
  | .finish index => (pool.shard index).finish.map (pool.set index)
  | .panics index => some (pool.set index { pool.shard index with alive := false })

end Pool

/-! ## What every interleaving keeps -/

/-- What came in on a shard is its own, and it has finished, is handling or has queued it, in
that order. -/
structure Sound (index : Fin shards) (shard : Shard Item) : Prop where
  own : ∀ item ∈ shard.accepted, owner shardKey item = index
  inOrder : shard.accepted = shard.started ++ shard.queue
  oneByOne : shard.started = shard.finished ++ shard.running.toList

variable {shardKey} {pool : Pool shards Item} {index : Fin shards} {shard : Shard Item}

section

variable (hsound : Sound shardKey index shard)
include hsound

theorem Sound.put (howner : owner shardKey item = index) (slots : ℕ) (saturated : Bool) :
    Sound shardKey index (shard.put item slots saturated) where
  own := by
    exact List.forall_mem_append.2 ⟨hsound.own, List.forall_mem_singleton.2 howner⟩
  inOrder := by simp [Shard.put, hsound.inOrder]
  oneByOne := hsound.oneByOne

theorem Sound.mark (slots : ℕ) (saturated alive : Bool) :
    Sound shardKey index { shard with slots := slots, saturated := saturated, alive := alive } :=
  ⟨hsound.own, hsound.inOrder, hsound.oneByOne⟩

theorem Sound.receive (hreceive : shard.receive = some after) : Sound shardKey index after := by
  unfold Shard.receive at hreceive
  split at hreceive
  · rename_i item rest _ hrunning hqueue
    cases hreceive
    have honeByOne := hsound.oneByOne
    rw [hrunning, toList_none, List.append_nil] at honeByOne
    exact ⟨hsound.own, by simp [Shard.start, hsound.inOrder, hqueue],
      by simp [Shard.start, honeByOne]⟩
  · cases hreceive

theorem Sound.finish (hfinish : shard.finish = some after) : Sound shardKey index after := by
  unfold Shard.finish at hfinish
  split at hfinish
  · rename_i item _ hrunning
    cases hfinish
    exact ⟨hsound.own, hsound.inOrder, by simp [Shard.complete, hsound.oneByOne, hrunning]⟩
  · cases hfinish

end

section Steps

variable (hsound : ∀ index, Sound shardKey index (pool.shard index))
include hsound

theorem set_sound (hshard : Sound shardKey index shard) (other : Fin shards) :
    Sound shardKey other ((pool.set index shard).shard other) :=
  (Function.forall_update_iff pool.shard fun other found => Sound shardKey other found).2
    ⟨hshard, fun other _ => hsound other⟩ other

theorem release_sound (pending : List (Stage × Item)) (index other : Fin shards) :
    Sound shardKey other
      ((Pool.release shardKey { pool with pending := pending } index).shard other) := by
  unfold Pool.release
  split
  · exact hsound other
  · exact set_sound hsound ((hsound _).mark _ _ _) other

theorem trySend_sound (item : Item) (other : Fin shards) :
    Sound shardKey other ((pool.trySend shardKey item).1.shard other) := by
  unfold Pool.trySend
  dsimp only
  split_ifs
  · exact hsound other
  · exact set_sound hsound ((hsound _).put rfl _ _) other
  · exact set_sound hsound ((hsound _).mark _ _ _) other

theorem step_sound (hstep : pool.step shardKey event = some next)
    (other : Fin shards) : Sound shardKey other (next.shard other) := by
  cases event with
  | dispatch item =>
    cases hstep
    have hsent := trySend_sound hsound item other
    unfold Pool.dispatch
    split <;> simpa only [*] using hsent
  | tryDispatch item =>
    cases hstep
    exact trySend_sound hsound item other
  | proceed =>
    obtain ⟨answered, hanswer, rfl⟩ := map_eq_some_iff.1 hstep
    obtain ⟨⟨stage, item⟩, -, hstep⟩ := bind_eq_some_iff.1 hanswer
    unfold Pool.proceed at hstep
    dsimp only at hstep
    split_ifs at hstep <;> cases hstep
    · exact hsound other
    · exact set_sound hsound ((hsound _).put rfl _ _) other
    · exact set_sound hsound ((hsound _).put rfl _ _) other
    · exact hsound other
  | abandon =>
    obtain ⟨⟨stage, item⟩, -, rfl⟩ := map_eq_some_iff.1 hstep
    unfold Pool.abandon
    dsimp only
    split_ifs
    · exact release_sound hsound _ _ other
    · exact hsound other
  | receive index =>
    obtain ⟨shard, hreceive, rfl⟩ := map_eq_some_iff.1 hstep
    exact release_sound (set_sound hsound ((hsound index).receive hreceive)) _ index other
  | finish index =>
    obtain ⟨shard, hfinish, rfl⟩ := map_eq_some_iff.1 hstep
    exact set_sound hsound ((hsound index).finish hfinish) other
  | panics =>
    cases hstep
    exact set_sound hsound ((hsound _).mark _ _ _) other

end Steps

/-! ## The task handles what is there -/

def rounds (index : Fin shards) : ℕ → List (Event shards Item)
  | 0 => []
  | count + 1 => .receive index :: .finish index :: rounds index count

/-- What the task of a shard does when it is left to itself. -/
def Shard.work (shard : Shard Item) (index : Fin shards) : List (Event shards Item) :=
  (if shard.running.isSome then [.finish index] else []) ++ rounds index shard.queue.length

variable (shardKey pool index) in
theorem shard_release : ∃ slots,
    (pool.release shardKey index).shard index = { pool.shard index with slots := slots } := by
  unfold Pool.release
  split
  · exact ⟨(pool.shard index).slots, rfl⟩
  · exact ⟨(pool.shard index).slots + 1, Function.update_self ..⟩

variable (shardKey) in
theorem rounds_run (hqueue : (pool.shard index).queue = rest)
    (hidle : (pool.shard index).running = none) (halive : (pool.shard index).alive = true) :
    ∃ final, Runs.run (Pool.step shardKey) pool (rounds index rest.length) = some final ∧
      (final.shard index).accepted = (pool.shard index).accepted ∧
      (final.shard index).queue = [] ∧ (final.shard index).running = none := by
  induction rest generalizing pool with
  | nil => exact ⟨pool, rfl, rfl, hqueue, hidle⟩
  | cons item rest ih =>
    obtain ⟨slots, htaken⟩ :=
      shard_release shardKey (pool.set index ((pool.shard index).start item rest)) index
    rw [Pool.shard_set] at htaken
    have hreceive : pool.step shardKey (.receive index) =
        some ((pool.set index ((pool.shard index).start item rest)).release shardKey index) := by
      simp only [Pool.step, Shard.receive, halive, hidle, hqueue, map_some]
    generalize (pool.set index ((pool.shard index).start item rest)).release shardKey index = taken
      at htaken hreceive
    have hfinish : taken.step shardKey (.finish index) =
        some (taken.set index ((taken.shard index).complete item)) := by
      simp only [Pool.step, Shard.finish, htaken, Shard.start, halive, map_some]
    have hdone := taken.shard_set index ((taken.shard index).complete item)
    generalize taken.set index ((taken.shard index).complete item) = done at hfinish hdone
    rw [htaken] at hdone
    obtain ⟨final, hrun, hsame, hend⟩ := @ih done (hdone ▸ rfl) (hdone ▸ rfl) (hdone ▸ halive)
    rw [hdone] at hsame
    refine ⟨final, ?_, hsame, hend⟩
    simp only [List.length_cons, rounds, Runs.run, hreceive, hfinish, bind_some]
    exact hrun

theorem work_run (hsound : ∀ index, Sound shardKey index (pool.shard index))
    (halive : (pool.shard index).alive = true) :
    ∃ final, Runs.run (Pool.step shardKey) pool ((pool.shard index).work index) = some final ∧
      (final.shard index).finished = (pool.shard index).accepted := by
  have hwork {middle : Pool shards Item}
      (hmiddle : ∀ index, Sound shardKey index (middle.shard index))
      (hidle : (middle.shard index).running = none) (hlive : (middle.shard index).alive = true) :
      ∃ final, Runs.run (Pool.step shardKey) middle
          (rounds index (middle.shard index).queue.length) = some final ∧
        (final.shard index).finished = (middle.shard index).accepted := by
    obtain ⟨final, hrun, hsame, hqueue, hdone⟩ := rounds_run shardKey rfl hidle hlive
    have hfinal := Runs.run_invariant (fun pool => ∀ index, Sound shardKey index (pool.shard index))
      (fun _ _ _ hsound hstep => step_sound hsound hstep) hmiddle hrun index
    have haccepted := hfinal.inOrder
    rw [hfinal.oneByOne, hqueue, hdone, hsame] at haccepted
    exact ⟨final, hrun, by simpa using haccepted.symm⟩
  unfold Shard.work
  cases hrunning : (pool.shard index).running with
  | none => exact hwork hsound hrunning halive
  | some item =>
    have hfinish : pool.step shardKey (.finish index) =
        some (pool.set index ((pool.shard index).complete item)) := by
      simp only [Pool.step, Shard.finish, halive, hrunning, map_some]
    obtain ⟨final, hrun, hfinal⟩ := hwork (step_sound hsound hfinish) (by rw [Pool.shard_set]; rfl)
      (by rw [Pool.shard_set]; exact halive)
    rw [Pool.shard_set] at hrun hfinal
    refine ⟨final, ?_, hfinal⟩
    simp only [isSome_some, if_true, List.singleton_append, Runs.run, hfinish, bind_some]
    exact hrun

/-! ## What a producer is told -/

variable (shardKey) in
/-- The message is the last one its shard has accepted if the answer is `true`, and on no shard
otherwise; without an answer it is still with the call. -/
structure Told (pool next : Pool shards Item) (item : Item) (answer : Option Bool) : Prop where
  accepted : ∀ index, (next.shard index).accepted = (pool.shard index).accepted ++
    if answer = some true ∧ owner shardKey item = index then [item] else []
  held : answer = none → item ∈ next.pending.map Prod.snd

variable (shardKey) in
theorem accepted_set (pool : Pool shards Item) (item : Item) (slots : ℕ) (saturated : Bool)
    (index : Fin shards) :
    ((pool.set (owner shardKey item)
      ((pool.shard (owner shardKey item)).put item slots saturated)).shard index).accepted =
      (pool.shard index).accepted ++ if owner shardKey item = index then [item] else [] := by
  by_cases howner : owner shardKey item = index
  · subst howner
    simp [Shard.put]
  · simp [Pool.set, howner, Ne.symm howner]

theorem trySend_told (pool : Pool shards Item) (item : Item) :
    Told shardKey pool (pool.trySend shardKey item).1 item
      (some ((pool.trySend shardKey item).2 = .sent)) := by
  refine ⟨fun index => ?_, nofun⟩
  unfold Pool.trySend
  dsimp only
  split
  · simp
  split
  · simpa using accepted_set shardKey pool item _ _ index
  · by_cases howner : owner shardKey item = index
    · subst howner
      simp
    · simp [Pool.set, Ne.symm howner]

theorem dispatch_told (pool : Pool shards Item) (item : Item) :
    Told shardKey pool (pool.dispatch shardKey item).1 item (pool.dispatch shardKey item).2 := by
  have htold : Told shardKey pool _ item _ := trySend_told pool item
  unfold Pool.dispatch
  split <;> rename_i hsent <;> rw [hsent] at htold
  · exact htold
  · exact ⟨by simpa using htold.accepted, by simp⟩
  · exact htold

theorem proceed_told (hproceed : pool.proceed shardKey position call = some (next, answer)) :
    Told shardKey pool next call.2 answer := by
  obtain ⟨stage, item⟩ := call
  have hput := accepted_set shardKey ⟨pool.shard, pool.pending.eraseIdx position⟩ item
  unfold Pool.proceed at hproceed
  dsimp only at hproceed
  split_ifs at hproceed <;> cases hproceed
  · exact ⟨by simp, nofun⟩
  · exact ⟨by simpa using hput _ _, nofun⟩
  · exact ⟨by simpa using hput _ _, nofun⟩
  · exact ⟨by simp, by simp⟩

variable (shardKey) in
structure Ordered (pool : Pool shards Item) : Prop where
  /-- The messages of a key are on one shard, which handles one message at a time, in the order
  in which their calls returned. -/
  sameShard : ∀ index, ∀ item ∈ (pool.shard index).accepted,
    index.val = shardIndex (shardKey item) shards
  inOrder : ∀ index, (pool.shard index).accepted =
    (pool.shard index).started ++ (pool.shard index).queue
  oneByOne : ∀ index, (pool.shard index).started =
    (pool.shard index).finished ++ (pool.shard index).running.toList
  /-- While its task is there, it goes on until it has handled everything. -/
  handled : ∀ index, (pool.shard index).alive = true →
    ∃ final, Runs.run (Pool.step shardKey) pool ((pool.shard index).work index) = some final ∧
      (final.shard index).finished = (pool.shard index).accepted
  /-- A message is accepted if and only if its producer is told so. -/
  toldAtOnce : ∀ item, Told shardKey pool (pool.tryDispatch shardKey item).1 item
    (some (pool.tryDispatch shardKey item).2)
  told : ∀ item, Told shardKey pool (pool.dispatch shardKey item).1 item
    (pool.dispatch shardKey item).2
  toldLater : ∀ position call next answer, pool.pending[position]? = some call →
    pool.proceed shardKey position call = some (next, answer) →
    Told shardKey pool next call.2 answer

/-- Over every interleaving of producers and tasks. -/
theorem run_ordered {depth : ℕ} {first : Pool shards Item} (hnew : new shards depth = some first)
    {events : List (Event shards Item)}
    (hrun : Runs.run (Pool.step shardKey) first events = some pool) : Ordered shardKey pool := by
  have hsound : ∀ index, Sound shardKey index (pool.shard index) := by
    unfold new at hnew
    split_ifs at hnew
    cases hnew
    exact Runs.run_invariant (fun pool => ∀ index, Sound shardKey index (pool.shard index))
      (fun _ _ _ hsound hstep => step_sound hsound hstep)
      (fun _ => ⟨by simp, rfl, rfl⟩) hrun
  refine ⟨fun index item hitem => ?_, fun index => (hsound index).inOrder,
    fun index => (hsound index).oneByOne, fun index halive => work_run hsound halive,
    trySend_told pool, dispatch_told pool,
    fun _ _ _ _ _ hproceed => proceed_told hproceed⟩
  rw [← (hsound index).own item hitem]
  rfl

end Pools

/-- Two producers share a shard with one slot; the second has to wait, a third is refused. -/
def crowdedShard : List (Event 1 String) := [
  .dispatch "a", .dispatch "b", .proceed 0, .tryDispatch "c", .receive 0, .proceed 0, .finish 0]

theorem run_ordered_crowdedShard : ∃ first pool, new 1 1 = some first ∧
    Runs.run (Pool.step id) first crowdedShard = some pool ∧
    (pool.shard 0).accepted = ["a", "b"] ∧ (pool.shard 0).finished = ["a"] ∧ Ordered id pool := by
  have hlogs : ((new 1 1).bind fun first => (Runs.run (Pool.step id) first crowdedShard).map
      fun pool => ((pool.shard 0).accepted, (pool.shard 0).finished)) =
        some (["a", "b"], ["a"]) := by decide +kernel
  obtain ⟨first, hnew, hmapped⟩ := bind_eq_some_iff.1 hlogs
  obtain ⟨pool, hrun, hsame⟩ := map_eq_some_iff.1 hmapped
  obtain ⟨haccepted, hfinished⟩ := Prod.mk.inj hsame
  exact ⟨first, pool, hnew, hrun, haccepted, hfinished, run_ordered hnew hrun⟩

/-- Whichever message a full shard refuses, its producer gets the same answer: the message
itself is gone. -/
theorem refusedMessage_gone : ∃ first pool, new 1 1 = some first ∧
    Runs.run (Pool.step id) first [.tryDispatch "a"] = some pool ∧
    ¬ ∃ handBack : Bool → String, ∀ item, (pool.tryDispatch id item).2 = false →
      handBack (pool.tryDispatch id item).2 = item := by
  have hanswers : ((new 1 1).bind fun first =>
      (Runs.run (Pool.step id) first [.tryDispatch "a"]).map fun pool =>
        ((pool.tryDispatch id "b").2, (pool.tryDispatch id "c").2)) = some (false, false) := by
    decide +kernel
  obtain ⟨first, hnew, hmapped⟩ := bind_eq_some_iff.1 hanswers
  obtain ⟨pool, hrun, hsame⟩ := map_eq_some_iff.1 hmapped
  obtain ⟨hb, hc⟩ := Prod.mk.inj hsame
  refine ⟨first, pool, hnew, hrun, ?_⟩
  rintro ⟨handBack, hback⟩
  have hfirst := hback "b" hb
  have hsecond := hback "c" hc
  rw [hb] at hfirst
  rw [hc, hfirst] at hsecond
  exact absurd hsecond (by decide)

end SieCluster.KeyedWorkerPool
