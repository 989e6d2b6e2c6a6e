import SieCluster.Core.Runs
import SieCluster.Core.Totals

/-!
# Lane admission

The gateway counts the items in flight on each lane.  Admitting a publish finds
or creates the lane's counter and then decides and reserves in one atomic
update; dropping the reservation gives its items back.  Other admissions and
drops may come between any two of these steps.  The update compares the depth
before the request with the ceiling, so the request that crosses the ceiling is
still let in.
-/

namespace SieCluster.LaneAdmission

open Runs Option AList
open Totals

structure LaneKey where
  pool : String
  machineProfile : String
  bundle : String
  deriving DecidableEq

inductive LaneAdmissionOutcome where
  | admitted
  | shedShadow
  | shedEnforced
  deriving DecidableEq

def LaneAdmissionOutcome.rejects : LaneAdmissionOutcome → Bool
  | .shedEnforced => true
  | _ => false

structure Setting where
  maxInFlightItems : ℕ
  enforce : Bool

/-- The greatest value of a counter. -/
def maxCount : ℕ := 2 ^ 64 - 1

def saturatingAdd (current items : ℕ) : ℕ :=
  min (current + items) maxCount

/-- `lane` says for whom the reservation was made; the code keeps only the counter. -/
structure LaneReservation where
  lane : LaneKey
  counter : ℕ
  items : ℕ
  deriving DecidableEq

/-- An admission between its atomic steps. -/
inductive Admission where
  /-- The map had no counter for the lane when it was looked up. -/
  | missing (lane : LaneKey) (items : ℕ)
  | ready (lane : LaneKey) (counter items : ℕ)

structure Decision where
  lane : LaneKey
  items : ℕ
  inFlight : ℕ
  outcome : LaneAdmissionOutcome
  deriving DecidableEq

/-- A counter is named by its place in `counters`. -/
structure Control where
  lanes : Table LaneKey ℕ
  counters : List ℕ
  admissions : Table ℕ Admission
  reservations : Table ℕ LaneReservation
  decisions : List Decision

inductive Event where
  /-- `admit` is called and looks up the lane. -/
  | lookUp (task : ℕ) (lane : LaneKey) (items : ℕ)
  /-- The lane's entry is taken, or made if it is still missing. -/
  | findOrInsert (task : ℕ)
  /-- The atomic update of the counter. -/
  | update (task reservation : ℕ)
  | dropReservation (reservation : ℕ)

section Steps

section

variable (control : Control)

def Control.value (counter : ℕ) : ℕ :=
  control.counters[counter]?.getD 0

def Control.lookUp (task : ℕ) (lane : LaneKey) (items : ℕ) : Control :=
  { control with
    admissions := control.admissions.insert task (match control.lanes.lookup lane with
        | some counter => .ready lane counter items
        | none => .missing lane items) }

def Control.findOrInsert (task : ℕ) (lane : LaneKey) (items : ℕ) : Control :=
  match control.lanes.lookup lane with
  | some counter =>
    { control with admissions := control.admissions.insert task (.ready lane counter items) }
  | none =>
    { control with
      lanes := control.lanes.insert lane control.counters.length
      counters := control.counters ++ [0]
      admissions :=
        control.admissions.insert task (.ready lane control.counters.length items) }

def outcomeOf (setting : Setting) (inFlight : ℕ) : LaneAdmissionOutcome :=
  if inFlight > setting.maxInFlightItems then
    if setting.enforce then .shedEnforced else .shedShadow
  else .admitted

def Control.update (setting : Setting) (control : Control) (task reservation : ℕ)
    (lane : LaneKey) (counter items : ℕ) : Control :=
  let inFlight := control.value counter
  let decided :=
    { control with
      admissions := control.admissions.erase task
      decisions := control.decisions ++ [⟨lane, items, inFlight, outcomeOf setting inFlight⟩] }
  if inFlight > setting.maxInFlightItems && setting.enforce then decided
  else
    { decided with
      counters := control.counters.set counter (saturatingAdd inFlight items)
      reservations := control.reservations.insert reservation ⟨lane, counter, items⟩ }

/-- The subtraction of ℕ saturates, as the code's does. -/
def Control.release (id : ℕ) (reservation : LaneReservation) : Control :=
  { control with
    counters := control.counters.set reservation.counter
      (control.value reservation.counter - reservation.items)
    reservations := control.reservations.erase id }

end

def step (setting : Setting) (control : Control) : Event → Option Control
  | .lookUp task lane items =>
    match control.admissions.lookup task with
    | some _ => none
    | none => some (control.lookUp task lane items)
  | .findOrInsert task =>
    match control.admissions.lookup task with
    | some (.missing lane items) => some (control.findOrInsert task lane items)
    | _ => none
  | .update task reservation =>
    match control.admissions.lookup task, control.reservations.lookup reservation with
    | some (.ready lane counter items), none =>
      some (control.update setting task reservation lane counter items)
    | _, _ => none
  | .dropReservation id => (control.reservations.lookup id).map (control.release id)

def fresh : Control := ⟨∅, [], ∅, ∅, []⟩

end Steps

section Accounts

section

variable (control : Control)

/-- What the lane's counter shows. -/
def Control.inFlight (lane : LaneKey) : ℕ :=
  ((control.lanes.lookup lane).map control.value).getD 0

def itemsOn (lane : LaneKey) (reservation : LaneReservation) : ℕ :=
  if reservation.lane = lane then reservation.items else 0

/-- The items of the lane's live reservations. -/
def Control.reserved (lane : LaneKey) : ℕ :=
  total (itemsOn lane) control.reservations

/-- The lane an event works on. -/
def Control.laneOf : Event → Option LaneKey
  | .lookUp _ lane _ => some lane
  | .findOrInsert task | .update task _ =>
    match control.admissions.lookup task with
    | some (.missing lane _) | some (.ready lane _ _) => some lane
    | none => none
  | .dropReservation id => (control.reservations.lookup id).map LaneReservation.lane

/-- The lane and the items of an admission that is about to decide. -/
def Control.request (task : ℕ) : Option (LaneKey × ℕ) :=
  match control.admissions.lookup task with
  | some (.ready lane _ items) => some (lane, items)
  | _ => none

/-- The items that the event may reserve fit in the counter beside the reserved ones. -/
def Fits : Event → Prop
  | .update task _ =>
    ((control.request task).all fun request =>
      control.reserved request.1 + request.2 ≤ maxCount) = true
  | _ => True

end

instance (control : Control) (event : Event) : Decidable (Fits control event) :=
  match event with
  | .lookUp _ _ _ => inferInstanceAs (Decidable True)
  | .findOrInsert _ => inferInstanceAs (Decidable True)
  | .update _ _ => inferInstanceAs (Decidable (_ = _))
  | .dropReservation _ => inferInstanceAs (Decidable True)

end Accounts

/-! ## Counters and reservations -/

/-- Every lane has a counter of its own, which shows what is reserved on the lane. -/
structure Sound (control : Control) : Prop where
  distinct : ∀ lane other counter, control.lanes.lookup lane = some counter →
    control.lanes.lookup other = some counter → lane = other
  ready : ∀ task lane counter items,
    control.admissions.lookup task = some (.ready lane counter items) →
      control.lanes.lookup lane = some counter
  reserved : ∀ id reservation, control.reservations.lookup id = some reservation →
    control.lanes.lookup reservation.lane = some reservation.counter
  counted : ∀ lane counter, control.lanes.lookup lane = some counter →
    control.counters[counter]? = some (control.reserved lane)

variable {control : Control}

section

variable (hsound : Sound control)
include hsound

theorem Sound.value_eq (hlane : control.lanes.lookup lane = some counter) :
    control.value counter = control.reserved lane := by
  rw [Control.value, hsound.counted lane counter hlane]
  rfl

theorem Sound.inFlight_eq (lane : LaneKey) : control.inFlight lane = control.reserved lane := by
  unfold Control.inFlight
  cases hlane : control.lanes.lookup lane with
  | some => exact hsound.value_eq hlane
  | none =>
    symm
    apply total_eq_zero
    intro id reservation hreservation
    have hother := hsound.reserved id reservation hreservation
    rw [itemsOn, if_neg]
    rintro rfl
    rw [hlane] at hother
    cases hother

/-- A reserved amount is still in the lane's counter. -/
theorem Sound.items_le {id : ℕ} {reservation : LaneReservation}
    (hreservation : control.reservations.lookup id = some reservation) :
    reservation.items ≤ control.value reservation.counter := by
  rw [hsound.value_eq (hsound.reserved id reservation hreservation)]
  have hle := weight_le_total (itemsOn reservation.lane) hreservation
  rwa [itemsOn, if_pos rfl] at hle

theorem Sound.of_admissions (hready : ∀ task lane counter items,
      admissions.lookup task = some (.ready lane counter items) →
        control.lanes.lookup lane = some counter) :
    Sound { control with admissions := admissions, decisions := decisions } :=
  ⟨hsound.distinct, hready, hsound.reserved, hsound.counted⟩

/-- An admission that has found its lane's counter. -/
theorem Sound.ready_insert (hnew : ∀ lane counter items, admission = .ready lane counter items →
      control.lanes.lookup lane = some counter) :
    ∀ other lane counter items,
      (control.admissions.insert task admission).lookup other = some (.ready lane counter items) →
        control.lanes.lookup lane = some counter := by
  have hold : ∀ key found, control.admissions.lookup key = some found →
      ∀ lane counter items, found = .ready lane counter items →
        control.lanes.lookup lane = some counter := by
    rintro key found hfound lane counter items rfl
    exact hsound.ready key lane counter items hfound
  intro other lane counter items hlookup
  exact forall_insert hold hnew other _ hlookup lane counter items rfl

theorem lookUp_sound (task : ℕ) (lane : LaneKey) (items : ℕ) :
    Sound (control.lookUp task lane items) := by
  unfold Control.lookUp
  refine hsound.of_admissions (hsound.ready_insert ?_)
  intro found counter amount hready
  split at hready
  · rename_i hlane
    cases hready
    exact hlane
  · cases hready

theorem Sound.counter_lt (hlane : control.lanes.lookup lane = some counter) :
    counter < control.counters.length :=
  (List.getElem?_eq_some_iff.1 (hsound.counted lane counter hlane)).1

end

/-- The lanes with one more, whose counter is the next one. -/
theorem lookup_lanes_insert
    (hlookup : (control.lanes.insert lane control.counters.length).lookup other = some counter) :
    other = lane ∧ counter = control.counters.length ∨
      other ≠ lane ∧ control.lanes.lookup other = some counter := by
  by_cases hsame : other = lane
  · subst hsame
    rw [lookup_insert] at hlookup
    exact .inl ⟨rfl, (some.inj hlookup).symm⟩
  · rw [lookup_insert_ne hsame] at hlookup
    exact .inr ⟨hsame, hlookup⟩

section

variable (hsound : Sound control)
include hsound

theorem newLane_sound (hmissing : control.lanes.lookup lane = none) : Sound { control with
      lanes := control.lanes.insert lane control.counters.length
      counters := control.counters ++ [0] } := by
  have hkept : ∀ other counter, control.lanes.lookup other = some counter →
      (control.lanes.insert lane control.counters.length).lookup other = some counter := by
    intro other counter hother
    rw [lookup_insert_ne, hother]
    rintro rfl
    rw [hmissing] at hother
    cases hother
  refine ⟨?_, ?_, ?_, ?_⟩
  · intro first second counter hfirst hsecond
    rcases lookup_lanes_insert hfirst with ⟨rfl, rfl⟩ | ⟨-, hfirst⟩
    · rcases lookup_lanes_insert hsecond with ⟨rfl, -⟩ | ⟨-, hsecond⟩
      · rfl
      · exact absurd (hsound.counter_lt hsecond) (lt_irrefl _)
    · rcases lookup_lanes_insert hsecond with ⟨-, rfl⟩ | ⟨-, hsecond⟩
      · exact absurd (hsound.counter_lt hfirst) (lt_irrefl _)
      · exact hsound.distinct first second counter hfirst hsecond
  · intro task other counter items hready
    exact hkept other counter (hsound.ready task other counter items hready)
  · intro id reservation hreservation
    exact hkept _ _ (hsound.reserved id reservation hreservation)
  · intro other counter hother
    rcases lookup_lanes_insert hother with ⟨rfl, rfl⟩ | ⟨-, hother⟩
    · have hnothing : control.reserved other = 0 := by
        rw [← hsound.inFlight_eq, Control.inFlight, hmissing]
        rfl
      rw [List.getElem?_concat_length]
      exact congrArg some hnothing.symm
    · rw [List.getElem?_append_left (hsound.counter_lt hother)]
      exact hsound.counted other counter hother

theorem findOrInsert_sound (task : ℕ) (lane : LaneKey) (items : ℕ) :
    Sound (control.findOrInsert task lane items) := by
  unfold Control.findOrInsert
  split
  · rename_i counter hlane
    refine hsound.of_admissions (hsound.ready_insert ?_)
    intro found other amount hready
    cases hready
    exact hlane
  · rename_i hmissing
    have hnew := newLane_sound hsound hmissing
    refine hnew.of_admissions (hnew.ready_insert ?_)
    intro found counter amount hready
    cases hready
    exact lookup_insert _

/-- One counter moves, and with it what is reserved on its lane. -/
theorem Sound.move (hlane : control.lanes.lookup lane = some counter)
    (hreservations : ∀ id reservation, reservations.lookup id = some reservation →
      control.lanes.lookup reservation.lane = some reservation.counter)
    (hvalue : value = total (itemsOn lane) reservations) (hothers : ∀ other, other ≠ lane →
      total (itemsOn other) reservations = control.reserved other) :
    Sound { control with
      counters := control.counters.set counter value
      reservations := reservations } := by
  refine ⟨hsound.distinct, hsound.ready, hreservations, ?_⟩
  intro other place hother
  by_cases hsame : other = lane
  · subst hsame
    obtain rfl : counter = place := some.inj (hlane.symm.trans hother)
    rw [List.getElem?_set_self (hsound.counter_lt hother), hvalue]
    rfl
  · have hplace : counter ≠ place := by
      rintro rfl
      exact hsame (hsound.distinct other lane counter hother hlane)
    rw [List.getElem?_set_ne hplace, hsound.counted other place hother]
    exact congrArg some (hothers other hsame).symm

theorem reserve_sound (hlane : control.lanes.lookup lane = some counter)
    (hnew : control.reservations.lookup reservation = none)
    (hfits : control.reserved lane + items ≤ maxCount) :
    Sound { control with
      counters := control.counters.set counter (saturatingAdd (control.value counter) items)
      reservations := control.reservations.insert reservation ⟨lane, counter, items⟩ } := by
  refine hsound.move hlane ?_ ?_ ?_
  · exact forall_insert hsound.reserved hlane
  · rw [total_insert_new _ hnew, hsound.value_eq hlane, saturatingAdd, Nat.min_eq_left hfits,
      itemsOn, if_pos rfl, add_comm]
    rfl
  · intro other hother
    rw [total_insert_new _ hnew, itemsOn, if_neg (Ne.symm hother), zero_add]
    rfl

theorem release_sound {id : ℕ} {reservation : LaneReservation}
    (hreservation : control.reservations.lookup id = some reservation) :
    Sound (control.release id reservation) := by
  have hlane := hsound.reserved id reservation hreservation
  have herase := fun lane => total_erase (itemsOn lane) hreservation
  refine hsound.move hlane ?_ ?_ ?_
  · exact forall_erase hsound.reserved id
  · have hown := herase reservation.lane
    rw [itemsOn, if_pos rfl] at hown
    rw [hsound.value_eq hlane, Control.reserved]
    omega
  · intro other hother
    have hnone := herase other
    rw [itemsOn, if_neg (Ne.symm hother)] at hnone
    exact hnone

end

/-! ## Steps -/

theorem step_update_eq_some (hstep : step setting control (.update task reservation) = some next) :
    ∃ lane counter items, control.admissions.lookup task = some (.ready lane counter items) ∧
      control.reservations.lookup reservation = none ∧
      next = control.update setting task reservation lane counter items := by
  simp only [step] at hstep
  split at hstep
  · rename_i lane counter items hadmission hnew
    exact ⟨lane, counter, items, hadmission, hnew, (some.inj hstep).symm⟩
  · cases hstep

theorem step_findOrInsert_eq_some (hstep : step setting control (.findOrInsert task) = some next) :
    ∃ lane items, control.admissions.lookup task = some (.missing lane items) ∧
      next = control.findOrInsert task lane items := by
  simp only [step] at hstep
  split at hstep
  · rename_i lane items hadmission
    exact ⟨lane, items, hadmission, (some.inj hstep).symm⟩
  · cases hstep

theorem step_lookUp_eq_some (hstep : step setting control (.lookUp task lane items) = some next) :
    next = control.lookUp task lane items := by
  simp only [step] at hstep
  split at hstep
  · cases hstep
  · exact (some.inj hstep).symm

theorem update_sound (hsound : Sound control)
    (hadmission : control.admissions.lookup task = some (.ready lane counter items))
    (hnew : control.reservations.lookup reservation = none)
    (hfits : Fits control (.update task reservation)) :
    Sound (control.update setting task reservation lane counter items) := by
  have hready : ∀ other lane counter items,
      (control.admissions.erase task).lookup other = some (.ready lane counter items) →
        control.lanes.lookup lane = some counter := by
    intro other lane counter items hlookup
    exact hsound.ready other lane counter items (lookup_erase_iff.1 hlookup).2
  have hlane := hsound.ready task lane counter items hadmission
  simp only [Fits, Control.request, hadmission, all_some, decide_eq_true_eq] at hfits
  unfold Control.update
  dsimp only
  split
  · exact hsound.of_admissions hready
  · exact (reserve_sound hsound hlane hnew hfits).of_admissions hready

theorem step_sound {event : Event} (hsound : Sound control) (hfits : Fits control event)
    (hstep : step setting control event = some next) : Sound next := by
  cases event with
  | lookUp task lane items =>
    rw [step_lookUp_eq_some hstep]
    exact lookUp_sound hsound task lane items
  | findOrInsert task =>
    obtain ⟨lane, items, -, rfl⟩ := step_findOrInsert_eq_some hstep
    exact findOrInsert_sound hsound task lane items
  | update =>
    obtain ⟨lane, counter, items, hadmission, hnew, rfl⟩ := step_update_eq_some hstep
    exact update_sound hsound hadmission hnew hfits
  | dropReservation =>
    obtain ⟨reservation, hreservation, rfl⟩ := map_eq_some_iff.1 hstep
    exact release_sound hsound hreservation

/-- Setting one lane's counter is not seen on another lane. -/
theorem Sound.inFlight_set (hsound : Sound control)
    (hlane : control.lanes.lookup lane = some counter) (hother : other ≠ lane) :
    Control.inFlight ⟨control.lanes, control.counters.set counter value, admissions,
      reservations, decisions⟩ other = control.inFlight other := by
  unfold Control.inFlight
  dsimp only
  cases hfound : control.lanes.lookup other with
  | none => rfl
  | some place =>
    have hplace : counter ≠ place := by
      rintro rfl
      exact hother (hsound.distinct other lane counter hfound hlane)
    simp [Control.value, List.getElem?_set_ne hplace]

theorem step_inFlight_frame (hsound : Sound control)
    (hstep : step setting control event = some next) (hother : control.laneOf event ≠ some lane) :
    next.inFlight lane = control.inFlight lane := by
  cases event with
  | lookUp =>
    rw [step_lookUp_eq_some hstep]
    rfl
  | findOrInsert =>
    obtain ⟨found, items, hadmission, rfl⟩ := step_findOrInsert_eq_some hstep
    simp only [Control.laneOf, hadmission, ne_eq, some.injEq] at hother
    unfold Control.findOrInsert
    split
    · rfl
    · unfold Control.inFlight
      dsimp only
      rw [lookup_insert_ne (Ne.symm hother)]
      cases hlane : control.lanes.lookup lane with
      | none => rfl
      | some =>
        simp [Control.value, List.getElem?_append_left (hsound.counter_lt hlane)]
  | update task =>
    obtain ⟨found, counter, items, hadmission, -, rfl⟩ := step_update_eq_some hstep
    have hfound := hsound.ready task found counter items hadmission
    simp only [Control.laneOf, hadmission, ne_eq, some.injEq] at hother
    unfold Control.update
    dsimp only
    split
    · rfl
    · exact hsound.inFlight_set hfound (Ne.symm hother)
  | dropReservation id =>
    obtain ⟨reservation, hreservation, rfl⟩ := map_eq_some_iff.1 hstep
    have hfound := hsound.reserved id reservation hreservation
    rw [Control.laneOf, hreservation, map_some, ne_eq, some.injEq] at hother
    exact hsound.inFlight_set hfound (Ne.symm hother)

theorem rejects_outcomeOf (inFlight : ℕ) : (outcomeOf setting inFlight).rejects = true ↔
      setting.enforce = true ∧ setting.maxInFlightItems < inFlight := by
  unfold outcomeOf
  split_ifs with hover henforce
  · exact iff_of_true rfl ⟨henforce, hover⟩
  · exact iff_of_false Bool.false_ne_true fun hboth => henforce hboth.1
  · exact iff_of_false Bool.false_ne_true fun hboth => hover hboth.2

/-! ## Whole runs -/

/-- What holds between any two atomic steps, and of the decision taken in one. -/
structure WellAdmitted (setting : Setting) (control : Control) : Prop where
  counted : ∀ lane, control.inFlight lane = control.reserved lane
  covered : ∀ id reservation, control.reservations.lookup id = some reservation →
    reservation.items ≤ control.inFlight reservation.lane
  decided : ∀ task reservation next lane items, control.request task = some (lane, items) →
    step setting control (.update task reservation) = some next → ∃ outcome,
        next.decisions = control.decisions ++ [⟨lane, items, control.inFlight lane, outcome⟩] ∧
        (outcome.rejects = true ↔
          setting.enforce = true ∧ setting.maxInFlightItems < control.inFlight lane) ∧
        (outcome.rejects = true → ∀ other, next.inFlight other = control.inFlight other) ∧
        (outcome.rejects = false → (next.reservations.lookup reservation).any fun made =>
          made.lane = lane && made.items = items)
  separate : ∀ event next lane, step setting control event = some next →
    control.laneOf event ≠ some lane → next.inFlight lane = control.inFlight lane

theorem Sound.wellAdmitted (hsound : Sound control) : WellAdmitted setting control := by
  refine ⟨hsound.inFlight_eq, ?_, ?_, ?_⟩
  · intro id reservation hreservation
    have hlane := hsound.reserved id reservation hreservation
    rw [Control.inFlight, hlane]
    exact hsound.items_le hreservation
  · intro task reservation next lane items hrequest hstep
    obtain ⟨found, counter, amount, hadmission, -, rfl⟩ := step_update_eq_some hstep
    simp only [Control.request, hadmission, some.injEq, Prod.mk.injEq] at hrequest
    obtain ⟨rfl, rfl⟩ := hrequest
    have hvalue : control.value counter = control.inFlight found := by
      rw [Control.inFlight, hsound.ready task found counter amount hadmission]
      rfl
    refine ⟨outcomeOf setting (control.inFlight found), ?_, rejects_outcomeOf _, ?_, ?_⟩
    · unfold Control.update
      rw [hvalue]
      dsimp only
      split <;> rfl
    · intro hrejects other
      obtain ⟨henforce, hover⟩ := rejects_outcomeOf _ |>.1 hrejects
      unfold Control.update
      rw [hvalue]
      dsimp only
      rw [if_pos (by simp [henforce, hover])]
      rfl
    · intro hadmits
      have hstays : ¬ (setting.enforce = true ∧
          setting.maxInFlightItems < control.inFlight found) := by
        rw [← rejects_outcomeOf, hadmits]
        exact Bool.false_ne_true
      unfold Control.update
      rw [hvalue]
      dsimp only
      rw [if_neg (by simpa [and_comm] using hstays)]
      simp
  · intro event next lane hstep hother
    exact step_inFlight_frame hsound hstep hother

/-- In every interleaving in which the reserved items of a lane fit in its counter. -/
theorem run_wellAdmitted (setting : Setting) (events : List Event) (control : Control)
    (hguarded : Guarded (step setting) Fits fresh events)
    (hrun : run (step setting) fresh events = some control) :
    WellAdmitted setting control := by
  have hstart : Sound fresh := by
    refine ⟨?_, ?_, ?_, ?_⟩ <;> simp [fresh]
  exact (guarded_invariant Sound (fun _ _ _ => step_sound) hstart hguarded hrun).wellAdmitted

def enforced : Setting := ⟨10, true⟩

def hotLane : LaneKey := ⟨"shared", "h100", "default"⟩

def coldLane : LaneKey := ⟨"shared", "a10g", "default"⟩

/-- Two admissions create the hot lane together, a third one finds it over the ceiling, and
the cold lane is not affected. -/
def crowdedLane : List Event :=
  [.lookUp 0 hotLane 11, .lookUp 1 hotLane 3, .findOrInsert 1, .findOrInsert 0, .update 0 0,
    .update 1 1, .lookUp 2 coldLane 1, .findOrInsert 2, .update 2 2, .dropReservation 0]

theorem run_wellAdmitted_crowdedLane :
    ∃ control, run (step enforced) fresh crowdedLane = some control ∧ control.decisions =
        [⟨hotLane, 11, 0, .admitted⟩, ⟨hotLane, 3, 11, .shedEnforced⟩,
          ⟨coldLane, 1, 0, .admitted⟩] ∧
      WellAdmitted enforced control := by
  have hguarded : Guarded (step enforced) Fits fresh crowdedLane := by decide +kernel
  refine ⟨_, (some_get ?_).symm, ?_,
    run_wellAdmitted enforced crowdedLane _ hguarded (some_get _).symm⟩
  · decide +kernel
  · decide +kernel

/-- A request over the ceiling is let in on an idle lane. -/
def largeRequest : List Event :=
  [.lookUp 0 hotLane 11, .findOrInsert 0, .update 0 0]

/-- A request that does not fit in the counter is given back after it was cut off. -/
def overflowingRequest : List Event :=
  [.lookUp 0 hotLane 10, .findOrInsert 0, .update 0 0, .lookUp 1 hotLane maxCount, .update 1 1,
    .dropReservation 1]

theorem largeRequest_admitted : ((run (step enforced) fresh largeRequest).any fun control =>
      control.decisions = [⟨hotLane, 11, 0, .admitted⟩] &&
        decide (enforced.maxInFlightItems < 0 + 11)) = true ∧
    ((run (step enforced) fresh overflowingRequest).any fun control =>
      control.inFlight hotLane = 0 && decide (control.reserved hotLane = 10)) = true := by
  decide +kernel

end SieCluster.LaneAdmission
