import Eggvault.Spec.MoveCorrect

/-!
# The rounds of a move

The loop of `moveMotor` as a sequence of rounds, and what one round does to the variables of
the door, to the motor lines and to the record of errors.  Every result about a whole loop is
an induction over its rounds that only looks at `Turn`.

## Key results

- `moveIteration_turn`: a round, from the readings that it makes
- `moveLoop_rounds`: a loop that is left is a sequence of rounds
-/

namespace Eggvault.Spec

open Eggvault.Native Prog Trace

/-! ## Readings and records -/

/-- The end switches, upper one first, as a round that begins in `w` reads them; `moveMotor`
    itself begins in the same way. -/
def reading (ω : Env) (w : World) : Bool × Bool := ((ω w.tick).endUp, (ω (w.tick + 1)).endLow)

/-- The levels of M_FWD and M_BACK. -/
def lines (w : World) : Bool × Bool := (w.pins.fwd, w.pins.back)

/-- The levels after each write to a motor line, newest first. -/
def motorWrites (tr : List Event) : List (Bool × Bool) :=
  tr.filterMap fun
    | .motorWrite fwd back => some (fwd, back)
    | _ => none

/-- The error codes that have been assigned, newest first. -/
def raises (tr : List Event) : List ErrorCode :=
  tr.filterMap fun
    | .raised error => some error
    | _ => none

section Records

variable {w : World}

theorem motorWrites_observe (s : Sample) : motorWrites (w.observe s).trace = motorWrites w.trace :=
  observe_keeps (P := fun tr => motorWrites tr = motorWrites w.trace) (fun _ h => h) rfl

theorem raises_observe (s : Sample) : raises (w.observe s).trace = raises w.trace :=
  observe_keeps (P := fun tr => raises tr = raises w.trace) (fun _ h => h) rfl

end Records

/-! ## One round -/

/-- The direction in which a standing motor is started. -/
def towards (pos : Klappenposition) : Klappenrichtung :=
  if pos = .posDown then .movingDown else .movingUp

/-- The levels with which a standing motor is started. -/
def drive (pos : Klappenposition) : Bool × Bool :=
  if pos = .posDown then (false, true) else (true, false)

/-- A blocked door starts its timer once. -/
def blockedAt (ω : Env) (t : Nat) (d : Door) : Door :=
  if d.doorPosition = .posBlocked then d
  else { d with doorPosition := .posBlocked, blockZero := (ω t).millis }

/-- A door that runs on at the bottom is down once the run-on time is over. -/
def finished (ω : Env) (t : Nat) (d : Door) : Door :=
  if (ω t).millis - d.downwardsTimer > tDownFinish * 1000 then { d with doorPosition := .posDown }
  else d

/-- The door after the sensor branch for a reading of the end switches; `t` is the next reading
    of an input. -/
def sensedDoor (ω : Env) (pos : Klappenposition) (t : Nat) : Bool × Bool → Door → Door
  | (false, false), d =>
    match d.doorDirection with
    | .movingDown => { d with downwardsTimer := (ω t).millis, doorDirection := .finishingDown }
    | .finishingDown => finished ω t d
    | .movingUp => { d with doorPosition := .posDown }
    | .standing => { d with
        doorPosition := .posDown, doorDirection := .movingUp, moveZero := (ω t).millis }
  | (false, true), d =>
    match d.doorDirection with
    | .standing =>
      blockedAt ω (t + 1) { d with moveZero := (ω t).millis, doorDirection := towards pos }
    | .finishingDown => { blockedAt ω t d with doorDirection := .movingDown }
    | _ => blockedAt ω t d
  | (true, true), d =>
    match d.doorDirection with
    | .movingDown | .finishingDown => { d with doorPosition := .posUp, doorDirection := .movingDown }
    | _ => { d with doorPosition := .posUp, doorDirection := .movingDown, moveZero := (ω t).millis }
  | (true, false), d =>
    match d.doorDirection with
    | .standing => { d with
        doorPosition := .posDriving, doorDirection := towards pos, moveZero := (ω t).millis }
    | .movingUp => { d with doorPosition := .posDriving }
    | _ => { d with doorPosition := .posDriving, doorDirection := .movingDown }

/-- The readings of the clock that the sensor branch makes. -/
def sensedReads (r : Bool × Bool) (d : Door) : Nat :=
  match r, d.doorDirection with
  | (false, false), .movingUp => 0
  | (false, false), _ => 1
  | (false, true), .standing => if d.doorPosition = .posBlocked then 1 else 2
  | (false, true), _ => if d.doorPosition = .posBlocked then 0 else 1
  | (true, true), .movingDown | (true, true), .finishingDown => 0
  | (true, true), _ => 1
  | (true, false), .standing => 1
  | (true, false), _ => 0

/-- What the sensor branch writes to M_FWD and then to M_BACK, if anything. -/
def command (pos : Klappenposition) (r : Bool × Bool) (dir : Klappenrichtung) :
    Option (Bool × Bool) :=
  match r, dir with
  | (false, false), .movingDown | (false, false), .finishingDown => none
  | (false, false), _ => some (true, false)
  | (true, true), _ => some (false, true)
  | _, .standing => some (drive pos)
  | _, _ => none

/-- The sensor branch for the reading `r`, from `w` to `w'`. -/
structure Sensed (ω : Env) (pos : Klappenposition) (r : Bool × Bool) (w w' : World) : Prop where
  door : w'.door = sensedDoor ω pos w.tick r w.door
  tick : w'.tick = w.tick + sensedReads r w.door
  lines : lines w' = (command pos r w.door.doorDirection).getD (lines w)
  writes : motorWrites w'.trace =
    match command pos r w.door.doorDirection with
    | none => motorWrites w.trace
    | some (fwd, back) => (fwd, back) :: (fwd, w.pins.back) :: motorWrites w.trace
  raises : raises w'.trace = raises w.trace

section Sensors

variable {ω : Env} {w : World}

/-- A write is recorded with both levels. -/
theorem motorWrites_cons (fwd back : Bool) (tr : List Event) :
    motorWrites (.motorWrite fwd back :: tr) = (fwd, back) :: motorWrites tr := rfl

theorem raises_write (fwd back : Bool) (tr : List Event) :
    raises (.motorWrite fwd back :: tr) = raises tr := rfl

theorem atBottom_sensed (pos : Klappenposition) :
    wp atBottom (returns (Sensed ω pos (false, false) w)) ω w := by
  have hfinish : finished ω w.tick w.door =
      if (ω w.tick).millis - w.door.downwardsTimer > tDownFinish * 1000 then
        { w.door with doorPosition := .posDown } else w.door := rfl
  by_cases hlate : (ω w.tick).millis - w.door.downwardsTimer > tDownFinish * 1000
  all_goals
    simp only [hlate, if_true, if_false] at hfinish
    cases hd : w.door.doorDirection <;>
      simp only [atBottom, wp_bind, wp_get, wp_ite, wp_millis, wp_modifyDoor, wp_when,
        wp_digitalWrite_mFwd, wp_digitalWrite_mBack, returns, hd, hlate, reduceCtorEq, ne_eq,
        not_true_eq_false, not_false_eq_true, forall_const, IsEmpty.forall_iff, and_true,
        true_and] <;>
      constructor <;>
      simp [sensedDoor, sensedReads, command, hd, hfinish, observe_door, observe_tick, lines,
        motorWrites_observe, motorWrites_cons, raises_observe, raises_write]

theorem atBlocked_sensed (pos : Klappenposition) :
    wp (atBlocked pos) (returns (Sensed ω pos (false, true) w)) ω w := by
  by_cases hpos : pos = .posDown <;> by_cases hb : w.door.doorPosition = .posBlocked <;>
    cases hd : w.door.doorDirection <;>
    simp [atBlocked, startDrive, returns, hd, hb, hpos, observe_door] <;> constructor <;>
    simp [sensedDoor, sensedReads, command, drive, towards, blockedAt, hd, hb, hpos,
      observe_tick, lines, motorWrites_observe, motorWrites_cons, raises_observe, raises_write]

theorem atTop_sensed (pos : Klappenposition) :
    wp atTop (returns (Sensed ω pos (true, true) w)) ω w := by
  cases hd : w.door.doorDirection <;>
    simp [atTop, returns, hd, observe_door] <;> constructor <;>
    simp [sensedDoor, sensedReads, command, hd, observe_tick, lines,
      motorWrites_observe, motorWrites_cons, raises_observe, raises_write]

theorem atDriving_sensed (pos : Klappenposition) :
    wp (atDriving pos) (returns (Sensed ω pos (true, false) w)) ω w := by
  by_cases hpos : pos = .posDown <;> cases hd : w.door.doorDirection <;>
    simp [atDriving, startDrive, returns, hd, hpos, observe_door] <;> constructor <;>
    simp [sensedDoor, sensedReads, command, drive, towards, hd, hpos, observe_tick,
      lines, motorWrites_observe, motorWrites_cons, raises_observe, raises_write]

theorem sensorBranch_sensed (pos : Klappenposition) (up low : Bool) :
    wp (sensorBranch pos up low) (returns (Sensed ω pos (up, low) w)) ω w := by
  cases up <;> cases low
  · exact atBottom_sensed pos
  · exact atBlocked_sensed pos
  · exact atDriving_sensed pos
  · exact atTop_sensed pos

end Sensors

/-! ## Time limits -/

/-- The time limit that the timer checks find exceeded; `t` is the next reading of the clock.
    The limits of the two directions are compared with one constant. -/
def limitOf (ω : Env) (t : Nat) (d : Door) : Option ErrorCode :=
  if d.doorPosition = .posBlocked ∧ (ω t).millis - d.blockZero > tErrBlock * 1000 then
    some .timerBlockedElapsed
  else
    -- a blocked door has read the clock once already
    let now := (ω (if d.doorPosition = .posBlocked then t + 1 else t)).millis
    if d.doorDirection = .movingDown ∧ now - d.moveZero > tErrClose * 1000 then
      some .timerCloseElapsed
    else if d.doorDirection = .movingUp ∧ now - d.moveZero > tErrClose * 1000 then
      some .timerOpenElapsed
    else none

/-- The readings of the clock that the timer checks make at least. -/
def checkReads (d : Door) : Nat :=
  if d.doorPosition = .posBlocked then 1
  else if d.doorDirection = .movingDown ∨ d.doorDirection = .movingUp then 1
  else 0

/-- The door after an exceeded limit. -/
def limited (d : Door) : Option ErrorCode → Door
  | none => d
  | some error => { d with doorPosition := .posBlocked, errorFlag := error }

/-- The timer checks, from `w` to `w'`. -/
structure Checked (ω : Env) (w : World) (expired : Bool) (w' : World) : Prop where
  door : w'.door = limited w.door (limitOf ω w.tick w.door)
  expired : expired = (limitOf ω w.tick w.door).isSome
  tick : w.tick + checkReads w.door ≤ w'.tick
  lines : lines w' = lines w
  writes : motorWrites w'.trace = motorWrites w.trace
  raises : raises w'.trace = (limitOf ω w.tick w.door).toList ++ raises w.trace

section Limits

variable {ω : Env} {w : World}

theorem raises_cons (error : ErrorCode) (tr : List Event) :
    raises (.raised error :: tr) = error :: raises tr := rfl

theorem motorWrites_raised (error : ErrorCode) (tr : List Event) :
    motorWrites (.raised error :: tr) = motorWrites tr := rfl

theorem timerChecks_checked :
    wp timerChecks ⟨Checked ω w, fun _ => False, fun _ => False⟩ ω w := by
  by_cases hp : w.door.doorPosition = .posBlocked
  · by_cases hb : tErrBlock * 1000 < (ω w.tick).millis - w.door.blockZero
    · simp only [timerChecks, limitExceeded, wp_bind, wp_get, wp_ite, wp_millis, wp_pure,
        wp_digitalWrite_led, wp_emit, wp_modifyDoor, hp, observe_door, gt_iff_lt, hb, decide_true,
        forall_const, not_true_eq_false, IsEmpty.forall_iff, and_true]
      constructor <;> simp [limitOf, limited, checkReads, hp, hb, observe_tick, lines,
        motorWrites_observe, motorWrites_raised, raises_observe, raises_cons]
    · by_cases hm : tErrClose * 1000 < (ω (w.tick + 1)).millis - w.door.moveZero <;>
        cases hd : w.door.doorDirection <;>
        simp only [timerChecks, limitExceeded, wp_bind, wp_get, wp_ite, wp_millis, wp_pure,
          wp_digitalWrite_led, wp_emit, wp_modifyDoor, hp, hd, observe_door, observe_tick, gt_iff_lt,
          hb, hm, decide_false, Bool.false_eq_true, reduceCtorEq, forall_const, not_false_eq_true,
          not_true_eq_false, IsEmpty.forall_iff, and_true, true_and] <;>
        constructor <;> simp [limitOf, limited, checkReads, hp, hb, hd, hm, observe_tick, observe_door,
          lines, motorWrites_observe, motorWrites_raised, raises_observe, raises_cons]
  · by_cases hm : tErrClose * 1000 < (ω w.tick).millis - w.door.moveZero <;>
      cases hd : w.door.doorDirection <;>
      simp only [timerChecks, limitExceeded, wp_bind, wp_get, wp_ite, wp_millis, wp_pure,
        wp_digitalWrite_led, wp_emit, wp_modifyDoor, hp, hd, observe_door, gt_iff_lt, hm,
        Bool.false_eq_true, reduceCtorEq, forall_const, not_false_eq_true, not_true_eq_false,
        IsEmpty.forall_iff, and_true, true_and] <;>
      constructor <;> simp [limitOf, limited, checkReads, hp, hd, hm, observe_tick, observe_door, lines,
        motorWrites_observe, motorWrites_raised, raises_observe, raises_cons]

/-- The button check only reads. -/
theorem buttonBreak_reads :
    wp buttonBreak ⟨fun _ w' => w'.door = w.door ∧ w.tick ≤ w'.tick ∧ lines w' = lines w ∧
      motorWrites w'.trace = motorWrites w.trace ∧ raises w'.trace = raises w.trace,
      fun _ => False, fun _ => False⟩ ω w := by
  have hwrites : ∀ tr, motorWrites (.buttonBreak :: tr) = motorWrites tr := fun _ => rfl
  have hraises : ∀ tr, raises (.buttonBreak :: tr) = raises tr := fun _ => rfl
  simp [buttonBreak, buttonCheck, observe_door, observe_tick, lines, motorWrites_observe,
    raises_observe, hwrites, hraises]
  omega

end Limits

/-! ## Rounds -/

/-- The door once a round that begins in `w` has looked at the end switches. -/
def sensed (ω : Env) (pos : Klappenposition) (w : World) : Door :=
  sensedDoor ω pos (w.tick + 2) (reading ω w) w.door

/-- The reading with which that round begins its timer checks. -/
def checkTick (ω : Env) (w : World) : Nat := w.tick + 2 + sensedReads (reading ω w) w.door

/-- The time limit that the round finds exceeded. -/
def limit (ω : Env) (pos : Klappenposition) (w : World) : Option ErrorCode :=
  limitOf ω (checkTick ω w) (sensed ω pos w)

/-- A round that begins in `w` and ends in `w'`; the loop goes on if `again`. -/
structure Turn (ω : Env) (pos : Klappenposition) (w : World) (again : Bool) (w' : World) : Prop where
  door : w'.door = limited (sensed ω pos w) (limit ω pos w)
  again : again = true → limit ω pos w = none
  tick : checkTick ω w + checkReads (sensed ω pos w) ≤ w'.tick
  lines : lines w' = (command pos (reading ω w) w.door.doorDirection).getD (lines w)
  writes : motorWrites w'.trace =
    match command pos (reading ω w) w.door.doorDirection with
    | none => motorWrites w.trace
    | some (fwd, back) => (fwd, back) :: (fwd, w.pins.back) :: motorWrites w.trace
  raises : raises w'.trace = (limit ω pos w).toList ++ raises w.trace

/-- The rounds of a move to `pos` that was started in `w₀`: the states in which they began, newest
    first, whether the loop goes on, and the state after the last of them. -/
inductive Rounds (ω : Env) (pos : Klappenposition) (w₀ : World) :
    List World → Bool → World → Prop where
  | start (w : World) (h : startMove ω w₀ = .done () w) : Rounds ω pos w₀ [] true w
  | next (ws : List World) (w w' : World) (again : Bool) (hr : Rounds ω pos w₀ ws true w)
      (hp : w.door.doorPosition ≠ pos) (h : moveIteration pos ω w = .done again w') :
      Rounds ω pos w₀ (w :: ws) again w'

section Rounds

variable {ω : Env} {pos : Klappenposition} {w w₀ w' : World} {ws : List World} {again : Bool}

theorem moveIteration_turn (pos : Klappenposition) :
    wp (moveIteration pos) ⟨Turn ω pos w, fun _ => False, fun _ => False⟩ ω w := by
  have hwrites : motorWrites (switchesRead ω pos w).trace = motorWrites w.trace :=
    (motorWrites_observe _).trans (motorWrites_observe _)
  have hraises : raises (switchesRead ω pos w).trace = raises w.trace :=
    (raises_observe _).trans (raises_observe _)
  -- from the reading of the switches to the end of the timer checks
  have hchecked : ∀ w₁, Sensed ω pos (reading ω w) (switchesRead ω pos w) w₁ → ∀ expired w₂,
      Checked ω w₁ expired w₂ → Turn ω pos w (!expired) w₂ := by
    intro w₁ hs expired w₂ hc
    have hdoor : w₁.door = sensed ω pos w := hs.door
    have htick : w₁.tick = checkTick ω w := hs.tick
    have hlimit : limitOf ω w₁.tick w₁.door = limit ω pos w := by rw [hdoor, htick, limit]
    constructor
    · rw [hc.door, hlimit, hdoor]
    · intro hagain
      have hnone := hc.expired
      rw [hlimit] at hnone
      cases hl : limit ω pos w with
      | none => rfl
      | some error =>
        rw [hl] at hnone
        rw [hnone] at hagain
        cases hagain
    · rw [← hdoor, ← htick]
      exact hc.tick
    · rw [hc.lines, hs.lines]
      rfl
    · rw [hc.writes, hs.writes, hwrites]
      rfl
    · rw [hc.raises, hs.raises, hraises, hlimit]
  refine wp_moveIteration (T := fun expired w₂ => Turn ω pos w (!expired) w₂)
    (sensorBranch_sensed pos _ _) (fun w₁ h₁ => ?_) (fun w₂ h₂ => { h₂ with }) (fun w₂ h₂ => ?_)
  · apply wp_of_returns timerChecks_checked
    exact hchecked w₁ h₁
  · apply wp_of_returns buttonBreak_reads
    rintro pressed w₃ ⟨hdoor, htick, hlines, hwr, hra⟩
    exact
      { door := hdoor.trans h₂.door
        again := fun _ => h₂.again rfl
        tick := h₂.tick.trans htick
        lines := hlines.trans h₂.lines
        writes := hwr.trans h₂.writes
        raises := hra.trans h₂.raises }

/-- The last round of a sequence. -/
theorem Rounds.turn (h : Rounds ω pos w₀ (w :: ws) again w') :
    Rounds ω pos w₀ ws true w ∧ w.door.doorPosition ≠ pos ∧ Turn ω pos w again w' := by
  cases h with
  | next _ _ _ _ hr hp hrun => exact ⟨hr, hp, wp_run (moveIteration_turn pos) hrun⟩

/-- A loop that is left has made rounds up to the goal, a limit or a button; one that is cut off
    has used up its budget in rounds. -/
theorem moveLoop_rounds (h : Rounds ω pos w₀ ws true w) (n : Nat) :
    wp (moveLoop pos n) ⟨fun _ w' => ∃ ws' again, Rounds ω pos w₀ ws' again w' ∧
        (again = false ∨ w'.door.doorPosition = pos), fun _ => False,
      fun w' => ∃ ws', Rounds ω pos w₀ ws' true w' ∧ ws'.length = n + ws.length⟩ ω w := by
  induction n generalizing w ws with
  | zero => exact wp_pending.mpr ⟨ws, h, (Nat.zero_add _).symm⟩
  | succ n ih =>
    apply (wp_moveLoop_succ n).mpr
    refine ⟨fun hgoal => ⟨ws, true, h, .inr hgoal⟩, fun hp => ?_⟩
    apply wp_of_run (moveIteration_turn pos)
    intro again w₁ hrun _
    have hnext : Rounds ω pos w₀ (w :: ws) again w₁ := .next ws w w₁ again h hp hrun
    cases again with
    | false => exact ⟨w :: ws, false, hnext, .inl rfl⟩
    | true =>
      have hlen : n + (w :: ws).length = n + 1 + ws.length := by
        rw [List.length_cons]
        omega
      show wp (moveLoop pos n) _ ω w₁
      rw [← hlen]
      exact ih hnext

/-- The loop of a move that was started in `w₀`, by its rounds. -/
theorem rounds_of_moveLoop {w₁ : World} {n : Nat} (hs : startMove ω w₀ = .done () w₁)
    (hl : moveLoop pos n ω w₁ = .done () w') :
    ∃ ws again, Rounds ω pos w₀ ws again w' ∧ (again = false ∨ w'.door.doorPosition = pos) :=
  wp_run (moveLoop_rounds (.start w₁ hs) n) hl

/-! ## The direction of a move -/

/-- The directions in which a move to `pos` drives on. -/
def headed (pos : Klappenposition) (dir : Klappenrichtung) : Bool :=
  match pos, dir with
  | .posUp, .movingUp | .posDown, .movingDown | .posDown, .finishingDown => true
  | _, _ => false

/-- A move that has not reached its goal: the motor still stands, or it drives towards the goal
    since the first round. -/
inductive Underway (ω : Env) (pos : Klappenposition) (w₀ : World) : List World → World → Prop where
  | standing (w : World) (htick : w.tick = w₀.tick + 2) (hd : w.door.doorDirection = .standing)
      (hp : w.door.doorPosition = startPosition ω w₀) (hwr : motorWrites w.trace = motorWrites w₀.trace)
      (hra : raises w.trace = raises w₀.trace) : Underway ω pos w₀ [] w
  | driving (w u : World) (ws : List World) (hd : headed pos w.door.doorDirection = true)
      (hl : lines w = drive pos) (hz : w.door.moveZero = (ω (w₀.tick + 4)).millis)
      (hra : raises w.trace = raises w₀.trace) : Underway ω pos w₀ (u :: ws) w

theorem startMove_records :
    wp startMove ⟨fun _ w' => motorWrites w'.trace = motorWrites w.trace ∧
      raises w'.trace = raises w.trace, fun _ => False, fun _ => False⟩ ω w := by
  simp only [startMove, wp_bind, wp_call, wp_digitalRead, wp_emit, wp_modifyDoor]
  exact ⟨(motorWrites_observe _).trans (motorWrites_observe _),
    (raises_observe _).trans (raises_observe _)⟩

@[simp] theorem blockedAt_doorDirection (t : Nat) (d : Door) :
    (blockedAt ω t d).doorDirection = d.doorDirection := by
  unfold blockedAt
  split <;> rfl

@[simp] theorem blockedAt_moveZero (t : Nat) (d : Door) :
    (blockedAt ω t d).moveZero = d.moveZero := by
  unfold blockedAt
  split <;> rfl

@[simp] theorem blockedAt_doorPosition (t : Nat) (d : Door) :
    (blockedAt ω t d).doorPosition = .posBlocked := by
  unfold blockedAt
  split
  · assumption
  · rfl

@[simp] theorem finished_doorDirection (t : Nat) (d : Door) :
    (finished ω t d).doorDirection = d.doorDirection := by
  unfold finished
  split <;> rfl

@[simp] theorem finished_moveZero (t : Nat) (d : Door) :
    (finished ω t d).moveZero = d.moveZero := by
  unfold finished
  split <;> rfl

@[simp] theorem finished_downwardsTimer (t : Nat) (d : Door) :
    (finished ω t d).downwardsTimer = d.downwardsTimer := by
  unfold finished
  split <;> rfl

/-- A round of a move to the top or to the bottom goes on towards the goal, or reaches it. -/
theorem Underway.goesOn (hpos : pos = .posUp ∨ pos = .posDown) (h : Underway ω pos w₀ ws w)
    (hp : (sensed ω pos w).doorPosition ≠ pos) :
    headed pos (sensed ω pos w).doorDirection = true ∧
      (command pos (reading ω w) w.door.doorDirection).getD (lines w) = drive pos ∧
      (sensed ω pos w).moveZero = (ω (w₀.tick + 4)).millis := by
  unfold sensed at hp ⊢
  generalize reading ω w = r at hp ⊢
  obtain ⟨up, low⟩ := r
  cases h with
  | standing _ htick hd _ _ _ =>
    -- the first round starts the drive, unless it is at the goal at once
    have ht : w.tick + 2 = w₀.tick + 4 := by omega
    rw [ht] at hp ⊢
    rcases hpos with rfl | rfl <;> cases up <;> cases low <;>
      simp_all [sensedDoor, headed, towards, command, drive]
  | driving _ u ws' hd hl hz _ =>
    rcases hpos with rfl | rfl
    · have hup : w.door.doorDirection = .movingUp := by
        revert hd
        cases w.door.doorDirection <;> simp [headed]
      cases up <;> cases low <;> simp_all [sensedDoor, headed, command, drive]
    · have hdown : w.door.doorDirection = .movingDown ∨ w.door.doorDirection = .finishingDown := by
        revert hd
        cases w.door.doorDirection <;> simp [headed]
      rcases hdown with hdown | hdown <;> cases up <;> cases low <;>
        simp_all [sensedDoor, headed, command, drive]

/-- A round that the loop goes on after leaves the door as the end switches say. -/
theorem Turn.door_eq (h : Turn ω pos w true w') : w'.door = sensed ω pos w := by
  rw [h.door, h.again rfl]
  rfl

/-- A move whose loop goes on is under way. -/
theorem Rounds.underway (hpos : pos = .posUp ∨ pos = .posDown) (h : Rounds ω pos w₀ ws true w)
    (hp : w.door.doorPosition ≠ pos) : Underway ω pos w₀ ws w := by
  induction ws generalizing w with
  | nil =>
    cases h with
    | start _ hrun =>
      have hs := wp_run startMove_started hrun
      obtain ⟨hwr, hra⟩ := wp_run startMove_records hrun
      exact .standing w hs.tick hs.direction hs.position hwr hra
  | cons u ws ih =>
    obtain ⟨hr, hpu, hturn⟩ := h.turn
    have hu := ih hr hpu
    have hdoor := hturn.door_eq
    obtain ⟨hd, hl, hz⟩ := hu.goesOn hpos (by rw [← hdoor]; exact hp)
    refine .driving w u ws (by rw [hdoor]; exact hd) (hturn.lines.trans hl) (by rw [hdoor]; exact hz) ?_
    have hra := hturn.raises
    rw [hturn.again rfl] at hra
    cases hu with
    | standing _ _ _ _ _ hra' => exact hra.trans hra'
    | driving _ _ _ _ _ _ hra' => exact hra.trans hra'

end Rounds

end Eggvault.Spec
