import Eggvault.Spec.Base

/-!
# The motor loop

The lines of the motor and `doorDirection` are coupled: a direction other than
`STANDING` has exactly one line high.  Several branches of an iteration change the
direction before the lines, so the coupling is a property of the end of a branch
(`sensorBranch_turned`), while `Moving` holds after every single statement.

## Key results

- `moveLoop_moving`: the loop keeps the trace safe and the rest of the device as it was
- `finishMove_base`: after the stop writes the invariant of the resting device holds again
-/

namespace Eggvault.Spec

open Eggvault.Native Prog Trace

/-! ## Motor events -/

section Events

variable {valid : Prop} {tr : List Event}

theorem TraceOk.motorEnter (h : TraceOk valid tr) (pos : Klappenposition) :
    TraceOk valid (.motorEnter pos :: tr) := by
  have hm : MotorSafe (.motorEnter pos :: tr) :=
    { notBoth := h.motorSafe.notBoth
      rest := by intro hr; cases hr
      agrees := by intro d tl heq; cases heq }
  exact h.cons hm (.of_not_check tr rfl) (fun _ _ => .of_not_move tr rfl)

/-- A write is safe if it leaves a line low, and outside the loop both. -/
theorem TraceOk.motorWrite {f b : Bool} (h : TraceOk valid tr) (hboth : (f && b) = false)
    (hrest : inMotorLoop tr = false → f = false ∧ b = false) :
    TraceOk valid (.motorWrite f b :: tr) := by
  have hm : MotorSafe (.motorWrite f b :: tr) :=
    { notBoth := by
        show (f, b) ≠ (true, true)
        intro heq
        obtain ⟨rfl, rfl⟩ := Prod.mk.inj heq
        cases hboth
      rest := by
        intro hr
        obtain ⟨rfl, rfl⟩ := hrest hr
        rfl
      agrees := by intro d tl heq; cases heq }
  exact h.cons hm (.of_not_check tr rfl) (fun _ _ => .of_not_move tr rfl)

theorem TraceOk.motorIteration {d : Klappenrichtung} (h : TraceOk valid tr)
    (hd : Agrees d (motorLevels tr)) : TraceOk valid (.motorIteration d :: tr) := by
  have hm : MotorSafe (.motorIteration d :: tr) :=
    { notBoth := h.motorSafe.notBoth
      rest := h.motorSafe.rest
      agrees := by
        intro d' tl heq
        obtain ⟨hd', rfl⟩ := List.cons.inj heq
        cases hd'
        exact hd }
  exact h.cons hm (.of_not_check tr rfl) (fun _ _ => .of_not_move tr rfl)

theorem TraceOk.motorStop (h : TraceOk valid tr) (hlow : motorLevels tr = (false, false)) :
    TraceOk valid (.motorStop :: tr) := by
  have hm : MotorSafe (.motorStop :: tr) :=
    { notBoth := h.motorSafe.notBoth
      rest := fun _ => hlow
      agrees := by intro d tl heq; cases heq }
  exact h.cons hm (.of_not_check tr rfl) (fun _ _ => .of_not_move tr rfl)

end Events

/-! ## The state of a move -/

/-- What a move leaves alone until its loop is over. -/
structure MotorFrame (w₀ w : World) : Prop where
  clk : w.clk = w₀.clk
  sched : w.sched = w₀.sched
  menu : w.menu = w₀.menu
  btn : w.btn = w₀.btn
  nvs : w.nvs = w₀.nvs
  dispatch : w.dispatch = w₀.dispatch
  timer : w.timer = w₀.timer
  held : w.pins.held = w₀.pins.held
  lastMove : w.door.lastMove = w₀.door.lastMove
  lastDoorPosition : w.door.lastDoorPosition = w₀.door.lastDoorPosition
  armed : lastArmed w.trace = lastArmed w₀.trace
  unchecked : moveUnchecked w.trace = moveUnchecked w₀.trace
  noFailure : NoFailure w.trace → NoFailure w₀.trace
  fresh : LineFresh w₀ → LineFresh w

/-- A move that began in `w₀` is under way. -/
structure Moving (valid : Prop) (w₀ w : World) : Prop extends MotorFrame w₀ w where
  ok : TraceOk valid w.trace
  levels : motorLevels w.trace = (w.pins.fwd, w.pins.back)

/-- The lines agree with the direction; a standing motor has both low. -/
def Coupled (w : World) : Prop :=
  match w.door.doorDirection with
  | .standing => w.pins.fwd = false ∧ w.pins.back = false
  | d => Agrees d (w.pins.fwd, w.pins.back)

theorem Coupled.agrees {w : World} (h : Coupled w) (hd : w.door.doorDirection ≠ .standing) :
    Agrees w.door.doorDirection (w.pins.fwd, w.pins.back) := by
  unfold Coupled at h
  split at h
  · exact absurd ‹_› hd
  · exact h

theorem Coupled.standing {w : World} (h : Coupled w) (hd : w.door.doorDirection = .standing) :
    w.pins.fwd = false ∧ w.pins.back = false := by
  rw [Coupled, hd] at h
  exact h

theorem Coupled.of_agrees {w : World}
    (h : Agrees w.door.doorDirection (w.pins.fwd, w.pins.back)) : Coupled w := by
  unfold Coupled
  split
  · next hd => rw [hd] at h; exact h.elim
  · exact h

namespace Moving

variable {valid : Prop} {w₀ w : World}

theorem lowOutside (h : Moving valid w₀ w) (hr : inMotorLoop w.trace = false) :
    w.pins.fwd = false ∧ w.pins.back = false := by
  have hlow := h.ok.motorSafe.rest hr
  rw [h.levels] at hlow
  exact Prod.mk.inj hlow

theorem observe (h : Moving valid w₀ w) (s : Sample) : Moving valid w₀ (w.observe s) :=
  { h with
    armed := lastArmed_observe.trans h.armed
    unchecked := (Quiet.observe w s).unchecked.trans h.unchecked
    noFailure := fun hf => h.noFailure ((Quiet.observe w s).noFailure hf)
    fresh := fun hf => (h.fresh hf).observe
    ok := (Quiet.observe w s).ok h.ok
    levels := (Quiet.observe w s).levels.trans h.levels }

/-- A record that says nothing about the motor lines. -/
theorem emit (h : Moving valid w₀ w) {e : Event} (he : Quiet.isQuiet e = true)
    (ha : lastArmed (e :: w.trace) = lastArmed w.trace) :
    Moving valid w₀ { w with trace := e :: w.trace } :=
  have hq : Quiet w.trace (e :: w.trace) := .of_cons _ he
  { h with
    armed := ha.trans h.armed
    unchecked := hq.unchecked.trans h.unchecked
    noFailure := fun hf => h.noFailure (hq.noFailure hf)
    fresh := fun hf hc => hq.spent (h.fresh hf hc)
    ok := hq.ok h.ok
    levels := hq.levels.trans h.levels }

/-- Assignments to the motor variables. -/
theorem door (h : Moving valid w₀ w) {d : Door} (hm : d.lastMove = w.door.lastMove)
    (hp : d.lastDoorPosition = w.door.lastDoorPosition) : Moving valid w₀ { w with door := d } :=
  { h with
    lastMove := hm.trans h.lastMove
    lastDoorPosition := hp.trans h.lastDoorPosition }

theorem led (h : Moving valid w₀ w) (v : Bool) :
    Moving valid w₀ { w with pins := { w.pins with led := v } } :=
  { h with }

theorem mFwd (h : Moving valid w₀ w) {v : Bool} (hboth : (v && w.pins.back) = false)
    (hrest : inMotorLoop w.trace = false → v = false) :
    Moving valid w₀ { w with
      pins := { w.pins with fwd := v }, trace := .motorWrite v w.pins.back :: w.trace } :=
  { h with
    noFailure := fun hf => h.noFailure hf.tail
    ok := h.ok.motorWrite hboth (fun hr => ⟨hrest hr, (h.lowOutside hr).2⟩)
    levels := rfl }

theorem mBack (h : Moving valid w₀ w) {v : Bool} (hboth : (w.pins.fwd && v) = false)
    (hrest : inMotorLoop w.trace = false → v = false) :
    Moving valid w₀ { w with
      pins := { w.pins with back := v }, trace := .motorWrite w.pins.fwd v :: w.trace } :=
  { h with
    noFailure := fun hf => h.noFailure hf.tail
    ok := h.ok.motorWrite hboth (fun hr => ⟨(h.lowOutside hr).1, hrest hr⟩)
    levels := rfl }

end Moving

/-- The loop of the move has been entered. -/
structure InLoop (valid : Prop) (w₀ w : World) : Prop extends Moving valid w₀ w where
  entered : inMotorLoop w.trace = true

namespace InLoop

variable {valid : Prop} {w₀ w : World}

theorem observe (h : InLoop valid w₀ w) (s : Sample) : InLoop valid w₀ (w.observe s) :=
  { h.toMoving.observe s with entered := (Quiet.observe w s).rest.trans h.entered }

theorem emit (h : InLoop valid w₀ w) {e : Event} (he : Quiet.isQuiet e = true)
    (ha : lastArmed (e :: w.trace) = lastArmed w.trace) :
    InLoop valid w₀ { w with trace := e :: w.trace } :=
  { h.toMoving.emit he ha with entered := ((Quiet.of_cons _ he).rest).trans h.entered }

theorem door (h : InLoop valid w₀ w) {d : Door} (hm : d.lastMove = w.door.lastMove)
    (hp : d.lastDoorPosition = w.door.lastDoorPosition) : InLoop valid w₀ { w with door := d } :=
  { h.toMoving.door hm hp with entered := h.entered }

theorem led (h : InLoop valid w₀ w) (v : Bool) :
    InLoop valid w₀ { w with pins := { w.pins with led := v } } :=
  { h with }

theorem mFwd (h : InLoop valid w₀ w) {v : Bool} (hboth : (v && w.pins.back) = false) :
    InLoop valid w₀ { w with
      pins := { w.pins with fwd := v }, trace := .motorWrite v w.pins.back :: w.trace } :=
  { h.toMoving.mFwd hboth (fun hr => absurd (h.entered.symm.trans hr) (by decide)) with
    entered := h.entered }

theorem mBack (h : InLoop valid w₀ w) {v : Bool} (hboth : (w.pins.fwd && v) = false) :
    InLoop valid w₀ { w with
      pins := { w.pins with back := v }, trace := .motorWrite w.pins.fwd v :: w.trace } :=
  { h.toMoving.mBack hboth (fun hr => absurd (h.entered.symm.trans hr) (by decide)) with
    entered := h.entered }

/-- The two writes that drive the door up, from a state in which it does not go down. -/
theorem driveUp (h : InLoop valid w₀ w) (hb : w.pins.back = false) :
    InLoop valid w₀ { w with
      pins := { w.pins with fwd := true, back := false }
      trace := .motorWrite true false :: .motorWrite true w.pins.back :: w.trace } :=
  (h.mFwd (v := true) (by rw [hb]; rfl)).mBack (v := false) rfl

/-- The two writes that drive the door down, from any state. -/
theorem driveDown (h : InLoop valid w₀ w) :
    InLoop valid w₀ { w with
      pins := { w.pins with fwd := false, back := true }
      trace := .motorWrite false true :: .motorWrite false w.pins.back :: w.trace } :=
  (h.mFwd (v := false) rfl).mBack (v := true) rfl

end InLoop

/-! ## Sensor branches -/

/-- The end of a sensor branch: the lines agree with the direction. -/
structure Turned (valid : Prop) (w₀ w : World) : Prop extends InLoop valid w₀ w where
  agrees : Agrees w.door.doorDirection (w.pins.fwd, w.pins.back)

/-- The postcondition of a part of an iteration that always returns. -/
def returns (Q : World → Prop) : Post World Unit := ⟨fun _ w => Q w, fun _ => False, fun _ => False⟩

section Branches

variable {valid : Prop} {ω : Env} {w₀ w : World}

/-- `startDrive` leaves a motor that turns as it is. -/
theorem startDrive_turned (pos : Klappenposition) (h : InLoop valid w₀ w) (hc : Coupled w) :
    wp (startDrive pos) (returns (Turned valid w₀)) ω w := by
  simp only [startDrive, wp_bind, wp_get, wp_when, wp_millis, wp_ite, wp_modifyDoor,
    wp_digitalWrite_mFwd, wp_digitalWrite_mBack, returns]
  refine ⟨fun hd => ⟨fun _ => ?_, fun _ => ?_⟩, fun hd => ?_⟩
  · have hl := ((h.observe (ω w.tick)).door (d := { w.door with
      moveZero := (ω w.tick).millis, doorDirection := .movingDown }) rfl rfl).driveDown
    exact { hl with agrees := rfl }
  · have hl := ((h.observe (ω w.tick)).door (d := { w.door with
      moveZero := (ω w.tick).millis, doorDirection := .movingUp }) rfl rfl).driveUp (hc.standing hd).2
    exact { hl with agrees := rfl }
  · exact { h with agrees := hc.agrees hd }

theorem atBottom_turned (h : InLoop valid w₀ w) (hc : Coupled w) :
    wp atBottom (returns (Turned valid w₀)) ω w := by
  simp only [atBottom, wp_bind, wp_get, wp_ite, wp_millis, wp_modifyDoor, wp_when,
    wp_digitalWrite_mFwd, wp_digitalWrite_mBack, returns]
  have ho := h.observe (ω w.tick)
  refine ⟨fun hd => ?_, fun hd => ⟨fun hf => ⟨fun _ => ?_, fun _ => ?_⟩, fun hf => ⟨fun hu => ?_,
    fun hu => ?_⟩⟩⟩
  · -- going down: only the direction changes, the lines stay
    have ha := hc.agrees (by rw [hd]; decide)
    rw [hd] at ha
    exact { ho.door rfl rfl with agrees := ha }
  · -- finishing: the position changes when the time is over
    have ha := hc.agrees (by rw [hf]; decide)
    exact { ho.door rfl rfl with agrees := ha }
  · have ha := hc.agrees (by rw [hf]; decide)
    exact { ho with agrees := ha }
  · -- standing: the door is driven up
    have hl := ((h.door (d := { w.door with doorPosition := .posDown }) rfl rfl).observe
      (ω w.tick)).door (d := { w.door with
        doorPosition := .posDown, doorDirection := .movingUp, moveZero := (ω w.tick).millis })
      rfl rfl
    have hs : w.door.doorDirection = .standing := by
      revert hd hf hu
      cases w.door.doorDirection <;> decide
    exact { hl.driveUp (hc.standing hs).2 with agrees := rfl }
  · have hs : w.door.doorDirection = .movingUp := by
      simpa using hu
    have ha := hc.agrees (by rw [hs]; decide)
    rw [hs] at ha
    have hl := h.door (d := { w.door with doorPosition := .posDown }) rfl rfl
    exact { hl.driveUp (Prod.mk.inj ha).2 with agrees := by show Agrees w.door.doorDirection _; rw [hs]; rfl }

theorem atBlocked_turned (pos : Klappenposition) (h : InLoop valid w₀ w) (hc : Coupled w) :
    wp (atBlocked pos) (returns (Turned valid w₀)) ω w := by
  rw [atBlocked]
  apply wp_seq (startDrive_turned pos h hc)
  intro _ w₁ h₁
  -- the block timer starts once; a door that was finishing goes on down
  have key : ∀ w₂, Turned valid w₀ w₂ → wp (do
      when ((← get).door.doorDirection = .finishingDown) do
        modifyDoor fun d => { d with doorDirection := .movingDown }) (returns (Turned valid w₀)) ω w₂ := by
    intro w₂ h₂
    simp only [wp_bind, wp_get, wp_when, wp_modifyDoor, returns]
    refine ⟨fun hf => ?_, fun _ => h₂⟩
    have ha := h₂.agrees
    rw [hf] at ha
    exact { h₂.toInLoop.door rfl rfl with agrees := ha }
  rw [wp_get_bind, wp_bind, wp_when]
  refine ⟨fun _ => ?_, fun _ => key _ h₁⟩
  rw [wp_bind, wp_millis]
  apply (wp_modifyDoor _).mpr
  apply key _
  exact { (h₁.toInLoop.observe _).door rfl rfl with agrees := h₁.agrees }

theorem atTop_turned (h : InLoop valid w₀ w) : wp atTop (returns (Turned valid w₀)) ω w := by
  have hl := h.door (d := { w.door with doorPosition := .posUp }) rfl rfl
  simp only [atTop, wp_bind, wp_modifyDoor, wp_get, wp_when, wp_millis, wp_digitalWrite_mFwd,
    wp_digitalWrite_mBack, returns]
  -- whatever the direction was, it is downwards before the lines are written
  refine ⟨fun hd => ⟨fun hf => ?_, fun _ => ?_⟩, fun hd => ⟨fun hf => ?_, fun hf => ?_⟩⟩
  · cases hf
  · have h₁ := (hl.observe (ω w.tick)).door (d := { w.door with
      doorPosition := .posUp, doorDirection := .movingDown, moveZero := (ω w.tick).millis }) rfl rfl
    exact { h₁.driveDown with agrees := rfl }
  · have h₁ := h.door (d := { w.door with
      doorPosition := .posUp, doorDirection := .movingDown }) rfl rfl
    exact { h₁.driveDown with agrees := rfl }
  · have hm : w.door.doorDirection = .movingDown := by
      by_contra hm
      exact hd ⟨hm, hf⟩
    exact { hl.driveDown with agrees := by show Agrees w.door.doorDirection _; rw [hm]; rfl }

theorem atDriving_turned (pos : Klappenposition) (h : InLoop valid w₀ w) (hc : Coupled w) :
    wp (atDriving pos) (returns (Turned valid w₀)) ω w := by
  have hl := h.door (d := { w.door with doorPosition := .posDriving }) rfl rfl
  simp only [atDriving, wp_bind, wp_modifyDoor, wp_get, wp_when]
  refine ⟨fun hd => ?_, fun _ => startDrive_turned pos hl hc⟩
  refine startDrive_turned pos (hl.door rfl rfl) ?_
  -- going down with either name has the same lines
  show Agrees .movingDown (w.pins.fwd, w.pins.back)
  rcases hd with hd | hd <;>
  · have ha := hc.agrees (by rw [show w.door.doorDirection = _ from hd]; decide)
    rw [show w.door.doorDirection = _ from hd] at ha
    exact ha

theorem sensorBranch_turned (pos : Klappenposition) (up low : Bool) (h : InLoop valid w₀ w)
    (hc : Coupled w) : wp (sensorBranch pos up low) (returns (Turned valid w₀)) ω w := by
  cases up <;> cases low
  · exact atBottom_turned h hc
  · exact atBlocked_turned pos h hc
  · exact atDriving_turned pos h hc
  · exact atTop_turned h

/-! ## Iterations -/

/-- The timer checks touch neither the direction nor the lines. -/
theorem timerChecks_turned (h : Turned valid w₀ w) :
    wp timerChecks ⟨fun _ w' => Turned valid w₀ w', fun _ => False, fun _ => False⟩ ω w := by
  have hobs : ∀ w₁ s, Turned valid w₀ w₁ → Turned valid w₀ (w₁.observe s) := fun w₁ s h₁ =>
    { h₁.toInLoop.observe s with agrees := h₁.agrees }
  -- an expired limit lights the LED and ends the loop
  have hlim : ∀ w₁ e, Turned valid w₀ w₁ → wp (limitExceeded e)
      ⟨fun _ w' => Turned valid w₀ w', fun _ => False, fun _ => False⟩ ω w₁ := by
    intro w₁ e h₁
    simp only [limitExceeded, wp_bind, wp_digitalWrite_led, wp_emit, wp_modifyDoor, wp_pure]
    have h₂ := (h₁.toInLoop.led true).emit (e := .raised e) rfl rfl
    exact { h₂.door rfl rfl with agrees := h₁.agrees }
  -- the travel limits, for the direction in which the motor turns
  have hrest : ∀ w₁, Turned valid w₀ w₁ → wp (do
      if (← get).door.doorDirection = .movingDown then
        let now ← millis
        if now - (← get).door.moveZero > tErrClose * 1000 then limitExceeded .timerCloseElapsed
        else pure false
      else if (← get).door.doorDirection = .movingUp then
        let now ← millis
        if now - (← get).door.moveZero > tErrClose * 1000 then limitExceeded .timerOpenElapsed
        else pure false
      else pure false) ⟨fun _ w' => Turned valid w₀ w', fun _ => False, fun _ => False⟩ ω w₁ := by
    intro w₁ h₁
    have h₂ := hobs w₁ (ω w₁.tick) h₁
    simp only [wp_bind, wp_get, wp_ite, wp_millis, wp_pure]
    exact ⟨fun _ => ⟨fun _ => hlim _ _ h₂, fun _ => h₂⟩,
      fun _ => ⟨fun _ => ⟨fun _ => hlim _ _ h₂, fun _ => h₂⟩, fun _ => h₁⟩⟩
  rw [timerChecks, wp_bind, wp_get_bind, wp_ite]
  simp only [wp_bind, wp_millis, wp_get, wp_pure]
  have h₂ := hobs w (ω w.tick) h
  refine ⟨fun _ => ?_, fun _ => ?_⟩
  · split
    · exact hlim _ _ h₂
    · exact hrest _ h₂
  · exact hrest _ h

/-- Reading the buttons changes nothing. -/
theorem buttonCheck_turned (h : Turned valid w₀ w) :
    wp buttonCheck ⟨fun _ w' => Turned valid w₀ w', fun _ => False, fun _ => False⟩ ω w := by
  have hobs : ∀ w₁ s, Turned valid w₀ w₁ → Turned valid w₀ (w₁.observe s) := fun w₁ s h₁ =>
    { h₁.toInLoop.observe s with agrees := h₁.agrees }
  simp only [buttonCheck, wp_bind, wp_digitalRead, wp_ite, wp_pure]
  have h₁ := hobs _ (ω w.tick) h
  have h₂ := hobs _ (ω (w.tick + 1)) h₁
  have h₃ := hobs _ (ω (w.tick + 2)) h₂
  exact ⟨fun _ => h₁, fun _ => ⟨fun _ => h₂, fun _ => ⟨fun _ => h₃, fun _ => hobs _ _ h₃⟩⟩⟩

theorem buttonBreak_turned (h : Turned valid w₀ w) :
    wp buttonBreak ⟨fun _ w' => Turned valid w₀ w', fun _ => False, fun _ => False⟩ ω w := by
  rw [buttonBreak]
  apply wp_seq (buttonCheck_turned h)
  intro pressed w₁ h₁
  simp only [wp_bind, wp_when, wp_emit, wp_pure]
  exact ⟨fun _ => { h₁.toInLoop.emit (e := .buttonBreak) rfl rfl with agrees := h₁.agrees },
    fun _ => h₁⟩

/-- An iteration keeps the coupling, and its last event says so. -/
theorem moveIteration_moving (pos : Klappenposition) (h : Moving valid w₀ w) (hc : Coupled w) :
    wp (moveIteration pos) ⟨fun _ w' => Moving valid w₀ w' ∧ Coupled w', fun _ => False,
      fun _ => False⟩ ω w := by
  have hin : InLoop valid w₀ { w with trace := .motorEnter pos :: w.trace } :=
    { h with
      noFailure := fun hf => h.noFailure hf.tail
      ok := h.ok.motorEnter pos
      entered := rfl }
  let read (s₁ s₂ : Sample) (up low : Bool) : World :=
    let w' := ({ w with trace := .motorEnter pos :: w.trace }.observe s₁).observe s₂
    { w' with trace := .endSwitches up low :: w'.trace }
  -- the record at the end of an iteration matches the levels of the lines
  have hend : ∀ w₃, Turned valid w₀ w₃ →
      Moving valid w₀ { w₃ with trace := .motorIteration w₃.door.doorDirection :: w₃.trace } ∧
        Coupled { w₃ with trace := .motorIteration w₃.door.doorDirection :: w₃.trace } := by
    intro w₃ h₃
    have hlev : Agrees w₃.door.doorDirection (motorLevels w₃.trace) := by
      rw [h₃.levels]
      exact h₃.agrees
    refine ⟨?_, .of_agrees h₃.agrees⟩
    exact
      { h₃.toMoving with
        noFailure := fun hf => h₃.noFailure hf.tail
        ok := h₃.ok.motorIteration hlev }
  simp only [moveIteration, wp_bind, wp_emit, wp_digitalRead, wp_ite, wp_pure, wp_get]
  have hread : ∀ s₁ s₂ up low, InLoop valid w₀ (read s₁ s₂ up low) := fun s₁ s₂ up low =>
    ((hin.observe s₁).observe s₂).emit (e := .endSwitches up low) rfl rfl
  -- sensors, time limits and buttons, each from the invariant of the loop
  apply wp_weaken (sensorBranch_turned pos _ _ (hread _ _ _ _) hc)
  intro _ w₁ h₁
  apply wp_weaken (timerChecks_turned h₁)
  intro expired w₂ h₂
  refine ⟨fun _ => hend w₂ h₂, fun _ => ?_⟩
  exact wp_mono (buttonBreak_turned h₂) (fun _ => hend) (fun _ h => h) (fun _ h => h)

/-- The loop, for any number of iterations and however it is left. -/
theorem moveLoop_moving (pos : Klappenposition) (n : Nat) (h : Moving valid w₀ w) (hc : Coupled w) :
    wp (moveLoop pos n) ⟨fun _ w' => Moving valid w₀ w' ∧ Coupled w', fun _ => False,
      fun w' => Moving valid w₀ w' ∧ Coupled w'⟩ ω w := by
  refine wp_repeatWhile (fun w' => Moving valid w₀ w' ∧ Coupled w') ?_ (fun _ h => h) n ⟨h, hc⟩
  rintro w₁ ⟨h₁, hc₁⟩
  rw [wp_get_bind, wp_ite, wp_pure]
  refine ⟨fun _ => ⟨h₁, hc₁⟩, fun _ => ?_⟩
  apply wp_of_returns (moveIteration_moving pos h₁ hc₁)
  intro again w' h'
  cases again <;> exact h'

end Branches

/-! ## Before and after the loop -/

/-- What a finished move leaves alone. -/
structure Moved (w₀ w : World) : Prop where
  clk : w.clk = w₀.clk
  sched : w.sched = w₀.sched
  menu : w.menu = w₀.menu
  btn : w.btn = w₀.btn
  dispatch : w.dispatch = w₀.dispatch
  held : w.pins.held = w₀.pins.held
  nvs : ∀ k, k ≠ .lastMove → k ≠ .initLastMove → w.nvs.get k = w₀.nvs.get k
  unchecked : moveUnchecked w.trace = moveUnchecked w₀.trace
  noFailure : NoFailure w.trace → NoFailure w₀.trace
  fresh : LineFresh w₀ → LineFresh w

section Ends

variable {valid : Prop} {ω : Env} {w₀ w : World}

theorem Base.moving (h : Base valid w) : Moving valid w w where
  clk := rfl
  sched := rfl
  menu := rfl
  btn := rfl
  nvs := rfl
  dispatch := rfl
  timer := rfl
  held := rfl
  lastMove := rfl
  lastDoorPosition := rfl
  armed := rfl
  unchecked := rfl
  noFailure := fun h => h
  fresh := fun h => h
  ok := h.trace
  levels := by rw [h.levels, h.fwd, h.back]

theorem startMove_moving (h : Base valid w) :
    wp startMove ⟨fun _ w' => Moving valid w w' ∧ Coupled w', fun _ => False, fun _ => False⟩ ω w := by
  simp only [startMove, wp_bind, wp_call, wp_digitalRead, wp_emit, wp_modifyDoor]
  have hcall : Moving valid w (w.called .moveMotor) :=
    h.moving.emit (e := .call .moveMotor w.moment) rfl rfl
  have hread := (hcall.observe (ω w.tick)).observe (ω (w.tick + 1))
  have hseen := hread.emit (e := .endSwitches (ω w.tick).endUp (ω (w.tick + 1)).endLow) rfl rfl
  exact ⟨hseen.door rfl rfl, h.fwd, h.back⟩

/-- The last move is stored, and the mark that there was one. -/
def stored (w : World) : Nvs :=
  let m := (w.nvs.put .lastMove w.clk.tNow).put .lastMovePosition w.door.doorPosition
  if w.sched.fInitLastMove = 0 then m.put .initLastMove 1 else m

theorem stored_get (w : World) {k : NvsKey} (h₁ : k ≠ .lastMove) (h₂ : k ≠ .initLastMove) :
    (stored w).get k = w.nvs.get k := by
  by_cases hp : k = .lastMovePosition
  · rw [hp, nvs_get_lastMovePosition, nvs_get_lastMovePosition]
  · unfold stored
    split
    · rw [nvs_get_put_of_ne _ _ h₂, nvs_get_put_of_ne _ _ hp, nvs_get_put_of_ne _ _ h₁]
    · rw [nvs_get_put_of_ne _ _ hp, nvs_get_put_of_ne _ _ h₁]

theorem stored_lastMove (w : World) : (stored w).get .lastMove = some w.clk.tNow := by
  unfold stored
  split
  · rw [nvs_get_put_of_ne _ _ (by decide), nvs_get_put_of_ne _ _ (by decide),
      nvs_get_put_self _ _ (by decide)]
  · rw [nvs_get_put_of_ne _ _ (by decide), nvs_get_put_self _ _ (by decide)]

/-- After a move the mark is set: it was there before, or is put now. -/
theorem stored_initLastMove {w : World}
    (h : w.sched.fInitLastMove ≠ 0 → (w.nvs.get .initLastMove).getD 0 ≠ 0) :
    ((stored w).get .initLastMove).getD 0 ≠ 0 := by
  unfold stored
  split
  · rw [nvs_get_put_self _ _ (by decide)]
    decide
  · rw [nvs_get_put_of_ne _ _ (by decide), nvs_get_put_of_ne _ _ (by decide)]
    exact h ‹_›

/-- The device at the end of a move, with `e` as its error flag. -/
def ended (w : World) (e : ErrorCode) : World :=
  { w with
    door := { w.door with
      errorFlag := e, doorDirection := .standing, lastMove := w.clk.tNow
      lastDoorPosition := w.door.doorPosition }
    pins := { w.pins with fwd := false, back := false }
    trace := .motorStop :: .motorWrite false false :: .motorWrite false w.pins.back :: w.trace
    nvs := stored w }

theorem Moving.moved_ended (h : Moving valid w₀ w) (e : ErrorCode) : Moved w₀ (ended w e) where
  clk := h.clk
  sched := h.sched
  menu := h.menu
  btn := h.btn
  dispatch := h.dispatch
  held := h.held
  nvs := fun k h₁ h₂ => by
    show (stored w).get k = _
    rw [stored_get w h₁ h₂, h.nvs]
  unchecked := h.unchecked
  noFailure := fun hf => h.noFailure hf.tail.tail.tail
  fresh := fun hf => h.fresh hf

/-- Every part of the invariant that a move could have touched is re-established by the
    stop writes and by what `moveMotor` stores. -/
theorem Moving.base_ended (h : Moving valid w₀ w) (hb : Base valid w₀) (e : ErrorCode) :
    Base valid (ended w e) := by
  have hlow := (h.mFwd (v := false) rfl (fun _ => rfl)).mBack (v := false) rfl (fun _ => rfl)
  have hget : ∀ k, k ≠ .lastMove → k ≠ .initLastMove → (stored w).get k = w₀.nvs.get k :=
    (h.moved_ended e).nvs
  have hmoved : w.sched.fInitLastMove ≠ 0 → (w.nvs.get .initLastMove).getD 0 ≠ 0 := by
    rw [h.sched, h.nvs]
    exact hb.moved
  have hinit : ((stored w).get .initLastMove).getD 0 ≠ 0 := stored_initLastMove hmoved
  have hsched : (ended w e).sched = w₀.sched := h.sched
  have hmenu : (ended w e).menu = w₀.menu := h.menu
  exact
    { trace := hlow.ok.motorStop rfl
      fwd := rfl
      back := rfl
      levels := rfl
      rest := rfl
      held := by show w.pins.held ≠ _; rw [h.held]; exact hb.held
      light := by
        unfold LightSync
        rw [hsched, show (ended w e).timer = w₀.timer from h.timer,
          show lastArmed (ended w e).trace = lastArmed w₀.trace from h.armed]
        exact hb.light
      nox := by
        rw [hsched, show (ended w e).nvs = stored w from rfl, hget _ (by decide) (by decide)]
        exact hb.nox
      flag := by
        rw [hsched, show (ended w e).nvs = stored w from rfl, hget _ (by decide) (by decide)]
        exact hb.flag
      unset := by rw [hsched]; exact hb.unset
      counter := by rw [hsched]; exact hb.counter
      -- a move is stored together with its mark
      moved := fun _ => hinit
      unmoved := fun h0 => absurd h0 hinit
      lastMove := fun _ => by
        show ((stored w).get .lastMove).getD 0 = w.clk.tNow
        rw [stored_lastMove]
        rfl
      opening := by rw [hsched]; exact hb.opening
      closing := by rw [hsched]; exact hb.closing
      editO := by rw [hmenu]; exact hb.editO
      editC := by rw [hmenu]; exact hb.editC
      stored := fun hv =>
        { opening := by
            show ∀ t, (Spec.stored w).get .openAlarms = some t → _
            rw [hget _ (by decide) (by decide)]
            exact (hb.stored hv).opening
          closing := by
            show ∀ t, (Spec.stored w).get .closeAlarms = some t → _
            rw [hget _ (by decide) (by decide)]
            exact (hb.stored hv).closing } }

/-- `moveMotor` after its loop leads back to the resting device. -/
theorem finishMove_base (hb : Base valid w₀) (h : Moving valid w₀ w) :
    wp finishMove ⟨fun _ w' => Base valid w' ∧ Moved w₀ w', fun _ => False, fun _ => False⟩ ω w := by
  simp only [finishMove, wp_bind, wp_modifyDoor, wp_digitalWrite_mFwd, wp_digitalWrite_mBack,
    wp_emit, wp_get, wp_memoryPut, wp_when]
  have hend : ∀ e, Base valid (ended w e) ∧ Moved w₀ (ended w e) := fun e =>
    ⟨h.base_ended hb e, h.moved_ended e⟩
  refine ⟨fun h0 => ?_, fun h0 => ?_⟩
  · have hs : stored w = _ := if_pos h0
    simp only [ended, hs] at hend
    exact hend _
  · have hs : stored w = _ := if_neg h0
    simp only [ended, hs] at hend
    exact hend _

end Ends

end Eggvault.Spec
