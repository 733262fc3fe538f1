import Eggvault.ForStd.Trace
import Eggvault.Native.Main

/-!
# What the events of a run say

Three safety properties of traces, each about one moment (the newest event and
the events before it), and the lemmas that carry them over the next event:

* `MotorSafe`: the motor lines are never both high, agree with the direction at
  the end of an iteration, and are low outside the motor loop.
* `LightOk`: a light check on a timer wake-up uses threshold 0 and belongs to the
  move that was armed last.
* `OnceAt`: a move ordered by the alarm has a firing of its own.

A moment sees the newest event of a kind with `List.findSome?`.
-/

namespace Eggvault.Spec

open Eggvault.Native Trace

/-! ## Motor lines -/

/-- The levels of the motor lines after the last write. -/
def motorLevels (tr : List Event) : Bool × Bool :=
  (tr.findSome? fun
    | .motorWrite fwd back => some (fwd, back)
    | _ => none).getD (false, false)

/-- The device is between the first iteration of a motor loop and its stop writes. -/
def inMotorLoop (tr : List Event) : Bool :=
  (tr.findSome? fun
    | .motorEnter _ => some true
    | .motorStop => some false
    | _ => none).getD false

/-- The levels that belong to a direction; there are none for a standing motor. -/
def Agrees : Klappenrichtung → Bool × Bool → Prop
  | .movingUp, l => l = (true, false)
  | .movingDown, l => l = (false, true)
  | .finishingDown, l => l = (false, true)
  | .standing, _ => False

/-- The motor lines are safe at this moment. -/
structure MotorSafe (tr : List Event) : Prop where
  notBoth : motorLevels tr ≠ (true, true)
  rest : inMotorLoop tr = false → motorLevels tr = (false, false)
  agrees : ∀ d tl, tr = .motorIteration d :: tl → Agrees d (motorLevels tl)

/-- The events that say something about the motor lines. -/
def isMotorEvent : Event → Bool
  | .motorEnter _ | .motorWrite _ _ | .motorIteration _ | .motorStop => true
  | _ => false

theorem motorLevels_cons {e : Event} (tr : List Event) (he : isMotorEvent e = false) :
    motorLevels (e :: tr) = motorLevels tr := by
  cases e <;> first | rfl | cases he

theorem inMotorLoop_cons {e : Event} (tr : List Event) (he : isMotorEvent e = false) :
    inMotorLoop (e :: tr) = inMotorLoop tr := by
  cases e <;> first | rfl | cases he

theorem MotorSafe.cons {e : Event} {tr : List Event} (h : MotorSafe tr)
    (he : isMotorEvent e = false) : MotorSafe (e :: tr) where
  notBoth := by rw [motorLevels_cons tr he]; exact h.notBoth
  rest := by rw [motorLevels_cons tr he, inMotorLoop_cons tr he]; exact h.rest
  agrees := by
    intro d tl heq
    obtain ⟨rfl, -⟩ := List.cons.inj heq
    cases he

theorem motorSafe_nil : MotorSafe [] where
  notBoth := by decide
  rest := fun _ => rfl
  agrees := by intro d tl h; cases h

/-! ## Light checks -/

/-- The last of the wake-ups and schedulings was a timer wake-up, so that a light
    check made now is the one of `timerWakeupHandling`. -/
def onTimerWakeup (tr : List Event) : Bool :=
  (tr.findSome? fun
    | .booted cause => some (decide (cause = .timer))
    | .lightArmed _ _ _ => some false
    | _ => none).getD false

/-- The move that a scheduler armed the sensor for last, with the threshold and the
    RTC snapshot of that moment. -/
def lastArmed (tr : List Event) : Option (Klappenposition × UInt8 × RtcTime) :=
  tr.findSome? fun
    | .lightArmed pos nextLux snapshot => some (pos, nextLux, snapshot)
    | _ => none

/-- A light check on a timer wake-up compares with 0, for the move armed last. -/
def LightOk (tr : List Event) : Prop :=
  ∀ pos lux nextLux tl, tr = .lightCheck pos lux nextLux :: tl → onTimerWakeup tl = true →
    nextLux = 0 ∧ ∃ v, lastArmed tl = some (pos, v)

/-- The event is a light check. -/
def isLightCheck : Event → Bool
  | .lightCheck _ _ _ => true
  | _ => false

theorem LightOk.of_not_check {e : Event} (tr : List Event) (he : isLightCheck e = false) :
    LightOk (e :: tr) := by
  intro pos lux nextLux tl heq
  obtain ⟨rfl, -⟩ := List.cons.inj heq
  cases he

/-! ## Alarm moves -/

/-- The last firing of the alarm has already led to a move. -/
def alarmSpent (tr : List Event) : Bool :=
  (tr.findSome? fun
    | .alarmFired _ => some false
    | .alarmMove _ _ => some true
    | _ => none).getD false

/-- An alarm move has begun and `statusabfrage` has not looked at the door since. -/
def moveUnchecked (tr : List Event) : Bool :=
  (tr.findSome? fun
    | .alarmMove _ _ => some true
    | .status _ => some false
    | _ => none).getD false

/-- An alarm move ends in the error branch of `statusabfrage`. -/
def FailedAlarmMove (tr : List Event) : Prop :=
  ∃ tl, tr = .status true :: tl ∧ moveUnchecked tl = true

/-- A move ordered by the alarm is the first one since the alarm fired. -/
def OnceAt (tr : List Event) : Prop :=
  ∀ pos k tl, tr = .alarmMove pos k :: tl → alarmSpent tl = false

/-- No alarm move has ended in an error so far. -/
def NoFailure (tr : List Event) : Prop := Historically (fun t => ¬ FailedAlarmMove t) tr

/-- The event is an alarm move. -/
def isAlarmMove : Event → Bool
  | .alarmMove _ _ => true
  | _ => false

theorem OnceAt.of_not_move {e : Event} (tr : List Event) (he : isAlarmMove e = false) :
    OnceAt (e :: tr) := by
  intro pos k tl heq
  obtain ⟨rfl, -⟩ := List.cons.inj heq
  cases he

theorem NoFailure.tail {e : Event} {tr : List Event} (h : NoFailure (e :: tr)) : NoFailure tr :=
  (historically_cons.mp h).2

/-- The arguments of the last call of `setAlarm`. -/
def lastSetAlarm (tr : List Event) : Option (UInt8 × UInt8 × UInt8) :=
  tr.findSome? fun
    | .setAlarm mDoW mHour mMinute => some (mDoW, mHour, mMinute)
    | _ => none

/-! ## All three together -/

/-- Every moment of the trace is safe; the alarm part only if all stored modes are `valid`
    and as long as no alarm move has failed. -/
structure TraceOk (valid : Prop) (tr : List Event) : Prop where
  motor : Historically MotorSafe tr
  light : Historically LightOk tr
  once : valid → NoFailure tr → Historically OnceAt tr

section TraceOk

variable {valid : Prop}

theorem traceOk_nil : TraceOk valid [] where
  motor := historically_nil.mpr motorSafe_nil
  light := historically_nil.mpr (by intro pos lux v tl h; cases h)
  once := fun _ _ => historically_nil.mpr (by intro pos k tl h; cases h)

theorem TraceOk.motorSafe {tr : List Event} (h : TraceOk valid tr) : MotorSafe tr :=
  h.motor tr (List.suffix_refl tr)

/-- The next event keeps the trace safe if it is safe itself. -/
theorem TraceOk.cons {e : Event} {tr : List Event} (h : TraceOk valid tr) (hm : MotorSafe (e :: tr))
    (hl : LightOk (e :: tr)) (ho : valid → NoFailure tr → OnceAt (e :: tr)) : TraceOk valid (e :: tr) where
  motor := historically_cons.mpr ⟨hm, h.motor⟩
  light := historically_cons.mpr ⟨hl, h.light⟩
  once := fun hv hf => historically_cons.mpr ⟨ho hv hf.tail, h.once hv hf.tail⟩

/-- The event is none of those the three properties are about. -/
def isPlain (e : Event) : Bool := !isMotorEvent e && !isLightCheck e && !isAlarmMove e

theorem TraceOk.cons_plain {e : Event} {tr : List Event} (h : TraceOk valid tr)
    (he : isPlain e = true) : TraceOk valid (e :: tr) := by
  simp only [isPlain, Bool.and_eq_true, Bool.not_eq_true'] at he
  exact h.cons (h.motorSafe.cons he.1.1) (.of_not_check tr he.1.2)
    (fun _ _ => .of_not_move tr he.2)

end TraceOk

/-! ## Stretches of a trace -/

/-- From `tr` to `tr'` the motor was not touched, no alarm move began, the door was not
    looked at, and the three properties were kept. -/
structure Quiet (tr tr' : List Event) : Prop where
  ok : ∀ {valid : Prop}, TraceOk valid tr → TraceOk valid tr'
  levels : motorLevels tr' = motorLevels tr
  rest : inMotorLoop tr' = inMotorLoop tr
  unchecked : moveUnchecked tr' = moveUnchecked tr
  spent : alarmSpent tr = false → alarmSpent tr' = false
  noFailure : NoFailure tr' → NoFailure tr

namespace Quiet

variable {tr tr' tr'' : List Event} {e : Event}

theorem refl (tr : List Event) : Quiet tr tr :=
  ⟨fun h => h, rfl, rfl, rfl, fun h => h, fun h => h⟩

theorem trans (h : Quiet tr tr') (h' : Quiet tr' tr'') : Quiet tr tr'' where
  ok := fun hok => h'.ok (h.ok hok)
  levels := h'.levels.trans h.levels
  rest := h'.rest.trans h.rest
  unchecked := h'.unchecked.trans h.unchecked
  spent := fun hs => h'.spent (h.spent hs)
  noFailure := fun hf => h.noFailure (h'.noFailure hf)

/-- The event is plain and does not report a look at the door. -/
def isQuiet : Event → Bool
  | .status _ => false
  | e => isPlain e

theorem of_cons (tr : List Event) (he : isQuiet e = true) : Quiet tr (e :: tr) := by
  have hp : isPlain e = true := by cases e <;> first | exact he | rfl
  refine ⟨fun hok => hok.cons_plain hp, ?_, ?_, ?_, ?_, fun hf => hf.tail⟩
  all_goals cases e <;> first | rfl | exact fun h => h | exact fun _ => rfl | cases he

/-- A light check is quiet if it is safe. -/
theorem of_check {pos : Klappenposition} {lux v : UInt8}
    (hl : LightOk (.lightCheck pos lux v :: tr)) : Quiet tr (.lightCheck pos lux v :: tr) :=
  ⟨fun hok => hok.cons (hok.motorSafe.cons rfl) hl (fun _ _ => .of_not_move tr rfl),
    rfl, rfl, rfl, fun h => h, fun hf => hf.tail⟩

theorem cons (h : Quiet tr tr') (he : isQuiet e = true) : Quiet tr (e :: tr') :=
  h.trans (of_cons tr' he)

end Quiet

end Eggvault.Spec
