import Eggvault.ForStd.MachineInt
import Eggvault.Spec.WakeupCorrect
import Eggvault.Spec.ActionsCorrect
import Eggvault.Native.Calendar

/-!
# The timer of the pause after a move

A pass that finds the last move less than `t_delta_min` seconds ago does not look at the light:
it enables a timer for the rest of the pause.  The argument of that call is computed in 32
bits from two readings of the clock, whose order and distance nothing checks.

## Key results

- `pause_timer_iff`: when the argument is exact and between one second and `t_delta_min`
-/

namespace Eggvault.Spec

open Eggvault.Native Prog Trace

/-! ## The argument of the call -/

/-- What the newest pass has found. -/
def lastPass (tr : List Event) : Option Moment :=
  tr.findSome? fun
    | .call (.setNextAlarm _ _) m => some m
    | _ => none

/-- The guard of the call, as the code evaluates it. -/
def MustWait (m : Moment) : Prop := m.door.lastMove + tDeltaMin > m.clk.tNow + 1

/-- The argument of the call before its conversion. -/
def waitMicros (m : Moment) : Int32 := sToUs * (m.door.lastMove + tDeltaMin - m.clk.tNow)

/-- In the trace a pass that found `m` has enabled the timer for the rest of the pause. -/
def PauseTimer (m : Moment) (tr : List Event) : Prop :=
  ∃ pos lux snapshot tl, .lightArmed pos lux snapshot :: tl <:+ tr ∧ lastPass tl = some m ∧ MustWait m

theorem PauseTimer.of_suffix {m : Moment} {tr tr' : List Event} (h : PauseTimer m tr)
    (hs : tr <:+ tr') : PauseTimer m tr' := by
  obtain ⟨pos, lux, snapshot, tl, harmed, hm⟩ := h
  exact ⟨pos, lux, snapshot, tl, harmed.trans hs, hm⟩

theorem PauseTimer.mustWait {m : Moment} {tr : List Event} (h : PauseTimer m tr) : MustWait m := by
  obtain ⟨_, _, _, _, _, _, hwait⟩ := h
  exact hwait

/-- No operation of the call overflows, its argument survives the conversion, and the delay is
    between one second and `t_delta_min` seconds. -/
structure ExactPause (m : Moment) : Prop where
  sum : (m.door.lastMove + tDeltaMin).toInt = m.door.lastMove.toInt + 600
  succ : (m.clk.tNow + 1).toInt = m.clk.tNow.toInt + 1
  difference : (m.door.lastMove + tDeltaMin - m.clk.tNow).toInt =
    m.door.lastMove.toInt + 600 - m.clk.tNow.toInt
  product : (waitMicros m).toInt = 1000000 * (m.door.lastMove.toInt + 600 - m.clk.tNow.toInt)
  conversion : ((toMicros (waitMicros m)).toNat : Int) = (waitMicros m).toInt
  least : 1000000 ≤ (toMicros (waitMicros m)).toNat
  most : (toMicros (waitMicros m)).toNat ≤ 600 * 1000000

/-- The clock has not been set back behind the last move, and neither reading is at the end of
    the 32 bits. -/
structure ClockInOrder (m : Moment) : Prop where
  order : m.door.lastMove.toInt ≤ m.clk.tNow.toInt
  lastMove : m.door.lastMove.toInt + 600 < 2147483648
  tNow : m.clk.tNow.toInt + 1 < 2147483648

/-- The conversion keeps what is not negative. -/
theorem toNat_toMicros {x : Int32} (h : 0 ≤ x.toInt) : ((toMicros x).toNat : Int) = x.toInt := by
  have hx : (0 : Int64) ≤ x.toInt64 := by
    rw [Int64.le_iff_toInt_le, Int32.toInt_toInt64]
    exact h
  rw [toMicros, Int64.toNat_toUInt64_of_le hx, ← Int64.toInt_eq_toNatClampNeg hx,
    Int32.toInt_toInt64]

theorem ClockInOrder.exactPause {m : Moment} (h : ClockInOrder m) (hw : MustWait m) :
    ExactPause m := by
  obtain ⟨horder, hlast, hnow⟩ := h
  have hdelta : tDeltaMin.toInt = 600 := rfl
  have hmicros : sToUs.toInt = 1000000 := rfl
  have hone : (1 : Int32).toInt = 1 := rfl
  have hle := Int32.le_toInt m.door.lastMove
  have hle' := Int32.le_toInt m.clk.tNow
  have hsum : (m.door.lastMove + tDeltaMin).toInt = m.door.lastMove.toInt + 600 := by
    rw [Int32.toInt_add_of_fits] <;> omega
  have hsucc : (m.clk.tNow + 1).toInt = m.clk.tNow.toInt + 1 := by
    rw [Int32.toInt_add_of_fits] <;> omega
  -- with exact sums the guard says what it is meant to say
  have hguard : m.clk.tNow.toInt + 1 < m.door.lastMove.toInt + 600 := by
    rw [← hsum, ← hsucc]
    exact Int32.lt_iff_toInt_lt.mp hw
  have hdiff : (m.door.lastMove + tDeltaMin - m.clk.tNow).toInt =
      m.door.lastMove.toInt + 600 - m.clk.tNow.toInt := by
    rw [Int32.toInt_sub_of_fits] <;> omega
  have hprod : (waitMicros m).toInt =
      1000000 * (m.door.lastMove.toInt + 600 - m.clk.tNow.toInt) := by
    rw [waitMicros, Int32.toInt_mul_of_fits] <;> rw [hmicros, hdiff] <;> omega
  have hconv : ((toMicros (waitMicros m)).toNat : Int) = (waitMicros m).toInt :=
    toNat_toMicros (by omega)
  exact ⟨hsum, hsucc, hdiff, hprod, hconv, by omega, by omega⟩

theorem ExactPause.clockInOrder {m : Moment} (h : ExactPause m) : ClockInOrder m := by
  have hconv := h.conversion
  rw [h.product] at hconv
  have hmost := h.most
  have hlt := Int32.toInt_lt (m.door.lastMove + tDeltaMin)
  have hlt' := Int32.toInt_lt (m.clk.tNow + 1)
  rw [h.sum] at hlt
  rw [h.succ] at hlt'
  exact ⟨by omega, by omega, by omega⟩

/-! ## Where the timer comes from -/

/-- A delay that a light check or a pass of the trace has enabled. -/
def Enabled (tr : List Event) (us : UInt64) : Prop :=
  us = toMicros (sToUs * luxDebounceTime) ∨ us = toMicros (sToUs * tSens) ∨
    ∃ m, PauseTimer m tr ∧ us = toMicros (waitMicros m)

/-- The timer that is enabled was enabled by a light check or by a pass. -/
def TimerKnown (w : World) : Prop := ∀ us, w.timer = some us → Enabled w.trace us

section Known

variable {ω : Env} {w w' : World}

/-- What happens later does not change where a timer comes from. -/
theorem TimerKnown.later (h : TimerKnown w) (ht : w'.timer = w.timer) (hs : w.trace <:+ w'.trace) :
    TimerKnown w' := by
  intro us hus
  rw [ht] at hus
  rcases h us hus with hd | hd | ⟨m, hm, heq⟩
  · exact .inl hd
  · exact .inr (.inl hd)
  · exact .inr (.inr ⟨m, hm.of_suffix hs, heq⟩)

/-- A light check enables one of two delays. -/
theorem timerKnown_measured (ω : Env) (w : World) (pos : Klappenposition) :
    TimerKnown (measured ω w pos) := by
  intro us hus
  have hcount : (counted (hitsNow ω w pos) w.sched.ramCounter).2 = us := Option.some.inj hus
  unfold counted at hcount
  split at hcount
  · exact .inl hcount.symm
  · exact .inr (.inl hcount.symm)

/-- The pass that has just begun is the newest one. -/
theorem Silent.lastPass {pos : Klappenposition} {a : DoorDayAlarm} (h : Silent pos a w w') :
    lastPass w'.trace = some w.moment := by
  refine h.trace.keeps (P := fun tr => Spec.lastPass tr = some w.moment) (fun e tr he htr => ?_) rfl
  cases e with
  | setAlarm => exact htr
  | _ => cases he

theorem timer_blind (ω : Env) (timer : Option UInt64) : Blind ω fun w => w.timer = timer where
  observe := fun _ h => h
  door := fun _ _ _ h => h
  pins := fun _ _ h => h
  emit := fun _ _ _ h => h
  store := fun _ _ _ _ h => h

theorem timer_clockKept (timer : Option UInt64) : ClockKept fun w => w.timer = timer where
  updated := fun _ _ _ h => h
  clk := fun _ _ h => h
  setTime := fun _ _ _ h => h
  menu := fun _ _ _ _ h => h

variable [TimeLib]

/-- A pass that waits enables the timer for the rest of the pause. -/
theorem Pass.timerKnown {pos : Klappenposition} {a : DoorDayAlarm} {mode : OpeningMode}
    (h : Pass ω pos a mode w w') (hw : TimerKnown w) : TimerKnown w' := by
  obtain ⟨w₁, h₁, hl⟩ := h.carried
  have hprog : TimerKnown w₁ := by
    refine hw.later h₁.silent.timer ?_
    exact (List.suffix_cons _ _).trans h₁.silent.trace.suffix
  cases hl with
  | off => exact hprog
  | waiting _ hp =>
    intro us hus
    have hpause : pauseLeft w₁ = us := Option.some.inj hus
    have hwait : MustWait w.moment := by
      show w.door.lastMove + tDeltaMin > w.clk.tNow + 1
      rw [← h₁.door, ← h₁.clk]
      exact hp
    refine .inr (.inr ⟨w.moment, ⟨_, _, _, w₁.trace, List.suffix_refl _, h₁.silent.lastPass, hwait⟩, ?_⟩)
    rw [← hpause, pauseLeft, h₁.door, h₁.clk]
    rfl
  | armed _ _ => exact hprog.later rfl (List.suffix_cons _ _)
  | measured _ _ => exact timerKnown_measured ω _ pos

/-- One action of a status check or of a move. -/
theorem Work.timerKnown (h : Work ω w w') (hw : TimerKnown w) : TimerKnown w' := by
  have hs : w.trace <:+ w'.trace := h.aside.trace.suffix
  have hb := timer_blind ω w.timer
  cases h with
  | startMove _ hrun => exact hw.later (wp_run (hb.startMove w rfl) hrun) hs
  | iterate _ _ pos _ _ _ _ hrun => exact hw.later (wp_run (hb.moveIteration pos w rfl) hrun) hs
  | finishMove _ _ _ _ _ hrun => exact hw.later (wp_run (hb.finishMove w rfl) hrun) hs
  | pass _ pos a mode hp => exact hp.timerKnown hw
  | stray _ pos _ _ _ hst => exact hw.later hst.silent.timer hs
  | _ => exact hw.later rfl hs

/-- One action between two resets. -/
theorem Act.timerKnown (h : Act ω w w') (hw : TimerKnown w) : TimerKnown w' := by
  have hs : w.trace <:+ w'.trace := h.suffix
  have hc := timer_clockKept w.timer
  cases h with
  | wake _ hwake =>
    cases hwake with
    | work _ hwork => exact hwork.timerKnown hw
    | measure => exact timerKnown_measured ω w _
    | _ => exact hw.later rfl hs
  | setTime _ action _ hrun =>
    exact hw.later (wp_run (hc.screen300 action ω (entered w action) rfl) hrun) hs
  | setDate _ action _ hrun =>
    exact hw.later (wp_run (hc.screen400 action ω (entered w action) rfl) hrun) hs
  | _ => exact hw.later rfl hs

/-- A reset disables the timer. -/
theorem Rebooted.timerKnown {w₀ : World} (h : Rebooted ω w₀ w) (h₀ : w₀.timer = none) :
    TimerKnown w := by
  intro us hus
  rw [h.timer, h₀] at hus
  cases hus

/-! ## Every run -/

/-- In every run, each timer of a pause is enabled with an exact delay between one second and
    `t_delta_min` if and only if the clock is in order at that moment; and as long as it always was,
    no timer that the device ever waits for is shorter or longer. -/
theorem pause_timer_iff {w₀ : World} {p : Phase} (hr : LossyRun ω w₀ (p, w)) :
    (∀ m, PauseTimer m w.trace → (ExactPause m ↔ ClockInOrder m)) ∧
      ((∀ m, PauseTimer m w.trace → ClockInOrder m) → ∀ us, w.timer = some us →
        1000000 ≤ us.toNat ∧ us.toNat ≤ 600 * 1000000) := by
  have hknown : TimerKnown w :=
    LossyRun.invariant hr (fun _ _ ha => ha.timerKnown) (fun _ hb => hb.timerKnown rfl)
      (fun _ _ _ _ hb => hb.timerKnown rfl) (fun _ _ _ hb => hb.timerKnown rfl)
  constructor
  · intro m hm
    exact ⟨fun he => he.clockInOrder, fun hc => hc.exactPause hm.mustWait⟩
  · intro horder us hus
    rcases hknown us hus with rfl | rfl | ⟨m, hm, rfl⟩
    · decide
    · decide
    · have hexact := (horder m hm).exactPause hm.mustWait
      exact ⟨hexact.least, hexact.most⟩

end Known

/-! The door is down, opens by light and has never moved.  In the year 2050 the clock reads as a
negative number, so that the pause after the move that never was seems to be on: the delay does not
fit into 32 bits, and what is left of it becomes more than half a million years.  In 2024 the
pause of a door that has moved five minutes ago lasts five minutes more. -/

/-- Friday, 2050-06-03, 3 o'clock. -/
def fridayMorning : RtcTime := { hours := 3, date := 3, month := 6, year := 2050, weekday := 5 }

/-- The inputs of the run. -/
def lateEnv : Env := fun _ => { milliVolts := 1000, rtc := fridayMorning }

/-- The device after its power-on. -/
def lateAwake : Reached lateEnv { nvs := duskNvs } .awake := .powerOn 20 (by decide +kernel)

/-- The events before the sensor was armed. -/
def beforeLate : List Event := before (.lightArmed .posUp 5 fridayMorning) lateAwake.world.trace

/-- The pass of the run. -/
def latePass : Moment := (lastPass beforeLate).get (by decide +kernel)

theorem pauseTimer_latePass : PauseTimer latePass lateAwake.world.trace := by
  have harmed : .lightArmed .posUp 5 fridayMorning :: beforeLate <:+ lateAwake.world.trace :=
    before_suffix (by decide +kernel)
  have hpass : lastPass beforeLate = some latePass := by rw [latePass, Option.some_get]
  have hwait : latePass.door.lastMove + tDeltaMin > latePass.clk.tNow + 1 := by decide +kernel
  exact ⟨_, _, _, _, harmed, hpass, hwait⟩

/-- The inputs of the run in which five minutes of the pause are over. -/
def pausedEnv : Env := fun _ => { milliVolts := 1000, rtc := { noonMonday with minutes := 5 } }

/-- The flash of that run: the last move was at noon. -/
def pausedNvs : Nvs := (duskNvs.put .initLastMove 1).put .lastMove 1717416000

/-- The device after its power-on. -/
def pausedAwake : Reached pausedEnv { nvs := pausedNvs } .awake := .powerOn 20 (by decide +kernel)

theorem pause_timer_iff_pausedAwake :
    pausedAwake.world.timer = some 300000000 ∧
      ∀ m, PauseTimer m pausedAwake.world.trace → (ExactPause m ↔ ClockInOrder m) := by
  have hall := pause_timer_iff pausedAwake.powered.lossy
  exact ⟨by decide +kernel, hall.1⟩

/-- In 2050 the pause of the device that has never moved is not over for half a million years. -/
theorem pause_timer_overflows :
    ¬ ∀ (ω : Env) (w₀ : World) (p : Phase) (w : World), LossyRun ω w₀ (p, w) →
      ∀ m, PauseTimer m w.trace → ExactPause m := by
  intro hall
  have hexact := hall lateEnv _ _ _ lateAwake.powered.lossy latePass pauseTimer_latePass
  have hhuge : ¬ (toMicros (waitMicros latePass)).toNat ≤ 600 * 1000000 := by decide +kernel
  exact hhuge hexact.most

end Eggvault.Spec
