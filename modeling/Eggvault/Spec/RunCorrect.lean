import Eggvault.Native.Calendar
import Eggvault.Spec.MenuCorrect

/-!
# Runs of the device

The invariant of each phase holds along every run: through any order of calls of
`loop`, wake-ups, losses of power and readings of the inputs.

## Key results

- `run_invariant`: `Awake`, `Asleep` or a safe trace, in every state of every run
- `sleep_occasions`: when and why the device goes to sleep
- `motor_lines_safe`: the motor lines, after every single write
- `manual_mode_respected`: what may be pending while the door is in manual mode
-/

namespace Eggvault.Spec

open Eggvault.Native Prog Trace

/-! ## The invariant of each phase -/

/-- What holds between two calls. -/
def PhaseOk (valid : Prop) : Phase × World → Prop
  | (.awake, w) => Awake valid w
  | (.asleep, w) => Asleep valid w
  | (.busy, w) => TraceOk valid w.trace

theorem PhaseOk.trace {valid : Prop} {p : Phase} {w : World} (h : PhaseOk valid (p, w)) :
    TraceOk valid w.trace := by
  cases p with
  | awake => exact Awake.base h |>.trace
  | asleep => exact Asleep.base h |>.trace
  | busy => exact h

/-- What flash holds between two calls. -/
theorem PhaseOk.base {valid : Prop} {p : Phase} {w : World} (h : PhaseOk valid (p, w))
    (hp : p ≠ .busy) : Base valid w ∧ (valid → NoFailure w.trace → LineFresh w) := by
  cases p with
  | awake => exact ⟨Awake.base h, Awake.fresh h⟩
  | asleep => exact ⟨Asleep.base h, Asleep.fresh h⟩
  | busy => exact absurd rfl hp

/-- The phase after a call follows from its specification. -/
theorem phaseOk_afterCall {valid : Prop} {ω : Env} {w : World} {m : Fw Unit}
    (h : wp m (running valid) ω w) : PhaseOk valid (afterCall (m ω w)) := by
  rw [wp_iff] at h
  cases hm : m ω w with
  | done a w' => rw [hm] at h; exact h
  | halt w' => rw [hm] at h; exact h
  | pending w' => rw [hm] at h; exact h

/-! ## Resets -/

section Resets

variable {valid : Prop} {w : World}

/-- A first power-on, with any flash and any RTC. -/
theorem off_powerOn (w₀ : World) :
    Off (StoredModes w₀.nvs) w₀.firstPowerUp where
  sched := rfl
  menu := rfl
  door := rfl
  timer := rfl
  fwd := rfl
  back := rfl
  held := by intro h; cases h
  trace := traceOk_nil
  levels := rfl
  rest := rfl
  fresh := fun _ _ _ => rfl
  stored := fun h => h
  line := by intro h; cases h
  armed := by intro h; cases h
  noError := by intro h; cases h

/-- A loss of power between two calls. -/
theorem off_powerUp (hb : Base valid w) (hf : valid → NoFailure w.trace → LineFresh w) :
    Off valid w.powerUp where
  sched := rfl
  menu := rfl
  door := rfl
  timer := rfl
  fwd := rfl
  back := rfl
  held := by intro h; cases h
  trace := hb.trace
  levels := hb.levels
  rest := hb.rest
  fresh := hf
  stored := hb.stored
  line := by intro h; cases h
  armed := by intro h; cases h
  noError := by intro h; cases h

/-- The flags that a boot restores are those of the device that went to sleep. -/
theorem Asleep.restoredFlags (h : Asleep valid w) :
    restoredFlags w.nvs w.rtc.ram = (w.sched.ramCounter, w.sched.ldrFlag, w.sched.alarmFlag) := by
  unfold Spec.restoredFlags
  rw [← h.base.flag]
  split
  · next h0 =>
    obtain ⟨hl, ha, hc⟩ := h.base.unset h0
    rw [hl, ha, hc]
  · rw [h.ram]
    exact unpack_packRam h.base.counter _ _

/-- A wake-up from deep sleep. -/
theorem Asleep.off (h : Asleep valid w) {s : Sample} {cause : WakeupCause}
    (hw : wakes (w.observe s) s cause) : Off valid ((w.observe s).reset cause) where
  sched := rfl
  menu := rfl
  door := rfl
  timer := rfl
  fwd := rfl
  back := rfl
  held := h.base.held
  trace := h.base.observe.trace
  levels := h.base.observe.levels
  rest := h.base.observe.rest
  fresh := fun hv hf => (h.fresh hv ((Quiet.observe w s).noFailure hf)).observe
  stored := h.base.stored
  line := by
    intro hc
    have hc' : cause = .ext1 .clkInt := hc
    rw [hc'] at hw
    exact hw
  -- a timer wake-up recalls the flag that the pass before the sleep has set
  armed := by
    intro hc pos hpos hup
    have hc' : cause = .timer := hc
    rw [hc'] at hw
    have hflags : (Spec.restoredFlags w.nvs w.rtc.ram).2.1 = pos := hpos
    rw [h.restoredFlags] at hflags
    subst hflags
    obtain ⟨v, hv⟩ := h.base.light hw hup
    exact ⟨v, lastArmed_observe.trans hv⟩
  noError := by
    intro _ h0
    have h0' : (w.nvs.get .initNox).getD 0 ≠ 0 := h0
    rw [← h.base.nox] at h0'
    exact h.storedError h0'

end Resets

/-! ## Runs -/

section Runs

variable [TimeLib] {ω : Env} {w₀ w : World} {p : Phase}

/-- One step of the powered device keeps the invariant. -/
theorem step_phaseOk {valid : Prop} {s s' : Phase × World} (hs : Step ω s s')
    (h : PhaseOk valid s) : PhaseOk valid s' := by
  cases hs with
  | loop n w => exact phaseOk_afterCall (loop_running n h)
  | wake n w cause hw => exact phaseOk_afterCall (boot_running n (Asleep.off h hw))

/-- The invariant holds in every state of every run. -/
theorem run_invariant {s : Phase × World} (h : Run ω w₀ s) : PhaseOk (StoredModes w₀.nvs) s := by
  induction h with
  | powerOn n => exact phaseOk_afterCall (boot_running n (off_powerOn w₀))
  | step _ hs ih => exact step_phaseOk hs ih
  | powerCycle n _ hp ih =>
    obtain ⟨hb, hf⟩ := ih.base hp
    exact phaseOk_afterCall (boot_running n (off_powerUp hb hf))

end Runs

/-! ## A concrete run

A blank device with the door down sleeps after the idle time; a long press of the forward
button wakes it and drives the door up. -/

/-- The inputs of the run: the door reaches the top at reading 37. -/
def longPressEnv : Env := fun n =>
  { endUp := decide (n ≥ 37), endLow := decide (n ≥ 37), swFwd := decide (n < 30)
    millis := UInt32.ofNat (if n < 16 then n * 1000000 else n * 3000) }

/-- The blank device after its power-on. -/
def blankAwake : Reached longPressEnv {} .awake := .powerOn 12 (by decide +kernel)

/-- The blank device after the idle time. -/
def blankAsleep : Reached longPressEnv {} .asleep := blankAwake.loop 12 (by decide +kernel)

/-- The device after the long press. -/
def drivenUp : Reached longPressEnv {} .asleep :=
  blankAsleep.wake 12 (.ext1 .swFwd) (by decide +kernel) (by decide +kernel)

/-- Nothing is stored in a blank flash. -/
theorem storedModes_empty : StoredModes KeyStore.empty where
  opening := by intro t ht; cases ht
  closing := by intro t ht; cases ht

/-! ## Results -/

section Results

variable {ω : Env} {w₀ w : World} {p : Phase}

/-- Deep sleep is entered without an error, and only while a wake-up by the alarm, the timer
    or a long press is handled, after the idle time, or by SELECT on screen 700; and `loop`
    always finds the menu active. -/
theorem sleep_occasions [TimeLib] (hr : Run ω w₀ (p, w)) (hm : StoredModes w₀.nvs) :
    (p = .asleep → w.door.errorFlag = .noError ∧ MaySleep w.dispatch) ∧
      (p = .awake → w.menu.menuActive = true) := by
  have h := run_invariant hr
  constructor
  · rintro rfl
    exact ⟨Asleep.noError h hm, Asleep.dispatch h⟩
  · rintro rfl
    exact Awake.active h

theorem sleep_occasions_idle :
    blankAsleep.world.door.errorFlag = .noError ∧ MaySleep blankAsleep.world.dispatch :=
  (sleep_occasions blankAsleep.run storedModes_empty).1 rfl

/-- The motor lines are never both high, agree with the direction at the end of each
    iteration and are low outside the loop, at every moment of every run. -/
theorem motor_lines_safe [TimeLib] (hr : Run ω w₀ (p, w)) :
    Historically MotorSafe w.trace ∧
      (p ≠ .busy → w.pins.fwd = false ∧ w.pins.back = false) := by
  have h := run_invariant hr
  refine ⟨h.trace.motor, fun hp => ?_⟩
  obtain ⟨hb, -⟩ := h.base hp
  exact ⟨hb.fwd, hb.back⟩

theorem motor_lines_safe_drivenUp :
    .motorIteration .movingUp ∈ drivenUp.world.trace ∧ Historically MotorSafe drivenUp.world.trace :=
  ⟨by decide +kernel, (motor_lines_safe drivenUp.run).1⟩

/-- Whenever the device sleeps in manual mode, nothing is set up to open the door and light
    is not set up to close it. -/
theorem manual_mode_respected [TimeLib] (hr : Run ω w₀ (.asleep, w)) (hm : w.sched.manualFlag = true) :
    w.sched.ldrFlag = .posBlocked ∧ w.sched.alarmFlag ≠ .posUp :=
  Asleep.manual (run_invariant hr) hm

theorem manual_mode_respected_drivenUp :
    drivenUp.world.sched.manualFlag = true ∧ drivenUp.world.sched.ldrFlag = .posBlocked ∧
      drivenUp.world.sched.alarmFlag ≠ .posUp :=
  ⟨by decide +kernel, manual_mode_respected drivenUp.run (by decide +kernel)⟩

end Results

end Eggvault.Spec
