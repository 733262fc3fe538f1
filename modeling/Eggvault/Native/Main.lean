import Eggvault.Native.Menu

/-!
# Wake-up handling, `setup`, `loop` and runs of the device

A boot runs `setup` once, then `loop` again and again until deep sleep is entered.
Deep sleep keeps the flash, the RTC and a pad hold; everything else starts over at
the next wake-up.
-/

namespace Eggvault.Native

open Prog

variable [TimeLib]

/-! ## Wake-up handling -/

/-- `alarmWakeupHandling`. -/
def alarmWakeupHandling (n : Nat) : Fw Unit := do
  match (← get).sched.alarmFlag with
  | .posDown => do
    emit (.alarmMove .posDown (← get).tick)
    moveMotor n .posDown
  | .posUp => do
    emit (.alarmMove .posUp (← get).tick)
    moveMotor n .posUp
  | .posBlocked => statusabfrage n
  | .posDriving => do
    emit (.raised .wrongAlarmFlag)
    modifyDoor fun d => { d with errorFlag := .wrongAlarmFlag }
    statusabfrage n

/-- The loop of `checkLongPressStartup`, with so many rounds left before the safety
    escape. -/
def longPressLoop (sw : InPin) : Nat → Fw Bool
  | 0 => pure false
  | k + 1 => do
    let now ← millis
    if now - (← get).btn.previousMillis ≤ longPressStartupDuration then
      if ← digitalRead sw then longPressLoop sw k
      else pure false -- button was released too early
    else pure true

/-- `checkLongPressStartup`. -/
def checkLongPressStartup (sw : InPin) : Fw Bool := longPressLoop sw 5001

/-- `timerWakeupHandling`. -/
def timerWakeupHandling (n : Nat) : Fw Unit := do
  let again ← activateLDR n
  when (again ≠ 0) prepForDeepSleep

/-- The cases `SW_BACK` and `SW_FWD` of `wakeupHandling`: a long press moves the
    door, a short one opens the menu. -/
def longPressWakeup (n : Nat) (sw : InPin) (pos : Klappenposition) : Fw Unit := do
  let now ← millis
  modifyBtn fun b => { b with previousMillis := now }
  if ← checkLongPressStartup sw then
    setDispatch .wakeLongPress
    modifySched fun s => { s with manualFlag := true }
    modifyMenu fun m => { m with menuActive := false }
    moveMotor n pos
  else
    modifyMenu fun m => { m with menuActive := true }

/-- `wakeupHandling` restores `manualFlag` from the level of the LED pad. -/
def restoreManualFlag : Fw Unit := do
  -- the variable is lost in deep sleep; the held pad is its only copy
  modifySched fun s => { s with manualFlag := false }
  when ((← digitalRead .led) = true) do
    modifySched fun s => { s with manualFlag := true }

/-- The second look at the LED pad, on a wake-up by a pin. -/
def restoreManualFlagExt1 : Fw Unit := do
  when ((← digitalRead .led) = true) do
    modifySched fun s => { s with manualFlag := true }

/-- The inner `switch` of `wakeupHandling`. -/
def ext1Wakeup (n : Nat) (pin : WakePin) : Fw Unit :=
  match pin with
  | .clkInt => do
    setDispatch .wakeAlarm
    -- an alarm ends the manual mode
    modifySched fun s => { s with manualFlag := false }
    modifyMenu fun m => { m with menuActive := false }
    alarmWakeupHandling n
  | .swBack => longPressWakeup n .swBack .posDown
  | .swFwd => longPressWakeup n .swFwd .posUp
  | _ => modifyMenu fun m => { m with menuActive := true }

/-- `wakeupHandling`. -/
def wakeupHandling (n : Nat) : Fw Unit := do
  let cause := (← get).wakeup
  emit (.booted cause)
  restoreManualFlag
  match cause with
  | .ext1 pin => do
    restoreManualFlagExt1
    ext1Wakeup n pin
  | .timer => do
    setDispatch .wakeTimer
    modifySched fun s => { s with manualFlag := false }
    modifyMenu fun m => { m with menuActive := false }
    timerWakeupHandling n
  | .undefined => modifyMenu fun m => { m with menuActive := true }

/-! ## `setup` and `loop` -/

/-- `setup` up to the call of `wakeupHandling`. -/
def setupStart : Fw Unit := do
  readValuesFromFlash
  timeUpdate
  dateUpdate

/-- `setup` after the call of `wakeupHandling`. -/
def setupEnd (n : Nat) : Fw Unit := do
  if (← get).sched.fInitNox = 0 then
    modifyMenu fun m => { m with menuId := 1 }
  else
    setDispatch .setupStatus
    -- reached after every wake-up that has not led back to deep sleep
    statusabfrage n
    modifyMenu fun m => { m with menuId := 0 }
  let now ← millis
  modifyBtn fun b => { b with blinkZero := now }

/-- `setup`. -/
def setup (n : Nat) : Fw Unit := do
  setupStart
  wakeupHandling n
  setupEnd n

/-- The screens that `loop` redraws with the blink. -/
def blinkingScreen (m : Menu) : Bool :=
  (m.menuId == 300 && m.timeSetMode == .setNothing) || m.menuId == 0 || m.menuId == 810 ||
    m.menuId == 1 || m.menuId == 2

/-- The blink and refresh part of `loop`. -/
def blinkUpdate : Fw Unit := do
  let now ← millis
  if ((now - (← get).btn.blinkZero) / 500) % 2 = 0 then
    modifyMenu fun m =>
      if m.blink && blinkingScreen m then
        { m with
          menuRefreshFlag := true, blink := false
          blinkCount := if m.blinkCount + 1 > blinkFactor * 8 - 1 then 0 else m.blinkCount + 1 }
      else { m with blink := false }
  else
    modifyMenu fun m =>
      if !m.blink && blinkingScreen m then { m with menuRefreshFlag := true, blink := true }
      else { m with blink := true }

/-- The idle check of `loop`. -/
def idleCheck (n : Nat) : Fw Unit := do
  let now ← millis
  let elapsed := now - (← get).btn.lastPress
  when (elapsed ≥ noxSleepTime ∧ (← get).door.errorFlag = .noError) do
    setDispatch (.loopIdle elapsed)
    modifyMenu fun m => { m with menuActive := false }
    statusabfrage n

/-- `loop`. -/
def loop (n : Nat) : Fw Unit := do
  if ← digitalRead .clkInt then
    -- the line is looked at before anything else
    setDispatch .loopAlarm
    alarmWakeupHandling n
  else
    idleCheck n
    blinkUpdate
    when ((← get).door.errorFlag ≠ .noError) do
      modifyMenu fun m => { m with menuId := 2 }
    when ((← get).sched.manualFlag = true) (digitalWrite .led true)
    menuUpdate n

/-! ## Boots and runs -/

/-- The initialisers of the timing globals. -/
def initGlobals : Fw Unit := do
  -- one call of `millis` for each initialiser, in the order of the declarations
  let previousMillis ← millis
  let lastPress ← millis
  let blinkZero ← millis
  let longPressStart ← millis
  modifyBtn fun b => { b with
    previousMillis := previousMillis, lastPress := lastPress, blinkZero := blinkZero,
    longPressStart := longPressStart }
  let moveZero ← millis
  let blockZero ← millis
  let downwardsTimer ← millis
  modifyDoor fun d => { d with
    moveZero := moveZero, blockZero := blockZero, downwardsTimer := downwardsTimer }

/-- From reset to the first call of `loop`. -/
def boot (n : Nat) : Fw Unit := do
  initGlobals
  setup n

/-- What a reset leaves: the flash, the RTC registers and the pad hold. -/
def World.reset (w : World) (cause : WakeupCause) : World :=
  { nvs := w.nvs, rtc := { w.rtc with snapshot := {} }, pins := { held := w.pins.held },
    wakeup := cause, tick := w.tick, trace := w.trace }

/-- A power-on also releases the pad hold. -/
def World.powerUp (w : World) : World := { w.reset .undefined with pins := {} }

/-- What the device is doing between two calls: about to call `loop`, in deep sleep,
    or still inside a call. -/
inductive Phase where
  | awake | asleep | busy
  deriving Repr, DecidableEq

/-- The state of the device that the outcome of a call leads to. -/
def afterCall : Outcome World Unit → Phase × World
  | .done _ w => (.awake, w)
  | .halt w => (.asleep, w)
  | .pending w => (.busy, w)

/-- A wake-up source is active: the RTC line, a button, or an enabled timer. -/
def wakes (w : World) (s : Sample) : WakeupCause → Prop
  | .ext1 .clkInt => w.rtc.clkInt = true
  | .ext1 .swExit => s.swExit = true
  | .ext1 .swSelect => s.swSelect = true
  | .ext1 .swBack => s.swBack = true
  | .ext1 .swFwd => s.swFwd = true
  | .ext1 .other => True
  | .timer => w.timer.isSome = true
  | .undefined => False

instance (w : World) (s : Sample) (cause : WakeupCause) : Decidable (wakes w s cause) :=
  match cause with
  | .ext1 .clkInt => inferInstanceAs (Decidable (w.rtc.clkInt = true))
  | .ext1 .swExit => inferInstanceAs (Decidable (s.swExit = true))
  | .ext1 .swSelect => inferInstanceAs (Decidable (s.swSelect = true))
  | .ext1 .swBack => inferInstanceAs (Decidable (s.swBack = true))
  | .ext1 .swFwd => inferInstanceAs (Decidable (s.swFwd = true))
  | .ext1 .other => .isTrue trivial
  | .timer => inferInstanceAs (Decidable (w.timer.isSome = true))
  | .undefined => .isFalse id

/-- One step of the powered device: a call of `loop`, or a wake-up from deep sleep. -/
inductive Step (ω : Env) : Phase × World → Phase × World → Prop where
  | loop (n : Nat) (w : World) : Step ω (.awake, w) (afterCall (loop n ω w))
  | wake (n : Nat) (w : World) (cause : WakeupCause)
      (h : wakes (w.observe (ω w.tick)) (ω w.tick) cause) :
      Step ω (.asleep, w) (afterCall (boot n ω ((w.observe (ω w.tick)).reset cause)))

/-- The device at its first power-on, with the flash and the RTC of `w₀`. -/
def World.firstPowerUp (w₀ : World) : World := { w₀.powerUp with tick := 0, trace := [] }

/-- The runs of a device that is powered on with the flash and the RTC of `w₀`.
    Power may be lost whenever no call is under way. -/
inductive Run (ω : Env) (w₀ : World) : Phase × World → Prop where
  | powerOn (n : Nat) : Run ω w₀ (afterCall (boot n ω w₀.firstPowerUp))
  | step {s s' : Phase × World} : Run ω w₀ s → Step ω s s' → Run ω w₀ s'
  | powerCycle (n : Nat) {p : Phase} {w : World} :
      Run ω w₀ (p, w) → p ≠ .busy → Run ω w₀ (afterCall (boot n ω w.powerUp))

/-- The runs in which power may also be lost in the middle of a call.  A call is cut where
    its step budget ends, so never between the stores of a save. -/
inductive LossyRun (ω : Env) (w₀ : World) : Phase × World → Prop where
  | powerOn (n : Nat) : LossyRun ω w₀ (afterCall (boot n ω w₀.firstPowerUp))
  | step {s s' : Phase × World} : LossyRun ω w₀ s → Step ω s s' → LossyRun ω w₀ s'
  | powerLoss (n : Nat) {s : Phase × World} :
      LossyRun ω w₀ s → LossyRun ω w₀ (afterCall (boot n ω s.2.powerUp))

/-- The runs in which the device keeps its power. -/
inductive PoweredRun (ω : Env) (w₀ : World) : Phase × World → Prop where
  | powerOn (n : Nat) : PoweredRun ω w₀ (afterCall (boot n ω w₀.firstPowerUp))
  | step {s s' : Phase × World} : PoweredRun ω w₀ s → Step ω s s' → PoweredRun ω w₀ s'

theorem PoweredRun.run {ω : Env} {w₀ : World} {s : Phase × World} (h : PoweredRun ω w₀ s) :
    Run ω w₀ s := by
  induction h with
  | powerOn n => exact .powerOn n
  | step _ hs ih => exact .step ih hs

theorem PoweredRun.lossy {ω : Env} {w₀ : World} {s : Phase × World} (h : PoweredRun ω w₀ s) :
    LossyRun ω w₀ s := by
  induction h with
  | powerOn n => exact .powerOn n
  | step _ hs ih => exact .step ih hs

/-- So many calls of `loop`, up to the first one that does not return. -/
def loops (n : Nat) (ω : Env) : Nat → World → Phase × World
  | 0, w => (.awake, w)
  | k + 1, w =>
    match afterCall (loop n ω w) with
    | (.awake, w') => loops n ω k w'
    | s => s

theorem PoweredRun.loops {ω : Env} {w₀ w : World} (h : PoweredRun ω w₀ (.awake, w)) (n k : Nat) :
    PoweredRun ω w₀ (loops n ω k w) := by
  induction k generalizing w with
  | zero => exact h
  | succ k ih =>
    have hstep : PoweredRun ω w₀ (afterCall (loop n ω w)) := .step h (.loop n w)
    unfold Native.loops
    split
    · next w' heq =>
      rw [heq] at hstep
      exact ih hstep
    · exact hstep

/-- A state of the device between two calls, with the run that leads to it. -/
structure Reached (ω : Env) (w₀ : World) (p : Phase) where
  world : World
  powered : PoweredRun ω w₀ (p, world)

namespace Reached

variable {ω : Env} {w₀ : World} {p : Phase}

theorem run (r : Reached ω w₀ p) : Run ω w₀ (p, r.world) := r.powered.run

/-- The state that a call leads to, once its phase has been computed. -/
def ofCall {s : Phase × World} (hr : PoweredRun ω w₀ s) (h : s.1 = p) : Reached ω w₀ p :=
  ⟨s.2, by rw [← h]; exact hr⟩

/-- The state after the power-on. -/
def powerOn (n : Nat) (h : (afterCall (boot n ω w₀.firstPowerUp)).1 = p) : Reached ω w₀ p :=
  ofCall (.powerOn n) h

/-- The state after the next call of `loop`. -/
def loop (r : Reached ω w₀ .awake) (n : Nat) (h : (afterCall (Native.loop n ω r.world)).1 = p) :
    Reached ω w₀ p :=
  ofCall (.step r.powered (.loop n r.world)) h

/-- The state after so many calls of `loop`. -/
def loops (r : Reached ω w₀ .awake) (n k : Nat) (h : (Native.loops n ω k r.world).1 = p) :
    Reached ω w₀ p :=
  ofCall (r.powered.loops n k) h

/-- The state after a wake-up. -/
def wake (r : Reached ω w₀ .asleep) (n : Nat) (cause : WakeupCause)
    (hw : wakes (r.world.observe (ω r.world.tick)) (ω r.world.tick) cause)
    (h : (afterCall (boot n ω ((r.world.observe (ω r.world.tick)).reset cause))).1 = p) :
    Reached ω w₀ p :=
  ofCall (.step r.powered (.wake n r.world cause hw)) h

end Reached

end Eggvault.Native
