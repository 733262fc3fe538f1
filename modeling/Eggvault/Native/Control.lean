import Eggvault.Native.Flash

/-!
# Scheduler and motor control

`activateLDR`, `setNextOpeningAlarm`, `setNextClosingAlarm`, `statusabfrage` and
`moveMotor` call each other in a cycle, so they are defined together over a step
budget that every call and every iteration of the motor loop uses up.  Parts of
their bodies that contain no call of the cycle, or only one that can be passed
in, stand before them.
-/

namespace Eggvault.Native

open Prog TimeLib

variable [TimeLib]

/-! ## Light -/

/-- The search loop of `VoltToLux` from index `i` on, with `k` rounds left. -/
def voltToLuxFrom (mV : UInt32) (i : Nat) : Nat → Nat
  | 0 => i
  | k + 1 =>
    -- the two nested tests of the source; no hit leaves the index at 9
    if mV > voltMap.getD i 0 ∧ mV < voltMap.getD (i + 1) 0 then i
    else voltToLuxFrom mV (i + 1) k

/-- `VoltToLux`. -/
def voltToLux (mV : UInt32) : UInt8 := UInt8.ofNat (voltToLuxFrom mV 0 9)

/-- `getLux`. -/
def getLux : Fw UInt8 := do
  let mV ← readMilliVolts
  pure (voltToLux mV)

/-- The conversion of an `int` to the `uint64_t` argument of the timer. -/
def toMicros (x : Int32) : UInt64 := x.toInt64.toUInt64

/-- What both branches of `activateLDR` do with the result of the comparison:
    count a hit and move once the counter is full, or start over. -/
def debounce (pos : Klappenposition) (hit : Bool) (move : Fw Unit) : Fw Int32 := do
  if hit then
    -- the counter survives deep sleep in the RTC RAM byte, so hits of several wake-ups add up
    modifySched fun s => { s with ramCounter := s.ramCounter + 1 }
    if (← get).sched.ramCounter ≥ luxDebounceNumber then
      modifySched fun s => { s with ramCounter := 0 }
      emit (.lightMove pos (← get).tick)
      move
      pure 0 -- so that an error does not lead to deep sleep
    else
      enableTimerWakeup (toMicros (sToUs * luxDebounceTime))
      pure 1
  else
    enableTimerWakeup (toMicros (sToUs * tSens))
    modifySched fun s => { s with ramCounter := 0 }
    pure 1

/-! ## Alarm registers -/

/-- `setAlarm`.  The weekday register is filled from the global `DoW`, not from
    the argument `mDoW`. -/
def setAlarm (mDoW mHour mMinute : UInt8) : Fw Unit := do
  emit (.setAlarm mDoW mHour mMinute)
  modify fun w => { w with rtc := { w.rtc with
    -- `clearAllInterruptFlags` also releases the interrupt line
    clkInt := false, armed := true, alarmMinute := mMinute, alarmHour := mHour,
    alarmMask := weekdays (dayIndex w.clk.dow) } }

/-- `setAlarmTomorrow0`. -/
def setAlarmTomorrow0 : Fw Unit := do
  let d := weekday (← get).clk.tNow
  if d ≥ 7 then setAlarm 1 0 0 else setAlarm (UInt8.ofNat (d + 1)) 0 0

/-- The alarm time of the day is still to come. -/
def notPassed (a : DoorDayAlarm) (t : Int32) : Prop :=
  a.hour.toNat * 60 + a.minute.toNat > hour t * 60 + minute t

instance (a : DoorDayAlarm) (t : Int32) : Decidable (notPassed a t) :=
  inferInstanceAs (Decidable (_ > _))

/-- The entry of a table for the day of `t`. -/
def todaysAlarm (table : WeekTable) (t : Int32) : DoorDayAlarm := table (dayIndex (weekday t))

/-! ## Parts of the schedulers -/

/-- Assign `alarmFlag`. -/
def setAlarmFlag (pos : Klappenposition) : Fw Unit :=
  modifySched fun s => { s with alarmFlag := pos }

/-- The block that starts the light sensor: wait until the pause after the last
    move is over, or measure at once. -/
def armLight (activateLDR : Fw Int32) : Fw Unit := do
  modifySched fun s => { s with ramCounter := 0 }
  let w ← get
  -- `time_t` has 32 bits here, and its sums may wrap
  if w.door.lastMove + tDeltaMin > w.clk.tNow + 1 then
    modifySched fun s => { s with ldrFlag := s.nextMove }
    emit (.lightArmed w.sched.nextMove w.sched.nextLux w.rtc.snapshot)
    enableTimerWakeup (toMicros (sToUs * (w.door.lastMove + tDeltaMin - w.clk.tNow)))
  else
    modifySched fun s => { s with ldrFlag := s.nextMove }
    emit (.lightArmed w.sched.nextMove w.sched.nextLux w.rtc.snapshot)
    let _ ← activateLDR
    pure ()

/-- Program the alarm time of the entry for today. -/
def setTodaysAlarm (a : DoorDayAlarm) : Fw Unit := do
  setAlarm (UInt8.ofNat (weekday (← get).clk.tNow)) a.hour a.minute

/-- The `switch` of `setNextOpeningAlarm` without its `default`. -/
def openingSwitch (a : DoorDayAlarm) (mode : OpeningMode) (activateLDR : Fw Int32) : Fw Unit := do
  let w ← get
  match mode with
  | .zeit =>
    -- in manual mode the alarm is the one that `startScheduling` has set
    when (w.sched.manualFlag = false) do
      if notPassed a w.clk.tNow then
        setAlarmFlag w.sched.nextMove
        setTodaysAlarm a
      else
        setAlarmFlag .posBlocked
        setAlarmTomorrow0
  | .licht =>
    -- light decides: the alarm only marks the end of the day
    setAlarmFlag .posBlocked
    setAlarmTomorrow0
    when (w.sched.manualFlag = false) (armLight activateLDR)
  | .lichtZeit =>
    when (w.sched.manualFlag = false) do
      if notPassed a w.clk.tNow then
        -- not before the time of the day: the alarm then runs the scheduler again
        setAlarmFlag .posBlocked
        setTodaysAlarm a
      else
        setAlarmFlag .posBlocked
        setAlarmTomorrow0
        armLight activateLDR
  | .nicht =>
    setAlarmFlag .posBlocked
    setAlarmTomorrow0

/-- The `switch` of `setNextClosingAlarm` without its `default`. -/
def closingSwitch (a : DoorDayAlarm) (mode : OpeningMode) (activateLDR : Fw Int32) : Fw Unit := do
  let w ← get
  match mode with
  | .zeit =>
    if notPassed a w.clk.tNow then
      setAlarmFlag w.sched.nextMove
      setTodaysAlarm a
    else
      setAlarmFlag .posBlocked
      setAlarmTomorrow0
  | .licht =>
    setAlarmFlag .posBlocked
    setAlarmTomorrow0
    when (w.sched.manualFlag = false) (armLight activateLDR)
  | .lichtZeit =>
    if notPassed a w.clk.tNow then
      setAlarmFlag w.sched.nextMove
      setTodaysAlarm a
      -- the alarm is the latest closing, light may come before it
      when (w.sched.manualFlag = false) (armLight activateLDR)
    else
      setAlarmFlag .posBlocked
      setAlarmTomorrow0
  | .nicht =>
    setAlarmFlag .posBlocked
    setAlarmTomorrow0

/-- The start of both schedulers, up to their `switch`, with the entry of the day: note
    the direction, the threshold and that flags have been set.  In manual mode the next
    evaluation is set to midnight. -/
def startScheduling (pos : Klappenposition) (a : DoorDayAlarm) : Fw Unit := do
  call (.setNextAlarm pos a)
  modifySched fun s => { s with
    nextMove := pos, ldrFlag := .posBlocked, alarmFlag := .posBlocked
    nextLux := a.lux.toUInt8 }
  when ((← get).sched.manualFlag = true) do
    setAlarmFlag .posBlocked
    setAlarmTomorrow0
  when ((← get).sched.fInitFlag = 0) do
    memoryPut .initFlag 1
    modifySched fun s => { s with fInitFlag := 1 }

/-- The end of both schedulers. -/
def finishScheduling : Fw Unit := do
  when ((← get).sched.manualFlag = true) (digitalWrite .led true)
  when ((← get).menu.menuActive = false) prepForDeepSleep

/-- The `default` label of both schedulers. -/
def wrongMode : Fw Unit := do
  when ((← get).menu.menuActive = false) do
    setAlarmTomorrow0
    emit (.raised .wrongAlarmMode)
    modifyDoor fun d => { d with errorFlag := .wrongAlarmMode }
    prepForDeepSleep

/-! ## Parts of `moveMotor` -/

/-- Start driving towards `pos` if the motor stands. -/
def startDrive (pos : Klappenposition) : Fw Unit := do
  -- a motor that turns keeps its direction
  when ((← get).door.doorDirection = .standing) do
    let now ← millis
    if pos = .posDown then
      modifyDoor fun d => { d with moveZero := now, doorDirection := .movingDown }
      digitalWrite .mFwd false
      digitalWrite .mBack true
    else
      modifyDoor fun d => { d with moveZero := now, doorDirection := .movingUp }
      digitalWrite .mFwd true
      digitalWrite .mBack false

/-- Both end switches low: the door is at the bottom. -/
def atBottom : Fw Unit := do
  let d := (← get).door
  if d.doorDirection = .movingDown then
    let now ← millis
    -- the motor goes on for `t_down_finish` seconds
    modifyDoor fun d => { d with downwardsTimer := now, doorDirection := .finishingDown }
  else if d.doorDirection = .finishingDown then
    let now ← millis
    when (now - d.downwardsTimer > tDownFinish * 1000) do
      modifyDoor fun d => { d with doorPosition := .posDown }
  else
    modifyDoor fun d => { d with doorPosition := .posDown }
    -- here the motor stands or drives up; both lead upwards
    when (d.doorDirection ≠ .movingUp) do
      let now ← millis
      modifyDoor fun d => { d with doorDirection := .movingUp, moveZero := now }
    digitalWrite .mFwd true
    digitalWrite .mBack false

/-- Upper switch low, lower switch high: the door is stuck. -/
def atBlocked (pos : Klappenposition) : Fw Unit := do
  startDrive pos
  -- the block timer starts once
  when ((← get).door.doorPosition ≠ .posBlocked) do
    let now ← millis
    modifyDoor fun d => { d with doorPosition := .posBlocked, blockZero := now }
  when ((← get).door.doorDirection = .finishingDown) do
    modifyDoor fun d => { d with doorDirection := .movingDown }

/-- Both end switches high: the door is at the top. -/
def atTop : Fw Unit := do
  modifyDoor fun d => { d with doorPosition := .posUp }
  let d := (← get).door
  when (d.doorDirection ≠ .movingDown ∧ d.doorDirection ≠ .finishingDown) do
    let now ← millis
    modifyDoor fun d => { d with doorDirection := .movingDown, moveZero := now }
  when ((← get).door.doorDirection = .finishingDown) do
    modifyDoor fun d => { d with doorDirection := .movingDown }
  digitalWrite .mFwd false
  digitalWrite .mBack true

/-- Upper switch high, lower switch low: the door is on its way. -/
def atDriving (pos : Klappenposition) : Fw Unit := do
  modifyDoor fun d => { d with doorPosition := .posDriving }
  let d := (← get).door
  when (d.doorDirection = .movingDown ∨ d.doorDirection = .finishingDown) do
    modifyDoor fun d => { d with doorDirection := .movingDown }
  startDrive pos

/-- The four sensor branches of an iteration. -/
def sensorBranch (pos : Klappenposition) (up low : Bool) : Fw Unit :=
  match up, low with
  | false, false => atBottom
  | false, true => atBlocked pos
  | true, true => atTop
  | true, false => atDriving pos

/-- An expired limit: light the LED and leave the loop with an error. -/
def limitExceeded (error : ErrorCode) : Fw Bool := do
  digitalWrite .led true
  emit (.raised error)
  modifyDoor fun d => { d with doorPosition := .posBlocked, errorFlag := error }
  pure true

/-- The timer checks of an iteration; `true` stands for `break`.  Both travel
    limits are compared with `t_err_close`. -/
def timerChecks : Fw Bool := do
  let blocked ← (do
    if (← get).door.doorPosition = .posBlocked then
      let now ← millis
      pure (decide (now - (← get).door.blockZero > tErrBlock * 1000))
    else pure false)
  if blocked then limitExceeded .timerBlockedElapsed
  else if (← get).door.doorDirection = .movingDown then
    let now ← millis
    if now - (← get).door.moveZero > tErrClose * 1000 then limitExceeded .timerCloseElapsed
    else pure false
  else if (← get).door.doorDirection = .movingUp then
    let now ← millis
    if now - (← get).door.moveZero > tErrClose * 1000 then limitExceeded .timerOpenElapsed
    else pure false
  else pure false

/-- The button check of an iteration, with the short circuits of `||`. -/
def buttonCheck : Fw Bool := do
  if ← digitalRead .swSelect then pure true
  else if ← digitalRead .swExit then pure true
  else if ← digitalRead .swBack then pure true
  else digitalRead .swFwd

/-- The button check with its `break`. -/
def buttonBreak : Fw Bool := do
  let pressed ← buttonCheck
  when (pressed = true) (emit .buttonBreak)
  pure pressed

/-- One iteration of the loop of `moveMotor`; `true` stands for going on. -/
def moveIteration (pos : Klappenposition) : Fw Bool := do
  emit (.motorEnter pos)
  let up ← digitalRead .endUp
  let low ← digitalRead .endLow
  emit (.endSwitches up low)
  sensorBranch pos up low
  let expired ← timerChecks
  let leave ← if expired then pure true else buttonBreak
  emit (.motorIteration (← get).door.doorDirection)
  pure (!leave)

/-- The loop of `moveMotor`. -/
def moveLoop (pos : Klappenposition) (n : Nat) : Fw Unit :=
  repeatWhile (do
    if (← get).door.doorPosition = pos then pure false else moveIteration pos) n

/-- `moveMotor` up to its loop: the motor stands and the position is read. -/
def startMove : Fw Unit := do
  call .moveMotor
  let up ← digitalRead .endUp
  let low ← digitalRead .endLow
  emit (.endSwitches up low)
  modifyDoor fun d => { d with
    doorDirection := .standing
    doorPosition := match up, low with
      | false, false => .posDown
      | false, true => .posDriving -- so that the loop starts the block timer
      | true, true => .posUp
      | true, false => .posDriving }

/-- `moveMotor` after its loop, up to the call of `statusabfrage`. -/
def finishMove : Fw Unit := do
  modifyDoor fun d => { d with errorFlag :=
    if d.doorPosition ≠ .posBlocked ∧ (d.errorFlag = .timerBlockedElapsed ∨
        d.errorFlag = .timerOpenElapsed ∨ d.errorFlag = .timerCloseElapsed)
    then .noError else d.errorFlag }
  digitalWrite .mFwd false
  digitalWrite .mBack false
  emit .motorStop
  let t := (← get).clk.tNow
  modifyDoor fun d => { d with
    doorDirection := .standing, lastMove := t, lastDoorPosition := d.doorPosition }
  memoryPut .lastMove t
  -- a key of 18 characters, which NVS refuses
  memoryPut .lastMovePosition (← get).door.doorPosition
  when ((← get).sched.fInitLastMove = 0) (memoryPut .initLastMove 1)

/-! ## Part of `statusabfrage` -/

/-- `statusabfrage` up to the test of `errorFlag`. -/
def readStatus : Fw Unit := do
  let up ← digitalRead .endUp
  let low ← digitalRead .endLow
  modifyDoor fun d =>
    match up, low with
    | false, false => { d with doorPosition := .posDown }
    -- the only sensor state that raises an error here
    | false, true => { d with doorPosition := .posBlocked, errorFlag := .timerBlockedElapsed }
    | true, true => { d with doorPosition := .posUp }
    | true, false => { d with doorPosition := .posDriving }
  memoryPut .errorFlag (← get).door.errorFlag

/-- The error branch of `statusabfrage`. -/
def reportError : Fw Unit := do
  modifyMenu fun m => { m with menuActive := true, menuId := 2 }
  modifySched fun s => { s with manualFlag := false }

/-! ## The cycle -/

mutual

/-- `activateLDR`. -/
def activateLDR : Nat → Fw Int32
  | 0 => pending
  | n + 1 => do
    let w ← get
    if w.sched.ldrFlag = .posDown then
      let lux ← getLux
      emit (.lightCheck .posDown lux w.sched.nextLux)
      debounce .posDown (lux ≤ w.sched.nextLux) (moveMotor n .posDown)
    else if w.sched.ldrFlag = .posUp then
      let lux ← getLux
      emit (.lightCheck .posUp lux w.sched.nextLux)
      debounce .posUp (lux ≥ w.sched.nextLux) (moveMotor n .posUp)
    else
      emit (.raised .wrongLdrFlag)
      modifyDoor fun d => { d with errorFlag := .wrongLdrFlag }
      statusabfrage n
      pure 0

/-- `setNextOpeningAlarm`. -/
def setNextOpeningAlarm : Nat → Fw Unit
  | 0 => pending
  | n + 1 => do
    let w ← get
    let a := todaysAlarm w.sched.openingAlarms w.clk.tNow
    startScheduling .posUp a
    match OpeningMode.ofByte a.mode with
    | none => wrongMode
    | some mode => do
      openingSwitch a mode (activateLDR n)
      finishScheduling

/-- `setNextClosingAlarm`. -/
def setNextClosingAlarm : Nat → Fw Unit
  | 0 => pending
  | n + 1 => do
    let w ← get
    let a := todaysAlarm w.sched.closingAlarms w.clk.tNow
    startScheduling .posDown a
    match OpeningMode.ofByte a.mode with
    | none => wrongMode
    | some mode => do
      closingSwitch a mode (activateLDR n)
      finishScheduling

/-- `statusabfrage`. -/
def statusabfrage : Nat → Fw Unit
  | 0 => pending
  | n + 1 => do
    readStatus
    let d := (← get).door
    if d.errorFlag ≠ .noError then
      emit (.status true)
      reportError
    else
      emit (.status false)
      match d.doorPosition with
      | .posUp => setNextClosingAlarm n
      | .posDown => setNextOpeningAlarm n
      -- not reached: this position has just set the error flag
      | .posBlocked => do
        emit (.raised .posBlockedCannotBeSet)
        modifyDoor fun d => { d with errorFlag := .posBlockedCannotBeSet }
        memoryPut .errorFlag .posBlockedCannotBeSet
        setNextClosingAlarm n
      | .posDriving =>
        if d.lastDoorPosition = .posDown then setNextOpeningAlarm n
        else setNextClosingAlarm n

/-- `moveMotor`. -/
def moveMotor : Nat → Klappenposition → Fw Unit
  | 0, _ => pending
  | n + 1, pos => do
    startMove
    moveLoop pos n
    finishMove
    statusabfrage n

end

end Eggvault.Native
