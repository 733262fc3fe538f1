import Eggvault.ForStd.KeyStore
import Eggvault.ForStd.Prog
import Eggvault.Native.Types

/-!
# The device: globals, peripherals and primitive operations

`World` holds the global variables of `main.cpp` (grouped by the part of the
firmware that owns them), the peripherals, and a ghost part that only records
what happened.  Every reading of an input (`digitalRead`, `millis`, the ADC, the
RTC registers) takes the next `Sample` of the environment, so that two readings
never have to agree.
-/

namespace Eggvault.Native

/-! ## Environment -/

/-- What the inputs show at one moment.  `fired` is the RTC minute, if any, at
    which the alarm comparator saw a candidate since the previous reading. -/
structure Sample where
  endUp : Bool := false
  endLow : Bool := false
  swSelect : Bool := false
  swExit : Bool := false
  swBack : Bool := false
  swFwd : Bool := false
  millis : UInt32 := 0
  milliVolts : UInt32 := 0
  rtc : RtcTime := {}
  fired : Option RtcTime := none
  deriving Repr, DecidableEq

/-- The inputs over time: one sample for each reading the firmware makes. -/
abbrev Env : Type := Nat → Sample

/-! ## Non-volatile memory -/

/-- The keys of the `Preferences` namespace `"storage"`. -/
inductive NvsKey where
  | initFlag | initLastMove | initNox | initAlarm | openAlarms | closeAlarms | lastMove
  | lastMovePosition | errorFlag
  deriving Repr, DecidableEq

/-- The key strings of `main.cpp`. -/
def NvsKey.name : NvsKey → String
  | .initFlag => "init_flag"
  | .initLastMove => "init_last_move"
  | .initNox => "init_NOX"
  | .initAlarm => "init_alarm"
  | .openAlarms => "open_alarm"
  | .closeAlarms => "close_alarm"
  | .lastMove => "last_move"
  | .lastMovePosition => "last_move_Position"
  | .errorFlag => "key_error_flag"

/-- NVS takes keys of at most 15 characters and fails on longer ones. -/
def NvsKey.fits (k : NvsKey) : Bool := decide (k.name.length ≤ 15)

/-- What is stored under a key. -/
@[reducible] def NvsKey.Value : NvsKey → Type
  | .initFlag | .initLastMove | .initNox | .initAlarm => Int32
  | .openAlarms | .closeAlarms => WeekTable
  | .lastMove => Int32
  | .lastMovePosition => Klappenposition
  | .errorFlag => ErrorCode

/-- The contents of the flash namespace. -/
abbrev Nvs : Type := KeyStore NvsKey.Value

/-- `putInt` and `putBytes`. -/
def Nvs.put (m : Nvs) (k : NvsKey) (v : k.Value) : Nvs := KeyStore.put NvsKey.fits m k v

/-- `getInt` and `getBytes`, with `none` for a failed read. -/
def Nvs.get (m : Nvs) (k : NvsKey) : Option k.Value := KeyStore.get NvsKey.fits m k

/-! ## Peripherals -/

/-- The RV8803: its RAM byte, the alarm registers, whether the alarm interrupt is
    enabled, the level of its interrupt line, and the registers that the last
    `updateTime` copied. -/
structure Rtc where
  ram : UInt8 := 0
  alarmMask : UInt8 := 0
  alarmHour : UInt8 := 0
  alarmMinute : UInt8 := 0
  armed : Bool := false
  clkInt : Bool := false
  snapshot : RtcTime := {}

/-- Minute, hour and weekday bit all match. -/
def Rtc.alarmMatches (r : Rtc) (t : RtcTime) : Bool :=
  decide (t.minutes = r.alarmMinute) && decide (t.hours = r.alarmHour) &&
    decide (weekdays t.weekday &&& r.alarmMask ≠ 0)

/-- The output lines.  `held` is the level at which a pad hold has locked the LED. -/
structure Pins where
  fwd : Bool := false
  back : Bool := false
  led : Bool := false
  held : Option Bool := none
  deriving Repr, DecidableEq

/-- The level a `digitalRead` of the LED pad sees. -/
def Pins.ledPad (p : Pins) : Bool := p.held.getD p.led

/-- The GPIO that `GPIO_wake_up_reason` names; `other` is every remaining number. -/
inductive WakePin where
  | clkInt | swExit | swSelect | swBack | swFwd | other
  deriving Repr, DecidableEq

/-- `esp_sleep_get_wakeup_cause`. -/
inductive WakeupCause where
  | ext1 (pin : WakePin)
  | timer
  | undefined
  deriving Repr, DecidableEq

/-! ## Global variables -/

/-- The clock variables. -/
structure Clock where
  year : Int16 := 2020
  month : Int8 := 0
  date : Int8 := 0
  dow : Nat := 0
  hour : Int8 := 0
  minute : Int8 := 0
  second : Int8 := 0
  tNow : Int32 := 0
  maxDayThisMonth : UInt8 := 31
  deriving Repr, DecidableEq

/-- The variables of the motor control. -/
structure Door where
  doorPosition : Klappenposition := .posUp
  lastDoorPosition : Klappenposition := .posUp
  doorDirection : Klappenrichtung := .movingDown
  errorFlag : ErrorCode := .noError
  lastMove : Int32 := 0
  moveZero : UInt32 := 0
  blockZero : UInt32 := 0
  downwardsTimer : UInt32 := 0
  deriving Repr, DecidableEq

/-- The variables of the scheduler and the copies of the init markers. -/
structure Sched where
  openingAlarms : WeekTable := fun _ => {}
  closingAlarms : WeekTable := fun _ => {}
  ldrFlag : Klappenposition := .posDown
  alarmFlag : Klappenposition := .posDown
  nextMove : Klappenposition := .posDown
  nextLux : UInt8 := 0
  ramCounter : UInt8 := 0
  manualFlag : Bool := false
  fInitAlarm : Int32 := 0
  fInitNox : Int32 := 0
  fInitFlag : Int32 := 0
  fInitLastMove : Int32 := 0

/-- The variables of the menu. -/
structure Menu where
  menuId : Nat := 100
  menuActive : Bool := false
  menuRefreshFlag : Bool := true
  timeSetMode : Setmode := .setNothing
  modeset : Modeset := .modesetOpening
  cursorTag : Nat := 0
  dayBitmask : UInt8 := 0
  modeO : UInt8 := 2
  modeC : UInt8 := 2
  luxO : UInt8 := 0
  luxC : UInt8 := 0
  hourO : Int8 := 0
  hourC : Int8 := 0
  minuteO : Int8 := 0
  minuteC : Int8 := 0
  blink : Bool := false
  blinkCount : UInt8 := 0
  deriving Repr, DecidableEq

/-- The variables of the button handling. -/
structure Buttons where
  buttonFlag : Bool := false
  longPressFlag : Bool := false
  previousMillis : UInt32 := 0
  lastPress : UInt32 := 0
  blinkZero : UInt32 := 0
  longPressStart : UInt32 := 0

/-! ## Ghost state -/

/-- What the firmware is working on: set where `setup`, `wakeupHandling`, `loop`
    and `menuUpdate` branch, and read by no code. -/
inductive Dispatch where
  | boot
  | wakeAlarm
  | wakeTimer
  | wakeLongPress
  | setupStatus
  | loopAlarm
  | loopIdle (elapsed : UInt32)
  | menu (menuId : Nat) (action : BtnAction)
  deriving Repr, DecidableEq

/-- The functions whose calls are recorded.  `setNextAlarm` stands for both schedulers:
    the one that opens the door and the one that closes it, with the entry of the day. -/
inductive Callee where
  | updateTime
  | prepForDeepSleep
  | setNextAlarm (pos : Klappenposition) (alarm : DoorDayAlarm)
  | moveMotor
  | saveAlarmValues
  | menuUpdate
  | menuFunctions (action : BtnAction)
  deriving Repr, DecidableEq

/-- What a recorded call finds; `tick` is the next reading. -/
structure Moment where
  tick : Nat
  clk : Clock
  door : Door
  menu : Menu
  ldrFlag : Klappenposition
  manualFlag : Bool
  fInitNox : Int32
  timer : Option UInt64
  deriving Repr, DecidableEq

/-- The events of a run. -/
inductive Event where
  /-- `wakeupHandling` starts. -/
  | booted (cause : WakeupCause)
  /-- The RTC raised its interrupt line. -/
  | alarmFired (at_ : RtcTime)
  /-- `setAlarm` was called with these arguments. -/
  | setAlarm (mDoW mHour mMinute : UInt8)
  /-- `alarmWakeupHandling` calls `moveMotor`; `tick` is the next reading. -/
  | alarmMove (pos : Klappenposition) (tick : Nat)
  /-- `activateLDR` calls `moveMotor`. -/
  | lightMove (pos : Klappenposition) (tick : Nat)
  /-- A scheduler sets `LDRFlag` while `nextLux` and the RTC snapshot are these. -/
  | lightArmed (pos : Klappenposition) (nextLux : UInt8) (snapshot : RtcTime)
  /-- `activateLDR` compares a measurement with `nextLux`. -/
  | lightCheck (pos : Klappenposition) (lux nextLux : UInt8)
  /-- `statusabfrage` has read the end switches and takes its error branch or not. -/
  | status (failed : Bool)
  /-- An iteration of the loop of `moveMotor` begins. -/
  | motorEnter (pos : Klappenposition)
  /-- A motor line was written; the levels after the write. -/
  | motorWrite (fwd back : Bool)
  /-- The end of an iteration of the loop of `moveMotor`. -/
  | motorIteration (dir : Klappenrichtung)
  /-- The stop writes after the loop are done. -/
  | motorStop
  /-- `saveTimeSetting` wrote the RTC. -/
  | setTime (second minute hour : Int8) (weekday : Nat) (date month : Int8) (year : Int16)
  /-- A function is called. -/
  | call (f : Callee) (m : Moment)
  /-- `moveMotor` has read the end switches. -/
  | endSwitches (up low : Bool)
  /-- The loop of `moveMotor` is left because a button is down. -/
  | buttonBreak
  /-- An error code is assigned, other than by the end switches in `statusabfrage`. -/
  | raised (error : ErrorCode)
  deriving Repr, DecidableEq

/-- The whole device. -/
structure World where
  clk : Clock := {}
  door : Door := {}
  sched : Sched := {}
  menu : Menu := {}
  btn : Buttons := {}
  nvs : Nvs := KeyStore.empty
  rtc : Rtc := {}
  pins : Pins := {}
  /-- The delay of an enabled timer wake-up, in microseconds. -/
  timer : Option UInt64 := none
  wakeup : WakeupCause := .undefined
  tick : Nat := 0
  dispatch : Dispatch := .boot
  trace : List Event := []

/-- What a call would find now. -/
def World.moment (w : World) : Moment :=
  { tick := w.tick, clk := w.clk, door := w.door, menu := w.menu, ldrFlag := w.sched.ldrFlag
    manualFlag := w.sched.manualFlag, fInitNox := w.sched.fInitNox, timer := w.timer }

/-- A piece of firmware. -/
abbrev Fw (α : Type) : Type := Prog Env World α

end Eggvault.Native
