import Eggvault.Native.Hal

/-!
# Clock, flash and the way into deep sleep

`timeUpdate`, `dateUpdate` and `makeLocalTime`; the functions that move state
between RAM, the flash namespace and the RTC RAM byte; and the macro
`PREP_FOR_DEEP_SLEEP`.
-/

namespace Eggvault.Native

open Prog

variable [TimeLib]

/-! ## Clock -/

/-- `makeLocalTime`. -/
def makeLocalTime : Fw Unit := modify fun w =>
  let t := TimeLib.makeTime
    { day := w.clk.date.toUInt8, month := w.clk.month.toUInt8,
      year := (w.clk.year - 1970).toUInt16.toUInt8, second := w.clk.second.toUInt8,
      hour := w.clk.hour.toUInt8, minute := w.clk.minute.toUInt8 }
  { w with clk := { w.clk with tNow := t, dow := TimeLib.weekday t } }

/-- `timeUpdate`. -/
def timeUpdate : Fw Unit := do
  updateTime
  modify fun w => { w with clk := { w.clk with
    hour := w.rtc.snapshot.hours.toInt8, minute := w.rtc.snapshot.minutes.toInt8,
    second := w.rtc.snapshot.seconds.toInt8 } }
  makeLocalTime

/-- `dateUpdate`: reads the registers that the last `updateTime` copied. -/
def dateUpdate : Fw Unit := do
  -- the weekday of the RTC is overwritten by `makeLocalTime`
  modify fun w => { w with clk := { w.clk with
    date := w.rtc.snapshot.date.toInt8, month := w.rtc.snapshot.month.toInt8,
    year := w.rtc.snapshot.year.toInt16, dow := w.rtc.snapshot.weekday.val + 1 } }
  makeLocalTime

/-- `saveTimeSetting`. -/
def saveTimeSetting : Fw Unit := do
  let c := (← get).clk
  emit (.setTime c.second c.minute c.hour (c.dow - 1) c.date c.month c.year)

/-! ## Alarm tables -/

/-- `saveAlarmValues`: the edited values go to every day selected in the mask. -/
def saveAlarmValues : Fw Unit := do
  call .saveAlarmValues
  modify fun w =>
    let m := w.menu
    let selected (i : Fin 7) : Bool := decide (m.dayBitmask &&& weekdays i ≠ 0)
    match m.modeset with
    | .modesetOpening => { w with sched := { w.sched with
        openingAlarms := fun i =>
          if selected i then
            { w.sched.openingAlarms i with
              delay := 0, hour := m.hourO.toUInt8, minute := m.minuteO.toUInt8,
              mode := m.modeO, lux := m.luxO.toUInt16 }
          else w.sched.openingAlarms i } }
    | .modesetClosing => { w with sched := { w.sched with
        closingAlarms := fun i =>
          if selected i then
            { w.sched.closingAlarms i with
              delay := 0, hour := m.hourC.toUInt8, minute := m.minuteC.toUInt8,
              mode := m.modeC, lux := m.luxC.toUInt16 }
          else w.sched.closingAlarms i } }
  -- both tables are stored, whichever was edited
  memoryPut .openAlarms (← get).sched.openingAlarms
  memoryPut .closeAlarms (← get).sched.closingAlarms
  memoryPut .initAlarm 1

/-- The default opening entry of `setAlarmsDefault`. -/
def defaultOpening : DoorDayAlarm := { hour := 9, minute := 30, mode := 3 }

/-- The default closing entry of `setAlarmsDefault`. -/
def defaultClosing : DoorDayAlarm := { hour := 20, minute := 30, mode := 3 }

/-- `setAlarmsDefault`. -/
def setAlarmsDefault : Fw Unit := modify fun w =>
  { w with sched := { w.sched with
      openingAlarms := fun _ => defaultOpening, closingAlarms := fun _ => defaultClosing } }

/-! ## Motion state -/

/-- The byte that `writeValuesToFlash` packs: the debounce counter in the low four
    bits, `LDRFlag` in the next two and `alarmFlag` in the last two. -/
def packRam (ramCounter : UInt8) (ldrFlag alarmFlag : Klappenposition) : UInt8 :=
  (0 : UInt8) ||| ramCounter ||| (ldrFlag.toByte <<< (4 : UInt8) &&& (0b00110000 : UInt8)) |||
    (alarmFlag.toByte <<< (6 : UInt8) &&& (0b11000000 : UInt8))

/-- `writeValuesToFlash`. -/
def writeValuesToFlash : Fw Unit := do
  -- four bits are left for the counter
  when ((← get).sched.ramCounter > 15) do
    modify fun w => { w with sched := { w.sched with ramCounter := 15 } }
  modify fun w => { w with rtc := { w.rtc with
    ram := packRam w.sched.ramCounter w.sched.ldrFlag w.sched.alarmFlag } }

/-- `PREP_FOR_DEEP_SLEEP`: hold the LED pad if it is lit, store the motion state,
    sleep.  `esp_deep_sleep_start` does not return. -/
def prepForDeepSleep : Fw Unit := do
  call .prepForDeepSleep
  when ((← digitalRead .led) = true) ledHoldEn
  writeValuesToFlash
  halt

/-- The flags of `readValuesFromFlash`. -/
def readFlags : Fw Unit := modify fun w =>
  let fInitFlag := (w.nvs.get .initFlag).getD 0
  if fInitFlag = 0 then
    { w with sched := { w.sched with
        fInitFlag := fInitFlag, ldrFlag := .posBlocked, alarmFlag := .posBlocked,
        ramCounter := 0 } }
  else
    -- the mirror image of `packRam`
    let ram := w.rtc.ram
    { w with sched := { w.sched with
        fInitFlag := fInitFlag, ramCounter := ram &&& 0b00001111,
        ldrFlag := .ofByte ((ram &&& 0b00110000) >>> 4),
        alarmFlag := .ofByte ((ram &&& 0b11000000) >>> 6) } }

/-- The last move of `readValuesFromFlash`.  A failed `getBytes` leaves its target. -/
def readLastMove : Fw Unit := modify fun w =>
  let fInitLastMove := (w.nvs.get .initLastMove).getD 0
  if fInitLastMove = 0 then
    { w with
      sched := { w.sched with fInitLastMove := fInitLastMove }
      door := { w.door with lastMove := 0, lastDoorPosition := .posBlocked } }
  else
    { w with
      sched := { w.sched with fInitLastMove := fInitLastMove }
      door := { w.door with
        lastMove := (w.nvs.get .lastMove).getD w.door.lastMove
        lastDoorPosition := (w.nvs.get .lastMovePosition).getD w.door.lastDoorPosition } }

/-- The error flag of `readValuesFromFlash`. -/
def readErrorFlag : Fw Unit := modify fun w =>
  let fInitNox := (w.nvs.get .initNox).getD 0
  { w with
    sched := { w.sched with fInitNox := fInitNox }
    door := { w.door with errorFlag :=
      if fInitNox = 0 then .noError else (w.nvs.get .errorFlag).getD w.door.errorFlag } }

/-- The alarm tables of `readValuesFromFlash`. -/
def readAlarms : Fw Unit := do
  modify fun w => { w with sched := { w.sched with
    fInitAlarm := (w.nvs.get .initAlarm).getD 0 } }
  if (← get).sched.fInitAlarm = 0 then
    -- `init_alarm` is set by `saveAlarmValues` only, so every boot before it comes here
    setAlarmsDefault
    memoryPut .openAlarms (← get).sched.openingAlarms
    memoryPut .closeAlarms (← get).sched.closingAlarms
  else
    modify fun w => { w with sched := { w.sched with
      openingAlarms := (w.nvs.get .openAlarms).getD w.sched.openingAlarms
      closingAlarms := (w.nvs.get .closeAlarms).getD w.sched.closingAlarms } }

/-- `readValuesFromFlash`. -/
def readValuesFromFlash : Fw Unit := do
  readFlags
  readLastMove
  readErrorFlag
  readAlarms

end Eggvault.Native
