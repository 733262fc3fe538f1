import Mathlib.Algebra.GroupWithZero.Nat

/-!
# Types and constants of the door controller

The enumerations of `global.h`, the stored weekly table, the constants of
`main.cpp` and the two libraries whose code the firmware only links against:
the `time_t` accessors of TimeLib and the weekday masks of the RV8803 driver.
-/

namespace Eggvault.Native

/-- `KLAPPENPOSITION`. -/
inductive Klappenposition where
  | posUp | posDown | posDriving | posBlocked
  deriving Repr, DecidableEq

/-- The number the C enumeration gives a position. -/
def Klappenposition.toByte : Klappenposition → UInt8
  | .posUp => 0
  | .posDown => 1
  | .posDriving => 2
  | .posBlocked => 3

/-- The cast of a two-bit number back to a position. -/
def Klappenposition.ofByte (b : UInt8) : Klappenposition :=
  if b = 0 then .posUp else if b = 1 then .posDown else if b = 2 then .posDriving else .posBlocked

/-- `KLAPPENRICHTUNG`. -/
inductive Klappenrichtung where
  | movingDown | finishingDown | movingUp | standing
  deriving Repr, DecidableEq

/-- `ERROR_CODE`. -/
inductive ErrorCode where
  | noError | timerBlockedElapsed | timerOpenElapsed | timerCloseElapsed | wrongLdrFlag
  | wrongAlarmFlag | posBlockedCannotBeSet | wrongAlarmMode | undefined
  deriving Repr, DecidableEq

/-- `openingMode`. -/
inductive OpeningMode where
  | licht | zeit | lichtZeit | nicht
  deriving Repr, DecidableEq

/-- The enumerator a stored mode byte stands for.  `none` is what a `switch` over
    the modes sends to its `default` label. -/
def OpeningMode.ofByte (b : UInt8) : Option OpeningMode :=
  if b = 0 then some .licht else if b = 1 then some .zeit
  else if b = 2 then some .lichtZeit else if b = 3 then some .nicht else none

/-- `BTNAction`. -/
inductive BtnAction where
  | select | exit | left | right | nothing
  deriving Repr, DecidableEq

/-- `Setmode`. -/
inductive Setmode where
  | setMinute | setHour | setNothing | setLux | setDay | setMonth | setYear | setConfirm
  deriving Repr, DecidableEq

/-- `Modeset`. -/
inductive Modeset where
  | modesetOpening | modesetClosing
  deriving Repr, DecidableEq

/-- `doorDayAlarm_t`: one day of a weekly table. -/
structure DoorDayAlarm where
  done : Bool := false
  hour : UInt8 := 0
  minute : UInt8 := 0
  lux : UInt16 := 0
  delay : UInt16 := 0
  mode : UInt8 := 0
  deriving Repr, DecidableEq

/-- The table of one direction, Sunday first. -/
abbrev WeekTable : Type := Fin 7 → DoorDayAlarm

/-- Weekdays are written as literals of `Fin 7`. -/
instance neZeroSeven : NeZero 7 := ⟨by decide⟩

/-! ## Constants -/

def luxDebounceNumber : UInt8 := 3
def luxDebounceTime : Int32 := 20
def tDeltaMin : Int32 := 600
def tSens : Int32 := 120
/-- `t_err_open`: no code reads it. -/
def tErrOpen : UInt32 := 180
def tErrClose : UInt32 := 150
def tErrBlock : UInt32 := 30
def tDownFinish : UInt32 := 2
def sToUs : Int32 := 1000000
def longPressStartupDuration : UInt32 := 2000
def lcdOffTime : UInt32 := 2000000
def noxSleepTime : UInt32 := 4000000
def buttonDebounceTimeNormal : UInt32 := 400
def buttonLongPressTime : UInt32 := 1500
def buttonDebounceTimeFast : UInt32 := 200
def minLux : UInt8 := 0
def maxLux : UInt8 := 9
def blinkFactor : UInt8 := 8

/-- `voltMap`: the millivolt steps of the light scale. -/
def voltMap : List UInt32 := [300, 600, 900, 1200, 1500, 1800, 2100, 2400, 2700, 3000]

/-! ## Linked libraries -/

/-- `tmElements_t` of TimeLib, with `year` counted from 1970. -/
structure TmElements where
  second : UInt8
  minute : UInt8
  hour : UInt8
  day : UInt8
  month : UInt8
  year : UInt8
  deriving Repr, DecidableEq

/-- The seconds since 1970 that a `time_t` stands for; the library reads the
    32 bits as an unsigned number. -/
def secs (t : Int32) : Nat := t.toUInt32.toNat

/-- TimeLib, as far as the firmware calls it.  The laws are its documentation:
    a `time_t` counts seconds from a Thursday midnight, hours and minutes are those
    of the day, and Sunday is day 1. -/
class TimeLib where
  makeTime : TmElements → Int32
  hour : Int32 → Nat
  minute : Int32 → Nat
  weekday : Int32 → Nat
  hour_eq : ∀ t, hour t = secs t / 3600 % 24
  minute_eq : ∀ t, minute t = secs t / 60 % 60
  weekday_eq : ∀ t, weekday t = (secs t / 86400 + 4) % 7 + 1

/-- The array index `d - 1` of a weekday `d` in `1..7`. -/
def dayIndex (d : Nat) : Fin 7 := Fin.ofNat 7 (d - 1)

/-- `weekdays`: one bit for each day, Sunday first. -/
def weekdays (i : Fin 7) : UInt8 := 1 <<< UInt8.ofNat i.val

/-- What the RTC shows: its calendar registers. -/
structure RtcTime where
  seconds : UInt8 := 0
  minutes : UInt8 := 0
  hours : UInt8 := 0
  weekday : Fin 7 := 0
  date : UInt8 := 1
  month : UInt8 := 1
  year : UInt16 := 2000
  deriving Repr, DecidableEq

end Eggvault.Native
