import Eggvault.ForStd.Layout
import Eggvault.Native.Flash

/-!
# The `Preferences` library

`Preferences.cpp` stores what `main.cpp` hands to it through the driver of `nvs.h`: integers as
numbers and everything else as the bytes that the variable has in memory.  A call that fails returns
0 and logs it; the texts of the log are left out, and so are the tests for null pointers, since every
key of `main.cpp` is a literal and every value is a variable.
-/

namespace Eggvault.Native

/-! ## The driver -/

/-- What the driver holds under a key. -/
inductive NvsItem where
  | i32 (v : Int32)
  | blob (bytes : List UInt8)
  deriving Repr, DecidableEq

/-- The calls of `nvs.h`, for one namespace.  A `set` and a `commit` report whether they succeeded. -/
class NvsDriver (σ : Type) where
  nvsOpen : σ → Bool → Option σ
  nvsSetI32 : σ → String → Int32 → Bool × σ
  nvsSetBlob : σ → String → List UInt8 → Bool × σ
  nvsCommit : σ → Bool × σ
  nvsGetI32 : σ → String → Option Int32
  /-- `nvs_get_blob` without a buffer. -/
  nvsGetBlobLength : σ → String → Option Nat
  /-- `nvs_get_blob` with a buffer of the given length. -/
  nvsGetBlob : σ → String → Nat → Option (List UInt8)

open NvsDriver

/-! ## `Preferences.cpp` -/

/-- The object `memory` of `main.cpp`, over what the driver has in flash. -/
structure Preferences (σ : Type) where
  started : Bool := false
  readOnly : Bool := false
  handle : σ

namespace Preferences

variable {σ : Type} [NvsDriver σ]

/-- `begin`, without a partition label. -/
def begin (p : Preferences σ) (readOnly : Bool) : Bool × Preferences σ :=
  if p.started then (false, p)
  else
    match nvsOpen p.handle readOnly with
    | none => (false, { p with readOnly })
    | some handle => (true, { started := true, readOnly, handle })

/-- The body that all the `put` functions share, for the `set` that they make. -/
def put (p : Preferences σ) (set : Bool × σ) (len : Nat) : Nat × Preferences σ :=
  if !p.started || p.readOnly then (0, p)
  else
    match set with
    | (false, handle) => (0, { p with handle })
    | (true, handle) =>
      match nvsCommit handle with
      | (false, handle) => (0, { p with handle })
      | (true, handle) => (len, { p with handle })

/-- `putInt`. -/
def putInt (p : Preferences σ) (key : String) (value : Int32) : Nat × Preferences σ :=
  p.put (nvsSetI32 p.handle key value) 4

/-- `putBytes`. -/
def putBytes (p : Preferences σ) (key : String) (value : List UInt8) : Nat × Preferences σ :=
  if value.length = 0 then (0, p) else p.put (nvsSetBlob p.handle key value) value.length

/-- `getInt`. -/
def getInt (p : Preferences σ) (key : String) (defaultValue : Int32) : Int32 :=
  if !p.started then defaultValue else (nvsGetI32 p.handle key).getD defaultValue

/-- `getBytesLength`. -/
def getBytesLength (p : Preferences σ) (key : String) : Nat :=
  if !p.started then 0 else (nvsGetBlobLength p.handle key).getD 0

/-- `getBytes`, with the contents of the buffer before and after the call. -/
def getBytes (p : Preferences σ) (key : String) (buf : List UInt8) : Nat × List UInt8 :=
  let len := p.getBytesLength key
  if len = 0 ∨ buf.length = 0 then (len, buf)
  -- not enough space in the buffer
  else if len > buf.length then (0, buf)
  else
    match nvsGetBlob p.handle key len with
    | none => (0, buf)
    | some bytes => (len, bytes ++ buf.drop len)

end Preferences

/-! ## The stored types of `global.h` -/

/-- The number the C enumeration gives an error. -/
def ErrorCode.toByte : ErrorCode → UInt8
  | .noError => 0
  | .timerBlockedElapsed => 1
  | .timerOpenElapsed => 2
  | .timerCloseElapsed => 3
  | .wrongLdrFlag => 4
  | .wrongAlarmFlag => 5
  | .posBlockedCannotBeSet => 6
  | .wrongAlarmMode => 7
  | .undefined => 8

/-- The error that a number stands for. -/
def ErrorCode.ofByte (b : UInt8) : Option ErrorCode :=
  if b = 0 then some .noError else if b = 1 then some .timerBlockedElapsed
  else if b = 2 then some .timerOpenElapsed else if b = 3 then some .timerCloseElapsed
  else if b = 4 then some .wrongLdrFlag else if b = 5 then some .wrongAlarmFlag
  else if b = 6 then some .posBlockedCannotBeSet else if b = 7 then some .wrongAlarmMode
  else if b = 8 then some .undefined else none

/-- `ERROR_CODE` in memory. -/
def errorLayout : Layout ErrorCode :=
  .enum32 ErrorCode.toByte ErrorCode.ofByte fun e => by cases e <;> rfl

/-- `KLAPPENPOSITION` in memory. -/
def positionLayout : Layout Klappenposition :=
  .enum32 Klappenposition.toByte (fun b => if b < 4 then some (.ofByte b) else none) fun p => by
    cases p <;> rfl

/-- A `bool` in memory. -/
def boolLayout : Layout Bool :=
  Layout.byte.via (fun b => if b = 0 then some false else if b = 1 then some true else none)
    (fun v => if v then 1 else 0) fun v => by cases v <;> rfl

/-- `doorDayAlarm_t` in memory: the 16-bit fields and the mode begin at even addresses. -/
def alarmLayout : Layout DoorDayAlarm :=
  (boolLayout.seq <| Layout.byte.seq <| Layout.byte.seq <| (Layout.pad 1).seq <|
    Layout.word16.seq <| Layout.word16.seq <| Layout.enum32 id some fun _ => rfl).via
    (fun (done, hour, minute, _, lux, delay, mode) => some { done, hour, minute, lux, delay, mode })
    (fun a => (a.done, a.hour, a.minute, (), a.lux, a.delay, a.mode)) fun _ => rfl

/-- `doorDayAlarm_t[7]` in memory. -/
def tableLayout : Layout WeekTable := alarmLayout.array 7

/-- The sizes that `sizeof` gives. -/
example : errorLayout.size = 4 ∧ positionLayout.size = 4 ∧ alarmLayout.size = 12 ∧
    tableLayout.size = 84 := by decide

/-! ## `readValuesFromFlash` -/

/-- The globals that `readValuesFromFlash` fills from flash, those that are not flags as the bytes
    they have in memory. -/
structure FlashGlobals where
  fInitFlag : Int32
  fInitLastMove : Int32
  fInitNox : Int32
  fInitAlarm : Int32
  lastMove : List UInt8
  lastDoorPosition : List UInt8
  errorFlag : List UInt8
  openingAlarms : List UInt8
  closingAlarms : List UInt8

section ReadValues

variable {σ : Type} [NvsDriver σ]

/-- The flag of the flags.  The flags themselves come from the RTC. -/
def fetchFlags (p : Preferences σ) (g : FlashGlobals) : FlashGlobals :=
  { g with fInitFlag := p.getInt "init_flag" 0 }

/-- The last move. -/
def fetchLastMove (p : Preferences σ) (g : FlashGlobals) : FlashGlobals :=
  let fInitLastMove := p.getInt "init_last_move" 0
  if fInitLastMove = 0 then
    { g with
      fInitLastMove := fInitLastMove
      lastMove := Layout.int32.write 0
      lastDoorPosition := positionLayout.write .posBlocked }
  else
    { g with
      fInitLastMove := fInitLastMove
      lastMove := (p.getBytes "last_move" g.lastMove).2
      lastDoorPosition := (p.getBytes "last_move_Position" g.lastDoorPosition).2 }

/-- The error flag. -/
def fetchErrorFlag (p : Preferences σ) (g : FlashGlobals) : FlashGlobals :=
  let fInitNox := p.getInt "init_NOX" 0
  { g with
    fInitNox := fInitNox
    errorFlag :=
      if fInitNox = 0 then errorLayout.write .noError
      else (p.getBytes "key_error_flag" g.errorFlag).2 }

/-- The alarm tables, with the object after the default ones have been stored. -/
def fetchAlarms (p : Preferences σ) (g : FlashGlobals) : FlashGlobals × Preferences σ :=
  let fInitAlarm := p.getInt "init_alarm" 0
  if fInitAlarm = 0 then
    let openingAlarms := tableLayout.write fun _ => defaultOpening
    let closingAlarms := tableLayout.write fun _ => defaultClosing
    let p := (p.putBytes "open_alarm" openingAlarms).2
    let p := (p.putBytes "close_alarm" closingAlarms).2
    ({ g with fInitAlarm, openingAlarms, closingAlarms }, p)
  else
    ({ g with
      fInitAlarm
      openingAlarms := (p.getBytes "open_alarm" g.openingAlarms).2
      closingAlarms := (p.getBytes "close_alarm" g.closingAlarms).2 }, p)

/-- `readValuesFromFlash`, over the memory of the device. -/
def fetchValuesFromFlash (p : Preferences σ) (g : FlashGlobals) : FlashGlobals × Preferences σ :=
  fetchAlarms p (fetchErrorFlag p (fetchLastMove p (fetchFlags p g)))

end ReadValues

end Eggvault.Native
