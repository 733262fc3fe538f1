import Eggvault.Native.Control

/-!
# Menu

`menuFunctions`, one definition for each screen, and `menuUpdate`.  What a screen
prints is left out; the LED, which shares its line with the manual mode, is not.
-/

namespace Eggvault.Native

open Prog

variable [TimeLib]

/-! ## Edited values -/

namespace Menu

/-- `*mode`: the edited mode of the direction being set. -/
def mode (m : Menu) : UInt8 := if m.modeset = .modesetClosing then m.modeC else m.modeO

def setMode (m : Menu) (v : UInt8) : Menu :=
  if m.modeset = .modesetClosing then { m with modeC := v } else { m with modeO := v }

/-- `*lux`. -/
def lux (m : Menu) : UInt8 := if m.modeset = .modesetClosing then m.luxC else m.luxO

def setLux (m : Menu) (v : UInt8) : Menu :=
  if m.modeset = .modesetClosing then { m with luxC := v } else { m with luxO := v }

/-- `*hour_set`. -/
def hourSet (m : Menu) : Int8 := if m.modeset = .modesetClosing then m.hourC else m.hourO

def setHourSet (m : Menu) (v : Int8) : Menu :=
  if m.modeset = .modesetClosing then { m with hourC := v } else { m with hourO := v }

/-- `*minute_set`. -/
def minuteSet (m : Menu) : Int8 := if m.modeset = .modesetClosing then m.minuteC else m.minuteO

def setMinuteSet (m : Menu) (v : Int8) : Menu :=
  if m.modeset = .modesetClosing then { m with minuteC := v } else { m with minuteO := v }

end Menu

/-- Count down with a wrap from 0 to `top`, as hours and minutes do. -/
def wrapDown (top v : Int8) : Int8 := if v = 0 then top else v - 1

/-- Count up with a wrap to 0 after `top`. -/
def wrapUp (top v : Int8) : Int8 := if v + 1 > top then 0 else v + 1

/-! ## Screens that only edit menu variables -/

/-- A screen whose four buttons lead to fixed screens. -/
def hub (left right select exit stay : Nat) (action : BtnAction) (m : Menu) : Menu :=
  match action with
  | .left => { m with menuId := left }
  | .right => { m with menuId := right }
  | .select => { m with menuId := select }
  | .exit => { m with menuId := exit }
  | .nothing => { m with menuId := stay }

/-- Screen 001: initial menu. -/
def screen001 : BtnAction → Menu → Menu := hub 300 300 300 300 1

/-- Screen 100: opening mode. -/
def screen100 (action : BtnAction) (m : Menu) : Menu :=
  match action with
  | .left => { m with menuId := 700 }
  | .right => { m with menuId := 200 }
  | .select => { m with modeset := .modesetOpening, menuId := 110 }
  | .exit => { m with menuId := 0 }
  | .nothing => { m with menuId := 100 }

/-- Screen 110: choice of days. -/
def screen110 (action : BtnAction) (m : Menu) : Menu :=
  match action with
  | .left => { m with cursorTag := if m.cursorTag = 0 then 7 else m.cursorTag - 1 }
  | .right => { m with cursorTag := if m.cursorTag + 1 > 7 then 0 else m.cursorTag + 1 }
  | .select =>
    if m.cursorTag < 7 then
      -- a second press takes the day out again
      { m with dayBitmask := m.dayBitmask ^^^ weekdays (Fin.ofNat 7 m.cursorTag) }
    else { m with menuId := 800 }
  | .exit => { m with menuId := if m.modeset = .modesetClosing then 200 else 100 }
  | .nothing => { m with menuId := 110 }

/-- Screen 200: closing mode. -/
def screen200 (action : BtnAction) (m : Menu) : Menu :=
  match action with
  | .left => { m with menuId := 100 }
  | .right => { m with timeSetMode := .setNothing, menuId := 300 }
  | .select => { m with modeset := .modesetClosing, menuId := 110 }
  | .exit => { m with menuId := 0 }
  | .nothing => { m with menuId := 200 }

/-- Screen 500: advanced settings. -/
def screen500 : BtnAction → Menu → Menu := hub 400 600 510 0 500

/-- Screen 600: language. -/
def screen600 : BtnAction → Menu → Menu := hub 500 700 610 0 600

/-- Screen 800: choice of mode. -/
def screen800 (action : BtnAction) (m : Menu) : Menu :=
  match action with
  | .left => m.setMode (if m.mode = 0 then 3 else m.mode - 1)
  | .right => m.setMode (if m.mode = 3 then 0 else m.mode + 1)
  | .select =>
    match OpeningMode.ofByte m.mode with
    | some .licht => { m with menuId := 810 }
    | some .lichtZeit => { m with menuId := 810 }
    | some .zeit => { m with timeSetMode := .setHour, menuId := 820 }
    | some .nicht => { m with menuId := 900 }
    | none => m
  | .exit => { m with menuId := 100 }
  | .nothing => { m with menuId := 800 }

/-- Screen 810: light threshold. -/
def screen810 (action : BtnAction) (m : Menu) : Menu :=
  match action with
  -- `minLux` is 0, so a byte never falls below it and wraps to 255
  | .left => m.setLux (if m.lux - 1 < minLux then maxLux else m.lux - 1)
  | .right => m.setLux (if m.lux + 1 > maxLux then minLux else m.lux + 1)
  | .select =>
    match OpeningMode.ofByte m.mode with
    | some .licht => { m with menuId := 900 }
    | some .lichtZeit => { m with timeSetMode := .setHour, menuId := 820 }
    | some .zeit => { m with timeSetMode := .setHour, menuId := 820 }
    | some .nicht => { m with menuId := 900 }
    | none => m
  | .exit => { m with menuId := 800 }
  | .nothing => { m with menuId := 810 }

/-- Screen 820: alarm time. -/
def screen820 (action : BtnAction) (m : Menu) : Menu :=
  match action with
  | .left =>
    match m.timeSetMode with
    | .setMinute => { m.setMinuteSet (wrapDown 59 m.minuteSet) with menuId := 820 }
    | .setHour => { m.setHourSet (wrapDown 23 m.hourSet) with menuId := 820 }
    | _ => { m with timeSetMode := .setMinute, menuId := 820 }
  | .right =>
    match m.timeSetMode with
    | .setMinute => { m.setMinuteSet (wrapUp 59 m.minuteSet) with menuId := 820 }
    | .setHour => { m.setHourSet (wrapUp 23 m.hourSet) with menuId := 820 }
    | .setNothing => { m with timeSetMode := .setHour, menuId := 820 }
    | _ => m
  | .select =>
    match m.timeSetMode with
    | .setMinute => { m with timeSetMode := .setNothing, menuId := 820 }
    | .setNothing => { m with menuId := 900 }
    | .setHour => { m with timeSetMode := .setMinute, menuId := 820 }
    | _ => m
  | .exit =>
    match m.timeSetMode with
    | .setNothing => { m with timeSetMode := .setMinute }
    | .setMinute => { m with timeSetMode := .setHour }
    | _ => { m with menuId :=
        if OpeningMode.ofByte m.mode = some .lichtZeit ∨ OpeningMode.ofByte m.mode = some .licht
        then 810 else 800 }
  | .nothing => { m with menuId := 820 }

/-! ## Screens with effects -/

/-- Leave a clock screen without an edit: stay there during the first set-up. -/
def leaveTo (menuId : Nat) (initial : Nat) : Fw Unit := do
  let init := (← get).sched.fInitNox
  modifyMenu fun m => { m with
    timeSetMode := .setNothing, menuId := if init = 0 then initial else menuId }

/-- Go to `menuId`, or to `initial` during the first set-up, with `timeSetMode` kept. -/
def goTo (menuId : Nat) (initial : Nat) : Fw Unit := do
  let init := (← get).sched.fInitNox
  modifyMenu fun m => { m with menuId := if init = 0 then initial else menuId }

/-- Screen 000: start screen. -/
def screen000 (n : Nat) (action : BtnAction) : Fw Unit := do
  timeUpdate
  dateUpdate
  when (action = .exit ∧ (← get).sched.manualFlag = true) do
    modifySched fun s => { s with manualFlag := false }
    -- does not reach the pad while a hold is enabled
    digitalWrite .led false
    statusabfrage n
  modifyMenu (hub 3 4 100 0 0 action)

/-- Screen 002: error message. -/
def screen002 (action : BtnAction) : Fw Unit := do
  when (action ≠ .nothing) do
    modifyDoor fun d => { d with errorFlag := .noError }
    memoryPut .errorFlag .noError
  -- the error screen is left at once; `loop` sets 002 again while the error lasts
  modifyMenu fun m => { m with menuId := 0 }
  digitalWrite .led (decide ((← get).menu.blinkCount % 8 < 4))

/-- Screens 003 and 004: manual move. -/
def manualScreen (n : Nat) (pos : Klappenposition) : Fw Unit := do
  modifySched fun s => { s with manualFlag := true }
  digitalWrite .led true
  moveMotor n pos
  modifyMenu fun m => { m with menuId := 0 }

/-- Screen 300: time of day. -/
def screen300 (action : BtnAction) : Fw Unit := do
  when ((← get).menu.timeSetMode = .setNothing) do
    timeUpdate
    dateUpdate
  let mode := (← get).menu.timeSetMode
  match action with
  | .left =>
    match mode with
    | .setMinute => do
      modifyClk fun c => { c with minute := wrapDown 59 c.minute }
      modifyMenu fun m => { m with menuId := 300 }
    | .setHour => do
      modifyClk fun c => { c with hour := wrapDown 23 c.hour }
      modifyMenu fun m => { m with menuId := 300 }
    | _ => leaveTo 200 300
  | .right =>
    match mode with
    | .setMinute => do
      modifyClk fun c => { c with minute := wrapUp 59 c.minute }
      modifyMenu fun m => { m with menuId := 300 }
    | .setHour => do
      modifyClk fun c => { c with hour := wrapUp 23 c.hour }
      modifyMenu fun m => { m with menuId := 300 }
    | _ => leaveTo 400 300
  | .select =>
    match mode with
    | .setMinute => do
      dateUpdate
      saveTimeSetting
      leaveTo 300 400
    | .setNothing => modifyMenu fun m => { m with timeSetMode := .setHour, menuId := 300 }
    | .setHour => modifyMenu fun m => { m with timeSetMode := .setMinute, menuId := 300 }
    | _ => pure ()
  | .exit =>
    match mode with
    | .setNothing => goTo 0 1
    | _ => do
      dateUpdate
      saveTimeSetting
      modifyMenu fun m => { m with timeSetMode := .setNothing, menuId := 300 }
  | .nothing => modifyMenu fun m => { m with menuId := 300 }

/-- The month length of screen 400. -/
def maxDay (month : Int8) (year : Int16) : UInt8 :=
  if month = 1 ∨ month = 3 ∨ month = 5 ∨ month = 7 ∨ month = 8 ∨ month = 10 ∨ month = 12 then 31
  else if month = 2 then (if year % 4 = 0 then 29 else 28)
  else 30

/-- The `switch` of screen 400. -/
def screen400Switch (action : BtnAction) : Fw Unit := do
  let mode := (← get).menu.timeSetMode
  let stay := modifyMenu fun m => { m with menuId := 400 }
  match action with
  | .left =>
    match mode with
    | .setDay => do
      modifyClk fun c => { c with
        date := if c.date - 1 < 1 then c.maxDayThisMonth.toInt8 else c.date - 1 }
      stay
    | .setMonth => do
      modifyClk fun c => { c with month := if c.month - 1 < 1 then 12 else c.month - 1 }
      stay
    | .setYear => do
      modifyClk fun c => { c with year := if c.year - 1 < 2000 then 2099 else c.year - 1 }
      stay
    | _ => leaveTo 300 400
  | .right =>
    match mode with
    | .setDay => do
      modifyClk fun c => { c with
        date := if c.date + 1 > c.maxDayThisMonth.toInt8 then 1 else c.date + 1 }
      stay
    | .setMonth => do
      modifyClk fun c => { c with month := if c.month + 1 > 12 then 1 else c.month + 1 }
      stay
    | .setYear => do
      modifyClk fun c => { c with year := if c.year + 1 > 2099 then 2000 else c.year + 1 }
      stay
    | _ => leaveTo 500 400
  | .select =>
    match mode with
    | .setDay => modifyMenu fun m => { m with timeSetMode := .setMonth, menuId := 400 }
    | .setMonth => modifyMenu fun m => { m with timeSetMode := .setYear, menuId := 400 }
    | .setYear => do
      timeUpdate
      saveTimeSetting
      leaveTo 400 900
    | .setNothing => modifyMenu fun m => { m with timeSetMode := .setDay, menuId := 400 }
    | _ => pure ()
  | .exit =>
    match mode with
    | .setNothing => goTo 0 300
    | _ => do
      timeUpdate
      saveTimeSetting
      modifyMenu fun m => { m with timeSetMode := .setNothing, menuId := 400 }
  | .nothing => stay

/-- Screen 400: date. -/
def screen400 (action : BtnAction) : Fw Unit := do
  when ((← get).menu.timeSetMode = .setNothing) do
    timeUpdate
    dateUpdate
  when ((← get).menu.timeSetMode ≠ .setDay) do
    modifyClk fun c => { c with
      date := if c.date > c.maxDayThisMonth.toInt8 then c.maxDayThisMonth.toInt8 else c.date }
    modifyMenu fun m => { m with menuId := 400 }
  screen400Switch action
  modifyClk fun c => { c with maxDayThisMonth := maxDay c.month c.year }

/-- Screen 700: reset, which for now sends the device to sleep. -/
def screen700 (action : BtnAction) : Fw Unit := do
  modifyMenu (hub 600 100 710 0 700 action)
  when (action = .select) prepForDeepSleep

/-- Screen 900: save. -/
def screen900 (n : Nat) : Fw Unit := do
  modifyMenu fun m => { m with menuId := 0 }
  if (← get).sched.fInitNox = 0 then
    -- the end of the first set-up
    modifySched fun s => { s with fInitNox := 1 }
    memoryPut .initNox 1
    modifyDoor fun d => { d with errorFlag := .noError }
    memoryPut .errorFlag .noError
  else
    saveAlarmValues
  statusabfrage n

/-- The dispatch of `menuFunctions` on `menu_id`; numbers without a screen do nothing. -/
def screen (n : Nat) (action : BtnAction) (menuId : Nat) : Fw Unit :=
  match menuId with
  | 0 => screen000 n action
  | 1 => modifyMenu (screen001 action)
  | 2 => screen002 action
  | 3 => manualScreen n .posUp
  | 4 => manualScreen n .posDown
  | 100 => modifyMenu (screen100 action)
  | 110 => modifyMenu (screen110 action)
  | 200 => modifyMenu (screen200 action)
  | 300 => screen300 action
  | 400 => screen400 action
  | 500 => modifyMenu (screen500 action)
  | 600 => modifyMenu (screen600 action)
  | 700 => screen700 action
  | 800 => modifyMenu (screen800 action)
  | 810 => modifyMenu (screen810 action)
  | 820 => modifyMenu (screen820 action)
  | 900 => screen900 n
  | _ => pure ()

/-- `menuFunctions`. -/
def menuFunctions (n : Nat) (action : BtnAction) : Fw Unit := do
  when (action ≠ .nothing) do
    modifyMenu fun m => { m with menuRefreshFlag := true }
  let menuId := (← get).menu.menuId
  setDispatch (.menu menuId action)
  call (.menuFunctions action)
  screen n action menuId

/-! ## Buttons -/

/-- A button branch of `menuUpdate`: the press counts for the menu only while the
    display is lit. -/
def press (n : Nat) (action : BtnAction) : Fw Unit := do
  let now ← millis
  when (now - (← get).btn.lastPress < lcdOffTime) (menuFunctions n action)
  modifyBtn fun b => { b with buttonFlag := true }
  -- two more calls of `millis`, one for each variable
  let now ← millis
  modifyBtn fun b => { b with previousMillis := now }
  let now ← millis
  modifyBtn fun b => { b with lastPress := now }

/-- A line is high and no press is being debounced. -/
def freshPress (pin : InPin) : Fw Bool := do
  let level ← digitalRead pin
  pure (level && !(← get).btn.buttonFlag)

/-- The button branches of `menuUpdate`. -/
def buttonBranches (n : Nat) : Fw Unit := do
  if ← freshPress .swSelect then press n .select
  else if ← freshPress .swExit then press n .exit
  else if ← freshPress .swBack then press n .left
  else if ← freshPress .swFwd then press n .right
  else
    when ((← get).menu.menuRefreshFlag = true) do
      modifyMenu fun m => { m with menuRefreshFlag := false }
      menuFunctions n .nothing

/-- One of the four buttons is down; the order of the tests is that of the source. -/
def anyButton : Fw Bool := do
  if ← digitalRead .swFwd then pure true
  else if ← digitalRead .swBack then pure true
  else if ← digitalRead .swExit then pure true
  else digitalRead .swSelect

/-- The long-press part of `menuUpdate`. -/
def longPressCheck : Fw Unit := do
  if ← anyButton then
    when ((← get).btn.longPressFlag = false) do
      let now ← millis
      modifyBtn fun b => { b with longPressStart := now, longPressFlag := true }
  else
    modifyBtn fun b => { b with longPressFlag := false }

/-- Release the debounce lock once `debounceTime` is over. -/
def releaseAfter (debounceTime : UInt32) : Fw Unit := do
  let now ← millis
  when (now - (← get).btn.previousMillis ≥ debounceTime) do
    let now ← millis
    modifyBtn fun b => { b with previousMillis := now, buttonFlag := false }

/-- The debounce part of `menuUpdate`. -/
def debounceCheck : Fw Unit := do
  let long ← (do
    if (← get).btn.longPressFlag then
      let now ← millis
      pure (decide (now - (← get).btn.longPressStart > buttonLongPressTime))
    else pure false)
  if long then releaseAfter buttonDebounceTimeFast
  else releaseAfter buttonDebounceTimeNormal

/-- `menuUpdate`. -/
def menuUpdate (n : Nat) : Fw Unit := do
  call .menuUpdate
  buttonBranches n
  longPressCheck
  debounceCheck

end Eggvault.Native
