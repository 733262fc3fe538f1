import Eggvault.Spec.MenuCorrect
import Eggvault.Spec.MotorFrame

/-!
# The actions of the firmware

Between two resets everything the firmware does is a sequence of a few kinds of actions.
`Act` lists them, each with what is known when it happens and with the whole device
afterwards.  An action is as small as the step budget can cut it: a scheduling pass, an
iteration of the motor loop or a screen that calls nothing else is one action.

`ActionsCorrect` shows that `boot` and `loop` do nothing else, so that an invariant that
every action keeps holds in every run.
-/

namespace Eggvault.Spec

open Eggvault.Native Prog Trace TimeLib

/-! ## Status checks -/

/-- The position that a reading of the end switches stands for in `statusabfrage`. -/
def position (up low : Bool) : Klappenposition :=
  match up, low with
  | false, false => .posDown
  | false, true => .posBlocked
  | true, true => .posUp
  | true, false => .posDriving

/-- The device after `statusabfrage` has read the end switches. -/
def lookedAt (ω : Env) (w : World) : World :=
  let up := (ω w.tick).endUp
  let low := (ω (w.tick + 1)).endLow
  looked w (ω w.tick) (ω (w.tick + 1)) (position up low)
    (if position up low = .posBlocked then .timerBlockedElapsed else w.door.errorFlag)

/-- The device after the error branch of `statusabfrage`. -/
def reported (w : World) : World :=
  { w with
    trace := .status true :: w.trace
    menu := { w.menu with menuActive := true, menuId := 2 }
    sched := { w.sched with manualFlag := false } }

/-! ## Passes -/

/-- Where the door is scheduled to go from the position that was found. -/
def heading (d : Door) : Klappenposition :=
  match d.doorPosition with
  | .posUp => .posDown
  | .posDown => .posUp
  | .posBlocked => .posDown
  | .posDriving => if d.lastDoorPosition = .posDown then .posUp else .posDown

theorem heading_cases (d : Door) : heading d = .posUp ∨ heading d = .posDown := by
  unfold heading
  split
  · exact .inr rfl
  · exact .inl rfl
  · exact .inr rfl
  · split
    · exact .inl rfl
    · exact .inr rfl

/-- The entry of the day for a direction. -/
def entryOf [TimeLib] (w : World) (pos : Klappenposition) : DoorDayAlarm :=
  todaysAlarm (if pos = .posUp then w.sched.openingAlarms else w.sched.closingAlarms) w.clk.tNow

/-- The plan of the scheduler for a direction. -/
def planOf [TimeLib] (pos : Klappenposition) (a : DoorDayAlarm) (mode : OpeningMode) (manual : Bool)
    (t : Int32) : Plan :=
  if pos = .posUp then openingPlan a mode manual t else closingPlan a mode manual t

/-- The pause after the last move is not over. -/
def Pausing (w : World) : Prop := w.door.lastMove + tDeltaMin > w.clk.tNow + 1

/-- What is left of the pause, as the timer is set for it. -/
def pauseLeft (w : World) : UInt64 :=
  toMicros (sToUs * (w.door.lastMove + tDeltaMin - w.clk.tNow))

/-- What a pass does about light, once the alarm is set. -/
inductive Lights (ω : Env) (pos : Klappenposition) (light : Bool) (w : World) : World → Prop where
  | off (h : light = false) : Lights ω pos light w w
  | waiting (h : light = true) (hp : Pausing w) :
      Lights ω pos light w (withLight w (some (pauseLeft w)))
  /-- The budget is used up before the measurement. -/
  | armed (h : light = true) (hp : ¬ Pausing w) : Lights ω pos light w (withLight w w.timer)
  | measured (h : light = true) (hp : ¬ Pausing w) :
      Lights ω pos light w (measured ω (withLight w w.timer) pos)

/-- A pass from `w` for the direction `pos` with the entry `a`, as planned. -/
structure Pass [TimeLib] (ω : Env) (pos : Klappenposition) (a : DoorDayAlarm) (mode : OpeningMode)
    (w w' : World) : Prop where
  direction : pos = heading w.door
  noError : w.door.errorFlag = .noError
  entry : a = entryOf w pos
  valid : OpeningMode.ofByte a.mode = some mode
  carried : ∃ w₁, Programmed pos a (planOf pos a mode w.sched.manualFlag w.clk.tNow) w w₁ ∧
    Lights ω pos (planOf pos a mode w.sched.manualFlag w.clk.tNow).light w₁ w'

/-! ## Timer wake-ups -/

/-- The handling of a wake-up has begun, and nothing has been scheduled since. -/
def unscheduled (tr : List Event) : Bool :=
  (tr.findSome? fun
    | .booted _ => some true
    | .call (.setNextAlarm _ _) _ | .call .updateTime _ => some false
    | _ => none).getD false

/-- The clock has just been read. -/
def justRead (tr : List Event) : Bool :=
  (tr.findSome? fun
    | .alarmFired _ => none
    | .call .updateTime _ => some true
    | _ => some false).getD false

/-- Since the last wake-up the light has not been measured. -/
def unpolled (tr : List Event) : Bool :=
  (tr.findSome? fun
    | .booted _ => some true
    | .lightCheck _ _ _ => some false
    | _ => none).getD false

/-- The light check of a timer wake-up is due. -/
def TimerDue (w : World) : Prop := w.wakeup = .timer ∧ unscheduled w.trace = true

/-! ## Moves -/

/-- The loop of the last move was left by a button or by a time limit. -/
def leftEarly (tr : List Event) : Bool :=
  (tr.findSome? fun
    | .motorEnter _ => some false
    | .call .moveMotor _ => some false
    | .buttonBreak => some true
    | .raised _ => some true
    | _ => none).getD false

/-- The loop of a move to `pos` is over. -/
def Ended (pos : Klappenposition) (w : World) : Prop :=
  w.door.doorPosition = pos ∨ leftEarly w.trace = true

/-- A move to `pos` that was started in `w₀` is about to look at its goal again. -/
inductive Driving (ω : Env) (pos : Klappenposition) (w₀ : World) : World → Prop where
  | start (w : World) (h : startMove ω w₀ = .done () w) : Driving ω pos w₀ w
  | next (w w' : World) (hd : Driving ω pos w₀ w) (hp : w.door.doorPosition ≠ pos)
      (h : moveIteration pos ω w = .done true w') : Driving ω pos w₀ w'

/-- A move to `pos` that was started in `w₀` has left its loop. -/
inductive Drove (ω : Env) (pos : Klappenposition) (w₀ : World) : World → Prop where
  | goal (w : World) (hd : Driving ω pos w₀ w) (hp : w.door.doorPosition = pos) : Drove ω pos w₀ w
  | left (w w' : World) (hd : Driving ω pos w₀ w) (hp : w.door.doorPosition ≠ pos)
      (h : moveIteration pos ω w = .done false w') : Drove ω pos w₀ w'

/-! ## Screens -/

/-- `menuFunctions` has been called, and no screen has acted yet. -/
def entered (w : World) (action : BtnAction) : World :=
  { w with dispatch := .menu w.menu.menuId action }.called (.menuFunctions action)

/-- The screens that only edit menu variables. -/
def editScreen (menuId : Nat) : Option (BtnAction → Menu → Menu) :=
  match menuId with
  | 1 => some screen001
  | 100 => some screen100
  | 110 => some screen110
  | 200 => some screen200
  | 500 => some screen500
  | 600 => some screen600
  | 700 => some (hub 600 100 710 0 700)
  | 800 => some screen800
  | 810 => some screen810
  | 820 => some screen820
  | _ => none

/-- The screens with effects of their own. -/
def actingScreen : Nat → Bool
  | 0 | 2 | 300 | 400 | 900 => true
  | _ => false

/-- The screen that the firmware goes to by itself. -/
inductive GoesTo (w : World) : Nat → Prop where
  | start (action : BtnAction) (h : w.dispatch = .menu 0 action) :
      GoesTo w (hub 3 4 100 0 0 action w.menu).menuId
  | moved (k : Nat) (action : BtnAction) (hk : k = 3 ∨ k = 4) (h : w.dispatch = .menu k action) :
      GoesTo w 0
  | error (h : w.door.errorFlag ≠ .noError) : GoesTo w 2
  | initial (h : w.sched.fInitNox = 0) (hm : w.menu.timeSetMode = .setNothing) : GoesTo w 1
  | ready (h : w.sched.fInitNox ≠ 0) : GoesTo w 0

/-- The device after screen 000 has read the clock. -/
def restamped [TimeLib] (ω : Env) (w : World) : World :=
  { updated w (ω w.tick) with clk := dateOf (timeOf w.clk (ω w.tick).rtc) (ω w.tick).rtc }

/-- The device after screen 002 has been acknowledged by a button. -/
def acknowledged (w : World) : World :=
  { w with
    door := { w.door with errorFlag := .noError }
    nvs := w.nvs.put .errorFlag .noError
    menu := { w.menu with menuId := 0 } }

/-- The device after the save of screen 900 that ends the first set-up. -/
def initialised (w : World) : World :=
  { w with
    menu := { w.menu with menuId := 0 }
    sched := { w.sched with fInitNox := 1 }
    door := { w.door with errorFlag := .noError }
    nvs := (w.nvs.put .initNox 1).put .errorFlag .noError }

/-! ## What a status check or a move leaves alone -/

/-- The keys of the tables and of the end of the first set-up. -/
def isSetupKey : NvsKey → Bool
  | .initNox | .initAlarm | .openAlarms | .closeAlarms => true
  | _ => false

/-- The events of status checks and moves. -/
def isWorkEvent : Event → Bool
  | .alarmFired _ | .setAlarm _ _ _ | .lightArmed _ _ _ | .lightCheck _ _ _ | .status _ => true
  | .call .prepForDeepSleep _ | .call (.setNextAlarm _ _) _ | .raised .wrongAlarmMode => true
  | e => isMoveEvent e

/-- A status check or a move touches neither the clock nor the tables, and the menu only to
    report an error. -/
structure Aside (w w' : World) : Prop where
  clk : w'.clk = w.clk
  snapshot : w'.rtc.snapshot = w.rtc.snapshot
  wakeup : w'.wakeup = w.wakeup
  dispatch : w'.dispatch = w.dispatch
  opening : w'.sched.openingAlarms = w.sched.openingAlarms
  closing : w'.sched.closingAlarms = w.sched.closingAlarms
  nox : w'.sched.fInitNox = w.sched.fInitNox
  nvs : ∀ k, isSetupKey k = true → w'.nvs.get k = w.nvs.get k
  menu : ∃ active id, w'.menu = { w.menu with menuActive := active, menuId := id }
  trace : Extends isWorkEvent w.trace w'.trace

namespace Aside

variable {w₀ w w' : World}

theorem refl (w : World) : Aside w w where
  clk := rfl
  snapshot := rfl
  wakeup := rfl
  dispatch := rfl
  opening := rfl
  closing := rfl
  nox := rfl
  nvs := fun _ _ => rfl
  menu := ⟨_, _, rfl⟩
  trace := .refl _

theorem emit (h : Aside w₀ w) {e : Event} (he : isWorkEvent e = true) :
    Aside w₀ { w with trace := e :: w.trace } :=
  { h with trace := h.trace.cons he }

theorem observe (h : Aside w₀ w) (s : Sample) : Aside w₀ (w.observe s) :=
  { h with trace := extends_observe h.trace (fun _ => rfl) s }

theorem put (h : Aside w₀ w) {k : NvsKey} (v : k.Value) (hk : isSetupKey k = false) :
    Aside w₀ { w with nvs := w.nvs.put k v } := by
  refine { h with nvs := fun k' hk' => ?_ }
  have hne : k' ≠ k := by
    intro heq
    rw [heq, hk] at hk'
    cases hk'
  rw [nvs_get_put_of_ne _ _ hne]
  exact h.nvs k' hk'

theorem blind (ω : Env) (w₀ : World) : Blind ω (Aside w₀) where
  observe := fun _ h => h.observe _
  door := fun _ _ _ h => { h with }
  pins := fun _ _ h => { h with }
  emit := by
    intro w e he h
    apply h.emit
    cases e with
    | call f m => cases f <;> first | rfl | exact he
    | raised error => cases error <;> first | rfl | exact he
    | _ => first | rfl | exact he
  store := by
    intro w k v hk h
    apply h.put
    cases k <;> first | rfl | cases hk

theorem called (h : Aside w₀ w) {f : Callee} (he : isWorkEvent (.call f w.moment) = true) :
    Aside w₀ (w.called f) := h.emit he

end Aside

/-! ## Actions -/

/-- A branch of the firmware outside of the menu. -/
def outsideMenu : Dispatch → Bool
  | .boot | .menu _ _ => false
  | _ => true

variable [TimeLib]

/-- One action of a status check or of a move. -/
inductive Work (ω : Env) : World → World → Prop where
  /-- A reading of an input. -/
  | read (w : World) : Work ω w (w.observe (ω w.tick))
  /-- A write to the LED. -/
  | led (w : World) (p : Pins) : Work ω w { w with pins := p }
  | startMove (w w' : World) (h : startMove ω w = .done () w') : Work ω w w'
  | iterate (w w' w₀ : World) (pos : Klappenposition) (again : Bool)
      (hpos : pos = .posUp ∨ pos = .posDown) (hd : Driving ω pos w₀ w)
      (hp : w.door.doorPosition ≠ pos) (h : moveIteration pos ω w = .done again w') : Work ω w w'
  | finishMove (w w' w₀ : World) (pos : Klappenposition) (hpos : pos = .posUp ∨ pos = .posDown)
      (hm : Drove ω pos w₀ w) (h : finishMove ω w = .done () w') : Work ω w w'
  | look (w : World) : Work ω w (lookedAt ω w)
  | report (w : World) (he : w.door.errorFlag ≠ .noError) : Work ω w (reported w)
  | accept (w : World) (he : w.door.errorFlag = .noError) :
      Work ω w { w with trace := .status false :: w.trace }
  | pass (w w' : World) (pos : Klappenposition) (a : DoorDayAlarm) (mode : OpeningMode)
      (h : Pass ω pos a mode w w') : Work ω w w'
  /-- A pass for an entry without a mode. -/
  | stray (w w' : World) (pos : Klappenposition) (hpos : pos = heading w.door)
      (he : w.door.errorFlag = .noError)
      (hm : OpeningMode.ofByte (entryOf w pos).mode = none) (h : Started pos (entryOf w pos) w w') :
      Work ω w w'
  | lose (w : World) (pos : Klappenposition)
      (hm : OpeningMode.ofByte (entryOf w pos).mode = none) : Work ω w (lost w)
  | sleep (w : World) : Work ω w (slept w (ω w.tick))

/-- One action of the handling of a wake-up or of an alarm. -/
inductive WakeAct (ω : Env) : World → World → Prop where
  | work (w w' : World) (h : Work ω w w') : WakeAct ω w w'
  /-- Assignments to what only the display, the buttons and the LED depend on. -/
  | keep (w : World) (b : Buttons) (p : Pins) (manual active refresh blink : Bool) (count : UInt8) :
      WakeAct ω w { w with
        btn := b, pins := p, sched := { w.sched with manualFlag := manual }
        menu := { w.menu with
          menuActive := active, menuRefreshFlag := refresh, blink := blink, blinkCount := count } }
  | dispatch (w : World) (d : Dispatch) (hd : outsideMenu d = true) :
      WakeAct ω w { w with dispatch := d }
  | booted (w : World) (h : w.dispatch = .boot) (hr : justRead w.trace = true) :
      WakeAct ω w { w with trace := .booted w.wakeup :: w.trace }
  | alarmMove (w : World) (hf : w.sched.alarmFlag = .posUp ∨ w.sched.alarmFlag = .posDown) :
      WakeAct ω w { w with trace := .alarmMove w.sched.alarmFlag w.tick :: w.trace }
  | wrongAlarm (w : World) (hf : w.sched.alarmFlag = .posDriving) :
      WakeAct ω w (raised w .wrongAlarmFlag)
  | wrongLight (w : World) (ht : TimerDue w) (hu : w.sched.ldrFlag ≠ .posUp)
      (hd : w.sched.ldrFlag ≠ .posDown) : WakeAct ω w (raised w .wrongLdrFlag)
  | measure (w : World) (ht : TimerDue w)
      (hf : w.sched.ldrFlag = .posUp ∨ w.sched.ldrFlag = .posDown)
      (hm : ¬ Triggers ω w w.sched.ldrFlag) (hu : unpolled w.trace = true) :
      WakeAct ω w (measured ω w w.sched.ldrFlag)
  | trigger (w : World) (ht : TimerDue w)
      (hf : w.sched.ldrFlag = .posUp ∨ w.sched.ldrFlag = .posDown)
      (hm : Triggers ω w w.sched.ldrFlag) (hu : unpolled w.trace = true) :
      WakeAct ω w (triggered ω w w.sched.ldrFlag)

/-- One action between two resets. -/
inductive Act (ω : Env) : World → World → Prop where
  | wake (w w' : World) (h : WakeAct ω w w') : Act ω w w'
  | update (w : World) (h : w.door.errorFlag ≠ .noError → w.menu.menuId = 2) :
      Act ω w (w.called .menuUpdate)
  | goTo (w : World) (id : Nat) (h : GoesTo w id) :
      Act ω w { w with menu := { w.menu with menuId := id } }
  /-- A screen that moves the door or that does not exist. -/
  | enter (w : World) (action : BtnAction) (h : editScreen w.menu.menuId = none)
      (ha : actingScreen w.menu.menuId = false) : Act ω w (entered w action)
  | edit (w : World) (action : BtnAction) (f : BtnAction → Menu → Menu)
      (hf : editScreen w.menu.menuId = some f) :
      Act ω w { entered w action with menu := f action w.menu }
  | start (w : World) (action : BtnAction) (h : w.menu.menuId = 0) :
      Act ω w (restamped ω (entered w action))
  | acknowledge (w : World) (action : BtnAction) (h : w.menu.menuId = 2) (ha : action ≠ .nothing) :
      Act ω w (acknowledged (entered w action))
  | redraw (w : World) (h : w.menu.menuId = 2) :
      Act ω w { entered w .nothing with menu := { w.menu with menuId := 0 } }
  | setTime (w w' : World) (action : BtnAction) (hid : w.menu.menuId = 300)
      (h : screen300 action ω (entered w action) = .done () w') : Act ω w w'
  | setDate (w w' : World) (action : BtnAction) (hid : w.menu.menuId = 400)
      (h : screen400 action ω (entered w action) = .done () w') : Act ω w w'
  | initialise (w : World) (action : BtnAction) (hid : w.menu.menuId = 900)
      (hn : w.sched.fInitNox = 0) : Act ω w (initialised (entered w action))
  | save (w : World) (action : BtnAction) (hid : w.menu.menuId = 900)
      (hn : w.sched.fInitNox ≠ 0) :
      Act ω w (saved { entered w action with menu := { w.menu with menuId := 0 } })

/-- An invariant that every action of a status check or of a move keeps. -/
def WorkClosed (ω : Env) (I : World → Prop) : Prop := ∀ w w', Work ω w w' → I w → I w'

/-- An invariant that every action of the handling of a wake-up keeps. -/
def WakeClosed (ω : Env) (I : World → Prop) : Prop := ∀ w w', WakeAct ω w w' → I w → I w'

/-- An invariant that every action keeps. -/
def Closed (ω : Env) (I : World → Prop) : Prop := ∀ w w', Act ω w w' → I w → I w'

theorem WakeClosed.work {ω : Env} {I : World → Prop} (h : WakeClosed ω I) : WorkClosed ω I :=
  fun w w' hw => h w w' (.work w w' hw)

theorem Closed.wake {ω : Env} {I : World → Prop} (h : Closed ω I) : WakeClosed ω I :=
  fun w w' hw => h w w' (.wake w w' hw)

theorem Closed.work {ω : Env} {I : World → Prop} (h : Closed ω I) : WorkClosed ω I := h.wake.work

section Work

variable {ω : Env} {w w' : World} {pos : Klappenposition} {a : DoorDayAlarm} {lux : UInt8}

omit [TimeLib] in
/-- A pass so far. -/
theorem Passing.aside (hp : Passing pos lux w w') (hs : Silent pos a w w') : Aside w w' where
  clk := hp.clk
  snapshot := hp.snapshot
  wakeup := hs.wakeup
  dispatch := hp.dispatch
  opening := hp.opening
  closing := hp.closing
  nox := hp.nox
  nvs := by
    intro k hk
    apply hp.nvs
    intro heq
    rw [heq] at hk
    cases hk
  menu := ⟨w.menu.menuActive, w.menu.menuId, hp.menu⟩
  trace := by
    have hcall : Extends isWorkEvent w.trace (.call (.setNextAlarm pos a) w.moment :: w.trace) :=
      .single _ rfl
    refine hcall.trans (hs.trace.mono fun e he => ?_)
    cases e <;> first | rfl | cases he

omit [TimeLib] in
theorem Aside.withLight {w₀ : World} (h : Aside w₀ w) (timer : Option UInt64) :
    Aside w₀ (withLight w timer) :=
  { h.emit (e := .lightArmed w.sched.nextMove w.sched.nextLux w.rtc.snapshot) rfl with }

omit [TimeLib] in
theorem Lights.aside {w₀ : World} {light : Bool} (hl : Lights ω pos light w w') (h : Aside w₀ w) :
    Aside w₀ w' := by
  cases hl with
  | off => exact h
  | waiting _ _ => exact h.withLight _
  | armed _ _ => exact h.withLight _
  | measured _ _ =>
    exact { ((h.withLight w.timer).observe (ω w.tick)).emit (e := .lightCheck pos _ _) rfl with }

/-- A pass touches neither the door nor the menu. -/
theorem Pass.frame {mode : OpeningMode} (h : Pass ω pos a mode w w') :
    w'.door = w.door ∧ w'.menu = w.menu := by
  obtain ⟨w₁, h₁, hl⟩ := h.carried
  cases hl with
  | off => exact ⟨h₁.door, h₁.menu⟩
  | waiting => exact ⟨h₁.door, h₁.menu⟩
  | armed => exact ⟨h₁.door, h₁.menu⟩
  | measured => exact ⟨h₁.door, h₁.menu⟩

/-- What every action of a status check or of a move leaves alone. -/
theorem Work.aside (h : Work ω w w') : Aside w w' := by
  have hb := Aside.blind ω w
  cases h with
  | read => exact (Aside.refl w).observe _
  | led p => exact { Aside.refl w with }
  | startMove _ hrun => exact wp_run (hb.startMove w (.refl w)) hrun
  | iterate _ _ pos again _ _ _ hrun => exact wp_run (hb.moveIteration pos w (.refl w)) hrun
  | finishMove _ _ _ _ _ hrun => exact wp_run (hb.finishMove w (.refl w)) hrun
  | look => exact { (((Aside.refl w).observe _).observe _).put (k := .errorFlag) _ rfl with }
  | report he =>
    exact { (Aside.refl w).emit (e := .status true) rfl with menu := ⟨true, 2, rfl⟩ }
  | accept he => exact (Aside.refl w).emit rfl
  | pass _ pos a mode hp =>
    obtain ⟨w₁, h₁, hl⟩ := hp.carried
    exact hl.aside (h₁.toPassing.aside h₁.silent)
  | stray _ pos _ _ _ hs => exact hs.toPassing.aside hs.silent
  | lose pos hm =>
    have hset := (Aside.refl w).emit (e := .setAlarm (tomorrow w.clk.tNow) 0 0) rfl
    exact { hset.emit (e := .raised .wrongAlarmMode) rfl with }
  | sleep => exact { ((Aside.refl w).called (f := .prepForDeepSleep) rfl).observe (ω w.tick) with }

end Work

/-! ## Resets -/

/-- The RTC has raised its line. -/
def isFiring : Event → Bool
  | .alarmFired _ => true
  | _ => false

/-- The table that a boot reads, with the default one before the first save. -/
def recalled (nvs : Nvs) (stored : Option WeekTable) (default : DoorDayAlarm) : WeekTable :=
  if (nvs.get .initAlarm).getD 0 = 0 then fun _ => default else stored.getD fun _ => {}

/-- The globals have been restored after the reset `w₀`, and the clock has been read. -/
structure Rebooted (ω : Env) (w₀ w : World) : Prop extends Restored w₀ w where
  openingAlarms : w.sched.openingAlarms =
    recalled w₀.nvs (w₀.nvs.get .openAlarms) defaultOpening
  closingAlarms : w.sched.closingAlarms =
    recalled w₀.nvs (w₀.nvs.get .closeAlarms) defaultClosing
  flash : w.nvs = if (w₀.nvs.get .initAlarm).getD 0 = 0 then
      (w₀.nvs.put .openAlarms w.sched.openingAlarms).put .closeAlarms w.sched.closingAlarms
    else w₀.nvs
  clk : w.clk = dateOf (timeOf {} (ω (w₀.tick + 7)).rtc) (ω (w₀.tick + 7)).rtc
  snapshot : w.rtc.snapshot = (ω (w₀.tick + 7)).rtc
  ram : w.rtc.ram = w₀.rtc.ram
  tick : w.tick = w₀.tick + 8
  trace : ∃ tr m, Extends isFiring w₀.trace tr ∧ m.tick = w₀.tick + 7 ∧
    Extends isFiring (.call .updateTime m :: tr) w.trace

/-- A reset has just read the clock. -/
theorem Rebooted.justRead {ω : Env} {w₀ w : World} (h : Rebooted ω w₀ w) :
    justRead w.trace = true := by
  obtain ⟨tr, m, -, -, htr⟩ := h.trace
  refine htr.keeps (P := fun tr => Spec.justRead tr = true) (fun e tr he h => ?_) rfl
  cases e with
  | alarmFired t => exact h
  | _ => cases he

end Eggvault.Spec
