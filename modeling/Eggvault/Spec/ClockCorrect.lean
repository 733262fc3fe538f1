import Eggvault.Spec.ActionsCorrect
import Eggvault.Spec.RoundTripCorrect
import Eggvault.Spec.EditCorrect
import Eggvault.Native.Calendar

/-!
# Reading, editing and setting the clock

The clock variables are written in three places: `setup` and screen 000 read the RTC, and the
two clock screens edit the variables and write them back.  Here each call of a clock screen is
computed as a whole, and every other action is shown to leave the clock alone.

## Key results

- `screen300_eq`, `screen400_eq`: what a call of a clock screen does
- `Act.clockStep`: the four things that can happen to the clock
- `clock_save_iff`: when a save leaves alone what was not edited
-/

namespace Eggvault.Spec

open Eggvault.Native Prog Trace

/-! ## Screens 300 and 400 -/

/-- The event of a save of these variables. -/
def clockWritten (c : Clock) : Event :=
  .setTime c.second c.minute c.hour (c.dow - 1) c.date c.month c.year

/-- Screen 300 writes the RTC. -/
def saves300 (action : BtnAction) (mode : Setmode) : Bool :=
  match action with
  | .select => mode == .setMinute
  | .exit => mode != .setNothing
  | _ => false

/-- What screen 300 edits next, and where it leads; `nox` is `F_init_NOX`. -/
def next300 (action : BtnAction) (mode : Setmode) (nox : Int32) : Setmode × Nat :=
  match action, mode with
  | .left, .setMinute | .left, .setHour | .right, .setMinute | .right, .setHour => (mode, 300)
  | .left, _ => (.setNothing, if nox = 0 then 300 else 200)
  | .right, _ => (.setNothing, if nox = 0 then 300 else 400)
  | .select, .setNothing => (.setHour, 300)
  | .select, .setHour => (.setMinute, 300)
  | .select, .setMinute => (.setNothing, if nox = 0 then 400 else 300)
  | .select, _ => (mode, 300)
  | .exit, .setNothing => (.setNothing, if nox = 0 then 1 else 0)
  | .exit, _ => (.setNothing, 300)
  | .nothing, _ => (mode, 300)

/-- Screen 400 writes the RTC. -/
def saves400 (action : BtnAction) (mode : Setmode) : Bool :=
  match action with
  | .select => mode == .setYear
  | .exit => mode != .setNothing
  | _ => false

/-- What screen 400 edits next, and where it leads. -/
def next400 (action : BtnAction) (mode : Setmode) (nox : Int32) : Setmode × Nat :=
  match action, mode with
  | .left, .setDay | .left, .setMonth | .left, .setYear => (mode, 400)
  | .right, .setDay | .right, .setMonth | .right, .setYear => (mode, 400)
  | .left, _ => (.setNothing, if nox = 0 then 400 else 300)
  | .right, _ => (.setNothing, if nox = 0 then 400 else 500)
  | .select, .setNothing => (.setDay, 400)
  | .select, .setDay => (.setMonth, 400)
  | .select, .setMonth => (.setYear, 400)
  | .select, .setYear => (.setNothing, if nox = 0 then 900 else 400)
  | .select, _ => (mode, 400)
  | .exit, .setNothing => (.setNothing, if nox = 0 then 300 else 0)
  | .exit, _ => (.setNothing, 400)
  | .nothing, _ => (mode, 400)

/-- `Date` is cut to the month length that the last call of screen 400 has computed. -/
def clamped (c : Clock) : Clock :=
  { c with date := if c.date > c.maxDayThisMonth.toInt8 then c.maxDayThisMonth.toInt8 else c.date }

/-- An edit of the date with the arrow buttons. -/
def turned400 (action : BtnAction) (mode : Setmode) (c : Clock) : Clock :=
  match action, mode with
  | .left, .setDay =>
    { c with date := if c.date - 1 < 1 then c.maxDayThisMonth.toInt8 else c.date - 1 }
  | .left, .setMonth => { c with month := if c.month - 1 < 1 then 12 else c.month - 1 }
  | .left, .setYear => { c with year := if c.year - 1 < 2000 then 2099 else c.year - 1 }
  | .right, .setDay =>
    { c with date := if c.date + 1 > c.maxDayThisMonth.toInt8 then 1 else c.date + 1 }
  | .right, .setMonth => { c with month := if c.month + 1 > 12 then 1 else c.month + 1 }
  | .right, .setYear => { c with year := if c.year + 1 > 2099 then 2000 else c.year + 1 }
  | _, _ => c

/-- An edit of the time with the arrow buttons. -/
def turned300 (action : BtnAction) (mode : Setmode) (c : Clock) : Clock :=
  match action, mode with
  | .left, .setMinute => { c with minute := wrapDown 59 c.minute }
  | .left, .setHour => { c with hour := wrapDown 23 c.hour }
  | .right, .setMinute => { c with minute := wrapUp 59 c.minute }
  | .right, .setHour => { c with hour := wrapUp 23 c.hour }
  | _, _ => c

/-- The device after a call of a clock screen: with which clock variables it has read the RTC, if it
    has, whether it has written it, the clock variables and the way on. -/
def screened (ω : Env) (w : World) (read : Option Clock) (saves : Bool) (c : Clock)
    (next : Setmode × Nat) : World :=
  let w₁ := match read with
    | some c₀ => updated { w with clk := c₀ } (ω w.tick)
    | none => w
  { w₁ with
    clk := c
    menu := { w.menu with timeSetMode := next.1, menuId := next.2 }
    trace := if saves then clockWritten c :: w₁.trace else w₁.trace }

section Screens

variable [TimeLib] {ω : Env} {w w' : World}

/-- The clock variables when a clock screen starts to act: read again unless they are edited. -/
def reread (w : World) (r : RtcTime) : Clock :=
  if w.menu.timeSetMode = .setNothing then dateOf (timeOf w.clk r) r else w.clk

/-- The clock variables after screen 300. -/
def clock300 (action : BtnAction) (w : World) (r : RtcTime) : Clock :=
  if saves300 action w.menu.timeSetMode then dateOf w.clk w.rtc.snapshot
  else turned300 action w.menu.timeSetMode (reread w r)

/-- The clock variables of screen 400 when its buttons act. -/
def clock400Start (w : World) (r : RtcTime) : Clock :=
  if w.menu.timeSetMode = .setDay then reread w r else clamped (reread w r)

/-- The clock variables after screen 400. -/
def clock400 (action : BtnAction) (w : World) (r : RtcTime) : Clock :=
  let c := if saves400 action w.menu.timeSetMode then timeOf (clock400Start w r) r
    else turned400 action w.menu.timeSetMode (clock400Start w r)
  { c with maxDayThisMonth := maxDay c.month c.year }

/-- Screen 300 reads the RTC while nothing is edited. -/
def read300 (w : World) : Option Clock :=
  if w.menu.timeSetMode = .setNothing then some w.clk else none

/-- So does screen 400, and it reads the RTC again when it saves. -/
def read400 (action : BtnAction) (w : World) (r : RtcTime) : Option Clock :=
  if w.menu.timeSetMode = .setNothing then some w.clk
  else if saves400 action w.menu.timeSetMode then some (clock400Start w r) else none

/-- A call of screen 300. -/
theorem screen300_eq (hid : w.menu.menuId = 300) (action : BtnAction) :
    screen300 action ω w = .done () (screened ω w (read300 w)
      (saves300 action w.menu.timeSetMode) (clock300 action w (ω w.tick).rtc)
      (next300 action w.menu.timeSetMode w.sched.fInitNox)) := by
  obtain ⟨clk, door, sched, menu, btn, nvs, rtc, pins, timer, wakeup, tick, dispatch, trace⟩ := w
  obtain ⟨menuId, active, refresh, mode, modeset, cursor, mask⟩ := menu
  -- with the mode and the button known, the call can be run
  cases hid
  cases mode <;> cases action <;> rfl

/-- A call of screen 400. -/
theorem screen400_eq (hid : w.menu.menuId = 400) (action : BtnAction) :
    screen400 action ω w = .done () (screened ω w (read400 action w (ω w.tick).rtc)
      (saves400 action w.menu.timeSetMode) (clock400 action w (ω w.tick).rtc)
      (next400 action w.menu.timeSetMode w.sched.fInitNox)) := by
  obtain ⟨clk, door, sched, menu, btn, nvs, rtc, pins, timer, wakeup, tick, dispatch, trace⟩ := w
  obtain ⟨menuId, active, refresh, mode, modeset, cursor, mask⟩ := menu
  cases hid
  cases mode <;> cases action <;> rfl

end Screens

/-! ## What can happen to the clock -/

/-- The event neither reads nor writes the RTC. -/
def leavesClock : Event → Bool
  | .setTime .. => false
  | .call .updateTime _ => false
  | _ => true

/-- From `w` to `w'` the RTC was neither read nor written, and the clock variables were not
    touched. -/
structure Aloof (w w' : World) : Prop where
  clk : w'.clk = w.clk
  snapshot : w'.rtc.snapshot = w.rtc.snapshot
  trace : Extends leavesClock w.trace w'.trace

namespace Aloof

variable {w₀ w w' : World}

theorem refl (w : World) : Aloof w w := ⟨rfl, rfl, .refl _⟩

theorem emit (h : Aloof w₀ w) {e : Event} (he : leavesClock e = true) :
    Aloof w₀ { w with trace := e :: w.trace } := ⟨h.clk, h.snapshot, h.trace.cons he⟩

theorem observe (h : Aloof w₀ w) (s : Sample) : Aloof w₀ (w.observe s) :=
  ⟨h.clk, h.snapshot, extends_observe h.trace (fun _ => rfl) s⟩

/-- A status check or a move does not look at the RTC. -/
theorem of_aside (h : Aside w w') : Aloof w w' := by
  refine ⟨h.clk, h.snapshot, h.trace.mono fun e he => ?_⟩
  cases e with
  | setTime => cases he
  | call f m => cases f <;> first | rfl | cases he
  | _ => rfl

end Aloof

/-- What an action does to the clock. -/
inductive ClockStep [TimeLib] (ω : Env) (w : World) : World → Prop where
  | aloof (w' : World) (h : Aloof w w') : ClockStep ω w w'
  | start (action : BtnAction) : ClockStep ω w (restamped ω (entered w action))
  | time (action : BtnAction) (hid : w.menu.menuId = 300) :
      ClockStep ω w (screened ω (entered w action) (read300 w)
        (saves300 action w.menu.timeSetMode) (clock300 action w (ω w.tick).rtc)
        (next300 action w.menu.timeSetMode w.sched.fInitNox))
  | date (action : BtnAction) (hid : w.menu.menuId = 400) :
      ClockStep ω w (screened ω (entered w action) (read400 action w (ω w.tick).rtc)
        (saves400 action w.menu.timeSetMode) (clock400 action w (ω w.tick).rtc)
        (next400 action w.menu.timeSetMode w.sched.fInitNox))

section Steps

variable [TimeLib] {ω : Env} {w w' : World}

theorem WakeAct.aloof (h : WakeAct ω w w') : Aloof w w' := by
  have hrefl := Aloof.refl w
  cases h with
  | work _ hw => exact .of_aside hw.aside
  | keep => exact { hrefl with }
  | dispatch => exact { hrefl with }
  | booted => exact hrefl.emit rfl
  | alarmMove => exact hrefl.emit rfl
  | wrongAlarm => exact { hrefl.emit (e := .raised .wrongAlarmFlag) rfl with }
  | wrongLight => exact { hrefl.emit (e := .raised .wrongLdrFlag) rfl with }
  | measure =>
    have hread := hrefl.observe (ω w.tick)
    exact { hread.emit (e := .lightCheck w.sched.ldrFlag (level ω w) w.sched.nextLux) rfl with }
  | trigger =>
    have hread := hrefl.observe (ω w.tick)
    have hcheck := hread.emit (e := .lightCheck w.sched.ldrFlag (level ω w) w.sched.nextLux) rfl
    exact { hcheck.emit (e := .lightMove w.sched.ldrFlag (w.tick + 1)) rfl with }

/-- The clock is read by screen 000 and by the clock screens only, and written by the latter. -/
theorem Act.clockStep (h : Act ω w w') : ClockStep ω w w' := by
  have hent : ∀ action, Aloof w (entered w action) := fun action =>
    { (Aloof.refl w).emit (e := .call (.menuFunctions action) _) rfl with }
  cases h with
  | wake _ hw => exact .aloof _ hw.aloof
  | update => exact .aloof _ ((Aloof.refl w).emit rfl)
  | goTo => exact .aloof _ { Aloof.refl w with }
  | enter action => exact .aloof _ (hent action)
  | edit action => exact .aloof _ { hent action with }
  | start action _ => exact .start action
  | acknowledge action => exact .aloof _ { hent action with }
  | redraw => exact .aloof _ { hent .nothing with }
  | setTime _ action hid hrun =>
    have hrun' := screen300_eq (ω := ω) (w := entered w action) hid action
    rw [hrun'] at hrun
    cases hrun
    exact .time action hid
  | setDate _ action hid hrun =>
    have hrun' := screen400_eq (ω := ω) (w := entered w action) hid action
    rw [hrun'] at hrun
    cases hrun
    exact .date action hid
  | initialise action => exact .aloof _ { hent action with }
  | save action => exact .aloof _ { (hent action).emit (e := .call .saveAlarmValues _) rfl with }

end Steps

/-! ## What a save leaves alone -/

/-- The reading at which the RTC was last copied. -/
def lastRead (tr : List Event) : Option Nat :=
  tr.findSome? fun
    | .call .updateTime m => some m.tick
    | _ => none

/-- What the last call of `menuFunctions` has found. -/
def lastMenu (tr : List Event) : Option Moment :=
  tr.findSome? fun
    | .call (.menuFunctions _) m => some m
    | _ => none

/-- The same day of the calendar. -/
def SameDate (r r' : RtcTime) : Prop := r.date = r'.date ∧ r.month = r'.month ∧ r.year = r'.year

/-- The same time of day. -/
def SameTime (r r' : RtcTime) : Prop :=
  r.seconds = r'.seconds ∧ r.minutes = r'.minutes ∧ r.hours = r'.hours

instance (r r' : RtcTime) : Decidable (SameDate r r') := inferInstanceAs (Decidable (_ ∧ _))

/-- What `rtc.setTime` puts into the calendar registers. -/
def registers (second minute hour : Int8) (date month : Int8) (year : Int16) : RtcTime :=
  { seconds := second.toUInt8, minutes := minute.toUInt8, hours := hour.toUInt8
    date := date.toUInt8, month := month.toUInt8, year := year.toUInt16 }

/-- A save is one of a clock screen.  Screen 400 leaves the time of day at what it is when the screen
    is called; screen 300 leaves the date alone exactly if it is still the one of the last reading. -/
def SaveKeeps (ω : Env) (tr : List Event) : Prop :=
  ∀ second minute hour weekday date month year tl,
    tr = .setTime second minute hour weekday date month year :: tl →
    ∃ m k, lastMenu tl = some m ∧ lastRead tl = some k ∧
      (m.menu.menuId = 300 ∧
          (SameDate (registers second minute hour date month year) (ω m.tick).rtc ↔
            SameDate (ω k).rtc (ω m.tick).rtc) ∨
        m.menu.menuId = 400 ∧
          SameTime (registers second minute hour date month year) (ω m.tick).rtc)

theorem saveKeeps_of_not_setTime {ω : Env} {e : Event} {tr : List Event} (he : isSetTime e = false) :
    SaveKeeps ω (e :: tr) := by
  intro second minute hour weekday date month year tl heq
  obtain ⟨rfl, -⟩ := List.cons.inj heq
  cases he

/-- The snapshot is the one of the last reading, and every save so far was as it should be. -/
structure Kept (ω : Env) (w : World) : Prop where
  read : ∃ k, lastRead w.trace = some k ∧ w.rtc.snapshot = (ω k).rtc
  saves : Historically (SaveKeeps ω) w.trace

section Kept

variable {ω : Env} {w w' : World}

theorem Kept.emit (h : Kept ω w) {e : Event} (he : leavesClock e = true) :
    Kept ω { w with trace := e :: w.trace } := by
  have hnot : isSetTime e = false := by cases e <;> first | rfl | cases he
  have hread : lastRead (e :: w.trace) = lastRead w.trace := by
    cases e with
    | call f m => cases f <;> first | rfl | cases he
    | _ => rfl
  refine ⟨?_, historically_cons.mpr ⟨saveKeeps_of_not_setTime hnot, h.saves⟩⟩
  show ∃ k, lastRead (e :: w.trace) = some k ∧ _
  rw [hread]
  exact h.read

/-- The same trace and the same snapshot. -/
theorem Kept.of_eq (h : Kept ω w) (htr : w'.trace = w.trace)
    (hs : w'.rtc.snapshot = w.rtc.snapshot) : Kept ω w' := by
  obtain ⟨k, hk, hread⟩ := h.read
  refine ⟨⟨k, ?_, hs.trans hread⟩, ?_⟩
  · rw [htr]; exact hk
  · rw [htr]; exact h.saves

theorem Kept.aloof (h : Kept ω w) (ha : Aloof w w') : Kept ω w' := by
  have hkept : Kept ω { w with trace := w'.trace } :=
    ha.trace.keeps (P := fun tr => Kept ω { w with trace := tr }) (fun e tr he htr => htr.emit he) h
  exact hkept.of_eq rfl ha.snapshot

/-- Reading the RTC. -/
theorem Kept.updated (h : Kept ω w) : Kept ω (updated w (ω w.tick)) := by
  have hcall : Kept ω { w.called .updateTime with
      rtc := { w.rtc with snapshot := (ω w.tick).rtc } } :=
    ⟨⟨w.tick, rfl, rfl⟩, historically_cons.mpr ⟨saveKeeps_of_not_setTime rfl, h.saves⟩⟩
  have hobs : Aloof _ (World.observe { w.called .updateTime with
      rtc := { w.rtc with snapshot := (ω w.tick).rtc } } (ω w.tick)) := (Aloof.refl _).observe _
  exact (hcall.aloof hobs).of_eq rfl rfl

theorem lastMenu_observe (w : World) (s : Sample) :
    lastMenu (w.observe s).trace = lastMenu w.trace :=
  observe_keeps (P := fun tr => lastMenu tr = lastMenu w.trace) (fun _ h => h) rfl

theorem lastMenu_updated (w : World) (s : Sample) : lastMenu (updated w s).trace = lastMenu w.trace :=
  lastMenu_observe (w.called .updateTime) s

/-- A clock screen, if its save is as it should be. -/
theorem Kept.screened (h : Kept ω w) {read : Option Clock} {saves : Bool} {c : Clock}
    {next : Setmode × Nat}
    (hnone : read = none → saves = true → SaveKeeps ω (clockWritten c :: w.trace))
    (hsome : ∀ c₀, read = some c₀ → saves = true →
      SaveKeeps ω (clockWritten c :: (Spec.updated { w with clk := c₀ } (ω w.tick)).trace)) :
    Kept ω (Spec.screened ω w read saves c next) := by
  have hsave : ∀ w₁ : World, Kept ω w₁ → (saves = true → SaveKeeps ω (clockWritten c :: w₁.trace)) →
      Kept ω { w₁ with
        clk := c, menu := { w.menu with timeSetMode := next.1, menuId := next.2 }
        trace := if saves then clockWritten c :: w₁.trace else w₁.trace } := by
    intro w₁ h₁ hs
    cases saves with
    | true => exact ⟨h₁.read, historically_cons.mpr ⟨hs rfl, h₁.saves⟩⟩
    | false => exact h₁.of_eq rfl rfl
  cases read with
  | none => exact hsave w h (hnone rfl)
  | some c₀ =>
    have hc : Kept ω { w with clk := c₀ } := h.of_eq rfl rfl
    exact hsave _ hc.updated (hsome c₀ rfl)

variable [TimeLib]

/-- Screen 300 takes the date from the last reading. -/
theorem Kept.time (h : Kept ω w) (action : BtnAction) (hid : w.menu.menuId = 300) :
    Kept ω (Spec.screened ω (entered w action) (read300 w) (saves300 action w.menu.timeSetMode)
      (clock300 action w (ω w.tick).rtc) (next300 action w.menu.timeSetMode w.sched.fInitNox)) := by
  have hent : Kept ω (entered w action) :=
    h.aloof { (Aloof.refl w).emit (e := .call (.menuFunctions action) _) rfl with }
  refine hent.screened (fun _ hs => ?_) (fun c₀ hread hs => ?_)
  · intro second minute hour weekday date month year tl heq
    obtain ⟨he, rfl⟩ := List.cons.inj heq
    rw [clock300, if_pos hs] at he
    cases he
    obtain ⟨k, hk, hsnap⟩ := hent.read
    have hsnap' : w.rtc.snapshot = (ω k).rtc := hsnap
    refine ⟨_, k, rfl, hk, .inl ⟨hid, ?_⟩⟩
    simp only [registers, SameDate, dateOf, localTime, hsnap', UInt8.toUInt8_toInt8,
      UInt16.toUInt16_toInt16]
  · -- while nothing is edited there is no save
    have hmode : w.menu.timeSetMode = .setNothing := by
      unfold read300 at hread
      split at hread
      · assumption
      · cases hread
    rw [hmode] at hs
    cases action <;> cases hs

/-- Screen 400 takes the time of day from a reading of its own. -/
theorem Kept.date (h : Kept ω w) (action : BtnAction) (hid : w.menu.menuId = 400) :
    Kept ω (Spec.screened ω (entered w action) (read400 action w (ω w.tick).rtc)
      (saves400 action w.menu.timeSetMode) (clock400 action w (ω w.tick).rtc)
      (next400 action w.menu.timeSetMode w.sched.fInitNox)) := by
  have hent : Kept ω (entered w action) :=
    h.aloof { (Aloof.refl w).emit (e := .call (.menuFunctions action) _) rfl with }
  refine hent.screened (fun hread hs => ?_) (fun c₀ hread hs => ?_)
  · -- a save that has not read the RTC does not exist
    rw [read400, if_pos hs] at hread
    split at hread
    · cases hread
    · cases hread
  · intro second minute hour weekday date month year tl heq
    obtain ⟨he, rfl⟩ := List.cons.inj heq
    simp only [clock400, hs, if_true] at he
    cases he
    have hc : Kept ω { entered w action with clk := c₀ } := hent.of_eq rfl rfl
    obtain ⟨k, hk, -⟩ := hc.updated.read
    have hmenu : lastMenu (Spec.updated { entered w action with clk := c₀ } (ω w.tick)).trace =
        some { w with dispatch := .menu w.menu.menuId action }.moment := lastMenu_updated _ _
    refine ⟨_, k, hmenu, hk, .inr ⟨hid, ?_⟩⟩
    simp only [registers, SameTime, timeOf, localTime, UInt8.toUInt8_toInt8]
    exact ⟨rfl, rfl, rfl⟩

theorem Kept.act (h : Kept ω w) (ha : Act ω w w') : Kept ω w' := by
  cases ha.clockStep with
  | aloof _ hal => exact h.aloof hal
  | start action =>
    have hent : Kept ω (entered w action) :=
      h.aloof { (Aloof.refl w).emit (e := .call (.menuFunctions action) _) rfl with }
    exact hent.updated.of_eq rfl rfl
  | time action hid => exact h.time action hid
  | date action hid => exact h.date action hid

/-- A reset reads the clock anew. -/
theorem Rebooted.kept {w₀ : World} (h : Rebooted ω w₀ w)
    (hs : Historically (SaveKeeps ω) w₀.trace) : Kept ω w := by
  obtain ⟨tr, m, htr, hm, htr'⟩ := h.trace
  have hold : Historically (SaveKeeps ω) tr :=
    htr.keeps (fun e tr he ht => historically_cons.mpr
      ⟨saveKeeps_of_not_setTime (by cases e <;> first | rfl | cases he), ht⟩) hs
  have hcall : Kept ω { w with trace := .call .updateTime m :: tr } := by
    refine ⟨⟨m.tick, rfl, ?_⟩, historically_cons.mpr ⟨saveKeeps_of_not_setTime rfl, hold⟩⟩
    rw [hm]
    exact h.snapshot
  refine htr'.keeps (P := fun tr => Kept ω { w with trace := tr }) (fun e tr he ht => ?_) hcall
  exact ht.emit (by cases e <;> first | rfl | cases he)

/-- In every run, a save of screen 400 leaves the time of day alone, and one of screen 300 leaves the
    date alone exactly if no other day has begun since the RTC was last read. -/
theorem clock_save_iff {w₀ : World} {p : Phase} (hr : LossyRun ω w₀ (p, w)) :
    Historically (SaveKeeps ω) w.trace := by
  have hkept : Kept ω w := by
    refine LossyRun.invariant hr (fun _ _ ha hw => hw.act ha) ?_ ?_ ?_
    · intro w' hb
      refine hb.kept (historically_nil.mpr ?_)
      intro _ _ _ _ _ _ _ tl heq
      cases heq
    · intro w' w'' cause h' hb
      exact hb.kept (h'.aloof ((Aloof.refl w').observe _)).saves
    · intro w' w'' h' hb
      exact hb.kept h'.saves
  exact hkept.saves

end Kept

/-- A save of screen 300 leaves the date of the RTC alone, one of screen 400 the time of day. -/
def SaveFaithful (ω : Env) (tr : List Event) : Prop :=
  ∀ second minute hour weekday date month year tl m,
    tr = .setTime second minute hour weekday date month year :: tl → lastMenu tl = some m →
      (m.menu.menuId = 300 →
        SameDate (registers second minute hour date month year) (ω m.tick).rtc) ∧
      (m.menu.menuId = 400 →
        SameTime (registers second minute hour date month year) (ω m.tick).rtc)

/-! The hour is edited at 23:59 on Monday, 2024-06-03, and saved without a change. -/

/-- The keys of the run: from screen 000 to screen 300, SELECT and EXIT. -/
def keysToHour : List (Nat × BtnAction) :=
  [(15, .select), (32, .right), (48, .right), (61, .select), (76, .exit)]

/-- One minute to midnight. -/
def lateMonday : RtcTime :=
  { hours := 23, minutes := 59, date := 3, month := 6, year := 2024, weekday := 1 }

/-- The inputs of the run: midnight comes at reading `midnight`. -/
def newDayEnv (midnight : Nat) : Env := pressing keysToHour fun n =>
  { secondsEnv n with
    rtc := if n < midnight then lateMonday else { date := 4, month := 6, year := 2024, weekday := 2 } }

/-- The device after the save, with midnight during the edit. -/
def savedLate : Reached (newDayEnv 70) { nvs := readyNvs } .awake :=
  Reached.loops (.powerOn 12 (by decide +kernel)) 12 5 (by decide +kernel)

/-- The events before the save. -/
def beforeSave : List Event := before (.setTime 0 59 23 1 3 6 2024) savedLate.world.trace

/-- The call of screen 300 that saves. -/
def lateSave : Moment := (lastMenu beforeSave).get (by decide +kernel)

/-- The device after the save, with midnight after it. -/
def savedInTime : Reached (newDayEnv 90) { nvs := readyNvs } .awake :=
  Reached.loops (.powerOn 12 (by decide +kernel)) 12 5 (by decide +kernel)

theorem clock_save_iff_savedInTime :
    .setTime 0 59 23 1 3 6 2024 ∈ savedInTime.world.trace ∧
      Historically (SaveKeeps (newDayEnv 90)) savedInTime.world.trace := by
  have hsaves := clock_save_iff savedInTime.powered.lossy
  exact ⟨by decide +kernel, hsaves⟩

/-- An edit of the hour over midnight sets the date back by a day. -/
theorem clock_save_stale :
    ¬ ∀ (ω : Env) (w₀ : World) (p : Phase) (w : World), LossyRun ω w₀ (p, w) →
      Historically (SaveFaithful ω) w.trace := by
  intro hall
  have hsaves := hall (newDayEnv 70) _ _ _ savedLate.powered.lossy
  have hmem : .setTime 0 59 23 1 3 6 2024 ∈ savedLate.world.trace := by decide +kernel
  have hid : lateSave.menu.menuId = 300 := by decide +kernel
  have hfour : (newDayEnv 70 lateSave.tick).rtc.date = 4 := by decide +kernel
  have hmenu : lastMenu beforeSave = some lateSave := by rw [lateSave, Option.some_get]
  obtain ⟨hdate, -⟩ := (hsaves.of_mem hmem _ _ _ _ _ _ _ _ lateSave rfl hmenu).1 hid
  rw [hfour] at hdate
  exact absurd hdate (by decide)

end Eggvault.Spec
