import Eggvault.Spec.BootActions
import Eggvault.Spec.ErrorCorrect
import Eggvault.Spec.EditCorrect
import Eggvault.Spec.SyncCorrect
import Eggvault.Spec.WakeupCorrect

/-!
# The weekday of the alarm

`setAlarm` fills the weekday register from the global `DoW` and not from its argument `mDoW`.
So the alarm of a pass is always one for the weekday of that pass, also if it is meant for the
coming midnight, and a device that only its alarm wakes up goes by the table of one weekday for
ever.

## Key results

- `Modes.act`, `dow_act`: the tables stay valid, and `DoW` is the weekday of `t_now`
- `fires_on_pass_day`: every alarm fires on the weekday of the last pass
- `one_weekday`: a device that is woken up by its alarm only never leaves that weekday
-/

namespace Eggvault.Spec

open Eggvault.Native Prog Trace TimeLib

/-! ## Modes -/

/-- All tables and the edited entries have modes. -/
structure Modes (w : World) : Prop where
  opening : ValidModes w.sched.openingAlarms
  closing : ValidModes w.sched.closingAlarms
  editO : ValidMode w.menu.modeO
  editC : ValidMode w.menu.modeC
  stored : StoredModes w.nvs

namespace Modes

variable {w w' : World}

theorem unsaved (h : Modes w) (hu : Unsaved w w') : Modes w' where
  opening := by rw [hu.opening]; exact h.opening
  closing := by rw [hu.closing]; exact h.closing
  editO := by
    have hmode : w'.menu.modeO = w.menu.modeO := congrArg EditValues.modeO hu.edits
    rw [hmode]
    exact h.editO
  editC := by
    have hmode : w'.menu.modeC = w.menu.modeC := congrArg EditValues.modeC hu.edits
    rw [hmode]
    exact h.editC
  stored :=
    { opening := by rw [hu.nvs .openAlarms rfl]; exact h.stored.opening
      closing := by rw [hu.nvs .closeAlarms rfl]; exact h.stored.closing }

/-- A save copies edited modes into the tables. -/
theorem saved (h : Modes w) : Modes (saved w) := by
  have ho : ValidModes (savedOpening w.menu w.sched.openingAlarms) := by
    intro i
    unfold savedOpening
    split
    · exact h.editO
    · exact h.opening i
  have hc : ValidModes (savedClosing w.menu w.sched.closingAlarms) := by
    intro i
    unfold savedClosing
    split
    · exact h.editC
    · exact h.closing i
  exact { h with
    opening := ho, closing := hc, stored := savedTables_storedModes w.nvs _ _ ho hc }

variable [TimeLib] {ω : Env}

/-- Every action. -/
theorem act (h : Modes w) (ha : Act ω w w') : Modes w' := by
  cases ha.menuStep with
  | plain _ hu => exact h.unsaved hu
  | screen _ action _ hu =>
    have he : Modes (entered w action) := { h with }
    exact he.unsaved hu
  | edit action f hf =>
    have hedits := editScreen_edits hf action w.menu
    exact { h with editO := hedits.modeO h.editO, editC := hedits.modeC h.editC }
  | save action =>
    have he : Modes { entered w action with menu := { w.menu with menuId := 0 } } := { h with }
    exact he.saved

/-- The entry of a day has a mode. -/
theorem entry (h : Modes w) (pos : Klappenposition) :
    OpeningMode.ofByte (entryOf w pos).mode ≠ none := by
  have hvalid : ValidMode (entryOf w pos).mode := by
    unfold entryOf todaysAlarm
    split
    · exact h.opening _
    · exact h.closing _
  intro hm
  rw [ValidMode, hm] at hvalid
  cases hvalid

end Modes

/-- A reset reads valid tables back. -/
theorem Rebooted.modes [TimeLib] {ω : Env} {w₀ w : World} (hr : Rebooted ω w₀ w)
    (h : StoredModes w₀.nvs) : Modes w where
  opening := hr.opening h
  closing := hr.closing h
  editO := by rw [hr.menu]; decide
  editC := by rw [hr.menu]; decide
  stored := hr.stored h

/-! ## The global `DoW` -/

section Dow

variable [TimeLib] {ω : Env} {w w' : World}

/-- `DoW` is the weekday of `t_now`. -/
def DowOk (c : Clock) : Prop := c.dow = weekday c.tNow

theorem dowOk_reread (h : DowOk w.clk) (r : RtcTime) : DowOk (reread w r) := by
  unfold reread
  split
  · exact rfl
  · exact h

theorem dowOk_clock300 (h : DowOk w.clk) (action : BtnAction) (r : RtcTime) :
    DowOk (clock300 action w r) := by
  have hturn : ∀ c, DowOk c → DowOk (turned300 action w.menu.timeSetMode c) := by
    intro c hc
    unfold turned300
    split <;> exact hc
  unfold clock300
  split
  · exact rfl
  · exact hturn _ (dowOk_reread h r)

theorem dowOk_clock400 (h : DowOk w.clk) (action : BtnAction) (r : RtcTime) :
    DowOk (clock400 action w r) := by
  have hturn : ∀ c, DowOk c → DowOk (turned400 action w.menu.timeSetMode c) := by
    intro c hc
    unfold turned400
    split <;> exact hc
  have hstart : DowOk (clock400Start w r) := by
    unfold clock400Start
    split
    · exact dowOk_reread h r
    · exact dowOk_reread h r
  unfold clock400
  split
  · exact rfl
  · exact hturn _ hstart

/-- Every action. -/
theorem dow_act (h : DowOk w.clk) (ha : Act ω w w') : DowOk w'.clk := by
  cases ha.clockStep with
  | aloof _ hal => rw [hal.clk]; exact h
  | start action => exact rfl
  | time action => exact dowOk_clock300 h action (ω w.tick).rtc
  | date action => exact dowOk_clock400 h action (ω w.tick).rtc

end Dow

/-! ## The alarm of the last pass -/

section Alarm

variable [TimeLib] {ω : Env} {w w' : World}

/-- An alarm fires on the weekday of the last pass, at the hour and the minute that `setAlarm` was
    called with last. -/
def FiresOnPassDay (tr : List Event) : Prop :=
  ∀ t tl m, tr = .alarmFired t :: tl → lastPass tl = some m →
    t.weekday = dayIndex (weekday m.clk.tNow) ∧
      ∃ mDoW, lastSetAlarm tl = some (mDoW, t.hours, t.minutes)

/-- The alarm registers hold what the last pass has made of its time, and every firing so far was
    one of the pass before it. -/
structure AlarmOfPass (alarmMask alarmHour alarmMinute : UInt8) (tr : List Event) : Prop where
  mask : ∀ m, lastPass tr = some m → alarmMask = weekdays (dayIndex (weekday m.clk.tNow))
  set : ∀ m, lastPass tr = some m → ∃ mDoW, lastSetAlarm tr = some (mDoW, alarmHour, alarmMinute)
  firings : Historically FiresOnPassDay tr

@[inherit_doc AlarmOfPass]
def OfPass (w : World) : Prop :=
  AlarmOfPass w.rtc.alarmMask w.rtc.alarmHour w.rtc.alarmMinute w.trace

/-- The event is neither a pass nor a firing, and it does not set the alarm. -/
def isAlarmFree : Event → Bool
  | .alarmFired _ | .setAlarm _ _ _ | .call (.setNextAlarm _ _) _ => false
  | _ => true

theorem firesOnPassDay_cons {e : Event} {tr : List Event} (he : isFiring e = false)
    (h : Historically FiresOnPassDay tr) : Historically FiresOnPassDay (e :: tr) := by
  refine historically_cons.mpr ⟨fun t tl m heq _ => ?_, h⟩
  obtain ⟨rfl, -⟩ := List.cons.inj heq
  cases he

namespace OfPass

theorem emit (h : OfPass w) {e : Event} (he : isAlarmFree e = true) :
    OfPass { w with trace := e :: w.trace } := by
  have hlast : lastPass (e :: w.trace) = lastPass w.trace := by
    cases e with
    | call f m => cases f <;> first | rfl | cases he
    | _ => rfl
  have hset : lastSetAlarm (e :: w.trace) = lastSetAlarm w.trace := by
    cases e <;> first | rfl | cases he
  refine ⟨fun m hm => h.mask m (hlast.symm.trans hm), fun m hm => ?_, ?_⟩
  · obtain ⟨mDoW, hd⟩ := h.set m (hlast.symm.trans hm)
    exact ⟨mDoW, hset.trans hd⟩
  · refine firesOnPassDay_cons ?_ h.firings
    cases e <;> first | rfl | cases he

/-- A comparator that sees a match sees the weekday, the hour and the minute of the registers. -/
theorem fired (h : OfPass w) {t : RtcTime} (hmatch : w.rtc.alarmMatches t = true) :
    FiresOnPassDay (.alarmFired t :: w.trace) := by
  intro t' tl m heq hm
  cases heq
  simp only [Rtc.alarmMatches, Bool.and_eq_true, decide_eq_true_eq, h.mask m hm,
    weekdays_and] at hmatch
  obtain ⟨⟨hmin, hhour⟩, hday⟩ := hmatch
  refine ⟨hday, ?_⟩
  rw [hmin, hhour]
  exact h.set m hm

theorem observe (h : OfPass w) (s : Sample) : OfPass (w.observe s) := by
  show AlarmOfPass w.rtc.alarmMask w.rtc.alarmHour w.rtc.alarmMinute (w.observe s).trace
  cases hf : w.firing s with
  | none =>
    have htrace : (w.observe s).trace = w.trace := by simp [World.observe, hf]
    rw [htrace]
    exact h
  | some t =>
    have htrace : (w.observe s).trace = .alarmFired t :: w.trace := by simp [World.observe, hf]
    obtain ⟨-, hmatch⟩ := Option.filter_eq_some_iff.mp hf
    rw [htrace]
    exact ⟨h.mask, h.set, historically_cons.mpr
      ⟨h.fired (Bool.and_eq_true_iff.mp hmatch).2, h.firings⟩⟩

theorem blind (ω : Env) : Blind ω OfPass where
  observe := fun _ h => h.observe _
  door := fun _ _ _ h => h
  pins := fun _ _ h => h
  emit := by
    intro w e he h
    apply h.emit
    cases e with
    | call f m => cases f <;> first | rfl | cases he
    | _ => first | rfl | cases he
  store := fun _ _ _ _ h => h

theorem clockKept : ClockKept OfPass where
  updated := fun w s _ h => (h.emit (e := .call .updateTime w.moment) rfl).observe s
  clk := fun _ _ h => h
  setTime := by
    intro w e he h
    apply h.emit
    cases e <;> first | rfl | cases he
  menu := fun _ _ _ _ h => h

/-- The alarm part of a pass. -/
theorem programmed (h : OfPass w) (hdow : DowOk w.clk) {pos : Klappenposition} {a : DoorDayAlarm}
    {p : Plan} (hp : Programmed pos a p w w') : OfPass w' where
  mask := by
    intro m hm
    rw [hp.silent.lastPass] at hm
    cases hm
    have hmask := hp.alarm.mask
    rw [hdow] at hmask
    exact hmask
  set := by
    intro m hm
    refine ⟨(alarmArgs p.atTime a w.clk.tNow).1, ?_⟩
    rw [hp.alarm.hour, hp.alarm.minute]
    exact hp.alarm.decided
  firings := by
    have hcall := firesOnPassDay_cons (e := .call (.setNextAlarm pos a) w.moment) rfl h.firings
    refine hp.silent.trace.keeps (fun e tr he ht => firesOnPassDay_cons ?_ ht) hcall
    cases e <;> first | rfl | cases he

theorem withLight (h : OfPass w) (timer : Option UInt64) : OfPass (withLight w timer) :=
  h.emit (e := .lightArmed w.sched.nextMove w.sched.nextLux w.rtc.snapshot) rfl

theorem measured (h : OfPass w) (pos : Klappenposition) : OfPass (measured ω w pos) :=
  (h.observe (ω w.tick)).emit (e := .lightCheck pos (level ω w) w.sched.nextLux) rfl

theorem pass (h : OfPass w) (hdow : DowOk w.clk) {pos : Klappenposition} {a : DoorDayAlarm}
    {mode : OpeningMode} (hp : Pass ω pos a mode w w') : OfPass w' := by
  obtain ⟨w₁, h₁, hl⟩ := hp.carried
  have hprog := h.programmed hdow h₁
  cases hl with
  | off => exact hprog
  | waiting => exact hprog.withLight _
  | armed => exact hprog.withLight _
  | measured => exact (hprog.withLight _).measured pos

end OfPass

/-- Every action of a status check or of a move. -/
theorem Work.ofPass (h : Work ω w w') (hm : Modes w) (hdow : DowOk w.clk) (hI : OfPass w) :
    OfPass w' := by
  have hb := OfPass.blind ω
  cases h with
  | read => exact hI.observe _
  | led p => exact hI
  | startMove _ hrun => exact wp_run (hb.startMove w hI) hrun
  | iterate _ _ pos again _ _ _ hrun => exact wp_run (hb.moveIteration pos w hI) hrun
  | finishMove _ _ _ _ _ hrun => exact wp_run (hb.finishMove w hI) hrun
  | look => exact (hI.observe (ω w.tick)).observe (ω (w.tick + 1))
  | report => exact hI.emit (e := .status true) rfl
  | accept => exact hI.emit rfl
  | pass _ pos a mode hp => exact hI.pass hdow hp
  | stray _ pos _ _ hmode => exact absurd hmode (hm.entry pos)
  | lose pos hmode => exact absurd hmode (hm.entry pos)
  | sleep => exact (hI.emit (e := .call .prepForDeepSleep w.moment) rfl).observe (ω w.tick)

theorem WakeAct.ofPass (h : WakeAct ω w w') (hm : Modes w) (hdow : DowOk w.clk) (hI : OfPass w) :
    OfPass w' := by
  cases h with
  | work _ hw => exact hw.ofPass hm hdow hI
  | keep => exact hI
  | dispatch => exact hI
  | booted => exact hI.emit rfl
  | alarmMove => exact hI.emit rfl
  | wrongAlarm => exact hI.emit (e := .raised .wrongAlarmFlag) rfl
  | wrongLight => exact hI.emit (e := .raised .wrongLdrFlag) rfl
  | measure => exact hI.measured _
  | trigger =>
    have hcheck := (hI.observe (ω w.tick)).emit
      (e := .lightCheck w.sched.ldrFlag (level ω w) w.sched.nextLux) rfl
    exact hcheck.emit (e := .lightMove w.sched.ldrFlag (w.tick + 1)) rfl

theorem Act.ofPass (h : Act ω w w') (hm : Modes w) (hdow : DowOk w.clk) (hI : OfPass w) :
    OfPass w' := by
  have he : ∀ action, OfPass (entered w action) := fun action =>
    hI.emit (e := .call (.menuFunctions action) _) rfl
  cases h with
  | wake _ hw => exact hw.ofPass hm hdow hI
  | update => exact hI.emit rfl
  | goTo => exact hI
  | enter action => exact he action
  | edit action => exact he action
  | start action => exact OfPass.clockKept.updated _ _ _ (he action)
  | acknowledge action => exact he action
  | redraw => exact he .nothing
  | setTime _ action _ hrun =>
    exact wp_run (OfPass.clockKept.screen300 action ω _ (he action)) hrun
  | setDate _ action _ hrun =>
    exact wp_run (OfPass.clockKept.screen400 action ω _ (he action)) hrun
  | initialise action => exact he action
  | save action =>
    exact (he action).emit (e := .call .saveAlarmValues
      { entered w action with menu := { w.menu with menuId := 0 } }.moment) rfl

/-- Up to the handling of a wake-up the alarm registers are only compared with. -/
theorem OfPass.setupStart (h : OfPass w) :
    wp (do initGlobals; setupStart) ⟨fun _ => OfPass, fun _ => False, fun _ => False⟩ ω w := by
  have hreads : ∀ k w, OfPass w → OfPass (reads ω k w) := by
    intro k
    induction k with
    | zero => exact fun _ hw => hw
    | succ k ih => exact fun w hw => ih _ (hw.observe (ω w.tick))
  apply wp_then initGlobals_reads
  rintro _ w₁ ⟨b, d, rfl⟩
  have h₁ : OfPass { reads ω 7 w with btn := b, door := d } := hreads 7 w h
  rw [Native.setupStart]
  have hflash : wp readValuesFromFlash ⟨fun _ => OfPass, fun _ => False, fun _ => False⟩ ω
      { reads ω 7 w with btn := b, door := d } := by
    simp only [readValuesFromFlash, wp_bind, wp_readFlags, wp_readLastMove, readErrorFlag,
      readAlarms, wp_modify, wp_get, wp_ite, setAlarmsDefault, wp_memoryPut]
    exact ⟨fun _ => h₁, fun _ => h₁⟩
  apply wp_then hflash
  intro _ w₂ h₂
  simp only [wp_bind, wp_timeUpdate, wp_dateUpdate]
  exact OfPass.clockKept.updated w₂ (ω w₂.tick) _ h₂

/-- The invariant of every run with valid tables. -/
structure DayKept (w : World) : Prop where
  modes : Modes w
  dow : DowOk w.clk
  alarm : OfPass w

theorem dayKept_closed (ω : Env) : Closed ω DayKept := fun _ _ ha h =>
  { modes := h.modes.act ha, dow := dow_act h.dow ha, alarm := ha.ofPass h.modes h.dow h.alarm }

/-- A reset keeps it. -/
theorem dayKept_boot {w₀ : World} (n : Nat) (hs : w₀.sched = {}) (hm : w₀.menu = {})
    (hd : w₀.door = {}) (hc : w₀.clk = {}) (hb : w₀.dispatch = .boot) (hmodes : StoredModes w₀.nvs)
    (ha : OfPass w₀) : DayKept (afterCall (boot n ω w₀)).2 := by
  apply afterCall_of_anywhere
  refine (dayKept_closed ω).boot_after n hs hm hd hc hb (wp_mono ha.setupStart ?_ ?_ ?_)
  · intro _ w h hr
    exact { modes := hr.modes hmodes, dow := by rw [hr.clk]; exact rfl, alarm := h }
  · exact fun _ h => h
  · exact fun _ h => h

theorem LossyRun.dayKept {w₀ : World} {s : Phase × World} (hr : LossyRun ω w₀ s)
    (hmodes : StoredModes w₀.nvs) : DayKept s.2 := by
  induction hr with
  | powerOn n =>
    refine dayKept_boot n rfl rfl rfl rfl rfl hmodes ⟨?_, ?_, historically_nil.mpr ?_⟩
    · intro m hm
      cases hm
    · intro m hm
      cases hm
    · intro t tl m heq
      cases heq
  | step _ hs ih =>
    cases hs with
    | loop n w => exact afterCall_of_anywhere ((dayKept_closed ω).loop n w ih)
    | wake n w cause _ =>
      exact dayKept_boot n rfl rfl rfl rfl rfl ih.modes.stored (ih.alarm.observe (ω w.tick))
  | powerLoss n _ ih => exact dayKept_boot n rfl rfl rfl rfl rfl ih.modes.stored ih.alarm

/-- In every run, every alarm that fires after a pass fires on the weekday of the last pass, at the
    hour and the minute of the last `setAlarm`, whatever weekday that call has asked for. -/
theorem fires_on_pass_day {w₀ : World} {p : Phase} (hmodes : StoredModes w₀.nvs)
    (hr : LossyRun ω w₀ (p, w)) : Historically FiresOnPassDay w.trace :=
  (LossyRun.dayKept hr hmodes).alarm.firings

end Alarm

/-! ## Alarm wake-ups only -/

section OneWeekday

variable [TimeLib] {ω : Env} {w w' : World}

/-- The event is no pass, or one on the weekday `d`. -/
def passesOn (d : Nat) : Event → Bool
  | .call (.setNextAlarm _ _) m => decide (weekday m.clk.tNow = d)
  | _ => true

/-- When the alarm has fired since the last pass. -/
def firedSince (tr : List Event) : Option RtcTime :=
  (tr.findSome? fun
    | .alarmFired t => some (some t)
    | .call (.setNextAlarm _ _) _ => some none
    | _ => none).join

/-- From a sleeping device `w₀` on it is the alarm that wakes the device up, each boot reads the
    RTC on the day on which the alarm has fired, and each boot ends in deep sleep. -/
inductive AlarmRun (ω : Env) (w₀ : World) : World → Prop where
  | start : AlarmRun ω w₀ w₀
  | wake (n : Nat) {w w' : World} (hr : AlarmRun ω w₀ w)
      (hwake : wakes (w.observe (ω w.tick)) (ω w.tick) (.ext1 .clkInt))
      (hday : ∃ t, firedSince (w.observe (ω w.tick)).trace = some t ∧
        dayIndex (weekday (stamp (ω (w.tick + 8)).rtc)) = t.weekday)
      (hboot : boot n ω ((w.observe (ω w.tick)).reset (.ext1 .clkInt)) = .halt w') :
      AlarmRun ω w₀ w'

/-- Every pass of a boot that is not given back to `loop` goes by the one reading of the clock. -/
theorem boot_passesAt (w₀ : World) {n : Nat} (hs : w₀.sched = {}) (hm : w₀.menu = {})
    (hd : w₀.door = {}) (hc : w₀.clk = {}) (hrun : boot n ω w₀ = .halt w') :
    Extends (passesAt (stamp (ω (w₀.tick + 7)).rtc)) w₀.trace w'.trace := by
  have hclosed : WakeClosed ω fun w => Extends (passesAt (stamp (ω (w₀.tick + 7)).rtc))
      w₀.trace w.trace ∧ w.clk.tNow = stamp (ω (w₀.tick + 7)).rtc := by
    rintro w w' ha ⟨htr, ht⟩
    have hpass := (Act.wake _ _ ha).passesAt
    rw [ht] at hpass
    exact ⟨htr.trans hpass, by rw [ha.aloof.clk]; exact ht⟩
  have h := hclosed.boot (fun _ _ h => h) n hs hm hd hc fun w₁ hr => by
    refine ⟨Extends.cons ?_ rfl, by rw [hr.clk]; rfl⟩
    refine hr.keeps (P := fun tr => Extends _ w₀.trace tr) (fun e tr he htr => htr.cons ?_)
      (fun m tr _ htr => htr.cons rfl) (.refl _)
    cases e <;> first | rfl | cases he
  rw [wp_iff, hrun] at h
  exact h.1

omit [TimeLib] in
/-- An alarm that has fired since the last pass has fired after it. -/
theorem firedSince_eq_some {tr : List Event} {t : RtcTime} (h : firedSince tr = some t) :
    ∃ tl, .alarmFired t :: tl <:+ tr ∧ lastPass tl = lastPass tr := by
  induction tr with
  | nil => cases h
  | cons e tr ih =>
    have hskip : firedSince tr = some t → lastPass (e :: tr) = lastPass tr →
        ∃ tl, .alarmFired t :: tl <:+ e :: tr ∧ lastPass tl = lastPass (e :: tr) := by
      intro hf hl
      obtain ⟨tl, hsuffix, hpass⟩ := ih hf
      exact ⟨tl, hsuffix.trans (List.suffix_cons e tr), hpass.trans hl.symm⟩
    cases e with
    | alarmFired t' =>
      cases h
      exact ⟨tr, List.suffix_refl _, rfl⟩
    | call f m =>
      cases f with
      | setNextAlarm pos a => cases h
      | _ => exact hskip h rfl
    | _ => exact hskip h rfl

theorem weekday_inj {t t' : Int32} (h : dayIndex (weekday t) = dayIndex (weekday t')) :
    weekday t = weekday t' := by
  have hval := congrArg Fin.val h
  simp only [dayIndex, Fin.val_ofNat, weekday_eq] at hval
  rw [weekday_eq, weekday_eq]
  omega

namespace AlarmRun

variable {w₀ : World}

theorem lossy (h : AlarmRun ω w w') (hr : LossyRun ω w₀ (.asleep, w)) :
    LossyRun ω w₀ (.asleep, w') := by
  induction h with
  | start => exact hr
  | wake n _ hwake _ hboot ih =>
    have hstep := LossyRun.step ih (.wake n _ _ hwake)
    rw [hboot] at hstep
    exact hstep

/-- All passes of the run, and so the alarm after it, are on the weekday of the pass before it. -/
theorem passes (h : AlarmRun ω w w') (hmodes : StoredModes w₀.nvs)
    (hr : LossyRun ω w₀ (.asleep, w)) {m : Moment} (hm : lastPass w.trace = some m) :
    Extends (passesOn (weekday m.clk.tNow)) w.trace w'.trace ∧
      ∃ m', lastPass w'.trace = some m' ∧ weekday m'.clk.tNow = weekday m.clk.tNow := by
  induction h with
  | start => exact ⟨.refl _, m, hm, rfl⟩
  | @wake n v v' hrun hwake hday hboot ih =>
    obtain ⟨hext, m', hm', hd⟩ := ih
    obtain ⟨t, hfired, hread⟩ := hday
    -- the alarm has fired on the day of the last pass, and the boot reads that day
    have halarm := (LossyRun.dayKept (hrun.lossy hr) hmodes).alarm.observe (ω v.tick)
    obtain ⟨tl, hsuffix, hlast⟩ := firedSince_eq_some hfired
    have hobserved : lastPass (v.observe (ω v.tick)).trace = some m' :=
      observe_keeps (P := fun tr => lastPass tr = some m') (fun _ h => h) hm'
    have hfire := (halarm.firings _ hsuffix t tl m' rfl (hlast.trans hobserved)).1
    have hsame : weekday (stamp (ω (v.tick + 8)).rtc) = weekday m.clk.tNow :=
      (weekday_inj (hread.trans hfire)).trans hd
    have hpasses := boot_passesAt ((v.observe (ω v.tick)).reset (.ext1 .clkInt))
      rfl rfl rfl rfl hboot
    have hon : Extends (passesOn (weekday m.clk.tNow)) (v.observe (ω v.tick)).trace v'.trace := by
      refine hpasses.mono fun e he => ?_
      cases e with
      | call f m₁ =>
        cases f with
        | setNextAlarm pos a =>
          have ht : m₁.clk.tNow = stamp (ω (v.tick + 8)).rtc := of_decide_eq_true he
          exact decide_eq_true (ht ▸ hsame)
        | _ => rfl
      | _ => rfl
    refine ⟨(extends_observe hext (fun _ => rfl) _).trans hon, ?_⟩
    refine hon.keeps (P := fun tr => ∃ m', lastPass tr = some m' ∧ weekday m'.clk.tNow = _)
      (fun e tr he htr => ?_) ⟨m', hobserved, hd⟩
    cases e with
    | call f m₁ =>
      cases f with
      | setNextAlarm pos a => exact ⟨m₁, rfl, of_decide_eq_true he⟩
      | _ => exact htr
    | _ => exact htr

end AlarmRun

/-- A device that only its alarm wakes up, and that reads the clock on the day on which the alarm
    has fired, goes by the entries of one weekday for ever: that of its last pass before.  Its next
    alarm is one for that weekday too. -/
theorem one_weekday {w₀ : World} {m : Moment} (hmodes : StoredModes w₀.nvs)
    (hr : LossyRun ω w₀ (.asleep, w)) (hm : lastPass w.trace = some m) (h : AlarmRun ω w w') :
    Extends (passesOn (weekday m.clk.tNow)) w.trace w'.trace ∧
      w'.rtc.alarmMask = weekdays (dayIndex (weekday m.clk.tNow)) := by
  obtain ⟨hext, m', hm', hd⟩ := h.passes hmodes hr hm
  have hmask := (LossyRun.dayKept (h.lossy hr) hmodes).alarm.mask m' hm'
  rw [hd] at hmask
  exact ⟨hext, hmask⟩

end OneWeekday

/-! The door is up and closes at 20:30 on every day.  The alarm closes it on Monday; the next alarm
is meant for Tuesday at 00:00 and fires a week later. -/

/-- The inputs of the run: the idle time is over at reading 13, and the door reaches the bottom at
    reading 36. -/
def weekEnv : Env := fun n =>
  { endUp := decide (n < 36), endLow := decide (n < 36)
    millis := if n < 13 then 0 else 4000000 + UInt32.ofNat n * 2000
    rtc := if n < 17 then noonMonday
      else if n < 55 then { noonMonday with hours := 20, minutes := 30 }
      else { noonMonday with hours := 0, date := 10 }
    fired := if n = 17 then some { noonMonday with hours := 20, minutes := 30 }
      else if n = 55 then some { noonMonday with hours := 0, date := 10 } else none }

/-- The device after the idle time. -/
def weekAsleep : Reached weekEnv { nvs := eveningNvs } .asleep :=
  Reached.loop (.powerOn 20 (by decide +kernel)) 20 (by decide +kernel)

/-- The device after the alarm of 20:30. -/
def weekClosed : Reached weekEnv { nvs := eveningNvs } .asleep :=
  weekAsleep.wake 20 (.ext1 .clkInt) (by decide +kernel) (by decide +kernel)

/-- The device after the alarm of the next week. -/
def weekLater : Reached weekEnv { nvs := eveningNvs } .asleep :=
  weekClosed.wake 20 (.ext1 .clkInt) (by decide +kernel) (by decide +kernel)

/-- The firing that was meant for Tuesday. -/
theorem fires_on_pass_day_weekLater :
    .alarmFired { noonMonday with hours := 0, date := 10 } ∈ weekLater.world.trace ∧
      .setAlarm 3 0 0 ∈ weekLater.world.trace ∧
      Historically FiresOnPassDay weekLater.world.trace := by
  have hfires := fires_on_pass_day storedModes_eveningNvs weekLater.powered.lossy
  exact ⟨by decide +kernel, by decide +kernel, hfires⟩

/-- A call that ends asleep has halted. -/
theorem halted_of_asleep {o : Outcome World Unit} (h : (afterCall o).1 = .asleep) :
    o = .halt (afterCall o).2 := by
  cases o with
  | halt w => rfl
  | done a w => cases h
  | pending w => cases h

/-- A wake-up of a run that is computed. -/
theorem AlarmRun.reached [TimeLib] {ω : Env} {w v : World} (r : Reached ω w .asleep) (n : Nat)
    (hr : AlarmRun ω v r.world)
    (hw : wakes (r.world.observe (ω r.world.tick)) (ω r.world.tick) (.ext1 .clkInt))
    (h : (afterCall (boot n ω
      ((r.world.observe (ω r.world.tick)).reset (.ext1 .clkInt)))).1 = .asleep) (t : RtcTime)
    (hfired : firedSince (r.world.observe (ω r.world.tick)).trace = some t)
    (hread : dayIndex (weekday (stamp (ω (r.world.tick + 8)).rtc)) = t.weekday) :
    AlarmRun ω v (r.wake n (.ext1 .clkInt) hw h).world :=
  .wake n hr hw ⟨t, hfired, hread⟩ (halted_of_asleep h)

/-- What the pass before the first sleep has found. -/
def weekPass : Moment := (lastPass weekAsleep.world.trace).get (by decide +kernel)

theorem one_weekday_weekLater :
    Extends (passesOn 2) weekAsleep.world.trace weekLater.world.trace ∧
      weekLater.world.rtc.alarmMask = weekdays 1 := by
  have hpass : lastPass weekAsleep.world.trace = some weekPass := by rw [weekPass, Option.some_get]
  have hclosed : AlarmRun weekEnv weekAsleep.world weekClosed.world :=
    .reached weekAsleep 20 .start (by decide +kernel) (by decide +kernel)
      { noonMonday with hours := 20, minutes := 30 } (by decide +kernel) (by decide +kernel)
  have hlater : AlarmRun weekEnv weekAsleep.world weekLater.world :=
    .reached weekClosed 20 hclosed (by decide +kernel) (by decide +kernel)
      { noonMonday with hours := 0, date := 10 } (by decide +kernel) (by decide +kernel)
  have hday : weekday weekPass.clk.tNow = 2 := by decide +kernel
  have h := one_weekday storedModes_eveningNvs weekAsleep.powered.lossy hpass hlater
  rw [hday] at h
  exact h

end Eggvault.Spec
