import Eggvault.Spec.AlarmCorrect
import Eggvault.Spec.BootCorrect
import Eggvault.Spec.MotorFrame

/-!
# Opening times and the day they belong to

The door is opened by the alarm, which is set for the time of an entry, or by the light
sensor, which is armed on a day without a time or once the time of the day has come.  So an
opening is not too early if it happens on the day it was decided on, and `Present` is the
invariant that carries this from the decision to the move: what the alarm registers, the
clock variables and the last arming of the sensor have to do with the table.

## Key results

- `LightDue.notTooEarly`, `alarm_notTooEarly`: an opening on the day it was decided on
- `statusabfrage_present`, `moveMotor_present`: every pass and every move keep the invariant
- `alarmWakeupHandling_present`, `timerWakeupHandling_present`: so do the openings
-/

namespace Eggvault.Spec

open Eggvault.Native Prog Trace TimeLib

/-! ## Time -/

section Time

variable [TimeLib]

/-- The time that `timeUpdate` and `dateUpdate` make of the RTC registers. -/
def stamp (r : RtcTime) : Int32 := (dateOf (timeOf {} r) r).tNow

/-- The calendar day that the registers show. -/
def dayOf (r : RtcTime) : Nat := Weekly.day (secs (stamp r))

/-- The registers show a time that the conversion keeps. -/
structure Shows (r : RtcTime) : Prop where
  hours : r.hours.toNat = hour (stamp r)
  minutes : r.minutes.toNat = minute (stamp r)
  weekday : r.weekday = dayIndex (weekday (stamp r))

/-- Nobody sets the RTC: its registers show the time and never go back, and the alarm fires
    no later than it is noticed. -/
structure Ticking (ω : Env) : Prop where
  shows : ∀ n, Shows (ω n).rtc
  mono : ∀ i j, i ≤ j → secs (stamp (ω i).rtc) ≤ secs (stamp (ω j).rtc)
  fired : ∀ n r, (ω n).fired = some r → Shows r ∧ secs (stamp r) ≤ secs (stamp (ω n).rtc)

/-- On one day the time of day does not go back. -/
theorem minutes_le {s t : Int32} (hday : Weekly.day (secs s) = Weekly.day (secs t))
    (hle : secs s ≤ secs t) : hour s * 60 + minute s ≤ hour t * 60 + minute t := by
  unfold Weekly.day at hday
  rw [hour_eq, hour_eq, minute_eq, minute_eq]
  omega

theorem dayIndex_eq {s t : Int32} (hday : Weekly.day (secs s) = Weekly.day (secs t)) :
    dayIndex (weekday s) = dayIndex (weekday t) := by
  unfold Weekly.day at hday
  rw [weekday_eq, weekday_eq, hday]

end Time

/-! ## Moves and the day they were decided on -/

/-- The RTC time of the last firing. -/
def lastFired (tr : List Event) : Option RtcTime :=
  tr.findSome? fun
    | .alarmFired t => some t
    | _ => none

/-- The event is a move to the top that nobody asked for by a button. -/
def IsOpening (e : Event) (tick : Nat) : Prop := e = .alarmMove .posUp tick ∨ e = .lightMove .posUp tick

/-- An opening does not come before the time of its day. -/
def NotTooEarly (ω : Env) (table : WeekTable) (tr : List Event) : Prop :=
  ∀ e tick tl, tr = e :: tl → IsOpening e tick → Timed (table (ω tick).rtc.weekday) →
    (table (ω tick).rtc.weekday).hour.toNat * 60 + (table (ω tick).rtc.weekday).minute.toNat ≤
      (ω tick).rtc.hours.toNat * 60 + (ω tick).rtc.minutes.toNat

/-- An event that is no opening cannot be too early. -/
theorem notTooEarly_of_not_opening {ω : Env} {table : WeekTable} {e : Event} {tr : List Event}
    (he : ∀ tick, ¬ IsOpening e tick) : NotTooEarly ω table (e :: tr) := by
  intro e' tick tl heq hopen
  obtain ⟨rfl, -⟩ := List.cons.inj heq
  exact absurd hopen (he tick)

section Moves

variable [TimeLib]

/-- An opening by light happens on the day on which the sensor was armed, one by the alarm on
    the day on which the alarm fired. -/
structure SameDay (ω : Env) (tr : List Event) : Prop where
  light : ∀ tick tl, tr = .lightMove .posUp tick :: tl → ∀ c, lastArmed tl = some c →
    dayOf c.2.2 = dayOf (ω tick).rtc
  alarm : ∀ tick tl, tr = .alarmMove .posUp tick :: tl → ∀ r, lastFired tl = some r →
    dayOf r = dayOf (ω tick).rtc

/-- `SameDay` as a test. -/
def sameDay (ω : Env) : List Event → Bool
  | .lightMove .posUp tick :: tl =>
    (lastArmed tl).all fun c => decide (dayOf c.2.2 = dayOf (ω tick).rtc)
  | .alarmMove .posUp tick :: tl =>
    (lastFired tl).all fun r => decide (dayOf r = dayOf (ω tick).rtc)
  | _ => true

theorem sameDay_iff {ω : Env} {tr : List Event} : sameDay ω tr = true ↔ SameDay ω tr := by
  constructor
  · intro h
    constructor
    · rintro tick tl rfl c hc
      simpa only [sameDay, hc, Option.all_some, decide_eq_true_eq] using h
    · rintro tick tl rfl r hr
      simpa only [sameDay, hr, Option.all_some, decide_eq_true_eq] using h
  · intro h
    unfold sameDay
    split
    · simp only [Option.all_eq_true, decide_eq_true_eq]
      exact h.light _ _ rfl
    · simp only [Option.all_eq_true, decide_eq_true_eq]
      exact h.alarm _ _ rfl
    · rfl

instance (ω : Env) : DecidablePred (SameDay ω) := fun _ => decidable_of_iff _ sameDay_iff

/-- The sensor may open the door: the entry of the day has no time, or it is over. -/
def LightDue (table : WeekTable) (r : RtcTime) : Prop :=
  OpeningMode.ofByte (todaysAlarm table (stamp r)).mode = some .licht ∨
    (OpeningMode.ofByte (todaysAlarm table (stamp r)).mode = some .lichtZeit ∧
      ¬ notPassed (todaysAlarm table (stamp r)) (stamp r))

variable {table : WeekTable} {r r' : RtcTime}

/-- Later on the day on which the sensor was armed it is not too early. -/
theorem LightDue.notTooEarly (h : LightDue table r) (hs : Shows r') (hday : dayOf r = dayOf r')
    (hle : secs (stamp r) ≤ secs (stamp r')) (ht : Timed (table r'.weekday)) :
    (table r'.weekday).hour.toNat * 60 + (table r'.weekday).minute.toNat ≤
      r'.hours.toNat * 60 + r'.minutes.toNat := by
  have hentry : table r'.weekday = todaysAlarm table (stamp r) := by
    rw [hs.weekday, todaysAlarm, dayIndex_eq hday]
  rw [hentry] at ht ⊢
  rw [hs.hours, hs.minutes]
  have hmin := minutes_le hday hle
  rcases h with hlicht | ⟨hlz, hover⟩
  · rcases ht with hm | hm <;> rw [hlicht] at hm <;> cases hm
  · unfold notPassed at hover
    omega

/-- Later on the day on which the alarm of an entry fired it is not too early. -/
theorem alarm_notTooEarly {rtc : Rtc} {i : Fin 7} (hmask : rtc.alarmMask = weekdays i)
    (hhour : rtc.alarmHour = (table i).hour) (hminute : rtc.alarmMinute = (table i).minute)
    (hmatch : rtc.alarmMatches r = true) (hr : Shows r) (hs : Shows r')
    (hday : dayOf r = dayOf r') (hle : secs (stamp r) ≤ secs (stamp r')) :
    (table r'.weekday).hour.toNat * 60 + (table r'.weekday).minute.toNat ≤
      r'.hours.toNat * 60 + r'.minutes.toNat := by
  simp only [Rtc.alarmMatches, Bool.and_eq_true, decide_eq_true_eq, hmask, weekdays_and] at hmatch
  obtain ⟨⟨hm, hh⟩, rfl⟩ := hmatch
  have hentry : table r'.weekday = table r.weekday := by
    rw [hs.weekday, hr.weekday, dayIndex_eq hday]
  have hmin := minutes_le hday hle
  rw [hentry, hs.hours, hs.minutes, ← hhour, ← hminute, ← hm, ← hh, hr.hours, hr.minutes]
  exact hmin

end Moves

/-! ## What the past has left -/

/-- The opening table that a boot reads. -/
def storedTable (nvs : Nvs) : WeekTable :=
  if (nvs.get .initAlarm).getD 0 = 0 then fun _ => defaultOpening
  else (nvs.get .openAlarms).getD fun _ => {}

/-- The invariant of flash, the RTC and the trace. -/
structure Past [TimeLib] (ω : Env) (table : WeekTable) (w : World) : Prop where
  stored : storedTable w.nvs = table
  armed : ∀ c, lastArmed w.trace = some c →
    (c.1 = .posUp → LightDue table c.2.2) ∧ ∃ j < w.tick, c.2.2 = (ω j).rtc
  line : w.rtc.clkInt = true → w.rtc.armed = true ∧ ∃ j < w.tick, ∃ r, (ω j).fired = some r ∧
    lastFired w.trace = some r ∧ w.rtc.alarmMatches r = true
  moves : Historically (SameDay ω) w.trace → Historically (NotTooEarly ω table) w.trace

/-- The invariant of the whole device while it is running. -/
structure Present [TimeLib] (ω : Env) (table : WeekTable) (w : World) : Prop
    extends Past ω table w where
  opening : w.sched.openingAlarms = table
  time : w.clk.tNow = stamp w.rtc.snapshot
  dow : w.clk.dow = weekday w.clk.tNow
  read : ∃ j < w.tick, w.rtc.snapshot = (ω j).rtc
  alarm : w.sched.alarmFlag = .posUp → w.rtc.armed = true → ∃ i, w.rtc.alarmMask = weekdays i ∧
    w.rtc.alarmHour = (table i).hour ∧ w.rtc.alarmMinute = (table i).minute
  screen : w.menu.menuId ≤ 2 ∨ w.menu.menuId = 100

/-- The event decides nothing and moves nothing. -/
def isNeutral : Event → Bool
  | .alarmFired _ | .lightArmed _ _ _ | .alarmMove _ _ | .lightMove _ _ => false
  | _ => true

section Past

variable [TimeLib] {ω : Env} {table : WeekTable} {w : World}

/-- An event that is no opening leaves the trace as it was. -/
theorem moves_cons {e : Event} {tr : List Event} (he : ∀ tick, ¬ IsOpening e tick)
    (h : Historically (SameDay ω) tr → Historically (NotTooEarly ω table) tr) :
    Historically (SameDay ω) (e :: tr) → Historically (NotTooEarly ω table) (e :: tr) := by
  intro hs
  exact historically_cons.mpr ⟨notTooEarly_of_not_opening he, h (historically_cons.mp hs).2⟩

namespace Past

theorem observe (h : Past ω table w) : Past ω table (w.observe (ω w.tick)) := by
  have harmed : ∀ c, lastArmed (w.observe (ω w.tick)).trace = some c →
      (c.1 = .posUp → LightDue table c.2.2) ∧ ∃ j < w.tick + 1, c.2.2 = (ω j).rtc := by
    intro c hc
    rw [lastArmed_observe] at hc
    obtain ⟨hdue, j, hj, heq⟩ := h.armed c hc
    exact ⟨hdue, j, by omega, heq⟩
  cases hf : w.firing (ω w.tick) with
  | none =>
    refine ⟨h.stored, harmed, fun hc => ?_, ?_⟩
    · have hc' : w.rtc.clkInt = true := by simpa [World.observe, hf] using hc
      obtain ⟨ha, j, hj, r, hr, hlast, hmatch⟩ := h.line hc'
      refine ⟨ha, j, by show j < w.tick + 1; omega, r, hr, ?_, hmatch⟩
      simpa only [World.observe, hf] using hlast
    · simpa only [World.observe, hf] using h.moves
  | some r =>
    obtain ⟨hr, hmatch⟩ := Option.filter_eq_some_iff.mp hf
    simp only [Bool.and_eq_true] at hmatch
    refine ⟨h.stored, harmed, fun _ => ?_, ?_⟩
    · refine ⟨hmatch.1, w.tick, by show w.tick < w.tick + 1; omega, r, hr, ?_, hmatch.2⟩
      simp only [World.observe, hf]
      rfl
    · simp only [World.observe, hf]
      exact moves_cons (by rintro tick (he | he) <;> cases he) h.moves

theorem emit (h : Past ω table w) {e : Event} (he : isNeutral e = true) :
    Past ω table { w with trace := e :: w.trace } where
  stored := h.stored
  armed := by
    have hl : lastArmed (e :: w.trace) = lastArmed w.trace := by
      cases e <;> first | rfl | cases he
    show ∀ c, lastArmed (e :: w.trace) = some c → _
    rw [hl]
    exact h.armed
  line := by
    have hl : lastFired (e :: w.trace) = lastFired w.trace := by
      cases e <;> first | rfl | cases he
    show _ → _ ∧ ∃ j < w.tick, ∃ r, _ ∧ lastFired (e :: w.trace) = some r ∧ _
    rw [hl]
    exact h.line
  moves := by
    refine moves_cons ?_ h.moves
    rintro tick (rfl | rfl) <;> cases he

theorem put (h : Past ω table w) {k : NvsKey} (v : k.Value) (h₁ : k ≠ .initAlarm)
    (h₂ : k ≠ .openAlarms) : Past ω table { w with nvs := w.nvs.put k v } := by
  have htable : storedTable (w.nvs.put k v) = table := by
    rw [storedTable, nvs_get_put_of_ne _ _ h₁.symm, nvs_get_put_of_ne _ _ h₂.symm]
    exact h.stored
  exact { h with stored := htable }

end Past

end Past

/-! ## What the running device keeps -/

section Present

variable [TimeLib] {ω : Env} {table : WeekTable} {w : World}

namespace Present

theorem observe (h : Present ω table w) : Present ω table (w.observe (ω w.tick)) := by
  obtain ⟨j, hj, hread⟩ := h.read
  exact { h with
    toPast := h.toPast.observe
    read := ⟨j, by show j < w.tick + 1; omega, hread⟩ }

theorem emit (h : Present ω table w) {e : Event} (he : isNeutral e = true) :
    Present ω table { w with trace := e :: w.trace } :=
  { h with toPast := h.toPast.emit he }

theorem put (h : Present ω table w) {k : NvsKey} (v : k.Value) (h₁ : k ≠ .initAlarm)
    (h₂ : k ≠ .openAlarms) : Present ω table { w with nvs := w.nvs.put k v } :=
  { h with toPast := h.toPast.put v h₁ h₂ }

theorem door (h : Present ω table w) (d : Door) : Present ω table { w with door := d } :=
  { h with }

theorem blind : Blind ω (Present ω table) where
  observe := fun _ h => h.observe
  door := fun _ d _ h => h.door d
  pins := fun _ _ h => { h with }
  emit := fun _ e he h => h.emit (by cases e <;> first | rfl | cases he)
  store := fun _ k v hk h => h.put v (by rintro rfl; cases hk) (by rintro rfl; cases hk)

/-- Assignments to the variables of the scheduler other than the table, with no new move by
    the alarm. -/
theorem sched (h : Present ω table w) {s : Sched} (ho : s.openingAlarms = w.sched.openingAlarms)
    (ha : s.alarmFlag = .posUp → w.sched.alarmFlag = .posUp) :
    Present ω table { w with sched := s } :=
  { h with opening := ho.trans h.opening, alarm := fun hf => h.alarm (ha hf) }

theorem menu (h : Present ω table w) {m : Menu} (hm : m.menuId ≤ 2 ∨ m.menuId = 100) :
    Present ω table { w with menu := m } :=
  { h with screen := hm }

/-- An alarm that does not open the door may be set for any time. -/
theorem withAlarm (h : Present ω table w) (c : AlarmArgs) (ha : w.sched.alarmFlag ≠ .posUp) :
    Present ω table (withAlarm w c) :=
  { h with
    toPast := { h.toPast.emit (e := .setAlarm c.1 c.2.1 c.2.2) rfl with
      line := by intro hc; cases hc }
    alarm := fun hf => absurd hf ha }

/-- The alarm that opens the door is set for the time of the entry of the day. -/
theorem withOpening (h : Present ω table w) {mDoW : UInt8} :
    Present ω table (Spec.withAlarm (withFlag w .posUp)
      (mDoW, (todaysAlarm table w.clk.tNow).hour, (todaysAlarm table w.clk.tNow).minute)) :=
  { h with
    toPast := { h.toPast.emit (e := .setAlarm mDoW (todaysAlarm table w.clk.tNow).hour
        (todaysAlarm table w.clk.tNow).minute) rfl with
      line := by intro hc; cases hc }
    alarm := fun _ _ => ⟨dayIndex (weekday w.clk.tNow), by
      show weekdays (dayIndex w.clk.dow) = _
      rw [h.dow], rfl, rfl⟩ }

/-- The sensor is armed, for opening the door only when that is due. -/
theorem withLight (h : Present ω table w) (timer : Option UInt64)
    (hdue : w.sched.nextMove = .posUp → LightDue table w.rtc.snapshot) :
    Present ω table (Spec.withLight w timer) :=
  { h with
    toPast :=
      { h.toPast with
        armed := by
          intro c hc
          cases hc
          exact ⟨hdue, h.read⟩
        moves := moves_cons (by rintro tick (he | he) <;> cases he) h.moves } }

/-- A light check that only counts. -/
theorem polled (h : Present ω table w) {pos : Klappenposition} {lux c : UInt8} {us : UInt64} :
    Present ω table (polled w pos (ω w.tick) lux c us) :=
  { h.observe.emit (e := .lightCheck pos lux w.sched.nextLux) rfl with }

end Present

end Present

/-! ## Passes -/

section Passes

variable [TimeLib] {ω : Env} {table : WeekTable} {w w₁ : World} {a : DoorDayAlarm}

theorem prepForDeepSleep_present : Stays (Present ω table) ω prepForDeepSleep := by
  intro w h
  rw [wp_prepForDeepSleep]
  have hcalled : Present ω table (w.called .prepForDeepSleep) := h.emit rfl
  have hs : Present ω table { (w.called .prepForDeepSleep).observe (ω w.tick) with
      sched := (slept w (ω w.tick)).sched } := hcalled.observe.sched rfl (fun hf => hf)
  exact { hs with }

theorem startScheduling_present (pos : Klappenposition) (a : DoorDayAlarm) :
    Stays (Present ω table) ω (startScheduling pos a) := by
  refine .bind (.modify fun w h => h.emit rfl) fun _ => ?_
  refine .bind (.modify fun w h => ?_) fun _ => .get_bind fun _ => .bind (.when ?_) fun _ => ?_
  · exact h.sched rfl (by intro hf; cases hf)
  · intro w h
    rw [wp_bind, wp_setAlarmFlag]
    apply wp_setAlarmTomorrow0.mpr
    have hf : Present ω table (withFlag w .posBlocked) := h.sched rfl (by intro hf; cases hf)
    exact hf.withAlarm _ (by intro hf; cases hf)
  · refine .get_bind fun _ => .when (.bind (.modify fun w h => ?_) fun _ => .modify fun w h => ?_)
    · exact h.put (k := .initFlag) _ (by decide) (by decide)
    · exact h.sched rfl (fun hf => hf)

theorem finishScheduling_present : Stays (Present ω table) ω finishScheduling :=
  .get_bind fun _ => .bind (.when (Present.blind.digitalWrite _ _)) fun _ =>
    .get_bind fun _ => .when prepForDeepSleep_present

theorem armLight_present {pos : Klappenposition} (n : Nat) (h : Present ω table w)
    (hpos : pos = .posUp ∨ pos = .posDown) (hmove : w.sched.nextMove = pos)
    (hdue : pos = .posUp → LightDue table w.rtc.snapshot) :
    wp (armLight (activateLDR n)) (anywhere (Present ω table)) ω w := by
  subst hmove
  simp only [armLight, wp_bind, wp_modifySched, wp_get, wp_ite, wp_emit, wp_enableTimerWakeup,
    wp_pure]
  refine ⟨fun _ => h.withLight _ hdue, fun _ => ?_⟩
  refine wp_mono (activateLDR_polls (w := withLight w w.timer) n hpos rfl rfl) ?_
    (fun _ h => h.elim) ?_
  · rintro _ w' rfl
    exact (h.withLight w.timer hdue).polled
  · rintro w' ⟨-, rfl⟩
    exact h.withLight w.timer hdue

/-- The alarm for the coming midnight, or for a time that moves nothing. -/
theorem Present.withBlocked (h : Present ω table w) (c : AlarmArgs) :
    Present ω table (Spec.withAlarm (withFlag w .posBlocked) c) := by
  have hf : Present ω table (withFlag w .posBlocked) := h.sched rfl (by intro hf; cases hf)
  exact hf.withAlarm c (by intro hf; cases hf)

theorem openingSwitch_present (n : Nat) {mode : OpeningMode} (h : Present ω table w)
    (ha : a = todaysAlarm table w.clk.tNow) (hmode : OpeningMode.ofByte a.mode = some mode)
    (hmove : w.sched.nextMove = .posUp) :
    wp (openingSwitch a mode (activateLDR n)) (anywhere (Present ω table)) ω w := by
  -- the sensor is armed only on a day without a time, or after it
  have hlight : ∀ c, (mode = .licht ∨ (mode = .lichtZeit ∧ ¬ notPassed a w.clk.tNow)) →
      wp (armLight (activateLDR n)) (anywhere (Present ω table)) ω
        (withAlarm (withFlag w .posBlocked) c) := by
    intro c hm
    refine armLight_present n (h.withBlocked c) (.inl rfl) hmove fun _ => ?_
    show LightDue table w.rtc.snapshot
    unfold LightDue
    rw [← h.time, ← ha, hmode]
    rcases hm with rfl | ⟨rfl, hp⟩
    · exact .inl rfl
    · exact .inr ⟨rfl, hp⟩
  cases mode with
  | zeit =>
    simp only [openingSwitch, wp_bind, wp_get, wp_when, wp_ite, wp_setAlarmFlag,
      wp_setAlarmTomorrow0, wp_setTodaysAlarm, hmove]
    refine ⟨fun _ => ⟨fun _ => ?_, fun _ => h.withBlocked _⟩, fun _ => h⟩
    rw [ha]
    exact h.withOpening
  | licht =>
    simp only [openingSwitch, wp_bind, wp_get, wp_when, wp_setAlarmFlag, wp_setAlarmTomorrow0]
    exact ⟨fun _ => hlight _ (.inl rfl), fun _ => h.withBlocked _⟩
  | lichtZeit =>
    simp only [openingSwitch, wp_bind, wp_get, wp_when, wp_ite, wp_setAlarmFlag,
      wp_setAlarmTomorrow0, wp_setTodaysAlarm]
    exact ⟨fun _ => ⟨fun _ => h.withBlocked _, fun hp => hlight _ (.inr ⟨rfl, hp⟩)⟩, fun _ => h⟩
  | nicht =>
    simp only [openingSwitch, wp_bind, wp_get, wp_setAlarmFlag, wp_setAlarmTomorrow0]
    exact h.withBlocked _

theorem closingSwitch_present (n : Nat) {mode : OpeningMode} (h : Present ω table w)
    (hmove : w.sched.nextMove = .posDown) :
    wp (closingSwitch a mode (activateLDR n)) (anywhere (Present ω table)) ω w := by
  have hlight : ∀ w₁, Present ω table w₁ → w₁.sched.nextMove = .posDown →
      wp (armLight (activateLDR n)) (anywhere (Present ω table)) ω w₁ := fun w₁ h₁ hm =>
    armLight_present n h₁ (.inr rfl) hm (by intro hp; cases hp)
  have hclose : ∀ c, Present ω table (withAlarm (withFlag w .posDown) c) := by
    intro c
    have hf : Present ω table (withFlag w .posDown) := h.sched rfl (by intro hf; cases hf)
    exact hf.withAlarm c (by intro hf; cases hf)
  cases mode with
  | zeit =>
    simp only [closingSwitch, wp_bind, wp_get, wp_ite, wp_setAlarmFlag, wp_setAlarmTomorrow0,
      wp_setTodaysAlarm, hmove]
    exact ⟨fun _ => hclose _, fun _ => h.withBlocked _⟩
  | licht =>
    simp only [closingSwitch, wp_bind, wp_get, wp_when, wp_setAlarmFlag, wp_setAlarmTomorrow0]
    exact ⟨fun _ => hlight _ (h.withBlocked _) hmove, fun _ => h.withBlocked _⟩
  | lichtZeit =>
    simp only [closingSwitch, wp_bind, wp_get, wp_when, wp_ite, wp_setAlarmFlag,
      wp_setAlarmTomorrow0, wp_setTodaysAlarm, hmove]
    exact ⟨fun _ => ⟨fun _ => hlight _ (hclose _) hmove, fun _ => hclose _⟩,
      fun _ => h.withBlocked _⟩
  | nicht =>
    simp only [closingSwitch, wp_bind, wp_get, wp_setAlarmFlag, wp_setAlarmTomorrow0]
    exact h.withBlocked _

/-- The start of a pass, with what it has set. -/
theorem startScheduling_started (pos : Klappenposition) (a : DoorDayAlarm) (h : Present ω table w) :
    wp (startScheduling pos a) ⟨fun _ w' => Present ω table w' ∧ Started pos a w w',
      Present ω table, Present ω table⟩ ω w :=
  wp_mono (wp_and (startScheduling_present pos a w h) (startScheduling_starts pos a))
    (fun _ _ h => h) (fun _ h => h.1) (fun _ h => h.1)

theorem wrongMode_present (h : Present ω table w) (hf : w.sched.alarmFlag = .posBlocked) :
    wp wrongMode (anywhere (Present ω table)) ω w := by
  rw [wp_wrongMode]
  have hset := h.withAlarm (tomorrow w.clk.tNow, 0, 0) (by rw [hf]; decide)
  have hlost : Present ω table (lost w) :=
    (hset.emit (e := .raised .wrongAlarmMode) rfl).door _
  have hsleep := prepForDeepSleep_present _ hlost
  rw [wp_prepForDeepSleep] at hsleep
  exact ⟨fun _ => h, fun _ => hsleep⟩

theorem setNextOpeningAlarm_present (n : Nat) :
    Stays (Present ω table) ω (setNextOpeningAlarm n) := by
  intro w h
  cases n with
  | zero => exact wp_pending.mpr h
  | succ n =>
    rw [setNextOpeningAlarm, wp_get_bind]
    apply wp_seq (startScheduling_started _ _ h)
    rintro _ w₁ ⟨h₁, hs⟩
    cases hmode : OpeningMode.ofByte (todaysAlarm w.sched.openingAlarms w.clk.tNow).mode with
    | none => exact wrongMode_present h₁ hs.alarmFlag
    | some mode =>
      refine wp_seq (openingSwitch_present n h₁ ?_ hmode hs.nextMove)
        (fun _ w₂ h₂ => finishScheduling_present w₂ h₂)
      rw [h.opening, hs.clk]

theorem setNextClosingAlarm_present (n : Nat) :
    Stays (Present ω table) ω (setNextClosingAlarm n) := by
  intro w h
  cases n with
  | zero => exact wp_pending.mpr h
  | succ n =>
    rw [setNextClosingAlarm, wp_get_bind]
    apply wp_seq (startScheduling_started _ _ h)
    rintro _ w₁ ⟨h₁, hs⟩
    cases hmode : OpeningMode.ofByte (todaysAlarm w.sched.closingAlarms w.clk.tNow).mode with
    | none => exact wrongMode_present h₁ hs.alarmFlag
    | some mode =>
      exact wp_seq (closingSwitch_present n h₁ hs.nextMove)
        (fun _ w₂ h₂ => finishScheduling_present w₂ h₂)

theorem readStatus_present : Stays (Present ω table) ω readStatus := by
  refine .bind (Present.blind.digitalRead _) fun _ => .bind (Present.blind.digitalRead _) fun _ => ?_
  refine .bind (.modify fun w h => h.door _) fun _ => .get_bind fun _ => .modify fun w h => ?_
  exact h.put (k := .errorFlag) _ (by decide) (by decide)

theorem statusabfrage_present (n : Nat) : Stays (Present ω table) ω (statusabfrage n) := by
  cases n with
  | zero => exact .pending
  | succ n =>
    refine .bind readStatus_present fun _ => .get_bind fun w => .ite ?_ ?_
    · refine .bind (.modify fun w h => h.emit rfl) fun _ => .bind (.modify fun w h => ?_) fun _ =>
        .modify fun w h => ?_
      · exact h.menu (.inl (by show 2 ≤ 2; omega))
      · exact h.sched rfl (fun hf => hf)
    · refine .bind (.modify fun w h => h.emit rfl) fun _ => ?_
      split
      · exact setNextClosingAlarm_present n
      · exact setNextOpeningAlarm_present n
      · refine .bind (.modify fun w h => h.emit rfl) fun _ => ?_
        refine .bind (.modify fun w h => h.door _) fun _ => .bind (.modify fun w h => ?_) fun _ =>
          setNextClosingAlarm_present n
        exact h.put (k := .errorFlag) _ (by decide) (by decide)
      · exact .ite (setNextOpeningAlarm_present n) (setNextClosingAlarm_present n)

theorem moveMotor_present (n : Nat) (pos : Klappenposition) :
    Stays (Present ω table) ω (moveMotor n pos) := by
  cases n with
  | zero => exact .pending
  | succ n => exact Present.blind.move pos n (statusabfrage_present n)

end Passes

/-! ## Moves by the alarm and by light -/

section Openings

variable [TimeLib] {ω : Env} {table : WeekTable} {w : World}

/-- A move of either kind begins; an opening must not be too early. -/
theorem Present.emitMove (h : Present ω table w) {e : Event}
    (hl : lastArmed (e :: w.trace) = lastArmed w.trace)
    (hf : lastFired (e :: w.trace) = lastFired w.trace)
    (hok : SameDay ω (e :: w.trace) → NotTooEarly ω table (e :: w.trace)) :
    Present ω table { w with trace := e :: w.trace } := by
  have hpast : Past ω table { w with trace := e :: w.trace } :=
    { stored := h.stored
      armed := by
        show ∀ c, lastArmed (e :: w.trace) = some c → _
        rw [hl]
        exact h.armed
      line := by
        show _ → _ ∧ ∃ j < w.tick, ∃ r, _ ∧ lastFired (e :: w.trace) = some r ∧ _
        rw [hf]
        exact h.line
      moves := by
        intro hs
        obtain ⟨hnow, hbefore⟩ := historically_cons.mp hs
        exact historically_cons.mpr ⟨hok hnow, h.moves hbefore⟩ }
  exact { h with toPast := hpast }

/-- An opening by the alarm. -/
theorem Present.alarmMove (h : Present ω table w) (hω : Ticking ω) (hline : w.rtc.clkInt = true)
    (hflag : w.sched.alarmFlag = .posUp) :
    Present ω table { w with trace := .alarmMove .posUp w.tick :: w.trace } := by
  refine h.emitMove rfl rfl fun hsame => ?_
  intro e tick tl heq hopen _
  obtain ⟨rfl, rfl⟩ := List.cons.inj heq
  obtain hopen | hopen := hopen <;> cases hopen
  obtain ⟨harmed, j, hj, r, hr, hlast, hmatch⟩ := h.line hline
  obtain ⟨i, hmask, hhour, hminute⟩ := h.alarm hflag harmed
  obtain ⟨hshows, hle⟩ := hω.fired j r hr
  exact alarm_notTooEarly hmask hhour hminute hmatch hshows (hω.shows w.tick)
    (hsame.alarm _ _ rfl r hlast) (hle.trans (hω.mono j w.tick (by omega)))

/-- An opening by light. -/
theorem Present.lightMove (h : Present ω table w) (hω : Ticking ω) {v : UInt8 × RtcTime}
    (harm : lastArmed w.trace = some (.posUp, v)) :
    Present ω table { w with trace := .lightMove .posUp w.tick :: w.trace } := by
  refine h.emitMove rfl rfl fun hsame => ?_
  intro e tick tl heq hopen ht
  obtain ⟨rfl, rfl⟩ := List.cons.inj heq
  obtain hopen | hopen := hopen <;> cases hopen
  obtain ⟨hdue, j, hj, hsnap⟩ := h.armed _ harm
  have hle : secs (stamp v.2) ≤ secs (stamp (ω w.tick).rtc) := by
    rw [show v.2 = (ω j).rtc from hsnap]
    exact hω.mono j w.tick (by omega)
  exact (hdue rfl).notTooEarly (hω.shows w.tick) (hsame.light _ _ rfl _ harm) hle ht

theorem alarmWakeupHandling_present (n : Nat) (hω : Ticking ω) (h : Present ω table w)
    (hline : w.rtc.clkInt = true) :
    wp (alarmWakeupHandling n) (anywhere (Present ω table)) ω w := by
  rw [alarmWakeupHandling, wp_get_bind]
  cases hflag : w.sched.alarmFlag with
  | posDown =>
    simp only [wp_bind, wp_get, wp_emit]
    refine moveMotor_present n _ _ (h.emitMove rfl rfl fun _ => notTooEarly_of_not_opening ?_)
    rintro tick (he | he) <;> cases he
  | posUp =>
    simp only [wp_bind, wp_get, wp_emit]
    exact moveMotor_present n _ _ (h.alarmMove hω hline hflag)
  | posBlocked => exact statusabfrage_present n w h
  | posDriving =>
    simp only [wp_bind, wp_emit, wp_modifyDoor]
    exact statusabfrage_present n _ ((h.emit rfl).door _)

/-- `debounce` of a timer wake-up: the move it may order is for the move armed last. -/
theorem debounce_present (n : Nat) (pos : Klappenposition) (hit : Bool) (hω : Ticking ω)
    (h : Present ω table w) (harm : pos = .posUp → ∃ v, lastArmed w.trace = some (.posUp, v)) :
    wp (debounce pos hit (moveMotor n pos)) (anywhere (Present ω table)) ω w := by
  have hcount : ∀ c us, Present ω table { w with
      sched := { w.sched with ramCounter := c }, timer := us } := fun c us =>
    { h with }
  cases hit with
  | false =>
    simp only [debounce, Bool.false_eq_true, if_false, wp_bind, wp_modifySched,
      wp_enableTimerWakeup, wp_pure]
    exact hcount _ _
  | true =>
    simp only [debounce, if_true, wp_bind, wp_modifySched, wp_get, wp_ite, wp_emit,
      wp_enableTimerWakeup, wp_pure]
    refine ⟨fun _ => ?_, fun _ => hcount _ _⟩
    refine wp_mono (moveMotor_present n pos _ ?_) (fun _ _ h => h) (fun _ h => h) (fun _ h => h)
    have h₀ : Present ω table { w with sched := { w.sched with ramCounter := 0 } } :=
      hcount 0 w.timer
    by_cases hpos : pos = .posUp
    · obtain ⟨v, hv⟩ := harm hpos
      subst hpos
      exact h₀.lightMove hω hv
    · refine h₀.emitMove rfl rfl fun _ => notTooEarly_of_not_opening ?_
      rintro tick (he | he) <;> cases he
      exact hpos rfl

theorem activateLDR_present (n : Nat) (hω : Ticking ω) (h : Present ω table w)
    (harm : w.sched.ldrFlag = .posUp → ∃ v, lastArmed w.trace = some (.posUp, v)) :
    wp (activateLDR n) (anywhere (Present ω table)) ω w := by
  cases n with
  | zero => exact wp_pending.mpr h
  | succ n =>
    have hcheck : ∀ pos lux, Present ω table { w.observe (ω w.tick) with
        trace := .lightCheck pos lux w.sched.nextLux :: (w.observe (ω w.tick)).trace } :=
      fun pos lux => h.observe.emit rfl
    simp only [activateLDR, wp_bind, wp_get, wp_ite, getLux, wp_readMilliVolts, wp_pure, wp_emit,
      wp_modifyDoor]
    refine ⟨fun _ => ?_, fun _ => ⟨fun hf => ?_, fun _ => ?_⟩⟩
    · exact debounce_present n .posDown _ hω (hcheck _ _) (by intro hp; cases hp)
    · refine debounce_present n .posUp _ hω (hcheck _ _) fun _ => ?_
      obtain ⟨v, hv⟩ := harm hf
      exact ⟨v, lastArmed_observe.trans hv⟩
    · have hraised := (h.emit (e := .raised .wrongLdrFlag) rfl).door
        { w.door with errorFlag := .wrongLdrFlag }
      exact wp_mono (statusabfrage_present n _ hraised) (fun _ _ h => h) (fun _ h => h) (fun _ h => h)

theorem timerWakeupHandling_present (n : Nat) (hω : Ticking ω) (h : Present ω table w)
    (harm : w.sched.ldrFlag = .posUp → ∃ v, lastArmed w.trace = some (.posUp, v)) :
    wp (timerWakeupHandling n) (anywhere (Present ω table)) ω w := by
  rw [timerWakeupHandling]
  apply wp_seq (activateLDR_present n hω h harm)
  intro again w₁ h₁
  exact Stays.when prepForDeepSleep_present w₁ h₁

end Openings

end Eggvault.Spec
