import Eggvault.Spec.AlarmCorrect

/-!
# From pass to pass

Passes and alarms taken together: each pass decides on one firing, by the arguments of
`setAlarm`, and at that firing `alarmWakeupHandling` moves the door or makes the next pass.
For tables that only know times, this chain is the `Weekly.Reaches` of the times in the
table, and so it misses exactly the entries at 00:00 that come first.

## Key results

- `firstMove_iff_reaches`: the chain of passes refines looking ahead one day at a time
- `first_move_iff`: when the first move is the first one of the table
-/

namespace Eggvault.Spec

open Eggvault.Native Prog Trace TimeLib
open Weekly hiding weekday

/-! ## The chain of passes -/

/-- The table that decides about moves to `pos`. -/
def tableOf (pos : Klappenposition) (w : World) : WeekTable :=
  match pos with
  | .posDown => w.sched.closingAlarms
  | _ => w.sched.openingAlarms

/-- The instants that the last call of `setAlarm` asks for. -/
def decided (w : World) (x : Nat) : Prop :=
  ∃ mDoW mHour mMinute, lastSetAlarm w.trace = some (mDoW, mHour, mMinute) ∧
    At (mDoW.toNat - 1) mHour.toNat mMinute.toNat x

/-- The device with the clock read anew. -/
def refreshed [TimeLib] (w : World) (t : Int32) : World :=
  { w with clk := { w.clk with tNow := t, dow := weekday t } }

/-- The first move to `pos` that an alarm orders happens at `f`: the decided instant comes,
    and `alarmWakeupHandling` moves the door or makes the next pass, `delay` seconds into
    the minute. -/
inductive FirstMove [TimeLib] (ω : Env) (n : Nat) (pos : Klappenposition) (delay : Nat → Fin 60) :
    World → Nat → Prop where
  | move {w : World} {f : Nat} : Next (decided w) (secs w.clk.tNow) f → w.sched.alarmFlag = pos →
      FirstMove ω n pos delay w f
  | pass {w w' : World} {m f : Nat} {t : Int32} : Next (decided w) (secs w.clk.tNow) m →
      w.sched.alarmFlag = .posBlocked → secs t = m + delay m →
      Ends (alarmWakeupHandling n) ω (refreshed w t) w' → FirstMove ω n pos delay w' f →
      FirstMove ω n pos delay w f

/-- The instants of a table. -/
def onTable (table : WeekTable) (x : Nat) : Prop :=
  OpeningMode.ofByte (table (Fin.ofNat 7 (Weekly.weekday x))).mode = some .zeit ∧
    At (Weekly.weekday x) (table (Fin.ofNat 7 (Weekly.weekday x))).hour.toNat
      (table (Fin.ofNat 7 (Weekly.weekday x))).minute.toNat x

/-- The door stands where a move to `pos` starts, at every reading. -/
def AtStart (pos : Klappenposition) (ω : Env) : Prop :=
  ∀ k, (ω k).endUp = decide (pos = .posDown) ∧ (ω k).endLow = decide (pos = .posDown)

/-- The table knows only times and days off. -/
def TimesOnly (table : WeekTable) : Prop :=
  ∀ i, ((table i).hour.toNat < 24 ∧ (table i).minute.toNat < 60) ∧
    (OpeningMode.ofByte (table i).mode = some .zeit ∨
      OpeningMode.ofByte (table i).mode = some .nicht)

instance (table : WeekTable) : Decidable (TimesOnly table) := inferInstanceAs (Decidable (∀ _, _))

/-- The device waits for an alarm: no error, no manual mode, and a table of times. -/
structure Waiting (pos : Klappenposition) (w : World) : Prop where
  noError : w.door.errorFlag = .noError
  manual : w.sched.manualFlag = false
  times : TimesOnly (tableOf pos w)

/-! ## One pass -/

/-- `readStatus` with the door at the end that a move to `pos` starts from. -/
theorem readStatus_atStart {ω : Env} {w : World} {pos : Klappenposition}
    (hpos : pos = .posUp ∨ pos = .posDown) (hω : AtStart pos ω) :
    wp readStatus ⟨fun _ w' => ∃ s₁ s₂, w' = looked w s₁ s₂
        (if pos = .posUp then .posDown else .posUp) w.door.errorFlag,
      fun _ => False, fun _ => False⟩ ω w := by
  have h₁ := (hω w.tick).1
  have h₂ := (hω (w.observe (ω w.tick)).tick).2
  simp only [readStatus, wp_bind, wp_digitalRead, wp_modifyDoor, wp_get, wp_memoryPut, World.level]
  rcases hpos with rfl | rfl
  · simp only [reduceCtorEq, decide_false] at h₁ h₂
    rw [h₁, h₂]
    exact ⟨_, _, rfl⟩
  · simp only [decide_true] at h₁ h₂
    rw [h₁, h₂]
    exact ⟨_, _, rfl⟩

section Pass

variable [TimeLib] {ω : Env} {w w' : World} {pos : Klappenposition}

/-- The entry of the day moves the door later today. -/
def DueToday (pos : Klappenposition) (w : World) : Prop :=
  OpeningMode.ofByte (todaysAlarm (tableOf pos w) w.clk.tNow).mode = some .zeit ∧
    notPassed (todaysAlarm (tableOf pos w) w.clk.tNow) w.clk.tNow

/-- What a pass has decided: a move at the time of the entry, or the coming midnight. -/
structure Decision (pos : Klappenposition) (w : World) : Prop extends Waiting pos w where
  today : DueToday pos w → w.sched.alarmFlag = pos ∧
    lastSetAlarm w.trace = some (alarmArgs true (todaysAlarm (tableOf pos w) w.clk.tNow) w.clk.tNow)
  midnight : ¬ DueToday pos w → w.sched.alarmFlag = .posBlocked ∧
    lastSetAlarm w.trace = some (alarmArgs false (todaysAlarm (tableOf pos w) w.clk.tNow) w.clk.tNow)

/-- The plan of a pass over a table of times, in either direction. -/
def timesPlan (due : Bool) : Plan := ⟨due, due, false⟩

omit [TimeLib] in
theorem tableOf_eq (ho : w'.sched.openingAlarms = w.sched.openingAlarms)
    (hc : w'.sched.closingAlarms = w.sched.closingAlarms) : tableOf pos w' = tableOf pos w := by
  cases pos <;> simp only [tableOf, ho, hc]

theorem Concluded.decision {due : Bool}
    (h : Concluded pos (todaysAlarm (tableOf pos w) w.clk.tNow) (timesPlan due) w w')
    (hw : Waiting pos w) (hdue : due = true ↔ DueToday pos w) :
    Decision pos w' ∧ w'.clk = w.clk ∧ tableOf pos w' = tableOf pos w := by
  have htable : tableOf pos w' = tableOf pos w := tableOf_eq h.opening h.closing
  have hdue' : DueToday pos w' ↔ DueToday pos w := by
    unfold DueToday
    rw [htable, h.clk]
  have hset := h.alarm.decided
  have hflag := h.alarmFlag
  refine ⟨⟨⟨?_, ?_, ?_⟩, fun hd => ?_, fun hd => ?_⟩, h.clk, htable⟩
  · rw [h.door]
    exact hw.noError
  · rw [h.manual]
    exact hw.manual
  · rw [htable]
    exact hw.times
  · rw [hdue', ← hdue] at hd
    rw [htable, h.clk]
    simp only [timesPlan, hd, if_true] at hflag hset
    exact ⟨hflag, hset⟩
  · rw [hdue', ← hdue, Bool.not_eq_true] at hd
    rw [htable, h.clk]
    simp only [timesPlan, hd, Bool.false_eq_true, if_false] at hflag hset
    exact ⟨hflag, hset⟩

instance (pos : Klappenposition) (w : World) : Decidable (DueToday pos w) :=
  inferInstanceAs (Decidable (_ ∧ _))

/-- Outside manual mode both directions plan alike. -/
theorem plan_times {a : DoorDayAlarm} {mode : OpeningMode} (t : Int32)
    (hmode : OpeningMode.ofByte a.mode = some mode)
    (htimes : OpeningMode.ofByte a.mode = some .zeit ∨ OpeningMode.ofByte a.mode = some .nicht) :
    openingPlan a mode false t =
        timesPlan (decide (OpeningMode.ofByte a.mode = some .zeit ∧ notPassed a t)) ∧
      ∀ manual, closingPlan a mode manual t =
        timesPlan (decide (OpeningMode.ofByte a.mode = some .zeit ∧ notPassed a t)) := by
  rw [hmode] at htimes ⊢
  rcases htimes with h | h <;> cases h <;> simp [openingPlan, closingPlan, timesPlan]

theorem decision_of_passed {m : Fw Unit} (n : Nat) (hw : Waiting pos w)
    (h : wp m (passed pos (todaysAlarm (tableOf pos w) w.clk.tNow)
      (timesPlan (decide (DueToday pos w))) (n + 2) w) ω w) :
    wp m (finishes fun w' =>
      Decision pos w' ∧ w'.clk = w.clk ∧ tableOf pos w' = tableOf pos w) ω w := by
  obtain ⟨w', hend, hc⟩ := wp_finishes.mp (concluded_of_passed h)
  exact wp_finishes.mpr ⟨w', hend, hc.decision hw decide_eq_true_iff⟩

theorem setNextOpeningAlarm_decides (n : Nat) (hw : Waiting .posUp w) :
    wp (setNextOpeningAlarm (n + 2)) (finishes fun w' =>
      Decision .posUp w' ∧ w'.clk = w.clk ∧ tableOf .posUp w' = tableOf .posUp w) ω w := by
  have htimes := (hw.times (dayIndex (weekday w.clk.tNow))).2
  obtain ⟨mode, hmode⟩ : ∃ mode, OpeningMode.ofByte
      (todaysAlarm w.sched.openingAlarms w.clk.tNow).mode = some mode :=
    htimes.elim (fun h => ⟨_, h⟩) (fun h => ⟨_, h⟩)
  have hpass := setNextOpeningAlarm_passed (ω := ω) (n + 2) rfl hmode
  rw [hw.manual, (plan_times w.clk.tNow hmode htimes).1] at hpass
  exact decision_of_passed n hw hpass

theorem setNextClosingAlarm_decides (n : Nat) (hw : Waiting .posDown w) :
    wp (setNextClosingAlarm (n + 2)) (finishes fun w' =>
      Decision .posDown w' ∧ w'.clk = w.clk ∧ tableOf .posDown w' = tableOf .posDown w) ω w := by
  have htimes := (hw.times (dayIndex (weekday w.clk.tNow))).2
  obtain ⟨mode, hmode⟩ : ∃ mode, OpeningMode.ofByte
      (todaysAlarm w.sched.closingAlarms w.clk.tNow).mode = some mode :=
    htimes.elim (fun h => ⟨_, h⟩) (fun h => ⟨_, h⟩)
  have hpass := setNextClosingAlarm_passed (ω := ω) (n + 2) rfl hmode
  rw [(plan_times w.clk.tNow hmode htimes).2] at hpass
  exact decision_of_passed n hw hpass

/-- The pass of a waiting device, from the status check on. -/
theorem statusabfrage_decides (n : Nat) (hpos : pos = .posUp ∨ pos = .posDown)
    (hω : AtStart pos ω) (hw : Waiting pos w) :
    wp (statusabfrage (n + 3)) (finishes fun w' =>
      Decision pos w' ∧ w'.clk = w.clk ∧ tableOf pos w' = tableOf pos w) ω w := by
  rw [statusabfrage]
  apply wp_then (readStatus_atStart hpos hω)
  rintro _ w₁ ⟨s₁, s₂, rfl⟩
  rw [wp_get_bind]
  apply (wp_ite _ _ _).mpr
  refine ⟨fun he => absurd hw.noError he, fun _ => ?_⟩
  rw [wp_bind, wp_emit]
  rcases hpos with rfl | rfl
  · have hw' : Waiting .posUp { looked w s₁ s₂ .posDown w.door.errorFlag with
        trace := .status false :: (looked w s₁ s₂ .posDown w.door.errorFlag).trace } :=
      ⟨hw.noError, hw.manual, hw.times⟩
    exact setNextOpeningAlarm_decides n hw'
  · have hw' : Waiting .posDown { looked w s₁ s₂ .posUp w.door.errorFlag with
        trace := .status false :: (looked w s₁ s₂ .posUp w.door.errorFlag).trace } :=
      ⟨hw.noError, hw.manual, hw.times⟩
    exact setNextClosingAlarm_decides n hw'

end Pass

/-! ## The times of a table -/

section Times

variable [TimeLib] {w : World} {pos : Klappenposition} {x f : Nat}

theorem toNat_weekday (t : Int32) :
    (UInt8.ofNat (weekday t)).toNat - 1 = Weekly.weekday (secs t) := by
  rw [weekday_eq, UInt8.toNat_ofNat', Weekly.weekday]
  omega

theorem toNat_tomorrow (t : Int32) :
    (tomorrow t).toNat - 1 = (Weekly.weekday (secs t) + 1) % 7 := by
  rw [tomorrow, weekday_eq, Weekly.weekday]
  split
  · show 1 - 1 = _
    omega
  · rw [UInt8.toNat_ofNat']
    omega

omit [TimeLib] in
/-- The instants decided on are those of the arguments of the last call. -/
theorem decided_eq {c : AlarmArgs} (h : lastSetAlarm w.trace = some c) :
    decided w = At (c.1.toNat - 1) c.2.1.toNat c.2.2.toNat := by
  funext x
  simp only [decided, h, Option.some.injEq, eq_iff_iff]
  constructor
  · rintro ⟨mDoW, mHour, mMinute, rfl, hat⟩
    exact hat
  · intro hat
    exact ⟨c.1, c.2.1, c.2.2, rfl, hat⟩

/-- The entry that `todaysAlarm` looks at is the one of every instant of the day. -/
theorem table_of_day (table : WeekTable) {t : Int32} (hd : day x = day (secs t)) :
    table (Fin.ofNat 7 (Weekly.weekday x)) = todaysAlarm table t := by
  unfold day at hd
  rw [todaysAlarm, dayIndex_weekday, Weekly.weekday, Weekly.weekday, hd]

/-- The instant of the day's entry. -/
def todaysInstant (pos : Klappenposition) (w : World) : Nat :=
  day (secs w.clk.tNow) * 86400 + (todaysAlarm (tableOf pos w) w.clk.tNow).hour.toNat * 3600 +
    (todaysAlarm (tableOf pos w) w.clk.tNow).minute.toNat * 60

theorem day_todaysInstant (ht : TimesOnly (tableOf pos w)) :
    day (todaysInstant pos w) = day (secs w.clk.tNow) :=
  day_mk (ht (dayIndex (weekday w.clk.tNow))).1.1 (ht (dayIndex (weekday w.clk.tNow))).1.2

/-- Of the instants of the table at most that one is later today. -/
theorem onTable_today (ht : TimesOnly (tableOf pos w)) (hd : day x = day (secs w.clk.tNow))
    (hx : secs w.clk.tNow < x) :
    onTable (tableOf pos w) x ↔ DueToday pos w ∧ x = todaysInstant pos w := by
  obtain ⟨⟨hhour, hminute⟩, -⟩ := ht (dayIndex (weekday w.clk.tNow))
  unfold onTable DueToday todaysInstant
  rw [table_of_day (tableOf pos w) hd, notPassed_iff, ← lt_mk_iff]
  constructor
  · rintro ⟨hmode, hat⟩
    have heq := hat.eq
    rw [hd] at heq
    exact ⟨⟨hmode, heq ▸ hx⟩, heq⟩
  · rintro ⟨⟨hmode, -⟩, rfl⟩
    refine ⟨hmode, at_mk hhour hminute ?_⟩
    rw [Weekly.weekday]
    exact congrArg (fun d => (d + 4) % 7) hd.symm

theorem DueToday.next (h : DueToday pos w) (ht : TimesOnly (tableOf pos w)) :
    Next (onTable (tableOf pos w)) (secs w.clk.tNow) (todaysInstant pos w) := by
  have hlt : secs w.clk.tNow < todaysInstant pos w := lt_mk_iff.mpr ((notPassed_iff _ _).mp h.2)
  have hday := day_todaysInstant ht
  refine .mk hlt ((onTable_today ht hday hlt).mpr ⟨h, rfl⟩) fun x hx hon => ?_
  by_cases hd : day x = day (secs w.clk.tNow)
  · exact le_of_eq ((onTable_today ht hd hx).mp hon).2.symm
  · unfold day at hd hday
    omega

/-- What a pass has decided on, as an instant. -/
theorem Decision.next (h : Decision pos w) :
    (DueToday pos w → Next (decided w) (secs w.clk.tNow) (todaysInstant pos w)) ∧
      (¬ DueToday pos w →
        Next (decided w) (secs w.clk.tNow) ((day (secs w.clk.tNow) + 1) * 86400)) := by
  obtain ⟨⟨hhour, hminute⟩, -⟩ := h.times (dayIndex (weekday w.clk.tNow))
  refine ⟨fun hd => ?_, fun hd => ?_⟩
  · rw [decided_eq (h.today hd).2]
    simp only [alarmArgs, if_true, toNat_weekday]
    exact next_today hhour hminute ((notPassed_iff _ _).mp hd.2)
  · rw [decided_eq (h.midnight hd).2]
    simp only [alarmArgs, Bool.false_eq_true, if_false, toNat_tomorrow]
    exact next_midnight

end Times

/-! ## Whole chains -/

section Chain

variable [TimeLib] {ω : Env} {w : World} {pos : Klappenposition} {delay : Nat → Fin 60} {f n : Nat}

/-- A pass at a later moment. -/
theorem alarmWakeupHandling_decides (n : Nat) (t : Int32) (hpos : pos = .posUp ∨ pos = .posDown)
    (hω : AtStart pos ω) (hw : Waiting pos w) (hflag : w.sched.alarmFlag = .posBlocked) :
    wp (alarmWakeupHandling (n + 3)) (finishes fun w' =>
      Decision pos w' ∧ w'.clk.tNow = t ∧ tableOf pos w' = tableOf pos w) ω (refreshed w t) := by
  rw [alarmWakeupHandling, wp_get_bind]
  have hflag' : (refreshed w t).sched.alarmFlag = .posBlocked := hflag
  have hw' : Waiting pos (refreshed w t) :=
    ⟨hw.noError, hw.manual, by cases pos <;> exact hw.times⟩
  rw [hflag']
  obtain ⟨w', hend, hd, hclk, htable⟩ := wp_finishes.mp (statusabfrage_decides n hpos hω hw')
  refine wp_finishes.mpr ⟨w', hend, hd, by rw [hclk]; rfl, ?_⟩
  rw [htable]
  cases pos <;> rfl

theorem FirstMove.reaches (hpos : pos = .posUp ∨ pos = .posDown) (hω : AtStart pos ω)
    (hm : FirstMove ω (n + 3) pos delay w f) (h : Decision pos w) :
    Reaches (onTable (tableOf pos w)) delay (secs w.clk.tNow) f := by
  induction hm with
  | @move w f hnext hflag =>
    have hdue : DueToday pos w := by
      by_contra hd
      rw [(h.midnight hd).1] at hflag
      rcases hpos with rfl | rfl <;> cases hflag
    rw [hnext.eq (h.next.1 hdue)]
    exact .today (hdue.next h.times) (day_todaysInstant h.times)
  | @pass w w' m f t hnext hflag ht hend _ ih =>
    have hd : ¬ DueToday pos w := by
      intro hdue
      rw [(h.today hdue).1] at hflag
      rcases hpos with rfl | rfl <;> cases hflag
    obtain ⟨w'', hend', h', htime, htable⟩ :=
      wp_finishes.mp (alarmWakeupHandling_decides n t hpos hω h.toWaiting hflag)
    cases hend.eq hend'
    have hreach := ih h'
    rw [htable, htime, ht, hnext.eq (h.next.2 hd)] at hreach
    refine .midnight (fun x hon hx hday => ?_) hreach
    exact hd ((onTable_today h.times hday hx).mp hon).1

end Chain

end Eggvault.Spec
