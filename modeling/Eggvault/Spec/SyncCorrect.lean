import Eggvault.Spec.DateCorrect
import Eggvault.Spec.DayCorrect
import Eggvault.Spec.UntouchedCorrect
import Eggvault.Spec.PauseCorrect

/-!
# Which time a pass goes by

The schedulers compare the table with `t_now`, and `t_now` is set where the clock is read or
written: in `setup`, on screen 000 and on the clock screens.  Every other screen leaves it as it
is for as long as it stays open, and no pass refreshes it.

## Key results

- `pass_time_iff`: a pass goes by the current weekday and minute exactly if the RTC still shows
  the minute in which it was last read or set
-/

namespace Eggvault.Spec

open Eggvault.Native Prog Trace TimeLib

/-! ## Readings and settings of the RTC -/

/-- What the RTC has shown when it was last read or set. -/
def lastSync (ω : Env) (tr : List Event) : Option RtcTime :=
  tr.findSome? fun
    | .call .updateTime m => some (ω m.tick).rtc
    | .setTime second minute hour _ date month year =>
      some (registers second minute hour date month year)
    | _ => none

theorem lastSync_of_leavesClock {ω : Env} {e : Event} (he : leavesClock e = true)
    (tr : List Event) : lastSync ω (e :: tr) = lastSync ω tr := by
  cases e with
  | setTime => cases he
  | call f m => cases f <;> first | rfl | cases he
  | _ => rfl

theorem lastSync_extends {ω : Env} {tr tr' : List Event} (h : Extends leavesClock tr tr') :
    lastSync ω tr' = lastSync ω tr :=
  h.keeps (P := fun t => lastSync ω t = lastSync ω tr)
    (fun _ t he ht => (lastSync_of_leavesClock he t).trans ht) rfl

/-! ## Passes -/

/-- The event is no pass, or one that has found the time `t`. -/
def passesAt (t : Int32) : Event → Bool
  | .call (.setNextAlarm _ _) m => decide (m.clk.tNow = t)
  | _ => true

section Passes

variable {ω : Env} {w w' : World}

theorem passesAt_of_elsewhere {t : Int32} {e : Event} (he : isElsewhere e = true) :
    passesAt t e = true := by
  cases e with
  | call f m => cases f <;> first | rfl | cases he
  | _ => rfl

theorem passesAt_blind (ω : Env) (t : Int32) (tr : List Event) :
    Blind ω fun w => Extends (passesAt t) tr w.trace where
  observe := fun _ h => extends_observe h (fun _ => rfl) _
  door := fun _ _ _ h => h
  pins := fun _ _ h => h
  emit := by
    intro w e he h
    apply h.cons
    cases e with
    | call f m => cases f <;> first | rfl | cases he
    | _ => rfl
  store := fun _ _ _ _ h => h

/-- A pass so far. -/
theorem Silent.passesAt {pos : Klappenposition} {a : DoorDayAlarm} (h : Silent pos a w w') :
    Extends (passesAt w.clk.tNow) w.trace w'.trace := by
  have hcall : Extends (Spec.passesAt w.clk.tNow) w.trace
      (.call (.setNextAlarm pos a) w.moment :: w.trace) :=
    .single _ (decide_eq_true rfl)
  refine hcall.trans (h.trace.mono fun e he => ?_)
  cases e <;> first | rfl | cases he

variable [TimeLib]

/-- Every pass of a status check or of a move goes by `t_now` as it is. -/
theorem Work.passesAt (h : Work ω w w') : Extends (passesAt w.clk.tNow) w.trace w'.trace := by
  have hb := passesAt_blind ω w.clk.tNow w.trace
  have hrefl : Extends (Spec.passesAt w.clk.tNow) w.trace w.trace := .refl _
  cases h with
  | read => exact hb.observe w hrefl
  | led => exact hrefl
  | startMove _ hrun => exact wp_run (hb.startMove w hrefl) hrun
  | iterate _ _ pos _ _ _ _ hrun => exact wp_run (hb.moveIteration pos w hrefl) hrun
  | finishMove _ _ _ _ _ hrun => exact wp_run (hb.finishMove w hrefl) hrun
  | look => exact hb.observe _ (hb.observe w hrefl)
  | report => exact hrefl.cons rfl
  | accept => exact hrefl.cons rfl
  | pass _ pos a mode hp =>
    obtain ⟨w₁, h₁, hl⟩ := hp.carried
    have hprog := h₁.silent.passesAt
    cases hl with
    | off => exact hprog
    | waiting => exact hprog.cons rfl
    | armed => exact hprog.cons rfl
    | measured => exact (extends_observe (hprog.cons rfl) (fun _ => rfl) _).cons rfl
  | stray _ pos _ _ _ hst => exact hst.silent.passesAt
  | lose => exact (hrefl.cons rfl).cons rfl
  | sleep => exact extends_observe (hrefl.cons rfl) (fun _ => rfl) _

/-- So does every pass of any action. -/
theorem Act.passesAt (h : Act ω w w') : Extends (passesAt w.clk.tNow) w.trace w'.trace := by
  have hels : Elsewhere w w' → Extends (Spec.passesAt w.clk.tNow) w.trace w'.trace :=
    fun he => he.trace.mono fun _ => passesAt_of_elsewhere
  rcases h.split with hwake | he
  · rcases hwake.split with hwork | rfl | he
    · exact hwork.passesAt
    · exact .single _ rfl
    · exact hels he
  · exact hels he

end Passes

/-! ## The clock screens -/

/-- What a save of these variables makes the RTC show. -/
def setTo (c : Clock) : RtcTime := registers c.second c.minute c.hour c.date c.month c.year

section Screens

variable {ω : Env} {w : World}

theorem lastSync_observe (ω : Env) (w : World) (s : Sample) :
    lastSync ω (w.observe s).trace = lastSync ω w.trace :=
  observe_keeps (P := fun tr => lastSync ω tr = lastSync ω w.trace) (fun _ h => h) rfl

theorem lastSync_updated (ω : Env) (w : World) :
    lastSync ω (updated w (ω w.tick)).trace = some (ω w.tick).rtc :=
  lastSync_observe ω (w.called .updateTime) (ω w.tick)

/-- A clock screen reads the RTC, or sets it, or does both, or leaves it alone. -/
theorem lastSync_screened (ω : Env) (w : World) (read : Option Clock) (saves : Bool) (c : Clock)
    (next : Setmode × Nat) :
    lastSync ω (screened ω w read saves c next).trace =
      if saves then some (setTo c)
      else if read.isSome then some (ω w.tick).rtc else lastSync ω w.trace := by
  cases saves with
  | true => cases read <;> rfl
  | false =>
    cases read with
    | none => rfl
    | some c₀ => exact lastSync_updated ω { w with clk := c₀ }

variable [TimeLib] {r : RtcTime}

theorem tNow_reread (w : World) (r : RtcTime) :
    (reread w r).tNow = if w.menu.timeSetMode = .setNothing then stamp r else w.clk.tNow := by
  unfold reread
  split <;> rfl

/-- `t_now` after screen 300. -/
theorem tNow_clock300 (action : BtnAction) (w : World) (r : RtcTime) :
    (clock300 action w r).tNow =
      if saves300 action w.menu.timeSetMode then stamp (setTo (clock300 action w r))
      else if (read300 w).isSome then stamp r else w.clk.tNow := by
  have hturn : ∀ c, (turned300 action w.menu.timeSetMode c).tNow = c.tNow := by
    intro c
    unfold turned300
    split <;> rfl
  by_cases hs : saves300 action w.menu.timeSetMode = true
  · rw [if_pos hs, clock300, if_pos hs]
    rfl
  · rw [if_neg hs, clock300, if_neg hs, hturn, tNow_reread, read300]
    split <;> rfl

/-- `t_now` after screen 400. -/
theorem tNow_clock400 (action : BtnAction) (w : World) (r : RtcTime) :
    (clock400 action w r).tNow =
      if saves400 action w.menu.timeSetMode then stamp (setTo (clock400 action w r))
      else if (read400 action w r).isSome then stamp r else w.clk.tNow := by
  have hturn : ∀ c, (turned400 action w.menu.timeSetMode c).tNow = c.tNow := by
    intro c
    unfold turned400
    split <;> rfl
  have hstart : (clock400Start w r).tNow = (reread w r).tNow := by
    unfold clock400Start
    split <;> rfl
  by_cases hs : saves400 action w.menu.timeSetMode = true
  · rw [if_pos hs, clock400, if_pos hs]
    rfl
  · rw [if_neg hs, clock400, if_neg hs]
    show (turned400 action w.menu.timeSetMode (clock400Start w r)).tNow = _
    rw [hturn, hstart, tNow_reread, read400, if_neg hs]
    split <;> rfl

end Screens

/-! ## Every run -/

section Synced

variable [TimeLib] {ω : Env} {w w' : World}

/-- A pass goes by the time at which the RTC was last read or set. -/
def PassSynced (ω : Env) (tr : List Event) : Prop :=
  ∀ pos a m tl, tr = .call (.setNextAlarm pos a) m :: tl →
    ∃ r, lastSync ω tl = some r ∧ m.clk.tNow = stamp r

/-- The invariant: `t_now` is the time of the last reading or setting, now and at every pass. -/
structure Synced (ω : Env) (w : World) : Prop where
  now : ∃ r, lastSync ω w.trace = some r ∧ w.clk.tNow = stamp r
  passes : Historically (PassSynced ω) w.trace

/-- The event is no pass. -/
def isNoPass : Event → Bool
  | .call (.setNextAlarm _ _) _ => false
  | _ => true

theorem passSynced_of_noPass {e : Event} (he : isNoPass e = true) (tr : List Event) :
    PassSynced ω (e :: tr) := by
  intro pos a m tl heq
  obtain ⟨rfl, -⟩ := List.cons.inj heq
  cases he

theorem passesSynced_extends {tr tr' : List Event} (h : Extends isNoPass tr tr')
    (hp : Historically (PassSynced ω) tr) : Historically (PassSynced ω) tr' :=
  h.keeps (fun _ t he ht => historically_cons.mpr ⟨passSynced_of_noPass he t, ht⟩) hp

omit [TimeLib] in
theorem noPass_screened (ω : Env) (w : World) (read : Option Clock) (saves : Bool) (c : Clock)
    (next : Setmode × Nat) :
    Extends isNoPass w.trace (screened ω w read saves c next).trace := by
  have hread : ∀ c₀, Extends isNoPass w.trace (updated { w with clk := c₀ } (ω w.tick)).trace :=
    fun c₀ => extends_observe (.single _ rfl) (fun _ => rfl) _
  cases read with
  | none =>
    cases saves with
    | true => exact .single _ rfl
    | false => exact .refl _
  | some c₀ =>
    cases saves with
    | true => exact (hread c₀).cons rfl
    | false => exact hread c₀

/-- A clock screen that stamps what it reads or sets. -/
theorem Synced.screened (h : Synced ω w) (action : BtnAction) {read : Option Clock} {saves : Bool}
    {c : Clock} {next : Setmode × Nat}
    (hc : c.tNow = if saves then stamp (setTo c)
      else if read.isSome then stamp (ω w.tick).rtc else w.clk.tNow) :
    Synced ω (Spec.screened ω (entered w action) read saves c next) := by
  have hent : Extends isNoPass w.trace (entered w action).trace := .single _ rfl
  refine ⟨?_, passesSynced_extends (hent.trans (noPass_screened ω _ read saves c next)) h.passes⟩
  obtain ⟨r, hr, ht⟩ := h.now
  have hsync := lastSync_screened ω (entered w action) read saves c next
  have hclk : (Spec.screened ω (entered w action) read saves c next).clk = c := rfl
  rw [hclk, hsync, hc]
  split
  · exact ⟨_, rfl, rfl⟩
  · split
    · exact ⟨_, rfl, rfl⟩
    · exact ⟨r, hr, ht⟩

/-- Every action. -/
theorem Synced.act (h : Synced ω w) (ha : Act ω w w') : Synced ω w' := by
  cases ha.clockStep with
  | aloof _ hal =>
    obtain ⟨r, hr, ht⟩ := h.now
    -- all events so far have found the same `t_now` and the same reading
    have hkept : lastSync ω w'.trace = some r ∧ Historically (PassSynced ω) w'.trace := by
      refine (hal.trace.and ha.passesAt).keeps (P := fun tr => lastSync ω tr = some r ∧
        Historically (PassSynced ω) tr) (fun e tr he htr => ?_) ⟨hr, h.passes⟩
      obtain ⟨hclock, hpass⟩ := Bool.and_eq_true_iff.mp he
      refine ⟨(lastSync_of_leavesClock hclock tr).trans htr.1, historically_cons.mpr ⟨?_, htr.2⟩⟩
      intro pos a m tl heq
      obtain ⟨rfl, rfl⟩ := List.cons.inj heq
      exact ⟨r, htr.1, (of_decide_eq_true hpass).trans ht⟩
    exact ⟨⟨r, hkept.1, by rw [hal.clk]; exact ht⟩, hkept.2⟩
  | start action =>
    have hread : Extends isNoPass w.trace (restamped ω (entered w action)).trace :=
      extends_observe ((Extends.single _ rfl).cons rfl) (fun _ => rfl) _
    refine ⟨⟨(ω w.tick).rtc, lastSync_updated ω (entered w action), rfl⟩, ?_⟩
    exact passesSynced_extends hread h.passes
  | time action hid => exact h.screened action (tNow_clock300 action w (ω w.tick).rtc)
  | date action hid => exact h.screened action (tNow_clock400 action w (ω w.tick).rtc)

/-- A reset reads the clock. -/
theorem Rebooted.synced {w₀ : World} (h : Rebooted ω w₀ w)
    (hp : Historically (PassSynced ω) w₀.trace) : Synced ω w := by
  obtain ⟨tr, m, htr, hm, htr'⟩ := h.trace
  have hfire : ∀ e, isFiring e = true → leavesClock e = true := by
    intro e he
    cases e <;> first | rfl | cases he
  refine ⟨⟨(ω (w₀.tick + 7)).rtc, ?_, ?_⟩, ?_⟩
  · rw [lastSync_extends (htr'.mono hfire), ← hm]
    rfl
  · rw [h.clk]
    rfl
  · refine h.keeps (fun e tr he ht => ?_) (fun m tr _ ht => ?_) hp
    · have hno : isNoPass e = true := by cases e <;> first | rfl | cases he
      exact historically_cons.mpr ⟨passSynced_of_noPass hno tr, ht⟩
    · exact historically_cons.mpr ⟨passSynced_of_noPass rfl tr, ht⟩

theorem LossyRun.synced {w₀ : World} {p : Phase} (hr : LossyRun ω w₀ (p, w)) : Synced ω w := by
  refine LossyRun.invariant hr (fun _ _ ha hw => hw.act ha) ?_ ?_ ?_
  · intro w' hb
    refine hb.synced (historically_nil.mpr ?_)
    intro _ _ _ tl heq
    cases heq
  · intro w' w'' cause hw hb
    refine hb.synced (observe_keeps (P := Historically (PassSynced ω)) (fun t ht => ?_) hw.passes)
    exact historically_cons.mpr ⟨passSynced_of_noPass rfl _, ht⟩
  · intro w' w'' hw hb
    exact hb.synced hw.passes

/-- `t` has the weekday, the hour and the minute that the RTC shows. -/
structure OnTime (t : Int32) (r : RtcTime) : Prop where
  weekday : TimeLib.weekday t = weekdayOf r.date.toNat r.month.toNat r.year.toNat + 1
  hour : TimeLib.hour t = r.hours.toNat
  minute : TimeLib.minute t = r.minutes.toNat

/-- Both show the same minute of the same weekday. -/
def SameMinute (r r' : RtcTime) : Prop :=
  weekday (stamp r) = weekday (stamp r') ∧ hour (stamp r) = hour (stamp r') ∧
    minute (stamp r) = minute (stamp r')

/-- The stamp of a valid time counts its seconds since 1970. -/
theorem ValidRtc.secs_stamp (hlib : MakesTime) {r : RtcTime} (h : ValidRtc r) :
    secs (stamp r) = dayNumber r.date.toNat r.month.toNat r.year.toNat * 86400 +
      r.hours.toNat * 3600 + r.minutes.toNat * 60 + r.seconds.toNat := by
  obtain ⟨⟨hs, hm, hh⟩, hd⟩ := h
  have hrange := hd.range
  have hyears := hd.1.2
  have hint : r.year.toInt16.toInt = r.year.toNat := UInt16.toInt_toInt16_of_lt (by omega)
  have hyear := toNat_year (hint ▸ hyears)
  rw [hint, Int.toNat_natCast] at hyear
  have hsecs := hlib
    { day := r.date, month := r.month, year := (r.year.toInt16 - 1970).toUInt16.toUInt8,
      second := r.seconds, hour := r.hours, minute := r.minutes } ⟨hs, hm, hh⟩
  rw [hyear, show (1970 : Int) + ((r.year.toInt16 - 1970).toUInt16.toUInt8.toNat : Int) =
    r.year.toNat by omega] at hsecs
  exact hsecs hd

/-- The stamp of a valid time is on time. -/
theorem ValidRtc.onTime (hlib : MakesTime) {r : RtcTime} (h : ValidRtc r) : OnTime (stamp r) r := by
  have hval := h.secs_stamp hlib
  obtain ⟨⟨hs, hm, hh⟩, -⟩ := h
  refine ⟨?_, ?_, ?_⟩
  · rw [weekday_eq, hval, weekdayOf]
    omega
  · rw [hour_eq, hval]
    omega
  · rw [minute_eq, hval]
    omega

/-- A pass goes by the weekday and the minute of the RTC exactly if these are still the ones of the
    last reading or setting; then an entry that it takes for still to come is still to come. -/
def PassTimely (ω : Env) (tr : List Event) : Prop :=
  ∀ pos a m tl, tr = .call (.setNextAlarm pos a) m :: tl → ∃ r, lastSync ω tl = some r ∧
    (OnTime m.clk.tNow (ω m.tick).rtc ↔ SameMinute r (ω m.tick).rtc) ∧
    (SameMinute r (ω m.tick).rtc → notPassed a m.clk.tNow →
      (ω m.tick).rtc.hours.toNat * 60 + (ω m.tick).rtc.minutes.toNat <
        a.hour.toNat * 60 + a.minute.toNat)

/-- In every run, each pass goes by the current weekday and minute if and only if the RTC has not
    gone on to another minute since it was last read or set. -/
theorem pass_time_iff {w₀ : World} {p : Phase} (hlib : MakesTime)
    (hrtc : ∀ n, ValidRtc (ω n).rtc) (hr : LossyRun ω w₀ (p, w)) :
    Historically (PassTimely ω) w.trace := by
  intro tr htr pos a m tl heq
  obtain ⟨r, hsync, ht⟩ := (LossyRun.synced hr).passes tr htr pos a m tl heq
  have hnow := (hrtc m.tick).onTime hlib
  have hiff : OnTime m.clk.tNow (ω m.tick).rtc ↔ SameMinute r (ω m.tick).rtc := by
    rw [ht]
    constructor
    · intro h
      exact ⟨h.weekday.trans hnow.weekday.symm, h.hour.trans hnow.hour.symm,
        h.minute.trans hnow.minute.symm⟩
    · rintro ⟨hw, hh, hm⟩
      exact ⟨hw.trans hnow.weekday, hh.trans hnow.hour, hm.trans hnow.minute⟩
  refine ⟨r, hsync, hiff, fun hsame hnot => ?_⟩
  have honTime := hiff.mpr hsame
  unfold notPassed at hnot
  rw [honTime.hour, honTime.minute] at hnot
  omega

end Synced

/-! At noon the menu is opened, and then nobody touches it.  The idle time is over an hour later, and
the pass before the sleep still goes by noon. -/

/-- The flash of the run: the door opens at 18:00 on every day. -/
def sixNvs : Nvs := storedNvs { mode := 1, hour := 18 } { mode := 3 }

/-- The inputs of the run: SELECT on screen 000, and the idle time is over at reading 26. -/
def idleMenuEnv : Env := pressing [(15, .select)] fun n =>
  if n < 26 then { secondsEnv n with rtc := noonMonday }
  else { millis := UInt32.ofNat n * 1000 + 4000000, rtc := monday 13 7 0 }

/-- The device on screen 100. -/
def menuOpened : Reached idleMenuEnv { nvs := sixNvs } .awake :=
  Reached.loop (.powerOn 20 (by decide +kernel)) 20 (by decide +kernel)

/-- The device after the idle time. -/
def menuAsleep : Reached idleMenuEnv { nvs := sixNvs } .asleep :=
  menuOpened.loop 20 (by decide +kernel)

theorem validRtc_idleMenuEnv (n : Nat) : ValidRtc (idleMenuEnv n).rtc := by
  have hnoon : ValidRtc noonMonday := by
    simp only [ValidRtc, ValidTime, ValidDate, ValidMonth]
    decide
  have hlate : ValidRtc (monday 13 7 0) := by
    simp only [ValidRtc, ValidTime, ValidDate, ValidMonth]
    decide
  by_cases hn : n < 26
  · simpa [idleMenuEnv, pressing, hn] using hnoon
  · simpa [idleMenuEnv, pressing, hn] using hlate

/-- What the pass at power-on has found. -/
def noonPass : Moment := (lastPass menuOpened.world.trace).get (by decide +kernel)

/-- What the pass before the sleep has found. -/
def stalePass : Moment := (lastPass menuAsleep.world.trace).get (by decide +kernel)

theorem pass_time_iff_menuOpened :
    .call (.setNextAlarm .posUp { mode := 1, hour := 18 }) noonPass ∈ menuOpened.world.trace ∧
      Historically (PassTimely idleMenuEnv) menuOpened.world.trace := by
  have htimely := pass_time_iff makesTime_civilTime validRtc_idleMenuEnv menuOpened.powered.lossy
  exact ⟨by decide +kernel, htimely⟩

/-- A pass goes by the weekday and the minute that the RTC shows. -/
def PassOnTime [TimeLib] (ω : Env) (tr : List Event) : Prop :=
  ∀ pos a m tl, tr = .call (.setNextAlarm pos a) m :: tl → OnTime m.clk.tNow (ω m.tick).rtc

/-- The pass at 13:07 goes by 12:00. -/
theorem pass_time_stale :
    ¬ ∀ (ω : Env) (w₀ : World) (p : Phase) (w : World), (∀ n, ValidRtc (ω n).rtc) →
      LossyRun ω w₀ (p, w) → Historically (PassOnTime ω) w.trace := by
  intro hall
  have hpasses := hall _ _ _ _ validRtc_idleMenuEnv menuAsleep.powered.lossy
  have hmem : .call (.setNextAlarm .posUp { mode := 1, hour := 18 }) stalePass ∈
      menuAsleep.world.trace := by decide +kernel
  have honTime := hpasses.of_mem hmem _ _ _ _ rfl
  have hhour : TimeLib.hour stalePass.clk.tNow = 12 := by decide +kernel
  have hshown : (idleMenuEnv stalePass.tick).rtc.hours = 13 := by decide +kernel
  have heq := honTime.hour
  rw [hhour, hshown] at heq
  exact absurd heq (by decide)

end Eggvault.Spec
