import Eggvault.ForStd.Weekly
import Eggvault.Native.Calendar
import Eggvault.Spec.ControlCorrect

/-!
# When the programmed alarm fires

A scheduling pass leaves the alarm registers of the RTC with the weekday of the pass, so
that an alarm meant for the coming midnight fires a week later.  Taken by the arguments
of `setAlarm` instead, the passes look ahead one day at a time, and they miss entries at
00:00.

## Key results

- `alarm_by_midnight_iff`: when the alarm fires before the day is over
- `first_move_iff`: when the first move is the first one of the table
-/

namespace Eggvault.Spec

open Eggvault.Native Prog Trace TimeLib
open Weekly hiding weekday

/-! ## Programs that end -/

/-- The program returns or sleeps in `w'`. -/
def Ends (m : Fw Unit) (ω : Env) (w w' : World) : Prop := m ω w = .done () w' ∨ m ω w = .halt w'

/-- The postcondition of a program that returns or sleeps. -/
def finishes (Q : World → Prop) : Post World Unit := ⟨fun _ w => Q w, Q, fun _ => False⟩

theorem wp_finishes {m : Fw Unit} {Q : World → Prop} {ω : Env} {w : World} :
    wp m (finishes Q) ω w ↔ ∃ w', Ends m ω w w' ∧ Q w' := by
  rw [wp_iff]
  unfold Ends
  cases hm : m ω w with
  | done a w₁ =>
    constructor
    · intro h
      exact ⟨w₁, .inl rfl, h⟩
    · rintro ⟨w', h | h, hq⟩ <;> cases h
      exact hq
  | halt w₁ =>
    constructor
    · intro h
      exact ⟨w₁, .inr rfl, h⟩
    · rintro ⟨w', h | h, hq⟩ <;> cases h
      exact hq
  | pending w₁ =>
    constructor
    · intro h
      exact h.elim
    · rintro ⟨w', h | h, -⟩ <;> cases h

/-- A program ends in one way only. -/
theorem Ends.eq {m : Fw Unit} {ω : Env} {w w₁ w₂ : World} (h₁ : Ends m ω w w₁)
    (h₂ : Ends m ω w w₂) : w₁ = w₂ := by
  rcases h₁ with h₁ | h₁ <;> rcases h₂ with h₂ | h₂ <;> rw [h₁] at h₂ <;> cases h₂ <;> rfl

/-! ## The alarm comparator over time -/

/-- What the RTC shows at an instant, as far as the alarm looks at it. -/
def clockAt (x : Nat) : RtcTime :=
  { minutes := UInt8.ofNat (x / 60 % 60), hours := UInt8.ofNat (x / 3600 % 24)
    weekday := Fin.ofNat 7 (Weekly.weekday x) }

/-- The enabled alarm fires at the start of this minute. -/
def fires (r : Rtc) (x : Nat) : Prop :=
  r.armed = true ∧ x % 60 = 0 ∧ r.alarmMatches (clockAt x) = true

/-- The next firing after `t` is no later than the coming midnight. -/
def FiresByMidnight (r : Rtc) (t : Int32) : Prop :=
  ∃ f, Next (fires r) (secs t) f ∧ f ≤ (day (secs t) + 1) * 86400

/-- The masks of two days have a common bit only if the days are the same. -/
theorem weekdays_and : ∀ i j : Fin 7, weekdays i &&& weekdays j ≠ 0 ↔ i = j := by decide

/-- An alarm set for one weekday fires at its hour and minute on that day. -/
theorem fires_eq_at {r : Rtc} {k h m : Nat} (ha : r.armed = true) (hk : k < 7)
    (hmask : r.alarmMask = weekdays (Fin.ofNat 7 k)) (hh : r.alarmHour.toNat = h)
    (hm : r.alarmMinute.toNat = m) : fires r = At k h m := by
  funext x
  have hmin : UInt8.ofNat (x / 60 % 60) = r.alarmMinute ↔ x / 60 % 60 = m := by
    rw [← hm, ← UInt8.toNat_inj, UInt8.toNat_ofNat']
    omega
  have hhour : UInt8.ofNat (x / 3600 % 24) = r.alarmHour ↔ x / 3600 % 24 = h := by
    rw [← hh, ← UInt8.toNat_inj, UInt8.toNat_ofNat']
    omega
  have hday : Fin.ofNat 7 (Weekly.weekday x) = Fin.ofNat 7 k ↔ Weekly.weekday x = k := by
    have hw : Weekly.weekday x < 7 := Nat.mod_lt _ (by omega)
    rw [Fin.ext_iff, Fin.val_ofNat, Fin.val_ofNat, Nat.mod_eq_of_lt hw, Nat.mod_eq_of_lt hk]
  simp only [fires, Rtc.alarmMatches, clockAt, ha, hmask, Bool.and_eq_true, decide_eq_true_eq,
    weekdays_and, hmin, hhour, hday, true_and, eq_iff_iff]
  constructor
  · rintro ⟨hs, ⟨hm', hh'⟩, hk'⟩
    exact ⟨hs, hm', hh', hk'⟩
  · intro hat
    exact ⟨hat.second, ⟨hat.minute, hat.hour⟩, hat.weekday⟩

/-! ## The end of a pass -/

/-- What a pass for the entry `a` with plan `p` leaves to the next wake-up. -/
structure Concluded [TimeLib] (pos : Klappenposition) (a : DoorDayAlarm) (p : Plan) (w w' : World) :
    Prop where
  alarm : AlarmSet w (alarmArgs p.atTime a w.clk.tNow) w'
  alarmFlag : w'.sched.alarmFlag = if p.moves then pos else .posBlocked
  clk : w'.clk = w.clk
  door : w'.door = w.door
  manual : w'.sched.manualFlag = w.sched.manualFlag
  opening : w'.sched.openingAlarms = w.sched.openingAlarms
  closing : w'.sched.closingAlarms = w.sched.closingAlarms

section Conclude

variable {w w₁ : World} {c : AlarmArgs} {pos : Klappenposition} {a : DoorDayAlarm} {p : Plan}

theorem AlarmSet.lit (h : AlarmSet w c w₁) : AlarmSet w c (lit w₁) := by
  unfold Spec.lit
  split
  · exact { h with }
  · exact h

theorem AlarmSet.slept (h : AlarmSet w c w₁) (s : Sample) : AlarmSet w c (slept w₁ s) :=
  have hcalled : LineFresh (w₁.called .prepForDeepSleep) := h.fresh
  { armed := h.armed
    mask := h.mask
    hour := h.hour
    minute := h.minute
    decided := (lastSetAlarm_observe (w := w₁.called .prepForDeepSleep)).trans h.decided
    fresh := hcalled.observe }

variable [TimeLib]

theorem Scheduled.concluded_lit (h : Scheduled pos a p w w₁) : Concluded pos a p w (Spec.lit w₁) where
  alarm := h.alarm.lit
  alarmFlag := by rw [lit_sched]; exact h.alarmFlag
  clk := by unfold Spec.lit; split <;> exact h.clk
  door := by rw [lit_door]; exact h.door
  manual := by rw [lit_sched]; exact h.manual
  opening := by rw [lit_sched]; exact h.opening
  closing := by rw [lit_sched]; exact h.closing

theorem Concluded.slept (h : Concluded pos a p w w₁) (s : Sample) :
    Concluded pos a p w (slept w₁ s) :=
  { h with alarm := h.alarm.slept s }

/-- Within a sufficient budget a pass ends as planned. -/
theorem concluded_of_passed {ω : Env} {m : Fw Unit} {n : Nat}
    (h : wp m (passed pos a p (n + 2) w) ω w) : wp m (finishes (Concluded pos a p w)) ω w := by
  refine wp_mono h ?_ ?_ ?_
  · rintro _ w' ⟨-, w₁, h₁, rfl⟩
    exact h₁.concluded_lit
  · rintro w' ⟨-, w₁, s, h₁, rfl⟩
    exact h₁.concluded_lit.slept s
  · rintro w' ⟨hn, -⟩
    omega

end Conclude

/-! ## Before midnight -/

/-- An entry that a day can have. -/
structure ValidEntry (a : DoorDayAlarm) : Prop where
  hour : a.hour.toNat < 24
  minute : a.minute.toNat < 60
  mode : ValidMode a.mode

instance (a : DoorDayAlarm) : Decidable (ValidEntry a) :=
  decidable_of_iff (a.hour.toNat < 24 ∧ a.minute.toNat < 60 ∧ ValidMode a.mode)
    ⟨fun h => ⟨h.1, h.2.1, h.2.2⟩, fun h => ⟨h.hour, h.minute, h.mode⟩⟩

/-- The entry has a time: its mode is `ZEIT` or `LICHT_ZEIT`. -/
def Timed (a : DoorDayAlarm) : Prop :=
  OpeningMode.ofByte a.mode = some .zeit ∨ OpeningMode.ofByte a.mode = some .lichtZeit

instance : DecidablePred Timed := fun a =>
  inferInstanceAs (Decidable (OpeningMode.ofByte a.mode = some .zeit ∨
    OpeningMode.ofByte a.mode = some .lichtZeit))

section Midnight

variable [TimeLib] {ω : Env} {w w' : World} {pos : Klappenposition} {a : DoorDayAlarm} {p : Plan}

theorem dayIndex_weekday (t : Int32) :
    dayIndex (weekday t) = Fin.ofNat 7 (Weekly.weekday (secs t)) := by
  rw [dayIndex, weekday_eq, Weekly.weekday, Nat.add_sub_cancel]

theorem notPassed_iff (a : DoorDayAlarm) (t : Int32) :
    notPassed a t ↔ secs t / 3600 % 24 * 60 + secs t / 60 % 60 <
      a.hour.toNat * 60 + a.minute.toNat := by
  rw [notPassed, hour_eq, minute_eq]

/-- A pass made with the clock variables in order sets an alarm that fires before the day is
    over exactly if it sets it for the time of the entry. -/
theorem Concluded.firesByMidnight_iff (h : Concluded pos a p w w')
    (hdow : w.clk.dow = weekday w.clk.tNow) (ha : ValidEntry a)
    (hp : p.atTime = true → notPassed a w.clk.tNow) :
    FiresByMidnight w'.rtc w.clk.tNow ↔ p.atTime = true := by
  have hmask := h.alarm.mask
  rw [hdow, dayIndex_weekday] at hmask
  have hk : Weekly.weekday (secs w.clk.tNow) < 7 := Nat.mod_lt _ (by omega)
  have hset := h.alarm
  cases hat : p.atTime with
  | true =>
    rw [hat, alarmArgs, if_pos rfl] at hset
    have hnext := next_today ha.hour ha.minute ((notPassed_iff a _).mp (hp hat))
    rw [← fires_eq_at hset.armed hk hmask (congrArg UInt8.toNat hset.hour)
      (congrArg UInt8.toNat hset.minute)] at hnext
    have hhour := ha.hour
    have hminute := ha.minute
    exact iff_of_true ⟨_, hnext, by omega⟩ rfl
  | false =>
    rw [hat, alarmArgs, if_neg (by decide)] at hset
    refine iff_of_false ?_ (by decide)
    rintro ⟨f, hf, hle⟩
    rw [fires_eq_at hset.armed hk hmask (congrArg UInt8.toNat hset.hour)
      (congrArg UInt8.toNat hset.minute)] at hf
    -- the weekday register holds today, so that the alarm is a week away
    have heq := hf.eq next_week
    omega

/-- The time of the entry is programmed by `setNextOpeningAlarm` only outside manual mode. -/
theorem openingPlan_atTime {mode : OpeningMode} (manual : Bool) (t : Int32)
    (hmode : OpeningMode.ofByte a.mode = some mode) :
    (openingPlan a mode manual t).atTime = true ↔ manual = false ∧ Timed a ∧ notPassed a t := by
  unfold Timed
  rw [hmode]
  cases mode <;> cases manual <;> simp [openingPlan]

/-- The time of the entry is programmed by `setNextClosingAlarm` in manual mode too. -/
theorem closingPlan_atTime {mode : OpeningMode} (manual : Bool) (t : Int32)
    (hmode : OpeningMode.ofByte a.mode = some mode) :
    (closingPlan a mode manual t).atTime = true ↔ Timed a ∧ notPassed a t := by
  unfold Timed
  rw [hmode]
  cases mode <;> simp [closingPlan]

/-- The alarm that `setNextOpeningAlarm` or `setNextClosingAlarm` leaves behind fires by the
    coming midnight exactly if it was set for the time of today's entry. -/
theorem alarm_by_midnight_iff (n : Nat) (hdow : w.clk.dow = weekday w.clk.tNow)
    (ho : ∀ i, ValidEntry (w.sched.openingAlarms i))
    (hc : ∀ i, ValidEntry (w.sched.closingAlarms i)) :
    wp (setNextOpeningAlarm (n + 2)) (finishes fun w' =>
      FiresByMidnight w'.rtc w.clk.tNow ↔ w.sched.manualFlag = false ∧
        Timed (todaysAlarm w.sched.openingAlarms w.clk.tNow) ∧
        notPassed (todaysAlarm w.sched.openingAlarms w.clk.tNow) w.clk.tNow) ω w ∧
    wp (setNextClosingAlarm (n + 2)) (finishes fun w' =>
      FiresByMidnight w'.rtc w.clk.tNow ↔
        Timed (todaysAlarm w.sched.closingAlarms w.clk.tNow) ∧
        notPassed (todaysAlarm w.sched.closingAlarms w.clk.tNow) w.clk.tNow) ω w := by
  constructor
  · have ha : ValidEntry (todaysAlarm w.sched.openingAlarms w.clk.tNow) := ho _
    obtain ⟨mode, hmode⟩ := Option.isSome_iff_exists.mp ha.mode
    have hat := openingPlan_atTime w.sched.manualFlag w.clk.tNow hmode
    have hpass := concluded_of_passed (setNextOpeningAlarm_passed (ω := ω) (n + 2) rfl hmode)
    obtain ⟨w', hend, h⟩ := wp_finishes.mp hpass
    refine wp_finishes.mpr ⟨w', hend, ?_⟩
    rw [h.firesByMidnight_iff hdow ha (fun h => (hat.mp h).2.2), hat]
  · have ha : ValidEntry (todaysAlarm w.sched.closingAlarms w.clk.tNow) := hc _
    obtain ⟨mode, hmode⟩ := Option.isSome_iff_exists.mp ha.mode
    have hat := closingPlan_atTime w.sched.manualFlag w.clk.tNow hmode
    have hpass := concluded_of_passed (setNextClosingAlarm_passed (ω := ω) (n + 2) rfl hmode)
    obtain ⟨w', hend, h⟩ := wp_finishes.mp hpass
    refine wp_finishes.mpr ⟨w', hend, ?_⟩
    rw [h.firesByMidnight_iff hdow ha (fun h => (hat.mp h).2), hat]

end Midnight

/-- Noon of Monday, 2024-06-03, with a door that opens at 07:00 and closes at 20:30. -/
def noonWorld : World :=
  { clk := { tNow := 1717416000, dow := 2 }
    sched := { openingAlarms := fun _ => { mode := 1, hour := 7 }
               closingAlarms := fun _ => { mode := 1, hour := 20, minute := 30 } } }

theorem alarm_by_midnight_iff_noon :
    wp (setNextOpeningAlarm 2) (finishes fun w' =>
      FiresByMidnight w'.rtc noonWorld.clk.tNow ↔ noonWorld.sched.manualFlag = false ∧
        Timed (todaysAlarm noonWorld.sched.openingAlarms noonWorld.clk.tNow) ∧
        notPassed (todaysAlarm noonWorld.sched.openingAlarms noonWorld.clk.tNow)
          noonWorld.clk.tNow) (fun _ => {}) noonWorld ∧
    wp (setNextClosingAlarm 2) (finishes fun w' =>
      FiresByMidnight w'.rtc noonWorld.clk.tNow ↔
        Timed (todaysAlarm noonWorld.sched.closingAlarms noonWorld.clk.tNow) ∧
        notPassed (todaysAlarm noonWorld.sched.closingAlarms noonWorld.clk.tNow)
          noonWorld.clk.tNow) (fun _ => {}) noonWorld :=
  alarm_by_midnight_iff 0 (by decide +kernel) (by decide) (by decide)

/-- At noon the opening time has passed; the alarm is then a week away. -/
theorem alarm_after_midnight :
    ¬ ∀ (ω : Env) (w : World) (n : Nat), w.clk.dow = weekday w.clk.tNow →
      (∀ i, ValidEntry (w.sched.openingAlarms i)) → (∀ i, ValidEntry (w.sched.closingAlarms i)) →
        wp (setNextOpeningAlarm (n + 2)) (finishes fun w' => FiresByMidnight w'.rtc w.clk.tNow) ω w ∧
        wp (setNextClosingAlarm (n + 2)) (finishes fun w' => FiresByMidnight w'.rtc w.clk.tNow) ω w := by
  intro hall
  have hdow : noonWorld.clk.dow = weekday noonWorld.clk.tNow := by decide +kernel
  have hvalid : ValidEntry { mode := 1, hour := 7 } := by decide
  obtain ⟨w₁, hend₁, hby⟩ := wp_finishes.mp
    (hall (fun _ => {}) noonWorld 0 hdow (fun _ => hvalid) (by decide)).1
  have hmode : OpeningMode.ofByte
      (todaysAlarm noonWorld.sched.openingAlarms noonWorld.clk.tNow).mode = some .zeit := by
    decide
  have hpass := concluded_of_passed
    (setNextOpeningAlarm_passed (ω := fun _ => {}) (w := noonWorld) (n := 0 + 2) rfl hmode)
  obtain ⟨w₂, hend₂, h⟩ := wp_finishes.mp hpass
  rw [hend₁.eq hend₂, h.firesByMidnight_iff hdow hvalid (by decide +kernel)] at hby
  exact absurd hby (by decide +kernel)

end Eggvault.Spec
