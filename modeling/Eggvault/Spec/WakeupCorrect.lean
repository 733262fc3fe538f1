import Eggvault.Spec.RunCorrect

/-!
# What a wake-up acts on

Two facts about every run that a reset in between makes hard to see.  The threshold of a
light check is lost in deep sleep, so that a timer wake-up compares with 0 whatever was
configured.  The line of the RTC is released only when an alarm is set, so that an alarm
whose move ends in an error is handled again.

## Key results

- `light_threshold_restored_iff`: when a timer wake-up compares with the configured threshold
- `alarm_moves_once`: one move for each firing, as long as no such move fails
-/

namespace Eggvault.Spec

open Eggvault.Native Prog Trace

/-- Noon of Monday, 2024-06-03. -/
def noonMonday : RtcTime := { hours := 12, date := 3, month := 6, year := 2024, weekday := 1 }

/-- A flash with stored tables: the same two entries on every day. -/
def storedNvs (opening closing : DoorDayAlarm) : Nvs :=
  ((Nvs.put (Nvs.put KeyStore.empty .initNox 1) .initAlarm 1).put .openAlarms fun _ => opening).put
    .closeAlarms fun _ => closing

theorem storedModes_storedNvs {opening closing : DoorDayAlarm} (ho : ValidMode opening.mode)
    (hc : ValidMode closing.mode) : StoredModes (storedNvs opening closing) where
  opening := by
    intro t ht
    rw [storedNvs, nvs_get_put_of_ne _ _ (by decide), nvs_get_put_self _ _ (by decide)] at ht
    cases ht
    exact validModes_const ho
  closing := by
    intro t ht
    rw [storedNvs, nvs_get_put_self _ _ (by decide)] at ht
    cases ht
    exact validModes_const hc

/-! ## Light checks -/

section Light

variable [TimeLib] {ω : Env} {w₀ w : World} {p : Phase}

/-- On every timer wake-up of every run the light check is for the move armed last, and it
    compares with the threshold of that moment exactly if that was 0. -/
theorem light_threshold_restored_iff (hr : Run ω w₀ (p, w)) {pos : Klappenposition}
    {lux nextLux : UInt8} {tl : List Event} (hc : .lightCheck pos lux nextLux :: tl <:+ w.trace)
    (ht : onTimerWakeup tl = true) :
    ∃ configured snapshot, lastArmed tl = some (pos, configured, snapshot) ∧
      (nextLux = configured ↔ configured = 0) := by
  have hlight : LightOk (.lightCheck pos lux nextLux :: tl) :=
    (run_invariant hr).trace.light _ hc
  obtain ⟨hzero, ⟨configured, snapshot⟩, harmed⟩ := hlight pos lux nextLux tl rfl ht
  refine ⟨configured, snapshot, harmed, ?_⟩
  rw [hzero]
  exact eq_comm

end Light

/-! The door is down and opens by light from level 5 on.  The light is at level 2 when the
device goes to sleep and when the timer wakes it. -/

/-- The inputs of the run: the idle time is over at reading 14. -/
def duskEnv : Env := fun n =>
  { millis := if n < 14 then 0 else 5000000, milliVolts := 1000, rtc := noonMonday }

/-- The flash of the run. -/
def duskNvs : Nvs := storedNvs { mode := 0, lux := 5 } { mode := 3 }

/-- The device after its power-on. -/
def duskAwake : Reached duskEnv { nvs := duskNvs } .awake := .powerOn 20 (by decide +kernel)

/-- The device after the idle time. -/
def duskAsleep : Reached duskEnv { nvs := duskNvs } .asleep := duskAwake.loop 20 (by decide +kernel)

/-- The device after the first timer wake-up. -/
def duskPolled : Reached duskEnv { nvs := duskNvs } .asleep :=
  duskAsleep.wake 20 .timer (by decide +kernel) (by decide +kernel)

/-- The events before the check of the wake-up. -/
def beforeCheck : List Event := before (.lightCheck .posUp 2 0) duskPolled.world.trace

theorem check_duskPolled : .lightCheck .posUp 2 0 :: beforeCheck <:+ duskPolled.world.trace :=
  before_suffix (by decide +kernel)

theorem light_threshold_restored_iff_duskPolled :
    ∃ configured snapshot, lastArmed beforeCheck = some (.posUp, configured, snapshot) ∧
      (0 = configured ↔ configured = 0) :=
  light_threshold_restored_iff duskPolled.run check_duskPolled (by decide +kernel)

/-- A threshold of 5 is read as 0 after the wake-up. -/
theorem light_threshold_lost :
    ¬ ∀ (ω : Env) (w₀ : World) (p : Phase) (w : World), Run ω w₀ (p, w) →
      ∀ (pos : Klappenposition) (lux nextLux : UInt8) (tl : List Event),
        .lightCheck pos lux nextLux :: tl <:+ w.trace → onTimerWakeup tl = true →
          ∃ snapshot, lastArmed tl = some (pos, nextLux, snapshot) := by
  intro hall
  obtain ⟨snapshot, harmed⟩ :=
    hall duskEnv _ _ _ duskPolled.run .posUp 2 0 _ check_duskPolled (by decide +kernel)
  have hfive : lastArmed beforeCheck = some (.posUp, 5, noonMonday) := by decide +kernel
  rw [hfive] at harmed
  cases harmed

/-! ## Alarm moves -/

section Alarm

variable [TimeLib] {ω : Env} {w₀ w : World} {p : Phase}

/-- In every run in which no alarm move ends in an error, a move ordered by the alarm is the
    first one since the alarm fired. -/
theorem alarm_moves_once (hr : Run ω w₀ (p, w)) (hm : StoredModes w₀.nvs)
    (hf : NoFailure w.trace) : Historically OnceAt w.trace :=
  (run_invariant hr).trace.once hm hf

end Alarm

/-- A trace without a failed status check has no failed alarm move. -/
theorem noFailure_of_notMem {tr : List Event} (h : .status true ∉ tr) : NoFailure tr := by
  rintro t ht ⟨tl, rfl, -⟩
  exact h (ht.subset List.mem_cons_self)

/-! The door is up and closes at 20:30 by the alarm, which `loop` sees.  In one run it gets
stuck, and `loop` tries again; in the other it reaches the bottom. -/

/-- The flash of both runs. -/
def eveningNvs : Nvs := storedNvs { mode := 3 } { mode := 1, hour := 20, minute := 30 }

/-- The inputs of a run: the alarm fires at reading 12, and `step` milliseconds pass between
    two readings. -/
def eveningEnv (endUp endLow : Nat → Bool) (step : Nat) : Env := fun n =>
  { endUp := endUp n, endLow := endLow n, millis := UInt32.ofNat (n * step), rtc := noonMonday
    fired := if n = 12 then some { noonMonday with hours := 20, minutes := 30 } else none }

/-- The door gets stuck at once. -/
def stuckEnv : Env := eveningEnv (fun n => decide (n < 13)) (fun _ => true) 40000

/-- The device after its power-on. -/
def stuckAwake : Reached stuckEnv { nvs := eveningNvs } .awake := .powerOn 12 (by decide +kernel)

/-- The device after the failed move. -/
def stuckOnce : Reached stuckEnv { nvs := eveningNvs } .awake :=
  stuckAwake.loop 12 (by decide +kernel)

/-- The device after the next call of `loop`. -/
def stuckTwice : Reached stuckEnv { nvs := eveningNvs } .awake :=
  stuckOnce.loop 12 (by decide +kernel)

/-- The door goes down. -/
def closingEnv : Env := eveningEnv (fun n => decide (n < 17)) (fun n => decide (n < 17)) 2000

/-- The device after its power-on. -/
def closingAwake : Reached closingEnv { nvs := eveningNvs } .awake :=
  .powerOn 12 (by decide +kernel)

/-- The device after the move. -/
def closed : Reached closingEnv { nvs := eveningNvs } .awake :=
  closingAwake.loop 12 (by decide +kernel)

theorem storedModes_eveningNvs : StoredModes eveningNvs :=
  storedModes_storedNvs (by decide) (by decide)

theorem alarm_moves_once_closed :
    .alarmMove .posDown 13 ∈ closed.world.trace ∧ Historically OnceAt closed.world.trace := by
  refine ⟨by decide +kernel, ?_⟩
  have hf : NoFailure closed.world.trace := noFailure_of_notMem (by decide +kernel)
  exact alarm_moves_once closed.run storedModes_eveningNvs hf

/-- The firing of 20:30 moves a stuck door twice. -/
theorem alarm_moves_again :
    ¬ ∀ (ω : Env) (w₀ : World) (p : Phase) (w : World), Run ω w₀ (p, w) →
      StoredModes w₀.nvs → Historically OnceAt w.trace := by
  intro hall
  have h := hall stuckEnv _ _ _ stuckTwice.run storedModes_eveningNvs
  have hmem : .alarmMove .posDown 23 ∈ stuckTwice.world.trace := by decide +kernel
  have hspent : alarmSpent (before (.alarmMove .posDown 23) stuckTwice.world.trace) = true := by
    decide +kernel
  have hfresh := h.of_mem hmem .posDown 23 _ rfl
  rw [hspent] at hfresh
  cases hfresh

end Eggvault.Spec
