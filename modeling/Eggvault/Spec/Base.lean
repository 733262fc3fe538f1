import Eggvault.Spec.Events

/-!
# The invariant between two statements

`Base` holds of the device whenever no motor loop is running: its trace is safe,
the motor is at rest, and the globals agree with what flash holds.  Its parameter
`valid` stands for the assumption that the device was powered on with valid modes in
flash; what depends on the modes is stated under it.
-/

namespace Eggvault.Spec

open Eggvault.Native Trace Prog

/-! ## Flash -/

@[simp] theorem nvs_get_put_of_ne (m : Nvs) {k k' : NvsKey} (v : k.Value) (h : k' ≠ k) :
    (m.put k v).get k' = m.get k' := KeyStore.get_put_of_ne m v h

@[simp] theorem nvs_get_put_self (m : Nvs) {k : NvsKey} (v : k.Value) (h : k.fits = true) :
    (m.put k v).get k = some v := KeyStore.get_put_self m v h

/-- The key of the last position is too long for NVS: nothing is ever found under it. -/
theorem nvs_get_lastMovePosition (m : Nvs) : m.get .lastMovePosition = none :=
  KeyStore.get_of_refused m (by decide)

/-! ## Modes -/

/-- A mode byte is one of the four enumerators. -/
def ValidMode (b : UInt8) : Prop := (OpeningMode.ofByte b).isSome = true

instance (b : UInt8) : Decidable (ValidMode b) := inferInstanceAs (Decidable (_ = _))

/-- Every entry of a table has a mode. -/
def ValidModes (table : WeekTable) : Prop := ∀ i, ValidMode (table i).mode

/-- The tables in flash, if there are any, are valid. -/
structure StoredModes (nvs : Nvs) : Prop where
  opening : ∀ t, nvs.get .openAlarms = some t → ValidModes t
  closing : ∀ t, nvs.get .closeAlarms = some t → ValidModes t

/-! ## Invariant -/

/-- A timer wake-up is enabled only together with a move that was armed last. -/
def LightSync (w : World) : Prop :=
  w.timer.isSome = true → w.sched.ldrFlag = .posUp ∨ w.sched.ldrFlag = .posDown →
    ∃ v, lastArmed w.trace = some (w.sched.ldrFlag, v)

/-- The invariant of the device while the motor is at rest. -/
structure Base (valid : Prop) (w : World) : Prop where
  trace : TraceOk valid w.trace
  fwd : w.pins.fwd = false
  back : w.pins.back = false
  levels : motorLevels w.trace = (false, false)
  rest : inMotorLoop w.trace = false
  held : w.pins.held ≠ some false
  light : LightSync w
  nox : w.sched.fInitNox = (w.nvs.get .initNox).getD 0
  flag : w.sched.fInitFlag = (w.nvs.get .initFlag).getD 0
  unset : w.sched.fInitFlag = 0 →
    w.sched.ldrFlag = .posBlocked ∧ w.sched.alarmFlag = .posBlocked ∧ w.sched.ramCounter = 0
  counter : w.sched.ramCounter ≤ 15
  moved : w.sched.fInitLastMove ≠ 0 → (w.nvs.get .initLastMove).getD 0 ≠ 0
  unmoved : (w.nvs.get .initLastMove).getD 0 = 0 →
    w.door.lastMove = 0 ∧ w.door.lastDoorPosition = .posBlocked
  lastMove : (w.nvs.get .initLastMove).getD 0 ≠ 0 →
    (w.nvs.get .lastMove).getD 0 = w.door.lastMove
  opening : valid → ValidModes w.sched.openingAlarms
  closing : valid → ValidModes w.sched.closingAlarms
  editO : valid → ValidMode w.menu.modeO
  editC : valid → ValidMode w.menu.modeC
  stored : valid → StoredModes w.nvs

/-- The RTC line is high only for a firing that has not led to a move yet. -/
def LineFresh (w : World) : Prop := w.rtc.clkInt = true → alarmSpent w.trace = false

/-- The error flag in RAM is the one that the next boot would read back. -/
def ErrSync (w : World) : Prop :=
  w.sched.fInitNox ≠ 0 → (w.nvs.get .errorFlag).getD .noError = w.door.errorFlag

/-! ## The passing of time -/

section Observe

variable {valid : Prop} {w : World} {s : Sample}

/-- A reading adds at most a firing to the trace. -/
theorem observe_trace (w : World) (s : Sample) :
    ((w.observe s).trace = w.trace ∧ (w.observe s).rtc.clkInt = w.rtc.clkInt) ∨
      ∃ t, (w.observe s).trace = .alarmFired t :: w.trace := by
  simp only [World.observe]
  cases w.firing s with
  | none => exact .inl ⟨rfl, by simp⟩
  | some t => exact .inr ⟨t, rfl⟩

theorem observe_clkInt (h : w.rtc.clkInt = true) : (w.observe s).rtc.clkInt = true := by
  simp only [World.observe, h, Bool.true_or]

/-- A property that a firing keeps is kept by a reading. -/
theorem observe_keeps {P : List Event → Prop} (hP : ∀ t, P w.trace → P (.alarmFired t :: w.trace))
    (h : P w.trace) : P (w.observe s).trace := by
  rcases observe_trace w s with ⟨heq, -⟩ | ⟨t, heq⟩
  · rw [heq]; exact h
  · rw [heq]; exact hP t h

/-- A reading extends the trace by what a firing may be. -/
theorem extends_observe {p : Event → Bool} {tr : List Event} (h : Extends p tr w.trace)
    (hp : ∀ t, p (.alarmFired t) = true) (s : Sample) : Extends p tr (w.observe s).trace :=
  observe_keeps (P := fun t => Extends p tr t) (fun t h => h.cons (hp t)) h

theorem lastArmed_observe : lastArmed (w.observe s).trace = lastArmed w.trace :=
  observe_keeps (P := fun tr => lastArmed tr = lastArmed w.trace) (fun _ h => h) rfl

theorem lastSetAlarm_observe : lastSetAlarm (w.observe s).trace = lastSetAlarm w.trace :=
  observe_keeps (P := fun tr => lastSetAlarm tr = lastSetAlarm w.trace) (fun _ h => h) rfl

theorem onTimerWakeup_observe : onTimerWakeup (w.observe s).trace = onTimerWakeup w.trace :=
  observe_keeps (P := fun tr => onTimerWakeup tr = onTimerWakeup w.trace) (fun _ h => h) rfl

theorem Quiet.observe (w : World) (s : Sample) : Quiet w.trace (w.observe s).trace :=
  observe_keeps (P := Quiet w.trace) (fun _ h => h.cons rfl) (.refl _)

/-- The invariant looks at the trace in five places only, and a quiet stretch keeps them. -/
theorem Base.of_quiet {tr : List Event} (h : Base valid w) (hq : Quiet w.trace tr)
    (hl : lastArmed tr = lastArmed w.trace) : Base valid { w with trace := tr } :=
  { h with
    trace := hq.ok h.trace
    levels := hq.levels.trans h.levels
    rest := hq.rest.trans h.rest
    light := by
      intro ht hf
      show ∃ v, lastArmed tr = _
      rw [hl]
      exact h.light ht hf }

theorem Base.observe (h : Base valid w) : Base valid (w.observe s) :=
  { h.of_quiet (.observe w s) lastArmed_observe with }

/-- A recorded call says nothing about the motor, the light or the alarm. -/
theorem Quiet.called (w : World) (f : Callee) : Quiet w.trace (w.called f).trace := .of_cons _ rfl

theorem Base.called (h : Base valid w) (f : Callee) : Base valid (w.called f) :=
  h.of_quiet (.called w f) rfl

theorem LineFresh.observe (h : LineFresh w) : LineFresh (w.observe s) := by
  intro hc
  rcases observe_trace w s with ⟨heq, hline⟩ | ⟨t, heq⟩
  · rw [heq]; exact h (hline ▸ hc)
  · rw [heq]; rfl

end Observe

/-! ## Stores -/

/-- Storing the error flag touches nothing that the invariant looks at. -/
theorem Base.putError {valid : Prop} {w : World} (h : Base valid w) (e : ErrorCode) :
    Base valid { w with nvs := w.nvs.put .errorFlag e } := by
  have hget : ∀ k, k ≠ .errorFlag → (w.nvs.put .errorFlag e).get k = w.nvs.get k :=
    fun k hk => nvs_get_put_of_ne _ _ hk
  exact
    { h with
      nox := by rw [hget _ (by decide)]; exact h.nox
      flag := by rw [hget _ (by decide)]; exact h.flag
      moved := by rw [hget _ (by decide)]; exact h.moved
      unmoved := by rw [hget _ (by decide)]; exact h.unmoved
      lastMove := by rw [hget _ (by decide), hget _ (by decide)]; exact h.lastMove
      stored := fun hv =>
        { opening := by rw [hget _ (by decide)]; exact (h.stored hv).opening
          closing := by rw [hget _ (by decide)]; exact (h.stored hv).closing } }

/-! ## Deep sleep -/

/-- The device after `PREP_FOR_DEEP_SLEEP`. -/
def slept (w : World) (s : Sample) : World :=
  let c := if w.sched.ramCounter > 15 then 15 else w.sched.ramCounter
  { (w.called .prepForDeepSleep).observe s with
    pins := if w.pins.ledPad then { w.pins with held := some true } else w.pins
    sched := { w.sched with ramCounter := c }
    rtc := { (w.observe s).rtc with ram := packRam c w.sched.ldrFlag w.sched.alarmFlag } }

section Sleep

variable {ω : Env} {w : World} {post : Post World Unit}

@[simp] theorem wp_writeValuesToFlash :
    wp writeValuesToFlash post ω w ↔
      post.done () { w with
        sched := { w.sched with
          ramCounter := if w.sched.ramCounter > 15 then 15 else w.sched.ramCounter }
        rtc := { w.rtc with ram := packRam (if w.sched.ramCounter > 15 then 15
          else w.sched.ramCounter) w.sched.ldrFlag w.sched.alarmFlag } } := by
  simp only [writeValuesToFlash, wp_bind, wp_get, wp_when, wp_modify]
  by_cases h : w.sched.ramCounter > 15
  · simp only [h, if_true, true_implies, not_true_eq_false, false_implies, and_true]
  · simp only [h, if_false, true_implies, not_false_eq_true, false_implies, true_and]

@[simp] theorem wp_prepForDeepSleep :
    wp prepForDeepSleep post ω w ↔ post.halt (slept w (ω w.tick)) := by
  simp only [prepForDeepSleep, wp_bind, wp_call, wp_digitalRead, wp_when, wp_ledHoldEn, wp_halt,
    wp_writeValuesToFlash, World.level, World.observe_pins, World.observe_sched, World.called]
  cases h : w.pins.ledPad with
  | true =>
    simp only [true_implies, not_true_eq_false, false_implies, and_true, slept, h, if_true]
    exact Iff.rfl
  | false =>
    simp only [Bool.false_eq_true, false_implies, not_false_eq_true, true_implies, true_and, slept,
      h, if_false]
    exact Iff.rfl

end Sleep

end Eggvault.Spec
