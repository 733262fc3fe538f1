import Eggvault.Spec.MotorCorrect
import Eggvault.Spec.SchedulerCorrect

/-!
# From a status check to the next call or to deep sleep

`statusabfrage`, `moveMotor` and the light check of a timer wake-up all end in one of
three ways, and one postcondition, `settled`, describes them: the call returns to an
interactive device (`Returned`), the device sleeps (`Asleep`), or it is still at work
with a safe trace.

## Key results

- `statusabfrage_settled`, `moveMotor_settled`, `timerWakeupHandling_settled`
-/

namespace Eggvault.Spec

open Eggvault.Native Prog Trace

/-! ## Postconditions -/

/-- In manual mode nothing is set up to open the door, and light is not set up to close it. -/
def ManualOk (w : World) : Prop :=
  w.sched.manualFlag = true → w.sched.ldrFlag = .posBlocked ∧ w.sched.alarmFlag ≠ .posUp

/-- The occasions on which the device may go to sleep. -/
def MaySleep : Dispatch → Prop
  | .wakeAlarm | .wakeTimer | .wakeLongPress => True
  | .loopIdle elapsed => elapsed ≥ noxSleepTime
  | .menu menuId action => menuId = 700 ∧ action = .select
  | _ => False

/-- Deep sleep has just been entered. -/
structure Asleep (valid : Prop) (w : World) : Prop where
  base : Base valid w
  fresh : valid → NoFailure w.trace → LineFresh w
  manual : ManualOk w
  dispatch : MaySleep w.dispatch
  noError : valid → w.door.errorFlag = .noError
  storedError : w.sched.fInitNox ≠ 0 → (w.nvs.get .errorFlag).getD .noError = .noError
  ram : w.rtc.ram = packRam w.sched.ramCounter w.sched.ldrFlag w.sched.alarmFlag
  pad : valid → w.sched.manualFlag = true → w.pins.held = some true
  dark : w.pins.held = none → w.pins.led = false

/-- A call has returned to the interactive device. -/
structure Returned (valid : Prop) (w : World) : Prop where
  base : Base valid w
  fresh : valid → NoFailure w.trace → LineFresh w
  active : w.menu.menuActive = true
  sync : ErrSync w
  manual : ManualOk w

/-- Where a call of the cycle ends. -/
def settled (valid : Prop) : Post World Unit where
  done := fun _ w => Returned valid w
  halt := Asleep valid
  pending := fun w => TraceOk valid w.trace

/-- What a status check or a move starts from.  The line may be stale only right after
    an alarm move that no status check has followed yet. -/
structure Ready (valid : Prop) (w : World) : Prop where
  base : Base valid w
  fresh : moveUnchecked w.trace = false → valid → NoFailure w.trace → LineFresh w
  maySleep : w.menu.menuActive = false → MaySleep w.dispatch

/-- The device once an error code is assigned. -/
def raised (w : World) (e : ErrorCode) : World :=
  { w with trace := .raised e :: w.trace, door := { w.door with errorFlag := e } }

/-- An error code does not stand in the way of a status check. -/
theorem Ready.raised {valid : Prop} {w : World} (hb : Base valid w)
    (hfresh : valid → NoFailure w.trace → LineFresh w)
    (hsleep : w.menu.menuActive = false → MaySleep w.dispatch) (e : ErrorCode) :
    Ready valid (raised w e) where
  base := { hb.of_quiet (.of_cons _ rfl) rfl with }
  fresh := fun _ hv hf => hfresh hv hf.tail
  maySleep := hsleep

/-! ## Going to sleep -/

section Sleep

variable {valid : Prop} {w w₁ : World} {s : Sample}

/-- With a counter that fits into its four bits the clamp does nothing. -/
theorem slept_eq (hc : w.sched.ramCounter ≤ 15) :
    slept w s = { (w.called .prepForDeepSleep).observe s with
      pins := if w.pins.ledPad then { w.pins with held := some true } else w.pins
      rtc := { (w.observe s).rtc with
        ram := packRam w.sched.ramCounter w.sched.ldrFlag w.sched.alarmFlag } } := by
  have hc' : ¬ w.sched.ramCounter > 15 := UInt8.not_lt.mpr hc
  simp only [slept, if_neg hc']
  rfl

/-- What has to hold before `PREP_FOR_DEEP_SLEEP`. -/
structure Drowsy (valid : Prop) (w : World) : Prop where
  base : Base valid w
  fresh : valid → NoFailure w.trace → LineFresh w
  manual : ManualOk w
  dispatch : MaySleep w.dispatch
  noError : valid → w.door.errorFlag = .noError
  storedError : w.sched.fInitNox ≠ 0 → (w.nvs.get .errorFlag).getD .noError = .noError
  pad : valid → w.sched.manualFlag = true → w.pins.ledPad = true

theorem ledPad_of_led {p : Pins} (hh : p.held ≠ some false) (hl : p.led = true) :
    p.ledPad = true := by
  unfold Pins.ledPad
  cases hp : p.held with
  | none => exact hl
  | some v =>
    cases v with
    | true => rfl
    | false => exact absurd hp hh

theorem Drowsy.asleep (h : Drowsy valid w) (s : Sample) : Asleep valid (slept w s) := by
  have hbase : Base valid ((w.called .prepForDeepSleep).observe s) := (h.base.called _).observe
  have hq := (Quiet.called w .prepForDeepSleep).trans (Quiet.observe (w.called .prepForDeepSleep) s)
  have hfresh : valid → NoFailure ((w.called .prepForDeepSleep).observe s).trace →
      LineFresh ((w.called .prepForDeepSleep).observe s) := by
    intro hv hf
    have hcalled : LineFresh (w.called .prepForDeepSleep) := h.fresh hv (hq.noFailure hf)
    exact hcalled.observe
  -- the pad is held exactly if its level is high
  rw [slept_eq h.base.counter]
  cases hp : w.pins.ledPad with
  | true =>
    exact
      { base := { hbase with fwd := h.base.fwd, back := h.base.back, held := by intro hh; cases hh }
        fresh := hfresh
        manual := h.manual
        dispatch := h.dispatch
        noError := h.noError
        storedError := h.storedError
        ram := rfl
        pad := fun _ _ => rfl
        dark := by intro hn; cases hn }
  | false =>
    exact
      { base := { hbase with fwd := h.base.fwd, back := h.base.back, held := h.base.held }
        fresh := hfresh
        manual := h.manual
        dispatch := h.dispatch
        noError := h.noError
        storedError := h.storedError
        ram := rfl
        pad := fun hv hm => by
          have hpad := h.pad hv hm
          rw [hp] at hpad
          cases hpad
        dark := by
          intro hn
          have hn' : w.pins.held = none := hn
          rw [Pins.ledPad, hn'] at hp
          exact hp }

end Sleep

/-! ## Passes -/

section Lit

variable (w : World)

@[simp] theorem lit_sched : (lit w).sched = w.sched := by unfold lit; split <;> rfl
@[simp] theorem lit_door : (lit w).door = w.door := by unfold lit; split <;> rfl
@[simp] theorem lit_menu : (lit w).menu = w.menu := by unfold lit; split <;> rfl
@[simp] theorem lit_nvs : (lit w).nvs = w.nvs := by unfold lit; split <;> rfl
@[simp] theorem lit_rtc : (lit w).rtc = w.rtc := by unfold lit; split <;> rfl
@[simp] theorem lit_trace : (lit w).trace = w.trace := by unfold lit; split <;> rfl
@[simp] theorem lit_dispatch : (lit w).dispatch = w.dispatch := by unfold lit; split <;> rfl

theorem lit_led {w : World} (h : w.sched.manualFlag = true) : (lit w).pins.led = true := by
  rw [lit, if_pos h]

end Lit

section Passes

variable {valid : Prop} {ω : Env} {w w₁ : World} {pos : Klappenposition} {lux : UInt8}
  {a : DoorDayAlarm} {p : Plan}

theorem Base.lit (h : Base valid w) : Base valid (lit w) := by
  unfold Spec.lit
  split
  · exact { h with }
  · exact h

/-- A pass keeps the invariant, if the light is set up only for the move armed last. -/
theorem Passing.base (hp : Passing pos lux w w₁) (hb : Base valid w)
    (hl : w₁.sched.ldrFlag = .posUp ∨ w₁.sched.ldrFlag = .posDown →
      ∃ v, lastArmed w₁.trace = some (w₁.sched.ldrFlag, v)) : Base valid w₁ where
  trace := hp.quiet.ok hb.trace
  fwd := by rw [hp.pins]; exact hb.fwd
  back := by rw [hp.pins]; exact hb.back
  levels := hp.quiet.levels.trans hb.levels
  rest := hp.quiet.rest.trans hb.rest
  held := by rw [hp.pins]; exact hb.held
  light := fun _ hf => hl hf
  nox := by rw [hp.nox, hp.nvs _ (by decide)]; exact hb.nox
  flag := hp.flagSync hb.flag
  unset := fun h0 => absurd h0 hp.flagSet
  counter := by
    rcases hp.counter with hc | hc
    · rw [hc]; exact hb.counter
    · exact UInt8.le_trans hc (by decide)
  moved := by rw [hp.moved, hp.nvs _ (by decide)]; exact hb.moved
  unmoved := by rw [hp.door, hp.nvs _ (by decide)]; exact hb.unmoved
  lastMove := by rw [hp.door, hp.nvs _ (by decide), hp.nvs _ (by decide)]; exact hb.lastMove
  opening := by rw [hp.opening]; exact hb.opening
  closing := by rw [hp.closing]; exact hb.closing
  editO := by rw [hp.menu]; exact hb.editO
  editC := by rw [hp.menu]; exact hb.editC
  stored := fun hv =>
    { opening := by rw [hp.nvs _ (by decide)]; exact (hb.stored hv).opening
      closing := by rw [hp.nvs _ (by decide)]; exact (hb.stored hv).closing }

/-- A plan that respects the manual mode: no light, and no alarm that opens the door. -/
def RespectsManual (pos : Klappenposition) (p : Plan) (manual : Bool) : Prop :=
  manual = true → p.light = false ∧ (p.moves = true → pos ≠ .posUp)

theorem Frame.errSync (h : Frame w w₁) (hs : ErrSync w) : ErrSync w₁ := by
  unfold ErrSync
  rw [h.nox, h.door, h.nvs _ (by decide)]
  exact hs

/-- What a pass starts from. -/
structure Due (valid : Prop) (w : World) : Prop where
  base : Base valid w
  sync : ErrSync w
  noError : w.door.errorFlag = .noError
  maySleep : w.menu.menuActive = false → MaySleep w.dispatch

theorem Due.storedError (h : Due valid w) :
    w.sched.fInitNox ≠ 0 → (w.nvs.get .errorFlag).getD .noError = .noError := by
  intro hn
  rw [h.sync hn, h.noError]

variable [TimeLib]

theorem Scheduled.base (h : Scheduled pos a p w w₁) (hb : Base valid w) : Base valid w₁ := by
  apply h.toPassing.base hb
  intro hf
  cases hp : p.light with
  | true =>
    rw [h.ldrFlag, hp, if_pos rfl]
    exact ⟨_, h.lit hp⟩
  | false =>
    rw [h.ldrFlag, hp] at hf
    rcases hf with hf | hf <;> cases hf

theorem Started.base (h : Started pos a w w₁) (hb : Base valid w) : Base valid w₁ := by
  apply h.toPassing.base hb
  intro hf
  rw [h.ldrFlag] at hf
  rcases hf with hf | hf <;> cases hf

theorem Scheduled.manualOk (h : Scheduled pos a p w w₁)
    (hp : RespectsManual pos p w.sched.manualFlag) : ManualOk w₁ := by
  intro hm
  rw [h.manual] at hm
  obtain ⟨hlight, hmoves⟩ := hp hm
  rw [h.ldrFlag, h.alarmFlag, hlight]
  refine ⟨rfl, ?_⟩
  split
  · exact hmoves ‹_›
  · decide

/-- A pass that was carried out as planned settles. -/
theorem settled_of_passed {m : Fw Unit} {n : Nat} (h : Due valid w)
    (hp : RespectsManual pos p w.sched.manualFlag) (hm : wp m (passed pos a p n w) ω w) :
    wp m (settled valid) ω w := by
  refine wp_mono hm ?_ ?_ ?_
  · -- the menu is active: back in the menu
    rintro _ w' ⟨hact, w₁, h₁, rfl⟩
    refine ⟨(h₁.base h.base).lit, fun _ _ => ?_, ?_, ?_, ?_⟩
    · unfold LineFresh
      rw [lit_rtc, lit_trace]
      exact h₁.alarm.fresh
    · rw [lit_menu, h₁.menu]
      exact hact
    · unfold ErrSync
      rw [lit_sched, lit_nvs, lit_door]
      exact h₁.toFrame.errSync h.sync
    · unfold ManualOk
      rw [lit_sched]
      exact h₁.manualOk hp
  · -- otherwise the pass ends in deep sleep
    rintro w' ⟨hact, w₁, s, h₁, rfl⟩
    have hb := (h₁.base h.base).lit
    refine Drowsy.asleep ⟨hb, fun _ _ => ?_, ?_, ?_, fun _ => ?_, ?_, fun _ hm => ?_⟩ s
    · unfold LineFresh
      rw [lit_rtc, lit_trace]
      exact h₁.alarm.fresh
    · unfold ManualOk
      rw [lit_sched]
      exact h₁.manualOk hp
    · rw [lit_dispatch, h₁.dispatch]
      exact h.maySleep hact
    · rw [lit_door, h₁.door]
      exact h.noError
    · rw [lit_sched, lit_nvs, h₁.nox, h₁.nvs _ (by decide)]
      exact h.storedError
    · rw [lit_sched] at hm
      exact ledPad_of_led hb.held (lit_led hm)
  · rintro w' ⟨-, hq⟩
    exact hq.ok h.base.trace

/-- A pass without a mode settles too, but then not all modes are valid. -/
theorem settled_of_strayed {m : Fw Unit} (h : Due valid w) (hv : ¬ valid)
    (hm : wp m (strayed pos a w) ω w) : wp m (settled valid) ω w := by
  have hman : ∀ w₁, Started pos a w w₁ → ManualOk w₁ := by
    intro w₁ h₁ _
    rw [h₁.ldrFlag, h₁.alarmFlag]
    exact ⟨rfl, by decide⟩
  refine wp_mono hm ?_ ?_ (fun _ h => h.elim)
  · rintro _ w' ⟨hact, h₁⟩
    exact ⟨h₁.base h.base, fun v => absurd v hv, by rw [h₁.menu]; exact hact,
      h₁.toFrame.errSync h.sync, hman w' h₁⟩
  · rintro w' ⟨hact, w₁, s, h₁, rfl⟩
    have hb := h₁.base h.base
    refine Drowsy.asleep (w := lost w₁) ⟨?_, fun v => absurd v hv, hman w₁ h₁, ?_,
      fun v => absurd v hv, ?_, fun v => absurd v hv⟩ s
    · exact { hb with trace := (hb.trace.cons_plain rfl).cons_plain rfl }
    · show MaySleep w₁.dispatch
      rw [h₁.dispatch]
      exact h.maySleep hact
    · show w₁.sched.fInitNox ≠ 0 → (w₁.nvs.get .errorFlag).getD .noError = .noError
      rw [h₁.nox, h₁.nvs _ (by decide)]
      exact h.storedError

theorem ValidModes.ofByte_ne_none {table : WeekTable} (h : ValidModes table) (t : Int32) :
    OpeningMode.ofByte (todaysAlarm table t).mode ≠ none := by
  have hmode : (OpeningMode.ofByte (todaysAlarm table t).mode).isSome = true := h _
  intro hnone
  rw [hnone] at hmode
  cases hmode

theorem setNextOpeningAlarm_settled (n : Nat) (h : Due valid w) :
    wp (setNextOpeningAlarm n) (settled valid) ω w := by
  cases hmode : OpeningMode.ofByte
      (todaysAlarm w.sched.openingAlarms w.clk.tNow).mode with
  | some mode =>
    refine settled_of_passed h ?_ (setNextOpeningAlarm_passed n rfl hmode)
    intro hm
    rw [hm]
    cases mode <;> exact ⟨rfl, by intro hp; cases hp⟩
  | none =>
    have hv : ¬ valid := fun v => (h.base.opening v).ofByte_ne_none _ hmode
    cases n with
    | zero => exact wp_pending.mpr h.base.trace
    | succ n => exact settled_of_strayed h hv (setNextOpeningAlarm_strayed n rfl hmode)

theorem setNextClosingAlarm_settled (n : Nat) (h : Due valid w) :
    wp (setNextClosingAlarm n) (settled valid) ω w := by
  cases hmode : OpeningMode.ofByte
      (todaysAlarm w.sched.closingAlarms w.clk.tNow).mode with
  | some mode =>
    refine settled_of_passed h ?_ (setNextClosingAlarm_passed n rfl hmode)
    intro hm
    rw [hm]
    cases mode <;> exact ⟨rfl, fun _ => by decide⟩
  | none =>
    have hv : ¬ valid := fun v => (h.base.closing v).ofByte_ne_none _ hmode
    cases n with
    | zero => exact wp_pending.mpr h.base.trace
    | succ n => exact settled_of_strayed h hv (setNextClosingAlarm_strayed n rfl hmode)

end Passes

/-! ## Status checks and moves -/

/-- The device after `statusabfrage` has read the end switches: the position and the
    error flag are set, and the flag is stored. -/
def looked (w : World) (s₁ s₂ : Sample) (pos : Klappenposition) (e : ErrorCode) : World :=
  { (w.observe s₁).observe s₂ with
    door := { w.door with doorPosition := pos, errorFlag := e }
    nvs := w.nvs.put .errorFlag e }

section Status

variable {valid : Prop} {ω : Env} {w : World}

/-- A blocked door is always an error. -/
theorem readStatus_looked :
    wp readStatus ⟨fun _ w' => ∃ s₁ s₂ pos e, (pos = .posBlocked → e ≠ .noError) ∧
        w' = looked w s₁ s₂ pos e, fun _ => False, fun _ => False⟩ ω w := by
  simp only [readStatus, wp_bind, wp_digitalRead, wp_modifyDoor, wp_get, wp_memoryPut, World.level]
  cases (ω w.tick).endUp <;> cases (ω (w.observe (ω w.tick)).tick).endLow
  · exact ⟨_, _, .posDown, w.door.errorFlag, (by intro h; cases h), rfl⟩
  · exact ⟨_, _, .posBlocked, .timerBlockedElapsed, by decide, rfl⟩
  · exact ⟨_, _, .posDriving, w.door.errorFlag, (by intro h; cases h), rfl⟩
  · exact ⟨_, _, .posUp, w.door.errorFlag, (by intro h; cases h), rfl⟩

variable {s₁ s₂ : Sample} {pos : Klappenposition} {e : ErrorCode}

theorem quiet_looked : Quiet w.trace (looked w s₁ s₂ pos e).trace :=
  (Quiet.observe w s₁).trans (Quiet.observe _ s₂)

theorem Base.looked (h : Base valid w) : Base valid (looked w s₁ s₂ pos e) :=
  { h.observe.observe.putError e with }

theorem errSync_looked : ErrSync (looked w s₁ s₂ pos e) := by
  intro _
  show ((w.nvs.put .errorFlag e).get .errorFlag).getD .noError = e
  rw [nvs_get_put_self _ _ (by decide)]
  rfl

/-- The error branch of `statusabfrage`.  An alarm move that ends here has failed. -/
theorem reportError_settled (h : Ready valid w) (hs : ErrSync w) :
    wp (do emit (.status true); reportError) (settled valid) ω w := by
  simp only [reportError, wp_bind, wp_emit, wp_modifyMenu, wp_modifySched]
  refine ⟨?_, fun hv hf => ?_, rfl, hs, by intro hm; cases hm⟩
  · exact { h.base with trace := h.base.trace.cons_plain rfl }
  · have hun : moveUnchecked w.trace = false := by
      by_contra hne
      have hfail : FailedAlarmMove (.status true :: w.trace) :=
        ⟨w.trace, rfl, by simpa using hne⟩
      exact hf _ (List.suffix_refl _) hfail
    exact h.fresh hun hv hf.tail

variable [TimeLib]

/-- `statusabfrage` schedules the next move, or reports the error it found. -/
theorem statusabfrage_settled (n : Nat) (h : Ready valid w) :
    wp (statusabfrage n) (settled valid) ω w := by
  cases n with
  | zero => exact wp_pending.mpr h.base.trace
  | succ n =>
    rw [statusabfrage]
    apply wp_then readStatus_looked
    rintro _ w₁ ⟨s₁, s₂, pos, e, hpos, rfl⟩
    rw [wp_get_bind]
    have hb : Base valid (looked w s₁ s₂ pos e) := h.base.looked
    apply (wp_ite _ _ _).mpr
    refine ⟨fun _ => ?_, fun he => ?_⟩
    · refine reportError_settled ⟨hb, fun hun hv hf => ?_, h.maySleep⟩ errSync_looked
      have hq : Quiet w.trace (looked w s₁ s₂ pos e).trace := quiet_looked
      exact (h.fresh (hq.unchecked.symm.trans hun) hv (hq.noFailure hf)).observe.observe
    · have he' : e = .noError := not_not.mp he
      have hsync : ErrSync (looked w s₁ s₂ pos e) := errSync_looked
      have hdue : Due valid { looked w s₁ s₂ pos e with
          trace := .status false :: (looked w s₁ s₂ pos e).trace } :=
        ⟨{ hb with trace := hb.trace.cons_plain rfl }, hsync, he', h.maySleep⟩
      rw [wp_bind, wp_emit]
      cases pos with
      | posUp => exact setNextClosingAlarm_settled n hdue
      | posDown => exact setNextOpeningAlarm_settled n hdue
      | posBlocked =>
        -- a blocked door has just set the error flag
        exact absurd he' (hpos rfl)
      | posDriving =>
        apply (wp_ite _ _ _).mpr
        exact ⟨fun _ => setNextOpeningAlarm_settled n hdue,
          fun _ => setNextClosingAlarm_settled n hdue⟩

/-- `moveMotor`, whatever the end switches, the buttons and the clock do. -/
theorem moveMotor_settled (n : Nat) (pos : Klappenposition) (h : Ready valid w) :
    wp (moveMotor n pos) (settled valid) ω w := by
  cases n with
  | zero => exact wp_pending.mpr h.base.trace
  | succ n =>
    rw [moveMotor]
    apply wp_then (startMove_moving h.base)
    rintro _ w₁ ⟨h₁, hc₁⟩
    refine wp_seq (wp_mono (moveLoop_moving pos n h₁ hc₁) (fun _ _ h => h) (fun _ h => h.elim)
      (fun _ h => h.1.ok)) ?_
    rintro _ w₂ ⟨h₂, -⟩
    apply wp_then (finishMove_base h.base h₂)
    rintro _ w₃ ⟨hb, hm⟩
    refine statusabfrage_settled n ⟨hb, fun hun hv hf => ?_, ?_⟩
    · exact hm.fresh (h.fresh (hm.unchecked.symm.trans hun) hv (hm.noFailure hf))
    · rw [hm.menu, hm.dispatch]
      exact h.maySleep

end Status

/-! ## Wake-ups -/

section Wakeups

variable {valid : Prop} {ω : Env} {w : World}

/-- What the light check of a timer wake-up ends in: deep sleep is due, or a call has
    returned. -/
def checked (valid : Prop) : Post World Int32 where
  done := fun again w => if again ≠ 0 then Drowsy valid w else Returned valid w
  halt := Asleep valid
  pending := fun w => TraceOk valid w.trace

/-- What the light check of a timer wake-up starts from: everything but the flash and the
    RTC RAM has been lost. -/
structure OnTimer (valid : Prop) (w : World) : Prop where
  drowsy : Drowsy valid w
  onTimer : onTimerWakeup w.trace = true
  nextLux : w.sched.nextLux = 0
  manualFlag : w.sched.manualFlag = false
  armed : w.sched.ldrFlag = .posUp ∨ w.sched.ldrFlag = .posDown →
    ∃ v, lastArmed w.trace = some (w.sched.ldrFlag, v)

/-- Flags that say something have been set. -/
theorem Base.flagSet (h : Base valid w)
    (hf : w.sched.ldrFlag = .posUp ∨ w.sched.ldrFlag = .posDown) : w.sched.fInitFlag ≠ 0 := by
  intro h0
  rw [(h.unset h0).1] at hf
  rcases hf with hf | hf <;> cases hf

/-- A new value of the debounce counter. -/
theorem Base.setCounter (h : Base valid w) (hf : w.sched.fInitFlag ≠ 0) {c : UInt8} (hc : c ≤ 15) :
    Base valid { w with sched := { w.sched with ramCounter := c } } :=
  { h with unset := fun h0 => absurd h0 hf, counter := hc }

/-- The end of a light check: the debounce counts, sleeps again or moves. -/
theorem debounce_checked (pos : Klappenposition) (hit : Bool) {move : Fw Unit}
    (h : Drowsy valid w) (hman : w.sched.manualFlag = false)
    (hldr : w.sched.ldrFlag = .posUp ∨ w.sched.ldrFlag = .posDown)
    (harm : ∃ v, lastArmed w.trace = some (w.sched.ldrFlag, v))
    (hmove : ∀ w', Ready valid w' → wp move (settled valid) ω w') :
    wp (debounce pos hit move) (checked valid) ω w := by
  have hflag := h.base.flagSet hldr
  -- sleeping with a new counter and the timer set
  have hsleep : ∀ c us, c ≤ (15 : UInt8) → Drowsy valid { w with
      sched := { w.sched with ramCounter := c }, timer := some us } := by
    intro c us hc
    exact
      { base := { h.base.setCounter hflag hc with light := fun _ _ => harm }
        fresh := h.fresh
        manual := by
          intro hm
          rw [hman] at hm
          cases hm
        dispatch := h.dispatch
        noError := h.noError
        storedError := h.storedError
        pad := h.pad }
  cases hit with
  | false =>
    simp only [debounce, Bool.false_eq_true, if_false, wp_bind, wp_modifySched,
      wp_enableTimerWakeup, wp_pure]
    exact hsleep 0 _ (by decide)
  | true =>
    simp only [debounce, if_true, wp_bind, wp_modifySched, wp_get, wp_ite, wp_emit,
      wp_enableTimerWakeup, wp_pure]
    refine ⟨fun _ => ?_, fun hlt => ?_⟩
    · have hready : Ready valid { w with
          sched := { w.sched with ramCounter := 0 }
          trace := .lightMove pos w.tick :: w.trace } :=
        { base := { h.base.setCounter hflag (c := 0) (by decide) with
            trace := h.base.trace.cons_plain rfl }
          fresh := fun _ hv hf => h.fresh hv hf.tail
          maySleep := fun _ => h.dispatch }
      exact wp_mono (hmove _ hready) (fun _ _ h => h) (fun _ h => h) (fun _ h => h)
    · apply hsleep _ _
      have hlt' : w.sched.ramCounter + 1 < luxDebounceNumber := UInt8.not_le.mp hlt
      exact UInt8.le_of_lt (UInt8.lt_trans hlt' (by decide))

variable [TimeLib]

/-- `activateLDR` on a timer wake-up. -/
theorem activateLDR_checked (n : Nat) (h : OnTimer valid w) :
    wp (activateLDR n) (checked valid) ω w := by
  cases n with
  | zero => exact wp_pending.mpr h.drowsy.base.trace
  | succ n =>
    have hb := h.drowsy.base
    -- both light branches: one reading, one event, then the debounce
    have key : ∀ pos hit lux, w.sched.ldrFlag = pos → (pos = .posUp ∨ pos = .posDown) →
        wp (debounce pos hit (moveMotor n pos)) (checked valid) ω
          { w.observe (ω w.tick) with
            trace := .lightCheck pos lux w.sched.nextLux :: (w.observe (ω w.tick)).trace } := by
      intro pos hit lux hf hpos
      have hldr : w.sched.ldrFlag = .posUp ∨ w.sched.ldrFlag = .posDown := hf ▸ hpos
      obtain ⟨v, hv⟩ := h.armed hldr
      have hv' : lastArmed (w.observe (ω w.tick)).trace = some (w.sched.ldrFlag, v) :=
        lastArmed_observe.trans hv
      have hok : LightOk (.lightCheck pos lux w.sched.nextLux :: (w.observe (ω w.tick)).trace) := by
        intro pos' lux' v' tl heq _
        obtain ⟨he, rfl⟩ := List.cons.inj heq
        cases he
        exact ⟨h.nextLux, v, hf ▸ hv'⟩
      have hq := (Quiet.observe w (ω w.tick)).trans (.of_check hok)
      have hbase : Base valid { w.observe (ω w.tick) with
          trace := .lightCheck pos lux w.sched.nextLux :: (w.observe (ω w.tick)).trace } :=
        { hb.of_quiet hq lastArmed_observe with }
      refine debounce_checked pos hit ?_ h.manualFlag hldr ⟨v, hv'⟩
        (fun w' h' => moveMotor_settled n pos h')
      exact
        { base := hbase
          fresh := fun hv hf => (h.drowsy.fresh hv (hq.noFailure hf)).observe
          manual := h.drowsy.manual
          dispatch := h.drowsy.dispatch
          noError := h.drowsy.noError
          storedError := h.drowsy.storedError
          pad := h.drowsy.pad }
    simp only [activateLDR, wp_bind, wp_get, wp_ite, getLux, wp_readMilliVolts, wp_pure, wp_emit,
      wp_modifyDoor]
    refine ⟨fun hf => key _ _ _ hf (.inr rfl), fun _ => ⟨fun hf => key _ _ _ hf (.inl rfl),
      fun _ => ?_⟩⟩
    -- no light move is pending: this is reported as an error
    have hready := Ready.raised hb h.drowsy.fresh (fun _ => h.drowsy.dispatch) .wrongLdrFlag
    exact wp_mono (statusabfrage_settled n hready) (fun _ _ h => h) (fun _ h => h) (fun _ h => h)

/-- `timerWakeupHandling`. -/
theorem timerWakeupHandling_settled (n : Nat) (h : OnTimer valid w) :
    wp (timerWakeupHandling n) (settled valid) ω w := by
  rw [timerWakeupHandling]
  apply wp_seq (activateLDR_checked n h)
  intro again w₁ h₁
  rw [wp_when, wp_prepForDeepSleep]
  have h₁' : if again ≠ 0 then Drowsy valid w₁ else Returned valid w₁ := h₁
  refine ⟨fun ha => ?_, fun ha => ?_⟩
  · rw [if_pos ha] at h₁'
    exact h₁'.asleep _
  · rw [if_neg ha] at h₁'
    exact h₁'

/-- `alarmWakeupHandling` for an alarm whose line is still high: the move it orders is the
    first one for this firing. -/
theorem alarmWakeupHandling_settled (n : Nat) (hb : Base valid w)
    (hfresh : valid → NoFailure w.trace → LineFresh w) (hline : w.rtc.clkInt = true)
    (hsleep : w.menu.menuActive = false → MaySleep w.dispatch) :
    wp (alarmWakeupHandling n) (settled valid) ω w := by
  have hmove : ∀ pos, Ready valid { w with trace := .alarmMove pos w.tick :: w.trace } := by
    intro pos
    have honce : valid → NoFailure w.trace → OnceAt (.alarmMove pos w.tick :: w.trace) := by
      -- the line has fired once since the alarm was set
      intro hv hf pos' k tl heq
      obtain ⟨-, rfl⟩ := List.cons.inj heq
      exact hfresh hv hf hline
    have htrace : TraceOk valid (.alarmMove pos w.tick :: w.trace) :=
      hb.trace.cons (hb.trace.motorSafe.cons rfl) (.of_not_check _ rfl) honce
    exact
      { base := { hb with trace := htrace }
        fresh := fun hun => by cases hun
        maySleep := hsleep }
  rw [alarmWakeupHandling, wp_get_bind]
  cases w.sched.alarmFlag with
  | posDown =>
    simp only [wp_bind, wp_get, wp_emit]
    exact moveMotor_settled n .posDown (hmove _)
  | posUp =>
    simp only [wp_bind, wp_get, wp_emit]
    exact moveMotor_settled n .posUp (hmove _)
  | posBlocked => exact statusabfrage_settled n ⟨hb, fun _ => hfresh, hsleep⟩
  | posDriving =>
    simp only [wp_bind, wp_emit, wp_modifyDoor]
    exact statusabfrage_settled n (.raised hb hfresh hsleep _)

end Wakeups

end Eggvault.Spec
