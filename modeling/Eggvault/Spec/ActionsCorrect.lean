import Eggvault.Spec.Actions
import Eggvault.Spec.RunCorrect

/-!
# The firmware does nothing but its actions

Every part of the firmware stays in an invariant that all actions keep, so that such an
invariant holds between two calls, in deep sleep and wherever a call is cut off.

## Key results

- `WorkClosed.statusabfrage`, `WorkClosed.moveMotor`: a status check and a move
- `Closed.loop`, `Closed.boot`: a call of `loop` and a boot
- `Invariant.run`, `Invariant.powered`: every run
-/

namespace Eggvault.Spec

open Eggvault.Native Prog Trace TimeLib

/-! ## Moves -/

section Leaving

variable {ω : Env} {w : World}

theorem leftEarly_observe (s : Sample) : leftEarly (w.observe s).trace = leftEarly w.trace :=
  observe_keeps (P := fun tr => leftEarly tr = leftEarly w.trace) (fun _ h => h) rfl

/-- A reading, an output or an assignment says nothing about how the loop is left. -/
theorem leftEarly_write (v b : Bool) (tr : List Event) :
    leftEarly (.motorWrite v b :: tr) = leftEarly tr := rfl

/-- An expired limit, and nothing else in the timer checks, leaves a record. -/
theorem timerChecks_left (h : leftEarly w.trace = false) :
    wp timerChecks ⟨fun expired w' => leftEarly w'.trace = expired, fun _ => False,
      fun _ => False⟩ ω w := by
  have hlim : ∀ w₁ e, wp (limitExceeded e) ⟨fun expired w' => leftEarly w'.trace = expired,
      fun _ => False, fun _ => False⟩ ω w₁ := by
    intro w₁ e
    simp only [limitExceeded, wp_bind, wp_digitalWrite_led, wp_emit, wp_modifyDoor, wp_pure]
    rfl
  simp only [timerChecks, wp_bind, wp_get, wp_ite, wp_millis, wp_pure, hlim, leftEarly_observe, h,
    implies_true, and_true]

/-- So does a pressed button. -/
theorem buttonBreak_left (h : leftEarly w.trace = false) :
    wp buttonBreak ⟨fun pressed w' => leftEarly w'.trace = pressed, fun _ => False,
      fun _ => False⟩ ω w := by
  have hcheck : wp buttonCheck ⟨fun _ w' => leftEarly w'.trace = false, fun _ => False,
      fun _ => False⟩ ω w := by
    simp [buttonCheck, leftEarly_observe, h]
  rw [buttonBreak]
  apply wp_then hcheck
  intro pressed w₁ h₁
  simp only [wp_bind, wp_when, wp_emit, wp_pure]
  cases pressed with
  | true => exact ⟨fun _ => rfl, fun hne => absurd rfl hne⟩
  | false => exact ⟨fun hp => Bool.noConfusion hp, fun _ => h₁⟩

/-- The sensor branches always return, and leave no record of their own. -/
theorem sensorBranch_left (pos : Klappenposition) (up low : Bool) (h : leftEarly w.trace = false) :
    wp (sensorBranch pos up low) ⟨fun _ w' => leftEarly w'.trace = false, fun _ => False,
      fun _ => False⟩ ω w := by
  cases up <;> cases low <;>
    simp [sensorBranch, atBottom, atBlocked, atTop, atDriving, startDrive, leftEarly_observe,
      leftEarly_write, h]

/-- The device when an iteration has read the end switches. -/
def switchesRead (ω : Env) (pos : Klappenposition) (w : World) : World :=
  let w₁ : World := { w with trace := .motorEnter pos :: w.trace }
  let w₂ : World := (w₁.observe (ω w.tick)).observe (ω (w.tick + 1))
  { w₂ with trace := .endSwitches (ω w.tick).endUp (ω (w.tick + 1)).endLow :: w₂.trace }

/-- The device when an iteration is over. -/
def iterated (w : World) : World :=
  { w with trace := .motorIteration w.door.doorDirection :: w.trace }

/-- An iteration, from the rules of its three parts. -/
theorem wp_moveIteration {pos : Klappenposition} {post : Post World Bool} {S : World → Prop}
    {T : Bool → World → Prop}
    (hs : wp (sensorBranch pos (ω w.tick).endUp (ω (w.tick + 1)).endLow)
      ⟨fun _ => S, fun _ => False, fun _ => False⟩ ω (switchesRead ω pos w))
    (ht : ∀ w₁, S w₁ → wp timerChecks ⟨T, fun _ => False, fun _ => False⟩ ω w₁)
    (hexpired : ∀ w₂, T true w₂ → post.done false (iterated w₂))
    (hbutton : ∀ w₂, T false w₂ →
      wp buttonBreak ⟨fun pressed w₃ => post.done (!pressed) (iterated w₃), fun _ => False,
        fun _ => False⟩ ω w₂) : wp (moveIteration pos) post ω w := by
  have hend : ∀ leave w₁, post.done (!leave) (iterated w₁) → wp (do
      emit (.motorIteration (← get).door.doorDirection)
      pure !leave) post ω w₁ := by
    intro leave w₁ h₁
    simp only [wp_bind, wp_get, wp_emit, wp_pure]
    exact h₁
  simp only [moveIteration]
  simp only [wp_bind, wp_emit, wp_digitalRead]
  -- the sensor branch, the time limits and the buttons, in the order of the source
  apply wp_of_returns hs
  intro _ w₁ h₁
  apply wp_of_returns (ht w₁ h₁)
  intro expired w₂ h₂
  cases expired with
  | true =>
    -- an expired limit leaves the loop without a look at the buttons
    simp only [if_true]
    exact hend true w₂ (hexpired w₂ h₂)
  | false =>
    simp only [Bool.false_eq_true, if_false]
    exact wp_then (hbutton w₂ h₂) fun pressed w₃ h₃ => hend pressed w₃ h₃

/-- An iteration is the last one exactly if it was left by a button or by a time limit. -/
theorem moveIteration_left (pos : Klappenposition) :
    wp (moveIteration pos) ⟨fun again w' => leftEarly w'.trace = !again,
      fun _ => False, fun _ => False⟩ ω w := by
  have hread : leftEarly (switchesRead ω pos w).trace = false :=
    (leftEarly_observe _).trans (leftEarly_observe _)
  refine wp_moveIteration (sensorBranch_left pos _ _ hread) (fun w₁ h₁ => timerChecks_left h₁)
    (fun w₂ h₂ => h₂) (fun w₂ h₂ => ?_)
  apply wp_of_returns (buttonBreak_left h₂)
  intro pressed w₃ h₃
  show leftEarly w₃.trace = !!pressed
  rw [Bool.not_not]
  exact h₃

theorem startMove_left :
    wp startMove ⟨fun _ w' => leftEarly w'.trace = false, fun _ => False, fun _ => False⟩ ω w := by
  simp only [startMove, wp_bind, wp_call, wp_digitalRead, wp_emit, wp_modifyDoor]
  exact (leftEarly_observe _).trans (leftEarly_observe _)

theorem finishMove_returns : wp finishMove ⟨fun _ _ => True, fun _ => False, fun _ => False⟩ ω w := by
  simp [finishMove]

end Leaving

/-! ## Status checks and passes -/

theorem wp_readStatus {ω : Env} {w : World} {post : Post World Unit} :
    wp readStatus post ω w ↔ post.done () (lookedAt ω w) := by
  simp only [readStatus, wp_bind, wp_digitalRead, wp_modifyDoor, wp_get, wp_memoryPut, World.level,
    lookedAt]
  show post.done () _ ↔ _
  have htick : (w.observe (ω w.tick)).tick = w.tick + 1 := rfl
  rw [htick]
  cases (ω w.tick).endUp <;> cases (ω (w.tick + 1)).endLow <;> exact Iff.rfl

section Work

variable [TimeLib] {ω : Env} {I : World → Prop} {w w₁ : World} {a : DoorDayAlarm}

namespace WorkClosed

theorem lit (h : WorkClosed ω I) (hw : I w) : I (lit w) := by
  unfold Spec.lit
  split
  · exact h _ _ (.led w _) hw
  · exact hw

theorem finishScheduling (h : WorkClosed ω I) : Stays I ω finishScheduling := by
  intro w hw
  have hlit := h.lit hw
  rw [wp_finishScheduling]
  refine ⟨fun _ => hlit, fun _ => ?_⟩
  have hslept := h _ _ (.sleep (Spec.lit w)) hlit
  have htick : (Spec.lit w).tick = w.tick := by unfold Spec.lit; split <;> rfl
  rw [htick] at hslept
  exact hslept

/-- The end of a pass with a plan. -/
theorem goes (h : WorkClosed ω I) (hw : I w) (n : Nat) {pos : Klappenposition} {mode : OpeningMode}
    (hd : pos = heading w.door) (he : w.door.errorFlag = .noError) (ha : a = entryOf w pos)
    (hm : OpeningMode.ofByte a.mode = some mode) :
    Goes ω n pos a (planOf pos a mode w.sched.manualFlag w.clk.tNow) w (anywhere I) := by
  have hpos : pos = .posUp ∨ pos = .posDown := by rw [hd]; exact heading_cases _
  -- whatever the pass has done about light, it is one action
  have key : ∀ w₁ w₂, Programmed pos a (planOf pos a mode w.sched.manualFlag w.clk.tNow) w w₁ →
      Lights ω pos (planOf pos a mode w.sched.manualFlag w.clk.tNow).light w₁ w₂ → I w₂ :=
    fun w₁ w₂ h₁ h₂ => h _ _ (.pass w w₂ pos a mode ⟨hd, he, ha, hm, w₁, h₁, h₂⟩) hw
  constructor
  · intro w₁ h₁ hl
    exact key w₁ w₁ h₁ (.off hl)
  · intro w₁ h₁ hl
    have hmove : w₁.sched.nextMove = pos := h₁.nextMove
    simp only [armLight, wp_bind, wp_modifySched, wp_get, wp_ite, wp_emit, wp_enableTimerWakeup,
      wp_pure]
    refine ⟨fun hp => key w₁ _ h₁ (.waiting hl hp), fun hp => ?_⟩
    apply wp_mono (activateLDR_polls (w := withLight w₁ w₁.timer) n hpos hmove rfl)
    · intro _ w₂ hw₂
      rw [hw₂]
      exact key w₁ _ h₁ (.measured hl hp)
    · intro _ hf
      exact hf.elim
    · rintro w₂ ⟨_, hw₂⟩
      rw [hw₂]
      exact key w₁ _ h₁ (.armed hl hp)

/-- A pass for an entry without a mode. -/
theorem wrongMode (h : WorkClosed ω I) (hw : I w) {pos : Klappenposition} (hd : pos = heading w.door)
    (he : w.door.errorFlag = .noError) (hm : OpeningMode.ofByte (entryOf w pos).mode = none)
    (hs : Started pos (entryOf w pos) w w₁) : wp wrongMode (anywhere I) ω w₁ := by
  have h₁ := h _ _ (.stray w w₁ pos hd he hm hs) hw
  have hentry : entryOf w₁ pos = entryOf w pos := by
    unfold entryOf
    rw [hs.opening, hs.closing, hs.clk]
  have hlost := h _ _ (.lose w₁ pos (by rw [hentry]; exact hm)) h₁
  rw [wp_wrongMode]
  exact ⟨fun _ => h₁, fun _ => h _ _ (.sleep (lost w₁)) hlost⟩

theorem setNextOpeningAlarm (h : WorkClosed ω I) (n : Nat) (hw : I w)
    (hd : heading w.door = .posUp) (he : w.door.errorFlag = .noError) :
    wp (setNextOpeningAlarm n) (anywhere I) ω w := by
  cases n with
  | zero => exact wp_pending.mpr hw
  | succ n =>
    rw [Native.setNextOpeningAlarm, wp_get_bind]
    apply wp_then (startScheduling_starts _ _)
    intro _ w₁ h₁
    cases hm : OpeningMode.ofByte (entryOf w .posUp).mode with
    | none =>
      have hm' : OpeningMode.ofByte (todaysAlarm w.sched.openingAlarms w.clk.tNow).mode = none := hm
      rw [hm']
      exact h.wrongMode hw hd.symm he hm h₁
    | some mode =>
      have hm' : OpeningMode.ofByte (todaysAlarm w.sched.openingAlarms w.clk.tNow).mode =
        some mode := hm
      rw [hm']
      apply wp_seq (openingSwitch_goes n mode h₁ (h.goes hw n hd.symm he rfl hm))
      intro _ w₂ h₂
      exact h.finishScheduling w₂ h₂

theorem setNextClosingAlarm (h : WorkClosed ω I) (n : Nat) (hw : I w)
    (hd : heading w.door = .posDown) (he : w.door.errorFlag = .noError) :
    wp (setNextClosingAlarm n) (anywhere I) ω w := by
  cases n with
  | zero => exact wp_pending.mpr hw
  | succ n =>
    rw [Native.setNextClosingAlarm, wp_get_bind]
    apply wp_then (startScheduling_starts _ _)
    intro _ w₁ h₁
    cases hm : OpeningMode.ofByte (entryOf w .posDown).mode with
    | none =>
      have hm' : OpeningMode.ofByte (todaysAlarm w.sched.closingAlarms w.clk.tNow).mode = none := hm
      rw [hm']
      exact h.wrongMode hw hd.symm he hm h₁
    | some mode =>
      have hm' : OpeningMode.ofByte (todaysAlarm w.sched.closingAlarms w.clk.tNow).mode =
        some mode := hm
      rw [hm']
      apply wp_seq (closingSwitch_goes n mode h₁ (h.goes hw n hd.symm he rfl hm))
      intro _ w₂ h₂
      exact h.finishScheduling w₂ h₂

/-- A status check, with the pass it may lead to. -/
theorem statusabfrage (h : WorkClosed ω I) (n : Nat) : Stays I ω (statusabfrage n) := by
  intro w hw
  cases n with
  | zero => exact wp_pending.mpr hw
  | succ n =>
    have hl := h _ _ (.look w) hw
    rw [Native.statusabfrage, wp_bind, wp_readStatus]
    apply (wp_get_bind _).mpr
    apply (wp_ite _ _ _).mpr
    refine ⟨fun he => ?_, fun he => ?_⟩
    · simp only [reportError, wp_bind, wp_emit, wp_modifyMenu, wp_modifySched]
      exact h _ _ (.report (lookedAt ω w) he) hl
    · have he' : (lookedAt ω w).door.errorFlag = .noError := not_not.mp he
      have hok := h _ _ (.accept (lookedAt ω w) he') hl
      simp only [wp_bind, wp_emit]
      cases hp : (lookedAt ω w).door.doorPosition with
      | posUp => exact h.setNextClosingAlarm n hok (by simp [heading, hp]) he'
      | posDown => exact h.setNextOpeningAlarm n hok (by simp [heading, hp]) he'
      | posBlocked =>
        -- a blocked door has just set the error flag
        have hblocked : position (ω w.tick).endUp (ω (w.tick + 1)).endLow = .posBlocked := hp
        have hflag : (lookedAt ω w).door.errorFlag = .timerBlockedElapsed := if_pos hblocked
        rw [hflag] at he'
        cases he'
      | posDriving =>
        apply (wp_ite _ _ _).mpr
        refine ⟨fun hlast => ?_, fun hlast => ?_⟩
        · exact h.setNextOpeningAlarm n hok (by simp [heading, hp, hlast]) he'
        · exact h.setNextClosingAlarm n hok (by simp [heading, hp, hlast]) he'

/-- The loop of a move that was started in `w₀`. -/
theorem moveLoop (h : WorkClosed ω I) {w₀ : World} {pos : Klappenposition}
    (hpos : pos = .posUp ∨ pos = .posDown) (n : Nat) (hw : I w) (hd : Driving ω pos w₀ w) :
    wp (moveLoop pos n) ⟨fun _ w' => I w' ∧ Drove ω pos w₀ w', I, I⟩ ω w := by
  refine wp_repeatWhile (fun w => I w ∧ Driving ω pos w₀ w) (fun w₁ hw₁ => ?_)
    (fun _ h => h.1) n ⟨hw, hd⟩
  obtain ⟨h₁, hd₁⟩ := hw₁
  rw [wp_get_bind, wp_ite, wp_pure]
  refine ⟨fun hp => ⟨h₁, .goal w₁ hd₁ hp⟩, fun hp => ?_⟩
  apply wp_of_run (moveIteration_left pos)
  intro again w₂ hrun hleft
  have h₂ := h _ _ (.iterate w₁ w₂ w₀ pos again hpos hd₁ hp hrun) h₁
  cases again with
  | true => exact ⟨h₂, .next w₁ w₂ hd₁ hp hrun⟩
  | false => exact ⟨h₂, .left w₁ w₂ hd₁ hp hrun⟩

theorem moveMotor (h : WorkClosed ω I) (n : Nat) {pos : Klappenposition}
    (hpos : pos = .posUp ∨ pos = .posDown) : Stays I ω (moveMotor n pos) := by
  intro w hw
  cases n with
  | zero => exact wp_pending.mpr hw
  | succ n =>
    rw [Native.moveMotor, wp_bind]
    apply wp_of_run startMove_left
    intro _ w₁ hrun₁ hl
    apply wp_seq (h.moveLoop hpos n (h _ _ (.startMove w w₁ hrun₁) hw) (.start w₁ hrun₁))
    rintro _ w₂ ⟨h₂, hm⟩
    rw [wp_bind]
    apply wp_of_run finishMove_returns
    intro _ w₃ hrun₃ _
    exact h.statusabfrage n w₃ (h _ _ (.finishMove w₂ w₃ w pos hpos hm hrun₃) h₂)

end WorkClosed

end Work

/-! ## Wake-ups -/

section Wakeups

variable [TimeLib] {ω : Env} {I : World → Prop} {w : World}

omit [TimeLib] in
theorem unscheduled_observe (w : World) (s : Sample) :
    unscheduled (w.observe s).trace = unscheduled w.trace :=
  observe_keeps (P := fun tr => unscheduled tr = unscheduled w.trace) (fun _ h => h) rfl

omit [TimeLib] in
theorem unpolled_observe (w : World) (s : Sample) :
    unpolled (w.observe s).trace = unpolled w.trace :=
  observe_keeps (P := fun tr => unpolled tr = unpolled w.trace) (fun _ h => h) rfl

namespace WakeClosed

theorem digitalRead (h : WakeClosed ω I) (pin : InPin) : Stays I ω (digitalRead pin) :=
  fun w hw => (wp_digitalRead pin).mpr (h.work _ _ (.read w) hw)

theorem millis (h : WakeClosed ω I) : Stays I ω millis :=
  fun w hw => wp_millis.mpr (h.work _ _ (.read w) hw)

theorem modifyBtn (h : WakeClosed ω I) (f : Buttons → Buttons) : Stays I ω (modifyBtn f) :=
  .modify fun w hw => h _ _ (.keep w (f w.btn) w.pins w.sched.manualFlag w.menu.menuActive
    w.menu.menuRefreshFlag w.menu.blink w.menu.blinkCount) hw

theorem led (h : WakeClosed ω I) (v : Bool) : Stays I ω (digitalWrite .led v) :=
  .modify fun w hw => h.work _ _ (.led w _) hw

theorem manualFlag (h : WakeClosed ω I) (b : Bool) :
    Stays I ω (modifySched fun s => { s with manualFlag := b }) :=
  .modify fun w hw => h _ _ (.keep w w.btn w.pins b w.menu.menuActive w.menu.menuRefreshFlag
    w.menu.blink w.menu.blinkCount) hw

theorem menuActive (h : WakeClosed ω I) (b : Bool) :
    Stays I ω (modifyMenu fun m => { m with menuActive := b }) :=
  .modify fun w hw => h _ _ (.keep w w.btn w.pins w.sched.manualFlag b w.menu.menuRefreshFlag
    w.menu.blink w.menu.blinkCount) hw

theorem setDispatch (h : WakeClosed ω I) {d : Dispatch} (hd : outsideMenu d = true) :
    Stays I ω (setDispatch d) :=
  .modify fun w hw => h _ _ (.dispatch w d hd) hw

theorem prepForDeepSleep (h : WakeClosed ω I) : Stays I ω prepForDeepSleep :=
  fun w hw => wp_prepForDeepSleep.mpr (h.work _ _ (.sleep w) hw)

/-- The light check of a timer wake-up. -/
theorem activateLDR (h : WakeClosed ω I) (n : Nat) (hw : I w) (ht : TimerDue w)
    (hp : unpolled w.trace = true) : wp (activateLDR n) (anywhere I) ω w := by
  cases n with
  | zero => exact wp_pending.mpr hw
  | succ n =>
    by_cases hf : w.sched.ldrFlag = .posUp ∨ w.sched.ldrFlag = .posDown
    · refine activateLDR_cases n hf rfl (fun hm => ?_) (fun hm => ?_)
      · exact h.work.moveMotor n hf _ (h _ _ (.trigger w ht hf hm hp) hw)
      · exact h _ _ (.measure w ht hf hm hp) hw
    · -- no light move is pending
      have hu : w.sched.ldrFlag ≠ .posUp := fun hu => hf (.inl hu)
      have hd : w.sched.ldrFlag ≠ .posDown := fun hd => hf (.inr hd)
      simp only [Native.activateLDR, wp_bind, wp_get, hu, hd, if_false, wp_emit, wp_modifyDoor,
        wp_pure]
      exact h.work.statusabfrage n _ (h _ _ (.wrongLight w ht hu hd) hw)

theorem timerWakeupHandling (h : WakeClosed ω I) (n : Nat) (hw : I w) (ht : TimerDue w)
    (hp : unpolled w.trace = true) : wp (timerWakeupHandling n) (anywhere I) ω w := by
  rw [Native.timerWakeupHandling]
  apply wp_seq (h.activateLDR n hw ht hp)
  intro again w₁ h₁
  exact Stays.when h.prepForDeepSleep w₁ h₁

theorem alarmWakeupHandling (h : WakeClosed ω I) (n : Nat) : Stays I ω (alarmWakeupHandling n) := by
  intro w hw
  rw [Native.alarmWakeupHandling, wp_get_bind]
  cases hf : w.sched.alarmFlag with
  | posDown =>
    simp only [wp_bind, wp_get, wp_emit]
    have hmove := h _ _ (.alarmMove w (.inr hf)) hw
    rw [hf] at hmove
    exact h.work.moveMotor n (.inr rfl) _ hmove
  | posUp =>
    simp only [wp_bind, wp_get, wp_emit]
    have hmove := h _ _ (.alarmMove w (.inl hf)) hw
    rw [hf] at hmove
    exact h.work.moveMotor n (.inl rfl) _ hmove
  | posBlocked => exact h.work.statusabfrage n w hw
  | posDriving =>
    simp only [wp_bind, wp_emit, wp_modifyDoor]
    exact h.work.statusabfrage n _ (h _ _ (.wrongAlarm w hf) hw)

theorem longPressWakeup (h : WakeClosed ω I) (n : Nat) (sw : InPin) {pos : Klappenposition}
    (hpos : pos = .posUp ∨ pos = .posDown) : Stays I ω (longPressWakeup n sw pos) := by
  have hloop : ∀ k, Stays I ω (longPressLoop sw k) := by
    intro k
    induction k with
    | zero => exact .pure _
    | succ k ih =>
      refine .bind h.millis fun _ => .get_bind fun _ => .ite ?_ (.pure _)
      exact .bind (h.digitalRead _) fun _ => .ite ih (.pure _)
  refine .bind h.millis fun _ => .bind (h.modifyBtn _) fun _ => .bind (hloop 5001) fun _ => ?_
  refine .ite ?_ (h.menuActive _)
  refine .bind (h.setDispatch rfl) fun _ => .bind (h.manualFlag _) fun _ => ?_
  exact .bind (h.menuActive _) fun _ => h.work.moveMotor n hpos

theorem ext1Wakeup (h : WakeClosed ω I) (n : Nat) (pin : WakePin) : Stays I ω (ext1Wakeup n pin) := by
  cases pin with
  | clkInt =>
    refine .bind (h.setDispatch rfl) fun _ => .bind (h.manualFlag _) fun _ => ?_
    exact .bind (h.menuActive _) fun _ => h.alarmWakeupHandling n
  | swBack => exact h.longPressWakeup n .swBack (.inr rfl)
  | swFwd => exact h.longPressWakeup n .swFwd (.inl rfl)
  | swExit => exact h.menuActive _
  | swSelect => exact h.menuActive _
  | other => exact h.menuActive _

theorem restoreManualFlagExt1 (h : WakeClosed ω I) : Stays I ω restoreManualFlagExt1 :=
  .bind (h.digitalRead _) fun _ => .when (h.manualFlag _)

/-- Between the record of a wake-up and its handling there is one reading. -/
theorem restoreManualFlag (h : WakeClosed ω I) (hw : I w) (hu : unscheduled w.trace = true)
    (hp : unpolled w.trace = true) :
    wp restoreManualFlag ⟨fun _ w' => I w' ∧ w'.wakeup = w.wakeup ∧ unscheduled w'.trace = true ∧
      unpolled w'.trace = true, fun _ => False, fun _ => False⟩ ω w := by
  have hm : ∀ w₁ b, I w₁ → I { w₁ with sched := { w₁.sched with manualFlag := b } } :=
    fun w₁ b h₁ => h _ _ (.keep w₁ w₁.btn w₁.pins b w₁.menu.menuActive w₁.menu.menuRefreshFlag
      w₁.menu.blink w₁.menu.blinkCount) h₁
  have hread := h.work _ _ (.read _) (hm w false hw)
  have hu' : unscheduled (World.observe { w with sched := { w.sched with manualFlag := false } }
      (ω w.tick)).trace = true := (unscheduled_observe _ _).trans hu
  have hp' : unpolled (World.observe { w with sched := { w.sched with manualFlag := false } }
      (ω w.tick)).trace = true := (unpolled_observe _ _).trans hp
  simp only [Native.restoreManualFlag, wp_bind, wp_modifySched, wp_digitalRead, wp_when]
  exact ⟨fun _ => ⟨hm _ true hread, rfl, hu', hp'⟩, fun _ => ⟨hread, rfl, hu', hp'⟩⟩

/-- The handling of a wake-up, from its record on. -/
theorem wakeupHandling (h : WakeClosed ω I) (n : Nat)
    (hb : I { w with trace := .booted w.wakeup :: w.trace }) :
    wp (wakeupHandling n) (anywhere I) ω w := by
  rw [Native.wakeupHandling, wp_get_bind, wp_bind, wp_emit]
  apply wp_then (h.restoreManualFlag hb rfl rfl)
  rintro _ w₁ ⟨h₁, hc, hu, hp⟩
  split
  · next pin heq =>
    have hrest : Stays I ω (do
        Native.restoreManualFlagExt1
        Native.ext1Wakeup n pin) :=
      .bind h.restoreManualFlagExt1 fun _ => h.ext1Wakeup n pin
    exact hrest _ h₁
  · next heq =>
    simp only [wp_bind, wp_setDispatch, wp_modifySched, wp_modifyMenu]
    have hd := h _ _ (.dispatch w₁ .wakeTimer rfl) h₁
    have hk := h _ _ (.keep _ w₁.btn w₁.pins false false w₁.menu.menuRefreshFlag w₁.menu.blink
      w₁.menu.blinkCount) hd
    exact h.timerWakeupHandling n hk ⟨hc.trans heq, hu⟩ hp
  · exact h.menuActive true _ h₁

end WakeClosed

/-- The handling of a wake-up does not touch what is edited. -/
theorem WakeAct.timeSetMode {w' : World} (h : WakeAct ω w w') :
    w'.menu.timeSetMode = w.menu.timeSetMode := by
  cases h with
  | work _ hw =>
    obtain ⟨active, id, hmenu⟩ := hw.aside.menu
    rw [hmenu]
  | _ => rfl

namespace Closed

/-- The screen that the firmware goes to by itself. -/
theorem menuId (h : Closed ω I) {id : Nat} (hw : I w) (hg : GoesTo w id) :
    wp (modifyMenu fun m => { m with menuId := id }) (anywhere I) ω w :=
  (wp_modifyMenu _).mpr (h _ _ (.goTo w id hg) hw)

/-- A status check or a move stays in an invariant together with what it leaves alone. -/
theorem workClosed_and (h : Closed ω I) {J : World → Prop} (hJ : ∀ w w', Aside w w' → J w → J w') :
    WorkClosed ω fun w => I w ∧ J w :=
  fun w w' hw hIJ => ⟨h.work w w' hw hIJ.1, hJ w w' hw.aside hIJ.2⟩

/-- The end of `setup`: the first set-up starts with its own screen.  `F_init_NOX` does not
    change in a status check. -/
theorem setupEnd (h : Closed ω I) (n : Nat)
    (hinit : w.sched.fInitNox = 0 → I { w with menu := { w.menu with menuId := 1 } })
    (hready : w.sched.fInitNox ≠ 0 → I w) : wp (setupEnd n) (anywhere I) ω w := by
  have hend : Stays I ω (do
      let now ← Native.millis
      Native.modifyBtn fun b => { b with blinkZero := now }) :=
    .bind h.wake.millis fun _ => h.wake.modifyBtn _
  have hinner : WorkClosed ω fun w' => I w' ∧ w'.sched.fInitNox ≠ 0 :=
    h.workClosed_and fun _ _ ha h0 => by rw [ha.nox]; exact h0
  rw [Native.setupEnd, wp_get_bind, wp_ite]
  refine ⟨fun h0 => ?_, fun h0 => ?_⟩
  · rw [wp_bind, wp_modifyMenu]
    exact hend _ (hinit h0)
  · have hd := h.wake _ _ (.dispatch w .setupStatus rfl) (hready h0)
    rw [wp_bind, wp_setDispatch]
    apply wp_seq (wp_mono (hinner.statusabfrage n _ ⟨hd, h0⟩) (fun _ _ h => h) (fun _ h => h.1)
      (fun _ h => h.1))
    rintro _ w₁ ⟨h₁, hn⟩
    rw [wp_bind]
    apply wp_weaken (h.menuId h₁ (.ready hn))
    exact fun _ w₂ h₂ => hend w₂ h₂

end Closed

end Wakeups

/-! ## Resets -/

section Resets

variable {ω : Env} {w : World}

/-- So many readings. -/
def reads (ω : Env) : Nat → World → World
  | 0, w => w
  | k + 1, w => reads ω k (w.observe (ω w.tick))

/-- Readings change the RTC line, and record that. -/
theorem reads_firing (k : Nat) (w : World) :
    ∃ tr line, Extends isFiring w.trace tr ∧
      reads ω k w =
        { w with tick := w.tick + k, rtc := { w.rtc with clkInt := line }, trace := tr } := by
  induction k generalizing w with
  | zero => exact ⟨w.trace, w.rtc.clkInt, .refl _, rfl⟩
  | succ k ih =>
    obtain ⟨tr, line, htr, heq⟩ := ih (w.observe (ω w.tick))
    have hread : Extends isFiring w.trace (w.observe (ω w.tick)).trace :=
      extends_observe (.refl _) (fun _ => rfl) _
    refine ⟨tr, line, hread.trans htr, ?_⟩
    have htick : (w.observe (ω w.tick)).tick + k = w.tick + (k + 1) := by
      show w.tick + 1 + k = _
      omega
    rw [reads, heq, htick]
    rfl

theorem reads_btn (k : Nat) (w : World) : (reads ω k w).btn = w.btn := by
  obtain ⟨tr, line, -, heq⟩ := reads_firing (ω := ω) k w
  rw [heq]

theorem reads_tick (k : Nat) (w : World) : (reads ω k w).tick = w.tick + k := by
  obtain ⟨tr, line, -, heq⟩ := reads_firing (ω := ω) k w
  rw [heq]

theorem observe_reads (k : Nat) (w : World) :
    (reads ω k w).observe (ω (w.tick + k)) = reads ω (k + 1) w := by
  induction k generalizing w with
  | zero => rfl
  | succ k ih =>
    have htick : w.tick + (k + 1) = (w.observe (ω w.tick)).tick + k := by
      show _ = w.tick + 1 + k
      omega
    rw [htick]
    exact ih (w.observe (ω w.tick))

/-- The initialisers only read the clock of the processor. -/
theorem initGlobals_reads :
    wp initGlobals ⟨fun _ w' => ∃ b d, w' = { reads ω 7 w with btn := b, door := d },
      fun _ => False, fun _ => False⟩ ω w := by
  simp only [initGlobals, wp_bind, wp_millis, wp_modifyBtn, wp_modifyDoor]
  exact ⟨_, _, rfl⟩

/-- The tables after `readValuesFromFlash`, which neither reads an input nor leaves a record. -/
structure TablesRead (w₀ w : World) : Prop where
  opening : w.sched.openingAlarms = recalled w₀.nvs (w₀.nvs.get .openAlarms) defaultOpening
  closing : w.sched.closingAlarms = recalled w₀.nvs (w₀.nvs.get .closeAlarms) defaultClosing
  flash : w.nvs = if (w₀.nvs.get .initAlarm).getD 0 = 0 then
      (w₀.nvs.put .openAlarms w.sched.openingAlarms).put .closeAlarms w.sched.closingAlarms
    else w₀.nvs
  clk : w.clk = w₀.clk
  ram : w.rtc.ram = w₀.rtc.ram
  tick : w.tick = w₀.tick
  trace : w.trace = w₀.trace

theorem readValuesFromFlash_tables (hs : w.sched = {}) :
    wp readValuesFromFlash ⟨fun _ w' => TablesRead w w', fun _ => False, fun _ => False⟩ ω w := by
  have hopen : w.sched.openingAlarms = fun _ => {} := by rw [hs]
  have hclose : w.sched.closingAlarms = fun _ => {} := by rw [hs]
  simp only [readValuesFromFlash, wp_bind, wp_readFlags, wp_readLastMove, readErrorFlag, readAlarms,
    wp_modify, wp_get, wp_ite, setAlarmsDefault, wp_memoryPut]
  refine ⟨fun h0 => ?_, fun h0 => ?_⟩
  · exact
      { opening := (if_pos h0).symm
        closing := (if_pos h0).symm
        flash := (if_pos h0).symm
        clk := rfl
        ram := rfl
        tick := rfl
        trace := rfl }
  · exact
      { opening := by rw [hopen]; exact (if_neg h0).symm
        closing := by rw [hclose]; exact (if_neg h0).symm
        flash := (if_neg h0).symm
        clk := rfl
        ram := rfl
        tick := rfl
        trace := rfl }

variable [TimeLib]

/-- From a reset to the handling of the wake-up. -/
theorem setupStart_rebooted (hs : w.sched = {}) (hm : w.menu = {}) (hd : w.door = {})
    (hc : w.clk = {}) :
    wp (do initGlobals; setupStart)
      ⟨fun _ w' => Rebooted ω w w', fun _ => False, fun _ => False⟩ ω w := by
  -- seven readings for the initialisers, and one of the RTC
  have hrestored : wp (do initGlobals; setupStart)
      ⟨fun _ w' => Restored w w', fun _ => False, fun _ => False⟩ ω w :=
    wp_then (initGlobals_reset hs hm hd) fun _ _ h₁ => setupStart_restored h₁
  have hrest : wp (do initGlobals; setupStart)
      ⟨fun _ w' => Restored w w' → Rebooted ω w w', fun _ => False, fun _ => False⟩ ω w := by
    apply wp_then initGlobals_reads
    rintro _ w₁ ⟨b, d, h₁⟩
    obtain ⟨tr, line, htr, hreads⟩ := reads_firing (ω := ω) 7 w
    rw [hreads] at h₁
    have hsched : w₁.sched = {} := by rw [h₁]; exact hs
    have hnvs : w₁.nvs = w.nvs := by rw [h₁]
    have hclk : w₁.clk = {} := by rw [h₁]; exact hc
    have hram : w₁.rtc.ram = w.rtc.ram := by rw [h₁]
    have htick : w₁.tick = w.tick + 7 := by rw [h₁]
    have htrace₁ : w₁.trace = tr := by rw [h₁]
    rw [setupStart]
    apply wp_then (readValuesFromFlash_tables hsched)
    intro _ w₂ h₂
    have htick₂ : w₂.tick = w.tick + 7 := h₂.tick.trans htick
    simp only [wp_bind, wp_timeUpdate, wp_dateUpdate]
    intro hr
    have hread : Extends isFiring (w₂.called .updateTime).trace
        ((w₂.called .updateTime).observe (ω w₂.tick)).trace :=
      extends_observe (.refl _) (fun _ => rfl) _
    exact
      { hr with
        openingAlarms := by rw [← hnvs]; exact h₂.opening
        closingAlarms := by rw [← hnvs]; exact h₂.closing
        flash := by rw [← hnvs]; exact h₂.flash
        clk := by
          show dateOf (timeOf w₂.clk (ω w₂.tick).rtc) (ω w₂.tick).rtc = _
          rw [h₂.clk, hclk, htick₂]
        snapshot := by
          show (ω w₂.tick).rtc = _
          rw [htick₂]
        ram := h₂.ram.trans hram
        tick := by
          show w₂.tick + 1 = _
          rw [htick₂]
        trace := by
          refine ⟨tr, w₂.moment, htr, htick₂, ?_⟩
          rw [← htrace₁, ← h₂.trace]
          exact hread }
  exact wp_mono (wp_and hrestored hrest) (fun _ _ h => h.2 h.1) (fun _ h => h.1) (fun _ h => h.1)

end Resets

/-! ## Screens -/

section Screens

variable [TimeLib] {ω : Env} {I : World → Prop} {w : World} {action : BtnAction}

omit [TimeLib] in
/-- The clock screens always return. -/
theorem clockKept_true : ClockKept fun _ => True where
  updated := fun _ _ _ _ => trivial
  clk := fun _ _ _ => trivial
  setTime := fun _ _ _ _ => trivial
  menu := fun _ _ _ _ _ => trivial

omit [TimeLib] in
/-- A hub only goes to another screen. -/
theorem hub_menuId (left right select exit stay : Nat) (action : BtnAction) (m : Menu) :
    hub left right select exit stay action m =
      { m with menuId := (hub left right select exit stay action m).menuId } := by
  cases action <;> rfl

/-- Read the clock again. -/
theorem wp_restamp {m : Fw Unit} {post : Post World Unit} :
    wp (do timeUpdate; dateUpdate; m) post ω w ↔ wp m post ω (restamped ω w) := by
  simp only [wp_bind, wp_timeUpdate, wp_dateUpdate]
  exact Iff.rfl

namespace Closed

/-- A move or a status check that a screen starts, and the screen after it. -/
theorem thenMenuId (h : Closed ω I) {k : Nat} {m : Fw Unit} {f : Menu → Menu}
    (hm : ∀ J, WorkClosed ω J → Stays J ω m) (hd : w.dispatch = .menu k action)
    (hf : ∀ w₁, w₁.dispatch = .menu k action →
      f w₁.menu = { w₁.menu with menuId := (f w₁.menu).menuId } ∧ GoesTo w₁ (f w₁.menu).menuId)
    (hw : I w) : wp (do m; modifyMenu f) (anywhere I) ω w := by
  have hinner : WorkClosed ω fun w' => I w' ∧ w'.dispatch = .menu k action :=
    h.workClosed_and fun _ _ ha hd => ha.dispatch.trans hd
  apply wp_seq (wp_mono (hm _ hinner w ⟨hw, hd⟩) (fun _ _ h => h) (fun _ h => h.1) (fun _ h => h.1))
  rintro _ w₁ ⟨h₁, hd₁⟩
  obtain ⟨hid, hgoes⟩ := hf w₁ hd₁
  rw [wp_modifyMenu, hid]
  exact h _ _ (.goTo w₁ _ hgoes) h₁

theorem screen000 (h : Closed ω I) (n : Nat) (hw : I w) (hid : w.menu.menuId = 0) :
    wp (screen000 n action) (anywhere I) ω (entered w action) := by
  have hd : (entered w action).dispatch = .menu 0 action := by
    show Dispatch.menu w.menu.menuId action = _
    rw [hid]
  have hgo : ∀ w₁ : World, w₁.dispatch = .menu 0 action →
      hub 3 4 100 0 0 action w₁.menu =
        { w₁.menu with menuId := (hub 3 4 100 0 0 action w₁.menu).menuId } ∧
      GoesTo w₁ (hub 3 4 100 0 0 action w₁.menu).menuId :=
    fun w₁ hd₁ => ⟨hub_menuId 3 4 100 0 0 action w₁.menu, .start action hd₁⟩
  have hs := h _ _ (.start w action hid) hw
  apply wp_restamp.mpr
  apply (wp_get_bind _).mpr
  apply (wp_bind _ _).mpr
  apply (wp_when _ _).mpr
  refine ⟨fun _ => ?_, fun _ => ?_⟩
  · -- EXIT ends the manual mode and schedules again
    have hend := h.thenMenuId (w := { restamped ω (entered w action) with
        sched := { w.sched with manualFlag := false }, pins := { w.pins with led := false } })
      (fun J hJ => hJ.statusabfrage n) hd hgo
      (h.wake _ _ (.keep _ w.btn { w.pins with led := false } false w.menu.menuActive
        w.menu.menuRefreshFlag w.menu.blink w.menu.blinkCount) hs)
    rw [wp_bind] at hend
    simp only [wp_bind, wp_modifySched, wp_digitalWrite_led]
    exact hend
  · apply (wp_modifyMenu _).mpr
    have hid' := (hgo (restamped ω (entered w action)) hd).1
    rw [hid']
    exact h _ _ (.goTo (restamped ω (entered w action)) _
      (hgo (restamped ω (entered w action)) hd).2) hs

theorem screen002 (h : Closed ω I) (hw : I w) (hid : w.menu.menuId = 2) :
    wp (screen002 action) (anywhere I) ω (entered w action) := by
  simp only [Native.screen002, wp_bind, wp_when, wp_modifyDoor, wp_memoryPut, wp_modifyMenu, wp_get,
    wp_digitalWrite_led]
  refine ⟨fun ha => ?_, fun ha => ?_⟩
  · exact h.work _ _ (.led _ _) (h _ _ (.acknowledge w action hid ha) hw)
  · have hact : action = .nothing := not_not.mp ha
    subst hact
    exact h.work _ _ (.led _ _) (h _ _ (.redraw w hid) hw)

theorem manualScreen (h : Closed ω I) (n : Nat) {k : Nat} (hk : k = 3 ∨ k = 4)
    {pos : Klappenposition} (hpos : pos = .posUp ∨ pos = .posDown) (hw : I w)
    (hid : w.menu.menuId = k) : wp (manualScreen n pos) (anywhere I) ω (entered w action) := by
  have hd : (entered w action).dispatch = .menu k action := by
    show Dispatch.menu w.menu.menuId action = _
    rw [hid]
  have henter : editScreen w.menu.menuId = none := by
    rw [hid]
    rcases hk with hk | hk <;> rw [hk] <;> rfl
  have hacting : actingScreen w.menu.menuId = false := by
    rw [hid]
    rcases hk with hk | hk <;> rw [hk] <;> rfl
  have hs := h _ _ (.enter w action henter hacting) hw
  have hmanual := h.wake _ _ (.keep (entered w action) w.btn { w.pins with led := true } true
    w.menu.menuActive w.menu.menuRefreshFlag w.menu.blink w.menu.blinkCount) hs
  rw [Native.manualScreen, wp_bind, wp_modifySched]
  apply (wp_bind _ _).mpr
  apply (wp_digitalWrite_led _).mpr
  exact h.thenMenuId (fun J hJ => hJ.moveMotor n hpos) hd
    (fun w₁ hd₁ => ⟨rfl, .moved k action hk hd₁⟩) hmanual

theorem screen700 (h : Closed ω I) (hw : I w) (hid : w.menu.menuId = 700) :
    wp (screen700 action) (anywhere I) ω (entered w action) := by
  have he := h _ _ (.edit w action (hub 600 100 710 0 700) (by rw [hid]; rfl)) hw
  rw [Native.screen700, wp_bind, wp_modifyMenu]
  exact Stays.when h.wake.prepForDeepSleep _ he

theorem screen900 (h : Closed ω I) (n : Nat) (hw : I w) (hid : w.menu.menuId = 900) :
    wp (screen900 n) (anywhere I) ω (entered w action) := by
  simp only [Native.screen900]
  rw [wp_bind, wp_modifyMenu]
  apply (wp_get_bind _).mpr
  apply (wp_ite _ _ _).mpr
  refine ⟨fun h0 => ?_, fun h0 => ?_⟩
  · simp only [wp_bind, wp_modifySched, wp_memoryPut, wp_modifyDoor]
    exact h.work.statusabfrage n _ (h _ _ (.initialise w action hid h0) hw)
  · rw [wp_bind, wp_saveAlarmValues]
    exact h.work.statusabfrage n _ (h _ _ (.save w action hid h0) hw)

/-- Every screen, under every button. -/
theorem screen (h : Closed ω I) (n : Nat) {k : Nat} (hw : I w) (hid : w.menu.menuId = k) :
    wp (screen n action k) (anywhere I) ω (entered w action) := by
  have hedit : ∀ f, editScreen k = some f →
      wp (modifyMenu (f action)) (anywhere I) ω (entered w action) := fun f hf =>
    (wp_modifyMenu _).mpr (h _ _ (.edit w action f (by rw [hid]; exact hf)) hw)
  unfold Native.screen
  split
  · exact h.screen000 n hw hid
  · exact hedit _ rfl
  · exact h.screen002 hw hid
  · exact h.manualScreen n (.inl rfl) (.inl rfl) hw hid
  · exact h.manualScreen n (.inr rfl) (.inr rfl) hw hid
  · exact hedit _ rfl
  · exact hedit _ rfl
  · exact hedit _ rfl
  · apply wp_of_run (clockKept_true.screen300 action ω _ trivial)
    exact fun _ w' hrun _ => h _ _ (.setTime w w' action hid hrun) hw
  · apply wp_of_run (clockKept_true.screen400 action ω _ trivial)
    exact fun _ w' hrun _ => h _ _ (.setDate w w' action hid hrun) hw
  · exact hedit _ rfl
  · exact hedit _ rfl
  · exact h.screen700 hw hid
  · exact hedit _ rfl
  · exact hedit _ rfl
  · exact hedit _ rfl
  · exact h.screen900 n hw hid
  · -- no screen has this number
    have hnone : editScreen w.menu.menuId = none := by
      rw [hid]
      unfold editScreen
      split <;> first | rfl | contradiction
    have hacting : actingScreen w.menu.menuId = false := by
      rw [hid]
      unfold actingScreen
      split <;> first | rfl | contradiction
    exact (wp_pure _).mpr (h _ _ (.enter w action hnone hacting) hw)

theorem menuFunctions (h : Closed ω I) (n : Nat) (action : BtnAction) :
    Stays I ω (menuFunctions n action) := by
  have hgo : Stays I ω (do
      let menuId := (← get).menu.menuId
      Native.setDispatch (.menu menuId action)
      call (.menuFunctions action)
      Native.screen n action menuId) := by
    intro w hw
    simp only [wp_bind, wp_get, wp_setDispatch, wp_call]
    exact h.screen n hw rfl
  refine .bind (.when (.modify fun w hw => ?_)) fun _ => hgo
  exact h.wake _ _ (.keep w w.btn w.pins w.sched.manualFlag w.menu.menuActive true w.menu.blink
    w.menu.blinkCount) hw

end Closed

end Screens

/-! ## `loop` -/

section Loop

variable [TimeLib] {ω : Env} {I : World → Prop} {w : World}

namespace Closed

/-- Assignments to what only the display depends on. -/
theorem display (h : Closed ω I) (hw : I w) (active refresh blink : Bool) (count : UInt8) :
    I { w with menu := { w.menu with
      menuActive := active, menuRefreshFlag := refresh, blink := blink, blinkCount := count } } :=
  h.wake _ _ (.keep w w.btn w.pins w.sched.manualFlag active refresh blink count) hw

theorem press (h : Closed ω I) (n : Nat) (action : BtnAction) : Stays I ω (press n action) := by
  refine .bind h.wake.millis fun _ => .get_bind fun _ => .bind (.when (h.menuFunctions n action)) fun _ => ?_
  refine .bind (h.wake.modifyBtn _) fun _ => .bind h.wake.millis fun _ => .bind (h.wake.modifyBtn _) fun _ => ?_
  exact .bind h.wake.millis fun _ => h.wake.modifyBtn _

theorem buttonBranches (h : Closed ω I) (n : Nat) : Stays I ω (buttonBranches n) := by
  have hfresh : ∀ pin, Stays I ω (freshPress pin) := fun pin =>
    .bind (h.wake.digitalRead pin) fun _ => .get_bind fun _ => .pure _
  refine .bind (hfresh _) fun _ => .ite (h.press n _) ?_
  refine .bind (hfresh _) fun _ => .ite (h.press n _) ?_
  refine .bind (hfresh _) fun _ => .ite (h.press n _) ?_
  refine .bind (hfresh _) fun _ => .ite (h.press n _) (.get_bind fun _ => .when ?_)
  refine .bind (.modify fun w hw => ?_) fun _ => h.menuFunctions n .nothing
  exact h.display hw w.menu.menuActive false w.menu.blink w.menu.blinkCount

theorem longPressCheck (h : Closed ω I) : Stays I ω longPressCheck := by
  have hany : Stays I ω anyButton :=
    .bind (h.wake.digitalRead _) fun _ => .ite (.pure _) <|
      .bind (h.wake.digitalRead _) fun _ => .ite (.pure _) <|
        .bind (h.wake.digitalRead _) fun _ => .ite (.pure _) (h.wake.digitalRead _)
  refine .bind hany fun _ => .ite (.get_bind fun _ => .when ?_) (h.wake.modifyBtn _)
  exact .bind h.wake.millis fun _ => h.wake.modifyBtn _

theorem debounceCheck (h : Closed ω I) : Stays I ω debounceCheck := by
  have hrelease : ∀ t, Stays I ω (releaseAfter t) := fun t =>
    .bind h.wake.millis fun _ => .get_bind fun _ => .when (.bind h.wake.millis fun _ => h.wake.modifyBtn _)
  have hlong : Stays I ω (do
      if (← get).btn.longPressFlag then
        let now ← Native.millis
        pure (decide (now - (← get).btn.longPressStart > buttonLongPressTime))
      else pure false) :=
    .get_bind fun _ => .ite (.bind h.wake.millis fun _ => .get_bind fun _ => .pure _) (.pure _)
  exact .bind hlong fun _ => .ite (hrelease _) (hrelease _)

/-- `loop` has made sure that an error shows its screen. -/
theorem menuUpdate (h : Closed ω I) (n : Nat) (hw : I w)
    (he : w.door.errorFlag ≠ .noError → w.menu.menuId = 2) :
    wp (menuUpdate n) (anywhere I) ω w := by
  have hrest : Stays I ω (do
      Native.buttonBranches n
      Native.longPressCheck
      Native.debounceCheck) :=
    .bind (h.buttonBranches n) fun _ => .bind h.longPressCheck fun _ => h.debounceCheck
  rw [Native.menuUpdate, wp_bind, wp_call]
  exact hrest _ (h _ _ (.update w he) hw)

theorem blinkUpdate (h : Closed ω I) : Stays I ω blinkUpdate := by
  refine .bind h.wake.millis fun _ => .get_bind fun _ => .ite (.modify fun w hw => ?_)
    (.modify fun w hw => ?_)
  · dsimp only
    split
    · exact h.display hw w.menu.menuActive true false _
    · exact h.display hw w.menu.menuActive w.menu.menuRefreshFlag false w.menu.blinkCount
  · dsimp only
    split
    · exact h.display hw w.menu.menuActive true true w.menu.blinkCount
    · exact h.display hw w.menu.menuActive w.menu.menuRefreshFlag true w.menu.blinkCount

theorem idleCheck (h : Closed ω I) (n : Nat) : Stays I ω (idleCheck n) := by
  refine .bind h.wake.millis fun _ => .get_bind fun _ => .get_bind fun _ => .when ?_
  refine .bind (h.wake.setDispatch rfl) fun _ => .bind (h.wake.menuActive false) fun _ => ?_
  exact h.work.statusabfrage n

/-- Every call of `loop`. -/
theorem loop (h : Closed ω I) (n : Nat) : Stays I ω (loop n) := by
  -- an error shows its screen before the buttons are looked at
  have hmenu : Stays I ω (do
      when ((← get).door.errorFlag ≠ .noError) do
        modifyMenu fun m => { m with menuId := 2 }
      when ((← get).sched.manualFlag = true) (digitalWrite .led true)
      Native.menuUpdate n) := by
    have hled : ∀ w, I w → (w.door.errorFlag ≠ .noError → w.menu.menuId = 2) →
        wp (do
          when ((← get).sched.manualFlag = true) (digitalWrite .led true)
          Native.menuUpdate n) (anywhere I) ω w := by
      intro w hw he
      rw [wp_get_bind, wp_bind, wp_when, wp_digitalWrite_led]
      exact ⟨fun _ => h.menuUpdate n (h.work _ _ (.led w _) hw) he, fun _ => h.menuUpdate n hw he⟩
    intro w hw
    rw [wp_get_bind, wp_bind, wp_when, wp_modifyMenu]
    refine ⟨fun he => ?_, fun he => ?_⟩
    · exact hled _ (h _ _ (.goTo w 2 (.error he)) hw) fun _ => rfl
    · exact hled w hw fun he' => absurd he' he
  refine .bind (h.wake.digitalRead _) fun _ => .ite ?_ ?_
  · exact .bind (h.wake.setDispatch rfl) fun _ => h.wake.alarmWakeupHandling n
  · exact .bind (h.idleCheck n) fun _ => .bind h.blinkUpdate fun _ => hmenu

/-- Every boot, from the moment when the globals have been restored: `J` holds while the wake-up
    is handled, and the end of `setup` leads to `I`. -/
theorem boot_of_wake {J K : World → Prop} (h : Closed ω I) (hJ : WakeClosed ω J) (n : Nat)
    (hs : w.sched = {}) (hm : w.menu = {}) (hd : w.door = {}) (hc : w.clk = {})
    (hstart : ∀ w', Rebooted ω w w' → J { w' with trace := .booted w'.wakeup :: w'.trace })
    (hinit : ∀ w, J w → w.sched.fInitNox = 0 → I { w with menu := { w.menu with menuId := 1 } })
    (hready : ∀ w, J w → w.sched.fInitNox ≠ 0 → I w) (hIK : ∀ w, I w → K w)
    (hJK : ∀ w, J w → K w) : wp (boot n) ⟨fun _ => I, K, K⟩ ω w := by
  have hreset := setupStart_rebooted (ω := ω) hs hm hd hc
  have hboot : wp (do
      (do initGlobals; setupStart)
      Native.wakeupHandling n
      Native.setupEnd n) ⟨fun _ => I, K, K⟩ ω w := by
    apply wp_then hreset
    intro _ w₁ hr
    have hwake : wp (Native.wakeupHandling n) ⟨fun _ => J, K, K⟩ ω w₁ :=
      wp_mono (hJ.wakeupHandling n (hstart w₁ hr)) (fun _ _ h => h) hJK hJK
    apply wp_seq hwake
    intro _ w₂ h₂
    exact wp_mono (h.setupEnd n (hinit w₂ h₂) (hready w₂ h₂)) (fun _ _ h => h) hIK hIK
  simp only [wp_bind] at hboot
  simp only [Native.boot, setup, wp_bind]
  exact hboot

/-- A boot stays in an invariant of all actions. -/
theorem boot (h : Closed ω I) (n : Nat) (hs : w.sched = {}) (hm : w.menu = {}) (hd : w.door = {})
    (hc : w.clk = {}) (hb : w.dispatch = .boot) (hI : ∀ w', Rebooted ω w w' → I w') :
    wp (boot n) (anywhere I) ω w := by
  -- nothing is edited while a wake-up is handled
  have hwake : WakeClosed ω fun w => I w ∧ w.menu.timeSetMode = .setNothing :=
    fun w w' ha hw => ⟨h.wake w w' ha hw.1, ha.timeSetMode.trans hw.2⟩
  refine h.boot_of_wake hwake n hs hm hd hc (fun w' hr => ⟨?_, ?_⟩)
    (fun w hw h0 => h _ _ (.goTo w 1 (.initial h0 hw.2)) hw.1)
    (fun _ hw _ => hw.1) (fun _ hw => hw) (fun _ hw => hw.1)
  · exact h.wake _ _ (.booted w' (hr.dispatch.trans hb) hr.justRead) (hI w' hr)
  · show w'.menu.timeSetMode = .setNothing
    rw [hr.menu]

end Closed

end Loop

/-! ## What happened stays recorded -/

section Suffix

variable [TimeLib] {ω : Env} {w₀ w w' : World}

omit [TimeLib] in
theorem suffix_observe (w : World) (s : Sample) : w.trace <:+ (w.observe s).trace :=
  observe_keeps (P := fun tr => w.trace <:+ tr) (fun _ h => h.trans (List.suffix_cons _ _))
    (List.suffix_refl _)

omit [TimeLib] in
theorem clockKept_suffix (tr : List Event) : ClockKept fun w => tr <:+ w.trace where
  updated := fun w s _ h =>
    (h.trans (List.suffix_cons _ _)).trans (suffix_observe (w.called .updateTime) s)
  clk := fun _ _ h => h
  setTime := fun _ _ _ h => h.trans (List.suffix_cons _ _)
  menu := fun _ _ _ _ h => h

theorem WakeAct.suffix (h : WakeAct ω w w') : w.trace <:+ w'.trace := by
  have hcons : ∀ e, w.trace <:+ e :: w.trace := fun e => List.suffix_cons e _
  have hread : w.trace <:+ (w.observe (ω w.tick)).trace := suffix_observe w _
  cases h with
  | work _ hw => exact hw.aside.trace.suffix
  | keep => exact List.suffix_refl _
  | dispatch => exact List.suffix_refl _
  | booted => exact hcons _
  | alarmMove => exact hcons _
  | wrongAlarm => exact hcons _
  | wrongLight => exact hcons _
  | measure => exact hread.trans (List.suffix_cons _ _)
  | trigger => exact (hread.trans (List.suffix_cons _ _)).trans (List.suffix_cons _ _)

/-- An action only adds to the trace. -/
theorem Act.suffix (h : Act ω w w') : w.trace <:+ w'.trace := by
  have hcons : ∀ e, w.trace <:+ e :: w.trace := fun e => List.suffix_cons e _
  cases h with
  | wake _ hw => exact hw.suffix
  | update => exact hcons _
  | goTo => exact List.suffix_refl _
  | enter => exact hcons _
  | edit => exact hcons _
  | start action _ =>
    have hcall : (entered w action).trace <:+ ((entered w action).called .updateTime).trace :=
      List.suffix_cons _ _
    exact ((hcons _).trans hcall).trans (suffix_observe _ _)
  | acknowledge => exact hcons _
  | redraw => exact hcons _
  | setTime _ action _ hrun =>
    exact wp_run ((clockKept_suffix w.trace).screen300 action ω (entered w action) (hcons _)) hrun
  | setDate _ action _ hrun =>
    exact wp_run ((clockKept_suffix w.trace).screen400 action ω (entered w action) (hcons _)) hrun
  | initialise => exact hcons _
  | save => exact (hcons _).trans (List.suffix_cons _ _)

/-- So does a reset. -/
theorem Rebooted.suffix (h : Rebooted ω w₀ w) : w₀.trace <:+ w.trace := by
  obtain ⟨tr, m, htr, -, htr'⟩ := h.trace
  exact (htr.suffix.trans (List.suffix_cons _ _)).trans htr'.suffix

/-- A property of traces that firings and readings of the clock keep is kept by a reset. -/
theorem Rebooted.keeps {P : List Event → Prop} (h : Rebooted ω w₀ w)
    (hfire : ∀ e tr, isFiring e = true → P tr → P (e :: tr))
    (hcall : ∀ m tr, m.tick = w₀.tick + 7 → P tr → P (.call .updateTime m :: tr))
    (hw : P w₀.trace) : P w.trace := by
  obtain ⟨tr, m, htr, hm, htr'⟩ := h.trace
  exact htr'.keeps hfire (hcall m tr hm (htr.keeps hfire hw))

/-- After a reset the handling of the wake-up has not begun. -/
theorem Rebooted.unscheduled (h : Rebooted ω w₀ w) : unscheduled w.trace = false := by
  obtain ⟨tr, m, -, -, htr⟩ := h.trace
  refine htr.keeps (P := fun tr => Spec.unscheduled tr = false) (fun e tr he h => ?_) rfl
  cases e with
  | alarmFired t => exact h
  | _ => cases he

end Suffix

/-! ## Actions outside of status checks and moves -/

/-- The events of wake-ups, of alarms and of the menu. -/
def isElsewhere : Event → Bool
  | .alarmFired _ | .alarmMove _ _ | .lightMove _ _ | .lightCheck _ _ _ | .setTime _ _ _ _ _ _ _ => true
  | .raised error => isInternal error
  | .call .updateTime _ | .call .menuUpdate _ | .call (.menuFunctions _) _ => true
  | .call .saveAlarmValues _ => true
  | _ => false

/-- From `w` to `w'` there was neither a status check nor a move: of the door only the error flag
    may have changed. -/
structure Elsewhere (w w' : World) : Prop where
  door : ∃ e, w'.door = { w.door with errorFlag := e }
  trace : Extends isElsewhere w.trace w'.trace

namespace Elsewhere

variable {w₀ w w' : World}

theorem refl (w : World) : Elsewhere w w := ⟨⟨_, rfl⟩, .refl _⟩

theorem emit (h : Elsewhere w₀ w) {e : Event} (he : isElsewhere e = true) :
    Elsewhere w₀ { w with trace := e :: w.trace } := ⟨h.door, h.trace.cons he⟩

theorem observe (h : Elsewhere w₀ w) (s : Sample) : Elsewhere w₀ (w.observe s) :=
  ⟨h.door, extends_observe h.trace (fun _ => rfl) s⟩

theorem raised (h : Elsewhere w₀ w) {e : ErrorCode} (he : isInternal e = true) :
    Elsewhere w₀ (raised w e) := by
  obtain ⟨⟨e', hdoor⟩, htrace⟩ := h
  refine ⟨⟨e, ?_⟩, htrace.cons he⟩
  show { w.door with errorFlag := e } = _
  rw [hdoor]

theorem clockKept (w₀ : World) : ClockKept (Elsewhere w₀) where
  updated := by
    intro w s c h
    have hcall := h.emit (e := .call .updateTime w.moment) rfl
    exact { hcall.observe s with }
  clk := fun _ _ h => { h with }
  setTime := by
    intro w e he h
    apply h.emit
    cases e <;> first | rfl | cases he
  menu := fun _ _ _ _ h => { h with }

end Elsewhere

section Elsewhere

variable [TimeLib] {ω : Env} {w w' : World}

/-- An action of the handling of a wake-up is one of a status check or a move, the record of the
    wake-up, or elsewhere. -/
theorem WakeAct.split (h : WakeAct ω w w') : Work ω w w' ∨
    w' = { w with trace := .booted w.wakeup :: w.trace } ∨ Elsewhere w w' := by
  have hrefl := Elsewhere.refl w
  cases h with
  | work _ hw => exact .inl hw
  | keep => exact .inr (.inr { hrefl with })
  | dispatch => exact .inr (.inr { hrefl with })
  | booted => exact .inr (.inl rfl)
  | alarmMove => exact .inr (.inr (hrefl.emit rfl))
  | wrongAlarm => exact .inr (.inr (hrefl.raised rfl))
  | wrongLight => exact .inr (.inr (hrefl.raised rfl))
  | measure =>
    have hread := hrefl.observe (ω w.tick)
    exact .inr (.inr
      { hread.emit (e := .lightCheck w.sched.ldrFlag (level ω w) w.sched.nextLux) rfl with })
  | trigger =>
    have hread := hrefl.observe (ω w.tick)
    have hcheck := hread.emit (e := .lightCheck w.sched.ldrFlag (level ω w) w.sched.nextLux) rfl
    exact .inr (.inr { hcheck.emit (e := .lightMove w.sched.ldrFlag (w.tick + 1)) rfl with })

/-- Every other action is elsewhere. -/
theorem Act.split (h : Act ω w w') : WakeAct ω w w' ∨ Elsewhere w w' := by
  have hent : ∀ action, Elsewhere w (entered w action) := fun action =>
    { (Elsewhere.refl w).emit (e := .call (.menuFunctions action) _) rfl with }
  cases h with
  | wake _ hw => exact .inl hw
  | update => exact .inr ((Elsewhere.refl w).emit rfl)
  | goTo => exact .inr { Elsewhere.refl w with }
  | enter action => exact .inr (hent action)
  | edit action => exact .inr { hent action with }
  | start action =>
    have hcall := (hent action).emit (e := .call .updateTime (entered w action).moment) rfl
    exact .inr { hcall.observe (ω w.tick) with }
  | acknowledge action => exact .inr ⟨⟨.noError, rfl⟩, (hent action).trace⟩
  | redraw => exact .inr { hent .nothing with }
  | setTime _ action _ hrun =>
    exact .inr (wp_run ((Elsewhere.clockKept w).screen300 action ω _ (hent action)) hrun)
  | setDate _ action _ hrun =>
    exact .inr (wp_run ((Elsewhere.clockKept w).screen400 action ω _ (hent action)) hrun)
  | initialise action => exact .inr ⟨⟨.noError, rfl⟩, (hent action).trace⟩
  | save action => exact .inr { (hent action).emit (e := .call .saveAlarmValues _) rfl with }

end Elsewhere

/-! ## Runs -/

section Runs

variable [TimeLib] {ω : Env} {w₀ : World}

/-- An invariant of all actions and of all resets, for runs that meet the condition `C` at
    every moment.  At a wake-up the flags that were pending are read back. -/
structure Invariant (ω : Env) (w₀ : World) (C : List Event → Prop) (I : World → Prop) : Prop where
  act : ∀ w w', Act ω w w' → Historically C w'.trace → I w → I w'
  first : ∀ w, Rebooted ω w₀.firstPowerUp w → Historically C w.trace → I w
  wake : ∀ w w' cause, I w → wakes (w.observe (ω w.tick)) (ω w.tick) cause →
    restoredFlags w.nvs w.rtc.ram = (w.sched.ramCounter, w.sched.ldrFlag, w.sched.alarmFlag) →
    Rebooted ω ((w.observe (ω w.tick)).reset cause) w' → Historically C w'.trace → I w'

omit [TimeLib] in
theorem afterCall_of_anywhere {I : World → Prop} {m : Fw Unit} {w : World}
    (h : wp m (anywhere I) ω w) : I (afterCall (m ω w)).2 := by
  rw [wp_iff] at h
  cases hm : m ω w with
  | done a w' => rw [hm] at h; exact h
  | halt w' => rw [hm] at h; exact h
  | pending w' => rw [hm] at h; exact h

namespace Invariant

variable {C : List Event → Prop} {I : World → Prop}

/-- The condition of a moment is one of all later moments. -/
theorem closed (h : Invariant ω w₀ C I) : Closed ω fun w => Historically C w.trace → I w :=
  fun w w' ha hI hC => h.act w w' ha hC (hI (hC.of_suffix ha.suffix))

/-- One step of the powered device. -/
theorem step (h : Invariant ω w₀ C I) {valid : Prop} {s s' : Phase × World}
    (hs : Step ω s s') (hp : PhaseOk valid s) (hI : Historically C s.2.trace → I s.2) :
    Historically C s'.2.trace → I s'.2 := by
  cases hs with
  | loop n w =>
    exact afterCall_of_anywhere (I := fun w => Historically C w.trace → I w)
      (h.closed.loop n w hI)
  | wake n w cause hw =>
    have hasleep : Asleep valid w := hp
    have hflags := hasleep.restoredFlags
    refine afterCall_of_anywhere (I := fun w => Historically C w.trace → I w)
      (h.closed.boot n rfl rfl rfl rfl rfl fun w' hr hC => ?_)
    have hsuffix : w.trace <:+ w'.trace := (suffix_observe w _).trans hr.suffix
    exact h.wake w w' cause (hI (hC.of_suffix hsuffix)) hw hflags hr hC

/-- The invariant holds in every state of a device that keeps its power. -/
theorem powered (h : Invariant ω w₀ C I) {s : Phase × World} (hr : PoweredRun ω w₀ s) :
    Historically C s.2.trace → I s.2 := by
  induction hr with
  | powerOn n =>
    exact afterCall_of_anywhere (I := fun w => Historically C w.trace → I w)
      (h.closed.boot n rfl rfl rfl rfl rfl h.first)
  | step hr hs ih => exact h.step hs (run_invariant hr.run) ih

/-- An invariant that losses of power keep as well holds in every state of every run. -/
theorem run (h : Invariant ω w₀ C I)
    (hpower : ∀ w w', I w → Rebooted ω w.powerUp w' → Historically C w'.trace → I w')
    {s : Phase × World} (hr : Run ω w₀ s) : Historically C s.2.trace → I s.2 := by
  induction hr with
  | powerOn n =>
    exact afterCall_of_anywhere (I := fun w => Historically C w.trace → I w)
      (h.closed.boot n rfl rfl rfl rfl rfl h.first)
  | step hr hs ih => exact h.step hs (run_invariant hr) ih
  | powerCycle n _ _ ih =>
    refine afterCall_of_anywhere (I := fun w => Historically C w.trace → I w)
      (h.closed.boot n rfl rfl rfl rfl rfl fun w' hr' hC => ?_)
    exact hpower _ w' (ih (hC.of_suffix hr'.suffix)) hr' hC

end Invariant

/-- What holds of the trace in every run, if `J` holds while a wake-up is handled and `I` from the
    end of `setup` on, for runs that meet the condition `C` at every moment. -/
theorem LossyRun.historically {C P : List Event → Prop} {I J : World → Prop} {s : Phase × World}
    (hr : LossyRun ω w₀ s)
    (hact : ∀ w w', Act ω w w' → Historically C w'.trace → I w → I w')
    (hwake : ∀ w w', WakeAct ω w w' → Historically C w'.trace → J w → J w')
    (hnil : P []) (hfire : ∀ t tr, P (.alarmFired t :: tr))
    (hreset : ∀ w w', Historically P w.trace → w.dispatch = .boot → Rebooted ω w w' →
      J { w' with trace := .booted w'.wakeup :: w'.trace })
    (hinit : ∀ w, J w → w.sched.fInitNox = 0 → I { w with menu := { w.menu with menuId := 1 } })
    (hready : ∀ w, J w → w.sched.fInitNox ≠ 0 → I w)
    (hI : ∀ w, I w → Historically P w.trace) (hJ : ∀ w, J w → Historically P w.trace) :
    Historically C s.2.trace → Historically P s.2.trace ∧ (s.1 = .awake → I s.2) := by
  -- everything below is about the moments up to which the condition holds
  let I' : World → Prop := fun w => Historically C w.trace → I w
  let J' : World → Prop := fun w => Historically C w.trace → J w
  let K : World → Prop := fun w => Historically C w.trace → Historically P w.trace
  have hclosed : Closed ω I' := fun w w' ha hw hC => hact w w' ha hC (hw (hC.of_suffix ha.suffix))
  have hwakeClosed : WakeClosed ω J' :=
    fun w w' ha hw hC => hwake w w' ha hC (hw (hC.of_suffix ha.suffix))
  have hboot : ∀ n w, w.sched = {} → w.menu = {} → w.door = {} → w.clk = {} → w.dispatch = .boot →
      K w → K (afterCall (boot n ω w)).2 ∧
        ((afterCall (boot n ω w)).1 = .awake → I' (afterCall (boot n ω w)).2) := by
    intro n w hs hm hd hc hb hK
    have h := hclosed.boot_of_wake (K := K) hwakeClosed n hs hm hd hc
      (fun w' hr hC =>
        hreset w w' (hK (hC.of_suffix (hr.suffix.trans (List.suffix_cons _ _)))) hb hr)
      (fun w hw h0 hC => hinit w (hw hC) h0) (fun w hw h0 hC => hready w (hw hC) h0)
      (fun w hw hC => hI w (hw hC)) (fun w hw hC => hJ w (hw hC))
    rw [wp_iff] at h
    cases hm : boot n ω w with
    | done a w' =>
      rw [hm] at h
      exact ⟨fun hC => hI _ (h hC), fun _ => h⟩
    | halt w' =>
      rw [hm] at h
      exact ⟨h, fun ha => nomatch ha⟩
    | pending w' =>
      rw [hm] at h
      exact ⟨h, fun ha => nomatch ha⟩
  have hrun : K s.2 ∧ (s.1 = .awake → I' s.2) := by
    induction hr with
    | powerOn n => exact hboot n _ rfl rfl rfl rfl rfl fun _ => historically_nil.mpr hnil
    | step _ hs ih =>
      cases hs with
      | loop n w =>
        have hloop := afterCall_of_anywhere (I := I') (hclosed.loop n w (ih.2 rfl))
        exact ⟨fun hC => hI _ (hloop hC), fun _ => hloop⟩
      | wake n w cause _ =>
        refine hboot n _ rfl rfl rfl rfl rfl fun hC => ?_
        have hw : Historically P w.trace := ih.1 (hC.of_suffix (suffix_observe w _))
        exact observe_keeps (P := Historically P)
          (fun t h => historically_cons.mpr ⟨hfire t _, h⟩) hw
    | powerLoss n _ ih => exact hboot n _ rfl rfl rfl rfl rfl ih.1
  exact fun hC => ⟨hrun.1 hC, fun ha => hrun.2 ha hC⟩

/-- What all actions, all wake-ups and all losses of power keep holds in every run, also if power
    is lost in the middle of a call. -/
theorem LossyRun.invariant {I : World → Prop} {s : Phase × World} (hr : LossyRun ω w₀ s)
    (hact : Closed ω I) (hfirst : ∀ w, Rebooted ω w₀.firstPowerUp w → I w)
    (hwake : ∀ w w' cause, I w → Rebooted ω ((w.observe (ω w.tick)).reset cause) w' → I w')
    (hpower : ∀ w w', I w → Rebooted ω w.powerUp w' → I w') : I s.2 := by
  induction hr with
  | powerOn n => exact afterCall_of_anywhere (hact.boot n rfl rfl rfl rfl rfl hfirst)
  | step _ hs ih =>
    cases hs with
    | loop n w => exact afterCall_of_anywhere (hact.loop n w ih)
    | wake n w cause _ =>
      exact afterCall_of_anywhere
        (hact.boot n rfl rfl rfl rfl rfl fun w' hr => hwake w w' cause ih hr)
  | powerLoss n _ ih =>
    exact afterCall_of_anywhere (hact.boot n rfl rfl rfl rfl rfl fun w' hr => hpower _ w' ih hr)

end Runs

end Eggvault.Spec
