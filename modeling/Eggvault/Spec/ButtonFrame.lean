import Eggvault.Spec.ActionsCorrect

/-!
# What leaves the buttons alone

Outside of the button part of `menuUpdate` the variables of the buttons are written by a boot
only.  `HandsOff` follows a property of these variables through the rest of the firmware, and
through the time that passes meanwhile.

## Key results

- `HandsOff.menuFunctions`: every screen, however its action ends
- `loop_menuUpdate`: the part of `loop` before `menuUpdate`
- `boot_handsOff`: a boot, for what it does not initialise
-/

namespace Eggvault.Spec

open Eggvault.Native Prog Trace TimeLib

/-- The variables of the buttons are as `P` says, and the reading `τ` is past. -/
def HandsOff (P : Buttons → Prop) (τ : Nat) (w : World) : Prop := P w.btn ∧ τ ≤ w.tick

namespace HandsOff

section Moves

variable {P : Buttons → Prop} {τ : Nat} {ω : Env} {w w' : World}

/-- Neither the buttons nor the clock are touched. -/
theorem same (h : HandsOff P τ w) (hb : w'.btn = w.btn) (ht : w'.tick = w.tick) :
    HandsOff P τ w' := by
  refine ⟨?_, ?_⟩
  · rw [hb]
    exact h.1
  · rw [ht]
    exact h.2

theorem observe (h : HandsOff P τ w) (s : Sample) : HandsOff P τ (w.observe s) :=
  ⟨h.1, Nat.le_succ_of_le h.2⟩

theorem slept (h : HandsOff P τ w) (s : Sample) : HandsOff P τ (slept w s) :=
  ⟨h.1, Nat.le_succ_of_le h.2⟩

theorem blind (P : Buttons → Prop) (τ : Nat) (ω : Env) : Blind ω (HandsOff P τ) where
  observe := fun _ h => h.observe _
  door := fun _ _ _ h => h
  pins := fun _ _ h => h
  emit := fun _ _ _ h => h
  store := fun _ _ _ _ h => h

/-- A clock screen reads, edits and sets the clock only. -/
theorem clockKept (P : Buttons → Prop) (τ : Nat) : ClockKept (HandsOff P τ) where
  updated := fun _ s _ h => h.observe s
  clk := fun _ _ h => h
  setTime := fun _ _ _ h => h
  menu := fun _ _ _ _ h => h

variable [TimeLib]

/-- The actions of a status check and of a move. -/
theorem work (P : Buttons → Prop) (τ : Nat) (ω : Env) : WorkClosed ω (HandsOff P τ) := by
  intro w w' h hw
  cases h with
  | read => exact hw.observe _
  | led p => exact hw
  | startMove _ hrun => exact wp_run ((blind P τ ω).startMove w hw) hrun
  | iterate _ _ pos _ _ _ _ hrun => exact wp_run ((blind P τ ω).moveIteration pos w hw) hrun
  | finishMove _ _ _ _ _ hrun => exact wp_run ((blind P τ ω).finishMove w hw) hrun
  | look => exact (hw.observe _).observe (ω (w.tick + 1))
  | report => exact hw
  | accept => exact hw
  | pass _ pos a mode hp =>
    obtain ⟨w₁, hprog, hlight⟩ := hp.carried
    have h₁ : HandsOff P τ w₁ := hw.same hprog.btn hprog.silent.tick
    cases hlight with
    | off => exact h₁
    | waiting => exact h₁
    | armed => exact h₁
    | measured => exact h₁.observe (ω w₁.tick)
  | stray _ pos _ _ _ hs => exact hw.same hs.btn hs.silent.tick
  | lose => exact hw
  | sleep => exact hw.slept _

end Moves

section Screens

variable {P : Buttons → Prop} {τ : Nat} {ω : Env} {w : World} [TimeLib]

omit [TimeLib] in
theorem prepForDeepSleep : Stays (HandsOff P τ) ω prepForDeepSleep :=
  fun _ h => wp_prepForDeepSleep.mpr (h.slept _)

theorem screen000 (n : Nat) (action : BtnAction) : Stays (HandsOff P τ) ω (screen000 n action) := by
  have hrest : Stays (HandsOff P τ) ω (do
      when (action = .exit ∧ (← get).sched.manualFlag = true) do
        modifySched fun s => { s with manualFlag := false }
        digitalWrite .led false
        statusabfrage n
      modifyMenu (hub 3 4 100 0 0 action)) := by
    refine .get_bind fun _ => .bind (.when ?_) fun _ => .modify fun _ h => h
    refine .bind (.modify fun _ h => h) fun _ => ?_
    exact .bind (.modify fun _ h => h) fun _ => (work P τ ω).statusabfrage n
  intro w h
  apply wp_restamp.mpr
  exact hrest _ (h.observe (ω w.tick))

omit [TimeLib] in
theorem screen002 (action : BtnAction) : Stays (HandsOff P τ) ω (screen002 action) := by
  refine .bind (.when ?_) fun _ => .bind (.modify fun _ h => h) fun _ => .get_bind fun _ => ?_
  · exact .bind (.modify fun _ h => h) fun _ => .modify fun _ h => h
  · exact .modify fun _ h => h

theorem manualScreen (n : Nat) {pos : Klappenposition} (hpos : pos = .posUp ∨ pos = .posDown) :
    Stays (HandsOff P τ) ω (manualScreen n pos) := by
  refine .bind (.modify fun _ h => h) fun _ => .bind (.modify fun _ h => h) fun _ => ?_
  exact .bind ((work P τ ω).moveMotor n hpos) fun _ => .modify fun _ h => h

omit [TimeLib] in
theorem screen700 (action : BtnAction) : Stays (HandsOff P τ) ω (screen700 action) :=
  .bind (.modify fun _ h => h) fun _ => .when prepForDeepSleep

theorem screen900 (n : Nat) : Stays (HandsOff P τ) ω (screen900 n) := by
  have hstatus := (work P τ ω).statusabfrage n
  refine .bind (.modify fun _ h => h) fun _ => .get_bind fun _ => .ite ?_ ?_
  · refine .bind (.modify fun _ h => h) fun _ => .bind (.modify fun _ h => h) fun _ => ?_
    exact .bind (.modify fun _ h => h) fun _ => .bind (.modify fun _ h => h) fun _ => hstatus
  · refine .bind (fun w h => ?_) fun _ => hstatus
    exact wp_saveAlarmValues.mpr h

/-- Every screen, under every button. -/
theorem screen (n : Nat) (action : BtnAction) (k : Nat) :
    Stays (HandsOff P τ) ω (screen n action k) := by
  unfold Native.screen
  split
  · exact screen000 n action
  · exact .modify fun _ h => h
  · exact screen002 action
  · exact manualScreen n (.inl rfl)
  · exact manualScreen n (.inr rfl)
  · exact .modify fun _ h => h
  · exact .modify fun _ h => h
  · exact .modify fun _ h => h
  · exact fun w h => (clockKept P τ).screen300 action |>.wp h fun _ _ h' => h'
  · exact fun w h => (clockKept P τ).screen400 action |>.wp h fun _ _ h' => h'
  · exact .modify fun _ h => h
  · exact .modify fun _ h => h
  · exact screen700 action
  · exact .modify fun _ h => h
  · exact .modify fun _ h => h
  · exact .modify fun _ h => h
  · exact screen900 n
  · exact .pure ()

theorem menuFunctions (n : Nat) (action : BtnAction) :
    Stays (HandsOff P τ) ω (menuFunctions n action) := by
  refine .bind (.when (.modify fun _ h => h)) fun _ => .get_bind fun w => ?_
  refine .bind (.modify fun _ h => h) fun _ => .bind (.modify fun _ h => h) fun _ => ?_
  exact screen n action w.menu.menuId

end Screens

/-! ## `loop` and boots -/

section Loop

variable {P : Buttons → Prop} {τ : Nat} {ω : Env} {w : World} [TimeLib]

theorem alarmWakeupHandling (n : Nat) : Stays (HandsOff P τ) ω (alarmWakeupHandling n) := by
  have hmove : ∀ pos, pos = .posUp ∨ pos = .posDown → Stays (HandsOff P τ) ω (do
      emit (.alarmMove pos (← get).tick)
      moveMotor n pos) := fun pos hpos =>
    .get_bind fun _ => .bind (.modify fun _ h => h) fun _ => (work P τ ω).moveMotor n hpos
  refine .get_bind fun w => ?_
  cases w.sched.alarmFlag with
  | posDown => exact hmove .posDown (.inr rfl)
  | posUp => exact hmove .posUp (.inl rfl)
  | posBlocked => exact (work P τ ω).statusabfrage n
  | posDriving =>
    refine .bind (.modify fun _ h => h) fun _ => .bind (.modify fun _ h => h) fun _ => ?_
    exact (work P τ ω).statusabfrage n

theorem idleCheck (n : Nat) : Stays (HandsOff P τ) ω (idleCheck n) := by
  refine .bind (blind P τ ω).millis fun _ => .get_bind fun _ => .get_bind fun _ => .when ?_
  refine .bind (.modify fun _ h => h) fun _ => .bind (.modify fun _ h => h) fun _ => ?_
  exact (work P τ ω).statusabfrage n

omit [TimeLib] in
theorem blinkUpdate : Stays (HandsOff P τ) ω blinkUpdate :=
  .bind (blind P τ ω).millis fun _ => .get_bind fun _ =>
    .ite (.modify fun _ h => h) (.modify fun _ h => h)

/-- A call of `loop` handles an alarm, or ends with a call of `menuUpdate`. -/
theorem loop (n : Nat) (h : HandsOff P τ w) :
    wp (loop n) ⟨fun _ w' => HandsOff P τ w' ∨
      ∃ w₁, HandsOff P τ w₁ ∧ menuUpdate n ω w₁ = .done () w',
      fun _ => True, fun _ => True⟩ ω w := by
  have htriv : ∀ w', HandsOff P τ w' → True := fun _ _ => trivial
  rw [Native.loop]
  refine ((blind P τ ω).digitalRead _).wp_bind h htriv htriv fun line w₁ h₁ => ?_
  refine (wp_ite _ _ _).mpr ⟨fun _ => ?_, fun _ => ?_⟩
  · refine Stays.wp_bind (.modify fun _ h => h) h₁ htriv htriv fun _ w₂ h₂ => ?_
    exact wp_mono (alarmWakeupHandling n w₂ h₂) (fun _ _ h' => .inl h') htriv htriv
  · refine (idleCheck n).wp_bind h₁ htriv htriv fun _ w₂ h₂ => ?_
    refine blinkUpdate.wp_bind h₂ htriv htriv fun _ w₃ h₃ => (wp_get_bind _).mpr ?_
    refine Stays.wp_bind (.when (.modify fun _ h => h)) h₃ htriv htriv fun _ w₄ h₄ => ?_
    refine (wp_get_bind _).mpr ?_
    refine Stays.wp_bind (.when (.modify fun _ h => h)) h₄ htriv htriv fun _ w₅ h₅ => ?_
    exact wp_mono wp_returned (fun _ _ hrun => .inr ⟨w₅, h₅, hrun⟩) (fun _ h' => h') fun _ h' => h'

/-- A light check, of whatever the flag of the light sensor asks for. -/
theorem activateLDR (n : Nat) : Stays (HandsOff P τ) ω (activateLDR n) := by
  intro w h
  cases n with
  | zero => exact wp_pending.mpr h
  | succ n =>
    by_cases hf : w.sched.ldrFlag = .posUp ∨ w.sched.ldrFlag = .posDown
    · refine activateLDR_cases n hf rfl (fun _ => ?_) (fun _ => h.observe (ω w.tick))
      exact (work P τ ω).moveMotor n hf _ (h.observe (ω w.tick))
    · have hu : w.sched.ldrFlag ≠ .posUp := fun hu => hf (.inl hu)
      have hd : w.sched.ldrFlag ≠ .posDown := fun hd => hf (.inr hd)
      simp only [Native.activateLDR, wp_bind, wp_get, hu, hd, if_false, wp_emit, wp_modifyDoor,
        wp_pure]
      exact (work P τ ω).statusabfrage n _ h

end Loop

section Boot

variable {τ : Nat} {ω : Env} [TimeLib]

/-- No button is being held. -/
def Unheld (τ : Nat) : World → Prop := HandsOff (fun b => b.longPressFlag = false) τ

omit [TimeLib] in
theorem Unheld.initGlobals : Stays (Unheld τ) ω initGlobals := by
  have hmillis : Stays (Unheld τ) ω millis := (blind _ τ ω).millis
  refine .bind hmillis fun _ => .bind hmillis fun _ => .bind hmillis fun _ => ?_
  refine .bind hmillis fun _ => .bind (.modify fun _ h => h) fun _ => .bind hmillis fun _ => ?_
  exact .bind hmillis fun _ => .bind hmillis fun _ => .modify fun _ h => h

theorem Unheld.setupStart : Stays (Unheld τ) ω setupStart := by
  have hkeep : ∀ {f : World → World}, (∀ w, (f w).btn = w.btn ∧ (f w).tick = w.tick) →
      Stays (Unheld τ) ω (modify f) := fun hf => .modify fun w h => h.same (hf w).1 (hf w).2
  have hflash : Stays (Unheld τ) ω readValuesFromFlash := by
    refine .bind (hkeep fun w => ?_) fun _ => .bind (hkeep fun w => ?_) fun _ => ?_
    · dsimp only
      split <;> exact ⟨rfl, rfl⟩
    · dsimp only
      split <;> exact ⟨rfl, rfl⟩
    refine .bind (hkeep fun _ => ⟨rfl, rfl⟩) fun _ => .bind (hkeep fun _ => ⟨rfl, rfl⟩) fun _ => ?_
    refine .get_bind fun _ => .ite ?_ (hkeep fun _ => ⟨rfl, rfl⟩)
    refine .bind (hkeep fun _ => ⟨rfl, rfl⟩) fun _ => .get_bind fun _ => ?_
    exact .bind (hkeep fun _ => ⟨rfl, rfl⟩) fun _ => .get_bind fun _ => hkeep fun _ => ⟨rfl, rfl⟩
  refine .bind hflash fun _ => .bind (fun w h => ?_) fun _ => fun w h => ?_
  · exact (clockKept _ τ).timeUpdate.wp h fun _ _ h' => h'
  · exact (clockKept _ τ).dateUpdate.wp h fun _ _ h' => h'

theorem Unheld.longPressWakeup (n : Nat) (sw : InPin) {pos : Klappenposition}
    (hpos : pos = .posUp ∨ pos = .posDown) : Stays (Unheld τ) ω (longPressWakeup n sw pos) := by
  have hmillis : Stays (Unheld τ) ω millis := (blind _ τ ω).millis
  have hloop : ∀ k, Stays (Unheld τ) ω (longPressLoop sw k) := by
    intro k
    induction k with
    | zero => exact .pure _
    | succ k ih =>
      refine .bind hmillis fun _ => .get_bind fun _ => .ite ?_ (.pure _)
      exact .bind ((blind _ τ ω).digitalRead _) fun _ => .ite ih (.pure _)
  refine .bind hmillis fun _ => .bind (.modify fun _ h => h) fun _ => ?_
  refine .bind (hloop 5001) fun _ => .ite ?_ (.modify fun _ h => h)
  refine .bind (.modify fun _ h => h) fun _ => .bind (.modify fun _ h => h) fun _ => ?_
  exact .bind (.modify fun _ h => h) fun _ => (work _ τ ω).moveMotor n hpos

theorem Unheld.wakeupHandling (n : Nat) : Stays (Unheld τ) ω (wakeupHandling n) := by
  have hrestore : Stays (Unheld τ) ω restoreManualFlagExt1 :=
    .bind ((blind _ τ ω).digitalRead _) fun _ => .when (.modify fun _ h => h)
  have hmenu : ∀ active, Stays (Unheld τ) ω (modifyMenu fun m => { m with menuActive := active }) :=
    fun _ => .modify fun _ h => h
  refine .get_bind fun w => .bind (.modify fun _ h => h) fun _ => ?_
  refine .bind (.bind (.modify fun _ h => h) fun _ => hrestore) fun _ => ?_
  cases w.wakeup with
  | ext1 pin =>
    refine .bind hrestore fun _ => ?_
    cases pin with
    | clkInt =>
      refine .bind (.modify fun _ h => h) fun _ => .bind (.modify fun _ h => h) fun _ => ?_
      exact .bind (hmenu _) fun _ => alarmWakeupHandling n
    | swBack => exact longPressWakeup n .swBack (.inr rfl)
    | swFwd => exact longPressWakeup n .swFwd (.inl rfl)
    | swExit => exact hmenu _
    | swSelect => exact hmenu _
    | other => exact hmenu _
  | timer =>
    refine .bind (.modify fun _ h => h) fun _ => .bind (.modify fun _ h => h) fun _ => ?_
    refine .bind (hmenu _) fun _ => .bind (activateLDR n) fun _ => .when prepForDeepSleep
  | undefined => exact hmenu _

theorem Unheld.setupEnd (n : Nat) : Stays (Unheld τ) ω (setupEnd n) := by
  have hend : Stays (Unheld τ) ω (do
      let now ← millis
      modifyBtn fun b => { b with blinkZero := now }) :=
    .bind (blind _ τ ω).millis fun _ => .modify fun _ h => h
  refine .get_bind fun _ => .ite (.bind (.modify fun _ h => h) fun _ => hend) ?_
  refine .bind (.modify fun _ h => h) fun _ => .bind ((work _ τ ω).statusabfrage n) fun _ => ?_
  exact .bind (.modify fun _ h => h) fun _ => hend

/-- After a boot no button is being held. -/
theorem Unheld.boot (n : Nat) : Stays (Unheld τ) ω (boot n) :=
  .bind initGlobals fun _ => .bind setupStart fun _ => .bind (wakeupHandling n) fun _ => setupEnd n

end Boot

end HandsOff

end Eggvault.Spec
