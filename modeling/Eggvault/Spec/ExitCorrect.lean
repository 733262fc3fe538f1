import Eggvault.Spec.ErrorCorrect
import Eggvault.Spec.ModeCorrect
import Eggvault.Spec.TravelCorrect

/-!
# The way back to the start screen

On a configured device without errors EXIT leads from every screen back to the start screen, if
need be step by step.  The exceptions are 510 and 610: screens 500 and 600 set these numbers, and
no branch of `menuFunctions` answers to them.

## Key results

- `menuFunctions_steps`: a call of `menuFunctions` returns and leads to the next screen
- `exits_home_iff`: the menu states from which EXIT leads home
-/

namespace Eggvault.Spec

open Eggvault.Native Prog Trace

/-! ## Screens -/

/-- The screen and the mode after a call on a configured device. -/
def nextScreen (action : BtnAction) (m : Menu) : Setmode × Nat :=
  match editScreen m.menuId with
  | some f => ((f action m).timeSetMode, (f action m).menuId)
  | none =>
    match m.menuId with
    | 0 => (m.timeSetMode, (hub 3 4 100 0 0 action m).menuId)
    | 3 | 4 | 900 => (m.timeSetMode, 0)
    | 300 => next300 action m.timeSetMode 1
    | 400 => next400 action m.timeSetMode 1
    | _ => (m.timeSetMode, m.menuId)

/-- The screens of a configured device. -/
def isScreen : Nat → Bool
  | 0 | 3 | 4 | 100 | 110 | 200 | 300 | 400 | 500 | 600 | 700 | 800 | 810 | 820 | 900 => true
  | _ => false

/-- The numbers that screens 500 and 600 set and that no branch answers to. -/
def isDeadEnd : Nat → Bool
  | 510 | 610 => true
  | _ => false

/-- How many EXITs lead from a screen to the start screen. -/
def exitsFrom (mode : Setmode) : Nat → Nat
  | 0 => 0
  | 110 | 800 => 2
  | 300 | 400 => if mode = .setNothing then 1 else 2
  | 810 => 3
  | 820 => if mode = .setNothing then 6 else if mode = .setMinute then 5 else 4
  | _ => 1

theorem exitsFrom_le (mode : Setmode) (id : Nat) : exitsFrom mode id ≤ 6 := by
  unfold exitsFrom
  split
  · omega
  · omega
  · omega
  · split <;> omega
  · split <;> omega
  · omega
  · split
    · omega
    · split <;> omega
  · omega

section Screens

variable {m : Menu} {action : BtnAction}

/-- EXIT comes closer to the start screen, and stays there. -/
theorem exit_closer (h : isScreen m.menuId = true) :
    isScreen (nextScreen .exit m).2 = true ∧
      exitsFrom (nextScreen .exit m).1 (nextScreen .exit m).2 ≤
        exitsFrom m.timeSetMode m.menuId - 1 := by
  unfold isScreen at h
  split at h
  · next hid => simp [nextScreen, hid, editScreen, hub, isScreen, exitsFrom]
  · next hid => simp [nextScreen, hid, editScreen, isScreen, exitsFrom]
  · next hid => simp [nextScreen, hid, editScreen, isScreen, exitsFrom]
  · next hid => simp [nextScreen, hid, editScreen, screen100, isScreen, exitsFrom]
  · next hid =>
    -- the choice of days leads to the entry above it
    simp only [nextScreen, hid, editScreen, screen110]
    split <;> exact ⟨rfl, Nat.le_refl _⟩
  · next hid => simp [nextScreen, hid, editScreen, screen200, isScreen, exitsFrom]
  · next hid =>
    -- an EXIT from an edit saves and stays
    cases hm : m.timeSetMode <;>
      simp [nextScreen, hid, hm, editScreen, next300, isScreen, exitsFrom]
  · next hid =>
    cases hm : m.timeSetMode <;>
      simp [nextScreen, hid, hm, editScreen, next400, isScreen, exitsFrom]
  · next hid => simp [nextScreen, hid, editScreen, screen500, hub, isScreen, exitsFrom]
  · next hid => simp [nextScreen, hid, editScreen, screen600, hub, isScreen, exitsFrom]
  · next hid => simp [nextScreen, hid, editScreen, hub, isScreen, exitsFrom]
  · next hid => simp [nextScreen, hid, editScreen, screen800, isScreen, exitsFrom]
  · next hid => simp [nextScreen, hid, editScreen, screen810, isScreen, exitsFrom]
  · next hid =>
    -- from the confirmation over the minute and the hour to the screen before
    have hback : ∀ (mode : Setmode) (c : Prop) [Decidable c],
        isScreen (if c then 810 else 800) = true ∧ exitsFrom mode (if c then 810 else 800) ≤ 3 := by
      intro mode c _
      split
      · exact ⟨rfl, Nat.le_refl 3⟩
      · exact ⟨rfl, Nat.le_succ 2⟩
    cases hm : m.timeSetMode with
    | setNothing => simp [nextScreen, hid, hm, editScreen, screen820, isScreen, exitsFrom]
    | setMinute => simp [nextScreen, hid, hm, editScreen, screen820, isScreen, exitsFrom]
    | _ =>
      simp only [nextScreen, hid, hm, editScreen, screen820]
      exact hback _ _
  · next hid => simp [nextScreen, hid, editScreen, isScreen, exitsFrom]
  · cases h

/-- A refresh stays on the screen, or goes on to the start screen. -/
theorem refresh_stays (h : isScreen m.menuId = true) :
    isScreen (nextScreen .nothing m).2 = true ∧
      exitsFrom (nextScreen .nothing m).1 (nextScreen .nothing m).2 ≤
        exitsFrom m.timeSetMode m.menuId := by
  unfold isScreen at h
  split at h
  all_goals next hid =>
    simp [nextScreen, hid, editScreen, screen100, screen110, screen200, screen500, screen600,
      screen800, screen810, screen820, hub, next300, next400, isScreen, exitsFrom] at h ⊢

/-- The screens of the editor are screens. -/
theorem editorScreen.isScreen {id : Nat} (h : editorScreen id) : isScreen id = true := by
  simp only [editorScreen, List.mem_cons, List.not_mem_nil, or_false] at h
  rcases h with rfl | rfl | rfl | rfl | rfl | rfl | rfl <;> rfl

/-- A button leads to a screen or into a dead end.  SELECT on screen 700 sends the device to sleep. -/
theorem button_leads (h : isScreen m.menuId = true) (hs : m.menuId = 700 → action ≠ .select) :
    isScreen (nextScreen action m).2 = true ∨ isDeadEnd (nextScreen action m).2 = true := by
  unfold isScreen at h
  split at h
  · next hid => cases action <;> simp [nextScreen, hid, editScreen, hub, isScreen]
  · next hid => simp [nextScreen, hid, editScreen, isScreen]
  · next hid => simp [nextScreen, hid, editScreen, isScreen]
  · next hid => cases action <;> simp [nextScreen, hid, editScreen, screen100, isScreen]
  · next hid =>
    left
    -- the editors lead to each other, and out of the editing
    simpa [nextScreen, hid, editScreen] using (@screen110_leads m action hid).isScreen
  · next hid => cases action <;> simp [nextScreen, hid, editScreen, screen200, isScreen]
  · next hid =>
    cases action <;> cases hm : m.timeSetMode <;>
      simp [nextScreen, hid, hm, editScreen, next300, isScreen]
  · next hid =>
    cases action <;> cases hm : m.timeSetMode <;>
      simp [nextScreen, hid, hm, editScreen, next400, isScreen]
  · next hid =>
    cases action <;> simp [nextScreen, hid, editScreen, screen500, hub, isScreen, isDeadEnd]
  · next hid =>
    cases action <;> simp [nextScreen, hid, editScreen, screen600, hub, isScreen, isDeadEnd]
  · next hid =>
    cases action with
    | select =>
      -- SELECT would send the device to sleep
      exact absurd rfl (hs hid)
    | _ => simp [nextScreen, hid, editScreen, hub, isScreen]
  · next hid =>
    left
    simpa [nextScreen, hid, editScreen] using (@screen800_leads m action hid).isScreen
  · next hid =>
    left
    simpa [nextScreen, hid, editScreen] using (@screen810_leads m action hid).isScreen
  · next hid =>
    left
    simpa [nextScreen, hid, editScreen] using (@screen820_leads m action hid).isScreen
  · next hid => simp [nextScreen, hid, editScreen, isScreen]
  · cases h

/-- There is no way out of a dead end. -/
theorem deadEnd_stays (h : isDeadEnd m.menuId = true) (action : BtnAction) :
    nextScreen action m = (m.timeSetMode, m.menuId) := by
  unfold isDeadEnd at h
  split at h
  · next hid => simp [nextScreen, hid, editScreen]
  · next hid => simp [nextScreen, hid, editScreen]
  · cases h

end Screens

/-! ## Status checks and moves while the menu is active -/

/-- A status check or a move has come back to the menu, with its screen or with an error. -/
structure Rests (w w' : World) : Prop where
  nox : w'.sched.fInitNox = w.sched.fInitNox
  active : w'.menu.menuActive = true
  mode : w'.menu.timeSetMode = w.menu.timeSetMode
  screen : w'.door.errorFlag = .noError → w'.menu.menuId = w.menu.menuId

theorem Rests.of_menu {w w' : World} (ha : w.menu.menuActive = true) (hm : w'.menu = w.menu)
    (hn : w'.sched.fInitNox = w.sched.fInitNox) : Rests w w' := by
  refine ⟨hn, ?_, ?_, fun _ => ?_⟩
  · rw [hm]; exact ha
  · rw [hm]
  · rw [hm]

/-- What happened before the menu and the scheduler were touched. -/
theorem Rests.before {w w₁ w' : World} (h : Rests w₁ w') (hm : w₁.menu = w.menu)
    (hn : w₁.sched.fInitNox = w.sched.fInitNox) : Rests w w' := by
  refine ⟨h.nox.trans hn, h.active, h.mode.trans ?_, fun he => (h.screen he).trans ?_⟩
  · rw [hm]
  · rw [hm]

section Returns

variable [TimeLib] {ω : Env} {w w₁ : World} {a : DoorDayAlarm} {pos : Klappenposition}

omit [TimeLib] in
/-- The end of a pass that leaves the menu active. -/
theorem finishScheduling_rests (ha : w.menu.menuActive = true) (hm : w₁.menu = w.menu)
    (hn : w₁.sched.fInitNox = w.sched.fInitNox) {n : Nat} :
    wp finishScheduling ⟨fun _ => Rests w, fun _ => False, fun _ => n < 2⟩ ω w₁ := by
  have hlit : (lit w₁).menu = w₁.menu ∧ (lit w₁).sched = w₁.sched := by
    unfold lit
    split <;> exact ⟨rfl, rfl⟩
  rw [wp_finishScheduling]
  refine ⟨fun _ => .of_menu ha (hlit.1.trans hm) ?_, fun hoff => ?_⟩
  · rw [hlit.2]
    exact hn
  · rw [hm, ha] at hoff
    cases hoff

/-- The end of a pass with a plan: the sensor only measures. -/
theorem goes_rests (n : Nat) (hpos : pos = .posUp ∨ pos = .posDown)
    (p : Plan) :
    Goes ω n pos a p w ⟨fun _ w₂ => w₂.menu = w.menu ∧ w₂.sched.fInitNox = w.sched.fInitNox,
      fun _ => False, fun _ => n = 0⟩ := by
  constructor
  · intro w₂ h₂ _
    exact ⟨h₂.menu, h₂.nox⟩
  · intro w₂ h₂ _
    have hmove : w₂.sched.nextMove = pos := h₂.nextMove
    simp only [armLight, wp_bind, wp_modifySched, wp_get, wp_ite, wp_emit, wp_enableTimerWakeup,
      wp_pure]
    refine ⟨fun _ => ⟨h₂.menu, h₂.nox⟩, fun _ => ?_⟩
    apply wp_mono (activateLDR_polls (w := withLight w₂ w₂.timer) n hpos hmove rfl)
    · intro _ w₃ hw₃
      rw [hw₃]
      exact ⟨h₂.menu, h₂.nox⟩
    · intro _ hf
      exact hf
    · rintro w₃ ⟨h0, -⟩
      exact h0

theorem wrongMode_rests (ha : w.menu.menuActive = true) (hm : w₁.menu = w.menu)
    (hn : w₁.sched.fInitNox = w.sched.fInitNox) {n : Nat} :
    wp wrongMode ⟨fun _ => Rests w, fun _ => False, fun _ => n < 2⟩ ω w₁ := by
  rw [wp_wrongMode]
  refine ⟨fun _ => .of_menu ha hm hn, fun hoff => ?_⟩
  rw [hm, ha] at hoff
  cases hoff

theorem setNextOpeningAlarm_rests (ha : w.menu.menuActive = true) (n : Nat) :
    wp (setNextOpeningAlarm n) ⟨fun _ => Rests w, fun _ => False, fun _ => n < 2⟩ ω w := by
  cases n with
  | zero => exact wp_pending.mpr (by omega)
  | succ n =>
    rw [setNextOpeningAlarm, wp_get_bind]
    apply wp_then (startScheduling_starts _ _)
    intro _ w₁ h₁
    split
    · exact wrongMode_rests ha h₁.menu h₁.nox
    · next mode _ =>
      apply wp_seq (wp_mono (openingSwitch_goes n mode h₁ (goes_rests n (.inl rfl) _))
        (fun _ _ h => h) (fun _ h => h) (fun _ h => by omega))
      rintro _ w₂ ⟨hm, hn⟩
      exact finishScheduling_rests ha hm hn

theorem setNextClosingAlarm_rests (ha : w.menu.menuActive = true) (n : Nat) :
    wp (setNextClosingAlarm n) ⟨fun _ => Rests w, fun _ => False, fun _ => n < 2⟩ ω w := by
  cases n with
  | zero => exact wp_pending.mpr (by omega)
  | succ n =>
    rw [setNextClosingAlarm, wp_get_bind]
    apply wp_then (startScheduling_starts _ _)
    intro _ w₁ h₁
    split
    · exact wrongMode_rests ha h₁.menu h₁.nox
    · next mode _ =>
      apply wp_seq (wp_mono (closingSwitch_goes n mode h₁ (goes_rests n (.inr rfl) _))
        (fun _ _ h => h) (fun _ h => h) (fun _ h => by omega))
      rintro _ w₂ ⟨hm, hn⟩
      exact finishScheduling_rests ha hm hn

/-- A status check comes back to the menu. -/
theorem statusabfrage_rests (ha : w.menu.menuActive = true) (n : Nat) :
    wp (statusabfrage n) ⟨fun _ => Rests w, fun _ => False, fun _ => n < 3⟩ ω w := by
  cases n with
  | zero => exact wp_pending.mpr (by omega)
  | succ n =>
    rw [statusabfrage, wp_bind, wp_readStatus]
    apply (wp_get_bind _).mpr
    apply (wp_ite _ _ _).mpr
    refine ⟨fun he => ?_, fun he => ?_⟩
    · simp only [reportError, wp_bind, wp_emit, wp_modifyMenu, wp_modifySched]
      exact ⟨rfl, rfl, rfl, fun hno => absurd hno he⟩
    · have he' : (lookedAt ω w).door.errorFlag = .noError := not_not.mp he
      have hopen := setNextOpeningAlarm_rests (ω := ω)
        (w := { lookedAt ω w with trace := .status false :: (lookedAt ω w).trace }) ha n
      have hclose := setNextClosingAlarm_rests (ω := ω)
        (w := { lookedAt ω w with trace := .status false :: (lookedAt ω w).trace }) ha n
      have hback : ∀ {m : Fw Unit} {w₁ : World}, w₁.menu = w.menu → w₁.sched = w.sched →
          wp m ⟨fun _ => Rests w₁, fun _ => False, fun _ => n < 2⟩ ω w₁ →
          wp m ⟨fun _ => Rests w, fun _ => False, fun _ => n + 1 < 3⟩ ω w₁ := by
        intro m w₁ hm hs h
        exact wp_mono h (fun _ _ hr => hr.before hm (by rw [hs])) (fun _ hf => hf)
          (fun _ hf => by omega)
      simp only [wp_bind, wp_emit]
      cases hp : (lookedAt ω w).door.doorPosition with
      | posUp => exact hback rfl rfl hclose
      | posDown => exact hback rfl rfl hopen
      | posBlocked =>
        -- a blocked door has just set the error flag
        have hblocked : position (ω w.tick).endUp (ω (w.tick + 1)).endLow = .posBlocked := hp
        have hflag : (lookedAt ω w).door.errorFlag = .timerBlockedElapsed := if_pos hblocked
        rw [hflag] at he'
        cases he'
      | posDriving =>
        apply (wp_ite _ _ _).mpr
        exact ⟨fun _ => hback rfl rfl hopen, fun _ => hback rfl rfl hclose⟩

/-- The clock runs during every move. -/
def ClockRuns (ω : Env) (w : World) (pos : Klappenposition) : Prop := ∃ T, Paced ω T pos w

/-- A move comes back to the menu if the clock runs. -/
theorem moveMotor_rests (ha : w.menu.menuActive = true) (hpos : pos = .posUp ∨ pos = .posDown)
    (n : Nat) :
    wp (moveMotor n pos) ⟨fun _ => Rests w, fun _ => False,
      fun _ => n ≤ roundLimit ∨ ¬ ClockRuns ω w pos⟩ ω w := by
  cases n with
  | zero => exact wp_pending.mpr (.inl (Nat.zero_le _))
  | succ n =>
    have hb : Blind ω fun w' => w'.menu = w.menu ∧ w'.sched = w.sched :=
      ⟨fun _ h => h, fun _ _ _ h => h, fun _ _ h => h, fun _ _ _ h => h, fun _ _ _ _ h => h⟩
    have hloop : ∀ w₁, startMove ω w = .done () w₁ → w₁.menu = w.menu ∧ w₁.sched = w.sched →
        wp (moveLoop pos n) ⟨fun _ w₂ => w₂.menu = w.menu ∧ w₂.sched = w.sched, fun _ => False,
          fun _ => n + 1 ≤ roundLimit ∨ ¬ ClockRuns ω w pos⟩ ω w₁ := by
      intro w₁ hrun h₁
      by_cases hc : roundLimit ≤ n ∧ ClockRuns ω w pos
      · -- the budget lasts until the time limits end the loop
        obtain ⟨hn, T, hT⟩ := hc
        obtain ⟨w', hlimit⟩ := hT.returns hpos hrun (Nat.le_refl roundLimit)
        have hdone : moveLoop pos n ω w₁ = .done () w' := repeatWhile_done hlimit hn
        have h' : w'.menu = w.menu ∧ w'.sched = w.sched :=
          wp_run (hb.moveLoop pos n w₁ h₁) hdone
        rw [wp_iff, hdone]
        exact h'
      · -- otherwise nothing is known about the end of the loop
        have hout : n + 1 ≤ roundLimit ∨ ¬ ClockRuns ω w pos := by
          by_cases hn : roundLimit ≤ n
          · exact .inr fun hp => hc ⟨hn, hp⟩
          · exact .inl (by omega)
        refine wp_repeatWhile (fun w' => w'.menu = w.menu ∧ w'.sched = w.sched) (fun w' h' => ?_)
          (fun _ _ => hout) n h₁
        rw [wp_get_bind, wp_ite, wp_pure]
        refine ⟨fun _ => h', fun _ => ?_⟩
        apply wp_of_run (moveIteration_left pos)
        intro again w'' hrun'' _
        have h'' := wp_run (hb.moveIteration pos w' h') hrun''
        cases again <;> exact h''
    rw [moveMotor, wp_bind]
    apply wp_of_run startMove_left
    intro _ w₁ hrun₁ _
    have h₁ := wp_run (hb.startMove w ⟨rfl, rfl⟩) hrun₁
    apply wp_seq (hloop w₁ hrun₁ h₁)
    intro _ w₂ h₂
    rw [wp_bind]
    apply wp_of_run finishMove_returns
    intro _ w₃ hrun₃ _
    have h₃ : w₃.menu = w.menu ∧ w₃.sched = w.sched := wp_run (hb.finishMove w₂ h₂) hrun₃
    have ha₃ : w₃.menu.menuActive = true := by rw [h₃.1]; exact ha
    refine wp_mono (statusabfrage_rests ha₃ n) (fun _ _ hr => hr.before h₃.1 (by rw [h₃.2]))
      (fun _ hf => hf) (fun _ hf => .inl ?_)
    unfold roundLimit
    omega

/-! ## Calls of `menuFunctions` -/

/-- A call has come back with the next screen, or with an error. -/
structure Stepped (action : BtnAction) (w w' : World) : Prop where
  nox : w'.sched.fInitNox = w.sched.fInitNox
  active : w'.menu.menuActive = true
  next : w'.door.errorFlag = .noError →
    (w'.menu.timeSetMode, w'.menu.menuId) = nextScreen action w.menu

/-- Where a call may be cut off: the budget is too small, or the clock stands still during a move. -/
def CutOff (ω : Env) (n : Nat) : Prop :=
  n ≤ roundLimit ∨ ∃ w pos, (pos = .posUp ∨ pos = .posDown) ∧ ¬ ClockRuns ω w pos

/-- What is promised of a call. -/
def steps (ω : Env) (n : Nat) (action : BtnAction) (w : World) : Post World Unit :=
  ⟨fun _ => Stepped action w, fun _ => w.menu.menuId = 700 ∧ action = .select, fun _ => CutOff ω n⟩

variable {n : Nat} {action : BtnAction}

omit [TimeLib] in
/-- A screen that only edits menu variables. -/
theorem editScreen_steps {f : BtnAction → Menu → Menu} (ha : w.menu.menuActive = true)
    (hf : editScreen w.menu.menuId = some f) :
    Stepped action w { w with menu := f action w.menu } := by
  refine ⟨rfl, (editScreen_edits hf action w.menu).active.trans ha, fun _ => ?_⟩
  simp only [nextScreen, hf]

theorem screen000_steps (ha : w.menu.menuActive = true) (hid : w.menu.menuId = 0) :
    wp (screen000 n action) (steps ω n action w) ω w := by
  have hub_steps : ∀ w₁ : World, Rests (restamped ω w) w₁ → Stepped action w
      { w₁ with menu := hub 3 4 100 0 0 action w₁.menu } := by
    intro w₁ h₁
    have hmode : w₁.menu.timeSetMode = w.menu.timeSetMode := h₁.mode
    refine ⟨h₁.nox, ?_, fun _ => ?_⟩
    · rw [hub_menuId]
      exact h₁.active
    · cases action <;> simp [nextScreen, hid, editScreen, hub, hmode]
  apply wp_restamp.mpr
  apply (wp_get_bind _).mpr
  apply (wp_bind _ _).mpr
  apply (wp_when _ _).mpr
  refine ⟨fun _ => ?_, fun _ => ?_⟩
  · -- EXIT ends the manual mode and schedules again
    simp only [wp_bind, wp_modifySched, wp_digitalWrite_led]
    refine wp_mono (statusabfrage_rests ?_ n) (fun _ w₁ h₁ => ?_) (fun _ hf => hf.elim)
      (fun _ hn => ?_)
    · exact ha
    · exact (wp_modifyMenu _).mpr (hub_steps w₁ (h₁.before rfl rfl))
    · refine .inl ?_
      unfold roundLimit
      omega
  · exact (wp_modifyMenu _).mpr (hub_steps _ (.of_menu ha rfl rfl))

theorem manualScreen_steps (ha : w.menu.menuActive = true) (hid : w.menu.menuId = 3 ∨ w.menu.menuId = 4)
    (hpos : pos = .posUp ∨ pos = .posDown) :
    wp (manualScreen n pos) (steps ω n action w) ω w := by
  simp only [manualScreen, wp_bind, wp_modifySched, wp_digitalWrite_led, wp_modifyMenu]
  refine wp_mono (moveMotor_rests ?_ hpos n) (fun _ w₁ h₁ => ?_) (fun _ hf => hf.elim)
    (fun _ hn => ?_)
  · exact ha
  · have hmode : w₁.menu.timeSetMode = w.menu.timeSetMode := h₁.mode
    refine ⟨h₁.nox, h₁.active, fun _ => ?_⟩
    rcases hid with hid | hid <;> simp [nextScreen, hid, editScreen, hmode]
  · rcases hn with hn | hn
    · exact .inl hn
    · exact .inr ⟨_, pos, hpos, hn⟩

theorem screen900_steps (hnox : w.sched.fInitNox ≠ 0) (ha : w.menu.menuActive = true)
    (hid : w.menu.menuId = 900) : wp (screen900 n) (steps ω n action w) ω w := by
  simp only [screen900, wp_bind, wp_modifyMenu, wp_get]
  rw [if_neg hnox]
  simp only [wp_bind, wp_saveAlarmValues]
  refine wp_mono (statusabfrage_rests ?_ n) (fun _ w₁ h₁ => ?_) (fun _ hf => hf.elim) (fun _ hn => ?_)
  · exact ha
  · have hmode : w₁.menu.timeSetMode = w.menu.timeSetMode := h₁.mode
    refine ⟨h₁.nox, h₁.active, fun he => ?_⟩
    have hzero : w₁.menu.menuId = 0 := h₁.screen he
    simp [nextScreen, hid, editScreen, hmode, hzero]
  · refine .inl ?_
    unfold roundLimit
    omega

omit [TimeLib] in
theorem next300_configured {nox : Int32} (h : nox ≠ 0) (mode : Setmode) :
    next300 action mode nox = next300 action mode 1 := by
  cases action <;> cases mode <;> simp [next300, h]

omit [TimeLib] in
theorem next400_configured {nox : Int32} (h : nox ≠ 0) (mode : Setmode) :
    next400 action mode nox = next400 action mode 1 := by
  cases action <;> cases mode <;> simp [next400, h]

/-- Every screen of a configured device, and every dead end. -/
theorem screen_steps (hnox : w.sched.fInitNox ≠ 0) (ha : w.menu.menuActive = true) {id : Nat}
    (hid : w.menu.menuId = id) (hs : isScreen id = true ∨ isDeadEnd id = true) :
    wp (screen n action id) (steps ω n action w) ω w := by
  have hedit : ∀ f, editScreen id = some f →
      wp (modifyMenu (f action)) (steps ω n action w) ω w := fun f hf =>
    (wp_modifyMenu _).mpr (editScreen_steps ha (by rw [hid]; exact hf))
  have hclock : ∀ read saves c next, nextScreen action w.menu = next →
      Stepped action w (screened ω w read saves c next) := by
    intro read saves c next hnext
    cases read <;> exact ⟨rfl, ha, fun _ => hnext.symm⟩
  unfold screen
  split
  · exact screen000_steps ha hid
  · -- the first set-up and the error screen are no screens of this walk
    rcases hs with hs | hs <;> cases hs
  · rcases hs with hs | hs <;> cases hs
  · exact manualScreen_steps ha (.inl hid) (.inl rfl)
  · exact manualScreen_steps ha (.inr hid) (.inr rfl)
  · exact hedit _ rfl
  · exact hedit _ rfl
  · exact hedit _ rfl
  · rw [wp_iff, screen300_eq hid]
    refine hclock _ _ _ _ ?_
    rw [next300_configured hnox]
    simp [nextScreen, hid, editScreen]
  · rw [wp_iff, screen400_eq hid]
    refine hclock _ _ _ _ ?_
    rw [next400_configured hnox]
    simp [nextScreen, hid, editScreen]
  · exact hedit _ rfl
  · exact hedit _ rfl
  · simp only [screen700, wp_bind, wp_modifyMenu, wp_when, wp_prepForDeepSleep]
    exact ⟨fun hsel => ⟨hid, hsel⟩, fun _ => editScreen_steps ha (by rw [hid]; rfl)⟩
  · exact hedit _ rfl
  · exact hedit _ rfl
  · exact hedit _ rfl
  · exact screen900_steps hnox ha hid
  · -- no branch answers to this number
    rcases hs with hs | hs
    · unfold isScreen at hs
      split at hs <;> contradiction
    · have hstay := deadEnd_stays (m := w.menu) (by rw [hid]; exact hs) action
      exact (wp_pure _).mpr ⟨rfl, ha, fun _ => hstay.symm⟩

/-- What a press does to the menu before the screen acts. -/
def pressed (action : BtnAction) (m : Menu) : Menu :=
  if action = .nothing then m else { m with menuRefreshFlag := true }

/-- A call of `menuFunctions` on a configured device. -/
theorem menuFunctions_steps (hnox : w.sched.fInitNox ≠ 0) (ha : w.menu.menuActive = true)
    (hs : isScreen w.menu.menuId = true ∨ isDeadEnd w.menu.menuId = true) :
    wp (menuFunctions n action)
      (steps ω n action { w with menu := pressed action w.menu }) ω w := by
  have hgo : ∀ w₁ : World, w₁.sched.fInitNox ≠ 0 → w₁.menu.menuActive = true →
      (isScreen w₁.menu.menuId = true ∨ isDeadEnd w₁.menu.menuId = true) →
      wp (do
        let menuId := (← get).menu.menuId
        setDispatch (.menu menuId action)
        call (.menuFunctions action)
        screen n action menuId) (steps ω n action w₁) ω w₁ := by
    intro w₁ hn₁ ha₁ hs₁
    simp only [wp_bind, wp_get, wp_setDispatch, wp_call]
    refine wp_mono (screen_steps (w := entered w₁ action) hn₁ ha₁ rfl hs₁) ?_ ?_ ?_
    · exact fun _ _ h => ⟨h.nox, h.active, h.next⟩
    · exact fun _ h => h
    · exact fun _ h => h
  rw [menuFunctions, wp_bind, wp_when, wp_modifyMenu]
  unfold pressed
  refine ⟨fun hne => ?_, fun heq => ?_⟩
  · rw [if_neg hne]
    exact hgo _ hnox ha hs
  · rw [if_pos (not_not.mp heq)]
    exact hgo w hnox ha hs

end Returns

/-! ## The way home -/

/-- A configured device without an error, with its menu on. -/
structure Calm (w : World) : Prop where
  nox : w.sched.fInitNox ≠ 0
  noError : w.door.errorFlag = .noError
  active : w.menu.menuActive = true

instance (w : World) : Decidable (Calm w) :=
  decidable_of_iff (w.sched.fInitNox ≠ 0 ∧ w.door.errorFlag = .noError ∧ w.menu.menuActive = true)
    ⟨fun h => ⟨h.1, h.2.1, h.2.2⟩, fun h => ⟨h.nox, h.noError, h.active⟩⟩

/-- Between two calls of `menuFunctions` everything else may change, and of the menu what only the
    display depends on. -/
structure Meanwhile (w w' : World) : Prop where
  calm : Calm w'
  menu : ∃ refresh blink count,
    w'.menu = { w.menu with menuRefreshFlag := refresh, blink := blink, blinkCount := count }

theorem Meanwhile.refl {w : World} (h : Calm w) : Meanwhile w w := ⟨h, _, _, _, rfl⟩

section Home

variable [TimeLib]

/-- The menu states that buttons and refreshes lead to from the start screen. -/
inductive MenuState (ω : Env) : World → Prop where
  | start (w : World) (hc : Calm w) (hid : w.menu.menuId = 0) : MenuState ω w
  | step (w w₁ w' : World) (n : Nat) (action : BtnAction) (h : MenuState ω w)
      (hm : Meanwhile w w₁) (hrun : menuFunctions n action ω w₁ = .done () w') (hc : Calm w') :
      MenuState ω w'

/-- Any number of refreshes. -/
inductive Refreshes (ω : Env) (w : World) : World → Prop where
  | idle (w₁ : World) (hm : Meanwhile w w₁) : Refreshes ω w w₁
  | refresh (w₁ w₂ w₃ : World) (n : Nat) (h : Refreshes ω w w₁)
      (hrun : menuFunctions n .nothing ω w₁ = .done () w₂) (hc : Calm w₂) (hm : Meanwhile w₂ w₃) :
      Refreshes ω w w₃

/-- At most so many EXITs lead to the start screen, whatever refreshes there are in between: each of
    them returns, and unless it ends in an error the rest do. -/
def Home (ω : Env) : Nat → World → Prop
  | 0, w => w.menu.menuId = 0
  | k + 1, w => w.menu.menuId = 0 ∨ ∀ w₁, Refreshes ω w w₁ →
      ∃ n w₂, menuFunctions n .exit ω w₁ = .done () w₂ ∧ (Calm w₂ → Home ω k w₂)

variable {ω : Env} {w w₁ w' : World} {n : Nat} {action : BtnAction}

/-- A call that has returned without an error. -/
theorem stepped_of_run (hc : Calm w) (hc' : Calm w')
    (hs : isScreen w.menu.menuId = true ∨ isDeadEnd w.menu.menuId = true)
    (hrun : menuFunctions n action ω w = .done () w') :
    (w'.menu.timeSetMode, w'.menu.menuId) = nextScreen action (pressed action w.menu) := by
  have hstep : Stepped action { w with menu := pressed action w.menu } w' :=
    wp_run (menuFunctions_steps (n := n) hc.nox hc.active hs) hrun
  exact hstep.next hc'.noError

omit [TimeLib] in
theorem pressed_menuId (action : BtnAction) (m : Menu) : (pressed action m).menuId = m.menuId := by
  unfold pressed
  split <;> rfl

omit [TimeLib] in
theorem Meanwhile.menuId (h : Meanwhile w w') : w'.menu.menuId = w.menu.menuId := by
  obtain ⟨_, _, _, hm⟩ := h.menu
  rw [hm]

omit [TimeLib] in
theorem Meanwhile.timeSetMode (h : Meanwhile w w') :
    w'.menu.timeSetMode = w.menu.timeSetMode := by
  obtain ⟨_, _, _, hm⟩ := h.menu
  rw [hm]

theorem MenuState.calm (h : MenuState ω w) : Calm w := by
  induction h with
  | start w hc _ => exact hc
  | step w w₁ w' n action _ _ _ hc _ => exact hc

/-- The menu is on a screen or in a dead end. -/
theorem MenuState.screen (h : MenuState ω w) :
    isScreen w.menu.menuId = true ∨ isDeadEnd w.menu.menuId = true := by
  induction h with
  | start w _ hid => exact .inl (by rw [hid]; rfl)
  | step w w₁ w' n action _ hm hrun hc ih =>
    rw [← hm.menuId] at ih
    have hnext := stepped_of_run hm.calm hc ih hrun
    have hid : w'.menu.menuId = (nextScreen action (pressed action w₁.menu)).2 := by rw [← hnext]
    rw [hid]
    rcases ih with ih | ih
    · apply button_leads
      · rw [pressed_menuId]
        exact ih
      · -- SELECT on screen 700 does not return
        rintro h700 rfl
        rw [pressed_menuId] at h700
        have hsleep : wp (menuFunctions n .select)
            ⟨fun _ _ => False, fun _ => True, fun _ => True⟩ ω w₁ := by
          simp [menuFunctions, h700, Native.screen, screen700]
        exact wp_run hsleep hrun
    · rw [deadEnd_stays (by rw [pressed_menuId]; exact ih), pressed_menuId]
      exact .inr ih

/-- Refreshes do not lead away from the start screen. -/
theorem Refreshes.closer (h : Refreshes ω w w₁) (hs : isScreen w.menu.menuId = true) :
    Calm w₁ ∧ isScreen w₁.menu.menuId = true ∧
      exitsFrom w₁.menu.timeSetMode w₁.menu.menuId ≤ exitsFrom w.menu.timeSetMode w.menu.menuId := by
  induction h with
  | idle w₁ hm =>
    rw [hm.menuId, hm.timeSetMode]
    exact ⟨hm.calm, hs, Nat.le_refl _⟩
  | refresh w₁ w₂ w₃ n _ hrun hc hm ih =>
    obtain ⟨hcalm, hscreen, hle⟩ := ih
    have hnext := stepped_of_run hcalm hc (.inl hscreen) hrun
    obtain ⟨hs₂, hle₂⟩ := refresh_stays (m := w₁.menu) hscreen
    rw [show pressed .nothing w₁.menu = w₁.menu from rfl] at hnext
    rw [← hnext] at hs₂ hle₂
    rw [hm.menuId, hm.timeSetMode]
    exact ⟨hm.calm, hs₂, Nat.le_trans hle₂ hle⟩

omit [TimeLib] in
/-- Only the start screen takes no EXIT. -/
theorem eq_zero_of_exitsFrom {mode : Setmode} {id : Nat} (h : exitsFrom mode id ≤ 0) : id = 0 := by
  unfold exitsFrom at h
  split at h
  · rfl
  · omega
  · omega
  · split at h <;> omega
  · split at h <;> omega
  · omega
  · split at h
    · omega
    · split at h <;> omega
  · omega

/-- An EXIT returns if the clock runs during moves. -/
theorem exit_returns (hclock : ∀ w pos, pos = .posUp ∨ pos = .posDown → ClockRuns ω w pos)
    (hc : Calm w) (hs : isScreen w.menu.menuId = true) :
    ∃ w', menuFunctions (roundLimit + 1) .exit ω w = .done () w' := by
  have hwp : wp (menuFunctions (roundLimit + 1) .exit) ⟨fun _ _ => True, fun _ => False,
      fun _ => False⟩ ω w := by
    refine wp_mono (menuFunctions_steps (ω := ω) hc.nox hc.active (.inl hs)) (fun _ _ _ => trivial)
      (fun _ hsleep => ?_) (fun _ hcut => ?_)
    · obtain ⟨-, hexit⟩ := hsleep
      cases hexit
    · rcases hcut with hn | ⟨w₁, pos, hpos, hstill⟩
      · omega
      · exact hstill (hclock w₁ pos hpos)
  obtain ⟨_, w', hrun, -⟩ := exists_run hwp
  exact ⟨w', hrun⟩

/-- From every screen the EXITs that it takes lead home. -/
theorem home_of_exits (hclock : ∀ w pos, pos = .posUp ∨ pos = .posDown → ClockRuns ω w pos)
    (k : Nat) (hs : isScreen w.menu.menuId = true)
    (hk : exitsFrom w.menu.timeSetMode w.menu.menuId ≤ k) : Home ω k w := by
  induction k generalizing w with
  | zero => exact eq_zero_of_exitsFrom hk
  | succ k ih =>
    right
    intro w₁ hr
    obtain ⟨hc₁, hs₁, hle₁⟩ := hr.closer hs
    obtain ⟨w₂, hrun⟩ := exit_returns hclock hc₁ hs₁
    refine ⟨roundLimit + 1, w₂, hrun, fun hc₂ => ?_⟩
    have hnext := stepped_of_run hc₁ hc₂ (.inl hs₁) hrun
    obtain ⟨hs₂, hle₂⟩ := exit_closer (m := pressed .exit w₁.menu) hs₁
    rw [← hnext] at hs₂ hle₂
    have hle : exitsFrom w₂.menu.timeSetMode w₂.menu.menuId ≤
        exitsFrom w₁.menu.timeSetMode w₁.menu.menuId - 1 := hle₂
    exact ih hs₂ (by omega)

/-- A call in a dead end does nothing. -/
theorem deadEnd_run (hd : isDeadEnd w.menu.menuId = true) (n : Nat) :
    wp (menuFunctions n .exit) ⟨fun _ w' => w'.menu.menuId = w.menu.menuId ∧ (Calm w → Calm w'),
      fun _ => False, fun _ => False⟩ ω w := by
  have hid : w.menu.menuId = 510 ∨ w.menu.menuId = 610 := by
    unfold isDeadEnd at hd
    split at hd
    · next heq => exact .inl heq
    · next heq => exact .inr heq
    · cases hd
  have hnone : screen n .exit w.menu.menuId = pure () := by
    rcases hid with hid | hid <;> rw [hid] <;> rfl
  simp only [menuFunctions, wp_bind, wp_when, wp_modifyMenu, wp_get, wp_setDispatch, wp_call, hnone,
    wp_pure]
  exact ⟨fun _ => ⟨rfl, fun hc => ⟨hc.nox, hc.noError, hc.active⟩⟩,
    fun hne => absurd (by decide) hne⟩

/-- No number of EXITs leads home from a dead end. -/
theorem not_home_of_deadEnd (hc : Calm w) (hd : isDeadEnd w.menu.menuId = true) (k : Nat) :
    ¬ Home ω k w := by
  have hne : w.menu.menuId ≠ 0 := by
    intro h0
    rw [h0] at hd
    cases hd
  induction k generalizing w with
  | zero => exact hne
  | succ k ih =>
    rintro (h0 | hall)
    · exact hne h0
    · obtain ⟨n, w₂, hrun, hhome⟩ := hall w (.idle w (.refl hc))
      obtain ⟨hid, hcalm⟩ := wp_run (deadEnd_run hd n) hrun
      refine ih (hcalm hc) ?_ ?_ (hhome (hcalm hc))
      · rw [hid]
        exact hd
      · rw [hid]
        exact hne

/-- On a configured device without errors, EXIT leads home from every menu state but the two numbers
    that no screen answers to. -/
theorem exits_home_iff (hclock : ∀ w pos, pos = .posUp ∨ pos = .posDown → ClockRuns ω w pos)
    (h : MenuState ω w) :
    (∃ k, Home ω k w) ↔ w.menu.menuId ≠ 510 ∧ w.menu.menuId ≠ 610 := by
  constructor
  · rintro ⟨k, hk⟩
    constructor
    · intro hid
      exact not_home_of_deadEnd h.calm (by rw [hid]; rfl) k hk
    · intro hid
      exact not_home_of_deadEnd h.calm (by rw [hid]; rfl) k hk
  · rintro ⟨h₁, h₂⟩
    rcases h.screen with hs | hd
    · exact ⟨6, home_of_exits hclock 6 hs (exitsFrom_le _ _)⟩
    · unfold isDeadEnd at hd
      split at hd
      · next hid => exact absurd hid h₁
      · next hid => exact absurd hid h₂
      · cases hd

end Home

/-! In the runs a button is down whenever the motor loop looks, so that every move ends at once. -/

/-- The inputs of the runs. -/
def buttonEnv : Env := fun _ => { swSelect := true }

theorem moveIteration_buttonEnv (pos : Klappenposition) (w : World) :
    wp (moveIteration pos) ⟨fun again _ => again = false, fun _ => False, fun _ => False⟩ buttonEnv w := by
  have hread : leftEarly (switchesRead buttonEnv pos w).trace = false :=
    (leftEarly_observe _).trans (leftEarly_observe _)
  refine wp_moveIteration (sensorBranch_left pos _ _ hread) (fun w₁ h₁ => timerChecks_left h₁)
    (fun _ _ => rfl) (fun w₂ _ => ?_)
  simp [buttonBreak, buttonCheck, World.level, buttonEnv]

theorem clockRuns_buttonEnv (w : World) (pos : Klappenposition) : ClockRuns buttonEnv w pos := by
  refine ⟨fun _ => 0, fun _ => rfl, fun _ _ _ => Nat.le_refl _, ?_, fun _ _ _ _ => by decide⟩
  intro ws u v hr
  cases hr with
  | next _ _ _ _ _ _ hrun => cases wp_run (moveIteration_buttonEnv pos u) hrun

/-- The device after so many presses in a row, if each of them returns without an error. -/
def presses [TimeLib] (ω : Env) : List BtnAction → World → Option World
  | [], w => some w
  | action :: actions, w =>
    match menuFunctions 1 action ω w with
    | .done _ w' => if Calm w' then presses ω actions w' else none
    | _ => none

theorem MenuState.presses [TimeLib] {ω : Env} {w w' : World} (h : MenuState ω w)
    (actions : List BtnAction) (hp : presses ω actions w = some w') : MenuState ω w' := by
  induction actions generalizing w with
  | nil =>
    cases hp
    exact h
  | cons action actions ih =>
    unfold Spec.presses at hp
    split at hp
    · next w₁ hrun =>
      split at hp
      · next hc => exact ih (.step w w w₁ 1 action h (.refl h.calm) hrun hc) hp
      · cases hp
    · cases hp

/-- A configured device on the start screen. -/
def startWorld : World := { sched := { fInitNox := 1 }, menu := { menuId := 0, menuActive := true } }

/-- The device on screen 110. -/
def daysWorld : World := (presses buttonEnv [.select, .select] startWorld).get (by decide +kernel)

/-- The device after SELECT on screen 500. -/
def strandedWorld : World :=
  (presses buttonEnv [.select, .left, .left, .left, .select] startWorld).get (by decide +kernel)

theorem menuState_presses_get (actions : List BtnAction)
    (h : (presses buttonEnv actions startWorld).isSome = true) :
    MenuState buttonEnv ((presses buttonEnv actions startWorld).get h) := by
  have hstart : MenuState buttonEnv startWorld := .start startWorld (by decide) rfl
  exact hstart.presses actions (by rw [Option.some_get])

theorem exits_home_iff_daysWorld :
    daysWorld.menu.menuId = 110 ∧ ∃ k, Home buttonEnv k daysWorld := by
  have hid : daysWorld.menu.menuId = 110 := by decide +kernel
  have hiff := exits_home_iff (fun w pos _ => clockRuns_buttonEnv w pos)
    (menuState_presses_get [.select, .select] (by decide +kernel))
  refine ⟨hid, hiff.mpr ⟨?_, ?_⟩⟩
  · exact fun h => absurd (hid.symm.trans h) (by decide)
  · exact fun h => absurd (hid.symm.trans h) (by decide)

/-- SELECT on screen 500 leads to a number that no EXIT leads away from. -/
theorem exits_stranded :
    ¬ ∀ (ω : Env) (w : World),
      (∀ w pos, pos = .posUp ∨ pos = .posDown → ClockRuns ω w pos) → MenuState ω w →
        ∃ k, Home ω k w := by
  intro hall
  have hstate : MenuState buttonEnv strandedWorld := menuState_presses_get _ _
  obtain ⟨k, hk⟩ := hall buttonEnv strandedWorld (fun w pos _ => clockRuns_buttonEnv w pos) hstate
  have hdead : isDeadEnd strandedWorld.menu.menuId = true := by decide +kernel
  exact not_home_of_deadEnd hstate.calm hdead k hk

end Eggvault.Spec
