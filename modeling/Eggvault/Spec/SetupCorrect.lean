import Eggvault.Spec.EditCorrect
import Eggvault.Spec.MoveCorrect

/-!
# The first set-up

Until the first date has been saved, `F_init_NOX` is 0 and the menu is kept on the screens 001,
300, 400 and 900.  The screens 300, 400 and 900 look at the mark themselves; an error leads to
screen 002, which does not.

## Key results

- `setup_not_bypassed`: the set-up is not left while no error is cleared in it
- `setup_bypassed`: an acknowledged error leads to the start screen
-/

namespace Eggvault.Spec

open Eggvault.Native Prog Trace TimeLib

/-! ## What the menu may show -/

/-- A call of `menuUpdate` during the first set-up shows a screen of the set-up, or the error. -/
def SetupGuarded (tr : List Event) : Prop :=
  ∀ m tl, tr = .call .menuUpdate m :: tl → m.fInitNox = 0 →
    if m.door.errorFlag = .noError then Allowed m.menu.menuId else m.menu.menuId = 2

/-- During the first set-up no button is handled on screen 002, and no move starts while an
    error is set. -/
def errorKept : List Event → Bool
  | .call (.menuFunctions action) m :: _ =>
    m.fInitNox != 0 || m.menu.menuId != 2 || action == .nothing
  | .call .moveMotor m :: _ => m.fInitNox != 0 || m.door.errorFlag == .noError
  | _ => true

@[inherit_doc errorKept]
def ErrorKept (tr : List Event) : Prop := errorKept tr = true

instance (tr : List Event) : Decidable (ErrorKept tr) := inferInstanceAs (Decidable (_ = _))

/-- The menu is in the first set-up: the screen shown and the screen being processed. -/
structure InSetup (w : World) : Prop where
  screen : Allowed w.menu.menuId
  processed : ∀ k action, w.dispatch = .menu k action → Allowed k

/-- The invariant of the menu from the end of `setup` on. -/
structure Guided (w : World) : Prop where
  guarded : Historically SetupGuarded w.trace
  setup : w.sched.fInitNox = 0 → w.door.errorFlag = .noError → InSetup w

/-! ## Actions that leave the menu alone -/

/-- The event is not a call of `menuUpdate`. -/
def isNoUpdate : Event → Bool
  | .call .menuUpdate _ => false
  | _ => true

/-- From `w` to `w'` the menu has stayed where it was, and no error was cleared. -/
structure Steady (w w' : World) : Prop where
  nox : w'.sched.fInitNox = w.sched.fInitNox
  menuId : w'.menu.menuId = w.menu.menuId
  dispatch : w'.dispatch = w.dispatch
  error : w.sched.fInitNox = 0 → w.door.errorFlag ≠ .noError → w'.door.errorFlag ≠ .noError
  trace : Extends isNoUpdate w.trace w'.trace

section Steady

variable {w w' : World} {tr : List Event}

theorem setupGuarded_cons {e : Event} (he : isNoUpdate e = true)
    (h : Historically SetupGuarded tr) : Historically SetupGuarded (e :: tr) := by
  refine historically_cons.mpr ⟨fun m tl heq => ?_, h⟩
  obtain ⟨hhead, -⟩ := List.cons.inj heq
  rw [hhead] at he
  cases he

theorem Steady.guarded (h : Steady w w') (hg : Historically SetupGuarded w.trace) :
    Historically SetupGuarded w'.trace :=
  h.trace.keeps (fun _ _ he htr => setupGuarded_cons he htr) hg

theorem Steady.guided (h : Steady w w') (hI : Guided w) : Guided w' where
  guarded := h.guarded hI.guarded
  setup := by
    intro hn he
    have hn' : w.sched.fInitNox = 0 := h.nox.symm.trans hn
    by_cases herr : w.door.errorFlag = .noError
    · obtain ⟨hscreen, hprocessed⟩ := hI.setup hn' herr
      constructor
      · rw [h.menuId]
        exact hscreen
      · rw [h.dispatch]
        exact hprocessed
    · exact absurd he (h.error hn' herr)

theorem Steady.refl (w : World) : Steady w w where
  nox := rfl
  menuId := rfl
  dispatch := rfl
  error := fun _ he => he
  trace := .refl _

theorem Steady.emit {w₀ : World} (h : Steady w₀ w) {e : Event} (he : isNoUpdate e = true) :
    Steady w₀ { w with trace := e :: w.trace } :=
  { h with trace := h.trace.cons he }

theorem Steady.observe {w₀ : World} (h : Steady w₀ w) (s : Sample) : Steady w₀ (w.observe s) :=
  { h with trace := extends_observe h.trace (fun _ => rfl) s }

/-- A status check or a move does not call `menuUpdate`. -/
theorem Aside.noUpdate (h : Aside w w') : Extends isNoUpdate w.trace w'.trace := by
  refine h.trace.mono fun e he => ?_
  cases e with
  | call f m => cases f <;> first | rfl | cases he
  | _ => rfl

/-- A status check or a move that keeps the screen, if it clears no error. -/
theorem Aside.steady (h : Aside w w') (hmenu : w'.menu.menuId = w.menu.menuId)
    (herror : w.sched.fInitNox = 0 → w.door.errorFlag ≠ .noError → w'.door.errorFlag ≠ .noError) :
    Steady w w' where
  nox := h.nox
  menuId := hmenu
  dispatch := h.dispatch
  error := herror
  trace := h.noUpdate

end Steady

section Moves

variable {ω : Env} {w w' w₀ : World} {pos : Klappenposition}

/-- A move does not look at the menu. -/
theorem blind_menu (ω : Env) (m : Menu) : Blind ω fun w => w.menu = m where
  observe := fun _ h => h
  door := fun _ _ _ h => h
  pins := fun _ _ h => h
  emit := fun _ _ _ h => h
  store := fun _ _ _ _ h => h

/-- The end of a move clears no error of a blocked door. -/
theorem finishMove_error (h : w.door.doorPosition = .posBlocked ∨ w.door.errorFlag = .noError) :
    wp finishMove (returns fun w' => w'.door.errorFlag = w.door.errorFlag) ω w := by
  have hkept : (if w.door.doorPosition ≠ .posBlocked ∧ (w.door.errorFlag = .timerBlockedElapsed ∨
      w.door.errorFlag = .timerOpenElapsed ∨ w.door.errorFlag = .timerCloseElapsed)
      then .noError else w.door.errorFlag) = w.door.errorFlag := by
    rcases h with hp | he
    · rw [if_neg fun hc => hc.1 hp]
    · rw [he]
      simp
  simp only [finishMove, wp_bind, wp_modifyDoor, wp_digitalWrite_mFwd, wp_digitalWrite_mBack, wp_emit,
    wp_get, wp_memoryPut, wp_when]
  exact ⟨fun _ => hkept, fun _ => hkept⟩

/-- A move that was started without an error ends with the one that it has raised. -/
theorem Drove.error_kept (h : Drove ω pos w₀ w) (hC : Historically ErrorKept w.trace)
    (hrun : finishMove ω w = .done () w') (hn : w.sched.fInitNox = 0)
    (he : w.door.errorFlag ≠ .noError) : w'.door.errorFlag ≠ .noError := by
  have hn₀ : w₀.sched.fInitNox = 0 := h.aside.nox.symm.trans hn
  have hstart : w₀.door.errorFlag = .noError := by
    have hmoment : errorKept (w₀.called .moveMotor).trace = true := hC _ h.called
    simpa [errorKept, World.called, World.moment, hn₀] using hmoment
  rcases h.error with heq | ⟨hblocked, -⟩
  · exact absurd (heq.trans hstart) he
  · have hsame := wp_run (finishMove_error (.inl hblocked)) hrun
    intro hno
    exact he (hsame.symm.trans hno)

end Moves

/-! ## Actions -/

section Actions

variable [TimeLib] {ω : Env} {w w' : World}

/-- A status check or a move: the menu is left alone, or an error is shown. -/
theorem Work.guided (h : Work ω w w') (hC : Historically ErrorKept w'.trace) (hI : Guided w) :
    Guided w' := by
  have ha : Aside w w' := h.aside
  cases h with
  | read => exact ((Steady.refl w).observe _).guided hI
  | led => exact Steady.guided { Steady.refl w with } hI
  | startMove _ hrun =>
    have hmenu : w'.menu = w.menu := wp_run ((blind_menu ω w.menu).startMove w rfl) hrun
    have herror := (wp_run startMove_called hrun).2
    apply (ha.steady (congrArg Menu.menuId hmenu) _).guided hI
    intro _ he
    rw [herror]
    exact he
  | iterate _ _ pos again _ _ _ hrun =>
    have hmenu : w'.menu = w.menu := wp_run ((blind_menu ω w.menu).moveIteration pos w rfl) hrun
    apply (ha.steady (congrArg Menu.menuId hmenu) _).guided hI
    intro _ he
    rcases wp_run (moveIteration_error pos) hrun with heq | ⟨-, -, hne⟩
    · rw [heq]
      exact he
    · exact hne
  | finishMove _ w₀ pos _ hm hrun =>
    -- the only action that may clear an error
    have hmenu : w'.menu = w.menu := wp_run ((blind_menu ω w.menu).finishMove w rfl) hrun
    apply (ha.steady (congrArg Menu.menuId hmenu) _).guided hI
    exact hm.error_kept (hC.of_suffix ha.trace.suffix) hrun
  | look =>
    refine (ha.steady rfl fun _ he => ?_).guided hI
    show (if position (ω w.tick).endUp (ω (w.tick + 1)).endLow = .posBlocked
      then .timerBlockedElapsed else w.door.errorFlag) ≠ ErrorCode.noError
    split
    · exact ErrorCode.noConfusion
    · exact he
  | report he =>
    -- the error screen may be shown before the first set-up is over
    exact ⟨setupGuarded_cons rfl hI.guarded, fun _ hno => absurd hno he⟩
  | accept he => exact ((Steady.refl w).emit rfl).guided hI
  | pass _ pos a mode hp =>
    obtain ⟨hdoor, hmenu⟩ := hp.frame
    refine (ha.steady (congrArg Menu.menuId hmenu) fun _ he => ?_).guided hI
    rw [hdoor]
    exact he
  | stray _ pos _ _ _ hs =>
    refine (ha.steady (congrArg Menu.menuId hs.menu) fun _ he => ?_).guided hI
    rw [hs.door]
    exact he
  | lose => exact (ha.steady rfl fun _ _ => ErrorCode.noConfusion).guided hI
  | sleep => exact (ha.steady rfl fun _ he => he).guided hI

theorem WakeAct.guided (h : WakeAct ω w w') (hC : Historically ErrorKept w'.trace)
    (hI : Guided w) : Guided w' := by
  cases h with
  | work _ hw => exact hw.guided hC hI
  | keep => exact Steady.guided { Steady.refl w with } hI
  | dispatch d hd =>
    refine ⟨hI.guarded, fun hn he => ⟨(hI.setup hn he).screen, fun k action heq => ?_⟩⟩
    have hmenu : d = .menu k action := heq
    rw [hmenu] at hd
    cases hd
  | booted => exact ((Steady.refl w).emit rfl).guided hI
  | alarmMove => exact ((Steady.refl w).emit rfl).guided hI
  | wrongAlarm =>
    exact ⟨setupGuarded_cons rfl hI.guarded, fun _ he => ErrorCode.noConfusion he⟩
  | wrongLight =>
    exact ⟨setupGuarded_cons rfl hI.guarded, fun _ he => ErrorCode.noConfusion he⟩
  | measure =>
    have hread := (Steady.refl w).observe (ω w.tick)
    exact Steady.guided
      { hread.emit (e := .lightCheck w.sched.ldrFlag (level ω w) w.sched.nextLux) rfl with } hI
  | trigger =>
    have hread := (Steady.refl w).observe (ω w.tick)
    have hcheck := hread.emit (e := .lightCheck w.sched.ldrFlag (level ω w) w.sched.nextLux) rfl
    exact Steady.guided { hcheck.emit (e := .lightMove w.sched.ldrFlag (w.tick + 1)) rfl with } hI

omit [TimeLib] in
/-- The call of a screen: in the set-up the screen that is processed is the one shown. -/
theorem Guided.entered (hI : Guided w) (action : BtnAction) : Guided (entered w action) where
  guarded := setupGuarded_cons rfl hI.guarded
  setup := by
    intro hn he
    have hscreen := (hI.setup hn he).screen
    refine ⟨hscreen, fun k a heq => ?_⟩
    cases heq
    exact hscreen

omit [TimeLib] in
/-- A screen that is not one of the set-up is shown only with an error. -/
theorem Guided.error (hI : Guided w) {k : Nat} (hid : w.menu.menuId = k) (hk : ¬ Allowed k)
    (hn : w.sched.fInitNox = 0) : w.door.errorFlag ≠ .noError := by
  intro he
  have hscreen := (hI.setup hn he).screen
  rw [hid] at hscreen
  exact hk hscreen

omit [TimeLib] in
/-- A change of the screen within the set-up. -/
theorem Guided.menu (hI : Guided w) {m : Menu} (hm : w.sched.fInitNox = 0 → Allowed m.menuId) :
    Guided { w with menu := m } :=
  ⟨hI.guarded, fun hn he => ⟨hm hn, (hI.setup hn he).processed⟩⟩

omit [TimeLib] in
/-- The clock screens look at the mark of the set-up. -/
theorem Guided.clockKept : ClockKept Guided where
  updated := by
    intro w s c hI
    have hcall := (Steady.refl w).emit (e := .call .updateTime w.moment) rfl
    exact Steady.guided { hcall.observe s with } hI
  clk := fun w _ hI => Steady.guided { Steady.refl w with } hI
  setTime := by
    intro w e he hI
    apply ((Steady.refl w).emit _).guided hI
    cases e <;> first | rfl | cases he
  menu := fun _ _ _ ha hI => hI.menu ha

/-- Every action, as long as no error is cleared. -/
theorem Act.guided (h : Act ω w w') (hC : Historically ErrorKept w'.trace) (hI : Guided w) :
    Guided w' := by
  have hent : ∀ action, Guided (entered w action) := hI.entered
  cases h with
  | wake _ hw => exact hw.guided hC hI
  | update he =>
    refine ⟨historically_cons.mpr ⟨fun m tl heq hn => ?_, hI.guarded⟩, fun hn hno => ?_⟩
    · obtain ⟨hhead, -⟩ := List.cons.inj heq
      cases hhead
      by_cases hno : w.door.errorFlag = .noError
      · rw [if_pos (show w.moment.door.errorFlag = .noError from hno)]
        exact (hI.setup hn hno).screen
      · rw [if_neg (show ¬ w.moment.door.errorFlag = .noError from hno)]
        exact he hno
    · exact ⟨(hI.setup hn hno).screen, (hI.setup hn hno).processed⟩
  | goTo id hg =>
    refine ⟨hI.guarded, fun hn he => ⟨?_, (hI.setup hn he).processed⟩⟩
    have hprocessed := (hI.setup hn he).processed
    cases hg with
    | start action hd => exact absurd (hprocessed 0 action hd) (by decide)
    | moved k action hk hd =>
      have hallowed := hprocessed k action hd
      rcases hk with rfl | rfl <;> exact absurd hallowed (by decide)
    | error herr => exact absurd he herr
    | initial => exact .inl rfl
    | ready hready => exact absurd hn hready
  | enter action => exact hent action
  | edit action f hf =>
    refine ⟨(hent action).guarded, fun hn he => ⟨?_, ((hent action).setup hn he).processed⟩⟩
    -- the only screen of the set-up that edits nothing but the menu is 001
    rcases (hI.setup hn he).screen with hid | hid | hid | hid <;> rw [hid] at hf <;> cases hf
    cases action with
    | nothing => exact .inl rfl
    | _ => exact .inr (.inl rfl)
  | start action hid =>
    have hcall := (Steady.refl (entered w action)).emit
      (e := .call .updateTime (entered w action).moment) rfl
    exact Steady.guided { hcall.observe (ω w.tick) with } (hent action)
  | acknowledge action hid ha =>
    -- the condition says that this does not happen in the set-up
    have hmoment : errorKept (entered w action).trace = true :=
      (historically_cons.mp hC).1
    have hn : w.sched.fInitNox ≠ 0 := by
      simpa [errorKept, entered, World.called, World.moment, hid, ha] using hmoment
    exact ⟨(hent action).guarded, fun hn' => absurd hn' hn⟩
  | redraw hid =>
    refine ⟨(hent .nothing).guarded, fun hn he => ?_⟩
    exact absurd he (hI.error hid (by decide) hn)
  | setTime _ action _ hrun =>
    exact wp_run (Guided.clockKept.screen300 action ω _ (hent action)) hrun
  | setDate _ action _ hrun =>
    exact wp_run (Guided.clockKept.screen400 action ω _ (hent action)) hrun
  | initialise action =>
    refine ⟨(hent action).guarded, fun hn => ?_⟩
    have hone : (1 : Int32) = 0 := hn
    cases hone
  | save action _ hn =>
    refine ⟨setupGuarded_cons rfl (hent action).guarded, fun hn' => ?_⟩
    exact absurd hn' hn

end Actions

/-! ## Runs -/

/-- The invariant of the menu while a wake-up is handled. -/
structure AwaitingSetup (w : World) : Prop where
  guarded : Historically SetupGuarded w.trace
  outside : ∀ k action, w.dispatch ≠ .menu k action

section Runs

variable [TimeLib] {ω : Env} {w w' w₀ : World} {s : Phase × World}

/-- The handling of a wake-up calls neither `menuUpdate` nor a screen. -/
theorem WakeAct.awaitingSetup (h : WakeAct ω w w') (hJ : AwaitingSetup w) : AwaitingSetup w' := by
  have hemit : ∀ e, isNoUpdate e = true → Historically SetupGuarded (e :: w.trace) :=
    fun _ he => setupGuarded_cons he hJ.guarded
  have hread : Historically SetupGuarded (w.observe (ω w.tick)).trace :=
    ((Steady.refl w).observe _).guarded hJ.guarded
  cases h with
  | work _ hw =>
    refine ⟨hw.aside.noUpdate.keeps (fun _ _ he htr => setupGuarded_cons he htr) hJ.guarded, ?_⟩
    rw [hw.aside.dispatch]
    exact hJ.outside
  | keep => exact ⟨hJ.guarded, hJ.outside⟩
  | dispatch d hd =>
    refine ⟨hJ.guarded, fun k action heq => ?_⟩
    have hmenu : d = .menu k action := heq
    rw [hmenu] at hd
    cases hd
  | booted => exact ⟨hemit _ rfl, hJ.outside⟩
  | alarmMove => exact ⟨hemit _ rfl, hJ.outside⟩
  | wrongAlarm => exact ⟨hemit _ rfl, hJ.outside⟩
  | wrongLight => exact ⟨hemit _ rfl, hJ.outside⟩
  | measure => exact ⟨setupGuarded_cons rfl hread, hJ.outside⟩
  | trigger => exact ⟨setupGuarded_cons rfl (setupGuarded_cons rfl hread), hJ.outside⟩

/-- In every run in which no error is cleared during the first set-up, every call of `menuUpdate`
    before the first save finds a screen of the set-up, or the error screen with its error. -/
theorem setup_not_bypassed {p : Phase} (hr : LossyRun ω w₀ (p, w))
    (hC : Historically ErrorKept w.trace) : Historically SetupGuarded w.trace := by
  have hnone : ∀ w', AwaitingSetup w' → w'.sched.fInitNox = 0 →
      Guided { w' with menu := { w'.menu with menuId := 1 } } := by
    intro w' hJ hn
    exact ⟨hJ.guarded, fun _ _ => ⟨.inl rfl, fun k action heq => absurd heq (hJ.outside k action)⟩⟩
  refine (LossyRun.historically (C := ErrorKept) (J := AwaitingSetup) hr
    (fun _ _ ha hC hI => ha.guided hC hI) (fun _ _ ha _ hJ => ha.awaitingSetup hJ) ?_ ?_ ?_ hnone ?_
    (fun _ hI => hI.guarded) (fun _ hJ => hJ.guarded) hC).1
  · intro m tl heq
    cases heq
  · intro t tr m tl heq
    cases heq
  · intro w₁ w₂ htr hd hboot
    constructor
    · apply setupGuarded_cons rfl
      refine hboot.keeps (fun e tr he htr => ?_) (fun m tr _ htr => setupGuarded_cons rfl htr) htr
      cases e with
      | alarmFired t => exact setupGuarded_cons rfl htr
      | _ => cases he
    · intro k action heq
      have hdispatch : w₂.dispatch = .boot := hboot.dispatch.trans hd
      exact Dispatch.noConfusion (hdispatch.symm.trans heq)
  · intro w' hJ hn
    exact ⟨hJ.guarded, fun hn' => absurd hn' hn⟩

end Runs

/-- A blank device, SELECT on its first screen. -/
def firstEnv : Env := pressing [(13, .select)] secondsEnv

def firstScreen : Reached firstEnv {} .awake :=
  Reached.loops (.powerOn 12 (by decide +kernel)) 12 2 (by decide +kernel)

theorem setup_not_bypassed_firstScreen :
    firstScreen.world.menu.menuId = 300 ∧ Historically SetupGuarded firstScreen.world.trace := by
  have hkept : Historically ErrorKept firstScreen.world.trace := by decide +kernel
  exact ⟨by decide +kernel, setup_not_bypassed firstScreen.powered.lossy hkept⟩

/-- The end switches show a blocked door; the idle time is over at the first check, and SELECT is
    pressed twice after it: once for the display, once for the error. -/
def jammedEnv : Env :=
  pressing [(41, .select), (54, .select)] fun n =>
    { endLow := true, millis := UInt32.ofNat (n * 1000 + if n < 11 then 0 else 5000000) }

def jammedAwake : Reached jammedEnv {} .awake :=
  Reached.loops (.powerOn 12 (by decide +kernel)) 12 5 (by decide +kernel)

/-- A call of `menuUpdate` in the first set-up, without an error, on a screen outside of it. -/
def bypassing : Event → Bool
  | .call .menuUpdate m =>
    decide (m.fInitNox = 0 ∧ m.door.errorFlag = .noError ∧ ¬ Allowed m.menu.menuId)
  | _ => false

/-- After the error of the idle check was acknowledged, the menu is on the start screen, with the
    first set-up not done. -/
theorem setup_bypassed :
    ¬ ∀ (ω : Env) (w₀ w : World) (p : Phase), LossyRun ω w₀ (p, w) →
      Historically SetupGuarded w.trace := by
  intro h
  have hguarded := h _ _ _ _ jammedAwake.powered.lossy
  have hany : jammedAwake.world.trace.any bypassing = true := by decide +kernel
  obtain ⟨e, hmem, he⟩ := List.any_eq_true.mp hany
  have hmoment := hguarded.of_mem hmem
  cases e with
  | call f m =>
    cases f with
    | menuUpdate =>
      obtain ⟨hn, hno, hid⟩ := of_decide_eq_true he
      have hscreen := hmoment m _ rfl hn
      rw [if_pos hno] at hscreen
      exact hid hscreen
    | _ => cases he
  | _ => cases he

end Eggvault.Spec
