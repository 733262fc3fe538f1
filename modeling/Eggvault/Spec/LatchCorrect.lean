import Eggvault.Spec.ErrorCorrect
import Eggvault.Spec.PositionCorrect

/-!
# An error that has been reported stays

The error branch of `statusabfrage` shows the error and schedules nothing.  From then on the error
flag stays set until a button is pressed on the error screen or a move ends, whatever the alarm,
the light, the buttons and losses of power do, since the flag is also kept in flash.  Until then no
alarm is planned, the device does not sleep, and `menuUpdate` finds the error screen.

## Key results

- `Act.latched`: one action
- `error_latched`: every run of a device that is set up
-/

namespace Eggvault.Spec

open Eggvault.Native Prog Trace TimeLib

/-! ## Outstanding errors -/

/-- An error has been reported, and since then no move has ended and no button was pressed on the
    error screen. -/
def outstanding (tr : List Event) : Bool :=
  (tr.findSome? fun
    | .status true => some true
    | .motorStop => some false
    | .call (.menuFunctions action) m =>
      if action ≠ .nothing ∧ m.menu.menuId = 2 then some false else none
    | _ => none).getD false

/-- What a call finds while an error is outstanding: the error is still set, the menu is on the
    error screen, and nothing is being scheduled. -/
structure Withheld (f : Callee) (m : Moment) : Prop where
  error : m.door.errorFlag ≠ .noError
  shown : f = .menuUpdate → m.menu.menuId = 2
  unplanned : ∀ pos a, f ≠ .setNextAlarm pos a

/-- No call is made as if there were no error; readings of the clock are left out. -/
def ErrorHeeded (tr : List Event) : Prop :=
  ∀ f m tl, tr = .call f m :: tl → f ≠ .updateTime → outstanding tl = true → Withheld f m

/-- The event neither reports nor ends an error, and it is no call but of `rtc.updateTime`. -/
def isUnrelated : Event → Bool
  | .status true | .motorStop => false
  | .call .updateTime _ => true
  | .call _ _ => false
  | _ => true

/-- The device is set up, and an outstanding error is set. -/
structure Latched (w : World) : Prop where
  nox : w.sched.fInitNox ≠ 0
  error : outstanding w.trace = true → w.door.errorFlag ≠ .noError
  heeded : Historically ErrorHeeded w.trace

section Events

variable {e : Event} {tr tr' : List Event}

theorem outstanding_cons (he : isUnrelated e = true) : outstanding (e :: tr) = outstanding tr := by
  cases e with
  | status failed => cases failed <;> first | rfl | cases he
  | motorStop => cases he
  | call f m => cases f <;> first | rfl | cases he
  | _ => rfl

theorem heeded_of_not_call (he : ∀ f m, e ≠ .call f m) (h : Historically ErrorHeeded tr) :
    Historically ErrorHeeded (e :: tr) :=
  historically_cons.mpr ⟨fun f m _ heq => absurd (List.cons.inj heq).1 (he f m), h⟩

theorem heeded_cons (he : isUnrelated e = true) (h : Historically ErrorHeeded tr) :
    Historically ErrorHeeded (e :: tr) := by
  refine historically_cons.mpr ⟨fun f m tl heq hf _ => ?_, h⟩
  obtain ⟨rfl, -⟩ := List.cons.inj heq
  cases f <;> first | exact absurd rfl hf | cases he

theorem outstanding_extends (h : Extends isUnrelated tr tr') :
    outstanding tr' = outstanding tr := by
  refine h.keeps (P := fun t => outstanding t = outstanding tr) (fun e t he ht => ?_) rfl
  rw [outstanding_cons he]
  exact ht

/-- An acknowledgement ends the error; any other call leaves it as it is. -/
theorem outstanding_call {f : Callee} {m : Moment} (h : outstanding (.call f m :: tr) = true) :
    outstanding tr = true := by
  cases f with
  | menuFunctions action =>
    by_cases hack : action ≠ .nothing ∧ m.menu.menuId = 2
    · simp [outstanding, hack] at h
    · simpa [outstanding, hack] using h
  | _ => exact h

end Events

namespace Latched

variable {w w' : World}

/-- What neither clears the error nor calls anything keeps the latch. -/
theorem extend (h : Latched w) (ht : Extends isUnrelated w.trace w'.trace)
    (hn : w'.sched.fInitNox = w.sched.fInitNox)
    (he : w.door.errorFlag ≠ .noError → w'.door.errorFlag ≠ .noError) : Latched w' where
  nox := by
    rw [hn]
    exact h.nox
  error := by
    rw [outstanding_extends ht]
    exact fun ho => he (h.error ho)
  heeded := ht.keeps (fun _ _ hp htr => heeded_cons hp htr) h.heeded

theorem emit (h : Latched w) {e : Event} (he : isUnrelated e = true) :
    Latched { w with trace := e :: w.trace } := h.extend (.single _ he) rfl fun h' => h'

theorem observe (h : Latched w) (s : Sample) : Latched (w.observe s) :=
  h.extend (extends_observe (.refl _) (fun _ => rfl) s) rfl fun h' => h'

/-- A call that finds the error screen, or is none of `menuUpdate`, and plans nothing. -/
theorem called (h : Latched w) {f : Callee}
    (hs : f = .menuUpdate → w.door.errorFlag ≠ .noError → w.menu.menuId = 2)
    (hp : ∀ pos a, f ≠ .setNextAlarm pos a) : Latched (w.called f) where
  nox := h.nox
  error := fun ho => h.error (outstanding_call ho)
  heeded := by
    refine historically_cons.mpr ⟨fun f' m tl heq _ ho => ?_, h.heeded⟩
    obtain ⟨hcall, rfl⟩ := List.cons.inj heq
    cases hcall
    have he := h.error ho
    exact ⟨he, fun hu => hs hu he, hp⟩

theorem entered (h : Latched w) (action : BtnAction) : Latched (entered w action) :=
  { h.called (f := .menuFunctions action) (fun hf => Callee.noConfusion hf)
      (fun _ _ => Callee.noConfusion) with }

/-- Without an error there is nothing to keep. -/
theorem fresh (hn : w.sched.fInitNox ≠ 0) (ho : outstanding w.trace = false)
    (h : Historically ErrorHeeded w.trace) : Latched w where
  nox := hn
  error := fun h' => absurd (ho.symm.trans h') Bool.false_ne_true
  heeded := h

theorem clockKept : ClockKept Latched where
  updated := fun _ s _ h => { (h.emit (e := .call .updateTime _) rfl).observe s with }
  clk := fun _ _ h => { h with }
  setTime := by
    intro w e he h
    apply h.emit
    cases e <;> first | rfl | cases he
  menu := fun _ _ _ _ h => { h with }

end Latched

/-! ## Actions -/

section Actions

variable {ω : Env} {w w' : World}

theorem startMove_latched (h : Latched w) : wp startMove (returns Latched) ω w := by
  have hcall := h.called (f := .moveMotor) (fun hf => Callee.noConfusion hf)
    (fun _ _ => Callee.noConfusion)
  simp only [startMove, wp_bind, wp_call, wp_digitalRead, wp_emit, wp_modifyDoor]
  exact { ((hcall.observe (ω w.tick)).observe (ω (w.tick + 1))).emit
    (e := .endSwitches (ω w.tick).endUp (ω (w.tick + 1)).endLow) rfl with }

/-- An iteration of the motor loop emits unrelated events only. -/
theorem rolling_unrelated (ω : Env) (w : World) : Rolling ω fun w' =>
    Extends isUnrelated w.trace w'.trace ∧ w'.sched.fInitNox = w.sched.fInitNox where
  observe := fun _ h => ⟨extends_observe h.1 (fun _ => rfl) _, h.2⟩
  door := fun _ _ _ _ h => h
  pins := fun _ _ h => h
  emit := by
    rintro w' e he ⟨htr, hn⟩
    refine ⟨htr.cons ?_, hn⟩
    cases e <;> first | rfl | cases he

/-- The end of a move ends every error. -/
theorem finishMove_latched (h : Latched w) (hrun : finishMove ω w = .done () w')
    (hn : w'.sched.fInitNox = w.sched.fInitNox) : Latched w' := by
  obtain ⟨-, htrace⟩ := wp_run finishMove_copies hrun
  have hwrites := heeded_cons (e := .motorWrite false false) rfl
    (heeded_cons (e := .motorWrite false w.pins.back) rfl h.heeded)
  refine Latched.fresh ?_ ?_ ?_
  · rw [hn]
    exact h.nox
  · rw [htrace]
    rfl
  · rw [htrace]
    exact heeded_of_not_call (fun _ _ => Event.noConfusion) hwrites

/-- A pass is made without an error only. -/
theorem Latched.pass (h : Latched w) (he : w.door.errorFlag = .noError) {pos : Klappenposition}
    {a : DoorDayAlarm} (hn : w'.sched.fInitNox = w.sched.fInitNox)
    (ht : Extends isUnrelated (.call (.setNextAlarm pos a) w.moment :: w.trace) w'.trace) :
    Latched w' := by
  have ho : outstanding w.trace = false := by
    cases ho : outstanding w.trace with
    | false => rfl
    | true => exact absurd he (h.error ho)
  have hcall : Historically ErrorHeeded (.call (.setNextAlarm pos a) w.moment :: w.trace) := by
    refine historically_cons.mpr ⟨fun f m tl heq _ ho' => ?_, h.heeded⟩
    obtain ⟨-, rfl⟩ := List.cons.inj heq
    exact absurd (ho.symm.trans ho') Bool.false_ne_true
  refine Latched.fresh ?_ ?_ (ht.keeps (fun _ _ hp htr => heeded_cons hp htr) hcall)
  · rw [hn]
    exact h.nox
  · rw [outstanding_extends ht]
    exact ho

variable [TimeLib]

/-- A status check or a move. -/
theorem Work.latched (h : Work ω w w') (hI : Latched w) : Latched w' := by
  have ha : Aside w w' := h.aside
  cases h with
  | read => exact hI.observe _
  | led p => exact { hI with }
  | startMove _ hrun => exact wp_run (startMove_latched hI) hrun
  | iterate _ _ pos again _ _ _ hrun =>
    obtain ⟨htrace, hn⟩ :=
      wp_run ((rolling_unrelated ω w).moveIteration pos w ⟨.refl _, rfl⟩) hrun
    apply hI.extend htrace hn
    intro he
    rcases wp_run (moveIteration_error pos) hrun with heq | ⟨-, -, hne⟩
    · rw [heq]
      exact he
    · exact hne
  | finishMove _ _ _ _ _ hrun => exact finishMove_latched hI hrun ha.nox
  | look =>
    have hread := (hI.observe (ω w.tick)).observe (ω (w.tick + 1))
    refine { hread with error := fun ho => ?_ }
    show (if position (ω w.tick).endUp (ω (w.tick + 1)).endLow = .posBlocked
      then .timerBlockedElapsed else w.door.errorFlag) ≠ ErrorCode.noError
    split
    · exact ErrorCode.noConfusion
    · exact hread.error ho
  | report he =>
    exact ⟨hI.nox, fun _ => he, heeded_of_not_call (fun _ _ => Event.noConfusion) hI.heeded⟩
  | accept => exact hI.emit rfl
  | pass _ pos a mode hp =>
    obtain ⟨w₁, h₁, hl⟩ := hp.carried
    have hset := h₁.silent.trace.mono (q := isUnrelated) fun e he => by
      cases e <;> first | rfl | cases he
    have htrace : Extends isUnrelated w₁.trace w'.trace := by
      cases hl with
      | off => exact .refl _
      | waiting => exact .single _ rfl
      | armed => exact .single _ rfl
      | measured =>
        have harmed : Extends isUnrelated w₁.trace (withLight w₁ w₁.timer).trace :=
          .single _ rfl
        exact (extends_observe harmed (fun _ => rfl) (ω w₁.tick)).cons rfl
    exact hI.pass hp.noError ha.nox (hset.trans htrace)
  | stray _ pos _ he _ hs =>
    refine hI.pass he ha.nox (hs.silent.trace.mono fun e he => ?_)
    cases e <;> first | rfl | cases he
  | lose =>
    have hset := hI.emit (e := .setAlarm (tomorrow w.clk.tNow) 0 0) rfl
    have hraised := hset.emit (e := .raised .wrongAlarmMode) rfl
    exact { hraised with error := fun _ => ErrorCode.noConfusion }
  | sleep =>
    have hcall := hI.called (f := .prepForDeepSleep) (fun hf => Callee.noConfusion hf)
      (fun _ _ => Callee.noConfusion)
    exact { hcall.observe (ω w.tick) with }

theorem WakeAct.latched (h : WakeAct ω w w') (hI : Latched w) : Latched w' := by
  have hmeasured := (hI.observe (ω w.tick)).emit
    (e := .lightCheck w.sched.ldrFlag (level ω w) w.sched.nextLux) rfl
  cases h with
  | work _ hw => exact hw.latched hI
  | keep => exact { hI with }
  | dispatch => exact { hI with }
  | booted => exact hI.emit rfl
  | alarmMove => exact hI.emit rfl
  | wrongAlarm =>
    have hraised := hI.emit (e := .raised .wrongAlarmFlag) rfl
    exact { hraised with error := fun _ => ErrorCode.noConfusion }
  | wrongLight =>
    have hraised := hI.emit (e := .raised .wrongLdrFlag) rfl
    exact { hraised with error := fun _ => ErrorCode.noConfusion }
  | measure => exact { hmeasured with }
  | trigger => exact { hmeasured.emit (e := .lightMove w.sched.ldrFlag (w.tick + 1)) rfl with }

/-- Every action of a device that is set up. -/
theorem Act.latched (h : Act ω w w') (hI : Latched w) : Latched w' := by
  have hent : ∀ action, Latched (entered w action) := hI.entered
  cases h with
  | wake _ hw => exact hw.latched hI
  | update hid => exact hI.called (fun _ => hid) (fun _ _ => Callee.noConfusion)
  | goTo => exact { hI with }
  | enter action => exact hent action
  | edit action => exact { hent action with }
  | start action =>
    exact { ((hent action).emit (e := .call .updateTime _) rfl).observe (ω w.tick) with }
  | acknowledge action hid ha =>
    -- the press that clears the flag is the one that ends the error
    have ho : outstanding (entered w action).trace = false := by
      simp [outstanding, Spec.entered, World.called, World.moment, hid, ha]
    exact Latched.fresh hI.nox ho (hent action).heeded
  | redraw => exact { hent .nothing with }
  | setTime _ action _ hrun =>
    exact wp_run (Latched.clockKept.screen300 action ω _ (hent action)) hrun
  | setDate _ action _ hrun =>
    exact wp_run (Latched.clockKept.screen400 action ω _ (hent action)) hrun
  | initialise action _ hn => exact absurd hn hI.nox
  | save action =>
    have hmenu : Latched { entered w action with menu := { w.menu with menuId := 0 } } :=
      { hent action with }
    exact { hmenu.called (f := .saveAlarmValues) (fun hf => Callee.noConfusion hf)
      (fun _ _ => Callee.noConfusion) with }

/-- A reset: the flag is read back from flash. -/
theorem Rebooted.latched {w₀ : World} (hr : Rebooted ω w₀ w)
    (hn : (w₀.nvs.get .initNox).getD 0 ≠ 0)
    (ho : outstanding w₀.trace = true → storedError w₀.nvs ≠ .noError)
    (h : Historically ErrorHeeded w₀.trace) : Latched w := by
  have htrace : Extends isUnrelated w₀.trace w.trace := by
    obtain ⟨tr, m, h₁, -, h₂⟩ := hr.trace
    have hfiring : ∀ e, isFiring e = true → isUnrelated e = true := by
      intro e he
      cases e <;> first | rfl | cases he
    exact ((h₁.mono hfiring).cons rfl).trans (h₂.mono hfiring)
  constructor
  · rw [hr.initNox]
    exact hn
  · rw [outstanding_extends htrace, hr.errorFlag, if_neg hn]
    exact ho
  · exact htrace.keeps (fun _ _ hp htr => heeded_cons hp htr) h

end Actions

/-! ## Runs -/

section Runs

variable [TimeLib] {ω : Env} {w₀ w : World} {p : Phase}

omit [TimeLib] in
/-- Between two calls an outstanding error is in flash, and the device is awake. -/
theorem Latched.between (h : Latched w) (hp : PhaseOk (StoredModes w₀.nvs) (p, w))
    (hm : StoredModes w₀.nvs) (ho : outstanding w.trace = true) :
    p ≠ .asleep ∧ (p = .awake → storedError w.nvs = w.door.errorFlag) := by
  constructor
  · rintro rfl
    exact h.error ho (Asleep.noError hp hm)
  · rintro rfl
    exact Awake.sync hp h.nox

omit [TimeLib] in
theorem Latched.stored (h : Latched w) (hp : PhaseOk (StoredModes w₀.nvs) (p, w))
    (hm : StoredModes w₀.nvs) (hbusy : p ≠ .busy) (ho : outstanding w.trace = true) :
    storedError w.nvs ≠ .noError := by
  obtain ⟨hasleep, hawake⟩ := h.between hp hm ho
  have hp : p = .awake := by
    cases p with
    | awake => rfl
    | asleep => exact absurd rfl hasleep
    | busy => exact absurd rfl hbusy
  rw [hawake hp]
  exact h.error ho

/-- The latch holds in every run of a device that is set up. -/
theorem latched_of_run {s : Phase × World} (hr : Run ω w₀ s) (hm : StoredModes w₀.nvs)
    (hn : (w₀.nvs.get .initNox).getD 0 ≠ 0) : Latched s.2 := by
  have hclosed : Closed ω Latched := fun _ _ ha hI => ha.latched hI
  induction hr with
  | powerOn n =>
    refine afterCall_of_anywhere (hclosed.boot n rfl rfl rfl rfl rfl fun w hw => ?_)
    refine hw.latched hn (fun ho => ?_) (historically_nil.mpr fun _ _ _ h => by cases h)
    cases ho
  | step hr hs ih =>
    cases hs with
    | loop n w => exact afterCall_of_anywhere (hclosed.loop n w ih)
    | wake n w cause _ =>
      have hphase := run_invariant hr
      have hnox : (w.nvs.get .initNox).getD 0 ≠ 0 := by
        rw [← (hphase.base (by decide)).1.nox]
        exact ih.nox
      have hread : Latched (w.observe (ω w.tick)) := ih.observe _
      refine afterCall_of_anywhere (hclosed.boot n rfl rfl rfl rfl rfl fun w' hw => ?_)
      refine hw.latched hnox (fun ho => ?_) hread.heeded
      exact absurd (Asleep.noError hphase hm) (hread.error ho)
  | powerCycle n hr hp ih =>
    next p w =>
    have hphase := run_invariant hr
    have hnox : (w.nvs.get .initNox).getD 0 ≠ 0 := by
      rw [← (hphase.base hp).1.nox]
      exact ih.nox
    refine afterCall_of_anywhere (hclosed.boot n rfl rfl rfl rfl rfl fun w' hw => ?_)
    exact hw.latched hnox (fun ho => ih.stored hphase hm hp ho) ih.heeded

/-- In every run of a device that is set up, losses of power included, an error that a status check
    has reported stays until a button is pressed on the error screen or a move ends: the flag is
    set, between two calls also in flash, no alarm is planned, `menuUpdate` finds the error screen,
    and the device does not sleep. -/
theorem error_latched (hr : Run ω w₀ (p, w)) (hm : StoredModes w₀.nvs)
    (hn : (w₀.nvs.get .initNox).getD 0 ≠ 0) :
    Historically ErrorHeeded w.trace ∧ (outstanding w.trace = true →
      w.door.errorFlag ≠ .noError ∧ p ≠ .asleep ∧
        (p = .awake → storedError w.nvs = w.door.errorFlag)) := by
  have hlatched := latched_of_run hr hm hn
  exact ⟨hlatched.heeded,
    fun ho => ⟨hlatched.error ho, hlatched.between (run_invariant hr) hm ho⟩⟩

end Runs

/-! ## A blocked door that comes loose

The end switches show a blocked door up to reading 13; power is lost after it has come loose, and
the idle time is over at the first call of `loop` after that. -/

def loosenedEnv : Env := fun n =>
  { endLow := decide (n < 14)
    millis := UInt32.ofNat (if n < 63 then n * 1000 else 5000000 + n * 1000) }

/-- The device before the loss of power. -/
def blockedAwake : Reached loosenedEnv { nvs := readyNvs } .awake :=
  Reached.loops (.powerOn 12 (by decide +kernel)) 12 3 (by decide +kernel)

/-- The device after the loss of power. -/
def restarted : Phase × World := afterCall (boot 12 loosenedEnv blockedAwake.world.powerUp)

/-- The device after the next call of `loop`. -/
def loosened : Phase × World := afterCall (loop 12 loosenedEnv restarted.2)

theorem run_loosened : Run loosenedEnv { nvs := readyNvs } loosened := by
  have hcycle : Run loosenedEnv { nvs := readyNvs } restarted :=
    .powerCycle 12 blockedAwake.run (by decide)
  have hawake : restarted = (.awake, restarted.2) :=
    Prod.ext (show restarted.1 = .awake by decide +kernel) rfl
  rw [hawake] at hcycle
  exact .step hcycle (.loop 12 restarted.2)

theorem error_latched_loosened :
    outstanding loosened.2.trace = true ∧ loosened.2.door.doorPosition = .posDown ∧
      Historically ErrorHeeded loosened.2.trace ∧ loosened.2.door.errorFlag ≠ .noError ∧
        loosened.1 ≠ .asleep := by
  have ho : outstanding loosened.2.trace = true := by decide +kernel
  obtain ⟨hheeded, herror⟩ := error_latched run_loosened storedModes_readyNvs (by decide)
  obtain ⟨hne, hasleep, -⟩ := herror ho
  exact ⟨ho, by decide +kernel, hheeded, hne, hasleep⟩

end Eggvault.Spec
