import Eggvault.Spec.LightCorrect

/-!
# The errors that cannot happen

The source marks four error codes as impossible.  Three of them are: modes stay valid,
no pending flag is ever `POS_DRIVING`, and `statusabfrage` has raised another error before
it could find a blocked door.  The fourth one, `WRONG_LDR_FLAG`, is raised by a timer
wake-up that finds no light move pending, and that happens when a later pass of the same
boot has cancelled the move but not the timer.

## Key results

- `no_internal_error`: no such error in a run whose timer wake-ups follow a light pass
- `wrong_ldr_flag_reached`: a run with an internal error
-/

namespace Eggvault.Spec

open Eggvault.Native Prog Trace TimeLib

/-! ## What the firmware leaves in flash and in the RTC byte -/

/-- No pending move of the RTC byte is `POS_DRIVING`. -/
def RamOk (ram : UInt8) : Prop :=
  (unpackRam ram).2.1 ≠ .posDriving ∧ (unpackRam ram).2.2 ≠ .posDriving

instance (ram : UInt8) : Decidable (RamOk ram) := inferInstanceAs (Decidable (_ ∧ _))

/-- The error code in flash. -/
def storedError (nvs : Nvs) : ErrorCode := (nvs.get .errorFlag).getD .noError

/-- Flash and the RTC byte hold what the firmware writes there. -/
structure Intact (nvs : Nvs) (ram : UInt8) : Prop where
  modes : StoredModes nvs
  ram : RamOk ram
  error : isInternal (storedError nvs) = false

/-- No internal error is being raised. -/
def Legit (tr : List Event) : Prop := ∀ e tl, tr = .raised e :: tl → isInternal e = false

/-- The invariant behind all four codes, apart from the light. -/
structure Sound (w : World) : Prop extends Intact w.nvs w.rtc.ram where
  opening : ValidModes w.sched.openingAlarms
  closing : ValidModes w.sched.closingAlarms
  editO : ValidMode w.menu.modeO
  editC : ValidMode w.menu.modeC
  ldrFlag : w.sched.ldrFlag ≠ .posDriving
  alarmFlag : w.sched.alarmFlag ≠ .posDriving
  errorFlag : isInternal w.door.errorFlag = false
  trace : Historically Legit w.trace

/-! ## Statements that keep it -/

section Keep

variable {ω : Env} {w : World}

theorem legit_cons {e : Event} {tr : List Event} (he : ∀ error, e = .raised error →
    isInternal error = false) (h : Historically Legit tr) : Historically Legit (e :: tr) := by
  refine historically_cons.mpr ⟨fun error tl heq => ?_, h⟩
  obtain ⟨hhead, -⟩ := List.cons.inj heq
  exact he error hhead

theorem legit_observe (h : Historically Legit w.trace) (s : Sample) :
    Historically Legit (w.observe s).trace :=
  observe_keeps (P := Historically Legit) (fun _ h => legit_cons (by simp) h) h

/-- A store under a key that holds neither a table nor the error. -/
theorem Intact.put {nvs : Nvs} {ram : UInt8} (h : Intact nvs ram) {k : NvsKey} (v : k.Value)
    (h₁ : k ≠ .openAlarms) (h₂ : k ≠ .closeAlarms) (h₃ : k ≠ .errorFlag) :
    Intact (nvs.put k v) ram := by
  have hget : ∀ k', k' ≠ k → (nvs.put k v).get k' = nvs.get k' :=
    fun k' hk => nvs_get_put_of_ne _ _ hk
  constructor
  · constructor
    · rw [hget _ h₁.symm]
      exact h.modes.opening
    · rw [hget _ h₂.symm]
      exact h.modes.closing
  · exact h.ram
  · unfold storedError
    rw [hget _ h₃.symm]
    exact h.error

theorem Intact.putError {nvs : Nvs} {ram : UInt8} (h : Intact nvs ram) {e : ErrorCode}
    (he : isInternal e = false) : Intact (nvs.put .errorFlag e) ram := by
  constructor
  · constructor
    · rw [nvs_get_put_of_ne _ _ (by decide)]
      exact h.modes.opening
    · rw [nvs_get_put_of_ne _ _ (by decide)]
      exact h.modes.closing
  · exact h.ram
  · unfold storedError
    rw [nvs_get_put_self _ _ (by decide)]
    exact he

namespace Sound

theorem emit (h : Sound w) {e : Event} (he : ∀ error, e = .raised error → isInternal error = false) :
    Sound { w with trace := e :: w.trace } :=
  { h with trace := legit_cons he h.trace }

theorem called (h : Sound w) (f : Callee) : Sound (w.called f) := h.emit (by simp)

theorem observe (h : Sound w) (s : Sample) : Sound (w.observe s) :=
  { h with trace := legit_observe h.trace s }

theorem putError (h : Sound w) {e : ErrorCode} (he : isInternal e = false) :
    Sound { w with door := { w.door with errorFlag := e }, nvs := w.nvs.put .errorFlag e } :=
  { h with toIntact := h.toIntact.putError he, errorFlag := he }

theorem blind : Blind ω Sound where
  observe := fun _ h => h.observe _
  door := by
    intro w d he h
    refine { h with errorFlag := ?_ }
    by_cases hd : isInternal d.errorFlag = true
    · show isInternal d.errorFlag = false
      rw [he hd]
      exact h.errorFlag
    · exact Bool.not_eq_true _ ▸ hd
  pins := fun _ _ h => { h with }
  emit := by
    intro w e he h
    apply h.emit
    intro error heq
    rw [heq] at he
    exact Bool.not_eq_true' _ ▸ he
  store := by
    intro w k v hk h
    refine { h with toIntact := h.toIntact.put v ?_ ?_ ?_ }
    · rintro rfl
      cases hk
    · rintro rfl
      cases hk
    · rintro rfl
      cases hk

theorem clockKept : ClockKept Sound where
  updated := fun _ s _ h => { (h.called .updateTime).observe s with }
  clk := fun _ _ h => { h with }
  setTime := by
    intro w e he h
    apply h.emit
    rintro error rfl
    cases he
  menu := fun _ _ _ _ h => { h with }

theorem entered (h : Sound w) (action : BtnAction) : Sound (entered w action) :=
  { h.called (.menuFunctions action) with trace := legit_cons (by simp) h.trace }

/-- The values that go to flash are those of valid tables. -/
theorem saved (h : Sound w) : Sound (saved w) := by
  have ho : ValidModes (savedOpening w.menu w.sched.openingAlarms) := by
    intro i
    unfold savedOpening
    split
    · exact h.editO
    · exact h.opening i
  have hc : ValidModes (savedClosing w.menu w.sched.closingAlarms) := by
    intro i
    unfold savedClosing
    split
    · exact h.editC
    · exact h.closing i
  have hget : storedError (Spec.saved w).nvs = storedError w.nvs := by
    show ((savedTables _ _ _).get .errorFlag).getD _ = _
    rw [savedTables_other _ _ _ (by decide) (by decide) (by decide)]
    rfl
  exact
    { h with
      opening := ho
      closing := hc
      trace := legit_cons (by simp) h.trace
      modes := savedTables_storedModes w.nvs _ _ ho hc
      error := by rw [hget]; exact h.error }

end Sound

end Keep

/-! ## Light passes -/

section Light

variable [TimeLib]

/-- The pass that finds `m` waits for light. -/
def awaitsLight (pos : Klappenposition) (a : DoorDayAlarm) (m : Moment) : Bool :=
  match OpeningMode.ofByte a.mode with
  | some mode => (planOf pos a mode m.manualFlag m.clk.tNow).light
  | none => false

/-- The last scheduling pass waits for light. -/
def lastPassLight (tr : List Event) : Bool :=
  (tr.findSome? fun
    | .call (.setNextAlarm pos a) m => some (awaitsLight pos a m)
    | _ => none).getD false

/-- If the newest event is a timer wake-up, the last pass before it waits for light. -/
def lightAwaited : List Event → Bool
  | .booted .timer :: tl => lastPassLight tl
  | _ => true

@[inherit_doc lightAwaited]
def LightAwaited (tr : List Event) : Prop := lightAwaited tr = true

instance (tr : List Event) : Decidable (LightAwaited tr) := inferInstanceAs (Decidable (_ = _))

/-- A move by light is pending. -/
def LightFlag (w : World) : Prop := w.sched.ldrFlag = .posUp ∨ w.sched.ldrFlag = .posDown

/-- The invariant of a run whose timer wake-ups follow a pass that waits for light. -/
structure Flawless (w : World) : Prop extends Sound w where
  pending : LightPending w → lastPassLight w.trace = true → LightFlag w
  due : TimerDue w → LightFlag w

variable {ω : Env} {w w' : World}

theorem lastPassLight_cons {e : Event} {tr : List Event} (he : isDark e = true) :
    lastPassLight (e :: tr) = lastPassLight tr := by
  cases e with
  | call f m => cases f <;> first | rfl | cases he
  | _ => rfl

theorem lastPassLight_observe (w : World) (s : Sample) :
    lastPassLight (w.observe s).trace = lastPassLight w.trace :=
  observe_keeps (P := fun tr => lastPassLight tr = lastPassLight w.trace) (fun _ h => h) rfl

/-- After a pass with a plan the flag says what the plan says about light. -/
theorem Pass.lightFlag {pos : Klappenposition} {a : DoorDayAlarm} {mode : OpeningMode}
    (hp : Pass ω pos a mode w w') :
    lastPassLight w'.trace = (planOf pos a mode w.sched.manualFlag w.clk.tNow).light ∧
      unscheduled w'.trace = false ∧
      w'.sched.ldrFlag =
        (if (planOf pos a mode w.sched.manualFlag w.clk.tNow).light then pos else .posBlocked) := by
  obtain ⟨w₁, h₁, hl⟩ := hp.carried
  have hlight : lastPassLight w₁.trace =
      (planOf pos a mode w.sched.manualFlag w.clk.tNow).light := by
    apply h₁.silent.trace.keeps (P := fun tr => lastPassLight tr = _)
    · intro e tr he htr
      cases e with
      | setAlarm => exact htr
      | _ => cases he
    · show awaitsLight pos a w.moment = _
      unfold awaitsLight
      rw [hp.valid]
      rfl
  have hsched : unscheduled w₁.trace = false := by
    refine h₁.silent.trace.keeps (P := fun tr => unscheduled tr = false) (fun e tr he htr => ?_) rfl
    cases e with
    | setAlarm => exact htr
    | _ => cases he
  -- the flag of the sensor is set in each branch that starts it
  cases hl with
  | off h =>
    rw [h] at hlight ⊢
    exact ⟨hlight, hsched, h₁.ldrFlag⟩
  | waiting h =>
    rw [h] at hlight ⊢
    exact ⟨hlight, hsched, h₁.nextMove⟩
  | armed h =>
    rw [h] at hlight ⊢
    exact ⟨hlight, hsched, h₁.nextMove⟩
  | measured h =>
    rw [h] at hlight ⊢
    have hread := lastPassLight_observe (withLight w₁ w₁.timer) (ω w₁.tick)
    have hread' := unscheduled_observe (withLight w₁ w₁.timer) (ω w₁.tick)
    exact ⟨hread.trans hlight, hread'.trans hsched, h₁.nextMove⟩

/-- The entries of the day have modes. -/
theorem Sound.entry_mode (h : Sound w) (pos : Klappenposition) :
    OpeningMode.ofByte (entryOf w pos).mode ≠ none := by
  have hvalid : ValidMode (entryOf w pos).mode := by
    unfold entryOf todaysAlarm
    split
    · exact h.opening _
    · exact h.closing _
  intro hm
  unfold ValidMode at hvalid
  rw [hm] at hvalid
  cases hvalid

/-- What a light step does to the invariant of the light. -/
theorem LightStep.lightFlag (h : LightStep ω w w') (hC : Historically LightAwaited w'.trace)
    (hI : Flawless w) :
    (LightPending w' → lastPassLight w'.trace = true → LightFlag w') ∧
      (TimerDue w' → LightFlag w') := by
  cases h with
  | dark _ h =>
    have hlast : lastPassLight w'.trace = lastPassLight w.trace :=
      h.trace.keeps (P := fun tr => lastPassLight tr = lastPassLight w.trace)
        (fun _ _ he htr => (lastPassLight_cons he).trans htr) rfl
    unfold LightFlag
    rw [hlast, h.ldrFlag]
    exact ⟨fun hp => hI.pending (h.pending hp), fun ht => hI.due (h.due ht)⟩
  | booted hb =>
    -- the wake-up was pending already, and the condition is about its record
    have hpending : w.wakeup = .timer → LightPending w := fun hw => .inr ⟨hw, .inl hb⟩
    constructor
    · intro hp hlast
      apply hI.pending _ hlast
      rcases hp with ht | ⟨hw, -⟩
      · exact .inl ht
      · exact hpending hw
    · intro ht
      have hw : w.wakeup = .timer := ht.1
      have hlast : lastPassLight w.trace = true := by
        have hnow := hC _ (List.suffix_refl _)
        rw [hw] at hnow
        exact hnow
      exact hI.pending (hpending hw) hlast
  | pass _ pos a mode hp =>
    obtain ⟨hlast, hsched, hflag⟩ := hp.lightFlag
    constructor
    · intro _ hlight
      rw [hlast] at hlight
      rw [hlight, if_pos rfl, hp.direction] at hflag
      have hcases := heading_cases w.door
      rw [← hflag] at hcases
      exact hcases
    · intro ht
      have hu := ht.2
      rw [hsched] at hu
      cases hu
  | stray _ pos hm hs => exact absurd hm (hI.entry_mode pos)
  | wrong ht hu hd =>
    rcases hI.due ht with hf | hf
    · exact absurd hf hu
    · exact absurd hf hd
  | measure ht hf hm => exact ⟨fun _ _ => hf, fun _ => hf⟩
  | trigger ht hf hm => exact ⟨fun _ _ => hf, fun _ => hf⟩

end Light

/-! ## Actions -/

section Actions

variable [TimeLib] {ω : Env} {w w' : World}

omit [TimeLib] in
/-- The byte that is written on the way to sleep is the one of the pending moves. -/
theorem ramOk_packRam {c : UInt8} (hc : c ≤ 15) {l a : Klappenposition} (hl : l ≠ .posDriving)
    (ha : a ≠ .posDriving) : RamOk (packRam c l a) := by
  unfold RamOk
  rw [unpack_packRam hc]
  exact ⟨hl, ha⟩

omit [TimeLib] in
theorem Sound.slept (h : Sound w) (s : Sample) : Sound (slept w s) := by
  have hcap : (if w.sched.ramCounter > 15 then 15 else w.sched.ramCounter) ≤ 15 := by
    split
    · exact UInt8.le_refl _
    · next hle => exact UInt8.not_lt.mp hle
  exact
    { (h.called .prepForDeepSleep).observe s with
      ram := ramOk_packRam hcap h.ldrFlag h.alarmFlag }

omit [TimeLib] in
theorem Sound.look (h : Sound w) (ω : Env) : Sound (lookedAt ω w) := by
  have herr : isInternal (if position (ω w.tick).endUp (ω (w.tick + 1)).endLow = .posBlocked
      then .timerBlockedElapsed else w.door.errorFlag) = false := by
    split
    · rfl
    · exact h.errorFlag
  exact { ((h.observe (ω w.tick)).observe (ω (w.tick + 1))).putError herr with }

/-- The alarm part of a pass. -/
theorem Sound.programmed (h : Sound w) {pos : Klappenposition} (hpos : pos = .posUp ∨ pos = .posDown)
    {a : DoorDayAlarm} {p : Plan} (hp : Programmed pos a p w w') : Sound w' := by
  have hne : pos ≠ .posDriving := by
    rcases hpos with rfl | rfl
    · decide
    · decide
  have hget : ∀ k, k ≠ .initFlag → w'.nvs.get k = w.nvs.get k := hp.nvs
  exact
    { modes :=
        ⟨by rw [hget _ (by decide)]; exact h.modes.opening,
          by rw [hget _ (by decide)]; exact h.modes.closing⟩
      ram := by rw [hp.silent.ram]; exact h.ram
      error := by
        unfold storedError
        rw [hget _ (by decide)]
        exact h.error
      opening := by rw [hp.opening]; exact h.opening
      closing := by rw [hp.closing]; exact h.closing
      editO := by rw [hp.menu]; exact h.editO
      editC := by rw [hp.menu]; exact h.editC
      ldrFlag := by
        rw [hp.ldrFlag]
        exact Klappenposition.noConfusion
      alarmFlag := by
        rw [hp.alarmFlag]
        split
        · exact hne
        · exact Klappenposition.noConfusion
      errorFlag := by rw [hp.door]; exact h.errorFlag
      trace := by
        refine hp.silent.trace.keeps (fun e tr he htr => ?_) (legit_cons (by simp) h.trace)
        apply legit_cons _ htr
        intro error heq
        rw [heq] at he
        cases he }

omit [TimeLib] in
theorem Sound.withLight (h : Sound w) (hn : w.sched.nextMove ≠ .posDriving) (timer : Option UInt64) :
    Sound (withLight w timer) :=
  { h with ldrFlag := hn, trace := legit_cons (by simp) h.trace }

omit [TimeLib] in
theorem Sound.measured (h : Sound w) (pos : Klappenposition) : Sound (measured ω w pos) :=
  { (h.observe (ω w.tick)).emit (e := .lightCheck pos (level ω w) w.sched.nextLux) (by simp) with }

theorem Sound.pass (h : Sound w) {pos : Klappenposition} {a : DoorDayAlarm} {mode : OpeningMode}
    (hp : Pass ω pos a mode w w') : Sound w' := by
  have hpos : pos = .posUp ∨ pos = .posDown := by
    rw [hp.direction]
    exact heading_cases _
  obtain ⟨w₁, h₁, hl⟩ := hp.carried
  have hs := h.programmed hpos h₁
  have hn : w₁.sched.nextMove ≠ .posDriving := by
    rw [h₁.nextMove]
    rcases hpos with rfl | rfl
    · decide
    · decide
  cases hl with
  | off => exact hs
  | waiting => exact hs.withLight hn _
  | armed => exact hs.withLight hn _
  | measured => exact (hs.withLight hn _).measured pos

/-- Every action of a status check or of a move. -/
theorem Work.sound (h : Work ω w w') (hI : Sound w) : Sound w' := by
  have hb := Sound.blind (ω := ω)
  cases h with
  | read => exact hI.observe _
  | led p => exact { hI with }
  | startMove _ hrun => exact wp_run (hb.startMove w hI) hrun
  | iterate _ _ pos again _ _ _ hrun => exact wp_run (hb.moveIteration pos w hI) hrun
  | finishMove _ _ _ _ _ hrun => exact wp_run (hb.finishMove w hI) hrun
  | look => exact hI.look ω
  | report => exact { hI.emit (e := .status true) (by simp) with }
  | accept => exact hI.emit (by simp)
  | pass _ pos a mode hp => exact hI.pass hp
  | stray _ pos _ _ hm => exact absurd hm (hI.entry_mode pos)
  | lose pos hm => exact absurd hm (hI.entry_mode pos)
  | sleep => exact hI.slept _

omit [TimeLib] in
/-- The edit screens keep the modes valid. -/
theorem editScreen_edits {k : Nat} {f : BtnAction → Menu → Menu} (hf : editScreen k = some f)
    (action : BtnAction) (m : Menu) : Edits m (f action m) := by
  unfold editScreen at hf
  split at hf
  · cases hf
    exact edits_hub action m 300 300 300 300 1
  · cases hf
    exact edits_screen100 action m
  · cases hf
    exact edits_screen110 action m
  · cases hf
    exact edits_screen200 action m
  · cases hf
    exact edits_hub action m 400 600 510 0 500
  · cases hf
    exact edits_hub action m 500 700 610 0 600
  · cases hf
    exact edits_hub action m 600 100 710 0 700
  · cases hf
    exact edits_screen800 action m
  · cases hf
    exact edits_screen810 action m
  · cases hf
    exact edits_screen820 action m
  · cases hf

/-- The handling of a wake-up, if that of a timer finds a move by light pending. -/
theorem WakeAct.sound (h : WakeAct ω w w') (hI : Sound w) (hdue : TimerDue w → LightFlag w) :
    Sound w' := by
  cases h with
  | work _ hw => exact hw.sound hI
  | keep => exact { hI with }
  | dispatch => exact { hI with }
  | booted => exact hI.emit (by simp)
  | alarmMove => exact hI.emit (by simp)
  | wrongAlarm hf => exact absurd hf hI.alarmFlag
  | wrongLight ht hu hd =>
    rcases hdue ht with hf | hf
    · exact absurd hf hu
    · exact absurd hf hd
  | measure => exact hI.measured _
  | trigger =>
    have hcheck := (hI.observe (ω w.tick)).emit
      (e := .lightCheck w.sched.ldrFlag (level ω w) w.sched.nextLux) (by simp)
    exact { hcheck.emit (e := .lightMove w.sched.ldrFlag (w.tick + 1)) (by simp) with }

/-- Every action, if a timer wake-up finds a move by light pending. -/
theorem Act.sound (h : Act ω w w') (hI : Sound w) (hdue : TimerDue w → LightFlag w) : Sound w' := by
  have he : ∀ action, Sound (entered w action) := hI.entered
  cases h with
  | wake _ hw => exact hw.sound hI hdue
  | update => exact hI.called _
  | goTo => exact { hI with }
  | enter action => exact he action
  | edit action f hf =>
    have hedits := editScreen_edits hf action w.menu
    exact { he action with editO := hedits.modeO hI.editO, editC := hedits.modeC hI.editC }
  | start action => exact { ((he action).called .updateTime).observe (ω w.tick) with }
  | acknowledge action => exact { (he action).putError (e := .noError) rfl with }
  | redraw => exact { he .nothing with }
  | setTime _ action _ hrun =>
    exact wp_run (Sound.clockKept.screen300 action ω _ (he action)) hrun
  | setDate _ action _ hrun =>
    exact wp_run (Sound.clockKept.screen400 action ω _ (he action)) hrun
  | initialise action =>
    have hput : Sound { entered w action with nvs := w.nvs.put .initNox 1 } :=
      { he action with
        toIntact := hI.toIntact.put (k := .initNox) 1 (by decide) (by decide) (by decide) }
    exact { hput.putError (e := .noError) rfl with }
  | save action =>
    have hm : Sound { entered w action with menu := { w.menu with menuId := 0 } } :=
      { he action with }
    exact hm.saved

end Actions

/-! ## Runs -/

section Runs

variable [TimeLib] {ω : Env} {w₀ w : World} {p : Phase}

theorem Rebooted.sound (hr : Rebooted ω w₀ w) (hi : Intact w₀.nvs w₀.rtc.ram)
    (ht : Historically Legit w₀.trace) : Sound w where
  modes := hr.stored hi.modes
  ram := by
    rw [hr.ram]
    exact hi.ram
  error := by
    unfold storedError
    rw [hr.nvs _ (by decide) (by decide)]
    exact hi.error
  opening := hr.opening hi.modes
  closing := hr.closing hi.modes
  editO := by
    rw [hr.menu]
    decide
  editC := by
    rw [hr.menu]
    decide
  -- the flags come from the RTC RAM, or are blocked at the first start
  ldrFlag := by
    rw [hr.ldrFlag, restoredFlags]
    split
    · exact Klappenposition.noConfusion
    · exact hi.ram.1
  alarmFlag := by
    rw [hr.alarmFlag, restoredFlags]
    split
    · exact Klappenposition.noConfusion
    · exact hi.ram.2
  errorFlag := by
    rw [hr.errorFlag]
    split
    · rfl
    · exact hi.error
  trace := by
    apply hr.keeps _ _ ht
    · intro e tr he htr
      apply legit_cons _ htr
      rintro error rfl
      cases he
    · exact fun m tr _ htr => legit_cons (by simp) htr

/-- A reset without a timer leaves nothing pending. -/
theorem Rebooted.flawless (hr : Rebooted ω w₀ w) (hi : Intact w₀.nvs w₀.rtc.ram)
    (ht : Historically Legit w₀.trace) (hw : w₀.wakeup ≠ .timer) (htimer : w₀.timer = none) :
    Flawless w := by
  have hwake : w.wakeup ≠ .timer := by
    rw [hr.wakeup]
    exact hw
  have hnot : ¬ LightPending w := not_lightPending (hr.timer.trans htimer) hwake
  exact
    { hr.sound hi ht with
      pending := fun hp => absurd hp hnot
      due := fun hd => absurd hd.1 hwake }

theorem flawless_invariant (hi : Intact w₀.nvs w₀.rtc.ram) :
    Invariant ω w₀ LightAwaited Flawless where
  act := by
    intro w w' ha hC hI
    obtain ⟨hpending, hdue⟩ := ha.light.lightFlag hC hI
    exact { ha.sound hI.toSound hI.due with pending := hpending, due := hdue }
  first := by
    intro w hr _
    have hnil : Historically Legit [] := historically_nil.mpr fun _ _ heq => by cases heq
    exact hr.flawless hi hnil WakeupCause.noConfusion rfl
  wake := by
    intro w w' cause hI hw hflags hr _
    refine { hr.sound hI.toIntact (legit_observe hI.trace _) with
      pending := fun hp hlast => ?_, due := fun hd => ?_ }
    · have hcause : cause = .timer := by
        rcases hp with ht | ⟨hwake, -⟩
        · rw [hr.timer] at ht
          cases ht
        · exact hr.wakeup.symm.trans hwake
      subst hcause
      -- the flag of a sleeping device with an enabled timer is read back
      have hldr : w'.sched.ldrFlag = w.sched.ldrFlag := by
        rw [hr.ldrFlag]
        exact congrArg (fun f => f.2.1) hflags
      have hlast' : lastPassLight w.trace = true := by
        rw [← hlast]
        have hread := lastPassLight_observe w (ω w.tick)
        refine hread.symm.trans (hr.keeps (P := fun tr => _ = lastPassLight tr) ?_ ?_ rfl)
        · intro e tr he htr
          cases e with
          | alarmFired t => exact htr
          | _ => cases he
        · exact fun m tr _ htr => htr
      unfold LightFlag
      rw [hldr]
      exact hI.pending (.inl hw) hlast'
    · have hu := hd.2
      rw [hr.unscheduled] at hu
      cases hu

/-- In every run whose timer wake-ups follow a pass that waits for light, none of the four
    internal errors is raised, and a timer wake-up finds `LDRFlag` at `POS_UP` or `POS_DOWN`. -/
theorem no_internal_error (hr : Run ω w₀ (p, w)) (hi : Intact w₀.nvs w₀.rtc.ram)
    (hC : Historically LightAwaited w.trace) :
    isInternal w.door.errorFlag = false ∧ Historically Legit w.trace ∧
      (p = .asleep → wakes (w.observe (ω w.tick)) (ω w.tick) .timer →
        LightAwaited (.booted .timer :: w.trace) → LightFlag w) := by
  have h : Flawless w := by
    refine (flawless_invariant hi).run (fun w w' hI hr _ => ?_) hr hC
    exact hr.flawless hI.toIntact hI.trace WakeupCause.noConfusion rfl
  refine ⟨h.errorFlag, h.trace, fun _ hw hawaited => ?_⟩
  exact h.pending (.inl hw) hawaited

end Runs

theorem intact_duskNvs : Intact duskNvs 0 where
  modes := storedModes_storedNvs (by decide) (by decide)
  ram := by decide
  error := by decide +kernel

/-- At dusk a timer wake-up follows a pass that waits for light. -/
theorem no_internal_error_duskPolled :
    .booted .timer ∈ duskPolled.world.trace ∧ isInternal duskPolled.world.door.errorFlag = false :=
  ⟨by decide +kernel, (no_internal_error duskPolled.run intact_duskNvs (by decide +kernel)).1⟩

/-! ## A cancelled move

The door is up.  On Monday it closes by light, on Tuesday not at all.  The device is powered on
ten minutes before midnight, and after the idle time its last pass is one of Tuesday; the timer
that the pass of Monday has enabled is still running. -/

/-- The flash of the run. -/
def midnightNvs : Nvs :=
  ((Nvs.put (Nvs.put KeyStore.empty .initNox 1) .initAlarm 1).put .openAlarms
    fun _ => { mode := 3 }).put .closeAlarms fun i => if i = 1 then { mode := 0 } else { mode := 3 }

/-- The inputs of the run: the start screen reads the clock again at reading 20, and the idle
    time is over at reading 27. -/
def midnightEnv : Env := fun n =>
  { endUp := true, endLow := true, milliVolts := 1000, millis := if n < 27 then 0 else 4000000
    rtc := if n < 13 then { noonMonday with hours := 23, minutes := 50 }
      else { noonMonday with hours := 0, minutes := 50, date := 4, weekday := 2 } }

/-- The device after the idle time. -/
def midnightAsleep : Reached midnightEnv { nvs := midnightNvs } .asleep :=
  (Reached.loop (.powerOn 20 (by decide +kernel)) 20 (by decide +kernel) :
    Reached midnightEnv { nvs := midnightNvs } .awake).loop 20 (by decide +kernel)

/-- The device after the timer wake-up. -/
def midnightAwake : Reached midnightEnv { nvs := midnightNvs } .awake :=
  midnightAsleep.wake 20 .timer (by decide +kernel) (by decide +kernel)

theorem intact_midnightNvs : Intact midnightNvs 0 where
  modes := by
    constructor
    · intro t ht
      rw [midnightNvs, nvs_get_put_of_ne _ _ (by decide), nvs_get_put_self _ _ (by decide)] at ht
      cases ht
      exact validModes_const (by decide)
    · intro t ht
      rw [midnightNvs, nvs_get_put_self _ _ (by decide)] at ht
      cases ht
      unfold ValidModes
      decide
  ram := by decide
  error := by decide +kernel

/-- The timer wake-up of Tuesday ends with `WRONG_LDR_FLAG`. -/
theorem wrong_ldr_flag_reached :
    ¬ ∀ (ω : Env) (w₀ : World) (p : Phase) (w : World), Run ω w₀ (p, w) →
      Intact w₀.nvs w₀.rtc.ram → isInternal w.door.errorFlag = false := by
  intro hall
  have h := hall midnightEnv _ _ _ midnightAwake.run intact_midnightNvs
  have herror : midnightAwake.world.door.errorFlag = .wrongLdrFlag := by decide +kernel
  rw [herror] at h
  cases h

end Eggvault.Spec
