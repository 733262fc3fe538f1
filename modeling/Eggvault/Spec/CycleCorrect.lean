import Eggvault.Spec.BootActions
import Eggvault.Spec.DoorCorrect
import Eggvault.Spec.PollCorrect
import Eggvault.Spec.RecursionCorrect

/-!
# From sleep to sleep

With the menu closed a scheduling pass puts the device to sleep.  So a status check without an
error does, and a move that ends at its goal: an undisturbed wake-up leads back to sleep, with a
budget that depends on nothing, and the next plan is for the other direction.

## Key results

- `statusabfrage_sleeps`: a status check of an undisturbed device
- `moveMotor_sleeps`: a move of an undisturbed device
- `boot_cycles`: an undisturbed wake-up by the timer or by the alarm
- `orders_alternate`: any number of them
-/

namespace Eggvault.Spec

open Eggvault.Native Prog Trace TimeLib

section Cycles

variable [TimeLib]

/-! ## Orders -/

/-- The moves that the alarm and the light sensor have ordered, newest first. -/
def ordered (tr : List Event) : List Klappenposition :=
  tr.filterMap fun
    | .alarmMove pos _ => some pos
    | .lightMove pos _ => some pos
    | _ => none

/-- The event orders a move. -/
def isOrder : Event → Bool
  | .alarmMove _ _ | .lightMove _ _ => true
  | _ => false

section Orders

variable {ω : Env} {w w' : World} {pos : Klappenposition} {tr tr' : List Event}

omit [TimeLib] in
theorem ordered_cons {e : Event} (he : isOrder e = false) : ordered (e :: tr) = ordered tr := by
  cases e <;> first | rfl | cases he

omit [TimeLib] in
theorem ordered_extends {p : Event → Bool} (h : Extends p tr tr')
    (hp : ∀ e, p e = true → isOrder e = false) : ordered tr' = ordered tr :=
  h.keeps (P := fun t => ordered t = ordered tr)
    (fun e _ he ht => (ordered_cons (hp e he)).trans ht) rfl

omit [TimeLib] in
theorem ordered_observe (s : Sample) : ordered (w.observe s).trace = ordered w.trace :=
  observe_keeps (P := fun t => ordered t = ordered w.trace) (fun _ h => h) rfl

omit [TimeLib] in
/-- A move orders nothing itself. -/
theorem isOrder_of_isMoveEvent {e : Event} (he : isMoveEvent e = true) : isOrder e = false := by
  cases e <;> first | rfl | cases he

/-- Nor does a pass, with the light sensor armed or not. -/
theorem Pass.ordered {a : DoorDayAlarm} {mode : OpeningMode} (h : Pass ω pos a mode w w') :
    ordered w'.trace = ordered w.trace := by
  obtain ⟨w₁, h₁, hl⟩ := h.carried
  have hset : Spec.ordered w₁.trace = Spec.ordered w.trace := by
    refine (ordered_extends (p := isSetAlarm) h₁.silent.trace fun e he => ?_).trans rfl
    cases e <;> first | rfl | cases he
  cases hl with
  | off => exact hset
  | waiting => exact hset
  | armed => exact hset
  | measured => exact (ordered_observe (w := withLight w₁ w₁.timer) _).trans hset

omit [TimeLib] in
/-- Nor does falling asleep. -/
theorem slept_ordered (s : Sample) : ordered (slept (lit w) s).trace = ordered w.trace := by
  have hlit : ordered (lit w).trace = ordered w.trace := by
    unfold lit
    split <;> rfl
  exact (ordered_observe (w := (lit w).called .prepForDeepSleep) s).trans hlit

end Orders

/-! ## Falling asleep -/

/-- The program puts the device to sleep with `Q`. -/
def sleeps {α : Type} (Q : World → Prop) : Post World α := ⟨fun _ _ => False, Q, fun _ => False⟩

/-- The device sleeps after a pass from `w` for the direction `pos`. -/
def SleptAfter (ω : Env) (pos : Klappenposition) (w w' : World) : Prop :=
  ∃ a mode w₁, Pass ω pos a mode w w₁ ∧ w' = slept (lit w₁) (ω w₁.tick)

section Passes

variable {ω : Env} {w w₁ : World} {pos : Klappenposition} {a : DoorDayAlarm}

/-- The end of a pass with a plan. -/
theorem pass_goes (n : Nat) {mode : OpeningMode} (hd : pos = heading w.door)
    (he : w.door.errorFlag = .noError) (ha : a = entryOf w pos)
    (hm : OpeningMode.ofByte a.mode = some mode) :
    Goes ω (n + 1) pos a (planOf pos a mode w.sched.manualFlag w.clk.tNow) w
      ⟨fun _ => Pass ω pos a mode w, fun _ => False, fun _ => False⟩ := by
  have hpos : pos = .posUp ∨ pos = .posDown := by rw [hd]; exact heading_cases _
  constructor
  · intro w₁ h₁ hl
    exact ⟨hd, he, ha, hm, w₁, h₁, .off hl⟩
  · intro w₁ h₁ hl
    have hmove : w₁.sched.nextMove = pos := h₁.nextMove
    simp only [armLight, wp_bind, wp_modifySched, wp_get, wp_ite, wp_emit, wp_enableTimerWakeup,
      wp_pure]
    refine ⟨fun hp => ⟨hd, he, ha, hm, w₁, h₁, .waiting hl hp⟩, fun hp => ?_⟩
    apply wp_mono (activateLDR_polls (w := withLight w₁ w₁.timer) (n + 1) hpos hmove rfl)
    · intro _ w₂ hw₂
      rw [hw₂]
      exact ⟨hd, he, ha, hm, w₁, h₁, .measured hl hp⟩
    · exact fun _ hf => hf.elim
    · rintro w₂ ⟨hn, -⟩
      cases hn

/-- With the menu closed the end of a pass is deep sleep. -/
theorem finishScheduling_sleeps {mode : OpeningMode} (ha : w.menu.menuActive = false)
    (h : Pass ω pos a mode w w₁) : wp finishScheduling (sleeps (SleptAfter ω pos w)) ω w₁ := by
  have hclosed : w₁.menu.menuActive = false := by
    rw [h.frame.2]
    exact ha
  rw [wp_finishScheduling]
  refine ⟨fun hopen => ?_, fun _ => ⟨a, mode, w₁, h, rfl⟩⟩
  rw [hclosed] at hopen
  cases hopen

theorem setNextOpeningAlarm_sleeps (n : Nat) (ha : w.menu.menuActive = false)
    (hv : ValidModes w.sched.openingAlarms) (hd : heading w.door = .posUp)
    (he : w.door.errorFlag = .noError) :
    wp (setNextOpeningAlarm (n + 2)) (sleeps (SleptAfter ω .posUp w)) ω w := by
  rw [setNextOpeningAlarm, wp_get_bind]
  apply wp_then (startScheduling_starts _ _)
  intro _ w₁ h₁
  obtain ⟨mode, hm⟩ : ∃ mode, OpeningMode.ofByte (entryOf w .posUp).mode = some mode :=
    Option.isSome_iff_exists.mp (hv _)
  have hm' : OpeningMode.ofByte (todaysAlarm w.sched.openingAlarms w.clk.tNow).mode = some mode := hm
  rw [hm']
  apply wp_then (openingSwitch_goes (n + 1) mode h₁ (pass_goes n hd.symm he rfl hm))
  exact fun _ _ h₂ => finishScheduling_sleeps ha h₂

theorem setNextClosingAlarm_sleeps (n : Nat) (ha : w.menu.menuActive = false)
    (hv : ValidModes w.sched.closingAlarms) (hd : heading w.door = .posDown)
    (he : w.door.errorFlag = .noError) :
    wp (setNextClosingAlarm (n + 2)) (sleeps (SleptAfter ω .posDown w)) ω w := by
  rw [setNextClosingAlarm, wp_get_bind]
  apply wp_then (startScheduling_starts _ _)
  intro _ w₁ h₁
  obtain ⟨mode, hm⟩ : ∃ mode, OpeningMode.ofByte (entryOf w .posDown).mode = some mode :=
    Option.isSome_iff_exists.mp (hv _)
  have hm' : OpeningMode.ofByte (todaysAlarm w.sched.closingAlarms w.clk.tNow).mode = some mode := hm
  rw [hm']
  apply wp_then (closingSwitch_goes (n + 1) mode h₁ (pass_goes n hd.symm he rfl hm))
  exact fun _ _ h₂ => finishScheduling_sleeps ha h₂

/-- The device after a status check that has found no error. -/
def accepted (ω : Env) (w : World) : World :=
  { lookedAt ω w with trace := .status false :: (lookedAt ω w).trace }

/-- With the menu closed a status check that finds neither an error nor a blocked door puts the
    device to sleep, after a pass for the direction in which the door is heading. -/
theorem statusabfrage_sleeps (n : Nat) (ha : w.menu.menuActive = false)
    (ho : ValidModes w.sched.openingAlarms) (hc : ValidModes w.sched.closingAlarms)
    (he : w.door.errorFlag = .noError) (hr : reading ω w ≠ (false, true)) :
    wp (statusabfrage (n + 3))
      (sleeps (SleptAfter ω (heading (lookedAt ω w).door) (accepted ω w))) ω w := by
  have hne : position (ω w.tick).endUp (ω (w.tick + 1)).endLow ≠ .posBlocked := by
    unfold reading at hr
    revert hr
    cases (ω w.tick).endUp <;> cases (ω (w.tick + 1)).endLow <;> simp [position]
  have he' : (lookedAt ω w).door.errorFlag = .noError := (if_neg hne).trans he
  rw [statusabfrage, wp_bind, wp_readStatus]
  apply (wp_get_bind _).mpr
  apply (wp_ite _ _ _).mpr
  refine ⟨fun herr => absurd he' herr, fun _ => ?_⟩
  have hopen : heading (lookedAt ω w).door = .posUp →
      wp (setNextOpeningAlarm (n + 2))
        (sleeps (SleptAfter ω (heading (lookedAt ω w).door) (accepted ω w))) ω (accepted ω w) := by
    intro hd
    rw [hd]
    exact setNextOpeningAlarm_sleeps n ha ho hd he'
  have hclose : heading (lookedAt ω w).door = .posDown →
      wp (setNextClosingAlarm (n + 2))
        (sleeps (SleptAfter ω (heading (lookedAt ω w).door) (accepted ω w))) ω (accepted ω w) := by
    intro hd
    rw [hd]
    exact setNextClosingAlarm_sleeps n ha hc hd he'
  simp only [wp_bind, wp_emit]
  cases hp : (lookedAt ω w).door.doorPosition with
  | posUp => exact hclose (by simp [heading, hp])
  | posDown => exact hopen (by simp [heading, hp])
  | posBlocked => exact absurd hp hne
  | posDriving =>
    apply (wp_ite _ _ _).mpr
    exact ⟨fun hlast => hopen (by simp [heading, hp, hlast]),
      fun hlast => hclose (by simp [heading, hp, hlast])⟩

end Passes

/-! ## Moves -/

/-- The other end of the way. -/
def across (pos : Klappenposition) : Klappenposition := if pos = .posDown then .posUp else .posDown

/-- A move to `pos` from `w` is not disturbed: the door is in order and the clock runs, no button is
    pressed, and when the motor is off the door is not yet at the other end. -/
structure Undisturbed (ω : Env) {H : Nat} (x : Nat → Fin (H + 1)) (T : Nat → Nat)
    (pos : Klappenposition) (w : World) : Prop where
  door : ∀ tr, InOrder ω x T pos w tr
  clock : Paced ω T pos w
  buttons : ∀ k, w.tick ≤ k → released ω k = true
  rests : ∀ ws v, Rounds ω pos w ws true v → v.door.doorPosition = pos →
    reading ω v = goalReading pos ∨ reading ω v = (true, false)

section Moves

variable {ω : Env} {w w' : World} {pos : Klappenposition}

omit [TimeLib] in
/-- The end of a move reads nothing and leaves the position as it is. -/
theorem finishMove_stays :
    wp finishMove (returns fun w' => w'.tick = w.tick ∧ w'.door.doorPosition = w.door.doorPosition)
      ω w := by
  simp only [finishMove, wp_bind, wp_modifyDoor, wp_digitalWrite_mFwd, wp_digitalWrite_mBack, wp_emit,
    wp_get, wp_memoryPut, wp_when]
  exact ⟨fun _ => ⟨rfl, rfl⟩, fun _ => ⟨rfl, rfl⟩⟩

omit [TimeLib] in
/-- A door that has come to `pos` is heading for the other end. -/
theorem heading_across (hpos : pos = .posUp ∨ pos = .posDown) (hlast : w.door.lastDoorPosition = pos)
    (hr : reading ω w = goalReading pos ∨ reading ω w = (true, false)) :
    heading (lookedAt ω w).door = across pos := by
  have hposition : (lookedAt ω w).door.doorPosition = position (reading ω w).1 (reading ω w).2 := rfl
  have hkept : (lookedAt ω w).door.lastDoorPosition = pos := hlast
  unfold heading
  rw [hposition, hkept]
  rcases hpos with rfl | rfl <;> rcases hr with hr | hr <;> rw [hr] <;> rfl

/-- With the menu closed an undisturbed move puts the device to sleep, with the door at its goal and
    after a pass for the other direction. -/
theorem moveMotor_sleeps {H : Nat} {x : Nat → Fin (H + 1)} {T : Nat → Nat} {n : Nat} (hH : 0 < H)
    (hpos : pos = .posUp ∨ pos = .posDown) (h : Undisturbed ω x T pos w)
    (ha : w.menu.menuActive = false) (ho : ValidModes w.sched.openingAlarms)
    (hc : ValidModes w.sched.closingAlarms) (he : w.door.errorFlag = .noError)
    (hn : roundLimit + 3 ≤ n) :
    wp (moveMotor (n + 1) pos)
      (sleeps fun w' => ∃ v, Arrived pos w v ∧ v.timer = w.timer ∧
        ordered v.trace = ordered w.trace ∧ SleptAfter ω (across pos) (accepted ω v) w') ω w := by
  obtain ⟨_, w₁, hstart, -⟩ := exists_run (startMove_started (ω := ω) (w := w))
  obtain ⟨w₂, hlimit⟩ := h.clock.returns hpos hstart (Nat.le_refl roundLimit)
  obtain ⟨w₃, ws, hfinish, hr, -, harrived⟩ := arrives hH hpos h.door h.buttons hstart hlimit
  have hloop : ∀ n, roundLimit ≤ n → moveLoop pos n ω w₁ = .done () w₂ := fun _ hn =>
    repeatWhile_done hlimit hn
  -- a move changes neither the menu nor the variables of the schedulers
  have hb : Blind ω fun w' => w'.menu = w.menu ∧ w'.sched = w.sched ∧ w'.timer = w.timer ∧
      ordered w'.trace = ordered w.trace := by
    refine ⟨fun v h => ?_, fun _ _ _ h => h, fun _ _ h => h, fun _ e he h => ?_, fun _ _ _ _ h => h⟩
    · exact ⟨h.1, h.2.1, h.2.2.1, (ordered_observe _).trans h.2.2.2⟩
    · exact ⟨h.1, h.2.1, h.2.2.1, (ordered_cons (isOrder_of_isMoveEvent he)).trans h.2.2.2⟩
  have h₁ := wp_run (hb.startMove w ⟨rfl, rfl, rfl, rfl⟩) hstart
  have h₂ := wp_run (hb.moveLoop pos n w₁ h₁) (hloop n (by omega))
  have h₃ : w₃.menu = w.menu ∧ w₃.sched = w.sched ∧ w₃.timer = w.timer ∧
      ordered w₃.trace = ordered w.trace := wp_run (hb.finishMove w₂ h₂) hfinish
  have hrest : reading ω w₃ = goalReading pos ∨ reading ω w₃ = (true, false) := by
    obtain ⟨htick, hposition⟩ := wp_run finishMove_stays hfinish
    unfold reading
    rw [htick]
    exact h.rests ws w₂ hr (hposition.symm.trans harrived.position)
  have hflag : w₃.door.errorFlag = .noError := by
    rw [harrived.errorFlag, he]
    rfl
  have hne : reading ω w₃ ≠ (false, true) := by
    rcases hpos with rfl | rfl <;> rcases hrest with hread | hread <;> rw [hread] <;> decide
  obtain ⟨k, rfl⟩ : ∃ k, n = k + 3 := ⟨n - 3, by unfold roundLimit at hn; omega⟩
  have hstatus := statusabfrage_sleeps (ω := ω) (w := w₃) k (by rw [h₃.1]; exact ha)
    (by rw [h₃.2.1]; exact ho) (by rw [h₃.2.1]; exact hc) hflag hne
  rw [heading_across hpos harrived.last hrest] at hstatus
  rw [moveMotor, wp_bind, wp_iff, hstart]
  show wp _ _ _ _
  rw [wp_bind, wp_iff, hloop _ (by omega)]
  show wp _ _ _ _
  rw [wp_bind, wp_iff, hfinish]
  exact wp_mono hstatus (fun _ _ hf => hf)
    (fun _ hs => ⟨w₃, harrived, h₃.2.2.1, h₃.2.2.2, hs⟩) fun _ hf => hf

end Moves

/-! ## Plans -/

/-- What is pending in `w` are moves to `pos` only, and the timer runs for such a move only. -/
structure Planned (pos : Klappenposition) (w : World) : Prop where
  alarmFlag : w.sched.alarmFlag = pos ∨ w.sched.alarmFlag = .posBlocked
  ldrFlag : w.sched.ldrFlag = pos ∨ w.sched.ldrFlag = .posBlocked
  timer : w.timer.isSome = true → w.sched.ldrFlag = pos

section Plans

variable {ω : Env} {w w' : World} {pos : Klappenposition}

/-- A pass leaves moves in its own direction pending. -/
theorem Pass.planned {a : DoorDayAlarm} {mode : OpeningMode} (h : Pass ω pos a mode w w')
    (ht : w.timer = none) : Planned pos w' := by
  obtain ⟨w₁, h₁, hl⟩ := h.carried
  have halarm : w₁.sched.alarmFlag = pos ∨ w₁.sched.alarmFlag = .posBlocked := by
    rw [h₁.alarmFlag]
    split
    · exact .inl rfl
    · exact .inr rfl
  have htimer : w₁.timer = none := h₁.silent.timer.trans ht
  have hmove : w₁.sched.nextMove = pos := h₁.nextMove
  cases hl with
  | off =>
    refine ⟨halarm, .inr h₁.ldrFlag, fun hsome => ?_⟩
    rw [htimer] at hsome
    cases hsome
  | waiting => exact ⟨halarm, .inl hmove, fun _ => hmove⟩
  | armed => exact ⟨halarm, .inl hmove, fun _ => hmove⟩
  | measured => exact ⟨halarm, .inl hmove, fun _ => hmove⟩

omit [TimeLib] in
/-- Falling asleep keeps the flags and the timer. -/
theorem Planned.slept (h : Planned pos w) (s : Sample) : Planned pos (slept (lit w) s) := by
  have hsched : (lit w).sched = w.sched := by
    unfold lit
    split <;> rfl
  have htimer : (lit w).timer = w.timer := by
    unfold lit
    split <;> rfl
  have hflags : (Spec.slept (lit w) s).sched.alarmFlag = w.sched.alarmFlag ∧
      (Spec.slept (lit w) s).sched.ldrFlag = w.sched.ldrFlag := by
    rw [← hsched]
    exact ⟨rfl, rfl⟩
  have hslept : (Spec.slept (lit w) s).timer = w.timer := by
    rw [← htimer]
    rfl
  constructor
  · rw [hflags.1]
    exact h.alarmFlag
  · rw [hflags.2]
    exact h.ldrFlag
  · rw [hslept, hflags.2]
    exact h.timer

theorem SleptAfter.planned (h : SleptAfter ω pos w w') (ht : w.timer = none) : Planned pos w' := by
  obtain ⟨a, mode, w₁, hpass, rfl⟩ := h
  exact (hpass.planned ht).slept _

/-- The door of a sleeping device is the one of its last status check. -/
theorem SleptAfter.door (h : SleptAfter ω pos w w') : w'.door = w.door := by
  obtain ⟨a, mode, w₁, hpass, rfl⟩ := h
  have hlit : (lit w₁).door = w₁.door := by
    unfold lit
    split <;> rfl
  exact hlit.trans hpass.frame.1

theorem SleptAfter.ordered (h : SleptAfter ω pos w w') : ordered w'.trace = ordered w.trace := by
  obtain ⟨a, mode, w₁, hpass, rfl⟩ := h
  exact (slept_ordered _).trans hpass.ordered

theorem SleptAfter.errorFlag (h : SleptAfter ω pos w w') : w'.door.errorFlag = .noError := by
  have hdoor := h.door
  obtain ⟨a, mode, w₁, hpass, -⟩ := h
  rw [hdoor]
  exact hpass.noError

end Plans

/-! ## One wake-up -/

/-- The device has been woken up by the timer or by the alarm and is ready to sleep again. -/
structure Refreshed (v : World) : Prop where
  closed : v.menu.menuActive = false
  opening : ValidModes v.sched.openingAlarms
  closing : ValidModes v.sched.closingAlarms
  errorFlag : v.door.errorFlag = .noError
  timer : v.timer = none

/-- The move that a wake-up of the sleeping device orders, if any. -/
def order (ω : Env) (w : World) : WakeupCause → Option Klappenposition
  | .timer =>
    if pollHits ω w w.sched.ldrFlag = true ∧ w.sched.ramCounter + 1 ≥ luxDebounceNumber then
      some w.sched.ldrFlag
    else none
  | .ext1 .clkInt =>
    if w.sched.alarmFlag = .posUp ∨ w.sched.alarmFlag = .posDown then some w.sched.alarmFlag else none
  | _ => none

section Cycle

variable {ω : Env} {w w₀ w₁ v : World} {pos : Klappenposition} {cause : WakeupCause} {k n : Nat}

/-- A wake-up from sleep finds no error, and valid modes. -/
theorem Roused.refreshed {valid : Prop} (ha : Asleep valid w) (hv : valid)
    (h : Roused ω k ((w.observe (ω w.tick)).reset cause) w₁ v) : Refreshed v := by
  have hr := h.rebooted
  have hstored : StoredModes w.nvs := ha.base.stored hv
  constructor
  · rw [h.menu]
  · rw [h.sched]
    exact hr.opening hstored
  · rw [h.sched]
    exact hr.closing hstored
  · rw [h.door, hr.errorFlag]
    split
    · rfl
    · next hnox =>
      have hinit : w.sched.fInitNox ≠ 0 := by
        rw [ha.base.nox]
        exact hnox
      exact ha.storedError hinit
  · rw [h.timer, hr.timer]
    rfl

/-- The device sleeps after a move from `v`: the door has come to `pos`, and moves the other way are
    pending. -/
structure SleptAt (pos : Klappenposition) (v w : World) : Prop where
  last : w.door.lastDoorPosition = pos
  errorFlag : w.door.errorFlag = .noError
  planned : Planned (across pos) w
  ordered : ordered w.trace = ordered v.trace

/-- An undisturbed move of a device that has just been woken up. -/
theorem Refreshed.moves {H : Nat} {x : Nat → Fin (H + 1)} {T : Nat → Nat} (hv : Refreshed v)
    (hH : 0 < H) (hpos : pos = .posUp ∨ pos = .posDown) (h : Undisturbed ω x T pos v)
    (hn : roundLimit + 4 ≤ n) : wp (moveMotor n pos) (sleeps (SleptAt pos v)) ω v := by
  obtain ⟨m, rfl⟩ : ∃ m, n = m + 1 := ⟨n - 1, by omega⟩
  have hmove := moveMotor_sleeps (n := m) hH hpos h hv.closed hv.opening hv.closing hv.errorFlag
    (by omega)
  refine wp_mono hmove (fun _ _ hf => hf) ?_ (fun _ hf => hf)
  rintro w' ⟨u, harrived, htimer, hordered, hslept⟩
  constructor
  · rw [hslept.door]
    exact harrived.last
  · exact hslept.errorFlag
  · exact hslept.planned (htimer.trans hv.timer)
  · exact hslept.ordered.trans ((ordered_observe _).trans ((ordered_observe _).trans hordered))

/-- The environment of a wake-up of the sleeping device, whose door was last at the other end than
    `pos`: a move that the wake-up orders is not disturbed, and a door that is not moved has stayed
    where it was, or hangs below the top. -/
structure Peaceful (ω : Env) (pos : Klappenposition) (w : World) (cause : WakeupCause) : Prop where
  moves : ∀ p, order ω w cause = some p → ∃ (H : Nat) (x : Nat → Fin (H + 1)) (T : Nat → Nat),
    0 < H ∧ ∀ v, v.tick = w.tick + 11 → Undisturbed ω x T p v
  stays : order ω w cause = none → cause = .ext1 .clkInt → ∀ v, v.tick = w.tick + 11 →
    reading ω v = goalReading (across pos) ∨ (pos = .posDown ∧ reading ω v = (true, false))

/-- What a wake-up leads to: an order has been carried out, and what is pending now is the way back;
    without one the plan is still for `pos`. -/
structure Cycled (ω : Env) (pos : Klappenposition) (w : World) (cause : WakeupCause) (w' : World) :
    Prop where
  errorFlag : w'.door.errorFlag = .noError
  moved : ∀ p, order ω w cause = some p →
    p = pos ∧ w'.door.lastDoorPosition = pos ∧ Planned (across pos) w'
  stayed : order ω w cause = none → Planned pos w'
  ordered : ordered w'.trace = (order ω w cause).toList ++ ordered w.trace

omit [TimeLib] in
theorem SleptAt.cycled (h : order ω w cause = some pos) {w' : World} (hs : SleptAt pos v w')
    (ht : Spec.ordered v.trace = pos :: Spec.ordered w.trace) : Cycled ω pos w cause w' where
  errorFlag := hs.errorFlag
  moved := by
    intro p hp
    obtain rfl : pos = p := Option.some.inj (h.symm.trans hp)
    exact ⟨rfl, hs.last, hs.planned⟩
  stayed := by
    intro hn
    rw [h] at hn
    cases hn
  ordered := by
    rw [h]
    exact hs.ordered.trans ht

omit [TimeLib] in
theorem Planned.cycled (h : order ω w cause = none) {w' : World} (hp : Planned pos w')
    (he : w'.door.errorFlag = .noError) (ht : ordered w'.trace = ordered w.trace) :
    Cycled ω pos w cause w' where
  errorFlag := he
  moved := by
    intro p hs
    rw [h] at hs
    cases hs
  stayed := fun _ => hp
  ordered := by
    rw [h]
    exact ht

omit [TimeLib] in
/-- A door at the other end is heading for `pos`, whatever the reset has made of the last
    position. -/
theorem heading_of_rest (hpos : pos = .posUp ∨ pos = .posDown)
    (hlast : v.door.lastDoorPosition ≠ .posDown)
    (hr : reading ω v = goalReading (across pos) ∨ (pos = .posDown ∧ reading ω v = (true, false))) :
    heading (lookedAt ω v).door = pos ∧ reading ω v ≠ (false, true) := by
  have hposition : (lookedAt ω v).door.doorPosition = position (reading ω v).1 (reading ω v).2 := rfl
  have hkept : (lookedAt ω v).door.lastDoorPosition = v.door.lastDoorPosition := rfl
  unfold heading
  rw [hposition, hkept]
  rcases hr with hr | ⟨rfl, hr⟩
  · rcases hpos with rfl | rfl <;> rw [hr] <;> exact ⟨rfl, by decide⟩
  · rw [hr]
    exact ⟨if_neg hlast, by decide⟩

/-- A reset does not restore a last position at the bottom. -/
theorem Roused.last {w₀ : World} (h : Roused ω k w₀ w₁ v) : v.door.lastDoorPosition ≠ .posDown := by
  rw [h.door, h.rebooted.lastDoorPosition]
  split <;> exact Klappenposition.noConfusion

/-- Waking up orders nothing. -/
theorem Roused.ordered (h : Roused ω k ((w.observe (ω w.tick)).reset cause) w₁ v) :
    ordered v.trace = ordered w.trace := by
  have hfiring : ∀ e, isFiring e = true → isOrder e = false := by
    intro e he
    cases e <;> first | rfl | cases he
  obtain ⟨tr, m, htr, -, hcall⟩ := h.rebooted.trace
  have hlast : Spec.ordered v.trace = Spec.ordered (.booted cause :: w₁.trace) :=
    ordered_extends h.trace hfiring
  have hstart : Spec.ordered w₁.trace = Spec.ordered (.call .updateTime m :: tr) :=
    ordered_extends hcall hfiring
  have hread : Spec.ordered tr = Spec.ordered (w.observe (ω w.tick)).trace :=
    ordered_extends htr hfiring
  exact hlast.trans (hstart.trans (hread.trans (ordered_observe _)))

/-- The handling of an alarm. -/
theorem alarmWakeupHandling_sleeps (hv : Refreshed v) (hpos : pos = .posUp ∨ pos = .posDown)
    (hp : Planned pos w) (hpeace : Peaceful ω pos w (.ext1 .clkInt)) (htick : v.tick = w.tick + 11)
    (hlast : v.door.lastDoorPosition ≠ .posDown) (hflag : v.sched.alarmFlag = w.sched.alarmFlag)
    (htrace : ordered v.trace = ordered w.trace) (hn : roundLimit + 4 ≤ n) :
    wp (alarmWakeupHandling n) (sleeps (Cycled ω pos w (.ext1 .clkInt))) ω v := by
  rw [alarmWakeupHandling, wp_get_bind, hflag]
  rcases hp.alarmFlag with hf | hf
  · -- the pending move
    have horder : order ω w (.ext1 .clkInt) = some pos := by simp [order, hf, hpos]
    obtain ⟨H, x, T, hH, hmove⟩ := hpeace.moves pos horder
    have hmoves : ∀ t, wp (moveMotor n pos) (sleeps (Cycled ω pos w (.ext1 .clkInt))) ω
        { v with trace := .alarmMove pos t :: v.trace } := by
      intro t
      have hslept := Refreshed.moves (v := { v with trace := .alarmMove pos t :: v.trace })
        { hv with } hH hpos (hmove _ htick) hn
      exact wp_mono hslept (fun _ _ hf => hf)
        (fun _ hs => hs.cycled horder (congrArg (pos :: ·) htrace)) fun _ hf => hf
    rw [hf]
    rcases hpos with rfl | rfl
    · simp only [wp_bind, wp_get, wp_emit]
      exact hmoves _
    · simp only [wp_bind, wp_get, wp_emit]
      exact hmoves _
  · -- only a new plan
    have horder : order ω w (.ext1 .clkInt) = none := by simp [order, hf]
    obtain ⟨hheading, hne⟩ := heading_of_rest hpos hlast (hpeace.stays horder rfl v htick)
    obtain ⟨m, rfl⟩ : ∃ m, n = m + 3 := ⟨n - 3, by unfold roundLimit at hn; omega⟩
    have hstatus := statusabfrage_sleeps m hv.closed hv.opening hv.closing hv.errorFlag hne
    rw [hheading] at hstatus
    rw [hf]
    exact wp_mono hstatus (fun _ _ hf => hf)
      (fun _ hs => (hs.planned hv.timer).cycled horder hs.errorFlag
        (hs.ordered.trans ((ordered_observe _).trans ((ordered_observe _).trans htrace))))
      fun _ hf => hf

/-- The handling of a wake-up by the timer. -/
theorem timerWakeupHandling_sleeps (hv : Refreshed v) (hpos : pos = .posUp ∨ pos = .posDown)
    (hp : Planned pos w) (hpeace : Peaceful ω pos w .timer) (htick : v.tick = w.tick + 10)
    (hw : w.timer.isSome = true) (hldr : v.sched.ldrFlag = w.sched.ldrFlag)
    (halarm : v.sched.alarmFlag = w.sched.alarmFlag)
    (hcount : v.sched.ramCounter = w.sched.ramCounter) (hlux : v.sched.nextLux = 0)
    (htrace : ordered v.trace = ordered w.trace) (hn : roundLimit + 5 ≤ n) :
    wp (timerWakeupHandling n) (sleeps (Cycled ω pos w .timer)) ω v := by
  obtain ⟨m, rfl⟩ : ∃ m, n = m + 1 := ⟨n - 1, by omega⟩
  have hf : w.sched.ldrFlag = pos := hp.timer hw
  have hhits : hitsNow ω v pos = pollHits ω w w.sched.ldrFlag := by
    rw [hf, hitsNow, level, hlux, htick]
    rfl
  have htrig : Triggers ω v pos ↔
      pollHits ω w w.sched.ldrFlag = true ∧ w.sched.ramCounter + 1 ≥ luxDebounceNumber := by
    rw [Triggers, hhits, hcount]
  rw [timerWakeupHandling, wp_bind]
  refine activateLDR_cases m hpos (hldr.trans hf) (fun ht => ?_) (fun ht => ?_)
  · -- the counter is full
    have horder : order ω w .timer = some pos := by
      simp only [order]
      rw [if_pos (htrig.mp ht), hf]
    obtain ⟨H, x, T, hH, hmove⟩ := hpeace.moves pos horder
    have htick' : (triggered ω v pos).tick = w.tick + 11 := by
      show v.tick + 1 = _
      omega
    have htrace' : ordered (triggered ω v pos).trace = pos :: ordered w.trace :=
      congrArg (pos :: ·) ((ordered_observe _).trans htrace)
    have hslept : wp (moveMotor m pos) (sleeps (SleptAt pos (triggered ω v pos))) ω
        (triggered ω v pos) := Refreshed.moves { hv with } hH hpos (hmove _ htick') (by omega)
    exact wp_mono hslept (fun _ _ hf => hf.elim) (fun _ hs => hs.cycled horder htrace')
      fun _ hf => hf
  · have horder : order ω w .timer = none := by
      simp only [order]
      rw [if_neg fun hc => ht (htrig.mpr hc)]
    have hkept : v.sched.alarmFlag = pos ∨ v.sched.alarmFlag = .posBlocked := by
      rw [halarm]
      exact hp.alarmFlag
    apply (wp_when _ _).mpr
    have hplanned : Planned pos (slept (measured ω v pos) (ω (measured ω v pos).tick)) :=
      ⟨hkept, .inl (hldr.trans hf), fun _ => hldr.trans hf⟩
    have hmeasured : ordered (measured ω v pos).trace = ordered w.trace :=
      (ordered_observe (w := v) _).trans htrace
    refine ⟨fun _ => wp_prepForDeepSleep.mpr (hplanned.cycled horder hv.errorFlag ?_),
      fun hne => absurd hne (by decide)⟩
    exact (ordered_observe (w := (measured ω v pos).called .prepForDeepSleep) _).trans hmeasured

/-- A wake-up of a sleeping device by the timer or by the alarm, in a calm environment. -/
theorem boot_cycles {valid : Prop} (ha : Asleep valid w) (hv : valid)
    (hpos : pos = .posUp ∨ pos = .posDown) (hp : Planned pos w)
    (hcause : cause = .timer ∨ cause = .ext1 .clkInt)
    (hw : wakes (w.observe (ω w.tick)) (ω w.tick) cause) (hpeace : Peaceful ω pos w cause)
    (hn : roundLimit + 5 ≤ n) :
    wp (boot n) (sleeps (Cycled ω pos w cause)) ω ((w.observe (ω w.tick)).reset cause) := by
  have hflags := ha.restoredFlags
  rcases hcause with rfl | rfl
  · apply wp_boot_timer rfl rfl rfl rfl rfl
    intro w₁ v h
    have hr := h.rebooted
    have htick : v.tick = w.tick + 10 := by
      rw [h.tick, hr.tick]
      rfl
    have hsched : v.sched.ldrFlag = w.sched.ldrFlag ∧ v.sched.alarmFlag = w.sched.alarmFlag ∧
        v.sched.ramCounter = w.sched.ramCounter ∧ v.sched.nextLux = 0 := by
      rw [h.sched]
      show w₁.sched.ldrFlag = _ ∧ w₁.sched.alarmFlag = _ ∧ w₁.sched.ramCounter = _ ∧
        w₁.sched.nextLux = _
      rw [hr.ldrFlag, hr.alarmFlag, hr.ramCounter]
      exact ⟨congrArg (fun f => f.2.1) hflags, congrArg (fun f => f.2.2) hflags,
        congrArg (fun f => f.1) hflags, hr.nextLux⟩
    obtain ⟨hldr, halarm, hcount, hlux⟩ := hsched
    exact wp_seq (timerWakeupHandling_sleeps (h.refreshed ha hv) hpos hp hpeace htick hw hldr halarm
      hcount hlux h.ordered hn) fun _ _ hf => hf.elim
  · apply wp_boot_alarm rfl rfl rfl rfl rfl
    intro w₁ v h
    have htick : v.tick = w.tick + 11 := by
      rw [h.tick, h.rebooted.tick]
      rfl
    have hflag : v.sched.alarmFlag = w.sched.alarmFlag := by
      rw [h.sched]
      show w₁.sched.alarmFlag = _
      rw [h.rebooted.alarmFlag]
      exact congrArg (fun f => f.2.2) hflags
    exact wp_seq (alarmWakeupHandling_sleeps (h.refreshed ha hv) hpos hp hpeace htick h.last hflag
      h.ordered (by omega)) fun _ _ hf => hf.elim

end Cycle

/-! ## Nights and days -/

/-- A run of undisturbed wake-ups by the timer and by the alarm, from the sleeping device `w₀` whose
    door rests at `rest`, with the moves that were ordered on the way, newest first. -/
inductive CycleRun (ω : Env) (rest : Klappenposition) (w₀ : World) :
    List Klappenposition → Phase × World → Prop where
  | start : CycleRun ω rest w₀ [] (.asleep, w₀)
  | wake (n : Nat) {orders : List Klappenposition} {w : World} {cause : WakeupCause}
      (hr : CycleRun ω rest w₀ orders (.asleep, w)) (hn : roundLimit + 5 ≤ n)
      (hcause : cause = .timer ∨ cause = .ext1 .clkInt)
      (hw : wakes (w.observe (ω w.tick)) (ω w.tick) cause)
      (hpeace : Peaceful ω (across (orders.headD rest)) w cause) :
      CycleRun ω rest w₀ ((order ω w cause).toList ++ orders)
        (afterCall (boot n ω ((w.observe (ω w.tick)).reset cause)))

section Runs

variable {ω : Env} {w w₀ : World} {rest : Klappenposition} {orders : List Klappenposition}
  {s : Phase × World}

omit [TimeLib] in
theorem across_ends (pos : Klappenposition) : across pos = .posUp ∨ across pos = .posDown := by
  unfold across
  split
  · exact .inl rfl
  · exact .inr rfl

theorem CycleRun.run (h : CycleRun ω rest w orders s) (hr : Run ω w₀ (.asleep, w)) : Run ω w₀ s := by
  induction h with
  | start => exact hr
  | wake n _ _ _ hw _ ih => exact .step ih (.wake n _ _ hw)

/-- The state of such a run: the device sleeps, the moves that it has ordered alternate, and what is
    pending is the way back from the last one. -/
structure Resting (rest : Klappenposition) (w : World) (orders : List Klappenposition)
    (s : Phase × World) : Prop where
  asleep : s.1 = .asleep
  errorFlag : s.2.door.errorFlag = .noError
  planned : Planned (across (orders.headD rest)) s.2
  alternate : List.IsChain (fun p q => p = across q) (orders ++ [rest])
  ordered : ordered s.2.trace = orders ++ ordered w.trace

/-- One wake-up of such a run. -/
theorem Resting.wake {cause : WakeupCause} {n : Nat} {v : World}
    (hi : Resting rest w orders (.asleep, v)) (ha : Asleep (StoredModes w₀.nvs) v)
    (hm : StoredModes w₀.nvs) (hn : roundLimit + 5 ≤ n)
    (hcause : cause = .timer ∨ cause = .ext1 .clkInt)
    (hw : wakes (v.observe (ω v.tick)) (ω v.tick) cause)
    (hpeace : Peaceful ω (across (orders.headD rest)) v cause) :
    Resting rest w ((order ω v cause).toList ++ orders)
      (afterCall (boot n ω ((v.observe (ω v.tick)).reset cause))) := by
  have hboot := boot_cycles ha hm (across_ends _) hi.planned hcause hw hpeace hn
  rw [wp_iff] at hboot
  cases hrun : boot n ω ((v.observe (ω v.tick)).reset cause) with
  | done a v' =>
    rw [hrun] at hboot
    exact hboot.elim
  | pending v' =>
    rw [hrun] at hboot
    exact hboot.elim
  | halt v' =>
    rw [hrun] at hboot
    have hcycled : Cycled ω (across (orders.headD rest)) v cause v' := hboot
    have hordered : Spec.ordered v'.trace = ((order ω v cause).toList ++ orders) ++
        Spec.ordered w.trace := by
      rw [hcycled.ordered, hi.ordered, List.append_assoc]
    cases horder : order ω v cause with
    | none =>
      rw [horder] at hordered
      exact ⟨rfl, hcycled.errorFlag, hcycled.stayed horder, hi.alternate, hordered⟩
    | some p =>
      rw [horder] at hordered
      obtain ⟨rfl, -, hplanned⟩ := hcycled.moved p horder
      refine ⟨rfl, hcycled.errorFlag, hplanned, ?_, hordered⟩
      -- the new order leads away from where the last one has ended
      apply List.isChain_cons.mpr
      refine ⟨fun q hq => ?_, hi.alternate⟩
      have hhead : (orders ++ [rest]).head? = some (orders.headD rest) := by
        cases orders <;> rfl
      exact congrArg across (Option.some.inj (hhead.symm.trans hq))

/-- A wake-up of a run that is computed. -/
theorem CycleRun.reached {w₁ : World} {p : Phase} {pos : Klappenposition} {cause : WakeupCause}
    (r : Reached ω w₁ .asleep) (h : CycleRun ω rest w orders (.asleep, r.world))
    (hpos : across (orders.headD rest) = pos) (n : Nat) (hn : roundLimit + 5 ≤ n)
    (hcause : cause = .timer ∨ cause = .ext1 .clkInt)
    (hw : wakes (r.world.observe (ω r.world.tick)) (ω r.world.tick) cause)
    (hpeace : Peaceful ω pos r.world cause)
    (hp : (afterCall (boot n ω ((r.world.observe (ω r.world.tick)).reset cause))).1 = p)
    {r' : Reached ω w₁ p} (hr : r' = r.wake n cause hw hp) {o : Option Klappenposition}
    (ho : order ω r.world cause = o) :
    CycleRun ω rest w (o.toList ++ orders) (p, r'.world) := by
  subst hpos hp ho hr
  exact .wake n h hn hcause hw hpeace

end Runs

end Cycles

/-! The door is down and opens at 14:30.  The alarm opens it, and the one of the next day makes a new
plan only. -/

end Eggvault.Spec
