import Eggvault.Spec.ActionsCorrect
import Eggvault.Spec.WakeupCorrect

/-!
# The light sensor over whole runs

The debounce counter lives in RAM, in four bits of the RTC byte while the device sleeps,
and is looked at by two callers of `activateLDR`.  `LightStep` says what one action can do
about light; every invariant about light is a case analysis of it.

## Key results

- `Act.light`: every action is one of the light steps
- `light_debounced`: a move that light orders follows three hits in a row
- `light_scale_iff`: exactly when a larger reading is not a darker step
-/

namespace Eggvault.Spec

open Eggvault.Native Prog Trace TimeLib

/-! ## Actions that have nothing to do with light -/

/-- A light check may follow: a timer is enabled, or its wake-up is being handled. -/
def LightPending (w : World) : Prop :=
  w.timer.isSome = true ∨
    (w.wakeup = .timer ∧ (w.dispatch = .boot ∨ unscheduled w.trace = true))

/-- The event has nothing to do with light. -/
def isDark : Event → Bool
  | .booted _ | .lightMove _ _ | .lightArmed _ _ _ | .lightCheck _ _ _ => false
  | .call (.setNextAlarm _ _) _ => false
  | _ => true

/-- From `w` to `w'` nothing was done about light. -/
structure Dark (w w' : World) : Prop where
  ldrFlag : w'.sched.ldrFlag = w.sched.ldrFlag
  counter : w'.sched.ramCounter ≤ w.sched.ramCounter
  pending : LightPending w' → LightPending w
  due : TimerDue w' → TimerDue w
  trace : Extends isDark w.trace w'.trace

namespace Dark

variable {w₀ w w' : World}

theorem refl (w : World) : Dark w w where
  ldrFlag := rfl
  counter := UInt8.le_refl _
  pending := fun h => h
  due := fun h => h
  trace := .refl _

/-- A dark event does not begin the handling of a wake-up. -/
theorem unscheduled_cons {e : Event} {tr : List Event} (he : isDark e = true)
    (h : unscheduled (e :: tr) = true) : unscheduled tr = true := by
  cases e with
  | booted => cases he
  | call f m =>
    cases f with
    | updateTime => cases h
    | setNextAlarm => cases he
    | _ => exact h
  | _ => exact h

theorem emit (h : Dark w₀ w) {e : Event} (he : isDark e = true) :
    Dark w₀ { w with trace := e :: w.trace } := by
  refine { h with
    pending := fun hp => h.pending ?_
    due := fun ht => h.due ⟨ht.1, unscheduled_cons he ht.2⟩
    trace := h.trace.cons he }
  rcases hp with ht | ⟨hw, hd | hu⟩
  · exact .inl ht
  · exact .inr ⟨hw, .inl hd⟩
  · exact .inr ⟨hw, .inr (unscheduled_cons he hu)⟩

theorem called (h : Dark w₀ w) {f : Callee} (he : isDark (.call f w.moment) = true) :
    Dark w₀ (w.called f) := h.emit he

theorem observe (h : Dark w₀ w) (s : Sample) : Dark w₀ (w.observe s) := by
  rcases observe_trace w s with ⟨heq, -⟩ | ⟨t, heq⟩
  · exact { h with
      pending := by
        intro hp
        unfold LightPending at hp
        rw [heq] at hp
        exact h.pending hp
      due := by
        intro ht
        exact h.due ⟨ht.1, heq ▸ ht.2⟩
      trace := by rw [heq]; exact h.trace }
  · have h' := h.emit (e := .alarmFired t) rfl
    exact { h' with
      pending := by
        intro hp
        unfold LightPending at hp
        rw [heq] at hp
        exact h'.pending hp
      due := by
        intro ht
        exact h'.due ⟨ht.1, heq ▸ ht.2⟩
      trace := by rw [heq]; exact h'.trace }

/-- A branch of the firmware is taken. -/
theorem dispatch (h : Dark w₀ w) {d : Dispatch} (hd : d ≠ .boot) :
    Dark w₀ { w with dispatch := d } := by
  refine { h with pending := fun hp => h.pending ?_ }
  rcases hp with ht | ⟨hw, hb | hu⟩
  · exact .inl ht
  · exact absurd hb hd
  · exact .inr ⟨hw, .inr hu⟩

theorem entered (w : World) (action : BtnAction) : Dark w (entered w action) :=
  ((refl w).dispatch (d := .menu w.menu.menuId action) (by simp)).called rfl

theorem updated (h : Dark w₀ w) (s : Sample) : Dark w₀ (updated w s) :=
  { (h.called (f := .updateTime) rfl).observe s with }

theorem blind (ω : Env) (w₀ : World) : Blind ω (Dark w₀) where
  observe := fun _ h => h.observe _
  door := fun _ _ _ h => { h with }
  pins := fun _ _ h => { h with }
  emit := by
    intro w e he h
    apply h.emit
    cases e with
    | call f m => cases f <;> first | rfl | exact he
    | _ => first | rfl | exact he
  store := fun _ _ _ _ h => { h with }

theorem clockKept (w₀ : World) : ClockKept (Dark w₀) where
  updated := fun _ s _ h => { h.updated s with }
  clk := fun _ _ h => { h with }
  setTime := by
    intro w e he h
    apply h.emit
    cases e <;> first | rfl | cases he
  menu := fun _ _ _ _ h => { h with }

end Dark

/-! ## Light steps -/

section Steps

variable [TimeLib] {ω : Env} {w w' : World}

/-- What an action can do about light. -/
inductive LightStep (ω : Env) : World → World → Prop where
  | dark (w w' : World) (h : Dark w w') : LightStep ω w w'
  | booted (w : World) (h : w.dispatch = .boot) :
      LightStep ω w { w with trace := .booted w.wakeup :: w.trace }
  | pass (w w' : World) (pos : Klappenposition) (a : DoorDayAlarm) (mode : OpeningMode)
      (h : Pass ω pos a mode w w') : LightStep ω w w'
  | stray (w w' : World) (pos : Klappenposition)
      (hm : OpeningMode.ofByte (entryOf w pos).mode = none) (h : Started pos (entryOf w pos) w w') :
      LightStep ω w w'
  | wrong (w : World) (ht : TimerDue w) (hu : w.sched.ldrFlag ≠ .posUp)
      (hd : w.sched.ldrFlag ≠ .posDown) : LightStep ω w (raised w .wrongLdrFlag)
  | measure (w : World) (ht : TimerDue w)
      (hf : w.sched.ldrFlag = .posUp ∨ w.sched.ldrFlag = .posDown)
      (hm : ¬ Triggers ω w w.sched.ldrFlag) : LightStep ω w (measured ω w w.sched.ldrFlag)
  | trigger (w : World) (ht : TimerDue w)
      (hf : w.sched.ldrFlag = .posUp ∨ w.sched.ldrFlag = .posDown)
      (hm : Triggers ω w w.sched.ldrFlag) : LightStep ω w (triggered ω w w.sched.ldrFlag)

omit [TimeLib] in
theorem TimerDue.pending (h : TimerDue w) : LightPending w := .inr ⟨h.1, .inr h.2⟩

/-- A status check or a move does something about light in a pass only. -/
theorem Work.light (h : Work ω w w') : LightStep ω w w' := by
  have hb := Dark.blind ω w
  cases h with
  | read => exact .dark _ _ ((Dark.refl w).observe _)
  | led p => exact .dark _ _ { Dark.refl w with }
  | startMove _ hrun => exact .dark _ _ (wp_run (hb.startMove w (.refl w)) hrun)
  | iterate _ _ pos again _ _ _ hrun =>
    exact .dark _ _ (wp_run (hb.moveIteration pos w (.refl w)) hrun)
  | finishMove _ _ _ _ _ hrun => exact .dark _ _ (wp_run (hb.finishMove w (.refl w)) hrun)
  | look => exact .dark _ _ { ((Dark.refl w).observe _).observe _ with }
  | report he => exact .dark _ _ { (Dark.refl w).emit (e := .status true) rfl with }
  | accept he => exact .dark _ _ ((Dark.refl w).emit rfl)
  | pass _ pos a mode hp => exact .pass _ _ pos a mode hp
  | stray _ pos _ _ hm hs => exact .stray _ _ pos hm hs
  | lose pos hm =>
    have hset := (Dark.refl w).emit (e := .setAlarm (tomorrow w.clk.tNow) 0 0) rfl
    exact .dark _ _ { hset.emit (e := .raised .wrongAlarmMode) rfl with }
  | sleep =>
    have hcall := ((Dark.refl w).called (f := .prepForDeepSleep) rfl).observe (ω w.tick)
    refine .dark _ _ { hcall with counter := ?_ }
    show (if w.sched.ramCounter > 15 then 15 else w.sched.ramCounter) ≤ w.sched.ramCounter
    split
    · next hgt => exact UInt8.le_of_lt hgt
    · exact UInt8.le_refl _

theorem WakeAct.light (h : WakeAct ω w w') : LightStep ω w w' := by
  cases h with
  | work _ hw => exact hw.light
  | keep => exact .dark _ _ { Dark.refl w with }
  | dispatch d hd =>
    refine .dark _ _ ((Dark.refl w).dispatch ?_)
    intro hb
    rw [hb] at hd
    cases hd
  | booted hb => exact .booted w hb
  | alarmMove hf => exact .dark _ _ ((Dark.refl w).emit rfl)
  | wrongAlarm hf => exact .dark _ _ { (Dark.refl w).emit (e := .raised .wrongAlarmFlag) rfl with }
  | wrongLight ht hu hd => exact .wrong w ht hu hd
  | measure ht hf hm => exact .measure w ht hf hm
  | trigger ht hf hm => exact .trigger w ht hf hm

/-- Every action is one of the light steps. -/
theorem Act.light (h : Act ω w w') : LightStep ω w w' := by
  have he : ∀ action, Dark w (entered w action) := Dark.entered w
  cases h with
  | wake _ hw => exact hw.light
  | update => exact .dark _ _ ((Dark.refl w).called rfl)
  | goTo => exact .dark _ _ { Dark.refl w with }
  | enter action => exact .dark _ _ (he action)
  | edit action => exact .dark _ _ { he action with }
  | start action => exact .dark _ _ { (he action).updated (ω w.tick) with }
  | acknowledge action => exact .dark _ _ { he action with }
  | redraw => exact .dark _ _ { he .nothing with }
  | setTime _ action _ hrun =>
    exact .dark _ _ (wp_run ((Dark.clockKept w).screen300 action ω _ (he action)) hrun)
  | setDate _ action _ hrun =>
    exact .dark _ _ (wp_run ((Dark.clockKept w).screen400 action ω _ (he action)) hrun)
  | initialise action => exact .dark _ _ { he action with }
  | save action => exact .dark _ _ { (he action).emit (e := .call .saveAlarmValues _) rfl with }

end Steps

/-! ## Debounce -/

/-- How many of the newest light checks in a row were for `pos` and met their comparison, since
    the last scheduling pass and the last move by light. -/
def streak (pos : Klappenposition) : List Event → Nat
  | [] => 0
  | .lightCheck p lux nextLux :: tr =>
    if p = pos ∧ hits pos lux nextLux = true then streak pos tr + 1 else 0
  | .lightMove _ _ :: _ => 0
  | .lightArmed _ _ _ :: _ => 0
  | .call (.setNextAlarm _ _) _ :: _ => 0
  | _ :: tr => streak pos tr

/-- A move by light follows the check that ordered it, and enough hits in a row. -/
def Debounced (tr : List Event) : Prop :=
  ∀ pos tick tl, tr = .lightMove pos tick :: tl →
    (∃ lux nextLux tl', tl = .lightCheck pos lux nextLux :: tl') ∧
      luxDebounceNumber.toNat ≤ streak pos tl

/-- The counter is not ahead of the checks that were made. -/
def Counted (w : World) : Prop :=
  w.sched.ldrFlag = .posUp ∨ w.sched.ldrFlag = .posDown →
    w.sched.ramCounter.toNat ≤ streak w.sched.ldrFlag w.trace

/-- The invariant of the debounce counter. -/
structure Counting (w : World) : Prop where
  debounced : Historically Debounced w.trace
  counted : LightPending w → Counted w

section Debounce

variable {ω : Env} {w w' : World} {pos : Klappenposition} {tr : List Event}

theorem streak_cons {e : Event} (he : isDark e = true) : streak pos (e :: tr) = streak pos tr := by
  cases e with
  | call f m => cases f <;> first | rfl | cases he
  | _ => first | rfl | cases he

theorem streak_check {lux nextLux : UInt8} (h : hits pos lux nextLux = true) :
    streak pos (.lightCheck pos lux nextLux :: tr) = streak pos tr + 1 := by
  simp [streak, h]

theorem streak_observe (w : World) (s : Sample) :
    streak pos (w.observe s).trace = streak pos w.trace :=
  observe_keeps (P := fun tr => streak pos tr = streak pos w.trace) (fun _ h => h) rfl

/-- Every event but a move by light is debounced. -/
theorem debounced_cons {e : Event} (he : ∀ pos tick, e ≠ .lightMove pos tick)
    (h : Historically Debounced tr) : Historically Debounced (e :: tr) := by
  refine historically_cons.mpr ⟨fun pos tick tl heq => ?_, h⟩
  obtain ⟨hhead, -⟩ := List.cons.inj heq
  exact absurd hhead (he pos tick)

theorem debounced_dark {e : Event} (he : isDark e = true) (h : Historically Debounced tr) :
    Historically Debounced (e :: tr) := by
  apply debounced_cons _ h
  intro pos tick heq
  rw [heq] at he
  cases he

theorem debounced_setAlarm {e : Event} (he : isSetAlarm e = true) (h : Historically Debounced tr) :
    Historically Debounced (e :: tr) := by
  apply debounced_cons _ h
  intro pos tick heq
  rw [heq] at he
  cases he

theorem debounced_observe (h : Historically Debounced w.trace) (s : Sample) :
    Historically Debounced (w.observe s).trace :=
  observe_keeps (P := Historically Debounced) (fun t h => debounced_dark (e := .alarmFired t) rfl h) h

theorem not_light {p : Klappenposition} (h : p = .posBlocked) : ¬ (p = .posUp ∨ p = .posDown) := by
  rw [h]
  decide

theorem succ_toNat_le (c : UInt8) : (c + 1).toNat ≤ c.toNat + 1 := by
  rw [UInt8.toNat_add]
  exact Nat.mod_le _ _

/-- A light check counts what it records. -/
theorem measured_counting (h : Historically Debounced w.trace)
    (hc : w.sched.ramCounter.toNat ≤ streak pos w.trace) (hf : w.sched.ldrFlag = pos) :
    Counting (measured ω w pos) where
  debounced := debounced_cons (by simp) (debounced_observe h _)
  counted := by
    intro _ _
    show (counted (hitsNow ω w pos) w.sched.ramCounter).1.toNat ≤
      streak w.sched.ldrFlag (.lightCheck pos (level ω w) w.sched.nextLux ::
        (w.observe (ω w.tick)).trace)
    rw [hf]
    by_cases hit : hitsNow ω w pos = true
    · have hs : hits pos (level ω w) w.sched.nextLux = true := hit
      rw [streak_check hs, streak_observe, hit]
      have hsucc := succ_toNat_le w.sched.ramCounter
      show (w.sched.ramCounter + 1).toNat ≤ _
      omega
    · rw [Bool.not_eq_true] at hit
      rw [hit]
      exact Nat.zero_le _

/-- The check that orders a move is the last of enough hits. -/
theorem triggered_counting (h : Historically Debounced w.trace)
    (hc : w.sched.ramCounter.toNat ≤ streak pos w.trace) (ht : Triggers ω w pos) :
    Counting (triggered ω w pos) where
  debounced := by
    obtain ⟨hit, hfull⟩ := ht
    have hs : hits pos (level ω w) w.sched.nextLux = true := hit
    have hcheck : Historically Debounced (.lightCheck pos (level ω w) w.sched.nextLux ::
        (w.observe (ω w.tick)).trace) := debounced_cons (by simp) (debounced_observe h _)
    refine historically_cons.mpr ⟨fun pos' tick tl heq => ?_, hcheck⟩
    obtain ⟨hhead, rfl⟩ := List.cons.inj heq
    cases hhead
    refine ⟨⟨_, _, _, rfl⟩, ?_⟩
    rw [streak_check hs, streak_observe]
    have hsucc := succ_toNat_le w.sched.ramCounter
    have hthree := UInt8.le_iff_toNat_le.mp hfull
    omega
  counted := fun _ _ => Nat.zero_le _

variable [TimeLib]

/-- A pass starts the count over. -/
theorem pass_counting {a : DoorDayAlarm} {mode : OpeningMode} (hp : Pass ω pos a mode w w')
    (h : Historically Debounced w.trace) : Counting w' := by
  obtain ⟨w₁, h₁, hl⟩ := hp.carried
  have hd₁ : Historically Debounced w₁.trace :=
    h₁.silent.trace.keeps (fun _ _ => debounced_setAlarm) (debounced_cons (by simp) h)
  have hlit : ∀ timer, Counting (withLight w₁ timer) := fun timer =>
    ⟨debounced_cons (by simp) hd₁, fun _ _ => Nat.zero_le _⟩
  cases hl with
  | off =>
    have hblocked : w'.sched.ldrFlag = .posBlocked := h₁.ldrFlag
    exact ⟨hd₁, fun _ hf => absurd hf (not_light hblocked)⟩
  | waiting => exact hlit _
  | armed => exact hlit _
  | measured =>
    exact measured_counting (hlit w₁.timer).debounced (Nat.zero_le _) h₁.nextMove

/-- Every light step keeps the invariant. -/
theorem LightStep.counting (h : LightStep ω w w') (hI : Counting w) : Counting w' := by
  cases h with
  | dark _ h =>
    refine ⟨h.trace.keeps (fun _ _ he htr => debounced_dark he htr) hI.debounced, fun hp hf => ?_⟩
    rw [h.ldrFlag] at hf ⊢
    have hstreak : streak w.sched.ldrFlag w'.trace = streak w.sched.ldrFlag w.trace :=
      h.trace.keeps (P := fun tr => streak w.sched.ldrFlag tr = streak w.sched.ldrFlag w.trace)
        (fun _ _ he htr => (streak_cons he).trans htr) rfl
    rw [hstreak]
    have hle := UInt8.le_iff_toNat_le.mp h.counter
    have hcount := hI.counted (h.pending hp) hf
    omega
  | booted hb =>
    refine ⟨debounced_cons (by simp) hI.debounced, fun hp => ?_⟩
    -- the wake-up that is recorded was already pending
    have hp' : LightPending w := by
      rcases hp with ht | ⟨hw, -⟩
      · exact .inl ht
      · exact .inr ⟨hw, .inl hb⟩
    exact hI.counted hp'
  | pass _ pos a mode hp => exact pass_counting hp hI.debounced
  | stray _ pos hm hs =>
    have hd := hs.silent.trace.keeps (fun _ _ => debounced_setAlarm)
      (debounced_cons (by simp) hI.debounced)
    exact ⟨hd, fun _ hf => absurd hf (not_light hs.ldrFlag)⟩
  | wrong ht hu hd =>
    exact ⟨debounced_cons (by simp) hI.debounced, fun _ hf => absurd hf (not_or.mpr ⟨hu, hd⟩)⟩
  | measure ht hf hm => exact measured_counting hI.debounced (hI.counted ht.pending hf) rfl
  | trigger ht hf hm => exact triggered_counting hI.debounced (hI.counted ht.pending hf) hm

/-- A reset records nothing about light. -/
theorem Rebooted.debounced {w₀ : World} (h : Rebooted ω w₀ w) (hd : Historically Debounced w₀.trace) :
    Historically Debounced w.trace := by
  refine h.keeps (fun e tr he htr => ?_) (fun m tr _ htr => debounced_dark rfl htr) hd
  cases e with
  | alarmFired t => exact debounced_dark rfl htr
  | _ => cases he

theorem Rebooted.streak {w₀ : World} (h : Rebooted ω w₀ w) :
    streak pos w.trace = streak pos w₀.trace := by
  refine h.keeps (P := fun tr => Spec.streak pos tr = Spec.streak pos w₀.trace)
    (fun e tr he htr => ?_) (fun m tr _ htr => htr) rfl
  cases e with
  | alarmFired t => exact htr
  | _ => cases he

omit [TimeLib] in
/-- Without an enabled timer and without its wake-up no light check is pending. -/
theorem not_lightPending (ht : w.timer = none) (hw : w.wakeup ≠ .timer) : ¬ LightPending w := by
  intro hp
  rcases hp with hs | ⟨htimer, -⟩
  · rw [ht] at hs
    cases hs
  · exact hw htimer

theorem counting_invariant (w₀ : World) : Invariant ω w₀ (fun _ => True) Counting where
  act := fun _ _ ha _ hI => ha.light.counting hI
  first := by
    intro w hr _
    have hnot : ¬ LightPending w :=
      not_lightPending (hr.timer.trans rfl) (by rw [hr.wakeup]; exact WakeupCause.noConfusion)
    refine ⟨hr.debounced (historically_nil.mpr ?_), fun hp => absurd hp hnot⟩
    intro pos tick tl heq
    cases heq
  wake := by
    intro w w' cause hI hw hflags hr _
    refine ⟨hr.debounced (debounced_observe hI.debounced _), fun hp hf => ?_⟩
    have hcause : cause = .timer := by
      rcases hp with ht | ⟨hwake, -⟩
      · rw [hr.timer] at ht
        cases ht
      · exact hr.wakeup.symm.trans hwake
    subst hcause
    -- the timer that woke the device was enabled when it went to sleep
    have hpend : LightPending w := .inl hw
    have hldr : w'.sched.ldrFlag = w.sched.ldrFlag := by
      rw [hr.ldrFlag]
      exact congrArg (fun f => f.2.1) hflags
    have hcounter : w'.sched.ramCounter = w.sched.ramCounter := by
      rw [hr.ramCounter]
      exact congrArg (fun f => f.1) hflags
    rw [hldr] at hf ⊢
    rw [hcounter, hr.streak]
    show _ ≤ Spec.streak w.sched.ldrFlag (w.observe (ω w.tick)).trace
    rw [streak_observe]
    exact hI.counted hpend hf

end Debounce

/-- In every run a move that light orders follows three light checks in a row, the last of
    which orders it: all for this direction, all met, and none before the last pass. -/
theorem light_debounced [TimeLib] {ω : Env} {w₀ w : World} {p : Phase} (hr : Run ω w₀ (p, w)) :
    Historically Debounced w.trace := by
  refine ((counting_invariant w₀).run ?_ hr fun _ _ => trivial).debounced
  intro w w' hI hr _
  refine ⟨hr.debounced hI.debounced, fun hp => absurd hp (not_lightPending ?_ ?_)⟩
  · rw [hr.timer]
    rfl
  · rw [hr.wakeup]
    exact WakeupCause.noConfusion

/-- The device of the dusk after two more timer wake-ups: the last one moves the door. -/
def duskMoved : Reached duskEnv { nvs := duskNvs } .busy :=
  (duskPolled.wake 20 .timer (by decide +kernel) (by decide +kernel)).wake 20 .timer
    (by decide +kernel) (by decide +kernel)

theorem light_debounced_duskMoved :
    .lightMove .posUp 54 ∈ duskMoved.world.trace ∧ Historically Debounced duskMoved.world.trace :=
  ⟨by decide +kernel, light_debounced duskMoved.run⟩

/-! ## The light scale -/

/-- The reading lies strictly between two neighbouring entries of `voltMap`. -/
def OnStep (i : Nat) (mV : UInt32) : Prop := mV > voltMap.getD i 0 ∧ mV < voltMap.getD (i + 1) 0

instance (i : Nat) (mV : UInt32) : Decidable (OnStep i mV) := inferInstanceAs (Decidable (_ ∧ _))

/-- The reading lies on one of the nine steps of the scale. -/
def OnScale (mV : UInt32) : Prop := ∃ i, i < 9 ∧ OnStep i mV

instance (mV : UInt32) : Decidable (OnScale mV) := inferInstanceAs (Decidable (∃ i, i < 9 ∧ OnStep i mV))

section Scale

variable {mV a b : UInt32} {i j : Nat}

/-- The search loop stops at the first step that holds the reading, or runs past the table. -/
theorem voltToLuxFrom_spec (mV : UInt32) (i k : Nat) :
    (∃ j, j < i + k ∧ OnStep j mV ∧ voltToLuxFrom mV i k = j) ∨
      ((∀ j, i ≤ j → j < i + k → ¬ OnStep j mV) ∧ voltToLuxFrom mV i k = i + k) := by
  induction k generalizing i with
  | zero =>
    right
    exact ⟨fun j hle hlt => absurd hlt (by omega), rfl⟩
  | succ k ih =>
    by_cases hi : OnStep i mV
    · left
      exact ⟨i, by omega, hi, if_pos hi⟩
    · have hnext : voltToLuxFrom mV i (k + 1) = voltToLuxFrom mV (i + 1) k := if_neg hi
      rw [hnext]
      rcases ih (i + 1) with ⟨j, hlt, hj, heq⟩ | ⟨hnone, heq⟩
      · left
        exact ⟨j, by omega, hj, heq⟩
      · right
        refine ⟨fun j hle hlt => ?_, by omega⟩
        by_cases hji : j = i
        · rw [hji]
          exact hi
        · exact hnone j (by omega) (by omega)

/-- `VoltToLux` returns the step of a reading on the scale, and 9 for every other reading. -/
theorem voltToLux_spec (mV : UInt32) :
    (∃ i, i < 9 ∧ OnStep i mV ∧ (voltToLux mV).toNat = i) ∨
      (¬ OnScale mV ∧ (voltToLux mV).toNat = 9) := by
  unfold voltToLux
  rcases voltToLuxFrom_spec mV 0 9 with ⟨i, hlt, hi, heq⟩ | ⟨hnone, heq⟩
  · left
    refine ⟨i, by omega, hi, ?_⟩
    rw [heq, UInt8.toNat_ofNat']
    omega
  · right
    refine ⟨?_, ?_⟩
    · rintro ⟨i, hlt, hi⟩
      exact hnone i (Nat.zero_le i) (by omega) hi
    · rw [heq]
      rfl

/-- The entries of `voltMap` grow. -/
theorem voltMap_mono (hij : i ≤ j) (hj : j < 10) : voltMap.getD i 0 ≤ voltMap.getD j 0 := by
  have hall : ∀ j, j < 10 → ∀ i, i ≤ j → voltMap.getD i 0 ≤ voltMap.getD j 0 := by decide
  exact hall j hj i hij

/-- A larger reading is not on a lower step. -/
theorem OnStep.le (ha : OnStep i a) (hb : OnStep j b) (hab : a ≤ b) (hi : i < 9) : i ≤ j := by
  by_contra hlt
  have hentry := voltMap_mono (i := j + 1) (j := i) (by omega) (by omega)
  have hbelow : b < b := UInt32.lt_of_lt_of_le hb.2
    (UInt32.le_trans hentry (UInt32.le_trans (UInt32.le_of_lt ha.1) hab))
  exact absurd hbelow (UInt32.lt_irrefl b)

end Scale

/-- Of two readings the larger one has the brighter step, or the same, exactly if the smaller one
    lies on a step of the scale or the larger one does not: below the first entry, on an entry and
    from the last entry on `VoltToLux` returns 9. -/
theorem light_scale_iff {a b : UInt32} (hab : a ≤ b) :
    voltToLux a ≤ voltToLux b ↔ OnScale a ∨ ¬ OnScale b := by
  rw [UInt8.le_iff_toNat_le]
  rcases voltToLux_spec a with ⟨i, hi, ha, hla⟩ | ⟨ha, hla⟩
  · have hscale : OnScale a := ⟨i, hi, ha⟩
    rcases voltToLux_spec b with ⟨j, hj, hb, hlb⟩ | ⟨hb, hlb⟩
    · have hij := ha.le hb hab hi
      exact ⟨fun _ => .inl hscale, fun _ => by omega⟩
    · exact ⟨fun _ => .inl hscale, fun _ => by omega⟩
  · rcases voltToLux_spec b with ⟨j, hj, hb, hlb⟩ | ⟨hb, hlb⟩
    · -- nothing is brighter than a reading that the scale does not hold
      refine ⟨fun hle => by omega, fun hcond => ?_⟩
      rcases hcond with hscale | hnot
      · exact absurd hscale ha
      · exact absurd ⟨j, hj, hb⟩ hnot
    · exact ⟨fun _ => .inr hb, fun _ => by omega⟩

/-- Two readings on steps of the scale. -/
theorem light_scale_iff_on_steps : voltToLux 450 ≤ voltToLux 1000 :=
  (light_scale_iff (by decide)).mpr (.inl (by decide))

/-- No light at all is the brightest step. -/
theorem darkness_is_brightest : ¬ ∀ a b : UInt32, a ≤ b → voltToLux a ≤ voltToLux b := by
  intro h
  exact absurd (h 0 450 (by decide)) (by decide)

end Eggvault.Spec
