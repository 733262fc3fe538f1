import Eggvault.Spec.LightCorrect
import Eggvault.Spec.SyncCorrect

/-!
# The pause before a move by light

A pass computes from `lastMove` and `t_now` how long light has to wait, and later wake-ups by the
timer go by what that pass has left behind: the delay, the direction and the counter.  `PauseStep`
says what one action can do about this, and the invariant is a bound for the moment at which the
third light check can be made.

## Key results

- `Act.pauseStep`: every action is one of the steps
- `light_pause_kept`: when a move by light keeps its distance from the run of the motor before it
-/

namespace Eggvault.Spec

open Eggvault.Native Prog Trace TimeLib

/-! ## Runs of the motor and passes -/

/-- The second that the RTC shows at a reading. -/
def rtcSecs [TimeLib] (ω : Env) (n : Nat) : Nat := secs (stamp (ω n).rtc)

/-- When the last run of the motor was started. -/
def lastStart [TimeLib] (ω : Env) (tr : List Event) : Option Nat :=
  tr.findSome? fun
    | .call .moveMotor m => some (rtcSecs ω m.tick)
    | _ => none

/-- A run of the motor has been started and has not ended. -/
def underway (tr : List Event) : Bool :=
  (tr.findSome? fun
    | .call .moveMotor _ => some true
    | .motorStop => some false
    | _ => none).getD false

/-- A pass has been made since the last run of the motor. -/
def passSince (tr : List Event) : Bool :=
  (tr.findSome? fun
    | .call .moveMotor _ | .motorStop => some false
    | .call (.setNextAlarm _ _) _ => some true
    | _ => none).getD true

/-- A pass has been made since the last run of the motor has ended. -/
def rescheduled (tr : List Event) : Bool := passSince tr && !underway tr

/-- The light check of a wake-up by the timer is still to be made. -/
def CheckDue (w : World) : Prop :=
  w.wakeup = .timer ∧ (w.dispatch = .boot ∧ justRead w.trace = true ∨
    unscheduled w.trace = true ∧ unpolled w.trace = true)

/-- The event is none of a run of the motor, a pass, a wake-up or a light check. -/
def isIdle : Event → Bool
  | .booted _ | .lightMove _ _ | .lightCheck _ _ _ | .motorStop => false
  | .call (.setNextAlarm _ _) _ | .call .moveMotor _ => false
  | _ => true

/-- The event neither starts nor ends a run of the motor. -/
def isResting : Event → Bool
  | .call .moveMotor _ | .motorStop => false
  | _ => true

section Idle

variable {tr tr' : List Event}

theorem isResting_of_idle {e : Event} (he : isIdle e = true) : isResting e = true := by
  cases e with
  | call f m => cases f <;> first | rfl | cases he
  | motorStop => cases he
  | _ => rfl

theorem lastStart_resting [TimeLib] (ω : Env) (h : Extends isResting tr tr') :
    lastStart ω tr' = lastStart ω tr := by
  refine h.keeps (P := fun t => lastStart ω t = lastStart ω tr) (fun e t he ht => ?_) rfl
  cases e with
  | call f m => cases f <;> first | exact ht | cases he
  | _ => exact ht

theorem underway_resting (h : Extends isResting tr tr') : underway tr' = underway tr := by
  refine h.keeps (P := fun t => underway t = underway tr) (fun e t he ht => ?_) rfl
  cases e with
  | call f m => cases f <;> first | exact ht | cases he
  | motorStop => cases he
  | _ => exact ht

theorem passSince_idle (h : Extends isIdle tr tr') : passSince tr' = passSince tr := by
  refine h.keeps (P := fun t => passSince t = passSince tr) (fun e t he ht => ?_) rfl
  cases e with
  | call f m => cases f <;> first | exact ht | cases he
  | motorStop => cases he
  | _ => exact ht

theorem rescheduled_idle (h : Extends isIdle tr tr') : rescheduled tr' = rescheduled tr := by
  unfold rescheduled
  rw [passSince_idle h, underway_resting (h.mono fun _ => isResting_of_idle)]

end Idle

/-! ## Actions that leave the pause alone -/

/-- From `w` to `w'` the motor was neither started nor stopped, and nothing was done about the
    delay and the light. -/
structure Still (w w' : World) : Prop where
  lastMove : w'.door.lastMove = w.door.lastMove
  ldrFlag : w'.sched.ldrFlag = w.sched.ldrFlag
  counter : w'.sched.ramCounter ≤ w.sched.ramCounter
  timer : w'.timer = w.timer
  tick : w.tick ≤ w'.tick
  due : CheckDue w' → CheckDue w
  trace : Extends isIdle w.trace w'.trace

namespace Still

variable {w₀ w w' : World}

theorem refl (w : World) : Still w w where
  lastMove := rfl
  ldrFlag := rfl
  counter := UInt8.le_refl _
  timer := rfl
  tick := Nat.le_refl _
  due := fun h => h
  trace := .refl _

/-- An idle event makes no light check due, unless the clock is read during a boot. -/
theorem checkDue_cons {e : Event} (he : isIdle e = true)
    (hread : w.dispatch = .boot → leavesClock e = true)
    (h : CheckDue { w with trace := e :: w.trace }) : CheckDue w := by
  obtain ⟨hw, ⟨hb, hj⟩ | ⟨hu, hp⟩⟩ := h
  · refine ⟨hw, .inl ⟨hb, ?_⟩⟩
    have hclock := hread hb
    cases e with
    | alarmFired t => exact hj
    | call f m =>
      cases f with
      | updateTime => cases hclock
      | _ => cases hj
    | _ => cases hj
  · refine ⟨hw, .inr ?_⟩
    cases e with
    | booted => cases he
    | lightCheck => cases he
    | call f m => cases f <;> first | exact ⟨hu, hp⟩ | cases hu
    | _ => exact ⟨hu, hp⟩

theorem emit (h : Still w₀ w) {e : Event} (he : isIdle e = true)
    (hread : w.dispatch = .boot → leavesClock e = true) :
    Still w₀ { w with trace := e :: w.trace } :=
  { h with
    due := fun hd => h.due (checkDue_cons he hread hd)
    trace := h.trace.cons he }

theorem observe (h : Still w₀ w) (s : Sample) : Still w₀ (w.observe s) := by
  have htick : w₀.tick ≤ w.tick + 1 := Nat.le_succ_of_le h.tick
  rcases observe_trace w s with ⟨heq, -⟩ | ⟨t, heq⟩
  · refine { h with tick := htick, due := fun hd => h.due ?_, trace := by rw [heq]; exact h.trace }
    unfold CheckDue at hd
    rw [heq] at hd
    exact hd
  · have h' := h.emit (e := .alarmFired t) rfl fun _ => rfl
    refine { h' with tick := htick, due := fun hd => h'.due ?_, trace := by rw [heq]; exact h'.trace }
    unfold CheckDue at hd
    rw [heq] at hd
    exact hd

/-- A branch of the firmware is taken. -/
theorem dispatch (h : Still w₀ w) {d : Dispatch} (hd : d ≠ .boot) :
    Still w₀ { w with dispatch := d } := by
  refine { h with due := fun hdue => h.due ?_ }
  obtain ⟨hw, ⟨hb, -⟩ | hu⟩ := hdue
  · exact absurd hb hd
  · exact ⟨hw, .inr hu⟩

theorem entered (w : World) (action : BtnAction) : Still w (entered w action) :=
  ((refl w).dispatch (d := .menu w.menu.menuId action) (by simp)).emit rfl fun _ => rfl

/-- A reading of the clock outside of a boot. -/
theorem updated (h : Still w₀ w) (hb : w.dispatch ≠ .boot) (s : Sample) :
    Still w₀ (updated w s) := by
  have hcall := h.emit (e := .call .updateTime w.moment) rfl fun hd => absurd hd hb
  exact { hcall.observe s with }

theorem rolling (ω : Env) (w₀ : World) : Rolling ω (Still w₀) where
  observe := fun _ h => h.observe _
  door := fun _ _ _ hm h => { h with lastMove := hm.trans h.lastMove }
  pins := fun _ _ h => { h with }
  emit := by
    intro w e he h
    refine h.emit ?_ fun _ => ?_
    · cases e <;> first | rfl | cases he
    · cases e <;> first | rfl | cases he

/-- A clock screen reads, edits and sets the clock only. -/
theorem clockKept (w₀ : World) : ClockKept fun w => w.dispatch ≠ .boot ∧ Still w₀ w where
  updated := fun _ s _ h => ⟨h.1, { h.2.updated h.1 s with }⟩
  clk := fun _ _ h => ⟨h.1, { h.2 with }⟩
  setTime := by
    intro w e he h
    refine ⟨h.1, h.2.emit ?_ fun hb => absurd hb h.1⟩
    cases e <;> first | rfl | cases he
  menu := fun _ _ _ _ h => ⟨h.1, { h.2 with }⟩

end Still

/-! ## Steps -/

section Steps

variable [TimeLib] {ω : Env} {w w' : World}

/-- The device after a run of the motor: `lastMove` is `t_now`. -/
structure Stopped (w w' : World) : Prop where
  lastMove : w'.door.lastMove = w.clk.tNow
  clk : w'.clk = w.clk
  ldrFlag : w'.sched.ldrFlag = w.sched.ldrFlag
  counter : w'.sched.ramCounter = w.sched.ramCounter
  timer : w'.timer = w.timer
  tick : w'.tick = w.tick
  trace : ∃ tr, Extends isIdle w.trace tr ∧ w'.trace = .motorStop :: tr

/-- What an action can do about the pause. -/
inductive PauseStep (ω : Env) : World → World → Prop where
  | still (w w' : World) (h : Still w w') : PauseStep ω w w'
  | start (w w' : World) (h : Still (w.called .moveMotor) w') : PauseStep ω w w'
  | stop (w w' : World) (h : Stopped w w') : PauseStep ω w w'
  | booted (w : World) (h : w.dispatch = .boot) (hr : justRead w.trace = true) :
      PauseStep ω w { w with trace := .booted w.wakeup :: w.trace }
  | pass (w w' : World) (pos : Klappenposition) (a : DoorDayAlarm) (mode : OpeningMode)
      (h : Pass ω pos a mode w w') : PauseStep ω w w'
  | stray (w w' : World) (pos : Klappenposition) (a : DoorDayAlarm) (h : Started pos a w w') :
      PauseStep ω w w'
  | measure (w : World) (ht : TimerDue w) (hu : unpolled w.trace = true)
      (hf : w.sched.ldrFlag = .posUp ∨ w.sched.ldrFlag = .posDown)
      (hm : ¬ Triggers ω w w.sched.ldrFlag) : PauseStep ω w (measured ω w w.sched.ldrFlag)
  | trigger (w : World) (ht : TimerDue w) (hu : unpolled w.trace = true)
      (hf : w.sched.ldrFlag = .posUp ∨ w.sched.ldrFlag = .posDown)
      (hm : Triggers ω w w.sched.ldrFlag) : PauseStep ω w (triggered ω w w.sched.ldrFlag)

omit [TimeLib] in
theorem startMove_still : wp startMove ⟨fun _ w' => Still (w.called .moveMotor) w',
    fun _ => False, fun _ => False⟩ ω w := by
  simp only [startMove, wp_bind, wp_call, wp_digitalRead, wp_emit, wp_modifyDoor]
  have hread := ((Still.refl (w.called .moveMotor)).observe (ω w.tick)).observe (ω (w.tick + 1))
  exact { hread.emit (e := .endSwitches _ _) rfl fun _ => rfl with }

omit [TimeLib] in
theorem finishMove_stopped :
    wp finishMove ⟨fun _ => Stopped w, fun _ => False, fun _ => False⟩ ω w := by
  have htrace : ∀ b, Extends isIdle w.trace (.motorWrite false false :: .motorWrite false b :: w.trace) :=
    fun b => ((Extends.refl w.trace).cons rfl).cons rfl
  simp only [finishMove, wp_bind, wp_get, wp_when, wp_modifyDoor, wp_digitalWrite_mFwd,
    wp_digitalWrite_mBack, wp_emit, wp_memoryPut]
  exact ⟨fun _ => ⟨rfl, rfl, rfl, rfl, rfl, rfl, _, htrace _, rfl⟩,
    fun _ => ⟨rfl, rfl, rfl, rfl, rfl, rfl, _, htrace _, rfl⟩⟩

/-- A status check or a move. -/
theorem Work.pauseStep (h : Work ω w w') : PauseStep ω w w' := by
  have hrefl := Still.refl w
  cases h with
  | read => exact .still _ _ (hrefl.observe _)
  | led p => exact .still _ _ { hrefl with }
  | startMove _ hrun => exact .start _ _ (wp_run startMove_still hrun)
  | iterate _ _ pos _ _ _ _ hrun =>
    exact .still _ _ (wp_run ((Still.rolling ω w).moveIteration pos w hrefl) hrun)
  | finishMove _ _ _ _ _ hrun => exact .stop _ _ (wp_run finishMove_stopped hrun)
  | look => exact .still _ _ { (hrefl.observe _).observe _ with }
  | report => exact .still _ _ { hrefl.emit (e := .status true) rfl fun _ => rfl with }
  | accept => exact .still _ _ (hrefl.emit rfl fun _ => rfl)
  | pass _ pos a mode hp => exact .pass _ _ pos a mode hp
  | stray _ pos _ _ _ hs => exact .stray _ _ pos _ hs
  | lose pos _ =>
    have hset := hrefl.emit (e := .setAlarm (tomorrow w.clk.tNow) 0 0) rfl fun _ => rfl
    exact .still _ _ { hset.emit (e := .raised .wrongAlarmMode) rfl fun _ => rfl with }
  | sleep =>
    have hcall := (hrefl.emit (e := .call .prepForDeepSleep w.moment) rfl fun _ => rfl).observe
      (ω w.tick)
    refine .still _ _ { hcall with counter := ?_ }
    show (if w.sched.ramCounter > 15 then 15 else w.sched.ramCounter) ≤ w.sched.ramCounter
    split
    · next hgt => exact UInt8.le_of_lt hgt
    · exact UInt8.le_refl _

theorem WakeAct.pauseStep (h : WakeAct ω w w') : PauseStep ω w w' := by
  have hrefl := Still.refl w
  cases h with
  | work _ hw => exact hw.pauseStep
  | keep => exact .still _ _ { hrefl with }
  | dispatch d hd =>
    refine .still _ _ (hrefl.dispatch ?_)
    intro hb
    rw [hb] at hd
    cases hd
  | booted hb hr => exact .booted w hb hr
  | alarmMove => exact .still _ _ (hrefl.emit rfl fun _ => rfl)
  | wrongAlarm => exact .still _ _ { hrefl.emit (e := .raised .wrongAlarmFlag) rfl fun _ => rfl with }
  | wrongLight => exact .still _ _ { hrefl.emit (e := .raised .wrongLdrFlag) rfl fun _ => rfl with }
  | measure ht hf hm hu => exact .measure w ht hu hf hm
  | trigger ht hf hm hu => exact .trigger w ht hu hf hm

/-- Every action is one of the steps. -/
theorem Act.pauseStep (h : Act ω w w') : PauseStep ω w w' := by
  have hent : ∀ action, Still w (entered w action) := Still.entered w
  have hmenu : ∀ action, (entered w action).dispatch ≠ .boot := by
    intro action
    show Dispatch.menu w.menu.menuId action ≠ .boot
    simp
  cases h with
  | wake _ hw => exact hw.pauseStep
  | update => exact .still _ _ ((Still.refl w).emit rfl fun _ => rfl)
  | goTo => exact .still _ _ { Still.refl w with }
  | enter action => exact .still _ _ (hent action)
  | edit action => exact .still _ _ { hent action with }
  | start action => exact .still _ _ { (hent action).updated (hmenu action) (ω w.tick) with }
  | acknowledge action => exact .still _ _ { hent action with }
  | redraw => exact .still _ _ { hent .nothing with }
  | setTime _ action _ hrun =>
    have hscreen := (Still.clockKept w).screen300 action ω _ ⟨hmenu action, hent action⟩
    exact .still _ _ (wp_run hscreen hrun).2
  | setDate _ action _ hrun =>
    have hscreen := (Still.clockKept w).screen400 action ω _ ⟨hmenu action, hent action⟩
    exact .still _ _ (wp_run hscreen hrun).2
  | initialise action => exact .still _ _ { hent action with }
  | save action =>
    exact .still _ _
      { (hent action).emit (e := .call .saveAlarmValues _) rfl (fun _ => rfl) with }

end Steps

/-! ## The time of the last run -/

/-- The RTC never goes back. -/
def Forward [TimeLib] (ω : Env) : Prop := ∀ i j, i ≤ j → rtcSecs ω i ≤ rtcSecs ω j

/-- Nobody has set the clock. -/
def ClockUnset (tr : List Event) : Prop := ∀ e ∈ tr, isSetTime e = false

section Clocked

variable [TimeLib] {ω : Env} {w w' : World}

/-- Without a setting of the clock, `t_now` only changes where the RTC is read. -/
theorem Act.tNow (h : Act ω w w') (hset : ClockUnset w'.trace) :
    w'.clk.tNow = w.clk.tNow ∨ (w'.clk.tNow = stamp (ω w.tick).rtc ∧ w'.tick = w.tick + 1) := by
  have hscreen : ∀ (action : BtnAction) (read : Option Clock) (saves : Bool) (c : Clock)
      (next : Setmode × Nat),
      (c.tNow = if saves then stamp (setTo c) else
        if read.isSome then stamp (ω w.tick).rtc else w.clk.tNow) →
      ClockUnset (screened ω (entered w action) read saves c next).trace →
      c.tNow = w.clk.tNow ∨ (c.tNow = stamp (ω w.tick).rtc ∧
        (screened ω (entered w action) read saves c next).tick = w.tick + 1) := by
    intro action read saves c next hc hunset
    cases saves with
    | true => exact absurd (hunset (clockWritten c) List.mem_cons_self) (by simp [clockWritten, isSetTime])
    | false =>
      cases read with
      | none => exact .inl hc
      | some c₀ => exact .inr ⟨hc, rfl⟩
  cases h.clockStep with
  | aloof _ hal => exact .inl (congrArg Clock.tNow hal.clk)
  | start action => exact .inr ⟨rfl, rfl⟩
  | time action hid => exact hscreen action _ _ _ _ (tNow_clock300 action w (ω w.tick).rtc) hset
  | date action hid => exact hscreen action _ _ _ _ (tNow_clock400 action w (ω w.tick).rtc) hset

/-- `t_now` is a reading of the clock, and the last run was started at most 39 seconds after the one
    that `lastMove` is, or will be, a copy of. -/
structure Clocked (ω : Env) (w : World) : Prop where
  read : ∃ k, k < w.tick ∧ w.clk.tNow = stamp (ω k).rtc
  started : ∀ t, lastStart ω w.trace = some t → t ≤ secs w.clk.tNow + 39
  rested : ∀ t, lastStart ω w.trace = some t → underway w.trace = false →
    t ≤ secs w.door.lastMove + 39 ∧ secs w.door.lastMove ≤ secs w.clk.tNow

/-- `t_now` is not ahead of the clock. -/
theorem Clocked.now_le (h : Clocked ω w) (hω : Forward ω) {n : Nat} (hn : w.tick ≤ n + 1) :
    secs w.clk.tNow ≤ rtcSecs ω n := by
  obtain ⟨k, hk, heq⟩ := h.read
  rw [heq]
  exact hω k n (by omega)

omit [TimeLib] in
/-- A pass so far. -/
theorem Silent.resting {pos : Klappenposition} {a : DoorDayAlarm} (h : Silent pos a w w') :
    Extends isResting w.trace w'.trace := by
  have hcall : Extends isResting w.trace (.call (.setNextAlarm pos a) w.moment :: w.trace) :=
    .single _ rfl
  refine hcall.trans (h.trace.mono fun e he => ?_)
  cases e <;> first | rfl | cases he

/-- What changes neither the motor nor `lastMove`. -/
theorem Clocked.resting (h : Clocked ω w) (hω : Forward ω) (htick : w.tick ≤ w'.tick)
    (hnow : w'.clk.tNow = w.clk.tNow ∨
      (w'.clk.tNow = stamp (ω w.tick).rtc ∧ w'.tick = w.tick + 1))
    (hlast : w'.door.lastMove = w.door.lastMove) (htr : Extends isResting w.trace w'.trace) :
    Clocked ω w' := by
  have hle : secs w.clk.tNow ≤ secs w'.clk.tNow := by
    rcases hnow with heq | ⟨heq, -⟩
    · rw [heq]
    · rw [heq]
      exact h.now_le hω (Nat.le_succ _)
  refine ⟨?_, fun t ht => ?_, fun t ht hu => ?_⟩
  · rcases hnow with heq | ⟨heq, hsucc⟩
    · obtain ⟨k, hk, hread⟩ := h.read
      exact ⟨k, by omega, heq.trans hread⟩
    · exact ⟨w.tick, by omega, heq⟩
  · rw [lastStart_resting ω htr] at ht
    have hstart := h.started t ht
    omega
  · rw [lastStart_resting ω htr] at ht
    rw [underway_resting htr] at hu
    obtain ⟨hs, hl⟩ := h.rested t ht hu
    rw [hlast]
    exact ⟨hs, by omega⟩

end Clocked

/-! ## The condition -/

section Condition

variable [TimeLib] {ω : Env} {w w' : World}

/-- At the newest event of the trace, what the pause rests on is the case. -/
structure Careful (ω : Env) (tr : List Event) : Prop where
  /-- The scheduler has run since the motor has stopped. -/
  pass : ∀ pos k tl, tr = .lightMove pos k :: tl → rescheduled tl = true
  /-- A run of the motor finds a `t_now` of the last 39 seconds. -/
  start : ∀ m tl, tr = .call .moveMotor m :: tl → rtcSecs ω m.tick ≤ secs m.clk.tNow + 39
  /-- A pass after a run of the motor computes without overflow. -/
  order : ∀ pos a m tl, tr = .call (.setNextAlarm pos a) m :: tl → lastStart ω tl ≠ none →
    ClockInOrder m

/-- A move by light begins at least `t_delta_min` after the last run of the motor has begun. -/
def LightPaused (ω : Env) (tr : List Event) : Prop :=
  ∀ pos k tl, tr = .lightMove pos k :: tl → ∀ t, lastStart ω tl = some t →
    t + tDeltaMin.toInt.toNat ≤ rtcSecs ω k

/-- Any action. -/
theorem Clocked.act (h : Clocked ω w) (hω : Forward ω) (ha : Act ω w w')
    (hset : ClockUnset w'.trace) (hC : Historically (Careful ω) w'.trace) : Clocked ω w' := by
  have hnow := ha.tNow hset
  cases ha.pauseStep with
  | still _ hs =>
    exact h.resting hω hs.tick hnow hs.lastMove (hs.trace.mono fun _ => isResting_of_idle)
  | start _ hs =>
    -- the run begins when its call finds it in time
    have hcall : Clocked ω (w.called .moveMotor) := by
      refine ⟨h.read, fun t ht => ?_, fun t _ hu => by cases hu⟩
      obtain rfl : rtcSecs ω w.tick = t := Option.some.inj ht
      exact (hC _ hs.trace.suffix).start w.moment w.trace rfl
    exact hcall.resting hω hs.tick hnow hs.lastMove (hs.trace.mono fun _ => isResting_of_idle)
  | stop _ hs =>
    obtain ⟨tr, htr, heq⟩ := hs.trace
    have hlast : lastStart ω w'.trace = lastStart ω w.trace := by
      rw [heq]
      show lastStart ω tr = _
      exact lastStart_resting ω (htr.mono fun _ => isResting_of_idle)
    refine ⟨?_, fun t ht => ?_, fun t ht _ => ?_⟩
    · rw [hs.clk, hs.tick]
      exact h.read
    · rw [hs.clk]
      exact h.started t (hlast ▸ ht)
    · rw [hs.clk, hs.lastMove]
      exact ⟨h.started t (hlast ▸ ht), Nat.le_refl _⟩
  | booted => exact h.resting hω (Nat.le_refl _) hnow rfl (.single _ rfl)
  | pass _ pos a mode hp =>
    obtain ⟨w₁, h₁, hl⟩ := hp.carried
    have hprog := h₁.silent.resting
    have htick := h₁.silent.tick
    have hdoor : w'.door.lastMove = w.door.lastMove := congrArg Door.lastMove hp.frame.1
    cases hl with
    | off => exact h.resting hω (by omega) hnow hdoor hprog
    | waiting => exact h.resting hω (Nat.le_of_eq htick.symm) hnow hdoor (hprog.cons rfl)
    | armed => exact h.resting hω (Nat.le_of_eq htick.symm) hnow hdoor (hprog.cons rfl)
    | measured =>
      have htick' : w.tick ≤ w₁.tick + 1 := by omega
      exact h.resting hω htick' hnow hdoor
        ((extends_observe (hprog.cons rfl) (fun _ => rfl) _).cons rfl)
  | stray _ pos a hs =>
    exact h.resting hω (Nat.le_of_eq hs.silent.tick.symm) hnow (congrArg Door.lastMove hs.door)
      hs.silent.resting
  | measure =>
    exact h.resting hω (Nat.le_succ _) hnow rfl
      ((extends_observe (.refl _) (fun _ => rfl) _).cons rfl)
  | trigger =>
    exact h.resting hω (Nat.le_succ _) hnow rfl
      (((extends_observe (.refl _) (fun _ => rfl) _).cons rfl).cons rfl)

end Condition

/-! ## The earliest move -/

section Enough

variable [TimeLib] {ω : Env} {w w' : World} {t delay : Nat} {pos : Klappenposition}

/-- Light may move the door that was last moved at `t`, and the pause is of concern. -/
structure Waits (ω : Env) (w : World) (t : Nat) : Prop where
  start : lastStart ω w.trace = some t
  pass : rescheduled w.trace = true
  light : w.sched.ldrFlag = .posUp ∨ w.sched.ldrFlag = .posDown

/-- With the next light check after `delay` seconds, and the others after 20 seconds each, the
    third hit does not come before the pause is over. -/
structure Enough (ω : Env) (w : World) (t delay : Nat) : Prop where
  counter : w.sched.ramCounter.toNat ≤ 2
  time : t + 600 ≤ rtcSecs ω (w.tick - 1) + delay + 20 * (2 - w.sched.ramCounter.toNat)

/-- The invariant of the pause. -/
structure Spaced (ω : Env) (w : World) : Prop extends Clocked ω w where
  armed : ∀ t us, Waits ω w t → w.timer = some us → Enough ω w t (us.toNat / 1000000)
  due : ∀ t, Waits ω w t → CheckDue w → Enough ω w t 0
  kept : Historically (LightPaused ω) w.trace

/-- Time goes on, and the counter does not. -/
theorem Enough.later (h : Enough ω w t delay) (hω : Forward ω) (htick : w.tick ≤ w'.tick)
    (hc : w'.sched.ramCounter ≤ w.sched.ramCounter) : Enough ω w' t delay := by
  have hle := UInt8.le_iff_toNat_le.mp hc
  have hnow : rtcSecs ω (w.tick - 1) ≤ rtcSecs ω (w'.tick - 1) := hω _ _ (by omega)
  have hcount := h.counter
  have htime := h.time
  exact ⟨by omega, by omega⟩

/-- A light check that does not move the door leaves time for those that are still needed. -/
theorem Enough.measured (h : Enough ω w t 0) (hω : Forward ω) (hm : ¬ Triggers ω w pos)
    {us : UInt64} (hus : (measured ω w pos).timer = some us) :
    Enough ω (measured ω w pos) t (us.toNat / 1000000) := by
  have hcount := h.counter
  have htime := h.time
  have hnow : rtcSecs ω (w.tick - 1) ≤ rtcSecs ω w.tick := hω _ _ (by omega)
  have hdelay : (counted (hitsNow ω w pos) w.sched.ramCounter).2 = us := Option.some.inj hus
  have hcounter : (Spec.measured ω w pos).sched.ramCounter =
    (counted (hitsNow ω w pos) w.sched.ramCounter).1 := rfl
  have htick : (Spec.measured ω w pos).tick - 1 = w.tick := rfl
  cases hit : hitsNow ω w pos with
  | true =>
    -- a hit that is not the third one
    have hsucc : (w.sched.ramCounter + 1).toNat = w.sched.ramCounter.toNat + 1 := by
      rw [UInt8.toNat_add, show (1 : UInt8).toNat = 1 from rfl]
      omega
    have hnot : ¬ luxDebounceNumber.toNat ≤ (w.sched.ramCounter + 1).toNat :=
      fun hle => hm ⟨hit, UInt8.le_iff_toNat_le.mpr hle⟩
    rw [hit] at hdelay hcounter
    have hcounter' : (Spec.measured ω w pos).sched.ramCounter.toNat =
      w.sched.ramCounter.toNat + 1 := by rw [hcounter]; exact hsucc
    have hus' : toMicros (sToUs * luxDebounceTime) = us := hdelay
    have hsecs : us.toNat / 1000000 = 20 := by rw [← hus']; decide
    have hthree : luxDebounceNumber.toNat = 3 := rfl
    refine ⟨by omega, ?_⟩
    rw [htick]
    omega
  | false =>
    -- a miss starts over after two minutes
    rw [hit] at hdelay hcounter
    have hcounter' : (Spec.measured ω w pos).sched.ramCounter.toNat = 0 := by rw [hcounter]; rfl
    have hus' : toMicros (sToUs * tSens) = us := hdelay
    have hsecs : us.toNat / 1000000 = 120 := by rw [← hus']; decide
    refine ⟨by omega, ?_⟩
    rw [htick]
    omega

omit [TimeLib] in
/-- No light check is due after a light check. -/
theorem not_checkDue_measured : ¬ CheckDue (measured ω w pos) := by
  rintro ⟨-, ⟨-, hj⟩ | ⟨-, hp⟩⟩
  · cases hj
  · cases hp

omit [TimeLib] in
/-- With its clock in order a pass that waits does so until `lastMove` is ten minutes ago. -/
theorem ClockInOrder.waited (hc : ClockInOrder w.moment) (hw : MustWait w.moment)
    (hlast : t ≤ secs w.door.lastMove + 39) (hle : secs w.door.lastMove ≤ secs w.clk.tNow) :
    t + 600 ≤ secs w.clk.tNow + (toMicros (waitMicros w.moment)).toNat / 1000000 + 40 := by
  have horder : w.door.lastMove.toInt ≤ w.clk.tNow.toInt := hc.order
  have hexact := hc.exactPause hw
  have hproduct : (waitMicros w.moment).toInt =
      1000000 * (w.door.lastMove.toInt + 600 - w.clk.tNow.toInt) := hexact.product
  have hconv := hexact.conversion
  rw [hproduct] at hconv
  -- both readings of the clock are on the same side of 2038
  have hsigned := Int32.toNat_toUInt32_cases w.door.lastMove
  have hsigned' := Int32.toNat_toUInt32_cases w.clk.tNow
  unfold secs at hlast hle ⊢
  omega

omit [TimeLib] in
/-- With its clock in order a pass that does not wait finds `lastMove` ten minutes ago. -/
theorem ClockInOrder.over (hc : ClockInOrder w.moment) (hw : ¬ MustWait w.moment)
    (hlast : t ≤ secs w.door.lastMove + 39) (hle : secs w.door.lastMove ≤ secs w.clk.tNow) :
    t + 600 ≤ secs w.clk.tNow + 40 := by
  have horder : w.door.lastMove.toInt ≤ w.clk.tNow.toInt := hc.order
  have hlow := Int32.le_toInt w.door.lastMove
  have hlow' := Int32.le_toInt w.clk.tNow
  have hfits : w.door.lastMove.toInt + 600 < 2147483648 := hc.lastMove
  have hfits' : w.clk.tNow.toInt + 1 < 2147483648 := hc.tNow
  have hdelta : tDeltaMin.toInt = 600 := rfl
  have hone : (1 : Int32).toInt = 1 := rfl
  have hsum : (w.door.lastMove + tDeltaMin).toInt = w.door.lastMove.toInt + 600 := by
    rw [Int32.toInt_add_of_fits] <;> omega
  have hsucc : (w.clk.tNow + 1).toInt = w.clk.tNow.toInt + 1 := by
    rw [Int32.toInt_add_of_fits] <;> omega
  have hguard : ¬ w.clk.tNow.toInt + 1 < w.door.lastMove.toInt + 600 := by
    rw [← hsum, ← hsucc]
    exact fun hlt => hw (Int32.lt_iff_toInt_lt.mpr hlt)
  have hsigned := Int32.toNat_toUInt32_cases w.door.lastMove
  have hsigned' := Int32.toNat_toUInt32_cases w.clk.tNow
  unfold secs at hlast hle ⊢
  omega

end Enough

/-! ## Every action -/

section Spaced

variable [TimeLib] {ω : Env} {w w' : World} {pos : Klappenposition}

/-- Only a move by light can come too early. -/
theorem lightPaused_cons {e : Event} {tr : List Event} (he : ∀ pos k, e ≠ .lightMove pos k)
    (h : Historically (LightPaused ω) tr) : Historically (LightPaused ω) (e :: tr) := by
  refine historically_cons.mpr ⟨fun pos k tl heq => ?_, h⟩
  obtain ⟨hhead, -⟩ := List.cons.inj heq
  exact absurd hhead (he pos k)

theorem lightPaused_extends {p : Event → Bool} {tr tr' : List Event} (h : Extends p tr tr')
    (hp : ∀ pos k, p (.lightMove pos k) = false) (hk : Historically (LightPaused ω) tr) :
    Historically (LightPaused ω) tr' := by
  refine h.keeps (fun e t he ht => lightPaused_cons (fun pos k heq => ?_) ht) hk
  rw [heq, hp] at he
  cases he

theorem lightPaused_observe (h : Historically (LightPaused ω) w.trace) (s : Sample) :
    Historically (LightPaused ω) (w.observe s).trace :=
  observe_keeps (P := Historically (LightPaused ω)) (fun _ h => lightPaused_cons (by simp) h) h

/-- What light waits for is as before, or less. -/
theorem Waits.of_idle {t : Nat} (h : Waits ω w' t) (htr : Extends isIdle w.trace w'.trace)
    (hl : w'.sched.ldrFlag = w.sched.ldrFlag) : Waits ω w t where
  start := (lastStart_resting ω (htr.mono fun _ => isResting_of_idle)).symm.trans h.start
  pass := (rescheduled_idle htr).symm.trans h.pass
  light := hl ▸ h.light

/-- What leaves the pause alone. -/
theorem Spaced.still (h : Spaced ω w) (hω : Forward ω) (hs : Still w w') (hc : Clocked ω w') :
    Spaced ω w' where
  toClocked := hc
  armed := fun t us hw hus =>
    (h.armed t us (hw.of_idle hs.trace hs.ldrFlag) (hs.timer ▸ hus)).later hω hs.tick hs.counter
  due := fun t hw hd =>
    (h.due t (hw.of_idle hs.trace hs.ldrFlag) (hs.due hd)).later hω hs.tick hs.counter
  kept := lightPaused_extends hs.trace (fun _ _ => rfl) h.kept

/-- Nothing is scheduled as long as no pass has been made since the last run of the motor. -/
theorem Spaced.of_not_rescheduled (hc : Clocked ω w) (hn : rescheduled w.trace = false)
    (hk : Historically (LightPaused ω) w.trace) : Spaced ω w where
  toClocked := hc
  armed := fun _ _ hw _ => absurd hw.pass (by rw [hn]; simp)
  due := fun _ hw _ => absurd hw.pass (by rw [hn]; simp)
  kept := hk

/-- Nothing is scheduled for light. -/
theorem Spaced.of_blocked (hc : Clocked ω w) (hf : w.sched.ldrFlag = .posBlocked)
    (hk : Historically (LightPaused ω) w.trace) : Spaced ω w where
  toClocked := hc
  armed := fun _ _ hw _ => absurd hw.light (not_light hf)
  due := fun _ hw _ => absurd hw.light (not_light hf)
  kept := hk

/-- A light check that does not move the door. -/
theorem Spaced.measured (hω : Forward ω) (hc : Clocked ω (measured ω w pos))
    (hwait : ∀ t, Waits ω w t → Enough ω w t 0) (hm : ¬ Triggers ω w pos)
    (hk : Historically (LightPaused ω) w.trace) : Spaced ω (Spec.measured ω w pos) where
  toClocked := hc
  armed := by
    intro t us hw hus
    have hread : Extends isIdle w.trace (w.observe (ω w.tick)).trace :=
      extends_observe (.refl _) (fun _ => rfl) _
    have hstart : lastStart ω (w.observe (ω w.tick)).trace = some t := hw.start
    have hpass : rescheduled (w.observe (ω w.tick)).trace = true := hw.pass
    have hw' : Waits ω (w.observe (ω w.tick)) t := ⟨hstart, hpass, hw.light⟩
    exact (hwait t (hw'.of_idle hread rfl)).measured hω hm hus
  due := fun t _ hd => absurd hd not_checkDue_measured
  kept := lightPaused_cons (by simp) (lightPaused_observe hk _)

/-- The third hit. -/
theorem Spaced.triggered (h : Spaced ω w) (hω : Forward ω)
    (hc : Clocked ω (triggered ω w w.sched.ldrFlag)) (ht : TimerDue w)
    (hu : unpolled w.trace = true) (hf : w.sched.ldrFlag = .posUp ∨ w.sched.ldrFlag = .posDown)
    (hm : Triggers ω w w.sched.ldrFlag)
    (hC : Historically (Careful ω) (triggered ω w w.sched.ldrFlag).trace) :
    Spaced ω (Spec.triggered ω w w.sched.ldrFlag) := by
  have hread : Extends isIdle w.trace (w.observe (ω w.tick)).trace :=
    extends_observe (.refl _) (fun _ => rfl) _
  have hpass : rescheduled w.trace = true := by
    have hcond : rescheduled (.lightCheck w.sched.ldrFlag (level ω w) w.sched.nextLux ::
        (w.observe (ω w.tick)).trace) = true := (hC _ (List.suffix_refl _)).pass _ _ _ rfl
    have hcond' : rescheduled (w.observe (ω w.tick)).trace = true := hcond
    rwa [rescheduled_idle hread] at hcond'
  -- the check that is due is the last one
  have htime : ∀ t, lastStart ω w.trace = some t → t + 600 ≤ rtcSecs ω (w.tick - 1) := by
    intro t hstart
    have henough := h.due t ⟨hstart, hpass, hf⟩ ⟨ht.1, .inr ⟨ht.2, hu⟩⟩
    have hcount := henough.counter
    have hbound := henough.time
    have hsucc := succ_toNat_le w.sched.ramCounter
    have hthree := UInt8.le_iff_toNat_le.mp hm.2
    have hnumber : luxDebounceNumber.toNat = 3 := rfl
    omega
  have hstart : ∀ t, lastStart ω (w.observe (ω w.tick)).trace = some t →
      lastStart ω w.trace = some t := by
    intro t hs
    rwa [lastStart_resting ω (hread.mono fun _ => isResting_of_idle)] at hs
  have hnow : ∀ n, w.tick ≤ n → rtcSecs ω (w.tick - 1) ≤ rtcSecs ω n :=
    fun n hn => hω _ _ (by omega)
  refine ⟨hc, fun t us hw _ => ⟨Nat.zero_le _, ?_⟩, fun t _ hd => ?_, ?_⟩
  · have hbound := htime t (hstart t hw.start)
    have hlater := hnow w.tick (Nat.le_refl _)
    show t + 600 ≤ rtcSecs ω (w.tick + 1 - 1) + us.toNat / 1000000 + 20 * (2 - 0)
    rw [Nat.add_sub_cancel]
    omega
  · obtain ⟨-, ⟨-, hj⟩ | ⟨-, hp⟩⟩ := hd
    · cases hj
    · cases hp
  · refine historically_cons.mpr ⟨?_, lightPaused_cons (by simp) (lightPaused_observe h.kept _)⟩
    intro pos k tl heq t hs
    obtain ⟨hhead, rfl⟩ := List.cons.inj heq
    obtain ⟨-, rfl⟩ := Event.lightMove.inj hhead
    exact Nat.le_trans (htime t (hstart t hs)) (hnow _ (Nat.le_succ _))

omit [TimeLib] in
/-- A pass so far starts nothing but itself. -/
theorem Silent.rescheduled {a : DoorDayAlarm} (h : Silent pos a w w') :
    Spec.rescheduled w'.trace = !underway w.trace := by
  have hset : Extends isIdle (.call (.setNextAlarm pos a) w.moment :: w.trace) w'.trace := by
    refine h.trace.mono fun e he => ?_
    cases e <;> first | rfl | cases he
  exact rescheduled_idle hset

/-- After a pass that arms the sensor the three hits take until the pause is over. -/
theorem Clocked.lit {a : DoorDayAlarm} {p : Plan} (h : Clocked ω w) (hω : Forward ω)
    {w₁ : World} (h₁ : Programmed pos a p w w₁)
    (horder : lastStart ω w.trace ≠ none → ClockInOrder w.moment) {t : Nat}
    {timer : Option UInt64} (hw : Waits ω (withLight w₁ timer) t) :
    (Pausing w₁ → Enough ω (withLight w₁ timer) t ((pauseLeft w₁).toNat / 1000000)) ∧
      (¬ Pausing w₁ → Enough ω (withLight w₁ timer) t 0) := by
  have hstart : lastStart ω w.trace = some t := by
    rw [← lastStart_resting ω h₁.silent.resting]
    exact hw.start
  have hrest : underway w.trace = false := by
    have hpass : rescheduled w₁.trace = true := hw.pass
    rw [h₁.silent.rescheduled] at hpass
    simpa using hpass
  obtain ⟨hlast, hle⟩ := h.rested t hstart hrest
  have hc := horder (by rw [hstart]; simp)
  have hnow : secs w.clk.tNow ≤ rtcSecs ω (w₁.tick - 1) :=
    h.now_le hω (by rw [h₁.silent.tick]; omega)
  have htick : (withLight w₁ timer).tick = w₁.tick := rfl
  have hcounter : (withLight w₁ timer).sched.ramCounter.toNat = 0 := rfl
  -- the pass decides by the clock that it has found
  have hwait : Pausing w₁ ↔ MustWait w.moment := by
    unfold Pausing
    rw [h₁.door, h₁.clk]
    exact Iff.rfl
  have hleft : pauseLeft w₁ = toMicros (waitMicros w.moment) := by
    unfold pauseLeft
    rw [h₁.door, h₁.clk]
    rfl
  constructor
  · intro hp
    have hbound := hc.waited (hwait.mp hp) hlast hle
    refine ⟨by omega, ?_⟩
    rw [htick, hcounter, hleft]
    omega
  · intro hp
    have hbound := hc.over (fun hm => hp (hwait.mpr hm)) hlast hle
    refine ⟨by omega, ?_⟩
    rw [htick, hcounter]
    omega

/-- A pass. -/
theorem Spaced.pass {a : DoorDayAlarm} {mode : OpeningMode} (h : Spaced ω w) (hω : Forward ω)
    (hp : Pass ω pos a mode w w') (hc : Clocked ω w')
    (hC : Historically (Careful ω) w'.trace) : Spaced ω w' := by
  obtain ⟨w₁, h₁, hl⟩ := hp.carried
  have hcall : .call (.setNextAlarm pos a) w.moment :: w.trace <:+ w₁.trace :=
    h₁.silent.trace.suffix
  have horder : ∀ {tr}, w₁.trace <:+ tr → Historically (Careful ω) tr →
      lastStart ω w.trace ≠ none → ClockInOrder w.moment :=
    fun hs hcare hmoved => (hcare _ (hcall.trans hs)).order _ _ _ _ rfl hmoved
  have hk₁ : Historically (LightPaused ω) w₁.trace :=
    lightPaused_extends h₁.silent.trace (fun _ _ => rfl) (lightPaused_cons (by simp) h.kept)
  have hk₂ : ∀ timer, Historically (LightPaused ω) (withLight w₁ timer).trace :=
    fun _ => lightPaused_cons (by simp) hk₁
  -- the handling of a wake-up is over
  have hover : ∀ timer, ¬ CheckDue (withLight w₁ timer) := by
    rintro timer ⟨-, ⟨-, hj⟩ | ⟨hu, -⟩⟩
    · cases hj
    · have hset : unscheduled w₁.trace = false := by
        refine h₁.silent.trace.keeps (P := fun tr => unscheduled tr = false)
          (fun e tr he ht => ?_) rfl
        cases e with
        | setAlarm => exact ht
        | _ => cases he
      have hu' : unscheduled w₁.trace = true := hu
      rw [hset] at hu'
      cases hu'
  cases hl with
  | off => exact .of_blocked hc h₁.ldrFlag hk₁
  | waiting _ hwait =>
    refine ⟨hc, fun t us hw hus => ?_, fun t _ hd => absurd hd (hover _), hk₂ _⟩
    obtain rfl : pauseLeft w₁ = us := Option.some.inj hus
    exact (h.lit hω h₁ (horder (List.suffix_cons _ _) hC) hw).1 hwait
  | armed _ hwait =>
    refine ⟨hc, fun t us hw _ => ?_, fun t _ hd => absurd hd (hover _), hk₂ _⟩
    obtain ⟨hcount, htime⟩ := (h.lit hω h₁ (horder (List.suffix_cons _ _) hC) hw).2 hwait
    exact ⟨hcount, by omega⟩
  | measured _ hwait =>
    have hread := suffix_observe (withLight w₁ w₁.timer) (ω w₁.tick)
    have hsuffix : w₁.trace <:+ (Spec.measured ω (withLight w₁ w₁.timer) pos).trace :=
      ((List.suffix_cons _ _).trans hread).trans (List.suffix_cons _ _)
    -- the counter has just been set to zero
    have hm : ¬ Triggers ω (withLight w₁ w₁.timer) pos := by
      rintro ⟨-, hthree⟩
      have hone : (0 : UInt8) + 1 ≥ luxDebounceNumber := hthree
      exact absurd hone (by decide)
    exact .measured hω hc (fun t hw => (h.lit hω h₁ (horder hsuffix hC) hw).2 hwait) hm (hk₂ _)

/-- Every action. -/
theorem Spaced.act (h : Spaced ω w) (hω : Forward ω) (ha : Act ω w w')
    (hset : ClockUnset w'.trace) (hC : Historically (Careful ω) w'.trace) : Spaced ω w' := by
  have hc : Clocked ω w' := h.toClocked.act hω ha hset hC
  cases ha.pauseStep with
  | still _ hs => exact h.still hω hs hc
  | start _ hs =>
    refine .of_not_rescheduled hc ((rescheduled_idle hs.trace).trans rfl) ?_
    exact lightPaused_extends hs.trace (fun _ _ => rfl) (lightPaused_cons (by simp) h.kept)
  | stop _ hs =>
    obtain ⟨tr, htr, heq⟩ := hs.trace
    refine .of_not_rescheduled hc (by rw [heq]; rfl) ?_
    rw [heq]
    exact lightPaused_cons (by simp) (lightPaused_extends htr (fun _ _ => rfl) h.kept)
  | booted hb hr =>
    have hwaits : ∀ t, Waits ω { w with trace := .booted w.wakeup :: w.trace } t → Waits ω w t :=
      fun t hw => ⟨hw.start, hw.pass, hw.light⟩
    -- a light check that is due now was due before the boot was recorded
    refine ⟨hc, fun t us hw hus => ?_, fun t hw hd => ?_, lightPaused_cons (by simp) h.kept⟩
    · obtain ⟨hcount, htime⟩ := h.armed t us (hwaits t hw) hus
      exact ⟨hcount, htime⟩
    · obtain ⟨hcount, htime⟩ := h.due t (hwaits t hw) ⟨hd.1, .inl ⟨hb, hr⟩⟩
      exact ⟨hcount, htime⟩
  | pass _ pos a mode hp => exact h.pass hω hp hc hC
  | stray _ pos a hs =>
    refine .of_blocked hc hs.ldrFlag ?_
    exact lightPaused_extends hs.silent.trace (fun _ _ => rfl) (lightPaused_cons (by simp) h.kept)
  | measure ht hu hf hm =>
    have hdue : CheckDue w := ⟨ht.1, .inr ⟨ht.2, hu⟩⟩
    exact .measured hω hc (fun t hw => h.due t hw hdue) hm h.kept
  | trigger ht hu hf hm => exact h.triggered hω hc ht hu hf hm hC

end Spaced

/-! ## Runs -/

section Runs

variable [TimeLib] {ω : Env} {w₀ w w₁ w' : World}

/-- A wake-up by the timer does not come before its delay is over, counted from the last reading
    before the sleep. -/
def NotEarly (ω : Env) (w : World) (cause : WakeupCause) : Prop :=
  cause = .timer → ∀ us, w.timer = some us →
    rtcSecs ω (w.tick - 1) + us.toNat / 1000000 ≤ rtcSecs ω w.tick

/-- The runs in which no wake-up by the timer is early. -/
inductive TimedRun (ω : Env) (w₀ : World) : Phase × World → Prop where
  | powerOn (n : Nat) : TimedRun ω w₀ (afterCall (boot n ω w₀.firstPowerUp))
  | loop (n : Nat) {w : World} :
      TimedRun ω w₀ (.awake, w) → TimedRun ω w₀ (afterCall (loop n ω w))
  | wake (n : Nat) {w : World} (cause : WakeupCause) : TimedRun ω w₀ (.asleep, w) →
      wakes (w.observe (ω w.tick)) (ω w.tick) cause → NotEarly ω w cause →
      TimedRun ω w₀ (afterCall (boot n ω ((w.observe (ω w.tick)).reset cause)))
  | powerCycle (n : Nat) {p : Phase} {w : World} :
      TimedRun ω w₀ (p, w) → p ≠ .busy → TimedRun ω w₀ (afterCall (boot n ω w.powerUp))

theorem TimedRun.run {s : Phase × World} (h : TimedRun ω w₀ s) : Run ω w₀ s := by
  induction h with
  | powerOn n => exact .powerOn n
  | loop n _ ih => exact .step ih (.loop n _)
  | wake n cause _ hw _ ih => exact .step ih (.wake n _ cause hw)
  | powerCycle n _ hp ih => exact .powerCycle n ih hp

omit [TimeLib] in
theorem ClockUnset.of_suffix {tr tr' : List Event} (h : ClockUnset tr') (hs : tr <:+ tr') :
    ClockUnset tr := fun e he => h e (hs.subset he)

/-- What happens during a reset is idle. -/
theorem Rebooted.idle (h : Rebooted ω w₁ w') : Extends isIdle w₁.trace w'.trace := by
  obtain ⟨tr, m, htr, -, htr'⟩ := h.trace
  have hfire : ∀ e, isFiring e = true → isIdle e = true := by
    intro e he
    cases e <;> first | rfl | cases he
  exact ((htr.mono hfire).cons rfl).trans (htr'.mono hfire)

/-- Between two calls flash holds `lastMove`. -/
theorem Rebooted.lastMove_kept {valid : Prop} (h : Rebooted ω w₁ w') (hb : Base valid w)
    (hn : w₁.nvs = w.nvs) : w'.door.lastMove = w.door.lastMove := by
  rw [h.lastMove, hn]
  split
  · next hmark => exact (hb.unmoved hmark).1.symm
  · next hmark => exact hb.lastMove hmark

/-- A reset reads the clock. -/
theorem Rebooted.clocked (h : Rebooted ω w₁ w') (hc : Clocked ω w) (hω : Forward ω)
    (htr : Extends isIdle w.trace w₁.trace) (htick : w.tick ≤ w₁.tick)
    (hlast : w'.door.lastMove = w.door.lastMove) : Clocked ω w' := by
  have hall : Extends isResting w.trace w'.trace :=
    (htr.trans h.idle).mono fun _ => isResting_of_idle
  have hnow : w'.clk.tNow = stamp (ω (w₁.tick + 7)).rtc := by rw [h.clk]; rfl
  have hle : secs w.clk.tNow ≤ secs w'.clk.tNow := by
    rw [hnow]
    exact hc.now_le hω (by omega)
  refine ⟨⟨w₁.tick + 7, by rw [h.tick]; omega, hnow⟩, fun t ht => ?_, fun t ht hu => ?_⟩
  · rw [lastStart_resting ω hall] at ht
    exact Nat.le_trans (hc.started t ht) (by omega)
  · rw [lastStart_resting ω hall] at ht
    rw [underway_resting hall] at hu
    obtain ⟨hs, hl⟩ := hc.rested t ht hu
    rw [hlast]
    exact ⟨hs, by omega⟩

/-- A reset, with the check that is due if the timer has caused it. -/
theorem Rebooted.spaced (h : Rebooted ω w₁ w') (hs : Spaced ω w) (hω : Forward ω)
    (htr : Extends isIdle w.trace w₁.trace) (htick : w.tick ≤ w₁.tick) (htimer : w₁.timer = none)
    (hlast : w'.door.lastMove = w.door.lastMove)
    (hdue : ∀ t, Waits ω w' t → w₁.wakeup = .timer → Enough ω w' t 0) : Spaced ω w' where
  toClocked := h.clocked hs.toClocked hω htr htick hlast
  armed := by
    intro t us _ hus
    rw [h.timer, htimer] at hus
    cases hus
  due := fun t hw hd => hdue t hw (h.wakeup.symm.trans hd.1)
  kept := lightPaused_extends (htr.trans h.idle) (fun _ _ => rfl) hs.kept

/-- A wake-up from deep sleep. -/
theorem Rebooted.spaced_wake {valid : Prop} {cause : WakeupCause} (hs : Spaced ω w)
    (hω : Forward ω) (ha : Asleep valid w) (hw : wakes (w.observe (ω w.tick)) (ω w.tick) cause)
    (hearly : NotEarly ω w cause)
    (h : Rebooted ω ((w.observe (ω w.tick)).reset cause) w') : Spaced ω w' := by
  have hread : Extends isIdle w.trace ((w.observe (ω w.tick)).reset cause).trace :=
    extends_observe (.refl _) (fun _ => rfl) _
  have hflags := ha.restoredFlags
  have hldr : w'.sched.ldrFlag = w.sched.ldrFlag := by
    rw [h.ldrFlag]
    exact congrArg (fun f => f.2.1) hflags
  have hcounter : w'.sched.ramCounter = w.sched.ramCounter := by
    rw [h.ramCounter]
    exact congrArg (fun f => f.1) hflags
  refine h.spaced hs hω hread (Nat.le_succ _) rfl (h.lastMove_kept ha.base rfl) fun t hwait hcause => ?_
  have htimer : cause = .timer := hcause
  subst htimer
  obtain ⟨us, hus⟩ := Option.isSome_iff_exists.mp hw
  -- the delay that was set before the sleep is over
  obtain ⟨hcount, htime⟩ := hs.armed t us (hwait.of_idle (hread.trans h.idle) hldr) hus
  have helapsed := hearly rfl us hus
  have hlater : rtcSecs ω w.tick ≤ rtcSecs ω (w'.tick - 1) := by
    have htick : w'.tick = w.tick + 1 + 8 := h.tick
    exact hω _ _ (by omega)
  rw [← hcounter] at hcount htime
  exact ⟨hcount, by omega⟩

/-- The first boot. -/
theorem Rebooted.spaced_first (h : Rebooted ω w₀.firstPowerUp w') : Spaced ω w' := by
  have hnone : lastStart ω w'.trace = none :=
    lastStart_resting ω (h.idle.mono fun _ => isResting_of_idle)
  have hnever : ∀ t, lastStart ω w'.trace ≠ some t := fun t => by rw [hnone]; simp
  have hnil : Historically (LightPaused ω) [] :=
    historically_nil.mpr (by intro pos k tl heq; cases heq)
  exact {
    read := ⟨w₀.firstPowerUp.tick + 7, by rw [h.tick]; omega, by rw [h.clk]; rfl⟩
    started := fun t ht => absurd ht (hnever t)
    rested := fun t ht _ => absurd ht (hnever t)
    armed := fun t _ hw _ => absurd hw.start (hnever t)
    due := fun t hw _ => absurd hw.start (hnever t)
    kept := lightPaused_extends h.idle (fun _ _ => rfl) hnil }

/-- In every run in which nobody sets the clock: if each run of the motor finds a `t_now` of the
    last 39 seconds, the scheduler has run between a run of the motor and the next move by light,
    and its passes compute without overflow, then every move by light begins at least `t_delta_min`
    after the run of the motor before it has begun. -/
theorem light_pause_kept {p : Phase} (hr : TimedRun ω w₀ (p, w)) (hω : Forward ω)
    (hset : ClockUnset w.trace) (hC : Historically (Careful ω) w.trace) :
    Historically (LightPaused ω) w.trace := by
  let I : World → Prop := fun w =>
    ClockUnset w.trace → Historically (Careful ω) w.trace → Spaced ω w
  have hclosed : Closed ω I := fun w w' ha hI hset hC =>
    (hI (hset.of_suffix ha.suffix) (hC.of_suffix ha.suffix)).act hω ha hset hC
  suffices hall : ∀ s, TimedRun ω w₀ s → I s.2 from (hall _ hr hset hC).kept
  intro s hs
  induction hs with
  | powerOn n =>
    exact afterCall_of_anywhere (hclosed.boot n rfl rfl rfl rfl rfl fun w' hb _ _ => hb.spaced_first)
  | loop n _ ih => exact afterCall_of_anywhere (hclosed.loop n _ ih)
  | @wake n w cause hrun hw hearly ih =>
    refine afterCall_of_anywhere (hclosed.boot n rfl rfl rfl rfl rfl fun w' hb hset hC => ?_)
    have hsuffix : w.trace <:+ w'.trace := (suffix_observe w _).trans hb.suffix
    have hspaced := ih (hset.of_suffix hsuffix) (hC.of_suffix hsuffix)
    exact Rebooted.spaced_wake hspaced hω (run_invariant hrun.run) hw hearly hb
  | @powerCycle n p w hrun hp ih =>
    refine afterCall_of_anywhere (hclosed.boot n rfl rfl rfl rfl rfl fun w' hb hset hC => ?_)
    have hsuffix : w.trace <:+ w'.trace := hb.suffix
    have hspaced := ih (hset.of_suffix hsuffix) (hC.of_suffix hsuffix)
    have hbase := ((run_invariant hrun.run).base hp).1
    refine hb.spaced hspaced hω (.refl _) (Nat.le_refl _) rfl (hb.lastMove_kept hbase rfl) ?_
    intro t _ hcause
    cases hcause

end Runs

/-! ## Concrete runs -/

section Timing

variable [TimeLib] {ω : Env} {w₀ w : World} {p : Phase}

instance (w : World) (cause : WakeupCause) : Decidable (NotEarly ω w cause) :=
  decidable_of_iff (cause = .timer → (w.timer.all fun us =>
      decide (rtcSecs ω (w.tick - 1) + us.toNat / 1000000 ≤ rtcSecs ω w.tick)) = true) <| by
    cases ht : w.timer <;> simp [NotEarly, ht]

/-- What an event needs for the pause to be kept, computed. -/
def careful (ω : Env) : List Event → Bool
  | .lightMove _ _ :: tl => rescheduled tl
  | .call .moveMotor m :: _ => decide (rtcSecs ω m.tick ≤ secs m.clk.tNow + 39)
  | .call (.setNextAlarm _ _) m :: tl =>
    (lastStart ω tl).isNone || (decide (m.door.lastMove.toInt ≤ m.clk.tNow.toInt) &&
      decide (m.door.lastMove.toInt + 600 < 2147483648) &&
      decide (m.clk.tNow.toInt + 1 < 2147483648))
  | _ => true

theorem Careful.of_careful {tr : List Event} (h : careful ω tr = true) : Careful ω tr where
  pass := by
    rintro pos k tl rfl
    exact h
  start := by
    rintro m tl rfl
    exact of_decide_eq_true h
  order := by
    rintro pos a m tl rfl hmoved
    simp only [careful, Bool.or_eq_true, Bool.and_eq_true, decide_eq_true_eq,
      Option.isNone_iff_eq_none] at h
    obtain ⟨⟨horder, hlast⟩, hnow⟩ := h.resolve_left hmoved
    exact ⟨horder, hlast, hnow⟩

theorem TimedRun.loops (h : TimedRun ω w₀ (.awake, w)) (n k : Nat) :
    TimedRun ω w₀ (Native.loops n ω k w) := by
  induction k generalizing w with
  | zero => exact h
  | succ k ih =>
    have hstep : TimedRun ω w₀ (afterCall (Native.loop n ω w)) := .loop n h
    unfold Native.loops
    split
    · next w' heq =>
      rw [heq] at hstep
      exact ih hstep
    · exact hstep

/-- A state of the device between two calls, with the run in time that leads to it. -/
structure ReachedInTime (ω : Env) (w₀ : World) (p : Phase) where
  world : World
  timed : TimedRun ω w₀ (p, world)

namespace ReachedInTime

/-- The state that a call leads to, once its phase has been computed. -/
def ofCall {s : Phase × World} (hr : TimedRun ω w₀ s) (h : s.1 = p) : ReachedInTime ω w₀ p :=
  ⟨s.2, by rw [← h]; exact hr⟩

/-- The state after the power-on. -/
def powerOn (n : Nat) (h : (afterCall (boot n ω w₀.firstPowerUp)).1 = p) : ReachedInTime ω w₀ p :=
  ofCall (.powerOn n) h

/-- The state after so many calls of `loop`. -/
def loops (r : ReachedInTime ω w₀ .awake) (n k : Nat) (h : (Native.loops n ω k r.world).1 = p) :
    ReachedInTime ω w₀ p :=
  ofCall (r.timed.loops n k) h

/-- The state after a wake-up. -/
def wake (r : ReachedInTime ω w₀ .asleep) (n : Nat) (cause : WakeupCause)
    (hw : wakes (r.world.observe (ω r.world.tick)) (ω r.world.tick) cause)
    (ht : NotEarly ω r.world cause)
    (h : (afterCall (boot n ω ((r.world.observe (ω r.world.tick)).reset cause))).1 = p) :
    ReachedInTime ω w₀ p :=
  ofCall (.wake n cause r.timed hw ht) h

end ReachedInTime

end Timing

/-- Monday, so many seconds after noon, but not after 11 p.m. -/
def afterNoon (s : Nat) : RtcTime :=
  monday (UInt8.ofNat (12 + min s 39599 / 3600)) (UInt8.ofNat (min s 39599 / 60 % 60))
    (UInt8.ofNat (min s 39599 % 60))

/-- The seconds that are over at a reading: one for each reading, and those of the waits. -/
def secondsOver : List (Nat × Nat) → Nat → Nat
  | [], n => n
  | (k, s) :: waits, n => secondsOver waits n + if k ≤ n then s else 0

/-- A second passes with every reading, and more at the waits. -/
def waiting (waits : List (Nat × Nat)) (ω : Env) : Env := fun n =>
  { ω n with millis := UInt32.ofNat (secondsOver waits n) * 1000, rtc := afterNoon (secondsOver waits n) }

theorem secondsOver_mono (waits : List (Nat × Nat)) {i j : Nat} (h : i ≤ j) :
    secondsOver waits i ≤ secondsOver waits j := by
  induction waits with
  | nil => exact h
  | cons wait waits ih =>
    unfold secondsOver
    split <;> split <;> omega

theorem secs_afterNoon (s : Nat) : secs (stamp (afterNoon s)) = 1717416000 + min s 39599 := by
  have hh : (afterNoon s).hours.toNat = 12 + min s 39599 / 3600 := by
    show (UInt8.ofNat (12 + min s 39599 / 3600)).toNat = _
    rw [UInt8.toNat_ofNat']
    omega
  have hm : (afterNoon s).minutes.toNat = min s 39599 / 60 % 60 := by
    show (UInt8.ofNat (min s 39599 / 60 % 60)).toNat = _
    rw [UInt8.toNat_ofNat']
    omega
  have hs : (afterNoon s).seconds.toNat = min s 39599 % 60 := by
    show (UInt8.ofNat (min s 39599 % 60)).toNat = _
    rw [UInt8.toNat_ofNat']
    omega
  have hdate : ValidDate 3 6 2024 := by
    simp only [ValidDate, ValidMonth]
    decide
  have hvalid : ValidRtc (afterNoon s) := by
    refine ⟨?_, hdate⟩
    rw [hh, hm, hs]
    unfold ValidTime
    omega
  have hday : dayNumber 3 6 2024 = 19877 := by decide
  rw [hvalid.secs_stamp makesTime_civilTime, hh, hm, hs]
  show dayNumber 3 6 2024 * 86400 + _ + _ + _ = _
  omega

theorem forward_waiting (waits : List (Nat × Nat)) (ω : Env) : Forward (waiting waits ω) := by
  intro i j hij
  have hmono := secondsOver_mono waits hij
  show secs (stamp (afterNoon _)) ≤ secs (stamp (afterNoon _))
  rw [secs_afterNoon, secs_afterNoon]
  omega

/-! Light opens the door at 13:08.  Ten minutes later it is dark, and the third check closes the door
again. -/

/-- The flash of the run: light opens and closes the door. -/
def lightNvs : Nvs := storedNvs { mode := 0, lux := 5 } { mode := 0, lux := 1 }

/-- The inputs of the run: the idle time is over at reading 14, and the door reaches the top at
    reading 48. -/
def lightDayEnv : Env :=
  waiting [(14, 4000), (19, 20), (31, 20), (63, 600), (75, 20), (87, 20)] fun n =>
    { milliVolts := if n < 63 then 2000 else 450, endUp := decide (48 ≤ n), endLow := decide (48 ≤ n) }

/-- The device asleep after the move up. -/
def openedByLight : ReachedInTime lightDayEnv { nvs := lightNvs } .asleep :=
  (((ReachedInTime.powerOn 20 (by decide +kernel)).loops 20 1 (by decide +kernel)).wake 20 .timer
    (by decide +kernel) (by decide +kernel) (by decide +kernel)).wake 20 .timer
    (by decide +kernel) (by decide +kernel) (by decide +kernel)

/-- The device in the move down. -/
def closedByLight : ReachedInTime lightDayEnv { nvs := lightNvs } .busy :=
  ((openedByLight.wake 20 .timer (by decide +kernel) (by decide +kernel) (by decide +kernel)).wake
    20 .timer (by decide +kernel) (by decide +kernel) (by decide +kernel)).wake 4 .timer
    (by decide +kernel) (by decide +kernel) (by decide +kernel)

theorem careful_closedByLight : Historically (Careful lightDayEnv) closedByLight.world.trace := by
  have hall : ∀ t ∈ closedByLight.world.trace.tails, careful lightDayEnv t = true := by
    decide +kernel
  exact fun t ht => .of_careful (hall t ((List.mem_tails _ _).mpr ht))

theorem light_pause_kept_closedByLight :
    .lightMove .posDown 98 ∈ closedByLight.world.trace ∧
      lastStart lightDayEnv openedByLight.world.trace = some 1717420082 ∧
      Historically (LightPaused lightDayEnv) closedByLight.world.trace :=
  ⟨by decide +kernel, by decide +kernel, light_pause_kept closedByLight.timed
    (forward_waiting _ _) (by unfold ClockUnset; decide +kernel) careful_closedByLight⟩

/-! A move up that was started in the menu ends with the door stuck.  The error is acknowledged, and
SELECT on screen 700 puts the device to sleep, with the delay and the counter from before the move. -/

/-- The inputs of the run: LEFT on screen 000, SELECT on the error, SELECT on screen 000, LEFT on
    screen 100 and SELECT on screen 700; the door is stuck from reading 30 on and the block limit is
    over at reading 45. -/
def wedgedEnv : Env :=
  waiting [(45, 40), (107, 20), (119, 20)] <|
    pressing [(18, .left), (62, .select), (75, .select), (91, .left), (104, .select)] fun n =>
      { milliVolts := 2000, endLow := decide (30 ≤ n ∧ n < 55) }

/-- The device asleep after SELECT on screen 700. -/
def wedgedAsleep : ReachedInTime wedgedEnv { nvs := duskNvs } .asleep :=
  (ReachedInTime.powerOn 20 (by decide +kernel)).loops 20 6 (by decide +kernel)

/-- The device in the move by light. -/
def movedAgain : ReachedInTime wedgedEnv { nvs := duskNvs } .busy :=
  (wedgedAsleep.wake 20 .timer (by decide +kernel) (by decide +kernel) (by decide +kernel)).wake
    4 .timer (by decide +kernel) (by decide +kernel) (by decide +kernel)

/-- The move by light comes less than three minutes after the move in the menu. -/
theorem light_pause_skipped :
    ¬ ∀ (ω : Env) (w₀ : World) (p : Phase) (w : World), Forward ω → TimedRun ω w₀ (p, w) →
      ClockUnset w.trace → Historically (LightPaused ω) w.trace := by
  intro hall
  have hkept := hall wedgedEnv _ _ _ (forward_waiting _ _) movedAgain.timed
    (by unfold ClockUnset; decide +kernel)
  have hmem : .lightMove .posUp 130 ∈ movedAgain.world.trace := by decide +kernel
  have hpause := hkept.of_mem hmem _ _ _ rfl
  have hstart : lastStart wedgedEnv (before (.lightMove .posUp 130) movedAgain.world.trace) =
    some 1717416036 := by decide +kernel
  have hnow : rtcSecs wedgedEnv 130 = 1717416210 := by decide +kernel
  have hlate := hpause _ hstart
  rw [hnow] at hlate
  exact absurd hlate (by decide)

end Eggvault.Spec
