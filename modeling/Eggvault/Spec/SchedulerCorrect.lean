import Eggvault.Spec.Base

/-!
# What a scheduling pass does

`setNextOpeningAlarm` and `setNextClosingAlarm` are described by a `Plan` that is a
pure function of the entry of the day, the manual mode and the time: whether the
alarm is programmed for the time of the entry (otherwise for hour 0, minute 0),
whether its firing moves the door, and whether the light sensor is polled.

The light check that a pass makes by itself only counts, because the debounce
counter has just been set to 0: a pass never moves the door.
-/

namespace Eggvault.Spec

open Eggvault.Native Prog Trace TimeLib

/-! ## Relations between the start of a pass and a later moment -/

/-- What a scheduling pass leaves alone. -/
structure Frame (w w' : World) : Prop where
  clk : w'.clk = w.clk
  door : w'.door = w.door
  menu : w'.menu = w.menu
  btn : w'.btn = w.btn
  pins : w'.pins = w.pins
  dispatch : w'.dispatch = w.dispatch
  snapshot : w'.rtc.snapshot = w.rtc.snapshot
  nvs : ∀ k, k ≠ .initFlag → w'.nvs.get k = w.nvs.get k
  manual : w'.sched.manualFlag = w.sched.manualFlag
  nox : w'.sched.fInitNox = w.sched.fInitNox
  moved : w'.sched.fInitLastMove = w.sched.fInitLastMove
  opening : w'.sched.openingAlarms = w.sched.openingAlarms
  closing : w'.sched.closingAlarms = w.sched.closingAlarms

/-- A pass for a move to `pos` with threshold `lux` has begun. -/
structure Begun (pos : Klappenposition) (lux : UInt8) (w w' : World) : Prop
    extends Frame w w' where
  quiet : Quiet w.trace w'.trace
  nextMove : w'.sched.nextMove = pos
  nextLux : w'.sched.nextLux = lux
  counter : w'.sched.ramCounter = w.sched.ramCounter ∨ w'.sched.ramCounter ≤ 1

/-- A pass is under way: flags have been marked as set, in RAM and in flash. -/
structure Passing (pos : Klappenposition) (lux : UInt8) (w w' : World) : Prop
    extends Begun pos lux w w' where
  flagSet : w'.sched.fInitFlag ≠ 0
  flagSync : w.sched.fInitFlag = (w.nvs.get .initFlag).getD 0 →
    w'.sched.fInitFlag = (w'.nvs.get .initFlag).getD 0

/-- The arguments of a call of `setAlarm`: weekday, hour and minute. -/
abbrev AlarmArgs : Type := UInt8 × UInt8 × UInt8

/-- The alarm was set by a call of `setAlarm` with arguments `c` made since `w`. -/
structure AlarmSet (w : World) (c : AlarmArgs) (w' : World) : Prop where
  armed : w'.rtc.armed = true
  mask : w'.rtc.alarmMask = weekdays (dayIndex w.clk.dow)
  hour : w'.rtc.alarmHour = c.2.1
  minute : w'.rtc.alarmMinute = c.2.2
  decided : lastSetAlarm w'.trace = some c
  fresh : LineFresh w'

/-- The event is a call of `setAlarm`. -/
def isSetAlarm : Event → Bool
  | .setAlarm _ _ _ => true
  | _ => false

/-- Since the call of the scheduler in `w` nothing but the alarm has been set: no reading was
    taken, and neither the light sensor nor the timer was touched. -/
structure Silent (pos : Klappenposition) (a : DoorDayAlarm) (w w' : World) : Prop where
  tick : w'.tick = w.tick
  wakeup : w'.wakeup = w.wakeup
  timer : w'.timer = w.timer
  counter : w'.sched.ramCounter = w.sched.ramCounter
  ram : w'.rtc.ram = w.rtc.ram
  trace : Extends isSetAlarm (.call (.setNextAlarm pos a) w.moment :: w.trace) w'.trace

/-! ## Programming the alarm -/

/-- The device after an assignment to `alarmFlag`. -/
def withFlag (w : World) (f : Klappenposition) : World :=
  { w with sched := { w.sched with alarmFlag := f } }

@[simp] theorem withFlag_clk (w : World) (f : Klappenposition) : (withFlag w f).clk = w.clk := rfl

/-- The device after `setAlarm`. -/
def withAlarm (w : World) (c : AlarmArgs) : World :=
  { w with
    trace := .setAlarm c.1 c.2.1 c.2.2 :: w.trace
    rtc := { w.rtc with
      clkInt := false, armed := true, alarmMinute := c.2.2, alarmHour := c.2.1,
      alarmMask := weekdays (dayIndex w.clk.dow) } }

section Alarm

variable {ω : Env} {w w' : World} {post : Post World Unit} {pos : Klappenposition} {lux : UInt8}

@[simp] theorem wp_setAlarm (mDoW mHour mMinute : UInt8) :
    wp (setAlarm mDoW mHour mMinute) post ω w ↔
      post.done () (withAlarm w (mDoW, mHour, mMinute)) := wp_iff

@[simp] theorem wp_setAlarmFlag (f : Klappenposition) :
    wp (setAlarmFlag f) post ω w ↔ post.done () (withFlag w f) := wp_iff

theorem Passing.withFlag (h : Passing pos lux w w') (f : Klappenposition) :
    Passing pos lux w (withFlag w' f) :=
  { h with }

theorem Begun.withAlarm (h : Begun pos lux w w') (c : AlarmArgs) :
    Begun pos lux w (withAlarm w' c) :=
  { h with quiet := h.quiet.cons rfl }

theorem Passing.withAlarm (h : Passing pos lux w w') (c : AlarmArgs) :
    Passing pos lux w (withAlarm w' c) :=
  { h.toBegun.withAlarm c with flagSet := h.flagSet, flagSync := h.flagSync }

theorem Silent.withFlag {a : DoorDayAlarm} (h : Silent pos a w w') (f : Klappenposition) :
    Silent pos a w (withFlag w' f) :=
  { h with }

theorem Silent.withAlarm {a : DoorDayAlarm} (h : Silent pos a w w') (c : AlarmArgs) :
    Silent pos a w (withAlarm w' c) :=
  { h with trace := h.trace.cons rfl }

theorem Frame.alarmSet (h : Frame w w') (c : AlarmArgs) :
    AlarmSet w c (Spec.withAlarm w' c) where
  armed := rfl
  mask := by simp only [Spec.withAlarm, h.clk]
  hour := rfl
  minute := rfl
  decided := rfl
  fresh := by intro hc; cases hc

end Alarm

/-! ## The start of a pass -/

section Start

variable {w w₁ : World} {pos : Klappenposition} {lux : UInt8}

/-- The globals that a pass sets first. -/
def begin (w : World) (pos : Klappenposition) (a : DoorDayAlarm) : World :=
  { w.called (.setNextAlarm pos a) with sched := { w.sched with
      nextMove := pos, ldrFlag := .posBlocked, alarmFlag := .posBlocked
      nextLux := a.lux.toUInt8 } }

/-- The mark that flags have been set: made once, in RAM and in flash. -/
def mark (w : World) : World :=
  if w.sched.fInitFlag = 0 then
    { w with nvs := w.nvs.put .initFlag 1, sched := { w.sched with fInitFlag := 1 } }
  else w

@[simp] theorem mark_ldrFlag (w : World) : (mark w).sched.ldrFlag = w.sched.ldrFlag := by
  unfold mark
  split <;> rfl

@[simp] theorem mark_alarmFlag (w : World) : (mark w).sched.alarmFlag = w.sched.alarmFlag := by
  unfold mark
  split <;> rfl

theorem AlarmSet.mark {c : AlarmArgs} (h : AlarmSet w c w₁) : AlarmSet w c (mark w₁) := by
  unfold Spec.mark
  split
  · exact { h with }
  · exact h

theorem begun_begin (w : World) (pos : Klappenposition) (a : DoorDayAlarm) :
    Begun pos a.lux.toUInt8 w (begin w pos a) where
  clk := rfl
  door := rfl
  menu := rfl
  btn := rfl
  pins := rfl
  dispatch := rfl
  snapshot := rfl
  nvs := fun _ _ => rfl
  manual := rfl
  nox := rfl
  moved := rfl
  opening := rfl
  closing := rfl
  quiet := .called w _
  nextMove := rfl
  nextLux := rfl
  counter := .inl rfl

theorem silent_begin (w : World) (pos : Klappenposition) (a : DoorDayAlarm) :
    Silent pos a w (begin w pos a) where
  tick := rfl
  wakeup := rfl
  timer := rfl
  counter := rfl
  ram := rfl
  trace := .refl _

theorem Silent.mark {a : DoorDayAlarm} (h : Silent pos a w w₁) : Silent pos a w (mark w₁) := by
  unfold Spec.mark
  split
  · exact { h with }
  · exact h

theorem Begun.mark (h : Begun pos lux w w₁) (hf : w₁.sched.fInitFlag = w.sched.fInitFlag)
    (hn : w₁.nvs = w.nvs) : Passing pos lux w (mark w₁) := by
  by_cases h0 : w₁.sched.fInitFlag = 0
  · rw [Spec.mark, if_pos h0]
    exact
      { h with
        nvs := fun k hk => (nvs_get_put_of_ne _ _ hk).trans (h.nvs k hk)
        flagSet := show (1 : Int32) ≠ 0 by decide
        flagSync := fun _ => by rw [nvs_get_put_self _ _ (by decide)]; rfl }
  · rw [Spec.mark, if_neg h0]
    exact { h with flagSet := h0, flagSync := fun hs => by rw [hf, hn]; exact hs }

end Start

/-! ## The end of a pass -/

/-- The manual mode shows on the LED. -/
def lit (w : World) : World :=
  if w.sched.manualFlag = true then { w with pins := { w.pins with led := true } } else w

theorem wp_finishScheduling {ω : Env} {w : World} {post : Post World Unit} :
    wp finishScheduling post ω w ↔
      (w.menu.menuActive = true → post.done () (lit w)) ∧
        (w.menu.menuActive = false → post.halt (slept (lit w) (ω w.tick))) := by
  simp only [finishScheduling, wp_bind, wp_get, wp_when, wp_digitalWrite_led, wp_prepForDeepSleep]
  by_cases h : w.sched.manualFlag = true
  · simp only [h, true_implies, not_true_eq_false, false_implies, and_true, lit, if_true,
      Bool.not_eq_false]
    exact and_comm
  · simp only [h, false_implies, not_false_eq_true, true_implies, true_and, lit,
      Bool.false_eq_true, if_false, Bool.not_eq_false]
    exact and_comm

/-! ## Polling the light sensor -/

/-- The comparison of `activateLDR`. -/
def hits (pos : Klappenposition) (lux nextLux : UInt8) : Bool :=
  if pos = .posDown then decide (lux ≤ nextLux) else decide (lux ≥ nextLux)

/-- The counter and the timer after a measurement that does not move the door. -/
def counted (hit : Bool) (c : UInt8) : UInt8 × UInt64 :=
  if hit then (c + 1, toMicros (sToUs * luxDebounceTime)) else (0, toMicros (sToUs * tSens))

theorem wp_debounce {ω : Env} {w : World} {post : Post World Int32} (pos : Klappenposition) (hit : Bool)
    (move : Fw Unit) :
    wp (debounce pos hit move) post ω w ↔
      ((hit = true ∧ w.sched.ramCounter + 1 ≥ luxDebounceNumber) →
        wp move ⟨fun _ => post.done 0, post.halt, post.pending⟩ ω
          { w with
            sched := { w.sched with ramCounter := 0 }, trace := .lightMove pos w.tick :: w.trace }) ∧
      (¬ (hit = true ∧ w.sched.ramCounter + 1 ≥ luxDebounceNumber) →
        post.done 1 { w with
          sched := { w.sched with ramCounter := (counted hit w.sched.ramCounter).1 }
          timer := some (counted hit w.sched.ramCounter).2 }) := by
  cases hit with
  | true =>
    simp only [debounce, if_true, wp_bind, wp_modifySched, wp_get, wp_ite, wp_emit,
      wp_enableTimerWakeup, wp_pure, counted, true_and]
  | false =>
    simp only [debounce, Bool.false_eq_true, if_false, wp_bind, wp_modifySched,
      wp_enableTimerWakeup, wp_pure, counted, false_and, false_implies, not_false_eq_true,
      true_implies, true_and]

/-- Right after a reset of the counter a measurement only counts or starts over. -/
theorem counted_zero (hit : Bool) : (counted hit 0).1 ≤ 1 := by
  cases hit <;> decide

/-- The device after a light check that did not move the door. -/
def polled (w : World) (pos : Klappenposition) (s : Sample) (lux c : UInt8) (us : UInt64) : World :=
  { w.observe s with
    trace := .lightCheck pos lux w.sched.nextLux :: (w.observe s).trace
    sched := { w.sched with ramCounter := c }
    timer := some us }

/-- The light level at the next reading. -/
def level (ω : Env) (w : World) : UInt8 := voltToLux (ω w.tick).milliVolts

/-- The outcome of the comparison that `activateLDR` is about to make. -/
def hitsNow (ω : Env) (w : World) (pos : Klappenposition) : Bool := hits pos (level ω w) w.sched.nextLux

/-- The device after a light check for `pos` that did not move the door. -/
def measured (ω : Env) (w : World) (pos : Klappenposition) : World :=
  polled w pos (ω w.tick) (level ω w) (counted (hitsNow ω w pos) w.sched.ramCounter).1
    (counted (hitsNow ω w pos) w.sched.ramCounter).2

/-- The device at the start of the move that a light check for `pos` has ordered. -/
def triggered (ω : Env) (w : World) (pos : Klappenposition) : World :=
  { w.observe (ω w.tick) with
    trace := .lightMove pos (w.tick + 1) :: .lightCheck pos (level ω w) w.sched.nextLux ::
      (w.observe (ω w.tick)).trace
    sched := { w.sched with ramCounter := 0 } }

/-- The next light check orders a move. -/
def Triggers (ω : Env) (w : World) (pos : Klappenposition) : Prop :=
  hitsNow ω w pos = true ∧ w.sched.ramCounter + 1 ≥ luxDebounceNumber

/-- A light check outside of a timer wake-up is safe. -/
theorem lightOk_of_not_timer {pos : Klappenposition} {lux v : UInt8} {tr : List Event}
    (h : onTimerWakeup tr = false) : LightOk (.lightCheck pos lux v :: tr) := by
  intro pos' lux' v' tl heq ht
  obtain ⟨-, rfl⟩ := List.cons.inj heq
  rw [h] at ht
  cases ht

theorem quiet_polled {w : World} {pos : Klappenposition} {s : Sample} {lux c : UInt8} {us : UInt64}
    (h : onTimerWakeup w.trace = false) : Quiet w.trace (polled w pos s lux c us).trace :=
  (Quiet.observe w s).trans (.of_check (lightOk_of_not_timer (onTimerWakeup_observe.trans h)))

/-- From `w` to `w'` the light sensor was armed for `pos`; the alarm was left alone. -/
structure Armed (pos : Klappenposition) (lux : UInt8) (w w' : World) : Prop where
  passing : ∀ w₀, Passing pos lux w₀ w → Passing pos lux w₀ w'
  alarm : ∀ w₀ c, AlarmSet w₀ c w → AlarmSet w₀ c w'
  alarmFlag : w'.sched.alarmFlag = w.sched.alarmFlag
  ldrFlag : w'.sched.ldrFlag = pos
  lastArmed : lastArmed w'.trace = some (pos, lux, w.rtc.snapshot)
  notTimer : onTimerWakeup w'.trace = false

/-- The device once `LDRFlag` is set. -/
def withLight (w : World) (timer : Option UInt64) : World :=
  { w with
    sched := { w.sched with ramCounter := 0, ldrFlag := w.sched.nextMove }
    trace := .lightArmed w.sched.nextMove w.sched.nextLux w.rtc.snapshot :: w.trace
    timer := timer }

theorem armed_withLight (w : World) (timer : Option UInt64) :
    Armed w.sched.nextMove w.sched.nextLux w (withLight w timer) where
  passing := fun w₀ h =>
    { h with quiet := h.quiet.cons rfl, counter := .inr (show (0 : UInt8) ≤ 1 by decide) }
  alarm := fun w₀ c ha => { ha with }
  alarmFlag := rfl
  ldrFlag := rfl
  lastArmed := rfl
  notTimer := rfl

theorem Armed.polled {pos : Klappenposition} {lux : UInt8} {w w' : World} (h : Armed pos lux w w')
    (s : Sample) (l : UInt8) {c : UInt8} (us : UInt64) (hc : c ≤ 1) :
    Armed pos lux w (polled w' pos s l c us) where
  passing := fun w₀ h₀ =>
    { h.passing w₀ h₀ with
      quiet := (h.passing w₀ h₀).quiet.trans (quiet_polled h.notTimer), counter := .inr hc }
  alarm := fun w₀ c ha =>
    { h.alarm w₀ c ha with
      decided := lastSetAlarm_observe.trans (h.alarm w₀ c ha).decided
      fresh := (h.alarm w₀ c ha).fresh.observe }
  alarmFlag := h.alarmFlag
  ldrFlag := h.ldrFlag
  lastArmed := lastArmed_observe.trans h.lastArmed
  notTimer := onTimerWakeup_observe.trans h.notTimer

variable [TimeLib]

/-- What `activateLDR` does with a pending move. -/
theorem activateLDR_cases {ω : Env} {w : World} {post : Post World Int32} {pos : Klappenposition}
    (n : Nat) (hpos : pos = .posUp ∨ pos = .posDown) (hf : w.sched.ldrFlag = pos)
    (hmove : Triggers ω w pos → wp (moveMotor n pos)
      ⟨fun _ => post.done 0, post.halt, post.pending⟩ ω (triggered ω w pos))
    (hcount : ¬ Triggers ω w pos → post.done 1 (measured ω w pos)) :
    wp (activateLDR (n + 1)) post ω w := by
  have key : wp (debounce pos (hitsNow ω w pos) (moveMotor n pos)) post ω
      { w.observe (ω w.tick) with
        trace := .lightCheck pos (level ω w) w.sched.nextLux :: (w.observe (ω w.tick)).trace } := by
    rw [wp_debounce]
    exact ⟨hmove, hcount⟩
  rcases hpos with rfl | rfl
  · simp only [activateLDR, wp_bind, wp_get, hf, reduceCtorEq, if_false, if_true, getLux,
      wp_readMilliVolts, wp_pure, wp_emit]
    exact key
  · simp only [activateLDR, wp_bind, wp_get, hf, if_true, getLux, wp_readMilliVolts, wp_pure,
      wp_emit]
    exact key

/-- `activateLDR` right after the counter was reset: it never reaches `moveMotor`. -/
theorem activateLDR_polls {ω : Env} {w : World} {pos : Klappenposition} (n : Nat)
    (hpos : pos = .posUp ∨ pos = .posDown) (hf : w.sched.ldrFlag = pos)
    (hc : w.sched.ramCounter = 0) :
    wp (activateLDR n) ⟨fun _ w' => w' = measured ω w pos, fun _ => False,
      fun w' => n = 0 ∧ w' = w⟩ ω w := by
  cases n with
  | zero => exact wp_pending.mpr ⟨rfl, rfl⟩
  | succ n =>
    refine activateLDR_cases n hpos hf (fun htrig => ?_) (fun _ => rfl)
    have hge := htrig.2
    rw [hc] at hge
    exact absurd hge (by decide)

/-- The sensor is armed, now or after the pause that follows a move. -/
theorem armLight_arms {ω : Env} {w : World} {pos : Klappenposition} {lux : UInt8} (n : Nat)
    (hpos : pos = .posUp ∨ pos = .posDown) (hm : w.sched.nextMove = pos)
    (hl : w.sched.nextLux = lux) :
    wp (armLight (activateLDR n)) ⟨fun _ w' => Armed pos lux w w', fun _ => False,
      fun w' => n = 0 ∧ Quiet w.trace w'.trace⟩ ω w := by
  simp only [armLight, wp_bind, wp_modifySched, wp_get, wp_ite, wp_emit, wp_enableTimerWakeup,
    wp_pure]
  subst hm hl
  refine ⟨fun _ => armed_withLight w _, fun _ => ?_⟩
  -- the pause is over: the pass makes the first check itself
  apply wp_mono (activateLDR_polls (w := withLight w w.timer) n hpos rfl rfl)
  · intro _ w' hw'
    rw [hw']
    exact (armed_withLight w w.timer).polled _ _ _ (counted_zero _)
  · exact fun _ h => h
  · rintro w' ⟨hn, hw'⟩
    rw [hw']
    exact ⟨hn, .of_cons _ rfl⟩

/-! ## Plans -/

/-- The decisions of a scheduling pass. -/
structure Plan where
  /-- The alarm is programmed for the time of the entry. -/
  atTime : Bool
  /-- The firing of the alarm moves the door. -/
  moves : Bool
  /-- The light sensor is polled. -/
  light : Bool
  deriving Repr, DecidableEq

/-- The decisions of `setNextOpeningAlarm`. -/
def openingPlan (a : DoorDayAlarm) (mode : OpeningMode) (manual : Bool) (t : Int32) : Plan :=
  let due := !manual && decide (notPassed a t)
  match mode with
  | .zeit => ⟨due, due, false⟩
  | .licht => ⟨false, false, !manual⟩
  | .lichtZeit => ⟨due, false, !manual && !decide (notPassed a t)⟩
  | .nicht => ⟨false, false, false⟩

/-- The decisions of `setNextClosingAlarm`. -/
def closingPlan (a : DoorDayAlarm) (mode : OpeningMode) (manual : Bool) (t : Int32) : Plan :=
  let due := decide (notPassed a t)
  match mode with
  | .zeit => ⟨due, due, false⟩
  | .licht => ⟨false, false, !manual⟩
  | .lichtZeit => ⟨due, due, !manual && due⟩
  | .nicht => ⟨false, false, false⟩

/-- The weekday argument of `setAlarmTomorrow0`. -/
def tomorrow (t : Int32) : UInt8 := if weekday t ≥ 7 then 1 else UInt8.ofNat (weekday t + 1)

/-- The arguments with which a plan programs the alarm. -/
def alarmArgs (atTime : Bool) (a : DoorDayAlarm) (t : Int32) : AlarmArgs :=
  if atTime then (UInt8.ofNat (weekday t), a.hour, a.minute) else (tomorrow t, 0, 0)

/-- A pass has begun and decided nothing yet, except in manual mode. -/
structure Started (pos : Klappenposition) (a : DoorDayAlarm) (w w' : World) : Prop
    extends Passing pos a.lux.toUInt8 w w' where
  silent : Silent pos a w w'
  ldrFlag : w'.sched.ldrFlag = .posBlocked
  alarmFlag : w'.sched.alarmFlag = .posBlocked
  manualAlarm : w.sched.manualFlag = true → AlarmSet w (tomorrow w.clk.tNow, 0, 0) w'

/-- A pass for `pos` with the entry `a` has been carried out as planned. -/
structure Scheduled (pos : Klappenposition) (a : DoorDayAlarm) (p : Plan) (w w' : World) : Prop
    extends Passing pos a.lux.toUInt8 w w' where
  alarm : AlarmSet w (alarmArgs p.atTime a w.clk.tNow) w'
  alarmFlag : w'.sched.alarmFlag = if p.moves then pos else .posBlocked
  ldrFlag : w'.sched.ldrFlag = if p.light then pos else .posBlocked
  lit : p.light = true → lastArmed w'.trace = some (pos, a.lux.toUInt8, w.rtc.snapshot)

/-- The alarm part of a pass has been carried out, and nothing has been done about light. -/
structure Programmed (pos : Klappenposition) (a : DoorDayAlarm) (p : Plan) (w w' : World) : Prop
    extends Scheduled pos a ⟨p.atTime, p.moves, false⟩ w w' where
  silent : Silent pos a w w'

section Pass

variable {ω : Env} {w w₁ : World} {post : Post World Unit} {pos : Klappenposition}
  {a : DoorDayAlarm} {lux : UInt8}

@[simp] theorem wp_setAlarmTomorrow0 :
    wp setAlarmTomorrow0 post ω w ↔ post.done () (withAlarm w (tomorrow w.clk.tNow, 0, 0)) := by
  simp only [setAlarmTomorrow0, wp_bind, wp_get, wp_ite, wp_setAlarm, tomorrow]
  by_cases h : weekday w.clk.tNow ≥ 7 <;> simp [h]

@[simp] theorem wp_setTodaysAlarm (a : DoorDayAlarm) :
    wp (setTodaysAlarm a) post ω w ↔
      post.done () (withAlarm w (UInt8.ofNat (weekday w.clk.tNow), a.hour, a.minute)) := wp_iff

/-- The start of a pass. -/
theorem startScheduling_starts (pos : Klappenposition) (a : DoorDayAlarm) :
    wp (startScheduling pos a) ⟨fun _ w' => Started pos a w w', fun _ => False,
      fun _ => False⟩ ω w := by
  -- `F_init_flag` is set by the first pass only
  have key : ∀ w₁ : World, Started pos a w (mark w₁) →
      (w₁.sched.fInitFlag = 0 → Started pos a w { w₁ with
        nvs := w₁.nvs.put .initFlag 1, sched := { w₁.sched with fInitFlag := 1 } }) ∧
      (¬ w₁.sched.fInitFlag = 0 → Started pos a w w₁) := by
    intro w₁ h
    rw [mark] at h
    exact ⟨fun h0 => by rwa [if_pos h0] at h, fun h0 => by rwa [if_neg h0] at h⟩
  simp only [startScheduling, wp_bind, wp_call, wp_modifySched, wp_get, wp_when, wp_setAlarmFlag,
    wp_setAlarmTomorrow0, wp_memoryPut]
  refine ⟨fun hm => ?_, fun hm => ?_⟩
  · -- manual mode: the midnight alarm is set before anything is decided
    have hb := (begun_begin w pos a).withAlarm (tomorrow w.clk.tNow, 0, 0)
    have ha := (begun_begin w pos a).alarmSet (tomorrow w.clk.tNow, 0, 0)
    exact key _
      { hb.mark rfl rfl with
        silent := ((silent_begin w pos a).withAlarm _).mark
        ldrFlag := mark_ldrFlag _
        alarmFlag := mark_alarmFlag _
        manualAlarm := fun _ => ha.mark }
  · exact key _
      { (begun_begin w pos a).mark rfl rfl with
        silent := (silent_begin w pos a).mark
        ldrFlag := mark_ldrFlag _
        alarmFlag := mark_alarmFlag _
        manualAlarm := fun h => absurd h hm }

/-- A decision of the `switch` about the alarm. -/
theorem Started.programmed (h : Started pos a w w₁) (atTime moves light : Bool) :
    Programmed pos a ⟨atTime, moves, light⟩ w
      (withAlarm (withFlag w₁ (if moves then pos else .posBlocked))
        (alarmArgs atTime a w.clk.tNow)) :=
  { (h.toPassing.withFlag _).withAlarm _ with
    alarm := (h.toPassing.withFlag _).alarmSet _
    alarmFlag := rfl
    ldrFlag := h.ldrFlag
    lit := by intro hl; cases hl
    silent := (h.silent.withFlag _).withAlarm _ }

/-- In manual mode the midnight alarm of the start is the decision. -/
theorem Started.programmed_manual (h : Started pos a w w₁) (hm : w.sched.manualFlag = true)
    (light : Bool) : Programmed pos a ⟨false, false, light⟩ w w₁ :=
  { h.toPassing with
    alarm := h.manualAlarm hm
    alarmFlag := h.alarmFlag
    ldrFlag := h.ldrFlag
    lit := by intro hl; cases hl
    silent := h.silent }

/-- After the alarm part a pass is over, or starts the light sensor. -/
structure Goes (ω : Env) (n : Nat) (pos : Klappenposition) (a : DoorDayAlarm) (p : Plan) (w : World)
    (post : Post World Unit) : Prop where
  done : ∀ w₂, Programmed pos a p w w₂ → p.light = false → post.done () w₂
  light : ∀ w₂, Programmed pos a p w w₂ → p.light = true → wp (armLight (activateLDR n)) post ω w₂

/-- The `switch` of `setNextOpeningAlarm` follows its plan. -/
theorem openingSwitch_goes (n : Nat) (mode : OpeningMode) (h : Started .posUp a w w₁)
    (hgo : Goes ω n .posUp a (openingPlan a mode w.sched.manualFlag w.clk.tNow) w post) :
    wp (openingSwitch a mode (activateLDR n)) post ω w₁ := by
  have hclk : w₁.clk = w.clk := h.clk
  have hman : w₁.sched.manualFlag = w.sched.manualFlag := h.manual
  have hup : w₁.sched.nextMove = .posUp := h.nextMove
  -- the things a branch can do about the alarm
  have hmid := h.programmed false false
  have hmove := h.programmed true true
  have hstay := h.programmed true false
  simp only [alarmArgs, Bool.false_eq_true, if_false, if_true] at hmid hmove hstay
  cases hm : w.sched.manualFlag with
  | true =>
    have hmanual := h.programmed_manual hm false
    rw [hm] at hgo
    cases mode <;>
      simp only [openingSwitch, wp_bind, wp_get, wp_when, wp_ite, wp_setAlarmFlag,
        wp_setAlarmTomorrow0, wp_setTodaysAlarm, withFlag_clk, hclk, hman, hm, Bool.true_eq_false,
        false_implies, not_false_eq_true, true_implies, true_and]
    all_goals first
      | exact hgo.done _ hmanual rfl
      | exact hgo.done _ (hmid _) rfl
  | false =>
    rw [hm] at hgo
    by_cases hp : notPassed a w.clk.tNow <;> cases mode <;>
      simp only [openingPlan, hp, decide_true, decide_false, Bool.not_false, Bool.not_true,
        Bool.and_true, Bool.and_false] at hgo <;>
      simp only [openingSwitch, wp_bind, wp_get, wp_when, wp_ite, wp_setAlarmFlag,
        wp_setAlarmTomorrow0, wp_setTodaysAlarm, withFlag_clk, hclk, hman, hm, hup, hp,
        true_implies, not_true_eq_false, not_false_eq_true, false_implies, and_true, true_and]
    all_goals first
      | exact hgo.light _ (hmid _) rfl
      | exact hgo.done _ (hmove _) rfl
      | exact hgo.done _ (hmid _) rfl
      | exact hgo.done _ (hstay _) rfl

/-- The `switch` of `setNextClosingAlarm` follows its plan. -/
theorem closingSwitch_goes (n : Nat) (mode : OpeningMode) (h : Started .posDown a w w₁)
    (hgo : Goes ω n .posDown a (closingPlan a mode w.sched.manualFlag w.clk.tNow) w post) :
    wp (closingSwitch a mode (activateLDR n)) post ω w₁ := by
  have hclk : w₁.clk = w.clk := h.clk
  have hman : w₁.sched.manualFlag = w.sched.manualFlag := h.manual
  have hdown : w₁.sched.nextMove = .posDown := h.nextMove
  have hmid := h.programmed false false
  have hmove := h.programmed true true
  simp only [alarmArgs, Bool.false_eq_true, if_false, if_true] at hmid hmove
  cases hm : w.sched.manualFlag <;> rw [hm] at hgo <;>
    by_cases hp : notPassed a w.clk.tNow <;> cases mode <;>
    simp only [closingPlan, hp, decide_true, decide_false, Bool.not_false, Bool.not_true,
      Bool.and_true, Bool.and_false] at hgo <;>
    simp only [closingSwitch, wp_bind, wp_get, wp_when, wp_ite, wp_setAlarmFlag,
      wp_setAlarmTomorrow0, wp_setTodaysAlarm, withFlag_clk, hclk, hman, hm, hdown, hp,
      true_implies, not_true_eq_false, not_false_eq_true, false_implies, and_true, true_and,
      Bool.true_eq_false]
  all_goals first
    | exact hgo.light _ (hmid _) rfl
    | exact hgo.light _ (hmove _) rfl
    | exact hgo.done _ (hmove _) rfl
    | exact hgo.done _ (hmid _) rfl

/-- A pass that starts the light sensor has been carried out as planned. -/
theorem armLight_scheduled {p : Plan} (n : Nat) (hpos : pos = .posUp ∨ pos = .posDown)
    (h : Programmed pos a p w w₁) (hl : p.light = true) :
    wp (armLight (activateLDR n)) ⟨fun _ w' => Scheduled pos a p w w', fun _ => False,
      fun w' => n = 0 ∧ Quiet w.trace w'.trace⟩ ω w₁ := by
  have hspec := armLight_arms (ω := ω) n hpos h.nextMove h.nextLux
  refine wp_mono hspec ?_ (fun _ h => h) ?_
  · intro _ w' ha
    exact
      { ha.passing w h.toPassing with
        alarm := ha.alarm w _ h.alarm
        alarmFlag := ha.alarmFlag.trans h.alarmFlag
        ldrFlag := by rw [hl, if_pos rfl]; exact ha.ldrFlag
        lit := fun _ => by rw [← h.snapshot]; exact ha.lastArmed }
  · intro w' hp
    exact ⟨hp.1, h.quiet.trans hp.2⟩

/-- Either way a pass ends as planned. -/
theorem goes_scheduled (n : Nat) {p : Plan} (hpos : pos = .posUp ∨ pos = .posDown) :
    Goes ω n pos a p w ⟨fun _ w' => Scheduled pos a p w w', fun _ => False,
      fun w' => n = 0 ∧ Quiet w.trace w'.trace⟩ where
  done := by
    intro w₂ h hl
    have h' : Scheduled pos a ⟨p.atTime, p.moves, false⟩ w w₂ := h.toScheduled
    rw [← hl] at h'
    exact h'
  light := fun _ h hl => armLight_scheduled n hpos h hl

end Pass

/-! ## Whole passes -/

/-- The device that found no mode and goes to sleep. -/
def lost (w : World) : World :=
  { withAlarm w (tomorrow w.clk.tNow, 0, 0) with
    trace := .raised .wrongAlarmMode :: (withAlarm w (tomorrow w.clk.tNow, 0, 0)).trace
    door := { w.door with errorFlag := .wrongAlarmMode } }

section Whole

variable {ω : Env} {w : World} {post : Post World Unit} {pos : Klappenposition} {a : DoorDayAlarm}

theorem wp_wrongMode :
    wp wrongMode post ω w ↔
      (w.menu.menuActive = true → post.done () w) ∧
        (w.menu.menuActive = false → post.halt (slept (lost w) (ω w.tick))) := by
  simp only [wrongMode, wp_bind, wp_get, wp_when, wp_setAlarmTomorrow0, wp_emit, wp_modifyDoor,
    wp_prepForDeepSleep, Bool.not_eq_false]
  exact and_comm

/-- A pass for the entry `a` with a valid mode returns or sleeps with its plan carried out;
    it runs out of budget only with nothing but quiet events behind it. -/
def passed (pos : Klappenposition) (a : DoorDayAlarm) (p : Plan) (n : Nat) (w : World) :
    Post World Unit where
  done := fun _ w' => w.menu.menuActive = true ∧ ∃ w₁, Scheduled pos a p w w₁ ∧ w' = lit w₁
  halt := fun w' => w.menu.menuActive = false ∧
    ∃ w₁ s, Scheduled pos a p w w₁ ∧ w' = slept (lit w₁) s
  pending := fun w' => n ≤ 1 ∧ Quiet w.trace w'.trace

/-- A pass for an entry without a mode: nothing is decided, or the device sleeps with the
    midnight alarm and an error that is not stored. -/
def strayed (pos : Klappenposition) (a : DoorDayAlarm) (w : World) : Post World Unit where
  done := fun _ w' => w.menu.menuActive = true ∧ Started pos a w w'
  halt := fun w' => w.menu.menuActive = false ∧
    ∃ w₁ s, Started pos a w w₁ ∧ w' = slept (lost w₁) s
  pending := fun _ => False

/-- The frame that both schedulers share, around a `switch` that follows its plan. -/
theorem pass_passed {switch : Fw Unit} {p : Plan} (n : Nat)
    (hs : ∀ w₁, Started pos a w w₁ →
      wp switch ⟨fun _ w' => Scheduled pos a p w w', fun _ => False,
        fun w' => n = 0 ∧ Quiet w.trace w'.trace⟩ ω w₁) :
    wp (do startScheduling pos a; switch; finishScheduling)
      (passed pos a p (n + 1) w) ω w := by
  refine wp_seq (Q := fun _ w₁ => Started pos a w w₁)
    (wp_mono (startScheduling_starts pos _) (fun _ _ h => h) (fun _ h => h.elim)
      (fun _ h => h.elim)) ?_
  intro _ w₁ h₁
  refine wp_seq (Q := fun _ w₂ => Scheduled pos a p w w₂)
    (wp_mono (hs w₁ h₁) (fun _ _ h => h) (fun _ h => h.elim) ?_) ?_
  · rintro w' ⟨hn, hq⟩
    exact ⟨by omega, hq⟩
  · intro _ w₂ h₂
    have hmenu : w₂.menu = w.menu := h₂.menu
    rw [wp_finishScheduling, hmenu]
    exact ⟨fun ha => ⟨ha, w₂, h₂, rfl⟩, fun ha => ⟨ha, w₂, _, h₂, rfl⟩⟩

theorem pass_strayed :
    wp (do startScheduling pos a; wrongMode) (strayed pos a w) ω w := by
  refine wp_seq (Q := fun _ w₁ => Started pos a w w₁)
    (wp_mono (startScheduling_starts pos _) (fun _ _ h => h) (fun _ h => h.elim)
      (fun _ h => h)) ?_
  intro _ w₁ h₁
  have hmenu : w₁.menu = w.menu := h₁.menu
  rw [wp_wrongMode, hmenu]
  exact ⟨fun ha => ⟨ha, h₁⟩, fun ha => ⟨ha, w₁, _, h₁, rfl⟩⟩

/-- Specification of `setNextOpeningAlarm` for a valid mode. -/
theorem setNextOpeningAlarm_passed {mode : OpeningMode} (n : Nat)
    (ha : a = todaysAlarm w.sched.openingAlarms w.clk.tNow)
    (hmode : OpeningMode.ofByte a.mode = some mode) :
    wp (setNextOpeningAlarm n)
      (passed .posUp a (openingPlan a mode w.sched.manualFlag w.clk.tNow) n w) ω w := by
  cases n with
  | zero => exact wp_pending.mpr ⟨by omega, .refl _⟩
  | succ n =>
    rw [setNextOpeningAlarm, wp_bind, wp_get]
    simp only [← ha, hmode]
    exact pass_passed n fun w₁ h₁ => openingSwitch_goes n mode h₁ (goes_scheduled n (.inl rfl))

/-- Specification of `setNextClosingAlarm` for a valid mode. -/
theorem setNextClosingAlarm_passed {mode : OpeningMode} (n : Nat)
    (ha : a = todaysAlarm w.sched.closingAlarms w.clk.tNow)
    (hmode : OpeningMode.ofByte a.mode = some mode) :
    wp (setNextClosingAlarm n)
      (passed .posDown a (closingPlan a mode w.sched.manualFlag w.clk.tNow) n w) ω w := by
  cases n with
  | zero => exact wp_pending.mpr ⟨by omega, .refl _⟩
  | succ n =>
    rw [setNextClosingAlarm, wp_bind, wp_get]
    simp only [← ha, hmode]
    exact pass_passed n fun w₁ h₁ => closingSwitch_goes n mode h₁ (goes_scheduled n (.inr rfl))

/-- Specification of `setNextOpeningAlarm` for a mode that is none. -/
theorem setNextOpeningAlarm_strayed (n : Nat)
    (ha : a = todaysAlarm w.sched.openingAlarms w.clk.tNow)
    (hmode : OpeningMode.ofByte a.mode = none) :
    wp (setNextOpeningAlarm (n + 1)) (strayed .posUp a w) ω w := by
  rw [setNextOpeningAlarm, wp_bind, wp_get]
  simp only [← ha, hmode]
  exact pass_strayed

/-- Specification of `setNextClosingAlarm` for a mode that is none. -/
theorem setNextClosingAlarm_strayed (n : Nat)
    (ha : a = todaysAlarm w.sched.closingAlarms w.clk.tNow)
    (hmode : OpeningMode.ofByte a.mode = none) :
    wp (setNextClosingAlarm (n + 1)) (strayed .posDown a w) ω w := by
  rw [setNextClosingAlarm, wp_bind, wp_get]
  simp only [← ha, hmode]
  exact pass_strayed

end Whole

end Eggvault.Spec
