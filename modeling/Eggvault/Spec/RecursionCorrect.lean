import Eggvault.Spec.ActionsCorrect

/-!
# The recursion of the schedulers

`statusabfrage`, the two schedulers, `activateLDR` and `moveMotor` call each other in a circle.
A scheduler has set the debounce counter to zero before it calls `activateLDR`, so that the light
check that it makes is never the third one, and the circle is left there: below `statusabfrage`
three calls are nested at most, and none of them is `moveMotor`.

`Within` counts the moves and the passes of a stretch of a run, and the counts add up.

## Key results

- `recursion_bounded`: how the calls of the circle end
-/

namespace Eggvault.Spec

open Eggvault.Native Prog Trace TimeLib

/-! ## Counting moves and passes -/

/-- A call of `moveMotor`. -/
def isMoveCall : Event → Bool
  | .call .moveMotor _ => true
  | _ => false

/-- A call of one of the two schedulers. -/
def isPass : Event → Bool
  | .call (.setNextAlarm _ _) _ => true
  | _ => false

/-- From `tr` to `tr'` there were at most so many calls of `moveMotor` and so many passes. -/
def Within (moves passes : Nat) (tr tr' : List Event) : Prop :=
  ∃ es, tr' = es ++ tr ∧ es.countP isMoveCall ≤ moves ∧ es.countP isPass ≤ passes

namespace Within

variable {moves passes moves' passes' : Nat} {tr tr' tr'' : List Event} {e : Event}

theorem refl (tr : List Event) : Within 0 0 tr tr := ⟨[], rfl, Nat.le_refl _, Nat.le_refl _⟩

theorem trans (h : Within moves passes tr tr') (h' : Within moves' passes' tr' tr'') :
    Within (moves + moves') (passes + passes') tr tr'' := by
  obtain ⟨es, rfl, hm, hp⟩ := h
  obtain ⟨es', rfl, hm', hp'⟩ := h'
  refine ⟨es' ++ es, (List.append_assoc _ _ _).symm, ?_, ?_⟩
  · rw [List.countP_append]
    omega
  · rw [List.countP_append]
    omega

/-- A stretch without a move or a pass comes before. -/
theorem before (h : Within 0 0 tr tr') (h' : Within moves passes tr' tr'') :
    Within moves passes tr tr'' := by
  have htrans := h.trans h'
  rwa [Nat.zero_add, Nat.zero_add] at htrans

theorem mono (h : Within moves passes tr tr') (hm : moves ≤ moves') (hp : passes ≤ passes') :
    Within moves' passes' tr tr' := by
  obtain ⟨es, htr, hmoves, hpasses⟩ := h
  exact ⟨es, htr, Nat.le_trans hmoves hm, Nat.le_trans hpasses hp⟩

/-- The event is neither. -/
theorem cons (h : Within moves passes tr tr') (hm : isMoveCall e = false) (hp : isPass e = false) :
    Within moves passes tr (e :: tr') := by
  obtain ⟨es, rfl, hmoves, hpasses⟩ := h
  refine ⟨e :: es, rfl, ?_, ?_⟩
  · rwa [List.countP_cons_of_neg (by simp [hm])]
  · rwa [List.countP_cons_of_neg (by simp [hp])]

theorem extended {p : Event → Bool} (h : Within moves passes tr tr') (he : Extends p tr' tr'')
    (hm : ∀ e, p e = true → isMoveCall e = false) (hp : ∀ e, p e = true → isPass e = false) :
    Within moves passes tr tr'' :=
  he.keeps (P := Within moves passes tr) (fun e _ hpe h => h.cons (hm e hpe) (hp e hpe)) h

theorem observe {w : World} (h : Within moves passes tr w.trace) (s : Sample) :
    Within moves passes tr (w.observe s).trace :=
  observe_keeps (P := Within moves passes tr) (fun _ h => h.cons rfl rfl) h

theorem moveCall (tr : List Event) (m : Moment) : Within 1 0 tr (.call .moveMotor m :: tr) :=
  ⟨[_], rfl, Nat.le_refl _, Nat.le_refl _⟩

theorem passCall (tr : List Event) (pos : Klappenposition) (a : DoorDayAlarm) (m : Moment) :
    Within 0 1 tr (.call (.setNextAlarm pos a) m :: tr) :=
  ⟨[_], rfl, Nat.le_refl _, Nat.le_refl _⟩

end Within

/-! ## Passes -/

/-- A call returns or puts the device to sleep, with at most one pass and without a move. -/
def settling (tr : List Event) : Post World Unit where
  done := fun _ w => Within 0 1 tr w.trace
  halt := fun w => Within 0 1 tr w.trace
  pending := fun _ => False

section Passes

variable {ω : Env} {w w' : World} {pos : Klappenposition} {a : DoorDayAlarm} {tr : List Event}

theorem Silent.within (h : Silent pos a w w') : Within 0 1 w.trace w'.trace := by
  refine (Within.passCall _ _ _ _).extended h.trace (fun e he => ?_) (fun e he => ?_)
  · cases e <;> first | rfl | cases he
  · cases e <;> first | rfl | cases he

theorem Within.slept {moves passes : Nat} (h : Within moves passes tr w.trace) (s : Sample) :
    Within moves passes tr (slept w s).trace := by
  have hcall : Within moves passes tr (w.called .prepForDeepSleep).trace := h.cons rfl rfl
  exact hcall.observe s

theorem Within.lit {moves passes : Nat} (h : Within moves passes tr w.trace) :
    Within moves passes tr (lit w).trace := by
  unfold Spec.lit
  split
  · exact h
  · exact h

theorem finishScheduling_settles (h : Within 0 1 tr w.trace) :
    wp finishScheduling (settling tr) ω w := by
  rw [wp_finishScheduling]
  exact ⟨fun _ => h.lit, fun _ => h.lit.slept _⟩

variable [TimeLib]

theorem wrongMode_settles (h : Within 0 1 tr w.trace) : wp wrongMode (settling tr) ω w := by
  rw [wp_wrongMode]
  have hlost : Within 0 1 tr (lost w).trace := by
    have hset : Within 0 1 tr (.setAlarm (tomorrow w.clk.tNow) 0 0 :: w.trace) := h.cons rfl rfl
    exact hset.cons rfl rfl
  exact ⟨fun _ => h, fun _ => hlost.slept _⟩

/-- The light check of a pass does not close the circle. -/
theorem goes_settles {p : Plan} (n : Nat) (hpos : pos = .posUp ∨ pos = .posDown) :
    Goes ω (n + 1) pos a p w (settling w.trace) where
  done := fun _ h _ => h.silent.within
  light := by
    intro w₁ h _
    have hlight : ∀ timer, Within 0 1 w.trace (withLight w₁ timer).trace :=
      fun _ => h.silent.within.cons rfl rfl
    simp only [armLight, wp_bind, wp_modifySched, wp_get, wp_ite, wp_emit, wp_enableTimerWakeup,
      wp_pure]
    refine ⟨fun _ => hlight _, fun _ => ?_⟩
    -- the counter is zero, and three hits are needed
    apply wp_mono (activateLDR_polls (w := withLight w₁ w₁.timer) (n + 1) hpos h.nextMove rfl)
    · rintro _ w₂ rfl
      exact ((hlight w₁.timer).observe _).cons rfl rfl
    · exact fun _ hf => hf.elim
    · rintro w₂ ⟨hn, -⟩
      cases hn

theorem setNextOpeningAlarm_settles (n : Nat) :
    wp (setNextOpeningAlarm (n + 2)) (settling w.trace) ω w := by
  rw [setNextOpeningAlarm, wp_get_bind]
  apply wp_then (startScheduling_starts _ _)
  intro _ w₁ h₁
  cases hm : OpeningMode.ofByte (todaysAlarm w.sched.openingAlarms w.clk.tNow).mode with
  | none => exact wrongMode_settles h₁.silent.within
  | some mode =>
    apply wp_seq (openingSwitch_goes (n + 1) mode h₁ (goes_settles n (.inl rfl)))
    intro _ w₂ h₂
    exact finishScheduling_settles h₂

theorem setNextClosingAlarm_settles (n : Nat) :
    wp (setNextClosingAlarm (n + 2)) (settling w.trace) ω w := by
  rw [setNextClosingAlarm, wp_get_bind]
  apply wp_then (startScheduling_starts _ _)
  intro _ w₁ h₁
  cases hm : OpeningMode.ofByte (todaysAlarm w.sched.closingAlarms w.clk.tNow).mode with
  | none => exact wrongMode_settles h₁.silent.within
  | some mode =>
    apply wp_seq (closingSwitch_goes (n + 1) mode h₁ (goes_settles n (.inr rfl)))
    intro _ w₂ h₂
    exact finishScheduling_settles h₂

omit [TimeLib] in
/-- The postcondition speaks of a longer stretch. -/
theorem settling_of_within {m : Fw Unit} {tr' : List Event} (h : Within 0 0 tr tr')
    (hm : wp m (settling tr') ω w) : wp m (settling tr) ω w :=
  wp_mono hm (fun _ _ h' => h.before h') (fun _ h' => h.before h') (fun _ hf => hf)

/-- A status check schedules once or reports an error. -/
theorem statusabfrage_settles (n : Nat) :
    wp (statusabfrage (n + 3)) (settling w.trace) ω w := by
  have hlook : Within 0 0 w.trace (lookedAt ω w).trace :=
    ((Within.refl w.trace).observe (ω w.tick)).observe (ω (w.tick + 1))
  rw [statusabfrage, wp_bind, wp_readStatus]
  apply (wp_get_bind _).mpr
  apply (wp_ite _ _ _).mpr
  refine ⟨fun _ => ?_, fun he => ?_⟩
  · have hreport : Within 0 0 w.trace (reported (lookedAt ω w)).trace := hlook.cons rfl rfl
    simp only [reportError, wp_bind, wp_emit, wp_modifyMenu, wp_modifySched]
    exact hreport.mono (Nat.le_refl 0) (Nat.zero_le 1)
  · have hok : Within 0 0 w.trace (.status false :: (lookedAt ω w).trace) := hlook.cons rfl rfl
    have hopen := settling_of_within hok (setNextOpeningAlarm_settles (ω := ω)
      (w := { lookedAt ω w with trace := .status false :: (lookedAt ω w).trace }) n)
    have hclose := settling_of_within hok (setNextClosingAlarm_settles (ω := ω)
      (w := { lookedAt ω w with trace := .status false :: (lookedAt ω w).trace }) n)
    simp only [wp_bind, wp_emit]
    cases hp : (lookedAt ω w).door.doorPosition with
    | posUp => exact hclose
    | posDown => exact hopen
    | posBlocked =>
      -- a blocked door has just set the error flag
      have hblocked : position (ω w.tick).endUp (ω (w.tick + 1)).endLow = .posBlocked := hp
      have hflag : (lookedAt ω w).door.errorFlag = .timerBlockedElapsed := if_pos hblocked
      rw [not_not.mp he] at hflag
      cases hflag
    | posDriving => exact (wp_ite _ _ _).mpr ⟨fun _ => hopen, fun _ => hclose⟩

end Passes

/-! ## Moves -/

/-- A call makes at most one move and one pass; while it lasts it is still in the loop of the
    move. -/
def moving {α : Type} (tr : List Event) : Post World α where
  done := fun _ w => Within 1 1 tr w.trace
  halt := fun w => Within 1 1 tr w.trace
  pending := fun w => Within 1 0 tr w.trace

section Moves

variable {ω : Env} {w : World} {pos : Klappenposition} {tr : List Event}

/-- An iteration of the loop calls nothing. -/
theorem Within.rolling (moves passes : Nat) (tr : List Event) :
    Rolling ω fun w => Within moves passes tr w.trace where
  observe := fun _ h => h.observe _
  door := fun _ _ _ _ h => h
  pins := fun _ _ h => h
  emit := by
    intro w e he h
    cases e <;> first | exact h.cons rfl rfl | cases he

theorem startMove_moves :
    wp startMove ⟨fun _ w' => Within 1 0 w.trace w'.trace, fun _ => False, fun _ => False⟩ ω w := by
  simp only [startMove, wp_bind, wp_call, wp_digitalRead, wp_emit, wp_modifyDoor]
  have hcall : Within 1 0 w.trace (w.called .moveMotor).trace := .moveCall _ _
  exact ((hcall.observe _).observe _).cons rfl rfl

theorem finishMove_moves {moves passes : Nat} (h : Within moves passes tr w.trace) :
    wp finishMove ⟨fun _ w' => Within moves passes tr w'.trace, fun _ => False, fun _ => False⟩
      ω w := by
  have hstop : ∀ a b c d, Within moves passes tr
      (.motorStop :: .motorWrite a b :: .motorWrite c d :: w.trace) := fun _ _ _ _ =>
    ((h.cons rfl rfl).cons rfl rfl).cons rfl rfl
  simp only [finishMove, wp_bind, wp_modifyDoor, wp_digitalWrite_mFwd, wp_digitalWrite_mBack,
    wp_emit, wp_get, wp_memoryPut, wp_when]
  exact ⟨fun _ => hstop _ _ _ _, fun _ => hstop _ _ _ _⟩

variable [TimeLib]

/-- A move is followed by at most one pass, and by no further move. -/
theorem moveMotor_moves (n : Nat) (pos : Klappenposition) :
    wp (moveMotor (n + 4) pos) (moving w.trace) ω w := by
  rw [moveMotor]
  apply wp_then startMove_moves
  intro _ w₁ h₁
  have hloop := (Within.rolling (ω := ω) 1 0 w.trace).moveLoop pos (n + 3) w₁ h₁
  apply wp_seq (wp_mono hloop (fun _ _ h => h)
    (fun _ h => h.mono (Nat.le_refl 1) (Nat.zero_le 1)) (fun _ h => h))
  intro _ w₂ h₂
  apply wp_then (finishMove_moves h₂)
  intro _ w₃ h₃
  exact wp_mono (statusabfrage_settles n) (fun _ _ h => h₃.trans h) (fun _ h => h₃.trans h)
    (fun _ hf => hf.elim)

/-- A light check makes one move at most, and only outside of a pass. -/
theorem activateLDR_moves (n : Nat) : wp (activateLDR (n + 5)) (moving w.trace) ω w := by
  by_cases hf : w.sched.ldrFlag = .posUp ∨ w.sched.ldrFlag = .posDown
  · refine activateLDR_cases _ hf rfl (fun _ => ?_) (fun _ => ?_)
    · -- the third hit in a row, or a later one
      have htrig : Within 0 0 w.trace (triggered ω w w.sched.ldrFlag).trace :=
        (((Within.refl w.trace).observe _).cons rfl rfl).cons rfl rfl
      exact wp_mono (moveMotor_moves n _) (fun _ _ h => htrig.before h) (fun _ h => htrig.before h)
        (fun _ h => htrig.before h)
    · have hmeasured : Within 0 0 w.trace (measured ω w w.sched.ldrFlag).trace :=
        ((Within.refl w.trace).observe _).cons rfl rfl
      exact hmeasured.mono (Nat.zero_le 1) (Nat.zero_le 1)
  · -- no light move is pending
    have hu : w.sched.ldrFlag ≠ .posUp := fun hu => hf (.inl hu)
    have hd : w.sched.ldrFlag ≠ .posDown := fun hd => hf (.inr hd)
    have hraised : Within 0 0 w.trace (.raised .wrongLdrFlag :: w.trace) :=
      (Within.refl w.trace).cons rfl rfl
    simp only [activateLDR, wp_bind, wp_get, hu, hd, if_false, wp_emit, wp_modifyDoor, wp_pure]
    exact wp_mono (statusabfrage_settles (n + 1))
      (fun _ _ h => (hraised.before h).mono (Nat.zero_le 1) (Nat.le_refl 1))
      (fun _ h => (hraised.before h).mono (Nat.zero_le 1) (Nat.le_refl 1)) (fun _ hf => hf.elim)

/-- The circle is never closed: a status check and a pass of either direction return or put the
    device to sleep without a move, and a move or a light check goes through at most one move and
    one pass, whatever the readings are. -/
theorem recursion_bounded (ω : Env) (w : World) (n : Nat) :
    wp (statusabfrage (n + 3)) (settling w.trace) ω w ∧
      wp (setNextOpeningAlarm (n + 2)) (settling w.trace) ω w ∧
      wp (setNextClosingAlarm (n + 2)) (settling w.trace) ω w ∧
      (∀ pos, wp (moveMotor (n + 4) pos) (moving w.trace) ω w) ∧
      wp (activateLDR (n + 5)) (moving w.trace) ω w :=
  ⟨statusabfrage_settles n, setNextOpeningAlarm_settles n, setNextClosingAlarm_settles n,
    moveMotor_moves n, activateLDR_moves n⟩

end Moves

end Eggvault.Spec
