import Eggvault.Spec.Events

/-!
# What a move leaves alone

A move reads inputs, drives its lines, changes the variables of the door and stores where
it ended.  `Blind` collects what an invariant must allow for, and every part of
`moveMotor` before its status check stays in such an invariant.
-/

namespace Eggvault.Spec

open Eggvault.Native Prog

/-- The keys that `moveMotor` writes. -/
def isMoveKey : NvsKey → Bool
  | .lastMove | .lastMovePosition | .initLastMove => true
  | _ => false

/-- The errors that the comments of the source call impossible. -/
def isInternal : ErrorCode → Bool
  | .wrongLdrFlag | .wrongAlarmFlag | .posBlockedCannotBeSet | .wrongAlarmMode => true
  | _ => false

/-- The events of a move. -/
def isMoveEvent : Event → Bool
  | .call .moveMotor _ | .endSwitches _ _ | .buttonBreak => true
  | .raised error => !isInternal error
  | e => isMotorEvent e

/-- The events of one iteration of the loop of a move. -/
def isRoundEvent : Event → Bool
  | .motorEnter _ | .motorWrite _ _ | .motorIteration _ | .endSwitches _ _ | .buttonBreak => true
  | .raised error => !isInternal error
  | _ => false

/-- An invariant that does not look at what an iteration changes. -/
structure Rolling (ω : Env) (I : World → Prop) : Prop where
  observe : ∀ w, I w → I (w.observe (ω w.tick))
  door : ∀ w d, (isInternal d.errorFlag = true → d.errorFlag = w.door.errorFlag) →
    d.lastMove = w.door.lastMove → I w → I { w with door := d }
  pins : ∀ w p, I w → I { w with pins := p }
  emit : ∀ w e, isRoundEvent e = true → I w → I { w with trace := e :: w.trace }

/-- An invariant that does not look at what a move changes. -/
structure Blind (ω : Env) (I : World → Prop) : Prop where
  observe : ∀ w, I w → I (w.observe (ω w.tick))
  door : ∀ w d, (isInternal d.errorFlag = true → d.errorFlag = w.door.errorFlag) → I w →
    I { w with door := d }
  pins : ∀ w p, I w → I { w with pins := p }
  emit : ∀ w e, isMoveEvent e = true → I w → I { w with trace := e :: w.trace }
  store : ∀ w k v, isMoveKey k = true → I w → I { w with nvs := w.nvs.put k v }

namespace Rolling

variable {ω : Env} {I : World → Prop}

/-! ## Primitives -/

theorem digitalRead (h : Rolling ω I) (pin : InPin) : Stays I ω (digitalRead pin) :=
  fun w hw => (wp_digitalRead pin).mpr (h.observe w hw)

theorem millis (h : Rolling ω I) : Stays I ω millis := fun w hw => wp_millis.mpr (h.observe w hw)

theorem modifyDoor (h : Rolling ω I) {f : Door → Door}
    (hf : ∀ d, isInternal (f d).errorFlag = true → (f d).errorFlag = d.errorFlag)
    (hm : ∀ d, (f d).lastMove = d.lastMove) : Stays I ω (modifyDoor f) :=
  .modify fun w hw => h.door w _ (hf w.door) (hm w.door) hw

/-- A change of the door that touches neither the flag of the error nor `lastMove`. -/
theorem turnDoor (h : Rolling ω I) {f : Door → Door}
    (hf : ∀ d, (f d).errorFlag = d.errorFlag ∧ (f d).lastMove = d.lastMove) :
    Stays I ω (Native.modifyDoor f) :=
  h.modifyDoor (fun d _ => (hf d).1) fun d => (hf d).2

theorem digitalWrite (h : Rolling ω I) (pin : OutPin) (v : Bool) :
    Stays I ω (digitalWrite pin v) := by
  cases pin with
  | mFwd =>
    refine .modify fun w hw => ?_
    have hp := h.pins w { w.pins with fwd := v } hw
    exact h.emit _ (.motorWrite v w.pins.back) rfl hp
  | mBack =>
    refine .modify fun w hw => ?_
    have hp := h.pins w { w.pins with back := v } hw
    exact h.emit _ (.motorWrite w.pins.fwd v) rfl hp
  | led => exact .modify fun w hw => h.pins w _ hw

/-! ## Parts of an iteration -/

theorem startDrive (h : Rolling ω I) (pos : Klappenposition) : Stays I ω (startDrive pos) :=
  .get_bind fun _ => .when <| .bind h.millis fun _ => .ite
    (.bind (h.turnDoor fun _ => ⟨rfl, rfl⟩) fun _ =>
      .bind (h.digitalWrite _ _) fun _ => h.digitalWrite _ _)
    (.bind (h.turnDoor fun _ => ⟨rfl, rfl⟩) fun _ =>
      .bind (h.digitalWrite _ _) fun _ => h.digitalWrite _ _)

theorem atBottom (h : Rolling ω I) : Stays I ω atBottom := by
  refine .get_bind fun w => .ite ?_ (.ite ?_ ?_)
  · exact .bind h.millis fun _ => h.turnDoor fun _ => ⟨rfl, rfl⟩
  · exact .bind h.millis fun _ => .when (h.turnDoor fun _ => ⟨rfl, rfl⟩)
  · refine .bind (h.turnDoor fun _ => ⟨rfl, rfl⟩) fun _ => .bind (.when ?_) fun _ => ?_
    · exact .bind h.millis fun _ => h.turnDoor fun _ => ⟨rfl, rfl⟩
    · exact .bind (h.digitalWrite _ _) fun _ => h.digitalWrite _ _

theorem atBlocked (h : Rolling ω I) (pos : Klappenposition) : Stays I ω (atBlocked pos) := by
  refine .bind (h.startDrive pos) fun _ => .get_bind fun _ => .bind (.when ?_) fun _ => ?_
  · exact .bind h.millis fun _ => h.turnDoor fun _ => ⟨rfl, rfl⟩
  · exact .get_bind fun _ => .when (h.turnDoor fun _ => ⟨rfl, rfl⟩)

theorem atTop (h : Rolling ω I) : Stays I ω atTop := by
  refine .bind (h.turnDoor fun _ => ⟨rfl, rfl⟩) fun _ => .get_bind fun _ => ?_
  refine .bind (.when ?_) fun _ => ?_
  · exact .bind h.millis fun _ => h.turnDoor fun _ => ⟨rfl, rfl⟩
  · refine .get_bind fun _ => .bind (.when (h.turnDoor fun _ => ⟨rfl, rfl⟩)) fun _ => ?_
    exact .bind (h.digitalWrite _ _) fun _ => h.digitalWrite _ _

theorem atDriving (h : Rolling ω I) (pos : Klappenposition) : Stays I ω (atDriving pos) :=
  .bind (h.turnDoor fun _ => ⟨rfl, rfl⟩) fun _ => .get_bind fun _ =>
    .bind (.when (h.turnDoor fun _ => ⟨rfl, rfl⟩)) fun _ => h.startDrive pos

theorem sensorBranch (h : Rolling ω I) (pos : Klappenposition) (up low : Bool) :
    Stays I ω (sensorBranch pos up low) := by
  cases up <;> cases low
  · exact h.atBottom
  · exact h.atBlocked pos
  · exact h.atDriving pos
  · exact h.atTop

theorem limitExceeded (h : Rolling ω I) {error : ErrorCode} (he : isInternal error = false) :
    Stays I ω (limitExceeded error) := by
  refine .bind (h.digitalWrite _ _) fun _ => ?_
  refine .bind (.modify fun w hw => h.emit w _ ?_ hw) fun _ => ?_
  · show (!isInternal error) = true
    rw [he]
    rfl
  · refine .bind (h.modifyDoor (fun _ herr => ?_) fun _ => rfl) fun _ => .pure _
    exact absurd (he.symm.trans herr) (by decide)

theorem timerChecks (h : Rolling ω I) : Stays I ω timerChecks := by
  have hlimit : ∀ error, isInternal error = false → Stays I ω (do
      let now ← Native.millis
      if now - (← get).door.moveZero > tErrClose * 1000 then Native.limitExceeded error
      else pure false) := fun error he =>
    .bind h.millis fun _ => .get_bind fun _ => .ite (h.limitExceeded he) (.pure _)
  refine .bind (.get_bind fun _ => .ite ?_ (.pure _)) fun _ => .ite (h.limitExceeded rfl) ?_
  · exact .bind h.millis fun _ => .get_bind fun _ => .pure _
  · exact .get_bind fun _ => .ite (hlimit _ rfl) (.get_bind fun _ => .ite (hlimit _ rfl) (.pure _))

theorem buttonCheck (h : Rolling ω I) : Stays I ω buttonCheck :=
  .bind (h.digitalRead _) fun _ => .ite (.pure _) <|
    .bind (h.digitalRead _) fun _ => .ite (.pure _) <|
      .bind (h.digitalRead _) fun _ => .ite (.pure _) (h.digitalRead _)

theorem buttonBreak (h : Rolling ω I) : Stays I ω buttonBreak :=
  .bind h.buttonCheck fun _ =>
    .bind (.when (.modify fun w hw => h.emit w _ rfl hw)) fun _ => .pure _

theorem moveIteration (h : Rolling ω I) (pos : Klappenposition) :
    Stays I ω (moveIteration pos) := by
  refine .bind (.modify fun w hw => h.emit w _ rfl hw) fun _ => ?_
  refine .bind (h.digitalRead _) fun up => .bind (h.digitalRead _) fun low => ?_
  refine .bind (.modify fun w hw => h.emit w _ rfl hw) fun _ => ?_
  refine .bind (h.sensorBranch pos up low) fun _ => .bind h.timerChecks fun expired => ?_
  have hend : ∀ leave, Stays I ω (do
      Native.emit (.motorIteration (← get).door.doorDirection)
      pure !leave) := fun leave =>
    .get_bind fun _ => .bind (.modify fun w hw => h.emit w _ rfl hw) fun _ => .pure _
  exact .ite (.bind (.pure _) hend) (.bind h.buttonBreak hend)

theorem moveLoop (h : Rolling ω I) (pos : Klappenposition) (n : Nat) : Stays I ω (moveLoop pos n) :=
  .repeatWhile (.get_bind fun _ => .ite (.pure _) (h.moveIteration pos)) n

end Rolling

namespace Blind

variable {ω : Env} {I : World → Prop}

/-- A move changes more than an iteration. -/
theorem rolling (h : Blind ω I) : Rolling ω I where
  observe := h.observe
  door := fun w d he _ => h.door w d he
  pins := h.pins
  emit := by
    intro w e he hw
    refine h.emit w e ?_ hw
    cases e <;> first | rfl | exact he | cases he

theorem digitalRead (h : Blind ω I) (pin : InPin) : Stays I ω (digitalRead pin) :=
  h.rolling.digitalRead pin

theorem millis (h : Blind ω I) : Stays I ω millis := h.rolling.millis

theorem digitalWrite (h : Blind ω I) (pin : OutPin) (v : Bool) : Stays I ω (digitalWrite pin v) :=
  h.rolling.digitalWrite pin v

theorem modifyDoor (h : Blind ω I) {f : Door → Door}
    (hf : ∀ d, isInternal (f d).errorFlag = true → (f d).errorFlag = d.errorFlag) :
    Stays I ω (modifyDoor f) :=
  .modify fun w hw => h.door w _ (hf w.door) hw

/-! ## Parts of `moveMotor` -/

theorem moveIteration (h : Blind ω I) (pos : Klappenposition) : Stays I ω (moveIteration pos) :=
  h.rolling.moveIteration pos

theorem moveLoop (h : Blind ω I) (pos : Klappenposition) (n : Nat) : Stays I ω (moveLoop pos n) :=
  h.rolling.moveLoop pos n

theorem startMove (h : Blind ω I) : Stays I ω startMove := by
  refine .bind (.modify fun w hw => h.emit w _ rfl hw) fun _ => ?_
  refine .bind (h.digitalRead _) fun _ => .bind (h.digitalRead _) fun _ => ?_
  exact .bind (.modify fun w hw => h.emit w _ rfl hw) fun _ => h.modifyDoor fun _ _ => rfl

theorem finishMove (h : Blind ω I) : Stays I ω finishMove := by
  refine .bind (h.modifyDoor fun d he => ?_) fun _ => .bind (h.digitalWrite _ _) fun _ => ?_
  · -- the flag is cleared or kept
    dsimp only at he ⊢
    split at he
    · cases he
    · next hc => exact if_neg hc
  refine .bind (h.digitalWrite _ _) fun _ => ?_
  refine .bind (.modify fun w hw => h.emit w _ rfl hw) fun _ => ?_
  refine .get_bind fun _ => .bind (h.modifyDoor fun _ _ => rfl) fun _ => ?_
  refine .bind (.modify fun w hw => h.store w _ _ rfl hw) fun _ => .get_bind fun _ => ?_
  refine .bind (.modify fun w hw => h.store w _ _ rfl hw) fun _ => .get_bind fun _ => ?_
  exact .when (.modify fun w hw => h.store w _ _ rfl hw)

/-- Everything up to the status check. -/
theorem move (h : Blind ω I) (pos : Klappenposition) (n : Nat) {m : Fw Unit} (hm : Stays I ω m) :
    Stays I ω (do Native.startMove; Native.moveLoop pos n; Native.finishMove; m) :=
  .bind h.startMove fun _ => .bind (h.moveLoop pos n) fun _ => .bind h.finishMove fun _ => hm

end Blind

end Eggvault.Spec
