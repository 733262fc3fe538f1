import Eggvault.Spec.EditCorrect
import Eggvault.Spec.MoveCorrect

/-!
# The last end position

`moveMotor` copies the position at the end of its loop to `lastDoorPosition`, and `statusabfrage`
uses the copy when it finds the door in between.  What the end switches showed is on record, so
that the copy can be compared with the end position that was last seen.

## Key results

- `Drove.stood`: a move that is not cut short between the ends stops where it was last seen
- `last_position_kept`: the copy is the last end position seen, and it decides the direction
- `last_position_lost`: a move that is interrupted on its way overwrites the copy
-/

namespace Eggvault.Spec

open Eggvault.Native Prog Trace TimeLib

/-! ## What the end switches showed -/

/-- The last reading of the end switches by a move since the boot. -/
def lastReading (tr : List Event) : Option (Bool × Bool) :=
  (tr.findSome? fun
    | .endSwitches up low => some (some (up, low))
    | .booted _ => some none
    | _ => none).getD none

/-- The end position that a move or its start saw last since the boot. -/
def lastStood (tr : List Event) : Option Klappenposition :=
  (tr.findSome? fun
    | .endSwitches true true => some (some .posUp)
    | .endSwitches false false => some (some .posDown)
    | .booted _ => some none
    | _ => none).getD none

/-- The direction at the end of the last iteration. -/
def lastDirection (tr : List Event) : Klappenrichtung :=
  (tr.findSome? fun
    | .motorIteration dir => some dir
    | _ => none).getD .standing

/-- The last reading shows the door at an end, and the motor is not in its run-on. -/
def atEnd (tr : List Event) : Bool :=
  match lastReading tr with
  | some (true, true) => true
  | some (false, false) => decide (lastDirection tr ≠ .finishingDown)
  | _ => false

/-- The loop of a move has reached its goal, or a button has ended it at an end position. -/
def stopsAtEnd (tr : List Event) : Bool := !leftEarly tr || (leftByButton tr && atEnd tr)

/-- The last move that has ended did so at its goal or at an end position. -/
def lastAtEnd : List Event → Bool
  | [] => false
  | .motorStop :: tr => stopsAtEnd tr
  | _ :: tr => lastAtEnd tr

/-- A move has ended since the boot, and none is under way. -/
def atRest (tr : List Event) : Bool :=
  (tr.findSome? fun
    | .booted _ | .call .moveMotor _ => some false
    | .motorStop => some true
    | _ => none).getD false

/-- Whenever a pass is made after a move that has settled, `lastDoorPosition` is the end position
    that was last seen; a door in between is sent away from it. -/
def HeadingKept (tr : List Event) : Prop :=
  ∀ pos a m tl, tr = .call (.setNextAlarm pos a) m :: tl → atRest tl = true →
    lastAtEnd tl = true → lastStood tl = some m.door.lastDoorPosition ∧
      (m.door.doorPosition = .posDriving →
        pos = if lastStood tl = some .posDown then .posUp else .posDown)

section Readings

variable {w : World} {tr : List Event}

theorem lastReading_observe (s : Sample) : lastReading (w.observe s).trace = lastReading w.trace :=
  observe_keeps (P := fun tr => lastReading tr = lastReading w.trace) (fun _ h => h) rfl

theorem lastReading_write (v b : Bool) (tr : List Event) :
    lastReading (.motorWrite v b :: tr) = lastReading tr := rfl

theorem atRest_observe (s : Sample) : atRest (w.observe s).trace = atRest w.trace :=
  observe_keeps (P := fun tr => atRest tr = atRest w.trace) (fun _ h => h) rfl

theorem atRest_write (v b : Bool) (tr : List Event) :
    atRest (.motorWrite v b :: tr) = atRest tr := rfl

/-- A reading at an end is the last end position seen. -/
theorem lastStood_of_lastReading {b : Bool} (h : lastReading tr = some (b, b)) :
    lastStood tr = some (if b then .posUp else .posDown) := by
  induction tr with
  | nil => cases h
  | cons e tr ih =>
    cases e with
    | endSwitches up low =>
      have heq : (up, low) = (b, b) := Option.some.inj h
      cases heq
      cases b <;> rfl
    | booted cause => cases h
    | _ => exact ih h

end Readings

/-! ## What a move makes of its readings -/

/-- The position that an iteration derives from its reading, and from the position before it. -/
def Placed (up low : Bool) (old : Klappenposition) (d : Door) : Prop :=
  match up, low with
  | true, true => d.doorPosition = .posUp
  | true, false => d.doorPosition = .posDriving
  | false, true => d.doorPosition = .posBlocked
  -- during the run-on the position stays what it was
  | false, false => d.doorPosition = .posDown ∨
      (d.doorPosition = old ∧ d.doorDirection = .finishingDown)

section Iterations

variable {ω : Env} {w : World} {pos : Klappenposition}

/-- What is on record about the reading and about the move under way. -/
def SameRecord (tr : List Event) (w : World) : Prop :=
  lastReading w.trace = lastReading tr ∧ atRest w.trace = atRest tr

theorem sensorBranch_placed (up low : Bool) :
    wp (sensorBranch pos up low) ⟨fun _ w' => Placed up low w.door.doorPosition w'.door ∧
      SameRecord w.trace w', fun _ => False, fun _ => False⟩ ω w := by
  cases up <;> cases low
  · by_cases hd : w.door.doorDirection = .movingDown
    · simp [sensorBranch, atBottom, hd, Placed, SameRecord, lastReading_observe, atRest_observe,
        observe_door]
    · by_cases hf : w.door.doorDirection = .finishingDown
      · simp [sensorBranch, atBottom, hf, Placed, SameRecord, lastReading_observe, atRest_observe,
          observe_door]
      · simp [sensorBranch, atBottom, hd, hf, Placed, SameRecord, lastReading_observe,
          atRest_observe, lastReading_write, atRest_write, observe_door]
  · simp [sensorBranch, atBlocked, startDrive, Placed, SameRecord, lastReading_observe,
      atRest_observe, lastReading_write, atRest_write, observe_door]
  · simp [sensorBranch, atDriving, startDrive, Placed, SameRecord, lastReading_observe,
      atRest_observe, lastReading_write, atRest_write, observe_door]
  · simp [sensorBranch, atTop, Placed, SameRecord, lastReading_observe,
      atRest_observe, lastReading_write, atRest_write, observe_door]

/-- The timer checks leave the door alone, or leave it blocked with an error on record. -/
theorem timerChecks_placed :
    wp timerChecks ⟨fun expired w' => SameRecord w.trace w' ∧
      if expired then w'.door.doorPosition = .posBlocked ∧ leftByButton w'.trace = false
      else w'.door = w.door, fun _ => False, fun _ => False⟩ ω w := by
  have hraised : ∀ e tr, leftByButton (.raised e :: tr) = false := fun _ _ => rfl
  have hreading : ∀ e tr, lastReading (.raised e :: tr) = lastReading tr := fun _ _ => rfl
  have hrest : ∀ e tr, atRest (.raised e :: tr) = atRest tr := fun _ _ => rfl
  simp [timerChecks, limitExceeded, SameRecord, lastReading_observe, atRest_observe, hraised, hreading,
    hrest, observe_door]

theorem buttonBreak_placed :
    wp buttonBreak ⟨fun _ w' => SameRecord w.trace w' ∧ w'.door = w.door, fun _ => False,
      fun _ => False⟩ ω w := by
  have hreading : ∀ tr, lastReading (.buttonBreak :: tr) = lastReading tr := fun _ => rfl
  have hrest : ∀ tr, atRest (.buttonBreak :: tr) = atRest tr := fun _ => rfl
  simp [buttonBreak, buttonCheck, SameRecord, lastReading_observe, atRest_observe, hreading, hrest,
    observe_door]

/-- What an iteration from `w` has made of its reading. -/
structure Sighted (w w' : World) : Prop where
  direction : lastDirection w'.trace = w'.door.doorDirection
  rest : atRest w'.trace = atRest w.trace
  placed : (∃ up low, lastReading w'.trace = some (up, low) ∧
      Placed up low w.door.doorPosition w'.door) ∨
    (w'.door.doorPosition = .posBlocked ∧ leftByButton w'.trace = false)

theorem moveIteration_sighted (pos : Klappenposition) :
    wp (moveIteration pos) ⟨fun _ => Sighted w, fun _ => False, fun _ => False⟩ ω w := by
  let up := (ω w.tick).endUp
  let low := (ω (w.tick + 1)).endLow
  have hrest : atRest (switchesRead ω pos w).trace = atRest w.trace :=
    (atRest_observe _).trans (atRest_observe _)
  refine wp_moveIteration (T := fun expired w₂ => SameRecord (switchesRead ω pos w).trace w₂ ∧
      if expired then w₂.door.doorPosition = .posBlocked ∧ leftByButton w₂.trace = false
      else Placed up low w.door.doorPosition w₂.door)
    (sensorBranch_placed up low) (fun w₁ h₁ => ?_) (fun w₂ h₂ => ?_) (fun w₂ h₂ => ?_)
  · apply wp_of_returns timerChecks_placed
    rintro expired w₂ ⟨hrec, hdoor⟩
    refine ⟨⟨hrec.1.trans h₁.2.1, hrec.2.trans h₁.2.2⟩, ?_⟩
    cases expired with
    | true => exact hdoor
    | false =>
      have hsame : w₂.door = w₁.door := hdoor
      rw [if_neg (by decide), hsame]
      exact h₁.1
  · exact ⟨rfl, h₂.1.2.trans hrest, .inr h₂.2⟩
  · apply wp_of_returns buttonBreak_placed
    rintro pressed w₃ ⟨hrec, hdoor⟩
    refine ⟨rfl, (hrec.2.trans h₂.1.2).trans hrest, .inl ⟨up, low, hrec.1.trans h₂.1.1, ?_⟩⟩
    show Placed up low w.door.doorPosition w₃.door
    rw [hdoor]
    exact h₂.2

/-- The start of a move, by its reading. -/
theorem startMove_sighted :
    wp startMove ⟨fun _ w' => atRest w'.trace = false ∧
      lastReading w'.trace = some ((ω w.tick).endUp, (ω (w.tick + 1)).endLow), fun _ => False,
      fun _ => False⟩ ω w := by
  simp only [startMove, wp_bind, wp_call, wp_digitalRead, wp_emit, wp_modifyDoor]
  exact ⟨(atRest_observe _).trans (atRest_observe _), rfl⟩

/-- An end position that an iteration has assigned is the one that was seen. -/
theorem Sighted.stood {w' : World} (h : Sighted w w') (hpos : pos = .posUp ∨ pos = .posDown)
    (hold : w.door.doorPosition ≠ pos) (hp : w'.door.doorPosition = pos) :
    lastStood w'.trace = some pos := by
  rcases h.placed with ⟨up, low, hread, hplaced⟩ | ⟨hblocked, -⟩
  · unfold Placed at hplaced
    split at hplaced
    · rw [← hp, hplaced]
      exact lastStood_of_lastReading hread
    · rw [hp] at hplaced
      rcases hpos with rfl | rfl <;> cases hplaced
    · rw [hp] at hplaced
      rcases hpos with rfl | rfl <;> cases hplaced
    · rcases hplaced with hdown | ⟨hsame, -⟩
      · rw [← hp, hdown]
        exact lastStood_of_lastReading hread
      · exact absurd (hsame.symm.trans hp) hold
  · rw [hp] at hblocked
    rcases hpos with rfl | rfl <;> cases hblocked

/-- A button that ends an iteration with the door at an end leaves the position that was seen. -/
theorem Sighted.stood_of_atEnd {w' : World} (h : Sighted w w') (hb : leftByButton w'.trace = true)
    (he : atEnd w'.trace = true) : lastStood w'.trace = some w'.door.doorPosition := by
  rcases h.placed with ⟨up, low, hread, hplaced⟩ | ⟨-, hbutton⟩
  · unfold atEnd at he
    rw [hread] at he
    unfold Placed at hplaced
    split at hplaced
    · rw [hplaced]
      exact lastStood_of_lastReading hread
    · cases he
    · cases he
    · rcases hplaced with hdown | ⟨-, hfinishing⟩
      · rw [hdown]
        exact lastStood_of_lastReading hread
      · -- the run-on is excluded
        rw [h.direction, hfinishing] at he
        cases he
  · rw [hbutton] at hb
    cases hb

end Iterations

/-! ## Whole moves -/

section Moves

variable {ω : Env} {w w₀ : World} {pos : Klappenposition}

/-- While a move is under way nothing is at rest. -/
theorem Driving.rest (h : Driving ω pos w₀ w) : atRest w.trace = false := by
  induction h with
  | start w₁ hrun => exact (wp_run startMove_sighted hrun).1
  | next w₁ w₂ _ _ hrun ih => exact (wp_run (moveIteration_sighted pos) hrun).rest.trans ih

/-- A door at the goal of its move has just been seen there. -/
theorem Driving.stood (h : Driving ω pos w₀ w) (hpos : pos = .posUp ∨ pos = .posDown)
    (hp : w.door.doorPosition = pos) : lastStood w.trace = some pos := by
  cases h with
  | start _ hrun =>
    have hread := (wp_run startMove_sighted hrun).2
    have hstart := (wp_run startMove_started hrun).position.symm.trans hp
    unfold startPosition at hstart
    cases hup : (ω w₀.tick).endUp <;> cases hlow : (ω (w₀.tick + 1)).endLow <;>
      rw [hup, hlow] at hread hstart
    · rw [← hstart]
      exact lastStood_of_lastReading hread
    · rcases hpos with rfl | rfl <;> cases hstart
    · rcases hpos with rfl | rfl <;> cases hstart
    · rw [← hstart]
      exact lastStood_of_lastReading hread
  | next w₁ _ _ hne hrun => exact (wp_run (moveIteration_sighted pos) hrun).stood hpos hne hp

/-- A move that has reached its goal, or that a button has ended at an end position, stops
    where the door was last seen. -/
theorem Drove.stood (h : Drove ω pos w₀ w) (hpos : pos = .posUp ∨ pos = .posDown)
    (hs : stopsAtEnd w.trace = true) : lastStood w.trace = some w.door.doorPosition := by
  cases h with
  | goal _ hd hp =>
    rw [hp]
    exact hd.stood hpos hp
  | left w₁ _ hd hp hrun =>
    have hearly : leftEarly w.trace = true := wp_run (moveIteration_left pos) hrun
    have hbutton : leftByButton w.trace = true ∧ atEnd w.trace = true := by
      simpa [stopsAtEnd, hearly] using hs
    exact (wp_run (moveIteration_sighted pos) hrun).stood_of_atEnd hbutton.1 hbutton.2

/-- The end of a move: the position is copied, and the stop is recorded. -/
theorem finishMove_copies :
    wp finishMove (returns fun w' => w'.door.lastDoorPosition = w.door.doorPosition ∧
      w'.trace = .motorStop :: .motorWrite false false :: .motorWrite false w.pins.back :: w.trace)
      ω w := by
  simp only [finishMove, wp_bind, wp_modifyDoor, wp_digitalWrite_mFwd, wp_digitalWrite_mBack, wp_emit,
    wp_get, wp_memoryPut, wp_when]
  exact ⟨fun _ => ⟨rfl, rfl⟩, fun _ => ⟨rfl, rfl⟩⟩

end Moves

/-! ## The copy over whole runs -/

/-- `lastDoorPosition` is the end position that was last seen, whenever the last move has settled. -/
structure Remembers (w : World) : Prop where
  passes : Historically HeadingKept w.trace
  last : atRest w.trace = true → lastAtEnd w.trace = true →
    lastStood w.trace = some w.door.lastDoorPosition

/-- The event says nothing about moves and passes. -/
def isCalm : Event → Bool
  | .booted _ | .motorStop | .endSwitches _ _ => false
  | .call .moveMotor _ | .call (.setNextAlarm _ _) _ => false
  | _ => true

section Remembers

variable {w w' w₁ : World} {tr tr' : List Event}

theorem headingKept_cons {e : Event} (he : ∀ pos a m, e ≠ .call (.setNextAlarm pos a) m)
    (h : Historically HeadingKept tr) : Historically HeadingKept (e :: tr) := by
  refine historically_cons.mpr ⟨fun pos a m tl heq => ?_, h⟩
  obtain ⟨hhead, -⟩ := List.cons.inj heq
  exact absurd hhead (he pos a m)

theorem headingKept_calm {e : Event} (he : isCalm e = true) (h : Historically HeadingKept tr) :
    Historically HeadingKept (e :: tr) := by
  apply headingKept_cons _ h
  intro pos a m heq
  rw [heq] at he
  cases he

/-- What is on record about moves. -/
def moveRecord (tr : List Event) : Bool × Bool × Option Klappenposition :=
  (atRest tr, lastAtEnd tr, lastStood tr)

theorem moveRecord_calm {e : Event} (he : isCalm e = true) :
    moveRecord (e :: tr) = moveRecord tr := by
  cases e with
  | call f m => cases f <;> first | rfl | cases he
  | _ => first | rfl | cases he

theorem Remembers.of_record (hI : Remembers w) (hpass : Historically HeadingKept w'.trace)
    (hrec : moveRecord w'.trace = moveRecord w.trace)
    (hdoor : w'.door.lastDoorPosition = w.door.lastDoorPosition) : Remembers w' := by
  obtain ⟨hrest, hend, hstood⟩ : atRest w'.trace = atRest w.trace ∧
      lastAtEnd w'.trace = lastAtEnd w.trace ∧ lastStood w'.trace = lastStood w.trace := by
    simpa [moveRecord] using hrec
  refine ⟨hpass, ?_⟩
  rw [hrest, hend, hstood, hdoor]
  exact hI.last

/-- Calm events keep the invariant. -/
theorem Remembers.of_calm (hI : Remembers w) (htrace : Extends isCalm w.trace w'.trace)
    (hdoor : w'.door.lastDoorPosition = w.door.lastDoorPosition) : Remembers w' := by
  apply hI.of_record _ _ hdoor
  · exact htrace.keeps (fun _ _ he h => headingKept_calm he h) hI.passes
  · exact htrace.keeps (P := fun tr => moveRecord tr = moveRecord w.trace)
      (fun _ _ he h => (moveRecord_calm he).trans h) rfl

/-- The call of a scheduler finds what the invariant says. -/
theorem Remembers.called (hI : Remembers w) {pos : Klappenposition} (a : DoorDayAlarm)
    (hpos : pos = heading w.door) : Remembers (w.called (.setNextAlarm pos a)) := by
  refine hI.of_record (historically_cons.mpr ⟨?_, hI.passes⟩) rfl rfl
  intro pos' a' m tl heq hrest hend
  obtain ⟨hhead, rfl⟩ := List.cons.inj heq
  cases hhead
  have hlast := hI.last hrest hend
  refine ⟨hlast, fun hdriving => ?_⟩
  have hd : w.door.doorPosition = .posDriving := hdriving
  rw [hpos, heading, hd, hlast]
  simp

/-- Nothing that happens outside of status checks and moves matters. -/
theorem Remembers.of_elsewhere (hI : Remembers w) (he : Elsewhere w w') : Remembers w' := by
  obtain ⟨⟨e, hdoor⟩, htrace⟩ := he
  refine hI.of_calm (htrace.mono fun e he => ?_) ?_
  · cases e with
    | call f m => cases f <;> first | rfl | cases he
    | _ => first | rfl | cases he
  · rw [hdoor]

variable {ω : Env}

/-- What a pass does about light says nothing about moves. -/
theorem Lights.calm {pos : Klappenposition} {light : Bool} (h : Lights ω pos light w w') :
    Extends isCalm w.trace w'.trace := by
  have harmed : ∀ timer, Extends isCalm w.trace (withLight w timer).trace := fun _ => .single _ rfl
  cases h with
  | off => exact .refl _
  | waiting => exact harmed _
  | armed => exact harmed _
  | measured => exact (extends_observe (harmed w.timer) (fun _ => rfl) _).cons rfl

/-- A move makes no pass. -/
theorem blind_headingKept (ω : Env) : Blind ω fun w => Historically HeadingKept w.trace where
  observe := fun w h => observe_keeps (P := Historically HeadingKept)
    (fun _ h => headingKept_calm rfl h) h
  door := fun _ _ _ h => h
  pins := fun _ _ h => h
  emit := by
    intro w e he h
    apply headingKept_cons _ h
    intro pos a m heq
    rw [heq] at he
    cases he
  store := fun _ _ _ _ h => h

/-- A pass that has begun keeps the invariant. -/
theorem Remembers.of_silent (hI : Remembers w) {pos : Klappenposition} {a : DoorDayAlarm}
    (hpos : pos = heading w.door) (hs : Silent pos a w w₁) (hdoor : w₁.door = w.door) :
    Remembers w₁ := by
  refine (hI.called a hpos).of_calm (hs.trace.mono fun e he => ?_) (congrArg _ hdoor)
  cases e <;> first | rfl | cases he

/-- The end of a move that has settled copies the end position that was last seen. -/
theorem Drove.remembers {w₀ : World} {pos : Klappenposition} (h : Drove ω pos w₀ w)
    (hpos : pos = .posUp ∨ pos = .posDown) (hrun : finishMove ω w = .done () w')
    (hI : Remembers w) : Remembers w' := by
  obtain ⟨hcopy, htrace⟩ := wp_run finishMove_copies hrun
  refine ⟨wp_run ((blind_headingKept ω).finishMove w hI.passes) hrun, fun _ hend => ?_⟩
  rw [htrace] at hend ⊢
  have hstops : stopsAtEnd w.trace = true := hend
  show lastStood w.trace = _
  rw [hcopy]
  exact h.stood hpos hstops

variable [TimeLib]

/-- A status check or a move keeps the invariant. -/
theorem Work.remembers (h : Work ω w w') (hI : Remembers w) : Remembers w' := by
  have hb := blind_headingKept ω
  -- in a move only the passes before it are remembered
  have hmoving : ∀ {w'}, Historically HeadingKept w'.trace → atRest w'.trace = false →
      Remembers w' := by
    intro w' hpass hrest
    refine ⟨hpass, fun hrest' => ?_⟩
    rw [hrest] at hrest'
    cases hrest'
  cases h with
  | read => exact hI.of_calm (extends_observe (.refl _) (fun _ => rfl) _) rfl
  | led => exact { hI with }
  | startMove _ hrun =>
    exact hmoving (wp_run (hb.startMove w hI.passes) hrun) (wp_run startMove_sighted hrun).1
  | iterate _ w₀ pos again hpos hd hp hrun =>
    have hrest := (wp_run (moveIteration_sighted pos) hrun).rest
    exact hmoving (wp_run (hb.moveIteration pos w hI.passes) hrun) (hrest.trans hd.rest)
  | finishMove _ w₀ pos hpos hm hrun =>
    -- the end of the move stores where it has led
    exact hm.remembers hpos hrun hI
  | look =>
    have hread : Extends isCalm w.trace (w.observe (ω w.tick)).trace :=
      extends_observe (.refl _) (fun _ => rfl) _
    exact hI.of_calm (extends_observe hread (fun _ => rfl) _) rfl
  | report => exact hI.of_calm (.single _ rfl) rfl
  | accept => exact hI.of_calm (.single _ rfl) rfl
  | pass _ pos a mode hp =>
    obtain ⟨w₁, h₁, hl⟩ := hp.carried
    have hbegun := hI.of_silent hp.direction h₁.silent h₁.door
    refine hbegun.of_calm hl.calm ?_
    rw [hp.frame.1, h₁.door]
  | stray _ pos hpos _ _ hs => exact hI.of_silent hpos hs.silent hs.door
  | lose => exact hI.of_calm ((Extends.single _ rfl).cons rfl) rfl
  | sleep =>
    have hcall : Extends isCalm w.trace (w.called .prepForDeepSleep).trace := .single _ rfl
    exact hI.of_calm (extends_observe hcall (fun _ => rfl) _) rfl

/-- Every action keeps the invariant. -/
theorem WakeAct.remembers (h : WakeAct ω w w') (hI : Remembers w) : Remembers w' := by
  rcases h.split with hw | rfl | he
  · exact hw.remembers hI
  · -- a boot forgets all moves
    exact ⟨headingKept_cons (by simp) hI.passes, fun hrest => Bool.noConfusion hrest⟩
  · exact hI.of_elsewhere he

theorem Act.remembers (h : Act ω w w') (hI : Remembers w) : Remembers w' := by
  rcases h.split with hw | he
  · exact hw.remembers hI
  · exact hI.of_elsewhere he

end Remembers

/-- In every run, whenever the last move since the boot has reached its goal or was ended by a
    button with the door at an end position, `lastDoorPosition` is the end position that was last
    seen, and every pass that finds the door in between sends it away from there. -/
theorem last_position_kept [TimeLib] {ω : Env} {w₀ w : World} {p : Phase}
    (hr : LossyRun ω w₀ (p, w)) :
    Historically HeadingKept w.trace ∧ (p = .awake → atRest w.trace = true →
      lastAtEnd w.trace = true → lastStood w.trace = some w.door.lastDoorPosition) := by
  have hrun := LossyRun.historically (C := fun _ => True) (P := HeadingKept) (I := Remembers)
    (J := Remembers) hr (fun _ _ ha _ hI => ha.remembers hI) (fun _ _ ha _ hI => ha.remembers hI)
    (fun _ _ _ _ h => nomatch h) (fun _ _ _ _ _ _ h => nomatch h) ?_
    (fun _ hI _ => { hI with }) (fun _ hI _ => hI) (fun _ hI => hI.passes) (fun _ hI => hI.passes)
    (fun _ _ => trivial)
  · exact ⟨hrun.1, fun ha => (hrun.2 ha).last⟩
  · intro w₁ w₂ htr _ hboot
    refine ⟨headingKept_cons (by simp) ?_, fun hrest => Bool.noConfusion hrest⟩
    refine hboot.keeps (fun e tr he htr => ?_) (fun m tr _ htr => headingKept_calm rfl htr) htr
    cases e with
    | alarmFired t => exact headingKept_calm rfl htr
    | _ => cases he

/-- RIGHT on the start screen orders a move down, where the door is already; LEFT a move up, which
    SELECT ends when the door has left the bottom. -/
def halfwayEnv : Env :=
  pressing [(18, .right), (51, .left), (82, .select)] fun n =>
    { endUp := decide (75 ≤ n), millis := UInt32.ofNat n * 1000 }

/-- The device after its power-on and the move down. -/
def bottomed : Reached halfwayEnv { nvs := readyNvs } .awake :=
  Reached.loops (.powerOn 12 (by decide +kernel)) 12 2 (by decide +kernel)

/-- The device after the move up. -/
def halfway : Reached halfwayEnv { nvs := readyNvs } .awake := bottomed.loops 12 2 (by decide +kernel)

theorem last_position_kept_bottomed :
    bottomed.world.door.lastDoorPosition = .posDown ∧
      lastStood bottomed.world.trace = some bottomed.world.door.lastDoorPosition := by
  have hkept := (last_position_kept bottomed.powered.lossy).2 rfl
  exact ⟨by decide +kernel, hkept (by decide +kernel) (by decide +kernel)⟩

/-- Some move since the boot has ended at its goal or at an end position. -/
def stoodOnce : List Event → Bool
  | [] => false
  | .booted _ :: _ => false
  | .motorStop :: tr => stopsAtEnd tr || stoodOnce tr
  | _ :: tr => stoodOnce tr

/-- A pass with the door in between that sends it back to where it last stood. -/
def misled : List Event → Bool
  | .call (.setNextAlarm .posDown _) m :: tl =>
    stoodOnce tl && atRest tl && decide (lastStood tl = some .posDown) &&
      decide (m.door.doorPosition = .posDriving)
  | _ => false

/-- The move up overwrites the copy: the door last stood below, and the next closing is scheduled. -/
theorem last_position_lost :
    ¬ ∀ (ω : Env) (w₀ w : World) (p : Phase), LossyRun ω w₀ (p, w) →
      ∀ pos a m tl, .call (.setNextAlarm pos a) m :: tl <:+ w.trace → stoodOnce tl = true →
        atRest tl = true → lastStood tl = some m.door.lastDoorPosition ∧
          (m.door.doorPosition = .posDriving →
            pos = if lastStood tl = some .posDown then .posUp else .posDown) := by
  intro h
  have hany : halfway.world.trace.tails.any misled = true := by decide +kernel
  obtain ⟨tr, hmem, hmis⟩ := List.any_eq_true.mp hany
  have hsuffix : tr <:+ halfway.world.trace := (List.mem_tails _ _).mp hmem
  unfold misled at hmis
  split at hmis
  · next a m tl =>
    obtain ⟨⟨⟨hstood, hrest⟩, hlast⟩, hdriving⟩ : ((stoodOnce tl = true ∧ atRest tl = true) ∧
        lastStood tl = some .posDown) ∧ m.door.doorPosition = .posDriving := by
      simpa using hmis
    have hdir := (h _ _ _ _ halfway.powered.lossy _ _ _ _ hsuffix hstood hrest).2 hdriving
    rw [if_pos hlast] at hdir
    cases hdir
  · cases hmis

end Eggvault.Spec
