import Eggvault.ForStd.MachineInt
import Eggvault.Spec.ErrorCorrect
import Eggvault.Spec.SetupCorrect
import Eggvault.Spec.TravelCorrect

/-!
# A door in order

The loop of `moveMotor` together with the door that it drives: a height between two end stops,
which the motor lines raise and lower and which the end switches report.  `InOrder` says what
such a door and the clock do during the rounds of a move.

## Key results

- `no_limit_exceeded`: no round of a move with a door in order exceeds a time limit
- `goal_reached`: such a move ends at its goal, if no button interrupts it
- `never_errs`: in a run whose moves all drive a door in order no error is ever set
-/

namespace Eggvault.Spec

open Eggvault.Native Prog Trace

/-! ## The door -/

section Plant

variable {H : Nat} {x x' : Fin (H + 1)}

/-- What the end switches report of a door at height `x`, upper one first. -/
def sense (x : Fin (H + 1)) : Bool × Bool := (decide (0 < x.val), decide (x.val = H))

/-- A door is raised or lowered by the levels of M_FWD and M_BACK, until it meets an end stop. -/
def Moves (levels : Bool × Bool) (x x' : Fin (H + 1)) : Prop :=
  match levels with
  | (true, false) => x ≤ x' ∧ (x.val < H → x < x')
  | (false, true) => x' ≤ x ∧ (0 < x.val → x' < x)
  | _ => x' = x

theorem sense_ne_blocked (hH : 0 < H) (x : Fin (H + 1)) : sense x ≠ (false, true) := by
  intro h
  simp only [sense, Prod.mk.injEq, decide_eq_false_iff_not, decide_eq_true_eq] at h
  omega

theorem sense_eq_top (hH : 0 < H) : sense x = (true, true) ↔ x.val = H := by
  simp only [sense, Prod.mk.injEq, decide_eq_true_eq]
  omega

theorem sense_eq_bottom (hH : 0 < H) : sense x = (false, false) ↔ x.val = 0 := by
  simp only [sense, Prod.mk.injEq, decide_eq_false_iff_not]
  omega

/-- A door that is driven up rises, unless it is at the top. -/
theorem Moves.rises (h : Moves (true, false) x x') (hx : x.val ≠ H) : x.val + 1 ≤ x'.val := by
  have hlt := x.isLt
  exact h.2 (by omega)

/-- A door that is driven down sinks, unless it is at the bottom. -/
theorem Moves.sinks (h : Moves (false, true) x x') (hx : x.val ≠ 0) : x'.val + 1 ≤ x.val :=
  h.2 (by omega)

theorem Moves.stays_down (h : Moves (false, true) x x') (hx : x.val = 0) : x'.val = 0 := by
  have hle : x'.val ≤ x.val := h.1
  omega

end Plant

/-! ## A move of that door -/

/-- The door and the clock during the rounds of a move to `pos` from `w₀` that `tr` records: `x` is
    the height of the door and `T` the time in milliseconds at each reading, of which `millis`
    shows the low 32 bits.  A door that moves on with every round has come all the way in `H`
    rounds, and `H + 1` of them are over within the 150 seconds of a travel limit. -/
structure InOrder (ω : Env) {H : Nat} (x : Nat → Fin (H + 1)) (T : Nat → Nat)
    (pos : Klappenposition) (w₀ : World) (tr : List Event) : Prop where
  seen : ∀ ws again u v, Rounds ω pos w₀ (u :: ws) again v → v.trace <:+ tr →
    reading ω u = sense (x u.tick)
  driven : ∀ ws again u v, Rounds ω pos w₀ (u :: ws) again v → v.trace <:+ tr →
    Moves (lines v) (x u.tick) (x v.tick)
  shows : ∀ ws again v, Rounds ω pos w₀ ws again v → v.trace <:+ tr →
    ∀ k, w₀.tick ≤ k → k ≤ v.tick → (ω k).millis = UInt32.ofNat (T k)
  mono : ∀ ws again v, Rounds ω pos w₀ ws again v → v.trace <:+ tr →
    ∀ j k, w₀.tick ≤ j → j ≤ k → k ≤ v.tick → T j ≤ T k
  prompt : ∀ ws again v, Rounds ω pos w₀ ws again v → v.trace <:+ tr → ws.length ≤ H + 1 →
    T v.tick ≤ T w₀.tick + 150000

section Round

variable {ω : Env} {pos : Klappenposition} {w₀ u v : World} {ws : List World} {again : Bool}
  {t : Nat} {r : Bool × Bool} {d : Door}

/-- Only a reading of a blocked door leads to the position of one. -/
theorem sensedDoor_unblocked (hr : r ≠ (false, true)) (hd : d.doorPosition ≠ .posBlocked) :
    (sensedDoor ω pos t r d).doorPosition ≠ .posBlocked := by
  have hfinish : (finished ω t d).doorPosition ≠ .posBlocked := by
    unfold finished
    split
    · exact fun hf => by cases hf
    · exact hd
  obtain ⟨up, low⟩ := r
  cases up <;> cases low <;> cases hdir : d.doorDirection <;> simp_all [sensedDoor]

/-- A motor that goes down runs on at the bottom only. -/
theorem sensedDoor_descends (hr : r ≠ (false, true)) (hd : d.doorDirection ≠ .movingUp)
    (hp : (sensedDoor ω .posDown t r d).doorPosition ≠ .posDown) :
    (r = (false, false) ∧ (sensedDoor ω .posDown t r d).doorDirection = .finishingDown) ∨
      (r ≠ (false, false) ∧ (sensedDoor ω .posDown t r d).doorDirection = .movingDown) := by
  obtain ⟨up, low⟩ := r
  cases up <;> cases low <;> cases hdir : d.doorDirection <;> simp_all [sensedDoor, towards]

/-- Without a blocked door only a motor that drives up or down has a limit. -/
theorem limit_eq_none (hp : (sensed ω pos u).doorPosition ≠ .posBlocked)
    (h : (sensed ω pos u).doorDirection = .movingUp ∨ (sensed ω pos u).doorDirection = .movingDown →
      ¬ (ω (checkTick ω u)).millis - (sensed ω pos u).moveZero > tErrClose * 1000) :
    limit ω pos u = none := by
  unfold limit limitOf
  rw [if_neg fun hb => hp hb.1]
  dsimp only
  rw [if_neg hp, if_neg fun hdown => h (.inr hdown.1) hdown.2, if_neg fun hup => h (.inl hup.1) hup.2]

/-- The travel time of a round is counted from a reading of the clock during the move. -/
theorem Rounds.sensed_moveZero (h : Rounds ω pos w₀ ws true u) (hpos : pos = .posUp ∨ pos = .posDown)
    (hp : u.door.doorPosition ≠ pos) (hr : reading ω u ≠ (false, true)) :
    ∃ k, w₀.tick ≤ k ∧ k ≤ u.tick + 2 ∧ (sensed ω pos u).moveZero = (ω k).millis := by
  have hread : ∀ r, r ≠ (false, true) → (sensedDoor ω pos (u.tick + 2) r u.door).moveZero =
      (ω (u.tick + 2)).millis ∨
        (u.door.doorDirection ≠ .standing ∧
          (sensedDoor ω pos (u.tick + 2) r u.door).moveZero = u.door.moveZero) := by
    intro r hr
    obtain ⟨up, low⟩ := r
    cases up <;> cases low <;> cases hd : u.door.doorDirection <;> simp_all [sensedDoor]
  have htick := h.tick_le
  rcases hread (reading ω u) hr with hnow | ⟨hnot, hkept⟩
  · exact ⟨u.tick + 2, by omega, by omega, hnow⟩
  · cases h.underway hpos hp with
    | standing _ _ hd _ _ _ => exact absurd hd hnot
    | driving _ y ys _ _ hzero _ => exact ⟨w₀.tick + 4, by omega, by omega, hkept.trans hzero⟩

theorem sensedDoor_top (h : reading ω u = (true, true)) :
    (sensed ω pos u).doorPosition = .posUp := by
  unfold sensed
  rw [h]
  cases hd : u.door.doorDirection <;> simp [sensedDoor, hd]

/-- A move to the bottom does not drive up before its end. -/
theorem Rounds.not_up (h : Rounds ω .posDown w₀ ws true u) (hp : u.door.doorPosition ≠ .posDown) :
    u.door.doorDirection ≠ .movingUp := by
  cases h.underway (.inr rfl) hp with
  | standing _ _ hd _ _ _ =>
    rw [hd]
    exact fun hf => by cases hf
  | driving _ _ _ hd _ _ _ =>
    intro hf
    rw [hf] at hd
    cases hd

/-- The loop of a move that goes on. -/
theorem Rounds.driving (h : Rounds ω pos w₀ ws true u) : Driving ω pos w₀ u := by
  induction ws generalizing u with
  | nil =>
    cases h with
    | start _ hrun => exact .start u hrun
  | cons y ys ih =>
    cases h with
    | next _ _ _ _ hr hp hrun => exact .next y u (ih hr) hp hrun

/-- A move that goes on has made its rounds. -/
theorem exists_rounds_of_driving (h : Driving ω pos w₀ u) : ∃ ws, Rounds ω pos w₀ ws true u := by
  induction h with
  | start w hrun => exact ⟨[], .start w hrun⟩
  | next w w' _ hp hrun ih =>
    obtain ⟨ws, hr⟩ := ih
    exact ⟨w :: ws, .next ws w w' true hr hp hrun⟩

/-- A round is recorded, with the goal of its move. -/
theorem moveIteration_enters :
    wp (moveIteration pos) ⟨fun _ w' => .motorEnter pos :: u.trace <:+ w'.trace, fun _ => False,
      fun _ => False⟩ ω u := by
  have hroll : Rolling ω fun w => .motorEnter pos :: u.trace <:+ w.trace :=
    { observe := fun w h => h.trans (suffix_observe w _)
      door := fun _ _ _ _ h => h
      pins := fun _ _ h => h
      emit := fun _ _ _ h => h.trans (List.suffix_cons _ _) }
  have hread : .motorEnter pos :: u.trace <:+ (switchesRead ω pos u).trace :=
    ((suffix_observe { u with trace := .motorEnter pos :: u.trace } _).trans
      (suffix_observe _ _)).trans (List.suffix_cons _ _)
  refine wp_moveIteration (S := fun w => .motorEnter pos :: u.trace <:+ w.trace)
    (T := fun _ w => .motorEnter pos :: u.trace <:+ w.trace) ?_ (fun w₁ h₁ => ?_)
    (fun w₂ h₂ => h₂.trans (List.suffix_cons _ _)) (fun w₂ h₂ => ?_)
  · apply wp_of_run (sensorBranch_sensed pos _ _)
    intro _ w₁ hrun _
    have h₁ := wp_run (hroll.sensorBranch pos _ _ _ hread) hrun
    exact h₁
  · apply wp_of_run timerChecks_checked
    intro _ w₂ hrun _
    have h₂ := wp_run (hroll.timerChecks w₁ h₁) hrun
    exact h₂
  · apply wp_of_run buttonBreak_reads
    intro _ w₃ hrun _
    have h₃ : .motorEnter pos :: u.trace <:+ w₃.trace := wp_run (hroll.buttonBreak w₂ h₂) hrun
    exact h₃.trans (List.suffix_cons _ _)

/-- A round adds to the record. -/
theorem Rounds.suffix (h : Rounds ω pos w₀ (u :: ws) again v) : u.trace <:+ v.trace := by
  cases h with
  | next _ _ _ _ _ _ hrun =>
    exact (wp_run ((Aside.blind ω u).moveIteration pos u (.refl u)) hrun).trace.suffix

/-- The start of the move is recorded, and each of its rounds. -/
theorem Rounds.called (h : Rounds ω pos w₀ ws again v) : (w₀.called .moveMotor).trace <:+ v.trace := by
  induction ws generalizing v again with
  | nil =>
    cases h with
    | start _ hrun => exact (wp_run startMove_called hrun).1
  | cons u ws ih => exact (ih h.turn.1).trans h.suffix

theorem Rounds.entered (h : Rounds ω pos w₀ ws again v) :
    ws.length ≤ v.trace.count (.motorEnter pos) := by
  induction ws generalizing v again with
  | nil => exact Nat.zero_le _
  | cons u ws ih =>
    have hu := ih h.turn.1
    cases h with
    | next _ _ _ _ _ _ hrun =>
      have henter := (wp_run moveIteration_enters hrun).sublist.count_le (.motorEnter pos)
      rw [List.count_cons_self] at henter
      rw [List.length_cons]
      omega

end Round

section InOrder

variable {ω : Env} {H : Nat} {x : Nat → Fin (H + 1)} {T : Nat → Nat} {pos : Klappenposition}
  {w₀ u v : World} {tr : List Event} {ws : List World} {again : Bool}

/-- How far a door in order has come in `n` rounds. -/
structure Nearing (pos : Klappenposition) (n : Nat) (x : Fin (H + 1)) (d : Door) : Prop where
  unblocked : d.doorPosition ≠ .posBlocked
  up : pos = .posUp → n ≤ x.val
  down : pos = .posDown → n = 0 ∨ (d.doorDirection = .movingDown ∧ n + x.val ≤ H) ∨
    (d.doorDirection = .finishingDown ∧ x.val = 0)

/-- With every round the door comes nearer to the goal, until the motor runs on at the bottom. -/
theorem InOrder.nearing (hH : 0 < H) (h : InOrder ω x T pos w₀ tr)
    (hpos : pos = .posUp ∨ pos = .posDown) (hr : Rounds ω pos w₀ ws true v) (hs : v.trace <:+ tr)
    (hp : v.door.doorPosition ≠ pos) : Nearing pos ws.length (x v.tick) v.door := by
  induction ws generalizing v with
  | nil =>
    cases hr with
    | start _ hrun =>
      have hstart := (wp_run startMove_started hrun).position
      refine ⟨?_, fun _ => Nat.zero_le _, fun _ => .inl rfl⟩
      rw [hstart]
      exact startPosition_ne_blocked ω w₀
  | cons u ws ih =>
    obtain ⟨hru, hpu, hturn⟩ := hr.turn
    have hnear := ih hru (hr.suffix.trans hs) hpu
    have hread := h.seen _ _ _ _ hr hs
    have hmoves := h.driven _ _ _ _ hr hs
    have hne : reading ω u ≠ (false, true) := by
      rw [hread]
      exact sense_ne_blocked hH _
    have hdoor := hturn.door_eq
    cases hr.underway hpos hp with
    | driving _ _ _ hd hl _ _ =>
      rw [hl] at hmoves
      have hunblocked : v.door.doorPosition ≠ .posBlocked := by
        rw [hdoor]
        exact sensedDoor_unblocked hne hnear.unblocked
      rcases hpos with rfl | rfl
      · -- a reading of the top would have ended the move
        have hx : (x u.tick).val ≠ H := by
          intro htop
          rw [(sense_eq_top hH).mpr htop] at hread
          apply hp
          rw [hdoor]
          exact sensedDoor_top hread
        have hrises := hmoves.rises hx
        have hle := hnear.up rfl
        exact ⟨hunblocked, fun _ => by rw [List.length_cons]; omega, fun hf => by cases hf⟩
      · refine ⟨hunblocked, fun hf => (by cases hf), fun _ => .inr ?_⟩
        have hdu : u.door.doorDirection ≠ .movingUp := hru.not_up hpu
        rw [hdoor] at hp ⊢
        rcases sensedDoor_descends hne hdu hp with ⟨hbottom, hdir⟩ | ⟨hnot, hdir⟩
        · rw [hread] at hbottom
          exact .inr ⟨hdir, hmoves.stays_down ((sense_eq_bottom hH).mp hbottom)⟩
        · rw [hread] at hnot
          have hx : (x u.tick).val ≠ 0 := fun hf => hnot ((sense_eq_bottom hH).mpr hf)
          have hsinks := hmoves.sinks hx
          have hlt := (x u.tick).isLt
          refine .inl ⟨hdir, ?_⟩
          rw [List.length_cons]
          rcases hnear.down rfl with hzero | ⟨-, hle⟩ | ⟨-, hf⟩
          · omega
          · omega
          · exact absurd hf hx

/-- A motor that drives up or down has made no more rounds than the way is long. -/
theorem InOrder.length_le (hH : 0 < H) (h : InOrder ω x T pos w₀ tr)
    (hpos : pos = .posUp ∨ pos = .posDown) (hr : Rounds ω pos w₀ (u :: ws) again v)
    (hs : v.trace <:+ tr) (hd : (sensed ω pos u).doorDirection ≠ .finishingDown) :
    ws.length ≤ H := by
  obtain ⟨hru, hpu, -⟩ := hr.turn
  have hnear := h.nearing hH hpos hru (hr.suffix.trans hs) hpu
  have hlt := (x u.tick).isLt
  rcases hpos with rfl | rfl
  · have hle := hnear.up rfl
    omega
  · rcases hnear.down rfl with hzero | ⟨-, hle⟩ | ⟨hdir, hx⟩
    · omega
    · omega
    · -- the motor runs on as long as the door is at the bottom
      have hread := h.seen _ _ _ _ hr hs
      rw [(sense_eq_bottom hH).mpr hx] at hread
      exfalso
      apply hd
      unfold sensed
      rw [hread]
      simp [sensedDoor, hdir]

/-- No round of a move with a door in order exceeds a time limit. -/
theorem no_limit_exceeded (hH : 0 < H) (h : InOrder ω x T pos w₀ tr)
    (hpos : pos = .posUp ∨ pos = .posDown) (hr : Rounds ω pos w₀ (u :: ws) again v)
    (hs : v.trace <:+ tr) : limit ω pos u = none := by
  obtain ⟨hru, hpu, hturn⟩ := hr.turn
  have hnear := h.nearing hH hpos hru (hr.suffix.trans hs) hpu
  have hne : reading ω u ≠ (false, true) := by
    rw [h.seen _ _ _ _ hr hs]
    exact sense_ne_blocked hH _
  apply limit_eq_none (sensedDoor_unblocked hne hnear.unblocked)
  intro hmoving
  have hlen : ws.length ≤ H := by
    apply h.length_le hH hpos hr hs
    intro hf
    rw [hf] at hmoving
    rcases hmoving with hc | hc <;> cases hc
  obtain ⟨k, hwk, hku, hzero⟩ := hru.sensed_moveZero hpos hpu hne
  have hprompt := h.prompt _ _ _ hr hs (by rw [List.length_cons]; omega)
  have hcheck : u.tick + 2 ≤ checkTick ω u := Nat.le_add_right _ _
  have hv : checkTick ω u ≤ v.tick := Nat.le_trans (Nat.le_add_right _ _) hturn.tick
  have hwzero := h.mono _ _ _ hr hs w₀.tick k (Nat.le_refl _) hwk (by omega)
  have hage := h.mono _ _ _ hr hs k (checkTick ω u) hwk (by omega) hv
  have hend := h.mono _ _ _ hr hs (checkTick ω u) v.tick (by omega) hv (Nat.le_refl _)
  rw [hzero, h.shows _ _ _ hr hs k hwk (by omega), h.shows _ _ _ hr hs _ (by omega) hv, gt_iff_lt,
    UInt32.lt_iff_toNat_lt, UInt32.toNat_ofNat_sub_ofNat hage (by omega)]
  have hconst : (tErrClose * 1000).toNat = 150000 := by decide
  omega

end InOrder

/-! ## The end of such a move -/

section Goal

variable {ω : Env} {H : Nat} {x : Nat → Fin (H + 1)} {T : Nat → Nat} {pos : Klappenposition}
  {w w' w₀ u v : World} {tr : List Event} {ws : List World} {again : Bool}

/-- A pressed button is recorded. -/
theorem buttonBreak_recorded :
    wp buttonBreak ⟨fun pressed w' => pressed = true → leftByButton w'.trace = true,
      fun _ => False, fun _ => False⟩ ω w := by
  have hcheck : wp buttonCheck ⟨fun _ _ => True, fun _ => False, fun _ => False⟩ ω w := by
    simp [buttonCheck]
  rw [buttonBreak]
  apply wp_then hcheck
  intro pressed w₁ _
  simp only [wp_bind, wp_when, wp_emit, wp_pure]
  exact ⟨fun _ _ => rfl, fun hne hp => absurd hp hne⟩

/-- The loop is left before the goal by a button or with an error. -/
theorem moveIteration_leaves :
    wp (moveIteration pos) ⟨fun again w' => again = false →
      leftByButton w'.trace = true ∨ raises w'.trace ≠ raises w.trace,
      fun _ => False, fun _ => False⟩ ω w := by
  have hread : raises (switchesRead ω pos w).trace = raises w.trace :=
    (raises_observe _).trans (raises_observe _)
  refine wp_moveIteration (S := fun w₁ => raises w₁.trace = raises w.trace)
    (T := fun expired w₂ => expired = true → raises w₂.trace ≠ raises w.trace)
    ?_ (fun w₁ h₁ => ?_) (fun w₂ h₂ _ => .inr (h₂ rfl)) (fun w₂ _ => ?_)
  · apply wp_of_returns (sensorBranch_sensed pos _ _)
    intro _ w₁ h₁
    exact h₁.raises.trans hread
  · apply wp_of_returns timerChecks_checked
    intro expired w₂ h₂ hexp heq
    -- an expired limit is raised
    have hraises := h₂.raises
    rw [h₂.expired] at hexp
    rw [heq, ← h₁] at hraises
    cases hl : limitOf ω w₁.tick w₁.door with
    | none =>
      rw [hl] at hexp
      cases hexp
    | some error =>
      rw [hl] at hraises
      have hlen := congrArg List.length hraises
      simp only [Option.toList_some, List.cons_append, List.nil_append, List.length_cons] at hlen
      omega
  · apply wp_of_returns buttonBreak_recorded
    intro pressed w₃ h₃ hagain
    left
    apply h₃
    simpa using hagain

/-- The levels of the end switches at the goal. -/
def goalReading (pos : Klappenposition) : Bool × Bool := (pos = .posUp, pos = .posUp)

/-- A move that ends at its goal has read the end switches there. -/
theorem Rounds.goal_reading (h : Rounds ω pos w₀ ws again v) (hpos : pos = .posUp ∨ pos = .posDown)
    (hp : v.door.doorPosition = pos) : reading ω (ws.headD w₀) = goalReading pos := by
  rcases hpos with rfl | rfl
  · exact h.atTop hp
  · cases ws with
    | nil =>
      cases h with
      | start _ hrun =>
        have hs := wp_run startMove_started hrun
        exact (startPosition_eq ω w₀).2 (hs.position.symm.trans hp)
    | cons u ws =>
      obtain ⟨-, hpu, hturn⟩ := h.turn
      obtain ⟨-, hdoor⟩ := hturn.unlimited (by rw [hp]; decide)
      rw [hdoor] at hp
      exact (sensedDoor_posDown hp hpu).1

/-- An error of a time limit of a move. -/
def isTimerError : ErrorCode → Bool
  | .timerBlockedElapsed | .timerOpenElapsed | .timerCloseElapsed => true
  | _ => false

/-- The end of a move that has come to an end of the way. -/
theorem finishMove_arrived (hp : w.door.doorPosition ≠ .posBlocked) :
    wp finishMove (returns fun w' => lines w' = (false, false) ∧
      w'.door = { w.door with
        errorFlag := if isTimerError w.door.errorFlag = true then .noError else w.door.errorFlag
        doorDirection := .standing, lastMove := w.clk.tNow
        lastDoorPosition := w.door.doorPosition } ∧
      raises w'.trace = raises w.trace) ω w := by
  have hflag : (if w.door.doorPosition ≠ .posBlocked ∧ (w.door.errorFlag = .timerBlockedElapsed ∨
        w.door.errorFlag = .timerOpenElapsed ∨ w.door.errorFlag = .timerCloseElapsed)
      then ErrorCode.noError else w.door.errorFlag) =
      if isTimerError w.door.errorFlag = true then .noError else w.door.errorFlag := by
    cases w.door.errorFlag <;> simp [hp, isTimerError]
  simp only [finishMove, wp_bind, wp_modifyDoor, wp_digitalWrite_mFwd, wp_digitalWrite_mBack, wp_emit,
    wp_get, wp_memoryPut, wp_when, hflag]
  exact ⟨fun _ => ⟨rfl, rfl, rfl⟩, fun _ => ⟨rfl, rfl, rfl⟩⟩

/-- A move to `pos` that was started in `w` and has come to its goal, up to its status check: the
    motor is off, no error was raised, and an earlier error of a time limit is cleared. -/
structure Arrived (pos : Klappenposition) (w w' : World) : Prop where
  lines : lines w' = (false, false)
  direction : w'.door.doorDirection = .standing
  position : w'.door.doorPosition = pos
  last : w'.door.lastDoorPosition = pos
  errorFlag : w'.door.errorFlag =
    if isTimerError w.door.errorFlag = true then .noError else w.door.errorFlag
  raises : raises w'.trace = raises w.trace

/-- The record of errors is the one that the move was started with. -/
theorem InOrder.raises_eq (hH : 0 < H) (h : InOrder ω x T pos w tr)
    (hpos : pos = .posUp ∨ pos = .posDown) (hr : Rounds ω pos w ws again v) (hs : v.trace <:+ tr) :
    raises v.trace = raises w.trace := by
  induction ws generalizing v again with
  | nil =>
    cases hr with
    | start _ hrun => exact (wp_run startMove_records hrun).2
  | cons u ws ih =>
    obtain ⟨hru, -, hturn⟩ := hr.turn
    have hraises := hturn.raises
    rw [no_limit_exceeded hH h hpos hr hs] at hraises
    exact hraises.trans (ih hru (hr.suffix.trans hs))

/-- A move with a door in order ends at its goal, if no button interrupts it. -/
theorem InOrder.atGoal (hH : 0 < H) (h : InOrder ω x T pos w w'.trace)
    (hpos : pos = .posUp ∨ pos = .posDown) (hrel : ∀ k, w.tick ≤ k → released ω k = true)
    (hr : Rounds ω pos w ws again w') (hend : again = false ∨ w'.door.doorPosition = pos) :
    again = true ∧ w'.door.doorPosition = pos := by
  cases ws with
  | nil =>
    cases hr with
    | start _ hrun =>
      rcases hend with hf | hp
      · cases hf
      · exact ⟨rfl, hp⟩
  | cons u ws =>
    have hnone := no_limit_exceeded hH h hpos hr (List.suffix_refl _)
    have hraises := hr.turn.2.2.raises
    rw [hnone] at hraises
    have hticks := hr.turn.1.tick_le
    cases hr with
    | next _ _ _ _ hru hp hrun =>
      have hrel' : ∀ t, u.tick ≤ t → released ω t = true := fun t ht => hrel t (by omega)
      obtain ⟨hleft, -⟩ := wp_run (moveIteration_released hrel') hrun
      have hagain : again = true := by
        cases again with
        | true => rfl
        | false =>
          rcases wp_run moveIteration_leaves hrun rfl with hbutton | hne
          · rw [hleft] at hbutton
            cases hbutton
          · exact absurd hraises hne
      refine ⟨hagain, ?_⟩
      rcases hend with hf | hgoal
      · rw [hagain] at hf
        cases hf
      · exact hgoal

/-- Where a move ends that has left its loop. -/
theorem arrives {w₁ w₂ : World} (hH : 0 < H) (hpos : pos = .posUp ∨ pos = .posDown)
    (h : ∀ tr, InOrder ω x T pos w tr) (hrel : ∀ k, w.tick ≤ k → released ω k = true)
    (hstart : startMove ω w = .done () w₁) (hloop : moveLoop pos roundLimit ω w₁ = .done () w₂) :
    ∃ w₃ ws, finishMove ω w₂ = .done () w₃ ∧ Rounds ω pos w ws true w₂ ∧
      reading ω (ws.headD w) = goalReading pos ∧ Arrived pos w w₃ := by
  obtain ⟨ws, again, hr, hend⟩ := rounds_of_moveLoop hstart hloop
  obtain ⟨rfl, hgoal⟩ := (h w₂.trace).atGoal hH hpos hrel hr hend
  have hunblocked : w₂.door.doorPosition ≠ .posBlocked := by
    rw [hgoal]
    rcases hpos with rfl | rfl <;> exact Klappenposition.noConfusion
  obtain ⟨_, w₃, hfinish, hlines, hdoor, hraises⟩ := exists_run (finishMove_arrived (ω := ω) hunblocked)
  refine ⟨w₃, ws, hfinish, hr, hr.goal_reading hpos hgoal, ?_⟩
  have hflag : w₂.door.errorFlag = w.door.errorFlag := hr.driving.error
  constructor
  · exact hlines
  · rw [hdoor]
  · rw [hdoor]
    exact hgoal
  · rw [hdoor]
    exact hgoal
  · rw [hdoor, ← hflag]
  · exact hraises.trans ((h w₂.trace).raises_eq hH hpos hr (List.suffix_refl _))

end Goal

/-- No error is set, stored or recorded. -/
structure Faultless (w : World) : Prop where
  errorFlag : w.door.errorFlag = .noError
  stored : storedError w.nvs = .noError
  raises : raises w.trace = []

section Runs

variable {ω : Env} {w w' : World}

/-- Events that are not errors leave the record of errors alone. -/
theorem raises_extends {p : Event → Bool} {tr tr' : List Event} (h : Extends p tr tr')
    (hp : ∀ error, p (.raised error) = false) : raises tr' = raises tr := by
  refine h.keeps (P := fun tr' => raises tr' = raises tr) (fun e tl he htl => ?_) rfl
  cases e with
  | raised error =>
    rw [hp] at he
    cases he
  | _ => exact htl

namespace Faultless

theorem observe (h : Faultless w) (s : Sample) : Faultless (w.observe s) :=
  { h with raises := (raises_observe s).trans h.raises }

theorem emit (h : Faultless w) {e : Event} (he : ∀ error, e ≠ .raised error) :
    Faultless { w with trace := e :: w.trace } := by
  refine { h with raises := ?_ }
  cases e with
  | raised error => exact absurd rfl (he error)
  | _ => exact h.raises

theorem called (h : Faultless w) (f : Callee) : Faultless (w.called f) := h.emit (by simp)

theorem put (h : Faultless w) {k : NvsKey} (v : k.Value) (hk : k ≠ .errorFlag) :
    Faultless { w with nvs := w.nvs.put k v } := by
  refine { h with stored := ?_ }
  unfold storedError
  rw [nvs_get_put_of_ne _ _ hk.symm]
  exact h.stored

theorem clear (h : Faultless w) :
    Faultless { w with
      door := { w.door with errorFlag := .noError }, nvs := w.nvs.put .errorFlag .noError } := by
  refine { h with errorFlag := rfl, stored := ?_ }
  unfold storedError
  rw [nvs_get_put_self _ _ (by decide)]
  rfl

theorem entered (h : Faultless w) (action : BtnAction) : Faultless (entered w action) :=
  { h.called (.menuFunctions action) with }

theorem clockKept : ClockKept Faultless where
  updated := fun _ s _ h => { (h.called .updateTime).observe s with }
  clk := fun _ _ h => { h with }
  setTime := by
    intro w e he h
    apply h.emit
    rintro error rfl
    cases he
  menu := fun _ _ _ _ h => { h with }

end Faultless

/-- A move stores nothing under the key of the error. -/
theorem storedError_blind (ω : Env) (e : ErrorCode) : Blind ω fun w => storedError w.nvs = e where
  observe := fun _ h => h
  door := fun _ _ _ h => h
  pins := fun _ _ h => h
  emit := fun _ _ _ h => h
  store := by
    intro w k v hk h
    unfold storedError
    rw [nvs_get_put_of_ne]
    · exact h
    · rintro rfl
      cases hk

/-- No reading of the end switches is that of a blocked door. -/
def Unblocked (ω : Env) : Prop := ∀ n, (ω n).endUp = false → (ω (n + 1)).endLow = false

/-- Every move that `tr` records drives a door in order. -/
def DoorInOrder (ω : Env) {H : Nat} (x : Nat → Fin (H + 1)) (T : Nat → Nat) (tr : List Event) :
    Prop :=
  ∀ pos w₀, pos = .posUp ∨ pos = .posDown → InOrder ω x T pos w₀ tr

variable {H : Nat} {x : Nat → Fin (H + 1)} {T : Nat → Nat} {tr : List Event}

theorem InOrder.of_suffix {tr' : List Event} {pos : Klappenposition} {w₀ : World}
    (h : InOrder ω x T pos w₀ tr') (hs : tr <:+ tr') : InOrder ω x T pos w₀ tr where
  seen := fun ws again u v hr hv => h.seen ws again u v hr (hv.trans hs)
  driven := fun ws again u v hr hv => h.driven ws again u v hr (hv.trans hs)
  shows := fun ws again v hr hv => h.shows ws again v hr (hv.trans hs)
  mono := fun ws again v hr hv => h.mono ws again v hr (hv.trans hs)
  prompt := fun ws again v hr hv => h.prompt ws again v hr (hv.trans hs)

@[simp] theorem sensedDoor_errorFlag (pos : Klappenposition) (t : Nat) (r : Bool × Bool) (d : Door) :
    (sensedDoor ω pos t r d).errorFlag = d.errorFlag := by
  have hblocked : ∀ t d, (blockedAt ω t d).errorFlag = d.errorFlag := by
    intro t d
    unfold blockedAt
    split <;> rfl
  have hfinished : (finished ω t d).errorFlag = d.errorFlag := by
    unfold finished
    split <;> rfl
  obtain ⟨up, low⟩ := r
  cases up <;> cases low <;> cases hd : d.doorDirection <;>
    simp [sensedDoor, hd, hblocked, hfinished]

/-- The rounds of a move raise no error. -/
theorem Faultless.iterate (hH : 0 < H) (hI : Faultless w) {pos : Klappenposition} {w₀ : World}
    {again : Bool} (h : InOrder ω x T pos w₀ w'.trace) (hpos : pos = .posUp ∨ pos = .posDown)
    (hd : Driving ω pos w₀ w) (hp : w.door.doorPosition ≠ pos)
    (hrun : moveIteration pos ω w = .done again w') : Faultless w' := by
  obtain ⟨ws, hr⟩ := exists_rounds_of_driving hd
  have hnext : Rounds ω pos w₀ (w :: ws) again w' := .next ws w w' again hr hp hrun
  have hnone := no_limit_exceeded hH h hpos hnext (List.suffix_refl _)
  have hturn := hnext.turn.2.2
  constructor
  · rw [hturn.door, hnone]
    exact (sensedDoor_errorFlag _ _ _ _).trans hI.errorFlag
  · exact wp_run ((storedError_blind ω .noError).moveIteration pos w hI.stored) hrun
  · rw [hturn.raises, hnone]
    exact hI.raises

/-- The status check finds no blocked door. -/
theorem Faultless.look (hI : Faultless w) (hun : Unblocked ω) : Faultless (lookedAt ω w) := by
  have hne : position (ω w.tick).endUp (ω (w.tick + 1)).endLow ≠ .posBlocked := by
    have hlow := hun w.tick
    revert hlow
    cases (ω w.tick).endUp <;> cases (ω (w.tick + 1)).endLow <;> simp [position]
  unfold lookedAt
  dsimp only
  rw [if_neg hne, hI.errorFlag]
  exact { ((hI.observe (ω w.tick)).observe (ω (w.tick + 1))).clear with }

/-- What a finished move records. -/
theorem finishMove_raises :
    wp finishMove (returns fun w' => raises w'.trace = raises w.trace) ω w := by
  simp only [finishMove, wp_bind, wp_modifyDoor, wp_digitalWrite_mFwd, wp_digitalWrite_mBack, wp_emit,
    wp_get, wp_memoryPut, wp_when]
  exact ⟨fun _ => rfl, fun _ => rfl⟩

variable [TimeLib]

omit [TimeLib] in
theorem Faultless.measured (hI : Faultless w) (pos : Klappenposition) :
    Faultless (measured ω w pos) :=
  { (hI.observe (ω w.tick)).emit (e := .lightCheck pos (level ω w) w.sched.nextLux) (by simp) with }

omit [TimeLib] in
theorem Faultless.withLight (hI : Faultless w) (timer : Option UInt64) :
    Faultless (withLight w timer) :=
  { hI.emit (e := .lightArmed w.sched.nextMove w.sched.nextLux w.rtc.snapshot) (by simp) with }

theorem Faultless.pass (hI : Faultless w) {pos : Klappenposition} {a : DoorDayAlarm}
    {mode : OpeningMode} (hp : Pass ω pos a mode w w') : Faultless w' := by
  obtain ⟨w₁, h₁, hl⟩ := hp.carried
  have hset : Faultless w₁ := by
    constructor
    · rw [h₁.door]
      exact hI.errorFlag
    · unfold storedError
      rw [h₁.nvs _ (by decide)]
      exact hI.stored
    · exact (raises_extends h₁.silent.trace fun _ => rfl).trans hI.raises
  cases hl with
  | off => exact hset
  | waiting => exact hset.withLight _
  | armed => exact hset.withLight _
  | measured => exact (hset.withLight _).measured pos

/-- Every action of a status check or of a move. -/
theorem Work.faultless (hH : 0 < H) (h : Work ω w w') (hI : Faultless w) (hS : Sound w)
    (hdoor : DoorInOrder ω x T w'.trace) (hun : Unblocked ω) : Faultless w' := by
  have hb := storedError_blind ω .noError
  cases h with
  | read => exact hI.observe _
  | led p => exact { hI with }
  | startMove _ hrun =>
    exact ⟨(wp_run startMove_called hrun).2.trans hI.errorFlag,
      wp_run (hb.startMove w hI.stored) hrun, (wp_run startMove_records hrun).2.trans hI.raises⟩
  | iterate _ w₀ pos again hpos hd hp hrun =>
    exact hI.iterate hH (hdoor pos w₀ hpos) hpos hd hp hrun
  | finishMove _ _ _ _ _ hrun =>
    exact ⟨(wp_run (finishMove_error (.inr hI.errorFlag)) hrun).trans hI.errorFlag,
      wp_run (hb.finishMove w hI.stored) hrun, (wp_run finishMove_raises hrun).trans hI.raises⟩
  | look => exact hI.look hun
  | report he => exact absurd hI.errorFlag he
  | accept => exact hI.emit (by simp)
  | pass _ pos a mode hp => exact hI.pass hp
  | stray _ pos _ _ hm => exact absurd hm (hS.entry_mode pos)
  | lose pos hm => exact absurd hm (hS.entry_mode pos)
  | sleep => exact { (hI.called .prepForDeepSleep).observe (ω w.tick) with }

theorem WakeAct.faultless (hH : 0 < H) (h : WakeAct ω w w') (hI : Faultless w) (hS : Sound w)
    (hdue : TimerDue w → LightFlag w) (hdoor : DoorInOrder ω x T w'.trace) (hun : Unblocked ω) :
    Faultless w' := by
  cases h with
  | work _ hw => exact hw.faultless hH hI hS hdoor hun
  | keep => exact { hI with }
  | dispatch => exact { hI with }
  | booted => exact hI.emit (by simp)
  | alarmMove => exact hI.emit (by simp)
  | wrongAlarm hf => exact absurd hf hS.alarmFlag
  | wrongLight ht hu hd =>
    rcases hdue ht with hf | hf
    · exact absurd hf hu
    · exact absurd hf hd
  | measure => exact hI.measured _
  | trigger =>
    have hcheck := (hI.observe (ω w.tick)).emit
      (e := .lightCheck w.sched.ldrFlag (level ω w) w.sched.nextLux) (by simp)
    exact { hcheck.emit (e := .lightMove w.sched.ldrFlag (w.tick + 1)) (by simp) with }

/-- Every action of a device whose door is in order. -/
theorem Act.faultless (hH : 0 < H) (h : Act ω w w') (hI : Faultless w) (hS : Sound w)
    (hdue : TimerDue w → LightFlag w) (hdoor : DoorInOrder ω x T w'.trace) (hun : Unblocked ω) :
    Faultless w' := by
  have he : ∀ action, Faultless (entered w action) := hI.entered
  cases h with
  | wake _ hw => exact hw.faultless hH hI hS hdue hdoor hun
  | update => exact hI.called _
  | goTo => exact { hI with }
  | enter action => exact he action
  | edit action => exact { he action with }
  | start action => exact { ((he action).called .updateTime).observe (ω w.tick) with }
  | acknowledge action => exact { (he action).clear with }
  | redraw => exact { he .nothing with }
  | setTime _ action _ hrun =>
    exact wp_run (Faultless.clockKept.screen300 action ω _ (he action)) hrun
  | setDate _ action _ hrun =>
    exact wp_run (Faultless.clockKept.screen400 action ω _ (he action)) hrun
  | initialise action =>
    have hput := (he action).put (k := .initNox) 1 (by decide)
    exact { hput.clear with }
  | save action =>
    have hstored : storedError (saved { entered w action with
        menu := { w.menu with menuId := 0 } }).nvs = storedError w.nvs := by
      show ((savedTables _ _ _).get .errorFlag).getD _ = _
      rw [savedTables_other _ _ _ (by decide) (by decide) (by decide)]
      rfl
    exact ⟨hI.errorFlag, hstored.trans hI.stored, ((he action).called .saveAlarmValues).raises⟩

/-- A reset of a device without an error. -/
theorem Rebooted.faultless {w₀ : World} (hr : Rebooted ω w₀ w) (hs : storedError w₀.nvs = .noError)
    (ht : raises w₀.trace = []) : Faultless w where
  errorFlag := by
    rw [hr.errorFlag]
    split
    · rfl
    · exact hs
  stored := by
    unfold storedError
    rw [hr.nvs _ (by decide) (by decide)]
    exact hs
  raises := by
    refine hr.keeps (P := fun tr => raises tr = []) (fun e tr he htr => ?_) (fun _ _ _ htr => htr) ht
    cases e with
    | alarmFired t => exact htr
    | _ => cases he

/-- The condition of a run whose timer wake-ups are due and whose moves drive a door in order. -/
def Orderly (ω : Env) {H : Nat} (x : Nat → Fin (H + 1)) (T : Nat → Nat) (tr : List Event) : Prop :=
  LightAwaited tr ∧ DoorInOrder ω x T tr

theorem orderly_light (h : Historically (Orderly ω x T) tr) : Historically LightAwaited tr :=
  fun t ht => (h t ht).1

/-- The flags stay as `Flawless` says, and nothing else sets an error. -/
theorem faultless_invariant {w₀ : World} (hH : 0 < H) (hun : Unblocked ω)
    (hi : Intact w₀.nvs w₀.rtc.ram) (hs : storedError w₀.nvs = .noError) :
    Invariant ω w₀ (Orderly ω x T) fun w => Flawless w ∧ Faultless w where
  act := by
    rintro w w' ha hC ⟨hflawless, hI⟩
    have hdoor := (hC _ (List.suffix_refl _)).2
    exact ⟨(flawless_invariant hi).act w w' ha (orderly_light hC) hflawless,
      ha.faultless hH hI hflawless.toSound hflawless.due hdoor hun⟩
  first := by
    intro w hr hC
    exact ⟨(flawless_invariant hi).first w hr (orderly_light hC), hr.faultless hs rfl⟩
  wake := by
    rintro w w' cause ⟨hflawless, hI⟩ hw hflags hr hC
    refine ⟨(flawless_invariant hi).wake w w' cause hflawless hw hflags hr (orderly_light hC), ?_⟩
    exact hr.faultless hI.stored ((raises_observe _).trans hI.raises)

/-- In every run of a device whose door is in order, in which the status checks find no blocked
    door and timer wake-ups follow passes that wait for light, no error is ever raised, set or
    stored, whatever the buttons, the alarms and the light do. -/
theorem never_errs {w₀ : World} {p : Phase} (hr : Run ω w₀ (p, w)) (hH : 0 < H)
    (hi : Intact w₀.nvs w₀.rtc.ram) (hs : storedError w₀.nvs = .noError)
    (hC : Historically LightAwaited w.trace) (hdoor : DoorInOrder ω x T w.trace)
    (hun : Unblocked ω) : Faultless w := by
  have horderly : Historically (Orderly ω x T) w.trace :=
    fun tr htr => ⟨hC tr htr, fun pos w₁ hpos => (hdoor pos w₁ hpos).of_suffix htr⟩
  refine ((faultless_invariant hH hun hi hs).run (fun w w' hI hr _ => ?_) hr horderly).2
  obtain ⟨hflawless, hI⟩ := hI
  exact ⟨hr.flawless hflawless.toIntact hflawless.trace WakeupCause.noConfusion rfl,
    hr.faultless hI.stored hI.raises⟩

end Runs

/-! ## A run with a door in order

A blank device with the door down sleeps after the idle time; a long press drives the door up. -/

/-- The inputs of the run: the door leaves the bottom at reading 28 and comes to the top at
    reading 30. -/
def liftEnv : Env := fun n =>
  { endUp := decide (28 ≤ n), endLow := decide (31 ≤ n), swFwd := decide (n < 30)
    millis := UInt32.ofNat (if n < 16 then n * 1000000 else min n 28 * 3000) }

/-- The blank device after its power-on, the idle time and the long press. -/
def lifted : Reached liftEnv {} .asleep :=
  ((Reached.powerOn 12 (by decide +kernel) : Reached liftEnv {} .awake).loop 12
    (by decide +kernel)).wake 12 (.ext1 .swFwd) (by decide +kernel) (by decide +kernel)

/-- The height of the door during its move, and the clock. -/
def liftHeight (k : Nat) : Fin 3 := if k = 30 then 2 else 1

def liftClock (n : Nat) : Nat := if n < 16 then n * 1000000 else min n 28 * 3000

/-- A move that is started starts with reading `k`. -/
def startsAt (k : Nat) : Event → Bool
  | .call .moveMotor m => m.tick == k
  | _ => true

/-- Every move of that run starts with reading 28 and goes up. -/
theorem lifted_moves {pos : Klappenposition} {w₀ v : World} {ws : List World} {again : Bool}
    (h : Rounds liftEnv pos w₀ ws again v) (hs : v.trace <:+ lifted.world.trace) :
    w₀.tick = 28 ∧ (ws ≠ [] → pos = .posUp ∧ ws.length = 1) := by
  have hcalls : lifted.world.trace.all (startsAt 28) = true := by decide +kernel
  have hup : lifted.world.trace.count (.motorEnter .posUp) = 1 := by decide +kernel
  constructor
  · have hcall : .call .moveMotor w₀.moment ∈ lifted.world.trace :=
      (h.called.trans hs).subset List.mem_cons_self
    exact beq_iff_eq.mp (List.all_eq_true.mp hcalls _ hcall)
  · intro hne
    have hlen := h.entered.trans (hs.sublist.count_le (.motorEnter pos))
    have hpos := List.length_pos_of_ne_nil hne
    cases pos with
    | posUp =>
      rw [hup] at hlen
      exact ⟨rfl, by omega⟩
    | posDown =>
      have hnone : lifted.world.trace.count (.motorEnter .posDown) = 0 := by decide +kernel
      omega
    | posDriving =>
      have hnone : lifted.world.trace.count (.motorEnter .posDriving) = 0 := by decide +kernel
      omega
    | posBlocked =>
      have hnone : lifted.world.trace.count (.motorEnter .posBlocked) = 0 := by decide +kernel
      omega

/-- The only round of that run. -/
theorem lifted_round {pos : Klappenposition} {w₀ u v : World} {ws : List World} {again : Bool}
    (h : Rounds liftEnv pos w₀ (u :: ws) again v) (hs : v.trace <:+ lifted.world.trace) :
    u.tick = 30 ∧ 30 < v.tick ∧ lines v = (false, true) := by
  obtain ⟨htick, hround⟩ := lifted_moves h hs
  obtain ⟨rfl, hlen⟩ := hround (List.cons_ne_nil _ _)
  obtain rfl : ws = [] := List.length_eq_zero_iff.mp (Nat.succ.inj hlen)
  have hu := h.first_tick
  rw [htick] at hu
  obtain ⟨-, -, hturn⟩ := h.turn
  have hcheck : u.tick + 2 ≤ checkTick liftEnv u := Nat.le_add_right _ _
  have hv := hturn.tick
  have hread : reading liftEnv u = (true, true) := by
    unfold reading
    rw [hu]
    decide
  have hlines := hturn.lines
  rw [hread] at hlines
  exact ⟨hu, by omega, hlines⟩

theorem doorInOrder_lifted : DoorInOrder liftEnv liftHeight liftClock lifted.world.trace := by
  intro pos w₀ _
  constructor
  · intro ws again u v hr hs
    obtain ⟨hu, -, -⟩ := lifted_round hr hs
    unfold reading
    rw [hu]
    decide
  · intro ws again u v hr hs
    obtain ⟨hu, hv, hlines⟩ := lifted_round hr hs
    have hdown : liftHeight v.tick = 1 := if_neg (by omega)
    rw [hlines, hu, hdown]
    exact ⟨by decide, fun _ => by decide⟩
  · exact fun _ _ _ _ _ _ _ _ => rfl
  · intro ws again v hr hs j k hj hjk _
    have htick := (lifted_moves hr hs).1
    unfold liftClock
    split <;> split <;> omega
  · intro ws again v hr hs _
    have htick := (lifted_moves hr hs).1
    have hle := hr.tick_le
    unfold liftClock
    split <;> split <;> omega

theorem never_errs_lifted :
    .motorEnter .posUp ∈ lifted.world.trace ∧ Faultless lifted.world := by
  have hun : Unblocked liftEnv := by
    intro n hup
    simp only [liftEnv, decide_eq_false_iff_not] at hup ⊢
    omega
  have hi : Intact KeyStore.empty 0 := ⟨storedModes_empty, by decide, rfl⟩
  exact ⟨by decide +kernel, never_errs lifted.run (by decide) hi rfl (by decide +kernel)
    doorInOrder_lifted hun⟩

end Eggvault.Spec
