import Eggvault.Spec.ActionsCorrect

/-!
# Whole moves

A move reads the end switches, repeats its iteration and cleans up.  `Drove` is the first two
of these; what a move does to the error flag and when it is left by a button follow from one
lemma about an iteration each.

## Key results

- `Drove.error`: a move changes the error flag only at a time limit
- `uninterrupted_iff`: exactly when a move is left by the button that is still held
-/

namespace Eggvault.Spec

open Eggvault.Native Prog Trace

/-! ## The loop of a move -/

section Drive

variable {ω : Env} {w w₀ : World} {pos : Klappenposition}

/-- The record of the start of a move. -/
theorem startMove_called :
    wp startMove (returns fun w' => (w.called .moveMotor).trace <:+ w'.trace ∧
      w'.door.errorFlag = w.door.errorFlag) ω w := by
  simp only [startMove, wp_bind, wp_call, wp_digitalRead, wp_emit, wp_modifyDoor]
  refine ⟨?_, rfl⟩
  exact ((suffix_observe _ _).trans (suffix_observe _ _)).trans (List.suffix_cons _ _)

/-- The sensor branches do not touch the error flag. -/
theorem sensorBranch_error (pos : Klappenposition) (up low : Bool) :
    wp (sensorBranch pos up low) (returns fun w' => w'.door.errorFlag = w.door.errorFlag) ω w := by
  cases up <;> cases low <;>
    simp [sensorBranch, atBottom, atBlocked, atTop, atDriving, startDrive, returns, World.observe]

/-- A time limit leaves the door blocked, with an error. -/
theorem timerChecks_error :
    wp timerChecks ⟨fun expired w' =>
      (expired = false ∧ w'.door.errorFlag = w.door.errorFlag) ∨
        (expired = true ∧ w'.door.doorPosition = .posBlocked ∧ w'.door.errorFlag ≠ .noError),
      fun _ => False, fun _ => False⟩ ω w := by
  simp [timerChecks, limitExceeded, World.observe]

theorem buttonBreak_door :
    wp buttonBreak ⟨fun _ w' => w'.door = w.door, fun _ => False, fun _ => False⟩ ω w := by
  simp [buttonBreak, buttonCheck, World.observe]

/-- An iteration changes the error flag only at a time limit, and is then the last one. -/
theorem moveIteration_error (pos : Klappenposition) :
    wp (moveIteration pos) ⟨fun again w' =>
      w'.door.errorFlag = w.door.errorFlag ∨
        (again = false ∧ w'.door.doorPosition = .posBlocked ∧ w'.door.errorFlag ≠ .noError),
      fun _ => False, fun _ => False⟩ ω w := by
  refine wp_moveIteration (T := fun expired w' =>
      (expired = false ∧ w'.door.errorFlag = w.door.errorFlag) ∨
        (expired = true ∧ w'.door.doorPosition = .posBlocked ∧ w'.door.errorFlag ≠ .noError))
    (sensorBranch_error pos _ _) (fun w₁ h₁ => ?_) (fun w₂ h₂ => ?_) (fun w₂ h₂ => ?_)
  · apply wp_of_returns timerChecks_error
    intro expired w₂ h₂
    rcases h₂ with ⟨hf, h₂⟩ | h₂
    · exact .inl ⟨hf, h₂.trans h₁⟩
    · exact .inr h₂
  · rcases h₂ with ⟨hf, -⟩ | ⟨-, h₂⟩
    · cases hf
    · exact .inr ⟨rfl, h₂⟩
  · rcases h₂ with ⟨-, h₂⟩ | ⟨hf, -⟩
    · apply wp_of_returns buttonBreak_door
      intro pressed w₃ h₃
      left
      show w₃.door.errorFlag = _
      rw [h₃]
      exact h₂
    · cases hf

/-- While a move goes on, the error flag is the one that it was started with. -/
theorem Driving.error (h : Driving ω pos w₀ w) : w.door.errorFlag = w₀.door.errorFlag := by
  induction h with
  | start w₁ hrun => exact (wp_run startMove_called hrun).2
  | next w₁ w₂ _ _ hrun ih =>
    rcases wp_run (moveIteration_error pos) hrun with heq | ⟨hf, -⟩
    · exact heq.trans ih
    · cases hf

/-- What a whole move does to the error flag before it cleans up. -/
theorem Drove.error (h : Drove ω pos w₀ w) :
    w.door.errorFlag = w₀.door.errorFlag ∨
      (w.door.doorPosition = .posBlocked ∧ w.door.errorFlag ≠ .noError) := by
  cases h with
  | goal _ hd _ => exact .inl hd.error
  | left w₁ _ hd _ hrun =>
    rcases wp_run (moveIteration_error pos) hrun with heq | ⟨-, hblocked⟩
    · exact .inl (heq.trans hd.error)
    · exact .inr hblocked

/-- A move leaves alone what every move leaves alone. -/
theorem Driving.aside (h : Driving ω pos w₀ w) : Aside w₀ w := by
  have hb := Aside.blind ω w₀
  induction h with
  | start w₁ hrun => exact wp_run (hb.startMove w₀ (.refl w₀)) hrun
  | next w₁ w₂ _ _ hrun ih => exact wp_run (hb.moveIteration pos w₁ ih) hrun

theorem Drove.aside (h : Drove ω pos w₀ w) : Aside w₀ w := by
  cases h with
  | goal _ hd _ => exact hd.aside
  | left w₁ _ hd _ hrun => exact wp_run ((Aside.blind ω w₀).moveIteration pos w₁ hd.aside) hrun

/-- The start of the move is recorded. -/
theorem Driving.called (h : Driving ω pos w₀ w) : (w₀.called .moveMotor).trace <:+ w.trace := by
  induction h with
  | start w₁ hrun => exact (wp_run startMove_called hrun).1
  | next w₁ w₂ _ _ hrun ih =>
    have hi := wp_run ((Aside.blind ω w₁).moveIteration pos w₁ (.refl w₁)) hrun
    exact ih.trans hi.trace.suffix

theorem Drove.called (h : Drove ω pos w₀ w) : (w₀.called .moveMotor).trace <:+ w.trace := by
  cases h with
  | goal _ hd _ => exact hd.called
  | left w₁ _ hd _ hrun =>
    have hi := wp_run ((Aside.blind ω w₁).moveIteration pos w₁ (.refl w₁)) hrun
    exact hd.called.trans hi.trace.suffix

end Drive

/-! ## Buttons during a move -/

/-- The loop of the last move was left by a button. -/
def leftByButton (tr : List Event) : Bool :=
  (tr.findSome? fun
    | .motorEnter _ | .call .moveMotor _ | .raised _ => some false
    | .buttonBreak => some true
    | _ => none).getD false

/-- The move to `pos` that starts in `w` is not left by a button: however many iterations are
    made, the loop goes on, or it has reached the goal or a time limit. -/
def Uninterrupted (ω : Env) (pos : Klappenposition) (w : World) : Prop :=
  ∀ n w₁, startMove ω w = .done () w₁ →
    wp (moveLoop pos n) ⟨fun _ w' => leftByButton w'.trace = false ∧ Ended pos w',
      fun _ => False, fun _ => True⟩ ω w₁

/-- From reading `t` on a line does not rise. -/
def Falling (line : Sample → Bool) (ω : Env) (t : Nat) : Prop :=
  ∀ n, t ≤ n → line (ω (n + 1)) = true → line (ω n) = true

/-- From reading `t` on no button goes from released to pressed. -/
structure NoNewPress (ω : Env) (t : Nat) : Prop where
  select : Falling Sample.swSelect ω t
  exit : Falling Sample.swExit ω t
  back : Falling Sample.swBack ω t
  fwd : Falling Sample.swFwd ω t

/-- A button check that starts with reading `t` finds all buttons released. -/
def released (ω : Env) (t : Nat) : Bool :=
  !((ω t).swSelect || (ω (t + 1)).swExit || (ω (t + 2)).swBack || (ω (t + 3)).swFwd)

/-- The position that a move from `w` starts with. -/
def startPosition (ω : Env) (w : World) : Klappenposition :=
  match (ω w.tick).endUp, (ω (w.tick + 1)).endLow with
  | false, false => .posDown
  | false, true => .posDriving
  | true, true => .posUp
  | true, false => .posDriving

/-- The first iteration of a move from `w` finds the door blocked. -/
def firstBlocked (ω : Env) (w : World) : Bool :=
  !(ω (w.tick + 2)).endUp && (ω (w.tick + 3)).endLow

/-- The reading with which the first iteration of a move from `w` begins its button check; a
    blocked door takes two more readings of the clock. -/
def firstCheck (ω : Env) (w : World) : Nat :=
  if firstBlocked ω w then w.tick + 8 else w.tick + 6

/-- A time limit is exceeded by the readings of the clock from `t` on, where the drive starts at
    `t` and a blocked door is noted at `t + 1`. -/
def expires (ω : Env) (t : Nat) (blocked : Bool) : Bool :=
  if blocked then
    decide ((ω (t + 2)).millis - (ω (t + 1)).millis > tErrBlock * 1000) ||
      decide ((ω (t + 3)).millis - (ω t).millis > tErrClose * 1000)
  else decide ((ω (t + 1)).millis - (ω t).millis > tErrClose * 1000)

/-- A time limit is exceeded before the first button check. -/
def expiresFirst (ω : Env) (w : World) : Bool := expires ω (w.tick + 4) (firstBlocked ω w)

section Buttons

variable {ω : Env} {w w₁ : World} {pos : Klappenposition} {t : Nat}

theorem leftByButton_observe (s : Sample) :
    leftByButton (w.observe s).trace = leftByButton w.trace :=
  observe_keeps (P := fun tr => leftByButton tr = leftByButton w.trace) (fun _ h => h) rfl

theorem leftByButton_write (v b : Bool) (tr : List Event) :
    leftByButton (.motorWrite v b :: tr) = leftByButton tr := rfl

/-- A line that does not rise stays low. -/
theorem Falling.low {line : Sample → Bool} (h : Falling line ω t) {n k : Nat} (hn : t ≤ n)
    (hlow : line (ω n) = false) : line (ω (n + k)) = false := by
  induction k with
  | zero => exact hlow
  | succ k ih =>
    by_contra hne
    have hup : line (ω (n + (k + 1))) = true := by simpa using hne
    have hk := h (n + k) (by omega) hup
    rw [ih] at hk
    cases hk

/-- Once all buttons were found released, every later check finds them released. -/
theorem NoNewPress.released (h : NoNewPress ω w.tick) {c t : Nat} (hc : w.tick ≤ c)
    (hrel : released ω c = true) (ht : c ≤ t) : released ω t = true := by
  obtain ⟨k, rfl⟩ := Nat.exists_eq_add_of_le ht
  simp only [Spec.released, Bool.not_eq_true', Bool.or_eq_false_iff] at hrel ⊢
  obtain ⟨⟨⟨hselect, hexit⟩, hback⟩, hfwd⟩ := hrel
  refine ⟨⟨⟨h.select.low hc hselect, ?_⟩, ?_⟩, ?_⟩
  · rw [Nat.add_right_comm]
    exact h.exit.low (by omega) hexit
  · rw [Nat.add_right_comm]
    exact h.back.low (by omega) hback
  · rw [Nat.add_right_comm]
    exact h.fwd.low (by omega) hfwd

/-- A button check, by the levels that it reads. -/
theorem buttonBreak_released (h : leftByButton w.trace = false) :
    wp buttonBreak ⟨fun pressed w' => pressed = !released ω w.tick ∧
      leftByButton w'.trace = pressed ∧ w.tick ≤ w'.tick, fun _ => False, fun _ => False⟩ ω w := by
  have hcheck : wp buttonCheck ⟨fun pressed w' => pressed = !released ω w.tick ∧
      leftByButton w'.trace = false ∧ w.tick ≤ w'.tick, fun _ => False, fun _ => False⟩ ω w := by
    have htick : ∀ (w : World) s, (w.observe s).tick = w.tick + 1 := fun _ _ => rfl
    cases hselect : (ω w.tick).swSelect <;> cases hexit : (ω (w.tick + 1)).swExit <;>
      cases hback : (ω (w.tick + 2)).swBack <;>
      simp [buttonCheck, World.level, released, leftByButton_observe, htick, h, hselect, hexit, hback] <;>
      omega
  rw [buttonBreak]
  apply wp_then hcheck
  rintro pressed w₁ ⟨hp, hl, ht⟩
  simp only [wp_bind, wp_when, wp_emit, wp_pure]
  cases pressed with
  | true => exact ⟨fun _ => ⟨hp, rfl, ht⟩, fun hne => absurd rfl hne⟩
  | false => exact ⟨fun hf => Bool.noConfusion hf, fun _ => ⟨hp, hl, ht⟩⟩

theorem observe_tick (w : World) (s : Sample) : (w.observe s).tick = w.tick + 1 := rfl

theorem observe_door (w : World) (s : Sample) : (w.observe s).door = w.door := rfl

/-- The loop has not been left by a button, and reading `t` has been reached. -/
def ReadPast (t : Nat) (w : World) : Prop := leftByButton w.trace = false ∧ t ≤ w.tick

theorem ReadPast.observe (h : ReadPast t w) (s : Sample) : ReadPast t (w.observe s) :=
  ⟨(leftByButton_observe s).trans h.1, Nat.le_succ_of_le h.2⟩

theorem sensorBranch_past (up low : Bool) (h : ReadPast t w) :
    wp (sensorBranch pos up low) ⟨fun _ => ReadPast t, fun _ => False, fun _ => False⟩ ω w := by
  obtain ⟨hl, ht⟩ := h
  cases up <;> cases low <;>
    simp [sensorBranch, atBottom, atBlocked, atTop, atDriving, startDrive, ReadPast, leftByButton_observe,
      leftByButton_write, observe_tick, hl] <;> omega

theorem timerChecks_past (h : ReadPast t w) :
    wp timerChecks ⟨fun _ => ReadPast t, fun _ => False, fun _ => False⟩ ω w := by
  have hlim : ∀ w₁ e, ReadPast t w₁ →
      wp (limitExceeded e) ⟨fun _ => ReadPast t, fun _ => False, fun _ => False⟩ ω w₁ := by
    intro w₁ e h₁
    simp only [limitExceeded, wp_bind, wp_digitalWrite_led, wp_emit, wp_modifyDoor, wp_pure]
    exact ⟨rfl, h₁.2⟩
  have h₁ : ReadPast t (w.observe (ω w.tick)) := h.observe _
  have h₂ : ReadPast t ((w.observe (ω w.tick)).observe (ω (w.tick + 1))) := h₁.observe _
  simp only [timerChecks, wp_bind, wp_get, wp_ite, wp_millis, wp_pure, hlim, h, h₁, h₂, observe_tick,
    implies_true, and_true]

/-- An iteration after all buttons were found released is not left by a button. -/
theorem moveIteration_released (hrel : ∀ t, w.tick ≤ t → released ω t = true) :
    wp (moveIteration pos) ⟨fun _ => ReadPast w.tick, fun _ => False, fun _ => False⟩ ω w := by
  have hread : ReadPast w.tick (switchesRead ω pos w) := by
    refine ⟨(leftByButton_observe _).trans (leftByButton_observe _), ?_⟩
    show w.tick ≤ w.tick + 1 + 1
    omega
  refine wp_moveIteration (sensorBranch_past _ _ hread) (fun _ h₁ => timerChecks_past h₁)
    (fun _ h₂ => h₂) (fun w₂ h₂ => ?_)
  apply wp_of_returns (buttonBreak_released h₂.1)
  rintro pressed w₃ ⟨hp, hl, ht⟩
  rw [hrel w₂.tick h₂.2] at hp
  rw [hp] at hl
  exact ⟨hl, Nat.le_trans h₂.2 ht⟩

/-- The motor was standing, and the end switches have been read: the drive starts at reading
    `t`, and a blocked door starts its timer with the next one. -/
structure FirstTurn (ω : Env) (t : Nat) (blocked : Bool) (w : World) : Prop where
  tick : w.tick = t + if blocked then 2 else 1
  direction : w.door.doorDirection = .movingUp ∨ w.door.doorDirection = .movingDown
  moveZero : w.door.moveZero = (ω t).millis
  position : w.door.doorPosition = .posBlocked ↔ blocked = true
  blockZero : blocked = true → w.door.blockZero = (ω (t + 1)).millis
  left : leftByButton w.trace = false

theorem sensorBranch_first (up low : Bool) (hd : w.door.doorDirection = .standing)
    (hp : w.door.doorPosition ≠ .posBlocked) (hl : leftByButton w.trace = false) :
    wp (sensorBranch pos up low) ⟨fun _ => FirstTurn ω w.tick (!up && low), fun _ => False,
      fun _ => False⟩ ω w := by
  have hleft : ∀ (w₁ : World) s, leftByButton (w₁.observe s).trace = leftByButton w₁.trace :=
    fun _ s => leftByButton_observe s
  cases up <;> cases low
  · simp [sensorBranch, atBottom, hd, observe_door]
    constructor <;> simp [observe_tick, hleft, leftByButton_write, hl]
  · by_cases hpos : pos = .posDown <;>
      simp [sensorBranch, atBlocked, startDrive, hd, hp, hpos, observe_door] <;>
      constructor <;> simp [observe_tick, hleft, leftByButton_write, hl]
  · by_cases hpos : pos = .posDown <;>
      simp [sensorBranch, atDriving, startDrive, hd, hpos, observe_door] <;>
      constructor <;> simp [observe_tick, hleft, leftByButton_write, hl]
  · simp [sensorBranch, atTop, hd, observe_door]
    constructor <;> simp [observe_tick, hleft, leftByButton_write, hl]

theorem timerChecks_first {blocked : Bool} (h : FirstTurn ω t blocked w) :
    wp timerChecks ⟨fun expired w' => expired = expires ω t blocked ∧ leftByButton w'.trace = false ∧
      (expired = false → w'.tick = t + if blocked then 4 else 2), fun _ => False,
      fun _ => False⟩ ω w := by
  have hleft : ∀ (w₁ : World) s, leftByButton (w₁.observe s).trace = leftByButton w₁.trace :=
    fun _ s => leftByButton_observe s
  have hraised : ∀ e tr, leftByButton (.raised e :: tr) = false := fun _ _ => rfl
  obtain ⟨htick, hdir, hmove, hpos, hblock, hl⟩ := h
  -- the drive goes up or down, and both directions have the same limit
  cases blocked with
  | true =>
    have hp : w.door.doorPosition = .posBlocked := hpos.mpr rfl
    have hb := hblock rfl
    by_cases h₁ : tErrBlock * 1000 < (ω (t + 2)).millis - (ω (t + 1)).millis
    · simp [timerChecks, limitExceeded, expires, observe_door, hp, hb, htick, h₁, hraised]
    · have hle₁ := UInt32.not_lt.mp h₁
      by_cases h₂ : tErrClose * 1000 < (ω (t + 2 + 1)).millis - (ω t).millis
      · rcases hdir with hd | hd <;>
          simp [timerChecks, limitExceeded, expires, observe_tick, observe_door, hp, hd, hmove, hb,
            htick, h₁, h₂, hraised]
      · have hle₂ := UInt32.not_lt.mp h₂
        rcases hdir with hd | hd <;>
          simp [timerChecks, expires, observe_tick, observe_door, hp, hd, hmove, hb, htick, hle₁, hle₂,
            hleft, hl]
  | false =>
    have hp : w.door.doorPosition ≠ .posBlocked := fun hp => Bool.noConfusion (hpos.mp hp)
    by_cases h₁ : tErrClose * 1000 < (ω (t + 1)).millis - (ω t).millis
    · rcases hdir with hd | hd <;>
        simp [timerChecks, limitExceeded, expires, observe_door, hp, hd, hmove, htick, h₁, hraised]
    · have hle₁ := UInt32.not_lt.mp h₁
      rcases hdir with hd | hd <;>
        simp [timerChecks, expires, observe_tick, observe_door, hp, hd, hmove, htick, hle₁, hleft, hl]

/-- The start of a move: two readings, and the motor stands. -/
structure StartedMove (ω : Env) (w w' : World) : Prop where
  tick : w'.tick = w.tick + 2
  direction : w'.door.doorDirection = .standing
  position : w'.door.doorPosition = startPosition ω w
  left : leftByButton w'.trace = false

theorem startMove_started :
    wp startMove ⟨fun _ => StartedMove ω w, fun _ => False, fun _ => False⟩ ω w := by
  have hpos : startPosition ω w = (match (ω w.tick).endUp, (ω (w.tick + 1)).endLow with
      | false, false => .posDown
      | false, true => .posDriving
      | true, true => .posUp
      | true, false => .posDriving) := rfl
  simp only [startMove, wp_bind, wp_call, wp_digitalRead, wp_emit, wp_modifyDoor]
  exact ⟨rfl, rfl, hpos, (leftByButton_observe _).trans (leftByButton_observe _)⟩

/-- A move never starts as blocked. -/
theorem startPosition_ne_blocked (ω : Env) (w : World) : startPosition ω w ≠ .posBlocked := by
  unfold startPosition
  split <;> exact Klappenposition.noConfusion

/-- The first iteration is left by a time limit, by a button that is still down, or not at all. -/
theorem moveIteration_first (pos : Klappenposition) {w₀ : World} (h : StartedMove ω w₀ w) :
    wp (moveIteration pos) ⟨fun again w' =>
      (expiresFirst ω w₀ = true → leftByButton w'.trace = false ∧ again = false) ∧
      (expiresFirst ω w₀ = false → again = released ω (firstCheck ω w₀) ∧
        leftByButton w'.trace = !again ∧ firstCheck ω w₀ ≤ w'.tick),
      fun _ => False, fun _ => False⟩ ω w := by
  have hp : w.door.doorPosition ≠ .posBlocked := by
    rw [h.position]
    exact startPosition_ne_blocked ω w₀
  have hread : leftByButton (switchesRead ω pos w).trace = false :=
    (leftByButton_observe _).trans (leftByButton_observe _)
  have htick : (switchesRead ω pos w).tick = w₀.tick + 4 := by
    show w.tick + 1 + 1 = _
    rw [h.tick]
  have hblocked : (!(ω w.tick).endUp && (ω (w.tick + 1)).endLow) = firstBlocked ω w₀ := by
    rw [h.tick]
    rfl
  refine wp_moveIteration (sensorBranch_first _ _ h.direction hp hread)
    (fun _ h₁ => timerChecks_first h₁) (fun w₂ h₂ => ?_) (fun w₂ h₂ => ?_)
  · -- a limit has expired before the buttons were looked at
    obtain ⟨hexp, hl, -⟩ := h₂
    rw [hblocked, htick] at hexp
    refine ⟨fun _ => ⟨hl, rfl⟩, fun hf => ?_⟩
    have htrue : expiresFirst ω w₀ = true := hexp.symm
    rw [htrue] at hf
    cases hf
  · obtain ⟨hexp, hl, ht⟩ := h₂
    rw [hblocked, htick] at hexp
    -- the buttons are read where `firstCheck` says
    have hcheck : w₂.tick = firstCheck ω w₀ := by
      rw [ht rfl, hblocked, htick, firstCheck]
      split <;> rfl
    apply wp_of_returns (buttonBreak_released hl)
    rintro pressed w₃ ⟨hpressed, hleft, hmono⟩
    rw [hcheck] at hpressed hmono
    refine ⟨fun ht => ?_, fun _ => ⟨?_, ?_, hmono⟩⟩
    · have hfalse : expiresFirst ω w₀ = false := hexp.symm
      rw [hfalse] at ht
      cases ht
    · rw [hpressed, Bool.not_not]
    · show leftByButton w₃.trace = !!pressed
      rw [Bool.not_not]
      exact hleft

/-- One round of the loop of a move. -/
theorem wp_moveLoop_succ {post : Post World Unit} (n : Nat) :
    wp (moveLoop pos (n + 1)) post ω w ↔ (w.door.doorPosition = pos → post.done () w) ∧
      (¬ w.door.doorPosition = pos → wp (moveIteration pos) ⟨fun again w' =>
        if again then wp (moveLoop pos n) post ω w' else post.done () w', post.halt,
          post.pending⟩ ω w) := by
  rw [moveLoop, repeatWhile, wp_bind, wp_get_bind, wp_ite, wp_pure]
  have hrest : ∀ again w', wp (if again = true then moveLoop pos n else pure ()) post ω w' ↔
      if again = true then wp (moveLoop pos n) post ω w' else post.done () w' := by
    intro again w'
    cases again with
    | true => simp
    | false => simp
  constructor
  · rintro ⟨hgoal, hiter⟩
    refine ⟨fun hp => (hrest false w).mp (hgoal hp), fun hp => ?_⟩
    exact wp_mono (hiter hp) (fun again w' h => (hrest again w').mp h) (fun _ h => h) (fun _ h => h)
  · rintro ⟨hgoal, hiter⟩
    refine ⟨fun hp => (hrest false w).mpr (hgoal hp), fun hp => ?_⟩
    exact wp_mono (hiter hp) (fun again w' h => (hrest again w').mpr h) (fun _ h => h) (fun _ h => h)

/-- Once all buttons were found released, the rest of the loop is not left by a button. -/
theorem moveLoop_released (hrel : ∀ k, t ≤ k → released ω k = true) (ht : t ≤ w.tick)
    (hl : leftByButton w.trace = false) (n : Nat) :
    wp (moveLoop pos n) ⟨fun _ w' => leftByButton w'.trace = false ∧ Ended pos w',
      fun _ => False, fun _ => True⟩ ω w := by
  refine wp_repeatWhile (ReadPast t) (fun w₁ h₁ => ?_) (fun _ _ => trivial) n ⟨hl, ht⟩
  rw [wp_get_bind, wp_ite, wp_pure]
  refine ⟨fun hp => ⟨h₁.1, .inl hp⟩, fun _ => ?_⟩
  have hrel₁ : ∀ k, w₁.tick ≤ k → released ω k = true := fun k hk => hrel k (h₁.2.trans hk)
  apply wp_of_run (moveIteration_left pos)
  intro again w₂ hrun hearly
  obtain ⟨hl₂, ht₂⟩ := wp_run (moveIteration_released hrel₁) hrun
  cases again with
  | true => exact ⟨hl₂, h₁.2.trans ht₂⟩
  | false => exact ⟨hl₂, .inr hearly⟩

/-- A button that is still down at the first check ends the move. -/
theorem Uninterrupted.released (hun : Uninterrupted ω pos w) :
    startPosition ω w = pos ∨ expiresFirst ω w = true ∨ released ω (firstCheck ω w) = true := by
  by_contra hnot
  obtain ⟨hpos, hnot'⟩ := not_or.mp hnot
  obtain ⟨hexp, hrel⟩ := not_or.mp hnot'
  rw [Bool.not_eq_true] at hexp hrel
  obtain ⟨_, w₁, hrun, hs⟩ := exists_run (startMove_started (ω := ω) (w := w))
  -- one iteration is enough: its button check finds the button still down
  have hloop := hun 1 w₁ hrun
  obtain ⟨again, w₂, hiter, -, hfirst⟩ := exists_run (moveIteration_first pos hs)
  obtain ⟨hagain, hleft, -⟩ := hfirst hexp
  rw [hrel] at hagain
  subst hagain
  have hne : ¬ w₁.door.doorPosition = pos := by
    rw [hs.position]
    exact hpos
  have hdone := wp_run (((wp_moveLoop_succ 0).mp hloop).2 hne) hiter
  have hbutton : leftByButton w₂.trace = false := hdone.1
  rw [hleft] at hbutton
  cases hbutton

/-- A move whose first check finds all buttons released is not left by a button. -/
theorem uninterrupted_of_released (h : NoNewPress ω w.tick)
    (hcond : startPosition ω w = pos ∨ expiresFirst ω w = true ∨
      released ω (firstCheck ω w) = true) : Uninterrupted ω pos w := by
  have hcheck : w.tick ≤ firstCheck ω w := by
    unfold firstCheck
    split <;> omega
  intro n w₁ hrun
  have hs := wp_run startMove_started hrun
  cases n with
  | zero => exact wp_pending.mpr trivial
  | succ n =>
    refine (wp_moveLoop_succ n).mpr ⟨fun hp => ⟨hs.left, .inl hp⟩, fun hp => ?_⟩
    apply wp_of_run (moveIteration_left pos)
    intro again w₂ hiter hearly
    obtain ⟨hexpired, hgoes⟩ := wp_run (moveIteration_first pos hs) hiter
    cases hexp : expiresFirst ω w with
    | true =>
      obtain ⟨hl, rfl⟩ := hexpired hexp
      exact ⟨hl, .inr hearly⟩
    | false =>
      -- a button that is up at the first check stays up
      have hrel : released ω (firstCheck ω w) = true := by
        rcases hcond with hpos | htrue | hrel
        · exact absurd (hs.position.trans hpos) hp
        · rw [hexp] at htrue
          cases htrue
        · exact hrel
      obtain ⟨hagain, hl, ht⟩ := hgoes hexp
      rw [hrel] at hagain
      subst hagain
      exact moveLoop_released (fun k hk => h.released hcheck hrel hk) ht hl n

end Buttons

/-- If no button is pressed anew once the move has begun, the move is not left by a button exactly
    if the door is at its goal from the start, a time limit is exceeded in the first iteration, or
    every button has been released by the first button check. -/
theorem uninterrupted_iff {ω : Env} {w : World} (pos : Klappenposition)
    (h : NoNewPress ω w.tick) :
    Uninterrupted ω pos w ↔ startPosition ω w = pos ∨ expiresFirst ω w = true ∨
      released ω (firstCheck ω w) = true :=
  ⟨fun hun => hun.released, uninterrupted_of_released h⟩

/-- The door is down, and SW_FWD is held for the first `r` readings of the move. -/
def heldEnv (r : Nat) : Env := fun n => { swFwd := decide (n < r), millis := UInt32.ofNat n }

theorem noNewPress_heldEnv (r t : Nat) : NoNewPress (heldEnv r) t where
  select := fun _ _ h => h
  exit := fun _ _ h => h
  back := fun _ _ h => h
  fwd := by
    intro n _ h
    simp only [heldEnv, decide_eq_true_eq] at h ⊢
    omega

/-- SW_FWD is released between the start of the move and its first button check. -/
theorem uninterrupted_iff_heldEnv :
    (heldEnv 9 0).swFwd = true ∧ Uninterrupted (heldEnv 9) .posUp {} :=
  ⟨by decide, (uninterrupted_iff .posUp (noNewPress_heldEnv 9 0)).mpr (.inr (.inr (by decide)))⟩

/-- SW_FWD is released after the first button check: the press that has ordered the move ends it. -/
theorem held_button_interrupts :
    ¬ ∀ (ω : Env) (w : World) (pos : Klappenposition), pos = .posUp ∨ pos = .posDown →
      NoNewPress ω w.tick → (ω w.tick).swFwd = true →
      (∃ r, w.tick < r ∧ ∀ n, r ≤ n → (ω n).swFwd = false) → Uninterrupted ω pos w := by
  intro h
  have hreleased : ∃ r, ({} : World).tick < r ∧ ∀ n, r ≤ n → (heldEnv 20 n).swFwd = false := by
    refine ⟨20, by decide, fun n hn => ?_⟩
    simp only [heldEnv, decide_eq_false_iff_not]
    omega
  have hpress := noNewPress_heldEnv 20 ({} : World).tick
  have hun := h (heldEnv 20) {} .posUp (.inl rfl) hpress rfl hreleased
  rcases hun.released with hpos | hexp | hrel
  · exact absurd hpos (by decide)
  · exact absurd hexp (by decide)
  · exact absurd hrel (by decide)

end Eggvault.Spec
