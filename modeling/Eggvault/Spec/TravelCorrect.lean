import Eggvault.Spec.Rounds

/-!
# How a move ends

What the goal, the time limits and the motor lines say about the readings of a whole move.  A
span of rounds is described by `EverSince` over the states in which they began.

## Key results

- `success_genuine`: a move that ends at its goal has seen the door there
- `never_away_iff`: exactly when the motor is never driven away from the goal
- `blocked_error_iff`: exactly when the error of the block limit is justified
- `travel_limits_iff`: exactly when the travel limits are the configured ones
- `move_terminates`: the loop of a move is left
-/

namespace Eggvault.Spec

open Eggvault.Native Prog Trace

/-! ## Reaching the goal -/

section Goal

variable {ω : Env} {pos : Klappenposition} {w w₀ w' u : World} {ws : List World} {again : Bool}
  {t : Nat} {r : Bool × Bool} {d : Door}

/-- The motor runs on only at the bottom, from the moment it came there on its way down. -/
theorem sensedDoor_finishing (h : (sensedDoor ω pos t r d).doorDirection = .finishingDown) :
    r = (false, false) ∧
      ((d.doorDirection = .movingDown ∧
          (sensedDoor ω pos t r d).downwardsTimer = (ω t).millis) ∨
        (d.doorDirection = .finishingDown ∧
          (sensedDoor ω pos t r d).downwardsTimer = d.downwardsTimer)) := by
  have htowards : towards pos ≠ .finishingDown := by
    unfold towards
    split <;> decide
  obtain ⟨up, low⟩ := r
  cases up <;> cases low <;> cases hd : d.doorDirection <;>
    simp_all [sensedDoor]

/-- While the motor runs on, every round since it began to has read both switches low and has
    left the motor going down. -/
theorem Rounds.finishing (h : Rounds ω .posDown w₀ ws true w) (hp : w.door.doorPosition ≠ .posDown)
    (hd : w.door.doorDirection = .finishingDown) :
    EverSince (fun v => reading ω v = (false, false) ∧ lines v = (false, true))
      (fun v => w.door.downwardsTimer = (ω (v.tick + 2)).millis ∧
        motorWrites w.trace = motorWrites v.trace) ws := by
  -- induction on the rounds: the run-on has begun in the last one or before it
  induction ws generalizing w with
  | nil =>
    cases h.underway (.inr rfl) hp with
    | standing _ _ hstand _ _ _ =>
      rw [hstand] at hd
      cases hd
  | cons u ws ih =>
    obtain ⟨hr, hpu, hturn⟩ := h.turn
    rw [hturn.door_eq] at hd
    obtain ⟨hread, hcases⟩ := sensedDoor_finishing hd
    have hlines : lines u = (false, true) := by
      cases hr.underway (.inr rfl) hpu with
      | standing _ _ hstand _ _ _ =>
        rw [hstand] at hcases
        rcases hcases with ⟨hf, -⟩ | ⟨hf, -⟩ <;> cases hf
      | driving _ _ _ _ hl _ _ => exact hl
    have hwrites : motorWrites w.trace = motorWrites u.trace := by
      rw [hturn.writes, hread]
      rcases hcases with ⟨hd', -⟩ | ⟨hd', -⟩ <;> rw [hd'] <;> rfl
    refine ⟨⟨hread, hlines⟩, ?_⟩
    rw [hturn.door_eq]
    rcases hcases with ⟨-, htimer⟩ | ⟨hd', htimer⟩
    · exact .inl ⟨htimer, hwrites⟩
    · -- the timer was started in an earlier round
      right
      apply (ih hr hpu hd').mono (fun _ hv => hv)
      rintro v _ ⟨hv, hwr⟩
      exact ⟨htimer.trans hv, hwrites.trans hwr⟩

/-- A round that ends anywhere but at a blocked door has exceeded no limit. -/
theorem Turn.unlimited (h : Turn ω pos w again w') (hp : w'.door.doorPosition ≠ .posBlocked) :
    limit ω pos w = none ∧ w'.door = sensed ω pos w := by
  cases hl : limit ω pos w with
  | none =>
    have hdoor := h.door
    rw [hl] at hdoor
    exact ⟨rfl, hdoor⟩
  | some error =>
    have hdoor := h.door
    rw [hl] at hdoor
    exact absurd (congrArg Door.doorPosition hdoor) hp

/-- The top is only ever reported by both switches high. -/
theorem sensedDoor_posUp (h : (sensedDoor ω pos t r d).doorPosition = .posUp)
    (hd : d.doorPosition ≠ .posUp) : r = (true, true) := by
  have hfinish : (finished ω t d).doorPosition ≠ .posUp := by
    unfold finished
    split
    · exact fun hf => by cases hf
    · exact hd
  obtain ⟨up, low⟩ := r
  cases up <;> cases low <;> cases hdir : d.doorDirection <;> simp_all [sensedDoor]

/-- The bottom is reported by both switches low, to a motor that did not go down or that has run
    on for long enough. -/
theorem sensedDoor_posDown (h : (sensedDoor ω pos t r d).doorPosition = .posDown)
    (hd : d.doorPosition ≠ .posDown) :
    r = (false, false) ∧ d.doorDirection ≠ .movingDown ∧
      (d.doorDirection = .finishingDown → (ω t).millis - d.downwardsTimer > tDownFinish * 1000) := by
  have hfinish : (finished ω t d).doorPosition = .posDown →
      (ω t).millis - d.downwardsTimer > tDownFinish * 1000 := by
    unfold finished
    split
    · intro _
      assumption
    · exact fun hf => absurd hf hd
  obtain ⟨up, low⟩ := r
  cases up <;> cases low <;> cases hdir : d.doorDirection <;> simp_all [sensedDoor]

/-- The position that `moveMotor` starts with. -/
theorem startPosition_eq (ω : Env) (w : World) :
    (startPosition ω w = .posUp → reading ω w = (true, true)) ∧
      (startPosition ω w = .posDown → reading ω w = (false, false)) := by
  unfold startPosition reading
  cases (ω w.tick).endUp <;> cases (ω (w.tick + 1)).endLow <;> simp

/-- The door of a move to the bottom that was started in `w` has run on: every round of a span
    of more than `t_down_finish` seconds by the clock, up to the last one, has read both switches
    low, with M_BACK alone high and no write to a motor line since the span began. -/
def RanOn (ω : Env) (ws : List World) (w' : World) : Prop :=
  ∃ u, ws.head? = some u ∧
    EverSince (fun v => reading ω v = (false, false) ∧ lines v = (false, true))
      (fun v => (ω (u.tick + 2)).millis - (ω (v.tick + 2)).millis > tDownFinish * 1000 ∧
        motorWrites w'.trace = motorWrites v.trace) ws

/-- The door was at the bottom from the start, or in the first round: the motor has not been
    driven down.  All that the first round then writes is M_FWD high and M_BACK low. -/
def WasDown (ω : Env) (w : World) (ws : List World) (w' : World) : Prop :=
  (ws = [] ∧ reading ω w = (false, false) ∧ motorWrites w'.trace = motorWrites w.trace) ∨
    ∃ u, ws = [u] ∧ reading ω u = (false, false) ∧
      motorWrites w'.trace = (true, false) :: (true, u.pins.back) :: motorWrites w.trace

/-- A move to the bottom ends there as it should. -/
theorem Rounds.atBottom (h : Rounds ω .posDown w₀ ws again w')
    (hp : w'.door.doorPosition = .posDown) : WasDown ω w₀ ws w' ∨ RanOn ω ws w' := by
  cases ws with
  | nil =>
    cases h with
    | start _ hrun =>
      have hs := wp_run startMove_started hrun
      obtain ⟨hwr, -⟩ := wp_run startMove_records hrun
      exact .inl (.inl ⟨rfl, (startPosition_eq ω w₀).2 (hs.position.symm.trans hp), hwr⟩)
  | cons u ws =>
    obtain ⟨hr, hpu, hturn⟩ := h.turn
    obtain ⟨-, hdoor⟩ := hturn.unlimited (by rw [hp]; decide)
    rw [hdoor] at hp
    obtain ⟨hread, hnot, hlate⟩ := sensedDoor_posDown hp hpu
    cases hr.underway (.inr rfl) hpu with
    | standing _ _ hstand _ hwr _ =>
      -- the first round: a standing motor is driven up
      left
      right
      refine ⟨u, rfl, hread, ?_⟩
      rw [hturn.writes, hread, hstand, hwr]
      rfl
    | driving _ x ws' hd hl _ _ =>
      have hfinish : u.door.doorDirection = .finishingDown := by
        revert hd hnot
        cases u.door.doorDirection <;> simp [headed]
      have hquiet : motorWrites w'.trace = motorWrites u.trace := by
        rw [hturn.writes, hread, hfinish]
        rfl
      right
      refine ⟨u, rfl, ⟨hread, hl⟩, .inr ?_⟩
      apply (hr.finishing hpu hfinish).mono (fun _ hv => hv)
      rintro v _ ⟨htimer, hwr⟩
      have hspan := hlate hfinish
      rw [htimer] at hspan
      exact ⟨hspan, hquiet.trans hwr⟩

/-- A move to the top ends there with both switches high. -/
theorem Rounds.atTop (h : Rounds ω .posUp w₀ ws again w') (hp : w'.door.doorPosition = .posUp) :
    reading ω (ws.headD w₀) = (true, true) := by
  cases ws with
  | nil =>
    cases h with
    | start _ hrun =>
      have hs := wp_run startMove_started hrun
      exact (startPosition_eq ω w₀).1 (hs.position.symm.trans hp)
  | cons u ws =>
    obtain ⟨-, hpu, hturn⟩ := h.turn
    obtain ⟨-, hdoor⟩ := hturn.unlimited (by rw [hp]; decide)
    rw [hdoor] at hp
    exact sensedDoor_posUp hp hpu

end Goal

/-- If the loop of `moveMotor` is left at its goal, then the last reading of a move to the top was
    both switches high, and a move to the bottom was there from the start or has run on. -/
theorem success_genuine {ω : Env} {pos : Klappenposition} {w w' : World} {ws : List World}
    {again : Bool} (h : Rounds ω pos w ws again w') (hp : w'.door.doorPosition = pos) :
    (pos = .posUp → reading ω (ws.headD w) = (true, true)) ∧
      (pos = .posDown → WasDown ω w ws w' ∨ RanOn ω ws w') := by
  refine ⟨fun hup => ?_, fun hdown => ?_⟩
  · subst hup
    exact h.atTop hp
  · subst hdown
    exact h.atBottom hp

/-- A call that returns, once its phase has been computed. -/
theorem done_of_awake {o : Outcome World Unit} (h : (afterCall o).1 = .awake) :
    o = .done () (afterCall o).2 := by
  cases o with
  | done _ _ => rfl
  | halt _ => cases h
  | pending _ => cases h

/-- The device before the loop of a move. -/
def moveBegun (ω : Env) : World := (afterCall (startMove ω {})).2

/-- The device after the loop of a move, within so many rounds. -/
def moveLeft (ω : Env) (pos : Klappenposition) (n : Nat) : World :=
  (afterCall (moveLoop pos n ω (moveBegun ω))).2

/-- The rounds of a loop that was computed to its end. -/
theorem exists_rounds (ω : Env) (pos : Klappenposition) (n : Nat)
    (hs : (afterCall (startMove ω {})).1 = .awake)
    (hl : (afterCall (moveLoop pos n ω (moveBegun ω))).1 = .awake) :
    ∃ ws again, Rounds ω pos {} ws again (moveLeft ω pos n) := by
  obtain ⟨ws, again, hr, -⟩ := rounds_of_moveLoop (done_of_awake hs) (done_of_awake hl)
  exact ⟨ws, again, hr⟩

/-- The door is on its way and comes to the bottom with reading 10, a second for each reading. -/
def runOnEnv : Env := fun k => { endUp := decide (k < 10), millis := UInt32.ofNat (1000 * k) }

theorem success_genuine_runOnEnv :
    ∃ ws again w', Rounds runOnEnv .posDown {} ws again w' ∧ w'.door.doorPosition = .posDown ∧
      (WasDown runOnEnv {} ws w' ∨ RanOn runOnEnv ws w') := by
  obtain ⟨ws, again, hr⟩ := exists_rounds runOnEnv .posDown 4 (by decide +kernel)
    (by decide +kernel)
  have hp : (moveLeft runOnEnv .posDown 4).door.doorPosition = .posDown := by decide +kernel
  exact ⟨ws, again, _, hr, hp, (success_genuine hr hp).2 rfl⟩

/-! ## The lines during a move -/

/-- What the round from `u` to `v` has written to M_FWD and M_BACK. -/
def written (u v : World) : Option (Bool × Bool) :=
  if motorWrites v.trace = motorWrites u.trace then none else some (lines v)

/-- The line that drives the door away from `pos` is high. -/
def away (pos : Klappenposition) (l : Bool × Bool) : Bool :=
  match pos with
  | .posUp => l.2
  | .posDown => l.1
  | _ => false

/-- No round of the move to `pos` that starts in `w` sets the line high that drives the door away
    from `pos`. -/
def NeverAway (ω : Env) (pos : Klappenposition) (w : World) : Prop :=
  ∀ ws again u v, Rounds ω pos w (u :: ws) again v → ∀ l, written u v = some l → away pos l = false

section Lines

variable {ω : Env} {pos : Klappenposition} {w w₀ w' u v : World} {ws : List World} {again : Bool}

/-- A round writes both lines once, or neither. -/
theorem Turn.written (h : Turn ω pos u again v) :
    written u v = command pos (reading ω u) u.door.doorDirection := by
  have hwrites := h.writes
  have hlines := h.lines
  unfold Spec.written
  cases hc : command pos (reading ω u) u.door.doorDirection with
  | none =>
    rw [hc] at hwrites
    exact if_pos hwrites
  | some l =>
    rw [hc] at hwrites hlines
    have hne : motorWrites v.trace ≠ motorWrites u.trace := by
      intro heq
      have hlen := congrArg List.length (heq.symm.trans hwrites)
      simp only [List.length_cons] at hlen
      omega
    rw [if_neg hne, hlines]
    rfl

/-- The rounds that set the wrong line: at the top of a move to the top, and in the first round
    of a move to the bottom that finds the door there. -/
theorem Rounds.written_away (hpos : pos = .posUp ∨ pos = .posDown)
    (h : Rounds ω pos w₀ (u :: ws) again v) :
    (∃ l, written u v = some l ∧ away pos l = true) ↔
      (pos = .posUp ∧ reading ω u = (true, true)) ∨
        (pos = .posDown ∧ ws = [] ∧ reading ω u = (false, false)) := by
  obtain ⟨hr, hp, hturn⟩ := h.turn
  rw [hturn.written]
  generalize reading ω u = r
  obtain ⟨up, low⟩ := r
  cases hr.underway hpos hp with
  | standing _ _ hd _ _ _ =>
    rcases hpos with rfl | rfl <;> cases up <;> cases low <;> simp [hd, command, drive, away]
  | driving _ _ _ hd _ _ _ =>
    revert hd
    rcases hpos with rfl | rfl <;> cases u.door.doorDirection <;> cases up <;> cases low <;>
      simp [headed, command, away]

end Lines

/-- The motor is never commanded away from the goal exactly if a move to the top never reads both
    switches high inside its loop, and a move to the bottom does not read both of them low in its
    first round. -/
theorem never_away_iff {ω : Env} {pos : Klappenposition} {w : World}
    (hpos : pos = .posUp ∨ pos = .posDown) :
    NeverAway ω pos w ↔ ∀ ws again u v, Rounds ω pos w (u :: ws) again v →
      (pos = .posUp → reading ω u ≠ (true, true)) ∧
        (pos = .posDown → ws = [] → reading ω u ≠ (false, false)) := by
  constructor
  · intro h ws again u v hr
    have hiff := hr.written_away hpos
    have hnot : ¬ ∃ l, written u v = some l ∧ away pos l = true := by
      rintro ⟨l, hl, haway⟩
      rw [h ws again u v hr l hl] at haway
      cases haway
    rw [hiff, not_or] at hnot
    exact ⟨fun hup hread => hnot.1 ⟨hup, hread⟩,
      fun hdown hfirst hread => hnot.2 ⟨hdown, hfirst, hread⟩⟩
  · intro h ws again u v hr l hl
    by_contra haway
    have haway' : away pos l = true := by simpa using haway
    obtain ⟨hup, hdown⟩ := h ws again u v hr
    rcases (hr.written_away hpos).mp ⟨l, hl, haway'⟩ with ⟨hpos', hread⟩ | ⟨hpos', hfirst, hread⟩
    · exact hup hpos' hread
    · exact hdown hpos' hfirst hread

/-- The first round of a move begins two readings after the move. -/
theorem Rounds.first_tick {ω : Env} {pos : Klappenposition} {w u v : World} {again : Bool}
    (h : Rounds ω pos w [u] again v) : u.tick = w.tick + 2 := by
  obtain ⟨hr, -⟩ := h.turn
  cases hr with
  | start _ hrun => exact (wp_run startMove_started hrun).tick

theorem never_away_iff_runOnEnv : NeverAway runOnEnv .posDown {} := by
  refine (never_away_iff (.inr rfl)).mpr fun ws again u v hr => ⟨fun hup => ?_, fun _ hfirst => ?_⟩
  · cases hup
  · subst hfirst
    have htick : u.tick = 2 := hr.first_tick
    unfold reading
    rw [htick]
    decide

/-- The door is on its way, and at the top from reading 2 on. -/
def arrivesEnv : Env := fun k => { endUp := true, endLow := decide (2 ≤ k) }

/-- A move to the top that arrives there switches the motor over to driving down. -/
theorem driven_away_at_top :
    ¬ ∀ (ω : Env) (w : World) (pos : Klappenposition), pos = .posUp ∨ pos = .posDown →
      NeverAway ω pos w := by
  intro h
  obtain ⟨_, u, hstart, hs⟩ := exists_run (startMove_started (ω := arrivesEnv) (w := {}))
  obtain ⟨again, v, hround, -⟩ := exists_run (moveIteration_turn (ω := arrivesEnv) (w := u) .posUp)
  have hne : u.door.doorPosition ≠ .posUp := by
    rw [hs.position]
    decide
  have hr : Rounds arrivesEnv .posUp {} [u] again v := .next [] u v again (.start u hstart) hne hround
  have hread : reading arrivesEnv u = (true, true) := by
    unfold reading
    rw [hs.tick]
    rfl
  obtain ⟨l, hl, haway⟩ := (hr.written_away (.inl rfl)).mpr (.inl ⟨rfl, hread⟩)
  rw [h arrivesEnv {} .posUp (.inl rfl) [] again u v hr l hl] at haway
  cases haway

/-! ## The block limit -/

/-- Since END_UP was last high, a reading of both switches low has come directly after a reading
    of the blocked door. -/
def stuckThenDown (ω : Env) : List World → Prop
  | v :: u :: ws => (reading ω v).1 = false ∧
      ((reading ω v = (false, false) ∧ reading ω u = (false, true)) ∨ stuckThenDown ω (u :: ws))
  | _ => False

/-- The block period of a move is justified: it began in a round that found the door blocked
    anew, every round since then has found it blocked, and it has lasted for more than
    `t_err_block` seconds by the clock. -/
def BlockJustified (ω : Env) (ws : List World) : Prop :=
  ∃ u, ws.head? = some u ∧
    EverSince (fun v => reading ω v = (false, true))
      (fun v => v.door.doorPosition ≠ .posBlocked ∧ ∃ k, v.tick ≤ k ∧ k < checkTick ω v ∧
        (ω (checkTick ω u)).millis - (ω k).millis > tErrBlock * 1000) ws

section Blocked

variable {ω : Env} {pos : Klappenposition} {w w₀ w' u v : World} {ws : List World} {again : Bool}
  {t : Nat} {r : Bool × Bool} {d : Door}

/-- A round finds the door blocked and starts the block timer, or it leaves an earlier block as it
    was: that is so for a door that is still blocked, and for one that comes to the bottom on its
    way down. -/
theorem sensedDoor_posBlocked (h : (sensedDoor ω pos t r d).doorPosition = .posBlocked) :
    (r = (false, true) ∧ d.doorPosition ≠ .posBlocked ∧
        ∃ k, t ≤ k ∧ k < t + sensedReads r d ∧
          (sensedDoor ω pos t r d).blockZero = (ω k).millis) ∨
      ((r = (false, true) ∨ r = (false, false)) ∧ d.doorPosition = .posBlocked ∧
        (sensedDoor ω pos t r d).blockZero = d.blockZero) := by
  obtain ⟨up, low⟩ := r
  have hfinished : (finished ω t d).blockZero = d.blockZero := by
    unfold finished
    split <;> rfl
  have hstays : (finished ω t d).doorPosition = .posBlocked → d.doorPosition = .posBlocked := by
    unfold finished
    split
    · intro hf
      cases hf
    · exact id
  by_cases hb : d.doorPosition = .posBlocked
  · right
    cases up <;> cases low <;> cases hd : d.doorDirection <;>
      simp_all [sensedDoor, blockedAt]
  · left
    cases up <;> cases low <;> cases hd : d.doorDirection <;>
      simp_all [sensedDoor, blockedAt, sensedReads]
    -- a motor that stood has read the clock once more
    · exact ⟨t, by omega, by omega, rfl⟩
    · exact ⟨t, by omega, by omega, rfl⟩
    · exact ⟨t, by omega, by omega, rfl⟩
    · exact ⟨t + 1, by omega, by omega, rfl⟩

/-- A move does not begin with a blocked door. -/
theorem Rounds.not_blocked (h : Rounds ω pos w₀ [] true w) : w.door.doorPosition ≠ .posBlocked := by
  cases h with
  | start _ hrun =>
    rw [(wp_run startMove_started hrun).position]
    exact startPosition_ne_blocked ω w₀

/-- A door that is noted as blocked was blocked in the last round, or a block was not cleared. -/
theorem Rounds.blocked_or_stuck (h : Rounds ω pos w₀ ws true w)
    (hb : w.door.doorPosition = .posBlocked) :
    (∃ u ws', ws = u :: ws' ∧ reading ω u = (false, true)) ∨ stuckThenDown ω ws := by
  induction ws generalizing w with
  | nil => exact absurd hb h.not_blocked
  | cons u ws ih =>
    obtain ⟨hr, -, hturn⟩ := h.turn
    rw [hturn.door_eq] at hb
    rcases sensedDoor_posBlocked hb with ⟨hread, -⟩ | ⟨hread | hread, hold, -⟩
    · exact .inl ⟨u, ws, rfl, hread⟩
    · exact .inl ⟨u, ws, rfl, hread⟩
    · -- the bottom was read while the door was noted as blocked
      right
      rcases ih hr hold with ⟨x, xs, rfl, hx⟩ | hstuck
      · exact ⟨by rw [hread], .inl ⟨hread, hx⟩⟩
      · cases ws with
        | nil => exact hstuck.elim
        | cons x xs => exact ⟨by rw [hread], .inr hstuck⟩

/-- The block period up to the timer checks of the last round. -/
theorem Rounds.block_period (hpos : pos = .posUp ∨ pos = .posDown)
    (h : Rounds ω pos w₀ (u :: ws) again w') (hb : (sensed ω pos u).doorPosition = .posBlocked)
    (hfree : pos = .posUp ∨ ¬ stuckThenDown ω (u :: ws)) :
    EverSince (fun v => reading ω v = (false, true))
      (fun v => v.door.doorPosition ≠ .posBlocked ∧ ∃ k, v.tick + 2 ≤ k ∧ k < checkTick ω v ∧
        (sensed ω pos u).blockZero = (ω k).millis) (u :: ws) := by
  -- induction on the rounds, back to the one that has found the door blocked first
  induction ws generalizing u again w' with
  | nil =>
    obtain ⟨hr, -, -⟩ := h.turn
    rcases sensedDoor_posBlocked hb with ⟨hread, hnew, hk⟩ | ⟨-, hold, -⟩
    · exact ⟨hread, .inl ⟨hnew, hk⟩⟩
    · exact absurd hold hr.not_blocked
  | cons x xs ih =>
    obtain ⟨hr, hp, -⟩ := h.turn
    rcases sensedDoor_posBlocked hb with ⟨hread, hnew, hk⟩ | ⟨hreads, hold, hzero⟩
    · exact ⟨hread, .inl ⟨hnew, hk⟩⟩
    · -- the block goes on, and so the reading is not that of the bottom
      have hread : reading ω u = (false, true) := by
        rcases hreads with hread | hread
        · exact hread
        · exfalso
          rcases hfree with rfl | hfree
          · cases hr.underway hpos hp with
            | driving _ _ _ hd _ _ _ =>
              have hup : u.door.doorDirection = .movingUp := by
                revert hd
                cases u.door.doorDirection <;> simp [headed]
              simp [sensed, sensedDoor, hread, hup] at hb
          · apply hfree
            rcases hr.blocked_or_stuck hold with ⟨y, ys, heq, hy⟩ | hstuck
            · cases heq
              exact ⟨by rw [hread], .inl ⟨hread, hy⟩⟩
            · exact ⟨by rw [hread], .inr hstuck⟩
      obtain ⟨-, -, hturn⟩ := hr.turn
      have hdoor := hturn.door_eq
      have hfree' : pos = .posUp ∨ ¬ stuckThenDown ω (x :: xs) := by
        rcases hfree with hup | hfree
        · exact .inl hup
        · exact .inr fun hstuck => hfree ⟨by rw [hread], .inr hstuck⟩
      refine ⟨hread, .inr ?_⟩
      apply (ih hr (by rw [← hdoor]; exact hold) hfree').mono (fun _ hv => hv)
      rintro v _ ⟨hnew, k, hle, hge, hk⟩
      refine ⟨hnew, k, hle, hge, ?_⟩
      rw [← hdoor] at hk
      exact hzero.trans hk

/-- On the way down a block that was not cleared is still noted. -/
theorem Rounds.stuck_blocked (h : Rounds ω .posDown w₀ ws true w)
    (hp : w.door.doorPosition ≠ .posDown) (hstuck : stuckThenDown ω ws) :
    w.door.doorPosition = .posBlocked := by
  induction ws generalizing w with
  | nil => exact hstuck.elim
  | cons u ws ih =>
    obtain ⟨hr, hpu, hturn⟩ := h.turn
    cases ws with
    | nil => exact hstuck.elim
    | cons x xs =>
      obtain ⟨hlow, hcases⟩ := hstuck
      have hu : u.door.doorPosition = .posBlocked := by
        rcases hcases with ⟨-, hx⟩ | hstuck
        · obtain ⟨-, -, hturn'⟩ := hr.turn
          rw [hturn'.door_eq, sensed, hx]
          cases hd : x.door.doorDirection <;> simp [sensedDoor, hd]
        · exact ih hr hpu hstuck
      -- both readings with END_UP low keep the note of the block
      rw [hturn.door_eq] at hp ⊢
      cases hr.underway (.inr rfl) hpu with
      | driving _ _ _ hd _ _ _ =>
        revert hp hlow
        unfold sensed
        generalize reading ω u = r
        obtain ⟨up, low⟩ := r
        rintro hp rfl
        have hfinish : (finished ω (u.tick + 2) u.door).doorPosition = .posDown ∨
            (finished ω (u.tick + 2) u.door).doorPosition = .posBlocked := by
          unfold finished
          split
          · exact .inl rfl
          · exact .inr hu
        revert hd
        cases low <;> cases hdir : u.door.doorDirection <;> simp_all [headed, sensedDoor]

/-- A justified block period contains no block that was not cleared. -/
theorem Rounds.not_stuck {Q : World → Prop} (h : Rounds ω .posDown w₀ (u :: ws) again w')
    (hsince : EverSince (fun v => reading ω v = (false, true))
      (fun v => v.door.doorPosition ≠ .posBlocked ∧ Q v) (u :: ws)) :
    ¬ stuckThenDown ω (u :: ws) := by
  induction ws generalizing u again w' with
  | nil => exact id
  | cons x xs ih =>
    obtain ⟨hr, hp, -⟩ := h.turn
    obtain ⟨hread, hcases⟩ := hsince
    rintro ⟨-, ⟨hbottom, -⟩ | hstuck⟩
    · rw [hread] at hbottom
      cases hbottom
    · rcases hcases with ⟨hnew, -⟩ | hsince
      · exact hnew (hr.stuck_blocked hp hstuck)
      · exact ih hr hsince hstuck

/-- The errors that a sequence of rounds has raised are those of its last round. -/
theorem Rounds.raises (hpos : pos = .posUp ∨ pos = .posDown) (h : Rounds ω pos w₀ (u :: ws) again w') :
    raises w'.trace = (limit ω pos u).toList ++ Spec.raises w₀.trace := by
  obtain ⟨hr, hp, hturn⟩ := h.turn
  rw [hturn.raises]
  cases hr.underway hpos hp with
  | standing _ _ _ _ _ hra => rw [hra]
  | driving _ _ _ _ _ _ hra => rw [hra]

theorem Rounds.raised (hpos : pos = .posUp ∨ pos = .posDown) (h : Rounds ω pos w₀ ws again w')
    {error : ErrorCode} (he : Spec.raises w'.trace = error :: Spec.raises w₀.trace) :
    ∃ u ws', ws = u :: ws' ∧ limit ω pos u = some error := by
  cases ws with
  | nil =>
    cases h with
    | start _ hrun =>
      obtain ⟨-, hra⟩ := wp_run startMove_records hrun
      rw [hra] at he
      have hlen := congrArg List.length he
      simp only [List.length_cons] at hlen
      omega
  | cons u ws =>
    rw [h.raises hpos] at he
    cases hl : limit ω pos u with
    | none =>
      rw [hl] at he
      have hlen := congrArg List.length he
      simp at hlen
    | some e =>
      rw [hl] at he
      simp at he
      exact ⟨u, ws, rfl, by rw [hl, he]⟩

theorem limitOf_blocked (h : limitOf ω t d = some .timerBlockedElapsed) :
    d.doorPosition = .posBlocked ∧ (ω t).millis - d.blockZero > tErrBlock * 1000 := by
  unfold limitOf at h
  split at h
  · assumption
  · dsimp only at h
    generalize (ω (if d.doorPosition = .posBlocked then t + 1 else t)).millis = now at h
    split at h
    · cases h
    · split at h <;> cases h

end Blocked

/-- If a move raises the error of the block limit, its block period is justified exactly if it is a
    move to the top, or a move to the bottom that has not read both switches low right after the
    blocked door since END_UP was last high. -/
theorem blocked_error_iff {ω : Env} {pos : Klappenposition} {w w' : World} {ws : List World}
    {again : Bool} (hpos : pos = .posUp ∨ pos = .posDown) (h : Rounds ω pos w ws again w')
    (he : raises w'.trace = .timerBlockedElapsed :: raises w.trace) :
    BlockJustified ω ws ↔ pos = .posUp ∨ ¬ stuckThenDown ω ws := by
  obtain ⟨u, ws, rfl, hlimit⟩ := h.raised hpos he
  obtain ⟨hb, hlate⟩ := limitOf_blocked hlimit
  constructor
  · rintro ⟨_, _, hsince⟩
    rcases hpos with rfl | rfl
    · exact .inl rfl
    · exact .inr (h.not_stuck hsince)
  · intro hfree
    refine ⟨u, rfl, ?_⟩
    apply (h.block_period hpos hb hfree).mono (fun _ hv => hv)
    rintro v _ ⟨hnew, k, hle, hge, hk⟩
    refine ⟨hnew, k, by omega, hge, ?_⟩
    rw [← hk]
    exact hlate

/-- The door hangs, with two seconds for each reading. -/
def hangingEnv : Env := fun k => { endLow := true, millis := UInt32.ofNat (2000 * k) }

theorem blocked_error_iff_hangingEnv :
    ∃ ws again w', Rounds hangingEnv .posUp {} ws again w' ∧
      raises w'.trace = [.timerBlockedElapsed] ∧ BlockJustified hangingEnv ws := by
  obtain ⟨ws, again, hr⟩ := exists_rounds hangingEnv .posUp 3 (by decide +kernel)
    (by decide +kernel)
  have he : raises (moveLeft hangingEnv .posUp 3).trace = [.timerBlockedElapsed] := by
    decide +kernel
  exact ⟨ws, again, _, hr, he, (blocked_error_iff (.inl rfl) hr he).mpr (.inl rfl)⟩

/-- Every end-switch reading of a span of more than `t_err_block` seconds that ends with the last
    round was the blocked door. -/
def BlockedSpan (ω : Env) (ws : List World) : Prop :=
  ∃ u, ws.head? = some u ∧
    EverSince (fun v => reading ω v = (false, true))
      (fun v => ∃ k, v.tick ≤ k ∧ k < checkTick ω v ∧
        (ω (checkTick ω u)).millis - (ω k).millis > tErrBlock * 1000) ws

/-- What a round returns. -/
def afterRound : Outcome World Bool → Option Bool × World
  | .done again w => (some again, w)
  | .halt w => (none, w)
  | .pending w => (none, w)

/-- The next round, once its result has been computed. -/
theorem Rounds.computed {ω : Env} {pos : Klappenposition} {w₀ w : World} {ws : List World}
    {again : Bool} (h : Rounds ω pos w₀ ws true w) (hp : w.door.doorPosition ≠ pos)
    (ha : (afterRound (moveIteration pos ω w)).1 = some again) :
    Rounds ω pos w₀ (w :: ws) again (afterRound (moveIteration pos ω w)).2 := by
  have hrun : moveIteration pos ω w = .done again (afterRound (moveIteration pos ω w)).2 := by
    revert ha
    cases moveIteration pos ω w with
    | done b w' =>
      intro ha
      cases ha
      rfl
    | halt _ => exact fun ha => by cases ha
    | pending _ => exact fun ha => by cases ha
  exact .next ws w _ again h hp hrun

/-- The door hangs, comes free at the bottom from reading 12 to 19 and hangs again. -/
def freedEnv : Env := fun k =>
  { endLow := decide (k < 12) || decide (20 ≤ k), millis := UInt32.ofNat (2000 * k) }

/-- The device after so many rounds of a move. -/
def roundState (ω : Env) (pos : Klappenposition) : Nat → World
  | 0 => moveBegun ω
  | k + 1 => (afterRound (moveIteration pos ω (roundState ω pos k))).2

/-- The device before the first, the second and the third round. -/
def freedRound : Nat → World := roundState freedEnv .posDown

theorem freedEnv_rounds :
    Rounds freedEnv .posDown {} [freedRound 2, freedRound 1, freedRound 0] false (freedRound 3) := by
  have h₀ : Rounds freedEnv .posDown {} [] true (freedRound 0) :=
    .start _ (done_of_awake (by decide +kernel))
  have h₁ : Rounds freedEnv .posDown {} [freedRound 0] true (freedRound 1) :=
    h₀.computed (by decide +kernel) (by decide +kernel)
  have h₂ : Rounds freedEnv .posDown {} [freedRound 1, freedRound 0] true (freedRound 2) :=
    h₁.computed (by decide +kernel) (by decide +kernel)
  exact h₂.computed (by decide +kernel) (by decide +kernel)

/-- The door that came free for one round is reported as blocked for the whole time. -/
theorem blocked_error_unjustified :
    ¬ ∀ (ω : Env) (pos : Klappenposition) (w w' : World) (ws : List World) (again : Bool),
      pos = .posUp ∨ pos = .posDown → Rounds ω pos w ws again w' →
      raises w'.trace = .timerBlockedElapsed :: raises w.trace → BlockedSpan ω ws := by
  intro h
  have he : raises (freedRound 3).trace = [.timerBlockedElapsed] := by decide +kernel
  obtain ⟨u, hu, -, hcases⟩ := h freedEnv .posDown {} _ _ false (.inr rfl) freedEnv_rounds he
  cases hu
  rcases hcases with ⟨k, hle, hlt, hspan⟩ | ⟨hread, -⟩
  · -- the last round alone is too short
    have htick : (freedRound 2).tick = 20 := by decide +kernel
    have hcheck : checkTick freedEnv (freedRound 2) = 22 := by decide +kernel
    rw [hcheck] at hlt hspan
    have hk : k = 20 ∨ k = 21 := by omega
    rcases hk with rfl | rfl <;> exact absurd hspan (by decide)
  · exact absurd hread (by decide +kernel)

/-! ## The travel limits -/

/-- The motor drives the door up. -/
def isUp : Klappenrichtung → Bool
  | .movingUp => true
  | _ => false

/-- The motor drives the door down, also while it runs on. -/
def isDown : Klappenrichtung → Bool
  | .movingDown | .finishingDown => true
  | _ => false

/-- The reading of the clock that a round compares with a travel limit; a blocked door has read
    the clock once before. -/
def travelCheck (ω : Env) (pos : Klappenposition) (u : World) : Nat :=
  if (sensed ω pos u).doorPosition = .posBlocked then checkTick ω u + 1 else checkTick ω u

/-- The motor has driven in one direction for more than so many seconds by the clock: some round
    has started that drive, and every round since then has kept it. -/
def DroveFor (ω : Env) (pos : Klappenposition) (dir : Klappenrichtung → Bool) (secs : UInt32)
    (ws : List World) : Prop :=
  ∃ u, ws.head? = some u ∧
    EverSince (fun v => dir (sensed ω pos v).doorDirection = true)
      (fun v => dir v.door.doorDirection = false ∧
        (ω (travelCheck ω pos u)).millis - (ω (v.tick + 2)).millis > secs * 1000) ws

/-- The travel limits of a move that was started in `w` are the configured ones, and the travel
    timer is not started again while the direction stays the same. -/
structure TravelLimits (ω : Env) (pos : Klappenposition) (w : World) (ws : List World)
    (w' : World) : Prop where
  opening : raises w'.trace = .timerOpenElapsed :: raises w.trace → DroveFor ω pos isUp tErrOpen ws
  closing : raises w'.trace = .timerCloseElapsed :: raises w.trace →
    DroveFor ω pos isDown tErrClose ws
  kept : ∀ dir, dir = isUp ∨ dir = isDown → ∀ ws' again u v, Rounds ω pos w (u :: ws') again v →
    dir u.door.doorDirection = true → dir v.door.doorDirection = true →
      v.door.moveZero = u.door.moveZero

section Travel

variable {ω : Env} {pos : Klappenposition} {w w₀ w' u v : World} {ws : List World} {again : Bool}
  {t : Nat} {r : Bool × Bool} {d : Door} {dir : Klappenrichtung → Bool}

/-- A round that drives in some direction has started the travel timer, or it has kept it. -/
theorem sensedDoor_drives (hdir : dir = isUp ∨ dir = isDown)
    (h : dir (sensedDoor ω pos t r d).doorDirection = true) :
    (dir d.doorDirection = true ∧ (sensedDoor ω pos t r d).moveZero = d.moveZero) ∨
      (dir d.doorDirection = false ∧ (sensedDoor ω pos t r d).moveZero = (ω t).millis) := by
  obtain ⟨up, low⟩ := r
  rcases hdir with rfl | rfl <;> cases up <;> cases low <;> cases hd : d.doorDirection <;>
    simp_all [sensedDoor, isUp, isDown]

/-- The limits do not look at the travel timer. -/
theorem limited_moveZero (d : Door) (error : Option ErrorCode) :
    (limited d error).moveZero = d.moveZero ∧ (limited d error).doorDirection = d.doorDirection := by
  cases error <;> exact ⟨rfl, rfl⟩

theorem Turn.kept (hdir : dir = isUp ∨ dir = isDown) (h : Turn ω pos u again v)
    (hu : dir u.door.doorDirection = true) (hv : dir v.door.doorDirection = true) :
    v.door.moveZero = u.door.moveZero := by
  obtain ⟨hzero, hd⟩ := limited_moveZero (sensed ω pos u) (limit ω pos u)
  rw [h.door] at hv ⊢
  rw [hd] at hv
  rcases sensedDoor_drives hdir hv with ⟨-, hkept⟩ | ⟨hnot, -⟩
  · exact hzero.trans hkept
  · rw [hu] at hnot
    cases hnot

/-- The travel timer shows when the drive began. -/
theorem Rounds.drives (hdir : dir = isUp ∨ dir = isDown) (h : Rounds ω pos w₀ (u :: ws) again w')
    (hu : dir (sensed ω pos u).doorDirection = true) :
    EverSince (fun v => dir (sensed ω pos v).doorDirection = true)
      (fun v => dir v.door.doorDirection = false ∧
        (sensed ω pos u).moveZero = (ω (v.tick + 2)).millis) (u :: ws) := by
  have hstanding : dir .standing = false := by
    rcases hdir with rfl | rfl <;> rfl
  -- induction on the rounds, back to the one that has started the drive
  induction ws generalizing u again w' with
  | nil =>
    obtain ⟨hr, -, -⟩ := h.turn
    refine ⟨hu, .inl ?_⟩
    rcases sensedDoor_drives hdir hu with ⟨hd, -⟩ | hstarts
    · cases hr with
      | start _ hrun =>
        rw [(wp_run startMove_started hrun).direction, hstanding] at hd
        cases hd
    · exact hstarts
  | cons x xs ih =>
    obtain ⟨hr, -, -⟩ := h.turn
    refine ⟨hu, ?_⟩
    rcases sensedDoor_drives hdir hu with ⟨hd, hkept⟩ | hstarts
    · -- the drive goes on from the round before
      right
      obtain ⟨-, -, hturn⟩ := hr.turn
      have hdoor := hturn.door_eq
      apply (ih hr (by rw [← hdoor]; exact hd)).mono (fun _ hv => hv)
      rintro v _ ⟨hv, hzero⟩
      rw [← hdoor] at hzero
      exact ⟨hv, hkept.trans hzero⟩
    · exact .inl hstarts

/-- What an exceeded travel limit says. -/
theorem limit_travel {error : ErrorCode} (h : limit ω pos u = some error)
    (he : error ≠ .timerBlockedElapsed) :
    (ω (travelCheck ω pos u)).millis - (sensed ω pos u).moveZero > tErrClose * 1000 ∧
      ((error = .timerCloseElapsed ∧ (sensed ω pos u).doorDirection = .movingDown) ∨
        (error = .timerOpenElapsed ∧ (sensed ω pos u).doorDirection = .movingUp)) := by
  have hcheck : travelCheck ω pos u =
      if (sensed ω pos u).doorPosition = .posBlocked then checkTick ω u + 1 else checkTick ω u := rfl
  unfold limit limitOf at h
  split at h
  · cases h
    exact absurd rfl he
  · dsimp only at h
    rw [← hcheck] at h
    generalize (ω (travelCheck ω pos u)).millis = now at h ⊢
    split at h
    · next hdown =>
      cases h
      exact ⟨hdown.2, .inl ⟨rfl, hdown.1⟩⟩
    · split at h
      · next hup =>
        cases h
        exact ⟨hup.2, .inr ⟨rfl, hup.1⟩⟩
      · cases h

/-- A drive that a round has found too long has taken so long. -/
theorem Rounds.droveFor (hdir : dir = isUp ∨ dir = isDown) (h : Rounds ω pos w₀ (u :: ws) again w')
    (hu : dir (sensed ω pos u).doorDirection = true) {secs : UInt32}
    (hlong : (ω (travelCheck ω pos u)).millis - (sensed ω pos u).moveZero > secs * 1000) :
    DroveFor ω pos dir secs (u :: ws) := by
  refine ⟨u, rfl, ?_⟩
  apply (h.drives hdir hu).mono (fun _ hv => hv)
  rintro v _ ⟨hv, hzero⟩
  rw [hzero] at hlong
  exact ⟨hv, hlong⟩

/-- The upward drive of a move begins in its first round. -/
theorem Rounds.up_since (hpos : pos = .posUp ∨ pos = .posDown) (h : Rounds ω pos w₀ (u :: ws) again w')
    (hu : isUp (sensed ω pos u).doorDirection = true) :
    (sensed ω pos u).moveZero = (ω (w₀.tick + 4)).millis ∧
      (isUp u.door.doorDirection = false → u.tick = w₀.tick + 2) := by
  obtain ⟨hr, hp, -⟩ := h.turn
  rcases sensedDoor_drives (.inl rfl) hu with ⟨hd, hkept⟩ | ⟨hnot, hstarts⟩
  · refine ⟨hkept.trans ?_, fun hnot => by rw [hd] at hnot; cases hnot⟩
    cases hr.underway hpos hp with
    | standing _ _ hstand _ _ _ =>
      rw [hstand] at hd
      cases hd
    | driving _ _ _ _ _ hz _ => exact hz
  · cases hr.underway hpos hp with
    | standing _ htick _ _ _ _ =>
      have hfour : u.tick + 2 = w₀.tick + 4 := by omega
      rw [← hfour]
      exact ⟨hstarts, fun _ => htick⟩
    | driving _ _ _ hd _ _ _ =>
      -- a door on its way down is not driven up any more
      exfalso
      revert hu hd hnot
      unfold sensed
      generalize reading ω u = r
      obtain ⟨up, low⟩ := r
      rcases hpos with rfl | rfl <;> cases hdir : u.door.doorDirection <;> cases up <;> cases low <;>
        simp [headed, isUp, sensedDoor, hdir]

/-- An upward drive that is too long is reported, unless the block limit comes first. -/
theorem limit_up (hb : limit ω pos u ≠ some .timerBlockedElapsed)
    (hd : (sensed ω pos u).doorDirection = .movingUp)
    (hlong : (ω (travelCheck ω pos u)).millis - (sensed ω pos u).moveZero > tErrClose * 1000) :
    limit ω pos u = some .timerOpenElapsed := by
  have hcheck : travelCheck ω pos u =
      if (sensed ω pos u).doorPosition = .posBlocked then checkTick ω u + 1 else checkTick ω u := rfl
  unfold limit limitOf at hb ⊢
  split at hb
  · exact absurd rfl hb
  · next hnot =>
    rw [if_neg hnot]
    dsimp only
    rw [← hcheck, if_neg (by rw [hd]; exact fun hc => by cases hc.1), if_pos ⟨hd, hlong⟩]

/-- No round but the last has exceeded a limit. -/
theorem Rounds.limit_none (h : Rounds ω pos w₀ ws true w) : ∀ u ∈ ws, limit ω pos u = none := by
  induction ws generalizing w with
  | nil =>
    intro u hu
    cases hu
  | cons x xs ih =>
    obtain ⟨hr, -, hturn⟩ := h.turn
    intro u hu
    rcases List.mem_cons.mp hu with rfl | hu
    · exact hturn.again rfl
    · exact ih hr u hu

/-- The earlier rounds of a move are rounds of the move. -/
theorem Rounds.of_suffix {l : List World} (h : Rounds ω pos w₀ ws again w') (hs : l <:+ ws) :
    ∃ again' v, Rounds ω pos w₀ l again' v := by
  induction ws generalizing again w' with
  | nil =>
    rw [List.suffix_nil.mp hs]
    exact ⟨again, w', h⟩
  | cons x xs ih =>
    rcases List.suffix_cons_iff.mp hs with rfl | hs
    · exact ⟨again, w', h⟩
    · exact ih h.turn.1 hs

end Travel

/-- How long the upward drive of a move that was started in `w` has taken when the round that
    begins in `u` looks at the travel limit. -/
def upAge (ω : Env) (pos : Klappenposition) (w u : World) : UInt32 :=
  (ω (travelCheck ω pos u)).millis - (ω (w.tick + 4)).millis

/-- The travel limits are the configured ones exactly if no round looks at an upward drive, without
    having met the block limit, that is older than `t_err_close` but not older than `t_err_open`:
    the code compares both directions with `t_err_close`. -/
theorem travel_limits_iff {ω : Env} {pos : Klappenposition} {w w' : World} {ws : List World}
    {again : Bool} (hpos : pos = .posUp ∨ pos = .posDown) (h : Rounds ω pos w ws again w') :
    TravelLimits ω pos w ws w' ↔
      ∀ u ∈ ws, isUp (sensed ω pos u).doorDirection = true →
        limit ω pos u ≠ some .timerBlockedElapsed →
        upAge ω pos w u > tErrClose * 1000 → upAge ω pos w u > tErrOpen * 1000 := by
  constructor
  · intro hlimits u hu hup hb hlong
    cases ws with
    | nil => cases hu
    | cons x xs =>
      obtain ⟨hr, -, -⟩ := h.turn
      have hmoving : (sensed ω pos u).doorDirection = .movingUp := by
        revert hup
        cases (sensed ω pos u).doorDirection <;> simp [isUp]
      have hsuffix : ∃ l again' v, Rounds ω pos w (u :: l) again' v := by
        obtain ⟨l₁, l₂, heq⟩ := List.append_of_mem hu
        have hs : u :: l₂ <:+ x :: xs := ⟨l₁, heq.symm⟩
        obtain ⟨again', v, hr'⟩ := h.of_suffix hs
        exact ⟨l₂, again', v, hr'⟩
      obtain ⟨l, again', v, hr'⟩ := hsuffix
      have hzero := (hr'.up_since hpos hup).1
      have hopen : limit ω pos u = some .timerOpenElapsed := by
        apply limit_up hb hmoving
        rw [hzero]
        exact hlong
      -- only the last round can have met a limit
      have hlast : u = x := by
        rcases List.mem_cons.mp hu with heq | hu
        · exact heq
        · have hnone := hr.limit_none u hu
          rw [hopen] at hnone
          cases hnone
      subst hlast
      have hraises := h.raises hpos
      rw [hopen] at hraises
      obtain ⟨_, heq, hsince⟩ := hlimits.opening hraises
      cases heq
      obtain ⟨y, ys, hs, hy, hnot, hspan⟩ := hsince.exists
      obtain ⟨_, _, hry⟩ := h.of_suffix hs
      have htick := (hry.up_since hpos hy).2 hnot
      have hfour : y.tick + 2 = w.tick + 4 := by omega
      rw [hfour] at hspan
      exact hspan
  · intro hcond
    constructor
    · intro he
      obtain ⟨u, xs, rfl, hlimit⟩ := h.raised hpos he
      obtain ⟨hlong, ⟨hf, -⟩ | ⟨-, hmoving⟩⟩ := limit_travel hlimit (by decide)
      · cases hf
      · have hup : isUp (sensed ω pos u).doorDirection = true := by
          rw [hmoving]
          rfl
        have hzero := (h.up_since hpos hup).1
        apply h.droveFor (.inl rfl) hup
        rw [hzero] at hlong ⊢
        exact hcond u List.mem_cons_self hup (by rw [hlimit]; decide) hlong
    · intro he
      obtain ⟨u, xs, rfl, hlimit⟩ := h.raised hpos he
      obtain ⟨hlong, ⟨-, hmoving⟩ | ⟨hf, -⟩⟩ := limit_travel hlimit (by decide)
      · apply h.droveFor (.inr rfl) _ hlong
        rw [hmoving]
        rfl
      · cases hf
    · intro dir hdir ws' again' u v hr
      exact hr.turn.2.2.kept hdir

theorem travel_limits_iff_arrivesEnv :
    ∃ ws again w', Rounds arrivesEnv .posUp {} ws again w' ∧
      TravelLimits arrivesEnv .posUp {} ws w' := by
  obtain ⟨ws, again, hr⟩ := exists_rounds arrivesEnv .posUp 2 (by decide +kernel)
    (by decide +kernel)
  refine ⟨ws, again, _, hr, (travel_limits_iff (.inl rfl) hr).mpr fun u _ _ _ hlong => ?_⟩
  -- the clock stands still
  have hage : upAge arrivesEnv .posUp {} u = 0 := by simp [upAge, arrivesEnv]
  rw [hage] at hlong
  exact absurd hlong (by decide)

/-- The door is on its way all the time, with 20 seconds for each reading. -/
def slowEnv : Env := fun k => { endUp := true, millis := UInt32.ofNat (20000 * k) }

/-- The device before the first and the second round. -/
def slowRound : Nat → World := roundState slowEnv .posUp

theorem slowEnv_rounds : Rounds slowEnv .posUp {} [slowRound 1, slowRound 0] false (slowRound 2) := by
  have h₀ : Rounds slowEnv .posUp {} [] true (slowRound 0) :=
    .start _ (done_of_awake (by decide +kernel))
  have h₁ : Rounds slowEnv .posUp {} [slowRound 0] true (slowRound 1) :=
    h₀.computed (by decide +kernel) (by decide +kernel)
  exact h₁.computed (by decide +kernel) (by decide +kernel)

/-- An opening that takes 160 seconds is given up, though 180 are allowed. -/
theorem opening_limit_missed :
    ¬ ∀ (ω : Env) (pos : Klappenposition) (w w' : World) (ws : List World) (again : Bool),
      pos = .posUp ∨ pos = .posDown → Rounds ω pos w ws again w' → TravelLimits ω pos w ws w' := by
  intro h
  have he : raises (slowRound 2).trace = [.timerOpenElapsed] := by decide +kernel
  have hlimits := h slowEnv .posUp {} _ _ false (.inl rfl) slowEnv_rounds
  obtain ⟨_, hu, -, hcases⟩ := hlimits.opening he
  cases hu
  have hcheck : travelCheck slowEnv .posUp (slowRound 1) = 12 := by decide +kernel
  have htick : (slowRound 0).tick = 2 := by decide +kernel
  rcases hcases with ⟨hup, -⟩ | ⟨-, ⟨-, hspan⟩ | hf⟩
  · exact absurd hup (by decide +kernel)
  · rw [hcheck, htick] at hspan
    exact absurd hspan (by decide)
  · exact hf

/-! ## The end of the loop -/

/-- The clock of a move to `pos` that starts in `w`: `T` is the time in milliseconds at each
    reading, of which `millis` shows the low 32 bits.  Each round takes at least its `delay(5)`,
    and the clock does not go round during the move. -/
structure Paced (ω : Env) (T : Nat → Nat) (pos : Klappenposition) (w : World) : Prop where
  shows : ∀ k, (ω k).millis = UInt32.ofNat (T k)
  mono : ∀ j k, j ≤ k → T j ≤ T k
  delay : ∀ ws u v, Rounds ω pos w (u :: ws) true v → T u.tick + 5 ≤ T v.tick
  unwrapped : ∀ ws again v, Rounds ω pos w ws again v → T v.tick < T w.tick + 2 ^ 32

section Termination

variable {ω : Env} {T : Nat → Nat} {pos : Klappenposition} {w w' u v : World} {ws : List World}
  {again : Bool}

theorem Rounds.tick_le (h : Rounds ω pos w ws again v) : w.tick + 2 ≤ v.tick := by
  induction h with
  | start _ hrun => exact Nat.le_of_eq (wp_run startMove_started hrun).tick.symm
  | next ws u v again hr hp hrun ih =>
    have hturn := wp_run (moveIteration_turn pos) hrun
    have hcheck : u.tick + 2 ≤ checkTick ω u := Nat.le_add_right _ _
    have := hturn.tick
    omega

/-- A difference of two readings of `millis` is the time between them. -/
theorem Paced.elapsed (h : Paced ω T pos w) {j k : Nat} (hjk : j ≤ k) (hj : w.tick ≤ j)
    (hr : Rounds ω pos w ws again v) (hk : k ≤ v.tick) :
    ((ω k).millis - (ω j).millis).toNat = T k - T j := by
  have hlt := h.unwrapped ws again v hr
  have hkv := h.mono k v.tick hk
  have hwj := h.mono w.tick j hj
  have hle := h.mono j k hjk
  rw [h.shows, h.shows, UInt32.toNat_sub, UInt32.toNat_ofNat', UInt32.toNat_ofNat']
  omega

/-- After the first round every round takes its time. -/
theorem Paced.length_le (h : Paced ω T pos w) (hr : Rounds ω pos w (u :: ws) true v) :
    T (w.tick + 4) + 5 * ws.length ≤ T v.tick := by
  induction ws generalizing u v with
  | nil =>
    have hu := hr.first_tick
    obtain ⟨-, -, hturn⟩ := hr.turn
    have hcheck : u.tick + 2 ≤ checkTick ω u := Nat.le_add_right _ _
    have htick := hturn.tick
    have hfour : w.tick + 4 ≤ v.tick := by omega
    simpa using h.mono _ _ hfour
  | cons x xs ih =>
    have hu := ih hr.turn.1
    have hdelay := h.delay _ _ _ hr
    rw [List.length_cons]
    omega

/-- A travel limit that is not exceeded. -/
theorem limit_none_travel (h : limit ω pos u = none)
    (hd : (sensed ω pos u).doorDirection = .movingUp ∨ (sensed ω pos u).doorDirection = .movingDown) :
    ¬ (ω (travelCheck ω pos u)).millis - (sensed ω pos u).moveZero > tErrClose * 1000 := by
  have hcheck : travelCheck ω pos u =
      if (sensed ω pos u).doorPosition = .posBlocked then checkTick ω u + 1 else checkTick ω u := rfl
  intro hlong
  unfold limit limitOf at h
  split at h
  · cases h
  · dsimp only at h
    rw [← hcheck] at h
    rcases hd with hd | hd
    · rw [if_neg (by rw [hd]; exact fun hc => by cases hc.1), if_pos ⟨hd, hlong⟩] at h
      cases h
    · rw [if_pos ⟨hd, hlong⟩] at h
      cases h

/-- The clock is read for the travel limit before the round is over. -/
theorem travelCheck_le (h : Turn ω pos u again v) :
    u.tick + 2 ≤ travelCheck ω pos u ∧ travelCheck ω pos u ≤ v.tick := by
  have htick := h.tick
  have hcheck : u.tick + 2 ≤ checkTick ω u := Nat.le_add_right _ _
  unfold travelCheck
  unfold checkReads at htick
  split at htick
  · next hb =>
    rw [if_pos hb]
    omega
  · next hb =>
    rw [if_neg hb]
    omega

/-- A motor that still drives, other than to run on, has made no more rounds than fit into the
    travel limit. -/
theorem Paced.moving_length (h : Paced ω T pos w) (hpos : pos = .posUp ∨ pos = .posDown)
    (hr : Rounds ω pos w ws true v) (hp : v.door.doorPosition ≠ pos)
    (hd : v.door.doorDirection = .movingUp ∨ v.door.doorDirection = .movingDown) :
    ws.length ≤ 30002 := by
  rcases ws with _ | ⟨u, _ | ⟨x, xs⟩⟩
  · exact Nat.zero_le _
  · exact Nat.le_of_ble_eq_true rfl
  · obtain ⟨hru, -, hturn⟩ := hr.turn
    have hdoor := hturn.door_eq
    have hzero : v.door.moveZero = (ω (w.tick + 4)).millis := by
      cases hr.underway hpos hp with
      | driving _ _ _ _ _ hz _ => exact hz
    rw [hdoor] at hd hzero
    obtain ⟨hlo, hhi⟩ := travelCheck_le hturn
    have hlimit := limit_none_travel (hturn.again rfl) hd
    rw [hzero, gt_iff_lt, UInt32.lt_iff_toNat_lt] at hlimit
    have hticks := hru.tick_le
    rw [h.elapsed (by omega) (by omega) hr hhi] at hlimit
    have hconst : (tErrClose * 1000).toNat = 150000 := by decide
    -- five milliseconds for each round after the first one
    have hlen := h.length_le hru
    have hmono := h.mono u.tick (travelCheck ω pos u) (by omega)
    simp only [List.length_cons]
    omega

/-- A motor that runs on has done so for no more rounds than fit into the run-on time. -/
theorem Paced.finishing_length (h : Paced ω T .posDown w) (hr : Rounds ω .posDown w ws true v)
    (hp : v.door.doorPosition ≠ .posDown) (hd : v.door.doorDirection = .finishingDown) :
    ∃ k m, v.door.downwardsTimer = (ω k).millis ∧ w.tick ≤ k ∧ k ≤ v.tick ∧
      T k + 5 * m ≤ T v.tick ∧ m ≤ 401 ∧ ws.length ≤ 30003 + m := by
  -- `m` counts the rounds of the run-on, and each takes 5 ms at least
  induction ws generalizing v with
  | nil =>
    cases hr with
    | start _ hrun =>
      rw [(wp_run startMove_started hrun).direction] at hd
      cases hd
  | cons u ws ih =>
    obtain ⟨hru, hpu, hturn⟩ := hr.turn
    have hdoor := hturn.door_eq
    have hcheck : u.tick + 2 ≤ checkTick ω u := Nat.le_add_right _ _
    have htick := hturn.tick
    have hticks := hru.tick_le
    rw [hdoor] at hd hp ⊢
    obtain ⟨hread, ⟨hdu, htimer⟩ | ⟨hdu, htimer⟩⟩ := sensedDoor_finishing hd
    · -- the run-on begins
      have hlen := h.moving_length (.inr rfl) hru hpu (.inr hdu)
      refine ⟨u.tick + 2, 0, htimer, by omega, by omega, ?_, by omega, ?_⟩
      · simpa using h.mono (u.tick + 2) v.tick (by omega)
      · simp only [List.length_cons]
        omega
    · -- the run-on goes on, so its time is not over
      obtain ⟨k, m, hk, hwk, hku, hm, -, hlen⟩ := ih hru hpu hdu
      have hnot : ¬ (ω (u.tick + 2)).millis - u.door.downwardsTimer > tDownFinish * 1000 := by
        intro hlate
        have hfinished : finished ω (u.tick + 2) u.door = { u.door with doorPosition := .posDown } :=
          if_pos hlate
        apply hp
        simp only [sensed, hread, sensedDoor, hdu, hfinished]
      rw [hk, gt_iff_lt, UInt32.lt_iff_toNat_lt,
        h.elapsed (by omega) hwk hr (by omega)] at hnot
      have hconst : (tDownFinish * 1000).toNat = 2000 := by decide
      have hmono := h.mono u.tick (u.tick + 2) (by omega)
      have hdelay := h.delay _ _ _ hr
      refine ⟨k, m + 1, htimer.trans hk, hwk, by omega, by omega, by omega, ?_⟩
      simp only [List.length_cons]
      omega

/-- A move that has not reached its goal has made a bounded number of rounds. -/
theorem Paced.rounds_le (h : Paced ω T pos w) (hpos : pos = .posUp ∨ pos = .posDown)
    (hr : Rounds ω pos w ws true v) (hp : v.door.doorPosition ≠ pos) : ws.length ≤ 30404 := by
  cases hr.underway hpos hp with
  | standing _ _ _ _ _ _ => exact Nat.zero_le _
  | driving _ u ws hd _ _ _ =>
    have hcases : (v.door.doorDirection = .movingUp ∨ v.door.doorDirection = .movingDown) ∨
        (pos = .posDown ∧ v.door.doorDirection = .finishingDown) := by
      revert hd
      rcases hpos with rfl | rfl <;> cases v.door.doorDirection <;> simp [headed]
    rcases hcases with hmoving | ⟨rfl, hfinishing⟩
    · have hlen := h.moving_length hpos hr hp hmoving
      omega
    · obtain ⟨_, m, -, -, -, -, hm, hlen⟩ := h.finishing_length hr hp hfinishing
      omega

/-- A budget that the loop of such a move does not use up. -/
theorem Paced.returns (h : Paced ω T pos w) (hpos : pos = .posUp ∨ pos = .posDown)
    (hs : startMove ω w = .done () u) {n : Nat} (hn : 30406 ≤ n) :
    ∃ w', moveLoop pos n ω u = .done () w' := by
  have hreturns : wp (moveLoop pos n) ⟨fun _ _ => True, fun _ => False, fun _ => False⟩ ω u := by
    apply wp_mono (moveLoop_rounds (.start u hs) n)
    · exact fun _ _ _ => trivial
    · exact fun _ hf => hf
    · -- all rounds but the last one were made by a move that had not reached its goal
      rintro v ⟨ws, hr, hlen⟩
      cases ws with
      | nil =>
        simp only [List.length_nil] at hlen
        omega
      | cons x xs =>
        obtain ⟨hrx, hpx, -⟩ := hr.turn
        have hle := h.rounds_le hpos hrx hpx
        simp only [List.length_cons, List.length_nil] at hlen
        omega
  obtain ⟨_, w', hloop, -⟩ := exists_run hreturns
  exact ⟨w', hloop⟩

end Termination

/-- The rounds that the loop of a move may make: more than 150 s of travel and 2 s of running on
    take with five milliseconds each. -/
def roundLimit : Nat := 30406

end Eggvault.Spec
