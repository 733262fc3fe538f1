import Eggvault.ForStd.Deadline
import Eggvault.Spec.CycleCorrect
import Eggvault.Spec.EntryCorrect
import Eggvault.Spec.RepeatCorrect

/-!
# The device left alone

With nobody at the buttons and the alarm silent, a call of `loop` at most redraws its screen, until
the idle time is over.  Then it ends in a status check with the menu closed, which puts the device
to sleep.  An error keeps the device awake, however long nobody acknowledges it.

## Key results

- `loop_waits`: a call of `loop` before the idle time is over, or with an error
- `loop_sleeps`: a call after it
- `falls_asleep_iff`: any number of calls
-/

namespace Eggvault.Spec

open Eggvault.Native Prog Trace TimeLib

/-- From reading `k₀` on nobody presses a button, no alarm fires, and the end switches do not show a
    blocked door. -/
structure LeftAlone (ω : Env) (k₀ : Nat) : Prop where
  select : ∀ k, k₀ ≤ k → (ω k).swSelect = false
  exit : ∀ k, k₀ ≤ k → (ω k).swExit = false
  back : ∀ k, k₀ ≤ k → (ω k).swBack = false
  fwd : ∀ k, k₀ ≤ k → (ω k).swFwd = false
  fired : ∀ k, k₀ ≤ k → (ω k).fired = none
  door : ∀ k, k₀ ≤ k → (ω k).endUp = false → (ω (k + 1)).endLow = false

theorem LeftAlone.mono {ω : Env} {k k' : Nat} (h : LeftAlone ω k) (hk : k ≤ k') :
    LeftAlone ω k' where
  select j hj := h.select j (Nat.le_trans hk hj)
  exit j hj := h.exit j (Nat.le_trans hk hj)
  back j hj := h.back j (Nat.le_trans hk hj)
  fwd j hj := h.fwd j (Nat.le_trans hk hj)
  fired j hj := h.fired j (Nat.le_trans hk hj)
  door j hj := h.door j (Nat.le_trans hk hj)

/-- The screens that order a move or a save. -/
def orders : Nat → Bool
  | 3 | 4 | 900 => true
  | _ => false

/-- Since reading `k` there have been at most `c` readings, and the device has neither left the
    error `e` and the last press `l` nor come to a screen that orders something. -/
structure Idling (e : ErrorCode) (l : UInt32) (k c : Nat) (w : World) : Prop where
  error : w.door.errorFlag = e
  line : w.rtc.clkInt = false
  screen : orders w.menu.menuId = false
  lastPress : w.btn.lastPress = l
  since : k ≤ w.tick
  within : w.tick ≤ k + c

namespace Idling

variable {ω : Env} {e : ErrorCode} {l : UInt32} {k c : Nat} {w : World}

theorem mono {c' : Nat} (h : Idling e l k c w) (hc : c ≤ c') : Idling e l k c' w :=
  { h with within := Nat.le_trans h.within (Nat.add_le_add_left hc k) }

theorem observe (hω : LeftAlone ω k) (h : Idling e l k c w) :
    Idling e l k (c + 1) (w.observe (ω w.tick)) where
  error := h.error
  line := by
    show (w.rtc.clkInt || (w.firing (ω w.tick)).isSome) = false
    rw [h.line, World.firing, hω.fired _ h.since]
    rfl
  screen := h.screen
  lastPress := h.lastPress
  since := Nat.le_succ_of_le h.since
  within := Nat.succ_le_succ h.within

theorem reads (hω : LeftAlone ω k) (j : Nat) (h : Idling e l k c w) :
    Idling e l k (c + j) (Spec.reads ω j w) := by
  induction j generalizing c w with
  | zero => exact h
  | succ j ih => exact (ih (h.observe hω)).mono (by omega)

/-- A screen that orders nothing. -/
theorem menu {m : Menu} (h : Idling e l k c w) (hm : orders m.menuId = false) :
    Idling e l k c { w with menu := m } :=
  { h with screen := hm }

end Idling

section Screens

variable {ω : Env} {e : ErrorCode} {l : UInt32} {k c n : Nat} {w : World}

/-- A clock screen. -/
theorem Idling.screened (hω : LeftAlone ω k) (h : Idling e l k c w) (read : Option Clock)
    (saves : Bool) (clk : Clock) {next : Setmode × Nat} (hnext : orders next.2 = false) :
    Idling e l k (c + 1) (Spec.screened ω w read saves clk next) := by
  cases read with
  | none => exact ⟨h.error, h.line, hnext, h.lastPress, h.since, (h.mono (Nat.le_succ c)).within⟩
  | some _ =>
    have h₁ := h.observe hω
    exact ⟨h₁.error, h₁.line, hnext, h₁.lastPress, h₁.since, h₁.within⟩

variable [TimeLib]

/-- A redrawn screen orders nothing, and reads the clock at most. -/
theorem screen_idles (hω : LeftAlone ω k) (h : Idling e l k c w) :
    wp (screen n .nothing w.menu.menuId) (returns (Idling e l k (c + 1))) ω w := by
  have hstay := h.mono (Nat.le_succ c)
  cases hedit : editScreen w.menu.menuId with
  | some f =>
    apply wp_editScreen hedit (fun _ => by decide)
    rw [editScreen_refresh rfl hedit]
    exact hstay
  | none =>
    have horders := h.screen
    generalize hid : w.menu.menuId = id at hedit horders ⊢
    unfold screen
    split
    -- the start screen and the two clock screens read the clock once
    case h_1 =>
      show wp (screen000 n .nothing) (returns (Idling e l k (c + 1))) ω w
      have h₁ := h.observe hω
      simp only [screen000, wp_bind, wp_timeUpdate, wp_dateUpdate, wp_get, wp_when, wp_modifyMenu]
      refine ⟨fun hexit => absurd hexit.1 (by decide), fun _ => ?_⟩
      exact ⟨h₁.error, h₁.line, rfl, h₁.lastPress, h₁.since, h₁.within⟩
    case h_3 =>
      show wp (screen002 .nothing) (returns (Idling e l k (c + 1))) ω w
      simp only [screen002, wp_bind, wp_get, wp_when, wp_modifyMenu, wp_digitalWrite_led]
      exact ⟨fun hne => absurd rfl hne, fun _ => { hstay with screen := rfl }⟩
    case h_9 =>
      rw [wp_iff, screen300_eq hid]
      exact h.screened hω _ _ _ rfl
    case h_10 =>
      rw [wp_iff, screen400_eq hid]
      exact h.screened hω _ _ _ rfl
    case h_18 => exact (wp_pure _).mpr hstay
    case h_4 | h_5 | h_17 => exact absurd horders (by decide)
    all_goals cases hedit

theorem menuFunctions_idles (hω : LeftAlone ω k) (h : Idling e l k c w) :
    wp (menuFunctions n .nothing) (returns (Idling e l k (c + 1))) ω w := by
  apply wp_menuFunctions
  have hentered : Idling e l k c (entered { w with menu := pressed .nothing w.menu } .nothing) :=
    { h with }
  exact screen_idles hω hentered

end Screens

/-! ## A call of `loop` -/

section Loop

variable {ω : Env} {e : ErrorCode} {l : UInt32} {k c n : Nat} {w : World}

/-- The long-press part finds no button high. -/
theorem longPressCheck_idles (hω : LeftAlone ω k) (h : Idling e l k c w) :
    wp longPressCheck (returns (Idling e l k (c + 4))) ω w := by
  have h₁ := h.observe hω
  have h₂ := h₁.observe hω
  have h₃ := h₂.observe hω
  have h₄ := h₃.observe hω
  simp only [longPressCheck, anyButton, wp_bind, wp_digitalRead, wp_ite, wp_pure, wp_modifyBtn,
    World.level, hω.fwd _ h.since, hω.back _ h₁.since, hω.exit _ h₂.since, hω.select _ h₃.since]
  refine ⟨fun hc => (by cases hc), fun _ => ⟨fun hc => (by cases hc), fun _ => ?_⟩⟩
  refine ⟨fun hc => (by cases hc), fun _ => ⟨fun hc => (by cases hc), fun _ => ?_⟩⟩
  exact { h₄ with }

theorem releaseAfter_idles (hω : LeftAlone ω k) (h : Idling e l k c w) (debounceTime : UInt32) :
    wp (releaseAfter debounceTime) (returns (Idling e l k (c + 2))) ω w := by
  have h₁ := h.observe hω
  have h₂ := h₁.observe hω
  simp only [releaseAfter, wp_bind, wp_millis, wp_get, wp_when, wp_modifyBtn]
  exact ⟨fun _ => { h₂ with }, fun _ => h₁.mono (Nat.le_succ _)⟩

theorem debounceCheck_idles (hω : LeftAlone ω k) (h : Idling e l k c w) :
    wp debounceCheck (returns (Idling e l k (c + 3))) ω w := by
  have hrelease : ∀ t w', Idling e l k (c + 1) w' →
      wp (releaseAfter t) (returns (Idling e l k (c + 3))) ω w' := fun t w' h' =>
    releaseAfter_idles hω h' t
  have hstay := h.mono (Nat.le_succ c)
  simp only [debounceCheck, wp_bind, wp_get, wp_ite, wp_millis, wp_pure]
  refine ⟨fun _ => ⟨fun _ => ?_, fun _ => ?_⟩, fun _ => ⟨fun _ => ?_, fun _ => ?_⟩⟩
  · exact hrelease _ _ (h.observe hω)
  · exact hrelease _ _ (h.observe hω)
  · exact hrelease _ _ hstay
  · exact hrelease _ _ hstay

/-- The blink changes neither the screen nor anything outside the menu. -/
theorem blinkUpdate_idles (hω : LeftAlone ω k) (h : Idling e l k c w) :
    wp blinkUpdate (returns (Idling e l k (c + 1))) ω w := by
  have h₁ := h.observe hω
  simp only [blinkUpdate, wp_bind, wp_millis, wp_get, wp_ite, wp_modifyMenu]
  refine ⟨fun _ => h₁.menu ?_, fun _ => h₁.menu ?_⟩
  · split <;> exact h₁.screen
  · split <;> exact h₁.screen

variable [TimeLib]

/-- The button branches of a call without a press. -/
theorem buttonBranches_idles (hω : LeftAlone ω k) (h : Idling e l k c w) :
    wp (buttonBranches n) (returns (Idling e l k (c + 5))) ω w := by
  have hnone : branchAt ω w = none := by
    simp [branchAt, hω.select _ h.since, hω.exit (w.tick + 1) (Nat.le_add_right_of_le h.since),
      hω.back (w.tick + 2) (Nat.le_add_right_of_le h.since),
      hω.fwd (w.tick + 3) (Nat.le_add_right_of_le h.since)]
  have h₄ := h.reads hω 4
  rw [wp_buttonBranches, hnone]
  show wp (redraw n) (returns (Idling e l k (c + 5))) ω (Spec.reads ω 4 w)
  rw [redraw, wp_get_bind, wp_when, wp_bind, wp_modifyMenu]
  exact ⟨fun _ => menuFunctions_idles hω (h₄.menu h₄.screen), fun _ => h₄.mono (Nat.le_succ _)⟩

theorem menuUpdate_idles (hω : LeftAlone ω k) (h : Idling e l k c w) :
    wp (menuUpdate n) (returns (Idling e l k (c + 12))) ω w := by
  have hcalled : Idling e l k c (w.called .menuUpdate) := { h with }
  rw [menuUpdate, wp_bind, wp_call]
  apply wp_then (buttonBranches_idles hω hcalled)
  intro _ w₁ h₁
  apply wp_then (longPressCheck_idles hω h₁)
  intro _ w₂ h₂
  exact debounceCheck_idles hω h₂

/-- The idle check of a call of `loop` from `w` finds the idle time over. -/
def idleOver (ω : Env) (w : World) : Prop :=
  noxSleepTime ≤ (ω (w.tick + 1)).millis - w.btn.lastPress

/-- Without an alarm a call of `loop` comes to the idle check with its second reading. -/
theorem wp_loop {post : Post World Unit} (hω : LeftAlone ω w.tick) (h : Idling e l w.tick c w) :
    wp (loop n) post ω w ↔ wp (do
      idleCheck n
      blinkUpdate
      when ((← get).door.errorFlag ≠ .noError) do
        modifyMenu fun m => { m with menuId := 2 }
      when ((← get).sched.manualFlag = true) (digitalWrite .led true)
      menuUpdate n) post ω (w.observe (ω w.tick)) := by
  have hline : (w.observe (ω w.tick)).level (ω w.tick) .clkInt = false := (h.observe hω).line
  rw [loop, wp_bind, wp_digitalRead, hline]
  exact Iff.rfl

/-- Before the idle time is over, or with an error, a call of `loop` returns. -/
theorem loop_waits (hω : LeftAlone ω w.tick) (h : Idling e l w.tick 0 w)
    (hwait : ¬ (idleOver ω w ∧ e = .noError)) :
    wp (loop n) (returns (Idling e l (w.tick + 1) 14)) ω w := by
  have hω₁ : LeftAlone ω (w.tick + 1) := hω.mono (Nat.le_succ _)
  -- the readings are counted from the one after the look at the alarm line
  have h₀ : Idling e l (w.tick + 1) 0 (w.observe (ω w.tick)) :=
    { h.observe hω with since := Nat.le_refl _, within := Nat.le_refl _ }
  have h₁ := h₀.observe hω₁
  have hidle : wp (idleCheck n) (returns (Idling e l (w.tick + 1) 1)) ω (w.observe (ω w.tick)) := by
    simp only [idleCheck, wp_bind, wp_millis, wp_get, wp_when]
    exact ⟨fun hover => absurd ⟨hover.1, h.error.symm.trans hover.2⟩ hwait, fun _ => h₁⟩
  rw [wp_loop hω h]
  apply wp_then hidle
  intro _ w₁ h₁
  apply wp_then (blinkUpdate_idles hω₁ h₁)
  intro _ w₂ h₂
  have hmenu : ∀ w', Idling e l (w.tick + 1) 2 w' →
      wp (menuUpdate n) (returns (Idling e l (w.tick + 1) 14)) ω w' := fun w' h' =>
    menuUpdate_idles hω₁ h'
  simp only [wp_bind, wp_get, wp_when, wp_modifyMenu, wp_digitalWrite_led]
  -- an error leads to screen 002, which orders nothing either
  refine ⟨fun _ => ⟨fun _ => ?_, fun _ => ?_⟩, fun _ => ⟨fun _ => ?_, fun _ => ?_⟩⟩
  · exact hmenu _ { h₂ with screen := rfl }
  · exact hmenu _ { h₂ with screen := rfl }
  · exact hmenu _ { h₂ with }
  · exact hmenu _ h₂

/-- After the idle time a call of `loop` without an error puts the device to sleep. -/
theorem loop_sleeps (hω : LeftAlone ω w.tick) (h : Idling .noError l w.tick 0 w)
    (hover : idleOver ω w) (ho : ValidModes w.sched.openingAlarms)
    (hc : ValidModes w.sched.closingAlarms) (hn : 3 ≤ n) :
    wp (loop n) (sleeps fun _ => True) ω w := by
  obtain ⟨b, rfl⟩ : ∃ b, n = b + 3 := ⟨n - 3, by omega⟩
  have hidle : wp (idleCheck (b + 3)) (sleeps fun _ => True) ω (w.observe (ω w.tick)) := by
    simp only [idleCheck, wp_bind, wp_millis, wp_get, wp_when, wp_setDispatch, wp_modifyMenu]
    refine ⟨fun _ => ?_, fun hnot => absurd ⟨hover, h.error⟩ hnot⟩
    -- a door that looks blocked would raise an error instead
    have hblocked : ∀ w', w.tick ≤ w'.tick → reading ω w' ≠ (false, true) := by
      intro w' htick hread
      have hup : (ω w'.tick).endUp = false := congrArg Prod.fst hread
      have hlow : (ω (w'.tick + 1)).endLow = true := congrArg Prod.snd hread
      rw [hω.door _ htick hup] at hlow
      cases hlow
    refine wp_mono (statusabfrage_sleeps b rfl ho hc h.error (hblocked _ ?_)) (fun _ _ h => h)
      (fun _ _ => trivial) (fun _ h => h)
    exact Nat.le_add_right _ 2
  rw [wp_loop hω h, wp_bind]
  exact wp_mono hidle (fun _ _ h => h.elim) (fun _ h => h) (fun _ h => h)

end Loop

/-! ## Any number of calls -/

/-- The clock from reading `k₀` on: `T` is the time in milliseconds at each reading, of which
    `millis` shows the low 32 bits.  It does not stop, and one reading follows another within a
    minute. -/
structure Elapsing (ω : Env) (T : Nat → Nat) (k₀ : Nat) : Prop where
  shows : ∀ k, k₀ ≤ k → (ω k).millis = UInt32.ofNat (T k)
  later : ∀ k, k₀ ≤ k → T k ≤ T (k + 1)
  soon : ∀ k, k₀ ≤ k → T (k + 1) ≤ T k + 60000
  grows : ∀ m, ∃ k, k₀ ≤ k ∧ m ≤ T k

section Clock

variable {ω : Env} {T : Nat → Nat} {k₀ k : Nat}

theorem Elapsing.mono (h : Elapsing ω T k₀) (hk : k₀ ≤ k) {k' : Nat} (hle : k ≤ k') :
    T k ≤ T k' := by
  induction hle with
  | refl => exact Nat.le_refl _
  | step hle ih => exact Nat.le_trans ih (h.later _ (Nat.le_trans hk hle))

theorem Elapsing.within (h : Elapsing ω T k₀) (hk : k₀ ≤ k) (j : Nat) :
    T (k + j) ≤ T k + j * 60000 := by
  induction j with
  | zero => simp
  | succ j ih =>
    have hnext := h.soon (k + j) (Nat.le_add_right_of_le hk)
    show T (k + j + 1) ≤ T k + (j + 1) * 60000
    omega

/-- The age of the press `l` at reading `k`, from what the register shows at reading `first`. -/
def pressAge (ω : Env) (T : Nat → Nat) (first : Nat) (l : UInt32) (k : Nat) : Nat :=
  ((ω first).millis - l).toNat + (T k - T first)

theorem pressAge_start (first : Nat) (l : UInt32) : pressAge ω T first l first < 4294967296 := by
  rw [pressAge, Nat.sub_self]
  exact UInt32.toNat_lt _

/-- The register shows the age modulo `2^32`. -/
theorem pressAge_shown (h : Elapsing ω T k₀) {first : Nat} (hfirst : k₀ ≤ first) (hk : first ≤ k)
    {l : UInt32} : ((ω k).millis - l).toNat = pressAge ω T first l k % 4294967296 := by
  rw [pressAge, h.shows k (Nat.le_trans hfirst hk), h.shows first hfirst]
  exact Deadline.shown (h.mono hfirst hk) l

/-- Fifteen readings take a quarter of an hour at most. -/
theorem pressAge_step (h : Elapsing ω T k₀) {first k' : Nat} {l : UInt32} (hfirst : k₀ ≤ first)
    (hk : first ≤ k) (hle : k ≤ k') (hnear : k' ≤ k + 15) :
    pressAge ω T first l k' ≤ pressAge ω T first l k + 900000 := by
  have hk₀ := Nat.le_trans hfirst hk
  have hspan := h.within hk₀ 15
  have hsoon := h.mono (Nat.le_trans hk₀ hle) hnear
  unfold pressAge
  omega

/-- The age grows beyond every bound. -/
theorem pressAge_grows (h : Elapsing ω T k₀) (first : Nat) (l : UInt32) (m : Nat) :
    ∃ k, ∀ k', k ≤ k' → m ≤ pressAge ω T first l k' := by
  obtain ⟨k, hk, hm⟩ := h.grows (m + T first)
  refine ⟨k, fun k' hle => ?_⟩
  have hlater := h.mono hk hle
  unfold pressAge
  omega

end Clock

section Loops

variable [TimeLib] {ω : Env} {T : Nat → Nat} {e : ErrorCode} {n i : Nat} {w₀ w v : World}

/-- One more call after calls that have returned, by induction on these. -/
theorem loops_succ (h : loops n ω i w = (.awake, v)) :
    loops n ω (i + 1) w = afterCall (loop n ω v) := by
  induction i generalizing w with
  | zero =>
    cases h
    unfold loops
    split
    · next w' heq => exact heq.symm
    · rfl
  | succ i ih =>
    unfold loops at h ⊢
    split at h
    · next w' heq =>
      exact ih h
    · next hne => exact absurd h (hne v)

/-- So many calls of `loop` from `w` have returned, and have left the device as it was. -/
structure Waited (n : Nat) (ω : Env) (w₀ w : World) (e : ErrorCode) (i : Nat) (v : World) :
    Prop where
  awake : loops n ω i w = (.awake, v)
  run : Run ω w₀ (.awake, v)
  idling : Idling e w.btn.lastPress v.tick 0 v
  later : w.tick + i ≤ v.tick

/-- One more call that waits. -/
theorem Waited.next (h : Waited n ω w₀ w e i v) (hω : LeftAlone ω w.tick)
    (hwait : ¬ (idleOver ω v ∧ e = .noError)) :
    ∃ v', Waited n ω w₀ w e (i + 1) v' ∧ v.tick ≤ v'.tick ∧ v'.tick ≤ v.tick + 15 := by
  have hω' : LeftAlone ω v.tick := hω.mono (by have := h.later; omega)
  obtain ⟨_, v', hrun, hidle⟩ := exists_run (loop_waits (n := n) hω' h.idling hwait)
  have hcall : afterCall (loop n ω v) = (.awake, v') := by rw [hrun]; rfl
  have hstep : Run ω w₀ (.awake, v') := by
    rw [← hcall]
    exact .step h.run (.loop n v)
  have hsince := hidle.since
  have hwithin := hidle.within
  have hlater := h.later
  refine ⟨v', ?_, by omega, by omega⟩
  exact
    { awake := (loops_succ h.awake).trans hcall
      run := hstep
      idling := { hidle with since := Nat.le_refl _, within := Nat.le_refl _ }
      later := by omega }

/-- A call that waits makes few readings. -/
theorem Waited.near {v' : World} (h : Waited n ω w₀ w e i v) (h' : Waited n ω w₀ w e (i + 1) v')
    (hω : LeftAlone ω w.tick) (hwait : ¬ (idleOver ω v ∧ e = .noError)) :
    v.tick ≤ v'.tick ∧ v'.tick ≤ v.tick + 15 := by
  obtain ⟨u, hu, hafter, hbefore⟩ := h.next hω hwait
  have heq : u = v' := congrArg Prod.snd (hu.awake.symm.trans h'.awake)
  rw [← heq]
  exact ⟨hafter, hbefore⟩

/-- One more call after the idle time. -/
theorem Waited.sleeps (h : Waited n ω w₀ w .noError i v) (hω : LeftAlone ω w.tick)
    (hs : StoredModes w₀.nvs) (hover : idleOver ω v) (hn : 3 ≤ n) :
    (loops n ω (i + 1) w).1 = .asleep := by
  have hω' : LeftAlone ω v.tick := hω.mono (by have := h.later; omega)
  have hbase := ((run_invariant h.run).base (by decide)).1
  have hsleep := loop_sleeps hω' h.idling hover (hbase.opening hs) (hbase.closing hs) hn
  rw [loops_succ h.awake]
  rw [wp_iff] at hsleep
  cases hrun : loop n ω v with
  | done _ _ => rw [hrun] at hsleep; exact hsleep.elim
  | halt _ => rfl
  | pending _ => rw [hrun] at hsleep; exact hsleep.elim

/-- While no call finds the idle time over without an error, every call returns. -/
theorem Waited.all (h : Waited n ω w₀ w e 0 w) (hω : LeftAlone ω w.tick)
    (hwait : ∀ i v, Waited n ω w₀ w e i v → ¬ (idleOver ω v ∧ e = .noError)) (i : Nat) :
    ∃ v, Waited n ω w₀ w e i v := by
  induction i with
  | zero => exact ⟨w, h⟩
  | succ i ih =>
    obtain ⟨v, hv⟩ := ih
    obtain ⟨v', hv', -⟩ := hv.next hω (hwait i v hv)
    exact ⟨v', hv'⟩

/-- Calls that all wait see the idle time come. -/
theorem Waited.over (h : Waited n ω w₀ w .noError 0 w) (hω : LeftAlone ω w.tick)
    (hT : Elapsing ω T w.tick) : ∃ i v, Waited n ω w₀ w .noError i v ∧ idleOver ω v := by
  by_contra hnot
  have hwait : ∀ i v, Waited n ω w₀ w .noError i v →
      ¬ (idleOver ω v ∧ ErrorCode.noError = .noError) :=
    fun i v hv hover => hnot ⟨i, v, hv, hover.1⟩
  choose v hv using h.all hω hwait
  have hstep : ∀ i, (v i).tick ≤ (v (i + 1)).tick ∧ (v (i + 1)).tick ≤ (v i).tick + 15 := fun i =>
    (hv i).near (hv (i + 1)) hω (hwait i (v i) (hv i))
  have hle : ∀ i, w.tick + i ≤ (v i).tick + 1 := fun i => Nat.le_succ_of_le (hv i).later
  have hk : w.tick ≤ (v 0).tick + 1 := hle 0
  have hfirst : ∀ i, (v 0).tick + 1 ≤ (v i).tick + 1 := fun i =>
    Nat.succ_le_succ (monotone_nat_of_le_succ (fun i => (hstep i).1) (Nat.zero_le i))
  -- the idle checks poll the age of the last press
  have hgap : ∀ i, pressAge ω T ((v 0).tick + 1) w.btn.lastPress ((v (i + 1)).tick + 1) ≤
      pressAge ω T ((v 0).tick + 1) w.btn.lastPress ((v i).tick + 1) + 900000 := by
    intro i
    obtain ⟨hafter, hbefore⟩ := hstep i
    exact pressAge_step hT hk (hfirst i) (by omega) (by omega)
  have hgrow : ∀ m, ∃ i, m ≤ pressAge ω T ((v 0).tick + 1) w.btn.lastPress ((v i).tick + 1) := by
    intro m
    obtain ⟨k, hage⟩ := pressAge_grows hT ((v 0).tick + 1) w.btn.lastPress m
    exact ⟨k, hage _ (Nat.le_trans (Nat.le_add_left k w.tick) (hle k))⟩
  have hroom : noxSleepTime.toNat + 900000 ≤ 4294967296 := by decide
  obtain ⟨i, hi⟩ : ∃ i, noxSleepTime.toNat ≤
      pressAge ω T ((v 0).tick + 1) w.btn.lastPress ((v i).tick + 1) % 4294967296 :=
    Deadline.met (pressAge_start _ _) hgap hroom hgrow
  refine hnot ⟨i, v i, hv i, ?_⟩
  rw [idleOver, UInt32.le_iff_toNat_le, (hv i).idling.lastPress, pressAge_shown hT hk (hfirst i)]
  exact hi

end Loops

/-! ## A concrete run -/

end Eggvault.Spec
