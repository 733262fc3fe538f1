import Eggvault.ForStd.MachineInt
import Eggvault.Spec.ButtonFrame

/-!
# How often a button can be pressed

A press locks the buttons, and the debounce part of `menuUpdate` releases them: after
`buttonDebounceTimeNormal`, or already after `buttonDebounceTimeFast` if the long-press part has
found a button high in every call for more than `buttonLongPressTime`.  What an action of the menu
does in between, and for how long, does not matter, since the lock is dated after it.

## Key results

- `presses_spaced`: two successive presses, in any trace of calls
- `Calls.loop`, `Calls.boot`: the traces of the firmware are such traces
-/

namespace Eggvault.Spec

open Eggvault.Native Prog Trace TimeLib

/-! ## The readings of a call -/

/-- The button branch that `menuUpdate` enters, and how many readings have found nothing before. -/
def branchAt (ω : Env) (w : World) : Option (BtnAction × Nat) :=
  if w.btn.buttonFlag then none
  else if (ω w.tick).swSelect then some (.select, 0)
  else if (ω (w.tick + 1)).swExit then some (.exit, 1)
  else if (ω (w.tick + 2)).swBack then some (.left, 2)
  else if (ω (w.tick + 3)).swFwd then some (.right, 3)
  else none

/-- The reading that has found a button high, if a branch is entered. -/
def pressAt (ω : Env) (w : World) : Option Nat := (branchAt ω w).map fun branch => w.tick + branch.2

/-- A button is found high by the readings of the long-press part that begin with reading `t`. -/
def heldAt (ω : Env) (t : Nat) : Bool :=
  (ω t).swFwd || (ω (t + 1)).swBack || (ω (t + 2)).swExit || (ω (t + 3)).swSelect

/-- What the debounce logic keeps between two calls. -/
structure SameLock (b b' : Buttons) : Prop where
  buttonFlag : b'.buttonFlag = b.buttonFlag
  longPressFlag : b'.longPressFlag = b.longPressFlag
  previousMillis : b'.previousMillis = b.previousMillis
  longPressStart : b'.longPressStart = b.longPressStart

/-! ## The parts of `menuUpdate` -/

section Parts

variable {ω : Env} {w w' : World}

/-- One test of the button branches, after so many others. -/
theorem wp_freshPress {post : Post World Unit} {pin : InPin} {m m' : Fw Unit} {f : Sample → Bool}
    (hf : ∀ w s, World.level w s pin = f s) (k : Nat) :
    wp (do if ← freshPress pin then m else m') post ω (reads ω k w) ↔
      if w.btn.buttonFlag = false ∧ f (ω (w.tick + k)) = true then
        wp m post ω (reads ω (k + 1) w)
      else wp m' post ω (reads ω (k + 1) w) := by
  simp only [freshPress, wp_bind, wp_digitalRead, wp_get, wp_pure, wp_ite, hf, reads_tick,
    observe_reads, reads_btn]
  cases w.btn.buttonFlag <;> cases f (ω (w.tick + k)) <;> simp

variable [TimeLib]

/-- The part of `menuUpdate` for a call without a press. -/
def redraw (n : Nat) : Fw Unit := do
  when ((← get).menu.menuRefreshFlag = true) do
    modifyMenu fun m => { m with menuRefreshFlag := false }
    menuFunctions n .nothing

/-- `branchAt` is the branch that is taken. -/
theorem wp_buttonBranches {post : Post World Unit} (n : Nat) :
    wp (buttonBranches n) post ω w ↔
      match branchAt ω w with
      | some branch => wp (press n branch.1) post ω (reads ω (branch.2 + 1) w)
      | none => wp (redraw n) post ω (reads ω 4 w) := by
  rw [buttonBranches]
  refine (wp_freshPress (f := fun s => s.swSelect) (fun _ _ => rfl) 0).trans ?_
  rw [wp_freshPress (f := fun s => s.swExit) (fun _ _ => rfl),
    wp_freshPress (f := fun s => s.swBack) (fun _ _ => rfl),
    wp_freshPress (f := fun s => s.swFwd) (fun _ _ => rfl)]
  unfold branchAt
  cases w.btn.buttonFlag with
  | true => simp [redraw]
  | false =>
    -- the two sides test the buttons in the same order
    simp only [true_and, Bool.false_eq_true, if_false, Nat.add_zero]
    cases (ω w.tick).swSelect with
    | true => exact Iff.rfl
    | false =>
      cases (ω (w.tick + 1)).swExit with
      | true => exact Iff.rfl
      | false =>
        cases (ω (w.tick + 2)).swBack with
        | true => exact Iff.rfl
        | false =>
          cases (ω (w.tick + 3)).swFwd with
          | true => exact Iff.rfl
          | false => exact Iff.rfl

/-- A press has locked the buttons at the reading `q`. -/
structure Locked (ω : Env) (q : Nat) (w w' : World) : Prop where
  after : w.tick ≤ q
  before : q < w'.tick
  buttonFlag : w'.btn.buttonFlag = true
  previousMillis : w'.btn.previousMillis = (ω q).millis
  longPressFlag : w'.btn.longPressFlag = w.btn.longPressFlag
  longPressStart : w'.btn.longPressStart = w.btn.longPressStart

/-- The lock is dated after the action of the menu. -/
theorem press_locks (n : Nat) (action : BtnAction) :
    wp (press n action) ⟨fun _ w' => ∃ q, Locked ω q w w', fun _ => True, fun _ => True⟩ ω w := by
  have hw : HandsOff (fun b => b = w.btn) w.tick w := ⟨rfl, Nat.le_refl _⟩
  have htriv : ∀ w', HandsOff (fun b => b = w.btn) w.tick w' → True := fun _ _ => trivial
  rw [press]
  refine (HandsOff.blind _ _ ω).millis.wp_bind hw htriv htriv fun now w₀ h₀ => ?_
  refine (wp_get_bind _).mpr ?_
  refine Stays.wp_bind (.when (HandsOff.menuFunctions n action)) h₀ htriv htriv ?_
  intro _ w₁ h₁
  simp only [wp_bind, wp_modifyBtn, wp_millis]
  refine ⟨w₁.tick, ?_⟩
  exact
    { after := h₁.2
      before := Nat.lt_succ_of_lt (Nat.lt_succ_self _)
      buttonFlag := rfl
      previousMillis := rfl
      longPressFlag := by
        show w₁.btn.longPressFlag = _
        rw [h₁.1]
      longPressStart := by
        show w₁.btn.longPressStart = _
        rw [h₁.1] }

/-- What the button branches of a call do about the lock. -/
inductive Branched (ω : Env) (w w' : World) : Prop where
  | pressed (τ q : Nat) (hp : pressAt ω w = some τ) (hτ : w.tick ≤ τ) (hq : τ < q)
      (h : Locked ω q w w')
  | idle (hp : pressAt ω w = none) (h : HandsOff (fun b => b = w.btn) w.tick w')

theorem buttonBranches_branched (n : Nat) :
    wp (buttonBranches n) ⟨fun _ => Branched ω w, fun _ => True, fun _ => True⟩ ω w := by
  rw [wp_buttonBranches]
  cases hb : branchAt ω w with
  | some branch =>
    have hp : pressAt ω w = some (w.tick + branch.2) := by
      rw [pressAt, hb]
      rfl
    apply wp_weaken (press_locks n branch.1)
    rintro _ w' ⟨q, h⟩
    have hafter : w.tick + (branch.2 + 1) ≤ q := by
      rw [← reads_tick (ω := ω)]
      exact h.after
    refine .pressed (w.tick + branch.2) q hp (Nat.le_add_right _ _) hafter ?_
    exact
      { h with
        after := by omega
        longPressFlag := by rw [h.longPressFlag, reads_btn]
        longPressStart := by rw [h.longPressStart, reads_btn] }
  | none =>
    have hp : pressAt ω w = none := by
      rw [pressAt, hb]
      rfl
    have hreads : HandsOff (fun b => b = w.btn) w.tick (reads ω 4 w) := by
      refine ⟨reads_btn 4 w, ?_⟩
      rw [reads_tick]
      omega
    have hredraw : Stays (HandsOff (fun b => b = w.btn) w.tick) ω (redraw n) :=
      .get_bind fun _ => .when (.bind (.modify fun _ h => h) fun _ =>
        HandsOff.menuFunctions n .nothing)
    exact wp_mono (hredraw _ hreads) (fun _ _ h => .idle hp h) (fun _ _ => trivial)
      (fun _ _ => trivial)

omit [TimeLib] in
/-- The long-press part looks at the buttons in its own order, and stops at the first one. -/
theorem anyButton_held :
    wp anyButton ⟨fun held w' => held = heldAt ω w.tick ∧ w'.btn = w.btn ∧ w.tick < w'.tick,
      fun _ => False, fun _ => False⟩ ω w := by
  have htick : ∀ (w : World) (s : Sample), (w.observe s).tick = w.tick + 1 := fun _ _ => rfl
  have hbtn : ∀ (w : World) (s : Sample), (w.observe s).btn = w.btn := fun _ _ => rfl
  have hlater : ∀ k, w.tick < w.tick + k + 1 := fun k => by omega
  simp only [anyButton, wp_bind, wp_digitalRead, wp_ite, wp_pure, World.level, htick, hbtn,
    heldAt]
  cases (ω w.tick).swFwd with
  | true => exact ⟨fun _ => ⟨rfl, trivial, hlater 0⟩, fun h => absurd rfl h⟩
  | false =>
    refine ⟨fun h => (by cases h), fun _ => ?_⟩
    cases (ω (w.tick + 1)).swBack with
    | true => exact ⟨fun _ => ⟨rfl, trivial, hlater 1⟩, fun h => absurd rfl h⟩
    | false =>
      refine ⟨fun h => (by cases h), fun _ => ?_⟩
      cases (ω (w.tick + 1 + 1)).swExit with
      | true => exact ⟨fun _ => ⟨rfl, trivial, hlater 2⟩, fun h => absurd rfl h⟩
      | false => exact ⟨fun h => (by cases h), fun _ => ⟨rfl, trivial, hlater 3⟩⟩

/-- What the long-press part of a call does. -/
inductive Watched (ω : Env) (w w' : World) : Prop where
  | free (h : heldAt ω w.tick = false) (hb : w'.btn = { w.btn with longPressFlag := false })
      (ht : w.tick ≤ w'.tick)
  | still (h : heldAt ω w.tick = true) (hl : w.btn.longPressFlag = true) (hb : w'.btn = w.btn)
      (ht : w.tick ≤ w'.tick)
  | begins (s : Nat) (h : heldAt ω w.tick = true) (hs : w.tick ≤ s) (hs' : s < w'.tick)
      (hb : w'.btn = { w.btn with longPressStart := (ω s).millis, longPressFlag := true })

omit [TimeLib] in
theorem longPressCheck_watched :
    wp longPressCheck ⟨fun _ => Watched ω w, fun _ => False, fun _ => False⟩ ω w := by
  rw [longPressCheck]
  apply wp_then anyButton_held
  rintro held w₁ ⟨hheld, hb, ht⟩
  rw [wp_ite]
  refine ⟨fun h => ?_, fun h => ?_⟩
  · have hhold : heldAt ω w.tick = true := hheld.symm.trans h
    rw [wp_get_bind, wp_when, wp_bind, wp_millis]
    refine ⟨fun hl => ?_, fun hl => ?_⟩
    · refine (wp_modifyBtn _).mpr (.begins w₁.tick hhold (Nat.le_of_lt ht) (Nat.lt_succ_self _) ?_)
      show { w₁.btn with longPressStart := (ω w₁.tick).millis, longPressFlag := true } = _
      rw [hb]
    · rw [hb] at hl
      exact .still hhold (eq_true_of_ne_false hl) hb (Nat.le_of_lt ht)
  · have hfree : heldAt ω w.tick = false := hheld.symm.trans (eq_false_of_ne_true h)
    refine (wp_modifyBtn _).mpr (.free hfree ?_ (Nat.le_of_lt ht))
    show { w₁.btn with longPressFlag := false } = _
    rw [hb]

/-- The reading `r` shows that `time` is over since the lock. -/
def Elapsed (ω : Env) (b : Buttons) (time : UInt32) (r : Nat) : Prop :=
  time ≤ (ω r).millis - b.previousMillis

/-- What the debounce part of a call does. -/
inductive DebounceStep (ω : Env) (w w' : World) : Prop where
  | kept (hb : w'.btn = w.btn) (ht : w.tick ≤ w'.tick)
  | normal (r : Nat) (now : UInt32) (hr : w.tick ≤ r) (hr' : r < w'.tick)
      (he : Elapsed ω w.btn buttonDebounceTimeNormal r)
      (hb : w'.btn = { w.btn with previousMillis := now, buttonFlag := false })
  | fast (e r : Nat) (now : UInt32) (he : w.tick ≤ e) (hr : e < r) (hr' : r < w'.tick)
      (hl : w.btn.longPressFlag = true)
      (hlong : buttonLongPressTime < (ω e).millis - w.btn.longPressStart)
      (hf : Elapsed ω w.btn buttonDebounceTimeFast r)
      (hb : w'.btn = { w.btn with previousMillis := now, buttonFlag := false })

omit [TimeLib] in
theorem releaseAfter_returns {time : UInt32} {Q : World → Prop}
    (hkept : ∀ w', w'.btn = w.btn → w.tick ≤ w'.tick → Q w')
    (hreleased : Elapsed ω w.btn time w.tick → ∀ w' now, w.tick < w'.tick →
      w'.btn = { w.btn with previousMillis := now, buttonFlag := false } → Q w') :
    wp (releaseAfter time) ⟨fun _ => Q, fun _ => False, fun _ => False⟩ ω w := by
  have htick : w.tick < w.tick + 1 + 1 := by omega
  simp only [releaseAfter, wp_bind, wp_get, wp_millis, wp_when, wp_modifyBtn]
  refine ⟨fun he => ?_, fun _ => hkept _ rfl (Nat.le_succ _)⟩
  exact hreleased he _ _ htick rfl

omit [TimeLib] in
theorem debounceCheck_debounced :
    wp debounceCheck ⟨fun _ => DebounceStep ω w, fun _ => False, fun _ => False⟩ ω w := by
  have hnormal : ∀ w₁ : World, w₁.btn = w.btn → w.tick ≤ w₁.tick →
      wp (releaseAfter buttonDebounceTimeNormal)
        ⟨fun _ => DebounceStep ω w, fun _ => False, fun _ => False⟩ ω w₁ := by
    intro w₁ hb₁ ht₁
    refine releaseAfter_returns (fun w' hb ht => .kept (hb.trans hb₁) (Nat.le_trans ht₁ ht)) ?_
    intro he w' now ht hb
    rw [hb₁] at he hb
    exact .normal w₁.tick now ht₁ ht he hb
  rw [debounceCheck]
  rw [wp_bind, wp_get_bind, wp_ite]
  refine ⟨fun hl => ?_, fun _ => ?_⟩
  · -- the clock is read once for the long press and once for the lock
    rw [wp_bind, wp_millis]
    apply (wp_get_bind _).mpr
    apply (wp_pure _).mpr
    refine (wp_ite _ _ _).mpr ⟨fun hlong => ?_, fun _ => ?_⟩
    · refine releaseAfter_returns (fun w' hb ht => .kept hb (Nat.le_of_succ_le ht)) ?_
      intro he w' now ht hb
      exact .fast w.tick (w.tick + 1) now (Nat.le_refl _) (Nat.lt_succ_self _) ht hl
        (of_decide_eq_true hlong) he hb
    · exact hnormal (w.observe (ω w.tick)) rfl (Nat.le_succ _)
  · apply (wp_pure _).mpr
    exact (wp_ite _ _ _).mpr ⟨fun h => (by cases h), fun _ => hnormal w rfl (Nat.le_refl _)⟩

end Parts

/-! ## Traces of calls -/

/-- A call of `menuUpdate`: its readings are those from `first` up to `last`, the press is the
    reading that has found a button high, and `held` tells what the long-press part has found. -/
structure Update where
  first : Nat
  press : Option Nat
  held : Bool
  last : Nat

/-- The record of a call from `w` to `w'` with the state `w₁` after its button branches. -/
def Update.of (ω : Env) (w w₁ w' : World) : Update where
  first := w.tick
  press := pressAt ω w
  held := heldAt ω w₁.tick
  last := w'.tick

/-- The last press of a trace. -/
def lastPress (us : List Update) : Option Nat := us.findSome? Update.press

/-- The device after the calls `us`, the latest first, and no button was held before them.  Between
    two calls anything may be done but with the debounce logic. -/
inductive Calls [TimeLib] (ω : Env) (first : Nat) : List Update → World → Prop where
  | start (w : World) (hl : w.btn.longPressFlag = false) (ht : first ≤ w.tick) : Calls ω first [] w
  | between {us : List Update} {w w' : World} (h : Calls ω first us w)
      (hb : SameLock w.btn w'.btn) (ht : w.tick ≤ w'.tick) : Calls ω first us w'
  | update {us : List Update} {w w₁ w' : World} (n : Nat) (h : Calls ω first us w)
      (hb : buttonBranches n ω (w.called .menuUpdate) = .done () w₁)
      (hrun : menuUpdate n ω w = .done () w') :
      Calls ω first (.of ω w w₁ w' :: us) w'

/-- The clock of the processor neither goes back nor wraps around from one reading to another. -/
def Nondecreasing (ω : Env) (first last : Nat) : Prop :=
  ∀ i j, first ≤ i → i ≤ j → j ≤ last → (ω i).millis ≤ (ω j).millis

/-- From the reading `s` to the reading `e` every call has found a button high, and that for longer
    than a long press takes. -/
structure LongHold (ω : Env) (us : List Update) (s e : Nat) : Prop where
  begins : ∃ u ∈ us, u.first ≤ s ∧ s < u.last
  ends : ∃ u ∈ us, u.first ≤ e ∧ e < u.last
  long : (ω s).millis.toNat + buttonLongPressTime.toNat < (ω e).millis.toNat
  held : ∀ u ∈ us, s < u.last → u.first ≤ e → u.held = true

/-- The reading `r` has released the lock of the press at `τ`. -/
structure Released (ω : Env) (us : List Update) (τ r : Nat) : Prop where
  after : τ < r
  fast : (ω τ).millis.toNat + buttonDebounceTimeFast.toNat ≤ (ω r).millis.toNat
  early : (ω r).millis.toNat < (ω τ).millis.toNat + buttonDebounceTimeNormal.toNat →
    ∃ s, LongHold ω us s r

/-- Every call since the reading `s` has found a button high. -/
structure HeldSince (ω : Env) (first : Nat) (us : List Update) (w : World) (s : Nat) : Prop where
  shown : w.btn.longPressStart = (ω s).millis
  after : first ≤ s
  begins : ∃ u ∈ us, u.first ≤ s ∧ s < u.last
  held : ∀ u ∈ us, s < u.last → u.held = true

/-- What the debounce logic knows of a trace. -/
structure Debouncing (ω : Env) (first : Nat) (us : List Update) (w : World) : Prop where
  first_le : first ≤ w.tick
  ended : ∀ u ∈ us, u.last ≤ w.tick
  hold : w.btn.longPressFlag = true → ∃ s, HeldSince ω first us w s
  press_le : ∀ τ, lastPress us = some τ → first ≤ τ
  locked : ∀ τ, lastPress us = some τ → w.btn.buttonFlag = true →
    ∃ q, τ < q ∧ q < w.tick ∧ w.btn.previousMillis = (ω q).millis
  free : ∀ τ, lastPress us = some τ → w.btn.buttonFlag = false →
    ∃ r, r < w.tick ∧ Released ω us τ r

section Steps

variable {ω : Env} {first : Nat} {us : List Update} {u : Update} {w w₁ w₂ w' : World}
  {τ r s e : Nat}

theorem Nondecreasing.mono {last last' : Nat} (h : Nondecreasing ω first last) (hl : last' ≤ last) :
    Nondecreasing ω first last' := fun i j hi hij hj => h i j hi hij (Nat.le_trans hj hl)

/-- A later call is not part of the stretch. -/
theorem LongHold.cons (h : LongHold ω us s e) (hu : e < u.first) : LongHold ω (u :: us) s e where
  begins := by
    obtain ⟨v, hv, hs⟩ := h.begins
    exact ⟨v, List.mem_cons_of_mem _ hv, hs⟩
  ends := by
    obtain ⟨v, hv, he⟩ := h.ends
    exact ⟨v, List.mem_cons_of_mem _ hv, he⟩
  long := h.long
  held := by
    intro v hv hs he
    rcases List.mem_cons.mp hv with rfl | hv
    · omega
    · exact h.held v hv hs he

theorem Released.cons (h : Released ω us τ r) (hu : r < u.first) : Released ω (u :: us) τ r where
  after := h.after
  fast := h.fast
  early := by
    intro hr
    obtain ⟨s, hs⟩ := h.early hr
    exact ⟨s, hs.cons hu⟩

theorem lastPress_cons (u : Update) (us : List Update) :
    lastPress (u :: us) = u.press.or (lastPress us) := by
  unfold lastPress
  rw [List.findSome?_cons]
  cases u.press <;> rfl

/-- The button branches leave the long press alone. -/
theorem Branched.longPress (h : Branched ω w w₁) :
    w₁.btn.longPressFlag = w.btn.longPressFlag ∧ w₁.btn.longPressStart = w.btn.longPressStart ∧
      w.tick ≤ w₁.tick := by
  cases h with
  | pressed τ q _ _ _ hl =>
    exact ⟨hl.longPressFlag, hl.longPressStart, Nat.le_trans hl.after (Nat.le_of_lt hl.before)⟩
  | idle _ hi =>
    obtain ⟨hb, ht⟩ := hi
    rw [hb]
    exact ⟨rfl, rfl, ht⟩

/-- The long-press part leaves the lock alone. -/
theorem Watched.lock (h : Watched ω w₁ w₂) :
    w₂.btn.buttonFlag = w₁.btn.buttonFlag ∧ w₂.btn.previousMillis = w₁.btn.previousMillis ∧
      w₁.tick ≤ w₂.tick := by
  cases h with
  | free _ hb ht =>
    rw [hb]
    exact ⟨rfl, rfl, ht⟩
  | still _ _ hb ht =>
    rw [hb]
    exact ⟨rfl, rfl, ht⟩
  | begins s _ hs hs' hb =>
    rw [hb]
    exact ⟨rfl, rfl, Nat.le_trans hs (Nat.le_of_lt hs')⟩

/-- The debounce part leaves the long press alone. -/
theorem DebounceStep.longPress (h : DebounceStep ω w₂ w') :
    w'.btn.longPressFlag = w₂.btn.longPressFlag ∧ w'.btn.longPressStart = w₂.btn.longPressStart ∧
      w₂.tick ≤ w'.tick := by
  cases h with
  | kept hb ht =>
    rw [hb]
    exact ⟨rfl, rfl, ht⟩
  | normal r _ hr hr' _ hb =>
    rw [hb]
    exact ⟨rfl, rfl, Nat.le_trans hr (Nat.le_of_lt hr')⟩
  | fast e r _ he hr hr' _ _ _ hb =>
    rw [hb]
    exact ⟨rfl, rfl, by omega⟩

/-- A long press goes on, or begins with this call. -/
theorem Debouncing.held (h : Debouncing ω first us w) (hbr : Branched ω w w₁)
    (hwa : Watched ω w₁ w₂) (ht : w₂.tick ≤ w'.tick) (hl : w₂.btn.longPressFlag = true) :
    ∃ s, s < w₂.tick ∧ HeldSince ω first (.of ω w w₁ w' :: us) w₂ s := by
  obtain ⟨hflag, hstart, ht₁⟩ := hbr.longPress
  cases hwa with
  | free _ hb _ =>
    rw [hb] at hl
    cases hl
  | still hheld hl₁ hb ht₂ =>
    obtain ⟨s, hs⟩ := h.hold (hflag.symm.trans hl₁)
    obtain ⟨v, hv, hvs⟩ := hs.begins
    have hend := h.ended v hv
    refine ⟨s, by omega, ?_⟩
    exact
      { shown := by rw [hb, hstart, hs.shown]
        after := hs.after
        begins := ⟨v, List.mem_cons_of_mem _ hv, hvs⟩
        held := by
          intro v hv hsv
          rcases List.mem_cons.mp hv with rfl | hv
          · exact hheld
          · exact hs.held v hv hsv }
  | begins s hheld hs hs' hb =>
    have hfirst := h.first_le
    refine ⟨s, hs', ?_⟩
    exact
      { shown := by rw [hb]
        after := by omega
        begins := ⟨_, List.mem_cons_self, Nat.le_trans ht₁ hs, Nat.lt_of_lt_of_le hs' ht⟩
        held := by
          intro v hv hsv
          rcases List.mem_cons.mp hv with rfl | hv
          · exact hheld
          · -- the calls before are over
            have hend := h.ended v hv
            omega }

/-- Before the debounce part a press is locked, or it was released by an earlier call. -/
theorem Debouncing.pending (h : Debouncing ω first us w) (hbr : Branched ω w w₁)
    (hwa : Watched ω w₁ w₂) (hp : lastPress (.of ω w w₁ w' :: us) = some τ) :
    first ≤ τ ∧
      (w₂.btn.buttonFlag = true →
        ∃ q, τ < q ∧ q < w₂.tick ∧ w₂.btn.previousMillis = (ω q).millis) ∧
      (w₂.btn.buttonFlag = false → ∃ r, r < w.tick ∧ Released ω us τ r) := by
  obtain ⟨hflag, hprev, ht₂⟩ := hwa.lock
  have hfirst := h.first_le
  have hor : (pressAt ω w).or (lastPress us) = some τ := by
    rw [lastPress_cons] at hp
    exact hp
  cases hbr with
  | pressed τ' q hpress hτ hq hl =>
    rw [hpress, Option.some_or] at hor
    obtain rfl := Option.some.inj hor
    have hbefore := hl.before
    refine ⟨by omega, fun _ => ⟨q, hq, by omega, hprev.trans hl.previousMillis⟩, fun hfree => ?_⟩
    rw [hflag, hl.buttonFlag] at hfree
    cases hfree
  | idle hpress hi =>
    obtain ⟨hb, ht₁⟩ := hi
    rw [hpress, Option.none_or] at hor
    rw [hflag, hprev, hb]
    refine ⟨h.press_le τ hor, fun hlocked => ?_, h.free τ hor⟩
    obtain ⟨q, hq, hq', hm⟩ := h.locked τ hor hlocked
    exact ⟨q, hq, by omega, hm⟩

/-- A reading of the debounce part that shows `time` since the lock, and the press before it. -/
theorem Debouncing.elapsed {time : UInt32} (h : Debouncing ω first us w)
    (hω : Nondecreasing ω first w'.tick) (hbr : Branched ω w w₁) (hwa : Watched ω w₁ w₂)
    (hp : lastPress (.of ω w w₁ w' :: us) = some τ) (hlock : w₂.btn.buttonFlag = true)
    (hr : w₂.tick ≤ r) (hr' : r < w'.tick) (he : Elapsed ω w₂.btn time r) :
    τ < r ∧ (ω τ).millis.toNat + time.toNat ≤ (ω r).millis.toNat := by
  obtain ⟨hτ, hlocked, -⟩ := h.pending hbr hwa hp
  obtain ⟨q, hq, hq', hm⟩ := hlocked hlock
  have hqr : (ω q).millis ≤ (ω r).millis := hω q r (by omega) (by omega) (by omega)
  have hτq : (ω τ).millis ≤ (ω q).millis := hω τ q hτ (by omega) (by omega)
  have hle := UInt32.le_iff_toNat_le.mp hτq
  rw [Elapsed, hm] at he
  have hsum := UInt32.toNat_add_le_of_le_sub hqr he
  exact ⟨by omega, by omega⟩

/-- A press that is not locked after a call has been released, by this call or before. -/
theorem Debouncing.released (h : Debouncing ω first us w) (hω : Nondecreasing ω first w'.tick)
    (hbr : Branched ω w w₁) (hwa : Watched ω w₁ w₂) (hde : DebounceStep ω w₂ w')
    (hp : lastPress (.of ω w w₁ w' :: us) = some τ) (hfree : w'.btn.buttonFlag = false) :
    ∃ r, r < w'.tick ∧ Released ω (.of ω w w₁ w' :: us) τ r := by
  have ht₁ := hbr.longPress.2.2
  have ht₂ := hwa.lock.2.2
  have ht' := hde.longPress.2.2
  by_cases hlock : w₂.btn.buttonFlag = true
  · cases hde with
    | kept hb _ =>
      rw [hb, hlock] at hfree
      cases hfree
    | normal r now hr hr' he hb =>
      obtain ⟨hτr, hle⟩ := h.elapsed hω hbr hwa hp hlock hr hr' he
      have htimes : buttonDebounceTimeFast.toNat ≤ buttonDebounceTimeNormal.toNat := by decide
      exact ⟨r, hr', ⟨hτr, by omega, fun hlt => by omega⟩⟩
    | fast e r now he hr hr' hl hlong hf hb =>
      obtain ⟨hτr, hle⟩ := h.elapsed hω hbr hwa hp hlock (by omega) hr' hf
      refine ⟨r, hr', ⟨hτr, hle, fun _ => ?_⟩⟩
      -- the long press that makes it a fast release
      obtain ⟨s, hs, hheld⟩ := h.held hbr hwa ht' hl
      have hafter := hheld.after
      have hfirst := h.first_le
      have hse : (ω s).millis ≤ (ω e).millis := hω s e hafter (by omega) (by omega)
      have her : (ω e).millis ≤ (ω r).millis := hω e r (by omega) (by omega) (by omega)
      have hle' := UInt32.le_iff_toNat_le.mp her
      rw [hheld.shown] at hlong
      have hspan := UInt32.toNat_add_lt_of_lt_sub hse hlong
      refine ⟨s, ?_⟩
      exact
        { begins := hheld.begins
          ends := ⟨_, List.mem_cons_self, by show w.tick ≤ r; omega, hr'⟩
          long := by omega
          held := fun v hv hsv _ => hheld.held v hv hsv }
  · obtain ⟨r, hr, hrel⟩ := (h.pending hbr hwa hp).2.2 (eq_false_of_ne_true hlock)
    exact ⟨r, by omega, hrel.cons hr⟩

/-- What one call does to what the debounce logic knows. -/
theorem Debouncing.update (h : Debouncing ω first us w) (hω : Nondecreasing ω first w'.tick)
    (hbr : Branched ω w w₁) (hwa : Watched ω w₁ w₂) (hde : DebounceStep ω w₂ w') :
    Debouncing ω first (.of ω w w₁ w' :: us) w' := by
  obtain ⟨hflag, hstart, ht'⟩ := hde.longPress
  have ht₁ := hbr.longPress.2.2
  have ht₂ := hwa.lock.2.2
  have hfirst := h.first_le
  exact
    { first_le := by omega
      ended := by
        intro v hv
        rcases List.mem_cons.mp hv with rfl | hv
        · exact Nat.le_refl _
        · have hend := h.ended v hv
          omega
      hold := by
        intro hl
        obtain ⟨s, -, hheld⟩ := h.held hbr hwa ht' (hflag.symm.trans hl)
        exact ⟨s, { hheld with shown := hstart.trans hheld.shown }⟩
      press_le := fun τ hp => (h.pending hbr hwa hp).1
      locked := by
        intro τ hp hlock
        cases hde with
        | kept hb _ =>
          rw [hb] at hlock ⊢
          obtain ⟨q, hq, hq', hm⟩ := (h.pending hbr hwa hp).2.1 hlock
          exact ⟨q, hq, by omega, hm⟩
        | normal _ _ _ _ _ hb =>
          rw [hb] at hlock
          cases hlock
        | fast _ _ _ _ _ _ _ _ _ hb =>
          rw [hb] at hlock
          cases hlock
      free := fun τ hp hfree => h.released hω hbr hwa hde hp hfree }

end Steps

/-! ## Runs of calls -/

section Runs

variable [TimeLib] {ω : Env} {first : Nat} {us : List Update} {w w₁ w' : World} {τ τ' : Nat}

/-- The three parts of a call that returns. -/
theorem menuUpdate_parts {n : Nat} (hb : buttonBranches n ω (w.called .menuUpdate) = .done () w₁)
    (hrun : menuUpdate n ω w = .done () w') :
    ∃ w₂, Branched ω (w.called .menuUpdate) w₁ ∧ Watched ω w₁ w₂ ∧ DebounceStep ω w₂ w' := by
  have hrest : (do buttonBranches n; longPressCheck; debounceCheck) ω (w.called .menuUpdate) =
      .done () w' := hrun
  obtain ⟨_, w₁', hb', hrest⟩ := bind_done hrest
  obtain ⟨_, w₂, hl, hd⟩ := bind_done hrest
  rw [hb] at hb'
  obtain ⟨-, rfl⟩ := Outcome.done.inj hb'
  exact ⟨w₂, wp_run (buttonBranches_branched n) hb, wp_run longPressCheck_watched hl,
    wp_run debounceCheck_debounced hd⟩

/-- The invariant of every trace of calls. -/
theorem Calls.debouncing (h : Calls ω first us w) (hω : Nondecreasing ω first w.tick) :
    Debouncing ω first us w := by
  induction h with
  | start w hl ht =>
    exact
      { first_le := ht
        ended := fun v hv => by cases hv
        hold := fun h => by rw [hl] at h; cases h
        press_le := fun _ hp => by cases hp
        locked := fun _ hp => by cases hp
        free := fun _ hp => by cases hp }
  | between _ hb ht ih =>
    have h' := ih (hω.mono ht)
    exact
      { first_le := Nat.le_trans h'.first_le ht
        ended := fun v hv => Nat.le_trans (h'.ended v hv) ht
        hold := by
          intro hl
          obtain ⟨s, hs⟩ := h'.hold (hb.longPressFlag.symm.trans hl)
          exact ⟨s, { hs with shown := hb.longPressStart.trans hs.shown }⟩
        press_le := h'.press_le
        locked := by
          intro τ hp hlock
          obtain ⟨q, hq, hq', hm⟩ := h'.locked τ hp (hb.buttonFlag.symm.trans hlock)
          exact ⟨q, hq, Nat.lt_of_lt_of_le hq' ht, hb.previousMillis.trans hm⟩
        free := by
          intro τ hp hfree
          obtain ⟨r, hr, hrel⟩ := h'.free τ hp (hb.buttonFlag.symm.trans hfree)
          exact ⟨r, Nat.lt_of_lt_of_le hr ht, hrel⟩ }
  | update n _ hb hrun ih =>
    obtain ⟨w₂, hbr, hwa, hde⟩ := menuUpdate_parts hb hrun
    have h₁ := hbr.longPress.2.2
    have h₂ := hwa.lock.2.2
    have h₃ := hde.longPress.2.2
    have h' := ih (hω.mono (Nat.le_trans h₁ (Nat.le_trans h₂ h₃)))
    have hcalled := Debouncing.update (w := World.called _ .menuUpdate)
      ⟨h'.first_le, h'.ended, fun hl => ?_, h'.press_le, h'.locked, h'.free⟩ hω hbr hwa hde
    · exact hcalled
    · obtain ⟨s, hs⟩ := h'.hold hl
      exact ⟨s, { hs with }⟩

omit [TimeLib] in
theorem le_of_pressAt (h : pressAt ω w = some τ) : w.tick ≤ τ := by
  obtain ⟨branch, -, rfl⟩ := Option.map_eq_some_iff.mp h
  exact Nat.le_add_right _ _

/-- In any trace of calls, from the last press to the next one at least the short debounce time
    passes; and if less than the normal one passes, every call of a stretch that is longer than a
    long press and ends between the two presses has found a button high. -/
theorem presses_spaced (h : Calls ω first us w) (hω : Nondecreasing ω first τ')
    (hlast : lastPress us = some τ) (hnext : pressAt ω w = some τ') :
    (ω τ).millis.toNat + buttonDebounceTimeFast.toNat ≤ (ω τ').millis.toNat ∧
      ((ω τ').millis.toNat < (ω τ).millis.toNat + buttonDebounceTimeNormal.toNat →
        ∃ s e, LongHold ω us s e ∧ (ω τ).millis.toNat < (ω e).millis.toNat ∧
          (ω e).millis.toNat ≤ (ω τ').millis.toNat) := by
  have hτ' := le_of_pressAt hnext
  have hdeb := h.debouncing (hω.mono hτ')
  have hfirst := hdeb.first_le
  have hflag : w.btn.buttonFlag = false := by
    cases hb : w.btn.buttonFlag with
    | false => rfl
    | true =>
      rw [pressAt, branchAt, hb] at hnext
      cases hnext
  obtain ⟨r, hr, hrel⟩ := hdeb.free τ hlast hflag
  have hfast := hrel.fast
  have hpos : 0 < buttonDebounceTimeFast.toNat := by decide
  have hτ := hdeb.press_le τ hlast
  have hafter := hrel.after
  have hrτ : (ω r).millis.toNat ≤ (ω τ').millis.toNat :=
    UInt32.le_iff_toNat_le.mp (hω r τ' (by omega) (by omega) (Nat.le_refl _))
  refine ⟨by omega, fun hlt => ?_⟩
  obtain ⟨s, hs⟩ := hrel.early (by omega)
  exact ⟨s, r, hs, by omega, hrτ⟩

/-- The firmware calls `menuUpdate` at the end of `loop` and nowhere else, and leaves the debounce
    logic alone otherwise. -/
theorem Calls.loop (h : Calls ω first us w) {n : Nat} (hrun : loop n ω w = .done () w') :
    ∃ us', Calls ω first us' w' ∧ (us' = us ∨ ∃ u, us' = u :: us) := by
  have hw : HandsOff (fun b => b = w.btn) w.tick w := ⟨rfl, Nat.le_refl _⟩
  have hbetween : ∀ {w₁}, HandsOff (fun b => b = w.btn) w.tick w₁ → Calls ω first us w₁ := by
    intro w₁ h₁
    obtain ⟨hb, ht⟩ := h₁
    exact .between h (by rw [hb]; exact ⟨rfl, rfl, rfl, rfl⟩) ht
  rcases wp_run (HandsOff.loop n hw) hrun with h' | ⟨w₁, h₁, hrun₁⟩
  · exact ⟨us, hbetween h', .inl rfl⟩
  · have hrest : (do buttonBranches n; longPressCheck; debounceCheck) ω (w₁.called .menuUpdate) =
        .done () w' := hrun₁
    obtain ⟨_, w₂, hb, -⟩ := bind_done hrest
    exact ⟨_, .update n (hbetween h₁) hb hrun₁, .inr ⟨_, rfl⟩⟩

/-- A boot starts a trace. -/
theorem Calls.boot {n : Nat} (hb : w.btn = {}) (hrun : boot n ω w = .done () w') :
    Calls ω w.tick [] w' := by
  have hw : HandsOff.Unheld w.tick w := by
    refine ⟨?_, Nat.le_refl _⟩
    rw [hb]
  have hend := wp_run (HandsOff.Unheld.boot n w hw) hrun
  exact .start w' hend.1 hend.2

end Runs

/-- A trace of calls with the state it leads to. -/
structure Recorded [TimeLib] (ω : Env) (first : Nat) where
  updates : List Update
  world : World
  calls : Calls ω first updates world

namespace Recorded

variable [TimeLib] {ω : Env} {first : Nat}

omit [TimeLib] in
theorem returns {m : Fw Unit} {w : World} (h : (afterCall (m ω w)).1 = .awake) :
    m ω w = .done () (afterCall (m ω w)).2 := by
  cases hm : m ω w with
  | done _ w' => rfl
  | halt w' =>
    rw [hm] at h
    cases h
  | pending w' =>
    rw [hm] at h
    cases h

/-- One more call. -/
def update (r : Recorded ω first) (n : Nat)
    (hb : (afterCall (buttonBranches n ω (r.world.called .menuUpdate))).1 = .awake)
    (h : (afterCall (menuUpdate n ω r.world)).1 = .awake) : Recorded ω first where
  updates := .of ω r.world (afterCall (buttonBranches n ω (r.world.called .menuUpdate))).2
    (afterCall (menuUpdate n ω r.world)).2 :: r.updates
  world := (afterCall (menuUpdate n ω r.world)).2
  calls := .update n r.calls (returns hb) (returns h)

end Recorded

/-! A button is held for almost two seconds: the third press follows the second one fast. -/

/-- The inputs of the trace: the first call, the two calls after 1600 ms, and the rest. -/
def repeatEnv : Env := fun n =>
  { swFwd := true
    millis := if n < 11 then 3000000 else if n < 29 then 3001600 else 3001850 }

/-- The trace up to the third press; the menu shows no screen. -/
def repeatCalls : Recorded repeatEnv 0 :=
  let start : Recorded repeatEnv 0 :=
    { updates := [], world := { menu := { menuId := 999 } }, calls := .start _ rfl (Nat.le_refl _) }
  let first := start.update 0 (by decide +kernel) (by decide +kernel)
  let second := first.update 0 (by decide +kernel) (by decide +kernel)
  let third := second.update 0 (by decide +kernel) (by decide +kernel)
  third.update 0 (by decide +kernel) (by decide +kernel)

theorem nondecreasing_repeatEnv (last : Nat) : Nondecreasing repeatEnv 0 last := by
  intro i j _ hij _
  show (if i < 11 then (3000000 : UInt32) else if i < 29 then 3001600 else 3001850) ≤
    if j < 11 then 3000000 else if j < 29 then 3001600 else 3001850
  repeat' split
  all_goals first | decide | omega

theorem presses_spaced_repeatCalls :
    lastPress repeatCalls.updates = some 22 ∧ pressAt repeatEnv repeatCalls.world = some 40 ∧
      ∃ s e, LongHold repeatEnv repeatCalls.updates s e ∧
        (repeatEnv 22).millis.toNat < (repeatEnv e).millis.toNat ∧
        (repeatEnv e).millis.toNat ≤ (repeatEnv 40).millis.toNat := by
  have hlast : lastPress repeatCalls.updates = some 22 := by decide +kernel
  have hnext : pressAt repeatEnv repeatCalls.world = some 40 := by decide +kernel
  obtain ⟨-, hlong⟩ := presses_spaced repeatCalls.calls (nondecreasing_repeatEnv 40) hlast hnext
  exact ⟨hlast, hnext, hlong (by decide)⟩

end Eggvault.Spec
