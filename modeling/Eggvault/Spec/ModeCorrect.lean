import Eggvault.Spec.ClockCorrect

/-!
# What is edited on which screen

`timeSetMode` serves the two clock screens and the alarm time of screen 820.  It is reset on
most of the ways between them, but not on the way from screen 500 to screen 400: what another
editor has left there makes an EXIT on a date that nobody touched write the RTC.

## Key results

- `edit_mode_fits`: in every run whose ways from 500 to 400 find nothing edited, the mode fits
  the screen and every save follows a SELECT on its screen
-/

namespace Eggvault.Spec

open Eggvault.Native Prog Trace

/-! ## Calls of the menu -/

/-- The calls of `menuFunctions`, newest first: the button and what the call has found. -/
def menuCalls (tr : List Event) : List (BtnAction × Moment) :=
  tr.filterMap fun
    | .call (.menuFunctions action) m => some (action, m)
    | _ => none

/-- The event is neither a call of `menuFunctions` nor a save of the clock. -/
def isOffScreen : Event → Bool
  | .call (.menuFunctions _) _ => false
  | .setTime .. => false
  | _ => true

theorem menuCalls_of_offScreen {e : Event} (he : isOffScreen e = true) (tr : List Event) :
    menuCalls (e :: tr) = menuCalls tr := by
  cases e with
  | call f m => cases f <;> first | rfl | cases he
  | _ => rfl

theorem menuCalls_extends {tr tr' : List Event} (h : Extends isOffScreen tr tr') :
    menuCalls tr' = menuCalls tr :=
  h.keeps (P := fun t => menuCalls t = menuCalls tr)
    (fun _ t he ht => (menuCalls_of_offScreen he t).trans ht) rfl

/-- The newest calls were all on one screen, and one of them was a SELECT. -/
def Edited (id : Nat) (calls : List (BtnAction × Moment)) : Prop :=
  EverSince (fun c => c.2.menu.menuId = id) (fun c => c.1 = .select) calls

/-! ## Steps between screens -/

/-- What an action does to the screen and to what is edited there. -/
inductive NavStep [TimeLib] (ω : Env) (w : World) : World → Prop where
  /-- Outside of the screens; from `setup`, status checks and `loop` the menu goes to a few
      screens. -/
  | plain (w' : World) (ht : Extends isOffScreen w.trace w'.trace)
      (hm : w'.menu.timeSetMode = w.menu.timeSetMode)
      (hid : w'.menu.menuId = w.menu.menuId ∨ w'.menu.menuId ∈ [0, 2, 3, 4, 100] ∨
        w'.menu.menuId = 1 ∧ w.menu.timeSetMode = .setNothing) : NavStep ω w w'
  /-- A screen that edits nothing. -/
  | screen (w' : World) (action : BtnAction)
      (hs : w.menu.menuId ≠ 1 ∧ w.menu.menuId ≠ 300 ∧ w.menu.menuId ≠ 400)
      (ht : Extends isOffScreen (entered w action).trace w'.trace)
      (hm : w'.menu.timeSetMode = w.menu.timeSetMode)
      (hid : w'.menu.menuId = w.menu.menuId ∨ w'.menu.menuId = 0) : NavStep ω w w'
  | edit (action : BtnAction) (f : BtnAction → Menu → Menu)
      (hf : editScreen w.menu.menuId = some f) :
      NavStep ω w { entered w action with menu := f action w.menu }
  | time (action : BtnAction) (hid : w.menu.menuId = 300) :
      NavStep ω w (screened ω (entered w action) (read300 w)
        (saves300 action w.menu.timeSetMode) (clock300 action w (ω w.tick).rtc)
        (next300 action w.menu.timeSetMode w.sched.fInitNox))
  | date (action : BtnAction) (hid : w.menu.menuId = 400) :
      NavStep ω w (screened ω (entered w action) (read400 action w (ω w.tick).rtc)
        (saves400 action w.menu.timeSetMode) (clock400 action w (ω w.tick).rtc)
        (next400 action w.menu.timeSetMode w.sched.fInitNox))

section Steps

variable [TimeLib] {ω : Env} {w w' : World}

omit [TimeLib] in
theorem menu_blind (ω : Env) (m : Menu) : Blind ω fun w => w.menu = m where
  observe := fun _ h => h
  door := fun _ _ _ h => h
  pins := fun _ _ h => h
  emit := fun _ _ _ h => h
  store := fun _ _ _ _ h => h

/-- A status check or a move stays on the screen or goes to the error screen. -/
theorem Work.menuId (h : Work ω w w') : w'.menu.menuId = w.menu.menuId ∨ w'.menu.menuId = 2 := by
  have hsame : w'.menu = w.menu → w'.menu.menuId = w.menu.menuId ∨ w'.menu.menuId = 2 :=
    fun heq => .inl (by rw [heq])
  have hb := menu_blind ω w.menu
  cases h with
  | startMove _ hrun => exact hsame (wp_run (hb.startMove w rfl) hrun)
  | iterate _ _ pos _ _ _ _ hrun => exact hsame (wp_run (hb.moveIteration pos w rfl) hrun)
  | finishMove _ _ _ _ _ hrun => exact hsame (wp_run (hb.finishMove w rfl) hrun)
  | report => exact .inr rfl
  | pass _ pos a mode hp => exact hsame hp.frame.2
  | stray _ pos _ _ _ hst => exact hsame hst.menu
  | _ => exact .inl rfl

theorem WakeAct.menuId (h : WakeAct ω w w') :
    w'.menu.menuId = w.menu.menuId ∨ w'.menu.menuId = 2 := by
  cases h with
  | work _ hw => exact hw.menuId
  | _ => exact .inl rfl

/-- No wake-up calls the menu or saves the clock. -/
theorem WakeAct.offScreen (h : WakeAct ω w w') : Extends isOffScreen w.trace w'.trace := by
  refine (h.unsaved.trace.and h.aloof.trace).mono fun e he => ?_
  cases e with
  | setTime => cases he
  | call f m => cases f <;> first | rfl | cases he
  | _ => rfl

/-- Every action is one of these steps. -/
theorem Act.navStep (h : Act ω w w') : NavStep ω w w' := by
  have hent : ∀ action, Extends isOffScreen (entered w action).trace (entered w action).trace :=
    fun _ => .refl _
  cases h with
  | wake _ hw =>
    refine .plain _ hw.offScreen hw.timeSetMode ?_
    rcases hw.menuId with hid | hid
    · exact .inl hid
    · -- an error was reported
      exact .inr (.inl (by simp [hid]))
  | update => exact .plain _ (.single _ rfl) rfl (.inl rfl)
  | goTo id hg =>
    refine .plain _ (.refl _) rfl (.inr ?_)
    cases hg with
    | start action => exact .inl (by cases action <;> simp [hub])
    | moved => exact .inl (by simp)
    | error => exact .inl (by simp)
    | initial _ hm => exact .inr ⟨rfl, hm⟩
    | ready => exact .inl (by simp)
  | enter action he ha =>
    refine .screen _ action ⟨?_, ?_, ?_⟩ (hent action) rfl (.inl rfl)
    · intro hid; rw [hid] at he; cases he
    · intro hid; rw [hid] at ha; cases ha
    · intro hid; rw [hid] at ha; cases ha
  | edit action f hf => exact .edit action f hf
  | start action hid =>
    have hread : Extends isOffScreen (entered w action).trace
        (restamped ω (entered w action)).trace :=
      extends_observe (.single _ rfl) (fun _ => rfl) _
    exact .screen _ action (by simp [hid]) hread rfl (.inl rfl)
  | acknowledge action hid _ => exact .screen _ action (by simp [hid]) (hent action) rfl (.inr rfl)
  | redraw hid => exact .screen _ .nothing (by simp [hid]) (hent .nothing) rfl (.inr rfl)
  | setTime _ action hid hrun =>
    have hrun' := screen300_eq (ω := ω) (w := entered w action) hid action
    -- the run is the one that the equation of the screen names
    rw [hrun'] at hrun
    cases hrun
    exact .time action hid
  | setDate _ action hid hrun =>
    have hrun' := screen400_eq (ω := ω) (w := entered w action) hid action
    rw [hrun'] at hrun
    cases hrun
    exact .date action hid
  | initialise action hid _ => exact .screen _ action (by simp [hid]) (hent action) rfl (.inr rfl)
  | save action hid _ =>
    exact .screen _ action (by simp [hid]) (.single _ rfl) rfl (.inr rfl)

end Steps

/-! ## The mode of a screen -/

/-- On the clock screens nothing is edited, or something of that screen since a SELECT there; the
    first set-up starts with nothing edited. -/
structure Fit (id : Nat) (mode : Setmode) (calls : List (BtnAction × Moment)) : Prop where
  first : id = 1 → mode = .setNothing
  time : id = 300 → mode = .setNothing ∨ (mode = .setHour ∨ mode = .setMinute) ∧ Edited 300 calls
  date : id = 400 → mode = .setNothing ∨
    (mode = .setDay ∨ mode = .setMonth ∨ mode = .setYear) ∧ Edited 400 calls

namespace Fit

variable {id : Nat} {mode : Setmode} {calls : List (BtnAction × Moment)} {action : BtnAction}
  {m : Moment} {nox : Int32}

/-- Where nothing is edited everything fits. -/
theorem nothing (id : Nat) (calls : List (BtnAction × Moment)) : Fit id .setNothing calls :=
  ⟨fun _ => rfl, fun _ => .inl rfl, fun _ => .inl rfl⟩

/-- On the other screens everything fits. -/
theorem elsewhere (h₁ : id ≠ 1) (h₂ : id ≠ 300) (h₃ : id ≠ 400) : Fit id mode calls :=
  ⟨fun h => absurd h h₁, fun h => absurd h h₂, fun h => absurd h h₃⟩

/-- A call on a clock screen where something was edited. -/
theorem edited_cons {s : Nat} (hm : m.menu.menuId = s) (h : Edited s calls) :
    Edited s ((action, m) :: calls) := ⟨hm, .inr h⟩

/-- A SELECT on a clock screen. -/
theorem edited_select {s : Nat} (hm : m.menu.menuId = s) : Edited s ((.select, m) :: calls) :=
  ⟨hm, .inl rfl⟩

/-- An edit of the time goes on. -/
theorem onTime (hmode : mode = .setHour ∨ mode = .setMinute) (h : Edited 300 calls) :
    Fit 300 mode calls :=
  ⟨fun h => absurd h (by decide), fun _ => .inr ⟨hmode, h⟩, fun h => absurd h (by decide)⟩

/-- An edit of the date goes on. -/
theorem onDate (hmode : mode = .setDay ∨ mode = .setMonth ∨ mode = .setYear)
    (h : Edited 400 calls) : Fit 400 mode calls :=
  ⟨fun h => absurd h (by decide), fun h => absurd h (by decide), fun _ => .inr ⟨hmode, h⟩⟩

/-- Screen 300 keeps the fit. -/
theorem next300 (h : Fit 300 mode calls) (hm : m.menu.menuId = 300) :
    Fit (next300 action mode nox).2 (next300 action mode nox).1 ((action, m) :: calls) := by
  rcases h.time rfl with rfl | ⟨rfl | rfl, hed⟩
  · cases action with
    | select => exact onTime (.inl rfl) (edited_select hm)
    | _ => exact nothing _ _
  · cases action with
    | select => exact onTime (.inr rfl) (edited_select hm)
    | exit => exact nothing _ _
    | _ => exact onTime (.inl rfl) (edited_cons hm hed)
  · cases action with
    | select => exact nothing _ _
    | exit => exact nothing _ _
    | _ => exact onTime (.inr rfl) (edited_cons hm hed)

/-- Screen 400 keeps the fit. -/
theorem next400 (h : Fit 400 mode calls) (hm : m.menu.menuId = 400) :
    Fit (next400 action mode nox).2 (next400 action mode nox).1 ((action, m) :: calls) := by
  rcases h.date rfl with rfl | ⟨rfl | rfl | rfl, hed⟩
  · cases action with
    | select => exact onDate (.inl rfl) (edited_select hm)
    | _ => exact nothing _ _
  · cases action with
    | select => exact onDate (.inr (.inl rfl)) (edited_select hm)
    | exit => exact nothing _ _
    | _ => exact onDate (.inl rfl) (edited_cons hm hed)
  · cases action with
    | select => exact onDate (.inr (.inr rfl)) (edited_select hm)
    | exit => exact nothing _ _
    | _ => exact onDate (.inr (.inl rfl)) (edited_cons hm hed)
  · cases action with
    | select => exact nothing _ _
    | exit => exact nothing _ _
    | _ => exact onDate (.inr (.inr rfl)) (edited_cons hm hed)

end Fit

/-! ## Where the screens lead -/

@[simp] theorem setMode_menuId (m : Menu) (v : UInt8) : (m.setMode v).menuId = m.menuId := by
  unfold Menu.setMode
  split <;> rfl

@[simp] theorem setLux_menuId (m : Menu) (v : UInt8) : (m.setLux v).menuId = m.menuId := by
  unfold Menu.setLux
  split <;> rfl

/-- The screens of the alarm editor and the choice of days lead to one another, to the two menu
    entries above them, and to the save. -/
def editorScreen (id : Nat) : Prop := id ∈ [100, 110, 200, 800, 810, 820, 900]

variable {m : Menu} {action : BtnAction}

theorem screen110_leads (h : m.menuId = 110) : editorScreen (screen110 action m).menuId := by
  cases action with
  | left => simp [screen110, editorScreen, h]
  | right => simp [screen110, editorScreen, h]
  | select =>
    simp only [screen110]
    split
    · simp [editorScreen, h]
    · simp [editorScreen]
  | exit =>
    simp only [screen110]
    split <;> simp [editorScreen]
  | nothing => simp [screen110, editorScreen]

theorem screen800_leads (h : m.menuId = 800) : editorScreen (screen800 action m).menuId := by
  cases action with
  | left => simp [screen800, editorScreen, h]
  | right => simp [screen800, editorScreen, h]
  | select =>
    simp only [screen800]
    split <;> simp [editorScreen, h]
  | exit => simp [screen800, editorScreen]
  | nothing => simp [screen800, editorScreen]

theorem screen810_leads (h : m.menuId = 810) : editorScreen (screen810 action m).menuId := by
  cases action with
  | left => simp [screen810, editorScreen, h]
  | right => simp [screen810, editorScreen, h]
  | select =>
    simp only [screen810]
    split <;> simp [editorScreen, h]
  | exit => simp [screen810, editorScreen]
  | nothing => simp [screen810, editorScreen]

theorem screen820_leads (h : m.menuId = 820) : editorScreen (screen820 action m).menuId := by
  cases action with
  | left =>
    simp only [screen820]
    split <;> simp [editorScreen]
  | right =>
    simp only [screen820]
    split <;> simp [editorScreen, h]
  | select =>
    simp only [screen820]
    split <;> simp [editorScreen, h]
  | exit =>
    simp only [screen820]
    split
    · simp [editorScreen, h]
    · simp [editorScreen, h]
    · show editorScreen (if _ then 810 else 800)
      split <;> simp [editorScreen]
  | nothing => simp [screen820, editorScreen]

/-- Of the screens without effects only three lead to the first screen or to a clock screen. -/
inductive Leads (m : Menu) (action : BtnAction) (m' : Menu) : Prop where
  | first (h : m.menuId = 1) (hm : m'.timeSetMode = m.timeSetMode)
      (hid : m'.menuId = 1 ∨ m'.menuId = 300) : Leads m action m'
  | closing (hm : m'.timeSetMode = .setNothing) (hid : m'.menuId = 300) : Leads m action m'
  | advanced (h : m.menuId = 500) (ha : action = .left) (hm : m'.timeSetMode = m.timeSetMode)
      (hid : m'.menuId = 400) : Leads m action m'
  | away (h : m'.menuId ∉ [1, 300, 400]) : Leads m action m'

theorem Leads.of_editor {m' : Menu} (h : editorScreen m'.menuId) : Leads m action m' := by
  refine .away fun hid => ?_
  simp only [editorScreen, List.mem_cons, List.not_mem_nil, or_false] at h hid
  omega

theorem editScreen_leads {f : BtnAction → Menu → Menu} (hf : editScreen m.menuId = some f)
    (action : BtnAction) : Leads m action (f action m) := by
  unfold editScreen at hf
  split at hf
  · next hid =>
    cases hf
    cases action with
    | nothing => exact .first hid rfl (.inl rfl)
    | _ => exact .first hid rfl (.inr rfl)
  · cases hf
    cases action <;> exact .away (by simp [screen100])
  · next hid => cases hf; exact .of_editor (screen110_leads hid)
  · cases hf
    cases action with
    | right =>
      -- the only button of the screen that also sets what is edited
      exact .closing rfl rfl
    | _ => exact .away (by simp [screen200])
  · next hid =>
    cases hf
    cases action with
    | left => exact .advanced hid rfl rfl rfl
    | _ => exact .away (by simp [screen500, hub])
  · cases hf
    cases action <;> exact .away (by simp [screen600, hub])
  · cases hf
    cases action <;> exact .away (by simp [hub])
  · next hid => cases hf; exact .of_editor (screen800_leads hid)
  · next hid => cases hf; exact .of_editor (screen810_leads hid)
  · next hid => cases hf; exact .of_editor (screen820_leads hid)
  · cases hf

/-! ## Every run -/

/-- A LEFT on screen 500, which leads to the date, finds nothing edited. -/
def LeavesClean (tr : List Event) : Prop :=
  ∀ m tl, tr = .call (.menuFunctions .left) m :: tl → m.menu.menuId = 500 →
    m.menu.timeSetMode = .setNothing

/-- `LeavesClean` as a test. -/
def leavesClean : List Event → Bool
  | .call (.menuFunctions .left) m :: _ =>
    decide (m.menu.menuId = 500 → m.menu.timeSetMode = .setNothing)
  | _ => true

theorem leavesClean_iff {tr : List Event} : leavesClean tr = true ↔ LeavesClean tr := by
  constructor
  · rintro h m tl rfl
    exact of_decide_eq_true h
  · intro h
    unfold leavesClean
    split
    · exact decide_eq_true (h _ _ rfl)
    · rfl

instance : DecidablePred LeavesClean := fun _ => decidable_of_iff _ leavesClean_iff

/-- What is edited fits the screen, nothing is edited when a clock screen is entered, and the RTC is
    written only after a SELECT on the screen that writes it. -/
structure ModeFits (tr : List Event) : Prop where
  time : ∀ action m tl, tr = .call (.menuFunctions action) m :: tl → m.menu.menuId = 300 →
    m.menu.timeSetMode ∈ [.setNothing, .setHour, .setMinute]
  date : ∀ action m tl, tr = .call (.menuFunctions action) m :: tl → m.menu.menuId = 400 →
    m.menu.timeSetMode ∈ [.setNothing, .setDay, .setMonth, .setYear]
  entry : ∀ action m tl, tr = .call (.menuFunctions action) m :: tl →
    m.menu.menuId = 300 ∨ m.menu.menuId = 400 →
    (∀ c ∈ (menuCalls tl).head?, c.2.menu.menuId ≠ m.menu.menuId) →
    m.menu.timeSetMode = .setNothing
  save : ∀ second minute hour weekday date month year tl,
    tr = .setTime second minute hour weekday date month year :: tl →
    ∃ action m calls, menuCalls tl = (action, m) :: calls ∧ Edited m.menu.menuId calls

theorem modeFits_nil : ModeFits [] := by
  refine ⟨?_, ?_, ?_, ?_⟩
  · intro action m tl heq
    cases heq
  · intro action m tl heq
    cases heq
  · intro action m tl heq
    cases heq
  · intro _ _ _ _ _ _ _ tl heq
    cases heq

theorem modeFits_of_offScreen {e : Event} (he : isOffScreen e = true) (tr : List Event) :
    ModeFits (e :: tr) := by
  refine ⟨?_, ?_, ?_, ?_⟩
  · intro action m tl heq
    cases heq
    cases he
  · intro action m tl heq
    cases heq
    cases he
  · intro action m tl heq
    cases heq
    cases he
  · intro _ _ _ _ _ _ _ tl heq
    cases heq
    cases he

/-- A call finds what fits. -/
theorem Fit.modeFits {action : BtnAction} {m : Moment} {tr : List Event}
    (h : Fit m.menu.menuId m.menu.timeSetMode (menuCalls tr)) :
    ModeFits (.call (.menuFunctions action) m :: tr) := by
  -- an edit comes from a call of the same screen just before
  have hnew : ∀ id, Edited id (menuCalls tr) → ∃ c ∈ (menuCalls tr).head?, c.2.menu.menuId = id := by
    intro id hed
    cases hcalls : menuCalls tr with
    | nil => rw [hcalls] at hed; exact hed.elim
    | cons c calls =>
      rw [hcalls] at hed
      exact ⟨c, rfl, hed.1⟩
  refine ⟨?_, ?_, ?_, ?_⟩
  · intro action' m' tl heq hid
    cases heq
    rcases h.time hid with hmode | ⟨hmode | hmode, -⟩ <;> simp [hmode]
  · intro action' m' tl heq hid
    cases heq
    rcases h.date hid with hmode | ⟨hmode | hmode | hmode, -⟩ <;> simp [hmode]
  · intro action' m' tl heq hid hne
    cases heq
    rcases hid with hid | hid
    · rcases h.time hid with hmode | ⟨-, hed⟩
      · exact hmode
      · obtain ⟨c, hc, hcid⟩ := hnew 300 hed
        exact absurd (hcid.trans hid.symm) (hne c hc)
    · rcases h.date hid with hmode | ⟨-, hed⟩
      · exact hmode
      · obtain ⟨c, hc, hcid⟩ := hnew 400 hed
        exact absurd (hcid.trans hid.symm) (hne c hc)
  · intro _ _ _ _ _ _ _ tl heq
    cases heq

/-- The invariant: what is edited fits the screen, now and at every moment so far. -/
structure Fitting (w : World) : Prop where
  now : Fit w.menu.menuId w.menu.timeSetMode (menuCalls w.trace)
  past : Historically ModeFits w.trace

section Fitting

variable {w w' : World}

theorem Fitting.extend {tr tr' : List Event} (h : Historically ModeFits tr)
    (ht : Extends isOffScreen tr tr') : Historically ModeFits tr' :=
  ht.keeps (fun _ t he h' => historically_cons.mpr ⟨modeFits_of_offScreen he t, h'⟩) h

/-- A call of the menu. -/
theorem Fitting.entered (h : Fitting w) (action : BtnAction) :
    Historically ModeFits (entered w action).trace :=
  historically_cons.mpr ⟨h.now.modeFits, h.past⟩

/-- A clock screen adds to its call at most a reading and a save. -/
theorem screened_trace (ω : Env) (w : World) (read : Option Clock) (saves : Bool) (c : Clock)
    (next : Setmode × Nat) : ∃ tr, Extends isOffScreen w.trace tr ∧
      (screened ω w read saves c next).trace = if saves then clockWritten c :: tr else tr := by
  cases read with
  | none => exact ⟨w.trace, .refl _, rfl⟩
  | some c₀ =>
    refine ⟨(updated { w with clk := c₀ } (ω w.tick)).trace, ?_, rfl⟩
    exact extends_observe (.single _ rfl) (fun _ => rfl) _

/-- A clock screen keeps the fit if it saves only what was edited. -/
theorem Fitting.screened (h : Fitting w) {ω : Env} {action : BtnAction} {read : Option Clock}
    {saves : Bool} {c : Clock} {next : Setmode × Nat}
    (hnext : Fit next.2 next.1 ((action, (w.moment)) :: menuCalls w.trace))
    (hsave : saves = true → Edited w.menu.menuId (menuCalls w.trace)) :
    Fitting (Spec.screened ω (Spec.entered w action) read saves c next) := by
  obtain ⟨tr, hext, htrace⟩ :=
    screened_trace ω (Spec.entered w action) read saves c next
  have hcalls : menuCalls tr = (action, w.moment) :: menuCalls w.trace :=
    (menuCalls_extends hext).trans rfl
  have hpast : Historically ModeFits tr := Fitting.extend (h.entered action) hext
  -- a save is one more record, and only a save of an edit is one
  cases saves with
  | true =>
    refine ⟨?_, ?_⟩
    · show Fit next.2 next.1 (menuCalls (Spec.screened ω _ read true c next).trace)
      rw [htrace]
      exact hcalls ▸ hnext
    · rw [htrace]
      refine historically_cons.mpr ⟨⟨?_, ?_, ?_, ?_⟩, hpast⟩
      · intro _ _ _ heq; cases heq
      · intro _ _ _ heq; cases heq
      · intro _ _ _ heq; cases heq
      · intro _ _ _ _ _ _ _ tl heq
        cases heq
        exact ⟨action, w.moment, _, hcalls, hsave rfl⟩
  | false =>
    refine ⟨?_, ?_⟩
    · show Fit next.2 next.1 (menuCalls (Spec.screened ω _ read false c next).trace)
      rw [htrace]
      exact hcalls ▸ hnext
    · rw [htrace]
      exact hpast

variable [TimeLib] {ω : Env}

/-- Every action, if a LEFT on screen 500 finds nothing edited. -/
theorem Fitting.act (h : Fitting w) (ha : Act ω w w') (hC : Historically LeavesClean w'.trace) :
    Fitting w' := by
  cases ha.navStep with
  | plain _ ht hm hid =>
    refine ⟨?_, Fitting.extend h.past ht⟩
    rw [hm, menuCalls_extends ht]
    rcases hid with hid | hid | ⟨hid, hmode⟩
    · rw [hid]
      exact h.now
    · simp only [List.mem_cons, List.not_mem_nil, or_false] at hid
      exact .elsewhere (by omega) (by omega) (by omega)
    · rw [hmode]
      exact .nothing _ _
  | screen _ action hs ht hm hid =>
    refine ⟨?_, Fitting.extend (h.entered action) ht⟩
    obtain ⟨h₁, h₂, h₃⟩ := hs
    rcases hid with hid | hid
    · rw [hid]
      exact .elsewhere h₁ h₂ h₃
    · rw [hid]
      exact .elsewhere (by decide) (by decide) (by decide)
  | edit action f hf =>
    refine ⟨?_, h.entered action⟩
    show Fit (f action w.menu).menuId (f action w.menu).timeSetMode _
    cases editScreen_leads hf action with
    | first hfirst hm hid =>
      rw [hm, h.now.first hfirst]
      exact .nothing _ _
    | closing hm hid =>
      rw [hm]
      exact .nothing _ _
    | advanced hadv hleft hm hid =>
      -- the only way on which the mode of another editor could come along
      subst hleft
      have hclean := hC _ (List.suffix_refl _) _ _ rfl hadv
      have hmode : w.menu.timeSetMode = .setNothing := hclean
      rw [hm, hmode]
      exact .nothing _ _
    | away hid =>
      simp only [List.mem_cons, List.not_mem_nil, or_false, not_or] at hid
      exact .elsewhere hid.1 hid.2.1 hid.2.2
  | time action hid =>
    have hnow := h.now
    rw [hid] at hnow
    refine h.screened (hnow.next300 hid) fun hs => ?_
    rw [hid]
    rcases hnow.time rfl with hmode | ⟨-, hed⟩
    · rw [hmode] at hs
      cases action <;> cases hs
    · exact hed
  | date action hid =>
    have hnow := h.now
    rw [hid] at hnow
    refine h.screened (hnow.next400 hid) fun hs => ?_
    rw [hid]
    rcases hnow.date rfl with hmode | ⟨-, hed⟩
    · rw [hmode] at hs
      cases action <;> cases hs
    · exact hed

/-- After a reset nothing is edited. -/
theorem Rebooted.fitting {w₀ : World} (h : Rebooted ω w₀ w)
    (hs : Historically ModeFits w₀.trace) : Fitting w := by
  refine ⟨?_, ?_⟩
  · have hmode : w.menu.timeSetMode = .setNothing := by rw [h.menu]
    rw [hmode]
    exact .nothing _ _
  · refine h.keeps (fun e tr he ht => ?_) (fun m tr _ ht => ?_) hs
    · have hoff : isOffScreen e = true := by cases e <;> first | rfl | cases he
      exact historically_cons.mpr ⟨modeFits_of_offScreen hoff tr, ht⟩
    · exact historically_cons.mpr ⟨modeFits_of_offScreen rfl tr, ht⟩

/-- In every run in which each LEFT on screen 500 finds nothing edited, the mode fits the screen at
    every moment, nothing is edited when a clock screen is entered, and the RTC is written only
    after a SELECT on the screen that writes it. -/
theorem edit_mode_fits {w₀ : World} {p : Phase} (hr : LossyRun ω w₀ (p, w))
    (hC : Historically LeavesClean w.trace) :
    Historically ModeFits w.trace ∧
      (w.menu.menuId = 300 → w.menu.timeSetMode ∈ [.setNothing, .setHour, .setMinute]) ∧
      (w.menu.menuId = 400 →
        w.menu.timeSetMode ∈ [.setNothing, .setDay, .setMonth, .setYear]) := by
  have hfit : Fitting w := by
    refine LossyRun.invariant (I := fun w => Historically LeavesClean w.trace → Fitting w) hr
      ?_ ?_ ?_ ?_ hC
    · intro w w' ha hw hC'
      exact (hw (hC'.of_suffix ha.suffix)).act ha hC'
    · intro w' hb _
      exact hb.fitting (historically_nil.mpr modeFits_nil)
    · intro w' w'' cause hw hb hC'
      have hsuffix := (suffix_observe w' (ω w'.tick)).trans hb.suffix
      refine hb.fitting (observe_keeps (P := Historically ModeFits) (fun t ht => ?_)
        (hw (hC'.of_suffix hsuffix)).past)
      exact historically_cons.mpr ⟨modeFits_of_offScreen rfl _, ht⟩
    · intro w' w'' hw hb hC'
      exact hb.fitting (hw (hC'.of_suffix hb.suffix)).past
  refine ⟨hfit.past, fun hid => ?_, fun hid => ?_⟩
  · rcases hfit.now.time hid with hmode | ⟨hmode | hmode, -⟩ <;> simp [hmode]
  · rcases hfit.now.date hid with hmode | ⟨hmode | hmode | hmode, -⟩ <;> simp [hmode]

end Fitting

/-! The time of an alarm is entered and left with EXIT, and so are the menus above it; then the user
goes from there to the date and leaves it with EXIT as well. -/

/-- The keys up to the hour of screen 820 and back to screen 100. -/
def keysPastHour : List (Nat × BtnAction) :=
  [(15, .select), (29, .select), (44, .left), (57, .select), (72, .left), (85, .select),
    (99, .exit), (113, .exit)]

/-- The keys of the run: from screen 100 over 700, 600 and 500 to 400, and EXIT there. -/
def leftoverEnv : Env :=
  pressing (keysPastHour ++ [(128, .left), (143, .left), (158, .left), (173, .left), (187, .exit)])
    secondsEnv

/-- The device on screen 400. -/
def leftoverMode : Reached leftoverEnv { nvs := readyNvs } .awake :=
  Reached.loops (.powerOn 12 (by decide +kernel)) 12 12 (by decide +kernel)

/-- The device after the EXIT. -/
def leftoverSaved : Reached leftoverEnv { nvs := readyNvs } .awake :=
  leftoverMode.loop 12 (by decide +kernel)

theorem edit_mode_fits_savedInTime :
    .setTime 0 59 23 1 3 6 2024 ∈ savedInTime.world.trace ∧
      Historically ModeFits savedInTime.world.trace := by
  have hclean : Historically LeavesClean savedInTime.world.trace := by decide +kernel
  have hfits := edit_mode_fits savedInTime.powered.lossy hclean
  exact ⟨by decide +kernel, hfits.1⟩

/-- The hour of the alarm is still being edited on the screen of the date, and an EXIT there writes
    the RTC. -/
theorem edit_mode_left_over :
    .setTime 0 0 0 6 1 1 2000 ∈ leftoverSaved.world.trace ∧
    ¬ ∀ (ω : Env) (w₀ : World) (p : Phase) (w : World), LossyRun ω w₀ (p, w) →
      Historically ModeFits w.trace ∧
        (w.menu.menuId = 300 → w.menu.timeSetMode ∈ [.setNothing, .setHour, .setMinute]) ∧
        (w.menu.menuId = 400 →
          w.menu.timeSetMode ∈ [.setNothing, .setDay, .setMonth, .setYear]) := by
  refine ⟨by decide +kernel, fun hall => ?_⟩
  obtain ⟨-, -, hdate⟩ := hall leftoverEnv _ _ _ leftoverMode.powered.lossy
  have hid : leftoverMode.world.menu.menuId = 400 := by decide +kernel
  have hmode : leftoverMode.world.menu.timeSetMode = .setHour := by decide +kernel
  have hmem := hdate hid
  rw [hmode] at hmem
  exact absurd hmem (by decide)

end Eggvault.Spec
