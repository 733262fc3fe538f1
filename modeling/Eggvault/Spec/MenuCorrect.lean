import Eggvault.Spec.BootCorrect

/-!
# The menu and `loop`

Each screen takes an interactive device to an interactive device, or to sleep where
that is allowed.  Screens that only edit variables are covered by `Edits`; those that
read or set the clock keep `Awake` statement by statement (`Keeps`).

## Key results

- `screen_running`: every screen under every button
- `loop_running`: every call of `loop`
-/

namespace Eggvault.Spec

open Eggvault.Native Prog Trace

/-! ## What keeps the device awake -/

section Awake

variable {valid : Prop} {w : World}

namespace Awake

theorem clk (h : Awake valid w) (c : Clock) : Awake valid { w with clk := c } :=
  ⟨{ h.base with }, h.fresh, h.active, h.sync, h.manual.imp (fun h => h) (fun h => { h with })⟩

theorem quiet (h : Awake valid w) {e : Event} (he : Quiet.isQuiet e = true)
    (ha : lastArmed (e :: w.trace) = lastArmed w.trace) :
    Awake valid { w with trace := e :: w.trace } := by
  have hq : Quiet w.trace (e :: w.trace) := .of_cons _ he
  refine ⟨h.base.of_quiet hq ha, fun hv hf hc => ?_, h.active, h.sync,
    h.manual.imp (fun h => h) (fun h => { h with })⟩
  exact hq.spent (h.fresh hv (hq.noFailure hf) hc)

theorem called (h : Awake valid w) (f : Callee) : Awake valid (w.called f) := h.quiet rfl rfl

theorem updated (h : Awake valid w) (s : Sample) (c : Clock) :
    Awake valid { updated w s with clk := c } :=
  have h' := (h.called .updateTime).observe s
  ⟨{ h'.base with }, h'.fresh, h'.active, h'.sync, h'.manual.imp (fun h => h) (fun h => { h with })⟩

theorem led (h : Awake valid w) (v : Bool) :
    Awake valid { w with pins := { w.pins with led := v } } :=
  ⟨{ h.base with }, h.fresh, h.active, h.sync, h.manual.imp (fun h => h) (fun h => { h with })⟩

theorem dispatch (h : Awake valid w) (d : Dispatch) : Awake valid { w with dispatch := d } :=
  ⟨{ h.base with }, h.fresh, h.active, h.sync, h.manual.imp (fun h => h) (fun h => { h with })⟩

/-- Outside of the first set-up the manual mode is respected. -/
theorem manualOk (h : Awake valid w) {k : Nat} (hk : w.menu.menuId = k)
    (h₁ : k ≠ 1) (h₃ : k ≠ 300) (h₄ : k ≠ 400) (h₉ : k ≠ 900) : ManualOk w := by
  rcases h.manual with hm | hc
  · exact hm
  · have hid := hc.menuId
    rw [hk] at hid
    omega

/-- What a status check or a move may start from. -/
theorem ready (h : Awake valid w) : Ready valid w where
  base := h.base
  fresh := fun _ => h.fresh
  maySleep := fun ha => absurd (h.active.symm.trans ha) (by decide)

end Awake

end Awake

/-! ## Edits of the menu variables -/

/-- The menu stays active and its modes stay valid. -/
structure Edits (m m' : Menu) : Prop where
  active : m'.menuActive = m.menuActive
  modeO : ValidMode m.modeO → ValidMode m'.modeO
  modeC : ValidMode m.modeC → ValidMode m'.modeC

/-- A screen of the first set-up. -/
def Allowed (menuId : Nat) : Prop :=
  menuId = 1 ∨ menuId = 300 ∨ menuId = 400 ∨ menuId = 900

instance (menuId : Nat) : Decidable (Allowed menuId) :=
  inferInstanceAs (Decidable (_ ∨ _))

/-- An edit of the menu variables that does not leave the first set-up. -/
theorem Awake.menu {valid : Prop} {w : World} (h : Awake valid w) {m : Menu}
    (he : Edits w.menu m) (hm : ManualOk w ∨ (w.sched.fInitNox = 0 → Allowed m.menuId)) :
    Awake valid { w with menu := m } where
  base := { h.base with
    editO := fun hv => he.modeO (h.base.editO hv)
    editC := fun hv => he.modeC (h.base.editC hv) }
  fresh := h.fresh
  active := he.active.trans h.active
  sync := h.sync
  manual := by
    rcases h.manual with hok | hc
    · exact .inl hok
    · rcases hm with hok | ha
      · exact .inl hok
      · exact .inr ⟨hc.init, hc.noError, ha hc.init⟩

/-- An edit that stays on the screen. -/
theorem Awake.menu_stay {valid : Prop} {w : World} (h : Awake valid w) {m : Menu}
    (he : Edits w.menu m) (hid : m.menuId = w.menu.menuId) : Awake valid { w with menu := m } := by
  apply h.menu he
  rcases h.manual with hm | hc
  · exact .inl hm
  · exact .inr fun _ => hid ▸ hc.menuId

section Edits

variable (action : BtnAction) (m : Menu)

theorem edits_hub (left right select exit stay : Nat) :
    Edits m (hub left right select exit stay action m) := by
  cases action <;> exact ⟨rfl, fun h => h, fun h => h⟩

theorem edits_screen100 : Edits m (screen100 action m) := by
  cases action <;> exact ⟨rfl, fun h => h, fun h => h⟩

theorem edits_screen110 : Edits m (screen110 action m) := by
  cases action with
  | select =>
    simp only [screen110]
    split <;> exact ⟨rfl, fun h => h, fun h => h⟩
  | _ => exact ⟨rfl, fun h => h, fun h => h⟩

theorem edits_screen200 : Edits m (screen200 action m) := by
  cases action <;> exact ⟨rfl, fun h => h, fun h => h⟩

theorem edits_setLux (v : UInt8) : Edits m (m.setLux v) := by
  unfold Menu.setLux
  split <;> exact ⟨rfl, fun h => h, fun h => h⟩

theorem edits_setHourSet (v : Int8) : Edits m (m.setHourSet v) := by
  unfold Menu.setHourSet
  split <;> exact ⟨rfl, fun h => h, fun h => h⟩

theorem edits_setMinuteSet (v : Int8) : Edits m (m.setMinuteSet v) := by
  unfold Menu.setMinuteSet
  split <;> exact ⟨rfl, fun h => h, fun h => h⟩

/-- A new mode that is valid if the edited one was. -/
theorem edits_setMode {v : UInt8} (hv : ValidMode m.mode → ValidMode v) :
    Edits m (m.setMode v) := by
  unfold Menu.mode at hv
  unfold Menu.setMode
  split
  · next hc =>
    rw [if_pos hc] at hv
    exact ⟨rfl, fun h => h, hv⟩
  · next hc =>
    rw [if_neg hc] at hv
    exact ⟨rfl, hv, fun h => h⟩

theorem validMode_iff {b : UInt8} : ValidMode b ↔ b = 0 ∨ b = 1 ∨ b = 2 ∨ b = 3 := by
  unfold ValidMode OpeningMode.ofByte
  by_cases h0 : b = 0
  · simp [h0]
  by_cases h1 : b = 1
  · simp [h1]
  by_cases h2 : b = 2
  · simp [h2]
  by_cases h3 : b = 3
  · simp [h3]
  simp [h0, h1, h2, h3]

/-- Counting through the modes stays among them. -/
theorem edits_screen800 : Edits m (screen800 action m) := by
  cases action with
  | left =>
    refine edits_setMode m fun hv => ?_
    rcases validMode_iff.mp hv with h | h | h | h <;> rw [h] <;> decide
  | right =>
    refine edits_setMode m fun hv => ?_
    rcases validMode_iff.mp hv with h | h | h | h <;> rw [h] <;> decide
  | select =>
    simp only [screen800]
    split <;> exact ⟨rfl, fun h => h, fun h => h⟩
  | exit => exact ⟨rfl, fun h => h, fun h => h⟩
  | nothing => exact ⟨rfl, fun h => h, fun h => h⟩

theorem edits_screen810 : Edits m (screen810 action m) := by
  cases action with
  | left => exact edits_setLux m _
  | right => exact edits_setLux m _
  | select =>
    simp only [screen810]
    split <;> exact ⟨rfl, fun h => h, fun h => h⟩
  | exit => exact ⟨rfl, fun h => h, fun h => h⟩
  | nothing => exact ⟨rfl, fun h => h, fun h => h⟩

theorem edits_screen820 : Edits m (screen820 action m) := by
  have hh := edits_setHourSet m
  have hm := edits_setMinuteSet m
  cases action <;> simp only [screen820] <;> try split
  all_goals first
    | exact ⟨rfl, fun h => h, fun h => h⟩
    | exact { hh _ with }
    | exact { hm _ with }

end Edits

/-! ## Clock screens -/

/-- The RTC is written. -/
def isSetTime : Event → Bool
  | .setTime .. => true
  | _ => false

/-- An invariant that reading, editing and setting the clock keeps; the screens of the first
    set-up are not left before its end. -/
structure ClockKept (I : World → Prop) : Prop where
  updated : ∀ w s c, I w → I { updated w s with clk := c }
  clk : ∀ w c, I w → I { w with clk := c }
  setTime : ∀ w e, isSetTime e = true → I w → I { w with trace := e :: w.trace }
  menu : ∀ w mode id, (w.sched.fInitNox = 0 → Allowed id) → I w →
    I { w with menu := { w.menu with timeSetMode := mode, menuId := id } }

namespace ClockKept

variable [TimeLib] {I : World → Prop}

theorem timeUpdate (h : ClockKept I) : Keeps I timeUpdate :=
  fun _ _ hw => wp_timeUpdate.mpr (h.updated _ _ _ hw)

theorem dateUpdate (h : ClockKept I) : Keeps I dateUpdate :=
  fun _ _ hw => wp_dateUpdate.mpr (h.clk _ _ hw)

/-- Read the clock again unless it is being edited. -/
theorem refresh (h : ClockKept I) {c : Prop} [Decidable c] :
    Keeps I (when c (do Native.timeUpdate; Native.dateUpdate)) :=
  .when (.bind h.timeUpdate fun _ => h.dateUpdate)

omit [TimeLib] in
theorem modifyClk (h : ClockKept I) (f : Clock → Clock) : Keeps I (modifyClk f) :=
  fun _ _ hw => (wp_modifyClk f).mpr (h.clk _ _ hw)

omit [TimeLib] in
theorem saveTimeSetting (h : ClockKept I) : Keeps I saveTimeSetting := by
  intro ω w hw
  simp only [Native.saveTimeSetting, wp_bind, wp_get, wp_emit]
  exact h.setTime w _ rfl hw

omit [TimeLib] in
/-- A change of what is edited. -/
theorem stay (h : ClockKept I) (mode : Setmode) {id : Nat} (ha : Allowed id) :
    Keeps I (modifyMenu fun m => { m with timeSetMode := mode, menuId := id }) :=
  fun _ w hw => (wp_modifyMenu _).mpr (h.menu w mode id (fun _ => ha) hw)

omit [TimeLib] in
theorem menuId (h : ClockKept I) {id : Nat} (ha : Allowed id) :
    Keeps I (modifyMenu fun m => { m with menuId := id }) :=
  fun _ w hw => (wp_modifyMenu _).mpr (h.menu w w.menu.timeSetMode id (fun _ => ha) hw)

omit [TimeLib] in
theorem leaveTo (h : ClockKept I) (menuId : Nat) {initial : Nat} (ha : Allowed initial) :
    Keeps I (leaveTo menuId initial) := by
  intro ω w hw
  simp only [Native.leaveTo, wp_bind, wp_get, wp_modifyMenu]
  refine h.menu w _ _ (fun h0 => ?_) hw
  simp only [h0, if_true]
  exact ha

omit [TimeLib] in
theorem goTo (h : ClockKept I) (menuId : Nat) {initial : Nat} (ha : Allowed initial) :
    Keeps I (goTo menuId initial) := by
  intro ω w hw
  simp only [Native.goTo, wp_bind, wp_get, wp_modifyMenu]
  refine h.menu w w.menu.timeSetMode _ (fun h0 => ?_) hw
  simp only [h0, if_true]
  exact ha

theorem screen300 (h : ClockKept I) (action : BtnAction) : Keeps I (screen300 action) := by
  have h300 : Allowed 300 := .inr (.inl rfl)
  have hclk : ∀ f, Keeps I (do
      Native.modifyClk f
      modifyMenu fun m => { m with menuId := 300 }) := fun f =>
    .bind (h.modifyClk f) fun _ => h.menuId h300
  have hsave : ∀ {m : Fw Unit}, Keeps I m →
      Keeps I (do Native.dateUpdate; Native.saveTimeSetting; m) := fun hm =>
    .bind h.dateUpdate fun _ => .bind h.saveTimeSetting fun _ => hm
  refine .get_bind fun _ => .bind h.refresh fun _ => .get_bind fun w => ?_
  -- with the hour or the minute edited the buttons turn it, otherwise they leave
  cases action with
  | left =>
    dsimp only
    split
    · exact hclk _
    · exact hclk _
    · exact h.leaveTo 200 h300
  | right =>
    dsimp only
    split
    · exact hclk _
    · exact hclk _
    · exact h.leaveTo 400 h300
  | select =>
    dsimp only
    split
    · exact hsave (h.leaveTo 300 (.inr (.inr (.inl rfl))))
    · exact h.stay _ h300
    · exact h.stay _ h300
    · exact .pure _
  | exit =>
    dsimp only
    split
    · exact h.goTo 0 (.inl rfl)
    · exact hsave (h.stay _ h300)
  | nothing => exact h.menuId h300

theorem screen400 (h : ClockKept I) (action : BtnAction) : Keeps I (screen400 action) := by
  have h400 : Allowed 400 := .inr (.inr (.inl rfl))
  have hclk : ∀ f, Keeps I (do
      Native.modifyClk f
      modifyMenu fun m => { m with menuId := 400 }) := fun f =>
    .bind (h.modifyClk f) fun _ => h.menuId h400
  have hsave : ∀ {m : Fw Unit}, Keeps I m →
      Keeps I (do Native.timeUpdate; Native.saveTimeSetting; m) := fun hm =>
    .bind h.timeUpdate fun _ => .bind h.saveTimeSetting fun _ => hm
  -- day, month and year one after the other, and the save after the year
  have hswitch : Keeps I (screen400Switch action) := by
    refine .get_bind fun w => ?_
    cases action with
    | left =>
      dsimp only
      split
      · exact hclk _
      · exact hclk _
      · exact hclk _
      · exact h.leaveTo 300 h400
    | right =>
      dsimp only
      split
      · exact hclk _
      · exact hclk _
      · exact hclk _
      · exact h.leaveTo 500 h400
    | select =>
      dsimp only
      split
      · exact h.stay _ h400
      · exact h.stay _ h400
      · exact hsave (h.leaveTo 400 (.inr (.inr (.inr rfl))))
      · exact h.stay _ h400
      · exact .pure _
    | exit =>
      dsimp only
      split
      · exact h.goTo 0 (.inr (.inl rfl))
      · exact hsave (h.stay _ h400)
    | nothing => exact h.menuId h400
  refine .get_bind fun _ => .bind h.refresh fun _ => .get_bind fun _ => .bind (.when (hclk _))
    fun _ => .bind hswitch fun _ => h.modifyClk _

end ClockKept

/-- A device that is awake stays so on the clock screens. -/
theorem awake_clockKept {valid : Prop} : ClockKept (Awake valid) where
  updated := fun _ s c h => h.updated s c
  clk := fun _ c h => h.clk c
  setTime := by
    intro w e he h
    cases e with
    | setTime => exact h.quiet rfl rfl
    | _ => cases he
  menu := fun _ _ _ ha h => h.menu ⟨rfl, fun h => h, fun h => h⟩ (.inr ha)

/-! ## Screens that act -/

/-- A screen is about to handle a button (or a redraw). -/
structure Pressed (valid : Prop) (k : Nat) (action : BtnAction) (w : World) : Prop where
  awake : Awake valid w
  menuId : w.menu.menuId = k
  dispatch : w.dispatch = .menu k action
  noError : k ≠ 2 → w.door.errorFlag = .noError
  led : w.sched.manualFlag = true → w.pins.led = true

section Screens

variable {valid : Prop} {ω : Env} {w : World} {action : BtnAction} {k : Nat}

/-- A screen that only edits menu variables, outside of the first set-up. -/
theorem modifyMenu_running {f : Menu → Menu} (he : ∀ m, Edits m (f m)) (h : Awake valid w)
    (hm : ManualOk w) : wp (modifyMenu f) (running valid) ω w :=
  (wp_modifyMenu f).mpr (h.menu (he _) (.inl hm))

theorem screen001_running (h : Awake valid w) :
    wp (modifyMenu (screen001 action)) (running valid) ω w := by
  rw [wp_modifyMenu]
  refine h.menu (edits_hub action w.menu 300 300 300 300 1) (.inr fun _ => ?_)
  cases action
  · exact .inr (.inl rfl)
  · exact .inr (.inl rfl)
  · exact .inr (.inl rfl)
  · exact .inr (.inl rfl)
  · exact .inl rfl

/-- The error screen: any button acknowledges, in RAM and in flash. -/
theorem screen002_running (h : Pressed valid 2 action w) :
    wp (screen002 action) (running valid) ω w := by
  have hm : ManualOk w := h.awake.manualOk h.menuId (by decide) (by decide) (by decide) (by decide)
  simp only [screen002, wp_bind, wp_when, wp_modifyDoor, wp_memoryPut, wp_modifyMenu, wp_get,
    wp_digitalWrite_led]
  have hb := h.awake.base
  refine ⟨fun _ => ⟨{ hb.putError .noError with }, h.awake.fresh, h.awake.active, ?_, .inl hm⟩,
    fun _ => ⟨{ hb with }, h.awake.fresh, h.awake.active, h.awake.sync, .inl hm⟩⟩
  intro _
  rw [nvs_get_put_self _ _ (by decide)]
  rfl

/-- Screen 700 is the one screen that may sleep: nothing is wrong, and a manual mode shows on
    the LED. -/
theorem screen700_running (h : Pressed valid 700 action w) :
    wp (screen700 action) (running valid) ω w := by
  have hm : ManualOk w := h.awake.manualOk h.menuId (by decide) (by decide) (by decide) (by decide)
  have he := edits_hub action w.menu 600 100 710 0 700
  have ha := h.awake.menu he (.inl hm)
  simp only [screen700, wp_bind, wp_modifyMenu, wp_when, wp_prepForDeepSleep]
  refine ⟨fun hs => ?_, fun _ => ha⟩
  have hnoError : w.door.errorFlag = .noError := h.noError (by decide)
  refine Drowsy.asleep ⟨ha.base, ha.fresh, hm, ?_, fun _ => hnoError, ?_, fun _ hman => ?_⟩ _
  · show MaySleep w.dispatch
    rw [h.dispatch, hs]
    exact ⟨rfl, rfl⟩
  · intro h0
    exact (h.awake.sync h0).trans hnoError
  · exact ledPad_of_led h.awake.base.held (h.led hman)

variable [TimeLib]

theorem screen000_running (n : Nat) (h : Pressed valid 0 action w) :
    wp (screen000 n action) (running valid) ω w := by
  have hm : ManualOk w := h.awake.manualOk h.menuId (by decide) (by decide) (by decide) (by decide)
  -- both ways end with the same hub
  have hend : ∀ w₁, Awake valid w₁ → ManualOk w₁ →
      wp (modifyMenu (hub 3 4 100 0 0 action)) (running valid) ω w₁ := fun w₁ h₁ hm₁ =>
    modifyMenu_running (fun m => edits_hub action m 3 4 100 0 0) h₁ hm₁
  have ha := (h.awake.updated (ω w.tick) (timeOf w.clk (ω w.tick).rtc)).clk
    (dateOf (timeOf w.clk (ω w.tick).rtc) (ω w.tick).rtc)
  rw [screen000, wp_bind, wp_timeUpdate]
  apply (wp_bind _ _).mpr
  rw [wp_dateUpdate]
  apply (wp_get_bind _).mpr
  apply (wp_bind _ _).mpr
  apply (wp_when _ _).mpr
  refine ⟨fun _ => ?_, fun _ => hend _ ha hm⟩
  -- EXIT in manual mode: the flag is cleared before the status check
  simp only [wp_bind, wp_modifySched, wp_digitalWrite_led]
  have hready : Ready valid
      { updated w (ω w.tick) with
        clk := dateOf (timeOf w.clk (ω w.tick).rtc) (ω w.tick).rtc
        sched := { w.sched with manualFlag := false }
        pins := { w.pins with led := false } } :=
    { base := { ha.base with }
      fresh := fun _ => ha.fresh
      maySleep := fun hact => absurd (h.awake.active.symm.trans hact) (by decide) }
  apply wp_weaken (statusabfrage_settled n hready)
  intro _ w₁ h₁
  have h₁' : Returned valid w₁ := h₁
  exact hend w₁ h₁'.awake h₁'.manual

theorem manualScreen_running (n : Nat) (pos : Klappenposition) (h : Awake valid w) :
    wp (manualScreen n pos) (running valid) ω w := by
  simp only [manualScreen, wp_bind, wp_modifySched, wp_digitalWrite_led]
  have hready : Ready valid { w with
      sched := { w.sched with manualFlag := true }, pins := { w.pins with led := true } } :=
    { base := { h.base with }
      fresh := fun _ => h.fresh
      maySleep := fun hact => absurd (h.active.symm.trans hact) (by decide) }
  apply wp_weaken (moveMotor_settled n pos hready)
  intro _ w₁ h₁
  have h₁' : Returned valid w₁ := h₁
  exact modifyMenu_running (fun _ => ⟨rfl, fun h => h, fun h => h⟩) h₁'.awake h₁'.manual

omit [TimeLib] in
/-- The first save ends the set-up. -/
theorem Base.initNox (h : Base valid w) :
    Base valid { w with
      sched := { w.sched with fInitNox := 1 }, nvs := w.nvs.put .initNox 1 } := by
  have hget : ∀ k, k ≠ .initNox → (w.nvs.put .initNox 1).get k = w.nvs.get k :=
    fun k hk => nvs_get_put_of_ne _ _ hk
  exact
    { h with
      nox := by rw [nvs_get_put_self _ _ (by decide)]; rfl
      flag := by rw [hget _ (by decide)]; exact h.flag
      moved := by rw [hget _ (by decide)]; exact h.moved
      unmoved := by rw [hget _ (by decide)]; exact h.unmoved
      lastMove := by rw [hget _ (by decide), hget _ (by decide)]; exact h.lastMove
      stored := fun hv =>
        { opening := by rw [hget _ (by decide)]; exact (h.stored hv).opening
          closing := by rw [hget _ (by decide)]; exact (h.stored hv).closing } }

/-- The flash after `saveAlarmValues`. -/
def savedTables (m : Nvs) (o c : WeekTable) : Nvs :=
  ((m.put .openAlarms o).put .closeAlarms c).put .initAlarm 1

section Tables

variable (m : Nvs) (o c : WeekTable)

omit [TimeLib] in
theorem savedTables_opening : (savedTables m o c).get .openAlarms = some o := by
  rw [savedTables, nvs_get_put_of_ne _ _ (by decide), nvs_get_put_of_ne _ _ (by decide),
    nvs_get_put_self _ _ (by decide)]

omit [TimeLib] in
theorem savedTables_closing : (savedTables m o c).get .closeAlarms = some c := by
  rw [savedTables, nvs_get_put_of_ne _ _ (by decide), nvs_get_put_self _ _ (by decide)]

omit [TimeLib] in
theorem savedTables_initAlarm : (savedTables m o c).get .initAlarm = some 1 := by
  rw [savedTables, nvs_get_put_self _ _ (by decide)]

omit [TimeLib] in
theorem savedTables_other {k : NvsKey} (h₁ : k ≠ .openAlarms) (h₂ : k ≠ .closeAlarms)
    (h₃ : k ≠ .initAlarm) : (savedTables m o c).get k = m.get k := by
  rw [savedTables, nvs_get_put_of_ne _ _ h₃, nvs_get_put_of_ne _ _ h₂, nvs_get_put_of_ne _ _ h₁]

omit [TimeLib] in
/-- Valid tables are valid in flash. -/
theorem savedTables_storedModes (ho : ValidModes o) (hc : ValidModes c) :
    StoredModes (savedTables m o c) where
  opening := by
    intro t ht
    rw [savedTables_opening] at ht
    cases ht
    exact ho
  closing := by
    intro t ht
    rw [savedTables_closing] at ht
    cases ht
    exact hc

end Tables

omit [TimeLib] in
/-- New tables, in RAM and in flash. -/
theorem Base.tables (h : Base valid w) {o c : WeekTable} (ho : valid → ValidModes o)
    (hc : valid → ValidModes c) :
    Base valid { w with
      sched := { w.sched with openingAlarms := o, closingAlarms := c }
      nvs := savedTables w.nvs o c } := by
  have hget : ∀ k, k ≠ .openAlarms → k ≠ .closeAlarms → k ≠ .initAlarm →
      (savedTables w.nvs o c).get k = w.nvs.get k := fun k h₁ h₂ h₃ =>
    savedTables_other _ _ _ h₁ h₂ h₃
  exact
    { h with
      nox := by rw [hget _ (by decide) (by decide) (by decide)]; exact h.nox
      flag := by rw [hget _ (by decide) (by decide) (by decide)]; exact h.flag
      moved := by rw [hget _ (by decide) (by decide) (by decide)]; exact h.moved
      unmoved := by rw [hget _ (by decide) (by decide) (by decide)]; exact h.unmoved
      lastMove := by
        rw [hget _ (by decide) (by decide) (by decide), hget _ (by decide) (by decide) (by decide)]
        exact h.lastMove
      opening := ho
      closing := hc
      stored := fun hv => savedTables_storedModes w.nvs o c (ho hv) (hc hv) }

/-- The day is selected in the mask. -/
def selected (m : Menu) (i : Fin 7) : Bool := decide (m.dayBitmask &&& weekdays i ≠ 0)

/-- The opening table after a save: the selected days of the direction being set. -/
def savedOpening (m : Menu) (t : WeekTable) : WeekTable := fun i =>
  if m.modeset = .modesetOpening ∧ selected m i = true then
    { t i with
      delay := 0, hour := m.hourO.toUInt8, minute := m.minuteO.toUInt8, mode := m.modeO
      lux := m.luxO.toUInt16 }
  else t i

/-- The closing table after a save. -/
def savedClosing (m : Menu) (t : WeekTable) : WeekTable := fun i =>
  if m.modeset = .modesetClosing ∧ selected m i = true then
    { t i with
      delay := 0, hour := m.hourC.toUInt8, minute := m.minuteC.toUInt8, mode := m.modeC
      lux := m.luxC.toUInt16 }
  else t i

/-- The device after `saveAlarmValues`. -/
def saved (w : World) : World :=
  { w.called .saveAlarmValues with
    sched := { w.sched with
      openingAlarms := savedOpening w.menu w.sched.openingAlarms
      closingAlarms := savedClosing w.menu w.sched.closingAlarms }
    nvs := savedTables w.nvs (savedOpening w.menu w.sched.openingAlarms)
      (savedClosing w.menu w.sched.closingAlarms) }

omit [TimeLib] in
@[simp] theorem wp_saveAlarmValues {post : Post World Unit} :
    wp saveAlarmValues post ω w ↔ post.done () (saved w) := by
  simp only [saveAlarmValues, wp_bind, wp_call, wp_modify, wp_get, wp_memoryPut, World.called]
  unfold saved savedOpening savedClosing
  -- the table of the other direction is stored again as it was
  cases w.menu.modeset with
  | modesetOpening =>
    simp only [reduceCtorEq, false_and, if_false, true_and]
    exact Iff.rfl
  | modesetClosing =>
    simp only [reduceCtorEq, false_and, if_false, true_and]
    exact Iff.rfl

omit [TimeLib] in
/-- Saving the edited values keeps all modes valid. -/
theorem Base.saved (h : Base valid w) : Base valid (saved w) := by
  refine (h.called .saveAlarmValues).tables (fun hv i => ?_) (fun hv i => ?_)
  · unfold savedOpening
    split
    · exact h.editO hv
    · exact h.opening hv i
  · unfold savedClosing
    split
    · exact h.editC hv
    · exact h.closing hv i

theorem screen900_running (n : Nat) (h : Awake valid w) :
    wp (screen900 n) (running valid) ω w := by
  have hb : Base valid { w with menu := { w.menu with menuId := 0 } } := { h.base with }
  have hstatus : ∀ w₁, Base valid w₁ → (valid → NoFailure w₁.trace → LineFresh w₁) →
      w₁.menu.menuActive = true → wp (statusabfrage n) (running valid) ω w₁ := by
    intro w₁ hb₁ hf₁ ha₁
    refine running_of_settled (statusabfrage_settled n ⟨hb₁, fun _ => hf₁, fun ha => ?_⟩)
    rw [ha₁] at ha
    cases ha
  simp only [screen900]
  rw [wp_bind, wp_modifyMenu]
  apply (wp_get_bind _).mpr
  apply (wp_ite _ _ _).mpr
  refine ⟨fun _ => ?_, fun _ => ?_⟩
  · simp only [wp_bind, wp_modifySched, wp_memoryPut, wp_modifyDoor]
    refine hstatus _ ?_ h.fresh h.active
    exact { hb.initNox.putError .noError with }
  · rw [wp_bind, wp_saveAlarmValues]
    refine hstatus _ hb.saved (fun hv hf => ?_) h.active
    exact h.fresh hv hf.tail

/-- Every screen, under every button. -/
theorem screen_running (n : Nat) (h : Pressed valid k action w) :
    wp (screen n action k) (running valid) ω w := by
  have hm : k ≠ 1 → k ≠ 300 → k ≠ 400 → k ≠ 900 → ManualOk w := h.awake.manualOk h.menuId
  -- a screen without effects keeps the manual flag
  have hedit : ∀ f : Menu → Menu, (∀ m, Edits m (f m)) → ManualOk w →
      wp (modifyMenu f) (running valid) ω w := fun f he hm =>
    modifyMenu_running he h.awake hm
  unfold screen
  split
  · exact screen000_running n h
  · exact screen001_running h.awake
  · exact screen002_running h
  · exact manualScreen_running n .posUp h.awake
  · exact manualScreen_running n .posDown h.awake
  · exact hedit _ (edits_screen100 action) (hm (by decide) (by decide) (by decide) (by decide))
  · exact hedit _ (edits_screen110 action) (hm (by decide) (by decide) (by decide) (by decide))
  · exact hedit _ (edits_screen200 action) (hm (by decide) (by decide) (by decide) (by decide))
  · exact (awake_clockKept.screen300 action).wp h.awake (fun _ _ h => h)
  · exact (awake_clockKept.screen400 action).wp h.awake (fun _ _ h => h)
  · exact hedit _ (fun m => edits_hub action m 400 600 510 0 500)
      (hm (by decide) (by decide) (by decide) (by decide))
  · exact hedit _ (fun m => edits_hub action m 500 700 610 0 600)
      (hm (by decide) (by decide) (by decide) (by decide))
  · exact screen700_running h
  · exact hedit _ (edits_screen800 action) (hm (by decide) (by decide) (by decide) (by decide))
  · exact hedit _ (edits_screen810 action) (hm (by decide) (by decide) (by decide) (by decide))
  · exact hedit _ (edits_screen820 action) (hm (by decide) (by decide) (by decide) (by decide))
  · exact screen900_running n h.awake
  · exact (wp_pure _).mpr h.awake

end Screens

/-! ## `menuUpdate` -/

/-- What `loop` has made sure of before it looks at the buttons: an error shows its screen,
    and a manual mode shows on the LED. -/
structure Tuned (valid : Prop) (w : World) : Prop where
  awake : Awake valid w
  noError : w.menu.menuId ≠ 2 → w.door.errorFlag = .noError
  led : w.sched.manualFlag = true → w.pins.led = true

theorem Tuned.observe {valid : Prop} {w : World} (h : Tuned valid w) (s : Sample) :
    Tuned valid (w.observe s) :=
  ⟨h.awake.observe s, h.noError, h.led⟩

section Buttons

variable {valid : Prop} {ω : Env} {w : World}

theorem keeps_millis_btn (f : UInt32 → Buttons → Buttons) :
    Keeps (Awake valid) (do
      let now ← millis
      modifyBtn (f now)) := by
  intro ω w h
  simp only [wp_bind, wp_millis, wp_modifyBtn]
  exact (h.observe _).btn _

theorem keeps_modifyBtn (f : Buttons → Buttons) : Keeps (Awake valid) (modifyBtn f) :=
  fun _ _ h => (wp_modifyBtn f).mpr (h.btn _)

theorem keeps_millis : Keeps (Awake valid) millis := fun _ _ h => wp_millis.mpr (h.observe _)

theorem keeps_digitalRead (pin : InPin) : Keeps (Awake valid) (digitalRead pin) :=
  fun _ _ h => (wp_digitalRead pin).mpr (h.observe _)

theorem keeps_anyButton : Keeps (Awake valid) anyButton :=
  .bind (keeps_digitalRead _) fun _ => .ite (.pure _) <|
    .bind (keeps_digitalRead _) fun _ => .ite (.pure _) <|
      .bind (keeps_digitalRead _) fun _ => .ite (.pure _) (keeps_digitalRead _)

theorem keeps_longPressCheck : Keeps (Awake valid) longPressCheck :=
  .bind keeps_anyButton fun _ => .ite
    (.get_bind fun _ => .when (keeps_millis_btn fun now b =>
      { b with longPressStart := now, longPressFlag := true }))
    (keeps_modifyBtn _)

theorem keeps_releaseAfter (debounceTime : UInt32) :
    Keeps (Awake valid) (releaseAfter debounceTime) :=
  .bind keeps_millis fun _ => .get_bind fun _ => .when (keeps_millis_btn fun now b =>
    { b with previousMillis := now, buttonFlag := false })

theorem keeps_debounceCheck : Keeps (Awake valid) debounceCheck := by
  have hlong : ∀ b : Bool, Keeps (Awake valid) (if b then releaseAfter buttonDebounceTimeFast
      else releaseAfter buttonDebounceTimeNormal) := fun _ =>
    .ite (keeps_releaseAfter _) (keeps_releaseAfter _)
  refine .bind ?_ hlong
  exact .get_bind fun _ => .ite (.bind keeps_millis fun _ => .get_bind fun _ => .pure _) (.pure _)

variable [TimeLib]

/-- `menuFunctions` records what it is about to handle and goes to the screen. -/
theorem menuFunctions_running (n : Nat) (action : BtnAction) (h : Tuned valid w) :
    wp (menuFunctions n action) (running valid) ω w := by
  have hgo : ∀ w₁, Tuned valid w₁ → wp (do
      let menuId := (← get).menu.menuId
      setDispatch (.menu menuId action)
      call (.menuFunctions action)
      screen n action menuId) (running valid) ω w₁ := by
    intro w₁ h₁
    simp only [wp_bind, wp_get, wp_setDispatch, wp_call]
    exact screen_running n ⟨(h₁.awake.dispatch _).called _, rfl, rfl, h₁.noError, h₁.led⟩
  rw [menuFunctions, wp_bind, wp_when, wp_modifyMenu]
  refine ⟨fun _ => hgo _ ⟨?_, h.noError, h.led⟩, fun _ => hgo _ h⟩
  exact h.awake.menu_stay ⟨rfl, fun h => h, fun h => h⟩ rfl

theorem press_running (n : Nat) (action : BtnAction) (h : Tuned valid w) :
    wp (press n action) (running valid) ω w := by
  have hend : Keeps (Awake valid) (do
      modifyBtn fun b => { b with buttonFlag := true }
      let now ← millis
      modifyBtn fun b => { b with previousMillis := now }
      let now ← millis
      modifyBtn fun b => { b with lastPress := now }) :=
    .bind (keeps_modifyBtn _) fun _ => .bind keeps_millis fun _ => .bind (keeps_modifyBtn _)
      fun _ => keeps_millis_btn fun now b => { b with lastPress := now }
  rw [press, wp_bind, wp_millis]
  apply (wp_get_bind _).mpr
  apply (wp_bind _ _).mpr
  apply (wp_when _ _).mpr
  refine ⟨fun _ => ?_, fun _ => hend.wp (h.awake.observe _) (fun _ _ h => h)⟩
  apply wp_weaken (menuFunctions_running n action (h.observe _))
  intro _ w₁ h₁
  have h₁' : Awake valid w₁ := h₁
  exact hend.wp h₁' (fun _ _ h => h)

theorem buttonBranches_running (n : Nat) (h : Tuned valid w) :
    wp (buttonBranches n) (running valid) ω w := by
  have h₁ := h.observe (ω w.tick)
  have h₂ := h₁.observe (ω (w.tick + 1))
  have h₃ := h₂.observe (ω (w.tick + 2))
  have h₄ := h₃.observe (ω (w.tick + 3))
  simp only [buttonBranches, freshPress, wp_bind, wp_digitalRead, wp_get, wp_pure, wp_ite, wp_when,
    wp_modifyMenu]
  refine ⟨fun _ => press_running n _ h₁, fun _ => ⟨fun _ => press_running n _ h₂,
    fun _ => ⟨fun _ => press_running n _ h₃, fun _ => ⟨fun _ => press_running n _ h₄,
      fun _ => ⟨fun _ => ?_, fun _ => h₄.awake⟩⟩⟩⟩⟩
  refine menuFunctions_running n .nothing ⟨?_, h.noError, h.led⟩
  exact h₄.awake.menu_stay ⟨rfl, fun h => h, fun h => h⟩ rfl

theorem menuUpdate_running (n : Nat) (h : Tuned valid w) :
    wp (menuUpdate n) (running valid) ω w := by
  rw [menuUpdate, wp_bind, wp_call]
  apply wp_seq (buttonBranches_running n ⟨h.awake.called _, h.noError, h.led⟩)
  intro _ w₁ h₁
  have hrest : Keeps (Awake valid) (do longPressCheck; debounceCheck) :=
    .bind keeps_longPressCheck fun _ => keeps_debounceCheck
  have h₁' : Awake valid w₁ := h₁
  exact hrest.wp h₁' (fun _ _ h => h)

end Buttons

/-! ## `loop` -/

section Loop

variable {valid : Prop} {ω : Env} {w : World}

/-- The blink part of `loop` only redraws. -/
theorem keeps_blinkUpdate : Keeps (Awake valid) blinkUpdate := by
  intro ω w h
  simp only [blinkUpdate, wp_bind, wp_millis, wp_get, wp_ite, wp_modifyMenu]
  refine ⟨fun _ => ?_, fun _ => ?_⟩
  · refine (h.observe _).menu_stay ?_ ?_
    · split <;> exact ⟨rfl, fun h => h, fun h => h⟩
    · split <;> rfl
  · refine (h.observe _).menu_stay ?_ ?_
    · split <;> exact ⟨rfl, fun h => h, fun h => h⟩
    · split <;> rfl

variable [TimeLib]

/-- The idle check sleeps only after the idle time and without an error. -/
theorem idleCheck_running (n : Nat) (h : Awake valid w) :
    wp (idleCheck n) (running valid) ω w := by
  have ho := h.observe (ω w.tick)
  rw [idleCheck, wp_bind, wp_millis]
  apply (wp_get_bind _).mpr
  apply (wp_get_bind _).mpr
  apply (wp_when _ _).mpr
  refine ⟨fun hc => ?_, fun _ => ho⟩
  simp only [wp_bind, wp_setDispatch, wp_modifyMenu]
  refine running_of_settled (statusabfrage_settled n ?_)
  exact
    { base := { ho.base with }
      fresh := fun _ => ho.fresh
      maySleep := fun _ => hc.1 }

/-- The device is in order before `loop` looks at the buttons. -/
theorem menuUpdate_of_awake (n : Nat) (h : Awake valid w) :
    wp (do
      when ((← get).door.errorFlag ≠ .noError) do
        modifyMenu fun m => { m with menuId := 2 }
      when ((← get).sched.manualFlag = true) (digitalWrite .led true)
      menuUpdate n) (running valid) ω w := by
  -- a device that is still in its first set-up has no error to show
  have hled : ∀ w₁, Awake valid w₁ → (w₁.menu.menuId ≠ 2 → w₁.door.errorFlag = .noError) →
      wp (do
        when ((← get).sched.manualFlag = true) (digitalWrite .led true)
        menuUpdate n) (running valid) ω w₁ := by
    intro w₁ h₁ he₁
    rw [wp_get_bind, wp_bind, wp_when, wp_digitalWrite_led]
    refine ⟨fun _ => menuUpdate_running n ⟨h₁.led true, he₁, fun _ => rfl⟩, fun hm => ?_⟩
    exact menuUpdate_running n ⟨h₁, he₁, fun hm' => absurd hm' hm⟩
  rw [wp_get_bind, wp_bind, wp_when, wp_modifyMenu]
  refine ⟨fun he => ?_, fun he => hled _ h (fun _ => not_not.mp he)⟩
  refine hled _ (h.menu ⟨rfl, fun h => h, fun h => h⟩ ?_) (fun h2 => absurd rfl h2)
  rcases h.manual with hm | hc
  · exact .inl hm
  · exact absurd hc.noError he

/-- Every call of `loop`. -/
theorem loop_running (n : Nat) (h : Awake valid w) : wp (loop n) (running valid) ω w := by
  have ho := h.observe (ω w.tick)
  rw [loop, wp_bind, wp_digitalRead]
  apply (wp_ite _ _ _).mpr
  refine ⟨fun hline => ?_, fun _ => ?_⟩
  · rw [wp_bind, wp_setDispatch]
    have hd := ho.dispatch .loopAlarm
    exact running_of_settled
      (alarmWakeupHandling_settled n hd.base hd.fresh hline hd.ready.maySleep)
  · apply wp_seq (idleCheck_running n ho)
    intro _ w₁ h₁
    have h₁' : Awake valid w₁ := h₁
    apply wp_seq (keeps_blinkUpdate.wp h₁' (fun _ _ h => h))
    intro _ w₂ h₂
    exact menuUpdate_of_awake n h₂

end Loop

end Eggvault.Spec
