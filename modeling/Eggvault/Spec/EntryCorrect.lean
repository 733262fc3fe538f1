import Eggvault.ForStd.Counter
import Eggvault.Spec.AlarmCorrect
import Eggvault.Spec.EditCorrect
import Eggvault.Spec.ExitCorrect

/-!
# Every entry can be entered

Each value of the alarm editor is a counter that RIGHT counts up.  So from the start screen, whatever
was edited before, the buttons lead to every choice of days, mode, light threshold and time, and then
to the screen that saves it.

## Key results

- `editor_complete`: the edit screens, as a relation between states of the menu
- `entry_enterable`: the device, from the start screen to the tables in flash, whatever the display
  is refreshed for in between
-/

namespace Eggvault.Spec

open Eggvault.Native Prog Trace TimeLib Relation

/-! ## The counters -/

section Counters

/-- The time of day is counted modulo `top + 1`, and from any other value it falls back. -/
theorem counter_wrapUp (top : Int8) (ht : 0 ≤ top.toInt ∧ top.toInt < 127) :
    Counter (wrapUp top) Int8.toInt 0 top 127 := by
  have hnext : ∀ v : Int8, v.toInt < 127 → (v + 1).toInt = v.toInt + 1 :=
    fun v hv => Int8.toInt_add_one (by omega)
  have hgt : ∀ v : Int8, v > top ↔ top.toInt < v.toInt := fun v => Int8.lt_iff_toInt_lt
  constructor
  · exact fun _ _ h => Int8.toInt_inj.mp h
  · intro v hv
    rw [wrapUp, if_neg]
    · exact hnext v (by omega)
    · rw [hgt, hnext v (by omega)]
      omega
  · rw [wrapUp, if_pos]
    rw [hgt, hnext top ht.2]
    omega
  · intro v hv
    left
    rw [wrapUp]
    by_cases hover : v + 1 > top
    · rw [if_pos hover]
      exact ht.1
    · rw [if_neg hover]
      rw [hgt] at hover
      omega

/-- The modes are counted modulo four; a number without a mode runs on to 255 first. -/
theorem counter_mode :
    Counter (fun v : UInt8 => if v = 3 then 0 else v + 1) (fun v => (v.toNat : Int)) 0 3 255 := by
  constructor
  · intro u v h
    exact UInt8.toNat_inj.mp (Int.ofNat.inj h)
  · intro v hv
    have hne : v ≠ 3 := by
      rintro rfl
      exact absurd hv (Int.lt_irrefl _)
    have hlt : v.toNat < 3 := by
      have h3 : (3 : UInt8).toNat = 3 := rfl
      omega
    rw [if_neg hne, UInt8.toNat_add]
    have h1 : (1 : UInt8).toNat = 1 := rfl
    omega
  · rfl
  · intro v hv
    have hgt : 3 < v.toNat := by
      have h3 : (3 : UInt8).toNat = 3 := rfl
      omega
    have hne : v ≠ 3 := by
      rintro rfl
      exact absurd hgt (by decide)
    have h1 : (1 : UInt8).toNat = 1 := rfl
    have h3 : (3 : UInt8).toNat = 3 := rfl
    have hlt := v.toNat_lt
    rw [if_neg hne, UInt8.toNat_add]
    omega

/-- The light threshold is counted modulo ten, and a value out of range falls back at once. -/
theorem counter_lux :
    Counter (fun v : UInt8 => if v + 1 > maxLux then minLux else v + 1) (fun v => (v.toNat : Int))
      minLux maxLux 255 := by
  have h1 : (1 : UInt8).toNat = 1 := rfl
  have h9 : maxLux.toNat = 9 := rfl
  have h0 : minLux.toNat = 0 := rfl
  have hgt : ∀ v : UInt8, v > maxLux ↔ 9 < v.toNat := fun v => UInt8.lt_iff_toNat_lt
  constructor
  · intro u v h
    exact UInt8.toNat_inj.mp (Int.ofNat.inj h)
  · intro v hv
    have hnot : ¬ (v + 1 > maxLux) := by
      rw [hgt, UInt8.toNat_add]
      omega
    rw [if_neg hnot, UInt8.toNat_add]
    omega
  · rfl
  · intro v hv
    left
    have hlt := v.toNat_lt
    by_cases hover : v + 1 > maxLux
    · rw [if_pos hover]
      omega
    · rw [if_neg hover]
      rw [hgt] at hover
      omega

/-- The cursor of the choice of days. -/
theorem counter_cursor :
    Counter (fun v : Nat => if v + 1 > 7 then 0 else v + 1) (fun v => (v : Int)) 0 7 7 := by
  constructor
  · intro u v h
    exact Int.ofNat.inj h
  · intro v hv
    rw [if_neg (by omega)]
    omega
  · rfl
  · intro v hv
    left
    rw [if_pos (by omega)]
    omega

end Counters

/-! ## The editor -/

/-- A button leads from one edit screen to another. -/
def EditStep (m m' : Menu) : Prop :=
  (editScreen m'.menuId).isSome = true ∧
    ∃ action f, action ≠ .nothing ∧ editScreen m.menuId = some f ∧ m' = f action m

/-- What has been edited so far, for the direction being set. -/
structure Draft where
  modeset : Modeset
  days : Fin 7 → Bool
  mode : UInt8
  lux : UInt8
  hour : Int8
  minute : Int8

def draft (m : Menu) : Draft :=
  ⟨m.modeset, selected m, m.mode, m.lux, m.hourSet, m.minuteSet⟩

/-- The editor shows the screen `id` with the draft `d`. -/
structure OnScreen (id : Nat) (d : Draft) (m : Menu) : Prop where
  screen : m.menuId = id
  draft : draft m = d

/-- Some buttons lead to a state with `P`. -/
def ButtonsLead (m : Menu) (P : Menu → Prop) : Prop := ∃ m', ReflTransGen EditStep m m' ∧ P m'

section Setters

variable (m : Menu)

theorem draft_setMode (v : UInt8) : draft (m.setMode v) = { draft m with mode := v } := by
  unfold draft Menu.setMode Menu.mode Menu.lux Menu.hourSet Menu.minuteSet
  cases m.modeset <;> rfl

theorem draft_setLux (v : UInt8) : draft (m.setLux v) = { draft m with lux := v } := by
  unfold draft Menu.setLux Menu.mode Menu.lux Menu.hourSet Menu.minuteSet
  cases m.modeset <;> rfl

theorem draft_setHourSet (v : Int8) : draft (m.setHourSet v) = { draft m with hour := v } := by
  unfold draft Menu.setHourSet Menu.mode Menu.lux Menu.hourSet Menu.minuteSet
  cases m.modeset <;> rfl

theorem draft_setMinuteSet (v : Int8) : draft (m.setMinuteSet v) = { draft m with minute := v } := by
  unfold draft Menu.setMinuteSet Menu.mode Menu.lux Menu.hourSet Menu.minuteSet
  cases m.modeset <;> rfl

theorem setMode_mode : m.setMode m.mode = m := by
  unfold Menu.setMode Menu.mode
  split <;> rfl

theorem setMode_setMode (u v : UInt8) : (m.setMode u).setMode v = m.setMode v := by
  unfold Menu.setMode
  cases m.modeset <;> rfl

theorem setLux_lux : m.setLux m.lux = m := by
  unfold Menu.setLux Menu.lux
  split <;> rfl

theorem setLux_setLux (u v : UInt8) : (m.setLux u).setLux v = m.setLux v := by
  unfold Menu.setLux
  cases m.modeset <;> rfl

theorem setHourSet_hourSet : m.setHourSet m.hourSet = m := by
  unfold Menu.setHourSet Menu.hourSet
  split <;> rfl

theorem setHourSet_setHourSet (u v : Int8) : (m.setHourSet u).setHourSet v = m.setHourSet v := by
  unfold Menu.setHourSet
  cases m.modeset <;> rfl

theorem setMinuteSet_minuteSet : m.setMinuteSet m.minuteSet = m := by
  unfold Menu.setMinuteSet Menu.minuteSet
  split <;> rfl

theorem setMinuteSet_setMinuteSet (u v : Int8) :
    (m.setMinuteSet u).setMinuteSet v = m.setMinuteSet v := by
  unfold Menu.setMinuteSet
  cases m.modeset <;> rfl

theorem setHourSet_screen (v : Int8) :
    (m.setHourSet v).menuId = m.menuId ∧ (m.setHourSet v).timeSetMode = m.timeSetMode := by
  unfold Menu.setHourSet
  split <;> exact ⟨rfl, rfl⟩

theorem setMinuteSet_screen (v : Int8) :
    (m.setMinuteSet v).menuId = m.menuId ∧ (m.setMinuteSet v).timeSetMode = m.timeSetMode := by
  unfold Menu.setMinuteSet
  split <;> exact ⟨rfl, rfl⟩

end Setters

/-! ## Counting -/

section Counting

variable {m : Menu}

/-- A counter of an edit screen, from the press that counts up. -/
theorem leads_counter {β : Type} {next : β → β} {rank : β → Int} {first last : β} {bound : Int}
    (h : Counter next rank first last bound) {s : β → Menu} {k : Nat} {f : BtnAction → Menu → Menu}
    (hid : ∀ v, (s v).menuId = k) (hf : editScreen k = some f)
    (hright : ∀ v, f .right (s v) = s (next v)) (v : β) {t : β} (hfirst : rank first ≤ rank t)
    (hlast : rank t ≤ rank last) : ReflTransGen EditStep (s v) (s t) := by
  refine h.reaches (R := EditStep) (fun u => ?_) v hfirst hlast
  refine ⟨?_, .right, f, by decide, ?_, (hright u).symm⟩
  · rw [hid, hf]
    rfl
  · rw [hid]
    exact hf

/-- There are four modes. -/
theorem ValidMode.toNat_le {v : UInt8} (h : ValidMode v) : v.toNat ≤ 3 := by
  unfold ValidMode OpeningMode.ofByte at h
  by_cases h0 : v = 0
  · rw [h0]
    decide
  by_cases h1 : v = 1
  · rw [h1]
    decide
  by_cases h2 : v = 2
  · rw [h2]
    decide
  by_cases h3 : v = 3
  · rw [h3]
    decide
  · simp [h0, h1, h2, h3] at h

theorem leads_mode (hid : m.menuId = 800) {v : UInt8} (hv : ValidMode v) :
    ReflTransGen EditStep m (m.setMode v) := by
  have hright : ∀ u, screen800 .right (m.setMode u) = m.setMode (if u = 3 then 0 else u + 1) := by
    intro u
    have hmode : (m.setMode u).mode = u := congrArg Draft.mode (draft_setMode m u)
    show (m.setMode u).setMode _ = m.setMode _
    rw [setMode_setMode, hmode]
  have hlast : (v.toNat : Int) ≤ ((3 : UInt8).toNat : Int) := by
    have hle := hv.toNat_le
    have h3 : (3 : UInt8).toNat = 3 := rfl
    omega
  have h := leads_counter counter_mode (fun u => (setMode_menuId m u).trans hid) rfl hright m.mode
    (Int.natCast_nonneg _) hlast
  rw [setMode_mode] at h
  exact h

theorem leads_lux (hid : m.menuId = 810) {v : UInt8} (hv : v ≤ maxLux) :
    ReflTransGen EditStep m (m.setLux v) := by
  have hright : ∀ u, screen810 .right (m.setLux u) =
      m.setLux (if u + 1 > maxLux then minLux else u + 1) := by
    intro u
    have hlux : (m.setLux u).lux = u := congrArg Draft.lux (draft_setLux m u)
    show (m.setLux u).setLux _ = m.setLux _
    rw [setLux_setLux, hlux]
  have hlast : (v.toNat : Int) ≤ (maxLux.toNat : Int) := Int.ofNat_le.mpr (UInt8.le_iff_toNat_le.mp hv)
  have h := leads_counter counter_lux (fun u => (setLux_menuId m u).trans hid) rfl hright m.lux
    (Int.natCast_nonneg _) hlast
  rw [setLux_lux] at h
  exact h

theorem leads_hour (hid : m.menuId = 820) (hm : m.timeSetMode = .setHour) {v : Int8} (hv : HourOk v) :
    ReflTransGen EditStep m (m.setHourSet v) := by
  have hright : ∀ u, screen820 .right (m.setHourSet u) = m.setHourSet (wrapUp 23 u) := by
    intro u
    have hhour : (m.setHourSet u).hourSet = u := congrArg Draft.hour (draft_setHourSet m u)
    obtain ⟨hkept, hmode⟩ := setHourSet_screen (m.setHourSet u) (wrapUp 23 u)
    obtain ⟨hkept', hmode'⟩ := setHourSet_screen m u
    simp only [screen820, hmode', hm, hhour]
    rw [setHourSet_setHourSet] at hkept ⊢
    rw [← hkept.trans (hkept'.trans hid)]
  have h := leads_counter (counter_wrapUp 23 (by decide))
    (fun u => (setHourSet_screen m u).1.trans hid) rfl hright m.hourSet hv.1 hv.2
  rw [setHourSet_hourSet] at h
  exact h

theorem leads_minute (hid : m.menuId = 820) (hm : m.timeSetMode = .setMinute) {v : Int8}
    (hv : MinuteOk v) : ReflTransGen EditStep m (m.setMinuteSet v) := by
  have hright : ∀ u, screen820 .right (m.setMinuteSet u) = m.setMinuteSet (wrapUp 59 u) := by
    intro u
    have hminute : (m.setMinuteSet u).minuteSet = u := congrArg Draft.minute (draft_setMinuteSet m u)
    obtain ⟨hkept, hmode⟩ := setMinuteSet_screen (m.setMinuteSet u) (wrapUp 59 u)
    obtain ⟨hkept', hmode'⟩ := setMinuteSet_screen m u
    simp only [screen820, hmode', hm, hminute]
    rw [setMinuteSet_setMinuteSet] at hkept ⊢
    rw [← hkept.trans (hkept'.trans hid)]
  have h := leads_counter (counter_wrapUp 59 (by decide))
    (fun u => (setMinuteSet_screen m u).1.trans hid) rfl hright m.minuteSet hv.1 hv.2
  rw [setMinuteSet_minuteSet] at h
  exact h

theorem leads_cursor (hid : m.menuId = 110) {c : Nat} (hc : c ≤ 7) :
    ReflTransGen EditStep m { m with cursorTag := c } :=
  leads_counter counter_cursor (s := fun c => { m with cursorTag := c }) (fun _ => hid) rfl
    (fun _ => rfl) m.cursorTag (Int.natCast_nonneg _) (Int.ofNat_le.mpr hc)

end Counting

/-! ## The choice of days -/

section Days

variable {m : Menu}

theorem weekdays_toBitVec : ∀ i : Fin 7, (weekdays i).toBitVec = BitVec.twoPow 8 i.val := by decide

theorem weekdays_ne_zero : ∀ i : Fin 7, weekdays i ≠ 0 := by decide

/-- A day is selected by its bit of the mask. -/
theorem selected_eq (m : Menu) (i : Fin 7) :
    selected m i = m.dayBitmask.toBitVec.getLsbD i.val := by
  have hmask : m.dayBitmask &&& weekdays i = 0 ↔ m.dayBitmask.toBitVec.getLsbD i.val = false := by
    rw [← UInt8.toBitVec_inj, UInt8.toBitVec_and, weekdays_toBitVec, BitVec.and_twoPow]
    split
    · next hset =>
      rw [hset]
      refine ⟨fun h => ?_, fun h => by cases h⟩
      rw [← weekdays_toBitVec] at h
      exact absurd (UInt8.toBitVec_inj.mp h) (weekdays_ne_zero i)
    · next hclear =>
      exact ⟨fun _ => Bool.eq_false_iff.mpr hclear, fun _ => rfl⟩
  unfold selected
  by_cases h : m.dayBitmask &&& weekdays i = 0
  · rw [hmask.mp h]
    exact decide_eq_false (not_not.mpr h)
  · rw [decide_eq_true h]
    exact (Bool.eq_true_of_not_eq_false (mt hmask.mpr h)).symm

/-- SELECT takes the day under the cursor in or out. -/
theorem selected_toggle (m : Menu) (c : Nat) (i j : Fin 7) :
    selected { m with cursorTag := c, dayBitmask := m.dayBitmask ^^^ weekdays i } j =
      if j = i then !selected m i else selected m j := by
  have hlt : i.val < 8 := by omega
  rw [selected_eq, selected_eq, selected_eq]
  dsimp only
  rw [UInt8.toBitVec_xor, BitVec.getLsbD_xor, weekdays_toBitVec, BitVec.getLsbD_twoPow, decide_eq_true hlt]
  by_cases h : j = i
  · rw [if_pos h, h]
    simp
  · have hne : ¬ i.val = j.val := fun heq => h (Fin.ext heq.symm)
    rw [if_neg h, decide_eq_false hne]
    simp

theorem leads_toggle (hid : m.menuId = 110) (i : Fin 7) :
    ReflTransGen EditStep m
      { m with cursorTag := i.val, dayBitmask := m.dayBitmask ^^^ weekdays i } := by
  have hcursor := leads_cursor hid (c := i.val) (by omega)
  refine hcursor.tail ⟨by rw [hid]; rfl, .select, screen110, by decide, by rw [hid]; rfl, ?_⟩
  have hi : Fin.ofNat 7 i.val = i := Fin.ext (Nat.mod_eq_of_lt i.isLt)
  simp only [screen110]
  rw [if_pos i.isLt, hi]

/-- Every choice of days, by induction on the days that have been visited. -/
theorem leads_days (hid : m.menuId = 110) (days : Fin 7 → Bool) :
    ButtonsLead m fun m' =>
      (∃ c mask, m' = { m with cursorTag := c, dayBitmask := mask }) ∧ selected m' = days := by
  have hvisit : ∀ l : List (Fin 7), ButtonsLead m fun m' =>
      (∃ c mask, m' = { m with cursorTag := c, dayBitmask := mask }) ∧
        ∀ j, selected m' j = if j ∈ l then days j else selected m j := by
    intro l
    induction l with
    | nil => exact ⟨m, .refl, ⟨m.cursorTag, m.dayBitmask, rfl⟩, by simp⟩
    | cons i l ih =>
      obtain ⟨m₁, hreach, ⟨c, mask, rfl⟩, hdays⟩ := ih
      by_cases hi : selected { m with cursorTag := c, dayBitmask := mask } i = days i
      · refine ⟨_, hreach, ⟨c, mask, rfl⟩, fun j => ?_⟩
        by_cases hj : j = i
        · rw [hj, hi, if_pos List.mem_cons_self]
        · rw [hdays]
          simp [hj]
      · refine ⟨_, hreach.trans (leads_toggle (by exact hid) i), ⟨_, _, rfl⟩, fun j => ?_⟩
        rw [selected_toggle]
        by_cases hj : j = i
        · rw [if_pos hj, hj, if_pos List.mem_cons_self]
          exact (Bool.eq_not_of_ne (Ne.symm hi)).symm
        · rw [if_neg hj, hdays]
          simp [hj]
  obtain ⟨m', hreach, hshape, hdays⟩ := hvisit (List.finRange 7)
  refine ⟨m', hreach, hshape, funext fun j => ?_⟩
  rw [hdays, if_pos (List.mem_finRange j)]

end Days

/-! ## Ways through the editor -/

section Ways

variable {m : Menu} {d : Draft}

theorem ButtonsLead.trans {P Q : Menu → Prop} (h : ButtonsLead m P) (hQ : ∀ m', P m' → ButtonsLead m' Q) :
    ButtonsLead m Q := by
  obtain ⟨m₁, h₁, hP⟩ := h
  obtain ⟨m₂, h₂, hq⟩ := hQ m₁ hP
  exact ⟨m₂, h₁.trans h₂, hq⟩

/-- One button. -/
theorem ButtonsLead.press {P : Menu → Prop} (action : BtnAction) {f : BtnAction → Menu → Menu} {k : Nat}
    (hid : m.menuId = k) (hf : editScreen k = some f) (ha : action ≠ .nothing)
    (hs : (editScreen (f action m).menuId).isSome = true) (hP : P (f action m)) : ButtonsLead m P :=
  ⟨_, .single ⟨hs, action, f, ha, by rw [hid]; exact hf, rfl⟩, hP⟩

/-- A screen of the editor, with the time that is being set on screen 820. -/
structure OnTimeScreen (mode : Setmode) (d : Draft) (m : Menu) : Prop extends OnScreen 820 d m where
  mode : m.timeSetMode = mode

/-- From the start of the menu to the choice of the mode, with the direction and the days. -/
theorem leads_to_mode (hid : m.menuId = 100) (dir : Modeset) (days : Fin 7 → Bool) :
    ButtonsLead m fun m' => ∃ d, OnScreen 800 d m' ∧ d.modeset = dir ∧ d.days = days := by
  have hdays : ∀ m₁ : Menu, m₁.menuId = 110 → m₁.modeset = dir →
      ButtonsLead m₁ fun m' => ∃ d, OnScreen 800 d m' ∧ d.modeset = dir ∧ d.days = days := by
    intro m₁ hid₁ hdir
    refine (leads_days hid₁ days).trans ?_
    rintro m₂ ⟨⟨c, mask, rfl⟩, hsel⟩
    -- the field behind the last day leads on
    have hcursor : ReflTransGen EditStep { m₁ with cursorTag := c, dayBitmask := mask }
        { m₁ with cursorTag := 7, dayBitmask := mask } := leads_cursor (by exact hid₁) (Nat.le_refl 7)
    refine ButtonsLead.trans ⟨_, hcursor, rfl⟩ ?_
    rintro m₃ rfl
    refine .press .select (k := 110) hid₁ rfl (by decide) rfl ⟨_, ⟨rfl, rfl⟩, hdir, ?_⟩
    exact hsel
  cases dir with
  | modesetOpening =>
    refine ButtonsLead.trans (.press .select hid rfl (by decide) rfl rfl) ?_
    rintro m₁ rfl
    exact hdays _ rfl rfl
  | modesetClosing =>
    refine ButtonsLead.trans (.press .right hid rfl (by decide) rfl rfl) ?_
    rintro m₁ rfl
    refine ButtonsLead.trans (.press .select (k := 200) rfl rfl (by decide) rfl rfl) ?_
    rintro m₂ rfl
    exact hdays _ rfl rfl

theorem OnScreen.setMode (h : OnScreen 800 d m) {v : UInt8} (hv : ValidMode v) :
    ButtonsLead m (OnScreen 800 { d with mode := v }) := by
  refine ⟨m.setMode v, leads_mode h.screen hv, (setMode_menuId m v).trans h.screen, ?_⟩
  rw [draft_setMode, h.draft]

theorem OnScreen.setLux (h : OnScreen 810 d m) {v : UInt8} (hv : v ≤ maxLux) :
    ButtonsLead m (OnScreen 810 { d with lux := v }) := by
  refine ⟨m.setLux v, leads_lux h.screen hv, (setLux_menuId m v).trans h.screen, ?_⟩
  rw [draft_setLux, h.draft]

theorem OnTimeScreen.setHour (h : OnTimeScreen .setHour d m) {v : Int8} (hv : HourOk v) :
    ButtonsLead m (OnTimeScreen .setHour { d with hour := v }) := by
  obtain ⟨hid, hmode⟩ := setHourSet_screen m v
  refine ⟨m.setHourSet v, leads_hour h.screen h.mode hv, ⟨hid.trans h.screen, ?_⟩, hmode.trans h.mode⟩
  rw [draft_setHourSet, h.draft]

theorem OnTimeScreen.setMinute (h : OnTimeScreen .setMinute d m) {v : Int8} (hv : MinuteOk v) :
    ButtonsLead m (OnTimeScreen .setMinute { d with minute := v }) := by
  obtain ⟨hid, hmode⟩ := setMinuteSet_screen m v
  refine ⟨m.setMinuteSet v, leads_minute h.screen h.mode hv, ⟨hid.trans h.screen, ?_⟩,
    hmode.trans h.mode⟩
  rw [draft_setMinuteSet, h.draft]

/-- The mode of a draft is the one that the screens look at. -/
theorem OnScreen.mode_eq {id : Nat} (h : OnScreen id d m) : m.mode = d.mode :=
  congrArg Draft.mode h.draft

/-- SELECT on the choice of the mode, for a mode with light. -/
theorem OnScreen.selectLight (h : OnScreen 800 d m)
    (hm : OpeningMode.ofByte d.mode = some .licht ∨ OpeningMode.ofByte d.mode = some .lichtZeit) :
    ButtonsLead m (OnScreen 810 d) := by
  have hselect : screen800 .select m = { m with menuId := 810 } := by
    rcases hm with hm | hm <;> simp only [screen800, h.mode_eq, hm]
  refine .press .select h.screen rfl (by decide) ?_ ?_
  · rw [hselect]
    rfl
  · rw [hselect]
    exact ⟨rfl, h.draft⟩

/-- SELECT on the light threshold, for a mode with light and time. -/
theorem OnScreen.selectTime (h : OnScreen 810 d m)
    (hm : OpeningMode.ofByte d.mode = some .lichtZeit) : ButtonsLead m (OnTimeScreen .setHour d) := by
  have hselect : screen810 .select m = { m with timeSetMode := .setHour, menuId := 820 } := by
    simp only [screen810, h.mode_eq, hm]
  refine .press .select h.screen rfl (by decide) ?_ ?_
  · rw [hselect]
    rfl
  · rw [hselect]
    exact ⟨⟨rfl, h.draft⟩, rfl⟩

/-- SELECT goes on from the hour to the minute. -/
theorem OnTimeScreen.selectMinute (h : OnTimeScreen .setHour d m) :
    ButtonsLead m (OnTimeScreen .setMinute d) := by
  have hselect : screen820 .select m = { m with timeSetMode := .setMinute, menuId := 820 } := by
    simp only [screen820, h.mode]
  refine .press .select h.screen rfl (by decide) ?_ ?_
  · rw [hselect]
    rfl
  · rw [hselect]
    exact ⟨⟨rfl, h.draft⟩, rfl⟩

/-- EXIT leads from the minute back to the choice of the mode. -/
theorem OnTimeScreen.back (h : OnTimeScreen .setMinute d m)
    (hm : OpeningMode.ofByte d.mode = some .lichtZeit) : ButtonsLead m (OnScreen 800 d) := by
  have hhour : ButtonsLead m (OnTimeScreen .setHour d) := by
    have hexit : screen820 .exit m = { m with timeSetMode := .setHour } := by
      simp only [screen820, h.mode]
    refine .press .exit h.screen rfl (by decide) ?_ ?_
    · rw [hexit]
      show (editScreen m.menuId).isSome = true
      rw [h.screen]
      rfl
    · rw [hexit]
      exact ⟨⟨h.screen, h.draft⟩, rfl⟩
  refine hhour.trans fun m₁ h₁ => ?_
  have hlux : ButtonsLead m₁ (OnScreen 810 d) := by
    have hexit : screen820 .exit m₁ = { m₁ with menuId := 810 } := by
      simp [screen820, h₁.mode, h₁.mode_eq, hm]
    refine .press .exit h₁.screen rfl (by decide) ?_ ?_
    · rw [hexit]
      rfl
    · rw [hexit]
      exact ⟨rfl, h₁.draft⟩
  refine hlux.trans fun m₂ h₂ => ?_
  exact .press .exit h₂.screen rfl (by decide) rfl ⟨rfl, h₂.draft⟩

/-- Every threshold and every time, by way of the mode in which both are asked for. -/
theorem OnScreen.setValues (h : OnScreen 800 d m) {mode lux : UInt8} {hour minute : Int8}
    (hmode : ValidMode mode) (hlux : lux ≤ maxLux) (hhour : HourOk hour) (hminute : MinuteOk minute) :
    ButtonsLead m (OnScreen 800 { d with mode, lux, hour, minute }) := by
  refine (h.setMode (v := 2) (by decide)).trans fun m₁ h₁ => ?_
  refine (h₁.selectLight (.inr rfl)).trans fun m₂ h₂ => ?_
  refine (h₂.setLux hlux).trans fun m₃ h₃ => ?_
  refine (h₃.selectTime rfl).trans fun m₄ h₄ => ?_
  refine (h₄.setHour hhour).trans fun m₅ h₅ => ?_
  refine h₅.selectMinute.trans fun m₆ h₆ => ?_
  refine (h₆.setMinute hminute).trans fun m₇ h₇ => ?_
  exact (h₇.back rfl).trans fun m₈ h₈ => h₈.setMode hmode

/-- The next SELECT leads to the screen that saves the draft. -/
def Saves (d : Draft) (m : Menu) : Prop :=
  ∃ f, editScreen m.menuId = some f ∧ (f .select m).menuId = 900 ∧ draft (f .select m) = d

/-- The time is confirmed step by step. -/
theorem OnTimeScreen.saves (h : OnTimeScreen .setHour d m) : ButtonsLead m (Saves d) := by
  refine h.selectMinute.trans fun m₁ h₁ => ?_
  have hconfirm : ButtonsLead m₁ (OnTimeScreen .setNothing d) := by
    have hselect : screen820 .select m₁ = { m₁ with timeSetMode := .setNothing, menuId := 820 } := by
      simp only [screen820, h₁.mode]
    refine .press .select h₁.screen rfl (by decide) ?_ ?_
    · rw [hselect]
      rfl
    · rw [hselect]
      exact ⟨⟨rfl, h₁.draft⟩, rfl⟩
  refine hconfirm.trans fun m₂ h₂ => ⟨m₂, .refl, screen820, ?_, ?_, ?_⟩
  · rw [h₂.screen]
    rfl
  · simp only [screen820, h₂.mode]
  · simp only [screen820, h₂.mode]
    exact h₂.draft

/-- From the choice of the mode every mode leads to the save. -/
theorem OnScreen.saves (h : OnScreen 800 d m) (hv : ValidMode d.mode) : ButtonsLead m (Saves d) := by
  obtain ⟨mode, hm⟩ : ∃ mode, OpeningMode.ofByte d.mode = some mode := Option.isSome_iff_exists.mp hv
  cases mode with
  | licht =>
    refine (h.selectLight (.inl hm)).trans fun m₁ h₁ => ⟨m₁, .refl, screen810, ?_, ?_, ?_⟩
    · rw [h₁.screen]
      rfl
    · simp only [screen810, h₁.mode_eq, hm]
    · simp only [screen810, h₁.mode_eq, hm]
      exact h₁.draft
  | zeit =>
    have htime : ButtonsLead m (OnTimeScreen .setHour d) := by
      have hselect : screen800 .select m = { m with timeSetMode := .setHour, menuId := 820 } := by
        simp only [screen800, h.mode_eq, hm]
      refine .press .select h.screen rfl (by decide) ?_ ?_
      · rw [hselect]
        rfl
      · rw [hselect]
        exact ⟨⟨rfl, h.draft⟩, rfl⟩
    exact htime.trans fun m₁ h₁ => h₁.saves
  | lichtZeit =>
    refine (h.selectLight (.inr hm)).trans fun m₁ h₁ => ?_
    exact (h₁.selectTime hm).trans fun m₂ h₂ => h₂.saves
  | nicht =>
    refine ⟨m, .refl, screen800, ?_, ?_, ?_⟩
    · rw [h.screen]
      rfl
    · simp only [screen800, h.mode_eq, hm]
    · simp only [screen800, h.mode_eq, hm]
      exact h.draft

/-- From the start of the menu, whatever was edited before, the buttons lead to the save of every
    draft. -/
theorem editor_complete (hid : m.menuId = 100) (hmode : ValidMode d.mode) (hlux : d.lux ≤ maxLux)
    (hhour : HourOk d.hour) (hminute : MinuteOk d.minute) : ButtonsLead m (Saves d) := by
  refine (leads_to_mode hid d.modeset d.days).trans ?_
  rintro m₁ ⟨d₁, h₁, hdir, hdays⟩
  refine (h₁.setValues hmode hlux hhour hminute).trans fun m₂ h₂ => ?_
  have hd : { d₁ with mode := d.mode, lux := d.lux, hour := d.hour, minute := d.minute } = d := by
    rw [hdir, hdays]
  rw [hd] at h₂
  exact h₂.saves hmode

end Ways

/-! ## The display -/

/-- Two menus that differ at most in what only the display depends on. -/
def SameEdits (m m' : Menu) : Prop :=
  ∃ refresh blink count,
    m' = { m with menuRefreshFlag := refresh, blink := blink, blinkCount := count }

section Display

variable {m m' m'' : Menu} {k : Nat} {f : BtnAction → Menu → Menu}

theorem SameEdits.refl (m : Menu) : SameEdits m m := ⟨_, _, _, rfl⟩

theorem SameEdits.trans (h : SameEdits m m') (h' : SameEdits m' m'') : SameEdits m m'' := by
  obtain ⟨_, _, _, rfl⟩ := h
  obtain ⟨refresh, blink, count, rfl⟩ := h'
  exact ⟨refresh, blink, count, rfl⟩

theorem SameEdits.menuId (h : SameEdits m m') : m'.menuId = m.menuId := by
  obtain ⟨_, _, _, rfl⟩ := h
  rfl

theorem SameEdits.goTo (h : SameEdits m m') (id : Nat) :
    SameEdits { m with menuId := id } { m' with menuId := id } := by
  obtain ⟨_, _, _, rfl⟩ := h
  exact ⟨_, _, _, rfl⟩

theorem SameEdits.active (h : SameEdits m m') : m'.menuActive = m.menuActive := by
  obtain ⟨_, _, _, rfl⟩ := h
  rfl

theorem SameEdits.draft (h : SameEdits m m') : draft m' = draft m := by
  obtain ⟨_, _, _, rfl⟩ := h
  rfl

/-- The edit screens do not look at the display. -/
theorem SameEdits.edit (h : SameEdits m m') (hf : editScreen k = some f) (action : BtnAction) :
    SameEdits (f action m) (f action m') := by
  obtain ⟨refresh, blink, count, rfl⟩ := h
  refine ⟨refresh, blink, count, ?_⟩
  obtain ⟨_, _, _, _, modeset, _, _, _, _, _, _, _, _, _, _, _, _⟩ := m
  unfold editScreen at hf
  split at hf <;> cases hf
  all_goals
    cases action <;> cases modeset <;> try rfl
  all_goals
    simp only [screen110, screen800, screen810, screen820, Menu.mode]
    split <;> rfl

/-- A refresh of an edit screen changes nothing. -/
theorem editScreen_refresh (hid : m.menuId = k) (hf : editScreen k = some f) : f .nothing m = m := by
  unfold editScreen at hf
  split at hf <;> cases hf
  all_goals
    cases m
    cases hid
    rfl

end Display

/-! ## The device -/

/-- Between two calls of `menuFunctions` the display, the clock and the inputs may change, and
    whatever else has to do neither with the tables nor with the edits. -/
structure Between (w w' : World) : Prop where
  opening : w'.sched.openingAlarms = w.sched.openingAlarms
  closing : w'.sched.closingAlarms = w.sched.closingAlarms
  nox : w'.sched.fInitNox = w.sched.fInitNox
  nvs : ∀ k, isSetupKey k = true → w'.nvs.get k = w.nvs.get k
  menu : SameEdits w.menu w'.menu

/-- The menu is `m`, and the tables are as in `w`. -/
structure Editing (w : World) (m : Menu) (w' : World) : Prop where
  opening : w'.sched.openingAlarms = w.sched.openingAlarms
  closing : w'.sched.closingAlarms = w.sched.closingAlarms
  nox : w'.sched.fInitNox = w.sched.fInitNox
  menu : SameEdits m w'.menu

theorem Editing.between {w w₁ w₂ : World} {m : Menu} (h : Editing w m w₁) (hb : Between w₁ w₂) :
    Editing w m w₂ where
  opening := hb.opening.trans h.opening
  closing := hb.closing.trans h.closing
  nox := hb.nox.trans h.nox
  menu := h.menu.trans hb.menu

theorem sameEdits_pressed (action : BtnAction) (m : Menu) : SameEdits m (pressed action m) := by
  unfold pressed
  split
  · exact .refl m
  · exact ⟨_, _, _, rfl⟩

section Device

variable [TimeLib]

/-- After so many refreshes `P` holds. -/
def Redrawn (ω : Env) (n : Nat) (P : World → Prop) : Nat → World → Prop
  | 0, w => P w
  | k + 1, w => ∀ w₁, Between w w₁ →
      wp (menuFunctions n .nothing) (returns (Redrawn ω n P k)) ω w₁

/-- The buttons, each with its refreshes, lead to `P`. -/
def Typed (ω : Env) (n : Nat) (P : World → Prop) : List BtnAction → World → Prop
  | [], w => P w
  | action :: actions, w => ∀ w₁, Between w w₁ →
      wp (menuFunctions n action)
        (returns fun w₂ => ∀ k, Redrawn ω n (Typed ω n P actions) (k + 1) w₂) ω w₁

variable {ω : Env} {w w₁ : World} {m m' : Menu} {n : Nat} {action : BtnAction} {P Q : World → Prop}

theorem Redrawn.mono (h : ∀ w, P w → Q w) {k : Nat} (hP : Redrawn ω n P k w) :
    Redrawn ω n Q k w := by
  induction k generalizing w with
  | zero => exact h w hP
  | succ k ih => exact fun w₁ hb => wp_of_returns (hP w₁ hb) fun _ _ h₂ => ih h₂

/-- What a refresh keeps, refreshes keep. -/
theorem Redrawn.of_keeps (hbetween : ∀ w w₁, P w → Between w w₁ → P w₁)
    (hkeeps : ∀ w, P w → wp (menuFunctions n .nothing) (returns P) ω w) (h : P w) (k : Nat) :
    Redrawn ω n P k w := by
  induction k generalizing w with
  | zero => exact h
  | succ k ih => exact fun w₁ hb => wp_of_returns (hkeeps w₁ (hbetween w w₁ h hb)) fun _ _ h₂ => ih h₂

/-- What an edit screen does.  SELECT on screen 700 sends the device to sleep instead. -/
theorem wp_editScreen {id : Nat} {f : BtnAction → Menu → Menu} {post : Post World Unit}
    (hf : editScreen id = some f) (hs : id = 700 → action ≠ .select)
    (h : post.done () { w with menu := f action w.menu }) : wp (screen n action id) post ω w := by
  have hedit : wp (modifyMenu (f action)) post ω w := (wp_modifyMenu _).mpr h
  unfold editScreen at hf
  split at hf <;> cases hf
  case h_7 =>
    show wp (screen700 action) post ω w
    simp only [screen700, wp_bind, wp_modifyMenu, wp_when]
    exact ⟨fun hc => absurd hc (hs rfl), fun _ => h⟩
  all_goals exact hedit

/-- A call of `menuFunctions`, by the screen that it comes to. -/
theorem wp_menuFunctions {post : Post World Unit}
    (h : wp (screen n action w.menu.menuId) post ω
      (entered { w with menu := pressed action w.menu } action)) :
    wp (menuFunctions n action) post ω w := by
  simp only [menuFunctions, wp_bind, wp_when, wp_modifyMenu, wp_get, wp_setDispatch, wp_call]
  unfold pressed at h
  refine ⟨fun hne => ?_, fun heq => ?_⟩
  · rw [if_neg hne] at h
    exact h
  · rw [if_pos (not_not.mp heq)] at h
    exact h

/-- A call on an edit screen. -/
theorem menuFunctions_edits {f : BtnAction → Menu → Menu} (h : Editing w m w₁)
    (hf : editScreen m.menuId = some f) (hs : m.menuId = 700 → action ≠ .select) :
    wp (menuFunctions n action) (returns (Editing w (f action m))) ω w₁ := by
  apply wp_menuFunctions
  rw [h.menu.menuId]
  apply wp_editScreen hf hs
  constructor
  · exact h.opening
  · exact h.closing
  · exact h.nox
  · exact (h.menu.trans (sameEdits_pressed action w₁.menu)).edit hf action

/-- The refreshes of an edit screen. -/
theorem Editing.redrawn (h : Editing w m w₁) (hs : (editScreen m.menuId).isSome = true) (k : Nat) :
    Redrawn ω n (Editing w m) k w₁ := by
  obtain ⟨f, hf⟩ := Option.isSome_iff_exists.mp hs
  refine Redrawn.of_keeps (fun _ _ h₁ hb => h₁.between hb) (fun w₂ h₂ => ?_) h k
  have hrefresh : wp (menuFunctions n .nothing) (returns (Editing w (f .nothing m))) ω w₂ :=
    menuFunctions_edits h₂ hf fun _ => by decide
  rw [editScreen_refresh rfl hf] at hrefresh
  exact hrefresh

/-- A way through the editor as a list of buttons, by induction on the way. -/
theorem editSteps_typed (h : ReflTransGen EditStep m m') :
    ∃ actions, ∀ (ω : Env) (n : Nat) (w w₁ : World), Editing w m w₁ →
      ∀ (P : World → Prop) (rest : List BtnAction),
        (∀ w₂, Editing w m' w₂ → Typed ω n P rest w₂) → Typed ω n P (actions ++ rest) w₁ := by
  induction h using ReflTransGen.head_induction_on with
  | refl => exact ⟨[], fun _ _ _ w₁ h₁ _ _ hrest => hrest w₁ h₁⟩
  | head hstep _ ih =>
    obtain ⟨hscreen, action, f, -, hf, rfl⟩ := hstep
    obtain ⟨actions, hactions⟩ := ih
    refine ⟨action :: actions, fun ω n w w₁ h₁ P rest hrest w₂ hb => ?_⟩
    refine wp_of_returns (menuFunctions_edits (h₁.between hb) hf ?_) ?_
    · -- SELECT on screen 700 leads to no screen
      rintro hid rfl
      rw [hid] at hf
      cases hf
      cases hscreen
    intro _ w₃ h₃ k
    exact (h₃.redrawn hscreen (k + 1)).mono fun w₄ h₄ => hactions ω n w w₄ h₄ P rest hrest

/-- SELECT on the start screen opens the editor. -/
theorem start_edits (hid : w.menu.menuId = 0) :
    wp (menuFunctions n .select) (returns (Editing w { w.menu with menuId := 100 })) ω w := by
  apply wp_menuFunctions
  rw [hid]
  show wp (screen000 n .select) _ ω _
  apply wp_restamp.mpr
  simp only [wp_bind, wp_get, wp_when, wp_modifyMenu]
  refine ⟨?_, fun _ => ⟨rfl, rfl, rfl, ⟨_, _, _, rfl⟩⟩⟩
  rintro ⟨hexit, -⟩
  cases hexit

/-! ## The save -/

/-- A table entry with the values of a draft. -/
def Draft.entry (d : Draft) (old : DoorDayAlarm) : DoorDayAlarm :=
  { old with
    delay := 0, hour := d.hour.toUInt8, minute := d.minute.toUInt8, mode := d.mode
    lux := d.lux.toUInt16 }

/-- The table of a direction with a draft on its days. -/
def Draft.table (d : Draft) (dir : Modeset) (t : WeekTable) : WeekTable := fun i =>
  if d.modeset = dir ∧ d.days i = true then d.entry (t i) else t i

/-- The draft is on its days, in RAM and in flash, and everything else is as it was in `w`. -/
structure EntrySaved (d : Draft) (w w' : World) : Prop where
  opening : w'.sched.openingAlarms = d.table .modesetOpening w.sched.openingAlarms
  closing : w'.sched.closingAlarms = d.table .modesetClosing w.sched.closingAlarms
  flashOpening : w'.nvs.get .openAlarms = some w'.sched.openingAlarms
  flashClosing : w'.nvs.get .closeAlarms = some w'.sched.closingAlarms
  marked : w'.nvs.get .initAlarm = some 1

variable {d : Draft}

omit [TimeLib] in
theorem savedOpening_draft (m : Menu) (t : WeekTable) :
    savedOpening m t = (draft m).table .modesetOpening t := by
  funext i
  unfold savedOpening Draft.table draft Draft.entry Menu.hourSet Menu.minuteSet Menu.mode Menu.lux
  cases m.modeset <;> rfl

omit [TimeLib] in
theorem savedClosing_draft (m : Menu) (t : WeekTable) :
    savedClosing m t = (draft m).table .modesetClosing t := by
  funext i
  unfold savedClosing Draft.table draft Draft.entry Menu.hourSet Menu.minuteSet Menu.mode Menu.lux
  cases m.modeset <;> rfl

omit [TimeLib] in
/-- The save of a draft. -/
theorem EntrySaved.of_saved (hd : draft w₁.menu = d)
    (hopening : w₁.sched.openingAlarms = w.sched.openingAlarms)
    (hclosing : w₁.sched.closingAlarms = w.sched.closingAlarms) : EntrySaved d w (saved w₁) where
  opening := by
    rw [← hd, ← hopening]
    exact savedOpening_draft _ _
  closing := by
    rw [← hd, ← hclosing]
    exact savedClosing_draft _ _
  flashOpening := savedTables_opening _ _ _
  flashClosing := savedTables_closing _ _ _
  marked := savedTables_initAlarm _ _ _

/-- The status check after the save leaves the tables alone. -/
theorem EntrySaved.work : WorkClosed ω (EntrySaved d w) := by
  intro w₁ w₂ hwork h
  have ha := hwork.aside
  constructor
  · exact ha.opening.trans h.opening
  · exact ha.closing.trans h.closing
  · rw [ha.nvs _ rfl, ha.opening]
    exact h.flashOpening
  · rw [ha.nvs _ rfl, ha.closing]
    exact h.flashClosing
  · exact (ha.nvs _ rfl).trans h.marked

/-- After the save, on the start screen or on the one that reports an error. -/
structure Entered (d : Draft) (w w' : World) : Prop extends EntrySaved d w w' where
  screen : w'.menu.menuId = 0 ∨ w'.menu.menuId = 2

/-- A status check leads nowhere but to the error screen. -/
theorem Entered.work : WorkClosed ω (Entered d w) := by
  intro w₁ w₂ hwork h
  refine { EntrySaved.work w₁ w₂ hwork h.toEntrySaved with screen := ?_ }
  rcases hwork.menuId with hkept | herror
  · rw [hkept]
    exact h.screen
  · exact .inr herror

omit [TimeLib] in
theorem Entered.between (h : Entered d w w₁) {w₂ : World} (hb : Between w₁ w₂) : Entered d w w₂ where
  opening := hb.opening.trans h.opening
  closing := hb.closing.trans h.closing
  flashOpening := by
    rw [hb.nvs _ rfl, hb.opening]
    exact h.flashOpening
  flashClosing := by
    rw [hb.nvs _ rfl, hb.closing]
    exact h.flashClosing
  marked := (hb.nvs _ rfl).trans h.marked
  screen := by
    rw [hb.menu.menuId]
    exact h.screen

/-- Refreshes of the start screen and of the error screen save nothing. -/
theorem Entered.refresh (h : Entered d w w₁) :
    wp (menuFunctions n .nothing) (returns (Entered d w)) ω w₁ := by
  apply wp_menuFunctions
  rcases h.screen with hid | hid
  · rw [hid]
    show wp (screen000 n .nothing) _ ω _
    apply wp_restamp.mpr
    simp only [wp_bind, wp_get, wp_when, wp_modifyMenu]
    refine ⟨?_, fun _ => { h with screen := .inl rfl }⟩
    rintro ⟨hexit, -⟩
    cases hexit
  · rw [hid]
    show wp (screen002 .nothing) _ ω _
    simp only [screen002, wp_bind, wp_when, wp_modifyMenu, wp_get, wp_digitalWrite_led]
    exact ⟨fun hne => absurd rfl hne, fun _ => { h with screen := .inl rfl }⟩

theorem Entered.redrawn (h : Entered d w w₁) (k : Nat) : Redrawn ω n (Entered d w) k w₁ :=
  .of_keeps (fun _ _ h₁ hb => h₁.between hb) (fun _ h₁ => h₁.refresh) h k

/-- Screen 900 saves the draft of the menu. -/
theorem screen900_saves (hn : 3 ≤ n) (hnox : w₁.sched.fInitNox ≠ 0) (ha : w₁.menu.menuActive = true)
    (hd : draft w₁.menu = d) (hopening : w₁.sched.openingAlarms = w.sched.openingAlarms)
    (hclosing : w₁.sched.closingAlarms = w.sched.closingAlarms) :
    wp (screen900 n) (returns (Entered d w)) ω w₁ := by
  simp only [screen900, wp_bind, wp_modifyMenu, wp_get]
  rw [if_neg hnox]
  simp only [wp_bind, wp_saveAlarmValues]
  have hsaved : Entered d w (saved { w₁ with menu := { w₁.menu with menuId := 0 } }) :=
    { EntrySaved.of_saved hd hopening hclosing with screen := .inl rfl }
  have hrests := statusabfrage_rests (ω := ω)
    (w := saved { w₁ with menu := { w₁.menu with menuId := 0 } }) ha n
  have hkept := Entered.work.statusabfrage (ω := ω) n _ hsaved
  refine wp_mono (wp_and hrests hkept) (fun _ _ h => h.2) (fun _ h => h.1) fun _ h => ?_
  have hlt : n < 3 := h.1
  omega

/-- SELECT at the end of the editor, and the refreshes of which the first one saves. -/
theorem save_typed (hn : 3 ≤ n) (hnox : w.sched.fInitNox ≠ 0) (ha : m.menuActive = true)
    (hsave : Saves d m) (h : Editing w m w₁) : Typed ω n (Entered d w) [.select] w₁ := by
  intro w₂ hb
  obtain ⟨f, hf, hid, hd⟩ := hsave
  have hs : m.menuId = 700 → BtnAction.select ≠ .select := by
    intro h700
    rw [h700] at hf
    cases hf
    cases hid
  apply wp_of_returns (menuFunctions_edits (h.between hb) hf hs)
  intro _ w₃ h₃ k w₄ hb₄
  have h₄ := h₃.between hb₄
  have hsave : wp (menuFunctions n .nothing) (returns (Entered d w)) ω w₄ := by
    apply wp_menuFunctions
    rw [h₄.menu.menuId, hid]
    apply screen900_saves hn
    · show w₄.sched.fInitNox ≠ 0
      rw [h₄.nox]
      exact hnox
    · show w₄.menu.menuActive = true
      rw [h₄.menu.active]
      exact (editScreen_edits hf .select m).active.trans ha
    · exact h₄.menu.draft.trans hd
    · exact h₄.opening
    · exact h₄.closing
  exact wp_of_returns hsave fun _ _ h₅ => h₅.redrawn k

omit [TimeLib] in
/-- The editor does not switch the menu off. -/
theorem editSteps_active (h : ReflTransGen EditStep m m') (ha : m.menuActive = true) :
    m'.menuActive = true := by
  induction h with
  | refl => exact ha
  | tail _ hstep ih =>
    obtain ⟨-, action, f, -, hf, rfl⟩ := hstep
    exact (editScreen_edits hf action _).active.trans ih

/-- From the start screen of a configured device some buttons lead every draft to flash, whatever was
    edited before and however often the display is refreshed in between. -/
theorem entry_enterable (hnox : w.sched.fInitNox ≠ 0) (ha : w.menu.menuActive = true)
    (hid : w.menu.menuId = 0) (hmode : ValidMode d.mode) (hlux : d.lux ≤ maxLux)
    (hhour : HourOk d.hour) (hminute : MinuteOk d.minute) :
    ∃ actions, ∀ (ω : Env) (n : Nat), 3 ≤ n → Typed ω n (Entered d w) actions w := by
  obtain ⟨m, hway, hsave⟩ := editor_complete (m := { w.menu with menuId := 100 }) rfl hmode hlux
    hhour hminute
  obtain ⟨actions, hactions⟩ := editSteps_typed hway
  refine ⟨.select :: (actions ++ [.select]), fun ω n hn w₁ hb => ?_⟩
  have hid₁ : w₁.menu.menuId = 0 := hb.menu.menuId.trans hid
  apply wp_of_returns (start_edits hid₁)
  intro _ w₂ h₂ k
  -- the way was found for the menu of `w`, which differs in what the display shows
  have h₂' : Editing w { w.menu with menuId := 100 } w₂ := by
    constructor
    · exact h₂.opening.trans hb.opening
    · exact h₂.closing.trans hb.closing
    · exact h₂.nox.trans hb.nox
    · exact (hb.menu.goTo 100).trans h₂.menu
  refine (h₂'.redrawn rfl (k + 1)).mono fun w₃ h₃ => ?_
  refine hactions ω n w w₃ h₃ _ _ fun w₄ h₄ => ?_
  exact save_typed hn hnox (editSteps_active hway ha) hsave h₄

end Device

/-- Closing at 23:59 on Monday and Wednesday, by light and time. -/
def lateDraft : Draft where
  modeset := .modesetClosing
  days := fun i => i = 0 || i = 2
  mode := 2
  lux := 9
  hour := 23
  minute := 59

theorem entry_enterable_lateDraft :
    ∃ actions, ∀ (ω : Env) (n : Nat), 3 ≤ n →
      Typed ω n (Entered lateDraft startWorld) actions startWorld := by
  have hhour : HourOk lateDraft.hour := ⟨by decide, by decide⟩
  have hminute : MinuteOk lateDraft.minute := ⟨by decide, by decide⟩
  exact entry_enterable (by decide) rfl rfl (by decide) (by decide) hhour hminute

end Eggvault.Spec
