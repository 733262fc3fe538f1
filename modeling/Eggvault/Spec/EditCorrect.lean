import Eggvault.ForStd.MachineInt
import Eggvault.Spec.LightCorrect
import Eggvault.Spec.RoundTripCorrect

/-!
# The weekly tables

The menu edits one set of values for each direction, `saveAlarmValues` copies them into the
selected days of a table, and a boot reads the tables back.  `MenuStep` says what one action
can do about the edited values and the tables: nothing, an edit, or a save.

## Key results

- `Act.menuStep`: every action is one of these
- `saved_values_in_range`: what is saved is in range unless the light level wraps below 0
- `tables_as_saved`: every entry is what was saved last for it
-/

namespace Eggvault.Spec

open Eggvault.Native Prog Trace TimeLib

/-! ## Actions that touch neither the edited values nor the tables -/

/-- What the screens 110, 800, 810 and 820 edit. -/
structure EditValues where
  modeset : Modeset
  dayBitmask : UInt8
  modeO : UInt8
  modeC : UInt8
  luxO : UInt8
  luxC : UInt8
  hourO : Int8
  hourC : Int8
  minuteO : Int8
  minuteC : Int8

def editValues (m : Menu) : EditValues :=
  { modeset := m.modeset, dayBitmask := m.dayBitmask, modeO := m.modeO, modeC := m.modeC
    luxO := m.luxO, luxC := m.luxC, hourO := m.hourO, hourC := m.hourC, minuteO := m.minuteO
    minuteC := m.minuteC }

/-- The keys of the tables. -/
def isTableKey : NvsKey → Bool
  | .openAlarms | .closeAlarms | .initAlarm => true
  | _ => false

/-- The event is neither the call of a screen nor a save. -/
def isOffMenu : Event → Bool
  | .call (.menuFunctions _) _ | .call .saveAlarmValues _ => false
  | _ => true

/-- From `w` to `w'` neither the edited values nor the tables have changed. -/
structure Unsaved (w w' : World) : Prop where
  opening : w'.sched.openingAlarms = w.sched.openingAlarms
  closing : w'.sched.closingAlarms = w.sched.closingAlarms
  nvs : ∀ k, isTableKey k = true → w'.nvs.get k = w.nvs.get k
  edits : editValues w'.menu = editValues w.menu
  trace : Extends isOffMenu w.trace w'.trace

namespace Unsaved

variable {w₀ w w' : World}

theorem refl (w : World) : Unsaved w w where
  opening := rfl
  closing := rfl
  nvs := fun _ _ => rfl
  edits := rfl
  trace := .refl _

theorem emit (h : Unsaved w₀ w) {e : Event} (he : isOffMenu e = true) :
    Unsaved w₀ { w with trace := e :: w.trace } :=
  { h with trace := h.trace.cons he }

theorem observe (h : Unsaved w₀ w) (s : Sample) : Unsaved w₀ (w.observe s) :=
  { h with trace := extends_observe h.trace (fun _ => rfl) s }

theorem put (h : Unsaved w₀ w) {k : NvsKey} (v : k.Value) (hk : isTableKey k = false) :
    Unsaved w₀ { w with nvs := w.nvs.put k v } := by
  refine { h with nvs := fun k' hk' => ?_ }
  have hne : k' ≠ k := by
    intro heq
    rw [heq, hk] at hk'
    cases hk'
  rw [nvs_get_put_of_ne _ _ hne]
  exact h.nvs k' hk'

theorem updated (h : Unsaved w₀ w) (s : Sample) : Unsaved w₀ (updated w s) :=
  { (h.emit (e := .call .updateTime w.moment) rfl).observe s with }

theorem clockKept (w₀ : World) : ClockKept (Unsaved w₀) where
  updated := fun _ s _ h => { h.updated s with }
  clk := fun _ _ h => { h with }
  setTime := by
    intro w e he h
    apply h.emit
    cases e <;> first | rfl | cases he
  menu := fun _ _ _ _ h => { h with }

end Unsaved

/-- A status check or a move saves nothing. -/
theorem Aside.unsaved {w w' : World} (h : Aside w w') : Unsaved w w' where
  opening := h.opening
  closing := h.closing
  nvs := by
    intro k hk
    apply h.nvs
    cases k <;> first | rfl | cases hk
  edits := by
    obtain ⟨active, id, hmenu⟩ := h.menu
    rw [hmenu]
    rfl
  trace := by
    refine h.trace.mono fun e he => ?_
    cases e with
    | call f m => cases f <;> first | rfl | cases he
    | _ => rfl

/-! ## Menu steps -/

section Steps

variable [TimeLib] {ω : Env} {w w' : World}

/-- What an action can do about the edited values and the tables. -/
inductive MenuStep : World → World → Prop where
  | plain (w w' : World) (h : Unsaved w w') : MenuStep w w'
  /-- A screen that neither edits nor saves. -/
  | screen (w w' : World) (action : BtnAction)
      (hid : w.menu.menuId = 900 → w.sched.fInitNox = 0) (h : Unsaved (entered w action) w') :
      MenuStep w w'
  | edit (w : World) (action : BtnAction) (f : BtnAction → Menu → Menu)
      (hf : editScreen w.menu.menuId = some f) :
      MenuStep w { entered w action with menu := f action w.menu }
  | save (w : World) (action : BtnAction) (hid : w.menu.menuId = 900)
      (hn : w.sched.fInitNox ≠ 0) :
      MenuStep w (saved { entered w action with menu := { w.menu with menuId := 0 } })

theorem WakeAct.unsaved (h : WakeAct ω w w') : Unsaved w w' := by
  cases h with
  | work _ hw => exact hw.aside.unsaved
  | keep => exact { Unsaved.refl w with }
  | dispatch => exact { Unsaved.refl w with }
  | booted => exact ((Unsaved.refl w).emit rfl)
  | alarmMove => exact ((Unsaved.refl w).emit rfl)
  | wrongAlarm =>
    exact { (Unsaved.refl w).emit (e := .raised .wrongAlarmFlag) rfl with }
  | wrongLight => exact { (Unsaved.refl w).emit (e := .raised .wrongLdrFlag) rfl with }
  | measure =>
    have hread := (Unsaved.refl w).observe (ω w.tick)
    exact { hread.emit (e := .lightCheck w.sched.ldrFlag (level ω w) w.sched.nextLux) rfl with }
  | trigger =>
    have hread := (Unsaved.refl w).observe (ω w.tick)
    have hcheck := hread.emit (e := .lightCheck w.sched.ldrFlag (level ω w) w.sched.nextLux) rfl
    exact { hcheck.emit (e := .lightMove w.sched.ldrFlag (w.tick + 1)) rfl with }

/-- Every action is one of the menu steps. -/
theorem Act.menuStep (h : Act ω w w') : MenuStep w w' := by
  have hrefl : ∀ action, Unsaved (entered w action) (entered w action) := fun _ => .refl _
  have hne : ∀ {k : Nat}, w.menu.menuId = k → k ≠ 900 → w.menu.menuId = 900 →
      w.sched.fInitNox = 0 := fun hk hne h900 => absurd (hk.symm.trans h900) hne
  cases h with
  | wake _ hw => exact .plain _ _ hw.unsaved
  | update => exact .plain _ _ ((Unsaved.refl w).emit rfl)
  | goTo => exact .plain _ _ { Unsaved.refl w with }
  | enter action he ha =>
    refine .screen _ _ action (fun h900 => ?_) (hrefl action)
    rw [h900] at ha
    cases ha
  | edit action f hf => exact .edit w action f hf
  | start action hid =>
    exact .screen _ _ action (hne hid (by decide)) { (hrefl action).updated (ω w.tick) with }
  | acknowledge action hid =>
    exact .screen _ _ action (hne hid (by decide))
      { (hrefl action).put (k := .errorFlag) .noError rfl with }
  | redraw hid => exact .screen _ _ .nothing (hne hid (by decide)) { hrefl .nothing with }
  | setTime _ action hid hrun =>
    exact .screen _ _ action (hne hid (by decide))
      (wp_run ((Unsaved.clockKept _).screen300 action ω _ (hrefl action)) hrun)
  | setDate _ action hid hrun =>
    exact .screen _ _ action (hne hid (by decide))
      (wp_run ((Unsaved.clockKept _).screen400 action ω _ (hrefl action)) hrun)
  | initialise action hid hn =>
    -- screen 900 of the first set-up stores no table
    have hput := (hrefl action).put (k := .initNox) 1 rfl
    exact .screen _ _ action (fun _ => hn) { hput.put (k := .errorFlag) .noError rfl with }
  | save action hid hn => exact .save w action hid hn

end Steps

/-! ## Ranges -/

/-- An hour of the day. -/
def HourOk (h : Int8) : Prop := 0 ≤ h.toInt ∧ h.toInt ≤ 23

/-- A minute of the hour. -/
def MinuteOk (m : Int8) : Prop := 0 ≤ m.toInt ∧ m.toInt ≤ 59

/-- All edited values are in range; `minLux` is 0. -/
structure EditOk (m : EditValues) : Prop where
  hourO : HourOk m.hourO
  hourC : HourOk m.hourC
  minuteO : MinuteOk m.minuteO
  minuteC : MinuteOk m.minuteC
  modeO : ValidMode m.modeO
  modeC : ValidMode m.modeC
  luxO : m.luxO ≤ maxLux
  luxC : m.luxC ≤ maxLux

/-- An entry of a table is in range. -/
structure EntryOk (a : DoorDayAlarm) : Prop where
  hour : a.hour ≤ 23
  minute : a.minute ≤ 59
  mode : ValidMode a.mode
  lux : a.lux ≤ maxLux.toUInt16

/-- All entries of a table are in range. -/
def TableOk (t : WeekTable) : Prop := ∀ i, EntryOk (t i)

/-- The tables in flash, if there are any, are in range. -/
structure StoredOk (nvs : Nvs) : Prop where
  opening : ∀ t, nvs.get .openAlarms = some t → TableOk t
  closing : ∀ t, nvs.get .closeAlarms = some t → TableOk t

/-- LEFT is not pressed on screen 810 while the light level is 0. -/
def noWrap : List Event → Bool
  | .call (.menuFunctions .left) m :: _ => m.menu.menuId != 810 || m.menu.lux != 0
  | _ => true

@[inherit_doc noWrap]
def NoWrap (tr : List Event) : Prop := noWrap tr = true

instance (tr : List Event) : Decidable (NoWrap tr) := inferInstanceAs (Decidable (_ = _))

/-- What is being saved is in range. -/
def SavesInRange (tr : List Event) : Prop :=
  ∀ m tl, tr = .call .saveAlarmValues m :: tl → EditOk (editValues m.menu)

/-! ## Edits in range -/

section Edits

variable {m : Menu} {action : BtnAction}

theorem wrapDown_range (top : Int8) {v : Int8} (ht : 0 ≤ top.toInt) (h : 0 ≤ v.toInt ∧ v.toInt ≤ top.toInt) :
    0 ≤ (wrapDown top v).toInt ∧ (wrapDown top v).toInt ≤ top.toInt := by
  obtain ⟨hlo, hhi⟩ := h
  unfold wrapDown
  by_cases hv : v = 0
  · rw [if_pos hv]
    exact ⟨ht, Int.le_refl _⟩
  · have h0 : v.toInt ≠ 0 := fun heq => hv (Int8.toInt_inj.mp heq)
    rw [if_neg hv, Int8.toInt_sub_one (by omega)]
    omega

theorem wrapUp_range (top : Int8) {v : Int8} (ht : 0 ≤ top.toInt ∧ top.toInt < 127)
    (h : 0 ≤ v.toInt ∧ v.toInt ≤ top.toInt) :
    0 ≤ (wrapUp top v).toInt ∧ (wrapUp top v).toInt ≤ top.toInt := by
  obtain ⟨hlo, hhi⟩ := h
  have hnext : (v + 1).toInt = v.toInt + 1 := Int8.toInt_add_one (by omega)
  unfold wrapUp
  by_cases hv : v + 1 > top
  · rw [if_pos hv]
    exact ⟨Int.le_refl _, ht.1⟩
  · rw [if_neg hv, hnext]
    rw [gt_iff_lt, Int8.lt_iff_toInt_lt, hnext] at hv
    omega

theorem HourOk.wrapDown {v : Int8} (h : HourOk v) : HourOk (wrapDown 23 v) :=
  wrapDown_range 23 (by decide) h

theorem HourOk.wrapUp {v : Int8} (h : HourOk v) : HourOk (wrapUp 23 v) :=
  wrapUp_range 23 (by decide) h

theorem MinuteOk.wrapDown {v : Int8} (h : MinuteOk v) : MinuteOk (wrapDown 59 v) :=
  wrapDown_range 59 (by decide) h

theorem MinuteOk.wrapUp {v : Int8} (h : MinuteOk v) : MinuteOk (wrapUp 59 v) :=
  wrapUp_range 59 (by decide) h

namespace EditOk

theorem hourSet (h : EditOk (editValues m)) : HourOk m.hourSet := by
  unfold Menu.hourSet
  split
  · exact h.hourC
  · exact h.hourO

theorem minuteSet (h : EditOk (editValues m)) : MinuteOk m.minuteSet := by
  unfold Menu.minuteSet
  split
  · exact h.minuteC
  · exact h.minuteO

theorem lux (h : EditOk (editValues m)) : m.lux ≤ maxLux := by
  unfold Menu.lux
  split
  · exact h.luxC
  · exact h.luxO

theorem setHourSet (h : EditOk (editValues m)) {v : Int8} (hv : HourOk v) :
    EditOk (editValues (m.setHourSet v)) := by
  unfold Menu.setHourSet
  split
  · exact { h with hourC := hv }
  · exact { h with hourO := hv }

theorem setMinuteSet (h : EditOk (editValues m)) {v : Int8} (hv : MinuteOk v) :
    EditOk (editValues (m.setMinuteSet v)) := by
  unfold Menu.setMinuteSet
  split
  · exact { h with minuteC := hv }
  · exact { h with minuteO := hv }

theorem setLux (h : EditOk (editValues m)) {v : UInt8} (hv : v ≤ maxLux) :
    EditOk (editValues (m.setLux v)) := by
  unfold Menu.setLux
  split
  · exact { h with luxC := hv }
  · exact { h with luxO := hv }

/-- Screen 800 edits a mode and nothing else. -/
theorem screen800 (h : EditOk (editValues m)) : EditOk (editValues (screen800 action m)) := by
  have hedits := edits_screen800 action m
  have hmode : ∀ v, EditOk (editValues (m.setMode v)) ↔
      ValidMode (m.setMode v).modeO ∧ ValidMode (m.setMode v).modeC := by
    intro v
    unfold Menu.setMode
    constructor
    · intro h'
      exact ⟨h'.modeO, h'.modeC⟩
    · rintro ⟨ho, hc⟩
      split
      · next heq =>
        have hv : ValidMode v := by simpa [heq] using hc
        exact { h with modeC := hv }
      · next hne =>
        have hv : ValidMode v := by simpa [hne] using ho
        exact { h with modeO := hv }
  cases action with
  | left => exact (hmode _).mpr ⟨hedits.modeO h.modeO, hedits.modeC h.modeC⟩
  | right => exact (hmode _).mpr ⟨hedits.modeO h.modeO, hedits.modeC h.modeC⟩
  | select =>
    simp only [Native.screen800]
    split <;> exact { h with }
  | exit => exact { h with }
  | nothing => exact { h with }

/-- Screen 810 counts down without a wrap unless the level is 0. -/
theorem screen810 (h : EditOk (editValues m)) (hw : action = .left → m.lux ≠ 0) :
    EditOk (editValues (screen810 action m)) := by
  have hlux : m.lux.toNat ≤ 9 := UInt8.le_iff_toNat_le.mp h.lux
  cases action with
  | left =>
    -- the test of the source never holds, since a byte is never below 0
    have hbyte : ¬ m.lux - 1 < minLux := UInt8.not_lt.mpr (UInt8.zero_le)
    simp only [Native.screen810, if_neg hbyte]
    apply h.setLux
    have hne := hw rfl
    rw [UInt8.le_iff_toNat_le]
    have hpos : m.lux.toNat ≠ 0 := fun heq => hne (UInt8.toNat_inj.mp heq)
    have hone : (1 : UInt8) ≤ m.lux := by
      rw [UInt8.le_iff_toNat_le]
      show 1 ≤ m.lux.toNat
      omega
    rw [UInt8.toNat_sub_of_le _ _ hone]
    show m.lux.toNat - 1 ≤ 9
    omega
  | right =>
    simp only [Native.screen810]
    apply h.setLux
    split
    · decide
    · next hle => exact UInt8.not_lt.mp hle
  | select =>
    simp only [Native.screen810]
    split <;> exact { h with }
  | exit => exact { h with }
  | nothing => exact { h with }

theorem screen820 (h : EditOk (editValues m)) : EditOk (editValues (screen820 action m)) := by
  cases action with
  | left =>
    simp only [Native.screen820]
    split
    · exact { h.setMinuteSet h.minuteSet.wrapDown with }
    · exact { h.setHourSet h.hourSet.wrapDown with }
    · exact { h with }
  | right =>
    simp only [Native.screen820]
    split
    · exact { h.setMinuteSet h.minuteSet.wrapUp with }
    · exact { h.setHourSet h.hourSet.wrapUp with }
    · exact { h with }
    · exact h
  | select =>
    simp only [Native.screen820]
    split <;> exact { h with }
  | exit =>
    simp only [Native.screen820]
    split <;> exact { h with }
  | nothing => exact { h with }

/-- Every edit keeps the values in range, except LEFT on screen 810 at level 0. -/
theorem editScreen (h : EditOk (editValues m)) {k : Nat} {f : BtnAction → Menu → Menu}
    (hf : editScreen k = some f) (hw : action = .left → k = 810 → m.lux ≠ 0) :
    EditOk (editValues (f action m)) := by
  have hhub : ∀ left right select exit stay,
      EditOk (editValues (hub left right select exit stay action m)) := by
    intro left right select exit stay
    cases action <;> exact { h with }
  -- only the screens for mode, light and time change an edited value
  unfold Spec.editScreen at hf
  split at hf
  · cases hf
    exact hhub 300 300 300 300 1
  · cases hf
    cases action <;> exact { h with }
  · cases hf
    cases action <;> try exact { h with }
    simp only [screen110]
    split <;> exact { h with }
  · cases hf
    cases action <;> exact { h with }
  · cases hf
    exact hhub 400 600 510 0 500
  · cases hf
    exact hhub 500 700 610 0 600
  · cases hf
    exact hhub 600 100 710 0 700
  · cases hf
    exact h.screen800
  · cases hf
    exact h.screen810 fun ha => hw ha rfl
  · cases hf
    exact h.screen820
  · cases hf

end EditOk

end Edits

/-! ## Tables in range -/

/-- Everything that a table entry can come from is in range, and so was all that was saved. -/
structure InRange (w : World) : Prop where
  edits : EditOk (editValues w.menu)
  opening : TableOk w.sched.openingAlarms
  closing : TableOk w.sched.closingAlarms
  stored : StoredOk w.nvs
  saves : Historically SavesInRange w.trace

section Tables

variable {m : Menu} {t : WeekTable} {tr : List Event} {w w' : World}

theorem HourOk.toUInt8_le {v : Int8} (h : HourOk v) : v.toUInt8 ≤ 23 :=
  Int8.toUInt8_le (Int8.le_iff_toInt_le.mpr h.1) (b := 23) (Int8.le_iff_toInt_le.mpr h.2)

theorem MinuteOk.toUInt8_le {v : Int8} (h : MinuteOk v) : v.toUInt8 ≤ 59 :=
  Int8.toUInt8_le (Int8.le_iff_toInt_le.mpr h.1) (b := 59) (Int8.le_iff_toInt_le.mpr h.2)

theorem EditOk.savedOpening (h : EditOk (editValues m)) (ht : TableOk t) :
    TableOk (savedOpening m t) := by
  intro i
  unfold Spec.savedOpening
  split
  · exact
      { hour := h.hourO.toUInt8_le
        minute := h.minuteO.toUInt8_le
        mode := h.modeO
        lux := UInt8.toUInt16_le.mpr h.luxO }
  · exact ht i

theorem EditOk.savedClosing (h : EditOk (editValues m)) (ht : TableOk t) :
    TableOk (savedClosing m t) := by
  intro i
  unfold Spec.savedClosing
  split
  · exact
      { hour := h.hourC.toUInt8_le
        minute := h.minuteC.toUInt8_le
        mode := h.modeC
        lux := UInt8.toUInt16_le.mpr h.luxC }
  · exact ht i

theorem StoredOk.savedTables {nvs : Nvs} {o c : WeekTable} (ho : TableOk o) (hc : TableOk c) :
    StoredOk (savedTables nvs o c) where
  opening := by
    intro t ht
    rw [savedTables_opening] at ht
    cases ht
    exact ho
  closing := by
    intro t ht
    rw [savedTables_closing] at ht
    cases ht
    exact hc

/-- A table that a boot reads is in range if the stored one is. -/
theorem TableOk.recalled {nvs : Nvs} {stored : Option WeekTable} {entry : DoorDayAlarm}
    (hs : ∀ t, stored = some t → TableOk t) (he : EntryOk entry) :
    TableOk (recalled nvs stored entry) := by
  unfold Spec.recalled
  split
  · exact fun _ => he
  · cases stored with
    | none =>
      -- nothing is stored: the array keeps its zeros
      intro i
      exact { hour := by simp, minute := by simp, mode := rfl, lux := by simp }
    | some t => exact hs t rfl

theorem entryOk_defaultOpening : EntryOk defaultOpening where
  hour := by decide
  minute := by decide
  mode := by decide
  lux := by decide

theorem entryOk_defaultClosing : EntryOk defaultClosing where
  hour := by decide
  minute := by decide
  mode := by decide
  lux := by decide

/-- An event that is not a save says nothing about ranges. -/
theorem savesInRange_cons {e : Event} (he : ∀ m, e ≠ .call .saveAlarmValues m)
    (h : Historically SavesInRange tr) : Historically SavesInRange (e :: tr) := by
  refine historically_cons.mpr ⟨fun m tl heq => ?_, h⟩
  obtain ⟨hhead, -⟩ := List.cons.inj heq
  exact absurd hhead (he m)

theorem Unsaved.inRange (h : Unsaved w w') (hI : InRange w) : InRange w' where
  edits := by
    rw [h.edits]
    exact hI.edits
  opening := by
    rw [h.opening]
    exact hI.opening
  closing := by
    rw [h.closing]
    exact hI.closing
  stored :=
    { opening := by
        rw [h.nvs .openAlarms rfl]
        exact hI.stored.opening
      closing := by
        rw [h.nvs .closeAlarms rfl]
        exact hI.stored.closing }
  saves := by
    refine h.trace.keeps (fun e tr he htr => savesInRange_cons (fun m heq => ?_) htr) hI.saves
    rw [heq] at he
    cases he

/-- The call of a screen changes nothing by itself. -/
theorem InRange.entered (hI : InRange w) (action : BtnAction) : InRange (entered w action) :=
  { hI with saves := savesInRange_cons (by simp) hI.saves }

/-- The call of a screen is a moment of the trace. -/
theorem noWrap_entered {action : BtnAction} (h : Historically NoWrap (entered w action).trace) :
    action = .left → w.menu.menuId = 810 → w.menu.lux ≠ 0 := by
  intro ha hid
  have hmoment := (historically_cons.mp h).1
  subst ha
  simpa [NoWrap, noWrap, World.moment, hid] using hmoment

/-- Every menu step keeps everything in range, as long as no light level wraps. -/
theorem MenuStep.inRange (h : MenuStep w w') (hC : Historically NoWrap w'.trace)
    (hI : InRange w) : InRange w' := by
  cases h with
  | plain _ h => exact h.inRange hI
  | screen _ action _ h => exact h.inRange (hI.entered action)
  | edit action f hf =>
    exact { hI.entered action with edits := hI.edits.editScreen hf (noWrap_entered hC) }
  | save action hid hn =>
    have hopening := hI.edits.savedOpening hI.opening
    have hclosing := hI.edits.savedClosing hI.closing
    exact
      { edits := hI.edits
        opening := hopening
        closing := hclosing
        stored := .savedTables hopening hclosing
        saves := by
          refine historically_cons.mpr ⟨fun m tl heq => ?_, (hI.entered action).saves⟩
          obtain ⟨hhead, -⟩ := List.cons.inj heq
          cases hhead
          exact hI.edits }

end Tables

section Runs

variable [TimeLib] {ω : Env} {w₀ w w' : World}

/-- A reset reads tables back that are in range, and the edited values start over. -/
theorem Rebooted.inRange (h : Rebooted ω w₀ w) (hs : StoredOk w₀.nvs)
    (hsaves : Historically SavesInRange w₀.trace) : InRange w := by
  have hopening : TableOk w.sched.openingAlarms := by
    rw [h.openingAlarms]
    exact .recalled hs.opening entryOk_defaultOpening
  have hclosing : TableOk w.sched.closingAlarms := by
    rw [h.closingAlarms]
    exact .recalled hs.closing entryOk_defaultClosing
  refine
    { edits := ?_
      opening := hopening
      closing := hclosing
      stored := ?_
      saves := h.keeps (fun e tr he htr => ?_) (fun m tr _ htr => ?_) hsaves }
  · rw [h.menu]
    constructor <;> simp [editValues, HourOk, MinuteOk, ValidMode, OpeningMode.ofByte]
  · -- the flash holds the defaults or what it held before
    rw [h.flash]
    split
    · constructor
      · intro t ht
        rw [nvs_get_put_of_ne _ _ (by decide), nvs_get_put_self _ _ (by decide)] at ht
        cases ht
        exact hopening
      · intro t ht
        rw [nvs_get_put_self _ _ (by decide)] at ht
        cases ht
        exact hclosing
    · exact hs
  · apply savesInRange_cons _ htr
    intro m heq
    rw [heq] at he
    cases he
  · exact savesInRange_cons (by simp) htr

theorem inRange_invariant (hs : StoredOk w₀.nvs) : Invariant ω w₀ NoWrap InRange where
  act := fun _ _ ha hC hI => ha.menuStep.inRange hC hI
  first := by
    intro w hr _
    refine hr.inRange hs (historically_nil.mpr ?_)
    intro m tl heq
    cases heq
  wake := by
    intro w w' cause hI _ _ hr _
    refine hr.inRange hI.stored ?_
    refine observe_keeps (P := Historically SavesInRange) (fun t h => ?_) hI.saves
    exact savesInRange_cons (by simp) h

end Runs

/-- In every run from a flash in range, in which LEFT is never pressed on screen 810 while the
    light level is 0, all values are in range whenever they are saved, and so is every entry
    of both tables. -/
theorem saved_values_in_range [TimeLib] {ω : Env} {w₀ w : World} {p : Phase}
    (hr : Run ω w₀ (p, w)) (hs : StoredOk w₀.nvs) (hC : Historically NoWrap w.trace) :
    Historically SavesInRange w.trace ∧ TableOk w.sched.openingAlarms ∧
      TableOk w.sched.closingAlarms := by
  have hI : InRange w := by
    refine (inRange_invariant hs).run ?_ hr hC
    intro w w' hI hr _
    exact hr.inRange hI.stored hI.saves
  exact ⟨hI.saves, hI.opening, hI.closing⟩

/-- The buttons are down at these readings; everything else is as in `ω`. -/
def pressing (keys : List (Nat × BtnAction)) (ω : Env) : Env := fun n =>
  let pressed (a : BtnAction) : Bool := keys.lookup n == some a
  { ω n with
    swSelect := pressed .select, swExit := pressed .exit
    swBack := pressed .left, swFwd := pressed .right }

/-- From screen 000 to the light level of the opening mode LICHT, with Sunday selected. -/
def keysToLux : List (Nat × BtnAction) :=
  [(15, .select), (29, .select), (42, .select), (57, .left), (70, .select), (85, .left),
    (100, .left), (113, .select)]

/-- The door is down, and the readings are a second apart. -/
def secondsEnv : Env := fun n => { millis := UInt32.ofNat n * 1000 }

/-- The level is raised to 1 and saved. -/
def raisedEnv : Env := pressing (keysToLux ++ [(129, .right), (142, .select)]) secondsEnv

/-- The level is lowered once and saved. -/
def loweredEnv : Env := pressing (keysToLux ++ [(128, .left), (141, .select)]) secondsEnv

def raisedSaved : Reached raisedEnv { nvs := readyNvs } .awake :=
  Reached.loops (.powerOn 12 (by decide +kernel)) 12 11 (by decide +kernel)

def loweredSaved : Reached loweredEnv { nvs := readyNvs } .awake :=
  Reached.loops (.powerOn 12 (by decide +kernel)) 12 11 (by decide +kernel)

/-- Nothing but the mark of the first set-up is stored. -/
theorem storedOk_readyNvs : StoredOk readyNvs where
  opening := by intro t ht; cases ht
  closing := by intro t ht; cases ht

theorem saved_values_in_range_raisedSaved :
    (raisedSaved.world.sched.openingAlarms 0).lux = 1 ∧
      Historically SavesInRange raisedSaved.world.trace ∧
      TableOk raisedSaved.world.sched.openingAlarms ∧
      TableOk raisedSaved.world.sched.closingAlarms :=
  ⟨by decide +kernel,
    saved_values_in_range raisedSaved.run storedOk_readyNvs (by decide +kernel)⟩

/-- The level 0 is lowered to 255, which is saved. -/
theorem lux_out_of_range :
    ¬ ∀ (ω : Env) (w₀ w : World) (p : Phase), Run ω w₀ (p, w) → StoredOk w₀.nvs →
      Historically SavesInRange w.trace ∧ TableOk w.sched.openingAlarms ∧
        TableOk w.sched.closingAlarms := by
  intro h
  obtain ⟨-, hopening, -⟩ := h _ _ _ _ loweredSaved.run storedOk_readyNvs
  have hlux : (loweredSaved.world.sched.openingAlarms 0).lux = 255 := by decide +kernel
  have hle := (hopening 0).lux
  rw [hlux] at hle
  exact absurd hle (by decide)

/-! ## Entries as they were saved -/

/-- The menu at the last save that wrote day `i` of a direction: the newest processing of screen
    900 after the first set-up with this direction being set and the day selected. -/
def lastSaved (dir : Modeset) (i : Fin 7) (tr : List Event) : Option Menu :=
  tr.findSome? fun
    | .call (.menuFunctions _) m =>
      if m.menu.menuId = 900 ∧ m.fInitNox ≠ 0 ∧ m.menu.modeset = dir ∧ selected m.menu i = true
      then some m.menu else none
    | _ => none

/-- The opening entry that was last saved, or the one that the first power-on has read. -/
def expectedOpening (nvs : Nvs) (tr : List Event) : WeekTable := fun i =>
  let entry := recalled nvs (nvs.get .openAlarms) defaultOpening i
  match lastSaved .modesetOpening i tr with
  | none => entry
  | some m =>
    { entry with
      delay := 0, hour := m.hourO.toUInt8, minute := m.minuteO.toUInt8, mode := m.modeO
      lux := m.luxO.toUInt16 }

/-- The closing entry that was last saved, or the one that the first power-on has read. -/
def expectedClosing (nvs : Nvs) (tr : List Event) : WeekTable := fun i =>
  let entry := recalled nvs (nvs.get .closeAlarms) defaultClosing i
  match lastSaved .modesetClosing i tr with
  | none => entry
  | some m =>
    { entry with
      delay := 0, hour := m.hourC.toUInt8, minute := m.minuteC.toUInt8, mode := m.modeC
      lux := m.luxC.toUInt16 }

/-- Both tables are there if the flash is marked as holding them. -/
def WholeTables (nvs : Nvs) : Prop :=
  (nvs.get .initAlarm).getD 0 = 0 ∨
    (nvs.get .openAlarms).isSome = true ∧ (nvs.get .closeAlarms).isSome = true

/-- The tables are what was saved, in RAM and in flash. -/
structure AsSaved (nvs₀ : Nvs) (w : World) : Prop where
  opening : w.sched.openingAlarms = expectedOpening nvs₀ w.trace
  closing : w.sched.closingAlarms = expectedClosing nvs₀ w.trace
  flashOpening : w.nvs.get .openAlarms = some w.sched.openingAlarms
  flashClosing : w.nvs.get .closeAlarms = some w.sched.closingAlarms
  /-- Before the first save a boot puts the default tables back. -/
  unmarked : (w.nvs.get .initAlarm).getD 0 = 0 →
    w.sched.openingAlarms = (fun _ => defaultOpening) ∧
      w.sched.closingAlarms = fun _ => defaultClosing

section AsSaved

variable {nvs₀ : Nvs} {w w' : World} {tr : List Event} {dir : Modeset} {i : Fin 7}

/-- Only the call of a screen can be a save. -/
theorem lastSaved_cons {e : Event} (he : isOffMenu e = true) :
    lastSaved dir i (e :: tr) = lastSaved dir i tr := by
  cases e with
  | call f m => cases f <;> first | rfl | cases he
  | _ => rfl

/-- Neither a screen other than 900 nor one before the end of the first set-up saves. -/
theorem lastSaved_entered (h : w.menu.menuId = 900 → w.sched.fInitNox = 0) (action : BtnAction) :
    lastSaved dir i (entered w action).trace = lastSaved dir i w.trace := by
  have hnot : ¬ (w.menu.menuId = 900 ∧ w.sched.fInitNox ≠ 0 ∧ w.menu.modeset = dir ∧
      selected w.menu i = true) := fun hc => hc.2.1 (h hc.1)
  simp [lastSaved, entered, World.called, World.moment, hnot]

/-- Screen 900 saves the selected days of the direction being set. -/
theorem lastSaved_save (hid : w.menu.menuId = 900) (hn : w.sched.fInitNox ≠ 0)
    (action : BtnAction) :
    lastSaved dir i (entered w action).trace =
      if w.menu.modeset = dir ∧ selected w.menu i = true then some w.menu
      else lastSaved dir i w.trace := by
  by_cases h : w.menu.modeset = dir ∧ selected w.menu i = true
  · simp [lastSaved, entered, World.called, World.moment, hid, hn, h]
  · simp [lastSaved, entered, World.called, World.moment, hid, hn, h]

/-- What is expected depends on the saves only. -/
theorem expected_congr (nvs₀ : Nvs) (h : ∀ dir i, lastSaved dir i tr = lastSaved dir i w.trace) :
    expectedOpening nvs₀ tr = expectedOpening nvs₀ w.trace ∧
      expectedClosing nvs₀ tr = expectedClosing nvs₀ w.trace := by
  constructor
  · funext i
    simp only [expectedOpening, h]
  · funext i
    simp only [expectedClosing, h]

/-- Nothing has changed, and nothing was saved. -/
theorem AsSaved.of_unsaved (hI : AsSaved nvs₀ w) (h : Unsaved w w') : AsSaved nvs₀ w' := by
  have hsaved : ∀ dir i, lastSaved dir i w'.trace = lastSaved dir i w.trace := fun dir i =>
    h.trace.keeps (P := fun tr => lastSaved dir i tr = lastSaved dir i w.trace)
      (fun _ _ he htr => (lastSaved_cons he).trans htr) rfl
  obtain ⟨hopening, hclosing⟩ := expected_congr nvs₀ hsaved
  constructor
  · rw [h.opening, hopening]
    exact hI.opening
  · rw [h.closing, hclosing]
    exact hI.closing
  · rw [h.nvs _ rfl, h.opening]
    exact hI.flashOpening
  · rw [h.nvs _ rfl, h.closing]
    exact hI.flashClosing
  · rw [h.nvs _ rfl, h.opening, h.closing]
    exact hI.unmarked

/-- The call of a screen that saves nothing. -/
theorem AsSaved.of_entered (hI : AsSaved nvs₀ w) (h : w.menu.menuId = 900 → w.sched.fInitNox = 0)
    (action : BtnAction) : AsSaved nvs₀ (entered w action) := by
  obtain ⟨hopening, hclosing⟩ :=
    expected_congr nvs₀ (w := w) fun _ _ => lastSaved_entered h action
  exact
    { hI with
      opening := hI.opening.trans hopening.symm
      closing := hI.closing.trans hclosing.symm }

/-- A save writes the entries that it is expected to write. -/
theorem AsSaved.of_save (hI : AsSaved nvs₀ w) (hid : w.menu.menuId = 900)
    (hn : w.sched.fInitNox ≠ 0) (action : BtnAction) :
    AsSaved nvs₀ (saved { entered w action with menu := { w.menu with menuId := 0 } }) where
  opening := by
    funext i
    show savedOpening w.menu w.sched.openingAlarms i =
      expectedOpening nvs₀ (entered w action).trace i
    rw [hI.opening]
    simp only [expectedOpening, lastSaved_save hid hn, savedOpening]
    by_cases h : w.menu.modeset = .modesetOpening ∧ selected w.menu i = true
    · rw [if_pos h, if_pos h]
      -- the delay and the mark that an entry keeps are those of the first table
      cases lastSaved .modesetOpening i w.trace <;> rfl
    · rw [if_neg h, if_neg h]
  closing := by
    funext i
    show savedClosing w.menu w.sched.closingAlarms i =
      expectedClosing nvs₀ (entered w action).trace i
    rw [hI.closing]
    simp only [expectedClosing, lastSaved_save hid hn, savedClosing]
    by_cases h : w.menu.modeset = .modesetClosing ∧ selected w.menu i = true
    · rw [if_pos h, if_pos h]
      cases lastSaved .modesetClosing i w.trace <;> rfl
    · rw [if_neg h, if_neg h]
  flashOpening := savedTables_opening _ _ _
  flashClosing := savedTables_closing _ _ _
  unmarked := by
    intro h
    have hmark : ((saved { entered w action with menu := { w.menu with menuId := 0 } }).nvs.get
        .initAlarm).getD 0 = 1 :=
      congrArg (fun o => o.getD 0) (savedTables_initAlarm w.nvs _ _)
    rw [hmark] at h
    cases h

/-- An edit is neither a save nor screen 900. -/
theorem editScreen_ne_900 {k : Nat} {f : BtnAction → Menu → Menu} (hf : editScreen k = some f) :
    k ≠ 900 := by
  intro h
  rw [h] at hf
  cases hf

theorem MenuStep.asSaved (h : MenuStep w w') (hI : AsSaved nvs₀ w) : AsSaved nvs₀ w' := by
  cases h with
  | plain _ h => exact hI.of_unsaved h
  | screen _ action hid h => exact (hI.of_entered hid action).of_unsaved h
  | edit action f hf =>
    have hid : w.menu.menuId = 900 → w.sched.fInitNox = 0 :=
      fun h => absurd h (editScreen_ne_900 hf)
    exact { hI.of_entered hid action with }
  | save action hid hn => exact hI.of_save hid hn action

variable [TimeLib] {ω : Env} {w₀ : World}

/-- A reset saves nothing. -/
theorem Rebooted.lastSaved (h : Rebooted ω w₀ w) :
    lastSaved dir i w.trace = lastSaved dir i w₀.trace := by
  refine h.keeps (P := fun tr => Spec.lastSaved dir i tr = Spec.lastSaved dir i w₀.trace)
    (fun e tr he htr => ?_) (fun m tr _ htr => htr) rfl
  cases e with
  | alarmFired t => exact htr
  | _ => cases he

/-- The default tables are stored as they are read, and stored tables are left alone. -/
theorem Rebooted.flashTables (h : Rebooted ω w₀ w) (hw : WholeTables w₀.nvs) :
    w.nvs.get .openAlarms = some w.sched.openingAlarms ∧
      w.nvs.get .closeAlarms = some w.sched.closingAlarms := by
  rw [h.flash]
  by_cases hmark : (w₀.nvs.get .initAlarm).getD 0 = 0
  · rw [if_pos hmark]
    constructor
    · rw [nvs_get_put_of_ne _ _ (by decide), nvs_get_put_self _ _ (by decide)]
    · rw [nvs_get_put_self _ _ (by decide)]
  · rw [if_neg hmark, h.openingAlarms, h.closingAlarms]
    obtain hunmarked | ⟨hopening, hclosing⟩ := hw
    · exact absurd hunmarked hmark
    · obtain ⟨o, ho⟩ := Option.isSome_iff_exists.mp hopening
      obtain ⟨c, hc⟩ := Option.isSome_iff_exists.mp hclosing
      simp only [recalled, if_neg hmark, ho, hc, Option.getD_some, and_self]

/-- The mark of the tables survives a reset. -/
theorem Rebooted.initAlarm (h : Rebooted ω w₀ w) : w.nvs.get .initAlarm = w₀.nvs.get .initAlarm := by
  rw [h.flash]
  split
  · rw [nvs_get_put_of_ne _ _ (by decide), nvs_get_put_of_ne _ _ (by decide)]
  · rfl

/-- The first power-on finds the tables that everything else is measured against. -/
theorem Rebooted.asSaved_first (h : Rebooted ω w₀.firstPowerUp w) (hw : WholeTables w₀.nvs) :
    AsSaved w₀.nvs w := by
  have hnone : ∀ dir i, Spec.lastSaved dir i w.trace = none := fun dir i => h.lastSaved
  obtain ⟨hopening, hclosing⟩ := h.flashTables hw
  refine
    { opening := ?_
      closing := ?_
      flashOpening := hopening
      flashClosing := hclosing
      unmarked := ?_ }
  · funext i
    rw [h.openingAlarms]
    simp only [expectedOpening, hnone]
    rfl
  · funext i
    rw [h.closingAlarms]
    simp only [expectedClosing, hnone]
    rfl
  · intro hmark
    rw [h.initAlarm] at hmark
    rw [h.openingAlarms, h.closingAlarms]
    exact ⟨if_pos hmark, if_pos hmark⟩

/-- A reset puts back the tables that were there. -/
theorem Rebooted.asSaved {w₁ : World} (h : Rebooted ω w₁ w') (hI : AsSaved nvs₀ w)
    (hnvs : w₁.nvs = w.nvs)
    (htr : ∀ dir i, Spec.lastSaved dir i w₁.trace = Spec.lastSaved dir i w.trace) :
    AsSaved nvs₀ w' := by
  have hwhole : WholeTables w₁.nvs := by
    right
    rw [hnvs, hI.flashOpening, hI.flashClosing]
    exact ⟨rfl, rfl⟩
  -- a boot recalls the tables that the device had before
  have htables : w'.sched.openingAlarms = w.sched.openingAlarms ∧
      w'.sched.closingAlarms = w.sched.closingAlarms := by
    rw [h.openingAlarms, h.closingAlarms, hnvs, hI.flashOpening, hI.flashClosing]
    by_cases hmark : (w.nvs.get .initAlarm).getD 0 = 0
    · obtain ⟨hopening, hclosing⟩ := hI.unmarked hmark
      simp only [recalled, if_pos hmark, hopening, hclosing, and_self]
    · simp only [recalled, if_neg hmark, Option.getD_some, and_self]
  have hsaved : ∀ dir i, Spec.lastSaved dir i w'.trace = Spec.lastSaved dir i w.trace :=
    fun dir i => h.lastSaved.trans (htr dir i)
  obtain ⟨hopening, hclosing⟩ := expected_congr nvs₀ hsaved
  obtain ⟨hflashO, hflashC⟩ := h.flashTables hwhole
  refine
    { opening := ?_
      closing := ?_
      flashOpening := hflashO
      flashClosing := hflashC
      unmarked := ?_ }
  · rw [htables.1, hopening]
    exact hI.opening
  · rw [htables.2, hclosing]
    exact hI.closing
  · rw [h.initAlarm, hnvs, htables.1, htables.2]
    exact hI.unmarked

omit [TimeLib] in
theorem lastSaved_observe (w : World) (s : Sample) :
    Spec.lastSaved dir i (w.observe s).trace = Spec.lastSaved dir i w.trace :=
  observe_keeps (P := fun tr => Spec.lastSaved dir i tr = Spec.lastSaved dir i w.trace)
    (fun _ h => h) rfl

end AsSaved

/-- In every run, with wake-ups, errors and losses of power even in the middle of a call, both
    tables are what was last saved for each day, or what the first power-on has found where
    nothing was saved, and flash holds the same tables. -/
theorem tables_as_saved [TimeLib] {ω : Env} {w₀ w : World} {p : Phase}
    (hr : LossyRun ω w₀ (p, w)) (hw : WholeTables w₀.nvs) :
    w.sched.openingAlarms = expectedOpening w₀.nvs w.trace ∧
      w.sched.closingAlarms = expectedClosing w₀.nvs w.trace ∧
      w.nvs.get .openAlarms = some w.sched.openingAlarms ∧
      w.nvs.get .closeAlarms = some w.sched.closingAlarms := by
  have hI : AsSaved w₀.nvs w := by
    refine LossyRun.invariant hr (fun _ _ ha => ha.menuStep.asSaved) ?_ ?_ ?_
    · exact fun w hr => hr.asSaved_first hw
    · exact fun w w' cause hI hr => hr.asSaved hI rfl fun _ _ => lastSaved_observe w _
    · exact fun w w' hI hr => hr.asSaved hI rfl fun _ _ => rfl
  exact ⟨hI.opening, hI.closing, hI.flashOpening, hI.flashClosing⟩

theorem tables_as_saved_raisedSaved :
    (lastSaved .modesetOpening 0 raisedSaved.world.trace).isSome = true ∧
      raisedSaved.world.sched.openingAlarms =
        expectedOpening readyNvs raisedSaved.world.trace ∧
      raisedSaved.world.sched.closingAlarms =
        expectedClosing readyNvs raisedSaved.world.trace ∧
      raisedSaved.world.nvs.get .openAlarms = some raisedSaved.world.sched.openingAlarms ∧
      raisedSaved.world.nvs.get .closeAlarms = some raisedSaved.world.sched.closingAlarms := by
  have hwhole : WholeTables ({ nvs := readyNvs } : World).nvs := .inl (by decide)
  have hlossy := raisedSaved.powered.lossy
  have hsaved : (lastSaved .modesetOpening 0 raisedSaved.world.trace).isSome = true := by
    decide +kernel
  have htables := tables_as_saved hlossy hwhole
  exact ⟨hsaved, htables⟩

end Eggvault.Spec
