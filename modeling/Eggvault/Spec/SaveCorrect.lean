import Eggvault.Spec.BootActions
import Eggvault.Spec.EditCorrect

/-!
# Saves and losses of power

`saveAlarmValues` stores three items one after the other, so power may be lost with some of them in
flash and the others not.  What the next boot finds is still either what was there before the save
or what the save was to store: a save changes the table of one direction only, the other one is
stored as it was, and before the first save the mark, which comes last, decides alone.

## Key results

- `recalled_cutSave`: what a boot finds after a save that was cut off
- `CutRun.coherent`: RAM and flash agree in every run in which saves are cut off
- `save_atomic`: a save is undone or done as a whole
-/

namespace Eggvault.Spec

open Eggvault.Native Prog Trace TimeLib

/-! ## Saves that are cut off -/

/-- The stores that `saveAlarmValues` makes for the edits `m`, in their order. -/
def saveStores (m : Menu) (w : World) : List ((k : NvsKey) × k.Value) :=
  [⟨.openAlarms, savedOpening m w.sched.openingAlarms⟩,
    ⟨.closeAlarms, savedClosing m w.sched.closingAlarms⟩, ⟨.initAlarm, 1⟩]

/-- The flash after the first `j` stores of a save of the edits `m`. -/
def cutSave (m : Menu) (w : World) (j : Nat) : Nvs :=
  ((saveStores m w).take j).foldl (fun nvs s => nvs.put s.1 s.2) w.nvs

theorem cutSave_zero (m : Menu) (w : World) : cutSave m w 0 = w.nvs := rfl

theorem cutSave_one (m : Menu) (w : World) :
    cutSave m w 1 = w.nvs.put .openAlarms (savedOpening m w.sched.openingAlarms) := by
  simp only [cutSave, saveStores, List.take_succ_cons, List.take_zero, List.foldl_cons,
    List.foldl_nil]

theorem cutSave_two (m : Menu) (w : World) : cutSave m w 2 =
    (w.nvs.put .openAlarms (savedOpening m w.sched.openingAlarms)).put .closeAlarms
      (savedClosing m w.sched.closingAlarms) := by
  simp only [cutSave, saveStores, List.take_succ_cons, List.take_zero, List.foldl_cons,
    List.foldl_nil]

/-- Flash holds the tables of RAM, and a boot before the first save finds them. -/
structure Coherent (w : World) : Prop where
  opening : w.nvs.get .openAlarms = some w.sched.openingAlarms
  closing : w.nvs.get .closeAlarms = some w.sched.closingAlarms
  unmarked : (w.nvs.get .initAlarm).getD 0 = 0 →
    w.sched.openingAlarms = (fun _ => defaultOpening) ∧
      w.sched.closingAlarms = fun _ => defaultClosing

/-- The tables that a boot finds in a flash. -/
def bootTables (nvs : Nvs) : WeekTable × WeekTable :=
  (recalled nvs (nvs.get .openAlarms) defaultOpening,
    recalled nvs (nvs.get .closeAlarms) defaultClosing)

/-- The tables in RAM. -/
def tables (w : World) : WeekTable × WeekTable := (w.sched.openingAlarms, w.sched.closingAlarms)

/-- The tables after a save of the edits `m`. -/
def tablesSaved (m : Menu) (w : World) : WeekTable × WeekTable :=
  (savedOpening m w.sched.openingAlarms, savedClosing m w.sched.closingAlarms)

section Saves

variable {w w' : World} {nvs : Nvs} {o c : WeekTable}

/-- In a marked flash a boot finds what is stored. -/
theorem bootTables_marked (hmark : (nvs.get .initAlarm).getD 0 ≠ 0)
    (ho : nvs.get .openAlarms = some o) (hc : nvs.get .closeAlarms = some c) :
    bootTables nvs = (o, c) := by
  rw [bootTables, recalled, recalled, if_neg hmark, if_neg hmark, ho, hc]
  rfl

/-- In any other flash it finds the default tables. -/
theorem bootTables_unmarked (hmark : (nvs.get .initAlarm).getD 0 = 0) :
    bootTables nvs = (fun _ => defaultOpening, fun _ => defaultClosing) := by
  rw [bootTables, recalled, recalled, if_pos hmark, if_pos hmark]

theorem Coherent.bootTables (h : Coherent w) : bootTables w.nvs = tables w := by
  by_cases hmark : (w.nvs.get .initAlarm).getD 0 = 0
  · obtain ⟨ho, hc⟩ := h.unmarked hmark
    rw [bootTables_unmarked hmark, tables, ho, hc]
  · rw [bootTables_marked hmark h.opening h.closing, tables]

theorem savedOpening_closing {m : Menu} (hm : m.modeset = .modesetClosing) (t : WeekTable) :
    savedOpening m t = t := by
  funext i
  rw [savedOpening, hm]
  exact if_neg fun hc => Modeset.noConfusion hc.1

theorem savedClosing_opening {m : Menu} (hm : m.modeset = .modesetOpening) (t : WeekTable) :
    savedClosing m t = t := by
  funext i
  rw [savedClosing, hm]
  exact if_neg fun hc => Modeset.noConfusion hc.1

/-- A save that has made all its stores. -/
theorem cutSave_done (m : Menu) (w : World) {j : Nat} (hj : 3 ≤ j) :
    cutSave m w j = savedTables w.nvs (savedOpening m w.sched.openingAlarms)
      (savedClosing m w.sched.closingAlarms) := by
  have hall : (saveStores m w).take j = saveStores m w := List.take_of_length_le hj
  rw [cutSave, hall]
  rfl

/-- A save that is not cut off makes all its stores. -/
theorem saved_nvs (w : World) : (saved w).nvs = cutSave w.menu w 3 :=
  (cutSave_done w.menu w (Nat.le_refl 3)).symm

/-- The mark is the last store. -/
theorem cutSave_mark (m : Menu) (w : World) {j : Nat} (hj : j < 3) :
    (cutSave m w j).get .initAlarm = w.nvs.get .initAlarm := by
  obtain rfl | rfl | rfl : j = 0 ∨ j = 1 ∨ j = 2 := by omega
  · rw [cutSave_zero]
  · rw [cutSave_one, nvs_get_put_of_ne _ _ (by decide)]
  · rw [cutSave_two, nvs_get_put_of_ne _ _ (by decide), nvs_get_put_of_ne _ _ (by decide)]

/-- The opening table is the first store. -/
theorem cutSave_opening (h : Coherent w) (m : Menu) {j : Nat} (hj : j < 3) :
    (cutSave m w j).get .openAlarms =
      some (if j = 0 then w.sched.openingAlarms else savedOpening m w.sched.openingAlarms) := by
  obtain rfl | rfl | rfl : j = 0 ∨ j = 1 ∨ j = 2 := by omega
  · rw [cutSave_zero, h.opening, if_pos rfl]
  · rw [cutSave_one, nvs_get_put_self _ _ (by decide), if_neg (by decide)]
  · rw [cutSave_two, nvs_get_put_of_ne _ _ (by decide), nvs_get_put_self _ _ (by decide),
      if_neg (by decide)]

/-- The closing table is the second one. -/
theorem cutSave_closing (h : Coherent w) (m : Menu) {j : Nat} (hj : j < 3) :
    (cutSave m w j).get .closeAlarms =
      some (if j < 2 then w.sched.closingAlarms else savedClosing m w.sched.closingAlarms) := by
  obtain rfl | rfl | rfl : j = 0 ∨ j = 1 ∨ j = 2 := by omega
  · rw [cutSave_zero, h.closing, if_pos (by decide)]
  · rw [cutSave_one, nvs_get_put_of_ne _ _ (by decide), h.closing, if_pos (by decide)]
  · rw [cutSave_two, nvs_get_put_self _ _ (by decide), if_neg (by decide)]

theorem bootTables_savedTables (nvs : Nvs) (o c : WeekTable) :
    bootTables (savedTables nvs o c) = (o, c) := by
  have hmark : ((savedTables nvs o c).get .initAlarm).getD 0 ≠ 0 := by
    rw [savedTables_initAlarm]
    decide
  exact bootTables_marked hmark (savedTables_opening nvs o c) (savedTables_closing nvs o c)

/-- After a save that was cut off a boot finds the tables from before it, or those that it was to
    store. -/
theorem recalled_cutSave (h : Coherent w) (m : Menu) (j : Nat) :
    Spec.bootTables (cutSave m w j) = tables w ∨
      Spec.bootTables (cutSave m w j) = tablesSaved m w := by
  by_cases hj : 3 ≤ j
  · right
    rw [cutSave_done m w hj, bootTables_savedTables, tablesSaved]
  have hj' : j < 3 := by omega
  have hcut := cutSave_mark m w hj'
  by_cases hmark : (w.nvs.get .initAlarm).getD 0 = 0
  · -- without a mark a boot takes the defaults, whatever is stored
    left
    rw [← hcut] at hmark
    rw [bootTables_unmarked hmark, tables]
    obtain ⟨ho, hc⟩ := h.unmarked (by rw [← hcut]; exact hmark)
    rw [ho, hc]
  rw [← hcut] at hmark
  have hfound := bootTables_marked hmark (cutSave_opening h m hj') (cutSave_closing h m hj')
  rw [hfound, tables, tablesSaved]
  obtain rfl | rfl | rfl : j = 0 ∨ j = 1 ∨ j = 2 := by omega
  · exact .inl rfl
  · -- only one of the two tables is edited
    cases hm : m.modeset with
    | modesetOpening =>
      right
      rw [savedClosing_opening hm]
      rfl
    | modesetClosing =>
      left
      rw [savedOpening_closing hm]
      rfl
  · exact .inr rfl

/-- Both tables are there for the next boot, wherever the save was cut off. -/
theorem wholeTables_cutSave (h : Coherent w) (m : Menu) (j : Nat) :
    WholeTables (cutSave m w j) := by
  by_cases hj : 3 ≤ j
  · right
    rw [cutSave_done m w hj, savedTables_opening, savedTables_closing]
    exact ⟨rfl, rfl⟩
  · right
    rw [cutSave_opening h m (by omega), cutSave_closing h m (by omega)]
    exact ⟨rfl, rfl⟩

theorem Coherent.whole (h : Coherent w) : WholeTables w.nvs := by
  right
  rw [h.opening, h.closing]
  exact ⟨rfl, rfl⟩

theorem Coherent.unsaved (h : Coherent w) (hu : Unsaved w w') : Coherent w' where
  opening := by rw [hu.nvs _ rfl, hu.opening, h.opening]
  closing := by rw [hu.nvs _ rfl, hu.closing, h.closing]
  unmarked := by
    rw [hu.nvs _ rfl, hu.opening, hu.closing]
    exact h.unmarked

/-- A save keeps RAM and flash together, and so does everything else between two resets. -/
theorem MenuStep.coherent (hs : MenuStep w w') (h : Coherent w) : Coherent w' := by
  cases hs with
  | plain _ hu => exact h.unsaved hu
  | screen _ action _ hu =>
    have hentered : Coherent (entered w action) := { h with }
    exact hentered.unsaved hu
  | edit action f hf => exact { h with }
  | save action hid hn =>
    refine ⟨savedTables_opening _ _ _, savedTables_closing _ _ _, fun hmark => ?_⟩
    -- a saved flash is marked
    have hmarked : ((savedTables w.nvs _ _).get .initAlarm).getD 0 = 0 := hmark
    rw [savedTables_initAlarm] at hmarked
    exact absurd hmarked (by decide)

end Saves

/-! ## Boots and runs -/

section Runs

variable [TimeLib] {ω : Env} {w₀ w w' : World}

/-- The runs in which power may be lost at any time, also after any number of the stores of a save,
    whatever the edits are. -/
inductive CutRun (ω : Env) (w₀ : World) : Phase × World → Prop where
  | powerOn (n : Nat) : CutRun ω w₀ (afterCall (boot n ω w₀.firstPowerUp))
  | step {s s' : Phase × World} : CutRun ω w₀ s → Step ω s s' → CutRun ω w₀ s'
  | powerLoss (n : Nat) {s : Phase × World} :
      CutRun ω w₀ s → CutRun ω w₀ (afterCall (boot n ω s.2.powerUp))
  | saveLost (m : Menu) (j n : Nat) {s : Phase × World} : CutRun ω w₀ s →
      CutRun ω w₀ (afterCall (boot n ω { s.2 with nvs := cutSave m s.2 j }.powerUp))

/-- A reset brings RAM and flash together. -/
theorem Rebooted.coherent (h : Rebooted ω w₀ w) (hw : WholeTables w₀.nvs) : Coherent w := by
  obtain ⟨ho, hc⟩ := h.flashTables hw
  refine ⟨ho, hc, fun hmark => ?_⟩
  rw [h.initAlarm] at hmark
  rw [h.openingAlarms, h.closingAlarms, recalled, recalled, if_pos hmark, if_pos hmark]
  exact ⟨rfl, rfl⟩

/-- With both tables in flash a boot ends coherent. -/
theorem boot_coherent (n : Nat) (hs : w₀.sched = {}) (hm : w₀.menu = {}) (hd : w₀.door = {})
    (hc : w₀.clk = {}) (hb : w₀.dispatch = .boot) (hw : WholeTables w₀.nvs) :
    Coherent (afterCall (boot n ω w₀)).2 := by
  have hclosed : Closed ω Coherent := fun _ _ ha h => ha.menuStep.coherent h
  exact afterCall_of_anywhere (hclosed.boot n hs hm hd hc hb fun _ hr => hr.coherent hw)

/-- RAM and flash hold the same tables in every state of every run, wherever saves are cut off. -/
theorem CutRun.coherent {s : Phase × World} (hr : CutRun ω w₀ s) (hw : WholeTables w₀.nvs) :
    Coherent s.2 := by
  have hclosed : Closed ω Coherent := fun _ _ ha h => ha.menuStep.coherent h
  induction hr with
  | powerOn n => exact boot_coherent n rfl rfl rfl rfl rfl hw
  | step _ hs ih =>
    cases hs with
    | loop n w => exact afterCall_of_anywhere (hclosed.loop n w ih)
    | wake n w cause _ => exact boot_coherent n rfl rfl rfl rfl rfl ih.whole
  | powerLoss n _ ih => exact boot_coherent n rfl rfl rfl rfl rfl ih.whole
  | saveLost m j n _ ih =>
    exact boot_coherent n rfl rfl rfl rfl rfl (wholeTables_cutSave ih m j)

/-- A boot leaves the tables as it has found them: nothing is saved while a wake-up is handled. -/
theorem boot_tables (n : Nat) (hs : w₀.sched = {}) (hm : w₀.menu = {}) (hd : w₀.door = {})
    (hc : w₀.clk = {}) : tables (afterCall (boot n ω w₀)).2 = bootTables w₀.nvs := by
  have hkept : WakeClosed ω fun w => tables w = bootTables w₀.nvs := by
    intro w w' ha h
    have hu := ha.unsaved
    rw [← h, tables, tables, hu.opening, hu.closing]
  have hboot : wp (boot n) (anywhere fun w => tables w = bootTables w₀.nvs) ω w₀ := by
    apply hkept.boot (fun _ _ h => h) n hs hm hd hc
    intro w' hr
    show (w'.sched.openingAlarms, w'.sched.closingAlarms) = bootTables w₀.nvs
    rw [hr.openingAlarms, hr.closingAlarms, bootTables]
  exact afterCall_of_anywhere hboot

/-- A save that is cut off by a loss of power, in any state of any run and after any number of its
    stores, is undone or done as a whole by the next boot, and RAM and flash agree again. -/
theorem save_atomic {s : Phase × World} (hr : CutRun ω w₀ s) (hw : WholeTables w₀.nvs) (m : Menu)
    (j n : Nat) :
    (tables (afterCall (boot n ω { s.2 with nvs := cutSave m s.2 j }.powerUp)).2 = tables s.2 ∨
      tables (afterCall (boot n ω { s.2 with nvs := cutSave m s.2 j }.powerUp)).2 =
        tablesSaved m s.2) ∧
    Coherent (afterCall (boot n ω { s.2 with nvs := cutSave m s.2 j }.powerUp)).2 := by
  have hcoherent : Coherent s.2 := hr.coherent hw
  have hlater := (CutRun.saveLost m j n hr).coherent hw
  have htables : tables (afterCall (boot n ω { s.2 with nvs := cutSave m s.2 j }.powerUp)).2 =
      bootTables (cutSave m s.2 j) := boot_tables n rfl rfl rfl rfl
  rw [htables]
  exact ⟨recalled_cutSave hcoherent m j, hlater⟩

end Runs

/-- The flash is marked, and power comes on. -/
def savedBooted : World := (afterCall (boot 12 (fun _ => {}) (saved {}).firstPowerUp)).2

/-- Openings at six on every day, which are typed in but not saved yet. -/
def earlyOpening : Menu :=
  { modeset := .modesetOpening, dayBitmask := 254, hourO := 6 }

/-- Power is lost after the first store of their save, and comes back. -/
def earlyLost : World :=
  (afterCall (boot 12 (fun _ => {})
    { savedBooted with nvs := cutSave earlyOpening savedBooted 1 }.powerUp)).2

theorem save_atomic_earlyLost :
    (tables earlyLost = tables savedBooted ∨
      tables earlyLost = tablesSaved earlyOpening savedBooted) ∧ Coherent earlyLost := by
  have hrun : CutRun (fun _ => {}) (saved {})
      (afterCall (boot 12 (fun _ => {}) (saved {}).firstPowerUp)) := .powerOn 12
  exact save_atomic hrun (.inr ⟨rfl, rfl⟩) earlyOpening 1 12

end Eggvault.Spec
