import Eggvault.Spec.ControlCorrect

/-!
# From reset to the first call of `loop`

`readValuesFromFlash` turns the flash and the RTC RAM byte back into globals
(`Restored`), which is all that a boot knows of the past; from there `wakeupHandling`
acts on the cause of the wake-up and `setup` ends with an interactive device
(`Awake`) or with deep sleep.

## Key results

- `unpack_packRam`: the RTC RAM byte keeps the counter and both pending moves
- `boot_running`: every boot ends awake, asleep or with a safe trace
-/

namespace Eggvault.Spec

open Eggvault.Native Prog Trace

/-! ## The RTC RAM byte -/

/-- The counter and the pending moves that `readValuesFromFlash` finds in a byte. -/
def unpackRam (ram : UInt8) : UInt8 × Klappenposition × Klappenposition :=
  (ram &&& 0b00001111, .ofByte ((ram &&& 0b00110000) >>> 4), .ofByte ((ram &&& 0b11000000) >>> 6))

private theorem unpack_packRam_fin : ∀ (c : Fin 16) (l a : Fin 4),
    let pos (i : Fin 4) := Klappenposition.ofByte (UInt8.ofNat i.val)
    unpackRam (packRam (UInt8.ofNat c.val) (pos l) (pos a)) = (UInt8.ofNat c.val, pos l, pos a) := by
  decide

/-- Packing is undone by unpacking, for every counter of four bits. -/
theorem unpack_packRam {c : UInt8} (hc : c ≤ 15) (l a : Klappenposition) :
    unpackRam (packRam c l a) = (c, l, a) := by
  have hc' : c.toNat < 16 := Nat.lt_succ_of_le (UInt8.le_iff_toNat_le.mp hc)
  have hpos : ∀ p : Klappenposition,
      ∃ i : Fin 4, p = Klappenposition.ofByte (UInt8.ofNat i.val) := by
    intro p
    cases p with
    | posUp => exact ⟨0, rfl⟩
    | posDown => exact ⟨1, rfl⟩
    | posDriving => exact ⟨2, rfl⟩
    | posBlocked => exact ⟨3, rfl⟩
  obtain ⟨i, rfl⟩ := hpos l
  obtain ⟨j, rfl⟩ := hpos a
  have h := unpack_packRam_fin ⟨c.toNat, hc'⟩ i j
  simpa only [UInt8.ofNat_toNat] using h

/-- The flags that a boot starts with: none before the first scheduling pass. -/
def restoredFlags (nvs : Nvs) (ram : UInt8) : UInt8 × Klappenposition × Klappenposition :=
  if (nvs.get .initFlag).getD 0 = 0 then (0, .posBlocked, .posBlocked) else unpackRam ram

/-! ## `readValuesFromFlash` -/

/-- What happened between two moments of a boot: readings only. -/
structure Since (w₀ w : World) : Prop where
  quiet : Quiet w₀.trace w.trace
  armed : lastArmed w.trace = lastArmed w₀.trace
  line : w₀.rtc.clkInt = true → w.rtc.clkInt = true
  fresh : LineFresh w₀ → LineFresh w

theorem Since.refl (w : World) : Since w w := ⟨.refl _, rfl, fun h => h, fun h => h⟩

theorem Since.observe {w₀ w : World} (h : Since w₀ w) (s : Sample) : Since w₀ (w.observe s) where
  quiet := h.quiet.trans (.observe w s)
  armed := lastArmed_observe.trans h.armed
  line := fun hl => observe_clkInt (h.line hl)
  fresh := fun hf => (h.fresh hf).observe

theorem Since.called {w₀ w : World} (h : Since w₀ w) (f : Callee) : Since w₀ (w.called f) where
  quiet := h.quiet.trans (.called w f)
  armed := h.armed
  line := h.line
  fresh := h.fresh

/-- The globals are at their initial values; `w₀` is the moment of the reset. -/
structure Reset (w₀ w : World) : Prop where
  sched : w.sched = {}
  menu : w.menu = {}
  lastMove : w.door.lastMove = 0
  lastDoorPosition : w.door.lastDoorPosition = .posUp
  errorFlag : w.door.errorFlag = .noError
  nvs : w.nvs = w₀.nvs
  ram : w.rtc.ram = w₀.rtc.ram
  pins : w.pins = w₀.pins
  timer : w.timer = w₀.timer
  wakeup : w.wakeup = w₀.wakeup
  dispatch : w.dispatch = w₀.dispatch
  since : Since w₀ w

/-- The globals hold what flash and the RTC RAM byte had at the reset. -/
structure Restored (w₀ w : World) : Prop where
  ramCounter : w.sched.ramCounter = (restoredFlags w₀.nvs w₀.rtc.ram).1
  ldrFlag : w.sched.ldrFlag = (restoredFlags w₀.nvs w₀.rtc.ram).2.1
  alarmFlag : w.sched.alarmFlag = (restoredFlags w₀.nvs w₀.rtc.ram).2.2
  initFlag : w.sched.fInitFlag = (w₀.nvs.get .initFlag).getD 0
  initLastMove : w.sched.fInitLastMove = (w₀.nvs.get .initLastMove).getD 0
  lastMove : w.door.lastMove =
    if (w₀.nvs.get .initLastMove).getD 0 = 0 then 0 else (w₀.nvs.get .lastMove).getD 0
  lastDoorPosition : w.door.lastDoorPosition =
    if (w₀.nvs.get .initLastMove).getD 0 = 0 then .posBlocked else .posUp
  initNox : w.sched.fInitNox = (w₀.nvs.get .initNox).getD 0
  errorFlag : w.door.errorFlag =
    if (w₀.nvs.get .initNox).getD 0 = 0 then .noError else (w₀.nvs.get .errorFlag).getD .noError
  nextLux : w.sched.nextLux = 0
  opening : StoredModes w₀.nvs → ValidModes w.sched.openingAlarms
  closing : StoredModes w₀.nvs → ValidModes w.sched.closingAlarms
  stored : StoredModes w₀.nvs → StoredModes w.nvs
  nvs : ∀ k, k ≠ .openAlarms → k ≠ .closeAlarms → w.nvs.get k = w₀.nvs.get k
  menu : w.menu = {}
  pins : w.pins = w₀.pins
  timer : w.timer = w₀.timer
  wakeup : w.wakeup = w₀.wakeup
  dispatch : w.dispatch = w₀.dispatch
  since : Since w₀ w

section Read

variable {ω : Env} {w₀ w : World} {post : Post World Unit}

namespace Reset

theorem observe (h : Reset w₀ w) (s : Sample) : Reset w₀ (w.observe s) :=
  { h with since := h.since.observe s }

theorem btn (h : Reset w₀ w) (b : Buttons) : Reset w₀ { w with btn := b } :=
  { h with since := { h.since with } }

theorem door (h : Reset w₀ w) {d : Door} (hm : d.lastMove = w.door.lastMove)
    (hp : d.lastDoorPosition = w.door.lastDoorPosition) (he : d.errorFlag = w.door.errorFlag) :
    Reset w₀ { w with door := d } :=
  { h with
    lastMove := hm.trans h.lastMove
    lastDoorPosition := hp.trans h.lastDoorPosition
    errorFlag := he.trans h.errorFlag
    since := { h.since with } }

end Reset

theorem initGlobals_reset (hs : w.sched = {}) (hm : w.menu = {}) (hd : w.door = {}) :
    wp initGlobals ⟨fun _ w' => Reset w w', fun _ => False, fun _ => False⟩ ω w := by
  have h : Reset w w :=
    ⟨hs, hm, by rw [hd], by rw [hd], by rw [hd], rfl, rfl, rfl, rfl, rfl, rfl, .refl w⟩
  simp only [initGlobals, wp_bind, wp_millis, wp_modifyBtn, wp_modifyDoor]
  have h₁ := ((((h.observe (ω w.tick)).observe (ω (w.tick + 1))).observe
    (ω (w.tick + 2))).observe (ω (w.tick + 3))).btn { w.btn with
      previousMillis := (ω w.tick).millis, lastPress := (ω (w.tick + 1)).millis
      blinkZero := (ω (w.tick + 2)).millis, longPressStart := (ω (w.tick + 3)).millis }
  exact (((h₁.observe (ω (w.tick + 4))).observe (ω (w.tick + 5))).observe
    (ω (w.tick + 6))).door rfl rfl rfl

theorem wp_readFlags :
    wp readFlags post ω w ↔ post.done () { w with sched := { w.sched with
      fInitFlag := (w.nvs.get .initFlag).getD 0
      ramCounter := (restoredFlags w.nvs w.rtc.ram).1
      ldrFlag := (restoredFlags w.nvs w.rtc.ram).2.1
      alarmFlag := (restoredFlags w.nvs w.rtc.ram).2.2 } } := by
  simp only [readFlags, wp_modify, restoredFlags]
  by_cases h : (w.nvs.get .initFlag).getD 0 = 0
  · simp only [h, if_true]
  · simp only [h, if_false]
    exact Iff.rfl

theorem wp_readLastMove :
    wp readLastMove post ω w ↔ post.done () { w with
      sched := { w.sched with fInitLastMove := (w.nvs.get .initLastMove).getD 0 }
      door := { w.door with
        lastMove := if (w.nvs.get .initLastMove).getD 0 = 0 then 0
          else (w.nvs.get .lastMove).getD w.door.lastMove
        lastDoorPosition := if (w.nvs.get .initLastMove).getD 0 = 0 then .posBlocked
          else w.door.lastDoorPosition } } := by
  simp only [readLastMove, wp_modify, nvs_get_lastMovePosition, Option.getD_none]
  by_cases h : (w.nvs.get .initLastMove).getD 0 = 0
  · simp only [h, if_true]
  · simp only [h, if_false]

theorem validModes_const {a : DoorDayAlarm} (h : ValidMode a.mode) : ValidModes fun _ => a :=
  fun _ => h

/-- A stored table is used if there is one; the table of a reset has modes too. -/
theorem validModes_getD {o : Option WeekTable} (h : ∀ t, o = some t → ValidModes t) :
    ValidModes (o.getD fun _ => {}) := by
  cases o with
  | none => exact validModes_const (by decide)
  | some t => exact h t rfl

theorem StoredModes.put_default (m : Nvs) :
    StoredModes ((m.put .openAlarms fun _ => defaultOpening).put .closeAlarms
      fun _ => defaultClosing) where
  opening := by
    intro t ht
    rw [nvs_get_put_of_ne _ _ (by decide), nvs_get_put_self _ _ (by decide)] at ht
    cases ht
    exact validModes_const (by decide)
  closing := by
    intro t ht
    rw [nvs_get_put_self _ _ (by decide)] at ht
    cases ht
    exact validModes_const (by decide)

theorem readValuesFromFlash_restored (h : Reset w₀ w) :
    wp readValuesFromFlash ⟨fun _ w' => Restored w₀ w', fun _ => False, fun _ => False⟩ ω w := by
  have hlux : w.sched.nextLux = 0 := by rw [h.sched]
  have hopen : w.sched.openingAlarms = fun _ => {} := by rw [h.sched]
  have hclose : w.sched.closingAlarms = fun _ => {} := by rw [h.sched]
  simp only [readValuesFromFlash, wp_bind, wp_readFlags, wp_readLastMove, readErrorFlag, readAlarms,
    wp_modify, wp_get, wp_ite, setAlarmsDefault, wp_memoryPut, h.nvs, h.ram, h.lastMove,
    h.lastDoorPosition, h.errorFlag]
  -- without `init_alarm` the defaults are stored, with it the tables are read back
  refine ⟨fun _ => ?_, fun _ => ?_⟩
  · exact
      { ramCounter := rfl, ldrFlag := rfl, alarmFlag := rfl, initFlag := rfl, initLastMove := rfl
        lastMove := rfl, lastDoorPosition := rfl, initNox := rfl, errorFlag := rfl
        nextLux := hlux
        opening := fun _ => validModes_const (a := defaultOpening) (by decide)
        closing := fun _ => validModes_const (a := defaultClosing) (by decide)
        stored := fun _ => StoredModes.put_default w₀.nvs
        nvs := fun k h₁ h₂ => by rw [nvs_get_put_of_ne _ _ h₂, nvs_get_put_of_ne _ _ h₁]
        menu := h.menu, pins := h.pins, timer := h.timer, wakeup := h.wakeup
        dispatch := h.dispatch, since := { h.since with } }
  · exact
      { ramCounter := rfl, ldrFlag := rfl, alarmFlag := rfl, initFlag := rfl, initLastMove := rfl
        lastMove := rfl, lastDoorPosition := rfl, initNox := rfl, errorFlag := rfl
        nextLux := hlux
        opening := fun hs => by rw [hopen]; exact validModes_getD hs.opening
        closing := fun hs => by rw [hclose]; exact validModes_getD hs.closing
        stored := fun hs => hs
        nvs := fun _ _ _ => rfl
        menu := h.menu, pins := h.pins, timer := h.timer, wakeup := h.wakeup
        dispatch := h.dispatch, since := { h.since with } }

end Read

/-! ## The clock -/

section Clock

variable [TimeLib] {ω : Env} {w : World} {post : Post World Unit}

/-- The clock variables after `makeLocalTime`. -/
def localTime (c : Clock) : Clock :=
  let t := TimeLib.makeTime
    { day := c.date.toUInt8, month := c.month.toUInt8, year := (c.year - 1970).toUInt16.toUInt8,
      second := c.second.toUInt8, hour := c.hour.toUInt8, minute := c.minute.toUInt8 }
  { c with tNow := t, dow := TimeLib.weekday t }

/-- The clock variables after `timeUpdate` has read `t`. -/
def timeOf (c : Clock) (t : RtcTime) : Clock :=
  localTime { c with
    hour := t.hours.toInt8, minute := t.minutes.toInt8, second := t.seconds.toInt8 }

/-- The clock variables after `dateUpdate` has copied the date of `t`. -/
def dateOf (c : Clock) (t : RtcTime) : Clock :=
  localTime { c with
    date := t.date.toInt8, month := t.month.toInt8, year := t.year.toInt16
    dow := t.weekday.val + 1 }

/-- The device after `rtc.updateTime`. -/
def updated (w : World) (s : Sample) : World :=
  { (w.called .updateTime).observe s with rtc := { (w.observe s).rtc with snapshot := s.rtc } }

@[simp] theorem wp_timeUpdate :
    wp timeUpdate post ω w ↔ post.done ()
      { updated w (ω w.tick) with clk := timeOf w.clk (ω w.tick).rtc } := by
  simp only [timeUpdate, makeLocalTime, wp_bind, wp_updateTime, wp_modify]
  exact Iff.rfl

@[simp] theorem wp_dateUpdate :
    wp dateUpdate post ω w ↔ post.done () { w with clk := dateOf w.clk w.rtc.snapshot } := by
  simp only [dateUpdate, makeLocalTime, wp_bind, wp_modify]
  exact Iff.rfl

end Clock

theorem Restored.updated {w₀ w : World} (h : Restored w₀ w) (s : Sample) (c : Clock) :
    Restored w₀ { updated w s with clk := c } :=
  { h with since := { (h.since.called .updateTime).observe s with } }

theorem Restored.clk {w₀ w : World} (h : Restored w₀ w) (c : Clock) :
    Restored w₀ { w with clk := c } :=
  { h with since := { h.since with } }

/-- `setup` up to the wake-up handling only restores and reads the clock. -/
theorem setupStart_restored [TimeLib] {ω : Env} {w₀ w : World} (h : Reset w₀ w) :
    wp setupStart ⟨fun _ w' => Restored w₀ w', fun _ => False, fun _ => False⟩ ω w := by
  rw [setupStart]
  apply wp_seq (readValuesFromFlash_restored h)
  intro _ w₁ h₁
  simp only [wp_bind, wp_timeUpdate, wp_dateUpdate]
  exact (h₁.updated _ _).clk _

/-! ## Reset -/

/-- The device at a reset. -/
structure Off (valid : Prop) (w : World) : Prop where
  sched : w.sched = {}
  menu : w.menu = {}
  door : w.door = {}
  timer : w.timer = none
  fwd : w.pins.fwd = false
  back : w.pins.back = false
  held : w.pins.held ≠ some false
  trace : TraceOk valid w.trace
  levels : motorLevels w.trace = (false, false)
  rest : inMotorLoop w.trace = false
  fresh : valid → NoFailure w.trace → LineFresh w
  stored : valid → StoredModes w.nvs
  line : w.wakeup = .ext1 .clkInt → w.rtc.clkInt = true
  armed : w.wakeup = .timer → ∀ pos, (restoredFlags w.nvs w.rtc.ram).2.1 = pos →
    (pos = .posUp ∨ pos = .posDown) → ∃ v, lastArmed w.trace = some (pos, v)
  noError : w.wakeup = .timer → (w.nvs.get .initNox).getD 0 ≠ 0 →
    (w.nvs.get .errorFlag).getD .noError = .noError

/-- The globals have been restored; the wake-up has not been acted on yet. -/
structure Restarted (valid : Prop) (w : World) : Prop where
  base : Base valid w
  fresh : valid → NoFailure w.trace → LineFresh w
  sync : ErrSync w
  init : w.sched.fInitNox = 0 → w.door.errorFlag = .noError
  nextLux : w.sched.nextLux = 0
  line : w.wakeup = .ext1 .clkInt → w.rtc.clkInt = true
  armed : w.wakeup = .timer → w.sched.ldrFlag = .posUp ∨ w.sched.ldrFlag = .posDown →
    ∃ v, lastArmed w.trace = some (w.sched.ldrFlag, v)
  noError : w.wakeup = .timer → w.door.errorFlag = .noError

section Restart

variable {valid : Prop} {w₀ w : World}

theorem restoredFlags_counter (nvs : Nvs) (ram : UInt8) : (restoredFlags nvs ram).1 ≤ 15 := by
  unfold restoredFlags
  split
  · show (0 : UInt8) ≤ 15
    decide
  · show ram &&& 0b00001111 ≤ 15
    rw [UInt8.le_iff_toNat_le, UInt8.toNat_and]
    exact Nat.and_le_right

theorem Restored.base (h : Restored w₀ w) (ho : Off valid w₀) : Base valid w := by
  have hget : ∀ k, k ≠ .openAlarms → k ≠ .closeAlarms → w.nvs.get k = w₀.nvs.get k := h.nvs
  have hmenu : w.menu = {} := h.menu
  exact
    { trace := h.since.quiet.ok ho.trace
      fwd := by rw [h.pins]; exact ho.fwd
      back := by rw [h.pins]; exact ho.back
      levels := h.since.quiet.levels.trans ho.levels
      rest := h.since.quiet.rest.trans ho.rest
      held := by rw [h.pins]; exact ho.held
      light := by
        intro ht
        rw [h.timer, ho.timer] at ht
        cases ht
      nox := by rw [hget _ (by decide) (by decide)]; exact h.initNox
      flag := by rw [hget _ (by decide) (by decide)]; exact h.initFlag
      -- a first start finds nothing in the RTC RAM
      unset := by
        intro h0
        rw [h.initFlag] at h0
        rw [h.ldrFlag, h.alarmFlag, h.ramCounter, restoredFlags, if_pos h0]
        exact ⟨rfl, rfl, rfl⟩
      counter := by rw [h.ramCounter]; exact restoredFlags_counter _ _
      moved := by rw [h.initLastMove, hget _ (by decide) (by decide)]; exact fun h => h
      unmoved := by
        rw [hget _ (by decide) (by decide)]
        intro h0
        rw [h.lastMove, h.lastDoorPosition, if_pos h0, if_pos h0]
        exact ⟨rfl, rfl⟩
      -- a stored move has a stored time
      lastMove := by
        rw [hget _ (by decide) (by decide), hget _ (by decide) (by decide)]
        intro h0
        rw [h.lastMove, if_neg h0]
      opening := fun hv => h.opening (ho.stored hv)
      closing := fun hv => h.closing (ho.stored hv)
      editO := by rw [hmenu]; intro _; decide
      editC := by rw [hmenu]; intro _; decide
      stored := fun hv => h.stored (ho.stored hv) }

theorem Restored.restarted (h : Restored w₀ w) (ho : Off valid w₀) : Restarted valid w where
  base := h.base ho
  fresh := fun hv hf => h.since.fresh (ho.fresh hv (h.since.quiet.noFailure hf))
  sync := by
    intro h0
    rw [h.initNox] at h0
    rw [h.nvs _ (by decide) (by decide), h.errorFlag, if_neg h0]
  init := by
    intro h0
    rw [h.initNox] at h0
    rw [h.errorFlag, if_pos h0]
  nextLux := h.nextLux
  line := fun hw => h.since.line (ho.line (h.wakeup ▸ hw))
  armed := by
    intro hw hf
    rw [h.since.armed]
    exact ho.armed (h.wakeup ▸ hw) _ h.ldrFlag.symm hf
  noError := by
    intro hw
    rw [h.errorFlag]
    split
    · rfl
    · exact ho.noError (h.wakeup ▸ hw) ‹_›

end Restart

/-! ## Wake-up handling -/

/-- `wakeupHandling` has returned. -/
structure Woken (valid : Prop) (w : World) : Prop where
  base : Base valid w
  fresh : valid → NoFailure w.trace → LineFresh w
  active : w.menu.menuActive = true
  sync : ErrSync w
  manual : ManualOk w ∨ (w.sched.fInitNox = 0 → w.door.errorFlag = .noError)

/-- Where the wake-up handling ends. -/
def woken (valid : Prop) : Post World Unit where
  done := fun _ w => Woken valid w
  halt := Asleep valid
  pending := fun w => TraceOk valid w.trace

theorem woken_of_settled {valid : Prop} {ω : Env} {w : World} {m : Fw Unit}
    (h : wp m (settled valid) ω w) : wp m (woken valid) ω w :=
  wp_mono h (fun _ _ h => ⟨h.base, h.fresh, h.active, h.sync, .inl h.manual⟩) (fun _ h => h)
    (fun _ h => h)

namespace Restarted

variable {valid : Prop} {ω : Env} {w : World}

theorem observe (h : Restarted valid w) (s : Sample) : Restarted valid (w.observe s) :=
  { h with
    base := h.base.observe
    fresh := fun hv hf => (h.fresh hv ((Quiet.observe w s).noFailure hf)).observe
    line := fun hw => observe_clkInt (h.line hw)
    armed := fun hw hf => by rw [lastArmed_observe]; exact h.armed hw hf }

theorem manualFlag (h : Restarted valid w) (b : Bool) :
    Restarted valid { w with sched := { w.sched with manualFlag := b } } :=
  { h with base := { h.base with } }

theorem btn (h : Restarted valid w) (b : Buttons) : Restarted valid { w with btn := b } :=
  { h with base := { h.base with } }

theorem booted (h : Restarted valid w) :
    Restarted valid { w with trace := .booted w.wakeup :: w.trace } :=
  { h with
    base := { h.base with trace := h.base.trace.cons_plain rfl }
    fresh := fun hv hf => h.fresh hv hf.tail }

/-- With the menu opened the restart is over. -/
theorem woken (h : Restarted valid w) :
    Woken valid { w with menu := { w.menu with menuActive := true } } :=
  ⟨{ h.base with }, h.fresh, rfl, h.sync, .inr h.init⟩

theorem openMenu (h : Restarted valid w) :
    wp (modifyMenu fun m => { m with menuActive := true }) (Spec.woken valid) ω w := by
  rw [wp_modifyMenu]
  exact h.woken

/-- A restart that acts on its cause: `d` allows deep sleep. -/
theorem ready (h : Restarted valid w) {d : Dispatch} (hd : MaySleep d) (b : Bool) :
    Ready valid { w with
      dispatch := d, sched := { w.sched with manualFlag := b }
      menu := { w.menu with menuActive := false } } :=
  { base := { h.base with }, fresh := fun _ => h.fresh, maySleep := fun _ => hd }

/-- The light check of a timer wake-up may begin. -/
theorem onTimer (h : Restarted valid w) (hw : w.wakeup = .timer)
    (ht : onTimerWakeup w.trace = true) :
    OnTimer valid { w with
      dispatch := .wakeTimer, sched := { w.sched with manualFlag := false }
      menu := { w.menu with menuActive := false } } where
  drowsy :=
    { base := { h.base with }
      fresh := h.fresh
      manual := by intro hm; cases hm
      dispatch := trivial
      noError := fun _ => h.noError hw
      storedError := fun h0 => (h.sync h0).trans (h.noError hw)
      pad := by intro _ hm; cases hm }
  onTimer := ht
  nextLux := h.nextLux
  manualFlag := rfl
  armed := h.armed hw

/-- `restoreManualFlag` gives the flag some value. -/
theorem restoreManualFlag (h : Restarted valid w) :
    wp restoreManualFlag ⟨fun _ w' => Restarted valid w' ∧ w'.wakeup = w.wakeup ∧
      onTimerWakeup w'.trace = onTimerWakeup w.trace, fun _ => False, fun _ => False⟩ ω w := by
  simp only [Native.restoreManualFlag, wp_bind, wp_modifySched, wp_digitalRead, wp_when]
  exact ⟨fun _ => ⟨((h.manualFlag _).observe _).manualFlag _, rfl, onTimerWakeup_observe⟩,
    fun _ => ⟨(h.manualFlag _).observe _, rfl, onTimerWakeup_observe⟩⟩

theorem restoreManualFlagExt1 (h : Restarted valid w) :
    wp restoreManualFlagExt1 ⟨fun _ w' => Restarted valid w' ∧ w'.wakeup = w.wakeup,
      fun _ => False, fun _ => False⟩ ω w := by
  simp only [Native.restoreManualFlagExt1, wp_bind, wp_modifySched, wp_digitalRead, wp_when]
  exact ⟨fun _ => ⟨(h.observe _).manualFlag _, rfl⟩, fun _ => ⟨h.observe _, rfl⟩⟩

/-- The long-press loop only reads, for any number of rounds. -/
theorem longPressLoop (sw : InPin) (k : Nat) (h : Restarted valid w) :
    wp (longPressLoop sw k) ⟨fun _ w' => Restarted valid w', fun _ => False, fun _ => False⟩ ω w := by
  induction k generalizing w with
  | zero => exact (wp_pure _).mpr h
  | succ k ih =>
    simp only [Native.longPressLoop, wp_bind, wp_millis, wp_get, wp_ite, wp_digitalRead, wp_pure]
    refine ⟨fun _ => ⟨fun _ => ?_, fun _ => ?_⟩, fun _ => ?_⟩
    · exact ih ((h.observe _).observe _)
    · exact (h.observe _).observe _
    · exact h.observe _

variable [TimeLib]

theorem longPressWakeup (n : Nat) (sw : InPin) (pos : Klappenposition) (h : Restarted valid w) :
    wp (longPressWakeup n sw pos) (Spec.woken valid) ω w := by
  simp only [Native.longPressWakeup, wp_bind, wp_millis, wp_modifyBtn, checkLongPressStartup]
  apply wp_of_returns (longPressLoop sw 5001 ((h.observe _).btn _))
  intro long w₁ h₁
  simp only [wp_ite, wp_bind, wp_setDispatch, wp_modifySched, wp_modifyMenu]
  refine ⟨fun _ => ?_, fun _ => h₁.woken⟩
  exact woken_of_settled (moveMotor_settled n pos (h₁.ready (d := .wakeLongPress) trivial true))

theorem ext1Wakeup (n : Nat) (pin : WakePin) (h : Restarted valid w)
    (hw : w.wakeup = .ext1 pin) : wp (ext1Wakeup n pin) (Spec.woken valid) ω w := by
  cases pin with
  | clkInt =>
    simp only [Native.ext1Wakeup, wp_bind, wp_setDispatch, wp_modifySched, wp_modifyMenu]
    have hr := h.ready (d := .wakeAlarm) trivial false
    exact woken_of_settled (alarmWakeupHandling_settled n hr.base h.fresh (h.line hw) hr.maySleep)
  | swBack => exact longPressWakeup n .swBack .posDown h
  | swFwd => exact longPressWakeup n .swFwd .posUp h
  | swExit => exact h.openMenu
  | swSelect => exact h.openMenu
  | other => exact h.openMenu

theorem wakeupHandling (n : Nat) (h : Restarted valid w) :
    wp (wakeupHandling n) (Spec.woken valid) ω w := by
  rw [Native.wakeupHandling, wp_get_bind]
  rw [wp_bind, wp_emit]
  apply wp_then h.booted.restoreManualFlag
  rintro _ w₁ ⟨h₁, hw₁, ht₁⟩
  cases hw : w.wakeup with
  | ext1 pin =>
    apply wp_then h₁.restoreManualFlagExt1
    rintro _ w₂ ⟨h₂, hw₂⟩
    exact ext1Wakeup n pin h₂ (hw₂.trans (hw₁.trans hw))
  | timer =>
    simp only [wp_bind, wp_setDispatch, wp_modifySched, wp_modifyMenu]
    have ht : onTimerWakeup w₁.trace = true := by
      rw [ht₁, hw]
      rfl
    exact woken_of_settled (timerWakeupHandling_settled n (h₁.onTimer (hw₁.trans hw) ht))
  | undefined => exact h₁.openMenu

end Restarted

/-! ## `setup` -/

/-- The first set-up is not over: the menu offers nothing but the clock, the date and the
    first save. -/
structure Confined (w : World) : Prop where
  init : w.sched.fInitNox = 0
  noError : w.door.errorFlag = .noError
  menuId : w.menu.menuId = 1 ∨ w.menu.menuId = 300 ∨ w.menu.menuId = 400 ∨ w.menu.menuId = 900

/-- The device between two calls of `loop`.  A manual flag that was only read off the LED
    pad may disagree with the pending moves, but then the first set-up is not over. -/
structure Awake (valid : Prop) (w : World) : Prop where
  base : Base valid w
  fresh : valid → NoFailure w.trace → LineFresh w
  active : w.menu.menuActive = true
  sync : ErrSync w
  manual : ManualOk w ∨ Confined w

/-- Where `setup` and `loop` end. -/
def running (valid : Prop) : Post World Unit where
  done := fun _ w => Awake valid w
  halt := Asleep valid
  pending := fun w => TraceOk valid w.trace

theorem Returned.awake {valid : Prop} {w : World} (h : Returned valid w) : Awake valid w :=
  ⟨h.base, h.fresh, h.active, h.sync, .inl h.manual⟩

theorem running_of_settled {valid : Prop} {ω : Env} {w : World} {m : Fw Unit}
    (h : wp m (settled valid) ω w) : wp m (running valid) ω w :=
  wp_mono h (fun _ _ h => h.awake) (fun _ h => h) (fun _ h => h)

theorem Awake.observe {valid : Prop} {w : World} (h : Awake valid w) (s : Sample) :
    Awake valid (w.observe s) where
  base := h.base.observe
  fresh := fun hv hf => (h.fresh hv ((Quiet.observe w s).noFailure hf)).observe
  active := h.active
  sync := h.sync
  manual := h.manual.imp (fun h => h) (fun h => { h with })

theorem Awake.btn {valid : Prop} {w : World} (h : Awake valid w) (b : Buttons) :
    Awake valid { w with btn := b } where
  base := { h.base with }
  fresh := h.fresh
  active := h.active
  sync := h.sync
  manual := h.manual.imp (fun h => h) (fun h => { h with })

section Setup

variable [TimeLib] {valid : Prop} {ω : Env} {w : World}

/-- The status check of `setup` cannot sleep: the menu is active. -/
theorem setupEnd_running (n : Nat) (h : Woken valid w) :
    wp (setupEnd n) (running valid) ω w := by
  have hready : Ready valid { w with dispatch := .setupStatus } :=
    { base := { h.base with }
      fresh := fun _ => h.fresh
      maySleep := fun ha => absurd (h.active.symm.trans ha) (by decide) }
  have hend : ∀ w₁, Awake valid w₁ → wp (do
      let now ← millis
      modifyBtn fun b => { b with blinkZero := now }) (running valid) ω w₁ := by
    intro w₁ h₁
    simp only [wp_bind, wp_millis, wp_modifyBtn]
    exact (h₁.observe _).btn _
  rw [setupEnd, wp_get_bind, wp_ite]
  refine ⟨fun h0 => ?_, fun h0 => ?_⟩
  · rw [wp_bind, wp_modifyMenu]
    refine hend _ ⟨{ h.base with }, h.fresh, h.active, h.sync, ?_⟩
    exact h.manual.imp (fun hm => hm) (fun he => ⟨h0, he h0, .inl rfl⟩)
  · rw [wp_bind, wp_setDispatch]
    apply wp_seq (statusabfrage_settled n hready)
    intro _ w₁ h₁
    have h₁' : Returned valid w₁ := h₁
    rw [wp_bind, wp_modifyMenu]
    exact hend _ ⟨{ h₁'.base with }, h₁'.fresh, h₁'.active, h₁'.sync, .inl h₁'.manual⟩

/-- Every boot, whatever woke the device. -/
theorem boot_running (n : Nat) (h : Off valid w) : wp (boot n) (running valid) ω w := by
  rw [boot]
  apply wp_then (initGlobals_reset h.sched h.menu h.door)
  intro _ w₁ h₁
  rw [setup]
  apply wp_then (setupStart_restored h₁)
  intro _ w₂ h₂
  apply wp_seq ((h₂.restarted h).wakeupHandling n)
  intro _ w₃ h₃
  exact setupEnd_running n h₃

end Setup

end Eggvault.Spec
