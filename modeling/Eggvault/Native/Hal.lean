import Eggvault.Native.Device

/-!
# Primitive operations

The Arduino, RV8803, `Preferences` and sleep calls that `main.cpp` makes, each
with its weakest precondition.
-/

namespace Eggvault.Native

open Prog

/-! ## Records -/

/-- Record an event. -/
def emit (e : Event) : Fw Unit := modify fun w => { w with trace := e :: w.trace }

/-- The device once a call is recorded. -/
def World.called (w : World) (f : Callee) : World := { w with trace := .call f w.moment :: w.trace }

/-- Record a call. -/
def call (f : Callee) : Fw Unit := modify fun w => w.called f

/-! ## Inputs -/

/-- The minute at which the RTC raised its line since the last reading: the alarm
    interrupt is enabled and the comparator sees a match. -/
def World.firing (w : World) (s : Sample) : Option RtcTime :=
  s.fired.filter fun t => w.rtc.armed && w.rtc.alarmMatches t

/-- The passing of time up to a reading. -/
def World.observe (w : World) (s : Sample) : World :=
  { w with
    tick := w.tick + 1
    -- the line stays high until the flags are cleared
    rtc := { w.rtc with clkInt := w.rtc.clkInt || (w.firing s).isSome }
    trace := match w.firing s with
      | some t => .alarmFired t :: w.trace
      | none => w.trace }

/-- Take the next sample of the environment. -/
def sample : Fw Sample := fun ω w => .done (ω w.tick) (w.observe (ω w.tick))

/-- The input lines the firmware reads, and the LED pad. -/
inductive InPin where
  | endUp | endLow | swSelect | swExit | swBack | swFwd | clkInt | led
  deriving Repr, DecidableEq

/-- The level of a line at the moment of a sample. -/
def World.level (w : World) (s : Sample) : InPin → Bool
  | .endUp => s.endUp
  | .endLow => s.endLow
  | .swSelect => s.swSelect
  | .swExit => s.swExit
  | .swBack => s.swBack
  | .swFwd => s.swFwd
  | .clkInt => w.rtc.clkInt
  | .led => w.pins.ledPad

/-- `digitalRead`. -/
def digitalRead (pin : InPin) : Fw Bool := do
  let s ← sample
  let w ← get
  pure (w.level s pin)

/-- `millis()`. -/
def millis : Fw UInt32 := do
  let s ← sample
  pure s.millis

/-- `adc_ldr.readMiliVolts()`. -/
def readMilliVolts : Fw UInt32 := do
  let s ← sample
  pure s.milliVolts

/-- `rtc.updateTime()`: copy the calendar registers. -/
def updateTime : Fw Unit := do
  call .updateTime
  let s ← sample
  modify fun w => { w with rtc := { w.rtc with snapshot := s.rtc } }

/-! ## Outputs -/

/-- The lines the firmware drives and the model follows. -/
inductive OutPin where
  | mFwd | mBack | led
  deriving Repr, DecidableEq

/-- `digitalWrite`. -/
def digitalWrite (pin : OutPin) (v : Bool) : Fw Unit :=
  match pin with
  | .mFwd => modify fun w => { w with
      pins := { w.pins with fwd := v }, trace := .motorWrite v w.pins.back :: w.trace }
  | .mBack => modify fun w => { w with
      pins := { w.pins with back := v }, trace := .motorWrite w.pins.fwd v :: w.trace }
  | .led => modify fun w => { w with pins := { w.pins with led := v } }

/-- Assignments to the globals of one part. -/
def modifyClk (f : Clock → Clock) : Fw Unit := modify fun w => { w with clk := f w.clk }

@[inherit_doc modifyClk]
def modifyDoor (f : Door → Door) : Fw Unit := modify fun w => { w with door := f w.door }

@[inherit_doc modifyClk]
def modifySched (f : Sched → Sched) : Fw Unit := modify fun w => { w with sched := f w.sched }

@[inherit_doc modifyClk]
def modifyMenu (f : Menu → Menu) : Fw Unit := modify fun w => { w with menu := f w.menu }

@[inherit_doc modifyClk]
def modifyBtn (f : Buttons → Buttons) : Fw Unit := modify fun w => { w with btn := f w.btn }

/-- Record what is being worked on. -/
def setDispatch (d : Dispatch) : Fw Unit := modify fun w => { w with dispatch := d }

/-- `esp_sleep_enable_timer_wakeup`. -/
def enableTimerWakeup (us : UInt64) : Fw Unit := modify fun w => { w with timer := some us }

/-- `memory.putInt` and `memory.putBytes`. -/
def memoryPut (k : NvsKey) (v : k.Value) : Fw Unit :=
  modify fun w => { w with nvs := w.nvs.put k v }

/-- `gpio_hold_en(LED)`: lock the pad at its level. -/
def ledHoldEn : Fw Unit :=
  modify fun w => { w with pins := { w.pins with held := some w.pins.ledPad } }

/-! ## Weakest preconditions of the primitives -/

section Wp

variable {ω : Env} {w : World}

@[simp] theorem wp_digitalRead {post : Post World Bool} (pin : InPin) :
    wp (digitalRead pin) post ω w ↔
      post.done ((w.observe (ω w.tick)).level (ω w.tick) pin) (w.observe (ω w.tick)) := wp_iff

@[simp] theorem wp_millis {post : Post World UInt32} :
    wp millis post ω w ↔ post.done (ω w.tick).millis (w.observe (ω w.tick)) := wp_iff

@[simp] theorem wp_readMilliVolts {post : Post World UInt32} :
    wp readMilliVolts post ω w ↔
      post.done (ω w.tick).milliVolts (w.observe (ω w.tick)) := wp_iff

variable {post : Post World Unit}

@[simp] theorem wp_updateTime :
    wp updateTime post ω w ↔
      post.done () { (w.called .updateTime).observe (ω w.tick) with
        rtc := { (w.observe (ω w.tick)).rtc with snapshot := (ω w.tick).rtc } } := wp_iff

@[simp] theorem wp_digitalWrite_led (v : Bool) :
    wp (digitalWrite .led v) post ω w ↔
      post.done () { w with pins := { w.pins with led := v } } := wp_iff

@[simp] theorem wp_digitalWrite_mFwd (v : Bool) :
    wp (digitalWrite .mFwd v) post ω w ↔
      post.done () { w with
        pins := { w.pins with fwd := v }, trace := .motorWrite v w.pins.back :: w.trace } := wp_iff

@[simp] theorem wp_digitalWrite_mBack (v : Bool) :
    wp (digitalWrite .mBack v) post ω w ↔
      post.done () { w with
        pins := { w.pins with back := v }, trace := .motorWrite w.pins.fwd v :: w.trace } := wp_iff

@[simp] theorem wp_modifyClk (f : Clock → Clock) :
    wp (modifyClk f) post ω w ↔ post.done () { w with clk := f w.clk } := wp_iff

@[simp] theorem wp_modifyDoor (f : Door → Door) :
    wp (modifyDoor f) post ω w ↔ post.done () { w with door := f w.door } := wp_iff

@[simp] theorem wp_modifySched (f : Sched → Sched) :
    wp (modifySched f) post ω w ↔ post.done () { w with sched := f w.sched } := wp_iff

@[simp] theorem wp_modifyMenu (f : Menu → Menu) :
    wp (modifyMenu f) post ω w ↔ post.done () { w with menu := f w.menu } := wp_iff

@[simp] theorem wp_modifyBtn (f : Buttons → Buttons) :
    wp (modifyBtn f) post ω w ↔ post.done () { w with btn := f w.btn } := wp_iff

@[simp] theorem wp_emit (e : Event) :
    wp (emit e) post ω w ↔ post.done () { w with trace := e :: w.trace } := wp_iff

@[simp] theorem wp_call (f : Callee) : wp (call f) post ω w ↔ post.done () (w.called f) := wp_iff

@[simp] theorem wp_setDispatch (d : Dispatch) :
    wp (setDispatch d) post ω w ↔ post.done () { w with dispatch := d } := wp_iff

@[simp] theorem wp_enableTimerWakeup (us : UInt64) :
    wp (enableTimerWakeup us) post ω w ↔ post.done () { w with timer := some us } := wp_iff

@[simp] theorem wp_memoryPut (k : NvsKey) (v : k.Value) :
    wp (memoryPut k v) post ω w ↔ post.done () { w with nvs := w.nvs.put k v } := wp_iff

@[simp] theorem wp_ledHoldEn :
    wp ledHoldEn post ω w ↔
      post.done () { w with pins := { w.pins with held := some w.pins.ledPad } } := wp_iff

end Wp

/-! ## What the passing of time leaves alone -/

namespace World

variable (w : World) (s : Sample)

@[simp] theorem observe_sched : (w.observe s).sched = w.sched := rfl
@[simp] theorem observe_pins : (w.observe s).pins = w.pins := rfl

end World

end Eggvault.Native
