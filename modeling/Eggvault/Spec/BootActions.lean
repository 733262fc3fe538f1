import Eggvault.Spec.ActionsCorrect

/-!
# Boots in an invariant

A boot is its start, which reads the flash and the clock, then the handling of the wake-up, and
then the end of `setup`.  `Rebooted` describes the start; where an invariant is about more than
that, it is carried through the start by its own rule.

## Key results

- `wp_boot_timer`, `wp_boot_alarm`: a wake-up by the timer or by the alarm, up to its handling
- `Closed.boot_after`: a boot whose start leads to an invariant of all actions
- `WakeClosed.boot`: a boot in an invariant of the handling of wake-ups
-/

namespace Eggvault.Spec

open Eggvault.Native Prog Trace TimeLib

variable [TimeLib] {ω : Env} {I : World → Prop} {w : World}

/-- A boot from its parts. -/
theorem wp_boot_parts {n : Nat} {post : Post World Unit} (h : wp (do
      (do initGlobals; setupStart)
      wakeupHandling n
      setupEnd n) post ω w) : wp (boot n) post ω w := by
  simp only [wp_bind] at h
  simp only [boot, setup, wp_bind]
  exact h

/-! ## Wake-ups by the timer and by the alarm -/

/-- A wake-up by the timer or by the alarm is about to be handled, `k` readings after the start of
    the boot has led from `w₀` to `w₁`. -/
structure Roused (ω : Env) (k : Nat) (w₀ w₁ v : World) : Prop where
  rebooted : Rebooted ω w₀ w₁
  tick : v.tick = w₁.tick + k
  clk : v.clk = w₁.clk
  door : v.door = w₁.door
  sched : v.sched = { w₁.sched with manualFlag := false }
  menu : v.menu = { w₁.menu with menuActive := false }
  timer : v.timer = w₁.timer
  trace : Extends isFiring (.booted w₀.wakeup :: w₁.trace) v.trace

/-- The level of the LED decides about the manual mode, which the timer takes back. -/
theorem wp_boot_timer {n : Nat} {post : Post World Unit} {w₀ : World} (hs : w₀.sched = {})
    (hm : w₀.menu = {}) (hd : w₀.door = {}) (hc : w₀.clk = {}) (hcause : w₀.wakeup = .timer)
    (h : ∀ w₁ v, Roused ω 1 w₀ w₁ v → wp (do timerWakeupHandling n; setupEnd n) post ω v) :
    wp (boot n) post ω w₀ := by
  apply wp_boot_parts
  apply wp_then (setupStart_rebooted hs hm hd hc)
  intro _ w₁ hr
  have hwake : w₁.wakeup = .timer := hr.wakeup.trans hcause
  have hread : ∀ v : World, v.trace = .booted .timer :: w₁.trace →
      Extends isFiring (.booted w₀.wakeup :: w₁.trace) (v.observe (ω w₁.tick)).trace := by
    intro v hv
    rw [hcause]
    exact extends_observe (by rw [hv]; exact .refl _) (fun _ => rfl) _
  simp only [wakeupHandling, restoreManualFlag, wp_bind, wp_get, wp_emit, wp_modifySched,
    wp_digitalRead, wp_when, hwake, wp_setDispatch, wp_modifyMenu] at h ⊢
  exact ⟨fun _ => h w₁ _ ⟨hr, rfl, rfl, rfl, rfl, rfl, rfl, hread _ rfl⟩,
    fun _ => h w₁ _ ⟨hr, rfl, rfl, rfl, rfl, rfl, rfl, hread _ rfl⟩⟩

/-- An alarm takes the manual mode back as well, after a second look at the LED. -/
theorem wp_boot_alarm {n : Nat} {post : Post World Unit} {w₀ : World} (hs : w₀.sched = {})
    (hm : w₀.menu = {}) (hd : w₀.door = {}) (hc : w₀.clk = {}) (hcause : w₀.wakeup = .ext1 .clkInt)
    (h : ∀ w₁ v, Roused ω 2 w₀ w₁ v → wp (do alarmWakeupHandling n; setupEnd n) post ω v) :
    wp (boot n) post ω w₀ := by
  apply wp_boot_parts
  apply wp_then (setupStart_rebooted hs hm hd hc)
  intro _ w₁ hr
  have hwake : w₁.wakeup = .ext1 .clkInt := hr.wakeup.trans hcause
  have hread : ∀ (v : World) (t : Nat), v.trace = .booted (.ext1 .clkInt) :: w₁.trace →
      Extends isFiring (.booted w₀.wakeup :: w₁.trace)
        ((v.observe (ω w₁.tick)).observe (ω t)).trace := by
    intro v t hv
    rw [hcause]
    refine extends_observe (extends_observe ?_ (fun _ => rfl) _) (fun _ => rfl) _
    rw [hv]
    exact .refl _
  simp only [wakeupHandling, restoreManualFlag, restoreManualFlagExt1, ext1Wakeup, wp_bind, wp_get,
    wp_emit, wp_modifySched, wp_digitalRead, wp_when, hwake, wp_setDispatch, wp_modifyMenu] at h ⊢
  refine ⟨fun _ => ⟨fun _ => ?_, fun _ => ?_⟩, fun _ => ⟨fun _ => ?_, fun _ => ?_⟩⟩
  · exact h w₁ _ ⟨hr, rfl, rfl, rfl, rfl, rfl, rfl, hread _ _ rfl⟩
  · exact h w₁ _ ⟨hr, rfl, rfl, rfl, rfl, rfl, rfl, hread _ _ rfl⟩
  · exact h w₁ _ ⟨hr, rfl, rfl, rfl, rfl, rfl, rfl, hread _ _ rfl⟩
  · exact h w₁ _ ⟨hr, rfl, rfl, rfl, rfl, rfl, rfl, hread _ _ rfl⟩

/-! ## Invariants -/

/-- A boot stays in an invariant of all actions to which its start has led. -/
theorem Closed.boot_after (h : Closed ω I) (n : Nat) (hs : w.sched = {})
    (hm : w.menu = {}) (hd : w.door = {}) (hc : w.clk = {}) (hb : w.dispatch = .boot)
    (hstart : wp (do initGlobals; Native.setupStart)
      ⟨fun _ w' => Rebooted ω w w' → I w', fun _ => False, fun _ => False⟩ ω w) :
    wp (Native.boot n) (anywhere I) ω w := by
  have hwake : WakeClosed ω fun w => I w ∧ w.menu.timeSetMode = .setNothing :=
    fun w w' ha hw => ⟨h.wake w w' ha hw.1, ha.timeSetMode.trans hw.2⟩
  apply wp_boot_parts
  refine wp_then (wp_mono (wp_and (setupStart_rebooted hs hm hd hc) hstart) (fun _ _ h => h)
    (fun _ h => h.1) (fun _ h => h.1)) ?_
  rintro _ w₁ ⟨hr, h₁⟩
  have hmode : w₁.menu.timeSetMode = .setNothing := by rw [hr.menu]
  have hrecord := h.wake _ _ (.booted w₁ (hr.dispatch.trans hb) hr.justRead) (h₁ hr)
  apply wp_seq (wp_mono (hwake.wakeupHandling n ⟨hrecord, hmode⟩) (fun _ _ h => h)
    (fun _ h => h.1) (fun _ h => h.1))
  intro _ w₂ h₂
  exact h.setupEnd n (fun h0 => h _ _ (.goTo w₂ 1 (.initial h0 h₂.2)) h₂.1) fun _ => h₂.1

namespace WakeClosed

/-- The end of `setup`, in an invariant that does not depend on the screen. -/
theorem setupEnd (h : WakeClosed ω I)
    (hid : ∀ w id, I w → I { w with menu := { w.menu with menuId := id } }) (n : Nat) :
    Stays I ω (setupEnd n) := by
  have hend : Stays I ω (do
      let now ← Native.millis
      Native.modifyBtn fun b => { b with blinkZero := now }) :=
    .bind h.millis fun _ => h.modifyBtn _
  have hmenu : ∀ id, Stays I ω (modifyMenu fun m => { m with menuId := id }) :=
    fun id => .modify fun w hw => hid w id hw
  refine .get_bind fun _ => .ite (.bind (hmenu 1) fun _ => hend) ?_
  refine .bind (.modify fun w hw => h _ _ (.dispatch w .setupStatus rfl) hw) fun _ => ?_
  exact .bind (h.work.statusabfrage n) fun _ => .bind (hmenu 0) fun _ => hend

/-- A boot stays in such an invariant. -/
theorem boot (h : WakeClosed ω I)
    (hid : ∀ w id, I w → I { w with menu := { w.menu with menuId := id } }) (n : Nat)
    (hs : w.sched = {}) (hm : w.menu = {}) (hd : w.door = {}) (hc : w.clk = {})
    (hstart : ∀ w', Rebooted ω w w' → I { w' with trace := .booted w'.wakeup :: w'.trace }) :
    wp (boot n) (anywhere I) ω w := by
  apply wp_boot_parts
  apply wp_then (setupStart_rebooted hs hm hd hc)
  intro _ w₁ hr
  exact wp_seq (h.wakeupHandling n (hstart w₁ hr)) fun _ w₂ h₂ => h.setupEnd hid n w₂ h₂

end WakeClosed

end Eggvault.Spec
