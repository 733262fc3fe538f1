import Eggvault.ForStd.Debounce
import Eggvault.Spec.BootActions
import Eggvault.Spec.LightCorrect

/-!
# Waiting for light

A device that waits for light sleeps, wakes up by the timer, measures, and sleeps again.  From the
outside it is a debouncer whose inputs are the outcomes of the measurements.  The threshold of a
timer wake-up is 0, so that an opening counts every measurement as a hit, and a closing only those
between the first two entries of `voltMap`.

## Key results

- `polls_debounced`: a device that waits for light moves the door when the debouncer is full
- `opens_at_third_poll`: an opening by light does not wait for light
- `never_closes_off_step`: nothing else than a reading between 300 and 600 mV closes the door
-/

namespace Eggvault.Spec

open Eggvault.Native Prog Trace TimeLib

/-! ## One wake-up -/

/-- The light check of a wake-up by the timer, from the sleeping device: ten readings later. -/
def pollHits (ω : Env) (w : World) (pos : Klappenposition) : Bool :=
  hits pos (voltToLux (ω (w.tick + 10)).milliVolts) 0

/-- The events of a wake-up by the timer that does not move the door. -/
def isPoll : Event → Bool
  | .alarmFired _ | .booted .timer | .lightCheck _ _ _ => true
  | .call .updateTime _ | .call .prepForDeepSleep _ => true
  | _ => false

/-- The device waits for light: it sleeps until the timer wakes it up to the next check. -/
structure Polling (pos : Klappenposition) (c : Nat) (tr : List Event) (s : Phase × World) : Prop where
  asleep : s.1 = .asleep
  ldrFlag : s.2.sched.ldrFlag = pos
  counter : s.2.sched.ramCounter.toNat = c
  timer : s.2.timer.isSome = true
  trace : Extends isPoll tr s.2.trace

/-- The device has waited, and then it has ordered a move. -/
def Ordered (pos : Klappenposition) (tr : List Event) (w : World) : Prop :=
  ∃ tick tl, Extends isPoll tr tl ∧ .lightMove pos tick :: tl <:+ w.trace

/-- The light check of a wake-up by the timer is next. -/
structure AtPoll (pos : Klappenposition) (c : UInt8) (w₀ w : World) : Prop where
  tick : w.tick = w₀.tick + 9
  ldrFlag : w.sched.ldrFlag = pos
  counter : w.sched.ramCounter = c
  nextLux : w.sched.nextLux = 0
  trace : Extends isPoll w₀.trace w.trace

section Poll

variable [TimeLib] {ω : Env} {w w₀ : World} {pos : Klappenposition} {c : UInt8}
  {alarmFlag : Klappenposition}

/-- A wake-up by the timer, up to its light check. -/
theorem wp_boot_poll {n : Nat} {post : Post World Unit} (hs : w₀.sched = {}) (hm : w₀.menu = {})
    (hd : w₀.door = {}) (hc : w₀.clk = {}) (hcause : w₀.wakeup = .timer)
    (hflags : restoredFlags w₀.nvs w₀.rtc.ram = (c, pos, alarmFlag))
    (hpoll : ∀ w, AtPoll pos c w₀ w → wp (do timerWakeupHandling n; setupEnd n) post ω w) :
    wp (boot n) post ω w₀ := by
  apply wp_boot_timer hs hm hd hc hcause
  intro w₁ w h
  have hr := h.rebooted
  have hfiring : ∀ e, isFiring e = true → isPoll e = true := by
    intro e he
    cases e <;> first | rfl | cases he
  have hbooted : Extends isPoll w₀.trace (.booted w₀.wakeup :: w₁.trace) := by
    rw [hcause]
    exact (hr.keeps (P := Extends isPoll w₀.trace) (fun e tr he htr => htr.cons (hfiring e he))
      (fun m tr _ htr => htr.cons rfl) (.refl _)).cons rfl
  apply hpoll
  constructor
  · rw [h.tick, hr.tick]
  · rw [h.sched]
    show w₁.sched.ldrFlag = pos
    rw [hr.ldrFlag, hflags]
  · rw [h.sched]
    show w₁.sched.ramCounter = c
    rw [hr.ramCounter, hflags]
  · rw [h.sched]
    exact hr.nextLux
  · exact hbooted.trans (h.trace.mono hfiring)

omit [TimeLib] in
/-- One input of the debouncer, as the firmware computes it. -/
theorem debounce_step (hc : c ≤ 15) (hit : Bool) :
    Debounce.step 3 c.toNat hit =
      if hit = true ∧ c + 1 ≥ luxDebounceNumber then none else some (counted hit c).1.toNat := by
  have hsucc : (c + 1).toNat = c.toNat + 1 := by
    have hle := UInt8.le_iff_toNat_le.mp hc
    rw [UInt8.toNat_add]
    show (c.toNat + 1) % 256 = _
    have h15 : (15 : UInt8).toNat = 15 := rfl
    omega
  have hfull : c + 1 ≥ luxDebounceNumber ↔ 3 ≤ c.toNat + 1 := by
    rw [ge_iff_le, UInt8.le_iff_toNat_le, hsucc]
    exact Iff.rfl
  unfold Debounce.step counted
  cases hit with
  | true =>
    simp only [if_true, true_and, hfull, hsucc]
    by_cases hlt : c.toNat + 1 < 3
    · rw [if_pos hlt, if_neg (by omega)]
    · rw [if_neg hlt, if_pos (by omega)]
  | false => simp

/-- A light check that does not fill the counter leads back to sleep. -/
theorem timerWakeupHandling_waits {n : Nat} (hn : 0 < n) (hpos : pos = .posUp ∨ pos = .posDown)
    (hat : AtPoll pos c w₀ w) (hc : c ≤ 15) {k : Nat}
    (hstep : Debounce.step 3 c.toNat (hitsNow ω w pos) = some k) :
    wp (timerWakeupHandling n)
      ⟨fun _ _ => False, fun w' => Polling pos k w₀.trace (.asleep, w'), fun _ => False⟩ ω w := by
  obtain ⟨n, rfl⟩ : ∃ m, n = m + 1 := ⟨n - 1, by omega⟩
  have hk : k < 3 := Debounce.step_lt (by omega) hstep
  rw [debounce_step hc] at hstep
  have hnot : ¬ (hitsNow ω w pos = true ∧ c + 1 ≥ luxDebounceNumber) := by
    intro ht
    rw [if_pos ht] at hstep
    cases hstep
  rw [if_neg hnot, ← hat.counter] at hstep
  rw [timerWakeupHandling, wp_bind]
  refine activateLDR_cases n hpos hat.ldrFlag (fun ht => ?_) (fun _ => ?_)
  · rw [Triggers, hat.counter] at ht
    exact absurd ht hnot
  · apply (wp_when _ _).mpr
    refine ⟨fun _ => wp_prepForDeepSleep.mpr ?_, fun hne => absurd hne (by decide)⟩
    have hcount : (counted (hitsNow ω w pos) w.sched.ramCounter).1.toNat = k := Option.some.inj hstep
    have hsmall : ¬ (counted (hitsNow ω w pos) w.sched.ramCounter).1 > 15 := by
      rw [gt_iff_lt, UInt8.lt_iff_toNat_lt, hcount]
      show ¬ 15 < k
      omega
    have hcheck : Extends isPoll w₀.trace (measured ω w pos).trace :=
      (extends_observe hat.trace (fun _ => rfl) _).cons rfl
    exact
      { asleep := rfl
        ldrFlag := hat.ldrFlag
        counter := by
          show (if (counted (hitsNow ω w pos) w.sched.ramCounter).1 > 15 then 15
            else (counted (hitsNow ω w pos) w.sched.ramCounter).1).toNat = k
          rw [if_neg hsmall]
          exact hcount
        timer := rfl
        trace := extends_observe (w := (measured ω w pos).called .prepForDeepSleep)
          (hcheck.cons rfl) (fun _ => rfl) _ }

/-- A light check that fills the counter orders a move. -/
theorem timerWakeupHandling_orders {n : Nat} (hn : 0 < n) (hpos : pos = .posUp ∨ pos = .posDown)
    (hat : AtPoll pos c w₀ w) (hc : c ≤ 15)
    (hstep : Debounce.step 3 c.toNat (hitsNow ω w pos) = none) :
    wp (do timerWakeupHandling n; setupEnd n) (anywhere (Ordered pos w₀.trace)) ω w := by
  obtain ⟨n, rfl⟩ : ∃ m, n = m + 1 := ⟨n - 1, by omega⟩
  have hfull : hitsNow ω w pos = true ∧ c + 1 ≥ luxDebounceNumber := by
    by_contra hnot
    rw [debounce_step hc, if_neg hnot] at hstep
    cases hstep
  have hclosed : WakeClosed ω (Ordered pos w₀.trace) := by
    rintro w w' ha ⟨tick, tl, hext, hsuffix⟩
    exact ⟨tick, tl, hext, hsuffix.trans ha.suffix⟩
  have hordered : Ordered pos w₀.trace (triggered ω w pos) := by
    have hread : Extends isPoll w₀.trace (w.observe (ω w.tick)).trace :=
      extends_observe hat.trace (fun _ => rfl) _
    exact ⟨w.tick + 1, _, hread.cons rfl, List.suffix_refl _⟩
  rw [wp_bind, timerWakeupHandling, wp_bind]
  refine activateLDR_cases n hpos hat.ldrFlag (fun _ => ?_) (fun ht => ?_)
  · apply wp_weaken (hclosed.work.moveMotor n hpos _ hordered)
    intro _ w₁ h₁
    apply (wp_when _ _).mpr
    exact ⟨fun hne => absurd rfl hne, fun _ => hclosed.setupEnd (fun _ _ h => h) (n + 1) w₁ h₁⟩
  · rw [Triggers, hat.counter] at ht
    exact absurd hfull ht

end Poll

/-! ## Sleeping on -/

section Polls

variable [TimeLib] {ω : Env} {w : World} {pos : Klappenposition} {c : UInt8}
  {alarmFlag : Klappenposition}

/-- Wake-ups by the timer from the sleeping device `w₀` on, with the outcomes of their light checks,
    the last wake-up being the newest one.  Each boot is long enough for its light check. -/
inductive PollRun (ω : Env) (pos : Klappenposition) (w₀ : World) : List Bool → Phase × World → Prop
    where
  | start : PollRun ω pos w₀ [] (.asleep, w₀)
  | wake (n : Nat) {hits : List Bool} {w : World} (hr : PollRun ω pos w₀ hits (.asleep, w))
      (hn : 0 < n) (hw : wakes (w.observe (ω w.tick)) (ω w.tick) .timer) :
      PollRun ω pos w₀ (hits ++ [pollHits ω w pos])
        (afterCall (boot n ω ((w.observe (ω w.tick)).reset .timer)))

theorem PollRun.run {w₁ : World} {hits : List Bool} {s : Phase × World}
    (h : PollRun ω pos w hits s) (hr : Run ω w₁ (.asleep, w)) : Run ω w₁ s := by
  induction h with
  | start => exact hr
  | wake n _ _ hw ih => exact .step ih (.wake n _ .timer hw)

/-- A wake-up by the timer is one input of the debouncer. -/
theorem boot_poll {n : Nat} {tr : List Event} (hn : 0 < n) (hpos : pos = .posUp ∨ pos = .posDown)
    (hflags : restoredFlags w.nvs w.rtc.ram = (c, pos, alarmFlag)) (hc : c ≤ 15)
    (htr : Extends isPoll tr w.trace) :
    (∀ k, Debounce.step 3 c.toNat (pollHits ω w pos) = some k →
      Polling pos k tr (afterCall (boot n ω ((w.observe (ω w.tick)).reset .timer)))) ∧
    (Debounce.step 3 c.toNat (pollHits ω w pos) = none →
      Ordered pos tr (afterCall (boot n ω ((w.observe (ω w.tick)).reset .timer))).2) := by
  let w₀ := (w.observe (ω w.tick)).reset .timer
  have hobserved : Extends isPoll tr w₀.trace := extends_observe htr (fun _ => rfl) _
  have hlevel : ∀ v, AtPoll pos c w₀ v → hitsNow ω v pos = pollHits ω w pos := by
    intro v hat
    have htick : v.tick = w.tick + 10 := hat.tick
    rw [hitsNow, level, hat.nextLux, htick]
    rfl
  constructor
  · intro k hstep
    have hboot : wp (boot n) ⟨fun _ _ => False, fun w' => Polling pos k w₀.trace (.asleep, w'),
        fun _ => False⟩ ω w₀ := by
      refine wp_boot_poll rfl rfl rfl rfl rfl hflags fun v hat => ?_
      rw [← hlevel v hat] at hstep
      exact wp_seq (timerWakeupHandling_waits hn hpos hat hc hstep) fun _ _ h => h.elim
    rw [wp_iff] at hboot
    show Polling pos k tr (afterCall (boot n ω w₀))
    cases hrun : boot n ω w₀ with
    | done _ w' => rw [hrun] at hboot; exact hboot.elim
    | halt w' =>
      rw [hrun] at hboot
      have hwait : Polling pos k w₀.trace (.asleep, w') := hboot
      exact { hwait with trace := hobserved.trans hwait.trace }
    | pending w' => rw [hrun] at hboot; exact hboot.elim
  · intro hstep
    have hboot : wp (boot n) (anywhere (Ordered pos w₀.trace)) ω w₀ := by
      refine wp_boot_poll rfl rfl rfl rfl rfl hflags fun v hat => ?_
      rw [← hlevel v hat] at hstep
      exact timerWakeupHandling_orders hn hpos hat hc hstep
    obtain ⟨tick, tl, hext, hsuffix⟩ := afterCall_of_anywhere hboot
    exact ⟨tick, tl, hobserved.trans hext, hsuffix⟩

/-- A wake-up of a device that waits for light. -/
theorem Polling.wake {w₁ v : World} {k : Nat} {tr : List Event} (hn : 0 < n)
    (hr : Run ω w₁ (.asleep, v)) (hpos : pos = .posUp ∨ pos = .posDown)
    (h : Polling pos k tr (.asleep, v)) :
    (∀ k', Debounce.step 3 k (pollHits ω v pos) = some k' →
      Polling pos k' tr (afterCall (boot n ω ((v.observe (ω v.tick)).reset .timer)))) ∧
    (Debounce.step 3 k (pollHits ω v pos) = none →
      Ordered pos tr (afterCall (boot n ω ((v.observe (ω v.tick)).reset .timer))).2) := by
  have hasleep : Asleep (StoredModes w₁.nvs) v := run_invariant hr
  have hflags := hasleep.restoredFlags
  have hldr : v.sched.ldrFlag = pos := h.ldrFlag
  have hcount : v.sched.ramCounter.toNat = k := h.counter
  rw [hldr] at hflags
  have hboot := boot_poll (ω := ω) hn hpos hflags hasleep.base.counter h.trace
  rw [hcount] at hboot
  exact hboot

/-- As long as the debouncer is not full the device sleeps on, by induction on the wake-ups. -/
theorem PollRun.waits {w₁ : World} {hits : List Bool} {s : Phase × World}
    (hr : Run ω w₁ (.asleep, w)) (hpos : pos = .posUp ∨ pos = .posDown)
    (hf : w.sched.ldrFlag = pos) (ht : w.timer.isSome = true) (h : PollRun ω pos w hits s) :
    ∀ k, Debounce.run 3 w.sched.ramCounter.toNat hits = some k → Polling pos k w.trace s := by
  induction h with
  | start =>
    intro k hk
    exact ⟨rfl, hf, Option.some.inj hk, ht, .refl _⟩
  | @wake n hits v hrun hn hw ih =>
    intro k' hk'
    rw [Debounce.run_concat] at hk'
    cases hk : Debounce.run 3 w.sched.ramCounter.toNat hits with
    | none =>
      rw [hk] at hk'
      cases hk'
    | some k =>
      rw [hk] at hk'
      exact ((ih k hk).wake hn (hrun.run hr) hpos).1 k' hk'

/-- With the check that fills the debouncer the device orders the move. -/
theorem PollRun.orders {w₁ : World} {hits : List Bool} {s : Phase × World}
    (hr : Run ω w₁ (.asleep, w)) (hpos : pos = .posUp ∨ pos = .posDown)
    (hf : w.sched.ldrFlag = pos) (ht : w.timer.isSome = true) (h : PollRun ω pos w hits s)
    (hearlier : Debounce.run 3 w.sched.ramCounter.toNat hits.dropLast ≠ none)
    (hfull : Debounce.run 3 w.sched.ramCounter.toNat hits = none) : Ordered pos w.trace s.2 := by
  cases h with
  | start => exact absurd hfull hearlier
  | @wake n hits v hrun hn hw =>
    rw [List.dropLast_concat] at hearlier
    obtain ⟨k, hk⟩ := Option.ne_none_iff_exists'.mp hearlier
    rw [Debounce.run_concat, hk] at hfull
    exact ((hrun.waits hr hpos hf ht k hk).wake hn (hrun.run hr) hpos).2 hfull

/-- A device that sleeps with a move by light pending is a debouncer: it sleeps on and keeps the
    count as long as the debouncer is not full, and it orders the move when it is. -/
theorem polls_debounced {w₁ : World} {hits : List Bool} {s : Phase × World}
    (hr : Run ω w₁ (.asleep, w)) (hpos : pos = .posUp ∨ pos = .posDown)
    (hf : w.sched.ldrFlag = pos) (ht : w.timer.isSome = true) (h : PollRun ω pos w hits s) :
    (∀ k, Debounce.run 3 w.sched.ramCounter.toNat hits = some k → Polling pos k w.trace s) ∧
    (Debounce.run 3 w.sched.ramCounter.toNat hits.dropLast ≠ none →
      Debounce.run 3 w.sched.ramCounter.toNat hits = none → Ordered pos w.trace s.2) := by
  have hwait := h.waits hr hpos hf ht
  have horder := h.orders hr hpos hf ht
  exact ⟨hwait, horder⟩

omit [TimeLib] in
/-- An opening counts every measurement as a hit. -/
theorem pollHits_posUp (ω : Env) (w : World) : pollHits ω w .posUp = true := by
  rw [pollHits, hits, if_neg (by decide)]
  exact decide_eq_true (UInt8.le_iff_toNat_le.mpr (Nat.zero_le _))

theorem PollRun.hits_posUp {hits : List Bool} {s : Phase × World} (h : PollRun ω .posUp w hits s) :
    hits = List.replicate hits.length true := by
  induction h with
  | start => rfl
  | @wake n hits v _ _ _ ih =>
    rw [pollHits_posUp, List.length_append, List.length_singleton, List.replicate_succ', ← ih]

/-- The light has no say in an opening by light: whatever it is, the door moves with the third of
    the checks, those of the earlier wake-ups included, and not before. -/
theorem opens_at_third_poll {w₁ : World} {hits : List Bool} {s : Phase × World}
    (hr : Run ω w₁ (.asleep, w)) (hf : w.sched.ldrFlag = .posUp) (ht : w.timer.isSome = true)
    (h : PollRun ω .posUp w hits s) :
    (w.sched.ramCounter.toNat + hits.length < 3 →
      Polling .posUp (w.sched.ramCounter.toNat + hits.length) w.trace s) ∧
    (hits ≠ [] → w.sched.ramCounter.toNat + hits.length = 3 → Ordered .posUp w.trace s.2) := by
  have hall := h.hits_posUp
  have hwait := h.waits hr (.inl rfl) hf ht
  have hmove := h.orders hr (.inl rfl) hf ht
  constructor
  · intro hlt
    apply hwait
    rw [hall, List.length_replicate]
    exact Debounce.run_replicate_true hlt
  · intro hne hfull
    obtain ⟨k, hk⟩ : ∃ k, hits.length = k + 1 :=
      ⟨hits.length - 1, by have hpos := List.length_pos_of_ne_nil hne; omega⟩
    have hearlier := Debounce.run_replicate_true (n := 3) (c := w.sched.ramCounter.toNat) (k := k)
      (by omega)
    have hsplit : hits = List.replicate k true ++ [true] := by
      rw [hall, hk, List.replicate_succ']
    apply hmove
    · rw [hsplit, List.dropLast_concat, hearlier]
      exact Option.some_ne_none _
    · rw [hsplit, Debounce.run_concat, hearlier]
      show Debounce.step 3 (w.sched.ramCounter.toNat + k) true = none
      rw [Debounce.step, if_pos rfl, if_neg (by omega)]

omit [TimeLib] in
/-- A closing counts only the readings on the lowest step of the scale. -/
theorem pollHits_posDown {ω : Env} {w : World} (h : pollHits ω w .posDown = true) :
    OnStep 0 (ω (w.tick + 10)).milliVolts := by
  rw [pollHits, hits, if_pos rfl] at h
  have hle := UInt8.le_iff_toNat_le.mp (of_decide_eq_true h)
  have hzero : (voltToLux (ω (w.tick + 10)).milliVolts).toNat = 0 := Nat.le_zero.mp hle
  rcases voltToLux_spec (ω (w.tick + 10)).milliVolts with ⟨i, -, hi, heq⟩ | ⟨-, heq⟩
  · have h0 : i = 0 := by omega
    rw [h0] at hi
    exact hi
  · omega

/-- A door that waits for light to close stays open for ever unless some reading lies between
    300 and 600 mV: darkness below that does not close it. -/
theorem never_closes_off_step {w₁ : World} {hits : List Bool} {s : Phase × World}
    (hr : Run ω w₁ (.asleep, w)) (hf : w.sched.ldrFlag = .posDown) (ht : w.timer.isSome = true)
    (hω : ∀ n, (ω n).milliVolts ≤ 300 ∨ 600 ≤ (ω n).milliVolts) (h : PollRun ω .posDown w hits s) :
    ∃ c, Polling .posDown c w.trace s := by
  have hmiss : ∀ v, pollHits ω v .posDown = false := by
    intro v
    rw [← Bool.not_eq_true]
    intro hhit
    obtain ⟨hlow, hhigh⟩ := pollHits_posDown hhit
    rcases hω (v.tick + 10) with hle | hle
    · exact absurd hlow (UInt32.not_lt.mpr hle)
    · exact absurd hhigh (UInt32.not_lt.mpr hle)
  have hall : hits = List.replicate hits.length false := by
    clear hr
    induction h with
    | start => rfl
    | @wake n hits v _ _ _ ih =>
      rw [hmiss, List.length_append, List.length_singleton, List.replicate_succ', ← ih]
  have hrun := Debounce.run_replicate_false 3 w.sched.ramCounter.toNat hits.length
  rw [← hall] at hrun
  obtain ⟨c, hc⟩ := Option.isSome_iff_exists.mp hrun
  exact ⟨c, h.waits hr (.inr rfl) hf ht c hc⟩

/-- A wake-up of a run that is computed. -/
theorem PollRun.reached {w₁ : World} {hits : List Bool} {p : Phase} (r : Reached ω w₁ .asleep)
    (h : PollRun ω pos w hits (.asleep, r.world)) (n : Nat) (hn : 0 < n)
    (hw : wakes (r.world.observe (ω r.world.tick)) (ω r.world.tick) .timer)
    (hp : (afterCall (boot n ω ((r.world.observe (ω r.world.tick)).reset .timer))).1 = p)
    (hit : Bool) (hhit : pollHits ω r.world pos = hit) :
    PollRun ω pos w (hits ++ [hit]) (p, (r.wake n .timer hw hp).world) := by
  subst hp hhit
  exact .wake n h hn hw

end Polls

/-! At dusk a door that should open from level 5 on opens at level 2, with the third check. -/

theorem wakes_duskPolled :
    wakes (duskPolled.world.observe (duskEnv duskPolled.world.tick))
      (duskEnv duskPolled.world.tick) .timer := by
  decide +kernel

theorem asleep_duskPolled :
    (afterCall (boot 20 duskEnv ((duskPolled.world.observe
      (duskEnv duskPolled.world.tick)).reset .timer))).1 = .asleep := by
  decide +kernel

/-- The device after the second timer wake-up. -/
def duskWaiting : Reached duskEnv { nvs := duskNvs } .asleep :=
  duskPolled.wake 20 .timer wakes_duskPolled asleep_duskPolled

/-- The device in the move of the third timer wake-up. -/
def duskOpened : Reached duskEnv { nvs := duskNvs } .busy :=
  duskWaiting.wake 20 .timer (by decide +kernel) (by decide +kernel)

theorem pollRun_duskWaiting :
    PollRun duskEnv .posUp duskAsleep.world [true, true] (.asleep, duskWaiting.world) :=
  have hfirst : PollRun duskEnv .posUp duskAsleep.world [true] (.asleep, duskPolled.world) :=
    .reached duskAsleep .start 20 (by decide) _ _ true (by decide +kernel)
  .reached duskPolled hfirst 20 (by decide) _ _ true (by decide +kernel)

theorem pollRun_duskOpened :
    PollRun duskEnv .posUp duskAsleep.world [true, true, true] (.busy, duskOpened.world) :=
  .reached duskWaiting pollRun_duskWaiting 20 (by decide) _ _ true (by decide +kernel)

theorem ramCounter_duskAsleep : duskAsleep.world.sched.ramCounter = 0 := by decide +kernel

theorem polls_debounced_duskWaiting :
    Polling .posUp 2 duskAsleep.world.trace (.asleep, duskWaiting.world) := by
  have hrun : Debounce.run 3 duskAsleep.world.sched.ramCounter.toNat [true, true] = some 2 := by
    rw [ramCounter_duskAsleep]
    decide
  exact (polls_debounced duskAsleep.run (.inl rfl) (by decide +kernel) (by decide +kernel)
    pollRun_duskWaiting).1 2 hrun

theorem opens_at_third_poll_duskOpened :
    Ordered .posUp duskAsleep.world.trace duskOpened.world := by
  have hfull : duskAsleep.world.sched.ramCounter.toNat + [true, true, true].length = 3 := by
    rw [ramCounter_duskAsleep]
    decide
  have hpending : duskAsleep.world.sched.ldrFlag = .posUp := by decide +kernel
  have htimer : duskAsleep.world.timer.isSome = true := by decide +kernel
  have hmove := (opens_at_third_poll duskAsleep.run hpending htimer pollRun_duskOpened).2
    (by decide) hfull
  dsimp only at hmove
  exact hmove

/-! In the dark of a night, at 100 mV, a door that closes by light stays open. -/

/-- The flash of the run: the door closes up to level 5. -/
def darkNvs : Nvs := storedNvs { mode := 3 } { mode := 0, lux := 5 }

/-- The inputs of the run: the idle time is over at reading 14. -/
def darkEnv : Env := fun n =>
  { endUp := true, endLow := true, milliVolts := 100, rtc := noonMonday
    millis := if n < 14 then 0 else 5000000 }

/-- The device after the idle time. -/
def darkAsleep : Reached darkEnv { nvs := darkNvs } .asleep :=
  Reached.loop (.powerOn 20 (by decide +kernel)) 20 (by decide +kernel)

/-- The device after a timer wake-up. -/
def darkPolled : Reached darkEnv { nvs := darkNvs } .asleep :=
  darkAsleep.wake 20 .timer (by decide +kernel) (by decide +kernel)

theorem never_closes_off_step_darkPolled :
    ∃ c, Polling .posDown c darkAsleep.world.trace (.asleep, darkPolled.world) := by
  have hpoll : PollRun darkEnv .posDown darkAsleep.world [false] (.asleep, darkPolled.world) :=
    .reached darkAsleep .start 20 (by decide) _ _ false (by decide +kernel)
  have hdark : ∀ n, (darkEnv n).milliVolts ≤ 300 ∨ 600 ≤ (darkEnv n).milliVolts := by
    intro n
    show (100 : UInt32) ≤ 300 ∨ _
    exact .inl (by decide)
  exact never_closes_off_step darkAsleep.run (by decide +kernel) (by decide +kernel) hdark hpoll

end Eggvault.Spec
