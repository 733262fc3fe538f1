import Mathlib.Order.Bounds.Basic

/-!
# Instants of a weekly clock

Time is counted in seconds from a Thursday midnight, weekdays from 0 for Sunday.
`At` says that an instant is the start of a given minute of a given weekday, `Next` that
it is the first one of a set after some moment.

`Reaches` describes a device that can look no further than to the end of the day: it goes
to the next due instant of the day or, if there is none, to midnight, and looks again a
few seconds later.

## Key results

- `next_today`, `next_midnight`, `next_week`: the next occurrence of a time of day
- `reaches_iff`: such a device finds the first due instant unless that is a midnight
-/

namespace Weekly

/-- The day of an instant. -/
def day (x : Nat) : Nat := x / 86400

/-- The weekday of an instant. -/
def weekday (x : Nat) : Nat := (x / 86400 + 4) % 7

/-- The start of minute `m` of hour `h` on weekday `k`. -/
structure At (k h m x : Nat) : Prop where
  second : x % 60 = 0
  minute : x / 60 % 60 = m
  hour : x / 3600 % 24 = h
  weekday : weekday x = k

/-- The first instant of `P` after `t`. -/
def Next (P : Nat → Prop) (t f : Nat) : Prop := IsLeast {x | t < x ∧ P x} f

section Next

variable {P : Nat → Prop} {k h m t t' f x : Nat}

theorem Next.lt (hf : Next P t f) : t < f := hf.1.1

theorem Next.holds (hf : Next P t f) : P f := hf.1.2

theorem Next.le (hf : Next P t f) (hx : t < x) (hp : P x) : f ≤ x := hf.2 ⟨hx, hp⟩

theorem Next.eq (hf : Next P t f) (hx : Next P t x) : f = x := IsLeast.unique hf hx

theorem Next.mk (ht : t < f) (hf : P f) (hle : ∀ x, t < x → P x → f ≤ x) : Next P t f :=
  ⟨⟨ht, hf⟩, fun x hx => hle x hx.1 hx.2⟩

/-- Nothing happens between `t` and `t'`. -/
theorem next_iff_of_none (ht : t ≤ t') (hnone : ∀ x, t < x → x ≤ t' → ¬ P x) :
    Next P t f ↔ Next P t' f := by
  constructor
  · intro hf
    have hlt : t' < f := by
      by_contra hle
      exact hnone f hf.lt (by omega) hf.holds
    exact .mk hlt hf.holds fun x hx hp => hf.le (by omega) hp
  · intro hf
    refine .mk (by have := hf.lt; omega) hf.holds fun x hx hp => ?_
    have hlt : t' < x := by
      by_contra hle
      exact hnone x hx (by omega) hp
    exact hf.le hlt hp

/-- An instant is its day and its time of day. -/
theorem At.eq (hx : At k h m x) : x = day x * 86400 + h * 3600 + m * 60 := by
  have h₁ := hx.second
  have h₂ := hx.minute
  have h₃ := hx.hour
  unfold day
  omega

theorem at_mk {d : Nat} (hh : h < 24) (hm : m < 60) (hk : (d + 4) % 7 = k) :
    At k h m (d * 86400 + h * 3600 + m * 60) where
  second := by omega
  minute := by omega
  hour := by omega
  weekday := by unfold Weekly.weekday; omega

theorem day_mk {d : Nat} (hh : h < 24) (hm : m < 60) : day (d * 86400 + h * 3600 + m * 60) = d := by
  unfold day
  omega

/-- A time of the day of `t` is still to come if its minute is. -/
theorem lt_mk_iff :
    t < day t * 86400 + h * 3600 + m * 60 ↔
      t / 3600 % 24 * 60 + t / 60 % 60 < h * 60 + m := by
  unfold day
  omega

/-- A time that is still to come on the day of `t`. -/
theorem next_today (hh : h < 24) (hm : m < 60) (ht : t / 3600 % 24 * 60 + t / 60 % 60 < h * 60 + m) :
    Next (At (weekday t) h m) t (day t * 86400 + h * 3600 + m * 60) := by
  refine .mk (lt_mk_iff.mpr ht) (at_mk hh hm rfl) fun x hx hat => ?_
  have hd : day t ≤ day x := Nat.div_le_div_right (Nat.le_of_lt hx)
  have := hat.eq
  omega

/-- The coming midnight. -/
theorem next_midnight : Next (At ((weekday t + 1) % 7) 0 0) t ((day t + 1) * 86400) := by
  have hat : At ((weekday t + 1) % 7) 0 0 ((day t + 1) * 86400 + 0 * 3600 + 0 * 60) := by
    apply at_mk (by omega) (by omega)
    unfold weekday day
    omega
  refine .mk (by unfold day; omega) (by simpa using hat) fun x hx hat => ?_
  have heq := hat.eq
  unfold day at heq ⊢
  omega

/-- Midnight of the weekday that `t` falls on is a week away. -/
theorem next_week : Next (At (weekday t) 0 0) t ((day t + 7) * 86400) := by
  have hat : At (weekday t) 0 0 ((day t + 7) * 86400 + 0 * 3600 + 0 * 60) := by
    apply at_mk (by omega) (by omega)
    unfold weekday day
    omega
  refine .mk (by unfold day; omega) (by simpa using hat) fun x hx hat => ?_
  have heq := hat.eq
  have hk := hat.weekday
  unfold weekday at hk
  unfold day at heq ⊢
  omega

end Next

/-! ## Looking ahead one day at a time -/

/-- From `t` the device ends up at the due instant `f`.  It is back at work `delay` seconds
    after a midnight. -/
inductive Reaches (due : Nat → Prop) (delay : Nat → Fin 60) : Nat → Nat → Prop where
  | today {t f : Nat} : Next due t f → day f = day t → Reaches due delay t f
  | midnight {t f : Nat} : (∀ x, due x → t < x → day x ≠ day t) →
      Reaches due delay ((day t + 1) * 86400 + delay ((day t + 1) * 86400)) f →
      Reaches due delay t f

section Reaches

variable {due : Nat → Prop} {delay : Nat → Fin 60} {t f : Nat}

theorem Reaches.lt (hr : Reaches due delay t f) : t < f := by
  induction hr with
  | today hf _ => exact hf.lt
  | @midnight t _ _ _ ih =>
    unfold day at ih
    omega

/-- From an evening without a due instant to the moment after midnight nothing is due,
    unless midnight itself is. -/
theorem next_iff_after_midnight (hwhole : ∀ x, due x → x % 60 = 0)
    (hnone : ∀ x, due x → t < x → day x ≠ day t) (hmid : ¬ due ((day t + 1) * 86400)) (d : Fin 60) :
    Next due t f ↔ Next due ((day t + 1) * 86400 + d) f := by
  have hd := d.isLt
  refine next_iff_of_none (by unfold day; omega) fun x hx hle hdue => ?_
  have hw := hwhole x hdue
  have hday := hnone x hdue hx
  by_cases heq : x = (day t + 1) * 86400
  · rw [heq] at hdue
    exact hmid hdue
  · unfold day at hday hle heq
    omega

/-- If a midnight is due first, it is the next due instant. -/
theorem next_of_midnight (hnone : ∀ x, due x → t < x → day x ≠ day t)
    (hmid : due ((day t + 1) * 86400)) : Next due t ((day t + 1) * 86400) := by
  refine .mk (by unfold day; omega) hmid fun x hx hdue => ?_
  have hday := hnone x hdue hx
  unfold day at hday ⊢
  omega

theorem Reaches.next (hwhole : ∀ x, due x → x % 60 = 0) (hr : Reaches due delay t f)
    (hmid : ∀ x, Next due t x → x ≤ f → x % 86400 ≠ 0) : Next due t f := by
  induction hr with
  | today hf _ => exact hf
  | @midnight t f hnone hr ih =>
    have hlt := hr.lt
    have hno : ¬ due ((day t + 1) * 86400) := by
      intro hdue
      exact hmid _ (next_of_midnight hnone hdue) (by omega) (by omega)
    rw [next_iff_after_midnight hwhole hnone hno]
    refine ih fun x hx hle => hmid x ?_ hle
    exact (next_iff_after_midnight hwhole hnone hno _).mpr hx

/-- The number of days up to the due instant bounds the number of midnights. -/
theorem Next.reaches (hwhole : ∀ x, due x → x % 60 = 0) (hf : Next due t f)
    (hmid : f % 86400 ≠ 0) : Reaches due delay t f := by
  induction hk : day f - day t using Nat.strongRecOn generalizing t with
  | ind k ih =>
    by_cases hd : day f = day t
    · exact .today hf hd
    · have hlt := hf.lt
      have hle : day t ≤ day f := Nat.div_le_div_right (Nat.le_of_lt hlt)
      have hnone : ∀ x, due x → t < x → day x ≠ day t := by
        intro x hdue hx heq
        have hfx := hf.le hx hdue
        have : day f ≤ day x := Nat.div_le_div_right hfx
        omega
      have hno : ¬ due ((day t + 1) * 86400) := by
        intro hdue
        have heq := hf.eq (next_of_midnight hnone hdue)
        omega
      have hnext := (next_iff_after_midnight hwhole hnone hno
        (delay ((day t + 1) * 86400))).mp hf
      refine .midnight hnone (ih _ ?_ hnext rfl)
      have hday : day ((day t + 1) * 86400 + delay ((day t + 1) * 86400)) = day t + 1 := by
        have := (delay ((day t + 1) * 86400)).isLt
        unfold day
        omega
      omega

end Reaches

end Weekly
