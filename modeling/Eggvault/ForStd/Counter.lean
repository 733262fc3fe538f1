import Mathlib.Logic.Relation
import Mathlib.Data.Int.Order.Basic

/-!
# Counters that start over

A counter counts up to its last value and then starts over at its first one.  Its register may hold
other values as well: below the last one it counts up, and above it either falls back or rises up to
a bound.  A system in which every value leads to the next one reaches every value of the counter,
whatever the register holds at first.
-/

open Relation

/-- The order of the values that a register counts through, by `rank`. -/
structure Counter {β : Type} (next : β → β) (rank : β → Int) (first last : β) (bound : Int) : Prop where
  inj : Function.Injective rank
  up : ∀ v, rank v < rank last → rank (next v) = rank v + 1
  wrap : next last = first
  beyond : ∀ v, rank last < rank v →
    rank (next v) ≤ rank last ∨ (rank v < rank (next v) ∧ rank (next v) ≤ bound)

namespace Counter

variable {α β : Type} {next : β → β} {rank : β → Int} {first last : β} {bound : Int}
  {R : α → α → Prop} {s : β → α}

/-- Counting up, by induction on the way that is left. -/
theorem climbs (h : Counter next rank first last bound) (hstep : ∀ v, R (s v) (s (next v))) {v t : β}
    (hv : rank v ≤ rank t) (ht : rank t ≤ rank last) : ReflTransGen R (s v) (s t) := by
  obtain ⟨d, hd⟩ : ∃ d : Nat, rank t = rank v + d := ⟨(rank t - rank v).toNat, by omega⟩
  induction d generalizing v with
  | zero =>
    have heq : t = v := h.inj (by omega)
    rw [heq]
  | succ d ih =>
    have hnext := h.up v (by omega)
    exact .head (hstep v) (ih (by omega) (by omega))

/-- Falling back into the range, by induction on the way to the bound. -/
theorem falls (h : Counter next rank first last bound) (hstep : ∀ v, R (s v) (s (next v))) (v : β) :
    ∃ u, rank u ≤ rank last ∧ ReflTransGen R (s v) (s u) := by
  by_cases hv : rank v ≤ rank last
  · exact ⟨v, hv, .refl⟩
  · rcases h.beyond v (by omega) with hfall | ⟨hrise, hbound⟩
    · exact ⟨next v, hfall, .single (hstep v)⟩
    · obtain ⟨u, hu, hreach⟩ := falls h hstep (next v)
      exact ⟨u, hu, .head (hstep v) hreach⟩
termination_by (bound - rank v).toNat
decreasing_by omega

/-- Every value of the counter is reached. -/
theorem reaches (h : Counter next rank first last bound) (hstep : ∀ v, R (s v) (s (next v))) (v : β)
    {t : β} (hfirst : rank first ≤ rank t) (hlast : rank t ≤ rank last) :
    ReflTransGen R (s v) (s t) := by
  obtain ⟨u, hu, hfall⟩ := h.falls hstep v
  have htop : ReflTransGen R (s u) (s last) := h.climbs hstep hu (Int.le_refl _)
  have hover : R (s last) (s first) := by
    have hnext := hstep last
    rw [h.wrap] at hnext
    exact hnext
  exact hfall.trans (htop.trans (.head hover (h.climbs hstep hfirst hlast)))

end Counter
