import Mathlib.Tactic.ByContra

/-!
# Deadlines on a clock that wraps

A timer compares the age of an event, of which a register shows the value modulo `size`, with a
limit.  Polls that are never further apart than the register has room above the limit cannot leap
over the ages that show, so one of them finds the limit reached, however long the timer has been
running.
-/

namespace Deadline

variable {age : Nat → Nat} {size limit gap : Nat}

/-- A poll that does not find the limit reached does not hide an older age. -/
theorem early (hstart : age 0 < size) (hgap : ∀ i, age (i + 1) ≤ age i + gap)
    (hroom : limit + gap ≤ size) (h : ∀ i, age i % size < limit) (i : Nat) : age i < limit := by
  induction i with
  | zero =>
    have hzero := h 0
    rw [Nat.mod_eq_of_lt hstart] at hzero
    exact hzero
  | succ i ih =>
    have hlt : age (i + 1) < size := by
      have := hgap i
      omega
    have hsucc := h (i + 1)
    rw [Nat.mod_eq_of_lt hlt] at hsucc
    exact hsucc

/-- On a clock that does not stop, some poll finds the limit reached. -/
theorem met (hstart : age 0 < size) (hgap : ∀ i, age (i + 1) ≤ age i + gap)
    (hroom : limit + gap ≤ size) (hgrow : ∀ m, ∃ i, m ≤ age i) : ∃ i, limit ≤ age i % size := by
  by_contra hnot
  have hearly : ∀ i, age i % size < limit := by
    intro i
    exact Nat.lt_of_not_le fun hle => hnot ⟨i, hle⟩
  obtain ⟨i, hi⟩ := hgrow limit
  have := early hstart hgap hroom hearly i
  omega

/-- What a register of 32 bits shows of the age of the event `l`, counted on from an earlier reading
    at `a`. -/
theorem shown {a b : Nat} (hab : a ≤ b) (l : UInt32) :
    (UInt32.ofNat b - l).toNat = ((UInt32.ofNat a - l).toNat + (b - a)) % 4294967296 := by
  have hl : l.toNat < 4294967296 := l.toNat_lt
  rw [UInt32.toNat_sub, UInt32.toNat_sub, UInt32.toNat_ofNat', UInt32.toNat_ofNat']
  omega

end Deadline
