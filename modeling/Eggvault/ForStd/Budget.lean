import Eggvault.ForStd.Prog

/-!
# Programs with a budget

A program whose loops and recursive calls are cut off by a budget stands for the program without
one.  A larger budget changes nothing but the runs that have been cut off (`Below`); where from some
budget on no run is cut off any more, all of them end in the same way whatever the budget is
(`Settled`).  The rules take programs apart, and `Settled.of_below` leads from the first notion to
the second.
-/

/-- The program has ended, by a return or by a halt. -/
def Outcome.Ended {σ α : Type} : Outcome σ α → Prop
  | .pending _ => False
  | _ => True

namespace Prog

variable {ρ σ α β : Type} {r : ρ} {s : σ} {n₀ : Nat}

/-- The postcondition that asks for nothing but an end. -/
def ends : Post σ α := ⟨fun _ _ => True, fun _ => True, fun _ => False⟩

@[simp] theorem ends_done (a : α) (s : σ) : (ends : Post σ α).done a s := trivial

@[simp] theorem ends_halt (s : σ) : (ends : Post σ α).halt s := trivial

@[simp] theorem ends_pending (s : σ) : ¬ (ends : Post σ α).pending s := fun h => h

theorem ended_of_wp {m : Prog ρ σ α} {post : Post σ α} (h : wp m post r s)
    (hp : ∀ s', ¬ post.pending s') : (m r s).Ended := by
  rw [wp_iff] at h
  cases hm : m r s with
  | done _ _ => trivial
  | halt _ => trivial
  | pending s' =>
    rw [hm] at h
    exact hp s' h

/-! ## Larger budgets -/

/-- `m'` ends as `m` does, wherever `m` ends. -/
def Below (m m' : Prog ρ σ α) : Prop := ∀ r s, (m r s).Ended → m' r s = m r s

namespace Below

theorem refl (m : Prog ρ σ α) : Below m m := fun _ _ _ => rfl

theorem pending (m : Prog ρ σ α) : Below pending m := fun _ _ h => h.elim

theorem bind {m m' : Prog ρ σ β} {f f' : β → Prog ρ σ α} (hm : Below m m')
    (hf : ∀ b, Below (f b) (f' b)) : Below (m >>= f) (m' >>= f') := by
  intro r s h
  have heq := hm r s
  simp only [Bind.bind] at h ⊢
  cases hrun : m r s with
  | done b s₁ =>
    rw [hrun] at h heq
    rw [heq trivial]
    exact hf b r s₁ h
  | halt s₁ =>
    rw [hrun] at heq
    rw [heq trivial]
  | pending s₁ =>
    rw [hrun] at h
    exact h.elim

theorem ite {c : Prop} [Decidable c] {m₁ m₂ m₁' m₂' : Prog ρ σ α} (h₁ : Below m₁ m₁')
    (h₂ : Below m₂ m₂') : Below (if c then m₁ else m₂) (if c then m₁' else m₂') := by
  split
  · exact h₁
  · exact h₂

theorem when {c : Prop} [Decidable c] {m m' : Prog ρ σ Unit} (h : Below m m') :
    Below (when c m) (when c m') := ite h (refl _)

/-- One more round in the budget of a loop. -/
theorem repeatWhile (body : Prog ρ σ Bool) (n : Nat) :
    Below (repeatWhile body n) (repeatWhile body (n + 1)) := by
  induction n with
  | zero => exact pending _
  | succ n ih => exact bind (refl body) fun _ => ite ih (refl _)

end Below

/-! ## Large budgets -/

/-- From the budget `n₀` on, `m` ends in environment `r`, and always in the same way. -/
def Settled (r : ρ) (n₀ : Nat) (m : Nat → Prog ρ σ α) : Prop :=
  ∀ s, (m n₀ r s).Ended ∧ ∀ n, n₀ ≤ n → m n r s = m n₀ r s

namespace Settled

theorem mono {m : Nat → Prog ρ σ α} {n₁ : Nat} (h : Settled r n₀ m) (hn : n₀ ≤ n₁) :
    Settled r n₁ m := by
  intro s
  obtain ⟨hend, hsame⟩ := h s
  have h₁ := hsame n₁ hn
  rw [h₁]
  exact ⟨hend, fun n hle => hsame n (Nat.le_trans hn hle)⟩

/-- The next call in the budget. -/
theorem succ {m : Nat → Prog ρ σ α} (h : Settled r n₀ fun n => m (n + 1)) :
    Settled r (n₀ + 1) m := by
  refine fun s => ⟨(h s).1, fun n hn => ?_⟩
  obtain ⟨k, rfl⟩ := Nat.exists_eq_add_of_le' hn
  exact (h s).2 (k + n₀) (Nat.le_add_left n₀ k)

/-- A program without a budget. -/
theorem const {m : Prog ρ σ α} (h : ∀ s, (m r s).Ended) : Settled r n₀ fun _ => m :=
  fun s => ⟨h s, fun _ _ => rfl⟩

/-- A program without loops, whose end the rules of `wp` find. -/
theorem of_ends {m : Prog ρ σ α} (h : ∀ s, wp m ends r s) : Settled r n₀ fun _ => m :=
  const fun s => ended_of_wp (h s) fun _ hf => hf

theorem bind {m : Nat → Prog ρ σ β} {f : Nat → β → Prog ρ σ α} (hm : Settled r n₀ m)
    (hf : ∀ b, Settled r n₀ fun n => f n b) : Settled r n₀ fun n => m n >>= f n := by
  intro s
  obtain ⟨hend, hsame⟩ := hm s
  simp only [Bind.bind]
  cases hrun : m n₀ r s with
  | done b s₁ =>
    refine ⟨(hf b s₁).1, fun n hn => ?_⟩
    rw [hsame n hn, hrun]
    exact (hf b s₁).2 n hn
  | halt s₁ =>
    refine ⟨trivial, fun n hn => ?_⟩
    rw [hsame n hn, hrun]
  | pending s₁ =>
    rw [hrun] at hend
    exact hend.elim

/-- After a program without loops. -/
theorem seq {m : Prog ρ σ β} {f : Nat → β → Prog ρ σ α} (h : ∀ s, wp m ends r s)
    (hf : ∀ b, Settled r n₀ fun n => f n b) : Settled r n₀ fun n => m >>= f n :=
  bind (of_ends h) hf

theorem get_bind {f : Nat → σ → Prog ρ σ α} (hf : ∀ s, Settled r n₀ fun n => f n s) :
    Settled r n₀ fun n => get >>= f n :=
  bind (const fun _ => trivial) hf

theorem ite {c : Prop} [Decidable c] {m m' : Nat → Prog ρ σ α} (h : Settled r n₀ m)
    (h' : Settled r n₀ m') : Settled r n₀ fun n => if c then m n else m' n := by
  split
  · exact h
  · exact h'

theorem when {c : Prop} [Decidable c] {m : Nat → Prog ρ σ Unit} (h : Settled r n₀ m) :
    Settled r n₀ fun n => when c (m n) := ite h (const fun _ => trivial)

end Settled

end Prog
