import Mathlib.Logic.Basic

/-!
# Programs that may power themselves down

A shallow monad for controller firmware.  A program reads an environment `ρ`,
updates a state `σ`, and ends in one of three ways: it returns, it halts the
machine for good (the code after the halt is never reached), or its step budget
runs out while it is still inside a loop.

`wp` is the weakest precondition transformer with one postcondition for each
ending, and the lemmas below are its rules.  Nothing here knows what the state
is.
-/

/-- How a program ends: with a value, with the machine halted, or still running
    when its budget was used up. -/
inductive Outcome (σ α : Type) where
  | done (a : α) (s : σ)
  | halt (s : σ)
  | pending (s : σ)

/-- A program over environment `ρ` and state `σ` with result `α`. -/
def Prog (ρ σ α : Type) : Type := ρ → σ → Outcome σ α

/-- A postcondition: one predicate for each way a program can end. -/
structure Post (σ α : Type) where
  done : α → σ → Prop
  halt : σ → Prop
  pending : σ → Prop

namespace Prog

variable {ρ σ α β : Type}

instance : Monad (Prog ρ σ) where
  pure a := fun _ s => .done a s
  bind m f := fun r s =>
    match m r s with
    | .done a s' => f a r s'
    | .halt s' => .halt s'
    | .pending s' => .pending s'

instance : MonadStateOf σ (Prog ρ σ) where
  get := fun _ s => .done s s
  set s' := fun _ _ => .done () s'
  modifyGet f := fun _ s => .done (f s).1 (f s).2

/-- Stop the machine: nothing after this runs. -/
def halt : Prog ρ σ α := fun _ s => .halt s

/-- The step budget is used up. -/
def pending : Prog ρ σ α := fun _ s => .pending s

/-- An `if` without an `else`. -/
def when (c : Prop) [Decidable c] (m : Prog ρ σ Unit) : Prog ρ σ Unit :=
  if c then m else pure ()

/-- Run `body` again for as long as it returns `true`, within a budget. -/
def repeatWhile (body : Prog ρ σ Bool) : Nat → Prog ρ σ Unit
  | 0 => pending
  | n + 1 => do
    let again ← body
    if again then repeatWhile body n else pure ()

/-! ## Weakest preconditions -/

/-- From state `s`, program `m` ends in a state that satisfies the matching part
    of `post`.  Irreducible, so that a goal about a program is never run by accident:
    the rules below are the way to take it apart. -/
@[irreducible] def wp (m : Prog ρ σ α) (post : Post σ α) (r : ρ) (s : σ) : Prop :=
  match m r s with
  | .done a s' => post.done a s'
  | .halt s' => post.halt s'
  | .pending s' => post.pending s'

variable {post post' : Post σ α} {r : ρ} {s : σ}

theorem wp_iff {m : Prog ρ σ α} :
    wp m post r s ↔
      match m r s with
      | .done a s' => post.done a s'
      | .halt s' => post.halt s'
      | .pending s' => post.pending s' := by
  rw [wp]

@[simp] theorem wp_pure (a : α) : wp (pure a) post r s ↔ post.done a s := wp_iff

@[simp] theorem wp_bind (m : Prog ρ σ β) (f : β → Prog ρ σ α) :
    wp (m >>= f) post r s ↔
      wp m ⟨fun b s' => wp (f b) post r s', post.halt, post.pending⟩ r s := by
  rw [wp, wp]
  simp only [bind]
  cases m r s with
  | done b s' => exact wp_iff.symm
  | halt s' => exact Iff.rfl
  | pending s' => exact Iff.rfl

@[simp] theorem wp_get {post : Post σ σ} : wp get post r s ↔ post.done s s := wp_iff

/-- A program that begins by looking at the state. -/
theorem wp_get_bind (f : σ → Prog ρ σ α) : wp (get >>= f) post r s ↔ wp (f s) post r s := by
  rw [wp_bind, wp_get]

@[simp] theorem wp_modify {post : Post σ PUnit} (f : σ → σ) :
    wp (modify f) post r s ↔ post.done () (f s) := wp_iff

@[simp] theorem wp_halt : wp halt post r s ↔ post.halt s := wp_iff

@[simp] theorem wp_pending : wp pending post r s ↔ post.pending s := wp_iff

@[simp] theorem wp_ite (c : Prop) [Decidable c] (m m' : Prog ρ σ α) :
    wp (if c then m else m') post r s ↔
      (c → wp m post r s) ∧ (¬c → wp m' post r s) := by
  split <;> simp_all

@[simp] theorem wp_when {post : Post σ Unit} (c : Prop) [Decidable c] (m : Prog ρ σ Unit) :
    wp (when c m) post r s ↔ (c → wp m post r s) ∧ (¬c → post.done () s) := by
  simp only [when, wp_ite, wp_pure]

/-- Weakening of all three postconditions. -/
theorem wp_mono {m : Prog ρ σ α} (h : wp m post r s)
    (hd : ∀ a s', post.done a s' → post'.done a s')
    (hh : ∀ s', post.halt s' → post'.halt s')
    (hp : ∀ s', post.pending s' → post'.pending s') : wp m post' r s := by
  simp only [wp] at h ⊢
  cases hm : m r s with
  | done a s' => rw [hm] at h; exact hd a s' h
  | halt s' => rw [hm] at h; exact hh s' h
  | pending s' => rw [hm] at h; exact hp s' h

/-- Sequencing through a specification of the first program that already has the
    postconditions wanted for a halt and for a used-up budget. -/
theorem wp_seq {m : Prog ρ σ β} {f : β → Prog ρ σ α} {Q : β → σ → Prop}
    (hm : wp m ⟨Q, post.halt, post.pending⟩ r s)
    (hf : ∀ b s', Q b s' → wp (f b) post r s') : wp (m >>= f) post r s :=
  (wp_bind m f).mpr (wp_mono hm hf (fun _ h => h) (fun _ h => h))

/-- Weakening of what holds after a return. -/
theorem wp_weaken {m : Prog ρ σ α} {Q : α → σ → Prop}
    (h : wp m ⟨Q, post.halt, post.pending⟩ r s) (hd : ∀ a s', Q a s' → post.done a s') :
    wp m post r s := wp_mono h hd (fun _ h => h) (fun _ h => h)

/-- A program that always returns needs no postcondition for its other endings. -/
theorem wp_of_returns {m : Prog ρ σ α} {Q : α → σ → Prop}
    (h : wp m ⟨Q, fun _ => False, fun _ => False⟩ r s) (hd : ∀ a s', Q a s' → post.done a s') :
    wp m post r s := wp_mono h hd (fun _ h => h.elim) (fun _ h => h.elim)

/-- Sequencing after a program that always returns. -/
theorem wp_then {m : Prog ρ σ β} {f : β → Prog ρ σ α} {Q : β → σ → Prop}
    (hm : wp m ⟨Q, fun _ => False, fun _ => False⟩ r s)
    (hf : ∀ b s', Q b s' → wp (f b) post r s') : wp (m >>= f) post r s :=
  (wp_bind m f).mpr (wp_of_returns hm hf)

/-- A program that always returns is known by what it returns. -/
theorem wp_of_run {m : Prog ρ σ α} {Q : α → σ → Prop}
    (h : wp m ⟨Q, fun _ => False, fun _ => False⟩ r s)
    (hrun : ∀ a s', m r s = .done a s' → Q a s' → post.done a s') : wp m post r s := by
  simp only [wp] at h ⊢
  cases hm : m r s with
  | done a s' => rw [hm] at h; exact hrun a s' hm h
  | halt s' => rw [hm] at h; exact h.elim
  | pending s' => rw [hm] at h; exact h.elim

/-- What is specified of a program holds of the state it returns. -/
theorem wp_run {m : Prog ρ σ α} {a : α} {s' : σ} (h : wp m post r s) (hrun : m r s = .done a s') :
    post.done a s' := by
  simp only [wp, hrun] at h
  exact h

/-- What a program returns is the end of a run. -/
theorem wp_returned {m : Prog ρ σ α} :
    wp m ⟨fun a s' => m r s = .done a s', fun _ => True, fun _ => True⟩ r s := by
  rw [wp]
  cases m r s <;> trivial

/-- A sequence that returns is made of two runs that return. -/
theorem bind_done {m : Prog ρ σ β} {f : β → Prog ρ σ α} {a : α} {s' : σ}
    (h : (m >>= f) r s = .done a s') : ∃ b s₁, m r s = .done b s₁ ∧ f b r s₁ = .done a s' := by
  simp only [bind] at h
  cases hm : m r s with
  | done b s₁ =>
    rw [hm] at h
    exact ⟨b, s₁, rfl, h⟩
  | halt s₁ =>
    rw [hm] at h
    cases h
  | pending s₁ =>
    rw [hm] at h
    cases h

/-- A program that always returns has a run. -/
theorem exists_run {m : Prog ρ σ α} {Q : α → σ → Prop}
    (h : wp m ⟨Q, fun _ => False, fun _ => False⟩ r s) : ∃ a s', m r s = .done a s' ∧ Q a s' := by
  simp only [wp] at h
  cases hm : m r s with
  | done a s' => rw [hm] at h; exact ⟨a, s', rfl, h⟩
  | halt s' => rw [hm] at h; exact h.elim
  | pending s' => rw [hm] at h; exact h.elim

/-- Two specifications of one program hold together. -/
theorem wp_and {m : Prog ρ σ α} {p q : Post σ α} (hp : wp m p r s) (hq : wp m q r s) :
    wp m ⟨fun a s' => p.done a s' ∧ q.done a s', fun s' => p.halt s' ∧ q.halt s',
      fun s' => p.pending s' ∧ q.pending s'⟩ r s := by
  simp only [wp] at hp hq ⊢
  cases hm : m r s <;> rw [hm] at hp hq <;> exact ⟨hp, hq⟩

/-- A bounded loop keeps its invariant `I`: each round either goes on in `I` or
    leaves into the postcondition, and the budget may run out in `I` only. -/
theorem wp_repeatWhile {post : Post σ Unit} {body : Prog ρ σ Bool} (I : σ → Prop)
    (hstep : ∀ s, I s →
      wp body ⟨fun again s' => if again then I s' else post.done () s', post.halt,
        post.pending⟩ r s)
    (hpend : ∀ s, I s → post.pending s) (n : Nat) (h : I s) :
    wp (repeatWhile body n) post r s := by
  induction n generalizing s with
  | zero => exact wp_pending.mpr (hpend s h)
  | succ n ih =>
    rw [repeatWhile]
    apply wp_seq (hstep s h)
    intro again s' hs'
    cases again with
    | true => exact ih hs'
    | false => exact (wp_pure _).mpr hs'

/-- A loop that returns within a budget returns the same within a larger one. -/
theorem repeatWhile_done {body : Prog ρ σ Bool} {s' : σ} {n m : Nat}
    (h : repeatWhile body n r s = .done () s') (hm : n ≤ m) :
    repeatWhile body m r s = .done () s' := by
  induction n generalizing s m with
  | zero => cases h
  | succ n ih =>
    obtain ⟨k, rfl⟩ := Nat.exists_eq_add_of_le' hm
    have hk : n ≤ k + n := Nat.le_add_left n k
    simp only [repeatWhile, bind] at h ⊢
    cases hb : body r s with
    | done again s₁ =>
      simp only [hb] at h ⊢
      cases again with
      | true => exact ih h hk
      | false => exact h
    | halt s₁ =>
      simp only [hb] at h
      cases h
    | pending s₁ =>
      simp only [hb] at h
      cases h

/-! ## Programs that keep an invariant -/

/-- From a state in `I` the program returns, in `I` again. -/
def Keeps (I : σ → Prop) (m : Prog ρ σ α) : Prop :=
  ∀ r s, I s → wp m ⟨fun _ s' => I s', fun _ => False, fun _ => False⟩ r s

namespace Keeps

variable {I : σ → Prop}

theorem pure (a : α) : Keeps I (pure a : Prog ρ σ α) := fun _ _ h => (wp_pure a).mpr h

theorem bind {m : Prog ρ σ β} {f : β → Prog ρ σ α} (hm : Keeps I m) (hf : ∀ b, Keeps I (f b)) :
    Keeps I (m >>= f) := fun r s h => wp_seq (hm r s h) (fun b s' h' => hf b r s' h')

theorem get_bind {f : σ → Prog ρ σ α} (hf : ∀ b, Keeps I (f b)) : Keeps I (get >>= f) :=
  fun r s h => (wp_get_bind f).mpr (hf s r s h)

theorem ite {c : Prop} [Decidable c] {m m' : Prog ρ σ α} (h : Keeps I m) (h' : Keeps I m') :
    Keeps I (if c then m else m') := by
  split
  · exact h
  · exact h'

theorem when {c : Prop} [Decidable c] {m : Prog ρ σ Unit} (h : Keeps I m) :
    Keeps I (when c m) := ite h (pure ())

/-- A program that keeps the invariant returns into any postcondition that follows from it. -/
theorem wp {m : Prog ρ σ α} (hm : Keeps I m) (h : I s) (hp : ∀ a s', I s' → post.done a s') :
    wp m post r s := wp_of_returns (hm r s h) hp

end Keeps

/-! ## Programs that stay in an invariant -/

/-- The postcondition that asks for `I`, however the program ends. -/
def anywhere (I : σ → Prop) : Post σ α := ⟨fun _ s => I s, I, I⟩

/-- In environment `r` the program leads from `I` to `I`, however it ends. -/
def Stays (I : σ → Prop) (r : ρ) (m : Prog ρ σ α) : Prop := ∀ s, I s → wp m (anywhere I) r s

namespace Stays

variable {I : σ → Prop}

theorem pure (a : α) : Stays I r (pure a : Prog ρ σ α) := fun _ h => (wp_pure a).mpr h

theorem pending : Stays I r (pending : Prog ρ σ α) := fun _ h => wp_pending.mpr h

theorem modify {f : σ → σ} (hf : ∀ s, I s → I (f s)) :
    Stays I r (modify f : Prog ρ σ PUnit) := fun s h => (wp_modify f).mpr (hf s h)

theorem bind {m : Prog ρ σ β} {f : β → Prog ρ σ α} (hm : Stays I r m)
    (hf : ∀ b, Stays I r (f b)) : Stays I r (m >>= f) :=
  fun s h => wp_seq (hm s h) (fun b s' h' => hf b s' h')

theorem get_bind {f : σ → Prog ρ σ α} (hf : ∀ b, Stays I r (f b)) : Stays I r (get >>= f) :=
  fun s h => (wp_get_bind f).mpr (hf s s h)

theorem ite {c : Prop} [Decidable c] {m m' : Prog ρ σ α} (h : Stays I r m) (h' : Stays I r m') :
    Stays I r (if c then m else m') := by
  split
  · exact h
  · exact h'

theorem when {c : Prop} [Decidable c] {m : Prog ρ σ Unit} (h : Stays I r m) :
    Stays I r (when c m) := ite h (pure ())

/-- Sequencing after a program that stays in `I`, where `I` is enough for the other endings. -/
theorem wp_bind {post : Post σ α} {m : Prog ρ σ β} {f : β → Prog ρ σ α} (hm : Stays I r m)
    (h : I s) (hh : ∀ s', I s' → post.halt s') (hp : ∀ s', I s' → post.pending s')
    (hf : ∀ b s', I s' → wp (f b) post r s') : wp (m >>= f) post r s :=
  wp_seq (wp_mono (hm s h) (fun _ _ h' => h') hh hp) hf

/-- A bounded loop stays in what its body stays in. -/
theorem repeatWhile {body : Prog ρ σ Bool} (h : Stays I r body) (n : Nat) :
    Stays I r (repeatWhile body n) := by
  intro s hs
  refine wp_repeatWhile I (fun s' hs' => ?_) (fun _ h => h) n hs
  apply wp_weaken (h s' hs')
  intro again s'' h'
  cases again <;> exact h'

end Stays

end Prog
