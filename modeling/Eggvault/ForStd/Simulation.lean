import Mathlib.Logic.Basic

/-!
# Simulation of labelled steps

If every step of one system is matched by a step of another one with the same label, so is every run.
-/

variable {α β ℓ : Type}

/-- A run, with the labels of its steps. -/
inductive LabelledRun (step : α → ℓ → α → Prop) : α → List ℓ → α → Prop where
  | nil (a : α) : LabelledRun step a [] a
  | cons {a b c : α} {l : ℓ} {ls : List ℓ} :
      step a l b → LabelledRun step b ls c → LabelledRun step a (l :: ls) c

namespace LabelledRun

variable {step : α → ℓ → α → Prop} {step' : β → ℓ → β → Prop} {R : α → β → Prop}

/-- A simulation of the steps is one of the runs. -/
theorem simulate (hstep : ∀ a b l a', R a b → step a l a' → ∃ b', step' b l b' ∧ R a' b')
    {a a' : α} {ls : List ℓ} (h : LabelledRun step a ls a') {b : β} (hR : R a b) :
    ∃ b', LabelledRun step' b ls b' ∧ R a' b' := by
  induction h generalizing b with
  | nil a => exact ⟨b, .nil b, hR⟩
  | cons hfirst _ ih =>
    obtain ⟨b₁, hfirst', hR₁⟩ := hstep _ _ _ _ hR hfirst
    obtain ⟨b', hrest, hR'⟩ := ih hR₁
    exact ⟨b', .cons hfirst' hrest, hR'⟩

end LabelledRun
