import Mathlib.Data.List.Infix
import Mathlib.Tactic.Cases

/-!
# Debouncing

A debouncer counts consecutive hits, starts over at every miss, and is full once it has counted
`n` of them.
-/

namespace Debounce

/-- One input: the next count, or none if the counter is full. -/
def step (n c : Nat) (hit : Bool) : Option Nat :=
  if hit then if c + 1 < n then some (c + 1) else none else some 0

/-- The count after some inputs; there is none from the input on that has filled the counter. -/
def run (n c : Nat) : List Bool → Option Nat
  | [] => some c
  | hit :: hits => (step n c hit).bind fun c' => run n c' hits

section Run

variable {n c : Nat} {hits : List Bool}

/-- A counter that is not full is below `n`. -/
theorem step_lt {k : Nat} {hit : Bool} (hn : 0 < n) (h : step n c hit = some k) : k < n := by
  unfold step at h
  cases hit with
  | true =>
    rw [if_pos rfl] at h
    split at h
    · next hlt =>
      cases h
      exact hlt
    · cases h
  | false =>
    rw [if_neg Bool.false_ne_true] at h
    cases h
    exact hn

theorem run_concat (n c : Nat) (hits : List Bool) (hit : Bool) :
    run n c (hits ++ [hit]) = (run n c hits).bind fun c' => step n c' hit := by
  induction hits generalizing c with
  | nil =>
    show (step n c hit).bind some = step n c hit
    exact Option.bind_fun_some (step n c hit)
  | cons h hits ih =>
    show (step n c h).bind (fun c' => run n c' (hits ++ [hit])) =
      ((step n c h).bind fun c' => run n c' hits).bind _
    cases step n c h with
    | none => rfl
    | some c' => exact ih c'

/-- Hits only: the counter is full once there are `n` with the earlier ones. -/
theorem run_replicate_true {k : Nat} (h : c + k < n) :
    run n c (List.replicate k true) = some (c + k) := by
  induction k generalizing c with
  | zero => rfl
  | succ k ih =>
    have hc : c + 1 < n := by omega
    rw [List.replicate_succ, run, step, if_pos rfl, if_pos hc]
    show run n (c + 1) (List.replicate k true) = some (c + (k + 1))
    rw [ih (by omega)]
    congr 1
    omega

/-- Without a hit the counter is never full. -/
theorem run_replicate_false (n c k : Nat) : (run n c (List.replicate k false)).isSome = true := by
  induction k generalizing c with
  | zero => rfl
  | succ k ih => exact ih 0

end Run

end Debounce
