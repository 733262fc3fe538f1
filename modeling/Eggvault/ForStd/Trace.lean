import Mathlib.Data.List.Infix

/-!
# Event traces

A trace is a list of events, newest first, so that its suffixes are the traces
of the earlier moments.  `Historically P` says that `P` held at every moment of
the trace; the newest event that a moment can see is found with
`List.findSome?`.
-/

namespace Trace

variable {ε : Type} {P Q : List ε → Prop} {e : ε} {tr tr' : List ε}

/-- `P` holds of the trace at every moment up to now. -/
def Historically (P : List ε → Prop) (tr : List ε) : Prop := ∀ t, t <:+ tr → P t

theorem historically_cons :
    Historically P (e :: tr) ↔ P (e :: tr) ∧ Historically P tr := by
  constructor
  · intro h
    exact ⟨h _ (List.suffix_refl _), fun t ht => h t (ht.trans (List.suffix_cons e tr))⟩
  · rintro ⟨h, hs⟩ t ht
    rcases List.suffix_cons_iff.mp ht with rfl | ht
    · exact h
    · exact hs t ht

theorem historically_nil : Historically P [] ↔ P [] := by
  constructor
  · intro h
    exact h [] (List.suffix_refl _)
  · intro h t ht
    rw [List.suffix_nil.mp ht]
    exact h

/-- What held at every moment held at every earlier one. -/
theorem Historically.of_suffix (h : Historically P tr') (hs : tr <:+ tr') : Historically P tr :=
  fun t ht => h t (ht.trans hs)

instance [DecidablePred P] (tr : List ε) : Decidable (Historically P tr) :=
  decidable_of_iff (∀ t ∈ tr.tails, P t)
    ⟨fun h t ht => h t ((List.mem_tails t tr).mpr ht),
      fun h t ht => h t ((List.mem_tails t tr).mp ht)⟩

/-! ## Extensions of a trace -/

/-- From `tr` to `tr'` only events that satisfy `p` have happened. -/
def Extends (p : ε → Bool) (tr tr' : List ε) : Prop := ∃ es, (∀ e ∈ es, p e = true) ∧ tr' = es ++ tr

namespace Extends

variable {p q : ε → Bool} {tr'' : List ε}

theorem refl (tr : List ε) : Extends p tr tr := ⟨[], by simp, rfl⟩

theorem cons (h : Extends p tr tr') (he : p e = true) : Extends p tr (e :: tr') := by
  obtain ⟨es, hes, rfl⟩ := h
  refine ⟨e :: es, ?_, rfl⟩
  intro e' he'
  rcases List.mem_cons.mp he' with rfl | hmem
  · exact he
  · exact hes e' hmem

theorem single (tr : List ε) (he : p e = true) : Extends p tr (e :: tr) := (refl tr).cons he

theorem mono (h : Extends p tr tr') (hpq : ∀ e, p e = true → q e = true) : Extends q tr tr' := by
  obtain ⟨es, hes, rfl⟩ := h
  exact ⟨es, fun e he => hpq e (hes e he), rfl⟩

/-- What each such event keeps is kept. -/
theorem keeps (h : Extends p tr tr') (hP : ∀ e tr, p e = true → P tr → P (e :: tr)) (htr : P tr) :
    P tr' := by
  obtain ⟨es, hes, rfl⟩ := h
  induction es with
  | nil => exact htr
  | cons e es ih =>
    have htail : ∀ e' ∈ es, p e' = true := fun e' he' => hes e' (List.mem_cons_of_mem e he')
    exact hP e _ (hes e List.mem_cons_self) (ih htail)

theorem trans (h : Extends p tr tr') (h' : Extends p tr' tr'') : Extends p tr tr'' :=
  h'.keeps (P := fun t => Extends p tr t) (fun _ _ he ht => ht.cons he) h

theorem suffix (h : Extends p tr tr') : tr <:+ tr' := by
  obtain ⟨es, -, rfl⟩ := h
  exact List.suffix_append es tr

/-- The events in between are the same ones, so both facts hold of each. -/
theorem and (h : Extends p tr tr') (h' : Extends q tr tr') :
    Extends (fun e => p e && q e) tr tr' := by
  obtain ⟨es, hes, rfl⟩ := h
  obtain ⟨es', hes', heq⟩ := h'
  have hsame : es = es' := List.append_cancel_right heq
  subst hsame
  exact ⟨es, fun e he => by simp [hes e he, hes' e he], rfl⟩

end Extends

/-! ## Spans of a trace -/

/-- `Q` held once, and from there to the newest entry `P` holds. -/
def EverSince (P Q : ε → Prop) : List ε → Prop
  | [] => False
  | e :: tr => P e ∧ (Q e ∨ EverSince P Q tr)

theorem EverSince.mono {P P' Q Q' : ε → Prop} (h : EverSince P Q tr) (hP : ∀ e, P e → P' e)
    (hQ : ∀ e, P e → Q e → Q' e) : EverSince P' Q' tr := by
  induction tr with
  | nil => exact h
  | cons e tr ih =>
    obtain ⟨hp, hq | hs⟩ := h
    · exact ⟨hP e hp, .inl (hQ e hp hq)⟩
    · exact ⟨hP e hp, .inr (ih hs)⟩

/-- The entry at which `Q` held. -/
theorem EverSince.exists {P Q : ε → Prop} (h : EverSince P Q tr) :
    ∃ e tr', e :: tr' <:+ tr ∧ P e ∧ Q e := by
  induction tr with
  | nil => exact h.elim
  | cons e tr ih =>
    obtain ⟨hp, hq | hs⟩ := h
    · exact ⟨e, tr, List.suffix_refl _, hp, hq⟩
    · obtain ⟨e', tr', hsuffix, hpq⟩ := ih hs
      exact ⟨e', tr', hsuffix.trans (List.suffix_cons e tr), hpq⟩

/-! ## Moments of a trace -/

variable [DecidableEq ε]

/-- The events before the newest occurrence of `e`. -/
def before (e : ε) (tr : List ε) : List ε := (tr.dropWhile fun x => decide (x ≠ e)).tail

/-- An event that occurs is a moment of the trace, with what was before it. -/
theorem before_suffix (h : e ∈ tr) : e :: before e tr <:+ tr := by
  have hdrop : tr.dropWhile (fun x => decide (x ≠ e)) = e :: before e tr := by
    induction tr with
    | nil => cases h
    | cons x tr ih =>
      by_cases hx : x = e
      · simp [before, hx]
      · have htail : e ∈ tr := by
          rcases List.mem_cons.mp h with heq | ht
          · exact absurd heq.symm hx
          · exact ht
        simpa [before, hx] using ih htail
  rw [← hdrop]
  exact List.dropWhile_suffix _

/-- What holds of a trace historically holds at each of its events. -/
theorem Historically.of_mem (h : Historically P tr) (he : e ∈ tr) : P (e :: before e tr) :=
  h _ (before_suffix he)

end Trace
