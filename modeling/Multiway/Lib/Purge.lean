import Multiway.Lib.Run

/-!
# Purged runs

Part of a system does not interfere with what an observer sees when the run that
is left without the part's steps gets to a state the observer cannot tell from
the one the whole run gets to. `Unwinding` says what this takes of single steps,
and `Unwinding.purge` packages the induction. The run that is left may be one of
another system, so that observer and observed need not be made of the same states.
-/

namespace Multiway.Lib

variable {σ τ ℓ : Type} {step : σ → ℓ → σ → Prop} {step' : τ → ℓ → τ → Prop} {seen : ℓ → Bool}
  {R : σ → τ → Prop}

/-- A step that is seen can be matched under the same label, and one that is not
leaves the states alike. -/
structure Unwinding (step : σ → ℓ → σ → Prop) (step' : τ → ℓ → τ → Prop) (seen : ℓ → Bool)
    (R : σ → τ → Prop) : Prop where
  kept : ∀ s l t s', step s l t → seen l = true → R s s' → ∃ t', step' s' l t' ∧ R t t'
  purged : ∀ s l t s', step s l t → seen l = false → R s s' → R t s'

/-- **The purging rule.** What is seen of a run is a run of its own, to a like
state. -/
theorem Unwinding.purge (h : Unwinding step step' seen R) {s t : σ} {ls : List ℓ}
    (hrun : Run step s ls t) {s' : τ} (hs : R s s') :
    ∃ t', Run step' s' (ls.filter seen) t' ∧ R t t' := by
  induction hrun generalizing s' with
  | nil s => exact ⟨s', .nil s', hs⟩
  | @cons s t u l ls hl _ ih =>
    cases hseen : seen l with
    | true =>
      obtain ⟨u', hl', hu⟩ := h.kept s l t s' hl hseen hs
      obtain ⟨t', hrest, ht⟩ := ih hu
      rw [List.filter_cons_of_pos hseen]
      exact ⟨t', .cons hl' hrest, ht⟩
    | false =>
      rw [List.filter_cons_of_neg (Bool.eq_false_iff.mp hseen)]
      exact ih (h.purged s l t s' hl hseen hs)

end Multiway.Lib
