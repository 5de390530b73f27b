import Mathlib

/-!
# Weighted choice by walking down the weights

`walk` subtracts weights from a number until it is smaller than the next one.
The numbers that stop at a position are those between the sums of the weights
up to it and past it (`walk_eq_some_iff`), so of all numbers below the total
weight each position gets as many as it weighs (`card_walk`).
-/

namespace Multiway.Lib

/-- The position at which the weights, taken off one by one, exceed what is
left of `pick`. -/
def walk : List ℕ → ℕ → Option ℕ
  | [], _ => none
  | w :: ws, pick => if pick < w then some 0 else (walk ws (pick - w)).map (· + 1)

theorem walk_eq_some_iff {ws : List ℕ} {pick i : ℕ} :
    walk ws pick = some i ↔
      i < ws.length ∧ (ws.take i).sum ≤ pick ∧ pick < (ws.take (i + 1)).sum := by
  induction ws generalizing pick i with
  | nil => simp [walk]
  | cons w ws ih =>
    rw [walk]
    cases i with
    | zero =>
      split
      next hlt => simpa using hlt
      next hge =>
        refine iff_of_false ?_ (by simpa using hge)
        simp
    | succ i =>
      rw [List.take_succ_cons, List.take_succ_cons, List.sum_cons, List.sum_cons,
        List.length_cons]
      split
      next hlt => exact iff_of_false nofun (by omega)
      next hge =>
        simp only [Option.map_eq_some_iff, Nat.add_right_cancel_iff, exists_eq_right]
        rw [ih]
        omega

/-- The walk ends at a position for every number below the total. -/
theorem walk_isSome_iff {ws : List ℕ} {pick : ℕ} : (walk ws pick).isSome ↔ pick < ws.sum := by
  induction ws generalizing pick with
  | nil => simp [walk]
  | cons w ws ih =>
    rw [walk, List.sum_cons]
    split
    next hlt => exact iff_of_true rfl (by omega)
    next hge =>
      rw [Option.isSome_map, ih]
      omega

/-- **Each position is chosen as often as it weighs.** -/
theorem card_walk (ws : List ℕ) {i : ℕ} (h : i < ws.length) :
    ((Finset.range ws.sum).filter fun pick => walk ws pick = some i).card = ws[i] := by
  have hinterval : ((Finset.range ws.sum).filter fun pick => walk ws pick = some i) =
      Finset.Ico (ws.take i).sum (ws.take (i + 1)).sum := by
    ext pick
    simp only [Finset.mem_filter, Finset.mem_range, walk_eq_some_iff, Finset.mem_Ico]
    constructor
    · rintro ⟨-, -, hpick⟩
      exact hpick
    · rintro ⟨hle, hlt⟩
      have htotal : (ws.take (i + 1)).sum ≤ ws.sum :=
        (List.take_sublist (i + 1) ws).sum_le_sum fun w _ => Nat.zero_le w
      exact ⟨hlt.trans_le htotal, h, hle, hlt⟩
  rw [hinterval, Nat.card_Ico, List.sum_take_succ ws i h, Nat.add_sub_cancel_left]

end Multiway.Lib
