import Multiway.Lib.Weighted
import Multiway.ProxyCore.Panics

/-!
# Weighted selection (`select_backend`)

`sumWeights` and `pickIndex` are the sum and the loop of `select_backend` with
checked arithmetic: there is no result where the source would overflow or
underflow. With weights that add up in 32 bits the loop is a `walk` down the
weights, which ends at a backend for every number that can be drawn
(`exactSelection`).
-/

namespace Multiway.ProxyCore

open Multiway.Lib

def checkedAdd (a b : UInt32) : Option UInt32 :=
  if a.toNat + b.toNat < 2 ^ 32 then some (a + b) else none

def checkedSub (a b : UInt32) : Option UInt32 := if b ≤ a then some (a - b) else none

/-- `backends.iter().map(|b| b.weight).sum()`, checked. -/
def sumWeights (backends : List Backend) : Option UInt32 :=
  (backends.map Backend.weight).foldlM checkedAdd 0

/-- The position `pickBackend` stops at. Outside, `none` is an underflow;
inside, it is the end of the list, where the fallback comes in. -/
def pickIndex (pick : UInt32) : List Backend → Option (Option ℕ)
  | [] => some none
  | backend :: backends =>
    if backend.weight = 0 then (pickIndex pick backends).map (Option.map (· + 1))
    else if pick < backend.weight then some (some 0)
    else do
      let pick' ← checkedSub pick backend.weight
      (pickIndex pick' backends).map (Option.map (· + 1))

/-- The numbers below the total weight for which the backend at `i` is picked. -/
def picksOf (backends : List Backend) (i : ℕ) : Finset ℕ :=
  (Finset.range (totalWeight backends)).filter fun n =>
    pickIndex (UInt32.ofNat n) backends = some (some i)

/-- What weighted selection promises. -/
structure ExactSelection (backends : List Backend) : Prop where
  sum : ∃ total, sumWeights backends = some total ∧ total.toNat = totalWeight backends
  none_iff : ∀ randomRange, selectBackend randomRange backends = none ↔
    ∀ b ∈ backends, b.weight = 0
  picked : ∀ pick : UInt32, pick.toNat < totalWeight backends →
    ∃ i, pickIndex pick backends = some (some i) ∧
      selectBackend (fun _ => pick) backends = backends[i]? ∧ i < backends.length
  count : ∀ i (h : i < backends.length), (picksOf backends i).card = backends[i].weight.toNat

theorem sumWeights_eq (backends : List Backend) (h : totalWeight backends < 2 ^ 32) :
    ∃ total, sumWeights backends = some total ∧ total.toNat = totalWeight backends := by
  have hfold : ∀ (bs : List Backend) (acc : UInt32), acc.toNat + totalWeight bs < 2 ^ 32 →
      ∃ total, (bs.map Backend.weight).foldlM checkedAdd acc = some total ∧
        total.toNat = acc.toNat + totalWeight bs := by
    intro bs
    induction bs with
    | nil => exact fun acc _ => ⟨acc, rfl, rfl⟩
    | cons b bs ih =>
      intro acc hacc
      have hcons : totalWeight (b :: bs) = b.weight.toNat + totalWeight bs := List.sum_cons
      have hadd : (acc + b.weight).toNat = acc.toNat + b.weight.toNat := by
        rw [UInt32.toNat_add]
        exact Nat.mod_eq_of_lt (by omega)
      obtain ⟨total, htotal, hsum⟩ := ih (acc + b.weight) (by omega)
      refine ⟨total, ?_, by omega⟩
      rw [List.map_cons, List.foldlM_cons, checkedAdd, if_pos (by omega)]
      exact htotal
  obtain ⟨total, htotal, hsum⟩ := hfold backends 0 (by simpa using h)
  exact ⟨total, htotal, by simpa using hsum⟩

/-- The loop walks down the weights, and never takes off more than is there. -/
theorem pickIndex_eq_walk (pick : UInt32) (backends : List Backend) :
    pickIndex pick backends =
      some (walk (backends.map fun b => b.weight.toNat) pick.toNat) := by
  induction backends generalizing pick with
  | nil => rfl
  | cons b backends ih =>
    rw [pickIndex, List.map_cons, walk]
    by_cases hzero : b.weight = 0
    · have hweight : b.weight.toNat = 0 := UInt32.toNat_inj.mpr hzero
      rw [if_pos hzero, ih, hweight, if_neg (Nat.not_lt_zero _), Nat.sub_zero]
      rfl
    rw [if_neg hzero]
    by_cases hlt : pick < b.weight
    · rw [if_pos hlt, if_pos (UInt32.lt_iff_toNat_lt.mp hlt)]
    · have hle : b.weight ≤ pick := UInt32.not_lt.mp hlt
      rw [if_neg hlt, if_neg fun h => hlt (UInt32.lt_iff_toNat_lt.mpr h), checkedSub,
        if_pos hle, ← UInt32.toNat_sub_of_le _ _ hle]
      exact congrArg (Option.map _) (ih (pick - b.weight))

/-- The backend that is picked is the one at the position. -/
theorem pickBackend_eq_pickIndex {pick : UInt32} {backends : List Backend} {i : ℕ}
    (h : pickIndex pick backends = some (some i)) :
    pickBackend pick backends = backends[i]? := by
  induction backends generalizing pick i with
  | nil => cases h
  | cons b backends ih =>
    rw [pickIndex] at h
    rw [pickBackend]
    have hnext : ∀ pick' : UInt32,
        (pickIndex pick' backends).map (Option.map (· + 1)) = some (some i) →
          pickBackend pick' backends = (b :: backends)[i]? := by
      intro pick' hstep
      obtain ⟨found, hfound, hsucc⟩ := Option.map_eq_some_iff.mp hstep
      obtain ⟨j, rfl, rfl⟩ := Option.map_eq_some_iff.mp hsucc
      rw [ih hfound]
      rfl
    by_cases hzero : b.weight = 0
    · rw [if_pos hzero] at h ⊢
      exact hnext pick h
    rw [if_neg hzero] at h ⊢
    by_cases hlt : pick < b.weight
    · rw [if_pos hlt] at h ⊢
      cases h
      rfl
    · rw [if_neg hlt] at h ⊢
      rw [checkedSub, if_pos (UInt32.not_lt.mp hlt)] at h
      exact hnext (pick - b.weight) h

/-- **Selection is exact** as long as the weights add up in 32 bits. -/
theorem exactSelection {backends : List Backend} (h : totalWeight backends < 2 ^ 32) :
    ExactSelection backends where
  sum := sumWeights_eq backends h
  none_iff randomRange := by
    rw [← Option.not_isSome_iff_eq_none, selectBackend_isSome randomRange h]
    push Not
    rfl
  picked pick hpick := by
    have hsome := walk_isSome_iff.mpr hpick
    obtain ⟨i, hi⟩ := Option.isSome_iff_exists.mp hsome
    have hindex : pickIndex pick backends = some (some i) := by rw [pickIndex_eq_walk, hi]
    obtain ⟨hlength, -⟩ := walk_eq_some_iff.mp hi
    rw [List.length_map] at hlength
    refine ⟨i, hindex, ?_, hlength⟩
    have hsum : (backends.map Backend.weight).sum ≠ 0 := by
      intro hzero
      have htotal := toNat_sum_weight backends
      rw [hzero, Nat.mod_eq_of_lt h] at htotal
      have : totalWeight backends = 0 := htotal.symm
      omega
    unfold selectBackend
    simp only
    rw [if_neg hsum, pickBackend_eq_pickIndex hindex, List.getElem?_eq_getElem hlength,
      Option.some_or]
  count i hi := by
    have hlength : i < (backends.map fun b => b.weight.toNat).length := by
      rwa [List.length_map]
    have hcard := card_walk (backends.map fun b => b.weight.toNat) hlength
    rw [List.getElem_map] at hcard
    rw [← hcard]
    refine congrArg Finset.card (Finset.filter_congr fun n hn => ?_)
    have hfits : n < 2 ^ 32 := (Finset.mem_range.mp hn).trans h
    rw [pickIndex_eq_walk, UInt32.toNat_ofNat_of_lt' hfits, Option.some_inj]

end Multiway.ProxyCore
