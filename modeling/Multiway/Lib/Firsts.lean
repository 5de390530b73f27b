import Mathlib

/-!
# The first element of each key

Filing the elements of a list under their keys, where an element is filed only
if nothing is there yet, keeps the first element of each key. `firsts` lists
what is kept, in key order: it has every key of the list once
(`pairwise_firsts`, `mem_map_key_firsts`), and what the elements are filed as
does not change which are kept (`values_collect`).
-/

namespace Multiway.Lib

variable {K α β : Type} [Ord K] [Std.TransOrd K]

/-- File each element of a list as `entry` of it, the first of its key. -/
def collect (key : α → K) (entry : α → β) (l : List α) : Std.ExtTreeMap K β :=
  l.foldl (fun kept a => kept.insertIfNew (key a) (entry a)) ∅

/-- The elements that are the first of their key, in key order. -/
def firsts (key : α → K) (l : List α) : List α := (collect key id l).toList.map Prod.snd

section
variable [Std.LawfulEqOrd K] [DecidableEq K] {key : α → K} {entry : α → β}

/-- What was filed before stays, and the first of the key comes after it. -/
theorem getElem?_foldl_insertIfNew (l : List α) (kept : Std.ExtTreeMap K β) (k : K) :
    (l.foldl (fun kept a => kept.insertIfNew (key a) (entry a)) kept)[k]? =
      kept[k]?.or ((l.find? fun a => key a == k).map entry) := by
  induction l generalizing kept with
  | nil => exact Option.or_none.symm
  | cons a l ih =>
    rw [List.foldl_cons, ih, Std.ExtTreeMap.getElem?_insertIfNew, List.find?_cons]
    by_cases hkey : key a = k
    · subst hkey
      rw [beq_self_eq_true, Std.ReflOrd.compare_self]
      rcases hkept : kept[key a]? with _ | b
      · have hnew : key a ∉ kept := by
          rw [Std.ExtTreeMap.mem_iff_isSome_getElem?, hkept]
          exact Bool.false_ne_true
        rw [if_pos ⟨rfl, hnew⟩]
        rfl
      · have hold : key a ∈ kept := by
          rw [Std.ExtTreeMap.mem_iff_isSome_getElem?, hkept]
          rfl
        rw [if_neg fun h => h.2 hold]
        rfl
    · rw [beq_eq_false_iff_ne.mpr hkey, if_neg fun h => hkey (Std.LawfulEqOrd.eq_of_compare h.1)]

theorem getElem?_collect (l : List α) (k : K) :
    (collect key entry l)[k]? = (l.find? fun a => key a == k).map entry := by
  rw [collect, getElem?_foldl_insertIfNew, Std.ExtTreeMap.getElem?_empty, Option.none_or]

/-- Whatever the elements are filed as, the same ones are kept. -/
theorem values_collect (l : List α) :
    (collect key entry l).toList.map Prod.snd = (firsts key l).map entry := by
  have hmap : collect key entry l = (collect key id l).map fun _ a => entry a := by
    refine Std.ExtTreeMap.ext_getElem? fun k => ?_
    rw [Std.ExtTreeMap.getElem?_map, getElem?_collect, getElem?_collect, Option.map_id, id]
  rw [hmap, Std.ExtTreeMap.toList_map, List.map_map, firsts, List.map_map]
  rfl

/-- What is filed under a key is the first element of that key. -/
theorem mem_toList_collect {l : List α} {p : K × α} :
    p ∈ (collect key id l).toList ↔ key p.2 = p.1 ∧ l.find? (fun a => key a == p.1) = some p.2 := by
  rw [Std.ExtTreeMap.mem_toList_iff_getElem?_eq_some, getElem?_collect, Option.map_id, id]
  constructor
  · intro h
    have hkey := List.find?_some h
    exact ⟨eq_of_beq hkey, h⟩
  · exact And.right

theorem mem_firsts {l : List α} {a : α} :
    a ∈ firsts key l ↔ l.find? (fun b => key b == key a) = some a := by
  unfold firsts
  rw [List.mem_map]
  constructor
  · intro h
    obtain ⟨⟨k, b⟩, hmem, rfl⟩ := h
    obtain ⟨hkey, hfind⟩ := mem_toList_collect.mp hmem
    rw [hkey]
    exact hfind
  · intro h
    exact ⟨(key a, a), mem_toList_collect.mpr ⟨rfl, h⟩, rfl⟩

theorem mem_of_mem_firsts {l : List α} {a : α} (h : a ∈ firsts key l) : a ∈ l :=
  List.mem_of_find?_eq_some (mem_firsts.mp h)

/-- Every key of the list is there. -/
theorem mem_map_key_firsts {l : List α} {k : K} : k ∈ (firsts key l).map key ↔ k ∈ l.map key := by
  rw [List.mem_map, List.mem_map]
  constructor
  · intro h
    obtain ⟨a, hmem, hkey⟩ := h
    exact ⟨a, mem_of_mem_firsts hmem, hkey⟩
  · intro h
    obtain ⟨a, hmem, hkey⟩ := h
    rcases hfind : l.find? (fun b => key b == k) with _ | b
    · exact absurd (beq_iff_eq.mpr hkey) (List.find?_eq_none.mp hfind a hmem)
    · have hfound := List.find?_some hfind
      have hb : key b = k := eq_of_beq hfound
      exact ⟨b, mem_firsts.mpr (by rw [hb]; exact hfind), hb⟩

/-- And it is there once. -/
theorem pairwise_firsts (l : List α) :
    (firsts key l).Pairwise fun a b => compare (key a) (key b) = .lt := by
  rw [firsts, List.pairwise_map]
  refine List.Pairwise.imp_of_mem ?_ Std.ExtTreeMap.ordered_keys_toList
  intro p q hp hq hlt
  rw [(mem_toList_collect.mp hp).1, (mem_toList_collect.mp hq).1]
  exact hlt

theorem nodup_map_key_firsts (l : List α) : ((firsts key l).map key).Nodup := by
  refine List.pairwise_map.mpr ((pairwise_firsts l).imp ?_)
  intro a b hlt heq
  rw [heq, Std.ReflOrd.compare_self] at hlt
  cases hlt

end

end Multiway.Lib
