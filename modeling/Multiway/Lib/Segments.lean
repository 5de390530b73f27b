import Mathlib

/-!
# Segments

A list cut at a separator, as a path is cut at its slashes. That the segments of
one list begin those of another is a matter of the lists themselves: the other
one is the first or goes on with a separator (`splitOn_prefix_iff`). `words` are
the segments that are not empty; a separator more or less does not change them.
Two separators in a row stay where the ones at the end are cut off, if anything
else follows them (`pair_infix_rdropWhile_iff`).
-/

namespace Multiway.Lib.Segments

variable {α : Type} [DecidableEq α] {sep : α}

omit [DecidableEq α] in
theorem intercalate_append (s : List α) {ys : List (List α)} (hys : ys ≠ []) :
    ∀ {xs : List (List α)}, xs ≠ [] →
      s.intercalate (xs ++ ys) = s.intercalate xs ++ s ++ s.intercalate ys
  | [x], _ => by
    rw [List.singleton_append, List.intercalate_cons_of_ne_nil hys, List.intercalate_singleton]
  | x :: x' :: xs, _ => by
    rw [List.cons_append, List.intercalate_cons_of_ne_nil (by simp),
      intercalate_append s hys (List.cons_ne_nil x' xs), List.intercalate_cons_cons]
    simp only [List.append_assoc]

theorem splitOn_prefix_iff {p q : List α} :
    p.splitOn sep <+: q.splitOn sep ↔ q = p ∨ p ++ [sep] <+: q := by
  constructor
  · intro h
    obtain ⟨rest, hrest⟩ := h
    have hq : q = [sep].intercalate (p.splitOn sep ++ rest) := by
      rw [hrest, List.intercalate_splitOn]
    by_cases hnil : rest = []
    · left
      rw [hq, hnil, List.append_nil, List.intercalate_splitOn]
    · right
      rw [hq, intercalate_append _ hnil (List.splitOn_ne_nil sep p), List.intercalate_splitOn]
      exact List.prefix_append _ _
  · intro h
    rcases h with rfl | ⟨rest, rfl⟩
    · exact List.prefix_refl _
    · rw [List.append_assoc, List.singleton_append, List.splitOn_append_cons_self]
      exact List.prefix_append _ _

/-- The list without a separator at its end. -/
def withoutTrailing (sep : α) (l : List α) : List α :=
  if l.getLast? = some sep then l.dropLast else l

theorem withoutTrailing_concat (l : List α) : withoutTrailing sep (l ++ [sep]) = l := by
  rw [withoutTrailing, if_pos List.getLast?_concat, List.dropLast_concat]

theorem withoutTrailing_eq_self {l : List α} (h : ∀ p, l ≠ p ++ [sep]) :
    withoutTrailing sep l = l := by
  refine if_neg fun hlast => ?_
  obtain ⟨p, hp⟩ := List.getLast?_eq_some_iff.mp hlast
  exact h p hp

/-- The segments that are not empty. -/
def words (sep : α) (l : List α) : List (List α) := (l.splitOn sep).filter (· ≠ [])

theorem words_nil : words sep [] = [] := by
  simp [words]

theorem words_append_cons (a b : List α) :
    words sep (a ++ sep :: b) = words sep a ++ words sep b := by
  rw [words, List.splitOn_append_cons_self, List.filter_append]
  rfl

theorem words_cons (l : List α) : words sep (sep :: l) = words sep l := by
  have h : words sep ([] ++ sep :: l) = words sep [] ++ words sep l := words_append_cons [] l
  rwa [words_nil, List.nil_append, List.nil_append] at h

theorem words_concat (l : List α) : words sep (l ++ [sep]) = words sep l := by
  rw [words_append_cons, words_nil, List.append_nil]

/-! ## Two separators in a row -/

section
omit [DecidableEq α]
variable {front : List α}

/-- After a text that does not end in one, a single separator makes no pair. -/
theorem pair_infix_append_cons_iff (hlast : front.getLast? ≠ some sep) {rest : List α}
    (hrest : sep ∉ rest) : [sep, sep] <:+: front ++ sep :: rest ↔ [sep, sep] <:+: front := by
  constructor
  · intro h
    rcases List.infix_append_iff_ne_nil.mp h with hfront | hafter | hsplit
    · exact hfront
    · rcases List.infix_cons_iff.mp hafter with hprefix | hinside
      · have hmem := (List.cons_prefix_cons.mp hprefix).2.subset (List.mem_singleton_self sep)
        exact absurd hmem hrest
      · exact absurd (hinside.subset List.mem_cons_self) hrest
    · -- one separator on either side of the cut, so the front ends in one
      obtain ⟨l₁, l₂, hne₁, hne₂, hpair, ⟨before, rfl⟩, -⟩ := hsplit
      have hlength : 2 = l₁.length + l₂.length := by
        rw [← List.length_append, ← hpair]
        rfl
      have hpos₁ := List.length_pos_iff.mpr hne₁
      have hpos₂ := List.length_pos_iff.mpr hne₂
      have hone : [sep].length = l₁.length := by
        rw [List.length_singleton]
        omega
      obtain ⟨rfl, -⟩ : [sep] = l₁ ∧ [sep] = l₂ := List.append_inj hpair hone
      exact absurd List.getLast?_concat hlast
  · intro h
    exact h.trans (List.prefix_append front _).isInfix

/-- A pair of separators that is not the end is followed by something else,
after some more of them. -/
theorem exists_pair_followed : ∀ {rest : List α}, (sep :: sep :: rest).getLast? ≠ some sep →
    ∃ c, c ≠ sep ∧ [sep, sep, c] <:+: sep :: sep :: rest
  | [], h => absurd rfl h
  | c :: rest, h => by
    by_cases hc : c = sep
    · obtain rfl := hc.symm
      rw [List.getLast?_cons_cons] at h
      obtain ⟨d, hd, hinside⟩ := exists_pair_followed h
      exact ⟨d, hd, List.infix_cons hinside⟩
    · exact ⟨c, hc, (List.prefix_append [sep, sep, c] rest).isInfix⟩

theorem pair_infix_iff_followed (hlast : front.getLast? ≠ some sep) {rest : List α}
    (hrest : ∀ c ∈ rest, c = sep) :
    [sep, sep] <:+: front ↔ ∃ c, c ≠ sep ∧ [sep, sep, c] <:+: front ++ rest := by
  constructor
  · intro h
    obtain ⟨before, after, rfl⟩ := h
    rw [List.append_assoc, List.getLast?_append_of_ne_nil _ (by simp)] at hlast
    obtain ⟨c, hc, hinside⟩ := exists_pair_followed hlast
    refine ⟨c, hc, hinside.trans ?_⟩
    rw [List.append_assoc, List.append_assoc]
    exact ⟨before, rest, by simp⟩
  · intro h
    obtain ⟨c, hc, before, after, heq⟩ := h
    rcases List.append_eq_append_iff.mp heq with ⟨mid, hfront, -⟩ | ⟨mid, hfront, hmid⟩
    · rw [hfront]
      exact ⟨before, c :: mid, by simp⟩
    · rcases List.eq_nil_or_concat' mid with rfl | ⟨init, d, rfl⟩
      · rw [List.append_nil] at hfront
        rw [← hfront]
        exact ⟨before, [c], by simp⟩
      · -- what follows the pair is one of the separators at the end
        have hlasts := congrArg List.getLast? hfront
        rw [List.getLast?_append_of_ne_nil _ (by simp), ← List.append_assoc,
          List.getLast?_concat] at hlasts
        obtain rfl : c = d := Option.some.inj hlasts
        refine absurd (hrest c ?_) hc
        rw [hmid]
        simp

end

theorem getLast?_rdropWhile (l : List α) : (l.rdropWhile (· == sep)).getLast? ≠ some sep := by
  intro h
  obtain ⟨before, hbefore⟩ := List.getLast?_eq_some_iff.mp h
  have hne : l.rdropWhile (· == sep) ≠ [] := by
    rw [hbefore]
    simp
  have hlast := List.rdropWhile_last_not (· == sep) l hne
  rw [List.getLast_of_getLast?_eq_some h] at hlast
  exact hlast (beq_self_eq_true sep)

theorem rdropWhile_eq_self {l : List α} (h : l.getLast? ≠ some sep) :
    l.rdropWhile (· == sep) = l := by
  rw [List.rdropWhile_eq_self_iff]
  intro hne hlast
  rw [List.getLast?_eq_some_getLast hne, eq_of_beq hlast] at h
  exact h rfl

theorem eq_of_mem_rtakeWhile {l : List α} {c : α} (h : c ∈ l.rtakeWhile (· == sep)) : c = sep := by
  have hc := List.mem_rtakeWhile_imp (p := (· == sep)) h
  exact eq_of_beq hc

/-- Without the separators at the end there is a pair of them exactly when there
is one that something else follows. -/
theorem pair_infix_rdropWhile_iff (l : List α) :
    [sep, sep] <:+: l.rdropWhile (· == sep) ↔ ∃ c, c ≠ sep ∧ [sep, sep, c] <:+: l := by
  rw [pair_infix_iff_followed (getLast?_rdropWhile l) fun c => eq_of_mem_rtakeWhile,
    List.rdropWhile_append_rtakeWhile]

theorem mem_rdropWhile_iff {l : List α} {c : α} (hc : c ≠ sep) :
    c ∈ l.rdropWhile (· == sep) ↔ c ∈ l := by
  have hrest : c ∉ l.rtakeWhile (· == sep) :=
    fun hmem => hc (eq_of_mem_rtakeWhile hmem)
  constructor
  · intro h
    exact (List.rdropWhile_prefix (· == sep) l).subset h
  · intro h
    rw [← List.rdropWhile_append_rtakeWhile (p := (· == sep)) (l := l), List.mem_append] at h
    exact h.resolve_right hrest

end Multiway.Lib.Segments
