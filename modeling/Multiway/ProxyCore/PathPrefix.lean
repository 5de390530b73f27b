import Multiway.Lib.Segments
import Multiway.ProxyCore.Panics

/-!
# Path prefixes

A path prefix is a list of segments. `prefix_path_matches` compares characters
instead and gets the same answer, but for a prefix with a slash at its end
(`segmentwise_iff`). Where it matches, `replace_prefix` can slice, and the path
it makes has the segments it should have; it is no path when nothing is left of
it, and has an empty segment where what is left begins with two slashes
(`replacesPrefix_iff`).
-/

namespace Multiway.ProxyCore

open Multiway.Lib.Segments
open Multiway.Lib.Text

/-! ## Matching -/

/-- Cut at the slashes, the prefix begins the path; one at its end is ignored. -/
def SegmentPrefix (pfx path : String) : Prop :=
  (withoutTrailing '/' pfx.toList).splitOn '/' <+: path.toList.splitOn '/'

instance (pfx path : String) : Decidable (SegmentPrefix pfx path) :=
  inferInstanceAs (Decidable (_ <+: _))

theorem prefixPathMatches_iff {pfx path : String} :
    prefixPathMatches pfx path = true ↔
      pfx = "/" ∨ path = pfx ∨ pfx.toList ++ ['/'] <+: path.toList := by
  unfold prefixPathMatches
  by_cases hroot : pfx = "/"
  · simp [hroot]
  by_cases heq : path = pfx
  · simp [heq]
  rw [if_neg hroot, if_neg heq, or_iff_right hroot, or_iff_right heq, Bool.and_eq_true,
    List.isPrefixOf_iff_prefix, beq_iff_eq]
  constructor
  · intro h
    obtain ⟨⟨rest, hrest⟩, hnext⟩ := h
    rw [← hrest, List.getElem?_append_right le_rfl, Nat.sub_self] at hnext
    cases rest with
    | nil => cases hnext
    | cons c rest =>
      obtain rfl : c = '/' := Option.some.inj hnext
      exact ⟨rest, by rw [← hrest, List.append_assoc, List.singleton_append]⟩
  · intro h
    obtain ⟨rest, hrest⟩ := h
    rw [← hrest, List.append_assoc, List.singleton_append]
    refine ⟨List.prefix_append _ _, ?_⟩
    rw [List.getElem?_append_right le_rfl, Nat.sub_self]
    rfl

theorem segmentPrefix_iff {pfx path : String} {p : List Char}
    (h : withoutTrailing '/' pfx.toList = p) :
    SegmentPrefix pfx path ↔ path.toList = p ∨ p ++ ['/'] <+: path.toList := by
  rw [SegmentPrefix, h, splitOn_prefix_iff]

/-- A prefix with a slash at its end wants another one behind it. -/
theorem segmentwise_trailing_iff {pfx path : String} {p : List Char}
    (hp : pfx.toList = p ++ ['/']) (hnil : p ≠ []) :
    (prefixPathMatches pfx path = true ↔ SegmentPrefix pfx path) ↔
      path.toList ≠ p ∧
        (pfx.toList <+: path.toList → path = pfx ∨ pfx.toList ++ ['/'] <+: path.toList) := by
  have hroot : pfx ≠ "/" := by
    rintro rfl
    exact hnil (List.append_inj' (hp.symm.trans (List.nil_append ['/']).symm) rfl).1
  have hlonger : path = pfx ∨ pfx.toList ++ ['/'] <+: path.toList →
      pfx.toList <+: path.toList := by
    intro h
    rcases h with rfl | h
    · exact List.prefix_refl _
    · exact (List.prefix_append _ _).trans h
  rw [prefixPathMatches_iff, segmentPrefix_iff (by rw [hp, withoutTrailing_concat]), ← hp,
    or_iff_right hroot]
  constructor
  · intro h
    refine ⟨fun hself => ?_, fun hpfx => h.mpr (.inr hpfx)⟩
    -- without its slash the prefix is shorter than what it would have to begin
    have hle := (hlonger (h.mpr (.inl hself))).length_le
    rw [hself, hp, List.length_append, List.length_singleton] at hle
    omega
  · intro h
    obtain ⟨hself, hpfx⟩ := h
    exact ⟨fun hmatches => .inr (hlonger hmatches), fun hseg =>
      hseg.elim (fun heq => absurd heq hself) hpfx⟩

/-- **Prefixes are matched segment by segment**, unless a slash at the end of
the prefix makes the difference. -/
theorem segmentwise_iff {pfx path : String} (hpath : path.toList.head? = some '/') :
    (prefixPathMatches pfx path = true ↔ SegmentPrefix pfx path) ↔
      ∀ p ≠ [], pfx.toList = p ++ ['/'] →
        path.toList ≠ p ∧
          (pfx.toList <+: path.toList → path = pfx ∨ pfx.toList ++ ['/'] <+: path.toList) := by
  by_cases htrailing : ∃ p, pfx.toList = p ++ ['/']
  · obtain ⟨p, hp⟩ := htrailing
    have hunique : ∀ p', pfx.toList = p' ++ ['/'] → p' = p := by
      intro p' hp'
      exact (List.append_inj' (hp'.symm.trans hp) rfl).1
    by_cases hnil : p = []
    · -- the root is a prefix of every path
      subst hnil
      have hroot : pfx = "/" := String.toList_injective hp
      have hseg : SegmentPrefix pfx path := by
        obtain ⟨rest, hrest⟩ := List.head?_eq_some_iff.mp hpath
        refine (segmentPrefix_iff (by rw [hp, withoutTrailing_concat])).mpr (.inr ?_)
        rw [hrest]
        exact List.prefix_append _ _
      refine iff_of_true (iff_of_true (prefixPathMatches_iff.mpr (.inl hroot)) hseg) ?_
      intro p' hne hp'
      exact absurd (hunique p' hp') hne
    · rw [segmentwise_trailing_iff hp hnil]
      constructor
      · intro h p' _ hp'
        rwa [hunique p' hp']
      · intro h
        exact h p hnil hp
  · have hnone : ∀ p, pfx.toList ≠ p ++ ['/'] := fun p hp => htrailing ⟨p, hp⟩
    have hroot : pfx ≠ "/" := by
      rintro rfl
      exact hnone [] rfl
    refine iff_of_true ?_ fun p _ hp => absurd hp (hnone p)
    rw [prefixPathMatches_iff, segmentPrefix_iff (withoutTrailing_eq_self hnone),
      or_iff_right hroot, String.toList_inj]

theorem segmentwise_api :
    prefixPathMatches "/api" "/api/users" = true ↔ SegmentPrefix "/api" "/api/users" :=
  (segmentwise_iff rfl).mpr fun p _ hp => by
    have hlast := congrArg List.getLast? hp
    rw [List.getLast?_concat] at hlast
    exact absurd hlast (by decide)

/-- `/api/` is the prefix `/api`. -/
theorem trailing_slash_not_matched :
    ¬ ∀ pfx path : String, pfx.toList.head? = some '/' → path.toList.head? = some '/' →
      (prefixPathMatches pfx path = true ↔ SegmentPrefix pfx path) := by
  intro hall
  have h := hall "/api/" "/api/users" rfl rfl
  exact absurd (h.mpr (by decide)) (by decide)

/-! ## Replacing -/

/-- A path, with the segments of the replacement and then those the path has
behind the prefix; where they meet there is one slash. -/
structure WellFormed (path pfx replacement result : List Char) : Prop where
  absolute : result.head? = some '/'
  joined : ∀ rest, result = replacement ++ '/' :: rest →
    replacement.getLast? ≠ some '/' ∧ rest.head? ≠ some '/'
  segments : ∃ rest, words '/' path = words '/' pfx ++ rest ∧
    words '/' result = words '/' replacement ++ rest

/-- What is left of the path behind a prefix that matches. -/
theorem exists_remainder {pfx path : String} (hpath : path.toList.head? = some '/')
    (hmatches : prefixPathMatches pfx path = true) :
    ∃ remainder, path.toList = pfx.toList ++ remainder ∧
      sliceFrom pfx.utf8ByteSize path.toList = some remainder ∧
      words '/' path.toList = words '/' pfx.toList ++ words '/' remainder := by
  have hslice : ∀ remainder, path.toList = pfx.toList ++ remainder →
      sliceFrom pfx.utf8ByteSize path.toList = some remainder := by
    intro remainder hsplit
    have hsize : pfx.utf8ByteSize = String.utf8Len pfx.toList := by
      rw [← String.utf8ByteSize_ofList, String.ofList_toList]
    rw [hsplit, hsize, sliceFrom_append]
  rcases prefixPathMatches_iff.mp hmatches with rfl | rfl | ⟨rest, hrest⟩
  · obtain ⟨rest, hrest⟩ := List.head?_eq_some_iff.mp hpath
    refine ⟨rest, hrest, hslice rest hrest, ?_⟩
    have hroot : words '/' "/".toList = [] := words_concat []
    rw [hrest, words_cons, hroot, List.nil_append]
  · refine ⟨[], (List.append_nil _).symm, hslice [] (List.append_nil _).symm, ?_⟩
    rw [words_nil, List.append_nil]
  · rw [List.append_assoc, List.singleton_append] at hrest
    refine ⟨'/' :: rest, hrest.symm, hslice _ hrest.symm, ?_⟩
    rw [← hrest, words_append_cons, words_cons]

section
variable {replacement remainder : List Char}

/-- A slash more or less where they meet makes no segment. -/
theorem words_joinPath :
    words '/' (joinPath replacement remainder) = words '/' replacement ++ words '/' remainder := by
  have htail : remainder.head? = some '/' → words '/' remainder.tail = words '/' remainder := by
    intro hhead
    obtain ⟨rest, rfl⟩ := List.head?_eq_some_iff.mp hhead
    exact (words_cons rest).symm
  unfold joinPath
  split
  next hlast =>
    obtain ⟨front, rfl⟩ := List.getLast?_eq_some_iff.mp hlast
    rw [List.append_assoc, List.singleton_append, words_append_cons, words_concat]
    split
    next hhead => rw [htail hhead]
    next => rfl
  next =>
    split
    next h =>
      rcases h with rfl | hhead
      · rw [List.append_nil, words_nil, List.append_nil]
      · obtain ⟨rest, rfl⟩ := List.head?_eq_some_iff.mp hhead
        rw [words_append_cons, words_cons]
    next => rw [words_append_cons]

theorem head?_joinPath (h : replacement = [] ∨ replacement.head? = some '/') :
    (joinPath replacement remainder).head? = some '/' ↔ replacement ≠ [] ∨ remainder ≠ [] := by
  rcases h with rfl | hhead
  · rw [or_iff_right (not_not.mpr rfl)]
    unfold joinPath
    rw [if_neg (by simp)]
    by_cases hnil : remainder = []
    · simp [hnil]
    by_cases hslash : remainder.head? = some '/'
    · simp [hslash, hnil]
    · simp [hslash, hnil]
  · obtain ⟨rest, rfl⟩ := List.head?_eq_some_iff.mp hhead
    refine iff_of_true ?_ (.inl (List.cons_ne_nil _ _))
    unfold joinPath
    split
    · rfl
    · split <;> rfl

/-- The slash where they meet is alone unless the remainder begins with two. -/
theorem joined_joinPath :
    (∀ rest, joinPath replacement remainder = replacement ++ '/' :: rest →
        replacement.getLast? ≠ some '/' ∧ rest.head? ≠ some '/') ↔
      ¬ ['/', '/'] <+: remainder := by
  unfold joinPath
  rcases remainder with _ | ⟨c, remainder⟩
  · refine iff_of_true ?_ (by simp)
    intro rest hrest
    simp at hrest
  by_cases hc : c = '/'
  · subst hc
    have hdouble : ['/', '/'] <+: '/' :: remainder ↔ remainder.head? = some '/' := by
      cases remainder <;> simp [List.cons_prefix_cons, eq_comm]
    rw [hdouble]
    by_cases hlast : replacement.getLast? = some '/'
    · simp only [hlast, List.head?_cons, if_true, List.tail_cons, List.append_cancel_left_eq,
        ne_eq, not_true_eq_false, false_and, imp_false]
      rw [List.head?_eq_some_iff, not_exists]
    · simp only [hlast, List.head?_cons, if_false, reduceCtorEq, or_true, if_true,
        List.append_cancel_left_eq, List.cons.injEq, true_and, ne_eq, not_false_eq_true,
        forall_eq']
  · have hdouble : ¬ ['/', '/'] <+: c :: remainder := by
      intro h
      exact hc (List.cons_prefix_cons.mp h).1.symm
    refine iff_of_true ?_ hdouble
    intro rest hrest
    by_cases hlast : replacement.getLast? = some '/'
    · simp [hlast, hc] at hrest
    · refine ⟨hlast, ?_⟩
      obtain rfl : c :: remainder = rest := by simpa [hlast, hc] using hrest
      simpa using hc

end

/-- **What becomes of a matched prefix.** The path is sliced in range and keeps
its segments; it is well formed exactly when there is something left of it and
the path does not go on with two slashes. -/
theorem replacesPrefix_iff {path pfx replacement : String}
    (hpath : path.toList.head? = some '/') (hmatches : prefixPathMatches pfx path = true)
    (hreplacement : replacement = "" ∨ replacement.toList.head? = some '/') :
    (∃ result, replacePrefix path pfx replacement = some result ∧
        WellFormed path.toList pfx.toList replacement.toList result.toList) ↔
      (replacement = "" → path ≠ pfx) ∧ ¬ pfx.toList ++ ['/', '/'] <+: path.toList := by
  obtain ⟨remainder, hsplit, hslice, hwords⟩ := exists_remainder hpath hmatches
  have hempty : replacement = "" ↔ replacement.toList = [] := by
    rw [← String.toList_inj]
    rfl
  have hwhole : path = pfx ↔ remainder = [] := by
    rw [← String.toList_inj, hsplit, List.append_right_eq_self]
  have hhead : (joinPath replacement.toList remainder).head? = some '/' ↔
      replacement.toList ≠ [] ∨ remainder ≠ [] :=
    head?_joinPath (hreplacement.imp_left hempty.mp)
  rw [replacePrefix_of_slice hslice, hsplit, List.prefix_append_right_inj, ne_eq, hwhole, hempty]
  constructor
  · intro h
    obtain ⟨_, ⟨⟩, hformed⟩ := h
    rw [String.toList_ofList] at hformed
    refine ⟨fun hnil => ?_, joined_joinPath.mp hformed.joined⟩
    exact (hhead.mp hformed.absolute).resolve_left (not_not.mpr hnil)
  · intro h
    refine ⟨_, rfl, ?_⟩
    rw [String.toList_ofList]
    refine ⟨hhead.mpr (not_or_of_imp h.1), joined_joinPath.mpr h.2, words '/' remainder, ?_,
      words_joinPath⟩
    rw [← hsplit]
    exact hwords

theorem replacesPrefix_old :
    ∃ result, replacePrefix "/old/foo" "/old" "/new/" = some result ∧
      WellFormed "/old/foo".toList "/old".toList "/new/".toList result.toList :=
  (replacesPrefix_iff rfl (by decide) (.inr rfl)).mpr ⟨by decide, by decide⟩

/-- Nothing is left of `/old` when it is replaced by nothing. -/
theorem nothing_left :
    ¬ ∀ path pfx replacement : String, path.toList.head? = some '/' →
      prefixPathMatches pfx path = true →
      (replacement = "" ∨ replacement.toList.head? = some '/') →
      ∃ result, replacePrefix path pfx replacement = some result ∧
        WellFormed path.toList pfx.toList replacement.toList result.toList := by
  intro hall
  obtain ⟨result, hresult, hformed⟩ := hall "/old" "/old" "" rfl (by decide) (.inl rfl)
  obtain rfl : "" = result := Option.some.inj hresult
  exact absurd hformed.absolute (by decide)

end Multiway.ProxyCore
