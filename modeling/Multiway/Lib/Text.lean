import Mathlib

/-!
# String operations

Rust's `str` methods on the characters of a string. The ASCII ones touch the
ASCII letters only, as `Char.toLower` and `Char.toUpper` do.
-/

namespace Multiway.Lib.Text

/-- `str::to_ascii_lowercase`. -/
def toAsciiLowercase (cs : List Char) : List Char := cs.map Char.toLower

/-- `str::eq_ignore_ascii_case`. -/
def eqIgnoreAsciiCase (a b : String) : Bool :=
  toAsciiLowercase a.toList == toAsciiLowercase b.toList

/-- `str::rsplit_once`: split around the last `sep`. -/
def rsplitOnce (sep : Char) (cs : List Char) : Option (List Char × List Char) :=
  match cs.reverse.dropWhile (· != sep) with
  | [] => none
  | _ :: before => some (before.reverse, (cs.reverse.takeWhile (· != sep)).reverse)

/-- What follows the last `sep` holds none. -/
theorem rsplitOnce_append_cons {sep : Char} {before after : List Char} (h : sep ∉ after) :
    rsplitOnce sep (before ++ sep :: after) = some (before, after) := by
  have hafter : ∀ c ∈ after.reverse, (c != sep) = true := by
    intro c hc
    rw [bne_iff_ne]
    intro heq
    rw [heq] at hc
    exact h (List.mem_reverse.mp hc)
  have hsep : (sep != sep) = false := bne_self_eq_false sep
  have hreverse : (before ++ sep :: after).reverse = after.reverse ++ sep :: before.reverse := by
    rw [List.reverse_append, List.reverse_cons, List.append_assoc, List.singleton_append]
  unfold rsplitOnce
  rw [hreverse, List.dropWhile_append_of_pos hafter, List.takeWhile_append_of_pos hafter]
  simp only [List.dropWhile_cons, List.takeWhile_cons, hsep, Bool.false_eq_true, if_false,
    List.append_nil, List.reverse_reverse]

theorem rsplitOnce_of_notMem {sep : Char} {cs : List Char} (h : sep ∉ cs) :
    rsplitOnce sep cs = none := by
  have hall : ∀ c ∈ cs.reverse, (c != sep) = true := by
    intro c hc
    rw [bne_iff_ne]
    rintro rfl
    exact h (List.mem_reverse.mp hc)
  rw [rsplitOnce, List.dropWhile_eq_nil_iff.mpr hall]

/-- A text that has the separator has a last one. -/
theorem exists_last {sep : Char} {cs : List Char} (h : sep ∈ cs) :
    ∃ before after, cs = before ++ sep :: after ∧ sep ∉ after := by
  obtain ⟨after, before, hsplit, hafter⟩ :=
    List.eq_append_cons_of_mem (List.mem_reverse.mpr h)
  refine ⟨before.reverse, after.reverse, ?_, fun hmem => hafter (List.mem_reverse.mp hmem)⟩
  rw [← List.reverse_reverse cs, hsplit, List.reverse_append, List.reverse_cons, List.append_assoc,
    List.singleton_append]

theorem dropSuffix?_eq_some {cs suffix front : List Char} :
    cs.dropSuffix? suffix = some front ↔ cs = front ++ suffix := by
  rw [List.dropSuffix?_eq_some_iff]
  constructor
  · intro h
    obtain ⟨suffix', hsplit, hbeq⟩ := h
    rw [hsplit, eq_of_beq hbeq]
  · intro h
    exact ⟨suffix, h, beq_self_eq_true suffix⟩

theorem length_le_utf8Len : ∀ cs : List Char, cs.length ≤ String.utf8Len cs
  | [] => Nat.le_refl 0
  | c :: cs => by
    have hpos : 0 < c.utf8Size := Char.utf8Size_pos c
    have ih := length_le_utf8Len cs
    rw [String.utf8Len_cons, List.length_cons]
    omega

theorem utf8Len_eq_length : ∀ {cs : List Char}, (∀ c ∈ cs, c.utf8Size = 1) →
    String.utf8Len cs = cs.length
  | [], _ => rfl
  | c :: cs, h => by
    rw [String.utf8Len_cons, List.length_cons, h c List.mem_cons_self,
      utf8Len_eq_length fun d hd => h d (List.mem_cons_of_mem c hd)]

/-- `&s[n..]`, where a byte offset past the end or inside a character panics. -/
def sliceFrom : ℕ → List Char → Option (List Char)
  | 0, cs => some cs
  | _ + 1, [] => none
  | n + 1, c :: cs =>
    if c.utf8Size ≤ n + 1 then sliceFrom (n + 1 - c.utf8Size) cs else none

/-- A prefix of the text is a good place to slice at. -/
theorem sliceFrom_append : ∀ (pfx rest : List Char),
    sliceFrom (String.utf8Len pfx) (pfx ++ rest) = some rest
  | [], rest => by simp [sliceFrom]
  | c :: pfx, rest => by
    have hpos : 0 < c.utf8Size := Char.utf8Size_pos c
    obtain ⟨n, hn⟩ : ∃ n, String.utf8Len (c :: pfx) = n + 1 :=
      Nat.exists_eq_succ_of_ne_zero (by simp; omega)
    have hrest : n + 1 - c.utf8Size = String.utf8Len pfx := by
      rw [← hn, String.utf8Len_cons, Nat.add_sub_cancel]
    have hle : c.utf8Size ≤ n + 1 := by
      rw [← hn, String.utf8Len_cons]
      exact Nat.le_add_left _ _
    rw [hn, List.cons_append, sliceFrom, if_pos hle, hrest]
    exact sliceFrom_append pfx rest

/-- `str::to_uppercase`, on what can become an ASCII letter: the ASCII letters
and the two other characters whose Unicode uppercase is one (dotless `ı` and
long `ſ`). That is enough to compare with ASCII words and to print a text of
ASCII characters; other letters are left in lowercase, as the source does not. -/
def toUppercase (s : String) : String :=
  String.ofList (s.toList.map fun c =>
    if c = Char.ofNat 0x131 then 'I' else if c = Char.ofNat 0x17f then 'S' else c.toUpper)

/-! ## Digits -/

theorem digitChar_inj : ∀ d < 16, ∀ e < 16, Nat.digitChar d = Nat.digitChar e → d = e := by
  decide

theorem digitChar_ne_hyphen : ∀ d < 16, Nat.digitChar d ≠ '-' := by
  decide

theorem isLower_digitChar_iff : ∀ d < 16, (Nat.digitChar d).isLower = true ↔ 10 ≤ d := by
  decide

section
variable {b : ℕ} (hb : 1 < b)
include hb

/-- As characters the digits of a number stand the other way round. -/
theorem toDigits_eq_map_digits {n : ℕ} (hn : 0 < n) :
    Nat.toDigits b n = ((Nat.digits b n).map Nat.digitChar).reverse := by
  induction n using Nat.strong_induction_on with
  | _ n ih =>
    rw [Nat.toDigits_eq_if hb, Nat.digits_def' hb hn, List.map_cons, List.reverse_cons]
    split_ifs with hlt
    · rw [Nat.div_eq_of_lt hlt, Nat.mod_eq_of_lt hlt, Nat.digits_zero]
      rfl
    · rw [ih (n / b) (Nat.div_lt_self hn hb) (Nat.div_pos (Nat.not_lt.mp hlt) (by omega))]

theorem length_toDigits (n : ℕ) : (Nat.toDigits b n).length = Nat.log b n + 1 := by
  rcases Nat.eq_zero_or_pos n with rfl | hn
  · rw [Nat.toDigits_zero, Nat.log_zero_right, List.length_singleton]
  · rw [toDigits_eq_map_digits hb hn, List.length_reverse, List.length_map,
      Nat.length_digits b n hb (Nat.pos_iff_ne_zero.mp hn)]

theorem exists_digit_of_mem_toDigits {n : ℕ} {c : Char} (h : c ∈ Nat.toDigits b n) :
    ∃ d < b, Nat.digitChar d = c := by
  rcases Nat.eq_zero_or_pos n with rfl | hn
  · rw [Nat.toDigits_zero, List.mem_singleton] at h
    exact ⟨0, by omega, h.symm⟩
  · rw [toDigits_eq_map_digits hb hn, List.mem_reverse, List.mem_map] at h
    obtain ⟨d, hd, hc⟩ := h
    exact ⟨d, Nat.digits_lt_base hb hd, hc⟩

end

/-- A hexadecimal number has a letter when it has a digit from ten on. -/
theorem exists_isLower_toDigits_iff (n : ℕ) :
    (∃ c ∈ Nat.toDigits 16 n, c.isLower = true) ↔ ∃ d ∈ Nat.digits 16 n, 10 ≤ d := by
  rcases Nat.eq_zero_or_pos n with rfl | hn
  · rw [Nat.toDigits_zero, Nat.digits_zero]
    simp
  · simp only [toDigits_eq_map_digits (b := 16) (by decide) hn, List.mem_reverse, List.mem_map]
    constructor
    · intro h
      obtain ⟨c, ⟨d, hd, rfl⟩, hc⟩ := h
      exact ⟨d, hd, (isLower_digitChar_iff d (Nat.digits_lt_base (by decide) hd)).mp hc⟩
    · intro h
      obtain ⟨d, hd, hten⟩ := h
      exact ⟨_, ⟨d, hd, rfl⟩,
        (isLower_digitChar_iff d (Nat.digits_lt_base (by decide) hd)).mpr hten⟩

section
variable {b : ℕ} (hb : 1 < b) (hb' : b ≤ 16)
include hb hb'

/-- The digits of a number determine it. -/
theorem toDigits_inj {m n : ℕ} (h : Nat.toDigits b m = Nat.toDigits b n) : m = n := by
  induction m using Nat.strong_induction_on generalizing n with
  | _ m ih =>
    have hlength : ∀ k, 0 < (Nat.toDigits b k).length := fun k => Nat.length_toDigits_pos
    rw [Nat.toDigits_eq_if hb, Nat.toDigits_eq_if hb (n := n)] at h
    split_ifs at h with hm hn hn
    · exact digitChar_inj m (by omega) n (by omega) (List.singleton_inj.mp h)
    · -- two digits or more are not one
      have hone := congrArg List.length h
      rw [List.length_singleton, List.length_append, List.length_singleton] at hone
      have hpos := hlength (n / b)
      omega
    · have hone := congrArg List.length h
      rw [List.length_singleton, List.length_append, List.length_singleton] at hone
      have hpos := hlength (m / b)
      omega
    · obtain ⟨hinit, hlast⟩ := List.append_inj' h rfl
      have hdiv := ih (m / b) (Nat.div_lt_self (by omega) hb) hinit
      have hlt (k : ℕ) : k % b < 16 := lt_of_lt_of_le (Nat.mod_lt k (by omega)) hb'
      have hmod := digitChar_inj _ (hlt m) _ (hlt n) (List.singleton_inj.mp hlast)
      rw [← Nat.div_add_mod m b, ← Nat.div_add_mod n b, hdiv, hmod]

theorem hyphen_notMem_toDigits (n : ℕ) : '-' ∉ Nat.toDigits b n := by
  intro h
  obtain ⟨d, hd, hhyphen⟩ := exists_digit_of_mem_toDigits hb h
  exact digitChar_ne_hyphen d (lt_of_lt_of_le hd hb') hhyphen

end

end Multiway.Lib.Text
