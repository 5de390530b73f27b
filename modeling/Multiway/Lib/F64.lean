import Mathlib

/-!
# Binary64 values

A finite `f64` is carried as the rational number it stands for, so comparing
two of them, or a float with an exact answer, is rational arithmetic. Values
enter through `F64.ofRat`, which rounds to the nearest binary64 number, ties
to even, and overflows to an infinity; `F64.parse` is the decimal reader of
Rust's `f64::from_str`. The sign of a zero is not kept: no comparison sees it.

Natural numbers of up to 53 bits are not rounded (`ofRat_natCast`), so numerals
of that size are read exactly.
-/

namespace Multiway.Lib

/-- An IEEE 754 binary64 value, up to the sign of zero. -/
inductive F64
  | finite (q : ℚ)
  | inf (neg : Bool)
  | nan
deriving DecidableEq

namespace F64

/-- `2 ^ e` for an exponent of either sign. -/
def pow2 (e : Int) : ℚ :=
  if 0 ≤ e then ((2 ^ e.toNat : Nat) : ℚ) else mkRat 1 (2 ^ (-e).toNat)

/-- The exponent `e` with `2 ^ e ≤ q < 2 ^ (e + 1)`, for positive `q`. -/
def binade (q : ℚ) : Int :=
  let e : Int := (Nat.log2 q.num.toNat : Int) - (Nat.log2 q.den : Int)
  if q < pow2 e then e - 1 else e

/-- The nearest integer, ties to the even one. -/
def roundHalfEven (q : ℚ) : Int :=
  let f := q.floor
  if q - f < 1 / 2 then f
  else if 1 / 2 < q - f then f + 1
  else if f % 2 = 0 then f else f + 1

/-- The binary64 value nearest to `q`: 53 significant bits, the smallest
normal exponent is `-1022`, and values from `2 ^ 1024` on overflow. -/
def ofRat (q : ℚ) : F64 :=
  if q = 0 then finite 0
  else
    let ulp := pow2 (max (binade |q|) (-1022) - 52)
    let v := (roundHalfEven (q / ulp) : ℚ) * ulp
    if pow2 1024 ≤ |v| then inf (decide (q < 0)) else finite v

/-- The float product. -/
def mul : F64 → F64 → F64
  | finite a, finite b => ofRat (a * b)
  | finite a, inf n => if a = 0 then nan else inf (n != decide (a < 0))
  | inf n, finite a => if a = 0 then nan else inf (n != decide (a < 0))
  | inf m, inf n => inf (m != n)
  | _, _ => nan

/-- `0.0 < x`; false for NaN. -/
def isPos : F64 → Bool
  | finite q => decide (0 < q)
  | inf neg => !neg
  | nan => false

/-- `f64::is_finite`. -/
def isFinite : F64 → Bool
  | finite _ => true
  | _ => false

/-- `Duration::from_secs_f64` does not panic: no sign, not NaN, below `2 ^ 64`. -/
def isDuration : F64 → Bool
  | finite q => decide (0 ≤ q) && decide (q < pow2 64)
  | _ => false

/-! ## Reading decimals -/

/-- The value of a run of decimal digits. -/
def digits (cs : List Char) : Nat :=
  cs.foldl (fun n c => 10 * n + (c.toNat - '0'.toNat)) 0

/-- A nonempty run of decimal digits. -/
def isNumeral (cs : List Char) : Bool := !cs.isEmpty && cs.all Char.isDigit

/-- Split off an optional sign: whether it is `-`, and the rest. -/
def splitSign : List Char → Bool × List Char
  | '-' :: cs => (true, cs)
  | '+' :: cs => (false, cs)
  | cs => (false, cs)

/-- The exponent part: nothing, or `e`/`E` with a signed numeral. -/
def parseExp : List Char → Option Int
  | [] => some 0
  | e :: cs =>
    if e == 'e' || e == 'E' then
      match splitSign cs with
      | (neg, ds) =>
        if isNumeral ds then some (if neg then -(digits ds : Int) else digits ds) else none
    else none

/-- `10 ^ e` for an exponent of either sign. -/
def pow10 (e : Int) : ℚ :=
  if 0 ≤ e then ((10 ^ e.toNat : Nat) : ℚ) else mkRat 1 (10 ^ (-e).toNat)

/-- `Digit+ | Digit+ '.' Digit* | Digit* '.' Digit+`, then an exponent. -/
def parseNumber (cs : List Char) : Option ℚ :=
  let whole := cs.takeWhile Char.isDigit
  let rest := cs.dropWhile Char.isDigit
  match rest with
  | '.' :: more =>
    let frac := more.takeWhile Char.isDigit
    if whole.isEmpty && frac.isEmpty then none
    else (parseExp (more.dropWhile Char.isDigit)).map fun e =>
      (digits (whole ++ frac) : ℚ) * pow10 (e - frac.length)
  | _ =>
    if whole.isEmpty then none
    else (parseExp rest).map fun e => (digits whole : ℚ) * pow10 e

/-- `f64::from_str`: an optional sign, then a number, or `inf`, `infinity` or
`nan` in any case. -/
def parse (s : String) : Option F64 :=
  match splitSign s.toList with
  | (neg, cs) =>
    let word := cs.map Char.toLower
    if word = "inf".toList ∨ word = "infinity".toList then some (inf neg)
    else if word = "nan".toList then some nan
    else (parseNumber cs).map fun q => ofRat (if neg then -q else q)

/-! ## Natural numbers -/

theorem pow2_eq_zpow (e : ℤ) : pow2 e = 2 ^ e := by
  unfold pow2
  split
  next h =>
    rw [Nat.cast_pow, ← zpow_natCast, Int.toNat_of_nonneg h]
    rfl
  next h =>
    have hnonneg : 0 ≤ -e := by omega
    rw [Rat.mkRat_eq_div, Nat.cast_pow, ← zpow_natCast, Int.toNat_of_nonneg hnonneg, Int.cast_one,
      one_div, ← zpow_neg, neg_neg]
    rfl

theorem binade_natCast {n : ℕ} (h : n ≠ 0) : binade n = Nat.log2 n := by
  have hnum : (n : ℚ).num.toNat = n := by simp
  have hle : ¬ (n : ℚ) < pow2 (Nat.log2 n : ℤ) := by
    rw [pow2_eq_zpow, zpow_natCast, not_lt]
    exact_mod_cast Nat.log2_self_le h
  have hden : Nat.log2 (n : ℚ).den = 0 := by
    rw [Rat.den_natCast]
    rfl
  unfold binade
  rw [hnum, hden]
  simp only [Nat.cast_zero, sub_zero]
  rw [if_neg hle]

theorem roundHalfEven_intCast (k : ℤ) : roundHalfEven k = k := by
  unfold roundHalfEven
  simp [Rat.floor_intCast]

/-- **A natural number of 53 bits is a binary64 value.** -/
theorem ofRat_natCast {n : ℕ} (h : n < 2 ^ 53) : ofRat n = finite n := by
  by_cases hzero : n = 0
  · subst hzero
    rfl
  have hlog : Nat.log2 n < 53 := (Nat.log2_lt hzero).mpr h
  have hexp : max (binade |(n : ℚ)|) (-1022) - 52 = -((52 - Nat.log2 n : ℕ) : ℤ) := by
    rw [abs_of_nonneg (Nat.cast_nonneg n), binade_natCast hzero]
    omega
  have hunit : pow2 (-((52 - Nat.log2 n : ℕ) : ℤ)) = (2 ^ (52 - Nat.log2 n))⁻¹ := by
    rw [pow2_eq_zpow, zpow_neg, zpow_natCast]
  -- in units of the last place the number is an integer
  have hscaled : (n : ℚ) / (2 ^ (52 - Nat.log2 n))⁻¹ =
      ((n * 2 ^ (52 - Nat.log2 n) : ℤ) : ℚ) := by
    rw [div_inv_eq_mul]
    push_cast
    rfl
  have hback : ((n * 2 ^ (52 - Nat.log2 n) : ℤ) : ℚ) * (2 ^ (52 - Nat.log2 n))⁻¹ = n := by
    push_cast
    exact mul_inv_cancel_right₀ (pow_ne_zero _ two_ne_zero) _
  have hsmall : ¬ pow2 1024 ≤ |(n : ℚ)| := by
    rw [abs_of_nonneg (Nat.cast_nonneg n), pow2_eq_zpow, not_le]
    have hn : (n : ℚ) < 2 ^ 53 := by exact_mod_cast h
    exact hn.trans_le (zpow_le_zpow_right₀ one_le_two (by decide : (53 : ℤ) ≤ 1024))
  unfold ofRat
  rw [if_neg (Nat.cast_ne_zero.mpr hzero), hexp, hunit]
  simp only
  rw [hscaled, roundHalfEven_intCast, hback, if_neg hsmall]

theorem mul_natCast {m n : ℕ} (h : m * n < 2 ^ 53) :
    mul (finite m) (finite n) = finite ((m * n : ℕ) : ℚ) := by
  rw [mul, ← Nat.cast_mul]
  exact ofRat_natCast h

/-! ## Numerals -/

theorem toLower_of_isDigit {c : Char} (h : c.isDigit = true) : c.toLower = c := by
  have hle : c.toNat ≤ 57 := by
    simp only [Char.isDigit, Bool.and_eq_true, decide_eq_true_eq] at h
    exact UInt32.le_iff_toNat_le.mp h.2
  unfold Char.toLower
  rw [dif_neg]
  rintro ⟨hge, -⟩
  have : 65 ≤ c.toNat := UInt32.le_iff_toNat_le.mp hge
  omega

/-- What begins with a digit has no sign and is none of the words. -/
theorem parse_of_digit {c : Char} (h : c.isDigit = true) (cs : List Char) :
    parse (String.ofList (c :: cs)) = (parseNumber (c :: cs)).map ofRat := by
  have hsign : splitSign (c :: cs) = (false, c :: cs) := by
    unfold splitSign
    split
    next heq => cases heq; exact absurd h (by decide)
    next heq => cases heq; exact absurd h (by decide)
    next => rfl
  have hword : ∀ d word, c ≠ d → (c :: cs).map Char.toLower ≠ d :: word := by
    intro d word hne heq
    rw [List.map_cons, toLower_of_isDigit h] at heq
    exact hne (List.cons.inj heq).1
  have hi : c ≠ 'i' := by rintro rfl; exact absurd h (by decide)
  have hn : c ≠ 'n' := by rintro rfl; exact absurd h (by decide)
  have hinf : ¬ ((c :: cs).map Char.toLower = "inf".toList ∨
      (c :: cs).map Char.toLower = "infinity".toList) := by
    rintro (heq | heq)
    · exact hword _ _ hi heq
    · exact hword _ _ hi heq
  have hnan : ¬ (c :: cs).map Char.toLower = "nan".toList := hword _ _ hn
  unfold parse
  rw [String.toList_ofList, hsign]
  simp only
  rw [if_neg hinf, if_neg hnan]
  simp

theorem takeWhile_numeral {ds : List Char} (rest : List Char) (h : ∀ c ∈ ds, c.isDigit = true)
    (hrest : ∀ c ∈ rest.head?, c.isDigit = false) :
    (ds ++ rest).takeWhile Char.isDigit = ds ∧ (ds ++ rest).dropWhile Char.isDigit = rest := by
  rw [List.takeWhile_append_of_pos h, List.dropWhile_append_of_pos h]
  cases rest with
  | nil => simp
  | cons c rest =>
    have hc := hrest c rfl
    rw [List.takeWhile_cons_of_neg (by simp [hc]), List.dropWhile_cons_of_neg (by simp [hc]),
      List.append_nil]
    exact ⟨rfl, rfl⟩

/-- A numeral is read as its value. -/
theorem parse_numeral {ds : List Char} (hne : ds ≠ []) (h : ∀ c ∈ ds, c.isDigit = true) :
    parse (String.ofList ds) = some (ofRat (digits ds : ℚ)) := by
  obtain ⟨htake, hdrop⟩ := takeWhile_numeral [] h (by simp)
  rw [List.append_nil] at htake hdrop
  obtain ⟨c, cs, rfl⟩ := List.exists_cons_of_ne_nil hne
  rw [parse_of_digit (h c List.mem_cons_self)]
  unfold parseNumber
  rw [htake, hdrop]
  simp [parseExp, pow10]

/-- A numeral that goes on with a letter other than `e` is no number. -/
theorem parse_letter {ds : List Char} (hne : ds ≠ []) (h : ∀ c ∈ ds, c.isDigit = true)
    {c : Char} (hdigit : c.isDigit = false) (hdot : c ≠ '.') (he : c ≠ 'e') (hE : c ≠ 'E')
    (rest : List Char) : parse (String.ofList (ds ++ c :: rest)) = none := by
  obtain ⟨htake, hdrop⟩ := takeWhile_numeral (c :: rest) h (by simpa using hdigit)
  obtain ⟨d, ds, rfl⟩ := List.exists_cons_of_ne_nil hne
  have hexp : parseExp (c :: rest) = none := by
    rw [parseExp, if_neg (by simp [he, hE])]
  rw [List.cons_append] at htake hdrop ⊢
  rw [parse_of_digit (h d List.mem_cons_self)]
  unfold parseNumber
  rw [htake, hdrop]
  simp only
  split
  next heq => exact absurd (List.cons.inj heq).1 hdot
  next => simp [hexp]

/-- A numeral is below the power of ten with as many zeros. -/
theorem digits_lt {ds : List Char} (h : ∀ c ∈ ds, c.isDigit = true) :
    digits ds < 10 ^ ds.length := by
  have hfold : ∀ (ds : List Char) (n : ℕ), (∀ c ∈ ds, c.isDigit = true) →
      ds.foldl (fun n c => 10 * n + (c.toNat - '0'.toNat)) n < (n + 1) * 10 ^ ds.length := by
    intro ds
    induction ds with
    | nil => intro n _; simp
    | cons c ds ih =>
      intro n h
      obtain ⟨hc, hds⟩ := List.forall_mem_cons.mp h
      have hdigit : c.toNat - '0'.toNat ≤ 9 := by
        simp only [Char.isDigit, Bool.and_eq_true, decide_eq_true_eq] at hc
        have hle : c.toNat ≤ 57 := UInt32.le_iff_toNat_le.mp hc.2
        have hzero : '0'.toNat = 48 := rfl
        omega
      refine (ih _ hds).trans_le ?_
      calc (10 * n + (c.toNat - '0'.toNat) + 1) * 10 ^ ds.length
          ≤ (n + 1) * 10 * 10 ^ ds.length := Nat.mul_le_mul_right _ (by omega)
        _ = (n + 1) * 10 ^ (c :: ds).length := by
          rw [List.length_cons, Nat.pow_succ, Nat.mul_assoc, Nat.mul_comm 10]
  simpa [digits] using hfold ds 0 h

end F64

end Multiway.Lib
