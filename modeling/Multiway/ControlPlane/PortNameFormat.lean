import Multiway.ControlPlane.PortNames
import Multiway.Kube.Names
import Multiway.Lib.Segments

/-!
# Which port names are valid

The name of a listener may be any RFC 1123 subdomain, the name of a port is an
RFC 6335 service name. `sanitize_port_name` compares lengths only: a short name
is returned as it is, with its dots, without a letter, with two hyphens in a row,
and so is what is kept of a long one. The length and both ends are right, and
`isPortName_sanitizePortName_iff` is what has to be right about the rest.
-/

namespace Multiway.ControlPlane

open Multiway.Lib.Text
open Multiway.Lib.Segments
open Multiway.Kube

/-- The number whose digits in base 31 are the bytes of the name. -/
def nameNumber (name : String) : ℕ := Nat.ofDigits 31 (name.toUTF8.toList.reverse.map UInt8.toNat)

/-- A short name is kept; a long one makes room for a hyphen and its number's
last sixteen bits in hexadecimal. -/
def keptPart (name : String) : List Char :=
  if name.utf8ByteSize ≤ maxPortNameLength then name.toList
  else name.toList.take (13 - Nat.log 16 (nameNumber name % 65536))

/-- What is kept has no dot, and no pair of hyphens but at its end. There is a
letter in it, or in the number of a long name. -/
structure FitsPort (name : String) : Prop where
  dots : '.' ∉ keptPart name
  hyphens : ∀ c, ['-', '-', c] <:+: keptPart name → c = '-'
  letter : (∃ c ∈ keptPart name, c.isLower = true) ∨
    IsLongName name ∧ ∃ d ∈ Nat.digits 16 (nameNumber name % 65536), 10 ≤ d

/-! ## The hash -/

/-- Wrapping around at 32 bits leaves the last sixteen alone. -/
theorem foldl_hash_mod (bytes : List UInt8) :
    (bytes.foldl (fun (acc : UInt32) b => acc * 31 + b.toUInt32) 0).toNat % 65536 =
      Nat.ofDigits 31 (bytes.reverse.map UInt8.toNat) % 65536 := by
  induction bytes using List.reverseRecOn with
  | nil => rfl
  | append_singleton bytes b ih =>
    rw [List.foldl_append, List.foldl_cons, List.foldl_nil, List.reverse_append,
      List.reverse_singleton, List.singleton_append, List.map_cons, Nat.ofDigits_cons,
      UInt32.toNat_add, UInt32.toNat_mul, UInt8.toNat_toUInt32]
    -- a multiple of 2^32 is one of 65536
    have hbase : (31 : UInt32).toNat = 31 := rfl
    rw [hbase]
    omega

theorem portNameHash_eq (name : String) : portNameHash name = nameNumber name % 65536 := by
  have hmask : (0xFFFF : UInt32).toNat = 2 ^ 16 - 1 := rfl
  unfold portNameHash nameNumber
  rw [UInt32.toNat_and, hmask, Nat.and_two_pow_sub_one_eq_mod]
  exact foldl_hash_mod _

/-- The hash has four digits at most. -/
theorem log_hash_le (name : String) : Nat.log 16 (portNameHash name) ≤ 3 := by
  rw [portNameHash_eq]
  have hlt : nameNumber name % 65536 < 16 ^ 4 := Nat.mod_lt _ (by decide)
  exact Nat.lt_succ_iff.mp (Nat.log_lt_of_lt_pow' (by decide) hlt)

theorem isLowerAlphanum_digitChar : ∀ d < 16, isLowerAlphanum (Nat.digitChar d) = true := by
  decide

theorem utf8Size_digitChar : ∀ d < 16, (Nat.digitChar d).utf8Size = 1 := by
  decide

theorem utf8ByteSize_hash (name : String) :
    (hexDigits (portNameHash name)).utf8ByteSize = Nat.log 16 (portNameHash name) + 1 := by
  have hone : ∀ c ∈ Nat.toDigits 16 (portNameHash name), c.utf8Size = 1 := by
    intro c hc
    obtain ⟨d, hd, rfl⟩ := exists_digit_of_mem_toDigits (by decide) hc
    exact utf8Size_digitChar d hd
  rw [hexDigits, String.utf8ByteSize_ofList, utf8Len_eq_length hone, length_toDigits (by decide)]

theorem isLowerAlphanum_of_mem_hash {name : String} {c : Char}
    (h : c ∈ Nat.toDigits 16 (portNameHash name)) : isLowerAlphanum c = true := by
  obtain ⟨d, hd, rfl⟩ := exists_digit_of_mem_toDigits (by decide) h
  exact isLowerAlphanum_digitChar d hd

/-! ## What a name becomes -/

/-- What is kept of a name, without hyphens at its end. -/
def trimmedPart (name : String) : List Char := (keptPart name).rdropWhile (· == '-')

/-- What a long name gets at its end. -/
def portNameSuffix (name : String) : List Char :=
  if name.utf8ByteSize ≤ maxPortNameLength then []
  else '-' :: Nat.toDigits 16 (portNameHash name)

theorem keptPart_of_short {name : String} (h : ¬IsLongName name) : keptPart name = name.toList :=
  if_pos (Nat.not_lt.mp h)

theorem keptPart_of_long {name : String} (h : IsLongName name) :
    keptPart name = name.toList.take (13 - Nat.log 16 (portNameHash name)) := by
  rw [keptPart, if_neg (Nat.not_le.mpr h), portNameHash_eq]

theorem portNameSuffix_of_short {name : String} (h : ¬IsLongName name) :
    portNameSuffix name = [] :=
  if_pos (Nat.not_lt.mp h)

theorem portNameSuffix_of_long {name : String} (h : IsLongName name) :
    portNameSuffix name = '-' :: Nat.toDigits 16 (portNameHash name) :=
  if_neg (Nat.not_le.mpr h)

theorem portNameStem_eq {name : String} (h : IsLongName name) :
    portNameStem name = trimmedPart name := by
  have hroom : maxPortNameLength - 1 - (Nat.log 16 (portNameHash name) + 1) =
      13 - Nat.log 16 (portNameHash name) := by
    unfold maxPortNameLength
    omega
  unfold portNameStem
  rw [utf8ByteSize_hash, trimmedPart, keptPart_of_long h]
  dsimp only
  rw [hroom]
  rfl

theorem trimmedPart_prefix_toList (name : String) : trimmedPart name <+: name.toList := by
  have hkept : keptPart name <+: name.toList := by
    unfold keptPart
    split
    · exact List.prefix_refl _
    · exact List.take_prefix _ _
  exact (List.rdropWhile_prefix _ _).trans hkept

/-- No name becomes too long. -/
theorem length_sanitizePortName_le (name : String) : (sanitizePortName name).length ≤ 15 := by
  by_cases hlong : IsLongName name
  · have htrimmed : (trimmedPart name).length ≤ 13 - Nat.log 16 (portNameHash name) := by
      have hkept := (List.rdropWhile_prefix (· == '-') (keptPart name)).length_le
      rw [keptPart_of_long hlong, List.length_take] at hkept
      rw [trimmedPart, keptPart_of_long hlong]
      exact le_trans hkept (Nat.min_le_left _ _)
    have hlog := log_hash_le name
    rw [← String.length_toList, toList_sanitizePortName hlong, cutName, portNameStem_eq hlong,
      List.length_append, List.length_cons, length_toDigits (by decide)]
    omega
  · have hsize : name.utf8ByteSize ≤ 15 := Nat.not_lt.mp hlong
    rw [sanitizePortName_of_short hlong, ← String.length_toList]
    refine le_trans (length_le_utf8Len name.toList) ?_
    rw [String.utf8Len_toList]
    exact hsize

theorem all_portNameSuffix (name : String) : (portNameSuffix name).all isDnsChar = true := by
  by_cases hlong : IsLongName name
  · have hdigits : (Nat.toDigits 16 (portNameHash name)).all isDnsChar = true := by
      rw [List.all_eq_true]
      intro c hc
      exact isDnsChar_of_isLowerAlphanum (isLowerAlphanum_of_mem_hash hc)
    rw [portNameSuffix_of_long hlong, List.all_cons, hdigits]
    rfl
  · rw [portNameSuffix_of_short hlong]
    rfl

theorem any_portNameSuffix_iff (name : String) :
    (portNameSuffix name).any Char.isLower = true ↔
      IsLongName name ∧ ∃ d ∈ Nat.digits 16 (nameNumber name % 65536), 10 ≤ d := by
  by_cases hlong : IsLongName name
  · have hhyphen : Char.isLower '-' = false := rfl
    rw [portNameSuffix_of_long hlong, List.any_cons, hhyphen, Bool.false_or, List.any_eq_true,
      exists_isLower_toDigits_iff, portNameHash_eq]
    exact (and_iff_right hlong).symm
  · rw [portNameSuffix_of_short hlong]
    exact iff_of_false Bool.false_ne_true fun h => hlong h.1

section
variable {name : String} (hname : isDnsSubdomain name = true)
include hname

theorem toList_sanitizePortName_eq :
    (sanitizePortName name).toList = trimmedPart name ++ portNameSuffix name := by
  by_cases hlong : IsLongName name
  · rw [toList_sanitizePortName hlong, cutName, portNameStem_eq hlong,
      portNameSuffix_of_long hlong]
  · -- a short name does not end in a hyphen, so nothing is cut off
    obtain ⟨-, -, c, hlast, hc⟩ := isBounded_iff.mp (isBounded_dotted hname)
    have hend : name.toList.getLast? ≠ some '-' := by
      rw [hlast]
      exact fun h => ne_hyphen_of_isLowerAlphanum hc (Option.some.inj h)
    rw [sanitizePortName_of_short hlong, trimmedPart, keptPart_of_short hlong,
      rdropWhile_eq_self hend, portNameSuffix_of_short hlong, List.append_nil]

/-- Every name begins with what is not cut off. -/
theorem trimmedPart_eq_cons :
    ∃ c rest, trimmedPart name = c :: rest ∧ isLowerAlphanum c = true := by
  obtain ⟨-, ⟨c, hhead, hc⟩, -⟩ := isBounded_iff.mp (isBounded_dotted hname)
  obtain ⟨rest, hrest⟩ := List.head?_eq_some_iff.mp hhead
  have hkept : c ∈ keptPart name := by
    by_cases hlong : IsLongName name
    · -- the hash leaves room for ten characters at least
      obtain ⟨room, hroom⟩ : ∃ room, 13 - Nat.log 16 (portNameHash name) = room + 1 := by
        have hlog := log_hash_le name
        exact ⟨12 - Nat.log 16 (portNameHash name), by omega⟩
      rw [keptPart_of_long hlong, hroom, hrest, List.take_succ_cons]
      exact List.mem_cons_self
    · rw [keptPart_of_short hlong, hrest]
      exact List.mem_cons_self
  have hmem : c ∈ trimmedPart name :=
    (mem_rdropWhile_iff (ne_hyphen_of_isLowerAlphanum hc)).mpr hkept
  have hprefix := trimmedPart_prefix_toList name
  cases htrimmed : trimmedPart name with
  | nil =>
    rw [htrimmed] at hmem
    cases hmem
  | cons d front =>
    rw [htrimmed, hrest, List.cons_prefix_cons] at hprefix
    exact ⟨d, front, rfl, hprefix.1 ▸ hc⟩

theorem head_sanitizePortName :
    ∃ c, (sanitizePortName name).toList.head? = some c ∧ isLowerAlphanum c = true := by
  obtain ⟨c, rest, htrimmed, hc⟩ := trimmedPart_eq_cons hname
  rw [toList_sanitizePortName_eq hname, htrimmed]
  exact ⟨c, rfl, hc⟩

theorem last_sanitizePortName : (sanitizePortName name).toList.getLast? ≠ some '-' := by
  rw [toList_sanitizePortName_eq hname]
  by_cases hlong : IsLongName name
  · -- the last character is a digit of the hash
    rw [portNameSuffix_of_long hlong]
    intro hlast
    have hne : Nat.toDigits 16 (portNameHash name) ≠ [] := Nat.toDigits_ne_nil
    rw [List.getLast?_append_of_ne_nil _ (List.cons_ne_nil _ _), List.getLast?_cons_of_ne_nil hne]
      at hlast
    exact ne_hyphen_of_isLowerAlphanum
      (isLowerAlphanum_of_mem_hash (List.mem_of_getLast? hlast)) rfl
  · rw [portNameSuffix_of_short hlong, List.append_nil]
    exact getLast?_rdropWhile _

theorem all_isDnsChar_sanitizePortName_iff :
    (sanitizePortName name).toList.all isDnsChar = true ↔ '.' ∉ keptPart name := by
  have hdot : '.' ≠ '-' := by decide
  rw [toList_sanitizePortName_eq hname, List.all_append, all_portNameSuffix, Bool.and_true,
    List.all_eq_true, ← mem_rdropWhile_iff hdot]
  have hchars := (isBounded_iff.mp (isBounded_dotted hname)).1
  constructor
  · intro h hmem
    exact absurd (h '.' hmem) (by decide)
  · -- an admissible name has no other character that a port name must not have
    intro h c hc
    have hdotted := hchars c ((trimmedPart_prefix_toList name).subset hc)
    rcases Bool.or_eq_true_iff.mp hdotted with hchar | heq
    · exact hchar
    · rw [eq_of_beq heq] at hc
      exact absurd hc h

theorem any_isLower_sanitizePortName_iff :
    (sanitizePortName name).toList.any Char.isLower = true ↔
      (∃ c ∈ keptPart name, c.isLower = true) ∨
        IsLongName name ∧ ∃ d ∈ Nat.digits 16 (nameNumber name % 65536), 10 ≤ d := by
  rw [toList_sanitizePortName_eq hname, List.any_append, Bool.or_eq_true, any_portNameSuffix_iff,
    List.any_eq_true]
  refine or_congr_left (exists_congr fun c => and_congr_left fun hc => ?_)
  -- hyphens are all that is cut off, and no letters
  have hhyphen : c ≠ '-' := by
    rintro rfl
    exact absurd hc (by decide)
  exact mem_rdropWhile_iff hhyphen

theorem hyphens_sanitizePortName_iff :
    ['-', '-'] <:+: (sanitizePortName name).toList ↔
      ∃ c, c ≠ '-' ∧ ['-', '-', c] <:+: keptPart name := by
  rw [toList_sanitizePortName_eq hname, ← pair_infix_rdropWhile_iff]
  by_cases hlong : IsLongName name
  · rw [portNameSuffix_of_long hlong]
    exact pair_infix_append_cons_iff (getLast?_rdropWhile _)
      (hyphen_notMem_toDigits (by decide) (by decide) _)
  · rw [portNameSuffix_of_short hlong, List.append_nil, trimmedPart]

end

/-- **When the name of a port is valid.** -/
theorem isPortName_sanitizePortName_iff (name : DnsSubdomain) :
    IsPortName (sanitizePortName name.text) ↔ FitsPort name.text := by
  obtain ⟨c, hhead, hc⟩ := head_sanitizePortName name.valid
  constructor
  · intro h
    refine ⟨(all_isDnsChar_sanitizePortName_iff name.valid).mp h.chars, fun d hd => ?_,
      (any_isLower_sanitizePortName_iff name.valid).mp h.letter⟩
    by_contra hne
    exact h.hyphens ((hyphens_sanitizePortName_iff name.valid).mpr ⟨d, hne, hd⟩)
  · intro h
    exact {
      nonempty := by
        rw [← String.length_toList]
        exact List.length_pos_of_mem (List.mem_of_head? hhead)
      length := length_sanitizePortName_le name.text
      chars := (all_isDnsChar_sanitizePortName_iff name.valid).mpr h.dots
      letter := (any_isLower_sanitizePortName_iff name.valid).mpr h.letter
      head := by
        rw [hhead]
        exact fun heq => ne_hyphen_of_isLowerAlphanum hc (Option.some.inj heq)
      last := last_sanitizePortName name.valid
      hyphens := by
        intro hpair
        obtain ⟨d, hne, hd⟩ := (hyphens_sanitizePortName_iff name.valid).mp hpair
        exact hne (h.hyphens d hd) }

example : IsPortName (sanitizePortName "listener-team-an") := by decide +kernel

/-- A short name without a letter, and a long one with a dot in what is kept. -/
theorem digits_and_dots_not_portName :
    (isDnsSubdomain "8080" = true ∧ ¬IsPortName (sanitizePortName "8080")) ∧
      isDnsSubdomain "internal.example.com" = true ∧
        ¬IsPortName (sanitizePortName "internal.example.com") := by
  refine ⟨⟨?_, ?_⟩, ?_, ?_⟩ <;> decide +kernel

end Multiway.ControlPlane
