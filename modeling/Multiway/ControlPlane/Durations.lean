import Multiway.ControlPlane.Convert

/-!
# Durations (`parse_duration`)

The HTTPRoute definition admits timeouts of up to four components, numbers of
up to five digits each with a unit of hours, minutes, seconds or milliseconds.
`parse_duration` strips one unit of one letter off the end and wants a number
in front of it. It reads single components in hours, minutes and seconds, and
reads them exactly; every other admitted duration is not read at all
(`parseDuration_text`), and its timeout not set.
-/

namespace Multiway.ControlPlane

open Multiway.Lib

inductive DurationUnit | h | m | s | ms
deriving DecidableEq

namespace DurationUnit

def text : DurationUnit → List Char
  | h => ['h']
  | m => ['m']
  | s => ['s']
  | ms => ['m', 's']

def seconds : DurationUnit → ℚ
  | h => 3600
  | m => 60
  | s => 1
  | ms => 1 / 1000

end DurationUnit

/-- `[0-9]{1,5}(h|m|s|ms)` -/
structure DurationComponent where
  digits : List Char
  unit : DurationUnit
  isDigit : ∀ c ∈ digits, c.isDigit = true
  one_le_length : 1 ≤ digits.length
  length_le : digits.length ≤ 5

namespace DurationComponent

def text (c : DurationComponent) : List Char := c.digits ++ c.unit.text

def seconds (c : DurationComponent) : ℚ := F64.digits c.digits * c.unit.seconds

theorem digits_ne_nil (c : DurationComponent) : c.digits ≠ [] :=
  List.ne_nil_of_length_pos c.one_le_length

end DurationComponent

/-- `^([0-9]{1,5}(h|m|s|ms)){1,4}$` -/
structure Duration where
  components : List DurationComponent
  one_le_length : 1 ≤ components.length
  length_le : components.length ≤ 4

namespace Duration

def text (d : Duration) : String := String.ofList (d.components.flatMap DurationComponent.text)

/-- The sum of the components. -/
def seconds (d : Duration) : ℚ := (d.components.map DurationComponent.seconds).sum

end Duration

/-- Behind its digits a component goes on with a letter. -/
theorem text_eq_cons (u : DurationUnit) :
    ∃ letter rest, u.text = letter :: rest ∧ letter ∈ ['h', 'm', 's'] ∧
      (rest = [] ↔ u ≠ .ms) := by
  cases u with
  | h => exact ⟨'h', [], rfl, by decide, by decide⟩
  | m => exact ⟨'m', [], rfl, by decide, by decide⟩
  | s => exact ⟨'s', [], rfl, by decide, by decide⟩
  | ms => exact ⟨'m', ['s'], rfl, by decide, by decide⟩

theorem parse_component (c : DurationComponent) {letter : Char}
    (hletter : letter ∈ ['h', 'm', 's']) (rest : List Char) :
    F64.parse (String.ofList (c.digits ++ letter :: rest)) = none := by
  have hother : letter.isDigit = false ∧ letter ≠ '.' ∧ letter ≠ 'e' ∧ letter ≠ 'E' := by
    simp only [List.mem_cons, List.not_mem_nil, or_false] at hletter
    rcases hletter with rfl | rfl | rfl <;> simp
  obtain ⟨hdigit, hdot, he, hE⟩ := hother
  exact F64.parse_letter c.digits_ne_nil c.isDigit hdigit hdot he hE rest

/-- A unit with something behind it is not stripped, and no number. -/
theorem parseDuration_of_rest (c : DurationComponent) {letter : Char}
    (hletter : letter ∈ ['h', 'm', 's']) {rest : List Char} (hrest : rest ≠ []) :
    parseDuration (String.ofList (c.digits ++ letter :: rest)) = none := by
  have hstem : (c.digits ++ letter :: rest).dropLast = c.digits ++ letter :: rest.dropLast := by
    rw [List.dropLast_append_of_ne_nil (List.cons_ne_nil letter rest),
      List.dropLast_cons_of_ne_nil hrest]
  unfold parseDuration
  rw [String.toList_ofList, hstem]
  simp only [parse_component c hletter, Option.map_none]
  split <;> rfl

/-- Five digits are read exactly. -/
theorem parse_digits (c : DurationComponent) :
    F64.parse (String.ofList c.digits) = some (.finite (F64.digits c.digits)) ∧
      F64.digits c.digits < 10 ^ 5 := by
  have hlt := (F64.digits_lt c.isDigit).trans_le (Nat.pow_le_pow_right (by decide) c.length_le)
  refine ⟨?_, hlt⟩
  rw [F64.parse_numeral c.digits_ne_nil c.isDigit, F64.ofRat_natCast (hlt.trans (by decide))]

/-- A component of a unit with one letter is read exactly. -/
theorem parseDuration_component (c : DurationComponent) (h : c.unit ≠ .ms) :
    parseDuration (String.ofList c.text) = some (.finite c.seconds) := by
  obtain ⟨hparse, hlt⟩ := parse_digits c
  have hmul : ∀ n : ℕ, n ≤ 3600 → (F64.finite (F64.digits c.digits)).mul (.finite n) =
      .finite (F64.digits c.digits * n) := by
    intro n hn
    rw [F64.mul_natCast ((Nat.mul_le_mul hlt.le hn).trans_lt (by decide)), Nat.cast_mul]
  unfold parseDuration DurationComponent.text DurationComponent.seconds
  rw [String.toList_ofList]
  cases hunit : c.unit with
  | h =>
    simp only [DurationUnit.text, DurationUnit.seconds, List.dropLast_concat,
      List.getLast?_concat, hparse, Option.map_some]
    exact congrArg some (hmul 3600 le_rfl)
  | m =>
    simp only [DurationUnit.text, DurationUnit.seconds, List.dropLast_concat,
      List.getLast?_concat, hparse, Option.map_some]
    exact congrArg some (hmul 60 (by decide))
  | s =>
    simp only [DurationUnit.text, DurationUnit.seconds, List.dropLast_concat,
      List.getLast?_concat, hparse, mul_one]
  | ms => exact absurd hunit h

/-- Every other duration is dropped. -/
theorem parseDuration_eq_none (d : Duration) (h : ¬ ∃ c, d.components = [c] ∧ c.unit ≠ .ms) :
    parseDuration d.text = none := by
  obtain ⟨c, cs, hcomponents⟩ := List.exists_cons_of_length_pos d.one_le_length
  obtain ⟨letter, rest, htext, hletter, hrest⟩ := text_eq_cons c.unit
  have hbehind : rest ++ cs.flatMap DurationComponent.text ≠ [] := by
    intro hnil
    obtain ⟨hunit, hcs⟩ := List.append_eq_nil_iff.mp hnil
    refine h ⟨c, ?_, hrest.mp hunit⟩
    rw [hcomponents]
    cases cs with
    | nil => rfl
    | cons c' cs =>
      rw [List.flatMap_cons, DurationComponent.text] at hcs
      exact absurd (List.append_eq_nil_iff.mp (List.append_eq_nil_iff.mp hcs).1).1 c'.digits_ne_nil
  rw [Duration.text, hcomponents, List.flatMap_cons, DurationComponent.text, htext,
    List.append_assoc, List.cons_append]
  exact parseDuration_of_rest c hletter hbehind

/-- **Which admitted durations are read**: single components of hours, minutes
or seconds, as the rational they stand for. -/
theorem parseDuration_iff (d : Duration) :
    parseDuration d.text = some (.finite d.seconds) ↔
      ∃ c, d.components = [c] ∧ c.unit ≠ .ms := by
  constructor
  · intro hread
    by_contra hother
    rw [parseDuration_eq_none d hother] at hread
    cases hread
  · rintro ⟨c, hcomponents, hunit⟩
    rw [Duration.text, Duration.seconds, hcomponents, List.flatMap_singleton,
      List.map_singleton, List.sum_singleton]
    exact parseDuration_component c hunit

/-- One hour and a half. -/
def hourAndHalf : Duration where
  components :=
    [{ digits := ['1'], unit := .h
       isDigit := by simp, one_le_length := by decide, length_le := by decide },
     { digits := ['3', '0'], unit := .m
       isDigit := by simp, one_le_length := by decide, length_le := by decide }]
  one_le_length := by decide
  length_le := by decide

/-- `1h30m` is not read at all. -/
theorem hourAndHalf_dropped :
    hourAndHalf.text = "1h30m" ∧ parseDuration hourAndHalf.text = none ∧
      ¬ ∀ d : Duration, parseDuration d.text = some (.finite d.seconds) := by
  have hnone : parseDuration hourAndHalf.text = none :=
    parseDuration_eq_none hourAndHalf fun ⟨_, hsingle, _⟩ => by cases hsingle
  refine ⟨rfl, hnone, fun hall => ?_⟩
  have hread := hall hourAndHalf
  rw [hnone] at hread
  cases hread

end Multiway.ControlPlane
