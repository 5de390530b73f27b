import Mathlib

/-!
# HTTP messages

Requests and responses as the pipeline handles them. A header map keeps its
entries in order, under lowercase names, several entries to a name. Which
strings are header names, header values and URIs is the `http` crate's
business (`HttpCrate`): a parser returns the normalised text, or `none`.
-/

namespace Multiway.ProxyCore

structure HttpCrate where
  parseUri : String → Option String
  parseHeaderName : String → Option String
  parseHeaderValue : String → Option String

inductive Payload
  | none
  | fixed (bytes : List UInt8)
  | stream (chunks : List (List UInt8))
deriving DecidableEq

abbrev HeaderMap := List (String × String)

namespace HeaderMap

def containsKey (headers : HeaderMap) (name : String) : Bool := headers.any (·.1 == name)

def remove (headers : HeaderMap) (name : String) : HeaderMap := headers.filter (·.1 != name)

def append (headers : HeaderMap) (name value : String) : HeaderMap := headers ++ [(name, value)]

/-- One entry for `name`, in the place of its first one. -/
def insert (headers : HeaderMap) (name value : String) : HeaderMap :=
  match headers with
  | [] => [(name, value)]
  | (n, v) :: rest =>
    if n == name then (name, value) :: remove rest name else (n, v) :: insert rest name value

/-- The values of the entries for `name`, in order. -/
def values (headers : HeaderMap) (name : String) : List String :=
  (headers.filter (·.1 == name)).map (·.2)

@[simp]
theorem values_nil (name : String) : values [] name = [] := rfl

@[simp]
theorem values_append (a b : HeaderMap) (name : String) :
    values (a ++ b) name = values a name ++ values b name := by
  simp [values]

theorem values_cons (n v : String) (headers : HeaderMap) (name : String) :
    values ((n, v) :: headers) name = if n = name then v :: values headers name
      else values headers name := by
  by_cases h : n = name <;> simp [values, h]

theorem containsKey_eq (headers : HeaderMap) (name : String) :
    headers.containsKey name = !(headers.values name).isEmpty := by
  induction headers with
  | nil => rfl
  | cons entry headers ih =>
    obtain ⟨n, v⟩ := entry
    rw [values_cons]
    by_cases h : n = name
    · simp [containsKey, h]
    · rw [if_neg h, ← ih]
      simp [containsKey, h]

theorem values_remove (headers : HeaderMap) (name other : String) :
    (headers.remove name).values other = if other = name then [] else headers.values other := by
  induction headers with
  | nil => simp [remove]
  | cons entry headers ih =>
    obtain ⟨n, v⟩ := entry
    by_cases hn : n = name
    · have hcons : remove ((n, v) :: headers) name = remove headers name := by simp [remove, hn]
      rw [hcons, ih, values_cons]
      by_cases ho : other = name
      · rw [if_pos ho, if_pos ho]
      · rw [if_neg ho, if_neg ho, if_neg fun h => ho (h.symm.trans hn)]
    · have hcons : remove ((n, v) :: headers) name = (n, v) :: remove headers name := by
        simp [remove, hn]
      rw [hcons, values_cons, ih, values_cons]
      by_cases ho : other = name
      · rw [if_pos ho, if_pos ho, if_neg fun h => hn (h.trans ho)]
      · rw [if_neg ho, if_neg ho]

/-- Afterwards `name` has one value. -/
theorem values_insert (headers : HeaderMap) (name value other : String) :
    (headers.insert name value).values other =
      if other = name then [value] else headers.values other := by
  induction headers with
  | nil =>
    rw [insert, values_cons]
    by_cases h : other = name
    · simp [h]
    · rw [if_neg (Ne.symm h), if_neg h]
  | cons entry headers ih =>
    obtain ⟨n, v⟩ := entry
    by_cases hn : n = name
    · subst hn
      rw [insert, if_pos (beq_self_eq_true n), values_cons, values_remove, values_cons]
      by_cases ho : other = n
      · simp [ho]
      · rw [if_neg (Ne.symm ho), if_neg ho, if_neg ho, if_neg (Ne.symm ho)]
    · rw [insert, if_neg (by simpa using hn), values_cons, ih, values_cons]
      by_cases ho : other = name
      · rw [if_pos ho, if_pos ho, if_neg fun h => hn (h.trans ho)]
      · rw [if_neg ho, if_neg ho]

/-- Header maps with the same values for every name have the same entries. -/
theorem perm_of_values {a b : HeaderMap} (h : ∀ name, a.values name = b.values name) :
    a.Perm b := by
  have hcount : ∀ (headers : HeaderMap) (n v : String),
      headers.count (n, v) = (headers.values n).count v := by
    intro headers n v
    induction headers with
    | nil => rfl
    | cons entry headers ih =>
      obtain ⟨m, w⟩ := entry
      rw [values_cons, List.count_cons, ih]
      by_cases hm : m = n
      · by_cases hw : w = v <;> simp [hm, hw]
      · simp [hm]
  rw [List.perm_iff_count]
  rintro ⟨n, v⟩
  rw [hcount, hcount, h]

end HeaderMap

structure Request where
  method : String
  uri : String
  headers : HeaderMap
  payload : Payload
deriving DecidableEq

structure Response where
  status : UInt16
  headers : HeaderMap
  payload : Payload
deriving DecidableEq

end Multiway.ProxyCore
