import Mathlib

/-!
# Names and label values

What the API server admits as the name of an object, of a Service, of a
namespace, of a port, and as the value of a label. All are words of certain
characters with certain characters at both ends, and bounded in length.
-/

namespace Multiway.Kube

/-- A word of `inner` characters whose first and last are `outer` ones. -/
def isBounded (inner outer : Char → Bool) (cs : List Char) : Bool :=
  cs.all inner && cs.head?.any outer && cs.getLast?.any outer

def isLowerAlphanum (c : Char) : Bool := c.isLower || c.isDigit

def isDnsChar (c : Char) : Bool := isLowerAlphanum c || c == '-'

def isLabelChar (c : Char) : Bool := c.isAlphanum || c == '-' || c == '_' || c == '.'

/-- An RFC 1123 label: the name of a namespace. -/
def isDnsLabel (s : String) : Bool :=
  decide (s.length ≤ 63) && isBounded isDnsChar isLowerAlphanum s.toList

/-- An RFC 1123 subdomain: the name of most objects. -/
def isDnsSubdomain (s : String) : Bool :=
  decide (s.length ≤ 253) && (s.toList.splitOn '.').all (isBounded isDnsChar isLowerAlphanum)

/-- An RFC 1035 label: the name of a Service. -/
def isServiceName (s : String) : Bool := isDnsLabel s && s.toList.head?.any Char.isLower

def isLabelValue (s : String) : Bool :=
  decide (s.length ≤ 63) && (s.toList.isEmpty || isBounded isLabelChar Char.isAlphanum s.toList)

/-- An RFC 6335 service name: the name of a port. -/
@[mk_iff]
structure IsPortName (s : String) : Prop where
  nonempty : 1 ≤ s.length
  length : s.length ≤ 15
  chars : s.toList.all isDnsChar = true
  letter : s.toList.any Char.isLower = true
  head : s.toList.head? ≠ some '-'
  last : s.toList.getLast? ≠ some '-'
  hyphens : ¬['-', '-'] <:+: s.toList

instance decidableIsPortName (s : String) : Decidable (IsPortName s) :=
  decidable_of_iff _ (isPortName_iff s).symm

/-- The name of a namespace. -/
structure DnsLabel where
  text : String
  valid : isDnsLabel text = true

/-- The name of an object, or of a listener. -/
structure DnsSubdomain where
  text : String
  valid : isDnsSubdomain text = true

/-! ## Words -/

section
variable {inner outer inner' outer' : Char → Bool} {cs : List Char}

theorem isBounded_iff :
    isBounded inner outer cs = true ↔
      (∀ c ∈ cs, inner c = true) ∧ (∃ c, cs.head? = some c ∧ outer c = true) ∧
        ∃ c, cs.getLast? = some c ∧ outer c = true := by
  unfold isBounded
  rw [Bool.and_eq_true, Bool.and_eq_true, List.all_eq_true, Option.any_eq_true,
    Option.any_eq_true, and_assoc]

theorem isBounded_mono (hinner : ∀ c, inner c = true → inner' c = true)
    (houter : ∀ c, outer c = true → outer' c = true) (h : isBounded inner outer cs = true) :
    isBounded inner' outer' cs = true := by
  obtain ⟨hall, ⟨first, hhead, hfirst⟩, last, hlast, houterLast⟩ := isBounded_iff.mp h
  exact isBounded_iff.mpr ⟨fun c hc => hinner c (hall c hc), ⟨first, hhead, houter _ hfirst⟩,
    last, hlast, houter _ houterLast⟩

theorem ne_nil_of_isBounded (h : isBounded inner outer cs = true) : cs ≠ [] := by
  obtain ⟨-, ⟨first, hhead, -⟩, -⟩ := isBounded_iff.mp h
  intro hnil
  rw [hnil] at hhead
  cases hhead

/-- A beginning of inner characters may stand before a word. -/
theorem isBounded_append {c : Char} {pfx : List Char} (hpfx : (c :: pfx).all inner = true)
    (hc : outer c = true) (h : isBounded inner outer cs = true) :
    isBounded inner outer (c :: pfx ++ cs) = true := by
  obtain ⟨hall, -, last, hlast, houter⟩ := isBounded_iff.mp h
  refine isBounded_iff.mpr ⟨?_, ⟨c, rfl, hc⟩, last, ?_, houter⟩
  · intro d hd
    rcases List.mem_append.mp hd with hin | hin
    · exact List.all_eq_true.mp hpfx d hin
    · exact hall d hin
  · rw [List.getLast?_append_of_ne_nil _ (ne_nil_of_isBounded h)]
    exact hlast

/-- With a separator between them words make one word. -/
theorem isBounded_intercalate (sep : Char) : ∀ {parts : List (List Char)}, parts ≠ [] →
    (∀ part ∈ parts, isBounded inner outer part = true) →
      isBounded (fun c => inner c || c == sep) outer ([sep].intercalate parts) = true
  | [part], _, h => by
    rw [List.intercalate_singleton]
    refine isBounded_mono ?_ (fun _ => id) (h part List.mem_cons_self)
    intro c hc
    rw [hc, Bool.true_or]
  | part :: next :: parts, _, h => by
    have hrest := isBounded_intercalate sep (List.cons_ne_nil next parts)
      fun other hother => h other (List.mem_cons_of_mem _ hother)
    obtain ⟨hall, ⟨c, hhead, hc⟩, -⟩ := isBounded_iff.mp (h part List.mem_cons_self)
    obtain ⟨chars, rfl⟩ := List.head?_eq_some_iff.mp hhead
    have hchars : (c :: (chars ++ [sep])).all (fun d => inner d || d == sep) = true := by
      rw [List.all_eq_true]
      intro d hd
      rw [← List.cons_append] at hd
      rcases List.mem_append.mp hd with hin | hsep
      · rw [hall d hin, Bool.true_or]
      · rw [List.mem_singleton.mp hsep, beq_self_eq_true, Bool.or_true]
    have hjoin : [sep].intercalate ((c :: chars) :: next :: parts) =
        c :: (chars ++ [sep]) ++ [sep].intercalate (next :: parts) := by
      rw [List.intercalate_cons_cons, ← List.cons_append]
    rw [hjoin]
    exact isBounded_append hchars hc hrest

end

/-! ## Names -/

/-- The name of an object is a word of the characters of a label and of dots. -/
theorem isBounded_dotted {s : String} (h : isDnsSubdomain s = true) :
    isBounded (fun c => isDnsChar c || c == '.') isLowerAlphanum s.toList = true := by
  unfold isDnsSubdomain at h
  rw [Bool.and_eq_true, List.all_eq_true] at h
  have hjoin : ['.'].intercalate (s.toList.splitOn '.') = s.toList := List.intercalate_splitOn '.'
  rw [← hjoin]
  exact isBounded_intercalate '.' (List.splitOn_ne_nil '.' s.toList) h.2

theorem ne_hyphen_of_isLowerAlphanum {c : Char} (h : isLowerAlphanum c = true) : c ≠ '-' := by
  rintro rfl
  revert h
  decide

theorem isDnsChar_of_isLowerAlphanum {c : Char} (h : isLowerAlphanum c = true) :
    isDnsChar c = true := by
  unfold isDnsChar
  rw [h, Bool.true_or]

theorem isAlphanum_of_isLowerAlphanum {c : Char} (h : isLowerAlphanum c = true) :
    c.isAlphanum = true := by
  unfold isLowerAlphanum at h
  unfold Char.isAlphanum Char.isAlpha
  rw [Bool.or_eq_true] at h ⊢
  rcases h with hlower | hdigit
  · rw [hlower, Bool.or_true]
    exact .inl rfl
  · exact .inr hdigit

theorem isLabelChar_of_isDnsChar {c : Char} (h : isDnsChar c = true) : isLabelChar c = true := by
  unfold isDnsChar at h
  unfold isLabelChar
  rcases Bool.or_eq_true_iff.mp h with halphanum | hhyphen
  · rw [isAlphanum_of_isLowerAlphanum halphanum]
    rfl
  · rw [hhyphen, Bool.or_true]
    rfl

/-- The name of a namespace may be the value of a label. -/
theorem isLabelValue_of_isDnsLabel {s : String} (h : isDnsLabel s = true) :
    isLabelValue s = true := by
  unfold isDnsLabel at h
  rw [Bool.and_eq_true] at h
  unfold isLabelValue
  rw [h.1, isBounded_mono (fun _ => isLabelChar_of_isDnsChar)
    (fun _ => isAlphanum_of_isLowerAlphanum) h.2, Bool.or_true]
  rfl

/-- Without dots the name of an object is one word. -/
theorem isBounded_of_isDnsSubdomain {s : String} (h : isDnsSubdomain s = true)
    (hdots : '.' ∉ s.toList) : isBounded isDnsChar isLowerAlphanum s.toList = true := by
  unfold isDnsSubdomain at h
  rw [Bool.and_eq_true, List.splitOn_eq_singleton hdots] at h
  exact List.all_eq_true.mp h.2 _ (List.mem_singleton_self _)

theorem dot_notMem_of_isDnsLabel {s : String} (h : isDnsLabel s = true) : '.' ∉ s.toList := by
  unfold isDnsLabel at h
  rw [Bool.and_eq_true] at h
  intro hdot
  have hchar := (isBounded_iff.mp h.2).1 _ hdot
  revert hchar
  decide

/-- A prefix makes the name of an object the name of a Service, unless it has
dots or gets too long. -/
theorem isServiceName_append_iff {c : Char} {pfx : List Char} {s : String}
    (hpfx : (c :: pfx).all isDnsChar = true) (hc : c.isLower = true)
    (h : isDnsSubdomain s = true) :
    isServiceName (String.ofList (c :: pfx) ++ s) = true ↔
      '.' ∉ s.toList ∧ (c :: pfx).length + s.length ≤ 63 := by
  have htoList : (String.ofList (c :: pfx) ++ s).toList = c :: pfx ++ s.toList := by
    rw [String.toList_append, String.toList_ofList]
  have hlength : (String.ofList (c :: pfx) ++ s).length = (c :: pfx).length + s.length := by
    rw [String.length_append, String.length_ofList]
  have houter : isLowerAlphanum c = true := by
    unfold isLowerAlphanum
    rw [hc]
    rfl
  unfold isServiceName
  rw [Bool.and_eq_true]
  constructor
  · intro hname
    have hlabel := hname.1
    refine ⟨?_, ?_⟩
    · intro hdot
      refine dot_notMem_of_isDnsLabel hlabel ?_
      rw [htoList]
      exact List.mem_append_right _ hdot
    · unfold isDnsLabel at hlabel
      rw [Bool.and_eq_true, decide_eq_true_iff, hlength] at hlabel
      exact hlabel.1
  · intro hname
    obtain ⟨hdots, hle⟩ := hname
    refine ⟨?_, ?_⟩
    · unfold isDnsLabel
      rw [Bool.and_eq_true, decide_eq_true_iff, hlength, htoList]
      exact ⟨hle, isBounded_append hpfx houter (isBounded_of_isDnsSubdomain h hdots)⟩
    · rw [htoList]
      exact hc

end Multiway.Kube
