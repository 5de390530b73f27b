import Multiway.Lib.F64

/-!
# JSON documents

A JSON text is carried as the document it was printed from. Field order is
kept, as a printer keeps it. A float that is not finite has no JSON form and
is printed as `null`.
-/

namespace Multiway.Lib

inductive Json
  | null
  | bool (b : Bool)
  | int (n : ℤ)
  | float (q : ℚ)
  | str (s : String)
  | arr (elems : List Json)
  | obj (fields : List (String × Json))

namespace Json

def ofNat (n : ℕ) : Json := .int n

def ofF64 : F64 → Json
  | .finite q => .float q
  | _ => .null

def strs (l : List String) : Json := .arr (l.map .str)

/-- A field that is left out when the option is empty. -/
def optional {α : Type} (name : String) (f : α → Json) : Option α → List (String × Json)
  | some a => [(name, f a)]
  | none => []

/-- A field that is left out when the list is empty. -/
def nonempty {α : Type} (name : String) (f : α → Json) : List α → List (String × Json)
  | [] => []
  | l => [(name, .arr (l.map f))]

/-- The first field of that name of an object. -/
def field? (name : String) : Json → Option Json
  | .obj fields => (fields.find? (·.1 == name)).map Prod.snd
  | _ => none

/-- The elements of an array; nothing for any other document. -/
def elems : Json → List Json
  | .arr l => l
  | _ => []

end Json

end Multiway.Lib
