import Multiway.Lib.Json

/-!
# Reading JSON documents

Readers as serde derives them for structs and enums, put together from one
reader for each field. A struct is read from an object: a field that is there
is read, one that is missing has a value of its own or is an error
(`required`, `optionField`, `defaulted`), one that is there twice is an error, and
fields of other names are ignored. A derived reader also takes a struct from an
array of its fields and a unit variant from a one-field object; no derived
writer prints these forms, and they are left out.

The laws come in two kinds. A field that was written is read back, whichever
way it was written (`pick_optional`, `pick_nonempty`, `list_map`). And reading
commutes with a change of type (`map_field`, `map_list`), so two readers that
agree field by field agree on whole documents.
-/

namespace Multiway.Lib.Serde

abbrev Decoder (α : Type) := Json → Option α

/-! ## Scalars and arrays -/

def str : Decoder String
  | .str s => some s
  | _ => none

/-- An unsigned integer below `bound`. -/
def uint (bound : ℕ) : Decoder ℕ
  | .int n => if 0 ≤ n ∧ n < bound then some n.toNat else none
  | _ => none

def uint16 : Decoder UInt16 := fun d => (uint (2 ^ 16) d).map UInt16.ofNat

def uint32 : Decoder UInt32 := fun d => (uint (2 ^ 32) d).map UInt32.ofNat

/-- A number that is printed without a point is rounded. -/
def f64 : Decoder F64
  | .float q => some (.finite q)
  | .int n =>
    match F64.ofRat n with
    | .finite q => some (.finite q)
    | _ => none
  | _ => none

section
variable {α β : Type}

def list (f : Decoder α) : Decoder (List α)
  | .arr l => l.mapM f
  | _ => none

/-- A variant without fields is its name. -/
def variant (table : List (String × α)) : Decoder α
  | .str s => (table.find? (·.1 == s)).map Prod.snd
  | _ => none

/-- `null` stands for `None`. -/
def optionOf (f : Decoder α) : Decoder (Option α)
  | .null => some none
  | d => (f d).map some

/-! ## Fields -/

def named (name : String) (fields : List (String × Json)) : List (String × Json) :=
  fields.filter (·.1 == name)

/-- What the fields of one name are read as. -/
def pick (missing : Option α) (f : Decoder α) : List (String × Json) → Option α
  | [] => missing
  | [(_, value)] => f value
  | _ => none

/-- The field of that name of an object. -/
def field (name : String) (missing : Option α) (f : Decoder α) : Decoder α
  | .obj fields => pick missing f (named name fields)
  | _ => none

def required (name : String) (f : Decoder α) : Decoder α := field name none f

/-- `#[serde(default)]`. -/
def defaulted (name : String) (default : α) (f : Decoder α) : Decoder α :=
  field name (some default) f

/-- An `Option` field, which may be missing. -/
def optionField (name : String) (f : Decoder α) : Decoder (Option α) :=
  field name (some none) (optionOf f)

/-- `#[serde(tag = "..")]`: a field that says which variant the others are of. -/
def tagged (name : String) (table : List (String × Decoder α)) : Decoder α := fun d =>
  (required name str d).bind fun tag => (table.find? (·.1 == tag)).bind fun entry => entry.2 d

/-! ## What was written is read back -/

@[simp] theorem str_str (s : String) : str (.str s) = some s := by rfl

theorem uint_ofNat {bound n : ℕ} (h : n < bound) : uint bound (.ofNat n) = some n := by
  have hint : (n : ℤ) < bound := by exact_mod_cast h
  exact if_pos ⟨Int.natCast_nonneg n, hint⟩

@[simp] theorem uint16_ofNat (n : UInt16) : uint16 (.ofNat n.toNat) = some n := by
  unfold uint16
  rw [uint_ofNat n.toNat_lt, Option.map_some, UInt16.ofNat_toNat]

@[simp] theorem uint32_ofNat (n : UInt32) : uint32 (.ofNat n.toNat) = some n := by
  unfold uint32
  rw [uint_ofNat n.toNat_lt, Option.map_some, UInt32.ofNat_toNat]

theorem f64_ofF64 {x : F64} (h : x.isFinite = true) : f64 (.ofF64 x) = some x := by
  cases x with
  | finite q => rfl
  | inf | nan => cases h

@[simp] theorem str_null : str .null = none := by rfl

@[simp] theorem uint16_null : uint16 .null = none := by rfl

@[simp] theorem uint32_null : uint32 .null = none := by rfl

@[simp] theorem f64_null : f64 .null = none := by rfl

theorem list_map {f : Decoder α} {enc : α → Json} {l : List α}
    (h : ∀ a ∈ l, f (enc a) = some a) : list f (.arr (l.map enc)) = some l := by
  show (l.map enc).mapM f = some l
  induction l with
  | nil => rfl
  | cons a l ih =>
    obtain ⟨ha, hl⟩ := List.forall_mem_cons.mp h
    rw [List.map_cons, List.mapM_cons, ha, ih hl]
    rfl

@[simp] theorem field_obj (name : String) (missing : Option α) (f : Decoder α)
    (fields : List (String × Json)) :
    field name missing f (.obj fields) = pick missing f (named name fields) := by rfl

@[simp] theorem field_null (name : String) (missing : Option α) (f : Decoder α) :
    field name missing f .null = none := rfl

@[simp] theorem named_nil (name : String) : named name [] = [] := rfl

@[simp] theorem named_cons_self (name : String) (value : Json) (fields : List (String × Json)) :
    named name ((name, value) :: fields) = (name, value) :: named name fields :=
  List.filter_cons_of_pos (beq_self_eq_true name)

theorem named_cons_of_ne {name name' : String} (h : name' ≠ name) (value : Json)
    (fields : List (String × Json)) :
    named name ((name', value) :: fields) = named name fields :=
  List.filter_cons_of_neg (by simpa using h)

@[simp] theorem named_append (name : String) (l m : List (String × Json)) :
    named name (l ++ m) = named name l ++ named name m := List.filter_append l m

@[simp] theorem named_optional_self (name : String) (enc : α → Json) (o : Option α) :
    named name (Json.optional name enc o) = Json.optional name enc o := by
  cases o with
  | none => rfl
  | some a => exact named_cons_self name _ []

theorem named_optional_of_ne {name name' : String} (h : name' ≠ name) (enc : α → Json)
    (o : Option α) : named name (Json.optional name' enc o) = [] := by
  cases o with
  | none => rfl
  | some a => exact named_cons_of_ne h _ []

@[simp] theorem named_nonempty_self (name : String) (enc : α → Json) (l : List α) :
    named name (Json.nonempty name enc l) = Json.nonempty name enc l := by
  cases l with
  | nil => rfl
  | cons a l => exact named_cons_self name _ []

theorem named_nonempty_of_ne {name name' : String} (h : name' ≠ name) (enc : α → Json)
    (l : List α) : named name (Json.nonempty name' enc l) = [] := by
  cases l with
  | nil => rfl
  | cons a l => exact named_cons_of_ne h _ []

@[simp] theorem pick_singleton (missing : Option α) (f : Decoder α) (name : String)
    (value : Json) : pick missing f [(name, value)] = f value := by rfl

@[simp] theorem pick_nil (missing : Option α) (f : Decoder α) : pick missing f [] = missing := rfl

/-- A field written with `skip_serializing_if = "Option::is_none"`. -/
theorem pick_optional {f : Decoder α} {enc : α → Json} {o : Option α} {name : String}
    (hnull : f .null = none) (h : ∀ a, o = some a → f (enc a) = some a) :
    pick (some none) (optionOf f) (Json.optional name enc o) = some o := by
  cases o with
  | none => rfl
  | some a =>
    have ha := h a rfl
    show optionOf f (enc a) = some (some a)
    unfold optionOf
    split
    next henc =>
      rw [henc, hnull] at ha
      cases ha
    next => rw [ha, Option.map_some]

/-- A field written with `skip_serializing_if = "Vec::is_empty"`. -/
theorem pick_nonempty {f : Decoder α} {enc : α → Json} {l : List α} {name : String}
    (h : ∀ a ∈ l, f (enc a) = some a) :
    pick (some []) (list f) (Json.nonempty name enc l) = some l := by
  cases l with
  | nil => rfl
  | cons a l => exact list_map h

/-! ## A change of type -/

theorem optional_map {name : String} {enc : β → Json} {g : α → β} {o : Option α} :
    Json.optional name enc (o.map g) = Json.optional name (fun a => enc (g a)) o := by
  cases o <;> rfl

theorem nonempty_map {name : String} {enc : β → Json} {g : α → β} {l : List α} :
    Json.nonempty name enc (l.map g) = Json.nonempty name (fun a => enc (g a)) l := by
  cases l with
  | nil => rfl
  | cons a l =>
    simp only [Json.nonempty, List.map_cons, List.map_map]
    rfl

section
variable {f : Decoder α} {g : α → β}

theorem map_variant {table : List (String × α)} {table' : List (String × β)}
    (h : table' = table.map fun entry => (entry.1, g entry.2)) :
    variant table' = fun d => (variant table d).map g := by
  subst h
  funext d
  cases d with
  | str s =>
    simp only [variant, List.find?_map, Option.map_map]
    rfl
  | null | bool | int | float | arr | obj => rfl

theorem map_list :
    list (fun d => (f d).map g) = fun d => (list f d).map (List.map g) := by
  funext d
  cases d with
  | arr l =>
    show l.mapM (fun d => (f d).map g) = (l.mapM f).map (List.map g)
    induction l with
    | nil => rfl
    | cons a l ih =>
      rw [List.mapM_cons, List.mapM_cons, ih]
      cases f a with
      | none => rfl
      | some b => cases l.mapM f <;> rfl
  | null | bool | int | float | str | obj => rfl

theorem map_optionOf :
    optionOf (fun d => (f d).map g) = fun d => (optionOf f d).map (Option.map g) := by
  funext d
  cases d with
  | null => rfl
  | bool | int | float | str | arr | obj =>
    simp only [optionOf, Option.map_map]
    rfl

theorem map_field {name : String} {missing : Option α} {d : Json} :
    field name (missing.map g) (fun d => (f d).map g) d = (field name missing f d).map g := by
  cases d with
  | obj fields =>
    rw [field_obj, field_obj]
    unfold pick
    split <;> rfl
  | null | bool | int | float | str | arr => rfl

theorem map_required {name : String} {d : Json} :
    required name (fun d => (f d).map g) d = (required name f d).map g :=
  @map_field _ _ f g name none d

theorem map_optionField {name : String} {d : Json} :
    optionField name (fun d => (f d).map g) d = (optionField name f d).map (Option.map g) := by
  unfold optionField
  rw [map_optionOf]
  exact @map_field _ _ (optionOf f) (Option.map g) name (some none) d

theorem map_defaulted {name : String} {default : α} {default' : β} {d : Json}
    (h : default' = g default) :
    defaulted name default' (fun d => (f d).map g) d = (defaulted name default f d).map g := by
  subst h
  exact @map_field _ _ f g name (some default) d

theorem map_tagged {name : String} {table : List (String × Decoder α)}
    {table' : List (String × Decoder β)}
    (h : table' = table.map fun entry => (entry.1, fun d => (entry.2 d).map g)) :
    tagged name table' = fun d => (tagged name table d).map g := by
  subst h
  funext d
  unfold tagged
  cases required name str d with
  | none => rfl
  | some tag =>
    simp only [Option.bind_some, List.find?_map, Option.bind_map, Option.map_bind]
    rfl

/-- A list that is empty by default. -/
theorem map_defaulted_nil {f : Decoder (List α)} {name : String} {d : Json} :
    defaulted name [] (fun d => (f d).map (List.map g)) d =
      (defaulted name [] f d).map (List.map g) := map_defaulted rfl

end

end

end Multiway.Lib.Serde
