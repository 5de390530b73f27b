import Multiway.Lib.Json

/-!
# JSON merge patches (RFC 7386)

A patch that is an object is merged into the target field by field, `null`
removing a field; every other patch, an array among them, takes the target's
place. `field?_mergePatch` says what becomes of the field a patch names, and
`field?_mergePatch_of_ne` that the others stay.
-/

namespace Multiway.Lib.Json

/-- The fields of an object; none for any other document. -/
def fieldsOf : Json → List (String × Json)
  | .obj fields => fields
  | _ => []

def eraseField (name : String) (fields : List (String × Json)) : List (String × Json) :=
  fields.filter (·.1 != name)

def setField (name : String) (value : Json) (fields : List (String × Json)) :
    List (String × Json) :=
  eraseField name fields ++ [(name, value)]

mutual

def mergePatch (target : Json) : Json → Json
  | .obj patch => .obj (mergeFields target.fieldsOf patch)
  | patch => patch

def mergeFields (target : List (String × Json)) : List (String × Json) → List (String × Json)
  | [] => target
  | (name, .null) :: patch => mergeFields (eraseField name target) patch
  | (name, value) :: patch =>
    mergeFields
      (setField name (mergePatch (((Json.obj target).field? name).getD .null) value) target) patch

end

@[simp] theorem mergePatch_arr (target : Json) (l : List Json) :
    target.mergePatch (.arr l) = .arr l := by
  rw [mergePatch]
  exact nofun

theorem field?_fieldsOf (doc : Json) (name : String) :
    (Json.obj doc.fieldsOf).field? name = doc.field? name := by
  cases doc <;> rfl

theorem field?_setField_self (name : String) (value : Json) (fields : List (String × Json)) :
    (Json.obj (setField name value fields)).field? name = some value := by
  have hnone : (eraseField name fields).find? (·.1 == name) = none := by
    rw [List.find?_eq_none]
    intro field hmem
    simpa [eraseField] using (List.mem_filter.mp hmem).2
  simp [field?, setField, List.find?_append, hnone]

theorem field?_eraseField_of_ne {name other : String} (h : other ≠ name)
    (fields : List (String × Json)) :
    (Json.obj (eraseField name fields)).field? other = (Json.obj fields).field? other := by
  unfold field? eraseField
  dsimp only
  rw [List.find?_filter]
  congr 2
  funext field
  by_cases hfield : field.1 = other
  · simp [hfield, h]
  · simp [hfield]

theorem field?_setField_of_ne {name other : String} (h : other ≠ name) (value : Json)
    (fields : List (String × Json)) :
    (Json.obj (setField name value fields)).field? other = (Json.obj fields).field? other := by
  rw [← field?_eraseField_of_ne h fields]
  simp [field?, setField, List.find?_append, Ne.symm h]

/-- The fields no patch names are as before. -/
theorem field?_mergeFields_of_ne {name : String} {patch : List (String × Json)}
    (h : ∀ field ∈ patch, field.1 ≠ name) (target : List (String × Json)) :
    (Json.obj (mergeFields target patch)).field? name = (Json.obj target).field? name := by
  induction patch generalizing target with
  | nil => rw [mergeFields]
  | cons field patch ih =>
    obtain ⟨hfield, hpatch⟩ := List.forall_mem_cons.mp h
    obtain ⟨fieldName, value⟩ := field
    by_cases hnull : value = .null
    · rw [hnull, mergeFields, ih hpatch, field?_eraseField_of_ne (Ne.symm hfield)]
    · rw [mergeFields.eq_3 _ _ _ _ hnull, ih hpatch, field?_setField_of_ne (Ne.symm hfield)]

theorem field?_mergeFields_of_mem {name : String} {value : Json} {patch : List (String × Json)}
    (hnodup : (patch.map Prod.fst).Nodup) (hmem : (name, value) ∈ patch) (h : value ≠ .null)
    (target : List (String × Json)) :
    (Json.obj (mergeFields target patch)).field? name =
      some ((((Json.obj target).field? name).getD .null).mergePatch value) := by
  induction patch generalizing target with
  | nil => cases hmem
  | cons field patch ih =>
    obtain ⟨fieldName, other⟩ := field
    obtain ⟨hfresh, hnodup⟩ := List.nodup_cons.mp hnodup
    rcases List.mem_cons.mp hmem with heq | hmem
    · -- the rest of the patch does not name it again
      obtain ⟨rfl, rfl⟩ := Prod.mk.inj heq
      have hne : ∀ field ∈ patch, field.1 ≠ name := by
        intro field hfield hsame
        exact hfresh (List.mem_map.mpr ⟨field, hfield, hsame⟩)
      rw [mergeFields.eq_3 _ _ _ _ h, field?_mergeFields_of_ne hne, field?_setField_self]
    · have hne : name ≠ fieldName := by
        intro hsame
        exact hfresh (List.mem_map.mpr ⟨_, hmem, hsame⟩)
      by_cases hnull : other = .null
      · rw [hnull, mergeFields, ih hnodup hmem, field?_eraseField_of_ne hne]
      · rw [mergeFields.eq_3 _ _ _ _ hnull, ih hnodup hmem, field?_setField_of_ne hne]

/-- **The field a patch names** is patched in its turn. -/
theorem field?_mergePatch_of_mem (target : Json) {name : String} {value : Json}
    {patch : List (String × Json)} (hnodup : (patch.map Prod.fst).Nodup)
    (hmem : (name, value) ∈ patch) (h : value ≠ .null) :
    (target.mergePatch (.obj patch)).field? name =
      some (((target.field? name).getD .null).mergePatch value) := by
  rw [mergePatch, field?_mergeFields_of_mem hnodup hmem h, field?_fieldsOf]

theorem field?_mergePatch (target : Json) (name : String) {value : Json} (h : value ≠ .null) :
    (target.mergePatch (.obj [(name, value)])).field? name =
      some (((target.field? name).getD .null).mergePatch value) :=
  field?_mergePatch_of_mem target (List.nodup_singleton name) (List.mem_singleton_self _) h

/-- **The fields no patch names** are as before. -/
theorem field?_mergePatch_of_ne (target : Json) {name : String} {patch : List (String × Json)}
    (h : ∀ field ∈ patch, field.1 ≠ name) :
    (target.mergePatch (.obj patch)).field? name = target.field? name := by
  rw [mergePatch, field?_mergeFields_of_ne h, field?_fieldsOf]

/-- An object of arrays, one under each of the names. -/
def IsArrays (names : String → Prop) (doc : Json) : Prop :=
  ∃ fields, doc = .obj fields ∧ (fields.map Prod.fst).Nodup ∧
    (∀ field ∈ fields, ∃ l, field.2 = .arr l) ∧ ∀ name, name ∈ fields.map Prod.fst ↔ names name

/-- **When the result is the patch.** A patch of arrays leaves of the target the
fields it does not name. -/
theorem IsArrays.field?_mergePatch_eq_iff {names : String → Prop} {patch : Json}
    (h : IsArrays names patch) (target : Json) :
    (∀ name, (target.mergePatch patch).field? name = patch.field? name) ↔
      ∀ name, (target.field? name).isSome = true → names name := by
  obtain ⟨fields, rfl, hnodup, harr, hnames⟩ := h
  have hnone : ∀ name, ¬ names name →
      (target.mergePatch (.obj fields)).field? name = target.field? name ∧
        (Json.obj fields).field? name = none := by
    intro name hname
    have hne : ∀ field ∈ fields, field.1 ≠ name := by
      intro field hfield hsame
      exact hname ((hnames name).mp (List.mem_map.mpr ⟨field, hfield, hsame⟩))
    have hfind : fields.find? (·.1 == name) = none :=
      List.find?_eq_none.mpr fun field hfield => by simpa using hne field hfield
    exact ⟨field?_mergePatch_of_ne target hne, by rw [field?, hfind, Option.map_none]⟩
  constructor
  · intro h name hsome
    by_contra hname
    obtain ⟨hkept, hleft⟩ := hnone name hname
    rw [← hkept, h name, hleft] at hsome
    cases hsome
  · intro h name
    by_cases hname : names name
    · obtain ⟨⟨fieldName, value⟩, hfind⟩ : ∃ field, fields.find? (·.1 == name) = some field := by
        obtain ⟨field, hfield, rfl⟩ := List.mem_map.mp ((hnames name).mpr hname)
        exact Option.isSome_iff_exists.mp (List.find?_isSome.mpr ⟨field, hfield, by simp⟩)
      obtain rfl : fieldName = name := by simpa using List.find?_some hfind
      have hmem := List.mem_of_find?_eq_some hfind
      obtain ⟨l, rfl⟩ : ∃ l, value = .arr l := harr _ hmem
      rw [field?_mergePatch_of_mem target hnodup hmem nofun, mergePatch_arr, field?, hfind,
        Option.map_some]
    · obtain ⟨hkept, hleft⟩ := hnone name hname
      have habsent : target.field? name = none := by
        by_contra hsome
        exact hname (h name (Option.isSome_iff_ne_none.mpr hsome))
      rw [hkept, hleft, habsent]

end Multiway.Lib.Json
