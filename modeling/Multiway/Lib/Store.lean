import Mathlib

/-!
# Self-keyed ordered stores

A store is an ordered map (`Std.ExtTreeMap`) whose values know the key they
are filed under: `insert` takes no key, it files a value under `key a`. The
field `keyed` carries that fact, so no caller has to re-prove that looking a
key up returns a value of that key, or that two stored values with one key
are the same value.

`values` lists the contents in key order. Two stores that agree on the values
satisfying a predicate therefore have the same *list* of such values
(`filter_values_congr`), which is what a reader of a partial copy of a store
needs: a fragment holding everything a query selects answers the query
exactly as the whole store does, order included.
-/

namespace Multiway.Lib

/-- An ordered map in which every value is filed under its own key. -/
structure Store (K α : Type) [Ord K] [Std.TransOrd K] (key : α → K) where
  objects : Std.ExtTreeMap K α
  keyed : ∀ k a, objects[k]? = some a → key a = k

namespace Store

variable {K α : Type} [Ord K] [Std.TransOrd K] {key : α → K}

/-- The store holding nothing. -/
def empty : Store K α key := ⟨∅, fun k a h => by simp at h⟩

instance : EmptyCollection (Store K α key) := ⟨empty⟩

instance : Inhabited (Store K α key) := ⟨empty⟩

/-- The value filed under `k`. -/
def get? (s : Store K α key) (k : K) : Option α := s.objects[k]?

/-- File `a` under its own key, replacing what was there. -/
def insert [Std.LawfulEqOrd K] (s : Store K α key) (a : α) : Store K α key where
  objects := s.objects.insert (key a) a
  keyed := by
    intro k b h
    rw [Std.ExtTreeMap.getElem?_insert] at h
    split at h
    next hk =>
      rw [← Option.some.inj h]
      exact Std.LawfulEqOrd.eq_of_compare hk
    next => exact s.keyed k b h

/-- Remove what is filed under `k`. -/
def erase [Std.LawfulEqOrd K] (s : Store K α key) (k : K) : Store K α key where
  objects := s.objects.erase k
  keyed := by
    intro k' a h
    rw [Std.ExtTreeMap.getElem?_erase] at h
    split at h
    · cases h
    · exact s.keyed k' a h

/-- The stored values, in the order of their keys. -/
def values (s : Store K α key) : List α := s.objects.toList.map Prod.snd

/-- Whether something is filed under `k`. -/
def containsKey (s : Store K α key) (k : K) : Bool := (s.get? k).isSome

@[simp] theorem get?_empty (k : K) : (∅ : Store K α key).get? k = none := by
  show (∅ : Std.ExtTreeMap K α)[k]? = none
  simp

theorem key_of_get? {s : Store K α key} {k : K} {a : α} (h : s.get? k = some a) :
    key a = k :=
  s.keyed k a h

section
variable [Std.LawfulEqOrd K]

@[simp] theorem get?_insert_self (s : Store K α key) (a : α) :
    (s.insert a).get? (key a) = some a := by
  show (s.objects.insert (key a) a)[key a]? = _
  exact Std.ExtTreeMap.getElem?_insert_self

theorem get?_insert_of_eq (s : Store K α key) {a : α} {k : K} (h : key a = k) :
    (s.insert a).get? k = some a := by
  rw [← h, get?_insert_self]

theorem get?_insert_of_ne (s : Store K α key) {a : α} {k : K} (h : key a ≠ k) :
    (s.insert a).get? k = s.get? k := by
  show (s.objects.insert (key a) a)[k]? = _
  rw [Std.ExtTreeMap.getElem?_insert,
    if_neg (fun hc => h (Std.LawfulEqOrd.eq_of_compare hc))]
  rfl

@[simp] theorem get?_erase_self (s : Store K α key) (k : K) : (s.erase k).get? k = none :=
  Std.ExtTreeMap.getElem?_erase_self

theorem get?_erase_of_ne (s : Store K α key) {k k' : K} (h : k ≠ k') :
    (s.erase k).get? k' = s.get? k' := by
  show (s.objects.erase k)[k']? = _
  rw [Std.ExtTreeMap.getElem?_erase,
    if_neg (fun hc => h (Std.LawfulEqOrd.eq_of_compare hc))]
  rfl

/-- Erasing only takes away. -/
theorem get?_of_erase {s : Store K α key} {k k' : K} {a : α}
    (h : (s.erase k).get? k' = some a) : s.get? k' = some a := by
  by_cases hk : k = k'
  · rw [← hk, get?_erase_self] at h
    cases h
  · rwa [get?_erase_of_ne s hk] at h

/-- Stores with the same lookups are the same store. -/
theorem ext_get? {s t : Store K α key} (h : ∀ k, s.get? k = t.get? k) : s = t := by
  obtain ⟨so, hs⟩ := s
  obtain ⟨tob, ht⟩ := t
  have hobj : so = tob := Std.ExtTreeMap.ext_getElem? h
  subst hobj
  rfl

theorem mem_values {s : Store K α key} {a : α} :
    a ∈ s.values ↔ s.get? (key a) = some a := by
  constructor
  · intro h
    obtain ⟨⟨k, b⟩, hmem, rfl⟩ := List.mem_map.mp h
    have hget : s.get? k = some b :=
      Std.ExtTreeMap.mem_toList_iff_getElem?_eq_some.mp hmem
    rw [key_of_get? hget]
    exact hget
  · intro h
    exact List.mem_map.mpr
      ⟨(key a, a), Std.ExtTreeMap.mem_toList_iff_getElem?_eq_some.mpr h, rfl⟩

theorem mem_values_of_get? {s : Store K α key} {k : K} {a : α} (h : s.get? k = some a) :
    a ∈ s.values := by
  rw [mem_values, key_of_get? h]
  exact h

theorem get?_eq_some_iff {s : Store K α key} {k : K} {a : α} :
    s.get? k = some a ↔ key a = k ∧ a ∈ s.values := by
  constructor
  · intro h
    exact ⟨key_of_get? h, mem_values_of_get? h⟩
  · intro h
    obtain ⟨rfl, hmem⟩ := h
    exact mem_values.mp hmem

/-- The values stand in strictly increasing key order. -/
theorem pairwise_values (s : Store K α key) :
    s.values.Pairwise fun a b => compare (key a) (key b) = .lt := by
  rw [values, List.pairwise_map]
  refine List.Pairwise.imp_of_mem ?_ Std.ExtTreeMap.ordered_keys_toList
  intro p q hp hq hlt
  have hkey : ∀ r ∈ s.objects.toList, key r.2 = r.1 := fun r hr =>
    s.keyed r.1 r.2 (Std.ExtTreeMap.mem_toList_iff_getElem?_eq_some.mp hr)
  rw [hkey p hp, hkey q hq]
  exact hlt

theorem nodup_values (s : Store K α key) : s.values.Nodup := by
  refine s.pairwise_values.imp ?_
  intro a b hlt heq
  rw [heq, Std.ReflOrd.compare_self] at hlt
  cases hlt

/-- A search through the values finds that of the least key that has one. -/
theorem findSome?_values_eq_some_iff {β : Type} {f : α → Option β} {s : Store K α key} {b : β} :
    s.values.findSome? f = some b ↔
      ∃ a ∈ s.values, f a = some b ∧
        ∀ a' ∈ s.values, (f a').isSome = true → compare (key a) (key a') ≠ .gt := by
  have hsorted := s.pairwise_values
  constructor
  · intro h
    obtain ⟨before, a, after, hvalues, hfound, hbefore⟩ := List.findSome?_eq_some_iff.mp h
    rw [hvalues] at hsorted ⊢
    refine ⟨a, List.mem_append_right _ List.mem_cons_self, hfound, ?_⟩
    intro a' hmem hsome
    rcases List.mem_append.mp hmem with hin | hin
    · rw [hbefore a' hin] at hsome
      cases hsome
    · rcases List.mem_cons.mp hin with rfl | hin
      · rw [Std.ReflOrd.compare_self]
        decide
      · rw [(List.pairwise_cons.mp (List.pairwise_append.mp hsorted).2.1).1 a' hin]
        decide
  · intro h
    obtain ⟨a, hmem, hfound, hleast⟩ := h
    rcases hsearch : s.values.findSome? f with _ | b'
    · rw [List.findSome?_eq_none_iff.mp hsearch a hmem] at hfound
      cases hfound
    · obtain ⟨before, a', after, hvalues, hfound', hbefore⟩ := List.findSome?_eq_some_iff.mp hsearch
      rw [hvalues] at hsorted hmem hleast
      -- `a` is neither before the value found nor after it
      rcases List.mem_append.mp hmem with hin | hin
      · rw [hbefore a hin] at hfound
        cases hfound
      · rcases List.mem_cons.mp hin with rfl | hin
        · rw [← hfound, hfound']
        · have hlt := (List.pairwise_cons.mp (List.pairwise_append.mp hsorted).2.1).1 a hin
          have hle := hleast a' (List.mem_append_right _ List.mem_cons_self)
            (by rw [hfound']; rfl)
          exact absurd (Std.OrientedCmp.gt_of_lt hlt) hle

section
variable {β : Type} {p : α → Bool} {f : α → β}

/-- What is selected and shown under a key, for a view that shows the keys. -/
theorem map_filter_get?_eq_some_iff {s : Store K α key} (hkey : ∀ a b, f a = f b → key a = key b)
    {a : α} :
    ((s.get? (key a)).filter p).map f = some (f a) ↔ f a ∈ (s.values.filter p).map f := by
  rw [List.mem_map, Option.map_eq_some_iff]
  refine exists_congr fun b => and_congr_left fun hf => ?_
  rw [Option.filter_eq_some_iff, List.mem_filter, mem_values, hkey b a hf]

/-- The selection stands in the order of the keys shown. -/
theorem pairwise_map_filter_values (s : Store K α key)
    (hkey : ∀ a b, f a = f b → key a = key b) :
    ((s.values.filter p).map f).Pairwise
      fun x y => ∀ a b, f a = x → f b = y → compare (key a) (key b) = .lt := by
  rw [List.pairwise_map]
  refine (s.pairwise_values.filter _).imp fun hlt a b ha hb => ?_
  rw [hkey a _ ha, hkey b _ hb]
  exact hlt

/-- A selection under a view that shows the keys lists the same exactly when it
shows the same under each key. -/
theorem map_filter_values_eq_iff {s t : Store K α key}
    (hkey : ∀ a b, f a = f b → key a = key b) :
    (s.values.filter p).map f = (t.values.filter p).map f ↔
      ∀ k, ((s.get? k).filter p).map f = ((t.get? k).filter p).map f := by
  have hirrefl : ∀ a, compare (key a) (key a) ≠ .lt := by
    intro a hlt
    rw [Std.ReflOrd.compare_self] at hlt
    cases hlt
  constructor
  · intro h k
    have hle : ∀ u v : Store K α key, (u.values.filter p).map f = (v.values.filter p).map f →
        ∀ b, ((u.get? k).filter p).map f = some b → ((v.get? k).filter p).map f = some b := by
      intro u v huv b hb
      obtain ⟨a, ha, rfl⟩ := Option.map_eq_some_iff.mp hb
      obtain rfl := key_of_get? (Option.filter_eq_some_iff.mp ha).1
      rw [map_filter_get?_eq_some_iff hkey] at hb ⊢
      rwa [← huv]
    exact Option.ext fun b => ⟨hle s t h b, hle t s h.symm b⟩
  · intro h
    have hnodup : ∀ u : Store K α key, ((u.values.filter p).map f).Nodup := by
      intro u
      refine (u.pairwise_map_filter_values hkey).imp_of_mem fun hx _ hlt heq => ?_
      obtain ⟨a, -, rfl⟩ := List.mem_map.mp hx
      exact hirrefl a (hlt a a rfl heq)
    have hsub : ∀ u v : Store K α key, (∀ k, ((u.get? k).filter p).map f =
        ((v.get? k).filter p).map f) → (u.values.filter p).map f ⊆ (v.values.filter p).map f := by
      intro u v huv b hb
      obtain ⟨a, -, rfl⟩ := List.mem_map.mp hb
      rw [← map_filter_get?_eq_some_iff hkey] at hb ⊢
      rwa [← huv]
    have hperm := (List.perm_ext_iff_of_nodup (hnodup s) (hnodup t)).mpr fun b =>
      ⟨fun hb => hsub s t h hb, fun hb => hsub t s (fun k => (h k).symm) hb⟩
    refine hperm.eq_of_pairwise ?_ (s.pairwise_map_filter_values hkey)
      (t.pairwise_map_filter_values hkey)
    intro x y hx hy hxy hyx
    obtain ⟨a, -, rfl⟩ := List.mem_map.mp hx
    obtain ⟨b, -, rfl⟩ := List.mem_map.mp hy
    exact absurd (Std.TransCmp.lt_trans (hxy a b rfl rfl) (hyx b a rfl rfl)) (hirrefl a)

/-- **A fragment answers a query exactly.** If the values satisfying `p` are
filed the same way in both stores, both list them identically, in the same
order. -/
theorem filter_values_congr {s t : Store K α key}
    (h : ∀ a, p a = true → (s.get? (key a) = some a ↔ t.get? (key a) = some a)) :
    s.values.filter p = t.values.filter p := by
  have hsame : ∀ k, (s.get? k).filter p = (t.get? k).filter p := by
    refine fun k => Option.ext fun a => ?_
    rw [Option.filter_eq_some_iff, Option.filter_eq_some_iff, get?_eq_some_iff, get?_eq_some_iff,
      mem_values, mem_values]
    exact and_congr_left fun hp => and_congr_right fun _ => h a hp
  have hlist := (map_filter_values_eq_iff (f := id) fun _ _ => congrArg key).mpr fun k =>
    congrArg (Option.map id) (hsame k)
  rwa [List.map_id, List.map_id] at hlist

end

/-- A stored value is told by its key. -/
theorem eq_of_mem_values {s : Store K α key} {a b : α} (ha : a ∈ s.values)
    (hb : b ∈ s.values) (hkey : key a = key b) : a = b := by
  rw [mem_values] at ha hb
  rw [hkey, hb] at ha
  exact (Option.some.inj ha).symm

/-- Two selections list the same keys only when they select the same values. -/
theorem map_key_filter_values_inj {s : Store K α key} {p q : α → Bool} :
    (s.values.filter p).map key = (s.values.filter q).map key ↔
      ∀ a ∈ s.values, p a = q a := by
  constructor
  · intro h a ha
    have hsel : ∀ r : α → Bool, r a = true ↔ key a ∈ (s.values.filter r).map key := by
      intro r
      constructor
      · intro hr
        exact List.mem_map_of_mem (List.mem_filter.mpr ⟨ha, hr⟩)
      · intro hmem
        obtain ⟨b, hb, hkey⟩ := List.mem_map.mp hmem
        obtain ⟨hb, hr⟩ := List.mem_filter.mp hb
        rw [← eq_of_mem_values hb ha hkey]
        exact hr
    rw [Bool.eq_iff_iff, hsel p, hsel q, h]
  · intro h
    rw [List.filter_congr h]

/-! ## Filing a list of values -/

/-- File every value of a list, later ones over earlier ones. -/
def insertAll (s : Store K α key) (l : List α) : Store K α key := l.foldl insert s

@[simp] theorem insertAll_cons (s : Store K α key) (a : α) (l : List α) :
    s.insertAll (a :: l) = (s.insert a).insertAll l := rfl

/-- A key no listed value has is looked up as before. -/
theorem get?_insertAll_of_forall_ne {l : List α} {k : K} (h : ∀ a ∈ l, key a ≠ k) :
    ∀ s : Store K α key, (s.insertAll l).get? k = s.get? k := by
  induction l with
  | nil => intro s; rfl
  | cons a l ih =>
    intro s
    rw [insertAll_cons, ih (fun b hb => h b (List.mem_cons_of_mem _ hb)),
      get?_insert_of_ne _ (h a List.mem_cons_self)]

/-- When the listed values have pairwise different keys, each is found under
its own. -/
theorem get?_insertAll_of_mem {l : List α} (hl : l.Pairwise fun a b => key a ≠ key b)
    {a : α} (ha : a ∈ l) : ∀ s : Store K α key, (s.insertAll l).get? (key a) = some a := by
  induction l with
  | nil => cases ha
  | cons b l ih =>
    intro s
    rw [List.pairwise_cons] at hl
    rw [insertAll_cons]
    rcases List.mem_cons.mp ha with rfl | hmem
    · rw [get?_insertAll_of_forall_ne (fun c hc => (hl.1 c hc).symm), get?_insert_self]
    · exact ih hl.2 hmem _

/-- Filing a selection of another store's values copies exactly that selection. -/
theorem get?_insertAll_filter_values (s t : Store K α key) (p : α → Bool) (k : K) :
    (s.insertAll (t.values.filter p)).get? k = ((t.get? k).filter p).or (s.get? k) := by
  have hl : (t.values.filter p).Pairwise fun a b => key a ≠ key b := by
    refine (t.pairwise_values.filter _).imp ?_
    intro a b hlt heq
    rw [heq, Std.ReflOrd.compare_self] at hlt
    cases hlt
  cases hsel : (t.get? k).filter p with
  | some a =>
    obtain ⟨hget, hp⟩ := Option.filter_eq_some_iff.mp hsel
    have hkey : key a = k := key_of_get? hget
    have hmem : a ∈ t.values.filter p := List.mem_filter.mpr ⟨mem_values_of_get? hget, hp⟩
    rw [← hkey, get?_insertAll_of_mem hl hmem]
    rfl
  | none =>
    have hne : ∀ a ∈ t.values.filter p, key a ≠ k := by
      intro a ha hkey
      obtain ⟨hmem, hp⟩ := List.mem_filter.mp ha
      rw [mem_values, hkey] at hmem
      rw [hmem, Option.filter_some, if_pos hp] at hsel
      cases hsel
    rw [get?_insertAll_of_forall_ne hne]
    rfl

/-- Filing all values of a store copies it. -/
theorem insertAll_values (t : Store K α key) : (∅ : Store K α key).insertAll t.values = t := by
  refine ext_get? fun k => ?_
  have h := get?_insertAll_filter_values ∅ t (fun _ => true) k
  rw [List.filter_true] at h
  rw [h, get?_empty, Option.or_none]
  cases t.get? k <;> rfl

/-! ## Changes of one value -/

/-- A change of what is filed under one key. -/
inductive Change (K α : Type)
  | put (a : α)
  | delete (k : K)

namespace Change

/-- The key under which something changes. -/
def keyBy (keyOf : α → K) : Change K α → K
  | put a => keyOf a
  | delete k => k

/-- What is filed under it afterwards. -/
def new : Change K α → Option α
  | put a => some a
  | delete _ => none

end Change

def change (s : Store K α key) : Change K α → Store K α key
  | .put a => s.insert a
  | .delete k => s.erase k

@[simp] theorem get?_change_self (s : Store K α key) (c : Change K α) :
    (s.change c).get? (c.keyBy key) = c.new := by
  cases c with
  | put a => exact get?_insert_self s a
  | delete k => exact get?_erase_self s k

theorem get?_change_of_ne (s : Store K α key) {c : Change K α} {k : K} (h : c.keyBy key ≠ k) :
    (s.change c).get? k = s.get? k := by
  cases c with
  | put a => exact get?_insert_of_ne s h
  | delete _ => exact get?_erase_of_ne s h

/-- A selection under a view that shows the keys is changed only by what it
shows of the changed value. -/
theorem map_filter_values_change {β : Type} {p : α → Bool} {f : α → β} (s : Store K α key)
    (c : Change K α) (hkey : ∀ a b, f a = f b → key a = key b) :
    (s.values.filter p).map f = ((s.change c).values.filter p).map f ↔
      ((s.get? (c.keyBy key)).filter p).map f = (c.new.filter p).map f := by
  rw [map_filter_values_eq_iff hkey]
  constructor
  · intro h
    rw [h, get?_change_self]
  · intro h k
    by_cases hk : c.keyBy key = k
    · rw [← hk, get?_change_self, h]
    · rw [get?_change_of_ne s hk]

/-- A query that does not select the changed key is answered as before. -/
theorem any_values_change {p : α → Bool} (s : Store K α key) {c : Change K α}
    (h : ∀ a, p a = true → c.keyBy key ≠ key a) : (s.change c).values.any p = s.values.any p := by
  rw [Bool.eq_iff_iff, List.any_eq_true, List.any_eq_true]
  refine exists_congr fun a => and_congr_left fun hp => ?_
  rw [mem_values, mem_values, get?_change_of_ne s (h a hp)]

/-! ## Fragments -/

/-- Everything filed in `s` is filed in `t`. -/
def Within (s t : Store K α key) : Prop := ∀ k a, s.get? k = some a → t.get? k = some a

omit [Std.LawfulEqOrd K] in
theorem within_empty (t : Store K α key) : (∅ : Store K α key).Within t := by
  intro k a h
  rw [get?_empty] at h
  cases h

theorem Within.insert {s t : Store K α key} (h : s.Within t) {a : α}
    (ha : t.get? (key a) = some a) : (s.insert a).Within t := by
  intro k b hb
  by_cases hk : key a = k
  · rw [← hk, get?_insert_self] at hb
    rw [← hk, ha, hb]
  · rw [get?_insert_of_ne s hk] at hb
    exact h k b hb

omit [Std.LawfulEqOrd K] in
theorem Within.refl (s : Store K α key) : s.Within s := fun _ _ h => h

omit [Std.LawfulEqOrd K] in
theorem Within.trans {s t u : Store K α key} (hst : s.Within t) (htu : t.Within u) :
    s.Within u :=
  fun k a h => htu k a (hst k a h)

/-- Filing an object of `t` in a fragment of `t` loses nothing. -/
theorem Within.within_insert {s t : Store K α key} (h : s.Within t) {a : α}
    (ha : t.get? (key a) = some a) : s.Within (s.insert a) := by
  intro k b hb
  by_cases hk : key a = k
  · have hsame := h k b hb
    rw [← hk, ha] at hsame
    rw [← hk, get?_insert_self, hsame]
  · rw [get?_insert_of_ne s hk, hb]

omit [Std.LawfulEqOrd K] in
/-- What is not in the whole is not in a fragment. -/
theorem Within.get?_eq_none {s t : Store K α key} (h : s.Within t) {k : K}
    (ht : t.get? k = none) : s.get? k = none := by
  refine Option.eq_none_iff_forall_ne_some.mpr fun a ha => ?_
  rw [h k a ha] at ht
  cases ht

omit [Std.LawfulEqOrd K] in
/-- A key found to be as in `t` stays so in every larger fragment of `t`. -/
theorem Within.get?_eq {s s' t : Store K α key} (hss : s.Within s') (hst : s'.Within t) {k : K}
    (h : s.get? k = t.get? k) : s'.get? k = t.get? k := by
  rcases ht : t.get? k with _ | a
  · exact hst.get?_eq_none ht
  · exact hss k a (h.trans ht)

theorem values_insert_empty (a : α) : ((∅ : Store K α key).insert a).values = [a] := by
  have hmem : ∀ b, b ∈ ((∅ : Store K α key).insert a).values ↔ b = a := by
    intro b
    rw [mem_values]
    constructor
    · intro hb
      by_cases hk : key a = key b
      · rw [← hk, get?_insert_self] at hb
        exact (Option.some.inj hb).symm
      · rw [get?_insert_of_ne _ hk, get?_empty] at hb
        cases hb
    · rintro rfl
      exact get?_insert_self _ _
  have hperm := (List.perm_ext_iff_of_nodup (nodup_values _) (List.nodup_singleton a)).mpr
    fun b => (hmem b).trans List.mem_singleton.symm
  exact List.perm_singleton.mp hperm

end

end Store

end Multiway.Lib
