import Multiway.ProxyCore.HeaderFilters

/-!
# Header modifications on pair lists (`filter.rs`)

`apply_header_modifications` is the pair-list twin of what the pipeline does to
a header map. Both remove, set and add in this order. The map holds one value
after a set; the list overwrites the value of every entry of the name
(`pairValues_setHeader`), so a header that was there twice is there twice with
the new value. For everything else the two agree (`agree_iff`).
-/

namespace Multiway.ProxyCore

open Multiway.Lib.Text

/-! ## `apply_header_modifications` -/

/-- Overwrite existing or insert if absent. -/
def setHeader (headers : List (String × String)) (hv : HeaderValue) : List (String × String) :=
  let found := headers.any fun entry => eqIgnoreAsciiCase entry.1 hv.name
  let headers := headers.map fun entry =>
    if eqIgnoreAsciiCase entry.1 hv.name then (entry.1, hv.value) else entry
  if found then headers else headers ++ [(hv.name, hv.value)]

/-- Remove, then set, then add. -/
def applyHeaderModifications (headers : List (String × String)) (remove : List String)
    (set add : List HeaderValue) : List (String × String) :=
  let headers := remove.foldl (fun headers name =>
    headers.filter fun entry => !eqIgnoreAsciiCase entry.1 name) headers
  let headers := set.foldl setHeader headers
  add.foldl (fun headers hv => headers ++ [(hv.name, hv.value)]) headers

def applyRequestHeaders (headers : List (String × String)) (applied : AppliedFilter) :
    List (String × String) :=
  applyHeaderModifications headers applied.requestHeaderRemove applied.requestHeaderSet
    applied.requestHeaderAdd

def applyResponseHeaders (headers : List (String × String)) (applied : AppliedFilter) :
    List (String × String) :=
  applyHeaderModifications headers applied.responseHeaderRemove applied.responseHeaderSet
    applied.responseHeaderAdd

/-! ## The values of a name -/

/-- The values of the entries whose name is `name` in any case, in order. -/
def pairValues (headers : List (String × String)) (name : String) : List String :=
  (headers.filter fun entry => eqIgnoreAsciiCase entry.1 name).map Prod.snd

/-- The values given to `name` in a list of modifications, in order. -/
def valuesFor (modifications : List HeaderValue) (name : String) : List String :=
  (modifications.filter fun hv => eqIgnoreAsciiCase hv.name name).map HeaderValue.value

/-- What removing, setting and adding make of the values of a name. -/
def specifiedValues (original : List (String × String)) (remove : List String)
    (set add : List HeaderValue) (name : String) : List String :=
  ((valuesFor set name).getLast?.map fun value => [value]).getD
      (if remove.any fun n => eqIgnoreAsciiCase n name then [] else pairValues original name) ++
    valuesFor add name

theorem eqIgnoreAsciiCase_comm (a b : String) : eqIgnoreAsciiCase a b = eqIgnoreAsciiCase b a :=
  Bool.beq_comm

theorem eqIgnoreAsciiCase_trans {a b : String} (h : eqIgnoreAsciiCase a b = true) (c : String) :
    eqIgnoreAsciiCase a c = eqIgnoreAsciiCase b c := by
  unfold eqIgnoreAsciiCase at h ⊢
  rw [beq_iff_eq.mp h]

@[simp]
theorem pairValues_nil (name : String) : pairValues [] name = [] := rfl

theorem pairValues_append (a b : List (String × String)) (name : String) :
    pairValues (a ++ b) name = pairValues a name ++ pairValues b name := by
  simp [pairValues]

theorem pairValues_cons (h v : String) (headers : List (String × String)) (name : String) :
    pairValues ((h, v) :: headers) name =
      if eqIgnoreAsciiCase h name then v :: pairValues headers name
      else pairValues headers name := by
  cases hname : eqIgnoreAsciiCase h name <;> simp [pairValues, hname]

theorem valuesFor_cons (hv : HeaderValue) (modifications : List HeaderValue) (name : String) :
    valuesFor (hv :: modifications) name =
      if eqIgnoreAsciiCase hv.name name then hv.value :: valuesFor modifications name
      else valuesFor modifications name := by
  cases hname : eqIgnoreAsciiCase hv.name name <;> simp [valuesFor, hname]

theorem pairValues_removed (names : List String) (headers : List (String × String))
    (name : String) :
    pairValues (names.foldl (fun headers n =>
        headers.filter fun entry => !eqIgnoreAsciiCase entry.1 n) headers) name =
      if names.any fun n => eqIgnoreAsciiCase n name then [] else pairValues headers name := by
  induction names generalizing headers with
  | nil => rfl
  | cons n names ih =>
    rw [List.foldl_cons, ih, List.any_cons]
    cases hn : eqIgnoreAsciiCase n name with
    | true =>
      have hnone : pairValues (headers.filter fun entry => !eqIgnoreAsciiCase entry.1 n) name =
          [] := by
        rw [pairValues, List.filter_filter, List.map_eq_nil_iff, List.filter_eq_nil_iff]
        intro entry _
        rw [eqIgnoreAsciiCase_comm entry.1 n, eqIgnoreAsciiCase_trans hn, eqIgnoreAsciiCase_comm]
        simp
      rw [hnone]
      simp
    | false =>
      have hsame : pairValues (headers.filter fun entry => !eqIgnoreAsciiCase entry.1 n) name =
          pairValues headers name := by
        rw [pairValues, pairValues, List.filter_filter]
        refine congrArg (List.map Prod.snd) (List.filter_congr fun entry _ => ?_)
        cases hentry : eqIgnoreAsciiCase entry.1 name with
        | false => rfl
        | true =>
          have hother : eqIgnoreAsciiCase entry.1 n = false := by
            rw [eqIgnoreAsciiCase_trans hentry, eqIgnoreAsciiCase_comm, hn]
          simp [hother]
      rw [hsame, Bool.false_or]

/-- What overwriting makes of the values of a name. -/
theorem pairValues_overwritten (headers : List (String × String)) (hv : HeaderValue)
    (name : String) :
    pairValues (headers.map fun entry =>
        if eqIgnoreAsciiCase entry.1 hv.name then (entry.1, hv.value) else entry) name =
      if eqIgnoreAsciiCase hv.name name then
        List.replicate (pairValues headers name).length hv.value
      else pairValues headers name := by
  induction headers with
  | nil => simp
  | cons entry headers ih =>
    obtain ⟨h, v⟩ := entry
    rw [List.map_cons]
    cases hh : eqIgnoreAsciiCase h hv.name with
    | true =>
      rw [if_pos rfl, pairValues_cons, pairValues_cons, ih, eqIgnoreAsciiCase_trans hh]
      cases eqIgnoreAsciiCase hv.name name <;> simp [List.replicate_succ]
    | false =>
      rw [if_neg Bool.false_ne_true, pairValues_cons, pairValues_cons, ih]
      cases hname : eqIgnoreAsciiCase hv.name name with
      | true =>
        have hother : eqIgnoreAsciiCase h name = false := by
          rw [eqIgnoreAsciiCase_comm, ← eqIgnoreAsciiCase_trans hname, eqIgnoreAsciiCase_comm, hh]
        simp [hother]
      | false => cases eqIgnoreAsciiCase h name <;> simp

/-- A name without values is one without entries. -/
theorem any_eq_false_iff (headers : List (String × String)) (name : String) :
    (headers.any fun entry => eqIgnoreAsciiCase entry.1 name) = false ↔
      pairValues headers name = [] := by
  rw [List.any_eq_false, pairValues, List.map_eq_nil_iff, List.filter_eq_nil_iff]

/-- **A set overwrites every entry of its name.** -/
theorem pairValues_setHeader (headers : List (String × String)) (hv : HeaderValue)
    (name : String) :
    pairValues (setHeader headers hv) name =
      if eqIgnoreAsciiCase hv.name name then
        List.replicate (max 1 (pairValues headers name).length) hv.value
      else pairValues headers name := by
  unfold setHeader
  dsimp only
  cases hfound : headers.any fun entry => eqIgnoreAsciiCase entry.1 hv.name with
  | true =>
    rw [if_pos rfl, pairValues_overwritten]
    cases hname : eqIgnoreAsciiCase hv.name name with
    | false => rfl
    | true =>
      have hne : pairValues headers name ≠ [] := by
        intro hnil
        rw [← any_eq_false_iff] at hnil
        have hsame : (fun entry : String × String => eqIgnoreAsciiCase entry.1 hv.name) =
            fun entry => eqIgnoreAsciiCase entry.1 name := by
          funext entry
          rw [eqIgnoreAsciiCase_comm, eqIgnoreAsciiCase_trans hname, eqIgnoreAsciiCase_comm]
        rw [hsame, hnil] at hfound
        cases hfound
      rw [max_eq_right (List.length_pos_iff.mpr hne)]
  | false =>
    rw [if_neg Bool.false_ne_true, pairValues_append, pairValues_overwritten, pairValues_cons]
    cases hname : eqIgnoreAsciiCase hv.name name with
    | false => simp
    | true =>
      have hnil : pairValues headers name = [] := by
        rw [← any_eq_false_iff, ← hfound]
        refine congrArg (headers.any ·) (funext fun entry => ?_)
        rw [eqIgnoreAsciiCase_comm, ← eqIgnoreAsciiCase_trans hname, eqIgnoreAsciiCase_comm]
      simp [hnil]

/-- After all sets: as many copies of the last value as there were entries. -/
theorem pairValues_foldl_set (set : List HeaderValue) (headers : List (String × String))
    (name : String) :
    pairValues (set.foldl setHeader headers) name =
      ((valuesFor set name).getLast?.map fun value =>
        List.replicate (max 1 (pairValues headers name).length) value).getD
          (pairValues headers name) := by
  induction set generalizing headers with
  | nil => rfl
  | cons hv set ih =>
    rw [List.foldl_cons, ih, pairValues_setHeader, valuesFor_cons]
    cases hname : eqIgnoreAsciiCase hv.name name with
    | false => rfl
    | true =>
      rw [if_pos rfl, if_pos rfl, List.getLast?_cons, List.length_replicate, ← max_assoc,
        max_self]
      cases (valuesFor set name).getLast? with
      | none => rfl
      | some last => rfl

theorem pairValues_foldl_add (add : List HeaderValue) (headers : List (String × String))
    (name : String) :
    pairValues (add.foldl (fun headers hv => headers ++ [(hv.name, hv.value)]) headers) name =
      pairValues headers name ++ valuesFor add name := by
  induction add generalizing headers with
  | nil => simp [valuesFor]
  | cons hv add ih =>
    rw [List.foldl_cons, ih, pairValues_append, pairValues_cons, valuesFor_cons, List.append_assoc]
    cases eqIgnoreAsciiCase hv.name name <;> simp

/-- **The pair list in closed form.** -/
theorem pairValues_applyHeaderModifications (headers : List (String × String))
    (remove : List String) (set add : List HeaderValue) (name : String) :
    pairValues (applyHeaderModifications headers remove set add) name =
      let kept := if remove.any fun n => eqIgnoreAsciiCase n name then []
        else pairValues headers name
      ((valuesFor set name).getLast?.map fun value =>
        List.replicate (max 1 kept.length) value).getD kept ++ valuesFor add name := by
  unfold applyHeaderModifications
  dsimp only
  rw [pairValues_foldl_add, pairValues_foldl_set, pairValues_removed]

/-! ## The header map of a pair list -/

/-- The text of a `HeaderName`. -/
def lowercaseName (name : String) : String := String.ofList (toAsciiLowercase name.toList)

/-- The message's headers as the pipeline holds them. -/
def headerMap (headers : List (String × String)) : HeaderMap :=
  headers.map fun entry => (lowercaseName entry.1, entry.2)

theorem lowercaseName_eq_iff (a b : String) :
    lowercaseName a = lowercaseName b ↔ eqIgnoreAsciiCase a b = true := by
  rw [eqIgnoreAsciiCase, beq_iff_eq, lowercaseName, lowercaseName, String.ofList_inj]

theorem values_headerMap (headers : List (String × String)) (name : String) :
    (headerMap headers).values (lowercaseName name) = pairValues headers name := by
  induction headers with
  | nil => rfl
  | cons entry headers ih =>
    obtain ⟨h, v⟩ := entry
    rw [headerMap, List.map_cons, HeaderMap.values_cons, pairValues_cons, ← ih]
    exact if_congr (lowercaseName_eq_iff h name) rfl rfl

/-- The crate takes the names, in lowercase, and the values, as they are. -/
structure ValidModifications (http : HttpCrate) (remove : List String)
    (set add : List HeaderValue) : Prop where
  remove : ∀ n ∈ remove, http.parseHeaderName n = some (lowercaseName n)
  names : ∀ hv ∈ set ++ add, http.parseHeaderName hv.name = some (lowercaseName hv.name)
  values : ∀ hv ∈ set ++ add, http.parseHeaderValue hv.value = some hv.value

theorem acceptedValues_eq {http : HttpCrate} {modifications : List HeaderValue}
    (hnames : ∀ hv ∈ modifications, http.parseHeaderName hv.name = some (lowercaseName hv.name))
    (hvalues : ∀ hv ∈ modifications, http.parseHeaderValue hv.value = some hv.value)
    (name : String) :
    acceptedValues http modifications (lowercaseName name) = valuesFor modifications name := by
  induction modifications with
  | nil => rfl
  | cons hv modifications ih =>
    obtain ⟨hn, hnames⟩ := List.forall_mem_cons.mp hnames
    obtain ⟨hval, hvalues⟩ := List.forall_mem_cons.mp hvalues
    have haccepted : acceptedValue http (lowercaseName name) hv =
        if eqIgnoreAsciiCase hv.name name then some hv.value else none := by
      rw [acceptedValue, hn, hval]
      exact if_congr (lowercaseName_eq_iff hv.name name) rfl rfl
    rw [valuesFor_cons, ← ih hnames hvalues, acceptedValues, acceptedValues]
    cases hname : eqIgnoreAsciiCase hv.name name with
    | true =>
      rw [hname, if_pos rfl] at haccepted
      rw [List.filterMap_cons_some haccepted, if_pos rfl]
    | false =>
      rw [hname, if_neg Bool.false_ne_true] at haccepted
      rw [List.filterMap_cons_none haccepted, if_neg Bool.false_ne_true]

theorem namesHeader_eq {http : HttpCrate} {names : List String}
    (hnames : ∀ n ∈ names, http.parseHeaderName n = some (lowercaseName n)) (name : String) :
    namesHeader http names (lowercaseName name) =
      names.any fun n => eqIgnoreAsciiCase n name := by
  rw [namesHeader, Bool.eq_iff_iff, List.any_eq_true, List.any_eq_true]
  refine exists_congr fun n => and_congr_right fun hn => ?_
  rw [hnames n hn, beq_iff_eq, Option.some.injEq, lowercaseName_eq_iff]

/-- **The header map does what is specified.** -/
theorem values_modifyHeaders_headerMap {http : HttpCrate} {remove : List String}
    {set add : List HeaderValue} (h : ValidModifications http remove set add)
    (headers : List (String × String)) (name : String) :
    (modifyHeaders http (headerMap headers) remove set add).values (lowercaseName name) =
      specifiedValues headers remove set add name := by
  have hset := acceptedValues_eq (fun hv hhv => h.names hv (List.mem_append_left add hhv))
    (fun hv hhv => h.values hv (List.mem_append_left add hhv)) name
  have hadd := acceptedValues_eq (fun hv hhv => h.names hv (List.mem_append_right set hhv))
    (fun hv hhv => h.values hv (List.mem_append_right set hhv)) name
  rw [values_modifyHeaders, hset, hadd, namesHeader_eq h.remove, values_headerMap]
  rfl

/-! ## When the three agree -/

/-- A header that is set and not removed is there once at most. -/
def SetsSingle (headers : List (String × String)) (remove : List String)
    (set : List HeaderValue) : Prop :=
  ∀ hv ∈ set, (∃ n ∈ remove, eqIgnoreAsciiCase n hv.name = true) ∨
    (pairValues headers hv.name).length ≤ 1

/-- As many copies as there are entries, and one where there are none. -/
theorem replicate_eq_singleton_iff (count : ℕ) (value : String) :
    List.replicate (max 1 count) value = [value] ↔ count ≤ 1 := by
  constructor
  · intro h
    have hlen := congrArg List.length h
    rw [List.length_replicate, List.length_singleton] at hlen
    omega
  · intro h
    rw [max_eq_left h]
    rfl

/-- A name that is not set makes no difference. -/
theorem pairValues_eq_specifiedValues_iff (headers : List (String × String))
    (remove : List String) (set add : List HeaderValue) (name : String) :
    pairValues (applyHeaderModifications headers remove set add) name =
        specifiedValues headers remove set add name ↔
      (valuesFor set name ≠ [] → (∃ n ∈ remove, eqIgnoreAsciiCase n name = true) ∨
        (pairValues headers name).length ≤ 1) := by
  rw [pairValues_applyHeaderModifications, specifiedValues]
  dsimp only
  rw [List.append_left_inj]
  by_cases hset : valuesFor set name = []
  · simp [hset]
  · rw [List.getLast?_eq_some_getLast hset, Option.map_some, Option.map_some, Option.getD_some,
      Option.getD_some,
      replicate_eq_singleton_iff]
    cases hremoved : remove.any fun n => eqIgnoreAsciiCase n name with
    | true =>
      refine iff_of_true (Nat.zero_le 1) fun _ => .inl ?_
      simpa using hremoved
    | false =>
      have hnone : ¬ ∃ n ∈ remove, eqIgnoreAsciiCase n name = true := by
        simpa using hremoved
      simp [hset, hnone]

theorem valuesFor_ne_nil_iff (set : List HeaderValue) (name : String) :
    valuesFor set name ≠ [] ↔ ∃ hv ∈ set, eqIgnoreAsciiCase hv.name name = true := by
  rw [ne_eq, valuesFor, List.map_eq_nil_iff, List.filter_eq_nil_iff]
  push Not
  rfl

theorem pairValues_congr {a b : String} (h : eqIgnoreAsciiCase a b = true)
    (headers : List (String × String)) : pairValues headers a = pairValues headers b := by
  unfold pairValues
  refine congrArg (List.map Prod.snd) (List.filter_congr fun entry _ => ?_)
  rw [eqIgnoreAsciiCase_comm, eqIgnoreAsciiCase_trans h, eqIgnoreAsciiCase_comm]

theorem setsSingle_iff (headers : List (String × String)) (remove : List String)
    (set add : List HeaderValue) :
    (∀ name, pairValues (applyHeaderModifications headers remove set add) name =
        specifiedValues headers remove set add name) ↔ SetsSingle headers remove set := by
  simp only [pairValues_eq_specifiedValues_iff, valuesFor_ne_nil_iff]
  constructor
  · intro h hv hmem
    exact h hv.name ⟨hv, hmem, beq_self_eq_true _⟩
  · intro h name hset
    obtain ⟨hv, hmem, hname⟩ := hset
    rcases h hv hmem with ⟨n, hn, hremoved⟩ | hsingle
    · exact .inl ⟨n, hn, by rw [eqIgnoreAsciiCase_trans hremoved, hname]⟩
    · exact .inr (pairValues_congr hname headers ▸ hsingle)

/-- The modifications are valid, and nothing is rewritten: with no Host header to
fill in, what is left of `build_upstream_request` is its header code. -/
structure OnlyModified (http : HttpCrate) (applied : AppliedFilter) : Prop where
  rewrite : applied.rewrite = none
  request : ValidModifications http applied.requestHeaderRemove applied.requestHeaderSet
    applied.requestHeaderAdd
  response : ValidModifications http applied.responseHeaderRemove applied.responseHeaderSet
    applied.responseHeaderAdd

theorem headers_buildUpstreamRequest {http : HttpCrate} {applied : AppliedFilter}
    (hrewrite : applied.rewrite = none) (original : Request) :
    (buildUpstreamRequest http original none applied).headers =
      modifyHeaders http original.headers applied.requestHeaderRemove applied.requestHeaderSet
        applied.requestHeaderAdd := by
  unfold buildUpstreamRequest
  rw [hrewrite]
  exact ite_self _

/-- **When all header modifications compute one multimap.** For every message
and all modifications: exactly when no header that is there twice is set and not
removed first. -/
theorem oneMultimap_iff {http : HttpCrate} {applied : AppliedFilter}
    (h : OnlyModified http applied) (headers : List (String × String)) (original : Request)
    (hrequest : original.headers = headerMap headers) (response : Response)
    (hresponse : response.headers = headerMap headers) :
    (∀ name,
      let requested := specifiedValues headers applied.requestHeaderRemove
        applied.requestHeaderSet applied.requestHeaderAdd name
      let responded := specifiedValues headers applied.responseHeaderRemove
        applied.responseHeaderSet applied.responseHeaderAdd name
      (buildUpstreamRequest http original none applied).headers.values (lowercaseName name) =
          requested ∧
        (applyResponseFilters http response applied).headers.values (lowercaseName name) =
          responded ∧
        pairValues (applyRequestHeaders headers applied) name = requested ∧
        pairValues (applyResponseHeaders headers applied) name = responded) ↔
      SetsSingle headers applied.requestHeaderRemove applied.requestHeaderSet ∧
        SetsSingle headers applied.responseHeaderRemove applied.responseHeaderSet := by
  rw [← setsSingle_iff headers _ _ applied.requestHeaderAdd,
    ← setsSingle_iff headers _ _ applied.responseHeaderAdd, ← forall_and]
  refine forall_congr' fun name => ?_
  have hupstream : (buildUpstreamRequest http original none applied).headers.values
      (lowercaseName name) =
      specifiedValues headers applied.requestHeaderRemove applied.requestHeaderSet
        applied.requestHeaderAdd name := by
    rw [headers_buildUpstreamRequest h.rewrite, hrequest]
    exact values_modifyHeaders_headerMap h.request headers name
  have hreturned : (applyResponseFilters http response applied).headers.values
      (lowercaseName name) =
      specifiedValues headers applied.responseHeaderRemove applied.responseHeaderSet
        applied.responseHeaderAdd name := by
    show (modifyHeaders http response.headers _ _ _).values _ = _
    rw [hresponse]
    exact values_modifyHeaders_headerMap h.response headers name
  constructor
  · intro hall
    exact hall.2.2
  · intro hlists
    exact ⟨hupstream, hreturned, hlists⟩

/-! ## A header that is there twice -/

/-- A crate that takes every name. -/
def namingHttp : HttpCrate := { plainHttp with parseHeaderName := fun n => some (lowercaseName n) }

/-- `x-tag` is there twice. -/
def taggedHeaders : List (String × String) := [("x-tag", "1"), ("X-Tag", "2")]

def taggedRequest : Request := ⟨"GET", "/", headerMap taggedHeaders, .none⟩

def taggedResponse : Response := ⟨200, headerMap taggedHeaders, .none⟩

/-- Remove what is listed, set `x-tag` in the request, add to it in both. -/
def tagging (remove : List String) : AppliedFilter where
  requestHeaderRemove := remove
  requestHeaderSet := [⟨"x-tag", "3"⟩]
  requestHeaderAdd := [⟨"X-TAG", "4"⟩]
  responseHeaderAdd := [⟨"X-TAG", "4"⟩]

theorem onlyModified_tagging (remove : List String) : OnlyModified namingHttp (tagging remove) where
  rewrite := rfl
  request := ⟨fun _ _ => rfl, fun _ _ => rfl, by
    intro hv hhv
    rcases List.mem_pair.mp hhv with rfl | rfl <;> decide⟩
  response := ⟨nofun, fun _ _ => rfl, by
    intro hv hhv
    rw [List.mem_singleton.mp hhv]
    decide⟩

/-- Removed first, a header is set once by all of them. -/
theorem oneMultimap_removed :
    pairValues (applyRequestHeaders taggedHeaders (tagging ["X-TAG"])) "x-tag" =
      (buildUpstreamRequest namingHttp taggedRequest none (tagging ["X-TAG"])).headers.values
        (lowercaseName "x-tag") := by
  have h := (oneMultimap_iff (onlyModified_tagging ["X-TAG"]) taggedHeaders taggedRequest rfl
    taggedResponse rfl).mpr ⟨fun hv hhv => .inl ?_, nofun⟩ "x-tag"
  · exact h.2.2.1.trans h.1.symm
  · rw [List.mem_singleton.mp hhv]
    exact ⟨"X-TAG", List.mem_singleton_self _, by decide⟩

/-- Set without being removed, a header that was there twice is there twice in
the list and once in the map. -/
theorem set_twice_in_list :
    ¬ ∀ (http : HttpCrate) (applied : AppliedFilter), OnlyModified http applied →
      ∀ (headers : List (String × String)) (original : Request),
        original.headers = headerMap headers → ∀ name,
        pairValues (applyRequestHeaders headers applied) name =
          (buildUpstreamRequest http original none applied).headers.values (lowercaseName name) := by
  intro hall
  have h := hall namingHttp (tagging []) (onlyModified_tagging []) taggedHeaders taggedRequest rfl
    "x-tag"
  exact absurd h (by decide)

end Multiway.ProxyCore
