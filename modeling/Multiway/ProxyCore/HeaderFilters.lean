import Multiway.ProxyCore.Panics

/-!
# What a rule's filters do to a request

`collect_filters` and `recompute_rewrite` fold a rule's filters, and
`build_upstream_request` folds the result into the request. Both are put in
closed form: the modifiers of a rule are its header modifiers one after the
other, the rewrite is its last (`forwardRequest_eq`), and the values a header
ends up with are `upstreamValues`.
-/

namespace Multiway.ProxyCore

/-! ## The filters of a rule -/

def Filter.requestAdds : Filter → List HeaderValue
  | .requestHeaderModifier add _ _ => add
  | _ => []

def Filter.requestSets : Filter → List HeaderValue
  | .requestHeaderModifier _ set _ => set
  | _ => []

def Filter.requestRemoves : Filter → List String
  | .requestHeaderModifier _ _ remove => remove
  | _ => []

/-- The rewrite of a `URLRewrite` filter, if it rewrites no prefix. -/
def Filter.rewrite : Filter → Option RewriteResult
  | .urlRewrite hostname (some (.replaceFullPath value)) => some ⟨hostname, some value⟩
  | .urlRewrite hostname none => some ⟨hostname, none⟩
  | _ => none

def lastRewrite (filters : List Filter) : Option RewriteResult :=
  (filters.filterMap Filter.rewrite).getLast?

theorem lastRewrite_cons (filter : Filter) (filters : List Filter) :
    lastRewrite (filter :: filters) = (lastRewrite filters).or filter.rewrite := by
  unfold lastRewrite
  cases hfilter : filter.rewrite with
  | none => rw [List.filterMap_cons_none hfilter, Option.or_none]
  | some result =>
    rw [List.filterMap_cons_some hfilter, List.getLast?_cons]
    cases (filters.filterMap Filter.rewrite).getLast? with
    | none => rfl
    | some last => rfl

/-- What filters make of the effects collected before them. -/
structure CollectsTo (filters : List Filter) (before after : AppliedFilter) : Prop where
  add : after.requestHeaderAdd = before.requestHeaderAdd ++ filters.flatMap Filter.requestAdds
  set : after.requestHeaderSet = before.requestHeaderSet ++ filters.flatMap Filter.requestSets
  remove : after.requestHeaderRemove =
    before.requestHeaderRemove ++ filters.flatMap Filter.requestRemoves
  rewrite : after.rewrite = (lastRewrite filters).or before.rewrite

/-- One turn of the loop. -/
theorem collectFilter_eq {filter : Filter} (h : filter.replacesPrefix = false)
    (before : AppliedFilter) :
    ∃ after, collectFilter before filter = some after ∧
      after.requestHeaderAdd = before.requestHeaderAdd ++ filter.requestAdds ∧
      after.requestHeaderSet = before.requestHeaderSet ++ filter.requestSets ∧
      after.requestHeaderRemove = before.requestHeaderRemove ++ filter.requestRemoves ∧
      after.rewrite = filter.rewrite.or before.rewrite := by
  have hnil : ∀ {α : Type} (l : List α), l = l ++ [] := fun l => (List.append_nil l).symm
  cases filter with
  | requestHeaderModifier add set remove => exact ⟨_, rfl, rfl, rfl, rfl, rfl⟩
  | responseHeaderModifier add set remove => exact ⟨_, rfl, hnil _, hnil _, hnil _, rfl⟩
  | requestMirror backend percent => exact ⟨_, rfl, hnil _, hnil _, hnil _, rfl⟩
  | requestRedirect scheme hostname port path statusCode =>
    exact ⟨_, rfl, hnil _, hnil _, hnil _, rfl⟩
  | urlRewrite hostname path =>
    rcases path with _ | value | value
    · exact ⟨_, rfl, hnil _, hnil _, hnil _, rfl⟩
    · exact ⟨_, rfl, hnil _, hnil _, hnil _, rfl⟩
    · cases h

theorem collectFilters_eq {filters : List Filter}
    (h : ∀ filter ∈ filters, filter.replacesPrefix = false) (before : AppliedFilter) :
    ∃ after, filters.foldlM collectFilter before = some after ∧
      CollectsTo filters before after := by
  induction filters generalizing before with
  | nil => exact ⟨before, rfl, by simp, by simp, by simp, rfl⟩
  | cons filter filters ih =>
    obtain ⟨hfilter, hfilters⟩ := List.forall_mem_cons.mp h
    obtain ⟨mid, hmid, hadd, hset, hremove, hrewrite⟩ := collectFilter_eq hfilter before
    obtain ⟨after, hafter, hrest⟩ := ih hfilters mid
    refine ⟨after, ?_, ?_, ?_, ?_, ?_⟩
    · rw [List.foldlM_cons, hmid]
      exact hafter
    · rw [hrest.add, hadd, List.flatMap_cons, List.append_assoc]
    · rw [hrest.set, hset, List.flatMap_cons, List.append_assoc]
    · rw [hrest.remove, hremove, List.flatMap_cons, List.append_assoc]
    · rw [hrest.rewrite, hrewrite, lastRewrite_cons, Option.or_assoc]

/-- Computing the rewrites again changes nothing but the rewrite. -/
theorem recomputeRewrite_eq {filters : List Filter}
    (h : ∀ filter ∈ filters, filter.replacesPrefix = false) (path : String)
    (before : AppliedFilter) :
    recomputeRewrite filters path before =
      some { before with rewrite := (lastRewrite filters).or before.rewrite } := by
  induction filters generalizing before with
  | nil => rfl
  | cons filter filters ih =>
    obtain ⟨hfilter, hfilters⟩ := List.forall_mem_cons.mp h
    have hstep : recomputeRewrite (filter :: filters) path before =
        recomputeRewrite filters path
          { before with rewrite := filter.rewrite.or before.rewrite } := by
      cases filter with
      | urlRewrite hostname modifier =>
        rcases modifier with _ | value | value
        · rfl
        · rfl
        · cases hfilter
      | _ => rfl
    rw [hstep, ih hfilters, lastRewrite_cons, Option.or_assoc]

/-- What the forwarder is given for a rule, in closed form. -/
theorem forwardRequest_eq {filters : List Filter}
    (h : ∀ filter ∈ filters, filter.replacesPrefix = false) (routingMeta : RequestMeta)
    (request : Request) (backends : List Backend) (timeout : Option TimeoutConfig) :
    ∃ applied, RouteAndFilter.forwardRequest routingMeta request backends filters timeout =
        some { request, host := routingMeta.host, backends, appliedFilter := applied } ∧
      CollectsTo filters {} applied := by
  obtain ⟨collected, hcollected, hto⟩ := collectFilters_eq h {}
  refine ⟨{ collected with rewrite := (lastRewrite filters).or collected.rewrite, timeout }, ?_,
    hto.add, hto.set, hto.remove, ?_⟩
  · rw [RouteAndFilter.forwardRequest, collectFilters, hcollected, Option.bind_some,
      recomputeRewrite_eq h]
    rfl
  · rw [hto.rewrite]
    cases lastRewrite filters with
    | none => rfl
    | some result => rfl

/-! ## The headers of the upstream request -/

section
variable (http : HttpCrate)

/-- The value of a modification for `name`, if the crate accepts it. -/
def acceptedValue (name : String) (hv : HeaderValue) : Option String :=
  match http.parseHeaderName hv.name, http.parseHeaderValue hv.value with
  | some n, some v => if n = name then some v else none
  | _, _ => none

def acceptedValues (modifications : List HeaderValue) (name : String) : List String :=
  modifications.filterMap (acceptedValue http name)

/-- Whether one of the names is `name` to the crate. -/
def namesHeader (names : List String) (name : String) : Bool :=
  names.any fun n => http.parseHeaderName n == some name

variable {http}

theorem values_modifyHeader_insert (headers : HeaderMap) (hv : HeaderValue) (name : String) :
    (modifyHeader http HeaderMap.insert headers hv).values name =
      ((acceptedValue http name hv).map fun value => [value]).getD (headers.values name) := by
  unfold modifyHeader acceptedValue
  cases http.parseHeaderName hv.name with
  | none => rfl
  | some n =>
    cases http.parseHeaderValue hv.value with
    | none => rfl
    | some v =>
      dsimp only
      rw [HeaderMap.values_insert]
      by_cases hname : n = name
      · simp [hname]
      · simp [hname, Ne.symm hname]

theorem values_modifyHeader_append (headers : HeaderMap) (hv : HeaderValue) (name : String) :
    (modifyHeader http HeaderMap.append headers hv).values name =
      headers.values name ++ (acceptedValue http name hv).toList := by
  unfold modifyHeader acceptedValue
  cases http.parseHeaderName hv.name with
  | none => simp
  | some n =>
    cases http.parseHeaderValue hv.value with
    | none => simp
    | some v =>
      dsimp only
      rw [HeaderMap.append, HeaderMap.values_append, HeaderMap.values_cons]
      by_cases hname : n = name
      · simp [hname]
      · simp [hname]

theorem values_removed (names : List String) (headers : HeaderMap) (name : String) :
    (modifyHeaders http headers names [] []).values name =
      if namesHeader http names name then [] else headers.values name := by
  induction names generalizing headers with
  | nil => rfl
  | cons n names ih =>
    have hcons : modifyHeaders http headers (n :: names) [] [] =
        modifyHeaders http ((http.parseHeaderName n).elim headers headers.remove) names [] [] := by
      unfold modifyHeaders
      rw [List.foldl_cons]
      cases http.parseHeaderName n with
      | none => rfl
      | some n' => rfl
    rw [hcons, ih, namesHeader, namesHeader, List.any_cons]
    cases hn : http.parseHeaderName n with
    | none => simp
    | some n' =>
      rw [Option.elim_some, HeaderMap.values_remove]
      by_cases hname : name = n'
      · simp [hname]
      · have hne : (some n' == some name) = false := by simpa using fun h => hname h.symm
        rw [if_neg hname, hne, Bool.false_or]

/-- Of the values set for a name the last one stays. -/
theorem values_foldl_set (set : List HeaderValue) (headers : HeaderMap) (name : String) :
    (set.foldl (modifyHeader http HeaderMap.insert) headers).values name =
      ((acceptedValues http set name).getLast?.map fun value => [value]).getD
        (headers.values name) := by
  induction set generalizing headers with
  | nil => rfl
  | cons hv set ih =>
    rw [List.foldl_cons, ih, values_modifyHeader_insert, acceptedValues, acceptedValues]
    cases hv' : acceptedValue http name hv with
    | none => rw [List.filterMap_cons_none hv', Option.map_none, Option.getD_none]
    | some value =>
      rw [List.filterMap_cons_some hv', List.getLast?_cons]
      cases (set.filterMap (acceptedValue http name)).getLast? with
      | none => rfl
      | some last => rfl

theorem values_foldl_add (add : List HeaderValue) (headers : HeaderMap) (name : String) :
    (add.foldl (modifyHeader http HeaderMap.append) headers).values name =
      headers.values name ++ acceptedValues http add name := by
  induction add generalizing headers with
  | nil => simp [acceptedValues]
  | cons hv add ih =>
    rw [List.foldl_cons, ih, values_modifyHeader_append, List.append_assoc, acceptedValues,
      acceptedValues]
    cases hv' : acceptedValue http name hv with
    | none => rw [List.filterMap_cons_none hv', Option.toList_none, List.nil_append]
    | some value => rw [List.filterMap_cons_some hv', Option.toList_some, List.singleton_append]

/-- Removed, then set, then added to. -/
theorem values_modifyHeaders (headers : HeaderMap) (remove : List String)
    (set add : List HeaderValue) (name : String) :
    (modifyHeaders http headers remove set add).values name =
      ((acceptedValues http set name).getLast?.map fun value => [value]).getD
          (if namesHeader http remove name then [] else headers.values name) ++
        acceptedValues http add name := by
  have hparts : modifyHeaders http headers remove set add =
      add.foldl (modifyHeader http HeaderMap.append)
        (set.foldl (modifyHeader http HeaderMap.insert)
          (modifyHeaders http headers remove [] [])) := rfl
  rw [hparts, values_foldl_add, values_foldl_set, values_removed]

theorem values_insertHost (headers : HeaderMap) (host : Option String) (name : String) :
    (insertHost http headers host).values name =
      if name = "host" then
        ((host.bind http.parseHeaderValue).map fun value => [value]).getD (headers.values name)
      else headers.values name := by
  unfold insertHost
  cases host.bind http.parseHeaderValue with
  | none => simp
  | some value =>
    rw [HeaderMap.values_insert]
    rfl

variable (http)

def addedValues (filters : List Filter) (name : String) : List String :=
  acceptedValues http (filters.flatMap Filter.requestAdds) name

def removesHeader (filters : List Filter) (name : String) : Bool :=
  namesHeader http (filters.flatMap Filter.requestRemoves) name

/-- The Host header of the last rewrite. -/
def rewrittenHost (filters : List Filter) : Option String :=
  ((lastRewrite filters).bind RewriteResult.hostname).bind http.parseHeaderValue

/-- The value a rule puts in the place of a header's own: the last one that is
set, or a rewritten host that is not removed again. -/
def givenValue (filters : List Filter) (name : String) : Option String :=
  (acceptedValues http (filters.flatMap Filter.requestSets) name).getLast?.or
    (if name = "host" ∧ removesHeader http filters name = false then rewrittenHost http filters
      else none)

/-- The values of a header behind its rewrite and its modifiers. -/
def modifiedValues (filters : List Filter) (headers : HeaderMap) (name : String) : List String :=
  match givenValue http filters name with
  | some value => value :: addedValues http filters name
  | none =>
    if removesHeader http filters name then addedValues http filters name
    else headers.values name ++ addedValues http filters name

/-- The values a rule sends a header upstream with; `host` stands in for a Host
header that is not there. -/
def upstreamValues (filters : List Filter) (host : Option String) (headers : HeaderMap)
    (name : String) : List String :=
  if name = "host" ∧ modifiedValues http filters headers name = [] then
    (host.bind http.parseHeaderValue).toList
  else modifiedValues http filters headers name

variable {http}

/-- The headers behind the rewrite and the modifiers of a rule. -/
theorem CollectsTo.values_modified {filters : List Filter} {applied : AppliedFilter}
    (h : CollectsTo filters {} applied) (headers : HeaderMap) (name : String) :
    (modifyHeaders http
        (insertHost http headers (applied.rewrite.bind RewriteResult.hostname))
        applied.requestHeaderRemove applied.requestHeaderSet
        applied.requestHeaderAdd).values name =
      modifiedValues http filters headers name := by
  have hadd : applied.requestHeaderAdd = filters.flatMap Filter.requestAdds := h.add
  have hset : applied.requestHeaderSet = filters.flatMap Filter.requestSets := h.set
  have hremove : applied.requestHeaderRemove = filters.flatMap Filter.requestRemoves := h.remove
  have hrewrite : applied.rewrite = lastRewrite filters := by rw [h.rewrite, Option.or_none]
  have hremoves : namesHeader http (filters.flatMap Filter.requestRemoves) name =
      removesHeader http filters name := rfl
  have hadds : acceptedValues http (filters.flatMap Filter.requestAdds) name =
      addedValues http filters name := rfl
  have hhost : ((lastRewrite filters).bind RewriteResult.hostname).bind http.parseHeaderValue =
      rewrittenHost http filters := rfl
  rw [values_modifyHeaders, values_insertHost, hadd, hset, hremove, hrewrite, hremoves, hadds,
    hhost, modifiedValues, givenValue]
  cases (acceptedValues http (filters.flatMap Filter.requestSets) name).getLast? with
  | some value => rfl
  | none =>
    cases removesHeader http filters name with
    | true => simp
    | false =>
      by_cases hname : name = "host"
      · cases hrewritten : rewrittenHost http filters <;> simp [hname]
      · simp [hname]

/-- **The headers of the upstream request.** -/
theorem CollectsTo.values_buildUpstreamRequest {filters : List Filter} {applied : AppliedFilter}
    (h : CollectsTo filters {} applied) (original : Request) (host : Option String)
    (name : String) :
    (buildUpstreamRequest http original host applied).headers.values name =
      upstreamValues http filters host original.headers name := by
  have hmodified : ∀ name, (modifyHeaders http
      (insertHost http original.headers (applied.rewrite.bind RewriteResult.hostname))
      applied.requestHeaderRemove applied.requestHeaderSet applied.requestHeaderAdd).values name =
      modifiedValues http filters original.headers name := h.values_modified original.headers
  unfold buildUpstreamRequest
  dsimp only
  rw [HeaderMap.containsKey_eq, hmodified, upstreamValues]
  by_cases hhost : modifiedValues http filters original.headers "host" = []
  · rw [hhost, List.isEmpty_nil, Bool.not_true, if_neg Bool.false_ne_true, values_insertHost,
      hmodified]
    by_cases hname : name = "host"
    · rw [if_pos hname, if_pos ⟨hname, hname ▸ hhost⟩, hname, hhost]
      cases host.bind http.parseHeaderValue with
      | none => rfl
      | some value => rfl
    · rw [if_neg hname, if_neg fun h => hname h.1]
  · rw [List.isEmpty_eq_false_iff.mpr hhost, Bool.not_false, if_pos rfl, hmodified, if_neg]
    rintro ⟨rfl, hnil⟩
    exact hhost hnil

end

end Multiway.ProxyCore
