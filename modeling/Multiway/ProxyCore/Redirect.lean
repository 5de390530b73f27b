import Multiway.ProxyCore.Panics

/-!
# The two redirect builders (`filter.rs`, `routing.rs`)

A `RequestRedirect` filter is turned into a location by `build_redirect_location`,
which `route` calls, and by `compute_redirect`, which `collect_filters` points
to. They write the port, the path and the query differently. Both locations
begin with the same scheme and host; what is left to compare are two texts of
the form `shown ++ path` and `hidden ++ path ++ more`, and `redirectsAlike` says
when they are the same: a port that only one of them writes is never made up
for by the rest (`eq_nil_of_append_comm`).
-/

namespace Multiway.ProxyCore

open Multiway.Lib.Text

/-! ## `compute_redirect` -/

/-- Split a URI into path and query, the query without its `?`. -/
def splitUri (uri : String) : String × String :=
  (String.ofList (uri.toList.takeWhile (· != '?')),
    String.ofList (uri.toList.dropWhile (· != '?')).tail)

/-- 80 for http, 443 for https. -/
def isStandardPort (scheme : String) (port : UInt16) : Bool :=
  (scheme == "http" && port == 80) || (scheme == "https" && port == 443)

/-- The path of the location, where slicing off the matched prefix may panic. -/
def effectivePath (path : Option PathModifier) (originalPath : String)
    (matchedPathPrefix : Option String) : Option String :=
  match path with
  | some (.replaceFullPath value) => some value
  | some (.replacePrefixMatch value) =>
    replacePrefix originalPath (matchedPathPrefix.getD "/") value
  | none => some originalPath

def portStr (scheme : String) : Option UInt16 → String
  | some p => if isStandardPort scheme p then "" else ":" ++ toString p.toNat
  | none => ""

def queryStr (query : String) : String := if query.isEmpty then "" else "?" ++ query

/-- Compute a redirect from a `RequestRedirect` filter; any other filter is a
panic. -/
def computeRedirect (filter : Filter) (originalUri originalHost : String)
    (matchedPathPrefix : Option String) : Option RedirectResponse :=
  match filter with
  | .requestRedirect scheme hostname port path statusCode =>
    let (originalPath, query) := splitUri originalUri
    (effectivePath path originalPath matchedPathPrefix).map fun path =>
      { statusCode := statusCode.getD 302
        location :=
          scheme.getD "http" ++ "://" ++ hostname.getD originalHost ++
            portStr (scheme.getD "http") port ++ path ++ queryStr query }
  | _ => none

/-- The URI a path and a query are the parts of. -/
def requestUri (path : String) (query : Option String) : String :=
  path ++ query.elim "" ("?" ++ ·)

/-- The path of a URI has no `?`, so the URI is split where it was put together. -/
theorem splitUri_requestUri {path : String} (h : '?' ∉ path.toList) (query : Option String) :
    splitUri (requestUri path query) = (path, query.getD "") := by
  have hpath : ∀ c ∈ path.toList, (c != '?') = true := by
    intro c hc
    rw [bne_iff_ne]
    rintro rfl
    exact h hc
  have hdrop : path.toList.dropWhile (· != '?') = [] := List.dropWhile_eq_nil_iff.mpr hpath
  have htake : path.toList.takeWhile (· != '?') = path.toList :=
    List.takeWhile_eq_self_iff.mpr hpath
  cases query with
  | none => simp [splitUri, requestUri, hdrop, htake]
  | some q =>
    have huri : (requestUri path (some q)).toList = path.toList ++ '?' :: q.toList := by
      simp [requestUri]
    rw [splitUri, huri, List.takeWhile_append_of_pos hpath, List.dropWhile_append_of_pos hpath]
    simp

/-! ## Joining a replacement with nothing -/

/-- What is put behind the replacement. -/
def joined (replacement remainder : List Char) : List Char :=
  if replacement.getLast? = some '/' then
    if remainder.head? = some '/' then remainder.tail else remainder
  else if remainder = [] ∨ remainder.head? = some '/' then remainder
  else '/' :: remainder

theorem joinPath_eq (replacement remainder : List Char) :
    joinPath replacement remainder = replacement ++ joined replacement remainder := by
  unfold joinPath joined
  split
  · rfl
  · split <;> rfl

theorem joined_eq_nil_iff (replacement remainder : List Char) :
    joined replacement remainder = [] ↔
      remainder = [] ∨ remainder = ['/'] ∧ replacement.getLast? = some '/' := by
  unfold joined
  rcases remainder with _ | ⟨c, rest⟩
  · simp
  · by_cases hlast : replacement.getLast? = some '/'
    · by_cases hc : c = '/' <;> simp [hlast, hc]
    · by_cases hc : c = '/' <;> simp [hlast, hc]

/-- A slash stands where the two meet. -/
theorem slash_mem_of_joined {replacement remainder : List Char}
    (h : joined replacement remainder ≠ []) :
    '/' ∈ replacement ++ joined replacement remainder := by
  by_cases hlast : replacement.getLast? = some '/'
  · exact List.mem_append_left _ (List.mem_of_getLast? hlast)
  · refine List.mem_append_right _ ?_
    unfold joined at h ⊢
    rw [if_neg hlast] at h ⊢
    rcases remainder with _ | ⟨c, rest⟩
    · exact absurd (if_pos (.inl rfl)) h
    · by_cases hc : c = '/'
      · simp [hc]
      · simp [hc]

/-! ## Comparing the locations -/

/-- A text cannot be moved from the front to the back past a character it does
not have. -/
theorem eq_nil_of_append_comm {u v w : List Char} {c : Char} (h : u ++ v = v ++ w) (hu : c ∉ u)
    (hc : c ∈ v ++ w) : u = [] := by
  have hv : c ∈ v := (List.mem_append.mp (h ▸ hc : c ∈ u ++ v)).resolve_left hu
  have hidx : List.idxOf c (u ++ v) = List.idxOf c (v ++ w) := by rw [h]
  rw [List.idxOf_append_of_notMem hu, List.idxOf_append_of_mem hv] at hidx
  exact List.length_eq_zero_iff.mp (by omega)

theorem standardPort_eq {scheme : String} {port : UInt16} (h : isStandardPort scheme port = true) :
    port = 80 ∨ port = 443 := by
  unfold isStandardPort at h
  simp only [Bool.or_eq_true, Bool.and_eq_true, beq_iff_eq] at h
  exact h.imp And.right And.right

/-- A written port is no path and no query. -/
theorem notMem_of_standardPort {scheme : String} {port : UInt16}
    (h : isStandardPort scheme port = true) :
    (":" ++ toString port.toNat).toList ≠ [] ∧ '/' ∉ (":" ++ toString port.toNat).toList ∧
      '?' ∉ (":" ++ toString port.toNat).toList := by
  have hport : (":" ++ toString port.toNat).toList = [':', '8', '0'] ∨
      (":" ++ toString port.toNat).toList = [':', '4', '4', '3'] := by
    rcases standardPort_eq h with rfl | rfl
    · exact .inl rfl
    · exact .inr rfl
  rcases hport with h | h <;> rw [h] <;> decide

theorem queryStr_eq_nil_iff (query : String) : (queryStr query).toList = [] ↔ query = "" := by
  unfold queryStr
  by_cases h : query = ""
  · simp [h]
  · simp [h, String.isEmpty_iff]

/-- What is left of the two locations once scheme and host are gone, `more`
standing behind the path in the second one. -/
theorem rest_eq_iff (scheme : String) (port : Option UInt16) (path more : List Char)
    (query : String) (hmore : more ≠ [] → '/' ∈ path ++ more) :
    (port.elim "" fun p => ":" ++ toString p.toNat).toList ++ path =
        (portStr scheme port).toList ++ (path ++ more) ++ (queryStr query).toList ↔
      (∀ p, port = some p → isStandardPort scheme p = false) ∧ more = [] ∧ query = "" := by
  -- a port that is written by both or by neither
  have hsame : (port.elim "" fun p => ":" ++ toString p.toNat) = portStr scheme port →
      ((port.elim "" fun p => ":" ++ toString p.toNat).toList ++ path =
        (portStr scheme port).toList ++ (path ++ more) ++ (queryStr query).toList ↔
      more = [] ∧ query = "") := by
    intro heq
    rw [heq, List.append_assoc, List.append_cancel_left_eq, List.append_assoc,
      List.self_eq_append_right, List.append_eq_nil_iff, queryStr_eq_nil_iff]
  cases port with
  | none => simpa using hsame rfl
  | some p =>
    cases hstandard : isStandardPort scheme p with
    | false => simpa [hstandard] using hsame (by simp [portStr, hstandard])
    | true =>
      refine iff_of_false ?_ fun h => absurd (h.1 p rfl) (by simp [hstandard])
      obtain ⟨hne, hslash, hmark⟩ := notMem_of_standardPort hstandard
      intro h
      have hhidden : portStr scheme (some p) = "" := by simp [portStr, hstandard]
      rw [hhidden, Option.elim_some, String.toList_empty, List.nil_append, List.append_assoc] at h
      by_cases hquery : query = ""
      · have hq := (queryStr_eq_nil_iff query).mpr hquery
        rw [hq, List.append_nil] at h
        by_cases hnil : more = []
        · rw [hnil, List.append_nil, List.append_left_eq_self] at h
          exact hne h
        · -- the port would have to move behind the slash
          exact hne (eq_nil_of_append_comm h hslash (hmore hnil))
      · -- the port would have to move behind the question mark
        refine hne (eq_nil_of_append_comm h hmark ?_)
        simp [queryStr, String.isEmpty_iff, hquery]

/-! ## When the builders agree -/

/-- Taking the prefix off the path leaves nothing to put behind the
replacement: nothing at all, or one slash where the replacement ends in one. -/
def LeavesNothing (path pfx replacement : String) : Prop :=
  ∃ remainder, sliceFrom pfx.utf8ByteSize path.toList = some remainder ∧
    (remainder = [] ∨ remainder = ['/'] ∧ replacement.toList.getLast? = some '/')

/-- No query, no port that goes without saying, and a prefix replacement that
replaces the whole path. -/
structure RedirectsAlike (filter : Filter) (path : String) (query : Option String)
    (pfx : String) : Prop where
  query : query = none ∨ query = some ""
  port : ∀ scheme hostname port modifier statusCode,
    filter = .requestRedirect scheme hostname (some port) modifier statusCode →
      isStandardPort (scheme.getD "http") port = false
  path : ∀ scheme hostname port value statusCode,
    filter = .requestRedirect scheme hostname port (some (.replacePrefixMatch value)) statusCode →
      LeavesNothing path pfx value

/-- What `compute_redirect` has behind the path of `build_redirect_location`. -/
def surplus (modifier : Option PathModifier) (path pfx : String) : Option (List Char) :=
  match modifier with
  | some (.replacePrefixMatch value) =>
    (sliceFrom pfx.utf8ByteSize path.toList).map (joined value.toList)
  | _ => some []

theorem effectivePath_eq (modifier : Option PathModifier) (path pfx : String) :
    effectivePath modifier path (some pfx) =
      (surplus modifier path pfx).map fun more =>
        String.ofList (((modifier.map PathModifier.value).getD path).toList ++ more) := by
  rcases modifier with _ | value | value
  · simp [effectivePath, surplus]
  · simp [effectivePath, surplus, PathModifier.value]
  · rw [effectivePath, surplus, Option.getD_some]
    cases hslice : sliceFrom pfx.utf8ByteSize path.toList with
    | none => simp [replacePrefix, hslice]
    | some remainder =>
      rw [replacePrefix_of_slice hslice, joinPath_eq]
      rfl

theorem slash_mem_of_surplus {modifier : Option PathModifier} {path pfx : String}
    {more : List Char} (h : surplus modifier path pfx = some more) (hmore : more ≠ []) :
    '/' ∈ ((modifier.map PathModifier.value).getD path).toList ++ more := by
  rcases modifier with _ | value | value
  · exact absurd (Option.some.inj h).symm hmore
  · exact absurd (Option.some.inj h).symm hmore
  · obtain ⟨remainder, -, rfl⟩ := Option.map_eq_some_iff.mp h
    exact slash_mem_of_joined hmore

theorem surplus_eq_nil_iff (modifier : Option PathModifier) (path pfx : String) :
    surplus modifier path pfx = some [] ↔
      ∀ value, modifier = some (.replacePrefixMatch value) → LeavesNothing path pfx value := by
  rcases modifier with _ | value | value
  · simp [surplus]
  · simp [surplus]
  · simp [surplus, LeavesNothing, joined_eq_nil_iff]

theorem getD_eq_empty_iff (query : Option String) :
    query.getD "" = "" ↔ query = none ∨ query = some "" := by
  cases query <;> simp

/-- The two builders on one filter, as texts. -/
theorem computeRedirect_eq_iff {request : RequestMeta} {host : String}
    (hhost : request.host = some host) (hpath : '?' ∉ request.path.toList)
    (query : Option String) (pfx : String) (scheme hostname : Option String)
    (port : Option UInt16) (modifier : Option PathModifier) (statusCode : Option UInt16) :
    computeRedirect (.requestRedirect scheme hostname port modifier statusCode)
        (requestUri request.path query) host (some pfx) =
      some ⟨statusCode.getD 302,
        buildRedirectLocation scheme hostname port modifier request⟩ ↔
      (∀ p, port = some p → isStandardPort (scheme.getD "http") p = false) ∧
        surplus modifier request.path pfx = some [] ∧ query.getD "" = "" := by
  have hhosts : (hostname.or request.host).getD "localhost" = hostname.getD host := by
    rw [hhost]
    cases hostname <;> rfl
  simp only [computeRedirect, splitUri_requestUri hpath, effectivePath_eq, Option.map_map,
    Option.map_eq_some_iff, Function.comp_apply, RedirectResponse.mk.injEq, true_and,
    buildRedirectLocation_eq, hhosts]
  constructor
  · intro hlocation
    obtain ⟨more, hmore, heq⟩ := hlocation
    have hchars := congrArg String.toList heq
    simp only [String.toList_append, String.toList_ofList, List.append_assoc,
      List.append_cancel_left_eq] at hchars
    have hrest := (rest_eq_iff (scheme.getD "http") port
      ((modifier.map PathModifier.value).getD request.path).toList more (query.getD "")
      (slash_mem_of_surplus hmore)).mp (by simp only [List.append_assoc]; exact hchars.symm)
    obtain ⟨hport, rfl, hquery⟩ := hrest
    exact ⟨hport, hmore, hquery⟩
  · intro hcond
    obtain ⟨hport, hmore, hquery⟩ := hcond
    refine ⟨[], hmore, String.toList_injective ?_⟩
    have hrest := (rest_eq_iff (scheme.getD "http") port
      ((modifier.map PathModifier.value).getD request.path).toList [] (query.getD "")
      (absurd rfl)).mpr ⟨hport, rfl, hquery⟩
    simp only [String.toList_append, String.toList_ofList, List.append_assoc,
      List.append_cancel_left_eq]
    simp only [List.append_assoc] at hrest
    exact hrest.symm

/-- `route` redirects, and `compute_redirect` makes the same response of the
full URI. -/
def RedirectsAgree (isMatch : String → String → Bool) (config : ProxyConfig)
    (listenerName : String) (request : RequestMeta) (filter : Filter) (host : String)
    (query : Option String) (pfx : String) : Prop :=
  ∃ response, route isMatch config listenerName request = .redirect response ∧
    computeRedirect filter (requestUri request.path query) host (some pfx) = some response

/-- **The builders agree where there is nothing to disagree about**: no query,
no port that is the scheme's own, and no path left behind the matched prefix
that is to be replaced. -/
theorem redirectsAgree_iff {isMatch : String → String → Bool} {config : ProxyConfig}
    {listenerName : String} {request : RequestMeta} {rule : RouteRule} {pfx : String}
    (hselects : SelectsByPrefix isMatch config listenerName request rule pfx) {filter : Filter}
    (hfilter : rule.filters.find? Filter.isRedirect = some filter) {host : String}
    (hhost : request.host = some host) (hpath : '?' ∉ request.path.toList)
    (query : Option String) :
    RedirectsAgree isMatch config listenerName request filter host query pfx ↔
      RedirectsAlike filter request.path query pfx := by
  obtain ⟨best, hbest, -⟩ := hselects
  obtain ⟨scheme, hostname, port, modifier, statusCode, rfl, hfirst⟩ :=
    firstRedirect_of_find?_some request hfilter
  have hroute : route isMatch config listenerName request =
      .redirect ⟨statusCode.getD 302,
        buildRedirectLocation scheme hostname port modifier request⟩ := by
    rw [hbest.route_eq, buildDecision, hfirst]
  have hagree : RedirectsAgree isMatch config listenerName request
      (.requestRedirect scheme hostname port modifier statusCode) host query pfx ↔
      computeRedirect (.requestRedirect scheme hostname port modifier statusCode)
        (requestUri request.path query) host (some pfx) =
      some ⟨statusCode.getD 302,
        buildRedirectLocation scheme hostname port modifier request⟩ := by
    constructor
    · intro hagree
      obtain ⟨response, hresponse, heq⟩ := hagree
      obtain rfl := RoutingDecision.redirect.inj (hroute.symm.trans hresponse)
      exact heq
    · intro heq
      exact ⟨_, hroute, heq⟩
  rw [hagree, computeRedirect_eq_iff hhost hpath, surplus_eq_nil_iff, getD_eq_empty_iff]
  constructor
  · intro hcond
    obtain ⟨hport, hprefix, hquery⟩ := hcond
    refine ⟨hquery, ?_, ?_⟩
    · rintro _ _ p _ _ ⟨⟩
      exact hport p rfl
    · rintro _ _ _ value _ ⟨⟩
      exact hprefix value rfl
  · intro halike
    obtain ⟨hquery, hport, hprefix⟩ := halike
    refine ⟨?_, ?_, hquery⟩
    · rintro p rfl
      exact hport _ _ p _ _ rfl
    · rintro value rfl
      exact hprefix _ _ _ value _ rfl

/-- A redirect to another host. -/
def hostRedirect : Filter := .requestRedirect none (some "example.com") none none none

theorem hostRedirect_agrees :
    RedirectsAgree (fun _ _ => false) (oldConfig [hostRedirect]) "http"
      { host := some "a.test", path := "/old/a" } hostRedirect "a.test" none "/old" :=
  (redirectsAgree_iff (selectsByPrefix_oldConfig [hostRedirect] (some "a.test")) rfl rfl
    (by decide) none).mpr
    ⟨.inl rfl, by simp [hostRedirect], by simp [hostRedirect]⟩

/-- `/old/a?q=1` is redirected without its query. -/
theorem query_not_redirected :
    ¬ ∀ (isMatch : String → String → Bool) (config : ProxyConfig) (listenerName : String)
        (request : RequestMeta) (rule : RouteRule) (pfx : String) (filter : Filter)
        (host : String) (query : Option String),
      SelectsByPrefix isMatch config listenerName request rule pfx →
      rule.filters.find? Filter.isRedirect = some filter → request.host = some host →
      '?' ∉ request.path.toList →
      RedirectsAgree isMatch config listenerName request filter host query pfx := by
  intro hall
  obtain ⟨response, hroute, hcompute⟩ := hall (fun _ _ => false) (oldConfig [hostRedirect]) "http"
    { host := some "a.test", path := "/old/a" } _ "/old" hostRedirect "a.test" (some "q=1")
    (selectsByPrefix_oldConfig [hostRedirect] (some "a.test")) rfl rfl (by decide)
  have hroutes : route (fun _ _ => false) (oldConfig [hostRedirect]) "http"
      { host := some "a.test", path := "/old/a" } =
      .redirect ⟨302, "http://example.com/old/a"⟩ := by decide
  obtain rfl := RoutingDecision.redirect.inj (hroute.symm.trans hroutes)
  exact absurd hcompute (by decide)

end Multiway.ProxyCore
