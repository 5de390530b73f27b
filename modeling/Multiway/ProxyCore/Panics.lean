import Multiway.Lib.Run
import Multiway.ProxyCore.Pipeline
import Multiway.ProxyCore.RouteSpec
import Multiway.ProxyCore.Wire

/-!
# When the request path panics

Between the routing decision and the exchange with the backend four things may
panic: `replace_prefix` slices a path, `redirect_response` unwraps a response
built from a location, `Duration::from_secs_f64` takes a timeout, and
`select_backend` adds up weights. Each is traced back to the rule the request
is decided by: `RuleSafe` is what all of them need of it, and
`returnsNormally_iff` says that they need nothing else.

A rewrite of the matched prefix is never safe. `collect_filters` computes every
rewrite once with an empty path and no prefix, before `recompute_rewrite`
computes it again, and slicing an empty path after the default prefix `/`
panics. `prefixRewritten_iff` draws the consequence for routes that are matched
by a path prefix.
-/

namespace Multiway.ProxyCore

open Multiway.Lib (F64 foldlM_isSome)
open Multiway.Lib.Text

/-! ## Collecting the filters -/

/-- A rewrite of the matched path prefix. -/
def Filter.replacesPrefix : Filter → Bool
  | .urlRewrite _ (some (.replacePrefixMatch _)) => true
  | _ => false

/-- No path is left to slice: the empty one has nothing after a `/`. -/
theorem computeRewrite_empty (hostname : Option String) (path : Option PathModifier) :
    (computeRewrite hostname path "" none).isSome = true ↔
      (Filter.urlRewrite hostname path).replacesPrefix = false := by
  rcases path with _ | value | value
  · exact iff_of_true rfl rfl
  · exact iff_of_true rfl rfl
  · have hpanic : computeRewrite hostname (some (.replacePrefixMatch value)) "" none = none := by
      rfl
    simp [hpanic, Filter.replacesPrefix]

theorem collectFilter_isSome (applied : AppliedFilter) (filter : Filter) :
    (collectFilter applied filter).isSome = true ↔ filter.replacesPrefix = false := by
  cases filter with
  | urlRewrite hostname path =>
    rw [← computeRewrite_empty]
    simp [collectFilter]
  | _ => exact iff_of_true rfl rfl

/-- **`collect_filters` panics on a rewrite of the matched prefix**, and on
nothing else. -/
theorem collectFilters_isSome (filters : List Filter) :
    (collectFilters filters).isSome = true ↔
      ∀ filter ∈ filters, filter.replacesPrefix = false :=
  foldlM_isSome (fun applied filter _ => collectFilter_isSome applied filter) {}

/-- Computing the rewrites again adds no panic. -/
theorem recomputeRewrite_isSome {filters : List Filter}
    (h : ∀ filter ∈ filters, filter.replacesPrefix = false) (path : String)
    (applied : AppliedFilter) : (recomputeRewrite filters path applied).isSome = true := by
  refine (foldlM_isSome (P := fun _ => True) ?_ applied).mpr fun _ _ => trivial
  intro applied filter hfilter
  refine iff_of_true ?_ trivial
  have hkeeps := h filter hfilter
  cases filter with
  | urlRewrite hostname modifier =>
    rcases modifier with _ | value | value
    · rfl
    · rfl
    · exact absurd hkeeps (by simp [Filter.replacesPrefix])
  | _ => rfl

theorem forwardRequest_isSome (routingMeta : RequestMeta) (request : Request)
    (backends : List Backend) (filters : List Filter) (timeout : Option TimeoutConfig) :
    (RouteAndFilter.forwardRequest routingMeta request backends filters timeout).isSome = true ↔
      ∀ filter ∈ filters, filter.replacesPrefix = false := by
  rw [← collectFilters_isSome, RouteAndFilter.forwardRequest, Option.isSome_map]
  constructor
  · intro h
    obtain ⟨forwarded, hsome⟩ := Option.isSome_iff_exists.mp h
    obtain ⟨applied, happlied, -⟩ := Option.bind_eq_some_iff.mp hsome
    exact happlied ▸ rfl
  · intro h
    obtain ⟨applied, happlied⟩ := Option.isSome_iff_exists.mp h
    have hkeeps := (collectFilters_isSome filters).mp h
    simpa [happlied] using recomputeRewrite_isSome hkeeps routingMeta.path applied

/-! ## Timeouts -/

/-- A timeout the source converts: one above zero has to be a `Duration`. -/
def TimeoutSafe (limit : Option F64) : Prop :=
  ∀ t, limit = some t → t.isPos = true → t.isDuration = true

private theorem converted_isSome (limit : Option F64) :
    (match limit.filter F64.isPos with
      | some t => if t.isDuration then some (some t) else none
      | none => some none).isSome = true ↔ TimeoutSafe limit := by
  unfold TimeoutSafe
  cases limit with
  | none => simp
  | some t =>
    cases hpos : t.isPos with
    | false => simp [Option.filter, hpos]
    | true => cases hdur : t.isDuration <;> simp [Option.filter, hpos, hdur]

theorem requestTimeout_isSome (timeout : Option TimeoutConfig) :
    (RouteAndFilter.requestTimeout timeout).isSome = true ↔
      TimeoutSafe (timeout.bind TimeoutConfig.request) :=
  converted_isSome _

theorem backendTimeout_isSome (applied : AppliedFilter) :
    (UpstreamForwarder.backendTimeout applied).isSome = true ↔
      TimeoutSafe (applied.timeout.bind TimeoutConfig.backendRequest) :=
  converted_isSome _

/-! ## Weights -/

/-- The weights of the backends, added up without a bound. -/
def totalWeight (backends : List Backend) : ℕ := (backends.map fun b => b.weight.toNat).sum

theorem toNat_sum_weight (backends : List Backend) :
    (backends.map Backend.weight).sum.toNat = totalWeight backends % 2 ^ 32 := by
  unfold totalWeight
  induction backends with
  | nil => rfl
  | cons b backends ih =>
    rw [List.map_cons, List.sum_cons, List.map_cons, List.sum_cons, UInt32.toNat_add, ih]
    exact Nat.add_mod_mod _ _ _

theorem totalWeight_eq_zero (backends : List Backend) :
    totalWeight backends = 0 ↔ ∀ b ∈ backends, b.weight = 0 := by
  unfold totalWeight
  simp [List.sum_eq_zero_iff, ← UInt32.toNat_inj]

/-- With weights that add up in 32 bits a backend is selected unless they are
all zero. -/
theorem selectBackend_isSome {backends : List Backend} (randomRange : UInt32 → UInt32)
    (h : totalWeight backends < 2 ^ 32) :
    (selectBackend randomRange backends).isSome = true ↔ ∃ b ∈ backends, b.weight ≠ 0 := by
  have hsum : (backends.map Backend.weight).sum = 0 ↔ totalWeight backends = 0 := by
    rw [← UInt32.toNat_inj, toNat_sum_weight, Nat.mod_eq_of_lt h]
    rfl
  unfold selectBackend
  by_cases hzero : (backends.map Backend.weight).sum = 0
  · have hall := (totalWeight_eq_zero backends).mp (hsum.mp hzero)
    simpa [hzero] using hall
  · have hsome : ∃ b ∈ backends, b.weight ≠ 0 := by
      by_contra hnone
      push Not at hnone
      exact hzero (hsum.mpr ((totalWeight_eq_zero backends).mpr hnone))
    refine iff_of_true ?_ hsome
    obtain ⟨b, hb, hweight⟩ := hsome
    have hfind : (backends.find? fun b => decide (0 < b.weight)).isSome = true := by
      refine List.find?_isSome.mpr ⟨b, hb, ?_⟩
      simpa [UInt32.pos_iff_ne_zero] using hweight
    simp [hzero, hfind]

/-! ## The forwarder -/

/-- The forwarder panics on the backend timeout only, and only once a backend
is selected and resolved. -/
theorem UpstreamForwarder.call_responds {Addr : Type} (env : Env Addr) (req : ForwardRequest)
    (h : (selectBackend env.selectDraw req.backends).isSome = true →
      (UpstreamForwarder.backendTimeout req.appliedFilter).isSome = true) :
    (UpstreamForwarder.call env req).2.isSome = true := by
  unfold UpstreamForwarder.call
  cases hselect : selectBackend env.selectDraw req.backends with
  | none => rfl
  | some backend =>
    obtain ⟨timeout, htimeout⟩ := Option.isSome_iff_exists.mp (h (hselect ▸ rfl))
    dsimp only
    split
    · rw [htimeout]
      dsimp only
      split <;> rfl
    · rfl

/-- An outside on which every name resolves. -/
def Env.reachable (http : HttpCrate) : Env ℕ where
  http
  resolve _ _ := some [0]
  selectDraw _ := 0
  mirrorDraw _ := 0
  expires _ := false
  forward _ _ _ _ := .error .other

theorem UpstreamForwarder.call_panics {http : HttpCrate} {req : ForwardRequest}
    (hselect : (selectBackend (Env.reachable http).selectDraw req.backends).isSome = true)
    (htimeout : UpstreamForwarder.backendTimeout req.appliedFilter = none) :
    (UpstreamForwarder.call (Env.reachable http) req).2 = none := by
  obtain ⟨backend, hbackend⟩ := Option.isSome_iff_exists.mp hselect
  have hresolve : (Env.reachable http).resolve backend.name backend.port = some [0] := rfl
  simp only [UpstreamForwarder.call, hbackend, hresolve, htimeout]

/-! ## Redirects -/

def Filter.isRedirect : Filter → Bool
  | .requestRedirect .. => true
  | _ => false

def PathModifier.value : PathModifier → String
  | .replaceFullPath value => value
  | .replacePrefixMatch value => value

/-- The texts a redirect puts into its location: scheme, host and path. -/
def redirectTexts (request : RequestMeta) : Filter → List String
  | .requestRedirect scheme hostname _ path _ =>
    [scheme.getD "http", (hostname.or request.host).getD "localhost",
      (path.map PathModifier.value).getD request.path]
  | _ => []

/-- What the crate promises of header values: a text is one when each of its
characters may stand in one, and the printable ASCII characters may. -/
structure HttpCrate.HeaderValues (http : HttpCrate) (valid : Char → Bool) : Prop where
  parse : ∀ s, (http.parseHeaderValue s).isSome = s.toList.all valid
  ascii : ∀ c : Char, 32 ≤ c.toNat → c.toNat < 127 → valid c = true

theorem HttpCrate.HeaderValues.all_toString {http : HttpCrate} {valid : Char → Bool}
    (h : http.HeaderValues valid) (n : ℕ) : (toString n).toList.all valid = true := by
  refine List.all_eq_true.mpr fun c hc => ?_
  rw [Nat.toString_eq_repr, Nat.toList_repr] at hc
  have hdigit := Nat.isDigit_of_mem_toDigits (by decide) (by decide) hc
  simp only [Char.isDigit, Bool.and_eq_true, decide_eq_true_eq] at hdigit
  obtain ⟨hlo, hhi⟩ := hdigit
  refine h.ascii c ?_ ?_
  · have hlo' := UInt32.le_iff_toNat_le.mp hlo
    simp at hlo'
    exact le_trans (by decide) hlo'
  · have hhi' := UInt32.le_iff_toNat_le.mp hhi
    simp at hhi'
    exact lt_of_le_of_lt hhi' (by decide)

theorem buildRedirectLocation_eq (scheme hostname : Option String) (port : Option UInt16)
    (path : Option PathModifier) (request : RequestMeta) :
    buildRedirectLocation scheme hostname port path request =
      scheme.getD "http" ++ "://" ++ (hostname.or request.host).getD "localhost" ++
        (port.elim "" fun p => ":" ++ toString p.toNat) ++
          (path.map PathModifier.value).getD request.path := by
  cases port with
  | none => rcases path with _ | value | value <;> simp [buildRedirectLocation, PathModifier.value]
  | some p =>
    rcases path with _ | value | value <;>
      simp [buildRedirectLocation, PathModifier.value, String.append_assoc]

/-- What stands between scheme, host and path is always acceptable. -/
theorem location_isHeaderValue {http : HttpCrate} {valid : Char → Bool}
    (h : http.HeaderValues valid) (request : RequestMeta) (scheme hostname : Option String)
    (port : Option UInt16) (path : Option PathModifier) (statusCode : Option UInt16) :
    (http.parseHeaderValue (buildRedirectLocation scheme hostname port path request)).isSome =
        true ↔
      ∀ text ∈ redirectTexts request (.requestRedirect scheme hostname port path statusCode),
        text.toList.all valid = true := by
  have hsep : ("://".toList).all valid = true := by
    simp [h.ascii ':' (by decide) (by decide), h.ascii '/' (by decide) (by decide)]
  have hport : ((port.elim "" fun p => ":" ++ toString p.toNat).toList).all valid = true := by
    cases port with
    | none => rfl
    | some p =>
      rw [Option.elim_some, String.toList_append, List.all_append, h.all_toString]
      simp [h.ascii ':' (by decide) (by decide)]
  rw [h.parse, buildRedirectLocation_eq]
  simp only [redirectTexts, String.toList_append, List.all_append, hsep, hport, Bool.and_true,
    Bool.and_eq_true, List.forall_mem_cons, List.not_mem_nil, false_implies, implies_true, and_true,
    and_assoc]

/-! ## Safe rules -/

/-- What forwarding by the rule needs. -/
structure ForwardSafe (rule : RouteRule) : Prop where
  rewrites : ∀ filter ∈ rule.filters, filter.replacesPrefix = false
  requestTimeout : TimeoutSafe (rule.timeout.bind TimeoutConfig.request)
  backendTimeout : (∃ b ∈ rule.backends, b.weight ≠ 0) →
    TimeoutSafe (rule.timeout.bind TimeoutConfig.backendRequest)
  weights : totalWeight rule.backends < 2 ^ 32

/-- What deciding a request by the rule needs. -/
structure RuleSafe (valid : Char → Bool) (request : RequestMeta) (rule : RouteRule) : Prop where
  redirect : ∀ filter, rule.filters.find? Filter.isRedirect = some filter →
    ∀ text ∈ redirectTexts request filter, text.toList.all valid = true
  forward : rule.filters.find? Filter.isRedirect = none → ForwardSafe rule

theorem firstRedirect_of_find?_none {request : RequestMeta} {filters : List Filter}
    (h : filters.find? Filter.isRedirect = none) : firstRedirect request filters = none := by
  induction filters with
  | nil => rfl
  | cons filter filters ih =>
    cases filter with
    | requestRedirect => exact absurd h (by simp [Filter.isRedirect])
    | _ => exact ih h

theorem firstRedirect_of_find?_some (request : RequestMeta) {filters : List Filter}
    {filter : Filter} (h : filters.find? Filter.isRedirect = some filter) :
    ∃ scheme hostname port path statusCode,
      filter = .requestRedirect scheme hostname port path statusCode ∧
      firstRedirect request filters = some ⟨statusCode.getD 302,
        buildRedirectLocation scheme hostname port path request⟩ := by
  induction filters with
  | nil => exact absurd h (by simp)
  | cons first filters ih =>
    cases first with
    | requestRedirect scheme hostname port path statusCode =>
      exact ⟨scheme, hostname, port, path, statusCode, (Option.some.inj h).symm, rfl⟩
    | _ => exact ih h

section
variable {isMatch : String → String → Bool} {config : ProxyConfig} {listenerName : String}
  {routingMeta : RequestMeta} {rule : RouteRule}

/-- A redirect goes through when its texts are acceptable. -/
theorem call_redirect {Addr : Type} (env : Env Addr) {valid : Char → Bool}
    (hvalues : env.http.HeaderValues valid)
    (hroute : route isMatch config listenerName routingMeta = buildDecision rule routingMeta)
    {filter : Filter} (hfilter : rule.filters.find? Filter.isRedirect = some filter)
    (request : Request) :
    (RouteAndFilter.call env isMatch config listenerName routingMeta request).1 = [] ∧
      ((RouteAndFilter.call env isMatch config listenerName routingMeta request).2.isSome = true ↔
        ∀ text ∈ redirectTexts routingMeta filter, text.toList.all valid = true) := by
  obtain ⟨scheme, hostname, port, path, statusCode, rfl, hfirst⟩ :=
    firstRedirect_of_find?_some routingMeta hfilter
  rw [← location_isHeaderValue hvalues]
  simp [RouteAndFilter.call, hroute, buildDecision, hfirst, redirectResponse]

theorem route_forward
    (hroute : route isMatch config listenerName routingMeta = buildDecision rule routingMeta)
    (hfilter : rule.filters.find? Filter.isRedirect = none) :
    route isMatch config listenerName routingMeta =
      .forward rule.backends rule.filters rule.timeout := by
  rw [hroute, buildDecision, firstRedirect_of_find?_none hfilter]

theorem forwardRequest_eq_some {request : Request} {backends : List Backend}
    {filters : List Filter} {timeout : Option TimeoutConfig} {req : ForwardRequest}
    (h : RouteAndFilter.forwardRequest routingMeta request backends filters timeout = some req) :
    req.backends = backends ∧ req.appliedFilter.timeout = timeout := by
  obtain ⟨applied, -, rfl⟩ := Option.map_eq_some_iff.mp h
  exact ⟨rfl, rfl⟩

/-- Without a forward request or a request timeout the call panics before the
forwarder is reached. -/
theorem call_isSome_imp {Addr : Type} {env : Env Addr} {request : Request}
    (hroute : route isMatch config listenerName routingMeta =
      .forward rule.backends rule.filters rule.timeout)
    (h : (RouteAndFilter.call env isMatch config listenerName routingMeta request).2.isSome =
      true) :
    ∃ req limit,
      RouteAndFilter.forwardRequest routingMeta request rule.backends rule.filters
        rule.timeout = some req ∧
      RouteAndFilter.requestTimeout rule.timeout = some limit ∧
      (UpstreamForwarder.call env req).2.isSome = true := by
  unfold RouteAndFilter.call at h
  rw [hroute] at h
  dsimp only at h
  split at h
  next req limit hreq hlimit => exact ⟨req, limit, hreq, hlimit, by simpa using h⟩
  next => exact absurd h (by simp)

theorem ForwardSafe.call_responds (h : ForwardSafe rule)
    (hroute : route isMatch config listenerName routingMeta =
      .forward rule.backends rule.filters rule.timeout)
    {Addr : Type} (env : Env Addr) (request : Request) :
    (RouteAndFilter.call env isMatch config listenerName routingMeta request).2.isSome = true := by
  obtain ⟨req, hreq⟩ := Option.isSome_iff_exists.mp
    ((forwardRequest_isSome routingMeta request rule.backends rule.filters rule.timeout).mpr
      h.rewrites)
  obtain ⟨limit, hlimit⟩ :=
    Option.isSome_iff_exists.mp ((requestTimeout_isSome rule.timeout).mpr h.requestTimeout)
  obtain ⟨hbackends, htimeout⟩ := forwardRequest_eq_some hreq
  have hresponds := UpstreamForwarder.call_responds env req fun hselect => by
    rw [hbackends, selectBackend_isSome _ h.weights] at hselect
    rw [backendTimeout_isSome, htimeout]
    exact h.backendTimeout hselect
  unfold RouteAndFilter.call
  rw [hroute]
  simpa only [hreq, hlimit, Option.isSome_map] using hresponds

/-- Where every name resolves, a response shows that forwarding was safe. -/
theorem ForwardSafe.of_call_responds {http : HttpCrate} {request : Request}
    (hroute : route isMatch config listenerName routingMeta =
      .forward rule.backends rule.filters rule.timeout)
    (hweights : totalWeight rule.backends < 2 ^ 32)
    (h : (RouteAndFilter.call (Env.reachable http) isMatch config listenerName routingMeta
      request).2.isSome = true) :
    ForwardSafe rule := by
  obtain ⟨req, limit, hreq, hlimit, hresponds⟩ := call_isSome_imp hroute h
  obtain ⟨hbackends, htimeout⟩ := forwardRequest_eq_some hreq
  refine ⟨(forwardRequest_isSome _ _ _ _ _).mp (Option.isSome_of_eq_some hreq),
    (requestTimeout_isSome _).mp (Option.isSome_of_eq_some hlimit), fun hbackend => ?_, hweights⟩
  have hselect : (selectBackend (Env.reachable http).selectDraw req.backends).isSome = true := by
    rw [hbackends, selectBackend_isSome _ hweights]
    exact hbackend
  rw [← htimeout, ← backendTimeout_isSome]
  by_contra hnone
  rw [UpstreamForwarder.call_panics hselect (Option.not_isSome_iff_eq_none.mp hnone)] at hresponds
  exact absurd hresponds (by simp)

/-! ## Calls that return -/

/-- The call responds whatever the outside answers, and the weights it adds up
stay within 32 bits. -/
structure ReturnsNormally (http : HttpCrate) (isMatch : String → String → Bool)
    (config : ProxyConfig) (listenerName : String) (routingMeta : RequestMeta)
    (request : Request) : Prop where
  responds : ∀ (Addr : Type) (env : Env Addr), env.http = http →
    (RouteAndFilter.call env isMatch config listenerName routingMeta request).2.isSome = true
  weights : ∀ backends filters timeout,
    route isMatch config listenerName routingMeta = .forward backends filters timeout →
      totalWeight backends < 2 ^ 32

/-- Of one rule: deciding by it returns normally exactly when it is safe. -/
theorem returnsNormally_iff_ruleSafe {http : HttpCrate} {valid : Char → Bool}
    (hvalues : http.HeaderValues valid)
    (hroute : route isMatch config listenerName routingMeta = buildDecision rule routingMeta)
    (request : Request) :
    ReturnsNormally http isMatch config listenerName routingMeta request ↔
      RuleSafe valid routingMeta rule := by
  cases hfilter : rule.filters.find? Filter.isRedirect with
  | some filter =>
    constructor
    · intro h
      refine ⟨fun other hother => ?_, fun hnone => absurd hfilter (by simp [hnone])⟩
      obtain rfl := Option.some.inj (hfilter.symm.trans hother)
      exact (call_redirect (Env.reachable http) hvalues hroute hfilter request).2.mp
        (h.responds ℕ _ rfl)
    · intro h
      refine ⟨fun Addr env henv => ?_, fun backends filters timeout hforward => ?_⟩
      · subst henv
        exact (call_redirect env hvalues hroute hfilter request).2.mpr (h.redirect filter hfilter)
      · obtain ⟨_, _, _, _, _, -, hfirst⟩ :=
          firstRedirect_of_find?_some routingMeta hfilter
        rw [hroute, buildDecision, hfirst] at hforward
        exact absurd hforward (by simp)
  | none =>
    have hforward := route_forward hroute hfilter
    constructor
    · intro h
      have hweights := h.weights _ _ _ hforward
      exact ⟨fun filter hsome => absurd hfilter (by simp [hsome]),
        fun _ => .of_call_responds hforward hweights (h.responds ℕ (Env.reachable http) rfl)⟩
    · intro h
      have hsafe := h.forward hfilter
      refine ⟨fun Addr env _ => hsafe.call_responds hforward env request, ?_⟩
      intro backends filters timeout hother
      rw [hforward] at hother
      injection hother with hbackends
      exact hbackends ▸ hsafe.weights

end

/-- **When the request path returns.** A call returns normally exactly when
the rule it is decided by, if there is one, is safe: a redirect whose scheme,
host and path are made of header-value characters, or a forward that replaces
no matched prefix, with timeouts that are durations and weights that add up in
32 bits. -/
theorem returnsNormally_iff {http : HttpCrate} {valid : Char → Bool}
    (hvalues : http.HeaderValues valid) (isMatch : String → String → Bool)
    (config : ProxyConfig) (listenerName : String) (routingMeta : RequestMeta)
    (request : Request) :
    ReturnsNormally http isMatch config listenerName routingMeta request ↔
      ∀ rule best, Selects isMatch config listenerName routingMeta rule best →
        RuleSafe valid routingMeta rule := by
  constructor
  · intro h rule best hselects
    exact (returnsNormally_iff_ruleSafe hvalues hselects.route_eq request).mp h
  · intro h
    by_cases hnot : route isMatch config listenerName routingMeta = .notFound
    · refine ⟨fun Addr env _ => ?_, fun _ _ _ hforward => ?_⟩
      · simp [RouteAndFilter.call, hnot]
      · rw [hnot] at hforward
        exact absurd hforward (by simp)
    · obtain ⟨rule, best, hselects⟩ := exists_selects isMatch hnot
      exact (returnsNormally_iff_ruleSafe hvalues hselects.route_eq request).mpr
        (h rule best hselects)

/-- The crate's header values: no control character but the tab. -/
def headerValueChar (c : Char) : Bool := (32 ≤ c.toNat && c != Char.ofNat 127) || c == '\t'

/-- A crate that normalises nothing. -/
def plainHttp : HttpCrate where
  parseUri := some
  parseHeaderName := some
  parseHeaderValue s := if s.toList.all headerValueChar then some s else none

theorem headerValues_plainHttp : plainHttp.HeaderValues headerValueChar where
  parse s := by
    cases h : s.toList.all headerValueChar with
    | true => simp only [plainHttp, h, if_true, Option.isSome_some]
    | false => simp only [plainHttp, h, Bool.false_eq_true, if_false, Option.isSome_none]
  ascii c hlo hhi := by
    have hne : c ≠ Char.ofNat 127 := by
      rintro rfl
      exact absurd hhi (by decide)
    simp [headerValueChar, hlo, hne]

/-- A listener with one route, which matches the path prefix `/old`. -/
def oldConfig (filters : List Filter) : ProxyConfig where
  routes :=
    [{ name := "web", «namespace» := "gw", attachedListeners := ["http"]
       rules :=
         [{ «matches» := [{ path := some ⟨.pathPrefix, "/old"⟩ }], filters, backends := [svcA] }] }]

def replacingConfig : ProxyConfig :=
  oldConfig [.urlRewrite none (some (.replacePrefixMatch "/new"))]

theorem redirect_returnsNormally :
    ReturnsNormally plainHttp (fun _ _ => false)
      (oldConfig [.requestRedirect none (some "example.com") none none none]) "http"
      { host := none, path := "/old/a" } ⟨"GET", "/old/a", [], .none⟩ := by
  refine (returnsNormally_iff headerValues_plainHttp _ _ _ _ _).mpr fun rule best hselects => ?_
  obtain rfl := List.mem_singleton.mp hselects.mem
  refine ⟨fun filter hfilter => ?_, fun hnone => absurd hnone (by simp [Filter.isRedirect])⟩
  obtain rfl := Option.some.inj hfilter
  decide

/-- A configuration in JSON whose one rule replaces the matched prefix. -/
theorem rewrite_panics :
    ¬ ∀ (http : HttpCrate) (valid : Char → Bool), http.HeaderValues valid →
      ∀ (isMatch : String → String → Bool) (config : ProxyConfig),
        (∃ j, ProxyConfig.fromJson j = some config) →
        ∀ (listenerName : String) (routingMeta : RequestMeta) (request : Request),
          ReturnsNormally http isMatch config listenerName routingMeta request := by
  intro hall
  have h := hall plainHttp headerValueChar headerValues_plainHttp (fun _ _ => false)
    replacingConfig ⟨replacingConfig.toJson, rfl⟩ "http"
    { host := none, path := "/old/a" } ⟨"GET", "/old/a", [], .none⟩
  exact absurd (h.responds ℕ (Env.reachable plainHttp) rfl) (by decide)

/-! ## Rewriting a matched prefix -/

/-- The replacement and what the path has after the matched prefix, with one
slash where they meet. -/
def joinPath (replacement remainder : List Char) : List Char :=
  if replacement.getLast? = some '/' then
    replacement ++ (if remainder.head? = some '/' then remainder.tail else remainder)
  else if remainder = [] ∨ remainder.head? = some '/' then replacement ++ remainder
  else replacement ++ '/' :: remainder

/-- Where the path can be sliced, `replace_prefix` joins with what is left. -/
theorem replacePrefix_of_slice {path pfx : String} {remainder : List Char}
    (h : sliceFrom pfx.utf8ByteSize path.toList = some remainder) (replacement : String) :
    replacePrefix path pfx replacement =
      some (String.ofList (joinPath replacement.toList remainder)) := by
  rw [replacePrefix, h, Option.map_some]
  congr 1
  apply String.toList_injective
  -- how the replacement ends, and how the remainder begins
  by_cases hlast : replacement.toList.getLast? = some '/'
  · rcases remainder with _ | ⟨c, rest⟩
    · simp [joinPath, hlast]
    · by_cases hc : c = '/'
      · subst hc
        simp [joinPath, hlast]
      · simp [joinPath, hlast, hc]
  · have hbeq : (replacement.toList.getLast? == some '/') = false := by simp [hlast]
    rcases remainder with _ | ⟨c, rest⟩
    · simp [joinPath, hlast]
    · by_cases hc : c = '/' <;> simp [joinPath, hbeq, hlast, hc]

/-- The request is decided by a match of the rule on the path prefix. -/
def SelectsByPrefix (isMatch : String → String → Bool) (config : ProxyConfig)
    (listenerName : String) (request : RequestMeta) (rule : RouteRule) (pfx : String) : Prop :=
  ∃ best, Selects isMatch config listenerName request rule best ∧
    ∃ m ∈ rule.matches, m.path = some ⟨.pathPrefix, pfx⟩ ∧ MatchPasses isMatch m request ∧
      matchRank m = best

/-- The call responds, and what it sends to a backend has the replacement in
the place of the prefix. `uriPath` is the crate's `Uri::path`. -/
structure PrefixRewritten {Addr : Type} (env : Env Addr) (uriPath : String → String)
    (isMatch : String → String → Bool) (config : ProxyConfig) (listenerName : String)
    (routingMeta : RequestMeta) (request : Request) (pfx replacement : String) : Prop where
  responds :
    (RouteAndFilter.call env isMatch config listenerName routingMeta request).2.isSome = true
  path : ∀ remainder, routingMeta.path.toList = pfx.toList ++ remainder →
    ∀ addr protocol upstream timeout, .forward addr protocol upstream timeout ∈
        (RouteAndFilter.call env isMatch config listenerName routingMeta request).1 →
      (uriPath upstream.uri).toList = joinPath replacement.toList remainder

/-- **A matched prefix is never rewritten.** Where the rule asks for it, the
call goes through exactly when the rule redirects as well, to a location that
is a header value, and no request is sent to a backend. -/
theorem prefixRewritten_iff {Addr : Type} (env : Env Addr) (uriPath : String → String)
    {valid : Char → Bool} (hvalues : env.http.HeaderValues valid)
    {isMatch : String → String → Bool} {config : ProxyConfig} {listenerName : String}
    {routingMeta : RequestMeta} (request : Request) {rule : RouteRule} {pfx replacement : String}
    {hostname : Option String}
    (hselects : SelectsByPrefix isMatch config listenerName routingMeta rule pfx)
    (hrewrite : .urlRewrite hostname (some (.replacePrefixMatch replacement)) ∈ rule.filters) :
    PrefixRewritten env uriPath isMatch config listenerName routingMeta request pfx
        replacement ↔
      ∃ redirect, rule.filters.find? Filter.isRedirect = some redirect ∧
        ∀ text ∈ redirectTexts routingMeta redirect, text.toList.all valid = true := by
  obtain ⟨best, hbest, -⟩ := hselects
  have hroute := hbest.route_eq
  constructor
  · intro h
    cases hfilter : rule.filters.find? Filter.isRedirect with
    | some redirect =>
      exact ⟨redirect, rfl, (call_redirect env hvalues hroute hfilter request).2.mp h.responds⟩
    | none =>
      obtain ⟨req, -, hreq, -⟩ := call_isSome_imp (route_forward hroute hfilter) h.responds
      have hkeeps := (forwardRequest_isSome _ _ _ _ _).mp (Option.isSome_of_eq_some hreq) _ hrewrite
      exact absurd hkeeps (by simp [Filter.replacesPrefix])
  · rintro ⟨redirect, hfilter, htexts⟩
    obtain ⟨hnothing, hresponds⟩ := call_redirect env hvalues hroute hfilter request
    refine ⟨hresponds.mpr htexts, fun remainder _ addr protocol upstream timeout hforward => ?_⟩
    rw [hnothing] at hforward
    exact absurd hforward List.not_mem_nil

/-- The rule of `oldConfig` is selected for what is under `/old`. -/
theorem selectsByPrefix_oldConfig (filters : List Filter) (host : Option String) :
    SelectsByPrefix (fun _ _ => false) (oldConfig filters) "http"
      { host, path := "/old/a" }
      { «matches» := [{ path := some ⟨.pathPrefix, "/old"⟩ }], filters, backends := [svcA] }
      "/old" := by
  have hpath : prefixPathMatches "/old" "/old/a" = true := by decide
  have hmatches : ruleMatches (fun _ _ => false)
      { «matches» := [{ path := some ⟨.pathPrefix, "/old"⟩ }], filters, backends := [svcA] }
      { host, path := "/old/a" } = some ⟨1, "/old".utf8ByteSize, false, 0, 0⟩ := by
    simp [ruleMatches, singleMatchApplies, pathPrecedence, pathMatches, hpath]
  refine ⟨_, selects_of_alone _ rfl hmatches, { path := some ⟨.pathPrefix, "/old"⟩ }, by simp, rfl,
    ⟨?_, nofun, nofun, nofun⟩, rfl⟩
  rintro pm ⟨⟩
  exact hpath

theorem redirected_prefix_rewritten :
    PrefixRewritten (Env.reachable plainHttp) id (fun _ _ => false)
      (oldConfig [.urlRewrite none (some (.replacePrefixMatch "/new")),
        .requestRedirect none (some "example.com") none none none]) "http"
      { host := none, path := "/old/a" } ⟨"GET", "/old/a", [], .none⟩ "/old" "/new" :=
  (prefixRewritten_iff (Env.reachable plainHttp) id headerValues_plainHttp _
    (selectsByPrefix_oldConfig _ _) List.mem_cons_self).mpr ⟨_, rfl, by decide⟩

/-- `/old/a` should be forwarded as `/new/a`. -/
theorem prefix_not_rewritten :
    ¬ ∀ (env : Env ℕ) (uriPath : String → String) (valid : Char → Bool),
      env.http.HeaderValues valid →
      ∀ (isMatch : String → String → Bool) (config : ProxyConfig) (listenerName : String)
        (routingMeta : RequestMeta) (request : Request) (rule : RouteRule)
        (pfx replacement : String) (hostname : Option String),
        SelectsByPrefix isMatch config listenerName routingMeta rule pfx →
        .urlRewrite hostname (some (.replacePrefixMatch replacement)) ∈ rule.filters →
        PrefixRewritten env uriPath isMatch config listenerName routingMeta request pfx
          replacement := by
  intro hall
  have h := hall (Env.reachable plainHttp) id headerValueChar headerValues_plainHttp
    (fun _ _ => false) replacingConfig "http" { host := none, path := "/old/a" }
    ⟨"GET", "/old/a", [], .none⟩ _ "/old" "/new" none (selectsByPrefix_oldConfig _ _)
    List.mem_cons_self
  exact absurd h.responds (by decide)

end Multiway.ProxyCore
