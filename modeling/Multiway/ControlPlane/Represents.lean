import Multiway.ControlPlane.Reconcile

/-!
# What a configuration keeps of a route

`RepresentsRoute` says what it takes for a `RouteConfig` to mean what an
HTTPRoute says: every rule, match, filter and backend has its counterpart, in
order, with the same names and numbers, and an omitted namespace is the
route's. The conversion never fails. Matches always have their counterpart; of
the rest `Expressible` lists what gets lost (`representsRoute_iff`): filters
that are skipped, filters of a single backend, a mirror target without a
namespace, and numbers that do not fit.
-/

namespace Multiway.ControlPlane

open Multiway.Kube

/-! ## Counterparts -/

inductive RepresentsPathType : Option Kube.PathMatchType → PathMatchType → Prop
  | exact : RepresentsPathType (some .exact) .exact
  | pathPrefix : RepresentsPathType (some .pathPrefix) .pathPrefix
  | omitted : RepresentsPathType none .pathPrefix
  | regularExpression : RepresentsPathType (some .regularExpression) .regularExpression

/-- An omitted value is `/`. -/
structure RepresentsPath (path : HttpRouteRulesMatchesPath) (converted : PathMatch) : Prop where
  type : RepresentsPathType path.type converted.matchType
  value : converted.value = path.value.getD "/"

inductive RepresentsHeader : HttpRouteRulesMatchesHeaders → HeaderMatch → Prop
  | exact (name value : String) : RepresentsHeader ⟨name, some .exact, value⟩ ⟨name, .exact, value⟩
  | omitted (name value : String) : RepresentsHeader ⟨name, none, value⟩ ⟨name, .exact, value⟩
  | regularExpression (name value : String) :
      RepresentsHeader ⟨name, some .regularExpression, value⟩ ⟨name, .regularExpression, value⟩

inductive RepresentsQueryParam : HttpRouteRulesMatchesQueryParams → QueryParamMatch → Prop
  | exact (name value : String) :
      RepresentsQueryParam ⟨name, some .exact, value⟩ ⟨name, .exact, value⟩
  | omitted (name value : String) :
      RepresentsQueryParam ⟨name, none, value⟩ ⟨name, .exact, value⟩
  | regularExpression (name value : String) :
      RepresentsQueryParam ⟨name, some .regularExpression, value⟩
        ⟨name, .regularExpression, value⟩

inductive RepresentsMethod : Method → String → Prop
  | get : RepresentsMethod .get "GET"
  | head : RepresentsMethod .head "HEAD"
  | post : RepresentsMethod .post "POST"
  | put : RepresentsMethod .put "PUT"
  | delete : RepresentsMethod .delete "DELETE"
  | connect : RepresentsMethod .connect "CONNECT"
  | options : RepresentsMethod .options "OPTIONS"
  | trace : RepresentsMethod .trace "TRACE"
  | patch : RepresentsMethod .patch "PATCH"

structure RepresentsMatch (m : HttpRouteRulesMatches) (converted : RouteMatch) : Prop where
  path : Option.Rel RepresentsPath m.path converted.path
  headers : List.Forall₂ RepresentsHeader (m.headers.getD []) converted.headers
  queryParams : List.Forall₂ RepresentsQueryParam (m.queryParams.getD []) converted.queryParams
  method : Option.Rel RepresentsMethod m.method converted.method

/-- A rule without matches matches everything. -/
inductive RepresentsMatches : List HttpRouteRulesMatches → List RouteMatch → Prop
  | everything : RepresentsMatches [] [{}]
  | each {ms : List HttpRouteRulesMatches} {converted : List RouteMatch} (hne : ms ≠ [])
      (h : List.Forall₂ RepresentsMatch ms converted) : RepresentsMatches ms converted

/-- The number itself. -/
def SameNumber (n : ℤ) (converted : UInt16) : Prop := (converted.toNat : ℤ) = n

inductive RepresentsModifier : HttpPathModifier → PathModifier → Prop
  | replaceFullPath (value : String) (other : Option String) :
      RepresentsModifier ⟨.replaceFullPath, some value, other⟩ (.replaceFullPath value)
  | replacePrefixMatch (value : String) (other : Option String) :
      RepresentsModifier ⟨.replacePrefixMatch, other, some value⟩ (.replacePrefixMatch value)

inductive RepresentsScheme : Scheme → String → Prop
  | http : RepresentsScheme .http "http"
  | https : RepresentsScheme .https "https"

/-- The listed headers, in order. -/
def RepresentsHeaders (headers : Option (List HttpHeader)) (converted : List HeaderValue) : Prop :=
  List.Forall₂ (fun h c => h.name = c.name ∧ h.value = c.value) (headers.getD []) converted

/-- The target of a mirror filter. -/
structure RepresentsMirrorBackend (routeNamespace : String) (backendRef : RequestMirrorBackendRef)
    (converted : BackendRef) : Prop where
  «namespace» : converted.namespace = backendRef.namespace.getD routeNamespace
  name : converted.name = backendRef.name
  port : ∀ p, backendRef.port = some p → SameNumber p converted.port

/-- The bindings know no percentage of a mirror: all requests are mirrored. -/
inductive RepresentsFilter (routeNamespace : String) : HttpRouteRulesFilters → RouteFilter → Prop
  | requestHeaderModifier {filter : HttpRouteRulesFilters} {add set : List HeaderValue}
      {remove : List String} (type : filter.type = .requestHeaderModifier)
      (hadd : RepresentsHeaders (filter.requestHeaderModifier.bind HeaderModifier.add) add)
      (hset : RepresentsHeaders (filter.requestHeaderModifier.bind HeaderModifier.set) set)
      (hremove : remove = (filter.requestHeaderModifier.bind HeaderModifier.remove).getD []) :
      RepresentsFilter routeNamespace filter (.requestHeaderModifier add set remove)
  | responseHeaderModifier {filter : HttpRouteRulesFilters} {add set : List HeaderValue}
      {remove : List String} (type : filter.type = .responseHeaderModifier)
      (hadd : RepresentsHeaders (filter.responseHeaderModifier.bind HeaderModifier.add) add)
      (hset : RepresentsHeaders (filter.responseHeaderModifier.bind HeaderModifier.set) set)
      (hremove : remove = (filter.responseHeaderModifier.bind HeaderModifier.remove).getD []) :
      RepresentsFilter routeNamespace filter (.responseHeaderModifier add set remove)
  | requestRedirect {filter : HttpRouteRulesFilters} {redirect : RequestRedirect}
      {scheme hostname : Option String} {port : Option UInt16} {path : Option PathModifier}
      {statusCode : Option UInt16} (type : filter.type = .requestRedirect)
      (body : filter.requestRedirect = some redirect)
      (hhostname : hostname = redirect.hostname)
      (hscheme : Option.Rel RepresentsScheme redirect.scheme scheme)
      (hport : Option.Rel SameNumber redirect.port port)
      (hpath : Option.Rel RepresentsModifier redirect.path path)
      (hstatus : Option.Rel SameNumber redirect.statusCode statusCode) :
      RepresentsFilter routeNamespace filter
        (.requestRedirect scheme hostname port path statusCode)
  | urlRewrite {filter : HttpRouteRulesFilters} {rewrite : UrlRewrite} {hostname : Option String}
      {path : Option PathModifier} (type : filter.type = .urlRewrite)
      (body : filter.urlRewrite = some rewrite) (hhostname : hostname = rewrite.hostname)
      (hpath : Option.Rel RepresentsModifier rewrite.path path) :
      RepresentsFilter routeNamespace filter (.urlRewrite hostname path)
  | requestMirror {filter : HttpRouteRulesFilters} {mirror : RequestMirror} {backend : BackendRef}
      (type : filter.type = .requestMirror) (body : filter.requestMirror = some mirror)
      (hbackend : RepresentsMirrorBackend routeNamespace mirror.backendRef backend) :
      RepresentsFilter routeNamespace filter (.requestMirror backend none)

/-- A backend of the data plane has no filters of its own. -/
structure RepresentsBackend (routeNamespace : String) (backend : HttpRouteRulesBackendRefs)
    (converted : BackendRef) : Prop where
  «namespace» : converted.namespace = backend.namespace.getD routeNamespace
  name : converted.name = backend.name
  port : ∀ p, backend.port = some p → SameNumber p converted.port
  weight : (converted.weight.toNat : ℤ) = backend.weight.getD 1
  filters : backend.filters.getD [] = []

structure RepresentsRule (routeNamespace : String) (rule : HttpRouteRules)
    (converted : RouteRule) : Prop where
  «matches» : RepresentsMatches (rule.matches.getD []) converted.matches
  filters : List.Forall₂ (RepresentsFilter routeNamespace) (rule.filters.getD []) converted.filters
  backends : List.Forall₂ (RepresentsBackend routeNamespace) (rule.backendRefs.getD [])
    converted.backends

/-- **Nothing is dropped.** -/
structure RepresentsRoute (route : HTTPRoute) (converted : RouteConfig) : Prop where
  «namespace» : converted.namespace = namespaceOf route
  name : converted.name = nameAny route
  rules : List.Forall₂ (RepresentsRule (namespaceOf route)) (route.spec.rules.getD [])
    converted.rules

/-! ## What the data plane can express -/

/-- An unsigned number of so many bits. -/
def Fits (bits : ℕ) (n : ℤ) : Prop := 0 ≤ n ∧ n < 2 ^ bits

/-- The value that the type names is there. -/
def ModifierComplete (p : HttpPathModifier) : Prop :=
  match p.type with
  | .replaceFullPath => p.replaceFullPath ≠ none
  | .replacePrefixMatch => p.replacePrefixMatch ≠ none

structure ExpressibleRedirect (redirect : RequestRedirect) : Prop where
  port : ∀ p, redirect.port = some p → Fits 16 p
  statusCode : ∀ c, redirect.statusCode = some c → Fits 16 c
  path : ∀ p, redirect.path = some p → ModifierComplete p

/-- The namespace is given, or the route has none either. -/
structure ExpressibleMirror (routeNamespace : String) (mirror : RequestMirror) : Prop where
  «namespace» : mirror.backendRef.namespace = none → routeNamespace = ""
  port : ∀ p, mirror.backendRef.port = some p → Fits 16 p

/-- The part that the type names is there, and nothing of it gets lost. -/
def ExpressibleFilter (routeNamespace : String) (filter : HttpRouteRulesFilters) : Prop :=
  match filter.type with
  | .requestHeaderModifier => True
  | .responseHeaderModifier => True
  | .requestRedirect =>
    ∃ redirect, filter.requestRedirect = some redirect ∧ ExpressibleRedirect redirect
  | .urlRewrite =>
    ∃ rewrite, filter.urlRewrite = some rewrite ∧
      ∀ p, rewrite.path = some p → ModifierComplete p
  | .requestMirror =>
    ∃ mirror, filter.requestMirror = some mirror ∧ ExpressibleMirror routeNamespace mirror
  | .extensionRef => False

structure ExpressibleBackend (backend : HttpRouteRulesBackendRefs) : Prop where
  port : ∀ p, backend.port = some p → Fits 16 p
  weight : ∀ w, backend.weight = some w → Fits 32 w
  filters : backend.filters.getD [] = []

structure Expressible (route : HTTPRoute) : Prop where
  filters : ∀ rule ∈ route.spec.rules.getD [], ∀ filter ∈ rule.filters.getD [],
    ExpressibleFilter (namespaceOf route) filter
  backends : ∀ rule ∈ route.spec.rules.getD [], ∀ backend ∈ rule.backendRefs.getD [],
    ExpressibleBackend backend

/-! ## Converting lists and options -/

section
variable {α β : Type} {R : α → β → Prop}

theorem rel_map_iff {f : α → β} {o : Option α} :
    Option.Rel R o (o.map f) ↔ ∀ a, o = some a → R a (f a) := by
  cases o with
  | none => exact iff_of_true .none nofun
  | some a =>
    constructor
    · intro h b hb
      obtain rfl := Option.some.inj hb
      cases h with
      | some h => exact h
    · intro h
      exact .some (h a rfl)

theorem forall₂_map_iff {f : α → β} {l : List α} :
    List.Forall₂ R l (l.map f) ↔ ∀ a ∈ l, R a (f a) := by
  rw [List.forall₂_map_right_iff, List.forall₂_same]

/-- A list that keeps its length has no element skipped. -/
theorem forall₂_filterMap_iff {f : α → Option β} {l : List α} :
    List.Forall₂ R l (l.filterMap f) ↔ ∀ a ∈ l, ∃ b, f a = some b ∧ R a b := by
  induction l with
  | nil => exact iff_of_true .nil nofun
  | cons a l ih =>
    rw [List.forall_mem_cons]
    cases hf : f a with
    | some b =>
      rw [List.filterMap_cons_some hf, List.forall₂_cons, ih]
      simp
    | none =>
      rw [List.filterMap_cons_none hf]
      refine iff_of_false ?_ fun h => by simp at h
      intro h
      have hlen := h.length_eq
      have hle := List.length_filterMap_le f l
      rw [List.length_cons] at hlen
      omega

end

/-! ## Matches -/

theorem representsPath_convert (path : HttpRouteRulesMatchesPath) :
    RepresentsPath path (convertPathMatch path) := by
  refine ⟨?_, rfl⟩
  obtain ⟨type, value⟩ := path
  rcases type with _ | _ | _ | _
  · exact .omitted
  · exact .exact
  · exact .pathPrefix
  · exact .regularExpression

theorem representsHeader_convert (header : HttpRouteRulesMatchesHeaders) :
    RepresentsHeader header (convertHeaderMatch header) := by
  obtain ⟨name, type, value⟩ := header
  rcases type with _ | _ | _
  · exact .omitted name value
  · exact .exact name value
  · exact .regularExpression name value

theorem representsQueryParam_convert (param : HttpRouteRulesMatchesQueryParams) :
    RepresentsQueryParam param (convertQueryParamMatch param) := by
  obtain ⟨name, type, value⟩ := param
  rcases type with _ | _ | _
  · exact .omitted name value
  · exact .exact name value
  · exact .regularExpression name value

theorem representsMethod_convert (method : Method) :
    RepresentsMethod method (convertMethod method) := by
  cases method <;> constructor

/-- A match is always expressible. -/
theorem representsMatch_convert (m : HttpRouteRulesMatches) :
    RepresentsMatch m (convertMatch m) where
  path := rel_map_iff.mpr fun path _ => representsPath_convert path
  headers := forall₂_map_iff.mpr fun header _ => representsHeader_convert header
  queryParams := forall₂_map_iff.mpr fun param _ => representsQueryParam_convert param
  method := rel_map_iff.mpr fun method _ => representsMethod_convert method

theorem representsMatches_convert (routeNamespace : String) (rule : HttpRouteRules) :
    RepresentsMatches (rule.matches.getD []) (convertRule routeNamespace rule).matches := by
  unfold convertRule
  cases hms : rule.matches.getD [] with
  | nil => exact .everything
  | cons m ms =>
    exact .each nofun (forall₂_map_iff.mpr fun m _ => representsMatch_convert m)

/-! ## Numbers -/

theorem sameNumber_ofInt (n : ℤ) : SameNumber n (UInt16.ofInt n) ↔ Fits 16 n := by
  have hlt : (n % 65536).toNat < 65536 := by omega
  have htoNat : (UInt16.ofInt n).toNat = (n % 65536).toNat := by
    simpa [UInt16.ofInt] using hlt
  unfold SameNumber Fits
  rw [htoNat]
  omega

theorem toNat_ofInt_weight (n : ℤ) : ((UInt32.ofInt n).toNat : ℤ) = n ↔ Fits 32 n := by
  have hlt : (n % 4294967296).toNat < 4294967296 := by omega
  have htoNat : (UInt32.ofInt n).toNat = (n % 4294967296).toNat := by
    simpa [UInt32.ofInt] using hlt
  unfold Fits
  rw [htoNat]
  omega

/-- A port that is given is kept when it fits. -/
theorem sameNumber_port (port : Option ℤ) :
    (∀ p, port = some p → SameNumber p (UInt16.ofInt (port.getD 80))) ↔
      ∀ p, port = some p → Fits 16 p := by
  refine forall₂_congr fun p hp => ?_
  rw [hp, Option.getD_some, sameNumber_ofInt]

/-! ## Filters -/

theorem representsModifier_convert (p : HttpPathModifier) :
    RepresentsModifier p (convertPathModifier p) ↔ ModifierComplete p := by
  obtain ⟨type, full, pfx⟩ := p
  cases type with
  | replaceFullPath =>
    cases full with
    | none => exact iff_of_false nofun fun h => h rfl
    | some value => exact iff_of_true (.replaceFullPath value pfx) nofun
  | replacePrefixMatch =>
    cases pfx with
    | none => exact iff_of_false nofun fun h => h rfl
    | some value => exact iff_of_true (.replacePrefixMatch value full) nofun

theorem representsScheme_convert (scheme : Scheme) :
    RepresentsScheme scheme (convertScheme scheme) := by
  cases scheme
  · exact .http
  · exact .https

theorem representsHeaders_convert (headers : Option (List HttpHeader)) :
    RepresentsHeaders headers (convertHeaders headers) :=
  forall₂_map_iff.mpr fun _ _ => ⟨rfl, rfl⟩

theorem representsMirrorBackend_convert (routeNamespace : String)
    (backendRef : RequestMirrorBackendRef) :
    RepresentsMirrorBackend routeNamespace backendRef (convertMirrorBackend backendRef) ↔
      (backendRef.namespace = none → routeNamespace = "") ∧
        ∀ p, backendRef.port = some p → Fits 16 p := by
  have hnamespace : (convertMirrorBackend backendRef).namespace =
      backendRef.namespace.getD routeNamespace ↔
      (backendRef.namespace = none → routeNamespace = "") := by
    show backendRef.namespace.getD "" = _ ↔ _
    cases backendRef.namespace <;> simp [eq_comm]
  rw [← hnamespace, ← sameNumber_port]
  constructor
  · intro h
    exact ⟨h.namespace, h.port⟩
  · intro h
    exact ⟨h.1, rfl, h.2⟩

/-- A modifier that is missing modifies nothing. -/
theorem getD_modifier {α : Type} (field : HeaderModifier → Option α)
    (hfield : field {} = none) (modifier : Option HeaderModifier) :
    field (modifier.getD {}) = modifier.bind field := by
  cases modifier with
  | none => exact hfield
  | some modifier => rfl

/-- **What becomes of a filter.** -/
theorem representsFilter_convert (routeNamespace : String) (filter : HttpRouteRulesFilters) :
    (∃ converted, convertFilter filter = some converted ∧
        RepresentsFilter routeNamespace filter converted) ↔
      ExpressibleFilter routeNamespace filter := by
  obtain ⟨type, requestModifier, responseModifier, mirror, redirect, rewrite⟩ := filter
  cases type with
  | requestHeaderModifier =>
    refine iff_of_true ⟨_, rfl, .requestHeaderModifier rfl ?_ ?_ ?_⟩ trivial
    · rw [getD_modifier HeaderModifier.add rfl]
      exact representsHeaders_convert _
    · rw [getD_modifier HeaderModifier.set rfl]
      exact representsHeaders_convert _
    · rw [getD_modifier HeaderModifier.remove rfl]
  | responseHeaderModifier =>
    refine iff_of_true ⟨_, rfl, .responseHeaderModifier rfl ?_ ?_ ?_⟩ trivial
    · rw [getD_modifier HeaderModifier.add rfl]
      exact representsHeaders_convert _
    · rw [getD_modifier HeaderModifier.set rfl]
      exact representsHeaders_convert _
    · rw [getD_modifier HeaderModifier.remove rfl]
  | requestRedirect =>
    cases redirect with
    | none => exact iff_of_false (fun h => nomatch h.choose_spec.1) fun h => nomatch h.choose_spec.1
    | some redirect =>
      constructor
      · intro h
        obtain ⟨converted, hconverted, hrepresents⟩ := h
        obtain rfl := Option.some.inj hconverted
        cases hrepresents with
        | requestRedirect _ body _ _ hport hpath hstatus =>
          obtain rfl := Option.some.inj body
          exact ⟨redirect, rfl, fun p hp => (sameNumber_ofInt p).mp (rel_map_iff.mp hport p hp),
            fun c hc => (sameNumber_ofInt c).mp (rel_map_iff.mp hstatus c hc),
            fun p hp => (representsModifier_convert p).mp (rel_map_iff.mp hpath p hp)⟩
      · intro h
        obtain ⟨_, heq, hexpressible⟩ := h
        obtain rfl := Option.some.inj heq
        exact ⟨_, rfl, .requestRedirect rfl rfl rfl
          (rel_map_iff.mpr fun scheme _ => representsScheme_convert scheme)
          (rel_map_iff.mpr fun p hp => (sameNumber_ofInt p).mpr (hexpressible.port p hp))
          (rel_map_iff.mpr fun p hp => (representsModifier_convert p).mpr (hexpressible.path p hp))
          (rel_map_iff.mpr fun c hc => (sameNumber_ofInt c).mpr (hexpressible.statusCode c hc))⟩
  | urlRewrite =>
    cases rewrite with
    | none => exact iff_of_false (fun h => nomatch h.choose_spec.1) fun h => nomatch h.choose_spec.1
    | some rewrite =>
      constructor
      · intro h
        obtain ⟨converted, hconverted, hrepresents⟩ := h
        obtain rfl := Option.some.inj hconverted
        cases hrepresents with
        | urlRewrite _ body _ hpath =>
          obtain rfl := Option.some.inj body
          exact ⟨rewrite, rfl, fun p hp =>
            (representsModifier_convert p).mp (rel_map_iff.mp hpath p hp)⟩
      · intro h
        obtain ⟨_, heq, hpath⟩ := h
        obtain rfl := Option.some.inj heq
        exact ⟨_, rfl, .urlRewrite rfl rfl rfl
          (rel_map_iff.mpr fun p hp => (representsModifier_convert p).mpr (hpath p hp))⟩
  | requestMirror =>
    cases mirror with
    | none => exact iff_of_false (fun h => nomatch h.choose_spec.1) fun h => nomatch h.choose_spec.1
    | some mirror =>
      have hbackend := representsMirrorBackend_convert routeNamespace mirror.backendRef
      constructor
      · intro h
        obtain ⟨converted, hconverted, hrepresents⟩ := h
        obtain rfl := Option.some.inj hconverted
        cases hrepresents with
        | requestMirror _ body hrepresents =>
          obtain rfl := Option.some.inj body
          obtain ⟨hnamespace, hport⟩ := hbackend.mp hrepresents
          exact ⟨mirror, rfl, hnamespace, hport⟩
      · intro h
        obtain ⟨_, heq, hexpressible⟩ := h
        obtain rfl := Option.some.inj heq
        exact ⟨_, rfl, .requestMirror rfl rfl
          (hbackend.mpr ⟨hexpressible.namespace, hexpressible.port⟩)⟩
  | extensionRef => exact iff_of_false (fun h => nomatch h.choose_spec.1) id

/-! ## Rules and routes -/

theorem representsBackend_convert (routeNamespace : String)
    (backend : HttpRouteRulesBackendRefs) :
    RepresentsBackend routeNamespace backend (convertBackend routeNamespace backend) ↔
      ExpressibleBackend backend := by
  have hweight : (((UInt32.ofInt (backend.weight.getD 1)).toNat : ℤ) = backend.weight.getD 1) ↔
      ∀ w, backend.weight = some w → Fits 32 w := by
    rw [toNat_ofInt_weight]
    cases backend.weight with
    | none => exact iff_of_true ⟨by decide, by decide⟩ nofun
    | some w => simp
  constructor
  · intro h
    exact ⟨(sameNumber_port backend.port).mp h.port, hweight.mp h.weight, h.filters⟩
  · intro h
    exact ⟨rfl, rfl, (sameNumber_port backend.port).mpr h.port, hweight.mpr h.weight, h.filters⟩

theorem representsRule_convert (routeNamespace : String) (rule : HttpRouteRules) :
    RepresentsRule routeNamespace rule (convertRule routeNamespace rule) ↔
      (∀ filter ∈ rule.filters.getD [], ExpressibleFilter routeNamespace filter) ∧
        ∀ backend ∈ rule.backendRefs.getD [], ExpressibleBackend backend := by
  have hfilters : List.Forall₂ (RepresentsFilter routeNamespace) (rule.filters.getD [])
      (convertRule routeNamespace rule).filters ↔
      ∀ filter ∈ rule.filters.getD [], ExpressibleFilter routeNamespace filter :=
    forall₂_filterMap_iff.trans
      (forall₂_congr fun filter _ => representsFilter_convert routeNamespace filter)
  have hbackends : List.Forall₂ (RepresentsBackend routeNamespace) (rule.backendRefs.getD [])
      (convertRule routeNamespace rule).backends ↔
      ∀ backend ∈ rule.backendRefs.getD [], ExpressibleBackend backend :=
    forall₂_map_iff.trans
      (forall₂_congr fun backend _ => representsBackend_convert routeNamespace backend)
  rw [← hfilters, ← hbackends]
  constructor
  · intro h
    exact ⟨h.filters, h.backends⟩
  · intro h
    exact ⟨representsMatches_convert routeNamespace rule, h.1, h.2⟩

theorem representsRoute_convert (route : HTTPRoute) (attachedListeners : List String) :
    RepresentsRoute route (convertHttprouteToConfig route attachedListeners) ↔
      Expressible route := by
  have hrules : List.Forall₂ (RepresentsRule (namespaceOf route)) (route.spec.rules.getD [])
      (convertHttprouteToConfig route attachedListeners).rules ↔ Expressible route := by
    refine forall₂_map_iff.trans ?_
    simp only [representsRule_convert]
    constructor
    · intro h
      exact ⟨fun rule hrule => (h rule hrule).1, fun rule hrule => (h rule hrule).2⟩
    · intro h rule hrule
      exact ⟨h.filters rule hrule, h.backends rule hrule⟩
  rw [← hrules]
  constructor
  · intro h
    exact h.rules
  · intro h
    exact ⟨rfl, rfl, h⟩

/-- **When a conversion drops nothing.** For every route; and what is programmed
for a Gateway are the routes that name it, represented exactly when all of them
are expressible. -/
theorem representsRoute_iff (route : HTTPRoute) (attachedListeners : List String)
    (gateway : Gateway) (ns : String) (snapshot : WorldSnapshot) :
    (RepresentsRoute route (convertHttprouteToConfig route attachedListeners) ↔
        Expressible route) ∧
      (List.Forall₂ RepresentsRoute (snapshot.routesForGateway ns (nameAny gateway))
          (buildGatewayConfig gateway ns snapshot).1.routes ↔
        ∀ route ∈ snapshot.routesForGateway ns (nameAny gateway), Expressible route) :=
  ⟨representsRoute_convert route attachedListeners,
    forall₂_map_iff.trans (forall₂_congr fun route _ => representsRoute_convert route _)⟩

/-- A route with one rule, which has one filter and one backend. -/
def filteredRoute (filter : HttpRouteRulesFilters) : HTTPRoute where
  metadata := { name := some "a", «namespace» := some "default" }
  spec :=
    { rules := some
        [{ filters := some [filter], backendRefs := some [{ name := "svc", port := some 80 }] }] }

example : Expressible (filteredRoute { type := .requestHeaderModifier }) where
  filters := by
    intro rule hrule filter hfilter
    rw [List.mem_singleton.mp hrule] at hfilter
    rw [List.mem_singleton.mp hfilter]
    trivial
  backends := by
    intro rule hrule backend hbackend
    rw [List.mem_singleton.mp hrule] at hbackend
    rw [List.mem_singleton.mp hbackend]
    exact ⟨fun p hp => Option.some.inj hp ▸ ⟨by decide, by decide⟩, nofun, rfl⟩

-- a filter that guards its backend is skipped
example (attachedListeners : List String) :
    ¬ RepresentsRoute (filteredRoute { type := .extensionRef })
      (convertHttprouteToConfig (filteredRoute { type := .extensionRef }) attachedListeners) :=
  fun h => ((representsRoute_convert _ _).mp h).filters _ (List.mem_singleton_self _) _
    (List.mem_singleton_self _)

/-- The copies of a mirrored request do not go to the route's namespace, where
the backend of its rule is. -/
theorem mirror_namespace_lost :
    ¬ ∀ (route : HTTPRoute) (attachedListeners : List String),
      RepresentsRoute route (convertHttprouteToConfig route attachedListeners) := by
  intro h
  have hexpressible := (representsRoute_convert _ _).mp (h (filteredRoute
    { type := .requestMirror
      requestMirror := some { backendRef := { name := "svc", port := some 80 } } }) ["http"])
  obtain ⟨mirror, hmirror, hmirrored⟩ :=
    hexpressible.filters _ (List.mem_singleton_self _) _ (List.mem_singleton_self _)
  obtain rfl := Option.some.inj hmirror
  exact absurd (hmirrored.namespace rfl) (by decide)

end Multiway.ControlPlane
