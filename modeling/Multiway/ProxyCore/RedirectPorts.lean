import Multiway.ProxyCore.Redirect

/-!
# Redirects and the listener they are sent on

The Gateway API derives the scheme and the port a redirect leaves out from the
listener (`specifiedLocation`, after the field descriptions of
`.crds/v1.4.1/http.yml`). `build_redirect_location` gets the request but not
the listener: a missing scheme is `http`, a missing port is not written and a
given one always is, and a location that is no header value is not sent at all.
`sendsSpecified_iff` says for which filters and requests that comes to the same.
-/

namespace Multiway.ProxyCore

/-- The scheme of the requests a listener takes. -/
def Protocol.scheme : Protocol → String
  | .http => "http"
  | .https => "https"

/-- The well-known port associated with a scheme. -/
def wellKnownPort (scheme : String) : Option UInt16 :=
  if scheme = "http" then some 80 else if scheme = "https" then some 443 else none

/-- When empty, the scheme of the request is used. -/
def redirectScheme (listener : ListenerConfig) (scheme : Option String) : String :=
  scheme.getD listener.protocol.scheme

/-- If no port is specified: the well-known port of a scheme that is given, the
listener's port where there is none. -/
def redirectPort (listener : ListenerConfig) (scheme : Option String) (port : Option UInt16) :
    UInt16 :=
  port.getD ((scheme.bind wellKnownPort).getD listener.port)

/-- The location with the specified scheme and port; the port is not added
where it is the default one. -/
def specifiedLocation (listener : ListenerConfig) (scheme hostname : Option String)
    (port : Option UInt16) (path : Option PathModifier) (request : RequestMeta) : String :=
  let specified := redirectScheme listener scheme
  specified ++ "://" ++ (hostname.or request.host).getD "localhost" ++
    portStr specified (some (redirectPort listener scheme port)) ++
      (path.map PathModifier.value).getD request.path

/-- What makes up for a missing listener: a scheme is given, or the listener's
is `http`; a port is given and is not the default one, or none is given and the
scheme is one with a well-known port, or missing on a listener at port 80. -/
structure NeedsNoListener (listener : ListenerConfig) (scheme : Option String)
    (port : Option UInt16) : Prop where
  sameScheme : scheme = none → listener.protocol = .http
  written : ∀ p, port = some p → isStandardPort (scheme.getD "http") p = false
  omitted : port = none →
    scheme = some "http" ∨ scheme = some "https" ∨ scheme = none ∧ listener.port = 80

theorem isStandardPort_iff {scheme : String} {port : UInt16} :
    isStandardPort scheme port = true ↔
      scheme = "http" ∧ port = 80 ∨ scheme = "https" ∧ port = 443 := by
  rw [isStandardPort, Bool.or_eq_true, Bool.and_eq_true, Bool.and_eq_true, beq_iff_eq, beq_iff_eq,
    beq_iff_eq, beq_iff_eq]

/-- The port that is derived is the default one of the scheme. -/
theorem isStandardPort_derived (listener : ListenerConfig) (scheme : Option String)
    (hscheme : scheme = none → listener.protocol = .http) :
    isStandardPort (scheme.getD "http") ((scheme.bind wellKnownPort).getD listener.port) = true ↔
      scheme = some "http" ∨ scheme = some "https" ∨ scheme = none ∧ listener.port = 80 := by
  rw [isStandardPort_iff]
  cases scheme with
  | none => simp
  | some s =>
    rw [Option.getD_some, Option.bind_some, wellKnownPort]
    by_cases hhttp : s = "http"
    · rw [if_pos hhttp]
      exact iff_of_true (.inl ⟨hhttp, rfl⟩) (.inl (congrArg some hhttp))
    · rw [if_neg hhttp]
      by_cases hhttps : s = "https"
      · rw [if_pos hhttps]
        exact iff_of_true (.inr ⟨hhttps, rfl⟩) (.inr (.inl (congrArg some hhttps)))
      · simp [hhttp, hhttps]

/-- A port that is written is not the default one. -/
theorem portStr_eq_iff (scheme : String) (port : Option UInt16) (specified : UInt16) :
    (port.elim "" fun p => ":" ++ toString p.toNat) =
        portStr scheme (some (port.getD specified)) ↔
      (∀ p, port = some p → isStandardPort scheme p = false) ∧
        (port = none → isStandardPort scheme specified = true) := by
  have hwritten : ∀ p : UInt16, ":" ++ toString p.toNat ≠ "" := by
    intro p h
    have hchars := congrArg String.toList h
    simp at hchars
  cases port with
  | none => cases h : isStandardPort scheme specified <;> simp [portStr, h]
  | some p => cases h : isStandardPort scheme p <;> simp [portStr, h]

/-- What is written for the port, as far as both begin with one scheme. -/
theorem location_eq_iff (listener : ListenerConfig) (scheme hostname : Option String)
    (port : Option UInt16) (path : Option PathModifier) (request : RequestMeta) :
    buildRedirectLocation scheme hostname port path request =
        specifiedLocation listener scheme hostname port path request ↔
      NeedsNoListener listener scheme port := by
  rw [buildRedirectLocation_eq, specifiedLocation]
  by_cases hscheme : scheme = none → listener.protocol = .http
  · have hsame : redirectScheme listener scheme = scheme.getD "http" := by
      cases scheme with
      | none => rw [redirectScheme, hscheme rfl]; rfl
      | some s => rfl
    rw [hsame, String.append_left_inj, String.append_right_inj, redirectPort, portStr_eq_iff,
      isStandardPort_derived listener scheme hscheme]
    constructor
    · intro h
      exact ⟨hscheme, h.1, h.2⟩
    · intro h
      exact ⟨h.written, h.omitted⟩
  · refine iff_of_false ?_ fun h => hscheme h.sameScheme
    push Not at hscheme
    obtain ⟨rfl, hprotocol⟩ := hscheme
    have hhttps : listener.protocol = .https := by
      cases h : listener.protocol with
      | http => exact absurd h hprotocol
      | https => rfl
    intro h
    -- the fifth character is a colon in the one and an `s` in the other
    have hchars := congrArg (fun text => text.toList[4]?) h
    simp [redirectScheme, hhttps, Protocol.scheme] at hchars

/-! ## What the pipeline sends -/

/-- The crate keeps the text of a header value. -/
def HttpCrate.KeepsValues (http : HttpCrate) : Prop :=
  ∀ s v, http.parseHeaderValue s = some v → v = s

/-- The pipeline answers with a redirect whose one `Location` is the location. -/
def SendsLocation {Addr : Type} (env : Env Addr) (isMatch : String → String → Bool)
    (config : ProxyConfig) (listenerName : String) (routingMeta : RequestMeta) (request : Request)
    (location : String) : Prop :=
  ∃ redirect response, route isMatch config listenerName routingMeta = .redirect redirect ∧
    RouteAndFilter.call env isMatch config listenerName routingMeta request =
      ([], some response) ∧
    response.headers.values "location" = [location]

/-- A response is made of a location that is a header value, and carries it. -/
theorem redirectResponse_iff {http : HttpCrate} (hkept : http.KeepsValues)
    (redirect : RedirectResponse) (location : String) :
    (∃ response, redirectResponse http redirect = some response ∧
        response.headers.values "location" = [location]) ↔
      (http.parseHeaderValue redirect.location).isSome = true ∧ redirect.location = location := by
  cases hparse : http.parseHeaderValue redirect.location with
  | none => simp [redirectResponse, hparse]
  | some value =>
    obtain rfl := hkept _ _ hparse
    simp [redirectResponse, hparse, HeaderMap.values_cons]

section
variable {Addr : Type} (env : Env Addr) {valid : Char → Bool}
  (hvalues : env.http.HeaderValues valid) (hkept : env.http.KeepsValues)
  {isMatch : String → String → Bool} {config : ProxyConfig} {listenerName : String}
  {routingMeta : RequestMeta} {rule : RouteRule} {scheme hostname : Option String}
  {port : Option UInt16} {path : Option PathModifier} {statusCode : Option UInt16}
include hvalues hkept

/-- The location is the one built for the first redirect of the rule, if that is
a header value. -/
theorem sendsLocation_iff
    (hroute : route isMatch config listenerName routingMeta = buildDecision rule routingMeta)
    (hfilter : rule.filters.find? Filter.isRedirect =
      some (.requestRedirect scheme hostname port path statusCode))
    (request : Request) (location : String) :
    SendsLocation env isMatch config listenerName routingMeta request location ↔
      buildRedirectLocation scheme hostname port path routingMeta = location ∧
        ∀ text ∈ redirectTexts routingMeta (.requestRedirect scheme hostname port path statusCode),
          text.toList.all valid = true := by
  obtain ⟨_, _, _, _, _, heq, hfirst⟩ := firstRedirect_of_find?_some routingMeta hfilter
  cases heq
  rw [buildDecision, hfirst] at hroute
  have hresponse := redirectResponse_iff hkept
    ⟨statusCode.getD 302, buildRedirectLocation scheme hostname port path routingMeta⟩ location
  rw [location_isHeaderValue hvalues routingMeta scheme hostname port path statusCode] at hresponse
  rw [and_comm, ← hresponse]
  constructor
  · intro h
    obtain ⟨redirect, response, hredirect, hcall, hlocation⟩ := h
    rw [RouteAndFilter.call, hroute, Prod.mk.injEq] at hcall
    exact ⟨response, hcall.2, hlocation⟩
  · intro h
    obtain ⟨response, hsome, hlocation⟩ := h
    refine ⟨_, response, hroute, ?_, hlocation⟩
    simp only [RouteAndFilter.call, hroute]
    exact congrArg (Prod.mk []) hsome

/-- **When a redirect keeps the client's scheme and port.** For every listener,
every request and every rule whose first redirect it is: exactly when the filter
says for itself what the listener would have to, and scheme, host and path may
stand in a header. -/
theorem sendsSpecified_iff (listener : ListenerConfig)
    (hroute : route isMatch config listener.name routingMeta = buildDecision rule routingMeta)
    (hfilter : rule.filters.find? Filter.isRedirect =
      some (.requestRedirect scheme hostname port path statusCode))
    (request : Request) :
    SendsLocation env isMatch config listener.name routingMeta request
        (specifiedLocation listener scheme hostname port path routingMeta) ↔
      NeedsNoListener listener scheme port ∧
        ∀ text ∈ redirectTexts routingMeta (.requestRedirect scheme hostname port path statusCode),
          text.toList.all valid = true :=
  (sendsLocation_iff env hvalues hkept hroute hfilter request _).trans
    (and_congr_left' (location_eq_iff listener scheme hostname port path routingMeta))

end

theorem keepsValues_plainHttp : plainHttp.KeepsValues := by
  intro s v h
  simp only [plainHttp, Option.ite_none_right_eq_some, Option.some.injEq] at h
  exact h.2.symm

/-- The HTTPS listener of a configuration with one route. -/
def httpsListener : ListenerConfig :=
  { name := "http", port := 443, protocol := .https, hostname := none, tls := none }

theorem route_oldConfig (filters : List Filter) (host : Option String) :
    route (fun _ _ => false) (oldConfig filters) httpsListener.name { host, path := "/old/a" } =
      buildDecision { «matches» := [{ path := some ⟨.pathPrefix, "/old"⟩ }], filters
                      backends := [svcA] } { host, path := "/old/a" } := by
  obtain ⟨best, hbest, -⟩ := selectsByPrefix_oldConfig filters host
  exact hbest.route_eq

/-- A redirect from HTTPS to port 8080 of HTTP says both. -/
theorem sendsSpecified_explicit :
    SendsLocation (Env.reachable plainHttp) (fun _ _ => false)
      (oldConfig [.requestRedirect (some "http") none (some 8080) none none]) httpsListener.name
      { host := some "a.test", path := "/old/a" } ⟨"GET", "/old/a", [], .none⟩
      "http://a.test:8080/old/a" := by
  have hneeds : NeedsNoListener httpsListener (some "http") (some 8080) :=
    { sameScheme := fun h => by cases h
      written := by
        intro p hp
        obtain rfl := Option.some.inj hp
        decide
      omitted := fun h => by cases h }
  have h := (sendsSpecified_iff (Env.reachable plainHttp) headerValues_plainHttp
    keepsValues_plainHttp httpsListener (route_oldConfig
    [.requestRedirect (some "http") none (some 8080) none none] (some "a.test")) rfl
    ⟨"GET", "/old/a", [], .none⟩).mpr ⟨hneeds, by decide⟩
  have hlocation : specifiedLocation httpsListener (some "http") none (some 8080) none
      { host := some "a.test", path := "/old/a" } = "http://a.test:8080/old/a" := by decide
  rwa [hlocation] at h

/-- A redirect that only changes the host takes an HTTPS client to HTTP. -/
theorem scheme_not_kept :
    ¬ ∀ (env : Env ℕ) (valid : Char → Bool), env.http.HeaderValues valid → env.http.KeepsValues →
      ∀ (isMatch : String → String → Bool) (config : ProxyConfig)
        (listener : ListenerConfig) (routingMeta : RequestMeta) (rule : RouteRule)
        (scheme hostname : Option String) (port : Option UInt16) (path : Option PathModifier)
        (statusCode : Option UInt16) (request : Request),
      route isMatch config listener.name routingMeta = buildDecision rule routingMeta →
      rule.filters.find? Filter.isRedirect =
        some (.requestRedirect scheme hostname port path statusCode) →
      SendsLocation env isMatch config listener.name routingMeta request
        (specifiedLocation listener scheme hostname port path routingMeta) := by
  intro hall
  have hroute := route_oldConfig [hostRedirect] (some "a.test")
  have hsent := hall (Env.reachable plainHttp) headerValueChar headerValues_plainHttp
    keepsValues_plainHttp (fun _ _ => false) (oldConfig [hostRedirect])
    httpsListener { host := some "a.test", path := "/old/a" } _ none (some "example.com") none none
    none ⟨"GET", "/old/a", [], .none⟩ hroute rfl
  have hlocation := (sendsLocation_iff (Env.reachable plainHttp) headerValues_plainHttp
    keepsValues_plainHttp hroute rfl _ _).mp hsent
  exact absurd hlocation.1 (by decide)

end Multiway.ProxyCore
