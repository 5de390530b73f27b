import Multiway.ControlPlane.Config
import Multiway.Lib.Serde

/-!
# Reading a `GatewayConfig` (`controller/config.rs`)

The readers serde derives for the types of `Config`: each field by its JSON
name, with the defaults its attributes give it. With finite timeouts a
configuration is read back as it was written (`GatewayConfig.fromJson_toJson`);
a timeout that is not finite is printed as `null`, which is read as none.
-/

namespace Multiway.ControlPlane

open Multiway.Lib
open Multiway.Lib.Serde

/-! ## Readers -/

def GatewayRef.fromJson (d : Json) : Option GatewayRef := do
  let «namespace» ← required "namespace" str d
  let name ← required "name" str d
  return { «namespace», name }

def Protocol.fromJson : Json → Option Protocol :=
  variant [("HTTP", .http), ("HTTPS", .https)]

def TlsMode.fromJson : Json → Option TlsMode :=
  variant [("terminate", .terminate), ("passthrough", .passthrough)]

def CertificateRef.fromJson (d : Json) : Option CertificateRef := do
  let «namespace» ← required "namespace" str d
  let name ← required "name" str d
  return { «namespace», name }

def InlineCertificate.fromJson (d : Json) : Option InlineCertificate := do
  let certPem ← required "cert_pem" str d
  let keyPem ← required "key_pem" str d
  let hostnames ← defaulted "hostnames" [] (list str) d
  return { certPem, keyPem, hostnames }

def TlsConfig.fromJson (d : Json) : Option TlsConfig := do
  let mode ← required "mode" TlsMode.fromJson d
  let certificates ← required "certificates" (list CertificateRef.fromJson) d
  let inlineCertificates ← defaulted "inline_certificates" [] (list InlineCertificate.fromJson) d
  return { mode, certificates, inlineCertificates }

def ListenerConfig.fromJson (d : Json) : Option ListenerConfig := do
  let name ← required "name" str d
  let port ← required "port" uint16 d
  let protocol ← required "protocol" Protocol.fromJson d
  let hostname ← optionField "hostname" str d
  let tls ← optionField "tls" TlsConfig.fromJson d
  return { name, port, protocol, hostname, tls }

def PathMatchType.fromJson : Json → Option PathMatchType :=
  variant
    [("Exact", .exact),
      ("PathPrefix", .pathPrefix),
      ("RegularExpression", .regularExpression)]

def PathMatch.fromJson (d : Json) : Option PathMatch := do
  let matchType ← required "type" PathMatchType.fromJson d
  let value ← required "value" str d
  return { matchType, value }

def HeaderMatchType.fromJson : Json → Option HeaderMatchType :=
  variant [("Exact", .exact), ("RegularExpression", .regularExpression)]

def HeaderMatch.fromJson (d : Json) : Option HeaderMatch := do
  let name ← required "name" str d
  let matchType ← required "type" HeaderMatchType.fromJson d
  let value ← required "value" str d
  return { name, matchType, value }

def QueryParamMatchType.fromJson : Json → Option QueryParamMatchType :=
  variant [("Exact", .exact), ("RegularExpression", .regularExpression)]

def QueryParamMatch.fromJson (d : Json) : Option QueryParamMatch := do
  let name ← required "name" str d
  let matchType ← required "type" QueryParamMatchType.fromJson d
  let value ← required "value" str d
  return { name, matchType, value }

def RouteMatch.fromJson (d : Json) : Option RouteMatch := do
  let path ← optionField "path" PathMatch.fromJson d
  let headers ← defaulted "headers" [] (list HeaderMatch.fromJson) d
  let queryParams ← defaulted "query_params" [] (list QueryParamMatch.fromJson) d
  let method ← optionField "method" str d
  return { path, headers, queryParams, method }

def HeaderValue.fromJson (d : Json) : Option HeaderValue := do
  let name ← required "name" str d
  let value ← required "value" str d
  return { name, value }

def PathModifier.fromJson : Json → Option PathModifier :=
  tagged "type"
    [("ReplaceFullPath", fun d => (required "value" str d).map .replaceFullPath),
      ("ReplacePrefixMatch", fun d => (required "value" str d).map .replacePrefixMatch)]

def BackendProtocol.fromJson : Json → Option BackendProtocol :=
  variant [("http1", .http1), ("h2c", .h2c)]

def BackendRef.fromJson (d : Json) : Option BackendRef := do
  let «namespace» ← required "namespace" str d
  let name ← required "name" str d
  let port ← required "port" uint16 d
  let weight ← defaulted "weight" 1 uint32 d
  let protocol ← defaulted "protocol" .http1 BackendProtocol.fromJson d
  return { «namespace», name, port, weight, protocol }

/-- The fields of a header modifier. -/
def headerModifierFromJson
    (make : List HeaderValue → List HeaderValue → List String → RouteFilter) (d : Json) :
    Option RouteFilter := do
  let add ← defaulted "add" [] (list HeaderValue.fromJson) d
  let set ← defaulted "set" [] (list HeaderValue.fromJson) d
  let remove ← defaulted "remove" [] (list str) d
  return make add set remove

def requestRedirectFromJson (d : Json) : Option RouteFilter := do
  let scheme ← optionField "scheme" str d
  let hostname ← optionField "hostname" str d
  let port ← optionField "port" uint16 d
  let path ← optionField "path" PathModifier.fromJson d
  let statusCode ← optionField "status_code" uint16 d
  return .requestRedirect scheme hostname port path statusCode

def urlRewriteFromJson (d : Json) : Option RouteFilter := do
  let hostname ← optionField "hostname" str d
  let path ← optionField "path" PathModifier.fromJson d
  return .urlRewrite hostname path

def requestMirrorFromJson (d : Json) : Option RouteFilter := do
  let backend ← required "backend" BackendRef.fromJson d
  let percent ← optionField "percent" uint32 d
  return .requestMirror backend percent

def RouteFilter.fromJson : Json → Option RouteFilter :=
  tagged "type"
    [("RequestHeaderModifier", headerModifierFromJson .requestHeaderModifier),
      ("ResponseHeaderModifier", headerModifierFromJson .responseHeaderModifier),
      ("RequestRedirect", requestRedirectFromJson), ("URLRewrite", urlRewriteFromJson),
      ("RequestMirror", requestMirrorFromJson)]

def TimeoutConfig.fromJson (d : Json) : Option TimeoutConfig := do
  let request ← optionField "request" f64 d
  let backendRequest ← optionField "backend_request" f64 d
  return { request, backendRequest }

def RouteRule.fromJson (d : Json) : Option RouteRule := do
  let name ← optionField "name" str d
  let «matches» ← defaulted "matches" [] (list RouteMatch.fromJson) d
  let filters ← defaulted "filters" [] (list RouteFilter.fromJson) d
  let backends ← defaulted "backends" [] (list BackendRef.fromJson) d
  let timeout ← optionField "timeout" TimeoutConfig.fromJson d
  return { name, «matches», filters, backends, timeout }

def RouteConfig.fromJson (d : Json) : Option RouteConfig := do
  let name ← required "name" str d
  let «namespace» ← required "namespace" str d
  let hostnames ← defaulted "hostnames" [] (list str) d
  let attachedListeners ← defaulted "attached_listeners" [] (list str) d
  let rules ← required "rules" (list RouteRule.fromJson) d
  return { name, «namespace», hostnames, attachedListeners, rules }

def GatewayConfig.fromJson (d : Json) : Option GatewayConfig := do
  let version ← required "version" str d
  let gateway ← required "gateway" GatewayRef.fromJson d
  let listeners ← required "listeners" (list ListenerConfig.fromJson) d
  let routes ← required "routes" (list RouteConfig.fromJson) d
  return { version, gateway, listeners, routes }

/-! ## Reading back what was written -/

@[simp] theorem GatewayRef.fromJson_toJson (g : GatewayRef) : fromJson g.toJson = some g := by
  rfl

@[simp] theorem Protocol.fromJson_toJson (p : Protocol) : fromJson p.toJson = some p := by
  cases p <;> rfl

@[simp] theorem TlsMode.fromJson_toJson (m : TlsMode) : fromJson m.toJson = some m := by
  cases m <;> rfl

@[simp] theorem CertificateRef.fromJson_toJson (c : CertificateRef) :
    fromJson c.toJson = some c := by
  rfl

@[simp] theorem InlineCertificate.fromJson_toJson (c : InlineCertificate) :
    fromJson c.toJson = some c := by
  simp [fromJson, toJson, required, defaulted, named_cons_of_ne, named_nonempty_of_ne,
    pick_nonempty]

@[simp] theorem TlsConfig.fromJson_null : fromJson .null = none := by
  rfl

@[simp] theorem TlsConfig.fromJson_toJson (t : TlsConfig) : fromJson t.toJson = some t := by
  simp [fromJson, toJson, required, defaulted, named_cons_of_ne, named_nonempty_of_ne,
    pick_nonempty, list_map]

@[simp] theorem ListenerConfig.fromJson_toJson (l : ListenerConfig) :
    fromJson l.toJson = some l := by
  simp [fromJson, toJson, required, optionField, named_cons_of_ne, named_optional_of_ne,
    pick_optional]

@[simp] theorem PathMatchType.fromJson_toJson (m : PathMatchType) :
    fromJson m.toJson = some m := by
  cases m <;> rfl

@[simp] theorem PathMatch.fromJson_null : fromJson .null = none := by
  rfl

@[simp] theorem PathMatch.fromJson_toJson (p : PathMatch) : fromJson p.toJson = some p := by
  simp [fromJson, toJson, required, named_cons_of_ne]

@[simp] theorem HeaderMatchType.fromJson_toJson (m : HeaderMatchType) :
    fromJson m.toJson = some m := by
  cases m <;> rfl

@[simp] theorem HeaderMatch.fromJson_toJson (h : HeaderMatch) : fromJson h.toJson = some h := by
  simp [fromJson, toJson, required, named_cons_of_ne]

@[simp] theorem QueryParamMatchType.fromJson_toJson (m : QueryParamMatchType) :
    fromJson m.toJson = some m := by
  cases m <;> rfl

@[simp] theorem QueryParamMatch.fromJson_toJson (q : QueryParamMatch) :
    fromJson q.toJson = some q := by
  simp [fromJson, toJson, required, named_cons_of_ne]

@[simp] theorem RouteMatch.fromJson_toJson (m : RouteMatch) : fromJson m.toJson = some m := by
  simp [fromJson, toJson, optionField, defaulted, named_optional_of_ne, named_nonempty_of_ne,
    pick_optional, pick_nonempty]

@[simp] theorem HeaderValue.fromJson_toJson (h : HeaderValue) : fromJson h.toJson = some h := by
  rfl

@[simp] theorem PathModifier.fromJson_null : fromJson .null = none := by
  rfl

@[simp] theorem PathModifier.fromJson_toJson (p : PathModifier) : fromJson p.toJson = some p := by
  cases p <;> rfl

@[simp] theorem BackendProtocol.fromJson_toJson (p : BackendProtocol) :
    fromJson p.toJson = some p := by
  cases p <;> rfl

@[simp] theorem BackendRef.fromJson_toJson (b : BackendRef) : fromJson b.toJson = some b := by
  simp [fromJson, toJson, required, defaulted, named_cons_of_ne]

theorem headerModifierFromJson_toJson
    (make : List HeaderValue → List HeaderValue → List String → RouteFilter) (tag : String)
    (add set : List HeaderValue) (remove : List String) :
    headerModifierFromJson make (headerModifierToJson tag add set remove) =
      some (make add set remove) := by
  simp [headerModifierFromJson, headerModifierToJson, Json.strs, defaulted, named_cons_of_ne,
    list_map]

theorem requestRedirectFromJson_toJson (scheme hostname : Option String) (port : Option UInt16)
    (path : Option PathModifier) (statusCode : Option UInt16) :
    requestRedirectFromJson
        (RouteFilter.requestRedirect scheme hostname port path statusCode).toJson =
      some (.requestRedirect scheme hostname port path statusCode) := by
  simp [requestRedirectFromJson, RouteFilter.toJson, optionField, named_cons_of_ne,
    named_optional_of_ne, pick_optional]

theorem urlRewriteFromJson_toJson (hostname : Option String) (path : Option PathModifier) :
    urlRewriteFromJson (RouteFilter.urlRewrite hostname path).toJson =
      some (.urlRewrite hostname path) := by
  simp [urlRewriteFromJson, RouteFilter.toJson, optionField, named_cons_of_ne,
    named_optional_of_ne, pick_optional]

theorem requestMirrorFromJson_toJson (backend : BackendRef) (percent : Option UInt32) :
    requestMirrorFromJson (RouteFilter.requestMirror backend percent).toJson =
      some (.requestMirror backend percent) := by
  simp [requestMirrorFromJson, RouteFilter.toJson, required, optionField, named_cons_of_ne,
    named_optional_of_ne, pick_optional]

/-- The tag a filter is written with. -/
def RouteFilter.tag : RouteFilter → String
  | .requestHeaderModifier .. => "RequestHeaderModifier"
  | .responseHeaderModifier .. => "ResponseHeaderModifier"
  | .requestRedirect .. => "RequestRedirect"
  | .urlRewrite .. => "URLRewrite"
  | .requestMirror .. => "RequestMirror"

/-- Only the tag is written as `type`. -/
theorem RouteFilter.tag_toJson (f : RouteFilter) : required "type" str f.toJson = some f.tag := by
  cases f <;>
    simp [toJson, headerModifierToJson, tag, required, named_cons_of_ne, named_optional_of_ne]

@[simp] theorem RouteFilter.fromJson_toJson (f : RouteFilter) : fromJson f.toJson = some f := by
  unfold fromJson tagged
  rw [f.tag_toJson]
  cases f with
  | requestHeaderModifier add set remove => exact headerModifierFromJson_toJson _ _ add set remove
  | responseHeaderModifier add set remove => exact headerModifierFromJson_toJson _ _ add set remove
  | requestRedirect scheme hostname port path statusCode =>
    exact requestRedirectFromJson_toJson scheme hostname port path statusCode
  | urlRewrite hostname path => exact urlRewriteFromJson_toJson hostname path
  | requestMirror backend percent => exact requestMirrorFromJson_toJson backend percent

/-! Timeouts are the one thing that need not come back. -/

def TimeoutConfig.isFinite (t : TimeoutConfig) : Bool :=
  t.request.all F64.isFinite && t.backendRequest.all F64.isFinite

def RouteRule.isFinite (r : RouteRule) : Bool := r.timeout.all TimeoutConfig.isFinite

/-- Every timeout is finite. -/
def GatewayConfig.finiteTimeouts (c : GatewayConfig) : Bool :=
  c.routes.all fun route => route.rules.all RouteRule.isFinite

theorem TimeoutConfig.fromJson_toJson {t : TimeoutConfig} (h : t.isFinite = true) :
    fromJson t.toJson = some t := by
  obtain ⟨hrequest, hbackend⟩ := Bool.and_eq_true_iff.mp h
  simp only [Option.all_eq_true] at hrequest hbackend
  have hread : ∀ (o : Option F64) (name : String), (∀ x, o = some x → x.isFinite = true) →
      pick (some none) (optionOf f64) (Json.optional name .ofF64 o) = some o :=
    fun o name ho => pick_optional f64_null fun x hx => f64_ofF64 (ho x hx)
  simp [fromJson, toJson, optionField, named_optional_of_ne, hread _ _ hrequest,
    hread _ _ hbackend]

@[simp] theorem TimeoutConfig.fromJson_null : fromJson .null = none := by
  rfl

theorem RouteRule.fromJson_toJson {r : RouteRule} (h : r.isFinite = true) :
    fromJson r.toJson = some r := by
  have htimeout : pick (some none) (optionOf TimeoutConfig.fromJson)
      (Json.optional "timeout" TimeoutConfig.toJson r.timeout) = some r.timeout :=
    pick_optional TimeoutConfig.fromJson_null fun t ht =>
      TimeoutConfig.fromJson_toJson (Option.all_eq_true _ _ |>.mp h t ht)
  simp [fromJson, toJson, defaulted, optionField, named_cons_of_ne, named_optional_of_ne,
    pick_optional, list_map, htimeout]

theorem RouteConfig.fromJson_toJson {r : RouteConfig} (h : ∀ rule ∈ r.rules, rule.isFinite = true) :
    fromJson r.toJson = some r := by
  have hrules : list RouteRule.fromJson (.arr (r.rules.map RouteRule.toJson)) = some r.rules :=
    list_map fun rule hrule => RouteRule.fromJson_toJson (h rule hrule)
  simp [fromJson, toJson, Json.strs, required, defaulted, named_cons_of_ne, list_map, hrules]

/-- **A configuration is read back as it was written.** -/
theorem GatewayConfig.fromJson_toJson {c : GatewayConfig} (h : c.finiteTimeouts = true) :
    fromJson c.toJson = some c := by
  unfold finiteTimeouts at h
  simp only [List.all_eq_true] at h
  have hroutes : list RouteConfig.fromJson (.arr (c.routes.map RouteConfig.toJson)) =
      some c.routes :=
    list_map fun route hroute => RouteConfig.fromJson_toJson (h route hroute)
  simp [fromJson, toJson, required, named_cons_of_ne, list_map, hroutes]

end Multiway.ControlPlane
