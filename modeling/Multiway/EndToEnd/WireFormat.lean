import Multiway.ControlPlane.Wire
import Multiway.ProxyCore.Wire

/-!
# The wire format

The control plane writes a `GatewayConfig`, the data plane reads a
`ProxyConfig`: two trees of types written apart. `translate` takes one to the
other field by field. Both sides print a configuration alike
(`toJson_translate`), and every document, whoever wrote it, is read on one side
as the translation of what the other reads (`fromJson_translate`). So what is
sent arrives, and comes back.
-/

namespace Multiway.EndToEnd

open Multiway.Lib
open Multiway.Lib.Serde

/-! ## The translation -/

def translateGatewayRef (g : ControlPlane.GatewayRef) : ProxyCore.GatewayRef where
  «namespace» := g.namespace
  name := g.name

def translateProtocol : ControlPlane.Protocol → ProxyCore.Protocol
  | .http => .http
  | .https => .https

def translateTlsMode : ControlPlane.TlsMode → ProxyCore.TlsMode
  | .terminate => .terminate
  | .passthrough => .passthrough

def translateCertificateRef (c : ControlPlane.CertificateRef) : ProxyCore.CertificateRef where
  «namespace» := c.namespace
  name := c.name

def translateInlineCertificate (c : ControlPlane.InlineCertificate) :
    ProxyCore.InlineCertificate where
  certPem := c.certPem
  keyPem := c.keyPem
  hostnames := c.hostnames

def translateTlsConfig (t : ControlPlane.TlsConfig) : ProxyCore.TlsConfig where
  mode := translateTlsMode t.mode
  certificates := t.certificates.map translateCertificateRef
  inlineCertificates := t.inlineCertificates.map translateInlineCertificate

def translateListener (l : ControlPlane.ListenerConfig) : ProxyCore.ListenerConfig where
  name := l.name
  port := l.port
  protocol := translateProtocol l.protocol
  hostname := l.hostname
  tls := l.tls.map translateTlsConfig

def translatePathMatchType : ControlPlane.PathMatchType → ProxyCore.PathMatchType
  | .exact => .exact
  | .pathPrefix => .pathPrefix
  | .regularExpression => .regularExpression

def translatePathMatch (p : ControlPlane.PathMatch) : ProxyCore.PathMatch where
  matchType := translatePathMatchType p.matchType
  value := p.value

def translateHeaderMatchType : ControlPlane.HeaderMatchType → ProxyCore.HeaderMatchType
  | .exact => .exact
  | .regularExpression => .regularExpression

def translateHeaderMatch (h : ControlPlane.HeaderMatch) : ProxyCore.HeaderMatch where
  name := h.name
  matchType := translateHeaderMatchType h.matchType
  value := h.value

def translateQueryParamMatchType :
    ControlPlane.QueryParamMatchType → ProxyCore.QueryParamMatchType
  | .exact => .exact
  | .regularExpression => .regularExpression

def translateQueryParamMatch (q : ControlPlane.QueryParamMatch) : ProxyCore.QueryParamMatch where
  name := q.name
  matchType := translateQueryParamMatchType q.matchType
  value := q.value

def translateMatch (m : ControlPlane.RouteMatch) : ProxyCore.RouteMatch where
  path := m.path.map translatePathMatch
  headers := m.headers.map translateHeaderMatch
  queryParams := m.queryParams.map translateQueryParamMatch
  method := m.method

def translateHeaderValue (h : ControlPlane.HeaderValue) : ProxyCore.HeaderValue where
  name := h.name
  value := h.value

def translatePathModifier : ControlPlane.PathModifier → ProxyCore.PathModifier
  | .replaceFullPath value => .replaceFullPath value
  | .replacePrefixMatch value => .replacePrefixMatch value

def translateBackendProtocol : ControlPlane.BackendProtocol → ProxyCore.BackendProtocol
  | .http1 => .http1
  | .h2c => .h2c

def translateBackend (b : ControlPlane.BackendRef) : ProxyCore.Backend where
  «namespace» := b.namespace
  name := b.name
  port := b.port
  weight := b.weight
  protocol := translateBackendProtocol b.protocol

def translateFilter : ControlPlane.RouteFilter → ProxyCore.Filter
  | .requestHeaderModifier add set remove =>
    .requestHeaderModifier (add.map translateHeaderValue) (set.map translateHeaderValue) remove
  | .responseHeaderModifier add set remove =>
    .responseHeaderModifier (add.map translateHeaderValue) (set.map translateHeaderValue) remove
  | .requestRedirect scheme hostname port path statusCode =>
    .requestRedirect scheme hostname port (path.map translatePathModifier) statusCode
  | .urlRewrite hostname path => .urlRewrite hostname (path.map translatePathModifier)
  | .requestMirror backend percent => .requestMirror (translateBackend backend) percent

def translateTimeout (t : ControlPlane.TimeoutConfig) : ProxyCore.TimeoutConfig where
  request := t.request
  backendRequest := t.backendRequest

def translateRule (r : ControlPlane.RouteRule) : ProxyCore.RouteRule where
  name := r.name
  «matches» := r.matches.map translateMatch
  filters := r.filters.map translateFilter
  backends := r.backends.map translateBackend
  timeout := r.timeout.map translateTimeout

def translateRoute (r : ControlPlane.RouteConfig) : ProxyCore.RouteConfig where
  name := r.name
  «namespace» := r.namespace
  hostnames := r.hostnames
  attachedListeners := r.attachedListeners
  rules := r.rules.map translateRule

/-- A configuration of the control plane as the data plane's types have it. -/
def translate (c : ControlPlane.GatewayConfig) : ProxyCore.ProxyConfig where
  version := c.version
  gateway := translateGatewayRef c.gateway
  listeners := c.listeners.map translateListener
  routes := c.routes.map translateRoute

/-! ## Printed alike -/

@[simp] theorem toJson_translateGatewayRef (g : ControlPlane.GatewayRef) :
    (translateGatewayRef g).toJson = g.toJson := rfl

@[simp] theorem toJson_translateProtocol (p : ControlPlane.Protocol) :
    (translateProtocol p).toJson = p.toJson := by
  cases p <;> rfl

@[simp] theorem toJson_translateTlsMode (m : ControlPlane.TlsMode) :
    (translateTlsMode m).toJson = m.toJson := by
  cases m <;> rfl

@[simp] theorem toJson_translateCertificateRef (c : ControlPlane.CertificateRef) :
    (translateCertificateRef c).toJson = c.toJson := rfl

@[simp] theorem toJson_translateInlineCertificate (c : ControlPlane.InlineCertificate) :
    (translateInlineCertificate c).toJson = c.toJson := rfl

@[simp] theorem toJson_translateTlsConfig (t : ControlPlane.TlsConfig) :
    (translateTlsConfig t).toJson = t.toJson := by
  simp [ProxyCore.TlsConfig.toJson, ControlPlane.TlsConfig.toJson, translateTlsConfig,
    nonempty_map]

@[simp] theorem toJson_translateListener (l : ControlPlane.ListenerConfig) :
    (translateListener l).toJson = l.toJson := by
  simp [ProxyCore.ListenerConfig.toJson, ControlPlane.ListenerConfig.toJson, translateListener,
    optional_map]

@[simp] theorem toJson_translatePathMatchType (m : ControlPlane.PathMatchType) :
    (translatePathMatchType m).toJson = m.toJson := by
  cases m <;> rfl

@[simp] theorem toJson_translatePathMatch (p : ControlPlane.PathMatch) :
    (translatePathMatch p).toJson = p.toJson := by
  simp [ProxyCore.PathMatch.toJson, ControlPlane.PathMatch.toJson, translatePathMatch]

@[simp] theorem toJson_translateHeaderMatchType (m : ControlPlane.HeaderMatchType) :
    (translateHeaderMatchType m).toJson = m.toJson := by
  cases m <;> rfl

@[simp] theorem toJson_translateHeaderMatch (h : ControlPlane.HeaderMatch) :
    (translateHeaderMatch h).toJson = h.toJson := by
  simp [ProxyCore.HeaderMatch.toJson, ControlPlane.HeaderMatch.toJson, translateHeaderMatch]

@[simp] theorem toJson_translateQueryParamMatchType (m : ControlPlane.QueryParamMatchType) :
    (translateQueryParamMatchType m).toJson = m.toJson := by
  cases m <;> rfl

@[simp] theorem toJson_translateQueryParamMatch (q : ControlPlane.QueryParamMatch) :
    (translateQueryParamMatch q).toJson = q.toJson := by
  simp [ProxyCore.QueryParamMatch.toJson, ControlPlane.QueryParamMatch.toJson,
    translateQueryParamMatch]

@[simp] theorem toJson_translateMatch (m : ControlPlane.RouteMatch) :
    (translateMatch m).toJson = m.toJson := by
  simp [ProxyCore.RouteMatch.toJson, ControlPlane.RouteMatch.toJson, translateMatch,
    optional_map, nonempty_map]

@[simp] theorem toJson_translateHeaderValue (h : ControlPlane.HeaderValue) :
    (translateHeaderValue h).toJson = h.toJson := rfl

@[simp] theorem toJson_translatePathModifier (p : ControlPlane.PathModifier) :
    (translatePathModifier p).toJson = p.toJson := by
  cases p <;> rfl

@[simp] theorem toJson_translateBackendProtocol (p : ControlPlane.BackendProtocol) :
    (translateBackendProtocol p).toJson = p.toJson := by
  cases p <;> rfl

@[simp] theorem toJson_translateBackend (b : ControlPlane.BackendRef) :
    (translateBackend b).toJson = b.toJson := by
  simp [ProxyCore.Backend.toJson, ControlPlane.BackendRef.toJson, translateBackend]

@[simp] theorem toJson_translateFilter (f : ControlPlane.RouteFilter) :
    (translateFilter f).toJson = f.toJson := by
  cases f <;>
    simp [ProxyCore.Filter.toJson, ControlPlane.RouteFilter.toJson, translateFilter,
      ProxyCore.headerModifierToJson, ControlPlane.headerModifierToJson, optional_map,
      Function.comp_def]

@[simp] theorem toJson_translateTimeout (t : ControlPlane.TimeoutConfig) :
    (translateTimeout t).toJson = t.toJson := rfl

@[simp] theorem toJson_translateRule (r : ControlPlane.RouteRule) :
    (translateRule r).toJson = r.toJson := by
  simp [ProxyCore.RouteRule.toJson, ControlPlane.RouteRule.toJson, translateRule, optional_map,
    Function.comp_def]

@[simp] theorem toJson_translateRoute (r : ControlPlane.RouteConfig) :
    (translateRoute r).toJson = r.toJson := by
  simp [ProxyCore.RouteConfig.toJson, ControlPlane.RouteConfig.toJson, translateRoute,
    Function.comp_def]

/-- **Both planes print a configuration alike.** -/
theorem toJson_translate (c : ControlPlane.GatewayConfig) : (translate c).toJson = c.toJson := by
  simp [ProxyCore.ProxyConfig.toJson, ControlPlane.GatewayConfig.toJson, translate,
    Function.comp_def]

/-! ## Read alike -/

theorem fromJson_translateGatewayRef :
    ProxyCore.GatewayRef.fromJson = fun d =>
      (ControlPlane.GatewayRef.fromJson d).map translateGatewayRef := by
  funext d
  simp [ProxyCore.GatewayRef.fromJson, ControlPlane.GatewayRef.fromJson, translateGatewayRef,
    Option.map_bind, Function.comp_def]

theorem fromJson_translateProtocol :
    ProxyCore.Protocol.fromJson = fun d =>
      (ControlPlane.Protocol.fromJson d).map translateProtocol :=
  map_variant rfl

theorem fromJson_translateTlsMode :
    ProxyCore.TlsMode.fromJson = fun d =>
      (ControlPlane.TlsMode.fromJson d).map translateTlsMode :=
  map_variant rfl

theorem fromJson_translateCertificateRef :
    ProxyCore.CertificateRef.fromJson = fun d =>
      (ControlPlane.CertificateRef.fromJson d).map translateCertificateRef := by
  funext d
  simp [ProxyCore.CertificateRef.fromJson, ControlPlane.CertificateRef.fromJson,
    translateCertificateRef, Option.map_bind, Function.comp_def]

theorem fromJson_translateInlineCertificate :
    ProxyCore.InlineCertificate.fromJson = fun d =>
      (ControlPlane.InlineCertificate.fromJson d).map translateInlineCertificate := by
  funext d
  simp [ProxyCore.InlineCertificate.fromJson, ControlPlane.InlineCertificate.fromJson,
    translateInlineCertificate, Option.map_bind, Function.comp_def]

theorem fromJson_translateTlsConfig :
    ProxyCore.TlsConfig.fromJson = fun d =>
      (ControlPlane.TlsConfig.fromJson d).map translateTlsConfig := by
  funext d
  simp [ProxyCore.TlsConfig.fromJson, ControlPlane.TlsConfig.fromJson, translateTlsConfig,
    fromJson_translateTlsMode, fromJson_translateCertificateRef,
    fromJson_translateInlineCertificate, map_required, map_defaulted_nil, map_list,
    Option.map_bind, Option.bind_map, Function.comp_def]

theorem fromJson_translateListener :
    ProxyCore.ListenerConfig.fromJson = fun d =>
      (ControlPlane.ListenerConfig.fromJson d).map translateListener := by
  funext d
  simp [ProxyCore.ListenerConfig.fromJson, ControlPlane.ListenerConfig.fromJson, translateListener,
    fromJson_translateProtocol, fromJson_translateTlsConfig, map_required, map_optionField,
    Option.map_bind, Option.bind_map, Function.comp_def]

theorem fromJson_translatePathMatchType :
    ProxyCore.PathMatchType.fromJson = fun d =>
      (ControlPlane.PathMatchType.fromJson d).map translatePathMatchType :=
  map_variant rfl

theorem fromJson_translatePathMatch :
    ProxyCore.PathMatch.fromJson = fun d =>
      (ControlPlane.PathMatch.fromJson d).map translatePathMatch := by
  funext d
  simp [ProxyCore.PathMatch.fromJson, ControlPlane.PathMatch.fromJson, translatePathMatch,
    fromJson_translatePathMatchType, map_required,
    Option.map_bind, Option.bind_map, Function.comp_def]

theorem fromJson_translateHeaderMatchType :
    ProxyCore.HeaderMatchType.fromJson = fun d =>
      (ControlPlane.HeaderMatchType.fromJson d).map translateHeaderMatchType :=
  map_variant rfl

theorem fromJson_translateHeaderMatch :
    ProxyCore.HeaderMatch.fromJson = fun d =>
      (ControlPlane.HeaderMatch.fromJson d).map translateHeaderMatch := by
  funext d
  simp [ProxyCore.HeaderMatch.fromJson, ControlPlane.HeaderMatch.fromJson, translateHeaderMatch,
    fromJson_translateHeaderMatchType, map_required,
    Option.map_bind, Option.bind_map, Function.comp_def]

theorem fromJson_translateQueryParamMatchType :
    ProxyCore.QueryParamMatchType.fromJson = fun d =>
      (ControlPlane.QueryParamMatchType.fromJson d).map translateQueryParamMatchType :=
  map_variant rfl

theorem fromJson_translateQueryParamMatch :
    ProxyCore.QueryParamMatch.fromJson = fun d =>
      (ControlPlane.QueryParamMatch.fromJson d).map translateQueryParamMatch := by
  funext d
  simp [ProxyCore.QueryParamMatch.fromJson, ControlPlane.QueryParamMatch.fromJson,
    translateQueryParamMatch, fromJson_translateQueryParamMatchType, map_required,
    Option.map_bind, Option.bind_map, Function.comp_def]

theorem fromJson_translateMatch :
    ProxyCore.RouteMatch.fromJson = fun d =>
      (ControlPlane.RouteMatch.fromJson d).map translateMatch := by
  funext d
  simp [ProxyCore.RouteMatch.fromJson, ControlPlane.RouteMatch.fromJson, translateMatch,
    fromJson_translatePathMatch, fromJson_translateHeaderMatch, fromJson_translateQueryParamMatch,
    map_optionField, map_defaulted_nil, map_list,
    Option.map_bind, Option.bind_map, Function.comp_def]

theorem fromJson_translateHeaderValue :
    ProxyCore.HeaderValue.fromJson = fun d =>
      (ControlPlane.HeaderValue.fromJson d).map translateHeaderValue := by
  funext d
  simp [ProxyCore.HeaderValue.fromJson, ControlPlane.HeaderValue.fromJson, translateHeaderValue,
    Option.map_bind, Function.comp_def]

theorem fromJson_translatePathModifier :
    ProxyCore.PathModifier.fromJson = fun d =>
      (ControlPlane.PathModifier.fromJson d).map translatePathModifier := by
  refine map_tagged ?_
  simp [translatePathModifier, Function.comp_def]

theorem fromJson_translateBackendProtocol :
    ProxyCore.BackendProtocol.fromJson = fun d =>
      (ControlPlane.BackendProtocol.fromJson d).map translateBackendProtocol :=
  map_variant rfl

theorem fromJson_translateBackend :
    ProxyCore.Backend.fromJson = fun d =>
      (ControlPlane.BackendRef.fromJson d).map translateBackend := by
  funext d
  have hprotocol : defaulted "protocol" ProxyCore.BackendProtocol.http1
      (fun d => (ControlPlane.BackendProtocol.fromJson d).map translateBackendProtocol) d =
        (defaulted "protocol" .http1 ControlPlane.BackendProtocol.fromJson d).map
          translateBackendProtocol := map_defaulted rfl
  simp [ProxyCore.Backend.fromJson, ControlPlane.BackendRef.fromJson, translateBackend,
    fromJson_translateBackendProtocol, hprotocol, Option.map_bind, Option.bind_map,
    Function.comp_def]

/-- Whatever is made of the three lists. -/
theorem fromJson_translateHeaderModifier
    {make : List ControlPlane.HeaderValue → List ControlPlane.HeaderValue → List String →
      ControlPlane.RouteFilter}
    {make' : List ProxyCore.HeaderValue → List ProxyCore.HeaderValue → List String →
      ProxyCore.Filter}
    (h : ∀ add set remove, make' (add.map translateHeaderValue) (set.map translateHeaderValue)
      remove = translateFilter (make add set remove)) :
    ProxyCore.headerModifierFromJson make' = fun d =>
      (ControlPlane.headerModifierFromJson make d).map translateFilter := by
  funext d
  simp [ProxyCore.headerModifierFromJson, ControlPlane.headerModifierFromJson, h,
    fromJson_translateHeaderValue, map_defaulted_nil, map_list, Option.map_bind, Option.bind_map]

theorem fromJson_translateRedirect :
    ProxyCore.requestRedirectFromJson = fun d =>
      (ControlPlane.requestRedirectFromJson d).map translateFilter := by
  funext d
  simp [ProxyCore.requestRedirectFromJson, ControlPlane.requestRedirectFromJson, translateFilter,
    fromJson_translatePathModifier, map_optionField, Option.map_bind, Option.bind_map,
    Function.comp_def]

theorem fromJson_translateRewrite :
    ProxyCore.urlRewriteFromJson = fun d =>
      (ControlPlane.urlRewriteFromJson d).map translateFilter := by
  funext d
  simp [ProxyCore.urlRewriteFromJson, ControlPlane.urlRewriteFromJson, translateFilter,
    fromJson_translatePathModifier, map_optionField, Option.map_bind, Option.bind_map,
    Function.comp_def]

theorem fromJson_translateMirror :
    ProxyCore.requestMirrorFromJson = fun d =>
      (ControlPlane.requestMirrorFromJson d).map translateFilter := by
  funext d
  simp [ProxyCore.requestMirrorFromJson, ControlPlane.requestMirrorFromJson, translateFilter,
    fromJson_translateBackend, map_required, Option.map_bind, Option.bind_map, Function.comp_def]

theorem fromJson_translateFilter :
    ProxyCore.Filter.fromJson = fun d =>
      (ControlPlane.RouteFilter.fromJson d).map translateFilter := by
  have hrequest : ProxyCore.headerModifierFromJson .requestHeaderModifier = fun d =>
      (ControlPlane.headerModifierFromJson .requestHeaderModifier d).map translateFilter :=
    fromJson_translateHeaderModifier fun _ _ _ => rfl
  have hresponse : ProxyCore.headerModifierFromJson .responseHeaderModifier = fun d =>
      (ControlPlane.headerModifierFromJson .responseHeaderModifier d).map translateFilter :=
    fromJson_translateHeaderModifier fun _ _ _ => rfl
  refine map_tagged ?_
  rw [hrequest, hresponse, fromJson_translateRedirect, fromJson_translateRewrite,
    fromJson_translateMirror]
  rfl

theorem fromJson_translateTimeout :
    ProxyCore.TimeoutConfig.fromJson = fun d =>
      (ControlPlane.TimeoutConfig.fromJson d).map translateTimeout := by
  funext d
  simp [ProxyCore.TimeoutConfig.fromJson, ControlPlane.TimeoutConfig.fromJson, translateTimeout,
    Option.map_bind, Function.comp_def]

theorem fromJson_translateRule :
    ProxyCore.RouteRule.fromJson = fun d =>
      (ControlPlane.RouteRule.fromJson d).map translateRule := by
  funext d
  simp [ProxyCore.RouteRule.fromJson, ControlPlane.RouteRule.fromJson, translateRule,
    fromJson_translateMatch, fromJson_translateFilter, fromJson_translateBackend,
    fromJson_translateTimeout, map_optionField, map_defaulted_nil, map_list, Option.map_bind,
    Option.bind_map, Function.comp_def]

theorem fromJson_translateRoute :
    ProxyCore.RouteConfig.fromJson = fun d =>
      (ControlPlane.RouteConfig.fromJson d).map translateRoute := by
  funext d
  simp [ProxyCore.RouteConfig.fromJson, ControlPlane.RouteConfig.fromJson, translateRoute,
    fromJson_translateRule, map_required, map_list, Option.map_bind, Option.bind_map,
    Function.comp_def]

/-- **Both planes read a document alike**, whoever wrote it. -/
theorem fromJson_translate (d : Json) :
    ProxyCore.ProxyConfig.fromJson d = (ControlPlane.GatewayConfig.fromJson d).map translate := by
  simp [ProxyCore.ProxyConfig.fromJson, ControlPlane.GatewayConfig.fromJson, translate,
    fromJson_translateGatewayRef, fromJson_translateListener, fromJson_translateRoute,
    map_required, map_list, Option.map_bind, Option.bind_map, Function.comp_def]

/-- **The wire format.** What the control plane writes arrives as its
translation, and what the data plane writes of that is read back as it was. -/
theorem wire_compatible (c : ControlPlane.GatewayConfig) (h : c.finiteTimeouts = true) :
    ProxyCore.ProxyConfig.fromJson c.toJson = some (translate c) ∧
      ControlPlane.GatewayConfig.fromJson (translate c).toJson = some c := by
  have hread := ControlPlane.GatewayConfig.fromJson_toJson h
  constructor
  · rw [fromJson_translate, hread]
    rfl
  · rw [toJson_translate, hread]

/-- A configuration with a rule of every kind of field. -/
def sampleConfig : ControlPlane.GatewayConfig where
  gateway := { «namespace» := "default", name := "gw" }
  listeners :=
    [{ name := "https", port := 443, protocol := .https, hostname := some "*.example.com"
       tls := some
         { mode := .terminate
           certificates := [{ «namespace» := "default", name := "cert" }]
           inlineCertificates := [{ certPem := "CERT", keyPem := "KEY", hostnames := [] }] } }]
  routes :=
    [{ name := "a", «namespace» := "default", attachedListeners := ["https"]
       rules :=
         [{ «matches» := [{ path := some { value := "/api" }, method := some "GET" }]
            filters := [.urlRewrite none (some (.replaceFullPath "/v2")),
              .requestRedirect none none (some 8443) none (some 301)]
            backends := [{ «namespace» := "default", name := "svc", port := 80 }]
            timeout := some { request := some (.finite 10), backendRequest := none } }] }]

theorem sampleConfig_arrives :
    ProxyCore.ProxyConfig.fromJson sampleConfig.toJson = some (translate sampleConfig) ∧
      ControlPlane.GatewayConfig.fromJson (translate sampleConfig).toJson = some sampleConfig :=
  wire_compatible sampleConfig rfl

end Multiway.EndToEnd
