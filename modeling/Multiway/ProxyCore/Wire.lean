import Multiway.Lib.Serde
import Multiway.ProxyCore.Config

/-!
# The configuration as JSON (`proxy-core/src/config.rs`)

What serde derives for the types of `Config`, writers and readers, from the
attributes written there. The schema is the control plane's; that the two
agree is not assumed here but proved where both are at hand.
-/

namespace Multiway.ProxyCore

open Multiway.Lib
open Multiway.Lib.Serde

/-! ## Writers -/

def GatewayRef.toJson (g : GatewayRef) : Json :=
  .obj [("namespace", .str g.namespace), ("name", .str g.name)]

def Protocol.toJson : Protocol → Json
  | .http => .str "HTTP"
  | .https => .str "HTTPS"

def TlsMode.toJson : TlsMode → Json
  | .terminate => .str "terminate"
  | .passthrough => .str "passthrough"

def CertificateRef.toJson (c : CertificateRef) : Json :=
  .obj [("namespace", .str c.namespace), ("name", .str c.name)]

def InlineCertificate.toJson (c : InlineCertificate) : Json :=
  .obj ([("cert_pem", .str c.certPem), ("key_pem", .str c.keyPem)] ++
    Json.nonempty "hostnames" .str c.hostnames)

def TlsConfig.toJson (t : TlsConfig) : Json :=
  .obj ([("mode", t.mode.toJson), ("certificates", .arr (t.certificates.map CertificateRef.toJson))]
    ++ Json.nonempty "inline_certificates" InlineCertificate.toJson t.inlineCertificates)

def ListenerConfig.toJson (l : ListenerConfig) : Json :=
  .obj ([("name", .str l.name), ("port", .ofNat l.port.toNat), ("protocol", l.protocol.toJson)] ++
    Json.optional "hostname" .str l.hostname ++ Json.optional "tls" TlsConfig.toJson l.tls)

def PathMatchType.toJson : PathMatchType → Json
  | .exact => .str "Exact"
  | .pathPrefix => .str "PathPrefix"
  | .regularExpression => .str "RegularExpression"

def PathMatch.toJson (p : PathMatch) : Json :=
  .obj [("type", p.matchType.toJson), ("value", .str p.value)]

def HeaderMatchType.toJson : HeaderMatchType → Json
  | .exact => .str "Exact"
  | .regularExpression => .str "RegularExpression"

def HeaderMatch.toJson (h : HeaderMatch) : Json :=
  .obj [("name", .str h.name), ("type", h.matchType.toJson), ("value", .str h.value)]

def QueryParamMatchType.toJson : QueryParamMatchType → Json
  | .exact => .str "Exact"
  | .regularExpression => .str "RegularExpression"

def QueryParamMatch.toJson (q : QueryParamMatch) : Json :=
  .obj [("name", .str q.name), ("type", q.matchType.toJson), ("value", .str q.value)]

def RouteMatch.toJson (m : RouteMatch) : Json :=
  .obj (Json.optional "path" PathMatch.toJson m.path ++
    Json.nonempty "headers" HeaderMatch.toJson m.headers ++
    Json.nonempty "query_params" QueryParamMatch.toJson m.queryParams ++
    Json.optional "method" .str m.method)

def HeaderValue.toJson (h : HeaderValue) : Json :=
  .obj [("name", .str h.name), ("value", .str h.value)]

def PathModifier.toJson : PathModifier → Json
  | .replaceFullPath value => .obj [("type", .str "ReplaceFullPath"), ("value", .str value)]
  | .replacePrefixMatch value => .obj [("type", .str "ReplacePrefixMatch"), ("value", .str value)]

def BackendProtocol.toJson : BackendProtocol → Json
  | .http1 => .str "http1"
  | .h2c => .str "h2c"

def Backend.toJson (b : Backend) : Json :=
  .obj [("namespace", .str b.namespace), ("name", .str b.name), ("port", .ofNat b.port.toNat),
    ("weight", .ofNat b.weight.toNat), ("protocol", b.protocol.toJson)]

/-- The fields of a header modifier. -/
def headerModifierToJson (tag : String) (add set : List HeaderValue) (remove : List String) :
    Json :=
  .obj [("type", .str tag), ("add", .arr (add.map HeaderValue.toJson)),
    ("set", .arr (set.map HeaderValue.toJson)), ("remove", Json.strs remove)]

def Filter.toJson : Filter → Json
  | .requestHeaderModifier add set remove =>
    headerModifierToJson "RequestHeaderModifier" add set remove
  | .responseHeaderModifier add set remove =>
    headerModifierToJson "ResponseHeaderModifier" add set remove
  | .requestRedirect scheme hostname port path statusCode =>
    .obj ([("type", .str "RequestRedirect")] ++ Json.optional "scheme" .str scheme ++
      Json.optional "hostname" .str hostname ++
      Json.optional "port" (fun p => .ofNat p.toNat) port ++
      Json.optional "path" PathModifier.toJson path ++
      Json.optional "status_code" (fun c => .ofNat c.toNat) statusCode)
  | .urlRewrite hostname path =>
    .obj ([("type", .str "URLRewrite")] ++ Json.optional "hostname" .str hostname ++
      Json.optional "path" PathModifier.toJson path)
  | .requestMirror backend percent =>
    .obj ([("type", .str "RequestMirror"), ("backend", backend.toJson)] ++
      Json.optional "percent" (fun p => .ofNat p.toNat) percent)

def TimeoutConfig.toJson (t : TimeoutConfig) : Json :=
  .obj (Json.optional "request" .ofF64 t.request ++
    Json.optional "backend_request" .ofF64 t.backendRequest)

def RouteRule.toJson (r : RouteRule) : Json :=
  .obj (Json.optional "name" .str r.name ++
    [("matches", .arr (r.matches.map RouteMatch.toJson)),
      ("filters", .arr (r.filters.map Filter.toJson)),
      ("backends", .arr (r.backends.map Backend.toJson))] ++
    Json.optional "timeout" TimeoutConfig.toJson r.timeout)

def RouteConfig.toJson (r : RouteConfig) : Json :=
  .obj [("name", .str r.name), ("namespace", .str r.namespace),
    ("hostnames", Json.strs r.hostnames), ("attached_listeners", Json.strs r.attachedListeners),
    ("rules", .arr (r.rules.map RouteRule.toJson))]

def ProxyConfig.toJson (c : ProxyConfig) : Json :=
  .obj [("version", .str c.version), ("gateway", c.gateway.toJson),
    ("listeners", .arr (c.listeners.map ListenerConfig.toJson)),
    ("routes", .arr (c.routes.map RouteConfig.toJson))]

/-! ## Readers -/

def GatewayRef.fromJson (d : Json) : Option GatewayRef := do
  let «namespace» ← required "namespace" str d
  let name ← required "name" str d
  return { «namespace», name }

def Protocol.fromJson : Json → Option Protocol :=
  variant [("HTTP", .http), ("HTTPS", .https)]

def TlsMode.fromJson : Json → Option TlsMode :=
  variant [("terminate", .terminate), ("passthrough", .passthrough)]

def CertificateRef.fromJson (d : Json) : Option CertificateRef := do
  let «namespace» ← required "namespace" str d
  let name ← required "name" str d
  return { «namespace», name }

def InlineCertificate.fromJson (d : Json) : Option InlineCertificate := do
  let certPem ← required "cert_pem" str d
  let keyPem ← required "key_pem" str d
  let hostnames ← defaulted "hostnames" [] (list str) d
  return { certPem, keyPem, hostnames }

def TlsConfig.fromJson (d : Json) : Option TlsConfig := do
  let mode ← required "mode" TlsMode.fromJson d
  let certificates ← required "certificates" (list CertificateRef.fromJson) d
  let inlineCertificates ← defaulted "inline_certificates" [] (list InlineCertificate.fromJson) d
  return { mode, certificates, inlineCertificates }

def ListenerConfig.fromJson (d : Json) : Option ListenerConfig := do
  let name ← required "name" str d
  let port ← required "port" uint16 d
  let protocol ← required "protocol" Protocol.fromJson d
  let hostname ← optionField "hostname" str d
  let tls ← optionField "tls" TlsConfig.fromJson d
  return { name, port, protocol, hostname, tls }

def PathMatchType.fromJson : Json → Option PathMatchType :=
  variant
    [("Exact", .exact),
      ("PathPrefix", .pathPrefix),
      ("RegularExpression", .regularExpression)]

def PathMatch.fromJson (d : Json) : Option PathMatch := do
  let matchType ← required "type" PathMatchType.fromJson d
  let value ← required "value" str d
  return { matchType, value }

def HeaderMatchType.fromJson : Json → Option HeaderMatchType :=
  variant [("Exact", .exact), ("RegularExpression", .regularExpression)]

def HeaderMatch.fromJson (d : Json) : Option HeaderMatch := do
  let name ← required "name" str d
  let matchType ← required "type" HeaderMatchType.fromJson d
  let value ← required "value" str d
  return { name, matchType, value }

def QueryParamMatchType.fromJson : Json → Option QueryParamMatchType :=
  variant [("Exact", .exact), ("RegularExpression", .regularExpression)]

def QueryParamMatch.fromJson (d : Json) : Option QueryParamMatch := do
  let name ← required "name" str d
  let matchType ← required "type" QueryParamMatchType.fromJson d
  let value ← required "value" str d
  return { name, matchType, value }

def RouteMatch.fromJson (d : Json) : Option RouteMatch := do
  let path ← optionField "path" PathMatch.fromJson d
  let headers ← defaulted "headers" [] (list HeaderMatch.fromJson) d
  let queryParams ← defaulted "query_params" [] (list QueryParamMatch.fromJson) d
  let method ← optionField "method" str d
  return { path, headers, queryParams, method }

def HeaderValue.fromJson (d : Json) : Option HeaderValue := do
  let name ← required "name" str d
  let value ← required "value" str d
  return { name, value }

def PathModifier.fromJson : Json → Option PathModifier :=
  tagged "type"
    [("ReplaceFullPath", fun d => (required "value" str d).map .replaceFullPath),
      ("ReplacePrefixMatch", fun d => (required "value" str d).map .replacePrefixMatch)]

def BackendProtocol.fromJson : Json → Option BackendProtocol :=
  variant [("http1", .http1), ("h2c", .h2c)]

def Backend.fromJson (d : Json) : Option Backend := do
  let «namespace» ← required "namespace" str d
  let name ← required "name" str d
  let port ← required "port" uint16 d
  let weight ← defaulted "weight" 1 uint32 d
  let protocol ← defaulted "protocol" .http1 BackendProtocol.fromJson d
  return { «namespace», name, port, weight, protocol }

/-- The fields of a header modifier. -/
def headerModifierFromJson
    (make : List HeaderValue → List HeaderValue → List String → Filter) (d : Json) :
    Option Filter := do
  let add ← defaulted "add" [] (list HeaderValue.fromJson) d
  let set ← defaulted "set" [] (list HeaderValue.fromJson) d
  let remove ← defaulted "remove" [] (list str) d
  return make add set remove

def requestRedirectFromJson (d : Json) : Option Filter := do
  let scheme ← optionField "scheme" str d
  let hostname ← optionField "hostname" str d
  let port ← optionField "port" uint16 d
  let path ← optionField "path" PathModifier.fromJson d
  let statusCode ← optionField "status_code" uint16 d
  return .requestRedirect scheme hostname port path statusCode

def urlRewriteFromJson (d : Json) : Option Filter := do
  let hostname ← optionField "hostname" str d
  let path ← optionField "path" PathModifier.fromJson d
  return .urlRewrite hostname path

def requestMirrorFromJson (d : Json) : Option Filter := do
  let backend ← required "backend" Backend.fromJson d
  let percent ← optionField "percent" uint32 d
  return .requestMirror backend percent

def Filter.fromJson : Json → Option Filter :=
  tagged "type"
    [("RequestHeaderModifier", headerModifierFromJson .requestHeaderModifier),
      ("ResponseHeaderModifier", headerModifierFromJson .responseHeaderModifier),
      ("RequestRedirect", requestRedirectFromJson), ("URLRewrite", urlRewriteFromJson),
      ("RequestMirror", requestMirrorFromJson)]

def TimeoutConfig.fromJson (d : Json) : Option TimeoutConfig := do
  let request ← optionField "request" f64 d
  let backendRequest ← optionField "backend_request" f64 d
  return { request, backendRequest }

def RouteRule.fromJson (d : Json) : Option RouteRule := do
  let name ← optionField "name" str d
  let «matches» ← defaulted "matches" [] (list RouteMatch.fromJson) d
  let filters ← defaulted "filters" [] (list Filter.fromJson) d
  let backends ← defaulted "backends" [] (list Backend.fromJson) d
  let timeout ← optionField "timeout" TimeoutConfig.fromJson d
  return { name, «matches», filters, backends, timeout }

def RouteConfig.fromJson (d : Json) : Option RouteConfig := do
  let name ← required "name" str d
  let «namespace» ← required "namespace" str d
  let hostnames ← defaulted "hostnames" [] (list str) d
  let attachedListeners ← defaulted "attached_listeners" [] (list str) d
  let rules ← required "rules" (list RouteRule.fromJson) d
  return { name, «namespace», hostnames, attachedListeners, rules }

def ProxyConfig.fromJson (d : Json) : Option ProxyConfig := do
  let version ← required "version" str d
  let gateway ← required "gateway" GatewayRef.fromJson d
  let listeners ← required "listeners" (list ListenerConfig.fromJson) d
  let routes ← required "routes" (list RouteConfig.fromJson) d
  return { version, gateway, listeners, routes }

end Multiway.ProxyCore
