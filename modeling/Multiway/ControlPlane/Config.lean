import Multiway.Kube.Core
import Multiway.Lib.Json
import Multiway.Lib.Text

/-!
# What the control plane tells the data plane (`controller/config.rs`)

`GatewayConfig` and its parts, their JSON form as the serde attributes give
it, and the names of the data plane's resources. The data plane reads the same
JSON into its own types (`ProxyCore.Config`).
-/

namespace Multiway.ControlPlane

open Multiway.Lib
open Multiway.Lib.Text
open Multiway.Kube (BTreeMap)

def controllerName : String := "io.multiway/gateway-controller"

def configKey : String := "config.json"

/-! ## Types -/

structure GatewayRef where
  «namespace» : String := ""
  name : String := ""
deriving DecidableEq

inductive Protocol | http | https
deriving DecidableEq

/-- `Protocol::from_str`. -/
def Protocol.fromStr (s : String) : Option Protocol :=
  match toUppercase s with
  | "HTTP" => some .http
  | "HTTPS" => some .https
  | _ => none

inductive TlsMode | terminate | passthrough
deriving DecidableEq

structure CertificateRef where
  «namespace» : String
  name : String
deriving DecidableEq

structure InlineCertificate where
  certPem : String
  keyPem : String
  hostnames : List String
deriving DecidableEq

structure TlsConfig where
  mode : TlsMode
  certificates : List CertificateRef
  inlineCertificates : List InlineCertificate
deriving DecidableEq

structure ListenerConfig where
  name : String
  port : UInt16
  protocol : Protocol
  hostname : Option String
  tls : Option TlsConfig
deriving DecidableEq

inductive PathMatchType | exact | pathPrefix | regularExpression
deriving DecidableEq

structure PathMatch where
  matchType : PathMatchType := .pathPrefix
  value : String := "/"
deriving DecidableEq

inductive HeaderMatchType | exact | regularExpression
deriving DecidableEq

structure HeaderMatch where
  name : String
  matchType : HeaderMatchType
  value : String
deriving DecidableEq

inductive QueryParamMatchType | exact | regularExpression
deriving DecidableEq

structure QueryParamMatch where
  name : String
  matchType : QueryParamMatchType
  value : String
deriving DecidableEq

structure RouteMatch where
  path : Option PathMatch := none
  headers : List HeaderMatch := []
  queryParams : List QueryParamMatch := []
  method : Option String := none
deriving DecidableEq

structure HeaderValue where
  name : String
  value : String
deriving DecidableEq

inductive PathModifier
  | replaceFullPath (value : String)
  | replacePrefixMatch (value : String)
deriving DecidableEq

inductive BackendProtocol | http1 | h2c
deriving DecidableEq

structure BackendRef where
  «namespace» : String
  name : String
  port : UInt16
  weight : UInt32 := 1
  protocol : BackendProtocol := .http1
deriving DecidableEq

inductive RouteFilter
  | requestHeaderModifier (add set : List HeaderValue) (remove : List String)
  | responseHeaderModifier (add set : List HeaderValue) (remove : List String)
  | requestRedirect (scheme hostname : Option String) (port : Option UInt16)
      (path : Option PathModifier) (statusCode : Option UInt16)
  | urlRewrite (hostname : Option String) (path : Option PathModifier)
  | requestMirror (backend : BackendRef) (percent : Option UInt32)
deriving DecidableEq

/-- Timeouts in seconds. -/
structure TimeoutConfig where
  request : Option F64
  backendRequest : Option F64
deriving DecidableEq

structure RouteRule where
  name : Option String := none
  «matches» : List RouteMatch := [{}]
  filters : List RouteFilter := []
  backends : List BackendRef := []
  timeout : Option TimeoutConfig := none
deriving DecidableEq

structure RouteConfig where
  name : String
  «namespace» : String
  hostnames : List String := []
  attachedListeners : List String := []
  rules : List RouteRule := []
deriving DecidableEq

structure GatewayConfig where
  version : String := "v1"
  gateway : GatewayRef := {}
  listeners : List ListenerConfig := []
  routes : List RouteConfig := []
deriving DecidableEq

/-! ## JSON -/

def GatewayRef.toJson (g : GatewayRef) : Json :=
  .obj [("namespace", .str g.namespace), ("name", .str g.name)]

def Protocol.toJson : Protocol → Json
  | .http => .str "HTTP"
  | .https => .str "HTTPS"

def TlsMode.toJson : TlsMode → Json
  | .terminate => .str "terminate"
  | .passthrough => .str "passthrough"

def CertificateRef.toJson (c : CertificateRef) : Json :=
  .obj [("namespace", .str c.namespace), ("name", .str c.name)]

def InlineCertificate.toJson (c : InlineCertificate) : Json :=
  .obj ([("cert_pem", .str c.certPem), ("key_pem", .str c.keyPem)] ++
    Json.nonempty "hostnames" .str c.hostnames)

def TlsConfig.toJson (t : TlsConfig) : Json :=
  .obj ([("mode", t.mode.toJson), ("certificates", .arr (t.certificates.map CertificateRef.toJson))]
    ++ Json.nonempty "inline_certificates" InlineCertificate.toJson t.inlineCertificates)

def ListenerConfig.toJson (l : ListenerConfig) : Json :=
  .obj ([("name", .str l.name), ("port", .ofNat l.port.toNat), ("protocol", l.protocol.toJson)] ++
    Json.optional "hostname" .str l.hostname ++ Json.optional "tls" TlsConfig.toJson l.tls)

def PathMatchType.toJson : PathMatchType → Json
  | .exact => .str "Exact"
  | .pathPrefix => .str "PathPrefix"
  | .regularExpression => .str "RegularExpression"

def PathMatch.toJson (p : PathMatch) : Json :=
  .obj [("type", p.matchType.toJson), ("value", .str p.value)]

def HeaderMatchType.toJson : HeaderMatchType → Json
  | .exact => .str "Exact"
  | .regularExpression => .str "RegularExpression"

def HeaderMatch.toJson (h : HeaderMatch) : Json :=
  .obj [("name", .str h.name), ("type", h.matchType.toJson), ("value", .str h.value)]

def QueryParamMatchType.toJson : QueryParamMatchType → Json
  | .exact => .str "Exact"
  | .regularExpression => .str "RegularExpression"

def QueryParamMatch.toJson (q : QueryParamMatch) : Json :=
  .obj [("name", .str q.name), ("type", q.matchType.toJson), ("value", .str q.value)]

def RouteMatch.toJson (m : RouteMatch) : Json :=
  .obj (Json.optional "path" PathMatch.toJson m.path ++
    Json.nonempty "headers" HeaderMatch.toJson m.headers ++
    Json.nonempty "query_params" QueryParamMatch.toJson m.queryParams ++
    Json.optional "method" .str m.method)

def HeaderValue.toJson (h : HeaderValue) : Json :=
  .obj [("name", .str h.name), ("value", .str h.value)]

def PathModifier.toJson : PathModifier → Json
  | .replaceFullPath value => .obj [("type", .str "ReplaceFullPath"), ("value", .str value)]
  | .replacePrefixMatch value => .obj [("type", .str "ReplacePrefixMatch"), ("value", .str value)]

def BackendProtocol.toJson : BackendProtocol → Json
  | .http1 => .str "http1"
  | .h2c => .str "h2c"

def BackendRef.toJson (b : BackendRef) : Json :=
  .obj [("namespace", .str b.namespace), ("name", .str b.name), ("port", .ofNat b.port.toNat),
    ("weight", .ofNat b.weight.toNat), ("protocol", b.protocol.toJson)]

/-- The fields of a header modifier. -/
def headerModifierToJson (tag : String) (add set : List HeaderValue) (remove : List String) :
    Json :=
  .obj [("type", .str tag), ("add", .arr (add.map HeaderValue.toJson)),
    ("set", .arr (set.map HeaderValue.toJson)), ("remove", Json.strs remove)]

def RouteFilter.toJson : RouteFilter → Json
  | .requestHeaderModifier add set remove =>
    headerModifierToJson "RequestHeaderModifier" add set remove
  | .responseHeaderModifier add set remove =>
    headerModifierToJson "ResponseHeaderModifier" add set remove
  | .requestRedirect scheme hostname port path statusCode =>
    .obj ([("type", .str "RequestRedirect")] ++ Json.optional "scheme" .str scheme ++
      Json.optional "hostname" .str hostname ++
      Json.optional "port" (fun p => .ofNat p.toNat) port ++
      Json.optional "path" PathModifier.toJson path ++
      Json.optional "status_code" (fun c => .ofNat c.toNat) statusCode)
  | .urlRewrite hostname path =>
    .obj ([("type", .str "URLRewrite")] ++ Json.optional "hostname" .str hostname ++
      Json.optional "path" PathModifier.toJson path)
  | .requestMirror backend percent =>
    .obj ([("type", .str "RequestMirror"), ("backend", backend.toJson)] ++
      Json.optional "percent" (fun p => .ofNat p.toNat) percent)

def TimeoutConfig.toJson (t : TimeoutConfig) : Json :=
  .obj (Json.optional "request" .ofF64 t.request ++
    Json.optional "backend_request" .ofF64 t.backendRequest)

def RouteRule.toJson (r : RouteRule) : Json :=
  .obj (Json.optional "name" .str r.name ++
    [("matches", .arr (r.matches.map RouteMatch.toJson)),
      ("filters", .arr (r.filters.map RouteFilter.toJson)),
      ("backends", .arr (r.backends.map BackendRef.toJson))] ++
    Json.optional "timeout" TimeoutConfig.toJson r.timeout)

def RouteConfig.toJson (r : RouteConfig) : Json :=
  .obj [("name", .str r.name), ("namespace", .str r.namespace),
    ("hostnames", Json.strs r.hostnames), ("attached_listeners", Json.strs r.attachedListeners),
    ("rules", .arr (r.rules.map RouteRule.toJson))]

def GatewayConfig.toJson (c : GatewayConfig) : Json :=
  .obj [("version", .str c.version), ("gateway", c.gateway.toJson),
    ("listeners", .arr (c.listeners.map ListenerConfig.toJson)),
    ("routes", .arr (c.routes.map RouteConfig.toJson))]

/-! ## Resource names -/

structure DataPlaneNames where
  gatewayNamespace : String
  gatewayName : String
deriving DecidableEq

namespace DataPlaneNames

variable (names : DataPlaneNames)

def deploymentName : String := "multiway-dp-" ++ names.gatewayName

def serviceName : String := "multiway-dp-" ++ names.gatewayName

def configmapName : String := "multiway-config-" ++ names.gatewayName

def serviceaccountName : String := "multiway-dp-" ++ names.gatewayName

def roleName : String := "multiway-dp-" ++ names.gatewayName

def rolebindingName : String := "multiway-dp-" ++ names.gatewayName

/-- The namespace of the data plane. -/
def «namespace» : String := names.gatewayNamespace

/-- Selector labels of the deployment. -/
def selectorLabels : BTreeMap String :=
  ((∅ : BTreeMap String).insert "gateway.networking.k8s.io/gateway-name" names.gatewayName)
    |>.insert "gateway.networking.k8s.io/gateway-namespace" names.gatewayNamespace
    |>.insert "app.kubernetes.io/component" "dataplane"

/-- Standard labels of data plane resources. -/
def labels : BTreeMap String :=
  ((∅ : BTreeMap String).insert "app.kubernetes.io/managed-by" "multiway-gateway-controller")
    |>.insert "gateway.networking.k8s.io/gateway-name" names.gatewayName
    |>.insert "gateway.networking.k8s.io/gateway-namespace" names.gatewayNamespace
    |>.insert "app.kubernetes.io/component" "dataplane"
    |>.insert "app.kubernetes.io/name" "multiway"

end DataPlaneNames

end Multiway.ControlPlane
