import Multiway.ControlPlane.Config
import Multiway.Kube.GatewayApi

/-!
# From an HTTPRoute to a `RouteConfig` (`controller/httproute.rs`)

The conversions return a `Result` in the source, and none of them fails: they
are total functions here. Numbers go through Rust's `as` casts, which wrap.
-/

namespace Multiway.ControlPlane

open Multiway.Lib
open Multiway.Kube

/-! ## Matches -/

def convertPathMatch (path : HttpRouteRulesMatchesPath) : PathMatch where
  matchType :=
    match path.type with
    | some .exact => .exact
    | some .pathPrefix => .pathPrefix
    | none => .pathPrefix
    | some .regularExpression => .regularExpression
  value := path.value.getD "/"

def convertHeaderMatch (header : HttpRouteRulesMatchesHeaders) : HeaderMatch where
  name := header.name
  matchType :=
    match header.type with
    | some .exact => .exact
    | none => .exact
    | some .regularExpression => .regularExpression
  value := header.value

def convertQueryParamMatch (param : HttpRouteRulesMatchesQueryParams) : QueryParamMatch where
  name := param.name
  matchType :=
    match param.type with
    | some .exact => .exact
    | none => .exact
    | some .regularExpression => .regularExpression
  value := param.value

def convertMethod : Method → String
  | .get => "GET"
  | .head => "HEAD"
  | .post => "POST"
  | .put => "PUT"
  | .delete => "DELETE"
  | .connect => "CONNECT"
  | .options => "OPTIONS"
  | .trace => "TRACE"
  | .patch => "PATCH"

def convertMatch (m : HttpRouteRulesMatches) : RouteMatch where
  path := m.path.map convertPathMatch
  headers := (m.headers.getD []).map convertHeaderMatch
  queryParams := (m.queryParams.getD []).map convertQueryParamMatch
  method := m.method.map convertMethod

/-! ## Filters -/

def convertHeaders (headers : Option (List HttpHeader)) : List HeaderValue :=
  (headers.getD []).map fun h => { name := h.name, value := h.value }

def convertPathModifier (p : HttpPathModifier) : PathModifier :=
  match p.type with
  | .replaceFullPath => .replaceFullPath (p.replaceFullPath.getD "")
  | .replacePrefixMatch => .replacePrefixMatch (p.replacePrefixMatch.getD "")

def convertScheme : Scheme → String
  | .http => "http"
  | .https => "https"

/-- The backend of a mirror filter: an omitted namespace stays empty. -/
def convertMirrorBackend (backendRef : RequestMirrorBackendRef) : BackendRef where
  «namespace» := backendRef.namespace.getD ""
  name := backendRef.name
  port := UInt16.ofInt (backendRef.port.getD 80)

/-- `none` is a filter that is skipped. -/
def convertFilter (filter : HttpRouteRulesFilters) : Option RouteFilter :=
  match filter.type with
  | .requestHeaderModifier =>
    let modifier := filter.requestHeaderModifier.getD {}
    some (.requestHeaderModifier (convertHeaders modifier.add) (convertHeaders modifier.set)
      (modifier.remove.getD []))
  | .responseHeaderModifier =>
    let modifier := filter.responseHeaderModifier.getD {}
    some (.responseHeaderModifier (convertHeaders modifier.add) (convertHeaders modifier.set)
      (modifier.remove.getD []))
  | .requestRedirect =>
    filter.requestRedirect.map fun redirect =>
      .requestRedirect (redirect.scheme.map convertScheme) redirect.hostname
        (redirect.port.map UInt16.ofInt) (redirect.path.map convertPathModifier)
        (redirect.statusCode.map UInt16.ofInt)
  | .urlRewrite =>
    filter.urlRewrite.map fun rewrite =>
      .urlRewrite rewrite.hostname (rewrite.path.map convertPathModifier)
  | .requestMirror =>
    filter.requestMirror.map fun mirror =>
      .requestMirror (convertMirrorBackend mirror.backendRef) none
  -- extension refs are not supported
  | .extensionRef => none

/-! ## Rules -/

def convertBackend (routeNamespace : String) (backend : HttpRouteRulesBackendRefs) :
    BackendRef where
  «namespace» := backend.namespace.getD routeNamespace
  name := backend.name
  port := UInt16.ofInt (backend.port.getD 80)
  weight := UInt32.ofInt (backend.weight.getD 1)

/-- Parse a duration string (`10s`, `1m`). -/
def parseDuration (duration : String) : Option F64 :=
  let stem := String.ofList duration.toList.dropLast
  match duration.toList.getLast? with
  | some 's' => F64.parse stem
  | some 'm' => (F64.parse stem).map fun m => m.mul (.finite 60)
  | some 'h' => (F64.parse stem).map fun h => h.mul (.finite 3600)
  | _ => F64.parse duration

def convertTimeouts (timeouts : HttpRouteRulesTimeouts) : TimeoutConfig where
  request := timeouts.request.bind parseDuration
  backendRequest := timeouts.backendRequest.bind parseDuration

/-- Without matches a rule gets one that matches everything. -/
def convertRule (routeNamespace : String) (rule : HttpRouteRules) : RouteRule where
  name := none
  «matches» :=
    match (rule.matches.getD []).map convertMatch with
    | [] => [{}]
    | ms => ms
  filters := (rule.filters.getD []).filterMap convertFilter
  backends := (rule.backendRefs.getD []).map (convertBackend routeNamespace)
  timeout := rule.timeouts.map convertTimeouts

/-- Convert an HTTPRoute to the data plane's format. -/
def convertHttprouteToConfig (httproute : HTTPRoute) (attachedListeners : List String) :
    RouteConfig where
  name := nameAny httproute
  «namespace» := namespaceOf httproute
  hostnames := httproute.spec.hostnames.getD []
  attachedListeners := attachedListeners
  rules := (httproute.spec.rules.getD []).map (convertRule (namespaceOf httproute))

end Multiway.ControlPlane
