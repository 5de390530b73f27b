import Multiway.Lib.Argmax
import Multiway.Lib.Text
import Multiway.ProxyCore.Config

/-!
# The route matching engine (`proxy-core/src/routing.rs`)

`route` walks routes, then rules, then matches, each with the early
`continue`s of the source, and keeps the best candidate seen so far. Both
running maxima replace the incumbent only on a strictly higher precedence, so
earlier configuration wins ties; the loops are `foldl` over the same lists.

`Regex::new(value).is_ok_and(|re| re.is_match(text))` is the `regex` crate's:
every function that reaches it takes `isMatch value text` as a parameter,
false for a value that does not compile.
-/

namespace Multiway.ProxyCore

open Multiway.Lib
open Multiway.Lib.Text

/-- Request metadata used for route matching (`routing::RequestMeta`). -/
structure RequestMeta where
  /-- The Host header value (without port). -/
  host : Option String
  path : String
  method : String := "GET"
  headers : List (String × String) := []
  queryParams : List (String × String) := []
deriving DecidableEq

structure RedirectResponse where
  statusCode : UInt16
  location : String
deriving DecidableEq

inductive RoutingDecision
  | forward (backends : List Backend) (filters : List Filter) (timeout : Option TimeoutConfig)
  | redirect (response : RedirectResponse)
  | notFound
deriving DecidableEq

/-- Precedence ranking for tie-breaking among matched rules. -/
structure MatchPrecedence where
  /-- 2 = Exact path, 1 = Prefix path, 0 = no path / regex -/
  pathKind : Nat
  pathLength : Nat
  hasMethod : Bool
  headerCount : Nat
  queryParamCount : Nat
deriving DecidableEq

/-- The tuple two precedences are compared by, in lexicographic order. -/
abbrev PrecedenceTuple := ℕ ×ₗ ℕ ×ₗ Bool ×ₗ ℕ ×ₗ ℕ

def MatchPrecedence.tuple (p : MatchPrecedence) : PrecedenceTuple :=
  toLex (p.pathKind, toLex (p.pathLength,
    toLex (p.hasMethod, toLex (p.headerCount, p.queryParamCount))))

/-- True if `a` should beat `b`. -/
def precedenceBeats (a b : MatchPrecedence) : Bool := decide (b.tuple < a.tuple)

structure MatchCandidate where
  rule : RouteRule
  precedence : MatchPrecedence

/-! ## Hostname matching -/

/-- Strip the port from a host value, `example.com:8080` to `example.com`. -/
def stripPort (host : String) : String :=
  match host.toList with
  | '[' :: _ => host
  | cs =>
    match rsplitOnce ':' cs with
    | some (before, _) => String.ofList before
    | none => host

/-- One hostname pattern against a host without port. -/
def hostnamePatternMatches (host pattern : String) : Bool :=
  match pattern.toList with
  | '*' :: '.' :: suffix =>
    match (toAsciiLowercase host.toList).dropSuffix? ('.' :: toAsciiLowercase suffix) with
    | some label => !label.isEmpty && !label.contains '.'
    | none => false
  | _ => eqIgnoreAsciiCase host pattern

/-- Whether the request's host matches any of the route's hostnames. -/
def hostnameMatches (route : RouteConfig) (host : Option String) : Bool :=
  if route.hostnames.isEmpty then true
  else
    match host with
    | none => false
    | some host => route.hostnames.any (hostnamePatternMatches (stripPort host))

/-! ## Match conditions -/

/-- Segment-boundary-aware prefix matching. The byte after a prefix of `path`
is `/` exactly when the next character is. -/
def prefixPathMatches (pfx path : String) : Bool :=
  if pfx = "/" then true
  else if path = pfx then true
  else pfx.toList.isPrefixOf path.toList && path.toList[pfx.toList.length]? == some '/'

section
variable (isMatch : String → String → Bool)

def pathMatches (matchType : PathMatchType) (value path : String) : Bool :=
  match matchType with
  | .exact => path == value
  | .pathPrefix => prefixPathMatches value path
  | .regularExpression => isMatch value path

/-- Header names compare case-insensitively. -/
def headerMatches (hm : HeaderMatch) (headers : List (String × String)) : Bool :=
  headers.any fun (name, value) =>
    if !eqIgnoreAsciiCase name hm.name then false
    else
      match hm.matchType with
      | .exact => value == hm.value
      | .regularExpression => isMatch hm.value value

/-- Query parameter names compare case-sensitively. -/
def queryParamMatches (qpm : QueryParamMatch) (queryParams : List (String × String)) : Bool :=
  queryParams.any fun (name, value) =>
    if name != qpm.name then false
    else
      match qpm.matchType with
      | .exact => value == qpm.value
      | .regularExpression => isMatch qpm.value value

/-- The path condition of a match: kind and length for the precedence, `none`
when the path does not match. -/
def pathPrecedence (path : Option PathMatch) (requestPath : String) : Option (Nat × Nat) :=
  match path with
  | some pm =>
    if pathMatches isMatch pm.matchType pm.value requestPath then
      match pm.matchType with
      | .exact => some (2, pm.value.utf8ByteSize)
      | .pathPrefix => some (1, pm.value.utf8ByteSize)
      | .regularExpression => some (0, pm.value.utf8ByteSize)
    else none
  | none => some (0, 0)

/-- Evaluate a single `RouteMatch`: all of its conditions must hold. -/
def singleMatchApplies (routeMatch : RouteMatch) (request : RequestMeta) :
    Option MatchPrecedence :=
  match pathPrecedence isMatch routeMatch.path request.path with
  | none => none
  | some (pathKind, pathLength) =>
    if routeMatch.method.any fun method => !eqIgnoreAsciiCase request.method method then none
    else if !routeMatch.headers.all (headerMatches isMatch · request.headers) then none
    else if !routeMatch.queryParams.all (queryParamMatches isMatch · request.queryParams) then
      none
    else
      some { pathKind, pathLength
             hasMethod := routeMatch.method.isSome
             headerCount := routeMatch.headers.length
             queryParamCount := routeMatch.queryParams.length }

/-- The best precedence among the matches of a rule that pass; a rule with no
matches matches everything. -/
def ruleMatches (rule : RouteRule) (request : RequestMeta) : Option MatchPrecedence :=
  if rule.matches.isEmpty then some ⟨0, 0, false, 0, 0⟩
  else
    rule.matches.foldl (fun best routeMatch =>
      match singleMatchApplies isMatch routeMatch request with
      | some prec => if best.all fun b => precedenceBeats prec b then some prec else best
      | none => best) none

end

/-! ## Decision building -/

/-- The Location URL from the redirect filter's fields and the request. -/
def buildRedirectLocation (scheme hostname : Option String) (port : Option UInt16)
    (path : Option PathModifier) (request : RequestMeta) : String :=
  let scheme := scheme.getD "http"
  let host := (hostname.or request.host).getD "localhost"
  let path :=
    match path with
    | some (.replaceFullPath value) => value
    | some (.replacePrefixMatch value) => value
    | none => request.path
  match port with
  | some p => scheme ++ "://" ++ host ++ ":" ++ toString p.toNat ++ path
  | none => scheme ++ "://" ++ host ++ path

/-- The redirect of the first `RequestRedirect` filter, if there is one. -/
def firstRedirect (request : RequestMeta) : List Filter → Option RedirectResponse
  | [] => none
  | .requestRedirect scheme hostname port path statusCode :: _ =>
    some { statusCode := statusCode.getD 302
           location := buildRedirectLocation scheme hostname port path request }
  | _ :: filters => firstRedirect request filters

/-- Redirect when the rule has a `RequestRedirect` filter, otherwise forward. -/
def buildDecision (rule : RouteRule) (request : RequestMeta) : RoutingDecision :=
  match firstRedirect request rule.filters with
  | some response => .redirect response
  | none => .forward rule.backends rule.filters rule.timeout

/-! ## Core routing function -/

/-- One rule of the inner loop of `route`. -/
def considerRule (isMatch : String → String → Bool) (request : RequestMeta)
    (best : Option MatchCandidate) (rule : RouteRule) : Option MatchCandidate :=
  match ruleMatches isMatch rule request with
  | some precedence =>
    if best.all fun b => precedenceBeats precedence b.precedence then some ⟨rule, precedence⟩
    else best
  | none => best

/-- Match a request against the configuration of a listener. -/
def route (isMatch : String → String → Bool) (config : ProxyConfig) (listenerName : String)
    (request : RequestMeta) : RoutingDecision :=
  let best := config.routes.foldl (fun best route =>
    if !route.attachedListeners.contains listenerName then best
    else if !hostnameMatches route request.host then best
    else route.rules.foldl (considerRule isMatch request) best) none
  match best with
  | some candidate => buildDecision candidate.rule request
  | none => .notFound

end Multiway.ProxyCore
