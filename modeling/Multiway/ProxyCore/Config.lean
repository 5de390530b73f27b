import Multiway.Lib.F64

/-!
# The proxy's configuration (`proxy-core/src/config.rs`)

The tables the data plane routes by, with the source's fields. `u16` and
`u32` fields are Lean's fixed-width integers, timeouts are binary64 values.
The JSON side of these types is in `Wire`.
-/

namespace Multiway.ProxyCore

open Multiway.Lib (F64)

structure GatewayRef where
  «namespace» : String := ""
  name : String := ""
deriving DecidableEq

inductive Protocol | http | https
deriving DecidableEq

inductive TlsMode | terminate | passthrough
deriving DecidableEq

structure CertificateRef where
  «namespace» : String
  name : String
deriving DecidableEq

structure InlineCertificate where
  certPem : String
  keyPem : String
  hostnames : List String
deriving DecidableEq

structure TlsConfig where
  mode : TlsMode
  certificates : List CertificateRef
  inlineCertificates : List InlineCertificate
deriving DecidableEq

structure ListenerConfig where
  name : String
  port : UInt16
  protocol : Protocol
  hostname : Option String
  tls : Option TlsConfig
deriving DecidableEq

inductive PathMatchType | exact | pathPrefix | regularExpression
deriving DecidableEq

structure PathMatch where
  matchType : PathMatchType
  value : String
deriving DecidableEq

inductive HeaderMatchType | exact | regularExpression
deriving DecidableEq

structure HeaderMatch where
  name : String
  matchType : HeaderMatchType
  value : String
deriving DecidableEq

inductive QueryParamMatchType | exact | regularExpression
deriving DecidableEq

structure QueryParamMatch where
  name : String
  matchType : QueryParamMatchType
  value : String
deriving DecidableEq

/-- Header and query-parameter conditions are a conjunction; several
`RouteMatch` values of one rule are a disjunction. -/
structure RouteMatch where
  path : Option PathMatch := none
  headers : List HeaderMatch := []
  queryParams : List QueryParamMatch := []
  method : Option String := none
deriving DecidableEq

structure HeaderValue where
  name : String
  value : String
deriving DecidableEq

inductive PathModifier
  | replaceFullPath (value : String)
  | replacePrefixMatch (value : String)
deriving DecidableEq

inductive BackendProtocol | http1 | h2c
deriving DecidableEq

structure Backend where
  /-- Namespace of the backend Service. -/
  «namespace» : String
  /-- Name of the backend Service. -/
  name : String
  port : UInt16
  weight : UInt32 := 1
  protocol : BackendProtocol := .http1
deriving DecidableEq

inductive Filter
  | requestHeaderModifier (add set : List HeaderValue) (remove : List String)
  | responseHeaderModifier (add set : List HeaderValue) (remove : List String)
  | requestRedirect (scheme hostname : Option String) (port : Option UInt16)
      (path : Option PathModifier) (statusCode : Option UInt16)
  | urlRewrite (hostname : Option String) (path : Option PathModifier)
  | requestMirror (backend : Backend) (percent : Option UInt32)
deriving DecidableEq

/-- Timeouts in seconds. -/
structure TimeoutConfig where
  request : Option F64
  backendRequest : Option F64
deriving DecidableEq

structure RouteRule where
  name : Option String := none
  «matches» : List RouteMatch
  filters : List Filter := []
  backends : List Backend := []
  timeout : Option TimeoutConfig := none
deriving DecidableEq

structure RouteConfig where
  name : String
  «namespace» : String
  hostnames : List String := []
  attachedListeners : List String := []
  rules : List RouteRule := []
deriving DecidableEq

structure ProxyConfig where
  version : String := "v1"
  gateway : GatewayRef := {}
  listeners : List ListenerConfig := []
  routes : List RouteConfig := []
deriving DecidableEq

end Multiway.ProxyCore
