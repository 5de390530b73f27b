import Multiway.Kube.Core

/-!
# Gateway API resources

The custom resources of the Gateway API (v1.2.1) with the fields the control
plane uses, named as in the generated bindings. Every enumeration of the
schema is an inductive type; what the schema leaves optional is an `Option`.
-/

namespace Multiway.Kube

/-! ## GatewayClass -/

structure GatewayClassSpec where
  controllerName : String
deriving DecidableEq

structure GatewayClassStatus where
  conditions : Option (List Condition) := none
deriving DecidableEq

structure GatewayClass where
  metadata : ObjectMeta := {}
  spec : GatewayClassSpec
  status : Option GatewayClassStatus := none

/-! ## Gateway -/

structure GatewayAddresses where
  type : Option String := none
  value : String
deriving DecidableEq

inductive AllowedRoutesNamespacesFrom | all | selector | same
deriving DecidableEq

structure AllowedRoutesNamespaces where
  «from» : Option AllowedRoutesNamespacesFrom := none
  selector : Option LabelSelector := none

structure AllowedRoutes where
  namespaces : Option AllowedRoutesNamespaces := none

inductive GatewayListenersTlsMode | terminate | passthrough
deriving DecidableEq

structure GatewayListenersTlsCertificateRefs where
  name : String
  «namespace» : Option String := none
deriving DecidableEq

structure GatewayListenersTls where
  mode : Option GatewayListenersTlsMode := none
  certificateRefs : Option (List GatewayListenersTlsCertificateRefs) := none
deriving DecidableEq

structure GatewayListeners where
  name : String
  port : ℤ
  protocol : String
  hostname : Option String := none
  allowedRoutes : Option AllowedRoutes := none
  tls : Option GatewayListenersTls := none

structure GatewaySpec where
  gatewayClassName : String
  listeners : List GatewayListeners
  addresses : Option (List GatewayAddresses) := none

structure GatewayStatusListenersSupportedKinds where
  group : Option String
  kind : String
deriving DecidableEq

structure GatewayStatusListeners where
  name : String
  attachedRoutes : ℤ
  supportedKinds : List GatewayStatusListenersSupportedKinds
  conditions : List Condition
deriving DecidableEq

structure GatewayStatus where
  addresses : Option (List GatewayAddresses)
  conditions : Option (List Condition)
  listeners : Option (List GatewayStatusListeners)
deriving DecidableEq

structure Gateway where
  metadata : ObjectMeta := {}
  spec : GatewaySpec
  status : Option GatewayStatus := none

/-! ## HTTPRoute -/

structure HttpRouteParentRefs where
  group : Option String := none
  kind : Option String := none
  name : String
  «namespace» : Option String := none
  port : Option ℤ := none
  sectionName : Option String := none
deriving DecidableEq

inductive PathMatchType | exact | pathPrefix | regularExpression
deriving DecidableEq

inductive ValueMatchType | exact | regularExpression
deriving DecidableEq

inductive Method | get | head | post | put | delete | connect | options | trace | patch
deriving DecidableEq

structure HttpRouteRulesMatchesPath where
  type : Option PathMatchType := none
  value : Option String := none
deriving DecidableEq

structure HttpRouteRulesMatchesHeaders where
  name : String
  type : Option ValueMatchType := none
  value : String
deriving DecidableEq

structure HttpRouteRulesMatchesQueryParams where
  name : String
  type : Option ValueMatchType := none
  value : String
deriving DecidableEq

structure HttpRouteRulesMatches where
  headers : Option (List HttpRouteRulesMatchesHeaders) := none
  method : Option Method := none
  path : Option HttpRouteRulesMatchesPath := none
  queryParams : Option (List HttpRouteRulesMatchesQueryParams) := none
deriving DecidableEq

structure HttpHeader where
  name : String
  value : String
deriving DecidableEq

structure HeaderModifier where
  add : Option (List HttpHeader) := none
  set : Option (List HttpHeader) := none
  remove : Option (List String) := none
deriving DecidableEq

inductive Scheme | http | https
deriving DecidableEq

inductive PathModifierType | replaceFullPath | replacePrefixMatch
deriving DecidableEq

structure HttpPathModifier where
  type : PathModifierType
  replaceFullPath : Option String := none
  replacePrefixMatch : Option String := none
deriving DecidableEq

structure RequestRedirect where
  hostname : Option String := none
  path : Option HttpPathModifier := none
  port : Option ℤ := none
  scheme : Option Scheme := none
  statusCode : Option ℤ := none
deriving DecidableEq

structure UrlRewrite where
  hostname : Option String := none
  path : Option HttpPathModifier := none
deriving DecidableEq

structure RequestMirrorBackendRef where
  group : Option String := none
  kind : Option String := none
  name : String
  «namespace» : Option String := none
  port : Option ℤ := none
deriving DecidableEq

structure RequestMirror where
  backendRef : RequestMirrorBackendRef
deriving DecidableEq

inductive HttpRouteRulesFiltersType
  | requestHeaderModifier | responseHeaderModifier | requestMirror | requestRedirect
  | urlRewrite | extensionRef
deriving DecidableEq

/-- A filter: its type says which of the optional parts is read. -/
structure HttpRouteRulesFilters where
  type : HttpRouteRulesFiltersType
  requestHeaderModifier : Option HeaderModifier := none
  responseHeaderModifier : Option HeaderModifier := none
  requestMirror : Option RequestMirror := none
  requestRedirect : Option RequestRedirect := none
  urlRewrite : Option UrlRewrite := none
deriving DecidableEq

structure HttpRouteRulesBackendRefs where
  group : Option String := none
  kind : Option String := none
  name : String
  «namespace» : Option String := none
  port : Option ℤ := none
  weight : Option ℤ := none
  filters : Option (List HttpRouteRulesFilters) := none
deriving DecidableEq

structure HttpRouteRulesTimeouts where
  backendRequest : Option String := none
  request : Option String := none
deriving DecidableEq

structure HttpRouteRules where
  backendRefs : Option (List HttpRouteRulesBackendRefs) := none
  filters : Option (List HttpRouteRulesFilters) := none
  «matches» : Option (List HttpRouteRulesMatches) := none
  timeouts : Option HttpRouteRulesTimeouts := none
deriving DecidableEq

structure HttpRouteSpec where
  hostnames : Option (List String) := none
  parentRefs : Option (List HttpRouteParentRefs) := none
  rules : Option (List HttpRouteRules) := none
deriving DecidableEq

structure HttpRouteStatusParents where
  controllerName : String
  parentRef : HttpRouteParentRefs
  conditions : Option (List Condition)
deriving DecidableEq

structure HttpRouteStatus where
  parents : List HttpRouteStatusParents
deriving DecidableEq

structure HTTPRoute where
  metadata : ObjectMeta := {}
  spec : HttpRouteSpec
  status : Option HttpRouteStatus := none

/-! ## ReferenceGrant -/

structure ReferenceGrantFrom where
  group : String
  kind : String
  «namespace» : String
deriving DecidableEq

structure ReferenceGrantTo where
  group : String
  kind : String
  name : Option String := none
deriving DecidableEq

structure ReferenceGrantSpec where
  «from» : List ReferenceGrantFrom
  «to» : List ReferenceGrantTo
deriving DecidableEq

structure ReferenceGrant where
  metadata : ObjectMeta := {}
  spec : ReferenceGrantSpec

instance : Resource GatewayClass := ⟨GatewayClass.metadata⟩
instance : Resource Gateway := ⟨Gateway.metadata⟩
instance : Resource HTTPRoute := ⟨HTTPRoute.metadata⟩
instance : Resource ReferenceGrant := ⟨ReferenceGrant.metadata⟩

end Multiway.Kube
