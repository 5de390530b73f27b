import Multiway.ControlPlane.Config
import Multiway.ControlPlane.Snapshot

/-!
# Validation (`core/validate.rs`)

Pure checks of GatewayClasses, listeners and parent references. A check that
returns early in the source is a chain of conditions here, in the same order;
the reason and the message of a rejection go into the status of the object.
-/

namespace Multiway.ControlPlane

open Multiway.Lib
open Multiway.Lib.Text
open Multiway.Kube

/-! ## GatewayClass validation -/

structure GatewayClassValidation where
  accepted : Bool
  reason : String
  message : String
deriving DecidableEq

/-- Parameters are accepted and ignored. -/
def validateGatewayClass (_gatewayClass : GatewayClass) : GatewayClassValidation where
  accepted := true
  reason := "Accepted"
  message := "GatewayClass is accepted by the multiway controller"

/-- Whether a GatewayClass is managed by this controller. -/
def isOurGatewayClass (gatewayClass : GatewayClass) : Bool :=
  gatewayClass.spec.controllerName == controllerName

/-- Whether a GatewayClass of ours has the condition `Accepted=True`. -/
def isGatewayClassAccepted (gatewayClass : GatewayClass) : Bool :=
  isOurGatewayClass gatewayClass &&
    ((gatewayClass.status.bind GatewayClassStatus.conditions).getD []).any fun c =>
      c.type == "Accepted" && c.status == "True"

def getAcceptedGatewayClass (snapshot : WorldSnapshot) (className : String) :
    Option GatewayClass :=
  (snapshot.getGatewayClass className).filter isGatewayClassAccepted

/-! ## Listener validation -/

structure ListenerValidationResult where
  name : String
  valid : Bool
  reason : String
  /-- Empty if valid. -/
  message : String
deriving DecidableEq

structure ListenerValidation where
  allValid : Bool
  listeners : List ListenerValidationResult
deriving DecidableEq

def invalidListener (listener : GatewayListeners) (reason message : String) :
    ListenerValidationResult :=
  { name := listener.name, valid := false, reason, message }

/-- The port check, the last one of `validate_single_listener`. -/
def validateListenerPort (listener : GatewayListeners) : ListenerValidationResult :=
  if listener.port ≤ 0 ∨ 65535 < listener.port then
    invalidListener listener "InvalidPort"
      ("Port " ++ toString listener.port ++ " is out of valid range (1-65535)")
  else { name := listener.name, valid := true, reason := "Accepted", message := "" }

def validateSingleListener (listener : GatewayListeners) : ListenerValidationResult :=
  match toUppercase listener.protocol with
  | "HTTP" =>
    if listener.tls.isSome then
      invalidListener listener "InvalidTLS" "HTTP listeners should not have TLS configuration"
    else validateListenerPort listener
  | "HTTPS" =>
    if listener.tls.isNone then
      invalidListener listener "InvalidTLS" "HTTPS listeners require TLS configuration"
    else validateListenerPort listener
  | protocol =>
    invalidListener listener "UnsupportedProtocol" ("Protocol '" ++ protocol ++ "' is not supported")

/-- Validate all listeners on a Gateway. -/
def validateListeners (listeners : List GatewayListeners) : ListenerValidation where
  allValid := listeners.all fun listener => (validateSingleListener listener).valid
  listeners := listeners.map validateSingleListener

/-! ## HTTPRoute validation -/

/-- Which namespaces routes can come from. -/
inductive AllowedNamespaces
  | all
  | same (gatewayNamespace : String)
  | selector (matchLabels : BTreeMap String)

def getAllowedRouteNamespaces (listener : GatewayListeners) (gatewayNamespace : String) :
    AllowedNamespaces :=
  match listener.allowedRoutes.bind AllowedRoutes.namespaces with
  | none => .same gatewayNamespace
  | some nsConfig =>
    match nsConfig.from with
    | none => .same gatewayNamespace
    | some .all => .all
    | some .same => .same gatewayNamespace
    | some .selector =>
      match nsConfig.selector with
      | some selector => .selector (selector.matchLabels.getD ∅)
      | none => .same gatewayNamespace

/-- A selector with labels is permissive: namespace labels are not checked. -/
def isNamespaceAllowed (allowed : AllowedNamespaces) (ns : String) : Bool :=
  match allowed with
  | .all => true
  | .same gatewayNs => ns == gatewayNs
  | .selector matchLabels => !matchLabels.isEmpty

/-- Listeners that match the section name and port of a parent reference. -/
def findMatchingListeners (gateway : Gateway) (sectionName : Option String) (port : Option ℤ) :
    List GatewayListeners :=
  gateway.spec.listeners.filter fun l =>
    sectionName.all (l.name == ·) && port.all (l.port == ·) &&
      (toUppercase l.protocol == "HTTP" || toUppercase l.protocol == "HTTPS")

structure BackendValidationError where
  reason : String
  message : String
deriving DecidableEq

/-- What is wrong with a backend reference, if anything. -/
def validateBackend (snapshot : WorldSnapshot) (routeNamespace : String)
    (backend : HttpRouteRulesBackendRefs) : Option BackendValidationError :=
  let backendNamespace := backend.namespace.getD routeNamespace
  let backendKind := backend.kind.getD "Service"
  let backendGroup := backend.group.getD ""
  if backendGroup ≠ "" ∨ backendKind ≠ "Service" then
    some { reason := "InvalidBackendRef"
           message := "Unsupported backend type: " ++ backendGroup ++ "/" ++ backendKind }
  else if !snapshot.serviceExists backendNamespace backend.name then
    some { reason := "BackendNotFound"
           message := "Service " ++ backendNamespace ++ "/" ++ backend.name ++ " not found" }
  else if backendNamespace ≠ routeNamespace ∧
      !snapshot.isServiceReferenceAllowed routeNamespace backendNamespace then
    some { reason := "RefNotPermitted"
           message := "Cross-namespace reference to Service " ++ backendNamespace ++ "/" ++
             backend.name ++ " requires ReferenceGrant" }
  else none

structure ParentRefValidation where
  parentRef : HttpRouteParentRefs
  accepted : Bool
  reason : String
  message : String
  /-- Names of listeners the route is attached to (if accepted). -/
  attachedListeners : List String
deriving DecidableEq

/-- All backend references of a route, rule by rule. -/
def backendRefsOf (route : HTTPRoute) : List HttpRouteRulesBackendRefs :=
  (route.spec.rules.getD []).flatMap fun rule => rule.backendRefs.getD []

def rejected (parentRef : HttpRouteParentRefs) (reason message : String) :
    ParentRefValidation :=
  { parentRef, accepted := false, reason, message, attachedListeners := [] }

/-- Validate a parent reference for an HTTPRoute. -/
def validateParentRef (snapshot : WorldSnapshot) (route : HTTPRoute)
    (parentRef : HttpRouteParentRefs) (routeNamespace : String) : ParentRefValidation :=
  let parentNamespace := parentRef.namespace.getD routeNamespace
  let parentKind := parentRef.kind.getD "Gateway"
  let parentGroup := parentRef.group.getD "gateway.networking.k8s.io"
  if parentGroup ≠ "gateway.networking.k8s.io" ∨ parentKind ≠ "Gateway" then
    rejected parentRef "InvalidParentRef"
      ("Unsupported parent type: " ++ parentGroup ++ "/" ++ parentKind)
  else
    match snapshot.getGateway parentNamespace parentRef.name with
    | none =>
      rejected parentRef "NoMatchingParent"
        ("Gateway " ++ parentNamespace ++ "/" ++ parentRef.name ++ " not found")
    | some gateway =>
      if (getAcceptedGatewayClass snapshot gateway.spec.gatewayClassName).isNone then
        rejected parentRef "NotAllowedByGateway"
          "Gateway's GatewayClass is not managed by this controller"
      else
        let matchingListeners := findMatchingListeners gateway parentRef.sectionName parentRef.port
        if matchingListeners.isEmpty then
          rejected parentRef "NoMatchingListenerHostname" "No matching listener found on Gateway"
        else
          let gatewayNamespace := namespaceOf gateway
          -- one listener that is open lets the route in at all that match
          let allowed := matchingListeners.any fun listener =>
            isNamespaceAllowed (getAllowedRouteNamespaces listener gatewayNamespace) routeNamespace
          if !allowed ∧ routeNamespace ≠ gatewayNamespace ∧
              !snapshot.isGatewayReferenceAllowed routeNamespace gatewayNamespace then
            rejected parentRef "RefNotPermitted"
              ("Route namespace " ++ routeNamespace ++
                " is not allowed by Gateway listener policies")
          else
            -- backends only: the targets of mirror filters are not looked at
            match (backendRefsOf route).findSome? (validateBackend snapshot routeNamespace) with
            | some error => rejected parentRef error.reason error.message
            | none =>
              { parentRef, accepted := true, reason := "Accepted"
                message := "Route is accepted by Gateway"
                attachedListeners := matchingListeners.map GatewayListeners.name }

end Multiway.ControlPlane
