import Multiway.Kube.GatewayApi
import Multiway.Lib.Store

/-!
# World snapshots (`core/snapshot.rs`)

The objects a reconciler decides by, each kind filed under its key, and the
queries the functional core asks of them. `Objects` is a set of objects;
a `WorldSnapshot` is one at an instant. The state of a cluster is an `Objects`
too, so that a snapshot can hold all of it or a part.
-/

namespace Multiway.ControlPlane

open Multiway.Lib
open Multiway.Kube

/-- Keys `(namespace, name)` are ordered namespace first. -/
instance keyOrd : Ord (String × String) := lexOrd

abbrev Named (α : Type) [Resource α] := Store String α nameAny

abbrev Namespaced (α : Type) [Resource α] := Store (String × String) α objectKey

structure Objects where
  gatewayClasses : Named GatewayClass := ∅
  gateways : Namespaced Gateway := ∅
  httproutes : Namespaced HTTPRoute := ∅
  services : Namespaced Service := ∅
  configmaps : Namespaced ConfigMap := ∅
  deployments : Namespaced Deployment := ∅
  secrets : Namespaced Secret := ∅
  referenceGrants : Namespaced ReferenceGrant := ∅
  nodes : Named Node := ∅

/-- A point-in-time snapshot of relevant cluster state. -/
structure WorldSnapshot extends Objects where
  now : Time

namespace WorldSnapshot

/-- The snapshot that holds every object of the cluster. -/
def full (cluster : Objects) (now : Time) : WorldSnapshot := { cluster with now }

/-! ## Building -/

/-- An empty snapshot at the given time. -/
def new (now : Time) : WorldSnapshot := { now }

variable (s : WorldSnapshot)

def withGatewayClass (gc : GatewayClass) : WorldSnapshot :=
  { s with gatewayClasses := s.gatewayClasses.insert gc }

def withGateway (gw : Gateway) : WorldSnapshot := { s with gateways := s.gateways.insert gw }

def withHttproute (route : HTTPRoute) : WorldSnapshot :=
  { s with httproutes := s.httproutes.insert route }

def withService (svc : Service) : WorldSnapshot := { s with services := s.services.insert svc }

def withConfigmap (cm : ConfigMap) : WorldSnapshot :=
  { s with configmaps := s.configmaps.insert cm }

def withDeployment (dep : Deployment) : WorldSnapshot :=
  { s with deployments := s.deployments.insert dep }

def withSecret (secret : Secret) : WorldSnapshot :=
  { s with secrets := s.secrets.insert secret }

def withReferenceGrant (grant : ReferenceGrant) : WorldSnapshot :=
  { s with referenceGrants := s.referenceGrants.insert grant }

def withNode (node : Node) : WorldSnapshot := { s with nodes := s.nodes.insert node }

/-! ## Lookups -/

def getGatewayClass (name : String) : Option GatewayClass := s.gatewayClasses.get? name

def getGateway (ns name : String) : Option Gateway := s.gateways.get? (ns, name)

def getHttproute (ns name : String) : Option HTTPRoute := s.httproutes.get? (ns, name)

def getService (ns name : String) : Option Service := s.services.get? (ns, name)

def getSecret (ns name : String) : Option Secret := s.secrets.get? (ns, name)

def serviceExists (ns name : String) : Bool := s.services.containsKey (ns, name)

end WorldSnapshot

/-- Whether a route names the Gateway in one of its parentRefs. The namespace
of a parentRef defaults to the route's. -/
def referencesGateway (gatewayNs gatewayName : String) (route : HTTPRoute) : Bool :=
  (route.spec.parentRefs.getD []).any fun r =>
    r.namespace.getD (namespaceOf route) == gatewayNs && r.name == gatewayName

/-- Whether a grant in `toNs` lets `fromNs` refer there. -/
def grantAllows (fromNs fromGroup fromKind toNs toGroup toKind : String)
    (grant : ReferenceGrant) : Bool :=
  grant.metadata.namespace == some toNs &&
    (grant.spec.from.any fun f =>
      f.namespace == fromNs && f.group == fromGroup && f.kind == fromKind) &&
    -- the name of a `to` entry is not read
    grant.spec.to.any fun t => t.group == toGroup && t.kind == toKind

def isReady (node : Node) : Bool :=
  ((node.status.bind NodeStatus.conditions).getD []).any fun c =>
    c.type == "Ready" && c.status == "True"

/-- The first internal address of a node. -/
def internalIp (node : Node) : Option String :=
  ((node.status.bind NodeStatus.addresses).getD []).findSome? fun addr =>
    if addr.type == "InternalIP" then some addr.address else none

namespace WorldSnapshot

variable (s : WorldSnapshot)

/-! ## Queries -/

/-- All HTTPRoutes referencing a specific Gateway. -/
def routesForGateway (gatewayNs gatewayName : String) : List HTTPRoute :=
  s.httproutes.values.filter (referencesGateway gatewayNs gatewayName)

/-- Whether a ReferenceGrant allows a cross-namespace reference. -/
def isReferenceAllowed (fromNs fromGroup fromKind toNs toGroup toKind : String) : Bool :=
  s.referenceGrants.values.any (grantAllows fromNs fromGroup fromKind toNs toGroup toKind)

def isGatewayReferenceAllowed (fromNs toNs : String) : Bool :=
  s.isReferenceAllowed fromNs "gateway.networking.k8s.io" "HTTPRoute" toNs
    "gateway.networking.k8s.io" "Gateway"

def isServiceReferenceAllowed (fromNs toNs : String) : Bool :=
  s.isReferenceAllowed fromNs "gateway.networking.k8s.io" "HTTPRoute" toNs "" "Service"

def isSecretReferenceAllowed (gatewayNs secretNs : String) : Bool :=
  s.isReferenceAllowed gatewayNs "gateway.networking.k8s.io" "Gateway" secretNs "" "Secret"

/-- The first internal address of any ready node. -/
def getNodeInternalIp : Option String :=
  s.nodes.values.findSome? fun node => if isReady node then internalIp node else none

end WorldSnapshot

end Multiway.ControlPlane
