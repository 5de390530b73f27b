import Multiway.ControlPlane.Config
import Multiway.ControlPlane.Snapshot

/-!
# Fetching snapshots (`shell/fetcher.rs`)

A snapshot for one object is put together from single reads of the API. A
`Client` answers each read, possibly with an error; `Client.ofCluster` is the
API server that answers every read with the current objects.
-/

namespace Multiway.ControlPlane

open Multiway.Lib
open Multiway.Kube

/-- `kube::Error`: what the API server said, or anything else. -/
inductive ApiError
  | api (code : ℕ)
  | other
deriving DecidableEq

/-- `kube::Api` of one kind of object, over all namespaces. -/
structure Api (K α : Type) where
  get : K → Except ApiError α
  list : Except ApiError (List α)

structure Client where
  gatewayClasses : Api String GatewayClass
  gateways : Api (String × String) Gateway
  httproutes : Api (String × String) HTTPRoute
  services : Api (String × String) Service
  configmaps : Api (String × String) ConfigMap
  deployments : Api (String × String) Deployment
  referenceGrants : Api (String × String) ReferenceGrant
  nodes : Api String Node

/-- Reads of a store: what is filed, or 404. -/
def Api.ofStore {K α : Type} [Ord K] [Std.TransOrd K] {key : α → K} (store : Store K α key) :
    Api K α where
  get k :=
    match store.get? k with
    | some a => .ok a
    | none => .error (.api 404)
  list := .ok store.values

/-- The API server that answers each read with the current objects. -/
def Client.ofCluster (cluster : Objects) : Client where
  gatewayClasses := .ofStore cluster.gatewayClasses
  gateways := .ofStore cluster.gateways
  httproutes := .ofStore cluster.httproutes
  services := .ofStore cluster.services
  configmaps := .ofStore cluster.configmaps
  deployments := .ofStore cluster.deployments
  referenceGrants := .ofStore cluster.referenceGrants
  nodes := .ofStore cluster.nodes

/-- A read whose 404 means that the object is not there. -/
def orNotFound {α : Type} (read : Except ApiError α) : Except ApiError (Option α) :=
  match read with
  | .ok a => .ok (some a)
  | .error (.api 404) => .ok none
  | .error e => .error e

/-- A read whose every error means that the object is left out. -/
def orLeftOut {α : Type} (read : Except ApiError α) : Option α :=
  match read with
  | .ok a => some a
  | .error _ => none

namespace WorldSnapshot

/-- Add what was read, if anything. -/
def addWith {α : Type} (f : WorldSnapshot → α → WorldSnapshot) (s : WorldSnapshot) :
    Option α → WorldSnapshot
  | some a => f s a
  | none => s

end WorldSnapshot

open WorldSnapshot

namespace SnapshotFetcher

variable (client : Client)

/-- Fetch managed resources for a Gateway. -/
def fetchManagedResources (s : WorldSnapshot) (names : DataPlaneNames) : WorldSnapshot :=
  let s := addWith withConfigmap s
    (orLeftOut (client.configmaps.get (names.namespace, names.configmapName)))
  let s := addWith withService s
    (orLeftOut (client.services.get (names.namespace, names.serviceName)))
  addWith withDeployment s
    (orLeftOut (client.deployments.get (names.namespace, names.deploymentName)))

/-- Fetch the Service of one backend reference; only Services are fetched. -/
def fetchBackendService (routeNamespace : String) (s : WorldSnapshot)
    (backend : HttpRouteRulesBackendRefs) : WorldSnapshot :=
  if backend.kind.getD "Service" ≠ "Service" then s
  else
    addWith withService s
      (orLeftOut (client.services.get (backend.namespace.getD routeNamespace, backend.name)))

/-- Fetch backend Services referenced by an HTTPRoute. -/
def fetchBackendServices (s : WorldSnapshot) (route : HTTPRoute) (routeNamespace : String) :
    WorldSnapshot :=
  (route.spec.rules.getD []).foldl (fun s rule =>
    (rule.backendRefs.getD []).foldl (fetchBackendService client routeNamespace) s) s

/-- Fetch HTTPRoutes that reference a specific Gateway, and their backends. -/
def fetchRoutesForGateway (s : WorldSnapshot) (gatewayNs gatewayName : String) :
    Except ApiError WorldSnapshot :=
  client.httproutes.list.map fun routes =>
    routes.foldl (fun s route =>
      if referencesGateway gatewayNs gatewayName route then
        (fetchBackendServices client s route (namespaceOf route)).withHttproute route
      else s) s

/-- Fetch ReferenceGrants in the route's namespace and those that name it. -/
def fetchReferenceGrants (s : WorldSnapshot) (ns : String) : Except ApiError WorldSnapshot :=
  client.referenceGrants.list.map fun grants =>
    grants.foldl (fun s grant =>
      if namespaceOf grant == ns || grant.spec.from.any (·.namespace == ns) then
        s.withReferenceGrant grant
      else s) s

/-- Fetch cluster nodes; an error leaves them out. -/
def fetchNodes (s : WorldSnapshot) : WorldSnapshot :=
  ((orLeftOut client.nodes.list).getD []).foldl withNode s

/-- Build a WorldSnapshot for reconciling a specific Gateway. -/
def snapshotForGateway (now : Time) (ns name : String) : Except ApiError WorldSnapshot := do
  let gateway ← orNotFound (client.gateways.get (ns, name))
  let s := addWith withGateway (.new now) gateway
  let s ←
    match gateway with
    | some gw =>
      (orNotFound (client.gatewayClasses.get gw.spec.gatewayClassName)).map
        (addWith withGatewayClass s)
    | none => .ok s
  let s ← fetchRoutesForGateway client s ns name
  let s := fetchManagedResources client s ⟨ns, name⟩
  -- neither Secrets nor ReferenceGrants
  .ok (fetchNodes client s)

/-- Fetch the Gateway one parent reference names, with its class and managed
resources. Errors leave the Gateway out. -/
def fetchParent (ns : String) (s : WorldSnapshot) (parentRef : HttpRouteParentRefs) :
    WorldSnapshot :=
  let parentNs := parentRef.namespace.getD ns
  -- only process Gateway parents
  if parentRef.group.getD "gateway.networking.k8s.io" ≠ "gateway.networking.k8s.io" ∨
      parentRef.kind.getD "Gateway" ≠ "Gateway" then s
  else
    match client.gateways.get (parentNs, parentRef.name) with
    | .ok gw =>
      let s := addWith withGatewayClass s
        (orLeftOut (client.gatewayClasses.get gw.spec.gatewayClassName))
      (fetchManagedResources client s ⟨parentNs, parentRef.name⟩).withGateway gw
    | .error _ => s

/-- Build a WorldSnapshot for reconciling a specific HTTPRoute. -/
def snapshotForHttproute (now : Time) (ns name : String) : Except ApiError WorldSnapshot := do
  let route ← orNotFound (client.httproutes.get (ns, name))
  -- of all routes this one only
  let s := addWith withHttproute (.new now) route
  let s :=
    match route with
    | some r =>
      let s := (r.spec.parentRefs.getD []).foldl (fetchParent client ns) s
      fetchBackendServices client s r ns
    | none => s
  fetchReferenceGrants client s ns

end SnapshotFetcher

end Multiway.ControlPlane
