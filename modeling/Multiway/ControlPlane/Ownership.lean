import Multiway.ControlPlane.Attachment

/-!
# Gateways of other controllers

A GatewayClass says which controller its Gateways belong to.
`reconcileGatewayClass` leaves a class of another controller alone. The other
two reconcilers do not tell such a class from one that is missing or not yet
accepted: the Gateway gets the status of an invalid one, and every parent
reference to it gets an entry under this controller's name.
-/

namespace Multiway.ControlPlane

open Multiway.Lib
open Multiway.Kube

/-- The Gateway's class is there and names another controller. -/
structure Foreign (s : WorldSnapshot) (ns name : String) (gateway : Gateway)
    (gatewayClass : GatewayClass) : Prop where
  found : s.getGateway ns name = some gateway
  foundClass : s.getGatewayClass gateway.spec.gatewayClassName = some gatewayClass
  foreign : isOurGatewayClass gatewayClass = false

/-- Nothing is asked for the Gateway. -/
structure GatewayLeftAlone (s : WorldSnapshot) (config : ControllerConfig) (ns name : String) :
    Prop where
  upserts : (reconcileGateway s config ns name).upserts = []
  deletes : (reconcileGateway s config ns name).deletes = []
  statusUpdates : (reconcileGateway s config ns name).statusUpdates = []

/-- A parentRef of a route in `routeNs` resolves to the Gateway. -/
def resolvesTo (routeNs ns name : String) (parentRef : HttpRouteParentRefs) : Bool :=
  parentRef.group.getD "gateway.networking.k8s.io" == "gateway.networking.k8s.io" &&
    parentRef.kind.getD "Gateway" == "Gateway" && namesGateway routeNs ns name parentRef

/-- No status of the route has an entry of ours for a reference that resolves
to the Gateway. -/
def EntriesLeftAlone (s : WorldSnapshot) (config : ControllerConfig) (ns name : String)
    (routeNs routeName : String) : Prop :=
  ∀ status, StatusUpdate.httpRoute routeNs routeName status ∈
      (reconcileHttproute s config routeNs routeName).statusUpdates →
    ∀ parent ∈ status.parents, parent.controllerName = controllerName →
      ¬ resolvesTo routeNs ns name parent.parentRef

section
variable {s : WorldSnapshot} {ns name : String} {gateway : Gateway} {gatewayClass : GatewayClass}

/-- A class of another controller is never an accepted one. -/
theorem Foreign.not_accepted (h : Foreign s ns name gateway gatewayClass) :
    getAcceptedGatewayClass s gateway.spec.gatewayClassName = none := by
  unfold getAcceptedGatewayClass
  rw [h.foundClass, Option.filter_some]
  unfold isGatewayClassAccepted
  rw [h.foreign]
  rfl

/-- The result is that for an invalid Gateway. -/
theorem Foreign.reconcileGateway (h : Foreign s ns name gateway gatewayClass)
    (config : ControllerConfig) :
    reconcileGateway s config ns name =
      invalidGatewayResult s gateway ns name "Invalid"
        "GatewayClass not found or not accepted by this controller"
        "InvalidGatewayClass" "GatewayClass not accepted" := by
  unfold ControlPlane.reconcileGateway
  rw [h.found]
  dsimp only
  rw [h.not_accepted]
  rfl

/-- Reconciling it writes its status, and nothing else. -/
theorem Foreign.not_gatewayLeftAlone (h : Foreign s ns name gateway gatewayClass)
    (config : ControllerConfig) : ¬ GatewayLeftAlone s config ns name := by
  intro halone
  have hstatus := halone.statusUpdates
  rw [h.reconcileGateway] at hstatus
  cases hstatus

end

/-- Whatever a reference is found to be, there is an entry for it. -/
theorem entry_of_parentRef {s : WorldSnapshot} (config : ControllerConfig)
    {routeNs routeName : String} {route : HTTPRoute}
    (hroute : s.getHttproute routeNs routeName = some route) {parentRef : HttpRouteParentRefs}
    (hmem : parentRef ∈ route.spec.parentRefs.getD []) :
    ∃ status, StatusUpdate.httpRoute routeNs routeName status ∈
        (reconcileHttproute s config routeNs routeName).statusUpdates ∧
      ∃ parent ∈ status.parents, parent.controllerName = controllerName ∧
        parent.parentRef = parentRef := by
  rw [statusUpdates_reconcileHttproute hroute (List.ne_nil_of_mem hmem)]
  refine ⟨_, List.mem_singleton_self _, _, List.mem_map_of_mem hmem, rfl, ?_⟩
  exact parentRef_validateParentRef s route parentRef routeNs

/-- **Gateways of other controllers are never left alone.** Whatever the
snapshot, the Gateway's status is written, and each route with a reference that
resolves to the Gateway gets an entry of ours for it. -/
theorem foreign_never_left_alone {s : WorldSnapshot} {ns name : String} {gateway : Gateway}
    {gatewayClass : GatewayClass} (config : ControllerConfig)
    (h : Foreign s ns name gateway gatewayClass) :
    ¬ GatewayLeftAlone s config ns name ∧
      ∀ routeNs routeName route, s.getHttproute routeNs routeName = some route →
        (∃ parentRef ∈ route.spec.parentRefs.getD [], resolvesTo routeNs ns name parentRef) →
          ¬ EntriesLeftAlone s config ns name routeNs routeName := by
  refine ⟨h.not_gatewayLeftAlone config, fun routeNs routeName route hroute hparent halone => ?_⟩
  obtain ⟨parentRef, hmem, hresolves⟩ := hparent
  obtain ⟨status, hstatus, parent, hparent, hours, rfl⟩ :=
    entry_of_parentRef config hroute hmem
  exact halone status hstatus parent hparent hours hresolves

/-! ## A Gateway of another controller -/

/-- A class of another controller, under the name our Gateways use. -/
def foreignClass : GatewayClass where
  metadata := { name := some "multiway" }
  spec := { controllerName := "example.com/other-controller" }

/-- Its Gateway, and a route of ours that names it. -/
def foreignCluster : Objects :=
  { clusterWith [httpListener "http" 80] [routeNamed "a" none []] with
    gatewayClasses := (∅ : Named GatewayClass).insert foreignClass }

theorem foreign_foreignCluster :
    Foreign (.full foreignCluster 0) "default" "gw" (gatewayWith [httpListener "http" 80])
      foreignClass :=
  ⟨rfl, rfl, by decide⟩

/-- There the status is written, and the route gets an entry. -/
theorem foreignCluster_not_left_alone :
    ¬ GatewayLeftAlone (.full foreignCluster 0) {} "default" "gw" ∧
      ¬ EntriesLeftAlone (.full foreignCluster 0) {} "default" "gw" "default" "a" := by
  obtain ⟨hgateway, hroutes⟩ := foreign_never_left_alone {} foreign_foreignCluster
  exact ⟨hgateway, hroutes "default" "a" (routeNamed "a" none []) rfl
    ⟨{ name := "gw" }, List.mem_singleton_self _, by decide⟩⟩

/-- Foreign Gateways are not left alone. -/
theorem foreign_not_left_alone :
    ¬ ∀ (s : WorldSnapshot) (config : ControllerConfig) (ns name : String) (gateway : Gateway)
        (gatewayClass : GatewayClass), Foreign s ns name gateway gatewayClass →
      GatewayLeftAlone s config ns name ∧
        ∀ routeNs routeName, EntriesLeftAlone s config ns name routeNs routeName := by
  intro hall
  have hgateway := (hall _ {} _ _ _ _ foreign_foreignCluster).1
  exact foreign_foreignCluster.not_gatewayLeftAlone {} hgateway

end Multiway.ControlPlane
