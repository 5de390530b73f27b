import Multiway.ControlPlane.Attachment
import Multiway.Lib.MergePatch

/-!
# Writing statuses (`execute_status_update` of `shell/executor.rs`)

A status is written as a JSON merge patch on the stored object. A merge patch
replaces arrays, and the parents of an HTTPRoute's status are an array that all
controllers share: what is stored there under other names is gone after the
patch.
-/

namespace Multiway.ControlPlane

open Multiway.Lib
open Multiway.Kube

section
variable (rfc3339 : Time → String)

/-! ## The JSON form of statuses -/

def Condition.toJson (c : Condition) : Json :=
  .obj ([("lastTransitionTime", .str (rfc3339 c.lastTransitionTime)),
      ("message", .str c.message)] ++
    Json.optional "observedGeneration" .int c.observedGeneration ++
    [("reason", .str c.reason), ("status", .str c.status), ("type", .str c.type)])

def conditionsToJson (conditions : Option (List Condition)) : List (String × Json) :=
  Json.optional "conditions" (fun cs => .arr (cs.map (Condition.toJson rfc3339))) conditions

def GatewayClassStatus.toJson (status : GatewayClassStatus) : Json :=
  .obj (conditionsToJson rfc3339 status.conditions)

def GatewayAddresses.toJson (a : GatewayAddresses) : Json :=
  .obj (Json.optional "type" .str a.type ++ [("value", .str a.value)])

def GatewayStatusListenersSupportedKinds.toJson (k : GatewayStatusListenersSupportedKinds) :
    Json :=
  .obj (Json.optional "group" .str k.group ++ [("kind", .str k.kind)])

def GatewayStatusListeners.toJson (l : GatewayStatusListeners) : Json :=
  .obj [("attachedRoutes", .int l.attachedRoutes),
    ("conditions", .arr (l.conditions.map (Condition.toJson rfc3339))), ("name", .str l.name),
    ("supportedKinds",
      .arr (l.supportedKinds.map GatewayStatusListenersSupportedKinds.toJson))]

def GatewayStatus.toJson (status : GatewayStatus) : Json :=
  .obj (Json.optional "addresses" (fun as => .arr (as.map GatewayAddresses.toJson))
      status.addresses ++
    conditionsToJson rfc3339 status.conditions ++
    Json.optional "listeners" (fun ls => .arr (ls.map (GatewayStatusListeners.toJson rfc3339)))
      status.listeners)

def HttpRouteParentRefs.toJson (p : HttpRouteParentRefs) : Json :=
  .obj (Json.optional "group" .str p.group ++ Json.optional "kind" .str p.kind ++
    [("name", .str p.name)] ++ Json.optional "namespace" .str p.namespace ++
    Json.optional "port" .int p.port ++ Json.optional "sectionName" .str p.sectionName)

def HttpRouteStatusParents.toJson (p : HttpRouteStatusParents) : Json :=
  .obj (conditionsToJson rfc3339 p.conditions ++
    [("controllerName", .str p.controllerName),
      ("parentRef", HttpRouteParentRefs.toJson p.parentRef)])

def HttpRouteStatus.toJson (status : HttpRouteStatus) : Json :=
  .obj [("parents", .arr (status.parents.map (HttpRouteStatusParents.toJson rfc3339)))]

def StatusUpdate.toJson : StatusUpdate → Json
  | .gatewayClass _ status => GatewayClassStatus.toJson rfc3339 status
  | .gateway _ _ status => GatewayStatus.toJson rfc3339 status
  | .httpRoute _ _ status => HttpRouteStatus.toJson rfc3339 status

/-- The API server's answer to `patch_status` with a merge patch. -/
def executeStatusUpdate (stored : Json) (u : StatusUpdate) : Json :=
  stored.mergePatch (.obj [("status", StatusUpdate.toJson rfc3339 u)])

/-! ## What a patch leaves -/

/-- The entries of a stored route's `status.parents`. -/
def parentsOf (stored : Json) : List Json :=
  (((stored.field? "status").bind (Json.field? "parents")).getD .null).elems

/-- **The parents are replaced.** Whatever was stored, the entries after the
patch are the computed ones. -/
theorem parentsOf_executeStatusUpdate (stored : Json) (ns name : String)
    (status : HttpRouteStatus) :
    parentsOf (executeStatusUpdate rfc3339 stored (.httpRoute ns name status)) =
      status.parents.map (HttpRouteStatusParents.toJson rfc3339) := by
  have hpatch : StatusUpdate.toJson rfc3339 (.httpRoute ns name status) ≠ .null := nofun
  have hparents :
      Json.arr (status.parents.map (HttpRouteStatusParents.toJson rfc3339)) ≠ .null := nofun
  unfold parentsOf executeStatusUpdate
  rw [Json.field?_mergePatch stored "status" hpatch, Option.bind_some]
  show (((Json.mergePatch _ (.obj [("parents", .arr _)])).field? "parents").getD .null).elems = _
  rw [Json.field?_mergePatch _ "parents" hparents, Json.mergePatch_arr]
  rfl

/-! ## Entries of other controllers -/

/-- The controller an entry was written by. -/
def controllerNameOf (entry : Json) : Option String :=
  match entry.field? "controllerName" with
  | some (.str name) => some name
  | _ => none

/-- The entries the route is stored with. -/
def storedParents (route : HTTPRoute) : List HttpRouteStatusParents :=
  (route.status.map HttpRouteStatus.parents).getD []

/-- `stored` is a document of the route: its status is the route's. -/
def IsDocumentOf (stored : Json) (route : HTTPRoute) : Prop :=
  stored.field? "status" = route.status.map (HttpRouteStatus.toJson rfc3339)

/-- After the write the stored entries of other controllers are still there,
as they were, and the entries of this one are the computed ones. -/
structure EntriesSurvive (stored : Json) (status : HttpRouteStatus) (after : Json) : Prop where
  foreign : ∀ entry ∈ parentsOf stored, controllerNameOf entry ≠ some controllerName →
    entry ∈ parentsOf after
  ours : (parentsOf after).filter (controllerNameOf · == some controllerName) =
    status.parents.map (HttpRouteStatusParents.toJson rfc3339)

theorem controllerNameOf_toJson (p : HttpRouteStatusParents) :
    controllerNameOf (HttpRouteStatusParents.toJson rfc3339 p) = some p.controllerName := by
  unfold HttpRouteStatusParents.toJson conditionsToJson
  rcases p.conditions with _ | conditions <;> rfl

theorem parentsOf_document {stored : Json} {route : HTTPRoute}
    (h : IsDocumentOf rfc3339 stored route) :
    parentsOf stored = (storedParents route).map (HttpRouteStatusParents.toJson rfc3339) := by
  unfold parentsOf storedParents
  rw [h]
  rcases route.status with _ | status <;> rfl

end

/-- All entries a reconciliation computes are this controller's. -/
theorem controllerName_of_computed {s : WorldSnapshot} {config : ControllerConfig}
    {ns name : String} {status : HttpRouteStatus}
    (h : StatusUpdate.httpRoute ns name status ∈
      (reconcileHttproute s config ns name).statusUpdates) :
    ∀ parent ∈ status.parents, parent.controllerName = controllerName := by
  rcases hroute : s.getHttproute ns name with _ | route
  · unfold reconcileHttproute at h
    rw [hroute] at h
    cases h
  · by_cases hrefs : route.spec.parentRefs.getD [] = []
    · unfold reconcileHttproute at h
      rw [hroute] at h
      dsimp only at h
      rw [hrefs] at h
      cases h
    · rw [statusUpdates_reconcileHttproute hroute hrefs, List.mem_singleton,
        StatusUpdate.httpRoute.injEq] at h
      obtain ⟨-, -, rfl⟩ := h
      intro parent hparent
      obtain ⟨parentRef, -, rfl⟩ := List.mem_map.mp hparent
      rfl

/-- **When the status of other controllers survives.** For every stored route
and every status computed for it: exactly when no stored entry is of another
controller. -/
theorem entries_survive_iff (rfc3339 : Time → String) {s : WorldSnapshot}
    {config : ControllerConfig} {ns name : String} {route : HTTPRoute} {stored : Json}
    {status : HttpRouteStatus} (hstored : IsDocumentOf rfc3339 stored route)
    (hstatus : StatusUpdate.httpRoute ns name status ∈
      (reconcileHttproute s config ns name).statusUpdates) :
    EntriesSurvive rfc3339 stored status
        (executeStatusUpdate rfc3339 stored (.httpRoute ns name status)) ↔
      ∀ parent ∈ storedParents route, parent.controllerName = controllerName := by
  have hours := controllerName_of_computed hstatus
  have hafter := parentsOf_executeStatusUpdate rfc3339 stored ns name status
  have hbefore := parentsOf_document rfc3339 hstored
  constructor
  · intro h parent hparent
    by_contra hforeign
    have hentry := h.foreign (HttpRouteStatusParents.toJson rfc3339 parent) (by
      rw [hbefore]
      exact List.mem_map_of_mem hparent) (by
      rw [controllerNameOf_toJson]
      simpa using hforeign)
    -- what is there after the patch was computed, and names this controller
    rw [hafter] at hentry
    obtain ⟨computed, hcomputed, hsame⟩ := List.mem_map.mp hentry
    have hname := congrArg controllerNameOf hsame
    rw [controllerNameOf_toJson, controllerNameOf_toJson, hours computed hcomputed,
      Option.some.injEq] at hname
    exact hforeign hname.symm
  · intro hnone
    refine ⟨fun entry hentry hforeign => ?_, ?_⟩
    · rw [hbefore] at hentry
      obtain ⟨parent, hparent, rfl⟩ := List.mem_map.mp hentry
      rw [controllerNameOf_toJson, hnone parent hparent] at hforeign
      exact absurd rfl hforeign
    · rw [hafter, List.filter_eq_self]
      intro entry hentry
      obtain ⟨parent, hparent, rfl⟩ := List.mem_map.mp hentry
      rw [controllerNameOf_toJson, hours parent hparent]
      exact beq_self_eq_true _

/-! ## Two controllers -/

/-- A route with an entry of the given controller in its status. -/
def routeWithEntry (controller : String) : HTTPRoute :=
  { routeNamed "a" none [] with
    status := some
      { parents := [{ controllerName := controller, parentRef := { name := "gw" }
                      conditions := none }] } }

/-- Such a route beside a plain Gateway. -/
def entryCluster (controller : String) : Objects :=
  clusterWith [httpListener "http" 80] [routeWithEntry controller]

/-- What is stored of it. -/
def entryDocument (controller : String) : Json :=
  .obj (Json.optional "status" (HttpRouteStatus.toJson fun _ => "")
    (routeWithEntry controller).status)

/-- The status computed for it. -/
def computedStatus : HttpRouteStatus where
  parents := [buildParentStatus 0
    { parentRef := { name := "gw" }, accepted := true, reason := "Accepted"
      message := "Route is accepted by Gateway", attachedListeners := ["http"] } none]

theorem getHttproute_entryCluster (controller : String) :
    (WorldSnapshot.full (entryCluster controller) 0).getHttproute "default" "a" =
      some (routeWithEntry controller) :=
  Store.get?_insert_self ∅ (routeWithEntry controller)

theorem computedStatus_mem (controller : String) :
    StatusUpdate.httpRoute "default" "a" computedStatus ∈
      (reconcileHttproute (.full (entryCluster controller) 0) {} "default" "a").statusUpdates := by
  rw [statusUpdates_reconcileHttproute (getHttproute_entryCluster controller) nofun]
  exact List.mem_singleton_self _

theorem isDocument_entryDocument (controller : String) :
    IsDocumentOf (fun _ => "") (entryDocument controller) (routeWithEntry controller) := rfl

/-- Alone, a controller's entries are the computed ones. -/
theorem entries_survive_alone :
    EntriesSurvive (fun _ => "") (entryDocument controllerName) computedStatus
      (executeStatusUpdate (fun _ => "") (entryDocument controllerName)
        (.httpRoute "default" "a" computedStatus)) := by
  refine (entries_survive_iff (fun _ => "") (isDocument_entryDocument controllerName)
    (computedStatus_mem controllerName)).mpr fun parent hparent => ?_
  rw [List.mem_singleton.mp hparent]

/-- The entry of another controller is lost. -/
theorem entry_lost :
    ¬ ∀ (rfc3339 : Time → String) (s : WorldSnapshot) (config : ControllerConfig)
        (ns name : String) (route : HTTPRoute) (stored : Json) (status : HttpRouteStatus),
      s.getHttproute ns name = some route → IsDocumentOf rfc3339 stored route →
      StatusUpdate.httpRoute ns name status ∈
        (reconcileHttproute s config ns name).statusUpdates →
      EntriesSurvive rfc3339 stored status
        (executeStatusUpdate rfc3339 stored (.httpRoute ns name status)) := by
  intro hall
  have hsurvive := hall (fun _ => "") (.full (entryCluster "example.com/other") 0) {} "default"
    "a" (routeWithEntry "example.com/other") (entryDocument "example.com/other") computedStatus
    (getHttproute_entryCluster _) (isDocument_entryDocument _) (computedStatus_mem _)
  have hours := (entries_survive_iff (fun _ => "") (isDocument_entryDocument _)
    (computedStatus_mem "example.com/other")).mp hsurvive _ (List.mem_singleton_self _)
  exact absurd hours (by decide)

end Multiway.ControlPlane
