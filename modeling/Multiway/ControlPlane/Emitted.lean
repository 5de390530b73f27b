import Multiway.ControlPlane.Acceptance
import Multiway.ControlPlane.Reads

/-!
# The ConfigMaps the reconcilers emit

Both reconcilers write a Gateway's ConfigMap, `reconcileGateway` that of its
own Gateway and `reconcileHttproute` one for each parent reference that is
accepted. Either way it is the same function of the snapshot
(`gatewayConfigmap`).
-/

namespace Multiway.ControlPlane

open Multiway.Lib
open Multiway.Kube

/-- The ConfigMap of a Gateway's configuration. -/
def gatewayConfigmap (s : WorldSnapshot) (ns name : String) (gateway : Gateway) : ConfigMap :=
  buildConfigmap ⟨ns, name⟩ (buildGatewayConfig gateway ns s).1 gateway

/-- The ConfigMap carries the name of a Gateway's ConfigMap. -/
def isConfigmapOf (ns name : String) (configmap : ConfigMap) : Bool :=
  configmap.metadata.namespace == some ns &&
    configmap.metadata.name == some (DataPlaneNames.configmapName ⟨ns, name⟩)

/-- The ConfigMaps of a result that are a Gateway's. -/
def configmapsFor (r : ReconcileResult) (ns name : String) : List ConfigMap :=
  r.configmapUpserts.filter (isConfigmapOf ns name)

/-- Names of ConfigMaps tell Gateways apart. -/
theorem configmapName_inj {ns name ns' name' : String} :
    DataPlaneNames.configmapName ⟨ns, name⟩ = DataPlaneNames.configmapName ⟨ns', name'⟩ ↔
      name = name' := by
  unfold DataPlaneNames.configmapName
  constructor
  · intro h
    have hlist := congrArg String.toList h
    rw [String.toList_append, String.toList_append] at hlist
    exact String.toList_inj.mp (List.append_cancel_left hlist)
  · rintro rfl
    rfl

theorem isConfigmapOf_gatewayConfigmap {s : WorldSnapshot} {ns name ns' name' : String}
    {gateway : Gateway} :
    isConfigmapOf ns' name' (gatewayConfigmap s ns name gateway) = true ↔
      ns = ns' ∧ name = name' := by
  unfold isConfigmapOf gatewayConfigmap buildConfigmap dataPlaneMetadata
  simp only [DataPlaneNames.namespace, Bool.and_eq_true, beq_iff_eq, Option.some.injEq,
    configmapName_inj]

section
variable {s : WorldSnapshot} {config : ControllerConfig}

theorem configmapUpserts_reconcileGateway (ns name : String) :
    (reconcileGateway s config ns name).configmapUpserts =
      ((readyGateway s ns name).map (gatewayConfigmap s ns name)).toList := by
  unfold ReconcileResult.configmapUpserts
  rcases hready : readyGateway s ns name with _ | gateway
  · rw [upserts_of_not_ready hready]
    rfl
  · rw [(reconcileGateway_of_ready hready).1]
    rfl

theorem configmapsFor_reconcileGateway (ns name : String) :
    configmapsFor (reconcileGateway s config ns name) ns name =
      ((readyGateway s ns name).map (gatewayConfigmap s ns name)).toList := by
  unfold configmapsFor
  rw [configmapUpserts_reconcileGateway, List.filter_eq_self]
  intro configmap hmem
  obtain ⟨gateway, -, rfl⟩ := Option.map_eq_some_iff.mp (Option.mem_toList.mp hmem)
  exact isConfigmapOf_gatewayConfigmap.mpr ⟨rfl, rfl⟩

theorem parentConfigmap_eq_some_iff {route : HTTPRoute} {ns : String}
    {parentRef : HttpRouteParentRefs} {configmap : ConfigMap} :
    parentConfigmap s route ns parentRef = some configmap ↔
      ∃ gateway, Accepts s route parentRef ns gateway ∧
        gatewayConfigmap s (parentRef.namespace.getD ns) parentRef.name gateway = configmap := by
  unfold parentConfigmap
  split
  next haccepted =>
    obtain ⟨gateway, haccepts⟩ := accepts_of_accepted haccepted
    dsimp only
    rw [haccepts.found, Option.map_some, Option.some.injEq]
    constructor
    · rintro rfl
      exact ⟨gateway, haccepts, rfl⟩
    · intro hparent
      obtain ⟨gateway', haccepts', rfl⟩ := hparent
      rw [haccepts.gateway_unique haccepts']
      rfl
  next hrejected =>
    refine ⟨nofun, ?_⟩
    intro hparent
    obtain ⟨gateway, haccepts, -⟩ := hparent
    exact absurd (accepted_iff.mpr ⟨gateway, haccepts⟩) hrejected

theorem configmapUpserts_reconcileHttproute {ns name : String} {route : HTTPRoute}
    (hroute : s.getHttproute ns name = some route) :
    (reconcileHttproute s config ns name).configmapUpserts =
      (route.spec.parentRefs.getD []).filterMap (parentConfigmap s route ns) := by
  unfold ReconcileResult.configmapUpserts reconcileHttproute
  rw [hroute]
  dsimp only
  rcases route.spec.parentRefs.getD [] with _ | ⟨parentRef, parentRefs⟩
  · rfl
  · simp only [ReconcileResult.withRequeue_upserts, ReconcileResult.updateStatus_upserts,
      List.filterMap_map]
    exact List.filterMap_some

/-- The ConfigMaps of a Gateway that reconciling a route emits: one for each
reference to it that is accepted, all alike. -/
theorem mem_configmapsFor_reconcileHttproute {ns name gatewayNs gatewayName : String}
    {route : HTTPRoute} (hroute : s.getHttproute ns name = some route)
    {configmap : ConfigMap} :
    configmap ∈ configmapsFor (reconcileHttproute s config ns name) gatewayNs gatewayName ↔
      ∃ parentRef ∈ route.spec.parentRefs.getD [],
        parentRef.namespace.getD ns = gatewayNs ∧ parentRef.name = gatewayName ∧
          ∃ gateway, Accepts s route parentRef ns gateway ∧
            gatewayConfigmap s gatewayNs gatewayName gateway = configmap := by
  unfold configmapsFor
  rw [configmapUpserts_reconcileHttproute hroute, List.mem_filter, List.mem_filterMap]
  constructor
  · intro hfor
    obtain ⟨⟨parentRef, hmem, hconfigmap⟩, hname⟩ := hfor
    obtain ⟨gateway, haccepts, rfl⟩ := parentConfigmap_eq_some_iff.mp hconfigmap
    obtain ⟨rfl, rfl⟩ := isConfigmapOf_gatewayConfigmap.mp hname
    exact ⟨parentRef, hmem, rfl, rfl, gateway, haccepts, rfl⟩
  · intro hparent
    obtain ⟨parentRef, hmem, rfl, rfl, gateway, haccepts, rfl⟩ := hparent
    exact ⟨⟨parentRef, hmem, parentConfigmap_eq_some_iff.mpr ⟨gateway, haccepts, rfl⟩⟩,
      isConfigmapOf_gatewayConfigmap.mpr ⟨rfl, rfl⟩⟩

end

end Multiway.ControlPlane
