import Multiway.ControlPlane.Emitted

/-!
# One Gateway, two reconcilers

Both reconcilers write the ConfigMap of a Gateway, and each decides in its own
way whether there is one to write. `reconcileGateway` asks for the class and
for all listeners to be valid; `reconcileHttproute` asks for an accepted parent
reference, which looks at the class and at those listeners that match. What is
written is the same; whether it is written agrees as long as the listeners of
every accepting Gateway are valid.
-/

namespace Multiway.ControlPlane

open Multiway.Lib
open Multiway.Kube

/-! ## Valid listeners -/

/-- A valid listener's port is a port. -/
theorem port_of_valid {listener : GatewayListeners}
    (h : (validateSingleListener listener).valid = true) :
    0 < listener.port ∧ listener.port ≤ 65535 := by
  have hport : (validateListenerPort listener).valid = true →
      0 < listener.port ∧ listener.port ≤ 65535 := by
    unfold validateListenerPort
    split
    · intro hinvalid
      cases hinvalid
    next hrange =>
      intro _
      omega
  unfold validateSingleListener at h
  split at h
  · split at h
    · cases h
    · exact hport h
  · split at h
    · cases h
    · exact hport h
  · cases h

/-- `as u16` keeps a port. -/
theorem toNat_ofInt_port {port : ℤ} (hpos : 0 < port) (hle : port ≤ 65535) :
    ((UInt16.ofInt port).toNat : ℤ) = port := by
  have hlt : port % 65536 < 65536 := by omega
  have htoNat : (UInt16.ofInt port).toNat = (port % 65536).toNat := by
    simpa [UInt16.ofInt] using hlt
  rw [htoNat]
  omega

theorem port_fits_of_allValid {listeners : List GatewayListeners}
    (h : (validateListeners listeners).allValid = true) :
    ∀ listener ∈ listeners, ((UInt16.ofInt listener.port).toNat : ℤ) = listener.port := by
  intro listener hmem
  obtain ⟨hpos, hle⟩ := port_of_valid (List.all_eq_true.mp h listener hmem)
  exact toNat_ofInt_port hpos hle

/-! ## Agreement -/

/-- A Gateway a ConfigMap may be written for. -/
structure Writable (s : WorldSnapshot) (gateway : Gateway) : Prop where
  gatewayClass : (getAcceptedGatewayClass s gateway.spec.gatewayClassName).isSome = true
  listeners : (validateListeners gateway.spec.listeners).allValid = true
  ports : ∀ listener ∈ gateway.spec.listeners,
    ((UInt16.ofInt listener.port).toNat : ℤ) = listener.port

/-- Reconciling the route writes what reconciling the Gateways writes, and
both write for writable Gateways only. -/
structure ReconcilersAgree (s : WorldSnapshot) (config : ControllerConfig) (ns name : String) :
    Prop where
  same : ∀ gatewayNs gatewayName, ∀ configmap ∈
      configmapsFor (reconcileHttproute s config ns name) gatewayNs gatewayName,
    configmapsFor (reconcileGateway s config gatewayNs gatewayName) gatewayNs gatewayName =
      [configmap]
  byRoute : ∀ gatewayNs gatewayName,
    configmapsFor (reconcileHttproute s config ns name) gatewayNs gatewayName ≠ [] →
      ∃ gateway, s.getGateway gatewayNs gatewayName = some gateway ∧ Writable s gateway
  byGateway : ∀ gatewayNs gatewayName,
    (reconcileGateway s config gatewayNs gatewayName).configmapUpserts ≠ [] →
      ∃ gateway, s.getGateway gatewayNs gatewayName = some gateway ∧ Writable s gateway

section
variable {s : WorldSnapshot} {config : ControllerConfig} {ns name : String}

theorem writable_of_ready {gateway : Gateway} (h : readyGateway s ns name = some gateway) :
    Writable s gateway := by
  have hready := (Option.filter_eq_some_iff.mp h).2
  rw [Bool.and_eq_true] at hready
  exact ⟨hready.1, hready.2, port_fits_of_allValid hready.2⟩

/-- An accepting Gateway whose listeners are valid is one that is built. -/
theorem ready_of_accepts {route : HTTPRoute} {parentRef : HttpRouteParentRefs}
    {gateway : Gateway} (haccepts : Accepts s route parentRef ns gateway)
    (hvalid : (validateListeners gateway.spec.listeners).allValid = true) :
    readyGateway s (parentRef.namespace.getD ns) parentRef.name = some gateway := by
  refine Option.filter_eq_some_iff.mpr ⟨haccepts.found, ?_⟩
  rw [haccepts.gatewayClass, hvalid]
  rfl

theorem configmapsFor_of_no_route (hroute : s.getHttproute ns name = none)
    (gatewayNs gatewayName : String) :
    configmapsFor (reconcileHttproute s config ns name) gatewayNs gatewayName = [] := by
  unfold reconcileHttproute
  rw [hroute]
  rfl

end

/-- **When the reconcilers agree.** For every snapshot and route: exactly when
each Gateway that accepts one of the route's references has valid listeners
only. -/
theorem reconcilers_agree_iff (s : WorldSnapshot) (config : ControllerConfig)
    (ns name : String) :
    ReconcilersAgree s config ns name ↔
      ∀ route, s.getHttproute ns name = some route →
        ∀ parentRef ∈ route.spec.parentRefs.getD [], ∀ gateway,
          Accepts s route parentRef ns gateway →
            (validateListeners gateway.spec.listeners).allValid = true := by
  constructor
  · intro h route hroute parentRef hmem gateway haccepts
    have hemitted : gatewayConfigmap s _ _ gateway ∈
        configmapsFor (reconcileHttproute s config ns name) _ _ :=
      (mem_configmapsFor_reconcileHttproute hroute).mpr
        ⟨parentRef, hmem, rfl, rfl, gateway, haccepts, rfl⟩
    obtain ⟨gateway', hgateway', hwritable⟩ := h.byRoute _ _ (List.ne_nil_of_mem hemitted)
    obtain rfl := Option.some.inj (haccepts.found.symm.trans hgateway')
    exact hwritable.listeners
  · intro hvalid
    -- every ConfigMap the route's reconciler emits is that of a built Gateway
    have hready : ∀ gatewayNs gatewayName, ∀ configmap ∈
        configmapsFor (reconcileHttproute s config ns name) gatewayNs gatewayName,
        ∃ gateway, readyGateway s gatewayNs gatewayName = some gateway ∧
          gatewayConfigmap s gatewayNs gatewayName gateway = configmap := by
      intro gatewayNs gatewayName configmap hmem
      rcases hroute : s.getHttproute ns name with _ | route
      · rw [configmapsFor_of_no_route hroute] at hmem
        cases hmem
      · obtain ⟨parentRef, href, rfl, rfl, gateway, haccepts, hconfigmap⟩ :=
          (mem_configmapsFor_reconcileHttproute hroute).mp hmem
        exact ⟨gateway, ready_of_accepts haccepts
          (hvalid route hroute parentRef href gateway haccepts), hconfigmap⟩
    refine ⟨fun gatewayNs gatewayName configmap hmem => ?_,
      fun gatewayNs gatewayName hne => ?_, fun gatewayNs gatewayName hne => ?_⟩
    · obtain ⟨gateway, hgateway, rfl⟩ := hready _ _ _ hmem
      rw [configmapsFor_reconcileGateway, hgateway]
      rfl
    · obtain ⟨configmap, hmem⟩ := List.exists_mem_of_ne_nil _ hne
      obtain ⟨gateway, hgateway, -⟩ := hready _ _ _ hmem
      exact ⟨gateway, getGateway_of_ready hgateway, writable_of_ready hgateway⟩
    · rw [configmapUpserts_reconcileGateway] at hne
      rcases hgateway : readyGateway s gatewayNs gatewayName with _ | gateway
      · rw [hgateway] at hne
        exact absurd rfl hne
      · exact ⟨gateway, getGateway_of_ready hgateway, writable_of_ready hgateway⟩

/-- A Gateway with a listener of another protocol beside the one the route
attaches to. -/
def mixedCluster : Objects :=
  clusterWith [httpListener "http" 80, { name := "dns", port := 53, protocol := "UDP" }]
    [routeNamed "a" none []]

/-- The route's reconciler writes a ConfigMap the Gateway's does not. -/
theorem reconcilers_disagree :
    ¬ ∀ (s : WorldSnapshot) (config : ControllerConfig) (ns name : String),
      ReconcilersAgree s config ns name := by
  intro hall
  have haccepted : (validateParentRef (.full mixedCluster 0) (routeNamed "a" none [])
      { name := "gw" } "default").accepted = true := by decide
  obtain ⟨gateway, haccepts⟩ := accepted_iff.mp haccepted
  have hgateway : (WorldSnapshot.full mixedCluster 0).getGateway "default" "gw" =
      some (gatewayWith [httpListener "http" 80,
        { name := "dns", port := 53, protocol := "UDP" }]) := rfl
  obtain rfl := Option.some.inj (hgateway.symm.trans haccepts.found)
  have hvalid := (reconcilers_agree_iff (.full mixedCluster 0) {} "default" "a").mp
    (hall _ _ _ _) (routeNamed "a" none []) rfl { name := "gw" } (List.mem_singleton_self _) _
    haccepts
  exact absurd hvalid (by decide)

end Multiway.ControlPlane
