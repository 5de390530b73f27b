import Multiway.ControlPlane.Fetched
import Multiway.ControlPlane.Emitted

/-!
# Are the fetched snapshots sufficient?

A reconciler sees the fetched snapshot, not the cluster. Here its result on
the fetched snapshot is compared with its result on a snapshot of everything.
The Gateway snapshot holds all `reconcileGateway` reads except Secrets and
ReferenceGrants; the HTTPRoute snapshot holds of all routes only its own, and
no Secrets. Both results therefore coincide exactly when nothing of that kind
would have been found in the cluster either.
-/

namespace Multiway.ControlPlane

open Multiway.Lib
open Multiway.Kube
open SnapshotFetcher

/-- The cluster holds a certificate for the reference that the Gateway may
use: in the Gateway's namespace or let in by a grant, with both PEM texts. -/
def Usable (cluster : Objects) (gatewayNs : String) (ref : GatewayListenersTlsCertificateRefs) :
    Prop :=
  (ref.namespace.getD gatewayNs = gatewayNs ∨
    ∃ grant ∈ cluster.referenceGrants.values,
      grantAllows gatewayNs "gateway.networking.k8s.io" "Gateway" (ref.namespace.getD gatewayNs) ""
        "Secret" grant = true) ∧
  ∃ secret, cluster.secrets.get? (ref.namespace.getD gatewayNs, ref.name) = some secret ∧
    (secretPem secret).isSome = true

theorem resolveCertificateRef_full_eq_none_iff (cluster : Objects) (now : Time)
    (gatewayNs : String) (ref : GatewayListenersTlsCertificateRefs) :
    resolveCertificateRef gatewayNs (.full cluster now) ref = none ↔
      ¬ Usable cluster gatewayNs ref := by
  have hgrants : (WorldSnapshot.full cluster now).isSecretReferenceAllowed gatewayNs
      (ref.namespace.getD gatewayNs) = true ↔
      ∃ grant ∈ cluster.referenceGrants.values,
        grantAllows gatewayNs "gateway.networking.k8s.io" "Gateway"
          (ref.namespace.getD gatewayNs) "" "Secret" grant = true := List.any_eq_true
  rw [← not_iff_not, not_not, ← ne_eq, Option.ne_none_iff_exists']
  simp only [resolveCertificateRef_eq_some_iff, hgrants, Usable, Option.isSome_iff_exists]
  constructor
  · intro hresolves
    obtain ⟨pem, hallowed, secret, hget, hpem⟩ := hresolves
    exact ⟨hallowed, secret, hget, pem, hpem⟩
  · intro husable
    obtain ⟨hallowed, secret, hget, pem, hpem⟩ := husable
    exact ⟨pem, hallowed, secret, hget, hpem⟩

theorem resolveCertificateRef_of_no_secrets {s : WorldSnapshot} (h : s.secrets = ∅)
    (gatewayNs : String) (ref : GatewayListenersTlsCertificateRefs) :
    resolveCertificateRef gatewayNs s ref = none := by
  refine Option.eq_none_iff_forall_ne_some.mpr fun pem hpem => ?_
  obtain ⟨-, secret, hget, -⟩ := resolveCertificateRef_eq_some_iff.mp hpem
  unfold WorldSnapshot.getSecret at hget
  rw [h, Store.get?_empty] at hget
  cases hget

/-! ## The Gateway snapshot -/

section
variable {cluster : Objects} {now : Time} {ns name : String} {s : WorldSnapshot}

/-- The routes a query for the Gateway finds are all there. -/
theorem FetchedForGateway.routesForGateway_eq (h : FetchedForGateway cluster now ns name s) :
    s.routesForGateway ns name = (WorldSnapshot.full cluster now).routesForGateway ns name := by
  unfold WorldSnapshot.routesForGateway
  refine Store.filter_values_congr fun route href => ?_
  rw [h.httproutes, Store.get?_insertAll_filter_values, Store.get?_empty, Option.or_none,
    Option.filter_eq_some_iff]
  exact and_iff_left href

theorem FetchedForGateway.ready_eq (h : FetchedForGateway cluster now ns name s) :
    readyGateway s ns name = readyGateway (.full cluster now) ns name := by
  refine readyGateway_congr h.gateway fun gateway hget => ?_
  exact h.gatewayClass gateway (by rw [← h.gateway]; exact hget)

/-- Without usable certificates in the cluster nothing is missing. -/
theorem FetchedForGateway.reconcileGateway_eq (h : FetchedForGateway cluster now ns name s)
    (config : ControllerConfig)
    (hcerts : ∀ gateway, readyGateway (.full cluster now) ns name = some gateway →
      ∀ listener ∈ gateway.spec.listeners, ∀ ref ∈ certificateRefsOf listener,
        ¬ Usable cluster ns ref) :
    reconcileGateway s config ns name = reconcileGateway (.full cluster now) config ns name := by
  refine reconcileGateway_congr h.now h.gateway (fun gateway hget => ?_) fun gateway hready => ?_
  · exact h.gatewayClass gateway (by rw [← h.gateway]; exact hget)
  · have hname := nameAny_of_getGateway (getGateway_of_ready hready)
    have hconfig : buildGatewayConfig gateway ns s =
        buildGatewayConfig gateway ns (.full cluster now) := by
      refine buildGatewayConfig_congr ?_ fun listener hl ref href => ?_
      · rw [hname]
        exact h.routesForGateway_eq
      · rw [h.ready_eq] at hready
        rw [resolveCertificateRef_of_no_secrets h.secrets,
          (resolveCertificateRef_full_eq_none_iff cluster now ns ref).mpr
            (hcerts gateway hready listener hl ref href)]
    -- the status reads the Service and the nodes besides
    refine ⟨hconfig, builtGatewayStatus_congr h.now h.routesForGateway_eq h.service ?_ hconfig⟩
    unfold WorldSnapshot.getNodeInternalIp
    rw [h.nodes]
    rfl

/-- A usable certificate shows in the ConfigMap. -/
theorem FetchedForGateway.not_usable (h : FetchedForGateway cluster now ns name s)
    {config : ControllerConfig}
    (hupserts : (reconcileGateway s config ns name).upserts =
      (reconcileGateway (.full cluster now) config ns name).upserts)
    {gateway : Gateway} (hready : readyGateway (.full cluster now) ns name = some gateway) :
    ∀ listener ∈ gateway.spec.listeners, ∀ ref ∈ certificateRefsOf listener,
      ¬ Usable cluster ns ref := by
  have hready' := hready
  rw [← h.ready_eq] at hready'
  rw [(reconcileGateway_of_ready hready).1, (reconcileGateway_of_ready hready').1] at hupserts
  simp only [dataPlaneUpserts, List.cons.injEq, ResourceUpsert.configMap.injEq] at hupserts
  intro listener hl ref href
  refine (resolveCertificateRef_full_eq_none_iff cluster now ns ref).mp ?_
  refine resolveCertificateRef_eq_none_of_toJson (toJson_of_buildConfigmap hupserts.1) ?_
    listener hl ref href
  exact fun _ _ ref _ => resolveCertificateRef_of_no_secrets h.secrets ns ref

end

/-- **When the Gateway snapshot is sufficient.** Reconciling on it gives the
upserts and the status of a snapshot of everything exactly when the Gateway's
resources are not built or the cluster has no usable certificate for any
reference of its listeners. -/
theorem gateway_snapshot_sufficient_iff (cluster : Objects) (config : ControllerConfig)
    (now : Time) (ns name : String) :
    ∃ s, snapshotForGateway (.ofCluster cluster) now ns name = .ok s ∧
      (((reconcileGateway s config ns name).upserts =
            (reconcileGateway (.full cluster now) config ns name).upserts ∧
          (reconcileGateway s config ns name).statusUpdates =
            (reconcileGateway (.full cluster now) config ns name).statusUpdates) ↔
        ∀ gateway, readyGateway (.full cluster now) ns name = some gateway →
          ∀ listener ∈ gateway.spec.listeners, ∀ ref ∈ certificateRefsOf listener,
            ¬ Usable cluster ns ref) := by
  obtain ⟨s, hfetch, hs⟩ := snapshotForGateway_spec cluster now ns name
  refine ⟨s, hfetch, ?_, ?_⟩
  · intro hsame gateway hready
    exact hs.not_usable hsame.1 hready
  · intro hcerts
    rw [hs.reconcileGateway_eq config hcerts]
    exact ⟨rfl, rfl⟩

def httpsListener : GatewayListeners where
  name := "https"
  port := 443
  protocol := "HTTPS"
  tls := some { certificateRefs := some [{ name := "cert" }] }

/-- The Secret `default/cert` with both PEM texts. -/
def certSecret : Secret := secretNamed "default" "cert" (some pemData)

/-- A cluster with one Gateway, its class and the certificate it uses. -/
def tlsCluster : Objects :=
  { clusterWith [httpsListener] [] with secrets := (∅ : Namespaced Secret).insert certSecret }

theorem readyGateway_tlsCluster (now : Time) :
    readyGateway (.full tlsCluster now) "default" "gw" = some (gatewayWith [httpsListener]) := by
  rfl

theorem usable_tlsCluster : Usable tlsCluster "default" { name := "cert" } := by
  refine ⟨Or.inl rfl, certSecret, rfl, ?_⟩
  decide

/-- The certificate of an HTTPS Gateway is missing from its ConfigMap. -/
theorem gateway_snapshot_insufficient :
    ¬ ∀ (cluster : Objects) (config : ControllerConfig) (now : Time) (ns name : String)
        (s : WorldSnapshot), snapshotForGateway (.ofCluster cluster) now ns name = .ok s →
      (reconcileGateway s config ns name).upserts =
          (reconcileGateway (.full cluster now) config ns name).upserts ∧
        (reconcileGateway s config ns name).statusUpdates =
          (reconcileGateway (.full cluster now) config ns name).statusUpdates := by
  intro hall
  obtain ⟨s, hfetch, hs⟩ := snapshotForGateway_spec tlsCluster 0 "default" "gw"
  have hupserts := (hall tlsCluster {} 0 "default" "gw" s hfetch).1
  exact hs.not_usable hupserts (readyGateway_tlsCluster 0) httpsListener (by simp [gatewayWith])
    { name := "cert" } (by simp [certificateRefsOf, httpsListener]) usable_tlsCluster

/-! ## The HTTPRoute snapshot -/

section
variable {cluster : Objects} {now : Time} {route : HTTPRoute} {s : WorldSnapshot}

theorem FetchedForHttproute.routesForGateway_eq (h : FetchedForHttproute cluster now route s)
    (ns name : String) :
    s.routesForGateway ns name = [route].filter (referencesGateway ns name) := by
  unfold WorldSnapshot.routesForGateway
  rw [h.httproutes, Store.values_insert_empty]

theorem FetchedForHttproute.getHttproute_eq (h : FetchedForHttproute cluster now route s)
    {ns name : String} (hroute : cluster.httproutes.get? (ns, name) = some route) :
    s.getHttproute ns name = some route := by
  unfold WorldSnapshot.getHttproute
  rw [h.httproutes, ← Store.key_of_get? hroute, Store.get?_insert_self]

theorem isSome_getAcceptedGatewayClass (h : Fragment cluster s) {className : String}
    (hclass : (getAcceptedGatewayClass s className).isSome = true) :
    (getAcceptedGatewayClass (.full cluster now) className).isSome = true := by
  obtain ⟨gc, hgc⟩ := Option.isSome_iff_exists.mp hclass
  obtain ⟨hget, haccepted⟩ := Option.filter_eq_some_iff.mp hgc
  exact Option.isSome_iff_exists.mpr
    ⟨gc, Option.filter_eq_some_iff.mpr ⟨h.gatewayClasses _ _ hget, haccepted⟩⟩

/-- A Gateway that accepts a route gets its resources built when its listeners
are valid. -/
theorem readyGateway_of_accepts (h : Fragment cluster s) {parentRef : HttpRouteParentRefs}
    {ns : String} {gateway : Gateway} (haccepts : Accepts s route parentRef ns gateway) :
    readyGateway (.full cluster now) (parentRef.namespace.getD ns) parentRef.name =
      if (validateListeners gateway.spec.listeners).allValid then some gateway else none := by
  have hget : (WorldSnapshot.full cluster now).getGateway (parentRef.namespace.getD ns)
      parentRef.name = some gateway := h.gateways _ _ haccepts.found
  unfold readyGateway
  rw [hget, Option.filter_some, isSome_getAcceptedGatewayClass h haccepts.gatewayClass,
    Bool.true_and]

theorem referencesGateway_of_mem {parentRef : HttpRouteParentRefs}
    (href : parentRef ∈ route.spec.parentRefs.getD []) :
    referencesGateway (parentRef.namespace.getD (namespaceOf route)) parentRef.name route =
      true := by
  refine List.any_eq_true.mpr ⟨parentRef, href, ?_⟩
  rw [beq_self_eq_true, beq_self_eq_true]
  rfl

/-- Nothing of a Gateway's configuration is missing from a snapshot fetched for
one of its routes: it has no other route and no usable certificate. -/
def NothingMissing (cluster : Objects) (route : HTTPRoute) (gateway : Gateway)
    (ns name : String) : Prop :=
  (∀ r ∈ cluster.httproutes.values, referencesGateway ns name r = true → r = route) ∧
    ∀ listener ∈ gateway.spec.listeners, ∀ ref ∈ certificateRefsOf listener,
      ¬ Usable cluster ns ref

theorem FetchedForHttproute.routes_eq (h : FetchedForHttproute cluster now route s)
    (now' : Time) {ns name : String} (hmem : route ∈ cluster.httproutes.values)
    (href : referencesGateway ns name route = true)
    (honly : ∀ r ∈ cluster.httproutes.values, referencesGateway ns name r = true → r = route) :
    s.routesForGateway ns name =
      (WorldSnapshot.full cluster now').routesForGateway ns name := by
  refine Store.filter_values_congr fun r hr => ?_
  rw [← Store.mem_values, ← Store.mem_values, h.httproutes, Store.values_insert_empty,
    List.mem_singleton]
  constructor
  · rintro rfl
    exact hmem
  · intro hmem'
    exact honly r hmem' hr

theorem FetchedForHttproute.toJson_eq_iff (h : FetchedForHttproute cluster now route s)
    (now' : Time) {ns name : String} {gateway : Gateway} (hgateway : nameAny gateway = name)
    (hmem : route ∈ cluster.httproutes.values) (href : referencesGateway ns name route = true) :
    (buildGatewayConfig gateway ns s).1.toJson =
        (buildGatewayConfig gateway ns (.full cluster now')).1.toJson ↔
      NothingMissing cluster route gateway ns name := by
  constructor
  · intro hjson
    refine ⟨?_, fun listener hl ref href' => ?_⟩
    · -- one route on this side, so one on the other, and that is `route`
      have hcount := congrArg routeCount hjson
      rw [routeCount_buildGatewayConfig, routeCount_buildGatewayConfig, hgateway,
        h.routesForGateway_eq, List.filter_singleton, href] at hcount
      obtain ⟨r, hr⟩ := List.length_eq_one_iff.mp hcount.symm
      have hall : ∀ r' ∈ cluster.httproutes.values, referencesGateway ns name r' = true →
          r' = r := by
        intro r' hmem' href'
        have hin : r' ∈ (WorldSnapshot.full cluster now').routesForGateway ns name :=
          List.mem_filter.mpr ⟨hmem', href'⟩
        rw [hr] at hin
        exact List.mem_singleton.mp hin
      intro r' hmem' href'
      rw [hall r' hmem' href', hall route hmem href]
    · refine (resolveCertificateRef_full_eq_none_iff cluster now' ns ref).mp ?_
      refine resolveCertificateRef_eq_none_of_toJson hjson ?_ listener hl ref href'
      exact fun _ _ ref _ => resolveCertificateRef_of_no_secrets h.secrets ns ref
  · intro hmissing
    obtain ⟨honly, hcerts⟩ := hmissing
    rw [buildGatewayConfig_congr (t := .full cluster now')]
    · rw [hgateway]
      exact h.routes_eq now' hmem href honly
    · intro listener hl ref href'
      rw [resolveCertificateRef_of_no_secrets h.secrets,
        (resolveCertificateRef_full_eq_none_iff cluster now' ns ref).mpr
          (hcerts listener hl ref href')]

/-- The ConfigMap built on the fetched snapshot against the one built on a
snapshot of everything. -/
theorem FetchedForHttproute.gatewayConfigmap_mem_iff
    (h : FetchedForHttproute cluster now route s) (now' : Time) (config : ControllerConfig)
    {ns name : String} (hroute : cluster.httproutes.get? (ns, name) = some route)
    {parentRef : HttpRouteParentRefs} (href : parentRef ∈ route.spec.parentRefs.getD [])
    {gateway : Gateway} (haccepts : Accepts s route parentRef ns gateway) :
    gatewayConfigmap s (parentRef.namespace.getD ns) parentRef.name gateway ∈
        configmapsFor (reconcileGateway (.full cluster now') config
          (parentRef.namespace.getD ns) parentRef.name)
          (parentRef.namespace.getD ns) parentRef.name ↔
      (validateListeners gateway.spec.listeners).allValid = true ∧
        NothingMissing cluster route gateway (parentRef.namespace.getD ns) parentRef.name := by
  have hreads : referencesGateway (parentRef.namespace.getD ns) parentRef.name route = true := by
    have hns : namespaceOf route = ns := congrArg Prod.fst (Store.key_of_get? hroute)
    rw [← hns]
    exact referencesGateway_of_mem href
  have hjson := h.toJson_eq_iff now' (nameAny_of_getGateway haccepts.found)
    (Store.mem_values_of_get? hroute) hreads
  rw [configmapsFor_reconcileGateway, readyGateway_of_accepts h.fragment haccepts,
    Option.mem_toList, Option.map_eq_some_iff]
  constructor
  · intro hemitted
    obtain ⟨g, hg, hconfigmap⟩ := hemitted
    split at hg
    next hvalid =>
      cases hg
      exact ⟨hvalid, hjson.mp (toJson_of_buildConfigmap hconfigmap.symm)⟩
    · cases hg
  · intro hcond
    obtain ⟨hvalid, hmissing⟩ := hcond
    refine ⟨gateway, if_pos hvalid, ?_⟩
    unfold gatewayConfigmap buildConfigmap
    rw [hjson.mpr hmissing]

end

/-- **When nothing is lost in reconciling an HTTPRoute.** For a Gateway that
accepts the route a ConfigMap is emitted, and it is the one that reconciling
the Gateway on a snapshot of everything emits, exactly when the Gateway's
listeners are valid, no other route names it and the cluster has no usable
certificate for its listeners. -/
theorem httproute_snapshot_sufficient_iff (cluster : Objects) (config : ControllerConfig)
    (now now' : Time) {ns name : String} {route : HTTPRoute}
    (hroute : cluster.httproutes.get? (ns, name) = some route)
    {parentRef : HttpRouteParentRefs} (href : parentRef ∈ route.spec.parentRefs.getD [])
    {gatewayNs gatewayName : String} {gateway : Gateway}
    (hgateway : cluster.gateways.get? (gatewayNs, gatewayName) = some gateway)
    (hns : parentRef.namespace.getD ns = gatewayNs) (hname : parentRef.name = gatewayName) :
    ∃ s, snapshotForHttproute (.ofCluster cluster) now ns name = .ok s ∧
      ((validateParentRef s route parentRef ns).accepted = true →
        configmapsFor (reconcileHttproute s config ns name) gatewayNs gatewayName ≠ [] ∧
        ((∀ configmap ∈ configmapsFor (reconcileHttproute s config ns name)
              gatewayNs gatewayName,
            configmap ∈ configmapsFor (reconcileGateway (.full cluster now') config
              gatewayNs gatewayName) gatewayNs gatewayName) ↔
          (validateListeners gateway.spec.listeners).allValid = true ∧
            NothingMissing cluster route gateway gatewayNs gatewayName)) := by
  obtain ⟨s, hfetch, hs⟩ := snapshotForHttproute_spec now hroute
  refine ⟨s, hfetch, fun haccepted => ?_⟩
  obtain ⟨g, haccepts⟩ := accepts_of_accepted haccepted
  subst hns hname
  obtain rfl : g = gateway :=
    Option.some.inj ((hs.fragment.gateways _ _ haccepts.found).symm.trans hgateway)
  have hgot := hs.getHttproute_eq hroute
  have hemitted : gatewayConfigmap s (parentRef.namespace.getD ns) parentRef.name g ∈
      configmapsFor (reconcileHttproute s config ns name) (parentRef.namespace.getD ns)
        parentRef.name :=
    (mem_configmapsFor_reconcileHttproute hgot).mpr
      ⟨parentRef, href, rfl, rfl, g, haccepts, rfl⟩
  refine ⟨List.ne_nil_of_mem hemitted, ?_⟩
  rw [← hs.gatewayConfigmap_mem_iff now' config hroute href haccepts]
  constructor
  · intro hall
    exact hall _ hemitted
  · -- whichever reference emitted it, it is the same ConfigMap
    intro hmem configmap hconfigmap
    obtain ⟨ref, -, href, hname, g', haccepts', rfl⟩ :=
      (mem_configmapsFor_reconcileHttproute hgot).mp hconfigmap
    have hfound := haccepts'.found
    rw [href, hname, haccepts.found] at hfound
    cases hfound
    exact hmem

/-- A plain Gateway with routes of the given names. -/
def plainCluster (names : List String) : Objects :=
  clusterWith [httpListener "http" 80] (names.map fun name => routeNamed name none [])

theorem accepted_plainCluster_a :
    ∃ s, snapshotForHttproute (.ofCluster (plainCluster ["a"])) 0 "default" "a" =
        .ok s ∧
      (validateParentRef s (routeNamed "a" none []) { name := "gw" } "default").accepted = true :=
  ⟨_, rfl, rfl⟩

/-- The only route of a plain Gateway loses nothing. -/
theorem httproute_snapshot_sufficient_alone :
    ∃ s, snapshotForHttproute (.ofCluster (plainCluster ["a"])) 0 "default" "a" =
        .ok s ∧
      configmapsFor (reconcileHttproute s {} "default" "a") "default" "gw" ≠ [] ∧
      ∀ configmap ∈ configmapsFor (reconcileHttproute s {} "default" "a") "default" "gw",
        configmap ∈ configmapsFor (reconcileGateway (.full (plainCluster ["a"]) 0)
          {} "default" "gw") "default" "gw" := by
  have hroute : (plainCluster ["a"]).httproutes.get? ("default", "a") =
      some (routeNamed "a" none []) := rfl
  have href : ({ name := "gw" } : HttpRouteParentRefs) ∈
      (routeNamed "a" none []).spec.parentRefs.getD [] := by decide
  have hgateway : (plainCluster ["a"]).gateways.get? ("default", "gw") =
      some (gatewayWith [httpListener "http" 80]) := rfl
  obtain ⟨s, hfetch, h⟩ :=
    httproute_snapshot_sufficient_iff _ {} 0 0 hroute href hgateway rfl rfl
  obtain ⟨s', hfetch', haccepted⟩ := accepted_plainCluster_a
  obtain rfl : s = s' := Except.ok.inj (hfetch.symm.trans hfetch')
  obtain ⟨hne, hiff⟩ := h haccepted
  refine ⟨s, hfetch, hne, hiff.mpr ⟨by decide, ?_, ?_⟩⟩
  · intro r hr _
    have hvalues : (plainCluster ["a"]).httproutes.values = [routeNamed "a" none []] :=
      Store.values_insert_empty _
    rw [hvalues] at hr
    exact List.mem_singleton.mp hr
  · intro listener hl ref href
    rw [List.mem_singleton.mp hl] at href
    cases href

/-- The two routes of one Gateway. -/
def sharedCluster : Objects := plainCluster ["a", "b"]

theorem accepted_sharedCluster :
    ∃ s, snapshotForHttproute (.ofCluster sharedCluster) 0 "default" "a" = .ok s ∧
      (validateParentRef s (routeNamed "a" none []) { name := "gw" } "default").accepted = true :=
  ⟨_, rfl, rfl⟩

/-- Reconciling one of two routes of a Gateway drops the other. -/
theorem httproute_snapshot_insufficient :
    ¬ ∀ (cluster : Objects) (config : ControllerConfig) (now now' : Time)
        (ns name gatewayNs gatewayName : String) (s : WorldSnapshot),
      snapshotForHttproute (.ofCluster cluster) now ns name = .ok s →
      ∀ configmap ∈ configmapsFor (reconcileHttproute s config ns name) gatewayNs gatewayName,
        configmap ∈ configmapsFor (reconcileGateway (.full cluster now') config
          gatewayNs gatewayName) gatewayNs gatewayName := by
  intro hall
  have hroute : sharedCluster.httproutes.get? ("default", "a") =
      some (routeNamed "a" none []) := rfl
  obtain ⟨s, hfetch, hs⟩ := snapshotForHttproute_spec 0 hroute
  obtain ⟨s', hfetch', haccepted⟩ := accepted_sharedCluster
  obtain rfl : s = s' := Except.ok.inj (hfetch.symm.trans hfetch')
  obtain ⟨gateway, haccepts⟩ := accepts_of_accepted haccepted
  have href : ({ name := "gw" } : HttpRouteParentRefs) ∈
      (routeNamed "a" none []).spec.parentRefs.getD [] := by decide
  have hmem := hall sharedCluster {} 0 0 "default" "a" "default" "gw" s hfetch _
    ((mem_configmapsFor_reconcileHttproute (hs.getHttproute_eq hroute)).mpr
      ⟨_, href, rfl, rfl, gateway, haccepts, rfl⟩)
  have hmissing := ((hs.gatewayConfigmap_mem_iff 0 {} hroute href haccepts).mp hmem).2
  have hother : sharedCluster.httproutes.get? ("default", "b") =
      some (routeNamed "b" none []) := rfl
  have heq := hmissing.1 (routeNamed "b" none []) (Store.mem_values_of_get? hother) (by decide)
  have hname : nameAny (routeNamed "b" none []) = nameAny (routeNamed "a" none []) :=
    congrArg nameAny heq
  exact absurd hname (by decide)

end Multiway.ControlPlane
