import Multiway.ControlPlane.Attachment

/-!
# Services of other namespaces

A ReferenceGrant may be limited to objects of one name. `grantPermits` reads
that limit; `grantAllows`, which the validation asks, does not. Programming a
route asks neither: every backend and every mirror target of a route that
names the Gateway goes into its configuration. What is emitted is therefore
covered by grants exactly when the grants cover every target of every such
route (`cross_namespace_safe_iff`).
-/

namespace Multiway.ControlPlane

open Multiway.Lib
open Multiway.Kube

/-- Whether a grant in `toNs` lets `fromNs` refer to the object `toName`: by an
entry for objects of any name or of that one. -/
def grantPermits (fromNs fromGroup fromKind toNs toGroup toKind toName : String)
    (grant : ReferenceGrant) : Bool :=
  grant.metadata.namespace == some toNs &&
    (grant.spec.from.any fun f =>
      f.namespace == fromNs && f.group == fromGroup && f.kind == fromKind) &&
    grant.spec.to.any fun t =>
      t.group == toGroup && t.kind == toKind && t.name.all (· == toName)

/-- The limit to a name only takes away. -/
theorem grantAllows_of_permits {fromNs fromGroup fromKind toNs toGroup toKind toName : String}
    {grant : ReferenceGrant}
    (h : grantPermits fromNs fromGroup fromKind toNs toGroup toKind toName grant = true) :
    grantAllows fromNs fromGroup fromKind toNs toGroup toKind grant = true := by
  unfold grantPermits at h
  rw [Bool.and_eq_true, List.any_eq_true] at h
  obtain ⟨hfrom, t, ht, hto⟩ := h
  rw [Bool.and_eq_true] at hto
  unfold grantAllows
  rw [Bool.and_eq_true, List.any_eq_true]
  exact ⟨hfrom, t, ht, hto.1⟩

/-- A grant of the snapshot lets routes of `routeNs` refer to the Service. -/
def servicePermitted (s : WorldSnapshot) (routeNs serviceNs serviceName : String) : Bool :=
  s.referenceGrants.values.any
    (grantPermits routeNs "gateway.networking.k8s.io" "HTTPRoute" serviceNs "" "Service"
      serviceName)

/-! ## What a configuration names -/

/-- The target of a mirror filter. -/
def RouteFilter.mirrorBackend : RouteFilter → Option BackendRef
  | .requestMirror backend _ => some backend
  | _ => none

/-- All Services a programmed route names: the backends and the mirror targets
of each rule. -/
def RouteConfig.targets (c : RouteConfig) : List BackendRef :=
  c.rules.flatMap fun rule => rule.backends ++ rule.filters.filterMap RouteFilter.mirrorBackend

/-- The target of a mirror filter of an HTTPRoute; the namespace is empty when
it is left out. -/
def mirrorTarget (filter : HttpRouteRulesFilters) : Option (String × String) :=
  if filter.type = .requestMirror then
    filter.requestMirror.map fun mirror =>
      (mirror.backendRef.namespace.getD "", mirror.backendRef.name)
  else none

/-- Namespace and name of everything an HTTPRoute refers traffic to. -/
def serviceTargets (route : HTTPRoute) : List (String × String) :=
  (route.spec.rules.getD []).flatMap fun rule =>
    (rule.backendRefs.getD []).map (fun b => (b.namespace.getD (namespaceOf route), b.name)) ++
      (rule.filters.getD []).filterMap mirrorTarget

theorem mirrorBackend_convertFilter (filter : HttpRouteRulesFilters) :
    ((convertFilter filter).bind RouteFilter.mirrorBackend).map
        (fun b => (b.namespace, b.name)) = mirrorTarget filter := by
  unfold convertFilter mirrorTarget
  rcases filter.type with _ | _ | _ | _ | _ | _
  · rfl
  · rfl
  · rcases filter.requestMirror with _ | mirror <;> rfl
  · rcases filter.requestRedirect with _ | redirect <;> rfl
  · rcases filter.urlRewrite with _ | rewrite <;> rfl
  · rfl

/-- Nothing is added or dropped on the way into the configuration. -/
theorem targets_convertHttprouteToConfig (route : HTTPRoute) (listeners : List String) :
    (convertHttprouteToConfig route listeners).targets.map (fun b => (b.namespace, b.name)) =
      serviceTargets route := by
  unfold RouteConfig.targets serviceTargets convertHttprouteToConfig
  rw [List.map_flatMap, List.flatMap_map]
  congr 1
  funext rule
  have hmirrors : ((rule.filters.getD []).filterMap convertFilter |>.filterMap
        RouteFilter.mirrorBackend).map (fun b => (b.namespace, b.name)) =
      (rule.filters.getD []).filterMap mirrorTarget := by
    rw [List.filterMap_filterMap, List.map_filterMap]
    exact List.filterMap_congr fun filter _ => mirrorBackend_convertFilter filter
  simp only [convertRule, List.map_append, List.map_map, hmirrors]
  rfl

/-! ## What is emitted -/

/-- One of the reconcilers emits the configuration of the Gateway. -/
def Emits (s : WorldSnapshot) (config : ControllerConfig) (ns name : String)
    (gateway : Gateway) : Prop :=
  gatewayConfigmap s ns name gateway ∈ (reconcileGateway s config ns name).configmapUpserts ∨
    ∃ routeNs routeName, gatewayConfigmap s ns name gateway ∈
      (reconcileHttproute s config routeNs routeName).configmapUpserts

section
variable {s : WorldSnapshot} {ns name : String} {gateway : Gateway}

theorem configmapUpserts_of_no_route {config : ControllerConfig} {routeNs routeName : String}
    (hroute : s.getHttproute routeNs routeName = none) :
    (reconcileHttproute s config routeNs routeName).configmapUpserts = [] := by
  unfold reconcileHttproute
  rw [hroute]
  rfl

/-- A Gateway's configuration is emitted when its resources are built or one of
the routes is accepted. -/
theorem emits_iff (config : ControllerConfig) (hgateway : s.getGateway ns name = some gateway) :
    Emits s config ns name gateway ↔
      readyGateway s ns name = some gateway ∨
        ∃ route ∈ s.httproutes.values, acceptedBy s ns name route = true := by
  unfold Emits
  -- either reconciler for itself
  refine or_congr ?_ ?_
  · rw [configmapUpserts_reconcileGateway, Option.mem_toList, Option.map_eq_some_iff]
    constructor
    · intro hemitted
      obtain ⟨g, hready, -⟩ := hemitted
      rw [hready]
      exact (getGateway_of_ready hready).symm.trans hgateway
    · intro hready
      exact ⟨gateway, hready, rfl⟩
  · constructor
    · intro hemitted
      obtain ⟨routeNs, routeName, hmem⟩ := hemitted
      rcases hroute : s.getHttproute routeNs routeName with _ | route
      · rw [configmapUpserts_of_no_route hroute] at hmem
        cases hmem
      · have hfor : gatewayConfigmap s ns name gateway ∈
            configmapsFor (reconcileHttproute s config routeNs routeName) ns name :=
          List.mem_filter.mpr ⟨hmem, isConfigmapOf_gatewayConfigmap.mpr ⟨rfl, rfl⟩⟩
        obtain ⟨parentRef, href, hns, hname, g, haccepts, -⟩ :=
          (mem_configmapsFor_reconcileHttproute hroute).mp hfor
        have hrouteNs : namespaceOf route = routeNs := congrArg Prod.fst (Store.key_of_get? hroute)
        subst hrouteNs
        refine ⟨route, Store.mem_values_of_get? hroute, List.any_eq_true.mpr ⟨parentRef, ?_,
          accepted_iff.mpr ⟨g, haccepts⟩⟩⟩
        refine List.mem_filter.mpr ⟨href, ?_⟩
        unfold namesGateway
        rw [hns, hname, beq_self_eq_true, beq_self_eq_true]
        rfl
    · intro haccepted
      obtain ⟨route, hroute, haccepted⟩ := haccepted
      obtain ⟨parentRef, href, haccepts⟩ := (acceptedBy_iff hgateway).mp haccepted
      obtain ⟨href, hnames⟩ := List.mem_filter.mp href
      simp only [namesGateway, Bool.and_eq_true, beq_iff_eq] at hnames
      have hget : s.getHttproute (namespaceOf route) (nameAny route) = some route :=
        Store.mem_values.mp hroute
      exact ⟨namespaceOf route, nameAny route, (List.mem_filter.mp
        ((mem_configmapsFor_reconcileHttproute hget).mpr
          ⟨parentRef, href, hnames.1, hnames.2, gateway, haccepts, rfl⟩)).1⟩

end

/-! ## Safety -/

/-- In every configuration that is emitted, a Service in a watched namespace
other than the route's is named only by leave of a grant. -/
def CrossNamespaceSafe (s : WorldSnapshot) (config : ControllerConfig)
    (watched : String → Prop) : Prop :=
  ∀ ns name gateway, s.getGateway ns name = some gateway → Emits s config ns name gateway →
    ∀ c ∈ (buildGatewayConfig gateway ns s).1.routes, ∀ target ∈ c.targets,
      watched target.namespace → target.namespace ≠ c.namespace →
        servicePermitted s c.namespace target.namespace target.name = true

/-- What a programmed route names is what its HTTPRoute names. -/
theorem targets_permitted_iff {s : WorldSnapshot} {route : HTTPRoute} {listeners : List String}
    (watched : String → Prop) :
    (∀ target ∈ (convertHttprouteToConfig route listeners).targets,
        watched target.namespace → target.namespace ≠ namespaceOf route →
          servicePermitted s (namespaceOf route) target.namespace target.name = true) ↔
      ∀ target ∈ serviceTargets route, watched target.1 → target.1 ≠ namespaceOf route →
        servicePermitted s (namespaceOf route) target.1 target.2 = true := by
  rw [← targets_convertHttprouteToConfig route listeners, List.forall_mem_map]

/-- **When configurations are safe across namespaces.** Exactly when, for every
Gateway whose configuration is emitted, each backend and each mirror target of
each route that names it has a grant, if it lies in another namespace. Whether
the route is accepted makes no difference. -/
theorem cross_namespace_safe_iff (s : WorldSnapshot) (config : ControllerConfig)
    (watched : String → Prop) :
    CrossNamespaceSafe s config watched ↔
      ∀ ns name gateway, s.getGateway ns name = some gateway →
        (readyGateway s ns name = some gateway ∨
          ∃ route ∈ s.httproutes.values, ∃ parentRef ∈ parentRefsTo ns name route,
            Accepts s route parentRef (namespaceOf route) gateway) →
        ∀ route ∈ s.routesForGateway ns name, ∀ target ∈ serviceTargets route,
          watched target.1 → target.1 ≠ namespaceOf route →
            servicePermitted s (namespaceOf route) target.1 target.2 = true := by
  unfold CrossNamespaceSafe
  refine forall₃_congr fun ns name gateway => forall_congr' fun hgateway => ?_
  have hemits : Emits s config ns name gateway ↔
      readyGateway s ns name = some gateway ∨
        ∃ route ∈ s.httproutes.values, ∃ parentRef ∈ parentRefsTo ns name route,
          Accepts s route parentRef (namespaceOf route) gateway := by
    rw [emits_iff config hgateway]
    exact or_congr_right (exists_congr fun route => and_congr_right fun _ =>
      acceptedBy_iff hgateway)
  rw [hemits, routes_buildGatewayConfig, nameAny_of_getGateway hgateway, List.forall_mem_map]
  exact forall_congr' fun _ => forall₂_congr fun route _ => targets_permitted_iff watched

def mirrorToOther : HttpRouteRulesFilters where
  type := .requestMirror
  requestMirror := some ⟨{ name := "svc", «namespace» := some "other" }⟩

/-- A route of the namespace `default` that mirrors to `other/svc`. -/
def mirroringRoute : HTTPRoute where
  metadata := { name := some "a", «namespace» := some "default" }
  spec :=
    { parentRefs := some [{ name := "gw" }]
      rules := some [{ filters := some [mirrorToOther] }] }

/-- A mirror target in another namespace needs no grant. -/
theorem mirror_unchecked :
    ¬ ∀ (s : WorldSnapshot) (config : ControllerConfig),
      CrossNamespaceSafe s config fun _ => True := by
  intro hall
  have hgateway : (WorldSnapshot.full (clusterWith [httpListener "http" 80]
      [mirroringRoute]) 0).getGateway "default" "gw" =
      some (gatewayWith [httpListener "http" 80]) := rfl
  have hemits := (emits_iff {} hgateway).mpr (Or.inl rfl)
  have hroute : mirroringRoute ∈ (WorldSnapshot.full (clusterWith [httpListener "http" 80]
      [mirroringRoute]) 0).routesForGateway "default" "gw" := by
    rw [routesForGateway_clusterWith_singleton]
    exact List.mem_filter.mpr ⟨List.mem_singleton_self _, rfl⟩
  have hsafe := hall _ {} _ _ _ hgateway hemits _
    ((mem_routes_buildGatewayConfig hgateway).mpr ⟨_, hroute, rfl⟩)
  have hpermitted : servicePermitted (.full (clusterWith [httpListener "http" 80]
      [mirroringRoute]) 0) (namespaceOf mirroringRoute) "other" "svc" = true :=
    (targets_permitted_iff fun _ => True).mp hsafe ("other", "svc") (by decide) trivial
      (by decide)
  exact absurd hpermitted (by decide)

end Multiway.ControlPlane
