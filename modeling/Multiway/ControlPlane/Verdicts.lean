import Multiway.ControlPlane.Grants

/-!
# Accepted and ResolvedRefs

The status of a route has two conditions for each parent: whether the route
attaches to it, and whether what its rules send requests to can be resolved.
`validate_parent_ref` has one verdict for both, and looks at the backends but
not at the targets of mirror filters. `independentVerdicts_iff` is when the two
conditions come out right all the same.
-/

namespace Multiway.ControlPlane

open Multiway.Lib
open Multiway.Kube

/-! ## What a rule refers to -/

/-- The target of a mirror filter, as a reference to a backend. -/
def mirrorRef (filter : HttpRouteRulesFilters) : Option HttpRouteRulesBackendRefs :=
  if filter.type = .requestMirror then
    filter.requestMirror.map fun mirror =>
      { group := mirror.backendRef.group, kind := mirror.backendRef.kind
        name := mirror.backendRef.name, «namespace» := mirror.backendRef.namespace
        port := mirror.backendRef.port }
  else none

/-- The backends of a rule and the targets of the mirror filters on the rule
and on its backends. -/
def refsOfRule (rule : HttpRouteRules) : List HttpRouteRulesBackendRefs :=
  let backends := rule.backendRefs.getD []
  backends ++ ((rule.filters.getD []) ++
    backends.flatMap fun backend => backend.filters.getD []).filterMap mirrorRef

/-- A reference is to a Service that is there and, in another namespace, one
that a grant lets routes of this namespace refer to. -/
structure RefResolves (s : WorldSnapshot) (routeNs : String) (ref : HttpRouteRulesBackendRefs) :
    Prop where
  group : ref.group.getD "" = ""
  kind : ref.kind.getD "Service" = "Service"
  found : s.serviceExists (ref.namespace.getD routeNs) ref.name = true
  permitted : ref.namespace.getD routeNs = routeNs ∨
    servicePermitted s routeNs (ref.namespace.getD routeNs) ref.name = true

def RefsResolve (s : WorldSnapshot) (route : HTTPRoute) (routeNs : String) : Prop :=
  ∀ rule ∈ route.spec.rules.getD [], ∀ ref ∈ refsOfRule rule, RefResolves s routeNs ref

/-- The reference to the parent attaches, whatever the backends are: the
Gateway is there and of a class of ours, a listener matches and the namespace
of the route is allowed. -/
structure Attaches (s : WorldSnapshot) (parentRef : HttpRouteParentRefs) (routeNs : String)
    (gateway : Gateway) : Prop where
  group : parentRef.group.getD "gateway.networking.k8s.io" = "gateway.networking.k8s.io"
  kind : parentRef.kind.getD "Gateway" = "Gateway"
  found : s.getGateway (parentRef.namespace.getD routeNs) parentRef.name = some gateway
  gatewayClass : (getAcceptedGatewayClass s gateway.spec.gatewayClassName).isSome = true
  matching : findMatchingListeners gateway parentRef.sectionName parentRef.port ≠ []
  policy : (findMatchingListeners gateway parentRef.sectionName parentRef.port).any
      (listenerAllows gateway routeNs) = true ∨ routeNs = namespaceOf gateway ∨
    s.isGatewayReferenceAllowed routeNs (namespaceOf gateway) = true

/-! ## The status entry of a parent -/

/-- The entry that `reconcile_httproute` writes for a parent reference. -/
def parentStatusOf (s : WorldSnapshot) (route : HTTPRoute) (routeNs : String)
    (parentRef : HttpRouteParentRefs) : HttpRouteStatusParents :=
  buildParentStatus s.now (validateParentRef s route parentRef routeNs) route.metadata.generation

/-- The two conditions of the entry say each its own, and where the reference
attaches the ConfigMap of the Gateway is written, with every rule of a route
that names it. -/
structure IndependentVerdicts (s : WorldSnapshot) (route : HTTPRoute)
    (parentRef : HttpRouteParentRefs) (routeNs : String) : Prop where
  resolvedRefs : conditionStatus
      ((parentStatusOf s route routeNs parentRef).conditions.getD []) "ResolvedRefs" =
        some "False" ↔ ¬RefsResolve s route routeNs
  accepted : conditionStatus
      ((parentStatusOf s route routeNs parentRef).conditions.getD []) "Accepted" =
        some "True" ↔ ∃ gateway, Attaches s parentRef routeNs gateway
  served : ∀ gateway, Attaches s parentRef routeNs gateway →
    parentConfigmap s route routeNs parentRef =
        some (gatewayConfigmap s (parentRef.namespace.getD routeNs) parentRef.name gateway) ∧
      (route ∈ s.routesForGateway (parentRef.namespace.getD routeNs) parentRef.name →
        ∀ rule ∈ route.spec.rules.getD [],
          ∃ c ∈ (buildGatewayConfig gateway (parentRef.namespace.getD routeNs) s).1.routes,
            c.routeKey = objectKey route ∧ convertRule (namespaceOf route) rule ∈ c.rules)

section
variable {s : WorldSnapshot} {route : HTTPRoute} {parentRef : HttpRouteParentRefs}
  {routeNs : String} {gateway : Gateway}

/-- Acceptance is both at once. -/
theorem accepts_iff_attaches :
    Accepts s route parentRef routeNs gateway ↔
      Attaches s parentRef routeNs gateway ∧
        ∀ backend ∈ backendRefsOf route, validateBackend s routeNs backend = none := by
  constructor
  · intro h
    exact ⟨⟨h.group, h.kind, h.found, h.gatewayClass, h.matching, h.policy⟩, h.backends⟩
  · intro h
    obtain ⟨hattaches, hbackends⟩ := h
    exact ⟨hattaches.group, hattaches.kind, hattaches.found, hattaches.gatewayClass,
      hattaches.matching, hattaches.policy, hbackends⟩

theorem isServiceReferenceAllowed_of_permitted {serviceNs serviceName : String}
    (h : servicePermitted s routeNs serviceNs serviceName = true) :
    s.isServiceReferenceAllowed routeNs serviceNs = true := by
  unfold servicePermitted at h
  obtain ⟨grant, hmem, hpermits⟩ := List.any_eq_true.mp h
  exact List.any_eq_true.mpr ⟨grant, hmem, grantAllows_of_permits hpermits⟩

/-- A reference that resolves passes the check of backends. -/
theorem validateBackend_of_resolves {ref : HttpRouteRulesBackendRefs}
    (h : RefResolves s routeNs ref) : validateBackend s routeNs ref = none := by
  unfold validateBackend
  dsimp only
  rw [if_neg (not_or.mpr ⟨not_not.mpr h.group, not_not.mpr h.kind⟩), h.found,
    if_neg (by decide), if_neg]
  intro hdenied
  obtain ⟨hother, hnogrant⟩ := hdenied
  have hgrant := isServiceReferenceAllowed_of_permitted (h.permitted.resolve_left hother)
  rw [hgrant] at hnogrant
  cases hnogrant

theorem backends_pass_of_refsResolve (h : RefsResolve s route routeNs) :
    ∀ backend ∈ backendRefsOf route, validateBackend s routeNs backend = none := by
  intro backend hmem
  obtain ⟨rule, hrule, hbackend⟩ := List.mem_flatMap.mp hmem
  exact validateBackend_of_resolves (h rule hrule backend (List.mem_append_left _ hbackend))

theorem statusText_eq_true_iff {b : Bool} : statusText b = "True" ↔ b = true := by
  cases b <;> decide

theorem statusText_eq_false_iff {b : Bool} : statusText b = "False" ↔ b = false := by
  cases b <;> decide

/-- Both conditions of an entry are the one verdict. -/
theorem conditionStatus_parentStatusOf (type : String)
    (htype : type = "Accepted" ∨ type = "ResolvedRefs") :
    conditionStatus ((parentStatusOf s route routeNs parentRef).conditions.getD []) type =
      some (statusText (validateParentRef s route parentRef routeNs).accepted) := by
  rcases htype with rfl | rfl
  · rfl
  · rfl

theorem routes_served (h : Attaches s parentRef routeNs gateway)
    (hroute : route ∈ s.routesForGateway (parentRef.namespace.getD routeNs) parentRef.name)
    {rule : HttpRouteRules} (hrule : rule ∈ route.spec.rules.getD []) :
    ∃ c ∈ (buildGatewayConfig gateway (parentRef.namespace.getD routeNs) s).1.routes,
      c.routeKey = objectKey route ∧ convertRule (namespaceOf route) rule ∈ c.rules := by
  refine ⟨_, (mem_routes_buildGatewayConfig h.found).mpr ⟨route, hroute, rfl⟩, rfl, ?_⟩
  exact List.mem_map_of_mem hrule

end

/-- **When the two conditions are right.** The reference attaches and all that
the rules refer to resolves, or it does not attach and something does not. -/
theorem independentVerdicts_iff (s : WorldSnapshot) (route : HTTPRoute)
    (parentRef : HttpRouteParentRefs) (routeNs : String) :
    IndependentVerdicts s route parentRef routeNs ↔
      ((∃ gateway, Attaches s parentRef routeNs gateway) ↔ RefsResolve s route routeNs) := by
  constructor
  · intro h
    have haccepted := h.accepted
    have hresolved := h.resolvedRefs
    rw [conditionStatus_parentStatusOf _ (.inl rfl), Option.some.injEq,
      statusText_eq_true_iff] at haccepted
    rw [conditionStatus_parentStatusOf _ (.inr rfl), Option.some.injEq,
      statusText_eq_false_iff] at hresolved
    rw [← haccepted, ← Bool.not_eq_false, hresolved, not_not]
  · intro h
    -- the backends pass when the references resolve, so acceptance is attachment
    have haccepted : (validateParentRef s route parentRef routeNs).accepted = true ↔
        ∃ gateway, Attaches s parentRef routeNs gateway := by
      rw [accepted_iff]
      constructor
      · intro haccepts
        obtain ⟨gateway, haccepts⟩ := haccepts
        exact ⟨gateway, (accepts_iff_attaches.mp haccepts).1⟩
      · intro hattaches
        obtain ⟨gateway, hgateway⟩ := hattaches
        exact ⟨gateway, accepts_iff_attaches.mpr
          ⟨hgateway, backends_pass_of_refsResolve (h.mp ⟨gateway, hgateway⟩)⟩⟩
    refine ⟨?_, ?_, ?_⟩
    · rw [conditionStatus_parentStatusOf _ (.inr rfl), Option.some.injEq,
        statusText_eq_false_iff, ← Bool.not_eq_true, haccepted, h]
    · rw [conditionStatus_parentStatusOf _ (.inl rfl), Option.some.injEq,
        statusText_eq_true_iff, haccepted]
    · intro gateway hgateway
      have hbackends := backends_pass_of_refsResolve (h.mp ⟨gateway, hgateway⟩)
      have haccepts := accepts_iff_attaches.mpr ⟨hgateway, hbackends⟩
      exact ⟨parentConfigmap_eq_some_iff.mpr ⟨gateway, haccepts, rfl⟩,
        fun hroute rule hrule => routes_served hgateway hroute hrule⟩

/-- A mirror target that is not there: the references are reported resolved. -/
theorem missing_mirror_resolved :
    ¬IndependentVerdicts (.full (clusterWith [httpListener "http" 80] [mirroringRoute]) 0)
      mirroringRoute { name := "gw" } "default" := by
  intro hverdicts
  have hentry : conditionStatus ((parentStatusOf
      (.full (clusterWith [httpListener "http" 80] [mirroringRoute]) 0) mirroringRoute "default"
        { name := "gw" }).conditions.getD []) "ResolvedRefs" = some "True" := by decide +kernel
  have hunresolved : ¬RefsResolve
      (.full (clusterWith [httpListener "http" 80] [mirroringRoute]) 0) mirroringRoute
        "default" := by
    intro hresolve
    have hfound := (hresolve _ (List.mem_singleton_self _) _ (List.mem_singleton_self _)).found
    revert hfound
    decide +kernel
  have hfalse := hverdicts.resolvedRefs.mpr hunresolved
  rw [hentry] at hfalse
  exact absurd hfalse (by decide)

end Multiway.ControlPlane
