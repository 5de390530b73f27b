import Multiway.ControlPlane.Fetched
import Multiway.ControlPlane.Validate
import Multiway.Lib.Run

/-!
# Validating on a fetched snapshot

The snapshot fetched for an HTTPRoute is a small part of the cluster, but it is
all that `validateParentRef` reads: each Gateway the route names with its
class, each Service it names, and every grant that could let its namespace in.
So a parent reference of the route is found on the fetched snapshot to be what
it is in the cluster (`validateParentRef_fetched`).
-/

namespace Multiway.ControlPlane

open Multiway.Lib
open Multiway.Kube
open WorldSnapshot SnapshotFetcher

/-- What fetching makes of a snapshot: it stays a fragment of the cluster, it
loses nothing, and the grants are fetched last. -/
structure Extends (cluster : Objects) (s t : WorldSnapshot) : Prop where
  fragment : Fragment cluster t
  gateways : s.gateways.Within t.gateways
  gatewayClasses : s.gatewayClasses.Within t.gatewayClasses
  services : s.services.Within t.services
  referenceGrants : t.referenceGrants = s.referenceGrants

namespace Extends

variable {cluster : Objects} {s t u : WorldSnapshot}

theorem refl (h : Fragment cluster s) : Extends cluster s s :=
  ⟨h, .refl _, .refl _, .refl _, rfl⟩

theorem trans (hst : Extends cluster s t) (htu : Extends cluster t u) : Extends cluster s u where
  fragment := htu.fragment
  gateways := hst.gateways.trans htu.gateways
  gatewayClasses := hst.gatewayClasses.trans htu.gatewayClasses
  services := hst.services.trans htu.services
  referenceGrants := htu.referenceGrants.trans hst.referenceGrants

theorem addService (h : Fragment cluster s) (k : String × String) :
    Extends cluster s (addWith withService s (cluster.services.get? k)) := by
  have hfragment := fragment_addService h k
  rcases hget : cluster.services.get? k with _ | svc
  · exact .refl h
  · rw [hget] at hfragment
    have hkey := Store.key_of_get? hget
    exact ⟨hfragment, .refl _, .refl _, h.services.within_insert (hkey ▸ hget), rfl⟩

theorem addGatewayClass (h : Fragment cluster s) (name : String) :
    Extends cluster s (addWith withGatewayClass s (cluster.gatewayClasses.get? name)) := by
  have hfragment := fragment_addGatewayClass h name
  rcases hget : cluster.gatewayClasses.get? name with _ | gc
  · exact .refl h
  · rw [hget] at hfragment
    have hkey := Store.key_of_get? hget
    exact ⟨hfragment, .refl _, h.gatewayClasses.within_insert (hkey ▸ hget), .refl _, rfl⟩

theorem withGateway (h : Fragment cluster s) {gw : Gateway}
    (hgw : cluster.gateways.get? (objectKey gw) = some gw) :
    Extends cluster s (s.withGateway gw) :=
  ⟨h.withGateway hgw, h.gateways.within_insert hgw, .refl _, .refl _, rfl⟩

theorem addConfigmap (h : Fragment cluster s) (cm : Option ConfigMap) :
    Extends cluster s (addWith withConfigmap s cm) := by
  rcases cm with _ | cm
  · exact .refl h
  · exact ⟨{ h with }, .refl _, .refl _, .refl _, rfl⟩

theorem addDeployment (h : Fragment cluster s) (dep : Option Deployment) :
    Extends cluster s (addWith withDeployment s dep) := by
  rcases dep with _ | dep
  · exact .refl h
  · exact ⟨{ h with }, .refl _, .refl _, .refl _, rfl⟩

theorem fetchManagedResources (h : Fragment cluster s) (names : DataPlaneNames) :
    Extends cluster s (fetchManagedResources (.ofCluster cluster) s names) := by
  have hread : orLeftOut ((Client.ofCluster cluster).services.get
      (names.namespace, names.serviceName)) =
      cluster.services.get? (names.namespace, names.serviceName) := orLeftOut_ofStore
  unfold SnapshotFetcher.fetchManagedResources
  dsimp only
  rw [hread]
  have hcm := addConfigmap h (orLeftOut ((Client.ofCluster cluster).configmaps.get
    (names.namespace, names.configmapName)))
  have hsvc := hcm.trans (addService hcm.fragment (names.namespace, names.serviceName))
  exact hsvc.trans (addDeployment hsvc.fragment _)

/-! What has been found to be as in the cluster stays so. -/

theorem getGateway_eq (h : Extends cluster s t) {k : String × String}
    (hk : s.gateways.get? k = cluster.gateways.get? k) :
    t.gateways.get? k = cluster.gateways.get? k :=
  h.gateways.get?_eq h.fragment.gateways hk

theorem getGatewayClass_eq (h : Extends cluster s t) {k : String}
    (hk : s.gatewayClasses.get? k = cluster.gatewayClasses.get? k) :
    t.gatewayClasses.get? k = cluster.gatewayClasses.get? k :=
  h.gatewayClasses.get?_eq h.fragment.gatewayClasses hk

theorem getService_eq (h : Extends cluster s t) {k : String × String}
    (hk : s.services.get? k = cluster.services.get? k) :
    t.services.get? k = cluster.services.get? k :=
  h.services.get?_eq h.fragment.services hk

end Extends

/-! ## Backends -/

section
variable {cluster : Objects} {s : WorldSnapshot} {ns : String}

/-- The Service of a backend reference is on the snapshot what it is in the
cluster. Other kinds of backends are not fetched. -/
def HasBackend (cluster : Objects) (ns : String) (backend : HttpRouteRulesBackendRefs)
    (s : WorldSnapshot) : Prop :=
  backend.kind.getD "Service" = "Service" →
    s.services.get? (backend.namespace.getD ns, backend.name) =
      cluster.services.get? (backend.namespace.getD ns, backend.name)

theorem extends_fetchBackendService (h : Fragment cluster s)
    (backend : HttpRouteRulesBackendRefs) :
    Extends cluster s (fetchBackendService (.ofCluster cluster) ns s backend) ∧
      HasBackend cluster ns backend (fetchBackendService (.ofCluster cluster) ns s backend) := by
  have hread : orLeftOut ((Client.ofCluster cluster).services.get
      (backend.namespace.getD ns, backend.name)) =
      cluster.services.get? (backend.namespace.getD ns, backend.name) := orLeftOut_ofStore
  unfold fetchBackendService
  split
  next hkind => exact ⟨.refl h, fun hservice => absurd hservice hkind⟩
  next =>
    rw [hread]
    refine ⟨.addService h _, fun _ => ?_⟩
    rcases hget : cluster.services.get? (backend.namespace.getD ns, backend.name) with _ | svc
    · exact h.services.get?_eq_none hget
    · exact Store.get?_insert_of_eq _ (Store.key_of_get? hget)

variable (ns) in
/-- Every backend of the route is fetched. -/
theorem extends_fetchBackendServices (h : Fragment cluster s) (route : HTTPRoute) :
    Extends cluster s (fetchBackendServices (.ofCluster cluster) s route ns) ∧
      ∀ backend ∈ backendRefsOf route,
        HasBackend cluster ns backend (fetchBackendServices (.ofCluster cluster) s route ns) := by
  have hone : ∀ t (backend : HttpRouteRulesBackendRefs), Extends cluster s t →
      Extends cluster s (fetchBackendService (.ofCluster cluster) ns t backend) :=
    fun t backend ht => ht.trans (extends_fetchBackendService ht.fragment backend).1
  have hkeep : ∀ t (backend b : HttpRouteRulesBackendRefs), Extends cluster s t →
      HasBackend cluster ns backend t →
      HasBackend cluster ns backend (fetchBackendService (.ofCluster cluster) ns t b) :=
    fun t backend b ht hb hkind =>
      (extends_fetchBackendService ht.fragment b).1.getService_eq (hb hkind)
  have hrule : ∀ t (rule : HttpRouteRules), Extends cluster s t →
      Extends cluster s ((rule.backendRefs.getD []).foldl
        (fetchBackendService (.ofCluster cluster) ns) t) ∧
      ∀ backend ∈ rule.backendRefs.getD [], HasBackend cluster ns backend
        ((rule.backendRefs.getD []).foldl (fetchBackendService (.ofCluster cluster) ns) t) :=
    fun t rule ht => foldl_each
      (fun t b _ ht => ⟨hone t b ht, (extends_fetchBackendService ht.fragment b).2⟩)
      (fun t a b _ => hkeep t a b) ht
  unfold fetchBackendServices
  obtain ⟨hend, hall⟩ := foldl_each (I := Extends cluster s)
    (P := fun (rule : HttpRouteRules) t =>
      ∀ backend ∈ rule.backendRefs.getD [], HasBackend cluster ns backend t)
    (fun t rule _ ht => hrule t rule ht)
    (fun t _ rule _ ht hr backend hb =>
      (List.foldlRecOn (rule.backendRefs.getD []) _
        (motive := fun t => Extends cluster s t ∧ HasBackend cluster ns backend t)
        ⟨ht, hr backend hb⟩ fun t ht b _ => ⟨hone t b ht.1, hkeep t backend b ht.1 ht.2⟩).2)
    (.refl h)
  refine ⟨hend, fun backend hbackend => ?_⟩
  obtain ⟨rule, hmem, hb⟩ := List.mem_flatMap.mp hbackend
  exact hall rule hmem backend hb

/-! ## Parents -/

/-- The Gateway of a parent reference and its class are on the snapshot what
they are in the cluster. -/
structure HasParent (cluster : Objects) (ns : String) (parentRef : HttpRouteParentRefs)
    (s : WorldSnapshot) : Prop where
  gateway : s.gateways.get? (parentRef.namespace.getD ns, parentRef.name) =
    cluster.gateways.get? (parentRef.namespace.getD ns, parentRef.name)
  gatewayClass : ∀ gateway,
    cluster.gateways.get? (parentRef.namespace.getD ns, parentRef.name) = some gateway →
      s.gatewayClasses.get? gateway.spec.gatewayClassName =
        cluster.gatewayClasses.get? gateway.spec.gatewayClassName

/-- The reference is one to a Gateway; parents of other kinds are not fetched. -/
def isGatewayRef (parentRef : HttpRouteParentRefs) : Prop :=
  parentRef.group.getD "gateway.networking.k8s.io" = "gateway.networking.k8s.io" ∧
    parentRef.kind.getD "Gateway" = "Gateway"

theorem HasParent.of_extends {t : WorldSnapshot} {parentRef : HttpRouteParentRefs}
    (h : HasParent cluster ns parentRef s) (ht : Extends cluster s t) :
    HasParent cluster ns parentRef t :=
  ⟨ht.getGateway_eq h.gateway, fun gateway hget =>
    ht.getGatewayClass_eq (h.gatewayClass gateway hget)⟩

theorem extends_fetchParent (h : Fragment cluster s) (parentRef : HttpRouteParentRefs) :
    Extends cluster s (fetchParent (.ofCluster cluster) ns s parentRef) ∧
      (isGatewayRef parentRef →
        HasParent cluster ns parentRef (fetchParent (.ofCluster cluster) ns s parentRef)) := by
  unfold fetchParent
  split
  next hother =>
    exact ⟨.refl h, fun href => absurd href (by
      rw [isGatewayRef, not_and_or]
      exact hother)⟩
  next =>
    dsimp only
    -- 404 leaves the Gateway out, as it is left out of the cluster
    rcases hget : cluster.gateways.get? (parentRef.namespace.getD ns, parentRef.name)
      with _ | gw
    · have hread : (Client.ofCluster cluster).gateways.get
          (parentRef.namespace.getD ns, parentRef.name) = .error (.api 404) :=
        get_ofStore_of_none hget
      rw [hread]
      refine ⟨.refl h, fun _ => ⟨?_, fun gateway hgateway => ?_⟩⟩
      · rw [hget]
        exact h.gateways.get?_eq_none hget
      · rw [hget] at hgateway
        cases hgateway
    · have hread : (Client.ofCluster cluster).gateways.get
          (parentRef.namespace.getD ns, parentRef.name) = .ok gw :=
        get_ofStore_of_some hget
      have hclassRead : orLeftOut ((Client.ofCluster cluster).gatewayClasses.get
          gw.spec.gatewayClassName) =
          cluster.gatewayClasses.get? gw.spec.gatewayClassName := orLeftOut_ofStore
      have hkey := Store.key_of_get? hget
      rw [hread]
      dsimp only
      rw [hclassRead]
      have hclass := Extends.addGatewayClass h gw.spec.gatewayClassName
      have hmanaged := Extends.fetchManagedResources hclass.fragment
        ⟨parentRef.namespace.getD ns, parentRef.name⟩
      have hrest := hmanaged.trans (.withGateway hmanaged.fragment (hkey ▸ hget))
      refine ⟨hclass.trans hrest, fun _ => ⟨?_, fun gateway hgateway => ?_⟩⟩
      · rw [hget]
        exact Store.get?_insert_of_eq _ hkey
      · obtain rfl := Option.some.inj (hget.symm.trans hgateway)
        exact hrest.getGatewayClass_eq (getGatewayClass_add h gw.spec.gatewayClassName)

/-! ## Grants -/

/-- The grants that are fetched: those in the namespace and those that name it. -/
def grantConcerns (ns : String) (grant : ReferenceGrant) : Bool :=
  namespaceOf grant == ns || grant.spec.from.any (·.namespace == ns)

theorem fetchGrants_eq (ns : String) (grants : List ReferenceGrant) (s : WorldSnapshot) :
    grants.foldl (fun s grant =>
        if grantConcerns ns grant then s.withReferenceGrant grant else s) s =
      { s with referenceGrants := s.referenceGrants.insertAll (grants.filter (grantConcerns ns)) } := by
  induction grants generalizing s with
  | nil => rfl
  | cons grant grants ih =>
    rw [List.foldl_cons, ih]
    by_cases hgrant : grantConcerns ns grant = true
    · rw [if_pos hgrant, List.filter_cons_of_pos hgrant]
      rfl
    · rw [if_neg hgrant, List.filter_cons_of_neg hgrant]

/-- A grant that lets the namespace refer somewhere names it. -/
theorem grantConcerns_of_allows {fromGroup fromKind toNs toGroup toKind : String}
    {grant : ReferenceGrant}
    (hallows : grantAllows ns fromGroup fromKind toNs toGroup toKind grant = true) :
    grantConcerns ns grant = true := by
  simp only [grantAllows, Bool.and_eq_true, List.any_eq_true, beq_iff_eq] at hallows
  obtain ⟨⟨-, f, hf, ⟨hns, -⟩, -⟩, -⟩ := hallows
  exact Bool.or_eq_true_iff.mpr (.inr (List.any_eq_true.mpr ⟨f, hf, beq_iff_eq.mpr hns⟩))

theorem mem_values_of_fetched
    (hgrants : s.referenceGrants = (∅ : Namespaced ReferenceGrant).insertAll
      (cluster.referenceGrants.values.filter (grantConcerns ns))) {grant : ReferenceGrant} :
    grant ∈ s.referenceGrants.values ↔
      grant ∈ cluster.referenceGrants.values ∧ grantConcerns ns grant = true := by
  rw [Store.mem_values, Store.mem_values, hgrants, Store.get?_insertAll_filter_values,
    Store.get?_empty, Option.or_none, Option.filter_eq_some_iff]

/-- No grant that lets the namespace in is left out. -/
theorem isReferenceAllowed_of_fetched
    (hgrants : s.referenceGrants = (∅ : Namespaced ReferenceGrant).insertAll
      (cluster.referenceGrants.values.filter (grantConcerns ns)))
    (now : Time) (fromGroup fromKind toNs toGroup toKind : String) :
    s.isReferenceAllowed ns fromGroup fromKind toNs toGroup toKind =
      (WorldSnapshot.full cluster now).isReferenceAllowed ns fromGroup fromKind toNs toGroup
        toKind := by
  unfold WorldSnapshot.isReferenceAllowed
  rw [Bool.eq_iff_iff, List.any_eq_true, List.any_eq_true]
  refine exists_congr fun grant => and_congr_left fun hallows => ?_
  rw [mem_values_of_fetched hgrants]
  exact and_iff_left (grantConcerns_of_allows hallows)

/-! ## The whole snapshot -/

/-- What validating a route of the namespace reads is on the snapshot what it
is in the cluster. -/
structure ValidatesFor (cluster : Objects) (ns : String) (route : HTTPRoute)
    (s : WorldSnapshot) : Prop where
  parents : ∀ parentRef ∈ route.spec.parentRefs.getD [], isGatewayRef parentRef →
    HasParent cluster ns parentRef s
  backends : ∀ backend ∈ backendRefsOf route, HasBackend cluster ns backend s
  grants : ∀ fromGroup fromKind toNs toGroup toKind : String, ∀ now,
    s.isReferenceAllowed ns fromGroup fromKind toNs toGroup toKind =
      (WorldSnapshot.full cluster now).isReferenceAllowed ns fromGroup fromKind toNs toGroup
        toKind

/-- The snapshot once the parents and the backends of the route are fetched. -/
def parentsAndBackends (cluster : Objects) (now : Time) (ns : String) (route : HTTPRoute) :
    WorldSnapshot :=
  fetchBackendServices (.ofCluster cluster)
    ((route.spec.parentRefs.getD []).foldl (fetchParent (.ofCluster cluster) ns)
      ((WorldSnapshot.new now).withHttproute route)) route ns

/-- The grants are read last, and nothing before that reads one. -/
theorem snapshotForHttproute_eq {name : String} {route : HTTPRoute} (now : Time)
    (hroute : cluster.httproutes.get? (ns, name) = some route) :
    snapshotForHttproute (.ofCluster cluster) now ns name =
      .ok { parentsAndBackends cluster now ns route with
        referenceGrants := (parentsAndBackends cluster now ns route).referenceGrants.insertAll
          (cluster.referenceGrants.values.filter (grantConcerns ns)) } := by
  have hread : orNotFound ((Client.ofCluster cluster).httproutes.get (ns, name)) =
      .ok (some route) := by
    rw [← hroute]
    exact orNotFound_ofStore
  unfold snapshotForHttproute
  rw [hread]
  exact congrArg Except.ok (fetchGrants_eq ns cluster.referenceGrants.values _)

/-- Every parent and every backend of the route is fetched. -/
theorem extends_parentsAndBackends {name : String} {route : HTTPRoute} (now : Time)
    (hroute : cluster.httproutes.get? (ns, name) = some route) :
    Extends cluster ((WorldSnapshot.new now).withHttproute route)
        (parentsAndBackends cluster now ns route) ∧
      (∀ parentRef ∈ route.spec.parentRefs.getD [], isGatewayRef parentRef →
        HasParent cluster ns parentRef (parentsAndBackends cluster now ns route)) ∧
      ∀ backend ∈ backendRefsOf route,
        HasBackend cluster ns backend (parentsAndBackends cluster now ns route) := by
  have hnew : Fragment cluster ((WorldSnapshot.new now).withHttproute route) :=
    (Fragment.new cluster now).withHttproute (Store.key_of_get? hroute ▸ hroute)
  obtain ⟨hparents, hparent⟩ := foldl_each
    (f := fetchParent (.ofCluster cluster) ns)
    (I := Extends cluster ((WorldSnapshot.new now).withHttproute route))
    (P := fun parentRef t => isGatewayRef parentRef → HasParent cluster ns parentRef t)
    (l := route.spec.parentRefs.getD [])
    (fun t parentRef _ ht =>
      ⟨ht.trans (extends_fetchParent ht.fragment parentRef).1,
        (extends_fetchParent ht.fragment parentRef).2⟩)
    (fun t _ b _ ht hp href => (hp href).of_extends (extends_fetchParent ht.fragment b).1)
    (.refl hnew)
  obtain ⟨hbackends, hbackend⟩ := extends_fetchBackendServices ns hparents.fragment route
  exact ⟨hparents.trans hbackends,
    fun parentRef hmem href => (hparent parentRef hmem href).of_extends hbackends, hbackend⟩

/-- The grants of the fetched snapshot are those of the cluster that concern
the namespace. -/
theorem referenceGrants_snapshotForHttproute {name : String} {route : HTTPRoute} {now : Time}
    (hroute : cluster.httproutes.get? (ns, name) = some route)
    (hs : snapshotForHttproute (.ofCluster cluster) now ns name = .ok s) :
    s.referenceGrants = (∅ : Namespaced ReferenceGrant).insertAll
      (cluster.referenceGrants.values.filter (grantConcerns ns)) := by
  rw [snapshotForHttproute_eq now hroute] at hs
  cases hs
  have hnone := (extends_parentsAndBackends now hroute).1.referenceGrants
  exact congrArg (fun grants : Namespaced ReferenceGrant => grants.insertAll
    (cluster.referenceGrants.values.filter (grantConcerns ns))) hnone

/-- **Everything validation reads is fetched.** -/
theorem validatesFor_snapshotForHttproute {name : String} {route : HTTPRoute} {now : Time}
    (hroute : cluster.httproutes.get? (ns, name) = some route)
    (hs : snapshotForHttproute (.ofCluster cluster) now ns name = .ok s) :
    ValidatesFor cluster ns route s := by
  have hgrants := referenceGrants_snapshotForHttproute hroute hs
  obtain ⟨-, hparent, hbackend⟩ := extends_parentsAndBackends now hroute
  rw [snapshotForHttproute_eq now hroute] at hs
  cases hs
  exact
    { parents := fun parentRef hmem href =>
        ⟨(hparent parentRef hmem href).gateway, (hparent parentRef hmem href).gatewayClass⟩
      backends := hbackend
      grants := fun _ _ _ _ _ now' => isReferenceAllowed_of_fetched hgrants now' _ _ _ _ _ }

/-! ## Validation -/

variable {route : HTTPRoute}

theorem ValidatesFor.validateBackend_eq (h : ValidatesFor cluster ns route s) (now : Time)
    {backend : HttpRouteRulesBackendRefs} (hmem : backend ∈ backendRefsOf route) :
    validateBackend s ns backend = validateBackend (.full cluster now) ns backend := by
  by_cases hkind : backend.kind.getD "Service" = "Service"
  · have hexists : s.serviceExists (backend.namespace.getD ns) backend.name =
        (WorldSnapshot.full cluster now).serviceExists (backend.namespace.getD ns) backend.name :=
      congrArg Option.isSome (h.backends backend hmem hkind)
    have hallowed : s.isServiceReferenceAllowed ns (backend.namespace.getD ns) =
        (WorldSnapshot.full cluster now).isServiceReferenceAllowed ns
          (backend.namespace.getD ns) := h.grants _ _ _ _ _ now
    unfold validateBackend
    dsimp only
    rw [hexists, hallowed]
  · have hother : backend.group.getD "" ≠ "" ∨ backend.kind.getD "Service" ≠ "Service" :=
      .inr hkind
    unfold validateBackend
    dsimp only
    rw [if_pos hother, if_pos hother]

/-- **A parent reference is found to be what it is in the cluster.** -/
theorem ValidatesFor.validateParentRef_eq (h : ValidatesFor cluster ns route s) (now : Time)
    {parentRef : HttpRouteParentRefs} (hmem : parentRef ∈ route.spec.parentRefs.getD []) :
    validateParentRef s route parentRef ns =
      validateParentRef (.full cluster now) route parentRef ns := by
  by_cases href : isGatewayRef parentRef
  · have hparent := h.parents parentRef hmem href
    have hgateway : s.getGateway (parentRef.namespace.getD ns) parentRef.name =
        (WorldSnapshot.full cluster now).getGateway (parentRef.namespace.getD ns)
          parentRef.name := hparent.gateway
    have hbackends : (backendRefsOf route).findSome? (validateBackend s ns) =
        (backendRefsOf route).findSome? (validateBackend (.full cluster now) ns) := by
      have hmap := List.map_congr_left fun backend hmem => h.validateBackend_eq now hmem
      have hfirst := congrArg (List.findSome? id) hmap
      rw [List.findSome?_map, List.findSome?_map] at hfirst
      exact hfirst
    unfold validateParentRef
    dsimp only
    rw [hgateway, hbackends]
    rcases hget : (WorldSnapshot.full cluster now).getGateway (parentRef.namespace.getD ns)
      parentRef.name with _ | gateway
    · rfl
    · have hclass : getAcceptedGatewayClass s gateway.spec.gatewayClassName =
          getAcceptedGatewayClass (.full cluster now) gateway.spec.gatewayClassName :=
        congrArg (Option.filter isGatewayClassAccepted) (hparent.gatewayClass gateway hget)
      have hallowed : s.isGatewayReferenceAllowed ns (namespaceOf gateway) =
          (WorldSnapshot.full cluster now).isGatewayReferenceAllowed ns (namespaceOf gateway) :=
        h.grants _ _ _ _ _ now
      dsimp only
      rw [hclass, hallowed]
  · have hother : parentRef.group.getD "gateway.networking.k8s.io" ≠ "gateway.networking.k8s.io" ∨
        parentRef.kind.getD "Gateway" ≠ "Gateway" := not_and_or.mp href
    unfold validateParentRef
    dsimp only
    rw [if_pos hother, if_pos hother]

end

end Multiway.ControlPlane
