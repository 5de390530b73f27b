import Multiway.ControlPlane.Fetcher

/-!
# What a fetched snapshot holds

A snapshot fetched from an API server that answers with the current objects is
a fragment of the cluster (`Fragment`): whatever it holds is the cluster's own
object. What it holds at all is said per kind of object, for the Gateway
snapshot by `snapshotForGateway_spec` and for the HTTPRoute snapshot by
`snapshotForHttproute_spec`.
-/

namespace Multiway.ControlPlane

open Multiway.Lib
open Multiway.Kube
open WorldSnapshot
open SnapshotFetcher

/-- Every object of the snapshot is the cluster's current one. -/
structure Fragment (cluster : Objects) (s : WorldSnapshot) : Prop where
  gatewayClasses : s.gatewayClasses.Within cluster.gatewayClasses
  gateways : s.gateways.Within cluster.gateways
  httproutes : s.httproutes.Within cluster.httproutes
  services : s.services.Within cluster.services

namespace Fragment

variable {cluster : Objects} {s : WorldSnapshot}

theorem new (cluster : Objects) (now : Time) : Fragment cluster (.new now) :=
  ⟨Store.within_empty _, Store.within_empty _, Store.within_empty _, Store.within_empty _⟩

theorem withGatewayClass (h : Fragment cluster s) {gc : GatewayClass}
    (hgc : cluster.gatewayClasses.get? (nameAny gc) = some gc) :
    Fragment cluster (s.withGatewayClass gc) :=
  { h with gatewayClasses := h.gatewayClasses.insert hgc }

theorem withGateway (h : Fragment cluster s) {gw : Gateway}
    (hgw : cluster.gateways.get? (objectKey gw) = some gw) : Fragment cluster (s.withGateway gw) :=
  { h with gateways := h.gateways.insert hgw }

theorem withHttproute (h : Fragment cluster s) {route : HTTPRoute}
    (hroute : cluster.httproutes.get? (objectKey route) = some route) :
    Fragment cluster (s.withHttproute route) :=
  { h with httproutes := h.httproutes.insert hroute }

theorem withService (h : Fragment cluster s) {svc : Service}
    (hsvc : cluster.services.get? (objectKey svc) = some svc) :
    Fragment cluster (s.withService svc) :=
  { h with services := h.services.insert hsvc }

end Fragment

/-! ## Single reads -/

section
variable {K α : Type} [Ord K] [Std.TransOrd K] {key : α → K} {store : Store K α key} {k : K}

theorem orLeftOut_ofStore : orLeftOut ((Api.ofStore store).get k) = store.get? k := by
  unfold orLeftOut Api.ofStore
  dsimp only
  rcases store.get? k with _ | a <;> rfl

theorem get?_of_ofStore {a : α} (h : (Api.ofStore store).get k = .ok a) :
    store.get? k = some a := by
  unfold Api.ofStore at h
  dsimp only at h
  split at h
  next b hget =>
    cases h
    exact hget
  · cases h

theorem get_ofStore_of_some {a : α} (h : store.get? k = some a) :
    (Api.ofStore store).get k = .ok a := by
  unfold Api.ofStore
  dsimp only
  rw [h]

theorem get_ofStore_of_none (h : store.get? k = none) :
    (Api.ofStore store).get k = .error (.api 404) := by
  unfold Api.ofStore
  dsimp only
  rw [h]

theorem orNotFound_ofStore : orNotFound ((Api.ofStore store).get k) = .ok (store.get? k) := by
  unfold orNotFound Api.ofStore
  dsimp only
  rcases store.get? k with _ | a <;> rfl

end

section
variable {cluster : Objects} {s : WorldSnapshot}

theorem fragment_addService (h : Fragment cluster s) (k : String × String) :
    Fragment cluster (addWith withService s (cluster.services.get? k)) := by
  rcases hget : cluster.services.get? k with _ | svc
  · exact h
  · refine h.withService ?_
    rw [Store.key_of_get? hget]
    exact hget

theorem fragment_addGatewayClass (h : Fragment cluster s) (name : String) :
    Fragment cluster (addWith withGatewayClass s (cluster.gatewayClasses.get? name)) := by
  rcases hget : cluster.gatewayClasses.get? name with _ | gc
  · exact h
  · refine h.withGatewayClass ?_
    rw [Store.key_of_get? hget]
    exact hget

/-! ## Steps of a fetch

What a step leaves alone is an equation: the snapshot after it is the one
before with the kinds it fetches replaced. -/

variable (client : Client)

theorem addService_frame (s : WorldSnapshot) (svc : Option Service) :
    addWith withService s svc = { s with services := (addWith withService s svc).services } := by
  rcases svc with _ | svc <;> rfl

theorem fetchBackendServices_frame (s : WorldSnapshot) (route : HTTPRoute) (ns : String) :
    fetchBackendServices client s route ns =
      { s with services := (fetchBackendServices client s route ns).services } := by
  unfold fetchBackendServices
  have hstep : ∀ (s : WorldSnapshot) (b : HttpRouteRulesBackendRefs),
      fetchBackendService client ns s b =
        { s with services := (fetchBackendService client ns s b).services } := by
    intro s b
    unfold fetchBackendService
    split
    · rfl
    · exact addService_frame s _
  have hrule : ∀ (bs : List HttpRouteRulesBackendRefs) (s : WorldSnapshot),
      bs.foldl (fetchBackendService client ns) s =
        { s with services := (bs.foldl (fetchBackendService client ns) s).services } := by
    intro bs
    induction bs with
    | nil => intro s; rfl
    | cons b bs ih =>
      intro s
      rw [List.foldl_cons, ih, hstep]
  generalize route.spec.rules.getD [] = rules
  induction rules generalizing s with
  | nil => rfl
  | cons rule rules ih =>
    rw [List.foldl_cons, ih, hrule]

theorem fetchManagedResources_frame (s : WorldSnapshot) (names : DataPlaneNames) :
    fetchManagedResources client s names =
      { s with
        configmaps := (fetchManagedResources client s names).configmaps
        services := (fetchManagedResources client s names).services
        deployments := (fetchManagedResources client s names).deployments } := by
  unfold fetchManagedResources
  rcases orLeftOut (client.configmaps.get (names.namespace, names.configmapName)) with _ | cm <;>
    rcases orLeftOut (client.services.get (names.namespace, names.serviceName)) with _ | svc <;>
    rcases orLeftOut (client.deployments.get (names.namespace, names.deploymentName))
      with _ | dep <;>
    rfl

theorem fetchNodes_eq (s : WorldSnapshot) :
    fetchNodes client s =
      { s with nodes := s.nodes.insertAll ((orLeftOut client.nodes.list).getD []) } := by
  unfold fetchNodes
  generalize (orLeftOut client.nodes.list).getD [] = nodes
  induction nodes generalizing s with
  | nil => rfl
  | cons node nodes ih => rw [List.foldl_cons, ih]; rfl

theorem fragment_fetchBackendServices (h : Fragment cluster s) (route : HTTPRoute)
    (ns : String) :
    Fragment cluster (fetchBackendServices (.ofCluster cluster) s route ns) := by
  unfold fetchBackendServices
  refine List.foldlRecOn _ _ h fun s hs rule _ => ?_
  refine List.foldlRecOn _ _ hs fun s hs b _ => ?_
  unfold fetchBackendService
  split
  · exact hs
  · show Fragment cluster (addWith withService s (orLeftOut ((Api.ofStore _).get _)))
    rw [orLeftOut_ofStore]
    exact fragment_addService hs _

theorem fragment_fetchManagedResources (h : Fragment cluster s) (names : DataPlaneNames) :
    Fragment cluster (fetchManagedResources (.ofCluster cluster) s names) := by
  have hcm : ∀ cm, Fragment cluster (addWith withConfigmap s cm) := by
    rintro (_ | cm)
    · exact h
    · exact { h with }
  have hsvc : ∀ cm, Fragment cluster (addWith withService (addWith withConfigmap s cm)
      (orLeftOut ((Api.ofStore cluster.services).get (names.namespace, names.serviceName)))) := by
    intro cm
    rw [orLeftOut_ofStore]
    exact fragment_addService (hcm cm) _
  unfold fetchManagedResources
  rcases orLeftOut ((Client.ofCluster cluster).deployments.get
    (names.namespace, names.deploymentName)) with _ | dep
  · exact hsvc _
  · exact { hsvc _ with }

/-- The data plane's Service is fetched as the cluster has it. -/
theorem getService_fetchManagedResources (h : Fragment cluster s) (names : DataPlaneNames) :
    (fetchManagedResources (.ofCluster cluster) s names).getService names.namespace
        names.serviceName =
      cluster.services.get? (names.namespace, names.serviceName) := by
  have hfragment := (fragment_fetchManagedResources h names).services
  rcases hget : cluster.services.get? (names.namespace, names.serviceName) with _ | svc
  · exact hfragment.get?_eq_none hget
  · have hkey := Store.key_of_get? hget
    unfold fetchManagedResources
    have hread : orLeftOut ((Client.ofCluster cluster).services.get
        (names.namespace, names.serviceName)) = some svc := by
      rw [← hget]
      exact orLeftOut_ofStore
    rw [hread]
    have hinsert : ∀ s : WorldSnapshot, (s.withService svc).getService names.namespace
        names.serviceName = some svc := by
      intro s
      show (s.services.insert svc).get? (names.namespace, names.serviceName) = some svc
      rw [← hkey, Store.get?_insert_self]
    rcases orLeftOut ((Client.ofCluster cluster).deployments.get
      (names.namespace, names.deploymentName)) with _ | dep
    · exact hinsert _
    · exact hinsert _

/-! ## The snapshot for a Gateway -/

/-- The loop of `fetchRoutesForGateway`. -/
private theorem fetchRoutes_frame (client : Client) (gatewayNs gatewayName : String)
    (routes : List HTTPRoute) (s : WorldSnapshot) :
    let t := routes.foldl (fun s route =>
      if referencesGateway gatewayNs gatewayName route then
        (fetchBackendServices client s route (namespaceOf route)).withHttproute route
      else s) s
    t = { s with
      services := t.services
      httproutes :=
        s.httproutes.insertAll (routes.filter (referencesGateway gatewayNs gatewayName)) } := by
  induction routes generalizing s with
  | nil => rfl
  | cons route routes ih =>
    intro t
    simp only [t, List.foldl_cons]
    by_cases href : referencesGateway gatewayNs gatewayName route = true
    · rw [if_pos href, List.filter_cons_of_pos href, ih, fetchBackendServices_frame]
      rfl
    · rw [if_neg href, List.filter_cons_of_neg href, ih]

private theorem fragment_fetchRoutes (h : Fragment cluster s) (gatewayNs gatewayName : String)
    {routes : List HTTPRoute} (hroutes : ∀ route ∈ routes, route ∈ cluster.httproutes.values) :
    Fragment cluster (routes.foldl (fun s route =>
      if referencesGateway gatewayNs gatewayName route then
        (fetchBackendServices (.ofCluster cluster) s route (namespaceOf route)).withHttproute route
      else s) s) := by
  refine List.foldlRecOn _ _ h fun s hs route hroute => ?_
  split
  · exact (fragment_fetchBackendServices hs _ _).withHttproute
      (Store.mem_values.mp (hroutes route hroute))
  · exact hs

/-- What the snapshot fetched for a Gateway holds: the Gateway and its class,
the routes that name it, its data plane Service and the nodes. No Secret and
no ReferenceGrant is ever read. -/
structure FetchedForGateway (cluster : Objects) (now : Time) (ns name : String)
    (s : WorldSnapshot) : Prop where
  now : s.now = now
  gateway : s.getGateway ns name = cluster.gateways.get? (ns, name)
  gatewayClass : ∀ gateway, cluster.gateways.get? (ns, name) = some gateway →
    s.getGatewayClass gateway.spec.gatewayClassName =
      cluster.gatewayClasses.get? gateway.spec.gatewayClassName
  httproutes : s.httproutes =
    (∅ : Namespaced HTTPRoute).insertAll
      (cluster.httproutes.values.filter (referencesGateway ns name))
  service : s.getService ns (DataPlaneNames.serviceName ⟨ns, name⟩) =
    cluster.services.get? (ns, DataPlaneNames.serviceName ⟨ns, name⟩)
  nodes : s.nodes = cluster.nodes
  secrets : s.secrets = ∅
  referenceGrants : s.referenceGrants = ∅

/-- The first two reads: the Gateway and its class. -/
def gatewayAndClass (cluster : Objects) (now : Time) (ns name : String) : WorldSnapshot :=
  match cluster.gateways.get? (ns, name) with
  | none => .new now
  | some gateway =>
    addWith withGatewayClass ((WorldSnapshot.new now).withGateway gateway)
      (cluster.gatewayClasses.get? gateway.spec.gatewayClassName)

theorem snapshotForGateway_eq (cluster : Objects) (now : Time) (ns name : String) :
    snapshotForGateway (.ofCluster cluster) now ns name = .ok
      (fetchNodes (.ofCluster cluster) (fetchManagedResources (.ofCluster cluster)
        (cluster.httproutes.values.foldl (fun s route =>
          if referencesGateway ns name route then
            (fetchBackendServices (.ofCluster cluster) s route (namespaceOf route)).withHttproute
              route
          else s) (gatewayAndClass cluster now ns name)) ⟨ns, name⟩)) := by
  have hgateway : orNotFound ((Client.ofCluster cluster).gateways.get (ns, name)) =
      .ok (cluster.gateways.get? (ns, name)) := orNotFound_ofStore
  have hclass : ∀ className, orNotFound ((Client.ofCluster cluster).gatewayClasses.get className) =
      .ok (cluster.gatewayClasses.get? className) := fun _ => orNotFound_ofStore
  unfold snapshotForGateway gatewayAndClass
  rw [hgateway]
  rcases cluster.gateways.get? (ns, name) with _ | gateway
  · rfl
  · simp only [hclass]
    rfl

private theorem fragment_gatewayAndClass (cluster : Objects) (now : Time) (ns name : String) :
    Fragment cluster (gatewayAndClass cluster now ns name) := by
  unfold gatewayAndClass
  rcases hget : cluster.gateways.get? (ns, name) with _ | gateway
  · exact .new cluster now
  · refine fragment_addGatewayClass ((Fragment.new cluster now).withGateway ?_) _
    rw [Store.key_of_get? hget]
    exact hget

/-- A class that is not in the cluster is not in a fragment of it. -/
theorem getGatewayClass_add (h : Fragment cluster s) (className : String) :
    (addWith withGatewayClass s (cluster.gatewayClasses.get? className)).getGatewayClass className =
      cluster.gatewayClasses.get? className := by
  rcases hget : cluster.gatewayClasses.get? className with _ | gc
  · exact h.gatewayClasses.get?_eq_none hget
  · have hkey := Store.key_of_get? hget
    show (s.gatewayClasses.insert gc).get? className = some gc
    rw [← hkey, Store.get?_insert_self]

private theorem gatewayAndClass_spec (cluster : Objects) (now : Time) (ns name : String) :
    let s := gatewayAndClass cluster now ns name
    s.now = now ∧ s.getGateway ns name = cluster.gateways.get? (ns, name) ∧
      (∀ gateway, cluster.gateways.get? (ns, name) = some gateway →
        s.getGatewayClass gateway.spec.gatewayClassName =
          cluster.gatewayClasses.get? gateway.spec.gatewayClassName) ∧
      s.httproutes = ∅ ∧ s.nodes = ∅ ∧ s.secrets = ∅ ∧ s.referenceGrants = ∅ := by
  intro s
  have hclass : ∀ gateway, cluster.gateways.get? (ns, name) = some gateway →
      s.getGatewayClass gateway.spec.gatewayClassName =
        cluster.gatewayClasses.get? gateway.spec.gatewayClassName := by
    intro gateway hget
    have hgateway : cluster.gateways.get? (objectKey gateway) = some gateway := by
      rw [Store.key_of_get? hget]
      exact hget
    simp only [s, gatewayAndClass, hget]
    exact getGatewayClass_add ((Fragment.new cluster now).withGateway hgateway) _
  have hgateway : s.getGateway ns name = cluster.gateways.get? (ns, name) := by
    rcases hget : cluster.gateways.get? (ns, name) with _ | gateway
    · simp only [s, gatewayAndClass, hget]
      exact Store.get?_empty _
    · have hinsert : ((WorldSnapshot.new now).withGateway gateway).getGateway ns name =
          some gateway := by
        show ((∅ : Namespaced Gateway).insert gateway).get? (ns, name) = some gateway
        rw [← Store.key_of_get? hget, Store.get?_insert_self]
      simp only [s, gatewayAndClass, hget]
      rcases cluster.gatewayClasses.get? gateway.spec.gatewayClassName with _ | gc
      · exact hinsert
      · exact hinsert
  refine ⟨?_, hgateway, hclass, ?_⟩
  · simp only [s, gatewayAndClass]
    rcases cluster.gateways.get? (ns, name) with _ | gateway
    · rfl
    · dsimp only
      rcases cluster.gatewayClasses.get? gateway.spec.gatewayClassName with _ | gc <;> rfl
  · simp only [s, gatewayAndClass]
    rcases cluster.gateways.get? (ns, name) with _ | gateway
    · exact ⟨rfl, rfl, rfl, rfl⟩
    · dsimp only
      rcases cluster.gatewayClasses.get? gateway.spec.gatewayClassName with _ | gc <;>
        exact ⟨rfl, rfl, rfl, rfl⟩

/-- **The Gateway snapshot.** Reading it never fails, and it holds what
`FetchedForGateway` says. -/
theorem snapshotForGateway_spec (cluster : Objects) (now : Time) (ns name : String) :
    ∃ s, snapshotForGateway (.ofCluster cluster) now ns name = .ok s ∧
      FetchedForGateway cluster now ns name s := by
  refine ⟨_, snapshotForGateway_eq cluster now ns name, ?_⟩
  obtain ⟨hnow, hgateway, hclass, hroutes, hnodes, hsecrets, hgrants⟩ :=
    gatewayAndClass_spec cluster now ns name
  have hfragment := fragment_fetchRoutes (fragment_gatewayAndClass cluster now ns name) ns name
    fun route (h : route ∈ cluster.httproutes.values) => h
  have h₁ := fetchRoutes_frame (.ofCluster cluster) ns name cluster.httproutes.values
    (gatewayAndClass cluster now ns name)
  simp only at h₁
  generalize cluster.httproutes.values.foldl _ (gatewayAndClass cluster now ns name) = s₁ at *
  have h₂ := fetchManagedResources_frame (.ofCluster cluster) s₁ ⟨ns, name⟩
  have hservice := getService_fetchManagedResources hfragment ⟨ns, name⟩
  generalize fetchManagedResources (.ofCluster cluster) s₁ ⟨ns, name⟩ = s₂ at *
  rw [fetchNodes_eq]
  constructor
  · exact (congrArg WorldSnapshot.now h₂).trans ((congrArg WorldSnapshot.now h₁).trans hnow)
  · have hkeep : s₂.gateways = (gatewayAndClass cluster now ns name).gateways :=
      (congrArg (·.gateways) h₂).trans (congrArg (·.gateways) h₁)
    rw [← hgateway]
    exact congrArg (·.get? (ns, name)) hkeep
  · intro gateway hget
    have hkeep : s₂.gatewayClasses = (gatewayAndClass cluster now ns name).gatewayClasses :=
      (congrArg (·.gatewayClasses) h₂).trans (congrArg (·.gatewayClasses) h₁)
    rw [← hclass gateway hget]
    exact congrArg (·.get? gateway.spec.gatewayClassName) hkeep
  · rw [hroutes] at h₁
    exact (congrArg (·.httproutes) h₂).trans (congrArg (·.httproutes) h₁)
  · exact hservice
  · have hkeep : s₂.nodes = ∅ :=
      (congrArg (·.nodes) h₂).trans ((congrArg (·.nodes) h₁).trans hnodes)
    show s₂.nodes.insertAll cluster.nodes.values = cluster.nodes
    rw [hkeep, Store.insertAll_values]
  · exact (congrArg (·.secrets) h₂).trans ((congrArg (·.secrets) h₁).trans hsecrets)
  · exact (congrArg (·.referenceGrants) h₂).trans
      ((congrArg (·.referenceGrants) h₁).trans hgrants)

theorem fragment_snapshotForGateway {now : Time} {ns name : String}
    (h : snapshotForGateway (.ofCluster cluster) now ns name = .ok s) : Fragment cluster s := by
  rw [snapshotForGateway_eq] at h
  cases h
  rw [fetchNodes_eq]
  have hroutes := fragment_fetchRoutes (fragment_gatewayAndClass cluster now ns name) ns name
    fun route (h : route ∈ cluster.httproutes.values) => h
  exact { fragment_fetchManagedResources hroutes ⟨ns, name⟩ with }

/-! ## The snapshot for an HTTPRoute -/

/-- What the snapshot fetched for an HTTPRoute holds: of the routes that one
alone, and no Secret. Gateways, classes and Services are the cluster's. -/
structure FetchedForHttproute (cluster : Objects) (now : Time) (route : HTTPRoute)
    (s : WorldSnapshot) : Prop where
  fragment : Fragment cluster s
  now : s.now = now
  httproutes : s.httproutes = (∅ : Namespaced HTTPRoute).insert route
  secrets : s.secrets = ∅

private theorem fetched_fetchBackendServices {now : Time} {route r : HTTPRoute}
    (h : FetchedForHttproute cluster now route s) (ns : String) :
    FetchedForHttproute cluster now route
      (fetchBackendServices (.ofCluster cluster) s r ns) := by
  have hframe := fetchBackendServices_frame (.ofCluster cluster) s r ns
  exact
    { fragment := fragment_fetchBackendServices h.fragment r ns
      now := (congrArg WorldSnapshot.now hframe).trans h.now
      httproutes := (congrArg (·.httproutes) hframe).trans h.httproutes
      secrets := (congrArg (·.secrets) hframe).trans h.secrets }

private theorem fetched_fetchParent {now : Time} {route : HTTPRoute}
    (h : FetchedForHttproute cluster now route s) (ns : String)
    (parentRef : HttpRouteParentRefs) :
    FetchedForHttproute cluster now route (fetchParent (.ofCluster cluster) ns s parentRef) := by
  unfold fetchParent
  split
  · exact h
  · dsimp only
    split
    next gw hread =>
      have hget := get?_of_ofStore hread
      have hclass : FetchedForHttproute cluster now route
          (addWith withGatewayClass s (orLeftOut
            ((Client.ofCluster cluster).gatewayClasses.get gw.spec.gatewayClassName))) := by
        have hread : orLeftOut ((Client.ofCluster cluster).gatewayClasses.get
            gw.spec.gatewayClassName) =
            cluster.gatewayClasses.get? gw.spec.gatewayClassName := orLeftOut_ofStore
        rw [hread]
        have hfragment := fragment_addGatewayClass h.fragment gw.spec.gatewayClassName
        generalize cluster.gatewayClasses.get? gw.spec.gatewayClassName = gc at hfragment
        rcases gc with _ | gc
        · exact h
        · exact { h with fragment := hfragment }
      generalize addWith withGatewayClass s _ = s' at hclass
      have hframe := fetchManagedResources_frame (.ofCluster cluster) s'
        ⟨parentRef.namespace.getD ns, parentRef.name⟩
      have hfragment := fragment_fetchManagedResources hclass.fragment
        ⟨parentRef.namespace.getD ns, parentRef.name⟩
      exact
        { fragment := hfragment.withGateway (by rw [Store.key_of_get? hget]; exact hget)
          now := (congrArg WorldSnapshot.now hframe).trans hclass.now
          httproutes := (congrArg (·.httproutes) hframe).trans hclass.httproutes
          secrets := (congrArg (·.secrets) hframe).trans hclass.secrets }
    · exact h

private theorem fetched_grants {now : Time} {route : HTTPRoute}
    (h : FetchedForHttproute cluster now route s) (ns : String)
    (grants : List ReferenceGrant) :
    FetchedForHttproute cluster now route (grants.foldl (fun s grant =>
      if namespaceOf grant == ns || grant.spec.from.any (·.namespace == ns) then
        s.withReferenceGrant grant
      else s) s) := by
  refine List.foldlRecOn _ _ h fun s hs grant _ => ?_
  split
  · exact { hs with fragment := { hs.fragment with } }
  · exact hs

/-- **The HTTPRoute snapshot.** Reading it never fails, and it holds what
`FetchedForHttproute` says. -/
theorem snapshotForHttproute_spec {ns name : String} {route : HTTPRoute} (now : Time)
    (hroute : cluster.httproutes.get? (ns, name) = some route) :
    ∃ s, snapshotForHttproute (.ofCluster cluster) now ns name = .ok s ∧
      FetchedForHttproute cluster now route s := by
  have hread : orNotFound ((Client.ofCluster cluster).httproutes.get (ns, name)) =
      .ok (some route) := by
    rw [← hroute]
    exact orNotFound_ofStore
  have hnew : FetchedForHttproute cluster now route ((WorldSnapshot.new now).withHttproute route) :=
    { fragment := (Fragment.new cluster now).withHttproute (by
        rw [Store.key_of_get? hroute]
        exact hroute)
      now := rfl
      httproutes := rfl
      secrets := rfl }
  have hparents := List.foldlRecOn (route.spec.parentRefs.getD [])
    (fetchParent (.ofCluster cluster) ns) hnew fun s hs parentRef _ =>
      fetched_fetchParent hs ns parentRef
  unfold snapshotForHttproute
  rw [hread]
  exact ⟨_, rfl, fetched_grants (fetched_fetchBackendServices hparents ns) ns
    cluster.referenceGrants.values⟩

end

end Multiway.ControlPlane
