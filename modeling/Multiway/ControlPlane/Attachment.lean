import Multiway.ControlPlane.Emitted

/-!
# Programmed and accepted routes

Three computations decide where a route goes. `validateParentRef` decides which
of its references are accepted and at which listeners, `buildGatewayConfig`
programs every route that names the Gateway at every listener, and the status
counts routes by name. They agree exactly when no route that names the Gateway
is turned away there, and when every listener is one its accepted references
select.
-/

namespace Multiway.ControlPlane

open Multiway.Lib
open Multiway.Kube

/-- A parentRef of a route in `routeNs` names the Gateway `ns/name`. -/
def namesGateway (routeNs ns name : String) (parentRef : HttpRouteParentRefs) : Bool :=
  parentRef.namespace.getD routeNs == ns && parentRef.name == name

/-- The parentRefs of a route that name the Gateway. -/
def parentRefsTo (ns name : String) (route : HTTPRoute) : List HttpRouteParentRefs :=
  (route.spec.parentRefs.getD []).filter (namesGateway (namespaceOf route) ns name)

/-- `validateParentRef` accepts one of the route's parentRefs to the Gateway. -/
def acceptedBy (s : WorldSnapshot) (ns name : String) (route : HTTPRoute) : Bool :=
  (parentRefsTo ns name route).any fun parentRef =>
    (validateParentRef s route parentRef (namespaceOf route)).accepted

theorem referencesGateway_iff {ns name : String} {route : HTTPRoute} :
    referencesGateway ns name route = true ↔ parentRefsTo ns name route ≠ [] := by
  unfold referencesGateway parentRefsTo
  rw [List.any_eq_true, ne_eq, List.filter_eq_nil_iff]
  push Not
  rfl

theorem referencesGateway_of_acceptedBy {s : WorldSnapshot} {ns name : String}
    {route : HTTPRoute} (h : acceptedBy s ns name route = true) :
    referencesGateway ns name route = true := by
  obtain ⟨parentRef, hmem, -⟩ := List.any_eq_true.mp h
  exact referencesGateway_iff.mpr (List.ne_nil_of_mem hmem)

/-- What a reference to the Gateway resolves to is the Gateway filed under that
name. -/
theorem accepts_gateway {s : WorldSnapshot} {ns name : String} {gateway g : Gateway}
    (hgateway : s.getGateway ns name = some gateway) {route : HTTPRoute}
    {parentRef : HttpRouteParentRefs} (hmem : parentRef ∈ parentRefsTo ns name route)
    (haccepts : Accepts s route parentRef (namespaceOf route) g) : g = gateway := by
  have hnames := (List.mem_filter.mp hmem).2
  simp only [namesGateway, Bool.and_eq_true, beq_iff_eq] at hnames
  have hfound := haccepts.found
  rw [hnames.1, hnames.2, hgateway] at hfound
  exact (Option.some.inj hfound).symm

/-- Accepted by the Gateway that is filed under that name. -/
theorem acceptedBy_iff {s : WorldSnapshot} {ns name : String} {gateway : Gateway}
    (hgateway : s.getGateway ns name = some gateway) {route : HTTPRoute} :
    acceptedBy s ns name route = true ↔
      ∃ parentRef ∈ parentRefsTo ns name route,
        Accepts s route parentRef (namespaceOf route) gateway := by
  unfold acceptedBy
  rw [List.any_eq_true]
  refine exists_congr fun parentRef => and_congr_right fun hmem => ?_
  rw [accepted_iff]
  constructor
  · intro hany
    obtain ⟨g, haccepts⟩ := hany
    rw [← accepts_gateway hgateway hmem haccepts]
    exact haccepts
  · intro haccepts
    exact ⟨gateway, haccepts⟩

/-! ## Which routes are programmed -/

/-- The key of the HTTPRoute a programmed route was made from. -/
def RouteConfig.routeKey (c : RouteConfig) : String × String := (c.namespace, c.name)

theorem routes_buildGatewayConfig (s : WorldSnapshot) (gateway : Gateway) (ns : String) :
    (buildGatewayConfig gateway ns s).1.routes =
      (s.routesForGateway ns (nameAny gateway)).map fun route =>
        convertHttprouteToConfig route (gateway.spec.listeners.map GatewayListeners.name) := rfl

theorem routeKeys_buildGatewayConfig (s : WorldSnapshot) (gateway : Gateway) (ns : String) :
    (buildGatewayConfig gateway ns s).1.routes.map RouteConfig.routeKey =
      (s.routesForGateway ns (nameAny gateway)).map objectKey := by
  rw [routes_buildGatewayConfig, List.map_map]
  rfl

/-- The status reconciling the route writes has entries for the Gateway, and
all of them say `Accepted=False`. -/
def StatusRejects (s : WorldSnapshot) (config : ControllerConfig) (ns name : String)
    (route : HTTPRoute) : Prop :=
  ∃ status, StatusUpdate.httpRoute (namespaceOf route) (nameAny route) status ∈
      (reconcileHttproute s config (namespaceOf route) (nameAny route)).statusUpdates ∧
    (∃ parent ∈ status.parents, namesGateway (namespaceOf route) ns name parent.parentRef) ∧
    ∀ parent ∈ status.parents, namesGateway (namespaceOf route) ns name parent.parentRef →
      ∃ c ∈ parent.conditions.getD [], c.type = "Accepted" ∧ c.status = "False"

theorem parentRef_validateParentRef (s : WorldSnapshot) (route : HTTPRoute)
    (parentRef : HttpRouteParentRefs) (routeNs : String) :
    (validateParentRef s route parentRef routeNs).parentRef = parentRef := by
  unfold validateParentRef rejected
  dsimp only
  split
  · rfl
  · rcases s.getGateway (parentRef.namespace.getD routeNs) parentRef.name with _ | gateway
    · rfl
    · dsimp only
      split
      · rfl
      · split
        · rfl
        · split
          · rfl
          · split <;> rfl

/-- The status entry of a reference names the Gateway the reference names. -/
theorem namesGateway_buildParentStatus (s : WorldSnapshot) (route : HTTPRoute)
    (parentRef : HttpRouteParentRefs) (routeNs ns name : String) (now : Time)
    (generation : Option ℤ) :
    namesGateway routeNs ns name (buildParentStatus now
        (validateParentRef s route parentRef routeNs) generation).parentRef =
      namesGateway routeNs ns name parentRef := by
  show namesGateway routeNs ns name (validateParentRef s route parentRef routeNs).parentRef = _
  rw [parentRef_validateParentRef]

theorem statusUpdates_reconcileHttproute {s : WorldSnapshot} {config : ControllerConfig}
    {ns name : String} {route : HTTPRoute} (hroute : s.getHttproute ns name = some route)
    (hrefs : route.spec.parentRefs.getD [] ≠ []) :
    (reconcileHttproute s config ns name).statusUpdates =
      [.httpRoute ns name
        { parents := (route.spec.parentRefs.getD []).map fun parentRef =>
            buildParentStatus s.now (validateParentRef s route parentRef ns)
              route.metadata.generation }] := by
  unfold reconcileHttproute
  rw [hroute]
  dsimp only
  rcases hlist : route.spec.parentRefs.getD [] with _ | ⟨parentRef, parentRefs⟩
  · exact absurd hlist hrefs
  · rfl

theorem rejects_buildParentStatus {now : Time} {v : ParentRefValidation}
    {generation : Option ℤ} :
    (∃ c ∈ (buildParentStatus now v generation).conditions.getD [],
      c.type = "Accepted" ∧ c.status = "False") ↔ v.accepted = false := by
  constructor
  · intro hrejects
    obtain ⟨c, hc, htype, hstatus⟩ := hrejects
    simp only [buildParentStatus, Option.getD_some, List.mem_cons, List.not_mem_nil,
      or_false] at hc
    rcases hc with rfl | rfl
    · unfold statusText at hstatus
      by_contra haccepted
      rw [Bool.not_eq_false] at haccepted
      rw [if_pos haccepted] at hstatus
      simp at hstatus
    · simp at htype
  · intro haccepted
    refine ⟨_, List.mem_cons_self, rfl, ?_⟩
    rw [haccepted]
    rfl

/-- The status rejects a route where it names the Gateway and no reference is
accepted. -/
theorem statusRejects_iff {s : WorldSnapshot} {config : ControllerConfig} {ns name : String}
    {route : HTTPRoute} (hroute : route ∈ s.httproutes.values) :
    StatusRejects s config ns name route ↔
      referencesGateway ns name route = true ∧ acceptedBy s ns name route = false := by
  have hget : s.getHttproute (namespaceOf route) (nameAny route) = some route :=
    Store.mem_values.mp hroute
  constructor
  · intro hrejects
    obtain ⟨status, hstatus, ⟨parent, hparent, hnames⟩, hall⟩ := hrejects
    have hrefs : route.spec.parentRefs.getD [] ≠ [] := by
      intro hnil
      unfold reconcileHttproute at hstatus
      rw [hget] at hstatus
      dsimp only at hstatus
      rw [hnil] at hstatus
      cases hstatus
    rw [statusUpdates_reconcileHttproute hget hrefs, List.mem_singleton,
      StatusUpdate.httpRoute.injEq] at hstatus
    obtain ⟨-, -, rfl⟩ := hstatus
    dsimp only at hparent hall
    have hmap : ∀ parentRef ∈ parentRefsTo ns name route,
        (validateParentRef s route parentRef (namespaceOf route)).accepted = false := by
      intro parentRef hmem
      obtain ⟨hmem, hnames⟩ := List.mem_filter.mp hmem
      refine rejects_buildParentStatus.mp (hall _ (List.mem_map_of_mem hmem) ?_)
      rw [namesGateway_buildParentStatus]
      exact hnames
    obtain ⟨parentRef, hmem, rfl⟩ := List.mem_map.mp hparent
    rw [namesGateway_buildParentStatus] at hnames
    refine ⟨List.any_eq_true.mpr ⟨parentRef, hmem, hnames⟩, ?_⟩
    refine List.any_eq_false.mpr fun parentRef hmem => ?_
    rw [hmap parentRef hmem]
    exact Bool.false_ne_true
  · intro hnone
    obtain ⟨href, hrejected⟩ := hnone
    have hne := referencesGateway_iff.mp href
    obtain ⟨parentRef, hmem⟩ := List.exists_mem_of_ne_nil _ hne
    obtain ⟨hmem, hnames⟩ := List.mem_filter.mp hmem
    refine ⟨_, by
      rw [statusUpdates_reconcileHttproute hget (List.ne_nil_of_mem hmem)]
      exact List.mem_cons_self, ⟨_, List.mem_map_of_mem hmem, ?_⟩, ?_⟩
    · rw [namesGateway_buildParentStatus]
      exact hnames
    · intro parent hparent hnames
      obtain ⟨parentRef, hmem, rfl⟩ := List.mem_map.mp hparent
      rw [namesGateway_buildParentStatus] at hnames
      refine rejects_buildParentStatus.mpr ?_
      have hno := List.any_eq_false.mp hrejected parentRef
        (List.mem_filter.mpr ⟨hmem, hnames⟩)
      simpa using hno

/-- The routes programmed for a Gateway are those it accepts, and none whose
status says otherwise. -/
structure ProgramsAccepted (s : WorldSnapshot) (config : ControllerConfig) (ns name : String)
    (gateway : Gateway) : Prop where
  keys : (buildGatewayConfig gateway ns s).1.routes.map RouteConfig.routeKey =
    (s.httproutes.values.filter (acceptedBy s ns name)).map objectKey
  status : ∀ route ∈ s.httproutes.values, StatusRejects s config ns name route →
    objectKey route ∉ (buildGatewayConfig gateway ns s).1.routes.map RouteConfig.routeKey

theorem keys_eq_iff {s : WorldSnapshot} {ns name : String} {gateway : Gateway}
    (hgateway : s.getGateway ns name = some gateway) :
    (buildGatewayConfig gateway ns s).1.routes.map RouteConfig.routeKey =
        (s.httproutes.values.filter (acceptedBy s ns name)).map objectKey ↔
      ∀ route ∈ s.routesForGateway ns name, acceptedBy s ns name route = true := by
  rw [routeKeys_buildGatewayConfig, nameAny_of_getGateway hgateway]
  unfold WorldSnapshot.routesForGateway
  rw [Store.map_key_filter_values_inj]
  constructor
  · intro h route hroute
    obtain ⟨hmem, href⟩ := List.mem_filter.mp hroute
    rw [← h route hmem]
    exact href
  · intro h route hmem
    rw [Bool.eq_iff_iff]
    exact ⟨fun href => h route (List.mem_filter.mpr ⟨hmem, href⟩),
      referencesGateway_of_acceptedBy⟩

/-- **When the programmed routes are the accepted ones.** For every Gateway of a
snapshot: exactly when each route that names it has a reference to it that
passes every check of `validateParentRef`. -/
theorem programs_accepted_iff {s : WorldSnapshot} (config : ControllerConfig)
    {ns name : String} {gateway : Gateway} (hgateway : s.getGateway ns name = some gateway) :
    ProgramsAccepted s config ns name gateway ↔
      ∀ route ∈ s.routesForGateway ns name, ∃ parentRef ∈ parentRefsTo ns name route,
        Accepts s route parentRef (namespaceOf route) gateway := by
  have hcond : (∀ route ∈ s.routesForGateway ns name, ∃ parentRef ∈ parentRefsTo ns name route,
        Accepts s route parentRef (namespaceOf route) gateway) ↔
      ∀ route ∈ s.routesForGateway ns name, acceptedBy s ns name route = true :=
    forall₂_congr fun route _ => (acceptedBy_iff hgateway).symm
  rw [hcond, ← keys_eq_iff hgateway]
  constructor
  · intro h
    exact h.keys
  · intro hkeys
    refine ⟨hkeys, fun route hmem hstatus hprogrammed => ?_⟩
    rw [hkeys] at hprogrammed
    obtain ⟨route', hroute', hkey⟩ := List.mem_map.mp hprogrammed
    obtain ⟨hmem', haccepted⟩ := List.mem_filter.mp hroute'
    rw [Store.eq_of_mem_values hmem' hmem hkey] at haccepted
    rw [((statusRejects_iff hmem).mp hstatus).2] at haccepted
    cases haccepted

theorem routesForGateway_clusterWith_singleton (listeners : List GatewayListeners)
    (route : HTTPRoute) (now : Time) :
    (WorldSnapshot.full (clusterWith listeners [route]) now).routesForGateway "default" "gw" =
      [route].filter (referencesGateway "default" "gw") := by
  unfold WorldSnapshot.routesForGateway
  exact congrArg (List.filter _) (Store.values_insert_empty route)

/-- One route, accepted. -/
theorem programs_accepted_single :
    ProgramsAccepted (.full (clusterWith [httpListener "http" 80] [routeNamed "a" none []]) 0)
      {} "default" "gw" (gatewayWith [httpListener "http" 80]) := by
  have hgateway : (WorldSnapshot.full (clusterWith [httpListener "http" 80]
      [routeNamed "a" none []]) 0).getGateway "default" "gw" =
      some (gatewayWith [httpListener "http" 80]) := rfl
  refine (programs_accepted_iff {} hgateway).mpr fun route hroute => ?_
  rw [routesForGateway_clusterWith_singleton] at hroute
  obtain rfl := List.mem_singleton.mp (List.mem_filter.mp hroute).1
  exact (acceptedBy_iff hgateway).mp rfl

/-- A route whose backend Service does not exist. -/
def unbackedRoute : HTTPRoute := routeNamed "a" none [{ name := "svc" }]

/-- A route whose backend Service does not exist is rejected and programmed. -/
theorem rejected_programmed :
    ¬ ∀ (s : WorldSnapshot) (config : ControllerConfig) (ns name : String) (gateway : Gateway),
      s.getGateway ns name = some gateway → ProgramsAccepted s config ns name gateway := by
  intro hall
  have hgateway : (WorldSnapshot.full (clusterWith [httpListener "http" 80]
      [unbackedRoute]) 0).getGateway "default" "gw" =
      some (gatewayWith [httpListener "http" 80]) := rfl
  have hrejected : acceptedBy (.full (clusterWith [httpListener "http" 80] [unbackedRoute]) 0)
      "default" "gw" unbackedRoute = false := by decide
  have haccepted := (keys_eq_iff hgateway).mp (hall _ {} _ _ _ hgateway).keys unbackedRoute (by
    rw [routesForGateway_clusterWith_singleton]
    exact List.mem_filter.mpr ⟨List.mem_singleton_self _, rfl⟩)
  rw [hrejected] at haccepted
  cases haccepted

/-! ## At which listeners -/

/-- What `validateParentRef` reports of a route's accepted references to the
Gateway, taken together. -/
def reportedListeners (s : WorldSnapshot) (ns name : String) (route : HTTPRoute) : List String :=
  (parentRefsTo ns name route).flatMap fun parentRef =>
    let validation := validateParentRef s route parentRef (namespaceOf route)
    if validation.accepted then validation.attachedListeners else []

/-- A route of the namespace may attach to the listener: its policy lets it, or
the namespace needs no leave, or a grant gives it. -/
def listenerOpen (s : WorldSnapshot) (gateway : Gateway) (routeNs : String)
    (listener : GatewayListeners) : Bool :=
  listenerAllows gateway routeNs listener || routeNs == namespaceOf gateway ||
    s.isGatewayReferenceAllowed routeNs (namespaceOf gateway)

/-- An accepted reference of the route selects an open listener of that name. -/
def Selects (s : WorldSnapshot) (ns name : String) (gateway : Gateway) (route : HTTPRoute)
    (listenerName : String) : Prop :=
  ∃ parentRef ∈ parentRefsTo ns name route,
    Accepts s route parentRef (namespaceOf route) gateway ∧
      ∃ listener ∈ findMatchingListeners gateway parentRef.sectionName parentRef.port,
        listener.name = listenerName ∧ listenerOpen s gateway (namespaceOf route) listener = true

/-- The routes of the configuration `reconcileGateway` emits. -/
def programmedRoutes (s : WorldSnapshot) (ns name : String) : List RouteConfig :=
  match readyGateway s ns name with
  | some gateway => (buildGatewayConfig gateway ns s).1.routes
  | none => []

/-- Routes are programmed at the listeners reported for them, which are open to
them, and the status counts them there. -/
structure AttachedAsReported (s : WorldSnapshot) (config : ControllerConfig) (ns name : String)
    (gateway : Gateway) : Prop where
  reported : ∀ route ∈ s.httproutes.values, ∀ c ∈ (buildGatewayConfig gateway ns s).1.routes,
    c.routeKey = objectKey route →
      ∀ listenerName, listenerName ∈ c.attachedListeners ↔
        listenerName ∈ reportedListeners s ns name route
  respects : ∀ route ∈ s.httproutes.values, ∀ c ∈ (buildGatewayConfig gateway ns s).1.routes,
    c.routeKey = objectKey route →
      ∀ listenerName ∈ c.attachedListeners, Selects s ns name gateway route listenerName
  counts : ∀ status, StatusUpdate.gateway ns name status ∈
      (reconcileGateway s config ns name).statusUpdates →
    ∀ l ∈ status.listeners.getD [], l.attachedRoutes =
      ((programmedRoutes s ns name).filter fun c => l.name ∈ c.attachedListeners).length

section
variable {s : WorldSnapshot} {ns name : String} {gateway : Gateway}

theorem mem_reportedListeners (hgateway : s.getGateway ns name = some gateway)
    {route : HTTPRoute} {listenerName : String} :
    listenerName ∈ reportedListeners s ns name route ↔
      ∃ parentRef ∈ parentRefsTo ns name route,
        Accepts s route parentRef (namespaceOf route) gateway ∧
          ∃ listener ∈ findMatchingListeners gateway parentRef.sectionName parentRef.port,
            listener.name = listenerName := by
  unfold reportedListeners
  rw [List.mem_flatMap]
  refine exists_congr fun parentRef => and_congr_right fun hmem => ?_
  dsimp only
  split
  next haccepted =>
    obtain ⟨g, haccepts⟩ := accepts_of_accepted haccepted
    obtain rfl := accepts_gateway hgateway hmem haccepts
    rw [attachedListeners_of_accepts haccepts, List.mem_map]
    exact (and_iff_right haccepts).symm
  next hrejected =>
    refine ⟨nofun, ?_⟩
    intro hselected
    obtain ⟨haccepts, -⟩ := hselected
    exact absurd (accepted_iff.mpr ⟨gateway, haccepts⟩) hrejected

/-- Only listeners of the Gateway are ever selected. -/
theorem mem_listeners_of_matching {sectionName : Option String} {port : Option ℤ}
    {listener : GatewayListeners}
    (h : listener ∈ findMatchingListeners gateway sectionName port) :
    listener ∈ gateway.spec.listeners :=
  (List.mem_filter.mp h).1

/-- Every programmed route is programmed at every listener. -/
theorem mem_routes_buildGatewayConfig (hgateway : s.getGateway ns name = some gateway)
    {c : RouteConfig} :
    c ∈ (buildGatewayConfig gateway ns s).1.routes ↔
      ∃ route ∈ s.routesForGateway ns name,
        convertHttprouteToConfig route (gateway.spec.listeners.map GatewayListeners.name) = c := by
  rw [routes_buildGatewayConfig, nameAny_of_getGateway hgateway, List.mem_map]

theorem attachedListeners_of_mem (hgateway : s.getGateway ns name = some gateway)
    {c : RouteConfig} (hc : c ∈ (buildGatewayConfig gateway ns s).1.routes) :
    c.attachedListeners = gateway.spec.listeners.map GatewayListeners.name := by
  obtain ⟨route, -, rfl⟩ := (mem_routes_buildGatewayConfig hgateway).mp hc
  rfl

/-- The routes of a configuration by the HTTPRoutes they were made from. -/
theorem exists_routeConfig_iff (hgateway : s.getGateway ns name = some gateway)
    {route : HTTPRoute} (hroute : route ∈ s.httproutes.values) :
    (∃ c ∈ (buildGatewayConfig gateway ns s).1.routes, c.routeKey = objectKey route) ↔
      route ∈ s.routesForGateway ns name := by
  constructor
  · intro hprogrammed
    obtain ⟨c, hc, hkey⟩ := hprogrammed
    obtain ⟨route', hroute', rfl⟩ := (mem_routes_buildGatewayConfig hgateway).mp hc
    have hsame : route' = route :=
      Store.eq_of_mem_values (List.mem_filter.mp hroute').1 hroute hkey
    rw [← hsame]
    exact hroute'
  · intro href
    exact ⟨_, (mem_routes_buildGatewayConfig hgateway).mpr ⟨route, href, rfl⟩, rfl⟩

/-! ### Counting -/

/-- `n as i32` is `n` up to `i32::MAX`. -/
theorem bmod_eq_self_iff (n : ℕ) : Int.bmod n (2 ^ 32) = n ↔ n < 2 ^ 31 := by
  unfold Int.bmod
  dsimp only
  split <;> omega

/-- Every listener of a built Gateway is given the number of all its routes. -/
theorem attachedRoutes_builtGatewayStatus (s : WorldSnapshot) (gateway : Gateway)
    (ns name : String) :
    ((builtGatewayStatus s gateway ns name).listeners.getD []).map
        (fun l => (l.name, l.attachedRoutes)) =
      gateway.spec.listeners.map fun listener =>
        (listener.name, Int.bmod (s.routesForGateway ns name).length (2 ^ 32)) := by
  unfold builtGatewayStatus buildGatewayStatusAccepted
  simp only [Option.getD_some, List.map_map]
  refine List.map_congr_left fun listener _ => ?_
  simp only [Function.comp_apply]

theorem attachedRoutes_of_not_ready {config : ControllerConfig}
    (hready : readyGateway s ns name = none)
    {status : GatewayStatus} (hstatus : StatusUpdate.gateway ns name status ∈
      (reconcileGateway s config ns name).statusUpdates) :
    ∀ l ∈ status.listeners.getD [], l.attachedRoutes = 0 := by
  rcases reconcileGateway_of_not_ready hready with hnone | ⟨_, _, _, _, _, hinvalid⟩
  · rw [hnone] at hstatus
    cases hstatus
  · rw [hinvalid] at hstatus
    have hsame := StatusUpdate.gateway.inj (List.mem_singleton.mp hstatus)
    rw [hsame.2.2]
    intro l hl
    obtain ⟨listener, -, rfl⟩ := List.mem_map.mp hl
    rfl

/-- All routes of a configuration count at each listener of the Gateway. -/
theorem filter_attached_eq (hgateway : s.getGateway ns name = some gateway)
    {listenerName : String}
    (hlistener : listenerName ∈ gateway.spec.listeners.map GatewayListeners.name) :
    ((buildGatewayConfig gateway ns s).1.routes.filter
      fun c => listenerName ∈ c.attachedListeners).length =
      (s.routesForGateway ns name).length := by
  rw [List.filter_eq_self.mpr, routes_buildGatewayConfig, nameAny_of_getGateway hgateway,
    List.length_map]
  intro c hc
  rw [attachedListeners_of_mem hgateway hc]
  exact decide_eq_true hlistener

/-- The status counts right unless there are more routes than an `i32` holds. -/
theorem counts_iff (config : ControllerConfig) (hgateway : s.getGateway ns name = some gateway) :
    (∀ status, StatusUpdate.gateway ns name status ∈
        (reconcileGateway s config ns name).statusUpdates →
      ∀ l ∈ status.listeners.getD [], l.attachedRoutes =
        ((programmedRoutes s ns name).filter fun c => l.name ∈ c.attachedListeners).length) ↔
      (readyGateway s ns name = none ∨ gateway.spec.listeners = [] ∨
        (s.routesForGateway ns name).length < 2 ^ 31) := by
  rcases hready : readyGateway s ns name with _ | g
  -- nothing is programmed, and every listener is given 0
  · refine ⟨fun _ => Or.inl rfl, fun _ status hstatus l hl => ?_⟩
    unfold programmedRoutes
    rw [hready, attachedRoutes_of_not_ready hready hstatus l hl]
    rfl
  · obtain rfl : g = gateway :=
      Option.some.inj ((getGateway_of_ready hready).symm.trans hgateway)
    unfold programmedRoutes
    rw [hready, (reconcileGateway_of_ready hready).2]
    have hone : ∀ l ∈ g.spec.listeners,
        (Int.bmod (s.routesForGateway ns name).length (2 ^ 32) =
          (((buildGatewayConfig g ns s).1.routes.filter
            fun c => l.name ∈ c.attachedListeners).length : ℤ) ↔
          (s.routesForGateway ns name).length < 2 ^ 31) := by
      intro l hl
      rw [filter_attached_eq hgateway (List.mem_map_of_mem hl), bmod_eq_self_iff]
    have hgiven := attachedRoutes_builtGatewayStatus s g ns name
    -- from here on the number is opaque
    generalize Int.bmod (s.routesForGateway ns name).length (2 ^ 32) = given at hone hgiven
    constructor
    · intro h
      refine Or.inr ?_
      rcases hlisteners : g.spec.listeners with _ | ⟨listener, rest⟩
      · exact Or.inl rfl
      · have hlistener : listener ∈ g.spec.listeners := by
          rw [hlisteners]
          exact List.mem_cons_self
        have hpair : (listener.name, given) ∈
            ((builtGatewayStatus s g ns name).listeners.getD []).map
              fun l => (l.name, l.attachedRoutes) := by
          rw [hgiven]
          exact List.mem_map_of_mem hlistener
        obtain ⟨l, hl, hsame⟩ := List.mem_map.mp hpair
        obtain ⟨hname, hcount⟩ := Prod.mk.inj hsame
        have hl' := h _ (List.mem_singleton_self _) l hl
        rw [hname, hcount] at hl'
        exact Or.inr ((hone listener hlistener).mp hl')
    · intro h status hstatus l hl
      have hsame := StatusUpdate.gateway.inj (List.mem_singleton.mp hstatus)
      rw [hsame.2.2] at hl
      have hpair := List.mem_map_of_mem (f := fun l => (l.name, l.attachedRoutes)) hl
      rw [hgiven] at hpair
      obtain ⟨listener, hlistener, hsame⟩ := List.mem_map.mp hpair
      obtain ⟨hname, hcount⟩ := Prod.mk.inj hsame
      rw [← hname, ← hcount]
      refine (hone listener hlistener).mpr ?_
      rcases h with hnone | hnil | hfew
      · cases hnone
      · rw [hnil] at hlistener
        cases hlistener
      · exact hfew

end

/-- **When routes attach where their references say.** For every Gateway of a
snapshot: exactly when each route that names it has, for each of its listeners,
an accepted reference that selects the listener, open to the route, and the
routes can be counted in an `i32` (if they are counted anywhere). -/
theorem attached_as_reported_iff {s : WorldSnapshot} (config : ControllerConfig)
    {ns name : String} {gateway : Gateway} (hgateway : s.getGateway ns name = some gateway) :
    AttachedAsReported s config ns name gateway ↔
      (∀ route ∈ s.routesForGateway ns name, ∀ listener ∈ gateway.spec.listeners,
        Selects s ns name gateway route listener.name) ∧
      (readyGateway s ns name = none ∨ gateway.spec.listeners = [] ∨
        (s.routesForGateway ns name).length < 2 ^ 31) := by
  rw [← counts_iff config hgateway]
  constructor
  · intro h
    refine ⟨fun route hroute listener hlistener => ?_, h.counts⟩
    have hmem := (List.mem_filter.mp hroute).1
    obtain ⟨c, hc, hkey⟩ := (exists_routeConfig_iff hgateway hmem).mpr hroute
    refine h.respects route hmem c hc hkey listener.name ?_
    rw [attachedListeners_of_mem hgateway hc]
    exact List.mem_map_of_mem hlistener
  · intro hcond
    obtain ⟨hselects, hcounts⟩ := hcond
    have hrespects : ∀ route ∈ s.httproutes.values,
        ∀ c ∈ (buildGatewayConfig gateway ns s).1.routes, c.routeKey = objectKey route →
          ∀ listenerName ∈ c.attachedListeners, Selects s ns name gateway route listenerName := by
      intro route hmem c hc hkey listenerName hname
      rw [attachedListeners_of_mem hgateway hc] at hname
      obtain ⟨listener, hlistener, rfl⟩ := List.mem_map.mp hname
      exact hselects route ((exists_routeConfig_iff hgateway hmem).mp ⟨c, hc, hkey⟩) listener
        hlistener
    refine ⟨fun route hmem c hc hkey listenerName => ?_, hrespects, hcounts⟩
    rw [mem_reportedListeners hgateway]
    constructor
    · intro hname
      obtain ⟨parentRef, href, haccepts, listener, hlistener, hname, -⟩ :=
        hrespects route hmem c hc hkey listenerName hname
      exact ⟨parentRef, href, haccepts, listener, hlistener, hname⟩
    · intro hreported
      obtain ⟨parentRef, -, -, listener, hlistener, rfl⟩ := hreported
      rw [attachedListeners_of_mem hgateway hc]
      exact List.mem_map_of_mem (mem_listeners_of_matching hlistener)

/-- With one listener, an accepted route attaches to it and counts there. -/
theorem attached_as_reported_single :
    AttachedAsReported
      (.full (clusterWith [httpListener "http" 80] [routeNamed "a" none []]) 0) {} "default" "gw"
      (gatewayWith [httpListener "http" 80]) := by
  have hgateway : (WorldSnapshot.full (clusterWith [httpListener "http" 80]
      [routeNamed "a" none []]) 0).getGateway "default" "gw" =
      some (gatewayWith [httpListener "http" 80]) := rfl
  refine (attached_as_reported_iff {} hgateway).mpr ⟨?_, ?_⟩
  · intro route hroute listener hlistener
    rw [routesForGateway_clusterWith_singleton] at hroute
    obtain rfl := List.mem_singleton.mp (List.mem_filter.mp hroute).1
    obtain rfl := List.mem_singleton.mp hlistener
    have haccepted : acceptedBy (.full (clusterWith [httpListener "http" 80]
        [routeNamed "a" none []]) 0) "default" "gw" (routeNamed "a" none []) = true := rfl
    obtain ⟨parentRef, href, haccepts⟩ := (acceptedBy_iff hgateway).mp haccepted
    refine ⟨parentRef, href, haccepts, httpListener "http" 80, ?_, rfl, rfl⟩
    obtain rfl := List.mem_singleton.mp (List.mem_filter.mp href).1
    exact List.mem_singleton_self _
  · refine Or.inr (Or.inr ?_)
    rw [routesForGateway_clusterWith_singleton]
    exact lt_of_le_of_lt (List.length_filter_le _ _) (by decide)

/-- A Gateway with a second listener, which the route's sectionName leaves out. -/
def sectionCluster : Objects :=
  clusterWith [httpListener "http" 80, httpListener "alt" 8080] [routeNamed "a" (some "http") []]

/-- The sectionName of a parentRef is not kept to. -/
theorem section_not_kept :
    ¬ ∀ (s : WorldSnapshot) (config : ControllerConfig) (ns name : String) (gateway : Gateway),
      s.getGateway ns name = some gateway → AttachedAsReported s config ns name gateway := by
  intro hall
  have hgateway : (WorldSnapshot.full sectionCluster 0).getGateway "default" "gw" =
      some (gatewayWith [httpListener "http" 80, httpListener "alt" 8080]) := rfl
  have hmem : routeNamed "a" (some "http") [] ∈ sectionCluster.httproutes.values := by
    have hvalues : sectionCluster.httproutes.values = [routeNamed "a" (some "http") []] :=
      Store.values_insert_empty _
    rw [hvalues]
    exact List.mem_singleton_self _
  obtain ⟨c, hc, hkey⟩ := (exists_routeConfig_iff hgateway hmem).mpr
    (List.mem_filter.mpr ⟨hmem, rfl⟩)
  have halt := ((hall _ {} _ _ _ hgateway).reported _ hmem c hc hkey "alt").mp (by
    rw [attachedListeners_of_mem hgateway hc]
    decide)
  have hreported : reportedListeners (.full sectionCluster 0) "default" "gw"
      (routeNamed "a" (some "http") []) = ["http"] := by decide
  rw [hreported] at halt
  exact absurd halt (by decide)

end Multiway.ControlPlane
