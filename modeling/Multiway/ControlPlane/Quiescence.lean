import Multiway.ControlPlane.Attachment

/-!
# Reconciling a status that is already there

Each reconciler stamps every condition it writes with the instant of its
snapshot and never looks at the stored status. Reconciling again what has just
been written gives the same status with the new instant in every condition
(`statusUpdates_again`), so the write repeats as soon as the clock has moved.
-/

namespace Multiway.ControlPlane

open Multiway.Lib
open Multiway.Kube

/-- A reconciler and the object it is run for. -/
inductive Reconciler
  | gatewayClass (name : String)
  | gateway («namespace» name : String)
  | httproute («namespace» name : String)
deriving DecidableEq

def Reconciler.run (config : ControllerConfig) (s : WorldSnapshot) : Reconciler → ReconcileResult
  | .gatewayClass name => reconcileGatewayClass s config name
  | .gateway ns name => reconcileGateway s config ns name
  | .httproute ns name => reconcileHttproute s config ns name

/-- The object of the update, stored with the status. -/
def storeStatus (s : WorldSnapshot) : StatusUpdate → WorldSnapshot
  | .gatewayClass name status =>
    match s.getGatewayClass name with
    | some gatewayClass => s.withGatewayClass { gatewayClass with status := some status }
    | none => s
  | .gateway ns name status =>
    match s.getGateway ns name with
    | some gateway => s.withGateway { gateway with status := some status }
    | none => s
  | .httpRoute ns name status =>
    match s.getHttproute ns name with
    | some route => s.withHttproute { route with status := some status }
    | none => s

/-- The snapshot after a result's statuses are written and nothing else has
changed, taken at `later`. -/
def afterWrite (s : WorldSnapshot) (result : ReconcileResult) (later : Time) : WorldSnapshot :=
  { result.statusUpdates.foldl storeStatus s with now := later }

/-! ## Conditions -/

/-- All conditions of a status. -/
def conditionsOf : StatusUpdate → List Condition
  | .gatewayClass _ status => status.conditions.getD []
  | .gateway _ _ status =>
    status.conditions.getD [] ++
      (status.listeners.getD []).flatMap GatewayStatusListeners.conditions
  | .httpRoute _ _ status => status.parents.flatMap fun parent => parent.conditions.getD []

/-- The condition as of another instant. -/
def restamp (now : Time) (c : Condition) : Condition := { c with lastTransitionTime := now }

/-- The status with all conditions as of another instant. -/
def restampUpdate (now : Time) : StatusUpdate → StatusUpdate
  | .gatewayClass name status =>
    .gatewayClass name { conditions := status.conditions.map (List.map (restamp now)) }
  | .gateway ns name status =>
    .gateway ns name
      { addresses := status.addresses
        conditions := status.conditions.map (List.map (restamp now))
        listeners := status.listeners.map (List.map fun l =>
          { l with conditions := l.conditions.map (restamp now) }) }
  | .httpRoute ns name status =>
    .httpRoute ns name
      { parents := status.parents.map fun parent =>
          { parent with conditions := parent.conditions.map (List.map (restamp now)) } }

theorem conditionsOf_restampUpdate (now : Time) (u : StatusUpdate) :
    conditionsOf (restampUpdate now u) = (conditionsOf u).map (restamp now) := by
  have hconditions : ∀ conditions : Option (List Condition),
      (conditions.map (List.map (restamp now))).getD [] =
        (conditions.getD []).map (restamp now) := by
    intro conditions
    cases conditions <;> rfl
  cases u with
  | gatewayClass name status => exact hconditions _
  | gateway ns name status =>
    have hlisteners : ((status.listeners.map (List.map fun l : GatewayStatusListeners =>
          { l with conditions := l.conditions.map (restamp now) })).getD []).flatMap
            GatewayStatusListeners.conditions =
        ((status.listeners.getD []).flatMap GatewayStatusListeners.conditions).map
          (restamp now) := by
      cases status.listeners with
      | none => rfl
      | some ls =>
        simp only [Option.map_some, Option.getD_some, List.flatMap_map, List.map_flatMap]
    simp only [conditionsOf, restampUpdate, hconditions, hlisteners, List.map_append]
  | httpRoute ns name status =>
    simp only [conditionsOf, restampUpdate, List.flatMap_map, hconditions, List.map_flatMap]

/-- A status that is stamped with the instant already. -/
theorem restampUpdate_eq_self {now : Time} {u : StatusUpdate}
    (h : ∀ c ∈ conditionsOf u, c.lastTransitionTime = now) : restampUpdate now u = u := by
  have hlist : ∀ cs : List Condition, (∀ c ∈ cs, c.lastTransitionTime = now) →
      cs.map (restamp now) = cs := by
    intro cs hcs
    refine (List.map_congr_left fun c hc => ?_).trans (List.map_id cs)
    unfold restamp
    rw [← hcs c hc]
    rfl
  have hconditions : ∀ conditions : Option (List Condition),
      (∀ c ∈ conditions.getD [], c.lastTransitionTime = now) →
        conditions.map (List.map (restamp now)) = conditions := by
    intro conditions hcs
    cases conditions with
    | none => rfl
    | some cs => rw [Option.map_some, hlist cs hcs]
  cases u with
  | gatewayClass name status =>
    obtain ⟨conditions⟩ := status
    simp only [restampUpdate, hconditions conditions h]
  | gateway ns name status =>
    obtain ⟨addresses, conditions, listeners⟩ := status
    obtain ⟨hown, hls⟩ := List.forall_mem_append.mp h
    have hlisteners : listeners.map (List.map fun l : GatewayStatusListeners =>
        { l with conditions := l.conditions.map (restamp now) }) = listeners := by
      cases listeners with
      | none => rfl
      | some ls =>
        rw [Option.map_some, Option.some.injEq]
        refine (List.map_congr_left fun l hl => ?_).trans (List.map_id ls)
        rw [hlist l.conditions fun c hc => hls c (List.mem_flatMap.mpr ⟨l, hl, hc⟩)]
        rfl
    simp only [restampUpdate, hconditions conditions hown, hlisteners]
  | httpRoute ns name status =>
    obtain ⟨parents⟩ := status
    have hparents : parents.map (fun parent : HttpRouteStatusParents =>
        { parent with conditions := parent.conditions.map (List.map (restamp now)) }) =
          parents := by
      refine (List.map_congr_left fun parent hmem => ?_).trans (List.map_id parents)
      rw [hconditions parent.conditions fun c hc => h c (List.mem_flatMap.mpr ⟨parent, hmem, hc⟩)]
      rfl
    simp only [restampUpdate, hparents]

/-! ## What is written -/

def classAccepted (s : WorldSnapshot) (className : String) : Bool :=
  (getAcceptedGatewayClass s className).isSome

/-- Whether the object is there, and one whose status this controller writes. -/
def writesStatus (s : WorldSnapshot) : Reconciler → Bool
  | .gatewayClass name => (s.getGatewayClass name).any isOurGatewayClass
  | .gateway ns name => (s.getGateway ns name).isSome
  | .httproute ns name =>
    (s.getHttproute ns name).any fun route => !(route.spec.parentRefs.getD []).isEmpty

/-- The status `reconcileGateway` writes. -/
def gatewayStatusOf (s : WorldSnapshot) (gateway : Gateway) (ns name : String) : GatewayStatus :=
  if (getAcceptedGatewayClass s gateway.spec.gatewayClassName).isNone then
    buildGatewayStatus s.now gateway false "Invalid"
      "GatewayClass not found or not accepted by this controller" none
  else if !(validateListeners gateway.spec.listeners).allValid then
    buildGatewayStatus s.now gateway false "ListenersNotValid"
      "One or more listeners have invalid configuration" none
  else builtGatewayStatus s gateway ns name

/-- The status `reconcileHttproute` writes. -/
def httprouteStatusOf (s : WorldSnapshot) (route : HTTPRoute) (ns : String) : HttpRouteStatus where
  parents := (route.spec.parentRefs.getD []).map fun parentRef =>
    buildParentStatus s.now (validateParentRef s route parentRef ns) route.metadata.generation

section
variable {s : WorldSnapshot} {config : ControllerConfig} {ns name : String}

theorem statusUpdates_reconcileGatewayClass {gatewayClass : GatewayClass}
    (hget : s.getGatewayClass name = some gatewayClass)
    (hours : isOurGatewayClass gatewayClass = true) :
    (reconcileGatewayClass s config name).statusUpdates =
      [.gatewayClass name (buildGatewayClassStatus s.now gatewayClass.metadata.generation
        (validateGatewayClass gatewayClass))] := by
  unfold reconcileGatewayClass
  rw [hget]
  dsimp only
  rw [hours]
  rfl

theorem statusUpdates_reconcileGateway {gateway : Gateway}
    (hget : s.getGateway ns name = some gateway) :
    (reconcileGateway s config ns name).statusUpdates =
      [.gateway ns name (gatewayStatusOf s gateway ns name)] := by
  unfold reconcileGateway gatewayStatusOf
  rw [hget]
  dsimp only
  split
  · rfl
  · split <;> rfl

theorem isNone_getAcceptedGatewayClass (s : WorldSnapshot) (className : String) :
    (getAcceptedGatewayClass s className).isNone = !classAccepted s className :=
  (Option.not_isSome _).symm

theorem readyGateway_eq_some_iff {gateway : Gateway}
    (hget : s.getGateway ns name = some gateway) :
    readyGateway s ns name = some gateway ↔
      classAccepted s gateway.spec.gatewayClassName = true ∧
        (validateListeners gateway.spec.listeners).allValid = true := by
  unfold readyGateway classAccepted
  rw [hget, Option.filter_eq_some_iff, Bool.and_eq_true]
  exact and_iff_right rfl

theorem gatewayStatusOf_of_ready {gateway : Gateway}
    (hget : s.getGateway ns name = some gateway)
    (hready : readyGateway s ns name = some gateway) :
    gatewayStatusOf s gateway ns name = builtGatewayStatus s gateway ns name := by
  obtain ⟨haccepted, hvalid⟩ := (readyGateway_eq_some_iff hget).mp hready
  unfold gatewayStatusOf
  rw [isNone_getAcceptedGatewayClass, haccepted, hvalid, Bool.not_true, if_neg Bool.false_ne_true,
    if_neg Bool.false_ne_true]

/-- Otherwise nothing is written. -/
theorem statusUpdates_of_not_writesStatus (reconciler : Reconciler)
    (h : writesStatus s reconciler = false) : (reconciler.run config s).statusUpdates = [] := by
  cases reconciler with
  | gatewayClass name =>
    show (reconcileGatewayClass s config name).statusUpdates = []
    unfold reconcileGatewayClass
    rcases hget : s.getGatewayClass name with _ | gatewayClass
    · rfl
    · have hforeign : isOurGatewayClass gatewayClass = false := by
        simpa [writesStatus, hget] using h
      dsimp only
      rw [hforeign]
      rfl
  | gateway ns name =>
    have hnone : s.getGateway ns name = none := by simpa [writesStatus] using h
    show (reconcileGateway s config ns name).statusUpdates = []
    unfold reconcileGateway
    rw [hnone]
  | httproute ns name =>
    show (reconcileHttproute s config ns name).statusUpdates = []
    unfold reconcileHttproute
    rcases hget : s.getHttproute ns name with _ | route
    · rfl
    · have hrefs : route.spec.parentRefs.getD [] = [] := by simpa [writesStatus, hget] using h
      dsimp only
      rw [hrefs]
      rfl

/-! ## The second run -/

theorem buildGatewayStatusAccepted_again (now later : Time) (gateway : Gateway)
    (status : GatewayStatus) (programmed : Bool) (reason message : String)
    (addresses : Option (List GatewayAddresses)) (attachedRoutes : ℤ) (resolved : BTreeMap Bool) :
    StatusUpdate.gateway ns name (buildGatewayStatusAccepted later
        { gateway with status := some status } programmed reason message addresses attachedRoutes
        resolved) =
      restampUpdate later (.gateway ns name (buildGatewayStatusAccepted now gateway programmed
        reason message addresses attachedRoutes resolved)) := by
  simp only [restampUpdate, buildGatewayStatusAccepted, Option.map_some, List.map_map]
  refine congrArg (fun ls => StatusUpdate.gateway ns name ⟨addresses, _, some ls⟩)
    (List.map_congr_left fun l _ => ?_)
  dsimp only [Function.comp]
  cases resolved[l.name]?.getD true <;> rfl

/-- The stored status is not looked at, and the instant is the snapshot's. -/
theorem gatewayStatusOf_again (gateway : Gateway) (status : GatewayStatus) (later : Time) :
    StatusUpdate.gateway ns name (gatewayStatusOf
        { s.withGateway { gateway with status := some status } with now := later }
        { gateway with status := some status } ns name) =
      restampUpdate later (.gateway ns name (gatewayStatusOf s gateway ns name)) := by
  unfold gatewayStatusOf
  show StatusUpdate.gateway ns name (if (getAcceptedGatewayClass s
    gateway.spec.gatewayClassName).isNone then _ else _) = _
  split
  · simp [restampUpdate, buildGatewayStatus, buildGatewayStatusWithRoutes, restamp]
  · show StatusUpdate.gateway ns name
      (if !(validateListeners gateway.spec.listeners).allValid then _ else _) = _
    split
    · simp [restampUpdate, buildGatewayStatus, buildGatewayStatusWithRoutes, restamp]
    · exact buildGatewayStatusAccepted_again s.now later gateway status _ _ _ _ _ _

/-- Validation does not look at the stored status either. -/
theorem httprouteStatusOf_again (route : HTTPRoute) (status : HttpRouteStatus) (later : Time) :
    StatusUpdate.httpRoute ns name (httprouteStatusOf
        { s.withHttproute { route with status := some status } with now := later }
        { route with status := some status } ns) =
      restampUpdate later (.httpRoute ns name (httprouteStatusOf s route ns)) := by
  unfold restampUpdate httprouteStatusOf
  dsimp only
  rw [List.map_map]
  rfl

/-- After a write of one status the object is stored with it. -/
theorem afterWrite_singleton {result : ReconcileResult} {u : StatusUpdate}
    (h : result.statusUpdates = [u]) (later : Time) :
    afterWrite s result later = { storeStatus s u with now := later } := by
  unfold afterWrite
  rw [h]
  rfl

/-- **The second run writes the first run's status again**, with the new
instant in every condition. -/
theorem statusUpdates_again (reconciler : Reconciler) (later : Time) :
    (reconciler.run config (afterWrite s (reconciler.run config s) later)).statusUpdates =
      (reconciler.run config s).statusUpdates.map (restampUpdate later) := by
  rcases hwrites : writesStatus s reconciler with _ | _
  · have hnone : (reconciler.run config s).statusUpdates = [] :=
      statusUpdates_of_not_writesStatus reconciler hwrites
    unfold afterWrite
    rw [hnone]
    exact statusUpdates_of_not_writesStatus reconciler (by cases reconciler <;> exact hwrites)
  · cases reconciler with
    | gatewayClass name =>
      obtain ⟨gatewayClass, hget, hours⟩ := (Option.any_eq_true _ _).mp hwrites
      have hkey : nameAny gatewayClass = name := Store.key_of_get? hget
      have hfirst : (reconcileGatewayClass s config name).statusUpdates = _ :=
        statusUpdates_reconcileGatewayClass hget hours
      simp only [Reconciler.run]
      rw [afterWrite_singleton hfirst, hfirst]
      simp only [storeStatus, hget]
      generalize some (buildGatewayClassStatus s.now gatewayClass.metadata.generation
        (validateGatewayClass gatewayClass)) = status
      have hstored : WorldSnapshot.getGatewayClass
          { s.withGatewayClass { gatewayClass with status } with now := later } name =
            some { gatewayClass with status } := Store.get?_insert_of_eq s.gatewayClasses hkey
      exact (statusUpdates_reconcileGatewayClass hstored hours).trans rfl
    | gateway ns name =>
      obtain ⟨gateway, hget⟩ := Option.isSome_iff_exists.mp hwrites
      have hkey : objectKey gateway = (ns, name) := Store.key_of_get? hget
      have hfirst : (reconcileGateway s config ns name).statusUpdates = _ :=
        statusUpdates_reconcileGateway hget
      simp only [Reconciler.run]
      rw [afterWrite_singleton hfirst, hfirst, List.map_singleton, ← gatewayStatusOf_again gateway]
      simp only [storeStatus, hget]
      refine statusUpdates_reconcileGateway ?_
      exact Store.get?_insert_of_eq s.gateways hkey
    | httproute ns name =>
      obtain ⟨route, hget, hrefs⟩ := (Option.any_eq_true _ _).mp hwrites
      have hkey : objectKey route = (ns, name) := Store.key_of_get? hget
      have hne : route.spec.parentRefs.getD [] ≠ [] := by simpa using hrefs
      have hfirst : (reconcileHttproute s config ns name).statusUpdates =
          [.httpRoute ns name (httprouteStatusOf s route ns)] :=
        statusUpdates_reconcileHttproute hget hne
      simp only [Reconciler.run]
      rw [afterWrite_singleton hfirst, hfirst, List.map_singleton, ← httprouteStatusOf_again route]
      simp only [storeStatus, hget]
      refine statusUpdates_reconcileHttproute ?_ hne
      exact Store.get?_insert_of_eq s.httproutes hkey

/-! ## Quiescence -/

theorem lastTransitionTime_of_gatewayStatusOf (gateway : Gateway) :
    ∀ c ∈ conditionsOf (.gateway ns name (gatewayStatusOf s gateway ns name)),
      c.lastTransitionTime = s.now := by
  have hinvalid : ∀ reason message : String, ∀ c ∈ conditionsOf (.gateway ns name
      (buildGatewayStatus s.now gateway false reason message none)),
        c.lastTransitionTime = s.now := by
    intro reason message c hc
    rcases List.mem_append.mp hc with hown | hlisteners
    · rcases List.mem_pair.mp hown with rfl | rfl <;> rfl
    · obtain ⟨l, hl, hc⟩ := List.mem_flatMap.mp hlisteners
      obtain ⟨listener, -, rfl⟩ := List.mem_map.mp hl
      simp only [List.mem_cons, List.not_mem_nil, or_false] at hc
      rcases hc with rfl | rfl | rfl <;> rfl
  unfold gatewayStatusOf
  split
  · exact hinvalid _ _
  · split
    · exact hinvalid _ _
    · intro c hc
      rcases List.mem_append.mp hc with hown | hlisteners
      · rcases List.mem_pair.mp hown with rfl | rfl <;> rfl
      · obtain ⟨l, hl, hc⟩ := List.mem_flatMap.mp hlisteners
        obtain ⟨listener, -, rfl⟩ := List.mem_map.mp hl
        simp only [List.mem_cons, List.not_mem_nil, or_false] at hc
        rcases hc with rfl | rfl | rfl
        · rfl
        · split <;> rfl
        · rfl

/-- What a run writes carries the instant of its snapshot. -/
theorem lastTransitionTime_of_mem (reconciler : Reconciler) :
    ∀ u ∈ (reconciler.run config s).statusUpdates,
      ∀ c ∈ conditionsOf u, c.lastTransitionTime = s.now := by
  rcases hwrites : writesStatus s reconciler with _ | _
  · rw [statusUpdates_of_not_writesStatus reconciler hwrites]
    exact nofun
  · cases reconciler with
    | gatewayClass name =>
      obtain ⟨gatewayClass, hget, hours⟩ := (Option.any_eq_true _ _).mp hwrites
      simp only [Reconciler.run, statusUpdates_reconcileGatewayClass hget hours]
      intro u hu c hc
      rw [List.mem_singleton.mp hu] at hc
      rw [List.mem_singleton.mp hc]
    | gateway ns name =>
      obtain ⟨gateway, hget⟩ := Option.isSome_iff_exists.mp hwrites
      simp only [Reconciler.run, statusUpdates_reconcileGateway hget]
      intro u hu
      rw [List.mem_singleton.mp hu]
      exact lastTransitionTime_of_gatewayStatusOf gateway
    | httproute ns name =>
      obtain ⟨route, hget, hrefs⟩ := (Option.any_eq_true _ _).mp hwrites
      have hne : route.spec.parentRefs.getD [] ≠ [] := by simpa using hrefs
      simp only [Reconciler.run, statusUpdates_reconcileHttproute hget hne]
      intro u hu c hc
      rw [List.mem_singleton.mp hu] at hc
      obtain ⟨parent, hparent, hc⟩ := List.mem_flatMap.mp hc
      obtain ⟨parentRef, -, rfl⟩ := List.mem_map.mp hparent
      rcases List.mem_pair.mp hc with rfl | rfl <;> rfl

/-- A status that is written has a condition. -/
theorem conditionsOf_ne_nil (reconciler : Reconciler) (h : writesStatus s reconciler = true) :
    ∃ u ∈ (reconciler.run config s).statusUpdates, conditionsOf u ≠ [] := by
  cases reconciler with
  | gatewayClass name =>
    obtain ⟨gatewayClass, hget, hours⟩ := (Option.any_eq_true _ _).mp h
    simp only [Reconciler.run, statusUpdates_reconcileGatewayClass hget hours]
    exact ⟨_, List.mem_singleton_self _, nofun⟩
  | gateway ns name =>
    obtain ⟨gateway, hget⟩ := Option.isSome_iff_exists.mp h
    simp only [Reconciler.run, statusUpdates_reconcileGateway hget]
    refine ⟨_, List.mem_singleton_self _, ?_⟩
    unfold gatewayStatusOf
    split
    · exact nofun
    · split <;> exact nofun
  | httproute ns name =>
    obtain ⟨route, hget, hrefs⟩ := (Option.any_eq_true _ _).mp h
    have hne : route.spec.parentRefs.getD [] ≠ [] := by simpa using hrefs
    simp only [Reconciler.run, statusUpdates_reconcileHttproute hget hne]
    refine ⟨_, List.mem_singleton_self _, ?_⟩
    obtain ⟨parentRef, hmem⟩ := List.exists_mem_of_ne_nil _ hne
    exact List.ne_nil_of_mem (List.mem_flatMap.mpr
      ⟨_, List.mem_map_of_mem hmem, List.mem_cons_self⟩)

end

/-- After its own write, with nothing else changed, the reconciler computes the
stored status once more at `later`, and each condition that says what it said
keeps its transition time. -/
structure Quiescent (config : ControllerConfig) (s : WorldSnapshot) (reconciler : Reconciler)
    (later : Time) : Prop where
  same : (reconciler.run config (afterWrite s (reconciler.run config s) later)).statusUpdates =
    (reconciler.run config s).statusUpdates
  kept : ∀ pair ∈ ((reconciler.run config (afterWrite s (reconciler.run config s)
        later)).statusUpdates.flatMap conditionsOf).zip
      ((reconciler.run config s).statusUpdates.flatMap conditionsOf),
    pair.1.type = pair.2.type → pair.1.status = pair.2.status → pair.1.reason = pair.2.reason →
      pair.1.message = pair.2.message → pair.1.lastTransitionTime = pair.2.lastTransitionTime

/-- **When reconciling is quiescent.** For every snapshot, reconciler and later
instant: exactly when there is no status to write, or the clock has not moved. -/
theorem quiescent_iff (config : ControllerConfig) (s : WorldSnapshot) (reconciler : Reconciler)
    (later : Time) :
    Quiescent config s reconciler later ↔
      (writesStatus s reconciler = true → later = s.now) := by
  constructor
  · intro h hwrites
    obtain ⟨u, hu, hne⟩ : ∃ u ∈ (reconciler.run config s).statusUpdates, conditionsOf u ≠ [] :=
      conditionsOf_ne_nil reconciler hwrites
    obtain ⟨c, hc⟩ := List.exists_mem_of_ne_nil _ hne
    have hnow := lastTransitionTime_of_mem reconciler u hu c hc
    -- the second run's updates all say `later`
    rw [← h.same, statusUpdates_again] at hu
    obtain ⟨v, -, rfl⟩ := List.mem_map.mp hu
    rw [conditionsOf_restampUpdate] at hc
    obtain ⟨d, -, rfl⟩ := List.mem_map.mp hc
    exact hnow
  · intro h
    have hsame : (reconciler.run config (afterWrite s (reconciler.run config s)
        later)).statusUpdates = (reconciler.run config s).statusUpdates := by
      rw [statusUpdates_again]
      refine (List.map_congr_left fun u hu => restampUpdate_eq_self fun c hc => ?_).trans
        (List.map_id _)
      rcases hwrites : writesStatus s reconciler with _ | _
      · rw [statusUpdates_of_not_writesStatus reconciler hwrites] at hu
        cases hu
      · rw [h hwrites]
        exact lastTransitionTime_of_mem reconciler u hu c hc
    have hstamped : ∀ c ∈ (reconciler.run config s).statusUpdates.flatMap conditionsOf,
        c.lastTransitionTime = s.now := by
      intro c hc
      obtain ⟨u, hu, hc⟩ := List.mem_flatMap.mp hc
      exact lastTransitionTime_of_mem reconciler u hu c hc
    refine ⟨hsame, fun pair hpair _ _ _ _ => ?_⟩
    rw [hsame] at hpair
    obtain ⟨hnew, hold⟩ := List.of_mem_zip hpair
    rw [hstamped _ hnew, hstamped _ hold]

/-- A Gateway nobody has touched since its status was written. -/
theorem gateway_not_quiescent :
    ¬ ∀ (config : ControllerConfig) (s : WorldSnapshot) (reconciler : Reconciler) (later : Time),
      s.now < later → Quiescent config s reconciler later := by
  intro hall
  have hlater := (quiescent_iff {} (.full (clusterWith [httpListener "http" 80] []) 0)
    (.gateway "default" "gw") 60).mp (hall _ _ _ _ (by decide)) rfl
  exact absurd hlater (by decide)

end Multiway.ControlPlane
