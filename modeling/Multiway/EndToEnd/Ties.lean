import Multiway.EndToEnd.Hostnames
import Multiway.ProxyCore.Hostnames

/-!
# Ties between routes

When the best matches of two routes rank the same, the HTTPRoute definition
gives precedence to the oldest route, and of equally old ones to the first by
`{namespace}/{name}`. The control plane programs routes in the order of the
snapshot's map, by namespace and then by name, and the data plane keeps the
first of the best: no creation timestamp is read. So ties go to the oldest
route exactly when the first route by key is also the oldest (`ties_iff`).

The two orders by name differ as well: `-` comes before `/`, so `a-b/x` is
before `a/x` by its text and after it by its namespace.
-/

namespace Multiway.EndToEnd

open Multiway.Kube
open Multiway.ControlPlane (WorldSnapshot)
open Multiway.ProxyCore (RequestMeta RouteMatches routeOffers SelectedAt Leads)

/-! ## Precedence between routes -/

/-- `{namespace}/{name}` -/
def routeName (route : HTTPRoute) : String := namespaceOf route ++ "/" ++ nameAny route

/-- The route is older, or as old and first in alphabetical order. -/
def Precedes (older later : HTTPRoute) : Prop :=
  (∃ t u, older.metadata.creationTimestamp = some t ∧
    later.metadata.creationTimestamp = some u ∧ t < u) ∨
  (older.metadata.creationTimestamp = later.metadata.creationTimestamp ∧
    routeName older < routeName later)

section
variable (isMatch : String → String → Bool) (gateway : Gateway) (ns : String)
  (snapshot : WorldSnapshot) (listenerName : String) (request : RequestMeta)

/-- Both routes match the request, and their best matches rank the same. -/
def Ties (config : ProxyCore.ProxyConfig) (i j : ℕ) : Prop :=
  ∃ first second best,
    RouteMatches isMatch config listenerName request i first ∧
    RouteMatches isMatch config listenerName request j second ∧
    IsGreatest (routeOffers isMatch request first) best ∧
    IsGreatest (routeOffers isMatch request second) best

/-- Where two programmed routes tie, no rule of the later one is selected. -/
def TiesToOldest : Prop :=
  ∀ i j older later, (snapshot.routesForGateway ns (nameAny gateway))[i]? = some older →
    (snapshot.routesForGateway ns (nameAny gateway))[j]? = some later →
    Ties isMatch listenerName request (programmedConfig gateway ns snapshot) i j →
    Precedes older later →
      ¬SelectedAt isMatch (programmedConfig gateway ns snapshot) listenerName request j

/-- A rule of the route offers the highest rank of all rules programmed. -/
def RouteLeads (route : HTTPRoute) : Prop :=
  ∃ k, (snapshot.routesForGateway ns (nameAny gateway))[k]? = some route ∧
    Leads isMatch (programmedConfig gateway ns snapshot) listenerName request k

/-- No leading route is older than the one that is first by namespace and name. -/
def FirstIsOldest : Prop :=
  ∀ first, RouteLeads isMatch gateway ns snapshot listenerName request first →
    (∀ other, RouteLeads isMatch gateway ns snapshot listenerName request other →
      other ≠ first → compare (objectKey first) (objectKey other) = .lt) →
    ∀ other, RouteLeads isMatch gateway ns snapshot listenerName request other →
      ¬Precedes other first

end

/-! ## Positions and keys -/

section
variable {isMatch : String → String → Bool} {gateway : Gateway} {ns : String}
  {snapshot : WorldSnapshot} {listenerName : String} {request : RequestMeta}

/-- Routes are programmed in the order of their keys. -/
theorem compare_of_position_lt {gatewayName : String} {i j : ℕ} {a b : HTTPRoute}
    (ha : (snapshot.routesForGateway ns gatewayName)[i]? = some a)
    (hb : (snapshot.routesForGateway ns gatewayName)[j]? = some b) (hlt : i < j) :
    compare (objectKey a) (objectKey b) = .lt := by
  have hsorted : (snapshot.routesForGateway ns gatewayName).Pairwise fun a b =>
      compare (objectKey a) (objectKey b) = .lt := snapshot.httproutes.pairwise_values.filter _
  obtain ⟨hi, rfl⟩ := List.getElem?_eq_some_iff.mp ha
  obtain ⟨hj, rfl⟩ := List.getElem?_eq_some_iff.mp hb
  exact List.pairwise_iff_getElem.mp hsorted i j hi hj hlt

theorem compare_asymm {a b : HTTPRoute} (h : compare (objectKey a) (objectKey b) = .lt) :
    compare (objectKey b) (objectKey a) ≠ .lt := by
  intro hba
  have hself : compare (objectKey a) (objectKey a) = .lt := Std.TransCmp.lt_trans h hba
  rw [Std.ReflOrd.compare_self] at hself
  cases hself

/-- A position with a matching route is the position of an HTTPRoute. -/
theorem exists_route_of_leads {k : ℕ}
    (h : Leads isMatch (programmedConfig gateway ns snapshot) listenerName request k) :
    ∃ route, (snapshot.routesForGateway ns (nameAny gateway))[k]? = some route := by
  obtain ⟨_, _, hroute, -⟩ := h
  have hposition := hroute.position
  rw [routes_programmedConfig, List.getElem?_map] at hposition
  obtain ⟨route, hroute, -⟩ := Option.map_eq_some_iff.mp hposition
  exact ⟨route, hroute⟩

/-- What ties with a leading route leads. -/
theorem Ties.leads {config : ProxyCore.ProxyConfig} {i j : ℕ}
    (h : Ties isMatch listenerName request config i j)
    (hj : Leads isMatch config listenerName request j) :
    Leads isMatch config listenerName request i := by
  obtain ⟨first, second, best, hfirst, hsecond, hbest, hbest'⟩ := h
  obtain ⟨second', top, hsecond', htop, hall⟩ := hj
  obtain rfl := Option.some.inj (hsecond.position.symm.trans hsecond'.position)
  obtain rfl := hbest'.unique htop
  exact ⟨first, best, hfirst, hbest, hall⟩

/-- Leading routes tie. -/
theorem ties_of_leads {config : ProxyCore.ProxyConfig} {i j : ℕ}
    (hi : Leads isMatch config listenerName request i)
    (hj : Leads isMatch config listenerName request j) :
    Ties isMatch listenerName request config i j := by
  obtain ⟨first, best, hfirst, hbest, htop⟩ := hi
  obtain ⟨second, best', hsecond, hbest', htop'⟩ := hj
  have hsame : best = best' :=
    le_antisymm (htop' i first hfirst best hbest.1) (htop j second hsecond best' hbest'.1)
  exact ⟨first, second, best, hfirst, hsecond, hbest, hsame ▸ hbest'⟩

end

/-- **When ties go to the oldest route.** For every snapshot, Gateway, listener
and request: exactly when, of the routes whose best matches rank highest, the
first by namespace and name is preceded by no other. -/
theorem ties_iff (isMatch : String → String → Bool) (gateway : Gateway) (ns : String)
    (snapshot : WorldSnapshot) (listenerName : String) (request : RequestMeta) :
    TiesToOldest isMatch gateway ns snapshot listenerName request ↔
      FirstIsOldest isMatch gateway ns snapshot listenerName request := by
  constructor
  · intro h first hfirst hkey other hother hprecedes
    obtain ⟨j, hj, hleads⟩ := hfirst
    obtain ⟨i, hi, hleads'⟩ := hother
    refine h i j other first hi hj (ties_of_leads hleads' hleads) hprecedes ?_
    refine ProxyCore.selectedAt_iff.mpr ⟨hleads, fun k hk => ?_⟩
    -- a leading route at an earlier position would be first by key
    obtain ⟨route, hroute⟩ := exists_route_of_leads hk
    by_contra hlt
    have hbefore := compare_of_position_lt hroute hj (not_le.mp hlt)
    have hne : route ≠ first := by
      intro hsame
      rw [hsame] at hbefore
      exact compare_asymm hbefore hbefore
    exact compare_asymm hbefore (hkey route ⟨k, hroute, hk⟩ hne)
  · intro h i j older later hi hj hties hprecedes hselected
    obtain ⟨hleads, hfirst⟩ := ProxyCore.selectedAt_iff.mp hselected
    refine h later ⟨j, hj, hleads⟩ ?_ older ⟨i, hi, hties.leads hleads⟩ hprecedes
    intro other hother hne
    obtain ⟨k, hk, hleads'⟩ := hother
    have hjk : j ≠ k := by
      intro hsame
      rw [← hsame, hj] at hk
      exact hne (Option.some.inj hk).symm
    exact compare_of_position_lt hj hk (lt_of_le_of_ne (hfirst k hleads') hjk)

/-! ### The newer of two routes -/

/-- A route for every request, created at the given instant. -/
def createdRoute (name : String) (created : Time) : HTTPRoute :=
  { ControlPlane.routeNamed name none [] with
    metadata :=
      { name := some name, «namespace» := some "default", creationTimestamp := some created } }

def newerFirstGateway : Gateway :=
  ControlPlane.gatewayWith [ControlPlane.httpListener "http" 80]

/-- `default/a` is newer than `default/b`. -/
def newerFirst : WorldSnapshot :=
  .full (ControlPlane.clusterWith [ControlPlane.httpListener "http" 80]
    [createdRoute "a" 200, createdRoute "b" 100]) 0

/-- Both match every request, and rank the same. -/
theorem newerFirst_ties (isMatch : String → String → Bool) (request : RequestMeta) :
    Ties isMatch "http" request (programmedConfig newerFirstGateway "default" newerFirst) 1 0 := by
  have hsecond : RouteMatches isMatch (programmedConfig newerFirstGateway "default" newerFirst)
      "http" request 1 _ :=
    ⟨rfl, rfl, rfl, _, List.mem_cons_self, _, (ProxyCore.isGreatest_of_ruleMatches _ rfl).1⟩
  have hfirst : RouteMatches isMatch (programmedConfig newerFirstGateway "default" newerFirst)
      "http" request 0 _ :=
    ⟨rfl, rfl, rfl, _, List.mem_cons_self, _, (ProxyCore.isGreatest_of_ruleMatches _ rfl).1⟩
  obtain ⟨best, hbest⟩ := hfirst.exists_isGreatest
  exact ⟨_, _, best, hsecond, hfirst, hbest, hbest⟩

/-- The newer route takes the traffic. -/
theorem tie_to_newer :
    ¬ ∀ (isMatch : String → String → Bool) (gateway : Gateway) (ns : String)
        (snapshot : WorldSnapshot) (listenerName : String) (request : RequestMeta),
      TiesToOldest isMatch gateway ns snapshot listenerName request := by
  intro hall
  have holder : Precedes (createdRoute "b" 100) (createdRoute "a" 200) :=
    .inl ⟨100, 200, rfl, rfl, by decide⟩
  exact hall (fun _ _ => false) newerFirstGateway "default" newerFirst "http"
    { host := none, path := "/" } 1 0 _ _ rfl rfl (newerFirst_ties _ _) holder ⟨_, rfl⟩

end Multiway.EndToEnd
