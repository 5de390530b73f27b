import Multiway.ControlPlane.Sufficiency
import Multiway.ControlPlane.FetchedRoute
import Multiway.ControlPlane.Quiescence

/-!
# The status of a route from its own snapshot

The status of an HTTPRoute is what validation says of each of its parent
references, stamped with the instant of the snapshot. So two snapshots that
hold the same route and on which validation says the same give the same status
up to the instants (`statusUpdates_httproute_congr`), and the snapshot fetched
for the route gives the status that the whole cluster gives
(`httproute_status_sufficient`), although not the same ConfigMaps.
-/

namespace Multiway.ControlPlane

open Multiway.Lib
open Multiway.Kube
open WorldSnapshot SnapshotFetcher

section
variable {s t : WorldSnapshot} {config : ControllerConfig} {ns name : String}

/-- Of the instant the conditions only take their stamp. -/
theorem restampUpdate_httprouteStatus (stamp : Time) (route : HTTPRoute)
    (hvalid : ∀ parentRef ∈ route.spec.parentRefs.getD [],
      validateParentRef s route parentRef ns = validateParentRef t route parentRef ns) :
    restampUpdate stamp (.httpRoute ns name (httprouteStatusOf s route ns)) =
      restampUpdate stamp (.httpRoute ns name (httprouteStatusOf t route ns)) := by
  unfold restampUpdate httprouteStatusOf
  dsimp only
  rw [List.map_map, List.map_map]
  refine congrArg (fun parents => StatusUpdate.httpRoute ns name ⟨parents⟩)
    (List.map_congr_left fun parentRef hmem => ?_)
  rw [Function.comp_apply, Function.comp_apply, hvalid parentRef hmem]
  rfl

/-- The status of a route depends on the snapshot through the route and what
validation says of its parents. -/
theorem statusUpdates_httproute_congr (stamp : Time)
    (hroute : s.getHttproute ns name = t.getHttproute ns name)
    (hvalid : ∀ route, t.getHttproute ns name = some route →
      ∀ parentRef ∈ route.spec.parentRefs.getD [],
        validateParentRef s route parentRef ns = validateParentRef t route parentRef ns) :
    (reconcileHttproute s config ns name).statusUpdates.map (restampUpdate stamp) =
      (reconcileHttproute t config ns name).statusUpdates.map (restampUpdate stamp) := by
  rcases hwrites : writesStatus t (.httproute ns name) with _ | _
  · have hnone : (reconcileHttproute t config ns name).statusUpdates = [] :=
      statusUpdates_of_not_writesStatus (.httproute ns name) hwrites
    have hsame : writesStatus s (.httproute ns name) = writesStatus t (.httproute ns name) :=
      congrArg (Option.any fun route : HTTPRoute => !(route.spec.parentRefs.getD []).isEmpty)
        hroute
    have hnone' : (reconcileHttproute s config ns name).statusUpdates = [] :=
      statusUpdates_of_not_writesStatus (.httproute ns name) (hsame.trans hwrites)
    rw [hnone, hnone']
  · obtain ⟨route, hget, hrefs⟩ := (Option.any_eq_true _ _).mp hwrites
    have hne : route.spec.parentRefs.getD [] ≠ [] := by simpa using hrefs
    have hours : (reconcileHttproute s config ns name).statusUpdates =
        [.httpRoute ns name (httprouteStatusOf s route ns)] :=
      statusUpdates_reconcileHttproute (hroute.trans hget) hne
    have htheirs : (reconcileHttproute t config ns name).statusUpdates =
        [.httpRoute ns name (httprouteStatusOf t route ns)] :=
      statusUpdates_reconcileHttproute hget hne
    rw [hours, htheirs, List.map_singleton, List.map_singleton,
      restampUpdate_httprouteStatus stamp route (hvalid route hget)]

end

section
variable {cluster : Objects} {s : WorldSnapshot} {ns name : String}

/-- The snapshot for a route that is not there holds no route. -/
theorem snapshotForHttproute_of_none (now : Time)
    (hnone : cluster.httproutes.get? (ns, name) = none) :
    ∃ s, snapshotForHttproute (.ofCluster cluster) now ns name = .ok s ∧ s.httproutes = ∅ := by
  have hread : orNotFound ((Client.ofCluster cluster).httproutes.get (ns, name)) =
      .ok none := by
    rw [← hnone]
    exact orNotFound_ofStore
  unfold snapshotForHttproute
  rw [hread]
  exact ⟨_, congrArg Except.ok (fetchGrants_eq ns cluster.referenceGrants.values _), rfl⟩

/-- What validating the route consults in the cluster is on the snapshot: the
Gateway of each parent reference with its class, the Service of each backend,
and each grant that lets the namespace refer anywhere. -/
structure HoldsConsulted (cluster : Objects) (ns : String) (route : HTTPRoute)
    (s : WorldSnapshot) : Prop where
  parents : ∀ parentRef ∈ route.spec.parentRefs.getD [], isGatewayRef parentRef →
    HasParent cluster ns parentRef s
  backends : ∀ backend ∈ backendRefsOf route, HasBackend cluster ns backend s
  grants : ∀ grant ∈ cluster.referenceGrants.values,
    ∀ fromGroup fromKind toNs toGroup toKind : String,
      grantAllows ns fromGroup fromKind toNs toGroup toKind grant = true →
        grant ∈ s.referenceGrants.values

theorem holdsConsulted_snapshotForHttproute {route : HTTPRoute} {now : Time}
    (hroute : cluster.httproutes.get? (ns, name) = some route)
    (hs : snapshotForHttproute (.ofCluster cluster) now ns name = .ok s) :
    HoldsConsulted cluster ns route s := by
  have hvalidates := validatesFor_snapshotForHttproute hroute hs
  refine ⟨hvalidates.parents, hvalidates.backends, ?_⟩
  intro grant hmem fromGroup fromKind toNs toGroup toKind hallows
  exact (mem_values_of_fetched (referenceGrants_snapshotForHttproute hroute hs)).mpr
    ⟨hmem, grantConcerns_of_allows hallows⟩

end

/-- **The fetched snapshot is enough for the route's status.** It can be
fetched, the status written from it is, up to the instants, the one written
from a snapshot of the whole cluster, and it holds all that validation
consults. -/
theorem httproute_status_sufficient (cluster : Objects) (config : ControllerConfig)
    (now now' : Time) (ns name : String) :
    ∃ s, snapshotForHttproute (.ofCluster cluster) now ns name = .ok s ∧
      (∀ stamp,
        (reconcileHttproute s config ns name).statusUpdates.map (restampUpdate stamp) =
          (reconcileHttproute (.full cluster now') config ns name).statusUpdates.map
            (restampUpdate stamp)) ∧
      ∀ route, cluster.httproutes.get? (ns, name) = some route →
        HoldsConsulted cluster ns route s := by
  rcases hroute : cluster.httproutes.get? (ns, name) with _ | route
  · obtain ⟨s, hs, hempty⟩ := snapshotForHttproute_of_none now hroute
    have hget : s.getHttproute ns name = none := by
      unfold WorldSnapshot.getHttproute
      rw [hempty, Store.get?_empty]
    have hfull : (WorldSnapshot.full cluster now').getHttproute ns name = none := hroute
    refine ⟨s, hs, fun stamp => ?_, fun route hfound => ?_⟩
    · refine statusUpdates_httproute_congr stamp (hget.trans hfull.symm) fun route hfound => ?_
      rw [hfull] at hfound
      cases hfound
    · cases hfound
  · -- the route is on both, and validation says the same of each of its parents
    obtain ⟨s, hs, hfetched⟩ := snapshotForHttproute_spec now hroute
    have hvalidates := validatesFor_snapshotForHttproute hroute hs
    have hget : s.getHttproute ns name = some route := hfetched.getHttproute_eq hroute
    have hfull : (WorldSnapshot.full cluster now').getHttproute ns name = some route := hroute
    refine ⟨s, hs, fun stamp => ?_, fun found hfound => ?_⟩
    · refine statusUpdates_httproute_congr stamp (hget.trans hfull.symm) fun found hfound => ?_
      rw [hfull] at hfound
      cases hfound
      exact fun parentRef hmem => hvalidates.validateParentRef_eq now' hmem
    · cases hfound
      exact holdsConsulted_snapshotForHttproute hroute hs

end Multiway.ControlPlane
