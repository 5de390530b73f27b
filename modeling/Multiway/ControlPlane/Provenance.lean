import Multiway.ControlPlane.Durations
import Multiway.ControlPlane.Stale
import Multiway.ControlPlane.Wire

/-!
# Where a ConfigMap comes from

Whichever reconciler sends a ConfigMap, for whatever Gateway, it is a pure
function of one snapshot, fetched for the Gateway or for a route that names it:
`buildGatewayConfig` for the Gateway the snapshot has under the name the
ConfigMap is filed under (`computed_of_sent`).
-/

namespace Multiway.ControlPlane

open Multiway.Lib
open Multiway.Kube
open SnapshotFetcher

/-- The snapshot that is fetched for a target. -/
def fetchSnapshot (client : Client) (now : Time) : Target → Except ApiError WorldSnapshot
  | .gateway ns name => snapshotForGateway client now ns name
  | .httproute ns name => snapshotForHttproute client now ns name

def reconcileOn (config : ControllerConfig) (s : WorldSnapshot) : Target → ReconcileResult
  | .gateway ns name => reconcileGateway s config ns name
  | .httproute ns name => reconcileHttproute s config ns name

theorem reconcile_eq (client : Client) (config : ControllerConfig) (now : Time) (target : Target) :
    reconcile client config now target =
      (fetchSnapshot client now target).map fun s => reconcileOn config s target := by
  cases target <;> rfl

/-- The target is the Gateway itself, or one of the HTTPRoutes, which names it. -/
def Target.Concerns (httproutes : Namespaced HTTPRoute) (ns name : String) : Target → Prop
  | .gateway gatewayNs gatewayName => (gatewayNs, gatewayName) = (ns, name)
  | .httproute routeNs routeName =>
    ∃ route, httproutes.get? (routeNs, routeName) = some route ∧
      referencesGateway ns name route = true

/-- A configuration of the Gateway, computed from a snapshot of the cluster that
was fetched for it or for one of its routes. -/
def ComputedFrom (cluster : Objects) (ns name : String) (c : GatewayConfig) : Prop :=
  ∃ now target s gateway, target.Concerns cluster.httproutes ns name ∧
    fetchSnapshot (.ofCluster cluster) now target = .ok s ∧
    cluster.gateways.get? (ns, name) = some gateway ∧
    c = (buildGatewayConfig gateway ns s).1

section
variable {cluster : Objects} {now : Time} {config : ControllerConfig} {target : Target}
  {s : WorldSnapshot}

/-- For a route that is gone, grants are all that is fetched. -/
theorem snapshotForHttproute_of_gone {ns name : String}
    (hroute : cluster.httproutes.get? (ns, name) = none)
    (h : snapshotForHttproute (.ofCluster cluster) now ns name = .ok s) :
    ∃ referenceGrants, s = { WorldSnapshot.new now with referenceGrants } := by
  have hread : orNotFound ((Client.ofCluster cluster).httproutes.get (ns, name)) = .ok none := by
    rw [← hroute]
    exact orNotFound_ofStore
  unfold snapshotForHttproute at h
  rw [hread] at h
  exact ⟨_, (Except.ok.inj h).symm.trans
    (fetchGrants_eq ns cluster.referenceGrants.values (.new now))⟩

theorem fragment_snapshotForHttproute {ns name : String}
    (h : snapshotForHttproute (.ofCluster cluster) now ns name = .ok s) : Fragment cluster s := by
  rcases hroute : cluster.httproutes.get? (ns, name) with _ | route
  · obtain ⟨grants, rfl⟩ := snapshotForHttproute_of_gone hroute h
    exact { Fragment.new cluster now with }
  · obtain ⟨s', hs', hfetched⟩ := snapshotForHttproute_spec now hroute
    obtain rfl := Except.ok.inj (hs'.symm.trans h)
    exact hfetched.fragment

theorem fragment_fetchSnapshot (h : fetchSnapshot (.ofCluster cluster) now target = .ok s) :
    Fragment cluster s := by
  cases target with
  | gateway ns name => exact fragment_snapshotForGateway h
  | httproute ns name => exact fragment_snapshotForHttproute h

/-- No Secret is ever fetched. -/
theorem secrets_fetchSnapshot (h : fetchSnapshot (.ofCluster cluster) now target = .ok s) :
    s.secrets = ∅ := by
  cases target with
  | gateway ns name =>
    obtain ⟨s', hs', hfetched⟩ := snapshotForGateway_spec cluster now ns name
    obtain rfl := Except.ok.inj (hs'.symm.trans h)
    exact hfetched.secrets
  | httproute ns name =>
    rcases hroute : cluster.httproutes.get? (ns, name) with _ | route
    · obtain ⟨grants, rfl⟩ := snapshotForHttproute_of_gone hroute h
      rfl
    · obtain ⟨s', hs', hfetched⟩ := snapshotForHttproute_spec now hroute
      obtain rfl := Except.ok.inj (hs'.symm.trans h)
      exact hfetched.secrets

theorem Target.Concerns.mono {ns name : String} {a b : Namespaced HTTPRoute}
    (h : target.Concerns a ns name)
    (hsub : ∀ key route, a.get? key = some route → b.get? key = some route) :
    target.Concerns b ns name := by
  cases target with
  | gateway => exact h
  | httproute =>
    obtain ⟨route, hget, hreferences⟩ := h
    exact ⟨route, hsub _ _ hget, hreferences⟩

/-- What is sent is the ConfigMap of a Gateway that the target concerns and whose
class has been accepted. -/
theorem gateway_of_sent {configmap : ConfigMap}
    (hsent : configmap ∈ sentConfigmaps (reconcileOn config s target)) :
    ∃ ns name gateway, target.Concerns s.httproutes ns name ∧
      s.getGateway ns name = some gateway ∧
      (getAcceptedGatewayClass s gateway.spec.gatewayClassName).isSome = true ∧
      cleanConfigmap (gatewayConfigmap s ns name gateway) = some configmap := by
  obtain ⟨emitted, hemitted, hclean⟩ := List.mem_filterMap.mp hsent
  cases target with
  | gateway ns name =>
    rw [reconcileOn, configmapUpserts_reconcileGateway, Option.mem_toList,
      Option.map_eq_some_iff] at hemitted
    obtain ⟨gateway, hready, rfl⟩ := hemitted
    have hchecks := (Option.filter_eq_some_iff.mp hready).2
    exact ⟨ns, name, gateway, rfl, getGateway_of_ready hready,
      (Bool.and_eq_true_iff.mp hchecks).1, hclean⟩
  | httproute ns name =>
    rw [reconcileOn] at hemitted
    rcases hroute : s.getHttproute ns name with _ | route
    · unfold reconcileHttproute at hemitted
      rw [hroute] at hemitted
      cases hemitted
    · rw [configmapUpserts_reconcileHttproute hroute, List.mem_filterMap] at hemitted
      obtain ⟨parentRef, href, hparent⟩ := hemitted
      obtain ⟨gateway, haccepts, rfl⟩ := parentConfigmap_eq_some_iff.mp hparent
      have hnamespace : namespaceOf route = ns := congrArg Prod.fst (Store.key_of_get? hroute)
      have hreferences := referencesGateway_of_mem href
      rw [hnamespace] at hreferences
      exact ⟨_, _, gateway, ⟨route, hroute, hreferences⟩, haccepts.found, haccepts.gatewayClass,
        hclean⟩

/-- **What is sent is computed.** -/
theorem computed_of_sent (hfetch : fetchSnapshot (.ofCluster cluster) now target = .ok s)
    {configmap : ConfigMap} (hsent : configmap ∈ sentConfigmaps (reconcileOn config s target)) :
    ∃ ns name c, objectKey configmap = (ns, DataPlaneNames.configmapName ⟨ns, name⟩) ∧
      ComputedFrom cluster ns name c ∧
      configmap.data = some ((∅ : BTreeMap Json).insert configKey c.toJson) := by
  obtain ⟨ns, name, gateway, hconcerns, hget, -, hclean⟩ := gateway_of_sent hsent
  have hfragment := fragment_fetchSnapshot hfetch
  obtain ⟨clean, hclean', hkey, hdata⟩ := cleanConfigmap_gatewayConfigmap s ns name gateway
  obtain rfl := Option.some.inj (hclean'.symm.trans hclean)
  exact ⟨ns, name, _, hkey,
    ⟨now, target, s, gateway, hconcerns.mono hfragment.httproutes, hfetch,
      hfragment.gateways _ _ hget, rfl⟩, hdata⟩

end

/-! ## What jobs write -/

/-- The jobs have nothing to write but such ConfigMaps. -/
def WritesOnly (P : ConfigMap → Prop) (s : System) : Prop :=
  ∀ p job, s.jobs p = some job → ∀ configmap ∈ job.toWrite, P configmap

section
variable {P : ConfigMap → Prop} {config : ControllerConfig} {s t : System}

theorem WritesOnly.setJob (h : WritesOnly P s) (p : ℕ) {job : Option Job}
    (hjob : ∀ j, job = some j → ∀ configmap ∈ j.toWrite, P configmap) :
    WritesOnly P (s.setJob p job) := by
  intro q j hj
  by_cases hq : q = p
  · rw [hq] at hj
    exact hjob j (by simpa [System.setJob] using hj)
  · exact h q j (by simpa [System.setJob, Function.update_of_ne hq] using hj)

/-- A job writes nothing but what was sent when it was started. -/
theorem WritesOnly.step {e : Event} (h : WritesOnly P s) (hstep : step config s e = some t)
    (hsent : ∀ p now target result, e = .fetch p now target →
      reconcile (.ofCluster s.cluster) config now target = .ok result →
        ∀ configmap ∈ sentConfigmaps result, P configmap) : WritesOnly P t := by
  cases transition_of_step hstep with
  | edit | editConfigmap | deleteConfigmap => exact h
  | @fetch p now target result hidle hreconcile =>
    refine h.setJob p fun j hj configmap hmem =>
      hsent p now target result rfl hreconcile configmap ?_
    cases hj
    exact configmaps_effectsOf _ ▸ hmem
  | @patch p objects fetchedAt effect pending hjob hother =>
    have hobjects : WritesOnly P (s.setObjects objects) := h
    refine hobjects.setJob p fun j hj configmap hmem => h p _ hjob configmap ?_
    cases hj
    rw [Job.toWrite_none, List.filterMap_cons_none (Effect.configmap?_eq_none hother)]
    exact hmem
  | @get p fetchedAt configmap clean pending hjob hclean =>
    refine h.setJob p fun j hj sent hmem => h p _ hjob sent ?_
    cases hj
    have hsome : Effect.configmap? (.upsert (.configMap configmap)) = some clean := hclean
    rw [Job.toWrite_none, List.filterMap_cons_some hsome]
    exact hmem
  | @put p fetchedAt pending reading hjob =>
    have hwritten : WritesOnly P (s.write reading.configmap
      (some { fetchedAt, storedAt := s.revision + 1 })) := h
    refine hwritten.setJob p fun j hj configmap hmem => h p _ hjob configmap ?_
    cases hj
    exact List.mem_cons_of_mem _ hmem
  | conflict | stop => exact h.setJob _ fun _ hj => by cases hj

end

/-! ## Timeouts -/

/-- A duration the HTTPRoute definition admits. -/
def AdmittedDuration (text : Option String) : Prop :=
  ∀ s, text = some s → ∃ d : Duration, s = d.text

/-- The API server admits the timeouts of every HTTPRoute. -/
def AdmittedTimeouts (cluster : Objects) : Prop :=
  ∀ route ∈ cluster.httproutes.values, ∀ rule ∈ route.spec.rules.getD [],
    ∀ timeouts, rule.timeouts = some timeouts →
      AdmittedDuration timeouts.request ∧ AdmittedDuration timeouts.backendRequest

/-- What is read of an admitted duration is finite. -/
theorem isFinite_parseDuration {text : Option String} (h : AdmittedDuration text) :
    (text.bind parseDuration).all F64.isFinite = true := by
  cases text with
  | none => rfl
  | some s =>
    obtain ⟨d, rfl⟩ := h s rfl
    rw [Option.bind_some]
    by_cases hsingle : ∃ c, d.components = [c] ∧ c.unit ≠ .ms
    · obtain ⟨c, hcomponents, hunit⟩ := hsingle
      rw [Duration.text, hcomponents, List.flatMap_singleton, parseDuration_component c hunit]
      rfl
    · rw [parseDuration_eq_none d hsingle]
      rfl

theorem finiteTimeouts_of_computed {cluster : Objects} {ns name : String} {c : GatewayConfig}
    (hadmitted : AdmittedTimeouts cluster) (h : ComputedFrom cluster ns name c) :
    c.finiteTimeouts = true := by
  obtain ⟨now, target, s, gateway, -, hfetch, -, rfl⟩ := h
  have hfragment := (fragment_fetchSnapshot hfetch).httproutes
  unfold GatewayConfig.finiteTimeouts
  rw [routes_buildGatewayConfig, List.all_map, List.all_eq_true]
  intro route hroute
  have hstored : route ∈ cluster.httproutes.values :=
    Store.mem_values.mpr (hfragment _ _ (Store.mem_values.mp (List.mem_filter.mp hroute).1))
  show ((route.spec.rules.getD []).map (convertRule _)).all RouteRule.isFinite = true
  rw [List.all_map, List.all_eq_true]
  intro rule hrule
  show (rule.timeouts.map convertTimeouts).all TimeoutConfig.isFinite = true
  cases htimeouts : rule.timeouts with
  | none => rfl
  | some timeouts =>
    obtain ⟨hrequest, hbackend⟩ := hadmitted route hstored rule hrule timeouts htimeouts
    rw [Option.map_some, Option.all_some]
    exact Bool.and_eq_true_iff.mpr
      ⟨isFinite_parseDuration hrequest, isFinite_parseDuration hbackend⟩

end Multiway.ControlPlane
