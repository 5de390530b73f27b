import Multiway.ControlPlane.Stale
import Multiway.ControlPlane.Sufficiency

/-!
# A Gateway's ConfigMap settles

Reconcilers of one Gateway may overlap, and each may lose its put to another.
While what they would compute stays the same, and nobody else writes the
ConfigMap, this does no harm: from the first put on that one of them has come
to, let through or refused, the stored ConfigMap has the data it should have
(`configmap_settles`). A put is only refused if somebody has written since its
get, and then that somebody has written the same.

The invariant is about gets (`Settling`): what a get has found is still there,
or the data is.
-/

namespace Multiway.ControlPlane

open Multiway.Lib
open Multiway.Kube
open SnapshotFetcher

/-! ## The ConfigMap a Gateway should have -/

def configmapKey (ns name : String) : String × String :=
  (ns, DataPlaneNames.configmapName ⟨ns, name⟩)

theorem configmapKey_inj {ns name ns' name' : String} :
    configmapKey ns name = configmapKey ns' name' ↔ ns = ns' ∧ name = name' := by
  unfold configmapKey
  rw [Prod.mk.injEq, configmapName_inj]

/-- What of a cluster shows in the snapshots fetched for Gateways. -/
def shownToGateways (cluster : Objects) : WorldSnapshot :=
  .full { cluster with secrets := ∅, referenceGrants := ∅ } 0

/-- The ConfigMap of the Gateway, if it is ready. -/
def desiredConfigmap (cluster : Objects) (ns name : String) : Option ConfigMap :=
  (readyGateway (shownToGateways cluster) ns name).map
    (gatewayConfigmap (shownToGateways cluster) ns name)

/-- Snapshots that show Gateways the same make the same configuration. -/
theorem buildGatewayConfig_shown (cluster : Objects) {ns name : String} {s : WorldSnapshot}
    (hsecrets : s.secrets = ∅)
    (hroutes : s.routesForGateway ns name = (shownToGateways cluster).routesForGateway ns name)
    {gateway : Gateway} (hname : nameAny gateway = name) :
    buildGatewayConfig gateway ns s = buildGatewayConfig gateway ns (shownToGateways cluster) := by
  refine buildGatewayConfig_congr ?_ fun _ _ ref _ => ?_
  · rw [hname, hroutes]
  · rw [resolveCertificateRef_of_no_secrets hsecrets,
      resolveCertificateRef_of_no_secrets (s := shownToGateways cluster) rfl]

theorem gatewayConfigmap_shown (cluster : Objects) {ns name : String} {s : WorldSnapshot}
    (hsecrets : s.secrets = ∅)
    (hroutes : s.routesForGateway ns name = (shownToGateways cluster).routesForGateway ns name)
    {gateway : Gateway} (hname : nameAny gateway = name) :
    gatewayConfigmap s ns name gateway =
      gatewayConfigmap (shownToGateways cluster) ns name gateway := by
  unfold gatewayConfigmap
  rw [buildGatewayConfig_shown cluster hsecrets hroutes hname]

/-- ConfigMaps are not what it depends on. -/
theorem desiredConfigmap_configmaps (cluster : Objects) (configmaps : Namespaced ConfigMap)
    (ns name : String) :
    desiredConfigmap { cluster with configmaps } ns name = desiredConfigmap cluster ns name := by
  have hready : readyGateway (shownToGateways { cluster with configmaps }) ns name =
      readyGateway (shownToGateways cluster) ns name := readyGateway_congr rfl fun _ _ => rfl
  unfold desiredConfigmap
  rw [hready]
  rcases hgateway : readyGateway (shownToGateways cluster) ns name with _ | gateway
  · rw [Option.map_none, Option.map_none]
  · have hname := nameAny_of_getGateway (getGateway_of_ready hgateway)
    rw [Option.map_some, Option.map_some, gatewayConfigmap_shown cluster
      (s := shownToGateways { cluster with configmaps }) rfl rfl hname]

/-- **What the Gateway's reconciler computes**, at any time. -/
theorem FetchedForGateway.configmapUpserts_eq {cluster : Objects} {now : Time} {ns name : String}
    {s : WorldSnapshot} (h : FetchedForGateway cluster now ns name s) (config : ControllerConfig) :
    (reconcileGateway s config ns name).configmapUpserts =
      (desiredConfigmap cluster ns name).toList := by
  have hready : readyGateway s ns name = readyGateway (shownToGateways cluster) ns name :=
    readyGateway_congr h.gateway fun gateway hget =>
      h.gatewayClass gateway (h.gateway.symm.trans hget)
  rw [configmapUpserts_reconcileGateway, hready]
  unfold desiredConfigmap
  rcases hgateway : readyGateway (shownToGateways cluster) ns name with _ | gateway
  · rw [Option.map_none, Option.map_none]
  · have hname := nameAny_of_getGateway (getGateway_of_ready hgateway)
    have hroutes : s.routesForGateway ns name =
        (shownToGateways cluster).routesForGateway ns name := by
      rw [h.routesForGateway_eq]
      rfl
    rw [Option.map_some, Option.map_some, gatewayConfigmap_shown cluster h.secrets hroutes hname]

/-- A reconciler of Gateways sends the Gateway's ConfigMap as desired. -/
theorem data_of_sent_gateway {cluster : Objects} {config : ControllerConfig} {now : Time}
    {ns name gatewayNs gatewayName : String} {result : ReconcileResult}
    (hreconcile : reconcile (.ofCluster cluster) config now (.gateway gatewayNs gatewayName) =
      .ok result) {configmap : ConfigMap} (hsent : configmap ∈ sentConfigmaps result)
    (hkey : objectKey configmap = configmapKey ns name) :
    (desiredConfigmap cluster ns name).map ConfigMap.data = some configmap.data := by
  obtain ⟨s, hs, hfetched⟩ := snapshotForGateway_spec cluster now gatewayNs gatewayName
  unfold reconcile at hreconcile
  dsimp only at hreconcile
  rw [hs] at hreconcile
  obtain rfl := Except.ok.inj hreconcile
  unfold sentConfigmaps at hsent
  rw [hfetched.configmapUpserts_eq config] at hsent
  obtain ⟨emitted, hemitted, hclean⟩ := List.mem_filterMap.mp hsent
  have hdesired := Option.mem_toList.mp hemitted
  obtain ⟨gateway, -, rfl⟩ := Option.map_eq_some_iff.mp hdesired
  obtain ⟨clean, hclean', hkey', hdata⟩ := cleanConfigmap_gatewayConfigmap
    (shownToGateways cluster) gatewayNs gatewayName gateway
  obtain rfl := Option.some.inj (hclean.symm.trans hclean')
  obtain ⟨rfl, rfl⟩ := configmapKey_inj.mp (hkey'.symm.trans hkey)
  rw [hdesired, Option.map_some, hdata]

/-- Reconciling a route that does not name the Gateway sends nothing for it. -/
theorem not_sent_of_not_referenced {cluster : Objects} {config : ControllerConfig} {now : Time}
    {ns name routeNs routeName : String} {result : ReconcileResult}
    (hreconcile : reconcile (.ofCluster cluster) config now (.httproute routeNs routeName) =
      .ok result) (hother : referencedBy cluster routeNs routeName ns name = false)
    {configmap : ConfigMap} (hsent : configmap ∈ sentConfigmaps result) :
    objectKey configmap ≠ configmapKey ns name := by
  unfold reconcile at hreconcile
  dsimp only at hreconcile
  intro hkey
  rcases hroute : cluster.httproutes.get? (routeNs, routeName) with _ | route
  · rcases hs : snapshotForHttproute (.ofCluster cluster) now routeNs routeName with e | s
    · rw [hs] at hreconcile
      cases hreconcile
    · rw [hs] at hreconcile
      obtain rfl := Except.ok.inj hreconcile
      have hnothing : sentConfigmaps (reconcileHttproute s config routeNs routeName) = [] :=
        sentConfigmaps_of_gone (s := ⟨cluster, 0, fun _ => none, fun _ => none⟩) hroute hs
      rw [hnothing] at hsent
      cases hsent
  · obtain ⟨s, hs, hfetched⟩ := snapshotForHttproute_spec now hroute
    rw [hs] at hreconcile
    obtain rfl := Except.ok.inj hreconcile
    obtain ⟨parentRef, href, hns, hname, -⟩ :=
      (mem_sentConfigmaps config (hfetched.getHttproute_eq hroute)).mp ⟨configmap, hsent, hkey, rfl⟩
    unfold referencedBy at hother
    rw [hroute, Option.any_some] at hother
    have hnamespace : namespaceOf route = routeNs := congrArg Prod.fst (Store.key_of_get? hroute)
    have hreferences := referencesGateway_of_mem href
    rw [hnamespace, hns, hname, hother] at hreferences
    cases hreferences

/-! ## Steady times -/

/-- The event leaves what the Gateway's ConfigMap should be as it is, and if it
is not one of its reconcilers', the ConfigMap too. -/
def Steady (ns name : String) (data : Option (BTreeMap Json)) (s : System) : Event → Prop
  | .edit objects => (desiredConfigmap objects ns name).map ConfigMap.data = some data
  | .patch _ objects => (desiredConfigmap objects ns name).map ConfigMap.data = some data
  | .editConfigmap configmap => objectKey configmap ≠ configmapKey ns name
  | .deleteConfigmap key => key ≠ configmapKey ns name
  | .fetch _ _ (.httproute routeNs routeName) =>
    referencedBy s.cluster routeNs routeName ns name = false
  | _ => True

/-- The ConfigMap is stored with the data. -/
def Holding (ns name : String) (data : Option (BTreeMap Json)) (s : System) : Prop :=
  ∃ configmap, s.cluster.configmaps.get? (configmapKey ns name) = some configmap ∧
    configmap.data = data

/-- What a job of the Gateway may rely on. -/
structure JobSettling (ns name : String) (data : Option (BTreeMap Json)) (s : System) (job : Job) :
    Prop where
  toWrite : ∀ configmap ∈ job.toWrite, objectKey configmap = configmapKey ns name →
    configmap.data = data
  reading : ∀ reading, job.reading = some reading →
    objectKey reading.configmap = configmapKey ns name →
      reading.existing = s.cluster.configmaps.get? (configmapKey ns name) ∨ Holding ns name data s

/-- The invariant of steady times. -/
structure Settling (ns name : String) (data : Option (BTreeMap Json)) (s : System) : Prop where
  desired : (desiredConfigmap s.cluster ns name).map ConfigMap.data = some data
  jobs : ∀ p job, s.jobs p = some job → JobSettling ns name data s job

section
variable {config : ControllerConfig} {ns name : String} {data : Option (BTreeMap Json)}
  {s t : System}

theorem desired_configmaps {cluster : Objects}
    (h : (desiredConfigmap cluster ns name).map ConfigMap.data = some data)
    (configmaps : Namespaced ConfigMap) :
    (desiredConfigmap { cluster with configmaps } ns name).map ConfigMap.data = some data := by
  rw [desiredConfigmap_configmaps, h]

/-- Nobody has touched the ConfigMap. -/
theorem JobSettling.frame {job : Job} (h : JobSettling ns name data s job)
    (hsame : t.cluster.configmaps.get? (configmapKey ns name) =
      s.cluster.configmaps.get? (configmapKey ns name)) : JobSettling ns name data t job where
  toWrite := h.toWrite
  reading reading hreading hkey := by
    unfold Holding
    rw [hsame]
    exact h.reading reading hreading hkey

theorem JobSettling.of_holding {job : Job} (h : JobSettling ns name data s job)
    (hholding : Holding ns name data t) : JobSettling ns name data t job where
  toWrite := h.toWrite
  reading _ _ _ := .inr hholding

/-- Nothing is on its way yet. -/
theorem Settling.of_fresh (hdesired : (desiredConfigmap s.cluster ns name).map ConfigMap.data =
      some data)
    (hfresh : ∀ p job, s.jobs p = some job → ∀ configmap ∈ job.toWrite,
      objectKey configmap ≠ configmapKey ns name) : Settling ns name data s := by
  refine ⟨hdesired, fun p job hjob => ⟨fun cm hmem hkey => ?_, fun reading hreading hkey => ?_⟩⟩
  · exact absurd hkey (hfresh p job hjob cm hmem)
  · refine absurd hkey (hfresh p job hjob reading.configmap ?_)
    unfold Job.toWrite
    rw [hreading]
    exact List.mem_cons_self

theorem Settling.setJob (h : Settling ns name data s) (p : ℕ) {job : Option Job}
    (hjob : ∀ j, job = some j → JobSettling ns name data s j) :
    Settling ns name data (s.setJob p job) where
  desired := h.desired
  jobs q j hj := by
    by_cases hq : q = p
    · subst hq
      exact (hjob j (by simpa [System.setJob] using hj)).frame rfl
    · have hold := h.jobs q j (by simpa [System.setJob, Function.update_of_ne hq] using hj)
      exact hold.frame rfl

theorem Settling.setObjects (h : Settling ns name data s) {objects : Objects}
    (hdesired : (desiredConfigmap objects ns name).map ConfigMap.data = some data) :
    Settling ns name data (s.setObjects objects) where
  desired := desired_configmaps hdesired s.cluster.configmaps
  jobs p job hjob := (h.jobs p job hjob).frame rfl

/-- A write under another key. -/
theorem Settling.write_of_ne (h : Settling ns name data s) {configmap : ConfigMap}
    (origin : Option Origin) (hne : objectKey configmap ≠ configmapKey ns name) :
    Settling ns name data (s.write configmap origin) where
  desired := desired_configmaps h.desired _
  jobs p job hjob := (h.jobs p job hjob).frame (Store.get?_insert_of_ne _ hne)

theorem holding_write {configmap : ConfigMap} (origin : Option Origin)
    (hkey : objectKey configmap = configmapKey ns name) (hdata : configmap.data = data) :
    Holding ns name data (s.write configmap origin) :=
  ⟨_, Store.get?_insert_of_eq _ hkey, hdata⟩

theorem Holding.setJob (h : Holding ns name data s) (p : ℕ) (job : Option Job) :
    Holding ns name data (s.setJob p job) := h

/-- A write by one of the Gateway's reconcilers. -/
theorem Settling.write (h : Settling ns name data s) {configmap : ConfigMap}
    (origin : Option Origin)
    (hdata : objectKey configmap = configmapKey ns name → configmap.data = data) :
    Settling ns name data (s.write configmap origin) := by
  by_cases hkey : objectKey configmap = configmapKey ns name
  · exact ⟨desired_configmaps h.desired _, fun p job hjob =>
      (h.jobs p job hjob).of_holding (holding_write origin hkey (hdata hkey))⟩
  · exact h.write_of_ne origin hkey

theorem Settling.erase (h : Settling ns name data s) {key : String × String}
    (hne : key ≠ configmapKey ns name) : Settling ns name data (s.erase key) where
  desired := desired_configmaps h.desired _
  jobs p job hjob := (h.jobs p job hjob).frame (Store.get?_erase_of_ne _ hne)

/-- **One step.** -/
theorem Settling.step {event : Event} (h : Settling ns name data s)
    (hsteady : Steady ns name data s event) (hstep : ControlPlane.step config s event = some t) :
    Settling ns name data t := by
  cases transition_of_step hstep with
  | edit => exact h.setObjects hsteady
  | editConfigmap => exact h.write_of_ne none hsteady
  | deleteConfigmap => exact h.erase hsteady
  | @fetch p now target result hidle hreconcile =>
    refine h.setJob p fun j hj => ?_
    obtain rfl := Option.some.inj hj
    refine ⟨fun configmap hmem hkey => ?_, fun _ hreading => by cases hreading⟩
    rw [Job.toWrite_none, configmaps_effectsOf] at hmem
    -- a reconciler of routes sends for the Gateway only if its route names it
    cases target with
    | gateway gatewayNs gatewayName =>
      have hdata := data_of_sent_gateway hreconcile hmem hkey
      exact (Option.some.inj (h.desired.symm.trans hdata)).symm
    | httproute routeNs routeName =>
      exact absurd hkey (not_sent_of_not_referenced hreconcile hsteady hmem)
  | @patch p objects fetchedAt effect pending hjob hother =>
    have hold := h.jobs p _ hjob
    refine (h.setObjects hsteady).setJob p fun j hj => ?_
    obtain rfl := Option.some.inj hj
    refine ⟨fun configmap hmem => hold.toWrite configmap ?_, fun _ hreading => by cases hreading⟩
    rw [Job.toWrite_none] at hmem ⊢
    rwa [List.filterMap_cons_none (Effect.configmap?_eq_none hother)]
  | @get p fetchedAt configmap clean pending hjob hclean =>
    have hold := h.jobs p _ hjob
    have hsome : Effect.configmap? (.upsert (.configMap configmap)) = some clean := hclean
    refine h.setJob p fun j hj => ?_
    obtain rfl := Option.some.inj hj
    refine ⟨fun cm hmem => hold.toWrite cm ?_, fun reading hreading hkey => ?_⟩
    · rw [Job.toWrite_none, List.filterMap_cons_some hsome]
      exact hmem
    -- what is found now is there now
    · obtain rfl := Option.some.inj hreading
      exact .inl (congrArg s.cluster.configmaps.get? hkey)
  -- who is let through writes what is desired, and who is not has been overtaken
  | @put p fetchedAt pending reading hjob =>
    have hold := h.jobs p _ hjob
    have hdata := hold.toWrite reading.configmap List.mem_cons_self
    refine (h.write _ hdata).setJob p fun j hj => ?_
    obtain rfl := Option.some.inj hj
    exact ⟨fun cm hmem => hold.toWrite cm (List.mem_cons_of_mem _ hmem),
      fun _ hreading => by cases hreading⟩
  | conflict => exact h.setJob _ fun _ hj => by cases hj
  | stop => exact h.setJob _ fun _ hj => by cases hj

/-- **No step takes the data away.** -/
theorem Holding.step {event : Event} (hholding : Holding ns name data s)
    (h : Settling ns name data s) (hsteady : Steady ns name data s event)
    (hstep : ControlPlane.step config s event = some t) : Holding ns name data t := by
  obtain ⟨configmap, hget, hdata⟩ := hholding
  have hsame : ∀ cm : ConfigMap, objectKey cm ≠ configmapKey ns name →
      ∀ origin, Holding ns name data (s.write cm origin) := by
    intro cm hne origin
    refine ⟨configmap, Eq.trans (Store.get?_insert_of_ne _ ?_) hget, hdata⟩
    exact hne
  cases transition_of_step hstep with
  | editConfigmap => exact hsame _ hsteady none
  | deleteConfigmap => exact ⟨configmap, (Store.get?_erase_of_ne _ hsteady).trans hget, hdata⟩
  | @put p fetchedAt pending reading hjob =>
    have hwrites := (h.jobs p _ hjob).toWrite reading.configmap List.mem_cons_self
    by_cases hkey : objectKey reading.configmap = configmapKey ns name
    · exact (holding_write _ hkey (hwrites hkey)).setJob p _
    · exact (hsame _ hkey _).setJob p _
  | _ => exact ⟨configmap, hget, hdata⟩

/-- **A put brings the data about**, whether it is let through or refused. -/
theorem holding_of_put (h : Settling ns name data s) {p : ℕ} {job : Job} {reading : Reading}
    (hjob : s.jobs p = some job) (hreading : job.reading = some reading)
    (hkey : objectKey reading.configmap = configmapKey ns name)
    (hput : ControlPlane.step config s (.put p) = some t) : Holding ns name data t := by
  have hsettling := h.jobs p job hjob
  cases transition_of_step hput with
  | @put _ fetchedAt pending reading' hjob' =>
    obtain rfl := Option.some.inj (hjob.symm.trans hjob')
    obtain rfl := Option.some.inj hreading
    exact (holding_write _ hkey (hsettling.toWrite _ List.mem_cons_self hkey)).setJob p _
  | @conflict _ fetchedAt pending reading' hjob' hadmits =>
    obtain rfl := Option.some.inj (hjob.symm.trans hjob')
    obtain rfl := Option.some.inj hreading
    obtain hfound | hholding := hsettling.reading _ rfl hkey
    · rw [← hkey] at hfound
      rw [admits_of_found hfound] at hadmits
      cases hadmits
    · exact hholding

/-- **The ConfigMap settles.** From a state in which no job under way has the
Gateway's ConfigMap left to write, in steady times: once any reconciler has come to its
put, the ConfigMap has the data it should have, and keeps it. -/
theorem configmap_settles {u v : System} {events events' : List Event}
    (hdesired : (desiredConfigmap s.cluster ns name).map ConfigMap.data = some data)
    (hfresh : ∀ p job, s.jobs p = some job → ∀ configmap ∈ job.toWrite,
      objectKey configmap ≠ configmapKey ns name)
    (hbefore : Run (Guarded (Steady ns name data) (stepOf (step config))) s events u)
    {p : ℕ} {job : Job} {reading : Reading} (hjob : u.jobs p = some job)
    (hreading : job.reading = some reading)
    (hkey : objectKey reading.configmap = configmapKey ns name)
    (hput : step config u (.put p) = some v)
    (hafter : Run (Guarded (Steady ns name data) (stepOf (step config))) v events' t) :
    Holding ns name data t := by
  have hstart : Settling ns name data s := .of_fresh hdesired hfresh
  have hu := hbefore.invariant (P := Settling ns name data)
    (fun _ _ _ hstep h => h.step hstep.1 hstep.2) hstart
  have hsteady : Steady ns name data u (.put p) := trivial
  have hv := hu.step hsteady hput
  exact (hafter.invariant (P := fun s => Settling ns name data s ∧ Holding ns name data s)
    (fun _ _ _ hstep h => ⟨h.1.step hstep.1 hstep.2, h.2.step h.1 hstep.1 hstep.2⟩)
    ⟨hv, holding_of_put hu hjob hreading hkey hput⟩).2

end

/-- Two reconcilers of the Gateway: the second stores the ConfigMap, the first
comes too late. -/
def overtaken : List Event :=
  [.fetch 0 0 (.gateway "default" "gw"), .patch 0 routed, .get 0,
    .fetch 1 0 (.gateway "default" "gw"), .patch 1 routed, .get 1, .put 1]

theorem overtaken_settles :
    ∃ u v, execAll (step {}) (.start routed) overtaken = some u ∧ step {} u (.put 0) = some v ∧
      v.jobs 0 = none ∧ ∃ data, (desiredConfigmap routed "default" "gw").map ConfigMap.data =
        some data ∧ Holding "default" "gw" data v := by
  have hrun : ((execAll (step {}) (.start routed) overtaken).any fun u =>
      (u.jobs 0).any fun job => job.reading.any fun reading =>
        (objectKey reading.configmap == configmapKey "default" "gw") &&
          (step {} u (.put 0)).any fun v => (v.jobs 0).isNone) = true := rfl
  simp only [Option.any_eq_true, Bool.and_eq_true, beq_iff_eq, Option.isNone_iff_eq_none] at hrun
  obtain ⟨u, hexec, job, hjob, reading, hreading, hkey, v, hput, hrefused⟩ := hrun
  have hready : ((desiredConfigmap routed "default" "gw").map ConfigMap.data).isSome = true := rfl
  obtain ⟨data, hdesired⟩ := Option.isSome_iff_exists.mp hready
  have hbefore : Run (Guarded (Steady "default" "gw" data) (stepOf (step {}))) (.start routed)
      overtaken u := by
    refine Run.guarded_of_execAll hexec fun event hevent s => ?_
    simp only [overtaken, List.mem_cons, List.not_mem_nil, or_false] at hevent
    rcases hevent with rfl | rfl | rfl | rfl | rfl | rfl | rfl
    · trivial
    · exact hdesired
    · trivial
    · trivial
    · exact hdesired
    · trivial
    · trivial
  refine ⟨u, v, hexec, hput, hrefused, data, hdesired, ?_⟩
  exact configmap_settles (s := .start routed) hdesired (fun p job hjob => by cases hjob) hbefore
    hjob hreading hkey hput (.nil v)

end Multiway.ControlPlane
