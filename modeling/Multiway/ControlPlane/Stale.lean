import Multiway.ControlPlane.Attachment
import Multiway.ControlPlane.Executor
import Multiway.ControlPlane.FetchedRoute
import Multiway.ControlPlane.Sufficiency

/-!
# Routes left behind

An HTTPRoute is edited, its reconciler runs and its result is carried out with
nobody else writing (`Executed`). What this leaves in the ConfigMaps is said
per Gateway: where the route is accepted the ConfigMap is written anew and
holds the route, and every other ConfigMap is the one that was there before
(`holdsRoute_of_executed`). Nothing ever takes a route out.
-/

namespace Multiway.ControlPlane

open Multiway.Lib
open Multiway.Kube
open SnapshotFetcher

/-! ## One reconciliation, carried out -/

/-- The ConfigMap an effect is going to write. -/
def Effect.configmap? : Effect → Option ConfigMap
  | .upsert (.configMap configmap) => cleanConfigmap configmap
  | _ => none

theorem Effect.configmap?_eq_none {effect : Effect}
    (h : ∀ configmap, effect ≠ .upsert (.configMap configmap)) : effect.configmap? = none := by
  unfold Effect.configmap?
  split
  next configmap => exact absurd rfl (h configmap)
  next => rfl

/-- What a job has still to write, what it is about to put first. -/
def Job.toWrite (job : Job) : List ConfigMap :=
  (job.reading.map Reading.configmap).toList ++ job.pending.filterMap Effect.configmap?

@[simp] theorem Job.toWrite_none (fetchedAt : ℕ) (pending : List Effect) :
    Job.toWrite { fetchedAt, pending } = pending.filterMap Effect.configmap? := rfl

@[simp] theorem Job.toWrite_some (fetchedAt : ℕ) (pending : List Effect) (reading : Reading) :
    Job.toWrite { fetchedAt, pending, reading := some reading } =
      reading.configmap :: pending.filterMap Effect.configmap? := rfl

/-- A ConfigMap is stored with the data of one of those listed under its key. -/
def Written (emitted : List ConfigMap) (store : Namespaced ConfigMap) (key : String × String) :
    Prop :=
  ∃ configmap ∈ emitted, objectKey configmap = key ∧
    ∃ stored, store.get? key = some stored ∧ stored.data = configmap.data

/-- Job `p` is under way to write the ConfigMaps listed, from `store` on, and
nobody else is writing. -/
structure Executing (store : Namespaced ConfigMap) (emitted : List ConfigMap) (p : ℕ) (s : System)
    (job : Job) : Prop where
  running : s.jobs p = some job
  found : ∀ reading, job.reading = some reading →
    reading.existing = s.cluster.configmaps.get? (objectKey reading.configmap)
  pending : ∀ configmap ∈ job.toWrite, configmap ∈ emitted
  written : ∀ configmap ∈ emitted,
    configmap ∈ job.toWrite ∨ Written emitted s.cluster.configmaps (objectKey configmap)
  untouched : ∀ key, (∀ configmap ∈ emitted, objectKey configmap ≠ key) →
    s.cluster.configmaps.get? key = store.get? key

/-- The calls of job `p` that carry its effects out. -/
def isCallOf (p : ℕ) : Event → Prop
  | .patch q _ | .get q | .put q => q = p
  | _ => False

/-- A put is let through when what its get found is still there. -/
theorem admits_of_found {s : System} {reading : Reading}
    (h : reading.existing = s.cluster.configmaps.get? (objectKey reading.configmap)) :
    s.admits reading = true := by
  unfold System.admits
  rw [h]
  rcases s.cluster.configmaps.get? (objectKey reading.configmap) with _ | stored
  · rfl
  · exact beq_self_eq_true _

section
variable {config : ControllerConfig} {store : Namespaced ConfigMap} {emitted : List ConfigMap}
  {p : ℕ} {s t : System} {job : Job}

/-- Writing one of the ConfigMaps. -/
theorem Written.insert {key : String × String} {configmap : ConfigMap} {version : Option String}
    (hmem : configmap ∈ emitted) (h : key = objectKey configmap ∨ Written emitted store key) :
    Written emitted (store.insert (withResourceVersion configmap version)) key := by
  have hkeyed : objectKey (withResourceVersion configmap version) = objectKey configmap := rfl
  by_cases hkey : objectKey configmap = key
  · exact ⟨configmap, hmem, hkey, _, Store.get?_insert_of_eq _ (hkeyed.trans hkey), rfl⟩
  · rcases h with hsame | hwritten
    · exact absurd hsame.symm hkey
    · obtain ⟨cm, hcm, hcmKey, stored, hstored, hdata⟩ := hwritten
      exact ⟨cm, hcm, hcmKey, stored,
        (Store.get?_insert_of_ne _ (hkeyed ▸ hkey)).trans hstored, hdata⟩

/-- **One call.** -/
theorem Executing.step {event : Event} (h : Executing store emitted p s job)
    (hcall : isCallOf p event) (hstep : ControlPlane.step config s event = some t) :
    ∃ job, Executing store emitted p t job := by
  obtain ⟨hrunning, hfound, hpending, hwritten, huntouched⟩ := h
  cases transition_of_step hstep with
  | @patch q objects fetchedAt effect pending hjob hother =>
    obtain rfl : q = p := hcall
    obtain rfl := Option.some.inj (hrunning.symm.trans hjob)
    have hnone : effect.configmap? = none := Effect.configmap?_eq_none hother
    rw [Job.toWrite_none, List.filterMap_cons_none hnone] at hpending hwritten
    exact ⟨{ fetchedAt, pending }, Function.update_self _ _ _,
      fun _ hreading => (Option.some_ne_none _ hreading.symm).elim, hpending, hwritten,
      huntouched⟩
  | @get q fetchedAt configmap clean pending hjob hclean =>
    obtain rfl : q = p := hcall
    obtain rfl := Option.some.inj (hrunning.symm.trans hjob)
    have hsome : Effect.configmap? (.upsert (.configMap configmap)) = some clean := hclean
    -- what was pending is now about to be put
    rw [Job.toWrite_none, List.filterMap_cons_some hsome] at hpending hwritten
    refine ⟨{ fetchedAt, pending, reading := some ⟨clean, _, s.revision⟩ },
      Function.update_self _ _ _, ?_, hpending, hwritten, huntouched⟩
    intro reading hreading
    obtain rfl := Option.some.inj hreading
    rfl
  | @put q fetchedAt pending reading hjob =>
    obtain rfl : q = p := hcall
    obtain rfl := Option.some.inj (hrunning.symm.trans hjob)
    rw [Job.toWrite_some] at hpending hwritten
    have hmem : reading.configmap ∈ emitted := hpending _ List.mem_cons_self
    refine ⟨{ fetchedAt, pending }, Function.update_self _ _ _,
      fun _ hreading => (Option.some_ne_none _ hreading.symm).elim,
      fun configmap hcm => hpending _ (List.mem_cons_of_mem _ hcm),
      fun configmap hcm => ?_, fun key hkey => ?_⟩
    · rcases hwritten configmap hcm with hto | hdone
      · rcases List.mem_cons.mp hto with rfl | hrest
        · exact .inr (.insert hmem (.inl rfl))
        · exact .inl hrest
      · exact .inr (.insert hmem (.inr hdone))
    · rw [← huntouched key hkey]
      have hother : objectKey reading.configmap ≠ key := hkey _ hmem
      exact Store.get?_insert_of_ne _ hother
  | @conflict q fetchedAt pending reading hjob hadmits =>
    obtain rfl : q = p := hcall
    obtain rfl := Option.some.inj (hrunning.symm.trans hjob)
    -- nobody else has touched what the get found
    rw [admits_of_found (hfound reading rfl)] at hadmits
    cases hadmits
  | edit | editConfigmap | deleteConfigmap | fetch | stop => exact hcall.elim

/-- **A run of calls.** -/
theorem Executing.of_run {events : List Event}
    (hrun : Run (stepOf (ControlPlane.step config)) s events t)
    (hcalls : ∀ event ∈ events, isCallOf p event) (h : Executing store emitted p s job) :
    ∃ job, Executing store emitted p t job := by
  induction hrun generalizing job with
  | nil => exact ⟨job, h⟩
  | cons hstep _ ih =>
    obtain ⟨hcall, hrest⟩ := List.forall_mem_cons.mp hcalls
    obtain ⟨job', h'⟩ := h.step hcall hstep
    exact ih hrest h'

/-- A job that has nothing left to do has written everything. -/
theorem Executing.done {fetchedAt : ℕ}
    (h : Executing store emitted p s job) (hjob : job = { fetchedAt, pending := [] }) :
    ∀ configmap ∈ emitted, Written emitted s.cluster.configmaps (objectKey configmap) := by
  intro configmap hmem
  rcases h.written configmap hmem with hleft | hwritten
  · rw [hjob] at hleft
    cases hleft
  · exact hwritten

end

/-- The reconciler of an HTTPRoute runs from `s` to its end in `t`, with no one
else at work: job `p` fetches, and every further call is one of its own. -/
structure Executed (config : ControllerConfig) (now : Time) (ns name : String) (s t : System)
    (p : ℕ) (events : List Event) : Prop where
  run : Run (stepOf (step config)) s (.fetch p now (.httproute ns name) :: events) t
  calls : ∀ event ∈ events, isCallOf p event
  done : ∃ fetchedAt, t.jobs p = some { fetchedAt, pending := [] }

section
variable {config : ControllerConfig} {now : Time} {ns name : String} {s t : System} {p : ℕ}
  {events : List Event}

/-- The ConfigMaps of a result as they are sent. -/
def sentConfigmaps (result : ReconcileResult) : List ConfigMap :=
  result.configmapUpserts.filterMap cleanConfigmap

theorem configmaps_effectsOf (result : ReconcileResult) :
    (effectsOf result).filterMap Effect.configmap? = sentConfigmaps result := by
  unfold effectsOf sentConfigmaps ReconcileResult.configmapUpserts
  rw [List.filterMap_append, List.filterMap_map, List.filterMap_map, List.filterMap_filterMap]
  have hstatus : result.statusUpdates.filterMap (Effect.configmap? ∘ Effect.status) = [] :=
    List.filterMap_eq_nil_iff.mpr fun _ _ => rfl
  rw [hstatus, List.nil_append]
  refine List.filterMap_congr fun u _ => ?_
  cases u <;> rfl

/-- **What a reconciliation leaves.** The ConfigMaps it emits are stored with
their data, and all others are as they were. -/
theorem Executed.stores (h : Executed config now ns name s t p events) :
    ∃ snapshot, snapshotForHttproute (.ofCluster s.cluster) now ns name = .ok snapshot ∧
      (∀ configmap ∈ sentConfigmaps (reconcileHttproute snapshot config ns name),
        Written (sentConfigmaps (reconcileHttproute snapshot config ns name))
          t.cluster.configmaps (objectKey configmap)) ∧
      ∀ key, (∀ configmap ∈ sentConfigmaps (reconcileHttproute snapshot config ns name),
          objectKey configmap ≠ key) →
        t.cluster.configmaps.get? key = s.cluster.configmaps.get? key := by
  obtain ⟨hrun, hcalls, fetchedAt, hdone⟩ := h
  cases hrun with
  | cons hfetch hrest =>
    cases transition_of_step hfetch with
    | fetch hidle hreconcile =>
      rcases hsnapshot : snapshotForHttproute (.ofCluster s.cluster) now ns name
        with error | snapshot
      · rw [reconcile, hsnapshot] at hreconcile
        cases hreconcile
      · rw [reconcile, hsnapshot] at hreconcile
        obtain rfl := Except.ok.inj hreconcile
        have hwrites : ∀ result : ReconcileResult,
            Job.toWrite { fetchedAt := s.revision, pending := effectsOf result } =
              sentConfigmaps result := configmaps_effectsOf
        have hstart : Executing s.cluster.configmaps
            (sentConfigmaps (reconcileHttproute snapshot config ns name)) p (s.setJob p (some
              { fetchedAt := s.revision
                pending := effectsOf (reconcileHttproute snapshot config ns name) }))
            { fetchedAt := s.revision
              pending := effectsOf (reconcileHttproute snapshot config ns name) } :=
          ⟨Function.update_self _ _ _,
            fun _ hreading => (Option.some_ne_none _ hreading.symm).elim,
            fun _ hcm => hwrites _ ▸ hcm, fun _ hcm => .inl ((hwrites _).symm ▸ hcm),
            fun _ _ => rfl⟩
        obtain ⟨job, hend⟩ := hstart.of_run hrest hcalls
        have hjob := Option.some.inj (hend.running.symm.trans hdone)
        exact ⟨snapshot, rfl, hend.done hjob, hend.untouched⟩

end

/-! ## Routes in a stored ConfigMap -/

/-- The configuration lists a route under this namespace and name. -/
def listsRoute (ns name : String) (doc : Json) : Bool :=
  ((doc.field? "routes").getD .null).elems.any fun route =>
    match route.field? "namespace", route.field? "name" with
    | some (.str routeNs), some (.str routeName) => routeNs == ns && routeName == name
    | _, _ => false

/-- A Gateway's stored ConfigMap lists the route. -/
def holdsRoute (store : Namespaced ConfigMap) (gatewayNs gatewayName ns name : String) : Bool :=
  ((store.get? (gatewayNs, DataPlaneNames.configmapName ⟨gatewayNs, gatewayName⟩)).bind
    fun configmap => (configmap.data.getD ∅)[configKey]?).any (listsRoute ns name)

theorem listsRoute_toJson (ns name : String) (c : GatewayConfig) :
    listsRoute ns name c.toJson = true ↔ (ns, name) ∈ c.routes.map RouteConfig.routeKey := by
  show (c.routes.map RouteConfig.toJson).any _ = true ↔ _
  rw [List.any_map, List.any_eq_true, List.mem_map]
  refine exists_congr fun route => and_congr_right fun _ => ?_
  show (route.namespace == ns && route.name == name) = true ↔ _
  rw [Bool.and_eq_true, beq_iff_eq, beq_iff_eq, RouteConfig.routeKey, Prod.mk.injEq]

/-- The HTTPRoute names the Gateway as a parent. -/
def referencedBy (cluster : Objects) (ns name gatewayNs gatewayName : String) : Bool :=
  (cluster.httproutes.get? (ns, name)).any (referencesGateway gatewayNs gatewayName)

/-- The HTTPRoute has a parentRef to the Gateway that is accepted. -/
def routeAccepted (cluster : Objects) (now : Time) (ns name gatewayNs gatewayName : String) :
    Bool :=
  (cluster.httproutes.get? (ns, name)).any
    (acceptedBy (.full cluster now) gatewayNs gatewayName)

/-! ## What the reconciler sends -/

section
variable {config : ControllerConfig} {now : Time} {ns name gatewayNs gatewayName : String}
  {s t : System} {snapshot : WorldSnapshot} {route : HTTPRoute} {p : ℕ} {events : List Event}

/-- What is sent of a Gateway's ConfigMap. -/
theorem cleanConfigmap_gatewayConfigmap (snapshot : WorldSnapshot) (ns name : String)
    (gateway : Gateway) :
    ∃ clean, cleanConfigmap (gatewayConfigmap snapshot ns name gateway) = some clean ∧
      objectKey clean = (ns, DataPlaneNames.configmapName ⟨ns, name⟩) ∧
      clean.data = (gatewayConfigmap snapshot ns name gateway).data :=
  ⟨_, rfl, rfl, rfl⟩

variable (config) in
/-- Under a Gateway's key there is one ConfigMap for each accepted reference. -/
theorem mem_sentConfigmaps (hroute : snapshot.getHttproute ns name = some route)
    {data : Option (BTreeMap Json)} :
    (∃ configmap ∈ sentConfigmaps (reconcileHttproute snapshot config ns name),
        objectKey configmap = (gatewayNs, DataPlaneNames.configmapName ⟨gatewayNs, gatewayName⟩) ∧
          configmap.data = data) ↔
      ∃ parentRef ∈ route.spec.parentRefs.getD [],
        parentRef.namespace.getD ns = gatewayNs ∧ parentRef.name = gatewayName ∧
          ∃ gateway, Accepts snapshot route parentRef ns gateway ∧
            (gatewayConfigmap snapshot gatewayNs gatewayName gateway).data = data := by
  unfold sentConfigmaps
  rw [configmapUpserts_reconcileHttproute hroute]
  constructor
  · intro hsent
    obtain ⟨configmap, hmem, hkey, rfl⟩ := hsent
    obtain ⟨emitted, hemitted, hclean⟩ := List.mem_filterMap.mp hmem
    obtain ⟨parentRef, href, hparent⟩ := List.mem_filterMap.mp hemitted
    obtain ⟨gateway, haccepts, rfl⟩ := parentConfigmap_eq_some_iff.mp hparent
    obtain ⟨clean, hclean', hkey', hdata⟩ := cleanConfigmap_gatewayConfigmap snapshot
      (parentRef.namespace.getD ns) parentRef.name gateway
    obtain rfl := Option.some.inj (hclean.symm.trans hclean')
    obtain ⟨rfl, hname⟩ := Prod.mk.inj (hkey'.symm.trans hkey)
    obtain rfl := configmapName_inj.mp hname
    exact ⟨parentRef, href, rfl, rfl, gateway, haccepts, hdata.symm⟩
  · intro haccepted
    obtain ⟨parentRef, href, rfl, rfl, gateway, haccepts, rfl⟩ := haccepted
    obtain ⟨clean, hclean, hkey, hdata⟩ := cleanConfigmap_gatewayConfigmap snapshot
      (parentRef.namespace.getD ns) parentRef.name gateway
    exact ⟨clean, List.mem_filterMap.mpr ⟨_, List.mem_filterMap.mpr
      ⟨parentRef, href, parentConfigmap_eq_some_iff.mpr ⟨gateway, haccepts, rfl⟩⟩, hclean⟩,
      hkey, hdata⟩

/-- The configuration sent for a Gateway lists the route that was fetched. -/
theorem listsRoute_gatewayConfigmap {cluster : Objects}
    (hroute : cluster.httproutes.get? (ns, name) = some route)
    (hfetched : FetchedForHttproute cluster now route snapshot)
    {parentRef : HttpRouteParentRefs} (href : parentRef ∈ route.spec.parentRefs.getD [])
    {gateway : Gateway} (haccepts : Accepts snapshot route parentRef ns gateway) :
    ((((gatewayConfigmap snapshot (parentRef.namespace.getD ns) parentRef.name gateway).data).getD
      ∅)[configKey]?).any (listsRoute ns name) = true := by
  have hkey : objectKey route = (ns, name) := Store.key_of_get? hroute
  have hnamespace : namespaceOf route = ns := congrArg Prod.fst hkey
  have hnames : referencesGateway (parentRef.namespace.getD ns) parentRef.name route = true := by
    rw [← hnamespace]
    exact referencesGateway_of_mem href
  have hdoc : ((gatewayConfigmap snapshot (parentRef.namespace.getD ns) parentRef.name
      gateway).data.getD ∅)[configKey]? =
      some (buildGatewayConfig gateway (parentRef.namespace.getD ns) snapshot).1.toJson :=
    Std.ExtTreeMap.getElem?_insert_self
  rw [hdoc, Option.any_some, listsRoute_toJson, routeKeys_buildGatewayConfig,
    nameAny_of_getGateway haccepts.found, hfetched.routesForGateway_eq,
    List.filter_cons_of_pos hnames, ← hkey]
  exact List.mem_cons_self

/-- A route is accepted in the cluster when it is accepted on the fetched
snapshot. -/
theorem ValidatesFor.acceptedBy_iff {cluster : Objects}
    (h : ValidatesFor cluster ns route snapshot) (now : Time) (hnamespace : namespaceOf route = ns)
    (gatewayNs gatewayName : String) :
    acceptedBy (.full cluster now) gatewayNs gatewayName route = true ↔
      ∃ parentRef ∈ route.spec.parentRefs.getD [],
        parentRef.namespace.getD ns = gatewayNs ∧ parentRef.name = gatewayName ∧
          ∃ gateway, Accepts snapshot route parentRef ns gateway := by
  unfold acceptedBy parentRefsTo
  rw [List.any_eq_true, hnamespace]
  constructor
  · intro hany
    obtain ⟨parentRef, hmem, hok⟩ := hany
    obtain ⟨href, hnames⟩ := List.mem_filter.mp hmem
    rw [← h.validateParentRef_eq now href] at hok
    simp only [namesGateway, Bool.and_eq_true, beq_iff_eq] at hnames
    exact ⟨parentRef, href, hnames.1, hnames.2, accepts_of_accepted hok⟩
  · intro haccepted
    obtain ⟨parentRef, href, hns, hname, hok⟩ := haccepted
    refine ⟨parentRef, List.mem_filter.mpr ⟨href, ?_⟩, ?_⟩
    · simp only [namesGateway, Bool.and_eq_true, beq_iff_eq]
      exact ⟨hns, hname⟩
    · rw [← h.validateParentRef_eq now href]
      exact accepted_iff.mpr hok

/-- A route that is gone has nothing sent for it. -/
theorem sentConfigmaps_of_gone (hroute : s.cluster.httproutes.get? (ns, name) = none)
    (hsnapshot : snapshotForHttproute (.ofCluster s.cluster) now ns name = .ok snapshot) :
    sentConfigmaps (reconcileHttproute snapshot config ns name) = [] := by
  have hread : orNotFound ((Client.ofCluster s.cluster).httproutes.get (ns, name)) = .ok none := by
    rw [← hroute]
    exact orNotFound_ofStore
  unfold snapshotForHttproute at hsnapshot
  rw [hread] at hsnapshot
  have hgrants := (Except.ok.inj hsnapshot).symm.trans
    (fetchGrants_eq ns s.cluster.referenceGrants.values (.new now))
  have hgone : snapshot.getHttproute ns name = none :=
    (congrArg (WorldSnapshot.getHttproute · ns name) hgrants).trans (Store.get?_empty _)
  unfold reconcileHttproute
  rw [hgone]
  rfl

/-- **Which Gateways hold the route afterwards.** Those that accept it now, and
those that held it before. -/
theorem holdsRoute_of_executed (h : Executed config now ns name s t p events)
    (gatewayNs gatewayName : String) :
    holdsRoute t.cluster.configmaps gatewayNs gatewayName ns name =
      (routeAccepted s.cluster now ns name gatewayNs gatewayName ||
        holdsRoute s.cluster.configmaps gatewayNs gatewayName ns name) := by
  obtain ⟨snapshot, hsnapshot, hwritten, huntouched⟩ := h.stores
  rcases hroute : s.cluster.httproutes.get? (ns, name) with _ | route
  · rw [sentConfigmaps_of_gone hroute hsnapshot] at huntouched
    unfold routeAccepted holdsRoute
    rw [hroute, huntouched _ fun _ hmem => absurd hmem List.not_mem_nil]
    rfl
  · obtain ⟨snapshot', hsnapshot', hfetched⟩ := snapshotForHttproute_spec now hroute
    obtain rfl := Except.ok.inj (hsnapshot'.symm.trans hsnapshot)
    have hvalidates := validatesFor_snapshotForHttproute hroute hsnapshot
    have hget := hfetched.getHttproute_eq hroute
    have hnamespace : namespaceOf route = ns := congrArg Prod.fst (Store.key_of_get? hroute)
    have haccepted : routeAccepted s.cluster now ns name gatewayNs gatewayName =
        acceptedBy (.full s.cluster now) gatewayNs gatewayName route := by
      unfold routeAccepted
      rw [hroute, Option.any_some]
    rw [haccepted]
    have hsame := hvalidates.acceptedBy_iff now hnamespace gatewayNs gatewayName
    by_cases hok : acceptedBy (.full s.cluster now) gatewayNs gatewayName route = true
    · rw [hok, Bool.true_or]
      obtain ⟨parentRef, href, rfl, rfl, gateway, haccepts⟩ := hsame.mp hok
      obtain ⟨configmap, hmem, hkey, -⟩ := (mem_sentConfigmaps config hget).mpr
        ⟨parentRef, href, rfl, rfl, gateway, haccepts, rfl⟩
      obtain ⟨written, hwmem, hwkey, stored, hstored, hdata⟩ := hwritten configmap hmem
      -- what is stored is the content for some accepted reference to the Gateway
      obtain ⟨parentRef', href', hns, hname, gateway', haccepts', hdata'⟩ :=
        (mem_sentConfigmaps config hget).mp ⟨written, hwmem, hwkey.trans hkey, rfl⟩
      unfold holdsRoute
      rw [← hkey, hstored, Option.bind_some, hdata, ← hdata', ← hns, ← hname]
      exact listsRoute_gatewayConfigmap hroute hfetched href' haccepts'
    · rw [Bool.eq_false_iff.mpr hok, Bool.false_or]
      unfold holdsRoute
      rw [huntouched]
      intro configmap hmem hkey
      obtain ⟨parentRef, href, hns, hname, gateway, haccepts, -⟩ :=
        (mem_sentConfigmaps config hget).mp ⟨configmap, hmem, hkey, rfl⟩
      exact hok (hsame.mpr ⟨parentRef, href, hns, hname, gateway, haccepts⟩)

end

/-! ## After an edit -/

/-- An edit of the HTTPRoute `ns/name`. -/
inductive RouteEdit (ns name : String)
  | delete
  | put (route : HTTPRoute) (key : objectKey route = (ns, name))

def RouteEdit.apply {ns name : String} (cluster : Objects) : RouteEdit ns name → Objects
  | .delete => { cluster with httproutes := cluster.httproutes.erase (ns, name) }
  | .put route _ => { cluster with httproutes := cluster.httproutes.insert route }

theorem RouteEdit.setObjects_cluster {ns name : String} (edit : RouteEdit ns name) (s : System) :
    (s.setObjects (edit.apply s.cluster)).cluster = edit.apply s.cluster := by
  cases edit <;> rfl

theorem RouteEdit.apply_configmaps {ns name : String} (edit : RouteEdit ns name)
    (cluster : Objects) : (edit.apply cluster).configmaps = cluster.configmaps := by
  cases edit <;> rfl

/-- Every Gateway the route names, or named before, holds the route in its
ConfigMap exactly if it accepts it. -/
def NoStaleRoute (before current : Objects) (now : Time) (store : Namespaced ConfigMap)
    (ns name : String) : Prop :=
  ∀ gatewayNs gatewayName : String,
    referencedBy before ns name gatewayNs gatewayName = true ∨
      referencedBy current ns name gatewayNs gatewayName = true →
    (holdsRoute store gatewayNs gatewayName ns name = true ↔
      routeAccepted current now ns name gatewayNs gatewayName = true)

/-- **When no stale route is left.** For every cluster, every edit and every
run of the reconciler after it: exactly when each of these Gateways that does
not accept the route now had a ConfigMap without it before. -/
theorem no_stale_route_iff {config : ControllerConfig} {now : Time} {ns name : String}
    {s t : System} {p : ℕ} {events : List Event} (edit : RouteEdit ns name)
    (h : Executed config now ns name (s.setObjects (edit.apply s.cluster)) t p events) :
    NoStaleRoute s.cluster (edit.apply s.cluster) now t.cluster.configmaps ns name ↔
      ∀ gatewayNs gatewayName : String,
        referencedBy s.cluster ns name gatewayNs gatewayName = true ∨
          referencedBy (edit.apply s.cluster) ns name gatewayNs gatewayName = true →
        routeAccepted (edit.apply s.cluster) now ns name gatewayNs gatewayName = false →
          holdsRoute s.cluster.configmaps gatewayNs gatewayName ns name = false := by
  have hafter := holdsRoute_of_executed h
  rw [edit.setObjects_cluster, edit.apply_configmaps] at hafter
  unfold NoStaleRoute
  refine forall_congr' fun gatewayNs => forall_congr' fun gatewayName =>
    imp_congr_right fun _ => ?_
  rw [hafter]
  cases routeAccepted (edit.apply s.cluster) now ns name gatewayNs gatewayName <;>
    cases holdsRoute s.cluster.configmaps gatewayNs gatewayName ns name <;> decide

/-! ### A route created, and deleted -/

/-- A plain Gateway without routes, nothing running. -/
def unprogrammed : System := .start (clusterWith [httpListener "http" 80] [])

def createRoute : RouteEdit "default" "a" := .put (routeNamed "a" none []) rfl

/-- The status is written, then the ConfigMap. -/
def createCalls : List Event :=
  [.patch 0 (createRoute.apply unprogrammed.cluster), .get 0, .put 0]

theorem executed_createRoute :
    ∃ t, Executed {} 0 "default" "a"
      (unprogrammed.setObjects (createRoute.apply unprogrammed.cluster)) t 0 createCalls := by
  obtain ⟨t, hexec, hdone⟩ : ∃ t, execAll (step {})
      (unprogrammed.setObjects (createRoute.apply unprogrammed.cluster))
      (.fetch 0 0 (.httproute "default" "a") :: createCalls) = some t ∧
        t.jobs 0 = some { fetchedAt := 1, pending := [] } := ⟨_, rfl, rfl⟩
  refine ⟨t, Run.of_execAll hexec, fun event hevent => ?_, 1, hdone⟩
  simp only [createCalls, List.mem_cons, List.not_mem_nil, or_false] at hevent
  rcases hevent with rfl | rfl | rfl <;> rfl

/-- A first route leaves no stale one. -/
theorem no_stale_route_created :
    ∃ t : System, Executed {} 0 "default" "a"
        (unprogrammed.setObjects (createRoute.apply unprogrammed.cluster)) t 0 createCalls ∧
      NoStaleRoute unprogrammed.cluster (createRoute.apply unprogrammed.cluster) 0
        t.cluster.configmaps "default" "a" := by
  obtain ⟨t, h⟩ := executed_createRoute
  refine ⟨t, h, (no_stale_route_iff createRoute h).mpr fun _ _ _ _ => ?_⟩
  unfold holdsRoute
  rw [show unprogrammed.cluster.configmaps = ∅ from rfl, Store.get?_empty]
  rfl

/-- The same Gateway with its one route programmed. -/
def programmed : System where
  cluster :=
    { clusterWith [httpListener "http" 80] [routeNamed "a" none []] with
      configmaps := (∅ : Namespaced ConfigMap).insert
        (gatewayConfigmap (.full (clusterWith [httpListener "http" 80] [routeNamed "a" none []]) 0)
          "default" "gw" (gatewayWith [httpListener "http" 80])) }
  revision := 1
  jobs := fun _ => none
  origins := fun _ => none

def deleteRoute : RouteEdit "default" "a" := .delete

theorem executed_deleteRoute :
    ∃ t, Executed {} 0 "default" "a"
      (programmed.setObjects (deleteRoute.apply programmed.cluster)) t 0 [] := by
  obtain ⟨t, hexec, hdone⟩ : ∃ t, execAll (step {})
      (programmed.setObjects (deleteRoute.apply programmed.cluster))
      [.fetch 0 0 (.httproute "default" "a")] = some t ∧
        t.jobs 0 = some { fetchedAt := 2, pending := [] } := ⟨_, rfl, rfl⟩
  exact ⟨t, Run.of_execAll hexec, fun _ hevent => absurd hevent List.not_mem_nil, 2, hdone⟩

/-- A deleted route stays programmed. -/
theorem stale_route_left :
    ¬ ∀ (config : ControllerConfig) (now : Time) (ns name : String) (s t : System) (p : ℕ)
        (events : List Event) (edit : RouteEdit ns name),
      Executed config now ns name (s.setObjects (edit.apply s.cluster)) t p events →
        NoStaleRoute s.cluster (edit.apply s.cluster) now t.cluster.configmaps ns name := by
  intro hall
  obtain ⟨t, h⟩ := executed_deleteRoute
  have hgone := (no_stale_route_iff deleteRoute h).mp (hall _ _ _ _ _ t _ _ deleteRoute h)
    "default" "gw" (.inl (by decide)) (by decide)
  exact absurd hgone (by decide)

end Multiway.ControlPlane
