import Multiway.ControlPlane.Provenance
import Multiway.DataPlane.Main
import Multiway.EndToEnd.WireFormat

/-!
# One Gateway's deployment

The control plane's jobs, the API server and the process that serves one
Gateway, side by side. The process is (re)started at any time, with what the API
server then has, and is delivered versions of its ConfigMap at any time, each any
number of times, with any of them left out. All the while jobs for any Gateway
or HTTPRoute fetch, write and fail, and users change the cluster.

`World` records the states the cluster has been in and the versions the ConfigMap
has had. What ties the two ends together is `Sound`.
-/

namespace Multiway.EndToEnd

open Multiway.Lib
open Multiway.Kube
open Multiway.ControlPlane (Objects System ControllerConfig GatewayConfig DataPlaneNames
  ComputedFrom AdmittedTimeouts)
open Multiway.DataPlane (Args Gets)
open Multiway.ProxyCore (ProxyConfig Rustls)
open Multiway.ProxyCore.Server (Running Worker ServerEvent)

structure World where
  system : System
  process : Option Running
  /-- Bookkeeping: the states the cluster has been in. -/
  visited : List Objects
  /-- Bookkeeping: the versions the ConfigMap has had. -/
  versions : List ConfigMap

inductive WorldEvent
  /-- A call to the API server. -/
  | control (e : ControlPlane.Event)
  /-- The process is started, where it does not run. -/
  | start (addr : ℕ) (availableParallelism : Option ℕ+)
  | exit
  /-- The watcher is delivered a version of the ConfigMap. -/
  | deliver (n addr : ℕ)
  /-- The watcher has an event that brings none. -/
  | notice (event : DataPlane.WatchEvent)
  /-- A step of the server. -/
  | server (e : ServerEvent)

/-- Where the process finds its ConfigMap. -/
def configmapKey (args : Args) : String × String := (args.gatewayNamespace, args.configmapName)

/-- What the API server says to a get. -/
def readConfigmap (cluster : Objects) : Gets :=
  .ok fun ns name =>
    match cluster.configmaps.get? (ns, name) with
    | some configmap => .ok configmap
    | none => .error "not found"

/-- The process reads what the control plane has written. -/
theorem parse_of_data {c : GatewayConfig} (hfinite : c.finiteTimeouts = true)
    {configmap : ConfigMap}
    (hdata : configmap.data = some ((∅ : BTreeMap Json).insert ControlPlane.configKey c.toJson)) :
    DataPlane.parseConfigFromConfigmap configmap = .ok (translate c) := by
  have hread : ProxyConfig.fromJson c.toJson = some (translate c) := by
    rw [fromJson_translate, ControlPlane.GatewayConfig.fromJson_toJson hfinite]
    rfl
  have hget : ((∅ : BTreeMap Json).insert ControlPlane.configKey c.toJson)[DataPlane.configKey]? =
      some c.toJson := Std.ExtTreeMap.getElem?_insert_self
  simp only [DataPlane.parseConfigFromConfigmap, hdata, hget, hread]

namespace World

variable (args : Args)

def init (objects : Objects) : World where
  system := .start objects
  process := none
  visited := [(System.start objects).cluster]
  versions := []

def after (w : World) (system : System) : World :=
  { w with
    system
    visited := system.cluster :: w.visited
    versions := (system.cluster.configmaps.get? (configmapKey args)).toList ++ w.versions }

def step (config : ControllerConfig) (rustls : Rustls) (w : World) : WorldEvent → Option World
  | .control e => (ControlPlane.step config w.system e).map (w.after args)
  | .start addr availableParallelism =>
    match w.process with
    | some _ => none
    | none =>
      match DataPlane.main (readConfigmap w.system.cluster) args addr availableParallelism with
      | .ok process => some { w with process := some process }
      | .error _ => some w
  | .exit => some { w with process := none }
  | .deliver n addr =>
    match w.process, w.versions[n]? with
    | some process, some configmap =>
      (DataPlane.step rustls process (.watch (.apply configmap) addr)).map fun process =>
        { w with process := some process }
    | _, _ => none
  | .notice event =>
    match w.process, event.configmap? with
    | some process, none =>
      (DataPlane.step rustls process (.watch event 0)).map fun process =>
        { w with process := some process }
    | _, _ => none
  | .server e =>
    match w.process with
    | some process =>
      (DataPlane.step rustls process (.server e)).map fun process =>
        { w with process := some process }
    | none => none

/-- What a step can do. -/
inductive Transition (config : ControllerConfig) (rustls : Rustls) (w : World) :
    WorldEvent → World → Prop
  | control {e : ControlPlane.Event} {system : System}
      (hstep : ControlPlane.step config w.system e = some system) :
      Transition config rustls w (.control e) (w.after args system)
  | start {addr : ℕ} {availableParallelism : Option ℕ+} {process : Running}
      (hmain : DataPlane.main (readConfigmap w.system.cluster) args addr availableParallelism =
        .ok process) :
      Transition config rustls w (.start addr availableParallelism)
        { w with process := some process }
  | fail {addr : ℕ} {availableParallelism : Option ℕ+} {e : String}
      (hmain : DataPlane.main (readConfigmap w.system.cluster) args addr availableParallelism =
        .error e) :
      Transition config rustls w (.start addr availableParallelism) w
  | exit : Transition config rustls w .exit { w with process := none }
  | deliver {n addr : ℕ} {process process' : Running} {configmap : ConfigMap}
      (hprocess : w.process = some process) (hversion : w.versions[n]? = some configmap)
      (hstep : DataPlane.step rustls process (.watch (.apply configmap) addr) = some process') :
      Transition config rustls w (.deliver n addr) { w with process := some process' }
  | notice {event : DataPlane.WatchEvent} {process process' : Running}
      (hprocess : w.process = some process) (hnone : event.configmap? = none)
      (hstep : DataPlane.step rustls process (.watch event 0) = some process') :
      Transition config rustls w (.notice event) { w with process := some process' }
  | server {e : ServerEvent} {process process' : Running} (hprocess : w.process = some process)
      (hstep : DataPlane.step rustls process (.server e) = some process') :
      Transition config rustls w (.server e) { w with process := some process' }

/-- Nobody but the jobs writes the ConfigMap, and timeouts are of the form the
API server admits. -/
def Undisturbed (_w : World) : WorldEvent → Prop
  | .control (.edit objects) | .control (.patch _ objects) => AdmittedTimeouts objects
  | .control (.editConfigmap configmap) => objectKey configmap ≠ configmapKey args
  | _ => True

/-! ## What holds of every state -/

/-- The configuration was computed for the Gateway from a state of the cluster. -/
def Computed (w : World) (c : GatewayConfig) : Prop :=
  ∃ cluster ∈ w.visited, ComputedFrom cluster args.gatewayNamespace args.gatewayName c

/-- It carries such a configuration, whole. -/
def Carries (w : World) (configmap : ConfigMap) : Prop :=
  ∃ c, w.Computed args c ∧
    configmap.data = some ((∅ : BTreeMap Json).insert ControlPlane.configKey c.toJson)

structure Sound (rustls : Rustls) (w : World) : Prop where
  visited : w.system.cluster ∈ w.visited
  admitted : ∀ cluster ∈ w.visited, AdmittedTimeouts cluster
  jobs : ∀ p job, w.system.jobs p = some job → ∀ configmap ∈ job.toWrite,
    objectKey configmap = configmapKey args → w.Carries args configmap
  stored : ∀ configmap, w.system.cluster.configmaps.get? (configmapKey args) = some configmap →
    w.Carries args configmap
  versions : ∀ configmap ∈ w.versions, w.Carries args configmap
  process : ∀ process, w.process = some process →
    DataPlane.Holds rustls (fun config => ∃ c, w.Computed args c ∧ config = translate c) process

variable {args : Args} {config : ControllerConfig} {rustls : Rustls} {w w' : World}

theorem transition_of_step {e : WorldEvent} (h : w.step args config rustls e = some w') :
    Transition args config rustls w e w' := by
  cases e with
  | control e =>
    obtain ⟨system, hstep, rfl⟩ := Option.map_eq_some_iff.mp h
    exact .control hstep
  | start addr availableParallelism =>
    simp only [step] at h
    split at h
    · cases h
    · split at h
      next process hmain =>
        cases h
        exact .start hmain
      next e hmain =>
        cases h
        exact .fail hmain
  | exit =>
    cases h
    exact .exit
  | deliver n addr =>
    simp only [step] at h
    split at h
    next process configmap hprocess hversion =>
      obtain ⟨process', hstep, rfl⟩ := Option.map_eq_some_iff.mp h
      exact .deliver hprocess hversion hstep
    · cases h
  | notice event =>
    simp only [step] at h
    split at h
    next process hprocess hnone =>
      obtain ⟨process', hstep, rfl⟩ := Option.map_eq_some_iff.mp h
      exact .notice hprocess hnone hstep
    · cases h
  | server e =>
    simp only [step] at h
    split at h
    next process hprocess =>
      obtain ⟨process', hstep, rfl⟩ := Option.map_eq_some_iff.mp h
      exact .server hprocess hstep
    · cases h

theorem configmapKey_eq :
    configmapKey args = (args.gatewayNamespace,
      DataPlaneNames.configmapName ⟨args.gatewayNamespace, args.gatewayName⟩) := rfl

theorem Carries.mono {configmap : ConfigMap} (h : w.Carries args configmap)
    (hvisited : ∀ cluster ∈ w.visited, cluster ∈ w'.visited) : w'.Carries args configmap := by
  obtain ⟨c, ⟨cluster, hcluster, hcomputed⟩, hdata⟩ := h
  exact ⟨c, ⟨cluster, hvisited cluster hcluster, hcomputed⟩, hdata⟩

/-- What a job sends under the key was computed for the Gateway. -/
theorem carries_of_sent (h : w.Sound args rustls) {now : Time} {target : ControlPlane.Target}
    {result : ControlPlane.ReconcileResult}
    (hreconcile : ControlPlane.reconcile (.ofCluster w.system.cluster) config now target =
      .ok result) {configmap : ConfigMap}
    (hsent : configmap ∈ ControlPlane.sentConfigmaps result)
    (hkey : objectKey configmap = configmapKey args) : w.Carries args configmap := by
  rw [ControlPlane.reconcile_eq] at hreconcile
  cases hfetch : ControlPlane.fetchSnapshot (.ofCluster w.system.cluster) now target with
  | error e =>
    rw [hfetch] at hreconcile
    cases hreconcile
  | ok s =>
    rw [hfetch] at hreconcile
    cases hreconcile
    obtain ⟨ns, name, c, hsentKey, hcomputed, hdata⟩ :=
      ControlPlane.computed_of_sent hfetch hsent
    -- the key names the Gateway
    obtain ⟨rfl, hname⟩ := Prod.mk.inj (hsentKey.symm.trans (hkey.trans configmapKey_eq))
    obtain rfl := ControlPlane.configmapName_inj.mp hname
    exact ⟨c, ⟨_, h.visited, hcomputed⟩, hdata⟩

/-- What is read of such a ConfigMap is the translation. -/
theorem Carries.parse {configmap : ConfigMap} (h : w.Carries args configmap)
    (hadmitted : ∀ cluster ∈ w.visited, AdmittedTimeouts cluster) :
    ∃ c, w.Computed args c ∧
      DataPlane.parseConfigFromConfigmap configmap = .ok (translate c) := by
  obtain ⟨c, hcomputed, hdata⟩ := h
  refine ⟨c, hcomputed, parse_of_data ?_ hdata⟩
  obtain ⟨cluster, hcluster, hfrom⟩ := hcomputed
  exact ControlPlane.finiteTimeouts_of_computed (hadmitted cluster hcluster) hfrom

/-! ## Steps of the control plane -/

/-- What a call to the API server leaves for the Gateway's ConfigMap. -/
structure KeepsCarrying (args : Args) (w : World) (system : System) : Prop where
  admitted : AdmittedTimeouts system.cluster
  jobs : ControlPlane.WritesOnly
    (fun configmap => objectKey configmap = configmapKey args → w.Carries args configmap) system
  stored : ∀ configmap, system.cluster.configmaps.get? (configmapKey args) = some configmap →
    w.Carries args configmap

theorem Sound.admitted_of_step {e : ControlPlane.Event} {system : System} (h : w.Sound args rustls)
    (hundisturbed : w.Undisturbed args (.control e))
    (hstep : ControlPlane.step config w.system e = some system) :
    AdmittedTimeouts system.cluster := by
  have hadmitted := h.admitted _ h.visited
  cases ControlPlane.transition_of_step hstep with
  | edit | patch => exact hundisturbed
  | editConfigmap | deleteConfigmap | fetch | get | put | conflict | stop => exact hadmitted

theorem carries_of_write {system : System} {configmap : ConfigMap}
    (origin : Option ControlPlane.Origin)
    (h : ∀ stored, system.cluster.configmaps.get? (configmapKey args) = some stored →
      w.Carries args stored)
    (hcarries : objectKey configmap = configmapKey args → w.Carries args configmap)
    {stored : ConfigMap}
    (hstored : (system.write configmap origin).cluster.configmaps.get? (configmapKey args) =
      some stored) : w.Carries args stored := by
  by_cases hkey : objectKey configmap = configmapKey args
  · have hnew := hstored.symm.trans (Store.get?_insert_of_eq _ hkey)
    obtain rfl := Option.some.inj hnew
    exact hcarries hkey
  · have hother : objectKey (ControlPlane.withResourceVersion configmap
        (some (ControlPlane.resourceVersionOf (system.revision + 1)))) ≠ configmapKey args := hkey
    exact h stored ((Store.get?_insert_of_ne _ hother).symm.trans hstored)

theorem Sound.stored_of_step {e : ControlPlane.Event} {system : System} (h : w.Sound args rustls)
    (hundisturbed : w.Undisturbed args (.control e))
    (hstep : ControlPlane.step config w.system e = some system) {stored : ConfigMap}
    (hstored : system.cluster.configmaps.get? (configmapKey args) = some stored) :
    w.Carries args stored := by
  cases ControlPlane.transition_of_step hstep with
  | edit | fetch | patch | get | conflict | stop => exact h.stored stored hstored
  | editConfigmap =>
    exact carries_of_write none h.stored (fun hkey => absurd hkey hundisturbed) hstored
  | deleteConfigmap => exact h.stored stored (Store.get?_of_erase hstored)
  | @put p fetchedAt pending reading hjob =>
    have hwrite := h.jobs p _ hjob reading.configmap List.mem_cons_self
    exact carries_of_write (some { fetchedAt, storedAt := w.system.revision + 1 }) h.stored hwrite
      hstored

theorem Sound.control {e : ControlPlane.Event} {system : System} (h : w.Sound args rustls)
    (hundisturbed : w.Undisturbed args (.control e))
    (hstep : ControlPlane.step config w.system e = some system) :
    KeepsCarrying args w system where
  admitted := h.admitted_of_step hundisturbed hstep
  jobs := ControlPlane.WritesOnly.step h.jobs hstep
    fun _ _ _ _ _ hreconcile _ hsent hkey => carries_of_sent h hreconcile hsent hkey
  stored _ hstored := h.stored_of_step hundisturbed hstep hstored

theorem Sound.after {system : System} (h : w.Sound args rustls)
    (hkeeps : KeepsCarrying args w system) : (w.after args system).Sound args rustls := by
  have hmono : ∀ cluster ∈ w.visited, cluster ∈ (w.after args system).visited :=
    fun _ hmem => List.mem_cons_of_mem _ hmem
  refine
    { visited := List.mem_cons_self
      admitted := List.forall_mem_cons.mpr ⟨hkeeps.admitted, h.admitted⟩
      jobs := fun p job hjob configmap hmem hkey =>
        (hkeeps.jobs p job hjob configmap hmem hkey).mono hmono
      stored := fun configmap hstored => (hkeeps.stored configmap hstored).mono hmono
      versions := ?_, process := ?_ }
  · intro configmap hmem
    rcases List.mem_append.mp hmem with hnow | hbefore
    · exact (hkeeps.stored configmap (Option.mem_toList.mp hnow)).mono hmono
    · exact (h.versions configmap hbefore).mono hmono
  · intro process hprocess
    refine (h.process process hprocess).mono fun config hcomputed => ?_
    obtain ⟨c, ⟨cluster, hcluster, hfrom⟩, hconfig⟩ := hcomputed
    exact ⟨c, ⟨cluster, hmono cluster hcluster, hfrom⟩, hconfig⟩

/-! ## Steps of the process -/

theorem Sound.withProcess (h : w.Sound args rustls) {process : Option Running}
    (hprocess : ∀ s, process = some s →
      DataPlane.Holds rustls (fun config => ∃ c, w.Computed args c ∧ config = translate c) s) :
    ({ w with process } : World).Sound args rustls :=
  { h with process := hprocess }

theorem load_readConfigmap {cluster : Objects} {ns name : String} {config : ProxyConfig}
    (h : DataPlane.loadConfigFromK8s (readConfigmap cluster) ns name = .ok config) :
    ∃ configmap, cluster.configmaps.get? (ns, name) = some configmap ∧
      DataPlane.parseConfigFromConfigmap configmap = .ok config := by
  unfold DataPlane.loadConfigFromK8s readConfigmap at h
  cases hget : cluster.configmaps.get? (ns, name) with
  | none =>
    simp only [hget] at h
    cases h
  | some configmap =>
    simp only [hget] at h
    exact ⟨configmap, rfl, h⟩

/-- The process is started with what the API server has. -/
theorem Sound.main (h : w.Sound args rustls) {addr : ℕ} {availableParallelism : Option ℕ+}
    {s : Running}
    (hmain : DataPlane.main (readConfigmap w.system.cluster) args addr availableParallelism =
      .ok s) :
    DataPlane.Holds rustls (fun config => ∃ c, w.Computed args c ∧ config = translate c) s := by
  obtain ⟨config, hload, server, hserver, rfl, -⟩ := DataPlane.main_eq_ok.mp hmain
  obtain ⟨configmap, hget, hparse⟩ := load_readConfigmap hload
  obtain ⟨c, hcomputed, hcarried⟩ := (h.stored configmap hget).parse h.admitted
  refine .spawn server ?_
  rw [hserver]
  exact ⟨c, hcomputed, Except.ok.inj (hparse.symm.trans hcarried)⟩

theorem Sound.step {e : WorldEvent} (h : w.Sound args rustls)
    (hstep : Guarded (Undisturbed args) (stepOf (World.step args config rustls)) w e w') :
    w'.Sound args rustls := by
  obtain ⟨hundisturbed, hworld⟩ := hstep
  cases transition_of_step hworld with
  | control hcontrol => exact h.after (h.control hundisturbed hcontrol)
  | start hmain =>
    refine h.withProcess fun s hs => ?_
    cases hs
    exact h.main hmain
  | fail => exact h
  | exit => exact h.withProcess fun s hs => by cases hs
  | @deliver n addr process process' configmap hprocess hversion hserved =>
    refine h.withProcess fun s hs => ?_
    cases hs
    refine (h.process process hprocess).step hserved fun config' hstored => ?_
    obtain ⟨c, hcomputed, hparse⟩ :=
      (h.versions configmap (List.mem_of_getElem? hversion)).parse h.admitted
    have hconfig : (DataPlane.parseConfigFromConfigmap configmap).toOption = some config' := hstored
    rw [hparse] at hconfig
    exact ⟨c, hcomputed, (Option.some.inj hconfig).symm⟩
  | @notice event process process' hprocess hnone hserved =>
    refine h.withProcess fun s hs => ?_
    cases hs
    refine (h.process process hprocess).step hserved fun config' hstored => ?_
    rw [DataPlane.Event.stored?, DataPlane.WatchEvent.config?, hnone] at hstored
    cases hstored
  | @server e process process' hprocess hserved =>
    refine h.withProcess fun s hs => ?_
    cases hs
    exact (h.process process hprocess).step hserved fun _ hstored => by cases hstored

theorem Sound.init {objects : Objects} (hadmitted : AdmittedTimeouts objects) :
    (World.init objects).Sound args rustls where
  visited := List.mem_cons_self
  admitted := List.forall_mem_cons.mpr ⟨fun route hroute => hadmitted route hroute, nofun⟩
  jobs _ _ hjob := by cases hjob
  stored configmap hstored := by
    have hempty := hstored.symm.trans (Store.get?_empty _)
    cases hempty
  versions configmap hmem := absurd hmem List.not_mem_nil
  process s hprocess := by cases hprocess

end World

/-- **What is served was computed.** Whatever users do to the cluster, as long as
they leave the ConfigMap alone, whichever
jobs run side by side and fail, however late, often or partially the ConfigMap's
versions are delivered and whenever the process is restarted: what a Gateway's
data plane has stored, and what each of its workers serves under, is the
translation of a configuration that was computed for this very Gateway from one
snapshot of a state the cluster has been in, fetched for the Gateway or a route
that names it. -/
theorem served_was_computed (args : Args) (config : ControllerConfig) (rustls : Rustls)
    {objects : Objects} (hadmitted : AdmittedTimeouts objects) {es : List WorldEvent} {w : World}
    (hrun : Run (Guarded (World.Undisturbed args) (stepOf (World.step args config rustls)))
      (.init objects) es w) {s : Running} (hprocess : w.process = some s) :
    (∃ c, w.Computed args c ∧ s.stored.config = translate c) ∧
      ∀ (i : ℕ) (worker : Worker), s.threads[i]? = some (.running worker) →
        ∀ pipeline ∈ worker.pipelines, ∃ c, w.Computed args c ∧
          pipeline.proxyConfig = translate c := by
  have hsound := hrun.invariant (fun _ _ _ hstep hs => hs.step hstep) (World.Sound.init hadmitted)
  exact ⟨(hsound.process s hprocess).stored, (hsound.process s hprocess).pipelines⟩

theorem admittedTimeouts_routed : AdmittedTimeouts ControlPlane.routed := by
  intro route hroute rule hrule timeouts htimeouts
  have hvalues : ControlPlane.routed.httproutes.values = [ControlPlane.routeNamed "a" none []] :=
    Store.values_insert_empty _
  rw [hvalues, List.mem_singleton] at hroute
  obtain rfl := hroute
  obtain rfl := List.mem_singleton.mp hrule
  cases htimeouts

/-- The Gateway is reconciled, its process started, and a worker gets to its loop. -/
def rolledOut : List WorldEvent :=
  [.control (.fetch 0 0 (.gateway "default" "gw")), .control (.patch 0 ControlPlane.routed),
    .control (.get 0), .control (.put 0), .start 0 none, .server (.enter 0 fun _ => true)]

theorem run_rolledOut :
    ∃ w s, Run (Guarded (World.Undisturbed ⟨"gw", "default"⟩)
        (stepOf (World.step ⟨"gw", "default"⟩ {} ProxyCore.Server.emptyRustls)))
      (.init ControlPlane.routed) rolledOut w ∧ w.process = some s ∧
        (s.stored.config.routes.map ProxyCore.RouteConfig.name) = ["a"] :=
  ⟨_, _, .cons ⟨trivial, rfl⟩ (.cons ⟨admittedTimeouts_routed, rfl⟩ (.cons ⟨trivial, rfl⟩
    (.cons ⟨trivial, rfl⟩ (.cons ⟨trivial, rfl⟩ (.cons ⟨trivial, rfl⟩ (.nil _)))))), rfl, rfl⟩

theorem rolledOut_was_computed :
    ∃ w s, Run (Guarded (World.Undisturbed ⟨"gw", "default"⟩)
        (stepOf (World.step ⟨"gw", "default"⟩ {} ProxyCore.Server.emptyRustls)))
      (.init ControlPlane.routed) rolledOut w ∧ w.process = some s ∧
        ∃ c, w.Computed ⟨"gw", "default"⟩ c ∧ s.stored.config = translate c := by
  obtain ⟨w, s, hrun, hprocess, -⟩ := run_rolledOut
  exact ⟨w, s, hrun, hprocess, (served_was_computed ⟨"gw", "default"⟩ {}
    ProxyCore.Server.emptyRustls admittedTimeouts_routed hrun hprocess).1⟩

end Multiway.EndToEnd
