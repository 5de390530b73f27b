import Multiway.Kube.Core
import Multiway.ProxyCore.Updates
import Multiway.ProxyCore.Wire

/-!
# The data plane's process (`dataplane/src/main.rs`)

The process loads its configuration from a ConfigMap, starts a server with it
and watches the ConfigMap: every version the API delivers is parsed and stored
for the workers, in whatever step they are. A version that cannot be parsed, a
deletion and a failure of the watch change nothing.
-/

namespace Multiway.DataPlane

open Multiway.Kube
open Multiway.Lib
open Multiway.ProxyCore (ProxyConfig Rustls)
open Multiway.ProxyCore.Server

/-- `CONFIG_KEY` -/
def configKey : String := "config.json"

/-- What the process is started with; both are required. -/
structure Args where
  gatewayName : String
  gatewayNamespace : String

def Args.configmapName (args : Args) : String := "multiway-config-" ++ args.gatewayName

def parseConfigFromConfigmap (cm : ConfigMap) : Except String ProxyConfig :=
  match cm.data with
  | none => .error "ConfigMap has no data"
  | some data =>
    match data[configKey]? with
    | none => .error ("ConfigMap missing '" ++ configKey ++ "' key")
    | some content =>
      match ProxyConfig.fromJson content with
      | none => .error "Failed to parse config JSON from ConfigMap"
      | some config => .ok config

/-- What the API says to a get, when there is a client for it. -/
abbrev Gets := Except String (String → String → Except String ConfigMap)

def loadConfigFromK8s (client : Gets) («namespace» configmapName : String) :
    Except String ProxyConfig :=
  match client with
  | .error e => .error ("Failed to create Kubernetes client: " ++ e)
  | .ok get =>
    match get «namespace» configmapName with
    | .error e =>
      .error ("Failed to get ConfigMap " ++ «namespace» ++ "/" ++ configmapName ++ ": " ++ e)
    | .ok cm => parseConfigFromConfigmap cm

/-- `kube::runtime::watcher::Event`, or the error in its place. -/
inductive WatchEvent
  | apply (cm : ConfigMap)
  | initApply (cm : ConfigMap)
  | delete (cm : ConfigMap)
  | init
  | initDone
  | error (message : String)

/-- The version of the ConfigMap an event brings. -/
def WatchEvent.configmap? : WatchEvent → Option ConfigMap
  | .apply cm | .initApply cm => some cm
  | _ => none

/-- The configuration that is stored for an event. -/
def WatchEvent.config? (event : WatchEvent) : Option ProxyConfig :=
  event.configmap?.bind fun cm => (parseConfigFromConfigmap cm).toOption

inductive Event
  /-- The watcher has an event; an `Arc` is allocated at `addr` if need be. -/
  | watch (event : WatchEvent) (addr : ℕ)
  /-- The flag is set, or a thread of the server takes a step. -/
  | server (e : ServerEvent)

/-- One event of `watch_configmap` or of the server. -/
def step (rustls : Rustls) (s : Running) : Event → Option Running
  | .watch event addr =>
    match event.config? with
    | some config => Running.step rustls s (.store addr config)
    | none => some s
  -- nobody stores but the watcher
  | .server e => if e.isStore then none else Running.step rustls s e

/-- `main`, up to where the server runs and the watcher watches. -/
def main (client : Gets) (args : Args) (addr : ℕ) (availableParallelism : Option ℕ+) :
    Except String Running :=
  match loadConfigFromK8s client args.gatewayNamespace args.configmapName with
  | .error e => .error e
  | .ok config =>
    match ({ config := some ⟨addr, config, 0⟩ } : ProxyServerBuilder).build
      availableParallelism with
    | .error _ => .error "invalid input"
    | .ok server => .ok server.spawn

/-! ## What the server has of an event -/

def Event.stored? : Event → Option ProxyConfig
  | .watch event _ => event.config?
  | .server _ => none

def Event.serverEvent? : Event → Option ServerEvent
  | .watch event addr => event.config?.map (.store addr)
  | .server e => some e

variable {rustls : Rustls} {s s' s₁ : Running} {args : Args} {w : Worker} {i : ℕ}

theorem step_eq_some {e : Event} (h : step rustls s e = some s') :
    (∃ e', e.serverEvent? = some e' ∧ Running.step rustls s e' = some s' ∧
        (e'.isStore = true ↔ ∃ config, e.stored? = some config)) ∨
      (e.serverEvent? = none ∧ e.stored? = none ∧ s' = s) := by
  cases e with
  | watch event addr =>
    simp only [step] at h
    cases hconfig : event.config? with
    | none =>
      rw [hconfig] at h
      cases h
      exact .inr ⟨by rw [Event.serverEvent?, hconfig, Option.map_none], hconfig, rfl⟩
    | some config =>
      rw [hconfig] at h
      refine .inl ⟨.store addr config, ?_, h, ?_⟩
      · rw [Event.serverEvent?, hconfig, Option.map_some]
      · exact iff_of_true rfl ⟨config, hconfig⟩
  | server e =>
    simp only [step] at h
    split at h
    · cases h
    next hstore =>
      exact .inl ⟨e, rfl, h, iff_of_false hstore nofun⟩

/-- The addresses of the stores are as the server wants them. -/
def Distinct (s : Running) (e : Event) : Prop := ∀ e' ∈ e.serverEvent?, s.Distinct e'

/-- The process is a server, and the watcher is who stores. -/
theorem serverRun_of_run {es : List Event}
    (hrun : Run (Guarded Distinct (stepOf (step rustls))) s es s') :
    Run (Guarded Running.Distinct (stepOf (Running.step rustls))) s
      (es.filterMap Event.serverEvent?) s' := by
  induction hrun with
  | nil => exact .nil _
  | @cons s t s' e es hstep _ ih =>
    obtain ⟨hdistinct, hstep⟩ := hstep
    rcases step_eq_some hstep with ⟨e', he', hserver, -⟩ | ⟨hnone, -, rfl⟩
    · rw [List.filterMap_cons_some he']
      exact .cons ⟨hdistinct e' he', hserver⟩ ih
    · rw [List.filterMap_cons_none hnone]
      exact ih

theorem main_eq_ok {client : Gets} {addr : ℕ} {availableParallelism : Option ℕ+} :
    main client args addr availableParallelism = .ok s ↔
      ∃ config, loadConfigFromK8s client args.gatewayNamespace args.configmapName = .ok config ∧
        ∃ server : ProxyServer, server.config = ⟨addr, config, 0⟩ ∧ s = server.spawn ∧
          server.workerThreads = (availableParallelism.map PNat.val).getD 1 := by
  unfold main
  cases loadConfigFromK8s client args.gatewayNamespace args.configmapName with
  | error e => exact iff_of_false nofun fun ⟨_, h, _⟩ => nomatch h
  | ok config =>
    have hpositive : (availableParallelism.map PNat.val).getD 1 ≠ 0 := by
      cases availableParallelism with
      | none => exact Nat.one_ne_zero
      | some n => exact n.ne_zero
    simp only [ProxyServerBuilder.build, Option.getD_none, dif_neg hpositive, Except.ok.injEq,
      exists_eq_left']
    constructor
    · rintro rfl
      exact ⟨_, rfl, rfl, rfl⟩
    · rintro ⟨⟨config', workerThreads, hpos⟩, rfl, rfl, rfl⟩
      rfl

/-! ## What is stored, and what is served -/

theorem stored_of_step {e : Event} (h : step rustls s e = some s') :
    s'.stored.config = e.stored?.getD s.stored.config := by
  rcases step_eq_some h with ⟨e', he', hserver, hstore⟩ | ⟨-, hnone, rfl⟩
  · cases e' with
    | store addr config =>
      obtain ⟨config', hstored⟩ := hstore.mp rfl
      cases e with
      | server e =>
        cases hstored
      | watch event addr' =>
        have hconfig : event.config? = some config' := hstored
        rw [Event.serverEvent?, hconfig] at he'
        cases he'
        cases Running.transition_of_step hserver with
        | store =>
          rw [hstored]
          rfl
    | _ =>
      have hnone : e.stored? = none := by
        rw [Option.eq_none_iff_forall_ne_some]
        exact fun config hconfig => absurd (hstore.mpr ⟨config, hconfig⟩) nofun
      rw [hnone, ProxyCore.Server.stored_of_step hserver rfl]
      rfl
  · rw [hnone]
    rfl

/-- What a server holds of configurations is all `P`. -/
structure Holds (rustls : Rustls) (P : ProxyConfig → Prop) (s : Running) : Prop where
  shared : s.Shared
  stored : P s.stored.config
  pipelines : ∀ (i : ℕ) (w : Worker), s.threads[i]? = some (.running w) →
    ∀ pipeline ∈ w.pipelines, P pipeline.proxyConfig
  listenerStates : ∀ (i : ℕ) (w : Worker), s.threads[i]? = some (.running w) →
    ∀ state ∈ w.listenerStates, ∃ arc : ConfigArc, P arc.config ∧
      ∃ listener ∈ arc.config.listeners, state = bound rustls arc listener

variable {P : ProxyConfig → Prop}

theorem Holds.spawn (server : ProxyServer) (h : P server.config.config) :
    Holds rustls P server.spawn where
  shared := server.shared_spawn
  stored := h
  pipelines i w hw := by
    have hspawned := List.eq_of_mem_replicate (List.mem_of_getElem? hw)
    cases hspawned
  listenerStates i w hw := by
    have hspawned := List.eq_of_mem_replicate (List.mem_of_getElem? hw)
    cases hspawned

theorem Holds.mono {Q : ProxyConfig → Prop} (h : Holds rustls P s)
    (hPQ : ∀ config, P config → Q config) : Holds rustls Q s where
  shared := h.shared
  stored := hPQ _ h.stored
  pipelines i w hw pipeline hpipeline := hPQ _ (h.pipelines i w hw pipeline hpipeline)
  listenerStates i w hw state hstate := by
    obtain ⟨arc, hconfig, hlistener⟩ := h.listenerStates i w hw state hstate
    exact ⟨arc, hPQ _ hconfig, hlistener⟩

theorem Holds.serverStep {e : ServerEvent} (h : Holds rustls P s)
    (hstep : Running.step rustls s e = some s') (hstored : P s'.stored.config) :
    Holds rustls P s' := by
  refine ⟨h.shared.step hstep, hstored, ?_, ?_⟩
  · intro i
    refine Running.worker_keeps h.shared hstep (fun binds w₀ hstart pipeline hpipeline => ?_)
      (fun w w' e' hw _ hworker _ hpipelines => ?_) (h.pipelines i)
    · obtain ⟨-, -, rfl⟩ := start_eq_some.mp hstart
      rw [proxyConfig_of_mem_buildPipelines hpipeline]
      exact h.stored
    · cases ProxyCore.Server.transition_of_step hworker with
      | rebuild =>
        intro pipeline hpipeline
        rw [proxyConfig_of_mem_buildPipelines hpipeline, (h.shared i w hw).stored]
        exact h.stored
      | _ => exact hpipelines
  · intro i
    refine Running.worker_keeps h.shared hstep (fun binds w₀ hstart state hstate => ?_)
      (fun w w' e' hw _ hworker _ hstates => ?_) (h.listenerStates i)
    · obtain ⟨-, -, rfl⟩ := start_eq_some.mp hstart
      obtain ⟨listener, hlistener, rfl⟩ := List.mem_map.mp hstate
      exact ⟨s.stored, h.stored, listener, hlistener, rfl⟩
    · cases ProxyCore.Server.transition_of_step hworker with
      | rebuild =>
        intro state hstate
        rcases mem_rebuild hstate with hkept | ⟨listener, hlistener, rfl⟩
        · exact hstates state hkept
        · exact ⟨w.stored, (h.shared i w hw).stored ▸ h.stored, listener, hlistener, rfl⟩
      | _ => exact hstates

theorem Holds.step {e : Event} (h : Holds rustls P s) (hstep : step rustls s e = some s')
    (hstored : ∀ config ∈ e.stored?, P config) : Holds rustls P s' := by
  have hconfig : P s'.stored.config := by
    rw [stored_of_step hstep]
    cases hnew : e.stored? with
    | none => exact h.stored
    | some config => exact hstored config hnew
  rcases step_eq_some hstep with ⟨e', -, hserver, -⟩ | ⟨-, -, rfl⟩
  · exact h.serverStep hserver hconfig
  · exact h

theorem Holds.run {es : List Event} (h : Holds rustls P s)
    (hrun : Run (stepOf (DataPlane.step rustls)) s es s')
    (hstored : ∀ e ∈ es, ∀ config ∈ e.stored?, P config) : Holds rustls P s' := by
  induction hrun with
  | nil => exact h
  | cons hstep _ ih =>
    obtain ⟨hfirst, hrest⟩ := List.forall_mem_cons.mp hstored
    exact ih (h.step hstep hfirst) hrest

/-- The last configuration that could be parsed is what is stored. -/
theorem stored_of_run {es : List Event} (hrun : Run (stepOf (DataPlane.step rustls)) s es s') :
    s'.stored.config = (es.filterMap Event.stored?).getLast?.getD s.stored.config := by
  induction hrun with
  | nil => rfl
  | @cons s t s' e es hstep _ ih =>
    rw [ih, stored_of_step hstep]
    cases hnew : e.stored? with
    | none => rw [List.filterMap_cons_none hnew, Option.getD_none]
    | some config =>
      rw [List.filterMap_cons_some hnew, List.getLast?_cons, Option.getD_some, Option.getD_some]

theorem not_isStore_of_run {es : List Event} (hrun : Run (stepOf (DataPlane.step rustls)) s es s')
    (hquiet : ∀ e ∈ es, e.stored? = none) :
    ∀ e ∈ es.filterMap Event.serverEvent?, e.isStore = false := by
  induction hrun with
  | nil => nofun
  | cons hstep _ ih =>
    obtain ⟨hnone, hrest⟩ := List.forall_mem_cons.mp hquiet
    rcases step_eq_some hstep with ⟨e', he', -, hstore⟩ | ⟨he, -, -⟩
    · rw [List.filterMap_cons_some he', List.forall_mem_cons]
      refine ⟨Bool.eq_false_iff.mpr fun his => ?_, ih hrest⟩
      obtain ⟨config, hconfig⟩ := hstore.mp his
      rw [hnone] at hconfig
      cases hconfig
    · rw [List.filterMap_cons_none he]
      exact ih hrest

/-- **The process follows its ConfigMap.** What is stored is the last version
that could be parsed, and a worker serves under nothing but versions that were
loaded or delivered. Once the last of them is stored, whoever looks serves every
listener under that one; what cannot be parsed, deletions and failures of the
watch do not matter. -/
theorem follows_configmap (rustls : Rustls) {client : Gets} {addr : ℕ}
    {availableParallelism : Option ℕ+} {s₀ : Running} {config₀ : ProxyConfig}
    (hmain : main client args addr availableParallelism = .ok s₀)
    (hload : loadConfigFromK8s client args.gatewayNamespace args.configmapName = .ok config₀) :
    (∀ es s, Run (stepOf (DataPlane.step rustls)) s₀ es s →
      s.stored.config = (es.filterMap Event.stored?).getLast?.getD config₀ ∧
      ∀ (i : ℕ) (w : Worker), s.threads[i]? = some (.running w) → ∀ pipeline ∈ w.pipelines,
        pipeline.proxyConfig ∈ config₀ :: es.filterMap Event.stored?) ∧
    (∀ es₁ event addr es₂ s config, event.config? = some config →
      Run (Guarded Distinct (stepOf (DataPlane.step rustls))) s₀
        (es₁ ++ .watch event addr :: es₂) s →
      (∀ e ∈ es₂, e.stored? = none) →
      ∀ (i : ℕ) (w : Worker), (∃ e, .server e ∈ es₂ ∧ e.looks i = true) →
        s.threads[i]? = some (.running w) →
        w.pipelines.map (fun pipeline => (pipeline.listenerName, pipeline.proxyConfig)) =
          config.listeners.map fun listener => (listener.name, config)) := by
  obtain ⟨config, hconfig, server, hserver, rfl, -⟩ := main_eq_ok.mp hmain
  obtain rfl := Except.ok.inj (hconfig.symm.trans hload)
  have hstored₀ : server.spawn.stored.config = config := congrArg ConfigArc.config hserver
  constructor
  · intro es s hrun
    refine ⟨(stored_of_run hrun).trans (by rw [hstored₀]), ?_⟩
    have hholds : Holds rustls (· ∈ config :: es.filterMap Event.stored?) server.spawn :=
      .spawn server (hstored₀ ▸ List.mem_cons_self)
    refine (hholds.run hrun fun e he config hnew => ?_).pipelines
    exact List.mem_cons_of_mem _ (List.mem_filterMap.mpr ⟨e, he, hnew⟩)
  · intro es₁ event addr es₂ s config' hevent hrun hquiet i w hlooks hw
    obtain ⟨s₁, hrun₁, hrun₂⟩ := hrun.split
    cases hrun₂ with
    | @cons _ s₂ _ _ _ hstep hrun₂ =>
      -- from the store on
      have hnew : s₂.stored.config = config' := by
        have hconfig' := stored_of_step hstep.2
        rw [show Event.stored? (.watch event addr) = some config' from hevent] at hconfig'
        exact hconfig'
      have hto : Run (Guarded Running.Distinct (stepOf (Running.step rustls))) server.spawn
          ((es₁ ++ [Event.watch event addr]).filterMap Event.serverEvent?) s₂ :=
        serverRun_of_run (hrun₁.append (.cons hstep (.nil s₂)))
      obtain ⟨e, he, hlook⟩ := hlooks
      have hpipelines : w.pipelines = buildPipelines s₂.stored :=
        pipelines_of_looked hto (serverRun_of_run hrun₂)
          (not_isStore_of_run hrun₂.unguarded hquiet)
          ⟨e, List.mem_filterMap.mpr ⟨_, he, rfl⟩, hlook⟩ hw
      rw [hpipelines, buildPipelines, hnew, List.map_map]
      rfl

/-- A ConfigMap with a configuration of one listener. -/
def oneListenerConfigmap (name : String) : ConfigMap where
  data := some ((∅ : BTreeMap Json).insert configKey (ProxyConfig.toJson (oneListener name)))

theorem parse_oneListenerConfigmap (name : String)
    (hread : ProxyConfig.fromJson (ProxyConfig.toJson (oneListener name)) =
      some (oneListener name)) :
    parseConfigFromConfigmap (oneListenerConfigmap name) = .ok (oneListener name) := by
  simp [parseConfigFromConfigmap, oneListenerConfigmap, hread]

/-- The listener is renamed after the worker has got to its loop. -/
def renamedDelivered : List Event :=
  [.server (.enter 0 fun _ => true)] ++ .watch (.apply (oneListenerConfigmap "b")) 1 ::
    [.server (.work 0 (.check fun _ => true))]

theorem renamedDelivered_followed :
    ∃ s₀ s w, main (.ok fun _ _ => .ok (oneListenerConfigmap "a")) ⟨"gw", "default"⟩ 0 none =
        .ok s₀ ∧
      Run (Guarded Distinct (stepOf (DataPlane.step emptyRustls))) s₀ renamedDelivered s ∧
      s.stored.config = oneListener "b" ∧ s.threads[0]? = some (.running w) ∧
      w.pipelines.map (fun pipeline => (pipeline.listenerName, pipeline.proxyConfig)) =
        [("b", oneListener "b")] := by
  have hload : loadConfigFromK8s (.ok fun _ _ => .ok (oneListenerConfigmap "a")) "default"
      (Args.configmapName ⟨"gw", "default"⟩) = .ok (oneListener "a") :=
    parse_oneListenerConfigmap "a" rfl
  have hmain : main (.ok fun _ _ => .ok (oneListenerConfigmap "a")) ⟨"gw", "default"⟩ 0 none =
      .ok (ProxyServer.spawn ⟨⟨0, oneListener "a", 0⟩, 1, Nat.one_pos⟩) :=
    main_eq_ok.mpr ⟨_, hload, _, rfl, rfl, rfl⟩
  have hevent : (WatchEvent.apply (oneListenerConfigmap "b")).config? = some (oneListener "b") :=
    congrArg Except.toOption (parse_oneListenerConfigmap "b" rfl)
  have hstore : ∀ s, DataPlane.step emptyRustls s (.watch (.apply (oneListenerConfigmap "b")) 1) =
      Running.step emptyRustls s (.store 1 (oneListener "b")) := by
    intro s
    simp only [DataPlane.step, hevent]
  obtain ⟨s, w, hrun, hw⟩ : ∃ s w, Run (Guarded Distinct (stepOf (DataPlane.step emptyRustls)))
      (ProxyServer.spawn ⟨⟨0, oneListener "a", 0⟩, 1, Nat.one_pos⟩) renamedDelivered s ∧
        s.threads[0]? = some (.running w) := by
    refine ⟨_, _, .cons ⟨fun e he => ?_, rfl⟩ (.cons ⟨fun e he => ?_, (hstore _).trans rfl⟩
      (.cons ⟨fun e he => ?_, rfl⟩ (.nil _))), rfl⟩
    · cases he
      trivial
    · rw [Event.serverEvent?, hevent] at he
      obtain rfl := Option.mem_some.mp he
      -- what is compared is the address the process was started with
      intro i w hw
      rcases i with _ | i <;> cases hw
      exact Nat.one_ne_zero
    · cases he
      trivial
  have hfollows := follows_configmap emptyRustls hmain hload
  refine ⟨_, s, w, hmain, hrun, ?_, hw, ?_⟩
  · rw [(hfollows.1 _ s hrun.unguarded).1]
    simp only [renamedDelivered, List.singleton_append, List.filterMap_cons, Event.stored?, hevent,
      List.filterMap_nil, List.getLast?_singleton, Option.getD_some]
  · exact hfollows.2 _ _ _ _ s _ hevent hrun (by simp [Event.stored?]) 0 w
      ⟨.work 0 (.check fun _ => true), by simp, rfl⟩ hw

end Multiway.DataPlane
