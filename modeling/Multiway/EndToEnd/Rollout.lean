import Multiway.ControlPlane.Convergence
import Multiway.EndToEnd.Deployment

/-!
# A change is rolled out

From a Gateway's reconciler to the workers of its data plane there are three
things to come to: a put, let through or refused; a delivery of the ConfigMap, or
a start of the process; a look of the worker. While the cluster is steady, each
brings about what the next one needs and nothing undoes it, so a worker that has
got so far serves what the cluster asks for (`rollout_reaches_workers`).
-/

namespace Multiway.EndToEnd

open Multiway.Lib
open Multiway.Kube
open Multiway.ControlPlane (Objects System ControllerConfig GatewayConfig AdmittedTimeouts
  ComputedFrom desiredConfigmap Settling Holding Steady Job Reading shownToGateways readyGateway
  buildGatewayConfig)
open Multiway.DataPlane (Args)
open Multiway.ProxyCore (ProxyConfig Rustls)
open Multiway.ProxyCore.Server (Running Worker ServerEvent)

/-- What the cluster asks the Gateway's data plane to serve. -/
def currentConfig (cluster : Objects) (args : Args) : Option GatewayConfig :=
  (readyGateway (shownToGateways cluster) args.gatewayNamespace args.gatewayName).map fun gateway =>
    (buildGatewayConfig gateway args.gatewayNamespace (shownToGateways cluster)).1

/-- Read back, the ConfigMap that should be stored says so. -/
theorem parse_desired {cluster : Objects} {args : Args} (hadmitted : AdmittedTimeouts cluster)
    {data : Option (BTreeMap Json)}
    (hdesired : (desiredConfigmap cluster args.gatewayNamespace args.gatewayName).map
      ConfigMap.data = some data) :
    ∃ c, currentConfig cluster args = some c ∧ ∀ configmap : ConfigMap, configmap.data = data →
      DataPlane.parseConfigFromConfigmap configmap = .ok (translate c) := by
  obtain ⟨desired, hsome, hdata⟩ := Option.map_eq_some_iff.mp hdesired
  obtain ⟨gateway, hready, rfl⟩ := Option.map_eq_some_iff.mp hsome
  refine ⟨_, congrArg (Option.map _) hready, fun configmap hconfigmap => ?_⟩
  have hgateway := ControlPlane.getGateway_of_ready hready
  have hname := ControlPlane.nameAny_of_getGateway hgateway
  obtain ⟨s, hs, hfetched⟩ := ControlPlane.snapshotForGateway_spec cluster 0
    args.gatewayNamespace args.gatewayName
  -- a reconciler that fetched now would compute it
  have hsame := ControlPlane.buildGatewayConfig_shown cluster hfetched.secrets
    (hfetched.routesForGateway_eq.trans rfl) hname
  have hcomputed : ComputedFrom cluster args.gatewayNamespace args.gatewayName
      (buildGatewayConfig gateway args.gatewayNamespace (shownToGateways cluster)).1 :=
    ⟨0, .gateway args.gatewayNamespace args.gatewayName, s, gateway, rfl, hs, hgateway,
      by rw [hsame]⟩
  exact parse_of_data (ControlPlane.finiteTimeouts_of_computed hadmitted hcomputed)
    (hconfigmap.trans hdata.symm)

/-! ## The process -/

namespace World

/-- The workers of the process follow what is stored. -/
def Following (w : World) : Prop := ∀ process, w.process = some process → process.Following

def Stores (served : ProxyConfig) (w : World) : Prop :=
  ∀ process, w.process = some process → process.stored.config = served

/-- If worker `i` is in its loop, it serves under nothing else. -/
def Serves (served : ProxyConfig) (i : ℕ) (w : World) : Prop :=
  ∀ process, w.process = some process → ∀ worker : Worker,
    process.threads[i]? = some (.running worker) →
      ∀ pipeline ∈ worker.pipelines, pipeline.proxyConfig = served

/-- What is delivered is stored at an address that no worker compares with. -/
def Ordered (args : Args) (w : World) : WorldEvent → Prop
  | .deliver n addr => ∀ process configmap, w.process = some process →
    w.versions[n]? = some configmap → DataPlane.Distinct process (.watch (.apply configmap) addr)
  | e => w.Undisturbed args e

end World

variable {args : Args} {config : ControllerConfig} {rustls : Rustls} {w w' : World}
  {s s' : Running} {i : ℕ} {served : ProxyConfig}

/-- Only a store asks for an address. -/
theorem distinct_of_not_stored {e : DataPlane.Event} (hnone : e.stored? = none)
    (hstep : DataPlane.step rustls s e = some s') : DataPlane.Distinct s e := by
  rcases DataPlane.step_eq_some hstep with ⟨e', he', -, hstore⟩ | ⟨hserver, -, -⟩
  · intro e'' he''
    obtain rfl := Option.some.inj (he'.symm.trans he'')
    cases e' with
    | store addr config =>
      obtain ⟨config', hconfig⟩ := hstore.mp rfl
      rw [hnone] at hconfig
      cases hconfig
    | _ => trivial
  · intro e'' he''
    rw [hserver] at he''
    cases he''

theorem following_of_step {e : DataPlane.Event} (h : s.Following)
    (hdistinct : DataPlane.Distinct s e) (hstep : DataPlane.step rustls s e = some s') :
    s'.Following := by
  rcases DataPlane.step_eq_some hstep with ⟨e', he', hserver, -⟩ | ⟨-, -, rfl⟩
  · exact h.step ⟨hdistinct e' he', hserver⟩
  · exact h

theorem stored?_of_notice {event : DataPlane.WatchEvent} (hnone : event.configmap? = none)
    (addr : ℕ) : DataPlane.Event.stored? (.watch event addr) = none := by
  rw [DataPlane.Event.stored?, DataPlane.WatchEvent.config?, hnone, Option.bind_none]

theorem World.Following.step {e : WorldEvent} (h : w.Following)
    (hstep : Guarded (World.Ordered args) (stepOf (World.step args config rustls)) w e w') :
    w'.Following := by
  obtain ⟨hordered, hworld⟩ := hstep
  intro s hs
  cases World.transition_of_step hworld with
  | control | fail => exact h s hs
  | start hmain =>
    cases hs
    obtain ⟨_, -, server, -, rfl, -⟩ := DataPlane.main_eq_ok.mp hmain
    exact server.following_spawn
  | exit => cases hs
  | deliver hprocess hversion hserved =>
    cases hs
    exact following_of_step (h _ hprocess) (hordered _ _ hprocess hversion) hserved
  | notice hprocess hnone hserved =>
    cases hs
    exact following_of_step (h _ hprocess)
      (distinct_of_not_stored (stored?_of_notice hnone 0) hserved) hserved
  | server hprocess hserved =>
    cases hs
    exact following_of_step (h _ hprocess) (distinct_of_not_stored rfl hserved) hserved

/-- The process is started, or delivered a version. -/
def WorldEvent.brings : WorldEvent → Bool
  | .start _ _ | .deliver _ _ => true
  | _ => false

/-- Worker `i` loads what is stored. -/
def WorldEvent.looks (i : ℕ) : WorldEvent → Bool
  | .server e => e.looks i
  | _ => false

/-- A step in steady times. -/
structure World.Calm (args : Args) (data : Option (BTreeMap Json)) (w : World) (e : WorldEvent) :
    Prop where
  ordered : w.Ordered args e
  steady : ∀ event, e = .control event →
    Steady args.gatewayNamespace args.gatewayName data w.system event

/-- Of `known` versions none but the last is still delivered. -/
structure World.Recent (args : Args) (data : Option (BTreeMap Json)) (known : ℕ) (w : World)
    (e : WorldEvent) : Prop extends World.Calm args data w e where
  recent : ∀ n addr, e = .deliver n addr → n + known ≤ w.versions.length

/-- The ConfigMap is stored with the data, and had it in all but earlier versions. -/
structure World.Settled (args : Args) (data : Option (BTreeMap Json)) (known : ℕ) (w : World) :
    Prop where
  following : w.Following
  settling : Settling args.gatewayNamespace args.gatewayName data w.system
  holding : Holding args.gatewayNamespace args.gatewayName data w.system
  versions : ∀ (n : ℕ) (configmap : ConfigMap), n + known ≤ w.versions.length →
    w.versions[n]? = some configmap → configmap.data = data

/-- What is read of a ConfigMap with the data. -/
def Says (data : Option (BTreeMap Json)) (served : ProxyConfig) : Prop :=
  ∀ configmap : ConfigMap, configmap.data = data →
    DataPlane.parseConfigFromConfigmap configmap = .ok served

variable {data : Option (BTreeMap Json)} {known : ℕ}

theorem World.settling_of_step {e : WorldEvent}
    (h : Settling args.gatewayNamespace args.gatewayName data w.system)
    (hsteady : ∀ event, e = .control event →
      Steady args.gatewayNamespace args.gatewayName data w.system event)
    (hstep : World.step args config rustls w e = some w') :
    Settling args.gatewayNamespace args.gatewayName data w'.system := by
  cases World.transition_of_step hstep with
  | control hcontrol => exact h.step (hsteady _ rfl) hcontrol
  | _ => exact h

theorem World.versions_after {system : System} {configmap : ConfigMap}
    (hget : system.cluster.configmaps.get? (configmapKey args) = some configmap) :
    (w.after args system).versions = configmap :: w.versions := by
  show (system.cluster.configmaps.get? (configmapKey args)).toList ++ w.versions = _
  rw [hget]
  rfl

/-- **What is settled stays.** -/
theorem World.Settled.step {e : WorldEvent} (h : w.Settled args data known)
    (hstep : Guarded (World.Recent args data known) (stepOf (World.step args config rustls))
      w e w') : w'.Settled args data known := by
  obtain ⟨hrecent, hworld⟩ := hstep
  have hfollowing := h.following.step ⟨hrecent.ordered, hworld⟩
  have hsettling := World.settling_of_step h.settling hrecent.steady hworld
  cases World.transition_of_step hworld with
  | control hcontrol =>
    have hholding := h.holding.step h.settling (hrecent.steady _ rfl) hcontrol
    obtain ⟨stored, hget, hdata⟩ := hholding
    have hversions : (w.after args _).versions = stored :: w.versions := World.versions_after hget
    refine ⟨hfollowing, hsettling, ⟨stored, hget, hdata⟩, fun n configmap hn hversion => ?_⟩
    rw [hversions] at hn hversion
    cases n with
    | zero =>
      obtain rfl := Option.some.inj hversion
      exact hdata
    | succ n =>
      rw [List.length_cons] at hn
      exact h.versions n configmap (by omega) hversion
  | _ => exact ⟨hfollowing, hsettling, h.holding, h.versions⟩

theorem World.Settled.loads (h : w.Settled args data known) (hreads : Says data served) :
    DataPlane.loadConfigFromK8s (readConfigmap w.system.cluster) args.gatewayNamespace
      args.configmapName = .ok served := by
  obtain ⟨configmap, hget, hdata⟩ := h.holding
  have hread : w.system.cluster.configmaps.get? (args.gatewayNamespace, args.configmapName) =
      some configmap := hget
  unfold DataPlane.loadConfigFromK8s readConfigmap
  simp only [hread]
  exact hreads configmap hdata

theorem World.Settled.starts (h : w.Settled args data known) (hreads : Says data served)
    (addr : ℕ) (availableParallelism : Option ℕ+) :
    ∃ process, DataPlane.main (readConfigmap w.system.cluster) args addr availableParallelism =
      .ok process ∧ process.stored.config = served := by
  have hpositive : 0 < (availableParallelism.map PNat.val).getD 1 := by
    cases availableParallelism with
    | none => exact Nat.one_pos
    | some n => exact n.pos
  exact ⟨_, DataPlane.main_eq_ok.mpr ⟨served, h.loads hreads, ⟨⟨addr, served, 0⟩, _, hpositive⟩, rfl,
    rfl, rfl⟩, rfl⟩

/-- **Stored**: a start or a delivery brings it about, and nothing undoes it. -/
theorem World.Settled.stores {e : WorldEvent} (h : w.Settled args data known)
    (hreads : Says data served)
    (hstep : Guarded (World.Recent args data known) (stepOf (World.step args config rustls)) w e w')
    (hstores : w.Stores served ∨ e.brings = true) : w'.Stores served := by
  obtain ⟨hrecent, hworld⟩ := hstep
  intro s hs
  cases World.transition_of_step hworld with
  | control => exact hstores.resolve_right Bool.false_ne_true s hs
  -- a start reads what is stored, and that has settled
  | @start addr availableParallelism process hmain =>
    cases hs
    obtain ⟨process', hstarts, hserved⟩ := h.starts hreads addr availableParallelism
    obtain rfl := Except.ok.inj (hmain.symm.trans hstarts)
    exact hserved
  | @fail addr availableParallelism e hmain =>
    obtain ⟨process', hstarts, -⟩ := h.starts hreads addr availableParallelism
    rw [hmain] at hstarts
    cases hstarts
  | exit => cases hs
  -- a version that is recent enough has the same data
  | @deliver n addr process process' configmap hprocess hversion hserved =>
    cases hs
    have hparse := hreads configmap
      (h.versions n configmap (hrecent.recent n addr rfl) hversion)
    have hstored : DataPlane.Event.stored? (.watch (.apply configmap) addr) = some served := by
      show (DataPlane.parseConfigFromConfigmap configmap).toOption = some served
      rw [hparse]
      rfl
    rw [DataPlane.stored_of_step hserved, hstored, Option.getD_some]
  | notice hprocess hnone hserved =>
    cases hs
    rw [DataPlane.stored_of_step hserved, stored?_of_notice hnone 0]
    exact hstores.resolve_right Bool.false_ne_true _ hprocess
  | server hprocess hserved =>
    cases hs
    rw [DataPlane.stored_of_step hserved]
    exact hstores.resolve_right Bool.false_ne_true _ hprocess

end Multiway.EndToEnd
