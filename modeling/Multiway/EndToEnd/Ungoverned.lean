import Multiway.ControlPlane.Jurisdiction
import Multiway.EndToEnd.Deployment

/-!
# Gateways of other controllers are not served

A data plane needs a ConfigMap to start with, and the control plane writes none
for a Gateway without a class of ours. As long as nobody else writes one either,
the process of such a Gateway exits at every start (`ungoverned_never_served`).
-/

namespace Multiway.EndToEnd

open Multiway.Lib
open Multiway.Kube
open Multiway.ControlPlane (Objects System ControllerConfig Namespaced Governed WritesOnly)
open Multiway.DataPlane (Args)
open Multiway.ProxyCore (Rustls)

namespace World

variable (args : Args)

/-- Nobody else writes the ConfigMap, and whenever a snapshot is fetched, the
Gateway is not there or its class is not one that this controller has accepted. -/
def Disclaimed (w : World) : WorldEvent → Prop
  | .control (.editConfigmap configmap) => objectKey configmap ≠ configmapKey args
  | .control (.fetch _ _ _) => ¬Governed w.system.cluster args.gatewayNamespace args.gatewayName
  | _ => True

/-- There is no ConfigMap and none on its way, and there is no process. -/
structure Bare (w : World) : Prop where
  jobs : WritesOnly (fun configmap => objectKey configmap ≠ configmapKey args) w.system
  stored : w.system.cluster.configmaps.get? (configmapKey args) = none
  versions : w.versions = []
  process : w.process = none

theorem bare_init (objects : Objects) : (init objects).Bare args :=
  ⟨(fun _ _ h => by cases h), Store.get?_empty _, rfl, rfl⟩

variable {args : Args} {config : ControllerConfig} {rustls : Rustls} {w w' : World}

theorem Bare.jobs_of_step {e : ControlPlane.Event} {system : System} (h : w.Bare args)
    (hguard : w.Disclaimed args (.control e))
    (hstep : ControlPlane.step config w.system e = some system) :
    WritesOnly (fun configmap => objectKey configmap ≠ configmapKey args) system := by
  refine h.jobs.step hstep fun p now target result he hreconcile configmap hsent hkey => ?_
  subst he
  obtain ⟨ns, name, hkey', hgoverned⟩ := ControlPlane.governed_of_sent hreconcile hsent
  -- the key names the Gateway
  obtain ⟨rfl, rfl⟩ := ControlPlane.configmapKey_inj.mp
    ((hkey'.symm.trans hkey).trans configmapKey_eq)
  exact hguard hgoverned

theorem Bare.stored_of_step {e : ControlPlane.Event} {system : System} (h : w.Bare args)
    (hguard : w.Disclaimed args (.control e))
    (hstep : ControlPlane.step config w.system e = some system) :
    system.cluster.configmaps.get? (configmapKey args) = none := by
  cases hown : e.isEdit with
  | false => rw [ControlPlane.frame_of_step h.jobs hstep hown, h.stored]
  | true =>
    cases ControlPlane.transition_of_step hstep with
    | edit => exact h.stored
    | @editConfigmap configmap =>
      have hother : objectKey (ControlPlane.withResourceVersion configmap
          (some (ControlPlane.resourceVersionOf (w.system.revision + 1)))) ≠ configmapKey args :=
        hguard
      exact (Store.get?_insert_of_ne _ hother).trans h.stored
    | deleteConfigmap =>
      refine Option.eq_none_iff_forall_ne_some.mpr fun configmap hget => ?_
      have hbefore := Store.get?_of_erase hget
      rw [h.stored] at hbefore
      cases hbefore
    | fetch | patch | get | put | conflict | stop => cases hown

/-- The process does not start. -/
theorem Bare.main_ne_ok (h : w.Bare args) (addr : ℕ) (availableParallelism : Option ℕ+)
    (process : ProxyCore.Server.Running) :
    DataPlane.main (readConfigmap w.system.cluster) args addr availableParallelism ≠
      .ok process := by
  intro hmain
  obtain ⟨config, hload, -⟩ := DataPlane.main_eq_ok.mp hmain
  obtain ⟨configmap, hget, -⟩ := load_readConfigmap hload
  have hnone := h.stored.symm.trans hget
  cases hnone

theorem Bare.step {e : WorldEvent} (h : w.Bare args)
    (hstep : Guarded (World.Disclaimed args) (stepOf (World.step args config rustls)) w e w') :
    w'.Bare args := by
  obtain ⟨hguard, hworld⟩ := hstep
  cases transition_of_step hworld with
  | @control e system hcontrol =>
    have hstored := h.stored_of_step hguard hcontrol
    refine ⟨h.jobs_of_step hguard hcontrol, hstored, ?_, h.process⟩
    show (system.cluster.configmaps.get? (configmapKey args)).toList ++ w.versions = []
    rw [hstored, h.versions]
    rfl
  | start hmain => exact absurd hmain (h.main_ne_ok _ _ _)
  | fail => exact h
  | exit => exact { h with process := rfl }
  | deliver hprocess | notice hprocess | server hprocess =>
    rw [h.process] at hprocess
    cases hprocess

end World

/-- **Gateways of other controllers are not served.** In every run of the
deployment in which nobody else writes the Gateway's ConfigMap, and no snapshot is
fetched while the Gateway has a class of ours, there is no such ConfigMap and the
data plane process does not run, however often it is started. -/
theorem ungoverned_never_served (args : Args) (config : ControllerConfig) (rustls : Rustls)
    {objects : Objects} {es : List WorldEvent} {w : World}
    (hrun : Run (Guarded (World.Disclaimed args) (stepOf (World.step args config rustls)))
      (.init objects) es w) :
    w.system.cluster.configmaps.get? (configmapKey args) = none ∧ w.process = none ∧
      ∀ addr availableParallelism,
        w.step args config rustls (.start addr availableParallelism) = some w := by
  have hbare := hrun.invariant (fun _ _ _ hstep hs => hs.step hstep) (World.bare_init args objects)
  refine ⟨hbare.stored, hbare.process, fun addr availableParallelism => ?_⟩
  cases hmain : DataPlane.main (readConfigmap w.system.cluster) args addr availableParallelism with
  | ok process => exact absurd hmain (hbare.main_ne_ok _ _ _)
  | error e => simp only [World.step, hbare.process, hmain]

/-- Our controllers reconcile the other's Gateway and a route that names it, and
somebody starts a data plane. -/
def othersGateway : List WorldEvent :=
  [.control (.fetch 0 0 (.gateway "default" "gw")),
    .control (.fetch 1 0 (.httproute "default" "a")),
    .control (.patch 0 ControlPlane.foreignCluster),
    .control (.patch 1 ControlPlane.foreignCluster), .start 0 none]

theorem not_governed_foreignCluster (configmaps : Namespaced ConfigMap) :
    ¬Governed { ControlPlane.foreignCluster with configmaps } "default" "gw" :=
  fun h => ControlPlane.not_governedKey_foreignCluster configmaps ⟨"default", "gw", rfl, h⟩

theorem othersGateway_never_served :
    ∃ w, execAll (World.step ⟨"gw", "default"⟩ {} ProxyCore.Server.emptyRustls)
        (.init ControlPlane.foreignCluster) othersGateway = some w ∧
      w.system.cluster.configmaps.get? (configmapKey ⟨"gw", "default"⟩) = none ∧
      w.process = none ∧ ∀ addr availableParallelism,
        w.step ⟨"gw", "default"⟩ {} ProxyCore.Server.emptyRustls
          (.start addr availableParallelism) = some w := by
  have hrun : ∃ w, execAll (World.step ⟨"gw", "default"⟩ {} ProxyCore.Server.emptyRustls)
        (.init ControlPlane.foreignCluster) othersGateway = some w ∧
      Run (Guarded (World.Disclaimed ⟨"gw", "default"⟩)
          (stepOf (World.step ⟨"gw", "default"⟩ {} ProxyCore.Server.emptyRustls)))
        (.init ControlPlane.foreignCluster) othersGateway w :=
    ⟨_, rfl, .cons ⟨not_governed_foreignCluster _, rfl⟩
      (.cons ⟨not_governed_foreignCluster _, rfl⟩
        (.cons ⟨trivial, rfl⟩ (.cons ⟨trivial, rfl⟩ (.cons ⟨trivial, rfl⟩ (.nil _)))))⟩
  obtain ⟨w, hexec, hrun⟩ := hrun
  exact ⟨w, hexec, ungoverned_never_served _ _ _ hrun⟩

end Multiway.EndToEnd
