import Multiway.ControlPlane.Sufficiency
import Multiway.EndToEnd.Deployment
import Multiway.ProxyCore.CertificateFallback

/-!
# No key reaches a data plane

Neither reconciler's snapshot has Secrets in it. So every certificate reference
of a listener stays unresolved, the ConfigMap carries no certificate and no key,
and the data plane has no acceptor for any HTTPS listener: over all runs, it
never speaks anything but plaintext, at any port (`no_key_deployed`).
-/

namespace Multiway.EndToEnd

open Multiway.Lib
open Multiway.Kube
open Multiway.ControlPlane (Objects ControllerConfig GatewayConfig ComputedFrom AdmittedTimeouts)
open Multiway.DataPlane (Args)
open Multiway.ProxyCore (ProxyConfig Rustls)
open Multiway.ProxyCore.Server (Running Worker ListenerState bound)

/-- No listener has a certificate with it. -/
def Keyless (config : ProxyConfig) : Prop :=
  ∀ listener ∈ config.listeners, ∀ tls, listener.tls = some tls → tls.inlineCertificates = []

theorem inlineCertificates_resolveListenerTls {snapshot : ControlPlane.WorldSnapshot}
    (hsecrets : snapshot.secrets = ∅) {listener : GatewayListeners} {ns : String}
    {tls : ControlPlane.TlsConfig}
    (h : (ControlPlane.resolveListenerTls listener ns snapshot).1 = some tls) :
    tls.inlineCertificates = [] := by
  unfold ControlPlane.resolveListenerTls at h
  cases htls : listener.tls with
  | none =>
    rw [htls] at h
    cases h
  | some tlsSpec =>
    rw [htls] at h
    obtain rfl := Option.some.inj h
    rw [List.map_eq_nil_iff, List.filterMap_eq_nil_iff]
    exact fun ref _ => ControlPlane.resolveCertificateRef_of_no_secrets hsecrets ns ref

/-- What is computed for a Gateway names its certificates and carries none. -/
theorem keyless_of_computed {cluster : Objects} {ns name : String} {c : GatewayConfig}
    (h : ComputedFrom cluster ns name c) : Keyless (translate c) := by
  obtain ⟨now, target, snapshot, gateway, -, hfetch, -, rfl⟩ := h
  intro listener hlistener tls htls
  obtain ⟨converted, hconverted, rfl⟩ := List.mem_map.mp hlistener
  obtain ⟨l, -, rfl⟩ := List.mem_map.mp hconverted
  obtain ⟨tls', htls', rfl⟩ := Option.map_eq_some_iff.mp htls
  have hnone := inlineCertificates_resolveListenerTls
    (ControlPlane.secrets_fetchSnapshot hfetch) htls'
  show tls'.inlineCertificates.map translateInlineCertificate = []
  rw [hnone, List.map_nil]

/-- Without certificates there is no acceptor. -/
theorem Keyless.transport_bound {config : ProxyConfig} (h : Keyless config) {rustls : Rustls}
    {arc : ProxyCore.Server.ConfigArc} {listener : ProxyCore.ListenerConfig}
    (hlistener : listener ∈ config.listeners) :
    (bound rustls arc listener).transport = .plain := by
  have hnone : ProxyCore.Server.tlsAcceptor rustls listener = none := by
    rw [← Option.not_isSome_iff_eq_none]
    intro hsome
    by_cases hhttps : listener.protocol = .https
    · obtain ⟨tls, htls, hterminates⟩ :=
        (ProxyCore.Server.tlsAcceptor_isSome_iff hhttps).mp hsome
      exact hterminates.certificates (h listener hlistener tls htls)
    · rw [ProxyCore.Server.tlsAcceptor, if_neg hhttps] at hsome
      cases hsome
  unfold ListenerState.transport bound
  rw [hnone]

/-- **No key is deployed.** In every run of the deployment in which nobody else
writes the ConfigMap, whatever Secrets the cluster has and the listeners of the Gateway refer to: no version of the
ConfigMap carries a certificate, no pipeline has one, and every listener that a
worker has bound is served in plaintext, an HTTPS listener as well. -/
theorem no_key_deployed (args : Args) (config : ControllerConfig) (rustls : Rustls)
    {objects : Objects} (hadmitted : AdmittedTimeouts objects) {es : List WorldEvent} {w : World}
    (hrun : Run (Guarded (World.Undisturbed args) (stepOf (World.step args config rustls)))
      (.init objects) es w) :
    (∀ configmap ∈ w.versions, ∃ stored,
        DataPlane.parseConfigFromConfigmap configmap = .ok stored ∧ Keyless stored) ∧
      ∀ s, w.process = some s → ∀ (i : ℕ) (worker : Worker),
        s.threads[i]? = some (.running worker) →
          (∀ pipeline ∈ worker.pipelines, Keyless pipeline.proxyConfig) ∧
            ∀ state ∈ worker.listenerStates, state.transport = .plain := by
  have hsound := hrun.invariant (fun _ _ _ hstep hs => hs.step hstep) (World.Sound.init hadmitted)
  refine ⟨fun configmap hversion => ?_, fun s hprocess i worker hthread => ⟨?_, ?_⟩⟩
  · obtain ⟨c, ⟨cluster, -, hcomputed⟩, hparse⟩ :=
      (hsound.versions configmap hversion).parse hsound.admitted
    exact ⟨translate c, hparse, keyless_of_computed hcomputed⟩
  · intro pipeline hpipeline
    obtain ⟨c, ⟨cluster, -, hcomputed⟩, hconfig⟩ :=
      (hsound.process s hprocess).pipelines i worker hthread pipeline hpipeline
    rw [hconfig]
    exact keyless_of_computed hcomputed
  · intro state hstate
    obtain ⟨arc, ⟨c, ⟨cluster, -, hcomputed⟩, harc⟩, listener, hlistener, rfl⟩ :=
      (hsound.process s hprocess).listenerStates i worker hthread state hstate
    rw [harc] at hlistener
    exact (keyless_of_computed hcomputed).transport_bound hlistener

/-- The Gateway has an HTTPS listener, and the certificate it refers to is there. -/
def httpsRollout : List WorldEvent :=
  [.control (.fetch 0 0 (.gateway "default" "gw")), .control (.patch 0 ControlPlane.tlsCluster),
    .control (.get 0), .control (.put 0), .start 0 none, .server (.enter 0 fun _ => true)]

theorem admittedTimeouts_tlsCluster : AdmittedTimeouts ControlPlane.tlsCluster := by
  intro route hroute
  have hget := Store.mem_values.mp hroute
  have hempty := hget.symm.trans (Store.get?_empty _)
  cases hempty

/-- A worker has an HTTPS listener bound. -/
def bindsHttps (w : World) : Bool :=
  w.process.any fun s => (s.threads[0]?).any fun
    | .running worker => worker.listenerStates.any fun state => state.listener.protocol == .https
    | _ => false

theorem httpsRollout_served_plain :
    ∃ w s worker state,
      execAll (World.step ⟨"gw", "default"⟩ {} ProxyCore.exampleRustls)
          (.init ControlPlane.tlsCluster) httpsRollout = some w ∧
        w.process = some s ∧ s.threads[0]? = some (.running worker) ∧
        state ∈ worker.listenerStates ∧ state.listener.protocol = .https ∧
        state.transport = .plain := by
  have hserved : ((execAll (World.step ⟨"gw", "default"⟩ {} ProxyCore.exampleRustls)
      (.init ControlPlane.tlsCluster) httpsRollout).any bindsHttps) = true := rfl
  obtain ⟨w, hexec, hbinds⟩ := (Option.any_eq_true _ _).mp hserved
  obtain ⟨s, hprocess, hthreads⟩ := (Option.any_eq_true _ _).mp hbinds
  obtain ⟨thread, hthread, hstates⟩ := (Option.any_eq_true _ _).mp hthreads
  have hrun : Run (Guarded (World.Undisturbed ⟨"gw", "default"⟩)
      (stepOf (World.step ⟨"gw", "default"⟩ {} ProxyCore.exampleRustls)))
      (.init ControlPlane.tlsCluster) httpsRollout w := by
    refine Run.guarded_of_execAll hexec fun event hevent _ => ?_
    simp only [httpsRollout, List.mem_cons, List.not_mem_nil, or_false] at hevent
    rcases hevent with rfl | rfl | rfl | rfl | rfl | rfl
    · trivial
    · exact admittedTimeouts_tlsCluster
    all_goals trivial
  cases thread with
  | running worker =>
    obtain ⟨state, hstate, hhttps⟩ := List.any_eq_true.mp hstates
    obtain ⟨-, hplain⟩ := (no_key_deployed ⟨"gw", "default"⟩ {} ProxyCore.exampleRustls
      admittedTimeouts_tlsCluster hrun).2 s hprocess 0 worker hthread
    exact ⟨w, s, worker, state, hexec, hprocess, hthread, hstate, beq_iff_eq.mp hhttps,
      hplain state hstate⟩
  | _ => cases hstates

end Multiway.EndToEnd
