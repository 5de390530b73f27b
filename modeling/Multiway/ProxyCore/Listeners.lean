import Multiway.ProxyCore.Server

/-!
# What a listener does to its connections

A listener state is what `bind_listeners` made of some listener of some
configuration, in every run (`Bound`); so an HTTPS listener speaks plaintext
as soon as its TLS section gives no acceptor, for the loop takes a listener
without an acceptor for an HTTP one (`fails_closed_iff`).

The other list of the loop is the pipelines. As long as every socket can be
bound the two lists come from one configuration (`Matched`); the first rebinding
that fails leaves the listeners of an older one beside the new pipelines
(`aligned_iff`).
-/

namespace Multiway.ProxyCore.Server

open Multiway.Lib
open Multiway.Lib.Text

variable {rustls : Rustls}

/-! ## HTTPS -/

/-- The listener has a TLS section that there is an acceptor for. -/
def TerminatesTls (rustls : Rustls) (listener : ListenerConfig) : Prop :=
  ∃ tls, listener.tls = some tls ∧ Terminates rustls tls

theorem tlsAcceptor_isSome_iff {listener : ListenerConfig} (h : listener.protocol = .https) :
    (tlsAcceptor rustls listener).isSome = true ↔ TerminatesTls rustls listener := by
  unfold tlsAcceptor TerminatesTls
  rw [if_pos h]
  cases listener.tls with
  | none => exact iff_of_false nofun nofun
  | some tls =>
    simp only [Option.some.injEq, exists_eq_left', ← buildTlsAcceptor_eq_some_iff]
    rcases buildTlsAcceptor rustls tls with e | _ | resolver
    · exact iff_of_false nofun nofun
    · exact iff_of_false nofun nofun
    · exact iff_of_true rfl ⟨resolver, rfl⟩

theorem transport_bound {arc : ConfigArc} {listener : ListenerConfig}
    (h : listener.protocol = .https) :
    (bound rustls arc listener).transport ≠ .plain ↔ TerminatesTls rustls listener := by
  rw [← tlsAcceptor_isSome_iff h]
  unfold ListenerState.transport bound
  cases tlsAcceptor rustls listener with
  | none => exact iff_of_false (fun hne => hne rfl) nofun
  | some resolver => exact iff_of_true nofun rfl

/-- Only allowed configurations are stored. -/
def StoresAllowed (allowed : ProxyConfig → Prop) (_ : Worker) : Event → Prop
  | .store _ config => allowed config
  | _ => True

/-- Whatever is bound was bound for a listener of an allowed configuration. -/
structure Bound (rustls : Rustls) (allowed : ProxyConfig → Prop) (w : Worker) : Prop where
  stored : allowed w.stored.config
  states : ∀ state ∈ w.listenerStates, ∃ arc : ConfigArc, allowed arc.config ∧
    ∃ listener ∈ arc.config.listeners, state = bound rustls arc listener

theorem Bound.start {allowed : ProxyConfig → Prop} {arc : ConfigArc} {binds : ℕ → Bool}
    {w : Worker} (h : Worker.start rustls arc binds = some w) (hallowed : allowed arc.config) :
    Bound rustls allowed w := by
  obtain ⟨-, -, rfl⟩ := start_eq_some.mp h
  refine ⟨hallowed, fun state hstate => ⟨arc, hallowed, ?_⟩⟩
  obtain ⟨listener, hmem, rfl⟩ := List.mem_map.mp hstate
  exact ⟨listener, hmem, rfl⟩

theorem Bound.step {allowed : ProxyConfig → Prop} {w w' : Worker} {e : Event}
    (hstep : Guarded (StoresAllowed allowed) (stepOf (step rustls)) w e w')
    (h : Bound rustls allowed w) : Bound rustls allowed w' := by
  obtain ⟨hallowed, hstep⟩ := hstep
  cases transition_of_step hstep with
  | store hfree => exact ⟨hallowed, h.states⟩
  | rebuild hphase hon haddr =>
    refine ⟨h.stored, fun state hstate => ?_⟩
    rcases mem_rebuild hstate with hold | ⟨listener, hmem, rfl⟩
    · exact h.states state hold
    · exact ⟨w.stored, h.stored, listener, hmem, rfl⟩
  | _ => exact ⟨h.stored, h.states⟩

/-- With nobody to connect first, any listener of the first configuration has
its turn. -/
theorem exists_serves (rustls : Rustls) (arc : ConfigArc) {i : ℕ} {listener : ListenerConfig}
    (h : arc.config.listeners[i]? = some listener) :
    ∃ w₀ es w, Worker.start rustls arc (fun _ => true) = some w₀ ∧
      Run (stepOf (step rustls)) w₀ es w ∧ (∀ addr config, .store addr config ∉ es) ∧
      w.Serves i (bound rustls arc listener) ⟨listener.name, arc.config, arc.generation⟩ := by
  obtain ⟨hi, -⟩ := List.getElem?_eq_some_iff.mp h
  have hne : arc.config.listeners ≠ [] := List.length_pos_iff.mp (Nat.zero_lt_of_lt hi)
  have hstart : Worker.start rustls arc (fun _ => true) =
      some (Worker.fresh arc (arc.config.listeners.map (bound rustls arc))) :=
    start_eq_some.mpr ⟨fun _ _ => rfl, hne, rfl⟩
  have hcheck :
      stepOf (step rustls) (Worker.fresh arc (arc.config.listeners.map (bound rustls arc)))
      (.check fun _ => true)
      (Worker.fresh arc (arc.config.listeners.map (bound rustls arc))).proceed := by
    simp [stepOf, Server.step, Worker.fresh]
  refine ⟨_, .check (fun _ => true) :: List.replicate i (.accept false), _, hstart,
    .cons hcheck (run_idle rfl rfl ?_), ?_, ⟨⟨rfl, rfl, ?_⟩, ?_⟩⟩
  · simpa [Worker.proceed, Worker.fresh] using hi.le
  · simp
  · simp [Worker.proceed, Worker.fresh, h]
  · simp [Worker.proceed, Worker.fresh, buildPipelines, h]

/-- **HTTPS fails closed exactly when it cannot fail.** Whatever configurations
are allowed to be stored: no connection to an HTTPS listener is ever spoken to
in plaintext if and only if each of their HTTPS listeners has a TLS section
that an acceptor can be built from. -/
theorem fails_closed_iff (rustls : Rustls) (allowed : ProxyConfig → Prop) :
    (∀ (arc : ConfigArc) (binds : ℕ → Bool) (w₀ : Worker) (es : List Event) (w : Worker),
      allowed arc.config → Worker.start rustls arc binds = some w₀ →
      Run (Guarded (StoresAllowed allowed) (stepOf (step rustls))) w₀ es w →
      ∀ i state pipeline, w.Serves i state pipeline → state.listener.protocol = .https →
        state.transport ≠ .plain) ↔
      ∀ config, allowed config → ∀ listener ∈ config.listeners, listener.protocol = .https →
        TerminatesTls rustls listener := by
  constructor
  · intro h config hallowed listener hmem hhttps
    obtain ⟨i, hi⟩ := List.mem_iff_getElem?.mp hmem
    obtain ⟨w₀, es, w, hstart, hrun, hstores, hserves⟩ :=
      exists_serves rustls ⟨0, config, 0⟩ hi
    refine (transport_bound hhttps).mp
      (h _ _ w₀ es w hallowed hstart (hrun.guarded fun e he _ => ?_) i _ _ hserves hhttps)
    cases e with
    | store addr config => exact absurd he (hstores addr config)
    | _ => trivial
  · intro h arc binds w₀ es w hallowed hstart hrun i state pipeline hserves hhttps
    have hbound : Bound rustls allowed w :=
      hrun.invariant (fun _ _ _ hstep => Bound.step hstep) (Bound.start hstart hallowed)
    obtain ⟨arc', hallowed', listener, hmem, rfl⟩ :=
      hbound.states state (List.mem_of_getElem? hserves.state)
    exact (transport_bound hhttps).mpr (h arc'.config hallowed' listener hmem hhttps)

/-- A rustls that finds no certificate in any text. -/
def emptyRustls : Rustls where
  pemCerts _ := .ok []
  pemPrivateKey _ := .ok none
  safeDefaultProtocolVersions := .ok ()
  withSingleCert _ _ := .error "no key"
  fromDer _ _ := .error "no key"
  sniAdd _ _ := .error "no name"
  resolve
    | .single key, _ => some key
    | .sni _, none => none
    | .sni entries, some name =>
      (entries.reverse.find? fun entry => eqIgnoreAsciiCase entry.1 name).map Prod.snd

/-- A Gateway of which no certificate could be resolved. -/
def uncertified : ListenerConfig where
  name := "https"
  port := 443
  protocol := .https
  hostname := none
  tls := some { mode := .terminate, certificates := [], inlineCertificates := [] }

theorem uncertified_served_plain :
    ¬ ∀ (rustls : Rustls) (arc : ConfigArc) (binds : ℕ → Bool) (w₀ : Worker) (es : List Event)
        (w : Worker), Worker.start rustls arc binds = some w₀ →
      Run (stepOf (step rustls)) w₀ es w →
      ∀ i state pipeline, w.Serves i state pipeline → state.listener.protocol = .https →
        state.transport ≠ .plain := by
  intro hall
  obtain ⟨w₀, es, w, hstart, hrun, -, hserves⟩ :=
    exists_serves emptyRustls ⟨0, { listeners := [uncertified] }, 0⟩ (i := 0) rfl
  exact hall _ _ _ w₀ es w hstart hrun 0 _ _ hserves rfl (by decide)

/-! ## Listeners and pipelines -/

/-- Every connection that is accepted is served by the pipeline of its own
listener. -/
def Aligned (w : Worker) : Prop :=
  ∀ i state, w.Accepts i state → ∃ pipeline, w.pipelines[i]? = some pipeline ∧
    pipeline.listenerName = state.name ∧ pipeline.generation = state.generation

/-- Where the configuration has changed, all of its sockets can be bound. -/
def Rebinds (w : Worker) : Event → Prop
  | .check binds => w.stored.addr ≠ w.configPtr →
      ∀ i < w.stored.config.listeners.length, binds i = true
  | _ => True

/-- Both lists come from one configuration. -/
def Matched (rustls : Rustls) (w : Worker) : Prop :=
  ∃ arc : ConfigArc, w.listenerStates = arc.config.listeners.map (bound rustls arc) ∧
    w.pipelines = buildPipelines arc

theorem Matched.aligned {w : Worker} (h : Matched rustls w) : Aligned w := by
  obtain ⟨arc, hstates, hpipelines⟩ := h
  intro i state haccepts
  have hstate := haccepts.state
  rw [hstates, List.getElem?_map] at hstate
  obtain ⟨listener, hlistener, rfl⟩ := Option.map_eq_some_iff.mp hstate
  refine ⟨⟨listener.name, arc.config, arc.generation⟩, ?_, rfl, rfl⟩
  rw [hpipelines, buildPipelines, List.getElem?_map, hlistener, Option.map_some]

theorem Matched.step {w w' : Worker} {e : Event}
    (hstep : Guarded Rebinds (stepOf (step rustls)) w e w') (h : Matched rustls w) :
    Matched rustls w' := by
  obtain ⟨hrebinds, hstep⟩ := hstep
  cases transition_of_step hstep with
  | @rebuild binds hphase hon haddr =>
    have hbind : bindListeners rustls w.stored binds =
        some (w.stored.config.listeners.map (bound rustls w.stored)) :=
      bindListeners_eq_some.mpr ⟨hrebinds haddr, rfl⟩
    exact ⟨w.stored, by rw [Worker.rebuild, hbind]; rfl, rfl⟩
  | _ => exact h

/-- How old things are, in any run. -/
structure Aged (w : Worker) : Prop where
  ptr : w.configPtr = w.loaded.addr
  loaded : w.loaded.generation ≤ w.stored.generation
  same : w.loaded.generation = w.stored.generation → w.loaded = w.stored
  states : ∀ state ∈ w.listenerStates, state.generation ≤ w.loaded.generation
  nonempty : w.phase ≠ .stopped → w.listenerStates ≠ []

theorem Aged.fresh {arc : ConfigArc} (h : arc.config.listeners ≠ []) :
    Aged (Worker.fresh arc (arc.config.listeners.map (bound rustls arc))) where
  ptr := rfl
  loaded := le_rfl
  same _ := rfl
  states state hstate := by
    obtain ⟨listener, -, rfl⟩ := List.mem_map.mp hstate
    exact le_rfl
  nonempty _ := by simpa [Worker.fresh] using h

theorem Aged.step {w w' : Worker} {e : Event} (hstep : step rustls w e = some w') (h : Aged w) :
    Aged w' := by
  cases transition_of_step hstep with
  | store hfree =>
    have hle := h.loaded
    refine ⟨h.ptr, Nat.le_succ_of_le h.loaded, fun hsame => ?_, h.states, h.nonempty⟩
    simp only at hsame
    omega
  | @rebuild binds hphase hon haddr =>
    refine ⟨rfl, le_rfl, fun _ => rfl, ?_, ?_⟩
    · intro state hstate
      rcases mem_rebuild hstate with hold | ⟨listener, -, rfl⟩
      · exact (h.states state hold).trans h.loaded
      · exact le_rfl
    · intro hphase' hnil
      exact hphase' (if_pos (List.isEmpty_iff.mpr hnil))
  | stop => exact ⟨h.ptr, h.loaded, h.same, h.states, fun hne => absurd rfl hne⟩
  | proceed hphase | skip hphase | serve hphase | finish hphase | endRound hphase =>
    exact ⟨h.ptr, h.loaded, h.same, h.states, fun _ => h.nonempty (by simp [hphase])⟩
  | shutdown => exact ⟨h.ptr, h.loaded, h.same, h.states, h.nonempty⟩

/-- A rebinding that fails leaves old listeners beside new pipelines. -/
theorem not_aligned_of_failed {w w' : Worker} {binds : ℕ → Bool} (h : Aged w)
    (hon : w.shutdown = false) (hfails : ¬ Rebinds w (.check binds))
    (hstep : step rustls w (.check binds) = some w') :
    (∃ state, w'.Accepts 0 state) ∧ ¬ Aligned w' := by
  obtain ⟨haddr, hbinds⟩ := Classical.not_imp.mp hfails
  have hbind : bindListeners rustls w.stored binds = none := by
    cases hbind : bindListeners rustls w.stored binds with
    | none => rfl
    | some states => exact absurd (bindListeners_eq_some.mp hbind).1 hbinds
  cases transition_of_step hstep with
  | stop _ hshutdown => exact absurd hshutdown (by simp [hon])
  | proceed _ _ hsame => exact absurd hsame haddr
  | rebuild hphase _ _ =>
    obtain ⟨state, states, hstates⟩ :=
      List.exists_cons_of_ne_nil (h.nonempty (by simp [hphase]))
    have haccepts : (w.rebuild rustls binds).Accepts 0 state :=
      ⟨by simp [Worker.rebuild, hbind, hstates], hon, by simp [Worker.rebuild, hbind, hstates]⟩
    refine ⟨⟨state, haccepts⟩, fun haligned => ?_⟩
    obtain ⟨pipeline, hpipeline, -, hgeneration⟩ := haligned 0 state haccepts
    have hnew : pipeline.generation = w.stored.generation := by
      obtain ⟨listener, -, rfl⟩ := List.mem_map.mp (List.mem_of_getElem? hpipeline)
      rfl
    -- the listener is as old as what was loaded, which is not what is stored
    have hold := h.states state (by simp [hstates])
    have hloaded := h.loaded
    refine haddr ?_
    rw [h.ptr, h.same (by omega)]

/-- **Listeners and pipelines stay aligned exactly as long as every rebinding
succeeds.** In a run in which all do, every accepted connection is served by the
pipeline of the same listener and generation; and the first rebinding that
fails lets the next connection be served by another one, or by none. -/
theorem aligned_iff (rustls : Rustls) {arc : ConfigArc} {binds₀ : ℕ → Bool} {w₀ : Worker}
    (hstart : Worker.start rustls arc binds₀ = some w₀) :
    (∀ es w, Run (Guarded Rebinds (stepOf (step rustls))) w₀ es w → Aligned w) ∧
    (∀ es w binds w', Run (stepOf (step rustls)) w₀ es w → w.shutdown = false →
      ¬ Rebinds w (.check binds) → step rustls w (.check binds) = some w' →
      (∃ state, w'.Accepts 0 state) ∧ ¬ Aligned w') := by
  obtain ⟨-, hne, rfl⟩ := start_eq_some.mp hstart
  constructor
  · intro es w hrun
    have hmatched : Matched rustls w :=
      hrun.invariant (fun _ _ _ hstep => Matched.step hstep) ⟨arc, rfl, rfl⟩
    exact hmatched.aligned
  · intro es w binds w' hrun hon hfails hstep
    have haged : Aged w := hrun.invariant (fun _ _ _ hstep => Aged.step hstep) (.fresh hne)
    exact not_aligned_of_failed haged hon hfails hstep

def plainListener (name : String) : ListenerConfig where
  name
  port := 80
  protocol := .http
  hostname := none
  tls := none

def oneListener (name : String) : ProxyConfig where
  listeners := [plainListener name]

theorem oneListener_aligned :
    ∃ w₀, Worker.start emptyRustls ⟨0, oneListener "a", 0⟩ (fun _ => true) = some w₀ ∧
      ∀ es w, Run (Guarded Rebinds (stepOf (step emptyRustls))) w₀ es w → Aligned w :=
  ⟨_, rfl, (@aligned_iff emptyRustls ⟨0, oneListener "a", 0⟩ (fun _ => true) _ rfl).1⟩

/-- The port of a listener that is new is taken: its pipeline serves what the
old listener accepts. -/
def portTaken : List Event := [.store 1 (oneListener "b"), .check fun _ => false]

theorem portTaken_not_aligned :
    ¬ ∀ (rustls : Rustls) (arc : ConfigArc) (binds : ℕ → Bool) (w₀ : Worker) (es : List Event)
        (w : Worker), Worker.start rustls arc binds = some w₀ →
      Run (stepOf (step rustls)) w₀ es w → Aligned w := by
  intro hall
  have haligned := hall emptyRustls ⟨0, oneListener "a", 0⟩ (fun _ => true) _ portTaken _ rfl
    (.of_execAll rfl)
  obtain ⟨pipeline, hpipeline, hname, -⟩ := haligned 0 _ ⟨rfl, rfl, rfl⟩
  obtain rfl := Option.some.inj hpipeline
  exact absurd hname (by decide)

end Multiway.ProxyCore.Server
