import Multiway.Lib.Run
import Multiway.ProxyCore.Tls

/-!
# A worker's accept loop (`proxy-core/src/server.rs`)

`worker_loop` binds the listeners of the configuration it loads, builds a
pipeline for each and then goes round: compare the stored configuration with
the one it built from, by address; rebuild if they differ; let each acceptor
take one connection and serve it to its end. Meanwhile anybody may store a new
configuration, at any address that nothing lives at (`live`). A step is
whatever happens between two points at which a store may be noticed.

The listeners and the pipelines are two lists, matched by position. The
listeners are replaced only when every socket could be bound, the pipelines
always.
-/

namespace Multiway.ProxyCore.Server

open Multiway.Lib

/-! ## State -/

/-- An `Arc<ProxyConfig>`. `generation` is bookkeeping: the stores before it. -/
structure ConfigArc where
  addr : ℕ
  config : ProxyConfig
  generation : ℕ
deriving DecidableEq

/-- A bound listener. The TCP acceptor is a socket: what is kept of it, for
bookkeeping, is the listener it was bound for and the generation of that. -/
structure ListenerState where
  name : String
  tlsAcceptor : Option CertResolver
  listener : ListenerConfig
  generation : ℕ
deriving DecidableEq

/-- How a connection is spoken to. -/
inductive Transport
  | tls (resolver : CertResolver)
  | plain
deriving DecidableEq

/-- The branch `worker_loop` takes for an accepted connection. -/
def ListenerState.transport (state : ListenerState) : Transport :=
  match state.tlsAcceptor with
  | some resolver => .tls resolver
  | none => .plain

/-- An `HttpCoreService` and what is under it. `generation` is bookkeeping. -/
structure Pipeline where
  listenerName : String
  proxyConfig : ProxyConfig
  generation : ℕ
deriving DecidableEq

/-- Where the worker is in its loop. -/
inductive Phase
  | top
  /-- about to try the acceptor at a position -/
  | accepting (i : ℕ)
  | serving (i : ℕ)
  | stopped
deriving DecidableEq

/-- The worker and the `ArcSwap` it shares. -/
structure Worker where
  stored : ConfigArc
  /-- `current_config`, which is kept to the end. -/
  currentConfig : ConfigArc
  /-- `new_config`, which is dropped at the end of a round. -/
  newConfig : Option ConfigArc := none
  configPtr : ℕ
  listenerStates : List ListenerState
  pipelines : List Pipeline
  phase : Phase := .top
  shutdown : Bool := false
  /-- Bookkeeping: what the pipelines were built from. -/
  loaded : ConfigArc
  /-- Bookkeeping: the generations that were stored when connections ended. -/
  finishedAt : List ℕ := []
  /-- Bookkeeping: a store came after the last check. -/
  storedSince : Bool := false
  /-- Bookkeeping: a connection ended after that store. -/
  finishedSince : Bool := false
deriving DecidableEq

inductive Event
  /-- A configuration is stored, in an `Arc` allocated at `addr`. -/
  | store (addr : ℕ) (config : ProxyConfig)
  | shutdown
  /-- The head of the loop. `binds i` tells whether the socket of the `i`-th
  listener can be bound. -/
  | check (binds : ℕ → Bool)
  /-- An acceptor has its turn. -/
  | accept (arrives : Bool)
  /-- The connection has been served, or its TLS handshake has failed. It is the
  client who brings this about: the loop waits for it, for as long as it takes. -/
  | finish
  | endRound

/-! ## The functions of the loop -/

section
variable (rustls : Rustls)

/-- The acceptor `bind_listeners` has for a listener; an error is logged and
leaves none. -/
def tlsAcceptor (listener : ListenerConfig) : Option CertResolver :=
  if listener.protocol = .https then
    match listener.tls with
    | some tls =>
      match buildTlsAcceptor rustls tls with
      | .ok acceptor => acceptor
      | .error _ => none
    | none => none
  else none

def bound (arc : ConfigArc) (listener : ListenerConfig) : ListenerState where
  name := listener.name
  tlsAcceptor := tlsAcceptor rustls listener
  listener
  generation := arc.generation

/-- `none` when a socket cannot be bound, which undoes those before it. -/
def bindListeners (arc : ConfigArc) (binds : ℕ → Bool) : Option (List ListenerState) :=
  if (List.range arc.config.listeners.length).all binds then
    some (arc.config.listeners.map (bound rustls arc))
  else none

def buildPipelines (arc : ConfigArc) : List Pipeline :=
  arc.config.listeners.map fun listener => ⟨listener.name, arc.config, arc.generation⟩

namespace Worker

/-- A worker before its first round. -/
def fresh (arc : ConfigArc) (listenerStates : List ListenerState) : Worker :=
  { stored := arc, currentConfig := arc, configPtr := arc.addr, listenerStates
    pipelines := buildPipelines arc, loaded := arc }

/-- `worker_loop` up to its loop, which it does not get to with a socket that
cannot be bound, or with no listeners. -/
def start (arc : ConfigArc) (binds : ℕ → Bool) : Option Worker :=
  match bindListeners rustls arc binds with
  | some listenerStates => if listenerStates.isEmpty then none else some (fresh arc listenerStates)
  | none => none

/-- Addresses at which a configuration lives. -/
def live (w : Worker) (addr : ℕ) : Bool :=
  w.stored.addr == addr || w.currentConfig.addr == addr || w.newConfig.any (·.addr == addr)

/-- The round that begins when the configuration has not changed. -/
def proceed (w : Worker) : Worker :=
  { w with
    newConfig := some w.stored, phase := .accepting 0, storedSince := false
    finishedSince := false }

/-- The round that begins when it has: the pipelines are replaced whether or
not the listeners could be. -/
def rebuild (w : Worker) (binds : ℕ → Bool) : Worker :=
  let listenerStates := (bindListeners rustls w.stored binds).getD w.listenerStates
  { w with
    newConfig := some w.stored
    configPtr := w.stored.addr
    listenerStates
    pipelines := buildPipelines w.stored
    phase := if listenerStates.isEmpty then .stopped else .accepting 0
    loaded := w.stored
    storedSince := false
    finishedSince := false }

end Worker

def step (w : Worker) : Event → Option Worker
  | .store addr config =>
    if w.live addr then none
    else
      some { w with
        stored := ⟨addr, config, w.stored.generation + 1⟩, storedSince := true }
  | .shutdown => some { w with shutdown := true }
  | .check binds =>
    if w.phase = .top then
      if w.shutdown then some { w with phase := .stopped }
      else if w.stored.addr = w.configPtr then some w.proceed
      else some (w.rebuild rustls binds)
    else none
  | .accept arrives =>
    match w.phase with
    | .accepting i =>
      if w.shutdown then none
      else if i < w.listenerStates.length then
        -- a connection without a pipeline is dropped
        if arrives && w.pipelines[i]?.isSome then some { w with phase := .serving i }
        else some { w with phase := .accepting (i + 1) }
      else none
    | _ => none
  | .finish =>
    match w.phase with
    | .serving i =>
      some { w with
        phase := .accepting (i + 1)
        finishedAt := w.stored.generation :: w.finishedAt
        finishedSince := w.storedSince }
    | _ => none
  | .endRound =>
    match w.phase with
    | .accepting i =>
      if w.shutdown || decide (w.listenerStates.length ≤ i) then
        some { w with phase := .top, newConfig := none }
      else none
    | _ => none

/-! ## What a step can do -/

inductive Transition (w : Worker) : Event → Worker → Prop
  | store {addr : ℕ} {config : ProxyConfig} (hfree : w.live addr = false) :
      Transition w (.store addr config)
        { w with stored := ⟨addr, config, w.stored.generation + 1⟩, storedSince := true }
  | shutdown : Transition w .shutdown { w with shutdown := true }
  | stop {binds : ℕ → Bool} (hphase : w.phase = .top) (hshutdown : w.shutdown = true) :
      Transition w (.check binds) { w with phase := .stopped }
  | proceed {binds : ℕ → Bool} (hphase : w.phase = .top) (hshutdown : w.shutdown = false)
      (haddr : w.stored.addr = w.configPtr) : Transition w (.check binds) w.proceed
  | rebuild {binds : ℕ → Bool} (hphase : w.phase = .top) (hshutdown : w.shutdown = false)
      (haddr : w.stored.addr ≠ w.configPtr) : Transition w (.check binds) (w.rebuild rustls binds)
  | skip {i : ℕ} {arrives : Bool} (hphase : w.phase = .accepting i)
      (hshutdown : w.shutdown = false) (hi : i < w.listenerStates.length)
      (hnone : arrives = false ∨ w.pipelines[i]? = none) :
      Transition w (.accept arrives) { w with phase := .accepting (i + 1) }
  | serve {i : ℕ} {pipeline : Pipeline} (hphase : w.phase = .accepting i)
      (hshutdown : w.shutdown = false) (hi : i < w.listenerStates.length)
      (hpipeline : w.pipelines[i]? = some pipeline) :
      Transition w (.accept true) { w with phase := .serving i }
  | finish {i : ℕ} (hphase : w.phase = .serving i) :
      Transition w .finish
        { w with
          phase := .accepting (i + 1)
          finishedAt := w.stored.generation :: w.finishedAt
          finishedSince := w.storedSince }
  | endRound {i : ℕ} (hphase : w.phase = .accepting i) :
      Transition w .endRound { w with phase := .top, newConfig := none }

end

variable {rustls : Rustls} {w w' : Worker}

theorem bindListeners_eq_some {arc : ConfigArc} {binds : ℕ → Bool} {states : List ListenerState} :
    bindListeners rustls arc binds = some states ↔
      (∀ i < arc.config.listeners.length, binds i = true) ∧
        states = arc.config.listeners.map (bound rustls arc) := by
  unfold bindListeners
  split
  next hall =>
    have hbinds : ∀ i < arc.config.listeners.length, binds i = true := by simpa using hall
    rw [Option.some.injEq, eq_comm]
    exact ⟨fun h => ⟨hbinds, h⟩, And.right⟩
  next hsome =>
    refine iff_of_false nofun fun h => hsome ?_
    simpa using h.1

/-- After a rebuild there are new listeners, or the old ones when a socket could
not be bound. -/
theorem mem_rebuild {binds : ℕ → Bool} {state : ListenerState}
    (h : state ∈ (w.rebuild rustls binds).listenerStates) :
    state ∈ w.listenerStates ∨
      ∃ listener ∈ w.stored.config.listeners, state = bound rustls w.stored listener := by
  simp only [Worker.rebuild] at h
  cases hbind : bindListeners rustls w.stored binds with
  | none =>
    rw [hbind] at h
    exact .inl h
  | some states =>
    rw [hbind, Option.getD_some, (bindListeners_eq_some.mp hbind).2] at h
    obtain ⟨listener, hmem, rfl⟩ := List.mem_map.mp h
    exact .inr ⟨listener, hmem, rfl⟩

theorem start_eq_some {arc : ConfigArc} {binds : ℕ → Bool} :
    Worker.start rustls arc binds = some w ↔
      (∀ i < arc.config.listeners.length, binds i = true) ∧ arc.config.listeners ≠ [] ∧
        w = Worker.fresh arc (arc.config.listeners.map (bound rustls arc)) := by
  unfold Worker.start
  split
  next states hbind =>
    obtain ⟨hbinds, rfl⟩ := bindListeners_eq_some.mp hbind
    by_cases hnil : arc.config.listeners = []
    · simp [hnil]
    · rw [if_neg (by simpa using hnil), Option.some.injEq, eq_comm]
      exact ⟨fun h => ⟨hbinds, hnil, h⟩, fun h => h.2.2⟩
  next hbind =>
    refine iff_of_false nofun fun h => ?_
    rw [bindListeners_eq_some.mpr ⟨h.1, rfl⟩] at hbind
    cases hbind

theorem transition_of_step {e : Event} (h : step rustls w e = some w') :
    Transition rustls w e w' := by
  cases e with
  | store addr config =>
    simp only [step] at h
    split at h
    · cases h
    next hlive =>
      cases h
      exact .store (by simpa using hlive)
  | shutdown =>
    cases h
    exact .shutdown
  | check binds =>
    simp only [step] at h
    split at h
    next hphase =>
      split at h
      next hshutdown =>
        cases h
        exact .stop hphase hshutdown
      next hshutdown =>
        have hon : w.shutdown = false := by simpa using hshutdown
        split at h
        next haddr =>
          cases h
          exact .proceed hphase hon haddr
        next haddr =>
          cases h
          exact .rebuild hphase hon haddr
    · cases h
  | accept arrives =>
    simp only [step] at h
    split at h
    next i hphase =>
      split at h
      · cases h
      next hshutdown =>
        have hon : w.shutdown = false := by simpa using hshutdown
        split at h
        next hi =>
          split at h
          next hserve =>
            cases h
            obtain ⟨rfl, hsome⟩ := Bool.and_eq_true_iff.mp hserve
            obtain ⟨pipeline, hpipeline⟩ := Option.isSome_iff_exists.mp hsome
            exact .serve hphase hon hi hpipeline
          next hskip =>
            cases h
            refine .skip hphase hon hi ?_
            cases arrives with
            | false => exact .inl rfl
            | true => exact .inr (by simpa using hskip)
        · cases h
    · cases h
  | finish =>
    simp only [step] at h
    split at h
    next i hphase =>
      cases h
      exact .finish hphase
    · cases h
  | endRound =>
    simp only [step] at h
    split at h
    next i hphase =>
      split at h
      · cases h
        exact .endRound hphase
      · cases h
    · cases h

/-! ## What a connection meets -/

/-- The acceptor at position `i` has its turn: a connection that is there is
accepted on `state`. -/
structure Worker.Accepts (w : Worker) (i : ℕ) (state : ListenerState) : Prop where
  phase : w.phase = .accepting i
  on : w.shutdown = false
  state : w.listenerStates[i]? = some state

/-- A connection that is there is accepted on `state` and served by `pipeline`. -/
structure Worker.Serves (w : Worker) (i : ℕ) (state : ListenerState) (pipeline : Pipeline) :
    Prop extends w.Accepts i state where
  pipeline : w.pipelines[i]? = some pipeline

/-! ## Rounds in which nobody connects -/

/-- The acceptors before the `i`-th have nothing to accept. -/
theorem run_idle (hphase : w.phase = .accepting 0) (hon : w.shutdown = false) :
    ∀ {i : ℕ}, i ≤ w.listenerStates.length →
      Run (stepOf (step rustls)) w (List.replicate i (.accept false))
        { w with phase := .accepting i }
  | 0, _ => by
    have hsame : { w with phase := .accepting 0 } = w := by rw [← hphase]
    rw [hsame]
    exact .nil w
  | i + 1, hi => by
    rw [List.replicate_succ']
    refine (run_idle hphase hon (Nat.le_of_succ_le hi)).append (.cons ?_ (.nil _))
    simp [stepOf, step, hon, Nat.lt_of_succ_le hi]

end Multiway.ProxyCore.Server
