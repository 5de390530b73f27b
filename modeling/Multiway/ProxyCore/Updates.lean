import Multiway.ProxyCore.Threads

/-!
# A configuration reaches every worker

Each worker looks at what is stored at the head of its own loop, and remembers
what it has built by address. As long as no configuration is stored at an
address that some worker still compares with (`Running.Distinct`), one look is
enough: whoever has looked since the last store has the pipelines of what is
stored, so any two that have looked serve alike (`pipelines_of_looked`).
-/

namespace Multiway.ProxyCore.Server

open Multiway.Lib

variable {rustls : Rustls} {s s' s₁ : Running} {w w' : Worker} {i : ℕ}

/-- No store is at the address that is compared. -/
def Worker.Distinct (w : Worker) : Event → Prop
  | .store addr _ => addr ≠ w.configPtr
  | _ => True

def Running.Distinct (s : Running) : ServerEvent → Prop
  | .store addr _ => ∀ (i : ℕ) (w : Worker), s.threads[i]? = some (.running w) → addr ≠ w.configPtr
  | _ => True

theorem Running.Distinct.seenBy {e : ServerEvent} {e' : Event} (h : s.Distinct e)
    (hstep : s.step rustls e = some s') (hw : s.threads[i]? = some (.running w))
    (hseen : e.seenBy i = some e') : w.Distinct e' := by
  cases Running.transition_of_step hstep with
  | store =>
    cases hseen
    exact h i w hw
  | shutdown =>
    cases hseen
    trivial
  | @work j own _ _ _ hown =>
    simp only [ServerEvent.seenBy, Option.ite_none_right_eq_some, Option.some.injEq] at hseen
    obtain ⟨-, rfl⟩ := hseen
    cases own with
    | store => cases hown
    | _ => trivial
  | enter | abort | panic => cases hseen

/-- What the remembered address says about the pipelines. -/
structure Follows (w : Worker) : Prop where
  ptr : w.configPtr = w.loaded.addr
  pipelines : w.pipelines = buildPipelines w.loaded
  stored : w.stored.addr = w.loaded.addr → w.stored = w.loaded
  unchanged : w.storedSince = false → w.stored = w.loaded

theorem Follows.step {e : Event} (h : Follows w) (hdistinct : w.Distinct e)
    (hstep : Server.step rustls w e = some w') : Follows w' := by
  cases transition_of_step hstep with
  | store hfree =>
    refine ⟨h.ptr, h.pipelines, ?_, nofun⟩
    intro hsame
    exact absurd (hsame.trans h.ptr.symm) hdistinct
  | proceed hphase hon haddr =>
    exact ⟨h.ptr, h.pipelines, h.stored, fun _ => h.stored (haddr.trans h.ptr)⟩
  | rebuild => exact ⟨rfl, rfl, fun _ => rfl, fun _ => rfl⟩
  | shutdown | stop | skip | serve | finish | endRound =>
    exact ⟨h.ptr, h.pipelines, h.stored, h.unchanged⟩

theorem Follows.of_start {arc : ConfigArc} {binds : ℕ → Bool} {shutdown : Bool}
    (h : Worker.start rustls arc binds = some w) : Follows { w with shutdown } := by
  obtain ⟨-, -, rfl⟩ := start_eq_some.mp h
  exact ⟨rfl, rfl, fun _ => rfl, fun _ => rfl⟩

/-- Every worker that is in its loop does. -/
structure Running.Following (s : Running) : Prop where
  shared : s.Shared
  follows : ∀ (i : ℕ) (w : Worker), s.threads[i]? = some (.running w) → Follows w

theorem ProxyServer.following_spawn (server : ProxyServer) : server.spawn.Following where
  shared := server.shared_spawn
  follows i w h := by
    have hspawned := List.eq_of_mem_replicate (List.mem_of_getElem? h)
    cases hspawned

theorem Running.Following.step {e : ServerEvent} (h : s.Following)
    (hstep : Guarded Running.Distinct (stepOf (Running.step rustls)) s e s') : s'.Following := by
  obtain ⟨hdistinct, hstep⟩ := hstep
  exact ⟨h.shared.step hstep, fun i => Running.worker_keeps h.shared hstep
    (fun binds w₀ hstart => .of_start hstart)
    (fun w w' e' hw hseen hworker _ hfollows =>
      hfollows.step (hdistinct.seenBy hstep hw hseen) hworker) (h.follows i)⟩

/-! ## Looking -/

def ServerEvent.isStore : ServerEvent → Bool
  | .store _ _ => true
  | _ => false

/-- Worker `i` loads what is stored. -/
def ServerEvent.looks (i : ℕ) : ServerEvent → Bool
  | .enter j _ | .work j (.check _) => j == i
  | _ => false

/-- A worker that looks knows of every store, and only a store changes that. -/
theorem unchanged_of_step {e : ServerEvent} (hshared : s.Shared)
    (hstep : s.step rustls e = some s') (hstore : e.isStore = false)
    (hw' : s'.threads[i]? = some (.running w'))
    (h : e.looks i = true ∨
      ∀ w : Worker, s.threads[i]? = some (.running w) → w.storedSince = false) :
    w'.storedSince = false := by
  rcases Running.worker_of_step hshared hstep hw' with
    ⟨binds, w₀, -, -, hstart, rfl⟩ | ⟨w, hw, hsteps⟩
  · obtain ⟨-, -, rfl⟩ := start_eq_some.mp hstart
    rfl
  · cases e with
    | store => cases hstore
    | shutdown =>
      cases transition_of_step hsteps.1 with
      | shutdown => exact h.resolve_left Bool.false_ne_true w hw
    | enter j binds =>
      obtain rfl : w' = w := hsteps
      refine h.resolve_left (fun hlooks => ?_) w' hw
      -- a thread that enters has no worker yet
      obtain rfl : j = i := by simpa [ServerEvent.looks] using hlooks
      cases Running.transition_of_step hstep with
      | enter hspawned =>
        rw [hspawned] at hw
        cases hw
    | abort | panic =>
      obtain rfl : w' = w := hsteps
      exact h.resolve_left Bool.false_ne_true w' hw
    | work j e =>
      by_cases hij : j = i
      · rw [ServerEvent.seenBy, if_pos hij] at hsteps
        obtain ⟨hworker, hlooping⟩ := hsteps
        cases transition_of_step hworker with
        | store | shutdown =>
          cases Running.transition_of_step hstep with
          | work _ hown => cases hown
        | stop => exact absurd rfl hlooping
        | proceed | rebuild => rfl
        | skip | serve | finish | endRound => exact h.resolve_left Bool.false_ne_true w hw
      · rw [ServerEvent.seenBy, if_neg hij] at hsteps
        obtain rfl : w' = w := hsteps
        refine h.resolve_left (fun hlooks => ?_) w' hw
        cases e with
        | check => exact hij (by simpa [ServerEvent.looks] using hlooks)
        | _ => cases hlooks

theorem stored_of_step {e : ServerEvent} (hstep : s.step rustls e = some s')
    (hstore : e.isStore = false) : s'.stored = s.stored := by
  cases Running.transition_of_step hstep with
  | store => cases hstore
  | _ => rfl

theorem unchanged_of_run {es : List ServerEvent} (hfollowing : s₁.Following)
    (hrun : Run (Guarded Running.Distinct (stepOf (Running.step rustls))) s₁ es s)
    (hquiet : ∀ e ∈ es, e.isStore = false) (hlooks : ∃ e ∈ es, e.looks i = true) :
    s.stored = s₁.stored ∧
      ∀ w : Worker, s.threads[i]? = some (.running w) → Follows w ∧ w.storedSince = false := by
  have hguarded := hrun.guarded fun e he _ => hquiet e he
  have hfollowing' : s.Following :=
    hrun.invariant (fun _ _ _ hstep hs => hs.step hstep) hfollowing
  have hstored : s.stored = s₁.stored := hguarded.invariant (P := fun s => s.stored = s₁.stored)
    (fun s e s' hstep hs => (stored_of_step hstep.2.2 hstep.1).trans hs) rfl
  have hsince := hguarded.brought (I := Running.Following)
    (Q := fun s => ∀ w : Worker, s.threads[i]? = some (.running w) → w.storedSince = false)
    (p := fun e => e.looks i = true) (fun _ _ _ hstep hs => hs.step hstep.2)
    (fun _ _ _ hstep hs hlooks _ hw =>
      unchanged_of_step hs.shared hstep.2.2 hstep.1 hw (.inl hlooks))
    (fun _ _ _ hstep hs hsince _ hw =>
      unchanged_of_step hs.shared hstep.2.2 hstep.1 hw (.inr hsince)) hfollowing hlooks
  exact ⟨hstored, fun w hw => ⟨hfollowing'.follows i w hw, hsince w hw⟩⟩

/-- Who has looked has the pipelines of what is stored. -/
theorem pipelines_of_looked {server : ProxyServer} {es₁ es₂ : List ServerEvent}
    (hrun₁ : Run (Guarded Running.Distinct (stepOf (Running.step rustls))) server.spawn es₁ s₁)
    (hrun₂ : Run (Guarded Running.Distinct (stepOf (Running.step rustls))) s₁ es₂ s)
    (hquiet : ∀ e ∈ es₂, e.isStore = false) (hlooks : ∃ e ∈ es₂, e.looks i = true)
    (h : s.threads[i]? = some (.running w)) : w.pipelines = buildPipelines s₁.stored := by
  have hfollowing : s₁.Following :=
    hrun₁.invariant (fun _ _ _ hstep hs => hs.step hstep) server.following_spawn
  obtain ⟨hstored, hworkers⟩ := unchanged_of_run hfollowing hrun₂ hquiet hlooks
  obtain ⟨hfollows, hsince⟩ := hworkers w h
  have hshared : s.Shared :=
    (hrun₂.invariant (fun _ _ _ hstep hs => hs.step hstep) hfollowing).shared
  rw [hfollows.pipelines, ← hfollows.unchanged hsince, (hshared i w h).stored, hstored]

theorem proxyConfig_of_mem_buildPipelines {arc : ConfigArc} {pipeline : Pipeline}
    (h : pipeline ∈ buildPipelines arc) : pipeline.proxyConfig = arc.config := by
  obtain ⟨listener, -, rfl⟩ := List.mem_map.mp h
  rfl

/-- **It does not matter which worker gets a connection.** The workers look in
any order, between any steps of the others. Once two of them have looked since
the last store, or have only then got to their loops, a connection at the
acceptor in one position is served by the same pipeline with either, and under
what is stored. The sockets and TLS acceptors in that position are the same only
if none of them has failed to bind (`store_takes_over`). -/
theorem workers_serve_alike (rustls : Rustls) (server : ProxyServer)
    {es₁ es₂ : List ServerEvent} {j : ℕ}
    (hrun₁ : Run (Guarded Running.Distinct (stepOf (Running.step rustls))) server.spawn es₁ s₁)
    (hrun₂ : Run (Guarded Running.Distinct (stepOf (Running.step rustls))) s₁ es₂ s)
    (hquiet : ∀ e ∈ es₂, e.isStore = false)
    (hlooks : ∃ e ∈ es₂, e.looks i = true) (hlooks' : ∃ e ∈ es₂, e.looks j = true)
    (h : s.threads[i]? = some (.running w)) (h' : s.threads[j]? = some (.running w'))
    {k : ℕ} {state state' : ListenerState} {pipeline pipeline' : Pipeline}
    (hserves : w.Serves k state pipeline) (hserves' : w'.Serves k state' pipeline') :
    pipeline = pipeline' ∧ pipeline.proxyConfig = s.stored.config ∧
      s₁.stored.config.listeners[k]?.map ListenerConfig.name = some pipeline.listenerName := by
  have hpipelines := pipelines_of_looked hrun₁ hrun₂ hquiet hlooks h
  have hpipelines' := pipelines_of_looked hrun₁ hrun₂ hquiet hlooks' h'
  have hfollowing : s₁.Following :=
    hrun₁.invariant (fun _ _ _ hstep hs => hs.step hstep) server.following_spawn
  obtain ⟨hstored, -⟩ := unchanged_of_run (i := i) hfollowing hrun₂ hquiet hlooks
  have hk : (buildPipelines s₁.stored)[k]? = some pipeline := hpipelines ▸ hserves.pipeline
  have hk' : (buildPipelines s₁.stored)[k]? = some pipeline' := hpipelines' ▸ hserves'.pipeline
  refine ⟨Option.some.inj (hk.symm.trans hk'), ?_, ?_⟩
  · rw [hstored]
    exact proxyConfig_of_mem_buildPipelines (List.mem_of_getElem? hk)
  · rw [buildPipelines, List.getElem?_map] at hk
    obtain ⟨listener, hlistener, rfl⟩ := Option.map_eq_some_iff.mp hk
    rw [hlistener]
    rfl

/-- Both workers get to their loops and look. -/
def bothLook : List ServerEvent :=
  [.enter 0 fun _ => true, .enter 1 fun _ => true, .work 1 (.check fun _ => true),
    .work 0 (.check fun _ => true)]

theorem run_bothLook :
    ∃ s w w' state pipeline,
      Run (Guarded Running.Distinct (stepOf (Running.step emptyRustls))) twoThreads.spawn bothLook
          s ∧
        s.threads = [.running w, .running w'] ∧ w.Serves 0 state pipeline ∧
        w'.Serves 0 state pipeline :=
  ⟨_, _, _, _, _, .cons ⟨trivial, rfl⟩ (.cons ⟨trivial, rfl⟩ (.cons ⟨trivial, rfl⟩
    (.cons ⟨trivial, rfl⟩ (.nil _)))), rfl, ⟨⟨rfl, rfl, rfl⟩, rfl⟩, ⟨⟨rfl, rfl, rfl⟩, rfl⟩⟩

theorem workers_serve_alike_bothLook :
    ∃ s w w' state pipeline,
      Run (Guarded Running.Distinct (stepOf (Running.step emptyRustls))) twoThreads.spawn bothLook
          s ∧
        s.threads = [.running w, .running w'] ∧ w.Serves 0 state pipeline ∧
        w'.Serves 0 state pipeline ∧ pipeline.proxyConfig = s.stored.config := by
  obtain ⟨s, w, w', state, pipeline, hrun, hthreads, hserves, hserves'⟩ := run_bothLook
  have hfirst : s.threads[0]? = some (.running w) := by rw [hthreads]; rfl
  have hsecond : s.threads[1]? = some (.running w') := by rw [hthreads]; rfl
  obtain ⟨-, hconfig, -⟩ := workers_serve_alike emptyRustls twoThreads (.nil _) hrun
    (by simp [bothLook, ServerEvent.isStore])
    ⟨.work 0 (.check fun _ => true), by simp [bothLook], rfl⟩
    ⟨.work 1 (.check fun _ => true), by simp [bothLook], rfl⟩ hfirst hsecond hserves hserves'
  exact ⟨s, w, w', state, pipeline, hrun, hthreads, hserves, hserves', hconfig⟩

end Multiway.ProxyCore.Server
