import Multiway.ProxyCore.Listeners

/-!
# The threads of a server (`proxy-core/src/server.rs`)

`ProxyServer::run` starts a thread for each worker, waits for the shutdown flag
and joins the threads in order. The workers share the `ArcSwap` and the flag and
nothing else, so to each of them the others are not there: the run of a server,
seen by one worker, is a run of `worker_loop` alone (`worker_of_run`), and what
is proved of that holds of every thread.
-/

namespace Multiway.ProxyCore.Server

open Multiway.Lib

/-! ## Building a server -/

inductive IoError
  | invalidInput (message : String)
  /-- From the operating system: a runtime or a socket. -/
  | os (message : String)
  | other (message : String)
deriving DecidableEq

structure ProxyServer where
  config : ConfigArc
  workerThreads : ℕ
  positive : 0 < workerThreads

structure ProxyServerBuilder where
  config : Option ConfigArc := none
  workerThreads : Option ℕ := none

/-- `availableParallelism` is `none` when the system cannot tell. -/
def ProxyServerBuilder.build (builder : ProxyServerBuilder) (availableParallelism : Option ℕ+) :
    Except IoError ProxyServer :=
  match builder.config with
  | none => .error (.invalidInput "config is required")
  | some config =>
    let workerThreads :=
      builder.workerThreads.getD ((availableParallelism.map PNat.val).getD 1)
    if h : workerThreads = 0 then
      .error (.invalidInput "worker_threads must be at least 1")
    else .ok ⟨config, workerThreads, Nat.pos_of_ne_zero h⟩

/-! ## Threads -/

/-- How a worker's thread ends. -/
inductive Exit
  | ok
  | error (e : IoError)
  | panicked
deriving DecidableEq

/-- What `run` makes of it. -/
def Exit.error? : Exit → Option IoError
  | .ok => none
  | .error e => some e
  | .panicked => some (.other "worker thread panicked")

inductive Thread
  /-- It has not loaded the configuration yet. -/
  | spawned
  | running (worker : Worker)
  | ended (exit : Exit)
deriving DecidableEq

namespace Thread

def live (addr : ℕ) : Thread → Bool
  | .running worker => worker.live addr
  | _ => false

/-- The next load of this worker finds `arc`. -/
def store (arc : ConfigArc) : Thread → Thread
  | .running worker => .running { worker with stored := arc, storedSince := true }
  | thread => thread

def signal : Thread → Thread
  | .running worker => .running { worker with shutdown := true }
  | thread => thread

/-- `worker_loop` up to its loop. -/
def enter (rustls : Rustls) (arc : ConfigArc) (shutdown : Bool) (binds : ℕ → Bool) : Thread :=
  match bindListeners rustls arc binds with
  | none => .ended (.error (.os "bind"))
  | some listenerStates =>
    if listenerStates.isEmpty then .ended .ok
    else .running { Worker.fresh arc listenerStates with shutdown }

/-- A worker that has left its loop has nothing to wait for: a connection is
served to its end before the loop goes on. -/
def ofWorker (worker : Worker) : Thread :=
  if worker.phase = .stopped then .ended .ok else .running worker

def exit? : Thread → Option Exit
  | .ended exit => some exit
  | _ => none

end Thread

/-- A server that runs. -/
structure Running where
  stored : ConfigArc
  shutdown : Bool := false
  threads : List Thread
deriving DecidableEq

inductive ServerEvent
  | store (addr : ℕ) (config : ProxyConfig)
  | shutdown
  /-- A worker loads the configuration and binds its listeners. -/
  | enter (i : ℕ) (binds : ℕ → Bool)
  /-- The runtime of a worker cannot be built. -/
  | abort (i : ℕ) (e : IoError)
  /-- A worker takes a step of its loop. -/
  | work (i : ℕ) (e : Event)
  | panic (i : ℕ)

/-- The steps a worker takes itself. -/
def Event.isOwn : Event → Bool
  | .store _ _ | .shutdown => false
  | _ => true

namespace Running

def setThread (s : Running) (i : ℕ) (thread : Thread) : Running :=
  { s with threads := s.threads.set i thread }

/-- A configuration lives as long as somebody holds it. -/
def live (s : Running) (addr : ℕ) : Bool :=
  s.stored.addr == addr || s.threads.any (Thread.live addr)

def store (s : Running) (arc : ConfigArc) : Running :=
  { s with stored := arc, threads := s.threads.map (Thread.store arc) }

def signal (s : Running) : Running :=
  { s with shutdown := true, threads := s.threads.map Thread.signal }

def step (rustls : Rustls) (s : Running) : ServerEvent → Option Running
  | .store addr config =>
    if s.live addr then none else some (s.store ⟨addr, config, s.stored.generation + 1⟩)
  | .shutdown => some s.signal
  | .enter i binds =>
    match s.threads[i]? with
    | some .spawned => some (s.setThread i (.enter rustls s.stored s.shutdown binds))
    | _ => none
  | .abort i e =>
    match s.threads[i]? with
    | some .spawned => some (s.setThread i (.ended (.error e)))
    | _ => none
  | .work i e =>
    match s.threads[i]? with
    | some (.running worker) =>
      if e.isOwn then
        (Server.step rustls worker e).map fun worker => s.setThread i (.ofWorker worker)
      else none
    | _ => none
  | .panic i =>
    match s.threads[i]? with
    | some (.running _) => some (s.setThread i (.ended .panicked))
    | _ => none

/-- What `run` returns, once it does: after the shutdown flag is set and every
thread is joined, the error of the first that failed. -/
def result (s : Running) : Option (Except IoError Unit) :=
  if s.shutdown then
    (s.threads.mapM Thread.exit?).map fun exits =>
      match exits.findSome? Exit.error? with
      | some e => .error e
      | none => .ok ()
  else none

/-- What a step can do. -/
inductive Transition (rustls : Rustls) (s : Running) : ServerEvent → Running → Prop
  | store {addr : ℕ} {config : ProxyConfig} (hfree : s.live addr = false) :
      Transition rustls s (.store addr config) (s.store ⟨addr, config, s.stored.generation + 1⟩)
  | shutdown : Transition rustls s .shutdown s.signal
  | enter {i : ℕ} {binds : ℕ → Bool} (hthread : s.threads[i]? = some .spawned) :
      Transition rustls s (.enter i binds)
        (s.setThread i (.enter rustls s.stored s.shutdown binds))
  | abort {i : ℕ} {e : IoError} (hthread : s.threads[i]? = some .spawned) :
      Transition rustls s (.abort i e) (s.setThread i (.ended (.error e)))
  | work {i : ℕ} {e : Event} {worker worker' : Worker}
      (hthread : s.threads[i]? = some (.running worker)) (hown : e.isOwn = true)
      (hstep : Server.step rustls worker e = some worker') :
      Transition rustls s (.work i e) (s.setThread i (.ofWorker worker'))
  | panic {i : ℕ} {worker : Worker} (hthread : s.threads[i]? = some (.running worker)) :
      Transition rustls s (.panic i) (s.setThread i (.ended .panicked))

theorem transition_of_step {rustls : Rustls} {s s' : Running} {e : ServerEvent}
    (h : step rustls s e = some s') : Transition rustls s e s' := by
  cases e with
  | store addr config =>
    simp only [step] at h
    split at h
    · cases h
    next hlive =>
      cases h
      exact .store (by simpa using hlive)
  | shutdown =>
    cases h
    exact .shutdown
  | enter i binds =>
    simp only [step] at h
    split at h
    next hthread =>
      cases h
      exact .enter hthread
    · cases h
  | abort i e =>
    simp only [step] at h
    split at h
    next hthread =>
      cases h
      exact .abort hthread
    · cases h
  | work i e =>
    simp only [step] at h
    split at h
    next worker hthread =>
      split at h
      next hown =>
        obtain ⟨worker', hstep, rfl⟩ := Option.map_eq_some_iff.mp h
        exact .work hthread hown hstep
      · cases h
    · cases h
  | panic i =>
    simp only [step] at h
    split at h
    next worker hthread =>
      cases h
      exact .panic hthread
    · cases h

end Running

/-- The threads are spawned with the configuration the server was built with. -/
def ProxyServer.spawn (server : ProxyServer) : Running where
  stored := server.config
  threads := List.replicate server.workerThreads .spawned

/-! ## What the workers share -/

/-- A worker in its loop finds what is stored, and the flag. -/
structure Running.Sees (s : Running) (w : Worker) : Prop where
  stored : w.stored = s.stored
  shutdown : w.shutdown = s.shutdown
  looping : w.phase ≠ .stopped

def Running.Shared (s : Running) : Prop :=
  ∀ (i : ℕ) (w : Worker), s.threads[i]? = some (.running w) → s.Sees w

/-- What a worker has of an event of the server. -/
def ServerEvent.seenBy (i : ℕ) : ServerEvent → Option Event
  | .store addr config => some (.store addr config)
  | .shutdown => some .shutdown
  | .work j e => if j = i then some e else none
  | _ => none

/-- A step that the worker takes, if it has anything of the event, and stays in
its loop. -/
def Worker.StepsBy (rustls : Rustls) (w : Worker) : Option Event → Worker → Prop
  | some e, w' => step rustls w e = some w' ∧ w'.phase ≠ .stopped
  | none, w' => w' = w

variable {rustls : Rustls} {s s' : Running} {w w' : Worker} {i j : ℕ}

/-- Its own steps change neither. -/
theorem shares_of_step {e : Event} (hown : e.isOwn = true) (h : step rustls w e = some w') :
    w'.stored = w.stored ∧ w'.shutdown = w.shutdown := by
  cases transition_of_step h with
  | store | shutdown => cases hown
  | _ => exact ⟨rfl, rfl⟩

theorem Thread.ofWorker_eq_running {worker : Worker} :
    Thread.ofWorker worker = .running w ↔ worker.phase ≠ .stopped ∧ worker = w := by
  unfold Thread.ofWorker
  split
  next hstopped => exact iff_of_false nofun fun h => h.1 hstopped
  next hlooping => rw [Thread.running.injEq, and_iff_right hlooping]

theorem Thread.enter_eq_running {arc : ConfigArc} {shutdown : Bool} {binds : ℕ → Bool} :
    Thread.enter rustls arc shutdown binds = .running w ↔
      ∃ w₀, Worker.start rustls arc binds = some w₀ ∧ w = { w₀ with shutdown } := by
  unfold Thread.enter Worker.start
  cases bindListeners rustls arc binds with
  | none => exact iff_of_false nofun fun ⟨_, h, _⟩ => nomatch h
  | some listenerStates =>
    by_cases hnil : listenerStates.isEmpty = true
    · simp only [hnil, if_true]
      exact iff_of_false nofun fun ⟨_, h, _⟩ => nomatch h
    · simp only [hnil, if_false, Thread.running.injEq, Bool.false_eq_true]
      constructor
      · rintro rfl
        exact ⟨_, rfl, rfl⟩
      · rintro ⟨w₀, h, rfl⟩
        rw [← Option.some.inj h]

theorem Running.getElem?_setThread {thread thread' : Thread}
    (hthread : s.threads[i]? = some thread) :
    (s.setThread i thread').threads[j]? = if i = j then some thread' else s.threads[j]? := by
  obtain ⟨hi, -⟩ := List.getElem?_eq_some_iff.mp hthread
  rw [Running.setThread, List.getElem?_set, if_pos hi]

theorem Thread.store_eq_running {arc : ConfigArc} {thread : Thread} :
    thread.store arc = .running w' ↔
      ∃ w, thread = .running w ∧ w' = { w with stored := arc, storedSince := true } := by
  cases thread with
  | running worker =>
    simp only [Thread.store, Thread.running.injEq, exists_eq_left', eq_comm]
  | spawned => exact iff_of_false nofun fun ⟨_, h, _⟩ => nomatch h
  | ended => exact iff_of_false nofun fun ⟨_, h, _⟩ => nomatch h

theorem Thread.signal_eq_running {thread : Thread} :
    thread.signal = .running w' ↔ ∃ w, thread = .running w ∧ w' = { w with shutdown := true } := by
  cases thread with
  | running worker =>
    simp only [Thread.signal, Thread.running.injEq, exists_eq_left', eq_comm]
  | spawned => exact iff_of_false nofun fun ⟨_, h, _⟩ => nomatch h
  | ended => exact iff_of_false nofun fun ⟨_, h, _⟩ => nomatch h

theorem Running.not_live {addr : ℕ} (h : s.live addr = false)
    (hthread : s.threads[i]? = some (.running w)) : w.live addr = false := by
  obtain ⟨-, hthreads⟩ := Bool.or_eq_false_iff.mp h
  exact Bool.eq_false_iff.mpr (List.any_eq_false.mp hthreads _ (List.mem_of_getElem? hthread))

/-- **One step, seen by one thread.** A worker that is in its loop after a step
has just got there, or was there and did what it has of the event. -/
theorem Running.worker_of_step {e : ServerEvent} (hshared : s.Shared)
    (hstep : s.step rustls e = some s') (h : s'.threads[i]? = some (.running w')) :
    (∃ binds w₀, e = .enter i binds ∧ s.threads[i]? = some .spawned ∧
        Worker.start rustls s.stored binds = some w₀ ∧ w' = { w₀ with shutdown := s.shutdown }) ∨
      ∃ w, s.threads[i]? = some (.running w) ∧ w.StepsBy rustls (e.seenBy i) w' := by
  cases Running.transition_of_step hstep with
  | @store addr config hfree =>
    right
    have hstored : ((s.threads[i]?).map (Thread.store ⟨addr, config, s.stored.generation + 1⟩)) =
        some (.running w') := by
      rw [← List.getElem?_map]
      exact h
    obtain ⟨thread, hthread, hw'⟩ := Option.map_eq_some_iff.mp hstored
    obtain ⟨w, rfl, rfl⟩ := Thread.store_eq_running.mp hw'
    refine ⟨w, hthread, ?_, (hshared i w hthread).looping⟩
    rw [Server.step, if_neg (Bool.eq_false_iff.mp (Running.not_live hfree hthread)),
      (hshared i w hthread).stored]
  | shutdown =>
    right
    have hsignal : (s.threads[i]?).map Thread.signal = some (.running w') := by
      rw [← List.getElem?_map]
      exact h
    obtain ⟨thread, hthread, hw'⟩ := Option.map_eq_some_iff.mp hsignal
    obtain ⟨w, rfl, rfl⟩ := Thread.signal_eq_running.mp hw'
    exact ⟨w, hthread, rfl, (hshared i w hthread).looping⟩
  -- either this is the thread that has got to its loop, or nothing happens to it
  | @enter j binds hthread =>
    rw [Running.getElem?_setThread hthread] at h
    split at h
    next hij =>
      obtain ⟨w₀, hstart, rfl⟩ := Thread.enter_eq_running.mp (Option.some.inj h)
      subst hij
      exact .inl ⟨binds, w₀, rfl, hthread, hstart, rfl⟩
    · exact .inr ⟨w', h, rfl⟩
  | @abort j e hthread =>
    rw [Running.getElem?_setThread hthread] at h
    split at h
    · cases h
    · exact .inr ⟨w', h, rfl⟩
  | @work j e worker worker' hthread hown hwork =>
    right
    rw [Running.getElem?_setThread hthread] at h
    by_cases hij : j = i
    · rw [if_pos hij] at h
      obtain ⟨hlooping, rfl⟩ := Thread.ofWorker_eq_running.mp (Option.some.inj h)
      subst hij
      refine ⟨worker, hthread, ?_⟩
      rw [ServerEvent.seenBy, if_pos rfl]
      exact ⟨hwork, hlooping⟩
    · rw [if_neg hij] at h
      refine ⟨w', h, ?_⟩
      rw [ServerEvent.seenBy, if_neg hij]
      rfl
  | @panic j worker hthread =>
    rw [Running.getElem?_setThread hthread] at h
    split at h
    · cases h
    · exact .inr ⟨w', h, rfl⟩

/-- **What a thread's worker has is kept**, if it has it when it gets to its loop
and what it sees of an event leaves it. -/
theorem Running.worker_keeps {J : Worker → Prop} {e : ServerEvent} (hshared : s.Shared)
    (hstep : s.step rustls e = some s')
    (hstart : ∀ binds w₀, Worker.start rustls s.stored binds = some w₀ →
      J { w₀ with shutdown := s.shutdown })
    (hkeep : ∀ (w w' : Worker) (e' : Event), s.threads[i]? = some (.running w) →
      e.seenBy i = some e' → Server.step rustls w e' = some w' → w'.phase ≠ .stopped → J w → J w')
    (h : ∀ w : Worker, s.threads[i]? = some (.running w) → J w) :
    ∀ w : Worker, s'.threads[i]? = some (.running w) → J w := by
  intro w' hw'
  rcases Running.worker_of_step hshared hstep hw' with
    ⟨binds, w₀, -, -, hw₀, rfl⟩ | ⟨w, hw, hsteps⟩
  · exact hstart binds w₀ hw₀
  · cases hseen : e.seenBy i with
    | none =>
      rw [hseen] at hsteps
      obtain rfl : w' = w := hsteps
      exact h w' hw
    | some e' =>
      rw [hseen] at hsteps
      exact hkeep w w' e' hw hseen hsteps.1 hsteps.2 (h w hw)

theorem ProxyServer.shared_spawn (server : ProxyServer) : server.spawn.Shared := by
  intro i w h
  have hspawned := List.eq_of_mem_replicate (List.mem_of_getElem? h)
  cases hspawned

theorem Running.Shared.step {e : ServerEvent} (h : s.Shared)
    (hstep : s.step rustls e = some s') : s'.Shared := by
  intro i w' hw'
  rcases Running.worker_of_step h hstep hw' with
    ⟨binds, w₀, rfl, -, hstart, rfl⟩ | ⟨w, hw, hsteps⟩
  · obtain ⟨-, -, rfl⟩ := start_eq_some.mp hstart
    cases Running.transition_of_step hstep with
    | enter => exact ⟨rfl, rfl, nofun⟩
  · have hsees := h i w hw
    cases Running.transition_of_step hstep with
    | store hfree =>
      obtain ⟨hworker, hlooping⟩ := hsteps
      cases Server.transition_of_step hworker with
      | store =>
        refine ⟨?_, hsees.shutdown, hlooping⟩
        rw [hsees.stored]
        rfl
    | shutdown =>
      obtain ⟨hworker, hlooping⟩ := hsteps
      cases Server.transition_of_step hworker with
      | shutdown => exact ⟨hsees.stored, rfl, hlooping⟩
    | @work j e worker worker' hthread hown hwork =>
      by_cases hij : j = i
      · rw [ServerEvent.seenBy, if_pos hij] at hsteps
        obtain ⟨hstored, hshutdown⟩ := shares_of_step hown hsteps.1
        exact ⟨hstored.trans hsees.stored, hshutdown.trans hsees.shutdown, hsteps.2⟩
      · rw [ServerEvent.seenBy, if_neg hij] at hsteps
        obtain rfl : w' = w := hsteps
        exact ⟨hsees.stored, hsees.shutdown, hsees.looping⟩
    | enter | abort | panic =>
      obtain rfl : w' = w := hsteps
      exact ⟨hsees.stored, hsees.shutdown, hsees.looping⟩

/-! ## A thread for itself -/

/-- The signal is there when the worker gets to its loop. -/
def signalled (s : Running) : List Event := if s.shutdown then [.shutdown] else []

/-- What happens to a worker that is in its loop at the end. -/
theorem Running.worker_of_run_from {es : List ServerEvent} (hshared : s.Shared)
    (hrun : Run (stepOf (Running.step rustls)) s es s')
    (h : s'.threads[i]? = some (.running w')) :
    (∃ w, s.threads[i]? = some (.running w) ∧
        Run (stepOf (Server.step rustls)) w (es.filterMap (ServerEvent.seenBy i)) w') ∨
      ∃ es₁ binds es₂ s₁ w₀, es = es₁ ++ .enter i binds :: es₂ ∧
        Run (stepOf (Running.step rustls)) s es₁ s₁ ∧
        Worker.start rustls s₁.stored binds = some w₀ ∧
        Run (stepOf (Server.step rustls)) w₀
          (signalled s₁ ++ es₂.filterMap (ServerEvent.seenBy i)) w' := by
  induction hrun with
  | nil => exact .inl ⟨w', h, .nil w'⟩
  | @cons s t s' e es hstep hrun ih =>
    rcases ih (hshared.step hstep) h with ⟨w, hw, hworker⟩ |
      ⟨es₁, binds, es₂, s₁, w₀, rfl, hrun₁, hstart, hworker⟩
    · rcases Running.worker_of_step hshared hstep hw with
        ⟨binds, w₀, rfl, -, hstart, rfl⟩ | ⟨w₀, hw₀, hsteps⟩
      · refine .inr ⟨[], binds, es, s, w₀, rfl, .nil s, hstart, ?_⟩
        refine Run.append ?_ hworker
        show Run _ w₀ (if s.shutdown then [Event.shutdown] else []) _
        obtain ⟨-, -, rfl⟩ := start_eq_some.mp hstart
        cases s.shutdown with
        | false => exact .nil _
        | true => exact .cons rfl (.nil _)
      · refine .inl ⟨w₀, hw₀, ?_⟩
        rw [List.filterMap_cons]
        cases hseen : e.seenBy i with
        | none =>
          rw [hseen] at hsteps
          obtain rfl : w = w₀ := hsteps
          exact hworker
        | some e' =>
          rw [hseen] at hsteps
          exact .cons hsteps.1 hworker
    · exact .inr ⟨e :: es₁, binds, es₂, s₁, w₀, rfl, .cons hstep hrun₁, hstart, hworker⟩

/-- **A thread does not notice the others.** Whatever the threads of a server
do, the worker that one of them runs has made a run of `worker_loop` on its own:
from what it loaded when it got there, through the stores and the signal since
and the steps it took itself. -/
theorem worker_of_run (rustls : Rustls) (server : ProxyServer) {es : List ServerEvent}
    (hrun : Run (stepOf (Running.step rustls)) server.spawn es s)
    (h : s.threads[i]? = some (.running w)) :
    ∃ es₁ binds es₂ s₁ w₀, es = es₁ ++ .enter i binds :: es₂ ∧
      Run (stepOf (Running.step rustls)) server.spawn es₁ s₁ ∧
      Worker.start rustls s₁.stored binds = some w₀ ∧
      Run (stepOf (step rustls)) w₀
        (signalled s₁ ++ es₂.filterMap (ServerEvent.seenBy i)) w := by
  rcases Running.worker_of_run_from server.shared_spawn hrun h with ⟨w₀, hw₀, -⟩ | hentered
  · have hspawned := List.eq_of_mem_replicate (List.mem_of_getElem? hw₀)
    cases hspawned
  · exact hentered

/-- Two threads that share the port of a listener. -/
def twoThreads : ProxyServer where
  config := ⟨0, oneListener "a", 0⟩
  workerThreads := 2
  positive := Nat.two_pos

/-- The second thread gets to its loop while the first serves. -/
def bothEnter : List ServerEvent :=
  [.enter 0 fun _ => true, .work 0 (.check fun _ => true), .work 0 (.accept true),
    .enter 1 fun _ => true, .work 0 .finish]

theorem worker_of_bothEnter :
    ∃ s w, execAll (Running.step emptyRustls) twoThreads.spawn bothEnter = some s ∧
      s.threads[1]? = some (.running w) ∧
      ∃ es₁ binds es₂ s₁ w₀, bothEnter = es₁ ++ .enter 1 binds :: es₂ ∧
        Run (stepOf (Running.step emptyRustls)) twoThreads.spawn es₁ s₁ ∧
        Worker.start emptyRustls s₁.stored binds = some w₀ ∧
        Run (stepOf (step emptyRustls)) w₀
          (signalled s₁ ++ es₂.filterMap (ServerEvent.seenBy 1)) w :=
  ⟨_, _, rfl, rfl, worker_of_run emptyRustls twoThreads (.of_execAll rfl) rfl⟩

end Multiway.ProxyCore.Server
