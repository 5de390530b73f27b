import Multiway.ProxyCore.Threads

/-!
# Shutting down

Once the flag is set no acceptor has another turn, a connection that is being
served is served to its end, and every worker leaves its loop at its head: three
steps at most (`Phase.remaining`). So `run` returns, whatever order the threads
go on in, unless the scheduler forgets one or a client holds its connection
open, for which no time limit is set (`drains`).
-/

namespace Multiway.ProxyCore.Server

open Multiway.Lib

/-- How many steps a worker has still to take once the flag is set. -/
def Phase.remaining : Phase → ℕ
  | .top => 1
  | .accepting _ => 2
  | .serving _ => 3
  | .stopped => 0

def Thread.remaining : Thread → ℕ
  | .spawned => 2
  | .running worker => worker.phase.remaining
  | .ended _ => 0

def Running.remaining (s : Running) : ℕ := (s.threads.map Thread.remaining).sum

/-- A step that one of the threads takes. -/
def ServerEvent.isOfThread : ServerEvent → Bool
  | .store _ _ | .shutdown => false
  | _ => true

/-- An acceptor has its turn. -/
def ServerEvent.isAccept : ServerEvent → Bool
  | .work _ (.accept _) => true
  | _ => false

variable {rustls : Rustls} {s s' s₁ : Running} {w w' : Worker} {i : ℕ}

theorem Phase.remaining_le (phase : Phase) : phase.remaining ≤ 3 := by
  cases phase with
  | top => exact Nat.le_of_ble_eq_true rfl
  | accepting => exact Nat.le_of_ble_eq_true rfl
  | serving => exact le_rfl
  | stopped => exact Nat.zero_le 3

theorem Thread.remaining_le (thread : Thread) : thread.remaining ≤ 3 := by
  cases thread with
  | running worker => exact worker.phase.remaining_le
  | spawned => exact Nat.le_of_ble_eq_true rfl
  | ended => exact Nat.zero_le 3

theorem Thread.remaining_store (arc : ConfigArc) (thread : Thread) :
    (thread.store arc).remaining = thread.remaining := by
  cases thread <;> rfl

theorem Thread.remaining_signal (thread : Thread) : thread.signal.remaining = thread.remaining := by
  cases thread <;> rfl

theorem Thread.remaining_ofWorker (worker : Worker) :
    (Thread.ofWorker worker).remaining = worker.phase.remaining := by
  unfold Thread.ofWorker
  split
  next hstopped =>
    rw [hstopped]
    rfl
  next => rfl

/-- Who gets to the loop after the signal leaves it at its head. -/
theorem Thread.remaining_enter (rustls : Rustls) (arc : ConfigArc) (shutdown : Bool)
    (binds : ℕ → Bool) : (Thread.enter rustls arc shutdown binds).remaining ≤ 1 := by
  unfold Thread.enter
  split
  · exact Nat.zero_le 1
  · split
    · exact Nat.zero_le 1
    · exact le_rfl

theorem Running.remaining_setThread {thread : Thread} (thread' : Thread)
    (hthread : s.threads[i]? = some thread) :
    (s.setThread i thread').remaining + thread.remaining = s.remaining + thread'.remaining := by
  obtain ⟨hi, hget⟩ := List.getElem?_eq_some_iff.mp hthread
  have hsplit : s.threads = s.threads.take i ++ thread :: s.threads.drop (i + 1) := by
    rw [← hget, List.getElem_cons_drop, List.take_append_drop]
  have hset : s.threads.set i thread' = s.threads.take i ++ thread' :: s.threads.drop (i + 1) :=
    List.set_eq_take_append_cons_drop.trans (if_pos hi)
  unfold Running.remaining Running.setThread
  rw [hset]
  conv_rhs => rw [hsplit]
  simp only [List.map_append, List.map_cons, List.sum_append, List.sum_cons]
  omega

theorem Phase.remaining_pos {phase : Phase} (h : phase ≠ .stopped) : 1 ≤ phase.remaining := by
  cases phase with
  | stopped => exact absurd rfl h
  | top => exact le_rfl
  | accepting => exact Nat.le_of_ble_eq_true rfl
  | serving => exact Nat.le_of_ble_eq_true rfl

/-- A worker that finds the flag set. -/
theorem remaining_of_step {e : Event} (hshutdown : w.shutdown = true) (hown : e.isOwn = true)
    (h : step rustls w e = some w') : w'.phase.remaining + 1 ≤ w.phase.remaining := by
  cases transition_of_step h with
  | store | shutdown => cases hown
  | stop hphase =>
    rw [hphase]
    exact le_rfl
  | proceed _ hon | rebuild _ hon | skip _ hon | serve _ hon =>
    rw [hshutdown] at hon
    cases hon
  | finish hphase =>
    rw [hphase]
    exact le_rfl
  | endRound hphase =>
    rw [hphase]
    exact le_rfl

/-- The flag is set, and every worker finds it set. -/
structure Running.Signalled (s : Running) : Prop where
  shutdown : s.shutdown = true
  shared : s.Shared

theorem Running.Signalled.step {e : ServerEvent} (h : s.Signalled)
    (hstep : s.step rustls e = some s') :
    s'.Signalled ∧ s'.remaining + e.isOfThread.toNat ≤ s.remaining := by
  have hshared' := h.shared.step hstep
  cases Running.transition_of_step hstep with
  | store =>
    refine ⟨⟨h.shutdown, hshared'⟩, le_of_eq ?_⟩
    show ((s.threads.map (Thread.store _)).map Thread.remaining).sum = s.remaining
    rw [List.map_map]
    exact congrArg List.sum (List.map_congr_left fun thread _ => thread.remaining_store _)
  | shutdown =>
    refine ⟨⟨rfl, hshared'⟩, le_of_eq ?_⟩
    show ((s.threads.map Thread.signal).map Thread.remaining).sum = s.remaining
    rw [List.map_map]
    exact congrArg List.sum (List.map_congr_left fun thread _ => thread.remaining_signal)
  | @enter i binds hthread =>
    refine ⟨⟨h.shutdown, hshared'⟩, ?_⟩
    have hset := Running.remaining_setThread (.enter rustls s.stored s.shutdown binds) hthread
    have hone := Thread.remaining_enter rustls s.stored s.shutdown binds
    have htwo : Thread.spawned.remaining = 2 := rfl
    show _ + 1 ≤ _
    omega
  | @abort i e hthread =>
    refine ⟨⟨h.shutdown, hshared'⟩, ?_⟩
    have hset := Running.remaining_setThread (.ended (.error e)) hthread
    have htwo : Thread.spawned.remaining = 2 := rfl
    have hzero : (Thread.ended (.error e)).remaining = 0 := rfl
    show _ + 1 ≤ _
    omega
  -- the worker shares the flag, so its own steps only lead to its end
  | @work i e worker worker' hthread hown hwork =>
    refine ⟨⟨h.shutdown, hshared'⟩, ?_⟩
    have hset := Running.remaining_setThread (.ofWorker worker') hthread
    have hshutdown := (h.shared i worker hthread).shutdown.trans h.shutdown
    have hless := remaining_of_step hshutdown hown hwork
    rw [Thread.remaining_ofWorker] at hset
    have hthis : (Thread.running worker).remaining = worker.phase.remaining := rfl
    show _ + 1 ≤ _
    omega
  | @panic i worker hthread =>
    refine ⟨⟨h.shutdown, hshared'⟩, ?_⟩
    have hset := Running.remaining_setThread (.ended .panicked) hthread
    have hone : 1 ≤ (Thread.running worker).remaining :=
      Phase.remaining_pos (h.shared i worker hthread).looping
    have hzero : (Thread.ended .panicked).remaining = 0 := rfl
    show _ + 1 ≤ _
    omega

/-- No acceptor has a turn. -/
theorem Running.Signalled.not_accept {e : ServerEvent} (h : s.Signalled)
    (hstep : s.step rustls e = some s') : e.isAccept = false := by
  cases Running.transition_of_step hstep with
  | @work i e worker worker' hthread hown hwork =>
    have hshutdown := (h.shared i worker hthread).shutdown.trans h.shutdown
    cases Server.transition_of_step hwork with
    | skip _ hon | serve _ hon =>
      rw [hshutdown] at hon
      cases hon
    | _ => rfl
  | _ => rfl

/-! ## What is left -/

theorem Running.mapM_exit? {threads : List Thread} {exits : List Exit} :
    threads.mapM Thread.exit? = some exits ↔ threads = exits.map .ended := by
  induction threads generalizing exits with
  | nil => simp [eq_comm]
  | cons thread threads ih =>
    have hexit : ∀ exit, thread.exit? = some exit ↔ thread = .ended exit := by
      intro exit
      cases thread <;> simp [Thread.exit?]
    cases exits with
    | nil => simp [Option.bind_eq_some_iff]
    | cons exit exits => simp [Option.bind_eq_some_iff, hexit, ih]

/-- `run` returns the error of the first worker that failed. -/
theorem Running.result_eq_some_iff {result : Except IoError Unit} :
    s.result = some result ↔ s.shutdown = true ∧ ∃ exits : List Exit,
      s.threads = exits.map .ended ∧ result = match exits.findSome? Exit.error? with
        | some e => .error e
        | none => .ok () := by
  unfold Running.result
  split
  next hshutdown =>
    rw [Option.map_eq_some_iff, and_iff_right hshutdown]
    exact exists_congr fun exits => and_congr Running.mapM_exit? eq_comm
  next hshutdown => exact iff_of_false nofun fun h => hshutdown h.1

/-- The thread serves a connection, and waits for its client. -/
def Thread.Serving (thread : Thread) : Prop :=
  ∃ worker i, thread = .running worker ∧ worker.phase = .serving i

/-- Thread `i` can go on by itself: it can get to its loop, or its worker has a
step that waits for no client. -/
def Running.GoesOn (rustls : Rustls) (s : Running) (i : ℕ) : Prop :=
  (∃ binds s', s.step rustls (.enter i binds) = some s') ∨
    ∃ e s', e.isOwn = true ∧ e ≠ .finish ∧ s.step rustls (.work i e) = some s'

/-- A worker that is in its loop and serves nobody can go on. -/
theorem exists_step (rustls : Rustls) (hlooping : w.phase ≠ .stopped)
    (hserving : ∀ i, w.phase ≠ .serving i) :
    ∃ e, e.isOwn = true ∧ e ≠ .finish ∧ ∃ w', step rustls w e = some w' := by
  cases hphase : w.phase with
  | top =>
    refine ⟨.check fun _ => true, rfl, (fun h => by cases h), ?_⟩
    rw [step, if_pos hphase]
    split
    · exact ⟨_, rfl⟩
    · split <;> exact ⟨_, rfl⟩
  | accepting i =>
    by_cases hend : (w.shutdown || decide (w.listenerStates.length ≤ i)) = true
    · refine ⟨.endRound, rfl, (fun h => by cases h), ?_⟩
      simp only [step, hphase, hend, if_true, Option.some.injEq, exists_eq']
    · obtain ⟨hon, hi⟩ : w.shutdown = false ∧ i < w.listenerStates.length := by simpa using hend
      exact ⟨.accept false, rfl, (fun h => by cases h), by simp [step, hphase, hon, hi]⟩
  | serving i => exact absurd hphase (hserving i)
  | stopped => exact absurd hphase hlooping

/-- While it serves a connection, a worker does nothing else. -/
theorem not_serving_of_step {e : Event} (hown : e.isOwn = true) (hfinish : e ≠ .finish)
    (hstep : step rustls w e = some w') : ∀ i, w.phase ≠ .serving i := by
  intro i hserving
  cases transition_of_step hstep with
  | store | shutdown => cases hown
  | finish => exact hfinish rfl
  | stop hphase | proceed hphase | rebuild hphase | skip hphase | serve hphase | endRound hphase =>
    rw [hserving] at hphase
    cases hphase

/-- Nothing but a connection that it serves, or its end, keeps a thread from
going on. -/
theorem Running.goesOn_iff {thread : Thread} (hshared : s.Shared)
    (hthread : s.threads[i]? = some thread) :
    s.GoesOn rustls i ↔ ¬ thread.Serving ∧ ∀ exit, thread ≠ .ended exit := by
  cases thread with
  | ended exit =>
    refine iff_of_false (fun h => ?_) fun h => h.2 exit rfl
    rcases h with ⟨binds, s', hstep⟩ | ⟨e, s', -, -, hstep⟩
    · simp [Running.step, hthread] at hstep
    · simp [Running.step, hthread] at hstep
  | spawned =>
    refine iff_of_true (.inl ⟨fun _ => true,
      s.setThread i (.enter rustls s.stored s.shutdown fun _ => true), ?_⟩)
      ⟨fun h => ?_, fun exit h => by cases h⟩
    · rw [Running.step, hthread]
    · obtain ⟨w, k, hw, -⟩ := h
      cases hw
  | running worker =>
    constructor
    · intro h
      refine ⟨fun hserves => ?_, fun exit hended => by cases hended⟩
      obtain ⟨w, k, hw, hserving⟩ := hserves
      cases hw
      rcases h with ⟨binds, s', hstep⟩ | ⟨e, s', hown, hfinish, hstep⟩
      · simp [Running.step, hthread] at hstep
      · simp only [Running.step, hthread, hown, if_true, Option.map_eq_some_iff] at hstep
        obtain ⟨w', hwork, -⟩ := hstep
        exact not_serving_of_step hown hfinish hwork k hserving
    · intro h
      obtain ⟨e, hown, hfinish, w', hwork⟩ :=
        exists_step rustls (hshared i worker hthread).looping fun k hserving =>
          h.1 ⟨worker, k, rfl, hserving⟩
      refine .inr ⟨e, s.setThread i (.ofWorker w'), hown, hfinish, ?_⟩
      simp only [Running.step, hthread, hown, if_true, hwork, Option.map_some]

/-- When all threads have ended, `run` returns. -/
theorem Running.Signalled.returns (h : s.Signalled)
    (hended : ∀ thread ∈ s.threads, ∃ exit, thread = .ended exit) :
    ∃ result, s.result = some result := by
  have hexits : s.threads ∈ Set.range (List.map Thread.ended) := by
    rw [Set.range_list_map]
    exact fun thread hmem => (hended thread hmem).imp fun _ => Eq.symm
  obtain ⟨exits, hexits⟩ := hexits
  exact ⟨_, Running.result_eq_some_iff.mpr ⟨h.shutdown, exits, hexits.symm, rfl⟩⟩

theorem ProxyServer.length_threads_of_run (server : ProxyServer) {es : List ServerEvent}
    (hrun : Run (stepOf (Running.step rustls)) server.spawn es s) :
    s.threads.length = server.workerThreads := by
  refine hrun.invariant (P := fun s => s.threads.length = server.workerThreads) ?_
    List.length_replicate
  intro s e s' hstep hlength
  cases Running.transition_of_step hstep with
  | store | shutdown => exact (List.length_map _).trans hlength
  | _ => exact List.length_set.trans hlength

/-- **A server drains.** From the signal on, in whatever order the threads go
on, with whatever is still stored: no acceptor has another turn, the threads
take at most three steps each, only a client whose connection it serves keeps a
thread from going on to its end, and when all have come to theirs `run` returns. -/
theorem drains (rustls : Rustls) (server : ProxyServer) {es₁ es₂ : List ServerEvent}
    (hrun₁ : Run (stepOf (Running.step rustls)) server.spawn es₁ s₁)
    (hshutdown : s₁.shutdown = true) (hrun₂ : Run (stepOf (Running.step rustls)) s₁ es₂ s) :
    (∀ e ∈ es₂, e.isAccept = false) ∧
      es₂.countP ServerEvent.isOfThread ≤ 3 * server.workerThreads ∧
      (∀ i thread, s.threads[i]? = some thread →
        (s.GoesOn rustls i ↔ ¬ thread.Serving ∧ ∀ exit, thread ≠ .ended exit)) ∧
      ((∀ thread ∈ s.threads, ∃ exit, thread = .ended exit) → ∃ result, s.result = some result) := by
  have hsignalled : s₁.Signalled := ⟨hshutdown,
    hrun₁.invariant (fun _ _ _ hstep hs => hs.step hstep) server.shared_spawn⟩
  have hsignalled' : s.Signalled :=
    hrun₂.invariant (fun _ _ _ hstep hs => (hs.step hstep).1) hsignalled
  refine ⟨?_, ?_, fun _ _ => Running.goesOn_iff hsignalled'.shared, hsignalled'.returns⟩
  · -- each takes none of nothing
    have hnone := hrun₂.countdown (m := fun _ => 0) (p := ServerEvent.isAccept)
      (fun _ _ _ hstep hs => ⟨(hs.step hstep).1, by rw [hs.not_accept hstep]; exact le_rfl⟩)
      hsignalled
    rw [Nat.zero_add, Nat.le_zero, List.countP_eq_zero] at hnone
    exact fun e he => Bool.eq_false_iff.mpr (hnone e he)
  · have hcount := hrun₂.countdown (m := Running.remaining) (p := ServerEvent.isOfThread)
      (fun _ _ _ hstep hs => hs.step hstep) hsignalled
    have hbound : s₁.remaining ≤ (s₁.threads.map Thread.remaining).length • 3 := by
      refine List.sum_le_card_nsmul _ _ fun n hn => ?_
      obtain ⟨thread, -, rfl⟩ := List.mem_map.mp hn
      exact thread.remaining_le
    rw [List.length_map, server.length_threads_of_run hrun₁, smul_eq_mul] at hbound
    omega

/-- The signal comes while the first worker serves and the second has not got to
its loop. -/
def signalWhileServing : List ServerEvent :=
  [.enter 0 fun _ => true, .work 0 (.check fun _ => true), .work 0 (.accept true), .shutdown]

def drained : List ServerEvent :=
  [.work 0 .finish, .enter 1 fun _ => true, .work 0 .endRound, .work 0 (.check fun _ => true),
    .work 1 (.check fun _ => true)]

theorem run_signalWhileServing :
    ∃ s₁ s, execAll (Running.step emptyRustls) twoThreads.spawn signalWhileServing = some s₁ ∧
      s₁.shutdown = true ∧ execAll (Running.step emptyRustls) s₁ drained = some s ∧
      s.result.isSome = true :=
  ⟨_, _, rfl, rfl, rfl, rfl⟩

theorem drains_signalWhileServing :
    ∃ s₁ s, execAll (Running.step emptyRustls) twoThreads.spawn signalWhileServing = some s₁ ∧
      execAll (Running.step emptyRustls) s₁ drained = some s ∧ s.result.isSome = true ∧
      drained.countP ServerEvent.isOfThread ≤ 3 * 2 := by
  obtain ⟨s₁, s, hrun₁, hshutdown, hrun₂, hresult⟩ := run_signalWhileServing
  exact ⟨s₁, s, hrun₁, hrun₂, hresult,
    (drains emptyRustls twoThreads (.of_execAll hrun₁) hshutdown (.of_execAll hrun₂)).2.1⟩

end Multiway.ProxyCore.Server
