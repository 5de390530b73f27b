import Multiway.ProxyCore.Shutdown
import Multiway.ProxyCore.Updates

/-!
# How soon a configuration takes over

A worker looks at what is stored once a round. In between, each acceptor has one
turn and a connection is served to its end, so there is a last moment at which
it can still use what it built before (`Worker.stepsLeft`), unless the client of
a connection it serves makes it wait (`Running.GoesOn`). From its look on it
is as if the server had been restarted on what is stored, its listeners included
where their sockets could be bound (`Renewed`).
-/

namespace Multiway.ProxyCore.Server

open Multiway.Lib

/-- How many steps a worker has still to take before it looks. -/
def Worker.stepsLeft (w : Worker) : ℕ :=
  match w.phase with
  | .accepting i => 2 * (w.listenerStates.length - i) + 1
  | .serving i => 2 * (w.listenerStates.length - i)
  | _ => 0

/-- How many acceptors have their turn before. -/
def Worker.turnsLeft (w : Worker) : ℕ :=
  match w.phase with
  | .accepting i => w.listenerStates.length - i
  | .serving i => w.listenerStates.length - (i + 1)
  | _ => 0

def Event.isCheck : Event → Bool
  | .check _ => true
  | _ => false

def Event.isTurn : Event → Bool
  | .accept _ => true
  | _ => false

/-- It serves a connection of one of its listeners. -/
def Worker.Seated (w : Worker) : Prop :=
  ∀ i, w.phase = .serving i → i < w.listenerStates.length

variable {rustls : Rustls} {s s' s₁ : Running} {w w' w₁ : Worker} {i : ℕ}

theorem Worker.stepsLeft_le (w : Worker) : w.stepsLeft ≤ 2 * w.listenerStates.length + 1 := by
  unfold Worker.stepsLeft
  split <;> omega

theorem Worker.turnsLeft_le (w : Worker) : w.turnsLeft ≤ w.listenerStates.length := by
  unfold Worker.turnsLeft
  split <;> omega

theorem Worker.Seated.step {e : Event} (h : w.Seated) (hstep : Server.step rustls w e = some w') :
    w'.Seated := by
  cases transition_of_step hstep with
  | store | shutdown => exact h
  | stop | proceed | skip | finish | endRound => exact nofun
  | rebuild =>
    intro i hphase
    simp only [Worker.rebuild] at hphase
    split at hphase <;> cases hphase
  | serve hphase hon hi =>
    intro j hserving
    cases hserving
    exact hi

/-- Unless it looks, every step of its own brings a worker nearer to it. -/
theorem stepsLeft_of_step {e : Event} (hseated : w.Seated) (hcheck : e.isCheck = false)
    (hstep : step rustls w e = some w') : w'.stepsLeft + e.isOwn.toNat ≤ w.stepsLeft := by
  cases transition_of_step hstep with
  | store | shutdown => exact le_rfl
  | stop | proceed | rebuild => cases hcheck
  | skip hphase hon hi =>
    simp only [Worker.stepsLeft, hphase, Event.isOwn, Bool.toNat_true]
    omega
  | serve hphase =>
    simp only [Worker.stepsLeft, hphase, Event.isOwn, Bool.toNat_true]
    omega
  | finish hphase =>
    have hi := hseated _ hphase
    simp only [Worker.stepsLeft, hphase, Event.isOwn, Bool.toNat_true]
    omega
  | endRound hphase =>
    simp only [Worker.stepsLeft, hphase, Event.isOwn, Bool.toNat_true]
    omega

theorem turnsLeft_of_step {e : Event} (hcheck : e.isCheck = false)
    (hstep : step rustls w e = some w') : w'.turnsLeft + e.isTurn.toNat ≤ w.turnsLeft := by
  cases transition_of_step hstep with
  | store | shutdown => exact le_rfl
  | stop | proceed | rebuild => cases hcheck
  | skip hphase hon hi =>
    simp only [Worker.turnsLeft, hphase, Event.isTurn, Bool.toNat_true]
    omega
  | serve hphase hon hi =>
    simp only [Worker.turnsLeft, hphase, Event.isTurn, Bool.toNat_true]
    omega
  | finish hphase =>
    simp only [Worker.turnsLeft, hphase, Event.isTurn, Bool.toNat_false]
    omega
  | endRound hphase =>
    simp only [Worker.turnsLeft, hphase, Event.isTurn, Bool.toNat_false]
    omega

/-! ## In a server -/

/-- Worker `i` has a step of this kind. -/
def ServerEvent.counts (i : ℕ) (kind : Event → Bool) (e : ServerEvent) : Bool :=
  (e.seenBy i).any kind

/-- What worker `i` has left, if it is in its loop. -/
def Running.left (i : ℕ) (measure : Worker → ℕ) (s : Running) : ℕ :=
  match s.threads[i]? with
  | some (.running w) => measure w
  | _ => 0

structure Running.Seated (s : Running) : Prop where
  shared : s.Shared
  seated : ∀ (i : ℕ) (w : Worker), s.threads[i]? = some (.running w) → w.Seated

theorem Running.left_eq {measure : Worker → ℕ} (h : s.threads[i]? = some (.running w)) :
    s.left i measure = measure w := by
  unfold Running.left
  rw [h]

theorem Running.left_eq_zero {measure : Worker → ℕ}
    (h : ∀ w, s.threads[i]? ≠ some (.running w)) : s.left i measure = 0 := by
  unfold Running.left
  split
  next w hw => exact absurd hw (h w)
  · rfl

theorem ProxyServer.seated_spawn (server : ProxyServer) : server.spawn.Seated where
  shared := server.shared_spawn
  seated i w h := by
    have hspawned := List.eq_of_mem_replicate (List.mem_of_getElem? h)
    cases hspawned

theorem Running.Seated.step {e : ServerEvent} (h : s.Seated)
    (hstep : s.step rustls e = some s') : s'.Seated := by
  refine ⟨h.shared.step hstep, fun i => Running.worker_keeps h.shared hstep
    (fun binds w₀ hstart => ?_) (fun _ _ _ _ _ hworker _ hseated => hseated.step hworker)
    (h.seated i)⟩
  obtain ⟨-, -, rfl⟩ := start_eq_some.mp hstart
  exact nofun

theorem isCheck_of_looks {e : ServerEvent} {e' : Event} (hlooks : e.looks i = false)
    (hseen : e.seenBy i = some e') : e'.isCheck = false := by
  cases e with
  | store | shutdown =>
    cases hseen
    rfl
  | work j own =>
    simp only [ServerEvent.seenBy, Option.ite_none_right_eq_some, Option.some.injEq] at hseen
    obtain ⟨rfl, rfl⟩ := hseen
    cases own with
    | check => exact absurd hlooks (by simp [ServerEvent.looks])
    | _ => rfl
  | enter | abort | panic => cases hseen

/-- A step that counts is one that the worker takes itself. -/
theorem own_step_of_counts {kind : Event → Bool} (hkind : ∀ e, kind e = true → e.isOwn = true)
    {e : ServerEvent} (hstep : s.step rustls e = some s') (hcount : e.counts i kind = true) :
    ∃ e' w w', e.seenBy i = some e' ∧ kind e' = true ∧ s.threads[i]? = some (.running w) ∧
      Server.step rustls w e' = some w' := by
  obtain ⟨e', hseen, hkind'⟩ := (Option.any_eq_true _ _).mp hcount
  have hown := hkind e' hkind'
  cases Running.transition_of_step hstep with
  | store | shutdown =>
    cases hseen
    cases hown
  | @work j own w w' hthread _ hwork =>
    simp only [ServerEvent.seenBy, Option.ite_none_right_eq_some, Option.some.injEq] at hseen
    obtain ⟨rfl, rfl⟩ := hseen
    exact ⟨_, w, w', by simp [ServerEvent.seenBy], hkind', hthread, hwork⟩
  | enter | abort | panic => cases hseen

/-- A measure that a worker's steps count down is counted down in the server. -/
theorem Running.Seated.left_of_step {measure : Worker → ℕ} {kind : Event → Bool}
    (hmeasure : ∀ (w w' : Worker) (e : Event), w.Seated → e.isCheck = false →
      Server.step rustls w e = some w' → measure w' + (kind e).toNat ≤ measure w)
    (hkind : ∀ e, kind e = true → e.isOwn = true) {e : ServerEvent} (h : s.Seated)
    (hlooks : e.looks i = false) (hstep : s.step rustls e = some s') :
    s'.left i measure + (e.counts i kind).toNat ≤ s.left i measure := by
  have hnow : ∀ w, s.threads[i]? = some (.running w) → (e.counts i kind).toNat ≤ measure w := by
    intro w hw
    cases hcount : e.counts i kind with
    | false => exact Nat.zero_le _
    | true =>
      obtain ⟨e', w₀, w', hseen, hkind', hw₀, hwork⟩ := own_step_of_counts hkind hstep hcount
      obtain rfl : w = w₀ := by simpa using hw.symm.trans hw₀
      have hless := hmeasure w w' e' (h.seated i w hw) (isCheck_of_looks hlooks hseen) hwork
      rw [hkind'] at hless
      exact (Nat.le_add_left _ _).trans hless
  by_cases hrunning : ∃ w', s'.threads[i]? = some (.running w')
  · obtain ⟨w', hw'⟩ := hrunning
    rw [Running.left_eq hw']
    rcases Running.worker_of_step h.shared hstep hw' with
      ⟨binds, w₀, rfl, -⟩ | ⟨w, hw, hsteps⟩
    · exact absurd hlooks (by simp [ServerEvent.looks])
    · rw [Running.left_eq hw]
      unfold ServerEvent.counts
      cases hseen : e.seenBy i with
      | none =>
        rw [hseen] at hsteps
        obtain rfl : w' = w := hsteps
        exact le_rfl
      | some e' =>
        rw [hseen] at hsteps
        exact hmeasure w w' e' (h.seated i w hw) (isCheck_of_looks hlooks hseen) hsteps.1
  · rw [Running.left_eq_zero fun w' hw' => hrunning ⟨w', hw'⟩, Nat.zero_add]
    cases hcount : e.counts i kind with
    | false => exact Nat.zero_le _
    | true =>
      obtain ⟨-, w, -, -, -, hw, -⟩ := own_step_of_counts hkind hstep hcount
      rw [Running.left_eq hw, ← hcount]
      exact hnow w hw

theorem Running.Seated.countP_le {measure : Worker → ℕ} {kind : Event → Bool}
    (hmeasure : ∀ (w w' : Worker) (e : Event), w.Seated → e.isCheck = false →
      Server.step rustls w e = some w' → measure w' + (kind e).toNat ≤ measure w)
    (hkind : ∀ e, kind e = true → e.isOwn = true) (h : s.Seated) {es : List ServerEvent}
    (hrun : Run (stepOf (Running.step rustls)) s es s') (hunseen : ∀ e ∈ es, e.looks i = false)
    (hw : s.threads[i]? = some (.running w)) :
    es.countP (ServerEvent.counts i kind) ≤ measure w := by
  have hguarded : Run (Guarded (fun _ e => e.looks i = false) (stepOf (Running.step rustls))) s es
      s' := hrun.guarded fun e he _ => hunseen e he
  have hcount := hguarded.countdown (I := Running.Seated) (m := Running.left i measure)
    (p := ServerEvent.counts i kind)
    (fun s e s' hstep hs => ⟨hs.step hstep.2, hs.left_of_step hmeasure hkind hstep.1 hstep.2⟩) h
  rw [Running.left_eq hw] at hcount
  omega

/-! ## As if restarted -/

/-- A worker whose new configuration's sockets cannot be bound keeps old ones. -/
def Running.Rebinds (s : Running) : ServerEvent → Prop
  | .work i e => ∀ w : Worker, s.threads[i]? = some (.running w) → Server.Rebinds w e
  | _ => True

/-- Stores are at addresses that are not compared, and sockets can be bound. -/
structure Running.Orderly (s : Running) (e : ServerEvent) : Prop where
  distinct : s.Distinct e
  rebinds : s.Rebinds e

/-- All that a worker has was made from one configuration. -/
structure Renewed (rustls : Rustls) (w : Worker) : Prop where
  states : w.listenerStates = w.loaded.config.listeners.map (bound rustls w.loaded)
  nonempty : w.listenerStates ≠ []

theorem Renewed.of_start {arc : ConfigArc} {binds : ℕ → Bool} {shutdown : Bool}
    (h : Worker.start rustls arc binds = some w) : Renewed rustls { w with shutdown } := by
  obtain ⟨-, hne, rfl⟩ := start_eq_some.mp h
  exact ⟨rfl, by simpa [Worker.fresh] using hne⟩

theorem Renewed.step {e : Event} (h : Renewed rustls w) (hrebinds : Server.Rebinds w e)
    (hstep : Server.step rustls w e = some w') (hlooping : w'.phase ≠ .stopped) :
    Renewed rustls w' := by
  cases transition_of_step hstep with
  | @rebuild binds hphase hon haddr =>
    have hbind : bindListeners rustls w.stored binds =
        some (w.stored.config.listeners.map (bound rustls w.stored)) :=
      bindListeners_eq_some.mpr ⟨hrebinds haddr, rfl⟩
    refine ⟨by rw [Worker.rebuild, hbind]; rfl, fun hnil => hlooping ?_⟩
    exact if_pos (List.isEmpty_iff.mpr hnil)
  | _ => exact ⟨h.states, h.nonempty⟩

theorem Running.Rebinds.seenBy {e : ServerEvent} {e' : Event} (h : s.Rebinds e)
    (hw : s.threads[i]? = some (.running w)) (hseen : e.seenBy i = some e') :
    Server.Rebinds w e' := by
  cases e with
  | store | shutdown =>
    cases hseen
    trivial
  | work j own =>
    simp only [ServerEvent.seenBy, Option.ite_none_right_eq_some, Option.some.injEq] at hseen
    obtain ⟨rfl, rfl⟩ := hseen
    exact h w hw
  | enter | abort | panic => cases hseen

structure Running.Renewing (rustls : Rustls) (s : Running) : Prop where
  following : s.Following
  renewed : ∀ (i : ℕ) (w : Worker), s.threads[i]? = some (.running w) → Renewed rustls w

theorem ProxyServer.renewing_spawn (server : ProxyServer) : server.spawn.Renewing rustls where
  following := server.following_spawn
  renewed i w h := by
    have hspawned := List.eq_of_mem_replicate (List.mem_of_getElem? h)
    cases hspawned

theorem Running.Renewing.step {e : ServerEvent} (h : s.Renewing rustls)
    (hstep : Guarded Running.Orderly (stepOf (Running.step rustls)) s e s') :
    s'.Renewing rustls := by
  obtain ⟨horderly, hstep⟩ := hstep
  refine ⟨h.following.step ⟨horderly.distinct, hstep⟩, ?_⟩
  exact fun i => Running.worker_keeps h.following.shared hstep (fun _ _ hstart => .of_start hstart)
    (fun _ _ _ hw hseen hworker hlooping hrenewed =>
      hrenewed.step (horderly.rebinds.seenBy hw hseen) hworker hlooping) (h.renewed i)

/-- **A store takes over within a round.** Take any run of a server, and any
worker in its loop after which nothing more is stored. Until it looks, it takes
at most two steps for each of its listeners and one more, each listener has one
turn at most, and only a client whose connection it serves keeps it from going
on. Once it has looked, it has the listeners, their acceptors and the pipelines
of a server that is started on what is stored. -/
theorem store_takes_over (rustls : Rustls) (server : ProxyServer) {es₁ es₂ : List ServerEvent}
    (hrun₁ : Run (Guarded Running.Orderly (stepOf (Running.step rustls))) server.spawn es₁ s₁)
    (hrun₂ : Run (Guarded Running.Orderly (stepOf (Running.step rustls))) s₁ es₂ s)
    (hquiet : ∀ e ∈ es₂, e.isStore = false) (h₁ : s₁.threads[i]? = some (.running w₁))
    (h : s.threads[i]? = some (.running w)) :
    (∀ es₃ es₄, es₂ = es₃ ++ es₄ → (∀ e ∈ es₃, e.looks i = false) →
      es₃.countP (ServerEvent.counts i Event.isOwn) ≤ 2 * w₁.listenerStates.length + 1 ∧
        es₃.countP (ServerEvent.counts i Event.isTurn) ≤ w₁.listenerStates.length) ∧
      (s.GoesOn rustls i ↔ ∀ k, w.phase ≠ .serving k) ∧
      ((∃ e ∈ es₂, e.looks i = true) →
        ∃ w₀, Worker.start rustls s₁.stored (fun _ => true) = some w₀ ∧
          w.listenerStates = w₀.listenerStates ∧ w.pipelines = w₀.pipelines) := by
  have hrenewing₁ : s₁.Renewing rustls :=
    hrun₁.invariant (fun _ _ _ hstep hs => hs.step hstep) server.renewing_spawn
  have hrenewing : s.Renewing rustls :=
    hrun₂.invariant (fun _ _ _ hstep hs => hs.step hstep) hrenewing₁
  have hgoesOn : s.GoesOn rustls i ↔ _ := Running.goesOn_iff hrenewing.following.shared h
  refine ⟨?_, hgoesOn.trans ⟨fun hfree k hserving => hfree.1 ⟨w, k, rfl, hserving⟩,
    fun hfree => ⟨fun hserves => ?_, fun exit hended => by cases hended⟩⟩, fun hlooks => ?_⟩
  · rintro es₃ es₄ rfl hunseen
    obtain ⟨t, hrun₃, -⟩ := hrun₂.unguarded.split
    have hseated : s₁.Seated := hrun₁.unguarded.invariant
      (fun _ _ _ hstep hs => hs.step hstep) server.seated_spawn
    constructor
    · refine (hseated.countP_le (fun _ _ _ => stepsLeft_of_step) (fun _ hown => hown) hrun₃
        hunseen h₁).trans w₁.stepsLeft_le
    · refine (hseated.countP_le (fun _ _ _ _ => turnsLeft_of_step) (fun e hturn => ?_) hrun₃
        hunseen h₁).trans w₁.turnsLeft_le
      cases e with
      | accept => rfl
      | _ => cases hturn
  · obtain ⟨w', k, hw', hserving⟩ := hserves
    cases hw'
    exact hfree k hserving
  -- since the worker looked, what it has loaded is what is stored
  · have hdistinct : Run (Guarded Running.Distinct (stepOf (Running.step rustls))) s₁ es₂ s :=
      hrun₂.mono fun _ _ _ hstep => ⟨hstep.1.distinct, hstep.2⟩
    obtain ⟨hstored, hworkers⟩ :=
      unchanged_of_run hrenewing₁.following hdistinct hquiet hlooks
    obtain ⟨hfollows, hsince⟩ := hworkers w h
    have hrenewed := hrenewing.renewed i w h
    have hloaded : w.loaded = s₁.stored := by
      rw [← hfollows.unchanged hsince, (hrenewing.following.shared i w h).stored, hstored]
    have hstates := hrenewed.states
    have hpipelines := hfollows.pipelines
    rw [hloaded] at hstates hpipelines
    refine ⟨_, start_eq_some.mpr ⟨fun _ _ => rfl, fun hnil => hrenewed.nonempty ?_, rfl⟩, hstates,
      hpipelines⟩
    rw [hstates, hnil, List.map_nil]

/-- A worker serves a connection when the name of its listener changes. -/
def renamedWhileServing : List ServerEvent :=
  [.enter 0 fun _ => true, .work 0 (.check fun _ => true), .work 0 (.accept true),
    .store 1 (oneListener "b")]

def nextRound : List ServerEvent :=
  [.work 0 .finish, .work 0 .endRound, .work 0 (.check fun _ => true)]

theorem run_renamedWhileServing :
    ∃ s₁ w₁ s w,
      Run (Guarded Running.Orderly (stepOf (Running.step emptyRustls))) twoThreads.spawn
          renamedWhileServing s₁ ∧
        s₁.threads[0]? = some (.running w₁) ∧
        Run (Guarded Running.Orderly (stepOf (Running.step emptyRustls))) s₁ nextRound s ∧
        s.threads[0]? = some (.running w) := by
  have hbinds : ∀ (s : Running) (binds : ℕ → Bool), (∀ i, binds i = true) →
      s.Orderly (.work 0 (.check binds)) :=
    fun _ _ hall => ⟨trivial, fun _ _ _ i _ => hall i⟩
  refine ⟨_, _, _, _, .cons ⟨⟨trivial, trivial⟩, rfl⟩ (.cons ⟨hbinds _ _ fun _ => rfl, rfl⟩
    (.cons ⟨⟨trivial, fun _ _ => trivial⟩, rfl⟩ (.cons ⟨⟨?_, trivial⟩, rfl⟩ (.nil _)))), rfl,
    .cons ⟨⟨trivial, fun _ _ => trivial⟩, rfl⟩ (.cons ⟨⟨trivial, fun _ _ => trivial⟩, rfl⟩
      (.cons ⟨hbinds _ _ fun _ => rfl, rfl⟩ (.nil _))), rfl⟩
  -- what is compared is the address the server was started with
  intro i w hw
  rcases i with _ | _ | i <;> cases hw
  exact Nat.one_ne_zero

theorem renamedWhileServing_takes_over :
    ∃ s₁ s w w₀,
      Run (Guarded Running.Orderly (stepOf (Running.step emptyRustls))) twoThreads.spawn
          renamedWhileServing s₁ ∧
        Run (Guarded Running.Orderly (stepOf (Running.step emptyRustls))) s₁ nextRound s ∧
        s.threads[0]? = some (.running w) ∧
        Worker.start emptyRustls s₁.stored (fun _ => true) = some w₀ ∧
        w.listenerStates = w₀.listenerStates ∧ w.pipelines = w₀.pipelines := by
  obtain ⟨s₁, w₁, s, w, hrun₁, hw₁, hrun₂, hw⟩ := run_renamedWhileServing
  obtain ⟨-, -, hrestarted⟩ := store_takes_over emptyRustls twoThreads hrun₁ hrun₂
    (by simp [nextRound, ServerEvent.isStore]) hw₁ hw
  obtain ⟨w₀, hw₀, hsame⟩ := hrestarted ⟨.work 0 (.check fun _ => true), by simp [nextRound], rfl⟩
  exact ⟨s₁, s, w, w₀, hrun₁, hrun₂, hw, hw₀, hsame⟩

end Multiway.ProxyCore.Server
