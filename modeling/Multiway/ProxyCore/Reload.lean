import Multiway.ProxyCore.Listeners

/-!
# Noticing a new configuration

A worker remembers the configuration its pipelines were built from by address
alone. That is enough as long as the address still means that configuration
(`Tracked.stored`): during a round `new_config` keeps it alive, between two
rounds nothing does. And a round goes on with the pipelines it began with,
whatever is stored while one of its connections is served.

`Timely` rules out the two orders of events that this leaves: a store at the
remembered address, and a connection accepted after a store and then the end of
an earlier connection, all in one round. `up_to_date_iff` says that nothing
else goes wrong, and that either of them does.
-/

namespace Multiway.ProxyCore.Server

open Multiway.Lib

variable {rustls : Rustls} {w w' : Worker}

/-- What is asked of a step. A check leaves the pipelines of the configuration
it has loaded; a connection is served under one at least as new as what was
stored when any earlier connection ended. -/
def UpToDate (w : Worker) (e : Event) (w' : Worker) : Prop :=
  match e with
  | .check _ => w.shutdown = false → w'.pipelines = buildPipelines w.stored
  | .accept true => ∀ i state pipeline, w.Serves i state pipeline →
      ∀ generation ∈ w.finishedAt, generation ≤ pipeline.generation
  | _ => True

def Timely (w : Worker) : Event → Prop
  | .store addr _ => addr ≠ w.configPtr
  | .accept true => (∃ i state pipeline, w.Serves i state pipeline) → w.finishedSince = false
  | _ => True

/-- What a worker knows of the stored configuration, in a timely run. -/
structure Tracked (w : Worker) : Prop where
  ptr : w.configPtr = w.loaded.addr
  pipelines : w.pipelines = buildPipelines w.loaded
  stored : w.stored.addr = w.loaded.addr → w.stored = w.loaded
  held : ∀ i, w.phase = .accepting i ∨ w.phase = .serving i → w.newConfig = some w.loaded
  nonempty : w.phase ≠ .stopped → w.loaded.config.listeners ≠ []
  finished : ∀ generation ∈ w.finishedAt, generation ≤ w.stored.generation
  unchanged : w.storedSince = false → w.stored = w.loaded
  changed : w.storedSince = true → w.loaded.generation < w.stored.generation
  ahead : w.finishedSince = false → ∀ generation ∈ w.finishedAt, generation ≤ w.loaded.generation
  behind : w.finishedSince = true →
    ∃ generation ∈ w.finishedAt, w.loaded.generation < generation

theorem Tracked.fresh {arc : ConfigArc} (states : List ListenerState)
    (h : arc.config.listeners ≠ []) : Tracked (Worker.fresh arc states) where
  ptr := rfl
  pipelines := rfl
  stored _ := rfl
  held _ hphase := by rcases hphase with hphase | hphase <;> cases hphase
  nonempty _ := h
  finished := nofun
  unchanged _ := rfl
  changed := nofun
  ahead _ := nofun
  behind := nofun

/-- What is loaded is no newer than what is stored. -/
theorem Tracked.old (h : Tracked w) : w.loaded.generation ≤ w.stored.generation := by
  cases hsince : w.storedSince with
  | false => rw [h.unchanged hsince]
  | true => exact (h.changed hsince).le

theorem Tracked.step {e : Event} (hstep : Guarded Timely (stepOf (step rustls)) w e w')
    (h : Tracked w) : Tracked w' := by
  obtain ⟨htimely, hstep⟩ := hstep
  cases transition_of_step hstep with
  | @store addr config hfree =>
    refine { h with stored := ?_, finished := ?_, unchanged := nofun, changed := ?_ }
    · -- a timely store is not at the address that is compared
      intro hsame
      exact absurd (hsame.trans h.ptr.symm) htimely
    · intro generation hmem
      exact Nat.le_succ_of_le (h.finished generation hmem)
    · intro _
      exact Nat.lt_succ_of_le h.old
  | shutdown => exact { h with }
  | stop hphase hshutdown =>
    refine { h with held := ?_, nonempty := fun hne => absurd rfl hne }
    rintro i (hphase | hphase) <;> cases hphase
  | proceed hphase hon haddr =>
    -- the same address, so the same configuration
    have hsame : w.stored = w.loaded := h.stored (haddr.trans h.ptr)
    refine { h with
      held := fun _ _ => congrArg some hsame
      nonempty := fun _ => h.nonempty (by simp [hphase])
      unchanged := fun _ => hsame, changed := nofun, ahead := ?_, behind := nofun }
    intro _ generation hmem
    exact hsame ▸ h.finished generation hmem
  | @rebuild binds hphase hon haddr =>
    refine
      { ptr := rfl, pipelines := rfl, stored := fun _ => rfl, held := fun _ _ => rfl
        nonempty := ?_, finished := h.finished, unchanged := fun _ => rfl, changed := nofun
        ahead := fun _ => h.finished, behind := nofun }
    -- with no listeners there is nothing to bind, and the worker stops
    intro hphase' hnil
    refine hphase' (if_pos ?_)
    have hbind : bindListeners rustls w.stored binds = some [] := by
      refine bindListeners_eq_some.mpr ⟨?_, ?_⟩
      · intro i hi
        rw [show w.stored.config.listeners = [] from hnil] at hi
        exact absurd hi (Nat.not_lt_zero i)
      · rw [show w.stored.config.listeners = [] from hnil, List.map_nil]
    rw [hbind]
    rfl
  | @skip i arrives hphase hon hi hnone =>
    exact { h with
      held := fun _ _ => h.held i (.inl hphase)
      nonempty := fun _ => h.nonempty (by simp [hphase]) }
  | @serve i pipeline hphase hon hi hpipeline =>
    exact { h with
      held := fun _ _ => h.held i (.inl hphase)
      nonempty := fun _ => h.nonempty (by simp [hphase]) }
  | @finish i hphase =>
    refine { h with
      held := fun _ _ => h.held i (.inr hphase)
      nonempty := fun _ => h.nonempty (by simp [hphase])
      finished := ?_, ahead := ?_, behind := ?_ }
    · exact List.forall_mem_cons.mpr ⟨le_rfl, h.finished⟩
    · intro hsince generation hmem
      have hle : ∀ generation ∈ w.stored.generation :: w.finishedAt,
          generation ≤ w.stored.generation := List.forall_mem_cons.mpr ⟨le_rfl, h.finished⟩
      exact h.unchanged hsince ▸ hle generation hmem
    · intro hsince
      exact ⟨w.stored.generation, List.mem_cons_self, h.changed hsince⟩
  | @endRound i hphase =>
    refine { h with held := ?_, nonempty := fun _ => h.nonempty (by simp [hphase]) }
    rintro i (hphase | hphase) <;> cases hphase

/-- The pipelines of a worker were all built from what it loaded. -/
theorem Tracked.generation {i : ℕ} {pipeline : Pipeline} (h : Tracked w)
    (hpipeline : w.pipelines[i]? = some pipeline) :
    pipeline.generation = w.loaded.generation := by
  rw [h.pipelines] at hpipeline
  obtain ⟨listener, -, rfl⟩ := List.mem_map.mp (List.mem_of_getElem? hpipeline)
  rfl

theorem Tracked.upToDate {e : Event} (h : Tracked w) (htimely : Timely w e)
    (hstep : Server.step rustls w e = some w') : UpToDate w e w' := by
  cases transition_of_step hstep with
  | stop hphase hshutdown =>
    intro hon
    rw [hshutdown] at hon
    cases hon
  | proceed hphase hon haddr =>
    intro _
    rw [h.stored (haddr.trans h.ptr)]
    exact h.pipelines
  | rebuild => exact fun _ => rfl
  | @skip i arrives hphase hon hi hnone =>
    cases arrives with
    | false => trivial
    | true =>
      intro j state pipeline hserves generation hmem
      rw [h.generation hserves.pipeline]
      exact h.ahead (htimely ⟨j, state, pipeline, hserves⟩) generation hmem
  | serve =>
    intro j state pipeline hserves generation hmem
    rw [h.generation hserves.pipeline]
    exact h.ahead (htimely ⟨j, state, pipeline, hserves⟩) generation hmem
  | _ => trivial

/-- A store at the remembered address is taken for what was there before. -/
theorem Tracked.store_missed {addr : ℕ} {config : ProxyConfig} (h : Tracked w)
    (haddr : addr = w.configPtr) (hphase : w.phase ≠ .stopped) (hon : w.shutdown = false)
    (hstep : Server.step rustls w (.store addr config) = some w') (binds : ℕ → Bool) :
    ∃ w'', Server.step rustls w' (.check binds) = some w'' ∧
      ¬ UpToDate w' (.check binds) w'' := by
  cases transition_of_step hstep with
  | store hfree =>
    -- during a round the address is not free
    have htop : w.phase = .top := by
      have hlive : ∀ i, ¬ (w.phase = .accepting i ∨ w.phase = .serving i) := by
        intro i hround
        simp [Worker.live, h.held i hround, haddr, h.ptr] at hfree
      cases hw : w.phase with
      | top => rfl
      | accepting i => exact absurd (.inl hw) (hlive i)
      | serving i => exact absurd (.inr hw) (hlive i)
      | stopped => exact absurd hw hphase
    refine ⟨_, by simp only [Server.step, htop, hon, haddr, if_true]; rfl, fun hupToDate => ?_⟩
    obtain ⟨listener, rest, hlisteners⟩ := List.exists_cons_of_ne_nil (h.nonempty hphase)
    have hfirst : w.pipelines[0]? =
        some ⟨listener.name, w.loaded.config, w.loaded.generation⟩ := by
      rw [h.pipelines, buildPipelines, hlisteners]
      rfl
    have hsame : w.pipelines = buildPipelines ⟨addr, config, w.stored.generation + 1⟩ :=
      hupToDate hon
    rw [hsame] at hfirst
    obtain ⟨other, -, hother⟩ := List.mem_map.mp (List.mem_of_getElem? hfirst)
    have hgeneration : w.stored.generation + 1 = w.loaded.generation :=
      congrArg Pipeline.generation hother
    have hold := h.old
    omega

/-- **No update is missed exactly as long as events are timely.** In a timely
run every check leaves the pipelines of the configuration it has loaded, and
every connection is served under one at least as new as what was stored when an
earlier connection ended. The first untimely accept serves an older one, and
after the first untimely store the next check does not notice the update. -/
theorem up_to_date_iff (rustls : Rustls) {arc : ConfigArc} {binds₀ : ℕ → Bool} {w₀ : Worker}
    (hstart : Worker.start rustls arc binds₀ = some w₀) :
    (∀ es w e w', Run (Guarded Timely (stepOf (step rustls))) w₀ es w → Timely w e →
      step rustls w e = some w' → UpToDate w e w') ∧
    (∀ es w e w', Run (Guarded Timely (stepOf (step rustls))) w₀ es w → ¬ Timely w e →
      w.phase ≠ .stopped → w.shutdown = false → step rustls w e = some w' →
      ¬ UpToDate w e w' ∨ ∀ binds, ∃ w'', step rustls w' (.check binds) = some w'' ∧
        ¬ UpToDate w' (.check binds) w'') := by
  obtain ⟨-, hne, rfl⟩ := start_eq_some.mp hstart
  have htracked : ∀ {es w}, Run (Guarded Timely (stepOf (step rustls)))
      (Worker.fresh arc (arc.config.listeners.map (bound rustls arc))) es w → Tracked w :=
    fun hrun => hrun.invariant (fun _ _ _ hstep => Tracked.step hstep) (.fresh _ hne)
  constructor
  · intro es w e w' hrun htimely hstep
    exact (htracked hrun).upToDate htimely hstep
  · intro es w e w' hrun huntimely hphase hon hstep
    have h := htracked hrun
    cases e with
    | store addr config =>
      exact .inr (h.store_missed (not_not.mp huntimely) hphase hon hstep)
    | accept arrives =>
      refine .inl fun hupToDate => ?_
      cases arrives with
      | false => exact huntimely trivial
      | true =>
        obtain ⟨⟨i, state, pipeline, hserves⟩, hsince⟩ := Classical.not_imp.mp huntimely
        obtain ⟨generation, hmem, hlt⟩ := h.behind (Bool.not_eq_false _ ▸ hsince)
        have hle := hupToDate i state pipeline hserves generation hmem
        rw [h.generation hserves.pipeline] at hle
        omega
    | shutdown => exact absurd trivial huntimely
    | check binds => exact absurd trivial huntimely
    | finish => exact absurd trivial huntimely
    | endRound => exact absurd trivial huntimely

theorem oneListener_upToDate :
    ∃ w₀, Worker.start emptyRustls ⟨0, oneListener "a", 0⟩ (fun _ => true) = some w₀ ∧
      ∀ es w e w', Run (Guarded Timely (stepOf (step emptyRustls))) w₀ es w → Timely w e →
        step emptyRustls w e = some w' → UpToDate w e w' :=
  ⟨_, rfl, (@up_to_date_iff emptyRustls ⟨0, oneListener "a", 0⟩ (fun _ => true) _ rfl).1⟩

def twoListeners : ProxyConfig where
  listeners := [plainListener "a", plainListener "b"]

/-- A configuration is stored while the first listener's connection is served,
and the second listener accepts one when that is over. -/
def overtaken : List Event :=
  [.check fun _ => true, .accept true, .store 1 twoListeners, .finish]

theorem overtaken_not_upToDate :
    ¬ ∀ (rustls : Rustls) (arc : ConfigArc) (binds : ℕ → Bool) (w₀ : Worker) (es : List Event)
        (w : Worker) (e : Event) (w' : Worker), Worker.start rustls arc binds = some w₀ →
      Run (stepOf (step rustls)) w₀ es w → step rustls w e = some w' → UpToDate w e w' := by
  intro hall
  have h := hall emptyRustls ⟨0, twoListeners, 0⟩ (fun _ => true) _ overtaken _ (.accept true) _ rfl
    (.of_execAll rfl) rfl
  have hle : 1 ≤ 0 := h 1 _ _ ⟨⟨rfl, rfl, rfl⟩, rfl⟩ 1 List.mem_cons_self
  omega

end Multiway.ProxyCore.Server
