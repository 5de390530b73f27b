import Multiway.ControlPlane.Emitted
import Multiway.ControlPlane.Execute
import Multiway.ControlPlane.Provenance

/-!
# Controllers at work

Any number of controllers side by side, each carrying out its own executor's
program against one API server (`Fleet`), on a snapshot that it has read at one
instant. Between two calls anybody may change the cluster, a call may fail before or after it has been carried out, and a
controller may be gone at any point.

Every run of such a fleet is a run of the interleaving model of `Executor.lean`
(`fleet_refines`), where an effect is one event or, for a ConfigMap, two. No
controller panics in it: every resource that is sent has a name.
-/

namespace Multiway.ControlPlane

open Multiway.Lib
open Multiway.Lib.Script
open Multiway.Kube
open ReconcileExecutor

/-! ## What reconcilers send -/

/-- Nothing is deleted, and everything has a name. -/
structure Sendable (result : ReconcileResult) : Prop where
  deletes : result.deletes = []
  named : ∀ effect ∈ effectsOf result, ¬Nameless effect

theorem named_effectsOf {result : ReconcileResult}
    (h : ∀ u ∈ result.upserts, ¬Nameless (.upsert u)) :
    ∀ effect ∈ effectsOf result, ¬Nameless effect := by
  unfold effectsOf
  intro effect heffect
  obtain hstatus | hupsert := List.mem_append.mp heffect
  · obtain ⟨u, -, rfl⟩ := List.mem_map.mp hstatus
    exact id
  · obtain ⟨u, hu, rfl⟩ := List.mem_map.mp hupsert
    exact h u hu

theorem named_dataPlaneUpserts (names : DataPlaneNames) (gateway : Gateway)
    (config : ControllerConfig) (gatewayConfig : GatewayConfig) :
    ∀ u ∈ dataPlaneUpserts names gateway config gatewayConfig, ¬Nameless (.upsert u) := by
  unfold dataPlaneUpserts
  simp only [List.mem_cons, List.not_mem_nil, or_false]
  rintro u (rfl | rfl | rfl | rfl | rfl | rfl) hnameless <;> cases hnameless

theorem sendable_reconcileGateway (snapshot : WorldSnapshot) (config : ControllerConfig)
    (ns name : String) : Sendable (reconcileGateway snapshot config ns name) := by
  unfold reconcileGateway
  split
  · exact ⟨rfl, named_effectsOf fun _ hu => absurd hu List.not_mem_nil⟩
  · split
    · exact ⟨rfl, named_effectsOf fun _ hu => absurd hu List.not_mem_nil⟩
    · split
      · exact ⟨rfl, named_effectsOf fun _ hu => absurd hu List.not_mem_nil⟩
      · exact ⟨rfl, named_effectsOf (named_dataPlaneUpserts _ _ _ _)⟩

theorem sendable_reconcileHttproute (snapshot : WorldSnapshot) (config : ControllerConfig)
    (ns name : String) : Sendable (reconcileHttproute snapshot config ns name) := by
  unfold reconcileHttproute
  split
  · exact ⟨rfl, named_effectsOf fun _ hu => absurd hu List.not_mem_nil⟩
  · split
    · exact ⟨rfl, named_effectsOf fun _ hu => absurd hu List.not_mem_nil⟩
    · refine ⟨rfl, named_effectsOf fun u hu => ?_⟩
      obtain ⟨configmap, hconfigmap, rfl⟩ := List.mem_map.mp hu
      obtain ⟨parentRef, -, hparent⟩ := List.mem_filterMap.mp hconfigmap
      obtain ⟨gateway, -, rfl⟩ := parentConfigmap_eq_some_iff.mp hparent
      intro hnameless
      cases hnameless

theorem sendable_reconcileOn (config : ControllerConfig) (snapshot : WorldSnapshot)
    (target : Target) : Sendable (reconcileOn config snapshot target) := by
  cases target with
  | gateway ns name => exact sendable_reconcileGateway snapshot config ns name
  | httproute ns name => exact sendable_reconcileHttproute snapshot config ns name

theorem sendable_reconcile {client : Client} {config : ControllerConfig} {now : Time}
    {target : Target} {result : ReconcileResult}
    (h : reconcile client config now target = .ok result) : Sendable result := by
  rw [reconcile_eq] at h
  rcases hsnapshot : fetchSnapshot client now target with e | snapshot
  · rw [hsnapshot] at h
    cases h
  · rw [hsnapshot] at h
    cases h
    exact sendable_reconcileOn config snapshot target

/-! ## The fleet -/

structure Fleet where
  cluster : Objects
  /-- The number of writes so far. -/
  revision : ℕ
  /-- What is left to do, for the controllers that are at it. -/
  workers : ℕ → Option (Program Action)

inductive FleetEvent
  /-- Somebody changes objects other than ConfigMaps. -/
  | edit (objects : Objects)
  /-- Somebody else writes a ConfigMap. -/
  | editConfigmap (configmap : ConfigMap)
  | deleteConfigmap (key : String × String)
  /-- An idle controller fetches a snapshot, all at one instant as in the model of
  jobs, and computes its result. -/
  | fetch (worker : ℕ) (now : Time) (target : Target)
  /-- The next call is carried out and answered; what it makes of objects that
  are no ConfigMaps is not ours to say. -/
  | answer (worker : ℕ) (objects : Objects)
  /-- The next call is carried out, and the answer is lost. -/
  | lose (worker : ℕ) (objects : Objects)
  /-- The next call fails, for another reason than that nothing is there. -/
  | fail (worker : ℕ) (e : ApiError)
  /-- The controller is through, or gone. -/
  | leave (worker : ℕ)

namespace Fleet

/-- A cluster without ConfigMaps, nobody at work. -/
def start (objects : Objects) : Fleet where
  cluster := { objects with configmaps := ∅ }
  revision := 0
  workers := fun _ => none

section
variable (f : Fleet)

def setObjects (objects : Objects) : Fleet :=
  { f with
    cluster := { objects with configmaps := f.cluster.configmaps }
    revision := f.revision + 1 }

/-- File a ConfigMap with the next resourceVersion. -/
def write (configmap : ConfigMap) : Fleet :=
  { f with
    cluster := { f.cluster with
      configmaps := f.cluster.configmaps.insert
        (withResourceVersion configmap (some (resourceVersionOf (f.revision + 1)))) }
    revision := f.revision + 1 }

def erase (key : String × String) : Fleet :=
  { f with
    cluster := { f.cluster with configmaps := f.cluster.configmaps.erase key }
    revision := f.revision + 1 }

def setWorker (p : ℕ) (program : Option (Program Action)) : Fleet :=
  { f with workers := Function.update f.workers p program }

/-- The API server: a replace goes through when it names the stored version, or
none, and a create when nothing is stored. -/
def serve (objects : Objects) : (c : Call) → c.Answer × Fleet
  | .getConfigmap key =>
    match f.cluster.configmaps.get? key with
    | some configmap => (.ok configmap, f)
    | none => (.error (.api 404), f)
  | .replaceConfigmap configmap =>
    match f.cluster.configmaps.get? (objectKey configmap) with
    | some stored =>
      if resourceVersion configmap = none ∨ resourceVersion configmap = resourceVersion stored then
        (.ok (), f.write configmap)
      else (.error (.api 409), f)
    | none => (.error (.api 404), f)
  | .createConfigmap configmap =>
    match f.cluster.configmaps.get? (objectKey configmap) with
    | some _ => (.error (.api 409), f)
    | none => (.ok (), f.write configmap)
  | .delete kind key =>
    if kind = "ConfigMap" then (.ok (), f.erase key) else (.ok (), f.setObjects objects)
  | .patchStatus _ => (.ok (), f.setObjects objects)
  | .apply _ _ => (.ok (), f.setObjects objects)

end

/-- One step; `none` when the event cannot happen. -/
def step (config : ControllerConfig) (f : Fleet) : FleetEvent → Option Fleet
  | .edit objects => some (f.setObjects objects)
  | .editConfigmap configmap => some (f.write configmap)
  | .deleteConfigmap key => some (f.erase key)
  | .fetch p now target =>
    match f.workers p, reconcile (.ofCluster f.cluster) config now target with
    | none, .ok result => some (f.setWorker p (some (execute result)))
    | _, _ => none
  | .answer p objects =>
    match f.workers p with
    | some (.call c next) =>
      some ((f.serve objects c).2.setWorker p (some (next (f.serve objects c).1)))
    | _ => none
  | .lose p objects =>
    match f.workers p with
    | some (.call c next) =>
      some ((f.serve objects c).2.setWorker p (some (next (.error .other))))
    | _ => none
  | .fail p e =>
    match f.workers p with
    | some (.call _ next) =>
      if e = .api 404 then none else some (f.setWorker p (some (next (.error e))))
    | _ => none
  | .leave p => some (f.setWorker p none)

end Fleet

/-! ## Programs and jobs -/

theorem carryOut_cons (effect : Effect) (effects : List Effect) (after : Program Action) :
    carryOut (effect :: effects) after =
      (executeEffect effect).bind (unlessFailed (carryOut effects after)) := by
  unfold carryOut
  rw [tryEach, bind_assoc]
  congr 1
  funext outcome
  cases outcome with
  | error e => rfl
  | ok _ => rfl

/-- What `upsert_configmap` has been answered by its get. -/
def Reading.answer (reading : Reading) : Except ApiError ConfigMap :=
  match reading.existing with
  | some existing => .ok existing
  | none => .error (.api 404)

/-- The program that is left of a job, at the end of which `action` is returned. -/
def Job.program (action : Action) (job : Job) : Program Action :=
  match job.reading with
  | none => carryOut job.pending (.done action)
  | some reading =>
    (putConfigmap reading.configmap reading.answer).bind
      (unlessFailed (carryOut job.pending (.done action)))

/-- The next call of a job's program, and how it goes on with the answer. -/
inductive NextCall (action : Action) (fetchedAt : ℕ) : Job → Program Action → Prop
  | returns : NextCall action fetchedAt ⟨fetchedAt, [], none⟩ (.done action)
  | status (u : StatusUpdate) (pending : List Effect) :
      NextCall action fetchedAt ⟨fetchedAt, .status u :: pending, none⟩
        (.call (.patchStatus u) (unlessFailed (Job.program action ⟨fetchedAt, pending, none⟩)))
  | apply {u : ResourceUpsert} (hother : ∀ configmap, u ≠ .configMap configmap)
      (key : String × String) (pending : List Effect) :
      NextCall action fetchedAt ⟨fetchedAt, .upsert u :: pending, none⟩
        (.call (.apply key u) (unlessFailed (Job.program action ⟨fetchedAt, pending, none⟩)))
  | get {configmap clean : ConfigMap} (hclean : cleanConfigmap configmap = some clean)
      (pending : List Effect) :
      NextCall action fetchedAt ⟨fetchedAt, .upsert (.configMap configmap) :: pending, none⟩
        (.call (.getConfigmap (objectKey clean)) fun answer =>
          (putConfigmap clean answer).bind
            (unlessFailed (Job.program action ⟨fetchedAt, pending, none⟩)))
  | replace (configmap existing : ConfigMap) (gotAt : ℕ) (pending : List Effect) :
      NextCall action fetchedAt ⟨fetchedAt, pending, some ⟨configmap, some existing, gotAt⟩⟩
        (.call (.replaceConfigmap (withResourceVersion configmap (resourceVersion existing)))
          (unlessFailed (Job.program action ⟨fetchedAt, pending, none⟩)))
  | create (configmap : ConfigMap) (gotAt : ℕ) (pending : List Effect) :
      NextCall action fetchedAt ⟨fetchedAt, pending, some ⟨configmap, none, gotAt⟩⟩
        (.call (.createConfigmap configmap)
          (unlessFailed (Job.program action ⟨fetchedAt, pending, none⟩)))

/-- **What a job does next.** -/
theorem nextCall_program (action : Action) {job : Job}
    (hnamed : ∀ effect ∈ job.pending, ¬Nameless effect) :
    NextCall action job.fetchedAt job (job.program action) := by
  obtain ⟨fetchedAt, pending, reading⟩ := job
  rcases reading with _ | ⟨configmap, existing, gotAt⟩
  · rcases pending with _ | ⟨effect, pending⟩
    · exact .returns
    · have hhead := hnamed effect List.mem_cons_self
      change NextCall action fetchedAt _ (carryOut (effect :: pending) (.done action))
      rw [carryOut_cons]
      cases effect with
      | status u => exact .status u pending
      | upsert u =>
        change NextCall action fetchedAt _ ((executeUpsert u).bind _)
        by_cases hu : ∃ configmap, u = .configMap configmap
        · obtain ⟨configmap, rfl⟩ := hu
          obtain ⟨clean, hclean⟩ := Option.ne_none_iff_exists'.mp hhead
          change NextCall action fetchedAt _ ((upsertConfigmap configmap).bind _)
          rw [upsertConfigmap_of_clean hclean]
          exact .get hclean pending
        · have hother : ∀ configmap, u ≠ .configMap configmap :=
            fun configmap heq => hu ⟨configmap, heq⟩
          obtain ⟨key, hkey⟩ :=
            Option.ne_none_iff_exists'.mp fun h => hhead ((nameless_upsert_iff hother).mpr h)
          rw [executeUpsert_of_appliedKey hkey]
          exact .apply hother key pending
  · cases existing with
    | none => exact .create configmap gotAt pending
    | some existing => exact .replace configmap existing gotAt pending

/-- The program of a controller is that of its job. A controller that has given
up has no job, and only its action left to return. -/
inductive WorksOn : Option (Program Action) → Option Job → Prop
  | idle : WorksOn none none
  | through (action : Action) : WorksOn (some (.done action)) none
  | running (action : Action) {j : Job} (hnamed : ∀ effect ∈ j.pending, ¬Nameless effect) :
      WorksOn (some (j.program action)) (some j)

/-- A controller at a call has a job, which is at that call. -/
theorem WorksOn.nextCall {c : Call} {next : c.Answer → Program Action} {job : Option Job}
    (h : WorksOn (some (.call c next)) job) :
    ∃ action j, job = some j ∧ (∀ effect ∈ j.pending, ¬Nameless effect) ∧
      NextCall action j.fetchedAt j (.call c next) := by
  generalize hprogram : some (Script.call c next) = program at h
  cases h with
  | idle => cases hprogram
  | through action => cases hprogram
  | @running action j hnamed =>
    refine ⟨action, j, rfl, hnamed, ?_⟩
    rw [Option.some.inj hprogram]
    exact nextCall_program action hnamed

theorem WorksOn.not_panics {job : Option Job} : ¬WorksOn (some .panics) job := by
  intro h
  generalize hprogram : some Script.panics = program at h
  cases h with
  | idle => cases hprogram
  | through action => cases hprogram
  | @running action j hnamed =>
    have hnext := nextCall_program action hnamed
    rw [← Option.some.inj hprogram] at hnext
    obtain ⟨fetchedAt, pending, reading⟩ := j
    cases hnext

/-! ## One step -/

/-- The cluster is the same, and the controllers are at their jobs. -/
structure Tracks (f : Fleet) (s : System) : Prop where
  cluster : s.cluster = f.cluster
  revision : s.revision = f.revision
  workers : ∀ p, WorksOn (f.workers p) (s.jobs p)

namespace Tracks

variable {f : Fleet} {s : System}

theorem start (objects : Objects) : Tracks (.start objects) (.start objects) :=
  ⟨rfl, rfl, fun _ => .idle⟩

theorem setObjects (h : Tracks f s) (objects : Objects) :
    Tracks (f.setObjects objects) (s.setObjects objects) where
  cluster := by
    unfold Fleet.setObjects System.setObjects
    rw [h.cluster]
  revision := congrArg (· + 1) h.revision
  workers := h.workers

/-- A resourceVersion that is sent does not matter for what is filed. -/
theorem write (h : Tracks f s) (configmap : ConfigMap) (version : Option String)
    (origin : Option Origin) :
    Tracks (f.write (withResourceVersion configmap version)) (s.write configmap origin) where
  cluster := by
    unfold Fleet.write System.write
    rw [h.cluster, h.revision]
    rfl
  revision := congrArg (· + 1) h.revision
  workers := h.workers

theorem erase (h : Tracks f s) (key : String × String) :
    Tracks (f.erase key) (s.erase key) where
  cluster := by
    unfold Fleet.erase System.erase
    rw [h.cluster]
  revision := congrArg (· + 1) h.revision
  workers := h.workers

theorem job_of_call (h : Tracks f s) {p : ℕ} {c : Call} {next : c.Answer → Program Action}
    (hprogram : f.workers p = some (.call c next)) :
    ∃ action job, s.jobs p = some job ∧ (∀ effect ∈ job.pending, ¬Nameless effect) ∧
      NextCall action job.fetchedAt job (.call c next) := by
  have hmatches := h.workers p
  rw [hprogram] at hmatches
  exact hmatches.nextCall

theorem no_job_of_idle (h : Tracks f s) {p : ℕ} (hidle : f.workers p = none) :
    s.jobs p = none := by
  have hmatches := h.workers p
  rw [hidle] at hmatches
  generalize s.jobs p = job at hmatches
  cases hmatches
  rfl

theorem setWorker (h : Tracks f s) (p : ℕ) {program : Option (Program Action)}
    {job : Option Job} (hmatches : WorksOn program job) :
    Tracks (f.setWorker p program) (s.setJob p job) where
  cluster := h.cluster
  revision := h.revision
  workers q := by
    change WorksOn (Function.update f.workers p program q) (Function.update s.jobs p job q)
    by_cases hq : q = p
    · subst hq
      rw [Function.update_self, Function.update_self]
      exact hmatches
    · rw [Function.update_of_ne hq, Function.update_of_ne hq]
      exact h.workers q

end Tracks

/-- A call that has failed is the last. -/
theorem NextCall.failed {action : Action} {fetchedAt : ℕ} {job : Job} {c : Call}
    {next : c.Answer → Program Action} (h : NextCall action fetchedAt job (.call c next))
    {e : ApiError} (he : e ≠ .api 404) : next (.error e) = .done (.requeue 5) := by
  cases h with
  | @get configmap clean hclean pending =>
    change (putConfigmap clean (.error e)).bind _ = _
    rw [putConfigmap_of_error clean he]
    rfl
  | _ => rfl

section
variable {config : ControllerConfig} {f : Fleet} {s : System} {p : ℕ} {fetchedAt : ℕ}

theorem step_patch_status {u : StatusUpdate} {pending : List Effect}
    (hjob : s.jobs p = some ⟨fetchedAt, .status u :: pending, none⟩) (objects : Objects) :
    step config s (.patch p objects) =
      some ((s.setObjects objects).setJob p (some ⟨fetchedAt, pending, none⟩)) := by
  unfold step
  dsimp only
  rw [hjob]

theorem step_patch_upsert {u : ResourceUpsert} {pending : List Effect}
    (hother : ∀ configmap, u ≠ .configMap configmap)
    (hjob : s.jobs p = some ⟨fetchedAt, .upsert u :: pending, none⟩) (objects : Objects) :
    step config s (.patch p objects) =
      some ((s.setObjects objects).setJob p (some ⟨fetchedAt, pending, none⟩)) := by
  unfold step
  dsimp only
  rw [hjob]
  cases u with
  | configMap configmap => exact absurd rfl (hother configmap)
  | _ => rfl

theorem step_get {configmap clean : ConfigMap} {pending : List Effect}
    (hclean : cleanConfigmap configmap = some clean)
    (hjob : s.jobs p = some ⟨fetchedAt, .upsert (.configMap configmap) :: pending, none⟩) :
    step config s (.get p) = some (s.setJob p (some ⟨fetchedAt, pending,
      some ⟨clean, s.cluster.configmaps.get? (objectKey clean), s.revision⟩⟩)) := by
  unfold step
  dsimp only
  rw [hjob]
  dsimp only
  rw [hclean, Option.map_some]

theorem step_put {pending : List Effect} {reading : Reading}
    (hjob : s.jobs p = some ⟨fetchedAt, pending, some reading⟩) :
    step config s (.put p) = some (if s.admits reading then
      (s.write reading.configmap (some ⟨fetchedAt, s.revision + 1⟩)).setJob p
        (some ⟨fetchedAt, pending, none⟩)
      else s.setJob p none) := by
  unfold step
  dsimp only
  rw [hjob]
  dsimp only
  split <;> rfl

/-- **A call that is served is a step of the interleaving model.** -/
theorem step_of_serve (h : Tracks f s) (hsound : SystemSound s) {action : Action} {job : Job}
    (hjob : s.jobs p = some job) (hnamed : ∀ effect ∈ job.pending, ¬Nameless effect) {c : Call}
    {next : c.Answer → Program Action} (hnext : NextCall action job.fetchedAt job (.call c next))
    (objects : Objects) :
    ∃ event s', step config s event = some s' ∧
      Tracks ((f.serve objects c).2.setWorker p (some (next (f.serve objects c).1))) s' := by
  obtain ⟨fetchedAt, pending, reading⟩ := job
  dsimp only at hnamed hnext
  cases hnext with
  | status u pending =>
    have hrest := (List.forall_mem_cons.mp hnamed).2
    exact ⟨_, _, step_patch_status hjob objects,
      (h.setObjects objects).setWorker p (.running action (j := ⟨_, pending, none⟩) hrest)⟩
  | apply hother key pending =>
    have hrest := (List.forall_mem_cons.mp hnamed).2
    exact ⟨_, _, step_patch_upsert hother hjob objects,
      (h.setObjects objects).setWorker p (.running action (j := ⟨_, pending, none⟩) hrest)⟩
  -- the clusters agree, so the program and the job find the same
  | @get configmap clean hclean pending =>
    have hrest := (List.forall_mem_cons.mp hnamed).2
    refine ⟨_, _, step_get hclean hjob, ?_⟩
    unfold Fleet.serve
    dsimp only
    rw [h.cluster]
    rcases f.cluster.configmaps.get? (objectKey clean) with _ | existing
    · exact h.setWorker p (.running action (j := ⟨_, pending, some ⟨clean, none, _⟩⟩) hrest)
    · exact h.setWorker p
        (.running action (j := ⟨_, pending, some ⟨clean, some existing, _⟩⟩) hrest)
  | replace configmap existing gotAt =>
    refine ⟨_, _, step_put hjob, ?_⟩
    -- what was found has a resourceVersion, so the replace names one
    obtain ⟨n, -, hversion⟩ := (((hsound.jobs p _ hjob).reading _ rfl).seen existing rfl).issued
    have hkey : objectKey (withResourceVersion configmap (resourceVersion existing)) =
      objectKey configmap := rfl
    unfold Fleet.serve System.admits
    dsimp only
    rw [h.cluster, resourceVersion_withResourceVersion, hkey]
    rcases f.cluster.configmaps.get? (objectKey configmap) with _ | stored
    · exact h.setWorker p (.through _)
    · dsimp only
      by_cases hsame : resourceVersion stored = resourceVersion existing
      · rw [if_pos (beq_iff_eq.mpr hsame), if_pos (.inr hsame.symm)]
        exact (h.write configmap (resourceVersion existing) _).setWorker p
          (.running action (j := ⟨_, pending, none⟩) hnamed)
      · have hnamedVersion : ¬(resourceVersion existing = none ∨
            resourceVersion existing = resourceVersion stored) := by
          rintro (hnone | heq)
          · rw [hnone] at hversion
            cases hversion
          · exact hsame heq.symm
        rw [if_neg (mt beq_iff_eq.mp hsame), if_neg hnamedVersion]
        exact h.setWorker p (.through _)
  | create configmap gotAt =>
    refine ⟨_, _, step_put hjob, ?_⟩
    unfold Fleet.serve System.admits
    dsimp only
    rw [h.cluster]
    rcases f.cluster.configmaps.get? (objectKey configmap) with _ | stored
    · exact (h.write configmap (resourceVersion configmap) _).setWorker p
        (.running action (j := ⟨_, pending, none⟩) hnamed)
    · exact h.setWorker p (.through _)

/-- The program of a result is that of a job that has just begun. -/
theorem matches_execute (fetchedAt : ℕ) {result : ReconcileResult} (h : Sendable result) :
    WorksOn (some (execute result)) (some ⟨fetchedAt, effectsOf result, none⟩) := by
  have hprogram : execute result =
      Job.program (actionOf result.requeue) ⟨fetchedAt, effectsOf result, none⟩ := by
    rw [execute_eq_carryOut]
    unfold finish
    rw [h.deletes]
    rfl
  rw [hprogram]
  exact .running _ h.named

/-- **One step of the fleet** is up to two events of the interleaving model. -/
theorem simulate {f' : Fleet} {event : FleetEvent} (hstep : Fleet.step config f event = some f')
    (h : Tracks f s) (hsound : SystemSound s) :
    ∃ events s', Run (stepOf (step config)) s events s' ∧ Tracks f' s' := by
  have hone : ∀ (event : Event) {s' : System}, step config s event = some s' →
      Tracks f' s' →
        ∃ events s', Run (stepOf (step config)) s events s' ∧ Tracks f' s' :=
    fun event _ hstep h' => ⟨[event], _, .cons hstep (.nil _), h'⟩
  cases event with
  | edit objects =>
    cases hstep
    exact hone (.edit objects) rfl (h.setObjects objects)
  | editConfigmap configmap =>
    cases hstep
    exact hone (.editConfigmap configmap) rfl
      (h.write configmap (resourceVersion configmap) none)
  | deleteConfigmap key =>
    cases hstep
    exact hone (.deleteConfigmap key) rfl (h.erase key)
  | fetch p now target =>
    unfold Fleet.step at hstep
    dsimp only at hstep
    split at hstep
    -- the clusters agree, so the same result is computed
    next result hidle hreconcile =>
      cases hstep
      have hjob := h.no_job_of_idle hidle
      refine hone (.fetch p now target) ?_
        (h.setWorker p (matches_execute s.revision (sendable_reconcile hreconcile)))
      unfold step
      dsimp only
      rw [hjob, h.cluster, hreconcile]
    · cases hstep
  | answer p objects =>
    unfold Fleet.step at hstep
    dsimp only at hstep
    split at hstep
    next c next hprogram =>
      cases hstep
      obtain ⟨action, job, hjob, hnamed, hnext⟩ := h.job_of_call hprogram
      obtain ⟨event, s', hevent, h'⟩ := step_of_serve h hsound hjob hnamed hnext objects
      exact hone event hevent h'
    · cases hstep
  | lose p objects =>
    unfold Fleet.step at hstep
    dsimp only at hstep
    split at hstep
    next c next hprogram =>
      cases hstep
      obtain ⟨action, job, hjob, hnamed, hnext⟩ := h.job_of_call hprogram
      obtain ⟨event, s', hevent, h'⟩ := step_of_serve h hsound hjob hnamed hnext objects
      -- the call has been carried out, and the job ends there
      refine ⟨[event, .stop p], s'.setJob p none, .cons hevent (.cons rfl (.nil _)), ?_⟩
      rw [hnext.failed (e := .other) (by decide)]
      have hstopped := h'.setWorker p (.through (.requeue 5))
      unfold Fleet.setWorker at hstopped ⊢
      rwa [Function.update_idem] at hstopped
    · cases hstep
  | fail p e =>
    unfold Fleet.step at hstep
    dsimp only at hstep
    split at hstep
    next c next hprogram =>
      split at hstep
      · cases hstep
      next he =>
        cases hstep
        obtain ⟨action, job, hjob, hnamed, hnext⟩ := h.job_of_call hprogram
        refine hone (.stop p) rfl (h.setWorker p ?_)
        rw [hnext.failed he]
        exact .through _
    · cases hstep
  | leave p =>
    cases hstep
    exact hone (.stop p) rfl (h.setWorker p .idle)

end

/-- **Every run of the fleet is a run of the interleaving model.** Whatever the
API server answers and whoever else writes to the cluster, the controllers'
programs make no calls but those of their jobs, in the order of the jobs: some
sequence of events leads to the same cluster, with every controller at its job,
and no controller has panicked. -/
theorem fleet_refines {config : ControllerConfig} {objects : Objects} {events : List FleetEvent}
    {f : Fleet} (hrun : Run (stepOf (Fleet.step config)) (.start objects) events f) :
    (∃ events' s, Run (stepOf (step config)) (.start objects) events' s ∧ Tracks f s) ∧
      ∀ p, f.workers p ≠ some .panics := by
  have hsimulates : ∀ f event f', stepOf (Fleet.step config) f event f' →
      ∀ s, Tracks f s ∧ SystemSound s → ∃ events s',
        Run (stepOf (step config)) s events s' ∧ Tracks f' s' ∧ SystemSound s' := by
    intro f event f' hstep s hs
    obtain ⟨events, s', hmodel, htracks⟩ := simulate hstep hs.1 hs.2
    exact ⟨events, s', hmodel, htracks,
      hmodel.invariant (fun _ _ _ hstep h => step_sound hstep h) hs.2⟩
  obtain ⟨events', s, hmodel, htracks, -⟩ :=
    hrun.simulation hsimulates ⟨Tracks.start objects, .start objects⟩
  refine ⟨⟨events', s, hmodel, htracks⟩, fun p hpanics => ?_⟩
  have hmatches := htracks.workers p
  rw [hpanics] at hmatches
  exact hmatches.not_panics

/-- Two controllers write one ConfigMap: both find that it is not there, the
route's creates it, and the Gateway's comes too late. -/
def raced : List FleetEvent :=
  [.fetch 0 0 (.gateway "default" "gw"), .answer 0 routed, .fetch 1 0 (.httproute "default" "a"),
    .answer 1 routed, .answer 0 routed, .answer 1 routed, .answer 1 routed, .answer 0 routed]

theorem raced_refines :
    ∃ f, execAll (Fleet.step {}) (.start routed) raced = some f ∧
      f.workers 0 = some (.done (.requeue 5)) ∧ f.revision = 3 ∧
        ∃ events s, Run (stepOf (step {})) (.start routed) events s ∧ Tracks f s := by
  have hrun : ∃ f, execAll (Fleet.step {}) (.start routed) raced = some f ∧
      f.workers 0 = some (.done (.requeue 5)) ∧ f.revision = 3 := ⟨_, rfl, rfl, rfl⟩
  obtain ⟨f, hexec, hgivesUp, hwrites⟩ := hrun
  exact ⟨f, hexec, hgivesUp, hwrites, (fleet_refines (Run.of_execAll hexec)).1⟩

end Multiway.ControlPlane
