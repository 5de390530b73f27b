import Multiway.ControlPlane.Acceptance
import Multiway.ControlPlane.Fetcher
import Multiway.ControlPlane.Reconcile
import Multiway.Lib.Run
import Multiway.Lib.Versioned

/-!
# Executing results (`shell/executor.rs`, the controllers)

Any number of reconcilers run side by side against one API server. Each
fetches a snapshot, computes its result and carries the effects out one by one
(`Job`), and in between anybody may change the cluster. A step of the system is
one call to the API server (`Event`), but the reads that make up a snapshot
count as one.

Only ConfigMaps are written by get and replace. `upsert_configmap` reads the
resourceVersion right before it writes, long after the snapshot its content was
computed from: the version protects what is written between the two calls, and
not what was written between the snapshot and the first of them.
-/

namespace Multiway.ControlPlane

open Multiway.Lib
open Multiway.Kube
open SnapshotFetcher

/-! ## The API server's ConfigMaps -/

/-- The resourceVersion of the `n`-th write. -/
def resourceVersionOf (n : ℕ) : String := toString n

theorem resourceVersionOf_injective : Function.Injective resourceVersionOf := by
  intro n m h
  have hnat := congrArg String.toNat? h
  simpa [resourceVersionOf] using hnat

def withResourceVersion (configmap : ConfigMap) (version : Option String) : ConfigMap :=
  { configmap with metadata := { configmap.metadata with resourceVersion := version } }

@[simp] theorem resourceVersion_withResourceVersion (configmap : ConfigMap)
    (version : Option String) :
    resourceVersion (withResourceVersion configmap version) = version := rfl

/-! ## Jobs -/

/-- One effect of a result. No reconciler asks for a deletion. -/
inductive Effect
  | status (u : StatusUpdate)
  | upsert (u : ResourceUpsert)

/-- The effects of a result in the order they are executed, statuses first. -/
def effectsOf (result : ReconcileResult) : List Effect :=
  result.statusUpdates.map .status ++ result.upserts.map .upsert

/-- The ConfigMap that is sent for an upsert: a clean one, without a
resourceVersion. A ConfigMap with no name is an error. -/
def cleanConfigmap (configmap : ConfigMap) : Option ConfigMap :=
  configmap.metadata.name.map fun name =>
    { metadata :=
        { name := some name
          «namespace» := some (configmap.metadata.namespace.getD "default")
          labels := configmap.metadata.labels
          ownerReferences := configmap.metadata.ownerReferences }
      data := configmap.data }

/-- Where `upsert_configmap` stands after its get: what it is going to write
and what it found. -/
structure Reading where
  configmap : ConfigMap
  existing : Option ConfigMap
  /-- The number of writes before the get. -/
  gotAt : ℕ

/-- A reconciliation that has fetched its snapshot. -/
structure Job where
  /-- The number of writes before the snapshot. -/
  fetchedAt : ℕ
  pending : List Effect
  reading : Option Reading := none

/-- What the snapshot is fetched for. -/
inductive Target
  | gateway («namespace» name : String)
  | httproute («namespace» name : String)

/-- Fetch a snapshot and compute the result. -/
def reconcile (client : Client) (config : ControllerConfig) (now : Time) :
    Target → Except ApiError ReconcileResult
  | .gateway ns name =>
    (snapshotForGateway client now ns name).map fun s => reconcileGateway s config ns name
  | .httproute ns name =>
    (snapshotForHttproute client now ns name).map fun s => reconcileHttproute s config ns name

/-! ## The system -/

/-- Where a stored ConfigMap came from. -/
structure Origin where
  /-- The number of writes before the snapshot it was computed from. -/
  fetchedAt : ℕ
  /-- The write that stored it. -/
  storedAt : ℕ
deriving DecidableEq

structure System where
  cluster : Objects
  /-- The number of writes so far. -/
  revision : ℕ
  jobs : ℕ → Option Job
  /-- For the ConfigMaps that a job stored. -/
  origins : String × String → Option Origin

inductive Event
  /-- Somebody changes objects other than ConfigMaps. -/
  | edit (objects : Objects)
  /-- Somebody else writes a ConfigMap. -/
  | editConfigmap (configmap : ConfigMap)
  | deleteConfigmap (key : String × String)
  /-- An idle worker starts a reconciliation. Its snapshot is taken to be read at
  one instant; the fetcher makes one call after another. -/
  | fetch (job : ℕ) (now : Time) (target : Target)
  /-- An effect that is no ConfigMap is carried out by one call; what the API
  server makes of it is not ours to say. -/
  | patch (job : ℕ) (objects : Objects)
  /-- `upsert_configmap` reads the stored ConfigMap. -/
  | get (job : ℕ)
  /-- `upsert_configmap` replaces or creates it. -/
  | put (job : ℕ)
  /-- Nothing is left to do, a call has failed, or the worker is gone. -/
  | stop (job : ℕ)

namespace System

/-- A cluster without ConfigMaps, nothing running. -/
def start (objects : Objects) : System where
  cluster := { objects with configmaps := ∅ }
  revision := 0
  jobs := fun _ => none
  origins := fun _ => none

variable (s : System)

/-- All objects but the ConfigMaps are as given. -/
def setObjects (objects : Objects) : System :=
  { s with
    cluster := { objects with configmaps := s.cluster.configmaps }
    revision := s.revision + 1 }

/-- File a ConfigMap with the next resourceVersion. -/
def write (configmap : ConfigMap) (origin : Option Origin) : System :=
  { s with
    cluster := { s.cluster with
      configmaps := s.cluster.configmaps.insert
        (withResourceVersion configmap (some (resourceVersionOf (s.revision + 1)))) }
    revision := s.revision + 1
    origins := Function.update s.origins (objectKey configmap) origin }

def erase (key : String × String) : System :=
  { s with
    cluster := { s.cluster with configmaps := s.cluster.configmaps.erase key }
    revision := s.revision + 1
    origins := Function.update s.origins key none }

def setJob (p : ℕ) (job : Option Job) : System :=
  { s with jobs := Function.update s.jobs p job }

/-- Whether the API server carries out the write: a replace when the version it
carries is the stored one, a create when nothing is stored. -/
def admits (reading : Reading) : Bool :=
  match reading.existing, s.cluster.configmaps.get? (objectKey reading.configmap) with
  | some existing, some stored =>
    resourceVersion stored == resourceVersion existing
  | none, none => true
  | _, _ => false

end System

/-- One call to the API server; `none` when the event cannot happen. -/
def step (config : ControllerConfig) (s : System) : Event → Option System
  | .edit objects => some (s.setObjects objects)
  | .editConfigmap configmap => some (s.write configmap none)
  | .deleteConfigmap key => some (s.erase key)
  | .fetch p now target =>
    match s.jobs p, reconcile (.ofCluster s.cluster) config now target with
    | none, .ok result =>
      some (s.setJob p (some { fetchedAt := s.revision, pending := effectsOf result }))
    | _, _ => none
  | .patch p objects =>
    match s.jobs p with
    | some { fetchedAt, pending := effect :: pending, reading := none } =>
      match effect with
      -- ConfigMaps go through `get` and `put`
      | .upsert (.configMap _) => none
      | _ => some ((s.setObjects objects).setJob p (some { fetchedAt, pending }))
    | _ => none
  | .get p =>
    match s.jobs p with
    | some { fetchedAt, pending := .upsert (.configMap configmap) :: pending, reading := none } =>
      (cleanConfigmap configmap).map fun configmap =>
        s.setJob p (some
          { fetchedAt, pending
            reading := some
              { configmap
                existing := s.cluster.configmaps.get? (objectKey configmap)
                gotAt := s.revision } })
    | _ => none
  | .put p =>
    match s.jobs p with
    | some { fetchedAt, pending, reading := some reading } =>
      if s.admits reading then
        some ((s.write reading.configmap (some { fetchedAt, storedAt := s.revision + 1 })).setJob p
          (some { fetchedAt, pending }))
      -- a conflict is an error, and an error ends the job
      else some (s.setJob p none)
    | _ => none
  | .stop p => some (s.setJob p none)

/-- What an event does to a system it can happen in: `step` as a relation. -/
inductive Transition (config : ControllerConfig) (s : System) : Event → System → Prop
  | edit {objects : Objects} : Transition config s (.edit objects) (s.setObjects objects)
  | editConfigmap {configmap : ConfigMap} :
      Transition config s (.editConfigmap configmap) (s.write configmap none)
  | deleteConfigmap {key : String × String} :
      Transition config s (.deleteConfigmap key) (s.erase key)
  | fetch {p : ℕ} {now : Time} {target : Target} {result : ReconcileResult}
      (hidle : s.jobs p = none)
      (hreconcile : reconcile (.ofCluster s.cluster) config now target = .ok result) :
      Transition config s (.fetch p now target)
        (s.setJob p (some { fetchedAt := s.revision, pending := effectsOf result }))
  | patch {p : ℕ} {objects : Objects} {fetchedAt : ℕ} {effect : Effect} {pending : List Effect}
      (hjob : s.jobs p = some { fetchedAt, pending := effect :: pending })
      (hother : ∀ configmap, effect ≠ .upsert (.configMap configmap)) :
      Transition config s (.patch p objects)
        ((s.setObjects objects).setJob p (some { fetchedAt, pending }))
  | get {p : ℕ} {fetchedAt : ℕ} {configmap clean : ConfigMap} {pending : List Effect}
      (hjob : s.jobs p =
        some { fetchedAt, pending := .upsert (.configMap configmap) :: pending })
      (hclean : cleanConfigmap configmap = some clean) :
      Transition config s (.get p)
        (s.setJob p (some
          { fetchedAt, pending
            reading := some
              { configmap := clean
                existing := s.cluster.configmaps.get? (objectKey clean)
                gotAt := s.revision } }))
  | put {p : ℕ} {fetchedAt : ℕ} {pending : List Effect} {reading : Reading}
      (hjob : s.jobs p = some { fetchedAt, pending, reading := some reading })
      (hadmits : s.admits reading = true) :
      Transition config s (.put p)
        ((s.write reading.configmap (some { fetchedAt, storedAt := s.revision + 1 })).setJob p
          (some { fetchedAt, pending }))
  | conflict {p : ℕ} {fetchedAt : ℕ} {pending : List Effect} {reading : Reading}
      (hjob : s.jobs p = some { fetchedAt, pending, reading := some reading })
      (hadmits : s.admits reading = false) :
      Transition config s (.put p) (s.setJob p none)
  | stop {p : ℕ} : Transition config s (.stop p) (s.setJob p none)

/-- **A step is a transition.** -/
theorem transition_of_step {config : ControllerConfig} {s t : System} {event : Event}
    (hstep : step config s event = some t) : Transition config s event t := by
  cases event with
  | edit objects =>
    cases hstep
    exact .edit
  | editConfigmap configmap =>
    cases hstep
    exact .editConfigmap
  | deleteConfigmap key =>
    cases hstep
    exact .deleteConfigmap
  | fetch p now target =>
    unfold step at hstep
    dsimp only at hstep
    split at hstep
    next hidle hreconcile =>
      cases hstep
      exact .fetch hidle hreconcile
    · cases hstep
  | patch p objects =>
    unfold step at hstep
    dsimp only at hstep
    split at hstep
    next fetchedAt effect pending hjob =>
      split at hstep
      · cases hstep
      next hother =>
        cases hstep
        exact .patch hjob hother
    · cases hstep
  | get p =>
    unfold step at hstep
    dsimp only at hstep
    split at hstep
    next fetchedAt configmap pending hjob =>
      obtain ⟨clean, hclean, rfl⟩ := Option.map_eq_some_iff.mp hstep
      exact .get hjob hclean
    · cases hstep
  | put p =>
    unfold step at hstep
    dsimp only at hstep
    split at hstep
    next fetchedAt pending reading hjob =>
      split at hstep
      next hadmits =>
        cases hstep
        exact .put hjob hadmits
      next hadmits =>
        cases hstep
        exact .conflict hjob (Bool.eq_false_iff.mpr hadmits)
    · cases hstep
  | stop p =>
    cases hstep
    exact .stop

/-! ## What every run keeps -/

/-- A ConfigMap was read after `readAt` writes, and only later writes have
touched the store since. -/
abbrev ConfigMapSeen (store : Namespaced ConfigMap) (readAt : ℕ) (configmap : ConfigMap) : Prop :=
  Seen resourceVersion resourceVersionOf store readAt configmap

/-- What a reading may rely on after `revision` writes. -/
structure ReadingSound (store : Namespaced ConfigMap) (revision fetchedAt : ℕ)
    (reading : Reading) : Prop where
  fetched : fetchedAt ≤ reading.gotAt
  got : reading.gotAt ≤ revision
  key : ∀ existing, reading.existing = some existing →
    objectKey existing = objectKey reading.configmap
  seen : ∀ existing, reading.existing = some existing →
    ConfigMapSeen store reading.gotAt existing

structure JobSound (store : Namespaced ConfigMap) (revision : ℕ) (job : Job) : Prop where
  fetched : job.fetchedAt ≤ revision
  reading : ∀ reading, job.reading = some reading →
    ReadingSound store revision job.fetchedAt reading

/-- The origin of a stored ConfigMap names the write that issued its version. -/
structure OriginSound (store : Namespaced ConfigMap) (key : String × String) (origin : Origin) :
    Prop where
  fetched : origin.fetchedAt < origin.storedAt
  stored : ∃ configmap, store.get? key = some configmap ∧
    resourceVersion configmap = some (resourceVersionOf origin.storedAt)

/-- The invariant of the system. -/
structure SystemSound (s : System) : Prop where
  issued : Issued resourceVersion resourceVersionOf s.cluster.configmaps s.revision
  jobs : ∀ p job, s.jobs p = some job → JobSound s.cluster.configmaps s.revision job
  origins : ∀ key origin, s.origins key = some origin →
    OriginSound s.cluster.configmaps key origin

/-- A step that keeps what has been seen keeps the jobs. -/
theorem JobSound.later {store store' : Namespaced ConfigMap} {revision revision' : ℕ} {job : Job}
    (h : JobSound store revision job) (hle : revision ≤ revision')
    (hseen : ∀ readAt configmap, readAt ≤ revision → ConfigMapSeen store readAt configmap →
      ConfigMapSeen store' readAt configmap) : JobSound store' revision' job := by
  refine ⟨le_trans h.fetched hle, fun reading hreading => ?_⟩
  obtain ⟨hfetched, hgot, hkey, hread⟩ := h.reading reading hreading
  exact ⟨hfetched, le_trans hgot hle, hkey,
    fun existing hexisting => hseen _ _ hgot (hread existing hexisting)⟩

theorem SystemSound.start (objects : Objects) : SystemSound (.start objects) where
  issued := Issued.empty
  jobs _ _ hjob := by cases hjob
  origins _ _ horigin := by cases horigin

namespace SystemSound

variable {s : System}

theorem setObjects (h : SystemSound s) (objects : Objects) :
    SystemSound (s.setObjects objects) where
  issued := h.issued.mono (Nat.le_succ _)
  jobs p job hjob := (h.jobs p job hjob).later (Nat.le_succ _) fun _ _ _ hseen => hseen
  origins := h.origins

theorem erase (h : SystemSound s) (key : String × String) : SystemSound (s.erase key) where
  issued := (h.issued.mono (Nat.le_succ _)).erase key
  jobs p job hjob :=
    (h.jobs p job hjob).later (Nat.le_succ _) fun _ _ _ hseen => hseen.erase key
  origins key' origin horigin := by
    by_cases hkey : key' = key
    · rw [hkey] at horigin
      simp [System.erase] at horigin
    · have hold : s.origins key' = some origin := by
        simpa [System.erase, Function.update_of_ne hkey] using horigin
      obtain ⟨hfetched, configmap, hget, hversion⟩ := h.origins key' origin hold
      exact ⟨hfetched, configmap,
        (Store.get?_erase_of_ne _ (Ne.symm hkey)).trans hget, hversion⟩

theorem write (h : SystemSound s) (configmap : ConfigMap) {origin : Option Origin}
    (horigin : ∀ o, origin = some o → o.fetchedAt ≤ s.revision ∧ o.storedAt = s.revision + 1) :
    SystemSound (s.write configmap origin) where
  issued := h.issued.insert rfl
  jobs p job hjob :=
    (h.jobs p job hjob).later (Nat.le_succ _) fun _ _ hle hseen =>
      hseen.insert resourceVersionOf_injective hle rfl
  origins key o ho := by
    by_cases hkey : key = objectKey configmap
    -- what is written is filed with the version its origin names
    · have hnew : origin = some o := by
        rw [hkey] at ho
        simpa [System.write] using ho
      obtain ⟨hfetched, hstored⟩ := horigin o hnew
      refine ⟨by omega, withResourceVersion configmap
        (some (resourceVersionOf (s.revision + 1))), ?_, ?_⟩
      · rw [hkey]
        exact Store.get?_insert_self _ _
      · rw [hstored, resourceVersion_withResourceVersion]
    · have hold : s.origins key = some o := by
        simpa [System.write, Function.update_of_ne hkey] using ho
      obtain ⟨hfetched, stored, hget, hversion⟩ := h.origins key o hold
      refine ⟨hfetched, stored, Eq.trans (Store.get?_insert_of_ne _ ?_) hget, hversion⟩
      exact Ne.symm hkey

theorem setJob (h : SystemSound s) (p : ℕ) {job : Option Job}
    (hjob : ∀ j, job = some j → JobSound s.cluster.configmaps s.revision j) :
    SystemSound (s.setJob p job) where
  issued := h.issued
  jobs q j hj := by
    by_cases hq : q = p
    · rw [hq] at hj
      exact hjob j (by simpa [System.setJob] using hj)
    · exact h.jobs q j (by simpa [System.setJob, Function.update_of_ne hq] using hj)
  origins := h.origins

end SystemSound

/-- **One step.** Every event keeps the invariant. -/
theorem step_sound {config : ControllerConfig} {s t : System} {event : Event}
    (hstep : step config s event = some t) (h : SystemSound s) : SystemSound t := by
  cases transition_of_step hstep with
  | @edit objects => exact h.setObjects objects
  | @editConfigmap configmap => exact h.write configmap fun _ ho => by cases ho
  | @deleteConfigmap key => exact h.erase key
  | @fetch p now target result =>
    refine h.setJob p fun j hj => ?_
    cases hj
    exact ⟨le_refl _, fun _ hr => by cases hr⟩
  | @patch p objects fetchedAt effect pending hjob =>
    refine (h.setObjects objects).setJob p fun j hj => ?_
    cases hj
    exact ⟨Nat.le_succ_of_le (h.jobs p _ hjob).fetched, fun _ hr => by cases hr⟩
  | @get p fetchedAt configmap clean pending hjob =>
    refine h.setJob p fun j hj => ?_
    cases hj
    refine ⟨(h.jobs p _ hjob).fetched, fun reading hreading => ?_⟩
    cases hreading
    -- what is filed now has just been seen
    refine ⟨(h.jobs p _ hjob).fetched, le_refl _, fun existing hget => ?_,
      fun existing hget => ?_⟩
    · exact Store.key_of_get? hget
    · exact Seen.of_get? h.issued hget
  | @put p fetchedAt pending reading hjob =>
    have hjobSound := h.jobs p _ hjob
    refine (h.write reading.configmap ?_).setJob p fun j hj => ?_
    · intro o ho
      cases ho
      exact ⟨hjobSound.fetched, rfl⟩
    · cases hj
      exact ⟨Nat.le_succ_of_le hjobSound.fetched, fun _ hr => by cases hr⟩
  | @conflict p => exact h.setJob p fun _ hj => by cases hj
  | @stop p => exact h.setJob p fun _ hj => by cases hj

/-- **Every run.** The invariant holds wherever a run gets. -/
theorem sound_of_run {config : ControllerConfig} {objects : Objects} {events : List Event}
    {s : System} (hrun : Run (stepOf (step config)) (.start objects) events s) : SystemSound s :=
  hrun.invariant (fun _ _ _ hstep hs => step_sound hstep hs) (.start objects)

/-! ## Lost updates -/

/-- The next call of job `p` is a put that the API server carries out, and what
it replaces was stored by a job. -/
structure Replaces (s : System) (p : ℕ) (job : Job) (reading : Reading) (origin : Origin) :
    Prop where
  running : s.jobs p = some job
  atPut : job.reading = some reading
  admitted : s.admits reading = true
  replaced : s.origins (objectKey reading.configmap) = some origin

/-- A put is let through for what its get has found, and nothing else. -/
theorem existing_of_admits {s : System} (h : SystemSound s) {p : ℕ} {job : Job}
    {reading : Reading} (hjob : s.jobs p = some job) (hreading : job.reading = some reading)
    (hadmits : s.admits reading = true) :
    s.cluster.configmaps.get? (objectKey reading.configmap) = reading.existing := by
  have hsound := (h.jobs p job hjob).reading reading hreading
  unfold System.admits at hadmits
  split at hadmits
  next existing stored hexisting hstored =>
    -- the same version means the same ConfigMap
    have hseen := hsound.seen existing hexisting
    have hsame := hseen.current stored (by rw [hsound.key existing hexisting]; exact hstored)
      (beq_iff_eq.mp hadmits)
    rw [hstored, hexisting, hsame]
  next hexisting hstored => rw [hexisting, hstored]
  · cases hadmits

/-- What was found by a get was stored before it. -/
theorem storedAt_le_gotAt {s : System} (h : SystemSound s) {p : ℕ} {job : Job}
    {reading : Reading} {origin : Origin} (hreplaces : Replaces s p job reading origin) :
    origin.storedAt ≤ reading.gotAt := by
  obtain ⟨hjob, hreading, hadmits, horigin⟩ := hreplaces
  obtain ⟨stored, hstored, hversion⟩ := (h.origins _ _ horigin).stored
  have hexisting : reading.existing = some stored := by
    rw [← existing_of_admits h hjob hreading hadmits, hstored]
  have hseen := ((h.jobs p job hjob).reading reading hreading).seen stored hexisting
  obtain ⟨n, hn, hissued⟩ := hseen.issued
  rw [hversion] at hissued
  rw [resourceVersionOf_injective (Option.some.inj hissued)]
  exact hn

/-- **Which updates can be lost.** In every run, a put that is carried out
replaces what its own get has found. So a content computed from an older
snapshot replaces one from a newer snapshot only if that was fetched and stored
between the older job's snapshot and its get; once the newer content is stored
later than the get, the put fails and ends the job. -/
theorem replaces_only_what_it_found {config : ControllerConfig} {objects : Objects}
    {events : List Event} {s : System}
    (hrun : Run (stepOf (step config)) (.start objects) events s) {p : ℕ} {job : Job}
    {reading : Reading} (hjob : s.jobs p = some job) (hreading : job.reading = some reading) :
    (s.admits reading = true →
      s.cluster.configmaps.get? (objectKey reading.configmap) = reading.existing) ∧
    ∀ origin, s.origins (objectKey reading.configmap) = some origin →
      (s.admits reading = true →
        origin.fetchedAt < origin.storedAt ∧ origin.storedAt ≤ reading.gotAt) ∧
      (reading.gotAt < origin.storedAt → step config s (.put p) = some (s.setJob p none)) := by
  have hsound := sound_of_run hrun
  refine ⟨existing_of_admits hsound hjob hreading, fun origin horigin => ?_⟩
  have hfound : s.admits reading = true → origin.storedAt ≤ reading.gotAt := fun hadmits =>
    storedAt_le_gotAt hsound ⟨hjob, hreading, hadmits, horigin⟩
  refine ⟨fun hadmits => ⟨(hsound.origins _ _ horigin).fetched, hfound hadmits⟩, fun hlater => ?_⟩
  have hrefused : s.admits reading = false := by
    by_contra hadmits
    rw [Bool.not_eq_false] at hadmits
    exact absurd (hfound hadmits) (Nat.not_le.mpr hlater)
  obtain ⟨fetchedAt, pending, _⟩ := job
  cases hreading
  unfold step
  dsimp only
  rw [hjob]
  dsimp only
  rw [hrefused, if_neg Bool.false_ne_true]

/-! ### One update lost -/

/-- A plain Gateway, before and after it gets its first route. -/
def routeless : Objects := clusterWith [httpListener "http" 80] []

def routed : Objects := clusterWith [httpListener "http" 80] [routeNamed "a" none []]

/-- The Gateway's reconciler takes its snapshot, the route is created and
reconciled, and the Gateway's reconciler goes on. -/
def lostUpdate : List Event :=
  [.fetch 0 0 (.gateway "default" "gw"), .edit routed, .fetch 1 0 (.httproute "default" "a"),
    .patch 1 routed, .get 1, .put 1, .patch 0 routed, .get 0]

theorem lostUpdate_replaces :
    ∃ s, execAll (step {}) (.start routeless) lostUpdate = some s ∧
      ∃ job reading, Replaces s 0 job reading { fetchedAt := 1, storedAt := 3 } ∧
        job.fetchedAt = 0 :=
  ⟨_, rfl, _, _, ⟨rfl, rfl, rfl, rfl⟩, rfl⟩

/-- There the newer content was stored before the older job's get. -/
theorem lostUpdate_found :
    ∃ s, Run (stepOf (step {})) (.start routeless) lostUpdate s ∧
      ∃ job reading, s.jobs 0 = some job ∧ job.reading = some reading ∧ job.fetchedAt = 0 ∧
        s.cluster.configmaps.get? (objectKey reading.configmap) = reading.existing ∧
          3 ≤ reading.gotAt := by
  obtain ⟨s, hexec, job, reading, ⟨hjob, hreading, hadmits, horigin⟩, hfetched⟩ :=
    lostUpdate_replaces
  have hrun := Run.of_execAll hexec
  obtain ⟨hexisting, hreplaced⟩ := replaces_only_what_it_found hrun hjob hreading
  exact ⟨s, hrun, job, reading, hjob, hreading, hfetched, hexisting hadmits,
    ((hreplaced _ horigin).1 hadmits).2⟩

/-- A content from an older snapshot replaces one from a newer snapshot. -/
theorem update_lost :
    ¬ ∀ (config : ControllerConfig) (objects : Objects) (events : List Event) (s : System),
      Run (stepOf (step config)) (.start objects) events s →
        ∀ p job reading origin, Replaces s p job reading origin →
          ¬ job.fetchedAt < origin.fetchedAt := by
  intro hall
  obtain ⟨s, hexec, job, reading, hreplaces, hfetched⟩ := lostUpdate_replaces
  refine hall {} _ _ s (Run.of_execAll hexec) 0 job reading _ hreplaces ?_
  rw [hfetched]
  exact Nat.zero_lt_one

end Multiway.ControlPlane
