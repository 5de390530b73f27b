import Multiway.ControlPlane.Executor
import Multiway.ControlPlane.StoredStatus

/-!
# When a Gateway says it is programmed (`execute` of `shell/executor.rs`)

`execute` writes the status of a result first, so that `observedGeneration`
moves on even if a resource cannot be created, then applies the resources one
after the other, and gives up at the first error. Between the two the stored
status runs ahead of the data plane: what a status that says Programmed=True
stands for is that the execution that wrote it has written the resources of
that generation, or has not got to them (`programmed_or_awaited`).

Executions of one Gateway follow each other or overlap in any way. What others
do to the cluster shows in the reads of the next snapshot, so each snapshot has
a client of its own, any of whose reads may fail.
-/

namespace Multiway.ControlPlane

open Multiway.Lib
open Multiway.Kube
open SnapshotFetcher

/-! ## Executions -/

/-- A result that is being executed. -/
structure Execution where
  /-- What it was computed from. -/
  snapshot : WorldSnapshot
  /-- The effects that have been carried out, in order. -/
  done : List Effect
  pending : List Effect
  /-- No call has failed yet. -/
  running : Bool

/-- How an effect ends for `execute`. -/
inductive Outcome
  | ok
  /-- It was carried out, and the answer did not arrive. -/
  | lost
  | failed
deriving DecidableEq

/-- A Gateway and the executions for it. -/
structure Rollout where
  /-- The stored status of the Gateway. -/
  status : Json
  executions : ℕ → Option Execution
  /-- The execution that wrote the status last. -/
  writer : Option ℕ

inductive RolloutEvent
  /-- A snapshot is fetched and its result computed. -/
  | start (execution : ℕ) (client : Client) (now : Time)
  /-- The next effect of an execution. -/
  | call (execution : ℕ) (outcome : Outcome)
  /-- The Gateway is deleted, and made anew without a status. -/
  | recreate

namespace Rollout

/-- A Gateway nobody has reconciled. -/
def fresh : Rollout := ⟨.null, fun _ => none, none⟩

def setExecution (s : Rollout) (p : ℕ) (execution : Execution) : Rollout :=
  { s with executions := Function.update s.executions p (some execution) }

/-- What an effect does to the stored status: a merge patch, or nothing. -/
def carryOut (rfc3339 : Time → String) (s : Rollout) (p : ℕ) : Effect → Rollout
  | .status u =>
    { s with
      status := s.status.mergePatch (StatusUpdate.toJson rfc3339 u)
      writer := some p }
  | .upsert _ => s

end Rollout

section
variable (rfc3339 : Time → String) (config : ControllerConfig) (ns name : String)

/-- One step; `none` when the event cannot happen. -/
def rolloutStep (s : Rollout) : RolloutEvent → Option Rollout
  | .start p client now =>
    match s.executions p, snapshotForGateway client now ns name with
    | none, .ok snapshot =>
      some (s.setExecution p
        { snapshot, done := [], pending := effectsOf (reconcileGateway snapshot config ns name)
          running := true })
    | _, _ => none
  | .call p outcome =>
    match s.executions p with
    | some { snapshot, done, pending := effect :: pending, running := true } =>
      match outcome with
      | .ok =>
        some ((s.carryOut rfc3339 p effect).setExecution p
          { snapshot, done := done ++ [effect], pending, running := true })
      | .lost =>
        some ((s.carryOut rfc3339 p effect).setExecution p
          { snapshot, done := done ++ [effect], pending, running := false })
      -- the first error ends the execution
      | .failed =>
        some (s.setExecution p { snapshot, done, pending := effect :: pending, running := false })
    | _ => none
  | .recreate => some { s with status := .null, writer := none }

/-! ## What a status says -/

/-- The status says Programmed=True of the generation. -/
def SaysProgrammed (status : Json) (g : ℤ) : Prop :=
  ∃ c ∈ ((status.field? "conditions").getD .null).elems,
    c.field? "type" = some (.str "Programmed") ∧ c.field? "status" = some (.str "True") ∧
      c.field? "observedGeneration" = some (.int g)

theorem field?_condition (c : Condition) :
    (Condition.toJson rfc3339 c).field? "type" = some (.str c.type) ∧
      (Condition.toJson rfc3339 c).field? "status" = some (.str c.status) ∧
      (Condition.toJson rfc3339 c).field? "observedGeneration" = c.observedGeneration.map .int := by
  obtain ⟨_, _, observedGeneration, _, _, _⟩ := c
  cases observedGeneration <;> exact ⟨rfl, rfl, rfl⟩

/-- The conditions after a patch are those of the patch. -/
theorem conditions_mergePatch (stored : Json) {status : GatewayStatus}
    {conditions : List Condition} (h : status.conditions = some conditions) :
    (stored.mergePatch (GatewayStatus.toJson rfc3339 status)).field? "conditions" =
      some (.arr (conditions.map (Condition.toJson rfc3339))) := by
  obtain ⟨addresses, _, listeners⟩ := status
  obtain rfl := h
  have harr : Json.arr (conditions.map (Condition.toJson rfc3339)) ≠ .null := nofun
  refine (Json.field?_mergePatch_of_mem stored ?_ ?_ harr).trans
    (congrArg some (Json.mergePatch_arr _ _))
  · cases addresses <;> cases listeners <;> simp [Json.optional, conditionsToJson]
  · simp [Json.optional, conditionsToJson]

theorem exists_condition_of_saysProgrammed {stored : Json} {status : GatewayStatus}
    {conditions : List Condition} (h : status.conditions = some conditions) {g : ℤ}
    (hprogrammed : SaysProgrammed (stored.mergePatch (GatewayStatus.toJson rfc3339 status)) g) :
    ∃ c ∈ conditions, c.type = "Programmed" ∧ c.status = "True" ∧
      c.observedGeneration = some g := by
  obtain ⟨entry, hentry, htype, hstatus, hgeneration⟩ := hprogrammed
  rw [conditions_mergePatch rfc3339 stored h] at hentry
  obtain ⟨c, hc, rfl⟩ := List.mem_map.mp hentry
  obtain ⟨htype', hstatus', hgeneration'⟩ := field?_condition rfc3339 c
  rw [htype'] at htype
  rw [hstatus'] at hstatus
  rw [hgeneration'] at hgeneration
  obtain ⟨g', hg', hsame⟩ := Option.map_eq_some_iff.mp hgeneration
  refine ⟨c, hc, Json.str.inj (Option.some.inj htype), Json.str.inj (Option.some.inj hstatus), ?_⟩
  rw [hg', Json.int.inj hsame]

/-- **A result that says so has the resources.** They are computed from the
Gateway of that generation. -/
theorem upserts_of_saysProgrammed {snapshot : WorldSnapshot} {u : StatusUpdate}
    (hu : u ∈ (reconcileGateway snapshot config ns name).statusUpdates) {stored : Json} {g : ℤ}
    (hprogrammed : SaysProgrammed (stored.mergePatch (StatusUpdate.toJson rfc3339 u)) g) :
    ∃ gateway, snapshot.getGateway ns name = some gateway ∧
      gateway.metadata.generation = some g ∧
      (reconcileGateway snapshot config ns name).upserts =
        dataPlaneUpserts ⟨ns, name⟩ gateway config (buildGatewayConfig gateway ns snapshot).1 := by
  rcases hget : snapshot.getGateway ns name with _ | gateway
  · unfold reconcileGateway at hu
    rw [hget] at hu
    cases hu
  · rw [statusUpdates_reconcileGateway hget, List.mem_singleton] at hu
    subst hu
    have hinvalid : ∀ reason message : String,
        ¬SaysProgrammed (stored.mergePatch (GatewayStatus.toJson rfc3339
          (buildGatewayStatus snapshot.now gateway false reason message none))) g := by
      intro reason message hprogrammed
      obtain ⟨c, hc, -, hstatus, -⟩ := exists_condition_of_saysProgrammed rfc3339 rfl hprogrammed
      have hfalse : statusText false = "True" := by
        rcases List.mem_pair.mp hc with rfl | rfl <;> exact hstatus
      exact absurd hfalse (by decide)
    unfold reconcileGateway
    rw [hget]
    unfold StatusUpdate.toJson gatewayStatusOf at hprogrammed
    dsimp only at hprogrammed ⊢
    split at hprogrammed
    · exact absurd hprogrammed (hinvalid _ _)
    next hclass =>
      split at hprogrammed
      · exact absurd hprogrammed (hinvalid _ _)
      next hvalid =>
        rw [if_neg hclass, if_neg hvalid]
        obtain ⟨c, hc, -, -, hgeneration⟩ :=
          exists_condition_of_saysProgrammed rfc3339 rfl hprogrammed
        refine ⟨gateway, rfl, ?_, rfl⟩
        rcases List.mem_pair.mp hc with rfl | rfl <;> exact hgeneration

end

/-! ## What the status stands for -/

/-- The resources a programmed Gateway needs. -/
inductive Part | configMap | service | deployment
deriving DecidableEq

section
variable (config : ControllerConfig) (ns name : String)

/-- The resource as it is computed from a snapshot and its Gateway. -/
def Part.upsert (snapshot : WorldSnapshot) (gateway : Gateway) : Part → ResourceUpsert
  | .configMap =>
    .configMap (buildConfigmap ⟨ns, name⟩ (buildGatewayConfig gateway ns snapshot).1 gateway)
  | .service => .service (buildService ⟨ns, name⟩ gateway)
  | .deployment => .deployment (buildDeployment ⟨ns, name⟩ gateway config)

/-- The part, as computed for the generation or a later one, has been written. -/
def PartWritten (s : Rollout) (part : Part) (g : ℤ) : Prop :=
  ∃ p execution gateway g', s.executions p = some execution ∧
    execution.snapshot.getGateway ns name = some gateway ∧
    gateway.metadata.generation = some g' ∧ g ≤ g' ∧
    .upsert (part.upsert config ns name execution.snapshot gateway) ∈ execution.done

/-- The execution that wrote the status has not got to the part: the part, as
computed for the generation, is still among its effects. -/
def PartAwaited (s : Rollout) (part : Part) (g : ℤ) : Prop :=
  ∃ p execution gateway, s.writer = some p ∧ s.executions p = some execution ∧
    execution.snapshot.getGateway ns name = some gateway ∧
    gateway.metadata.generation = some g ∧
    .upsert (part.upsert config ns name execution.snapshot gateway) ∈ execution.pending

/-- The result of an execution has all parts, of that generation. -/
def Covers (execution : Execution) (g : ℤ) : Prop :=
  ∃ gateway, execution.snapshot.getGateway ns name = some gateway ∧
    gateway.metadata.generation = some g ∧ ∀ part : Part,
      .upsert (part.upsert config ns name execution.snapshot gateway) ∈
        execution.done ++ execution.pending

/-- The invariant of a rollout. -/
structure RolloutSound (s : Rollout) : Prop where
  effects : ∀ p execution, s.executions p = some execution →
    execution.done ++ execution.pending =
      effectsOf (reconcileGateway execution.snapshot config ns name)
  covered : ∀ g, SaysProgrammed s.status g →
    ∃ p execution, s.writer = some p ∧ s.executions p = some execution ∧
      Covers config ns name execution g

end

section
variable {rfc3339 : Time → String} {config : ControllerConfig} {ns name : String}

theorem not_saysProgrammed_null {g : ℤ} : ¬SaysProgrammed .null g := by
  intro h
  obtain ⟨_, hmem, -⟩ := h
  cases hmem

theorem RolloutSound.fresh : RolloutSound config ns name .fresh where
  effects _ _ h := by cases h
  covered _ h := absurd h not_saysProgrammed_null

/-- An execution that goes on covers what it covered. -/
theorem Covers.goOn {execution next : Execution} {g : ℤ} (h : Covers config ns name execution g)
    (hsnapshot : next.snapshot = execution.snapshot)
    (heffects : next.done ++ next.pending = execution.done ++ execution.pending) :
    Covers config ns name next g := by
  unfold Covers
  rw [hsnapshot, heffects]
  exact h

/-- An execution that goes on, without a word about the status. -/
theorem RolloutSound.setExecution {s : Rollout} (h : RolloutSound config ns name s) {p : ℕ}
    {execution next : Execution} (hold : s.executions p = some execution)
    (hsnapshot : next.snapshot = execution.snapshot)
    (heffects : next.done ++ next.pending = execution.done ++ execution.pending) :
    RolloutSound config ns name (s.setExecution p next) where
  effects q other hother := by
    by_cases hq : q = p
    · subst hq
      obtain rfl : next = other := by simpa [Rollout.setExecution] using hother
      rw [heffects, hsnapshot]
      exact h.effects q execution hold
    · exact h.effects q other
        (by simpa [Rollout.setExecution, Function.update_of_ne hq] using hother)
  covered g hprogrammed := by
    obtain ⟨q, other, hwriter, hother, hcovers⟩ := h.covered g hprogrammed
    by_cases hq : q = p
    · subst hq
      obtain rfl := Option.some.inj (hold.symm.trans hother)
      refine ⟨q, next, hwriter, ?_, hcovers.goOn hsnapshot heffects⟩
      exact Function.update_self q (some next) s.executions
    · refine ⟨q, other, hwriter, ?_, hcovers⟩
      exact (Function.update_of_ne hq (some next) s.executions).trans hother

theorem Part.upsert_mem (part : Part) (snapshot : WorldSnapshot) (gateway : Gateway) :
    part.upsert config ns name snapshot gateway ∈
      dataPlaneUpserts ⟨ns, name⟩ gateway config (buildGatewayConfig gateway ns snapshot).1 := by
  cases part <;> simp [Part.upsert, dataPlaneUpserts]

/-- Carrying out the next effect of an execution keeps the invariant: if it is
the status, the execution covers what it says. -/
theorem RolloutSound.carryOut {s : Rollout} (h : RolloutSound config ns name s) {p : ℕ}
    {execution : Execution} (hold : s.executions p = some execution) {effect : Effect}
    (heffect : effect ∈ execution.pending) :
    RolloutSound config ns name (s.carryOut rfc3339 p effect) := by
  cases effect with
  | upsert u => exact h
  | status u =>
    refine ⟨h.effects, fun g hprogrammed => ⟨p, execution, rfl, hold, ?_⟩⟩
    have hall := h.effects p execution hold
    have hmem : Effect.status u ∈
        effectsOf (reconcileGateway execution.snapshot config ns name) := by
      rw [← hall]
      exact List.mem_append_right _ heffect
    have hu : u ∈ (reconcileGateway execution.snapshot config ns name).statusUpdates := by
      simpa [effectsOf] using hmem
    obtain ⟨gateway, hget, hgeneration, hupserts⟩ :=
      upserts_of_saysProgrammed rfc3339 config ns name hu hprogrammed
    refine ⟨gateway, hget, hgeneration, fun part => ?_⟩
    rw [hall]
    refine List.mem_append_right _ (List.mem_map_of_mem ?_)
    rw [hupserts]
    exact part.upsert_mem execution.snapshot gateway

/-- An execution that starts has done nothing yet. -/
theorem RolloutSound.start {s : Rollout} (h : RolloutSound config ns name s) {p : ℕ}
    (hnew : s.executions p = none) (snapshot : WorldSnapshot) :
    RolloutSound config ns name (s.setExecution p
      { snapshot, done := [], pending := effectsOf (reconcileGateway snapshot config ns name)
        running := true }) where
  effects q execution hq := by
    by_cases hp : q = p
    · subst hp
      obtain rfl := by simpa [Rollout.setExecution] using hq
      rfl
    · exact h.effects q execution
        (by simpa [Rollout.setExecution, Function.update_of_ne hp] using hq)
  covered g hprogrammed := by
    obtain ⟨q, execution, hwriter, hq, hcovers⟩ := h.covered g hprogrammed
    have hp : q ≠ p := by
      intro hsame
      rw [hsame, hnew] at hq
      cases hq
    exact ⟨q, execution, hwriter, (Function.update_of_ne hp _ s.executions).trans hq, hcovers⟩

/-- **One step.** Every event keeps the invariant. -/
theorem rolloutStep_sound {s t : Rollout} {event : RolloutEvent}
    (hstep : rolloutStep rfc3339 config ns name s event = some t)
    (h : RolloutSound config ns name s) : RolloutSound config ns name t := by
  cases event with
  | start p client now =>
    unfold rolloutStep at hstep
    dsimp only at hstep
    split at hstep
    next snapshot hnew _ =>
      cases hstep
      exact h.start hnew snapshot
    · cases hstep
  | call p outcome =>
    unfold rolloutStep at hstep
    dsimp only at hstep
    split at hstep
    next snapshot done effect pending hold =>
      have hcarried : RolloutSound config ns name (s.carryOut rfc3339 p effect) :=
        h.carryOut hold List.mem_cons_self
      have hsame : (s.carryOut rfc3339 p effect).executions = s.executions := by
        cases effect <;> rfl
      have hold' := (congrFun hsame p).trans hold
      cases outcome with
      | ok =>
        cases hstep
        exact hcarried.setExecution hold' rfl (List.append_assoc _ _ _)
      | lost =>
        cases hstep
        exact hcarried.setExecution hold' rfl (List.append_assoc _ _ _)
      | failed =>
        cases hstep
        exact h.setExecution hold rfl rfl
    · cases hstep
  | recreate =>
    cases hstep
    exact ⟨h.effects, fun _ hprogrammed => absurd hprogrammed not_saysProgrammed_null⟩

/-- **What Programmed=True stands for.** In every run, whichever calls fail:
where the status says it of a generation, each of ConfigMap, Service and
Deployment has been written as computed for that generation or a later one, or
the execution that wrote the status has not got to it. -/
theorem programmed_or_awaited {events : List RolloutEvent} {s : Rollout}
    (hrun : Run (stepOf (rolloutStep rfc3339 config ns name)) .fresh events s) {g : ℤ}
    (hprogrammed : SaysProgrammed s.status g) (part : Part) :
    PartWritten config ns name s part g ∨ PartAwaited config ns name s part g := by
  have hsound : RolloutSound config ns name s :=
    hrun.invariant (fun _ _ _ hstep hs => rolloutStep_sound hstep hs) .fresh
  obtain ⟨p, execution, hwriter, hexecution, gateway, hget, hgeneration, hparts⟩ :=
    hsound.covered g hprogrammed
  rcases List.mem_append.mp (hparts part) with hdone | hpending
  · exact .inl ⟨p, execution, gateway, g, hexecution, hget, hgeneration, le_refl g, hdone⟩
  · exact .inr ⟨p, execution, gateway, hwriter, hexecution, hget, hgeneration, hpending⟩

end

/-! ### A first reconciliation that fails -/

/-- A Gateway with an address of its own, generation 1. -/
def addressedGateway : Gateway :=
  { gatewayWith [httpListener "http" 80] with
    metadata :=
      { name := some "gw", «namespace» := some "default", generation := some 1 }
    spec :=
      { gatewayClassName := "multiway", listeners := [httpListener "http" 80]
        addresses := some [{ value := "10.0.0.1" }] } }

def addressedCluster : Objects :=
  { clusterWith [] [] with gateways := (∅ : Namespaced Gateway).insert addressedGateway }

/-- The status is written, and the ConfigMap is not. -/
def failingRollout : List RolloutEvent :=
  [.start 0 (.ofCluster addressedCluster) 0, .call 0 .ok, .call 0 .failed]

/-- The Gateway is programmed in its first reconciliation. -/
def programmingRollout : List RolloutEvent :=
  .start 0 (.ofCluster addressedCluster) 0 :: List.replicate 7 (.call 0 .ok)

theorem programmingRollout_written :
    ∃ s, Run (stepOf (rolloutStep (fun _ => "") {} "default" "gw")) .fresh programmingRollout s ∧
      SaysProgrammed s.status 1 ∧
        (PartWritten {} "default" "gw" s .deployment 1 ∨
          PartAwaited {} "default" "gw" s .deployment 1) := by
  obtain ⟨s, hexec, hprogrammed⟩ : ∃ s, execAll (rolloutStep (fun _ => "") {} "default" "gw") .fresh
      programmingRollout = some s ∧ SaysProgrammed s.status 1 :=
    ⟨_, rfl, _, List.mem_cons_of_mem _ List.mem_cons_self, rfl, rfl, rfl⟩
  have hrun := Run.of_execAll hexec
  exact ⟨s, hrun, hprogrammed, programmed_or_awaited hrun hprogrammed .deployment⟩

/-- The status says Programmed=True, and nothing but the status is written. -/
theorem failingRollout_says :
    ∃ s, execAll (rolloutStep (fun _ => "") {} "default" "gw") .fresh failingRollout = some s ∧
      SaysProgrammed s.status 1 ∧
        (∃ status, (s.executions 0).map Execution.done = some [.status status]) ∧
          ∀ p, p ≠ 0 → s.executions p = none := by
  refine ⟨_, rfl, ⟨_, List.mem_cons_of_mem _ List.mem_cons_self, rfl, rfl, rfl⟩, ⟨_, rfl⟩, ?_⟩
  intro p hp
  show Function.update (Function.update (Function.update _ 0 _) 0 _) 0 _ p = _
  rw [Function.update_of_ne hp, Function.update_of_ne hp, Function.update_of_ne hp]
  rfl

/-- Programmed=True of a generation whose ConfigMap has never been written. -/
theorem programmed_early :
    ¬ ∀ (rfc3339 : Time → String) (config : ControllerConfig) (ns name : String)
        (events : List RolloutEvent) (s : Rollout),
      Run (stepOf (rolloutStep rfc3339 config ns name)) .fresh events s →
        ∀ g, SaysProgrammed s.status g → ∀ part, PartWritten config ns name s part g := by
  intro hall
  obtain ⟨s, hexec, hprogrammed, ⟨status, hdone⟩, hother⟩ := failingRollout_says
  obtain ⟨p, execution, _, _, hexecution, -, -, -, hmem⟩ :=
    hall _ _ _ _ _ s (Run.of_execAll hexec) 1 hprogrammed .configMap
  by_cases hp : p = 0
  · rw [hp] at hexecution
    rw [hexecution, Option.map_some, Option.some.injEq] at hdone
    rw [hdone, List.mem_singleton] at hmem
    cases hmem
  · rw [hother p hp] at hexecution
    cases hexecution

end Multiway.ControlPlane
