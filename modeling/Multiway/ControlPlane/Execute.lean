import Multiway.ControlPlane.Executor
import Multiway.Lib.Script

/-!
# The executor's calls (`shell/executor.rs`)

`ReconcileExecutor` as a program: each call it makes to the API server, and how
it goes on with the answer. Nothing is assumed about the answers. `CarriedOut`
and `BrokenOff` say what an effect looks like from the API server's side, and
`execute_ends` that an execution is one after the other of these: it stops at
the first that is broken off, and only then comes back after five seconds.
-/

namespace Multiway.ControlPlane

open Multiway.Lib
open Multiway.Lib.Script
open Multiway.Kube

/-! ## Calls -/

inductive Call
  /-- `patch_status` with a merge patch. -/
  | patchStatus (u : StatusUpdate)
  /-- `patch` with server-side apply. -/
  | apply (key : String × String) (u : ResourceUpsert)
  | getConfigmap (key : String × String)
  | replaceConfigmap (configmap : ConfigMap)
  | createConfigmap (configmap : ConfigMap)
  | delete (kind : String) (key : String × String)

/-- What is made of the answer: an object that is sent back is used by `get` only. -/
abbrev Call.Reply : Call → Type
  | getConfigmap _ => ConfigMap
  | _ => Unit

abbrev Call.Answer (c : Call) : Type := Except ApiError c.Reply

/-- A program of the controllers. -/
abbrev Program (α : Type) := Script Call.Answer α

/-- One call. -/
def request (c : Call) : Program c.Answer := ask c

/-- `kube::runtime::controller::Action`: when to reconcile again, in seconds. -/
inductive Action
  | requeue (seconds : ℕ)
deriving DecidableEq

namespace ReconcileExecutor

/-! ## Effects -/

/-- Server-side apply. A resource with no name panics. -/
def applyResource (metadata : ObjectMeta) (u : ResourceUpsert) : Program (Except ApiError Unit) :=
  match metadata.name with
  | none => .panics
  | some name => request (.apply (metadata.namespace.getD "default", name) u)

def upsertDeployment (deployment : Deployment) : Program (Except ApiError Unit) :=
  applyResource deployment.metadata (.deployment deployment)

def upsertService (service : Service) : Program (Except ApiError Unit) :=
  applyResource service.metadata (.service service)

def upsertServiceaccount (sa : ServiceAccount) : Program (Except ApiError Unit) :=
  applyResource sa.metadata (.serviceAccount sa)

def upsertRole (role : Role) : Program (Except ApiError Unit) :=
  applyResource role.metadata (.role role)

def upsertRolebinding (rb : RoleBinding) : Program (Except ApiError Unit) :=
  applyResource rb.metadata (.roleBinding rb)

/-- The write of a ConfigMap, when the get has answered. -/
def putConfigmap (cm : ConfigMap) : Except ApiError ConfigMap → Program (Except ApiError Unit)
  | .ok existing => request (.replaceConfigmap (withResourceVersion cm (resourceVersion existing)))
  | .error (.api 404) => request (.createConfigmap cm)
  | .error e => .done (.error e)

/-- Create or replace. -/
def upsertConfigmap (configmap : ConfigMap) : Program (Except ApiError Unit) :=
  match cleanConfigmap configmap with
  | none => .panics
  | some cm => .call (.getConfigmap (objectKey cm)) (putConfigmap cm)

def executeUpsert : ResourceUpsert → Program (Except ApiError Unit)
  | .deployment deployment => upsertDeployment deployment
  | .service service => upsertService service
  | .configMap configmap => upsertConfigmap configmap
  | .serviceAccount sa => upsertServiceaccount sa
  | .role role => upsertRole role
  | .roleBinding rb => upsertRolebinding rb

/-- The kinds that can be deleted. -/
def deletableKinds : List String :=
  ["Deployment", "Service", "ConfigMap", "ServiceAccount", "Role", "RoleBinding"]

/-- Another kind, or no namespace, is passed over. -/
def executeDelete (d : ResourceDelete) : Program (Except ApiError Unit) :=
  if deletableKinds.contains d.kind then
    match d.namespace with
    | some ns => request (.delete d.kind (ns, d.name))
    | none => .done (.ok ())
  else .done (.ok ())

def executeStatusUpdate (u : StatusUpdate) : Program (Except ApiError Unit) :=
  request (.patchStatus u)

/-! ## Executions -/

def actionOf : Option RequeueDecision → Action
  | some (.after d) => .requeue d
  | some (.onError d) => .requeue d
  | some .never => .requeue 3600
  | none => .requeue 300

/-- Status updates first, then upserts, then deletes. -/
def execute (result : ReconcileResult) : Program Action :=
  (tryEach executeStatusUpdate result.statusUpdates).bind fun
    | .error _ => .done (.requeue 5)
    | .ok () =>
      (tryEach executeUpsert result.upserts).bind fun
        | .error _ => .done (.requeue 5)
        | .ok () =>
          -- the errors of deletes are logged
          (each executeDelete result.deletes).bind fun _ => .done (actionOf result.requeue)

/-! ## An effect, seen from the API server -/

/-- Metadata of what is applied; ConfigMaps are not. -/
def appliedMetadata : ResourceUpsert → Option ObjectMeta
  | .configMap _ => none
  | .deployment d => some d.metadata
  | .service s => some s.metadata
  | .serviceAccount sa => some sa.metadata
  | .role r => some r.metadata
  | .roleBinding rb => some rb.metadata

/-- The key a resource is applied under, if it has a name. -/
def appliedKey (u : ResourceUpsert) : Option (String × String) :=
  (appliedMetadata u).bind fun metadata =>
    metadata.name.map fun name => (metadata.namespace.getD "default", name)

/-- The exchanges that carry an effect out. -/
inductive CarriedOut : Effect → List (Exchange Call.Answer) → Prop
  | status (u : StatusUpdate) : CarriedOut (.status u) [⟨.patchStatus u, .ok ()⟩]
  | applied {u : ResourceUpsert} {key : String × String} (hkey : appliedKey u = some key) :
      CarriedOut (.upsert u) [⟨.apply key u, .ok ()⟩]
  | replaced {configmap clean : ConfigMap} (hclean : cleanConfigmap configmap = some clean)
      (existing : ConfigMap) :
      CarriedOut (.upsert (.configMap configmap))
        [⟨.getConfigmap (objectKey clean), .ok existing⟩,
          ⟨.replaceConfigmap (withResourceVersion clean (resourceVersion existing)), .ok ()⟩]
  | created {configmap clean : ConfigMap} (hclean : cleanConfigmap configmap = some clean) :
      CarriedOut (.upsert (.configMap configmap))
        [⟨.getConfigmap (objectKey clean), .error (.api 404)⟩, ⟨.createConfigmap clean, .ok ()⟩]

/-- The exchanges that break an effect off. -/
inductive BrokenOff : Effect → List (Exchange Call.Answer) → Prop
  | status (u : StatusUpdate) (e : ApiError) :
      BrokenOff (.status u) [⟨.patchStatus u, .error e⟩]
  | applied {u : ResourceUpsert} {key : String × String} (hkey : appliedKey u = some key)
      (e : ApiError) : BrokenOff (.upsert u) [⟨.apply key u, .error e⟩]
  | unread {configmap clean : ConfigMap} (hclean : cleanConfigmap configmap = some clean)
      {e : ApiError} (he : e ≠ .api 404) :
      BrokenOff (.upsert (.configMap configmap)) [⟨.getConfigmap (objectKey clean), .error e⟩]
  | unreplaced {configmap clean : ConfigMap} (hclean : cleanConfigmap configmap = some clean)
      (existing : ConfigMap) (e : ApiError) :
      BrokenOff (.upsert (.configMap configmap))
        [⟨.getConfigmap (objectKey clean), .ok existing⟩,
          ⟨.replaceConfigmap (withResourceVersion clean (resourceVersion existing)), .error e⟩]
  | uncreated {configmap clean : ConfigMap} (hclean : cleanConfigmap configmap = some clean)
      (e : ApiError) :
      BrokenOff (.upsert (.configMap configmap))
        [⟨.getConfigmap (objectKey clean), .error (.api 404)⟩,
          ⟨.createConfigmap clean, .error e⟩]

/-- What has no name cannot be written. -/
def Nameless : Effect → Prop
  | .status _ => False
  | .upsert (.configMap configmap) => cleanConfigmap configmap = none
  | .upsert u => appliedKey u = none

/-- A delete is tried once, or passed over. -/
inductive Attempted : ResourceDelete → List (Exchange Call.Answer) → Prop
  | asked {d : ResourceDelete} {ns : String} (hkind : d.kind ∈ deletableKinds)
      (hns : d.namespace = some ns) (answer : Except ApiError Unit) :
      Attempted d [⟨.delete d.kind (ns, d.name), answer⟩]
  | passedOver {d : ResourceDelete} (h : d.kind ∉ deletableKinds ∨ d.namespace = none) :
      Attempted d []

/-! ## One effect -/

def executeEffect : Effect → Program (Except ApiError Unit)
  | .status u => executeStatusUpdate u
  | .upsert u => executeUpsert u

/-- Everything but a ConfigMap is applied. -/
theorem executeUpsert_applied {u : ResourceUpsert} {metadata : ObjectMeta}
    (h : appliedMetadata u = some metadata) : executeUpsert u = applyResource metadata u := by
  cases u with
  | configMap _ => cases h
  | _ =>
    obtain rfl := Option.some.inj h
    rfl

theorem appliedKey_eq_some_iff {u : ResourceUpsert} {key : String × String} :
    appliedKey u = some key ↔ ∃ metadata name, appliedMetadata u = some metadata ∧
      metadata.name = some name ∧ (metadata.namespace.getD "default", name) = key := by
  unfold appliedKey
  simp only [Option.bind_eq_some_iff, Option.map_eq_some_iff]
  constructor
  · rintro ⟨metadata, hmetadata, name, hname, hkey⟩
    exact ⟨metadata, name, hmetadata, hname, hkey⟩
  · rintro ⟨metadata, name, hmetadata, hname, hkey⟩
    exact ⟨metadata, hmetadata, name, hname, hkey⟩

theorem executeUpsert_of_appliedKey {u : ResourceUpsert} {key : String × String}
    (h : appliedKey u = some key) : executeUpsert u = request (.apply key u) := by
  obtain ⟨metadata, name, hmetadata, hname, rfl⟩ := appliedKey_eq_some_iff.mp h
  rw [executeUpsert_applied hmetadata]
  unfold applyResource
  rw [hname]

theorem executeUpsert_of_appliedKey_none {u : ResourceUpsert}
    (hu : ∀ configmap, u ≠ .configMap configmap) (h : appliedKey u = none) :
    executeUpsert u = .panics := by
  rcases hmetadata : appliedMetadata u with _ | metadata
  · cases u with
    | configMap configmap => exact absurd rfl (hu configmap)
    | _ => cases hmetadata
  · rw [executeUpsert_applied hmetadata]
    unfold appliedKey at h
    rw [hmetadata, Option.bind_some, Option.map_eq_none_iff] at h
    unfold applyResource
    rw [h]

theorem upsertConfigmap_of_clean {configmap clean : ConfigMap}
    (hclean : cleanConfigmap configmap = some clean) :
    upsertConfigmap configmap = .call (.getConfigmap (objectKey clean)) (putConfigmap clean) := by
  unfold upsertConfigmap
  rw [hclean]

theorem upsertConfigmap_of_nameless {configmap : ConfigMap}
    (hclean : cleanConfigmap configmap = none) : upsertConfigmap configmap = .panics := by
  unfold upsertConfigmap
  rw [hclean]

theorem putConfigmap_of_error (cm : ConfigMap) {e : ApiError} (he : e ≠ .api 404) :
    putConfigmap cm (.error e) = .done (.error e) := by
  unfold putConfigmap
  split
  next h => cases h
  next h => exact absurd (Except.error.inj h) he
  next h => rw [Except.error.inj h]

/-- The ends of an upsert of a ConfigMap that has a name. -/
theorem ends_upsertConfigmap {configmap clean : ConfigMap}
    (hclean : cleanConfigmap configmap = some clean) {log : List (Exchange Call.Answer)}
    {out : Option (Except ApiError Unit)} (h : Ends (upsertConfigmap configmap) log out) :
    (CarriedOut (.upsert (.configMap configmap)) log ∧ out = some (.ok ())) ∨
      (BrokenOff (.upsert (.configMap configmap)) log ∧ ∃ e, out = some (.error e)) := by
  rw [upsertConfigmap_of_clean hclean] at h
  obtain ⟨answer, rest, rfl, hrest⟩ := ends_call.mp h
  cases answer with
  | ok existing =>
    obtain ⟨written, rfl, rfl⟩ := ends_ask.mp hrest
    cases written with
    | ok _ => exact .inl ⟨.replaced hclean existing, rfl⟩
    | error e => exact .inr ⟨.unreplaced hclean existing e, e, rfl⟩
  | error e =>
    by_cases he : e = .api 404
    · subst he
      obtain ⟨written, rfl, rfl⟩ := ends_ask.mp hrest
      cases written with
      | ok _ => exact .inl ⟨.created hclean, rfl⟩
      | error e => exact .inr ⟨.uncreated hclean e, e, rfl⟩
    · rw [putConfigmap_of_error clean he] at hrest
      obtain ⟨rfl, rfl⟩ := ends_done.mp hrest
      exact .inr ⟨.unread hclean he, e, rfl⟩

theorem nameless_upsert_iff {u : ResourceUpsert} (hu : ∀ configmap, u ≠ .configMap configmap) :
    Nameless (.upsert u) ↔ appliedKey u = none := by
  cases u with
  | configMap configmap => exact absurd rfl (hu configmap)
  | _ => exact Iff.rfl

/-- **One effect.** It is carried out, broken off with an error, or a panic. -/
theorem outcome_of_ends {effect : Effect} {log : List (Exchange Call.Answer)}
    {out : Option (Except ApiError Unit)} (h : Ends (executeEffect effect) log out) :
    (CarriedOut effect log ∧ out = some (.ok ())) ∨
      (BrokenOff effect log ∧ ∃ e, out = some (.error e)) ∨
        (Nameless effect ∧ log = [] ∧ out = none) := by
  cases effect with
  | status u =>
    obtain ⟨answer, rfl, rfl⟩ := ends_ask.mp h
    cases answer with
    | ok _ => exact .inl ⟨.status u, rfl⟩
    | error e => exact .inr (.inl ⟨.status u e, e, rfl⟩)
  | upsert u =>
    change Ends (executeUpsert u) log out at h
    rcases hkey : appliedKey u with _ | key
    -- a ConfigMap is read and replaced, and everything else is applied by one call
    · by_cases hu : ∃ configmap, u = .configMap configmap
      · obtain ⟨configmap, rfl⟩ := hu
        rcases hclean : cleanConfigmap configmap with _ | clean
        · refine .inr (.inr ⟨hclean, ?_⟩)
          change Ends (upsertConfigmap configmap) log out at h
          rw [upsertConfigmap_of_nameless hclean] at h
          exact ends_panics.mp h
        · obtain hcarried | hbroken := ends_upsertConfigmap hclean h
          · exact .inl hcarried
          · exact .inr (.inl hbroken)
      · have hother : ∀ configmap, u ≠ .configMap configmap :=
          fun configmap heq => hu ⟨configmap, heq⟩
        rw [executeUpsert_of_appliedKey_none hother hkey] at h
        exact .inr (.inr ⟨(nameless_upsert_iff hother).mpr hkey, ends_panics.mp h⟩)
    · rw [executeUpsert_of_appliedKey hkey] at h
      obtain ⟨answer, rfl, rfl⟩ := ends_ask.mp h
      cases answer with
      | ok _ => exact .inl ⟨.applied hkey, rfl⟩
      | error e => exact .inr (.inl ⟨.applied hkey e, e, rfl⟩)

theorem ends_of_carriedOut {effect : Effect} {log : List (Exchange Call.Answer)}
    (h : CarriedOut effect log) : Ends (executeEffect effect) log (some (.ok ())) := by
  cases h with
  | status u => exact .call (.done _)
  | @applied u key hkey =>
    change Ends (executeUpsert u) _ _
    rw [executeUpsert_of_appliedKey hkey]
    exact .call (.done _)
  | @replaced configmap clean hclean existing =>
    change Ends (upsertConfigmap configmap) _ _
    rw [upsertConfigmap_of_clean hclean]
    exact .call (.call (.done _))
  | @created configmap clean hclean =>
    change Ends (upsertConfigmap configmap) _ _
    rw [upsertConfigmap_of_clean hclean]
    exact .call (.call (.done _))

theorem ends_of_brokenOff {effect : Effect} {log : List (Exchange Call.Answer)}
    (h : BrokenOff effect log) : ∃ e, Ends (executeEffect effect) log (some (.error e)) := by
  cases h with
  | status u e => exact ⟨e, .call (.done _)⟩
  | @applied u key hkey e =>
    change ∃ e, Ends (executeUpsert u) _ _
    rw [executeUpsert_of_appliedKey hkey]
    exact ⟨e, .call (.done _)⟩
  | @unread configmap clean hclean e he =>
    change ∃ e, Ends (upsertConfigmap configmap) _ _
    rw [upsertConfigmap_of_clean hclean]
    refine ⟨e, .call ?_⟩
    rw [putConfigmap_of_error clean he]
    exact .done _
  | @unreplaced configmap clean hclean existing e =>
    change ∃ e, Ends (upsertConfigmap configmap) _ _
    rw [upsertConfigmap_of_clean hclean]
    exact ⟨e, .call (.call (.done _))⟩
  | @uncreated configmap clean hclean e =>
    change ∃ e, Ends (upsertConfigmap configmap) _ _
    rw [upsertConfigmap_of_clean hclean]
    exact ⟨e, .call (.call (.done _))⟩

theorem ends_of_nameless {effect : Effect} (h : Nameless effect) :
    Ends (executeEffect effect) [] none := by
  cases effect with
  | status u => exact h.elim
  | upsert u =>
    change Ends (executeUpsert u) [] none
    by_cases hu : ∃ configmap, u = .configMap configmap
    · obtain ⟨configmap, rfl⟩ := hu
      change Ends (upsertConfigmap configmap) [] none
      rw [upsertConfigmap_of_nameless h]
      exact .panics
    · have hother : ∀ configmap, u ≠ .configMap configmap :=
        fun configmap heq => hu ⟨configmap, heq⟩
      rw [executeUpsert_of_appliedKey_none hother ((nameless_upsert_iff hother).mp h)]
      exact .panics

theorem ends_executeEffect_ok {effect : Effect} {log : List (Exchange Call.Answer)} :
    Ends (executeEffect effect) log (some (.ok ())) ↔ CarriedOut effect log := by
  refine ⟨fun h => ?_, ends_of_carriedOut⟩
  obtain ⟨hcarried, -⟩ | ⟨-, e, he⟩ | ⟨-, -, hnone⟩ := outcome_of_ends h
  · exact hcarried
  · cases he
  · cases hnone

/-- Effects carried out in turn, from the API server's side. -/
theorem ends_effects {effects : List Effect} {log : List (Exchange Call.Answer)}
    {out : Option (Except ApiError Unit)} :
    Ends (tryEach executeEffect effects) log out ↔
      (out = some (.ok ()) ∧ ∃ logs, List.Forall₂ CarriedOut effects logs ∧ log = logs.flatten) ∨
      (out ≠ some (.ok ()) ∧ ∃ before effect after logs last,
        effects = before ++ effect :: after ∧ List.Forall₂ CarriedOut before logs ∧
          Ends (executeEffect effect) last out ∧ log = logs.flatten ++ last) := by
  have hok : (fun effect log => Ends (executeEffect effect) log (some (.ok ()))) = CarriedOut :=
    funext fun _ => funext fun _ => propext ends_executeEffect_ok
  rw [ends_tryEach, hok]

theorem ends_executeDelete {d : ResourceDelete} {log : List (Exchange Call.Answer)}
    {out : Option (Except ApiError Unit)} :
    Ends (executeDelete d) log out → Attempted d log ∧ out ≠ none := by
  intro h
  unfold executeDelete at h
  split at h
  next hkind =>
    rcases hns : d.namespace with _ | ns
    · rw [hns] at h
      obtain ⟨rfl, rfl⟩ := ends_done.mp h
      exact ⟨.passedOver (.inr hns), nofun⟩
    · rw [hns] at h
      obtain ⟨answer, rfl, rfl⟩ := ends_ask.mp h
      exact ⟨.asked (List.contains_iff_mem.mp hkind) hns answer, nofun⟩
  next hkind =>
    obtain ⟨rfl, rfl⟩ := ends_done.mp h
    exact ⟨.passedOver (.inl fun hmem => hkind (List.contains_iff_mem.mpr hmem)), nofun⟩

theorem ends_of_attempted {d : ResourceDelete} {log : List (Exchange Call.Answer)}
    (h : Attempted d log) : ∃ outcome, Ends (executeDelete d) log (some outcome) := by
  unfold executeDelete
  cases h with
  | asked hkind hns answer =>
    rw [if_pos (List.contains_iff_mem.mpr hkind), hns]
    exact ⟨answer, .call (.done _)⟩
  | passedOver h =>
    split
    next hkind =>
      obtain hother | hns := h
      · exact absurd (List.contains_iff_mem.mp hkind) hother
      · rw [hns]
        exact ⟨.ok (), .done _⟩
    next => exact ⟨.ok (), .done _⟩

/-! ## The whole execution -/

/-- An error ends the execution. -/
def unlessFailed (after : Program Action) : Except ApiError Unit → Program Action
  | .error _ => .done (.requeue 5)
  | .ok () => after

/-- Carry effects out in turn, then go on. -/
def carryOut (effects : List Effect) (after : Program Action) : Program Action :=
  (tryEach executeEffect effects).bind (unlessFailed after)

/-- Attempt the deletes, then say when to come back. -/
def finish (result : ReconcileResult) : Program Action :=
  (each executeDelete result.deletes).bind fun _ => .done (actionOf result.requeue)

/-- Statuses and upserts are one list of effects. -/
theorem execute_eq_carryOut (result : ReconcileResult) :
    execute result = carryOut (effectsOf result) (finish result) := by
  unfold execute carryOut effectsOf
  rw [tryEach_append, tryEach_map, tryEach_map, bind_assoc]
  congr 1
  funext outcome
  cases outcome with
  | error e => rfl
  | ok _ => rfl

theorem ends_deletes {deletes : List ResourceDelete} {log : List (Exchange Call.Answer)}
    {out : Option Unit} :
    Ends (each executeDelete deletes) log out ↔ out = some () ∧
      ∃ logs, List.Forall₂ Attempted deletes logs ∧ log = logs.flatten := by
  have hattempted : (fun d log => ∃ outcome, Ends (executeDelete d) log (some outcome)) =
      Attempted := by
    refine funext fun d => funext fun log => propext ⟨?_, ends_of_attempted⟩
    intro hends
    obtain ⟨outcome, h⟩ := hends
    exact (ends_executeDelete h).1
  rw [ends_each fun d _ log h => (ends_executeDelete h).2 rfl, hattempted]

theorem ends_finish {result : ReconcileResult} {log : List (Exchange Call.Answer)}
    {out : Option Action} :
    Ends (finish result) log out ↔ out = some (actionOf result.requeue) ∧
      ∃ logs, List.Forall₂ Attempted result.deletes logs ∧ log = logs.flatten := by
  unfold finish
  rw [ends_bind]
  constructor
  · rintro (⟨hpanics, -⟩ | ⟨first, rest, a, rfl, hfirst, hrest⟩)
    · cases (ends_deletes.mp hpanics).1
    · obtain ⟨-, logs, hlogs, rfl⟩ := ends_deletes.mp hfirst
      obtain ⟨rfl, rfl⟩ := ends_done.mp hrest
      exact ⟨rfl, logs, hlogs, List.append_nil _⟩
  · rintro ⟨rfl, logs, hlogs, rfl⟩
    exact .inr ⟨logs.flatten, [], (), (List.append_nil _).symm,
      ends_deletes.mpr ⟨rfl, logs, hlogs, rfl⟩, .done _⟩

/-- All effects are carried out and every delete is attempted. -/
def GetsThrough (result : ReconcileResult) (log : List (Exchange Call.Answer))
    (out : Option Action) : Prop :=
  ∃ logs deletions, List.Forall₂ CarriedOut (effectsOf result) logs ∧
    List.Forall₂ Attempted result.deletes deletions ∧
      log = logs.flatten ++ deletions.flatten ∧ out = some (actionOf result.requeue)

/-- An effect is broken off, after those before it have been carried out. -/
def GetsBrokenOff (result : ReconcileResult) (log : List (Exchange Call.Answer))
    (out : Option Action) : Prop :=
  ∃ before effect after logs last, effectsOf result = before ++ effect :: after ∧
    List.Forall₂ CarriedOut before logs ∧ BrokenOff effect last ∧
      log = logs.flatten ++ last ∧ out = some (.requeue 5)

/-- It panics at an effect without a name, after those before it. -/
def Panics (result : ReconcileResult) (log : List (Exchange Call.Answer))
    (out : Option Action) : Prop :=
  ∃ before effect after logs, effectsOf result = before ++ effect :: after ∧
    List.Forall₂ CarriedOut before logs ∧ Nameless effect ∧ log = logs.flatten ∧ out = none

/-- An execution that gets through is not one that is broken off, also where both
return alike. -/
theorem GetsThrough.not_brokenOff {result : ReconcileResult} {log : List (Exchange Call.Answer)}
    {out : Option Action} (hthrough : GetsThrough result log out) :
    ¬GetsBrokenOff result log out := by
  intro hbrokenOff
  obtain ⟨before, effect, after, logs', last, hsplit, hlogs', hbroken, hlog', -⟩ := hbrokenOff
  obtain ⟨logs, deletions, hlogs, -, hlog, -⟩ := hthrough
  obtain ⟨e, hlast⟩ := ends_of_brokenOff hbroken
  have hok : Ends (tryEach executeEffect (effectsOf result)) logs.flatten (some (.ok ())) :=
    ends_effects.mpr (.inl ⟨rfl, logs, hlogs, rfl⟩)
  have herror : Ends (tryEach executeEffect (effectsOf result)) log (some (.error e)) :=
    ends_effects.mpr (.inr ⟨nofun, before, effect, after, logs', last, hsplit, hlogs', hlast, hlog'⟩)
  -- what has been carried out leaves nothing to break off
  rw [hlog] at herror
  cases (hok.unique herror).2

/-- **What an execution is, to the API server.** Whatever it answers, an
execution carries out effects in order, the statuses before the upserts. It
gets through all of them, attempts every delete and comes back when the result
says; or the first that is broken off is its last exchange, and it comes back
after five seconds; or it panics at a resource that has no name. Each of these
can be, and no two of them at once. -/
theorem execute_ends (result : ReconcileResult) (log : List (Exchange Call.Answer))
    (out : Option Action) :
    (Ends (execute result) log out ↔
      GetsThrough result log out ∨ GetsBrokenOff result log out ∨ Panics result log out) ∧
    ¬(GetsThrough result log out ∧ GetsBrokenOff result log out) ∧
    ¬(GetsThrough result log out ∧ Panics result log out) ∧
    ¬(GetsBrokenOff result log out ∧ Panics result log out) := by
  refine ⟨?_, fun h => h.1.not_brokenOff h.2, ?_, ?_⟩
  rotate_left
  · intro h
    obtain ⟨⟨_, _, _, _, _, hreturns⟩, ⟨_, _, _, _, _, _, _, _, hpanics⟩⟩ := h
    cases hreturns.symm.trans hpanics
  · intro h
    obtain ⟨⟨_, _, _, _, _, _, _, _, _, hreturns⟩, ⟨_, _, _, _, _, _, _, _, hpanics⟩⟩ := h
    cases hreturns.symm.trans hpanics
  rw [execute_eq_carryOut]
  unfold carryOut
  rw [ends_bind]
  constructor
  · rintro (⟨hpanics, rfl⟩ | ⟨first, rest, outcome, rfl, heffects, hrest⟩)
    · obtain ⟨hnone, -⟩ | ⟨-, before, effect, after, logs, last, hsplit, hlogs, hlast, rfl⟩ :=
        ends_effects.mp hpanics
      · cases hnone
      · obtain ⟨-, hsome⟩ | ⟨-, e, hsome⟩ | ⟨hnameless, rfl, -⟩ := outcome_of_ends hlast
        · cases hsome
        · cases hsome
        · exact .inr (.inr ⟨before, effect, after, logs, hsplit, hlogs, hnameless,
            List.append_nil _, rfl⟩)
    · obtain ⟨hok, logs, hlogs, rfl⟩ |
        ⟨hout, before, effect, after, logs, last, hsplit, hlogs, hlast, rfl⟩ :=
          ends_effects.mp heffects
      -- all effects went through, so the deletions come next
      · obtain rfl := Option.some.inj hok
        obtain ⟨rfl, deletions, hdeletions, rfl⟩ := ends_finish.mp hrest
        exact .inl ⟨logs, deletions, hlogs, hdeletions, rfl, rfl⟩
      · obtain ⟨-, hsome⟩ | ⟨hbroken, e, hsome⟩ | ⟨-, -, hnone⟩ := outcome_of_ends hlast
        · exact absurd hsome hout
        -- the error is handed on, and nothing comes after it
        · obtain rfl := Option.some.inj hsome
          obtain ⟨rfl, rfl⟩ := ends_done.mp hrest
          exact .inr (.inl ⟨before, effect, after, logs, last, hsplit, hlogs, hbroken,
            List.append_nil _, rfl⟩)
        · cases hnone
  · rintro (⟨logs, deletions, hlogs, hdeletions, rfl, rfl⟩ |
      ⟨before, effect, after, logs, last, hsplit, hlogs, hbroken, rfl, rfl⟩ |
      ⟨before, effect, after, logs, hsplit, hlogs, hnameless, rfl, rfl⟩)
    · exact .inr ⟨_, _, .ok (), rfl, ends_effects.mpr (.inl ⟨rfl, logs, hlogs, rfl⟩),
        ends_finish.mpr ⟨rfl, deletions, hdeletions, rfl⟩⟩
    · obtain ⟨e, hlast⟩ := ends_of_brokenOff hbroken
      exact .inr ⟨_, [], .error e, (List.append_nil _).symm, ends_effects.mpr
        (.inr ⟨nofun, before, effect, after, logs, last, hsplit, hlogs, hlast, rfl⟩), .done _⟩
    · exact .inl ⟨ends_effects.mpr (.inr ⟨nofun, before, effect, after, logs, [], hsplit, hlogs,
        ends_of_nameless hnameless, (List.append_nil _).symm⟩), rfl⟩

end ReconcileExecutor

end Multiway.ControlPlane
