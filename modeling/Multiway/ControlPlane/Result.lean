import Multiway.Kube.GatewayApi

/-!
# Reconciliation results (`core/result.rs`)

The functional core returns what should happen as data; the executor carries
it out.
-/

namespace Multiway.ControlPlane

open Multiway.Kube

/-- A resource to create or update. -/
inductive ResourceUpsert
  | deployment (deployment : Deployment)
  | service (service : Service)
  | configMap (configMap : ConfigMap)
  | serviceAccount (serviceAccount : ServiceAccount)
  | role (role : Role)
  | roleBinding (roleBinding : RoleBinding)

/-- A resource to delete. -/
structure ResourceDelete where
  apiVersion : String
  kind : String
  «namespace» : Option String
  name : String
deriving DecidableEq

/-- A status update to apply. -/
inductive StatusUpdate
  | gatewayClass (name : String) (status : GatewayClassStatus)
  | gateway («namespace» name : String) (status : GatewayStatus)
  | httpRoute («namespace» name : String) (status : HttpRouteStatus)
deriving DecidableEq

/-- When to requeue, in whole seconds: the source makes all its durations with
`Duration::from_secs`. -/
inductive RequeueDecision
  | after (seconds : ℕ)
  | onError (seconds : ℕ)
  | never
deriving DecidableEq

inductive EventSeverity | normal | warning
deriving DecidableEq

structure ReconcileEvent where
  severity : EventSeverity
  reason : String
  message : String
deriving DecidableEq

/-- The effects a reconciliation asks for. -/
structure ReconcileResult where
  upserts : List ResourceUpsert := []
  deletes : List ResourceDelete := []
  statusUpdates : List StatusUpdate := []
  requeue : Option RequeueDecision := none
  events : List ReconcileEvent := []

namespace ReconcileResult

variable (r : ReconcileResult)

def withRequeue (seconds : ℕ) : ReconcileResult := { r with requeue := some (.after seconds) }

def upsert (u : ResourceUpsert) : ReconcileResult := { r with upserts := r.upserts ++ [u] }

def updateStatus (u : StatusUpdate) : ReconcileResult :=
  { r with statusUpdates := r.statusUpdates ++ [u] }

def emitNormal (reason message : String) : ReconcileResult :=
  { r with events := r.events ++ [⟨.normal, reason, message⟩] }

def emitWarning (reason message : String) : ReconcileResult :=
  { r with events := r.events ++ [⟨.warning, reason, message⟩] }

/-- All ConfigMap upserts. -/
def configmapUpserts : List ConfigMap :=
  r.upserts.filterMap fun
    | .configMap c => some c
    | _ => none

@[simp] theorem withRequeue_upserts (n : ℕ) : (r.withRequeue n).upserts = r.upserts := rfl

@[simp] theorem withRequeue_statusUpdates (n : ℕ) :
    (r.withRequeue n).statusUpdates = r.statusUpdates := rfl

@[simp] theorem upsert_upserts (u : ResourceUpsert) :
    (r.upsert u).upserts = r.upserts ++ [u] := rfl

@[simp] theorem upsert_statusUpdates (u : ResourceUpsert) :
    (r.upsert u).statusUpdates = r.statusUpdates := rfl

@[simp] theorem updateStatus_upserts (u : StatusUpdate) :
    (r.updateStatus u).upserts = r.upserts := rfl

@[simp] theorem updateStatus_statusUpdates (u : StatusUpdate) :
    (r.updateStatus u).statusUpdates = r.statusUpdates ++ [u] := rfl

@[simp] theorem emitNormal_upserts (reason message : String) :
    (r.emitNormal reason message).upserts = r.upserts := rfl

@[simp] theorem emitNormal_statusUpdates (reason message : String) :
    (r.emitNormal reason message).statusUpdates = r.statusUpdates := rfl

@[simp] theorem emitWarning_upserts (reason message : String) :
    (r.emitWarning reason message).upserts = r.upserts := rfl

@[simp] theorem emitWarning_statusUpdates (reason message : String) :
    (r.emitWarning reason message).statusUpdates = r.statusUpdates := rfl

end ReconcileResult

end Multiway.ControlPlane
