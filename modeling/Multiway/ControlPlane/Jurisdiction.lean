import Multiway.ControlPlane.Convergence
import Multiway.ControlPlane.Ownership
import Multiway.ControlPlane.Provenance
import Multiway.Lib.Purge

/-!
# What the control plane leaves alone

A ConfigMap is written for a Gateway that is there, with a class this controller
has accepted, and under that Gateway's name (`governed_of_sent`). To any other
ConfigMap the control plane might as well not be there: a run leaves it as the
changes of others do when they are all that happens (`leaves_ungoverned_alone`).

The resourceVersion is left out, as it counts all writes, and so are statuses:
those of other controllers' Gateways are written.
-/

namespace Multiway.ControlPlane

open Multiway.Lib
open Multiway.Kube

/-- The Gateway is there, and so is its class, accepted by this controller. -/
def Governed (cluster : Objects) (ns name : String) : Prop :=
  ∃ gateway gatewayClass, cluster.gateways.get? (ns, name) = some gateway ∧
    cluster.gatewayClasses.get? gateway.spec.gatewayClassName = some gatewayClass ∧
    isGatewayClassAccepted gatewayClass = true

/-- The key is the one for the ConfigMap of such a Gateway. -/
def GovernedKey (cluster : Objects) (key : String × String) : Prop :=
  ∃ ns name, key = configmapKey ns name ∧ Governed cluster ns name

/-- The change is made by somebody else. -/
def Event.isEdit : Event → Bool
  | .edit _ | .editConfigmap _ | .deleteConfigmap _ => true
  | _ => false

/-- Whenever a snapshot is fetched, the key is no governed Gateway's. -/
def Ungoverned (key : String × String) (s : System) : Event → Prop
  | .fetch _ _ _ => ¬GovernedKey s.cluster key
  | _ => True

def unversioned (configmap : ConfigMap) : ConfigMap := withResourceVersion configmap none

@[simp] theorem unversioned_withResourceVersion (configmap : ConfigMap) (version : Option String) :
    unversioned (withResourceVersion configmap version) = unversioned configmap := rfl

section
variable {config : ControllerConfig} {key : String × String} {s s' t : System}

/-- **What is sent is for a governed Gateway.** -/
theorem governed_of_sent {now : Time} {target : Target} {result : ReconcileResult}
    (hreconcile : reconcile (.ofCluster s.cluster) config now target = .ok result)
    {configmap : ConfigMap} (hsent : configmap ∈ sentConfigmaps result) :
    GovernedKey s.cluster (objectKey configmap) := by
  rw [reconcile_eq] at hreconcile
  cases hfetch : fetchSnapshot (.ofCluster s.cluster) now target with
  | error e =>
    rw [hfetch] at hreconcile
    cases hreconcile
  | ok snapshot =>
    rw [hfetch] at hreconcile
    cases hreconcile
    obtain ⟨ns, name, gateway, -, hget, haccepted, hclean⟩ := gateway_of_sent hsent
    obtain ⟨clean, hclean', hkey, -⟩ := cleanConfigmap_gatewayConfigmap snapshot ns name gateway
    obtain rfl := Option.some.inj (hclean'.symm.trans hclean)
    -- what the snapshot has is in the cluster
    have hfragment := fragment_fetchSnapshot hfetch
    obtain ⟨gatewayClass, hclass⟩ := Option.isSome_iff_exists.mp haccepted
    obtain ⟨hfound, hours⟩ := Option.filter_eq_some_iff.mp hclass
    exact ⟨ns, name, hkey, gateway, gatewayClass, hfragment.gateways _ _ hget,
      hfragment.gatewayClasses _ _ hfound, hours⟩

/-- The ConfigMap looks alike in both systems, and no job of the first is about
to write it. -/
structure LeftAlone (key : String × String) (s s' : System) : Prop where
  jobs : WritesOnly (fun configmap => objectKey configmap ≠ key) s
  stored : (s.cluster.configmaps.get? key).map unversioned =
    (s'.cluster.configmaps.get? key).map unversioned

theorem LeftAlone.jobs_of_step {e : Event} (h : LeftAlone key s s') (hguard : Ungoverned key s e)
    (hstep : step config s e = some t) :
    WritesOnly (fun configmap => objectKey configmap ≠ key) t := by
  refine h.jobs.step hstep fun p now target result he hreconcile configmap hsent hkey => ?_
  subst he
  exact hguard (hkey ▸ governed_of_sent hreconcile hsent)

/-- The control plane's own steps do not touch it. -/
theorem frame_of_step {e : Event}
    (hjobs : WritesOnly (fun configmap => objectKey configmap ≠ key) s)
    (hstep : step config s e = some t) (hown : e.isEdit = false) :
    t.cluster.configmaps.get? key = s.cluster.configmaps.get? key := by
  cases transition_of_step hstep with
  | edit | editConfigmap | deleteConfigmap => cases hown
  | fetch | patch | get | conflict | stop => rfl
  | @put p fetchedAt pending reading hjob =>
    have hother := hjobs p _ hjob reading.configmap List.mem_cons_self
    exact Store.get?_insert_of_ne _ hother

/-- Others change it alike. -/
theorem stored_of_edit {e : Event} (hedit : e.isEdit = true) (hstep : step config s e = some t)
    (h : (s.cluster.configmaps.get? key).map unversioned =
      (s'.cluster.configmaps.get? key).map unversioned) :
    ∃ t', step config s' e = some t' ∧
      (t.cluster.configmaps.get? key).map unversioned =
        (t'.cluster.configmaps.get? key).map unversioned := by
  cases e with
  | edit objects =>
    cases hstep
    exact ⟨_, rfl, h⟩
  | editConfigmap configmap =>
    cases hstep
    refine ⟨_, rfl, ?_⟩
    unfold System.write
    dsimp only
    -- the version is no part of the key
    have hsame : ∀ version, objectKey (withResourceVersion configmap version) =
      objectKey configmap := fun _ => rfl
    by_cases hkey : objectKey configmap = key
    · rw [Store.get?_insert_of_eq _ ((hsame _).trans hkey),
        Store.get?_insert_of_eq _ ((hsame _).trans hkey)]
      rfl
    · rw [Store.get?_insert_of_ne _ (hsame _ ▸ hkey),
        Store.get?_insert_of_ne _ (hsame _ ▸ hkey), h]
  | deleteConfigmap erased =>
    cases hstep
    refine ⟨_, rfl, ?_⟩
    unfold System.erase
    dsimp only
    by_cases hkey : erased = key
    · rw [hkey, Store.get?_erase_self, Store.get?_erase_self]
    · rw [Store.get?_erase_of_ne _ hkey, Store.get?_erase_of_ne _ hkey, h]
  | fetch | patch | get | put | stop => cases hedit

theorem unwinding_ungoverned (config : ControllerConfig) (key : String × String) :
    Unwinding (Guarded (Ungoverned key) (stepOf (step config))) (stepOf (step config))
      Event.isEdit (LeftAlone key) where
  kept s e t s' hstep hedit h := by
    obtain ⟨t', hstep', hstored⟩ := stored_of_edit hedit hstep.2 h.stored
    exact ⟨t', hstep', h.jobs_of_step hstep.1 hstep.2, hstored⟩
  purged s e t s' hstep hown h := by
    refine ⟨h.jobs_of_step hstep.1 hstep.2, ?_⟩
    rw [frame_of_step h.jobs hstep.2 hown]
    exact h.stored

/-- **Ungoverned ConfigMaps are left alone.** Take any run of the reconcilers and
of others, from a state with nobody at work, in which no snapshot is fetched
while the key is that of a Gateway with a class of ours. The changes of others
are a run of their own, and but for its resourceVersion the ConfigMap is the same
after both. -/
theorem leaves_ungoverned_alone (config : ControllerConfig) (key : String × String)
    (hidle : ∀ p, s.jobs p = none) {events : List Event}
    (hrun : Run (Guarded (Ungoverned key) (stepOf (step config))) s events t) :
    ∃ t', Run (stepOf (step config)) s (events.filter Event.isEdit) t' ∧
      (t.cluster.configmaps.get? key).map unversioned =
        (t'.cluster.configmaps.get? key).map unversioned := by
  have hstart : LeftAlone key s s := by
    refine ⟨fun p job hjob => ?_, rfl⟩
    rw [hidle p] at hjob
    cases hjob
  obtain ⟨t', hrest, halone⟩ := (unwinding_ungoverned config key).purge hrun hstart
  exact ⟨t', hrest, halone.stored⟩

end

/-! ## Beside another controller -/

/-- What another controller has written for its Gateway, under the same name. -/
def theirConfigmap : ConfigMap where
  metadata := { name := some (DataPlaneNames.configmapName ⟨"default", "gw"⟩)
                «namespace» := some "default" }
  data := some ∅

/-- Both the Gateway and a route that names it are reconciled by ours. -/
def besideOthers : List Event :=
  [.editConfigmap theirConfigmap, .fetch 0 0 (.gateway "default" "gw"),
    .fetch 1 0 (.httproute "default" "a"), .patch 0 foreignCluster, .patch 1 foreignCluster]

theorem not_governedKey_foreignCluster (configmaps : Namespaced ConfigMap) :
    ¬GovernedKey { foreignCluster with configmaps } (configmapKey "default" "gw") := by
  rintro ⟨ns, name, hkey, gateway, gatewayClass, hgateway, hclass, haccepted⟩
  obtain ⟨rfl, rfl⟩ := configmapKey_inj.mp hkey
  obtain rfl : gatewayWith [httpListener "http" 80] = gateway := Option.some.inj hgateway
  obtain rfl : foreignClass = gatewayClass := Option.some.inj hclass
  exact absurd haccepted (by decide)

theorem besideOthers_left_alone :
    ∃ t, execAll (step {}) (.start foreignCluster) besideOthers = some t ∧
      ∃ t', Run (stepOf (step {})) (.start foreignCluster) (besideOthers.filter Event.isEdit) t' ∧
        (t.cluster.configmaps.get? (configmapKey "default" "gw")).map unversioned =
          (t'.cluster.configmaps.get? (configmapKey "default" "gw")).map unversioned :=
  ⟨_, rfl, leaves_ungoverned_alone {} _ (fun _ => rfl)
    (.cons ⟨trivial, rfl⟩ (.cons ⟨not_governedKey_foreignCluster _, rfl⟩
      (.cons ⟨not_governedKey_foreignCluster _, rfl⟩ (.cons ⟨trivial, rfl⟩
        (.cons ⟨trivial, rfl⟩ (.nil _))))))⟩

end Multiway.ControlPlane
