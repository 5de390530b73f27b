import Multiway.ControlPlane.Inputs

/-!
# Conditions of listeners

`validate_listeners` has a verdict for each listener of a Gateway, with a
reason and a message; `reconcile_gateway` only asks whether all are valid. When
one is not, the Gateway is rejected and its verdict is copied to every listener,
so `conditionsPerListener_iff`: the conditions are those of the listeners only
when none is invalid.
-/

namespace Multiway.ControlPlane

open Multiway.Lib
open Multiway.Lib.Text
open Multiway.Kube

/-- The reason of the first condition of a type. -/
def conditionReason (conditions : List Condition) (type : String) : Option String :=
  (conditions.find? fun c => c.type == type).map Condition.reason

/-- The Accepted condition in the status of a listener is the verdict on that
listener. -/
structure OwnVerdict (listener : GatewayListeners) (status : GatewayStatusListeners) : Prop where
  name : status.name = listener.name
  accepted : conditionStatus status.conditions "Accepted" = some "True" ↔
    (validateSingleListener listener).valid = true
  reason : (validateSingleListener listener).valid = false →
    conditionReason status.conditions "Accepted" = some (validateSingleListener listener).reason

/-- Each listener has a status of its own. -/
def ConditionsPerListener (gateway : Gateway) (status : GatewayStatus) : Prop :=
  List.Forall₂ OwnVerdict gateway.spec.listeners (status.listeners.getD [])

/-- The reason an invalid listener is given is not that of its Gateway. -/
theorem reason_ne_listenersNotValid (listener : GatewayListeners) :
    (validateSingleListener listener).reason ≠ "ListenersNotValid" := by
  have hport : (validateListenerPort listener).reason ≠ "ListenersNotValid" := by
    unfold validateListenerPort
    split
    · exact show "InvalidPort" ≠ _ by decide
    · exact show "Accepted" ≠ _ by decide
  unfold validateSingleListener
  split
  · split
    · exact show "InvalidTLS" ≠ _ by decide
    · exact hport
  · split
    · exact show "InvalidTLS" ≠ _ by decide
    · exact hport
  · exact show "UnsupportedProtocol" ≠ _ by decide

section
variable {s : WorldSnapshot} {gateway : Gateway} {ns name : String}

/-- With one verdict for all, no status is that of an invalid listener. -/
theorem conditionsPerListener_buildGatewayStatus_iff {now : Time} {message : String} :
    ConditionsPerListener gateway
        (buildGatewayStatus now gateway false "ListenersNotValid" message none) ↔
      gateway.spec.listeners = [] := by
  unfold ConditionsPerListener
  constructor
  · intro h
    have hall : List.Forall₂ OwnVerdict gateway.spec.listeners (gateway.spec.listeners.map _) := h
    rw [List.forall₂_map_right_iff, List.forall₂_same] at hall
    rw [List.eq_nil_iff_forall_not_mem]
    intro listener hmem
    obtain ⟨-, haccepted, hreason⟩ := hall listener hmem
    cases hvalid : (validateSingleListener listener).valid with
    | true =>
      have hstatus := haccepted.mpr hvalid
      revert hstatus
      exact show some "False" ≠ some "True" by decide
    | false =>
      have hreason' := Option.some.inj (hreason hvalid)
      exact reason_ne_listenersNotValid listener hreason'.symm
  · intro h
    show List.Forall₂ OwnVerdict gateway.spec.listeners (gateway.spec.listeners.map _)
    rw [h]
    exact .nil

theorem conditionsPerListener_builtGatewayStatus
    (hvalid : (validateListeners gateway.spec.listeners).allValid = true) :
    ConditionsPerListener gateway (builtGatewayStatus s gateway ns name) := by
  show List.Forall₂ OwnVerdict gateway.spec.listeners (gateway.spec.listeners.map _)
  rw [List.forall₂_map_right_iff, List.forall₂_same]
  intro listener hmem
  have hlistener : (validateSingleListener listener).valid = true :=
    List.all_eq_true.mp hvalid listener hmem
  refine ⟨rfl, iff_of_true rfl hlistener, ?_⟩
  intro hinvalid
  rw [hlistener] at hinvalid
  cases hinvalid

end

/-- **When the conditions are per listener.** No listener of the Gateway is
invalid. -/
theorem conditionsPerListener_iff {s : WorldSnapshot} (config : ControllerConfig)
    {ns name : String} {gateway : Gateway} (hget : s.getGateway ns name = some gateway)
    (hclass : classAccepted s gateway.spec.gatewayClassName = true) :
    (∃ status, (reconcileGateway s config ns name).statusUpdates = [.gateway ns name status] ∧
        ConditionsPerListener gateway status) ↔
      ∀ listener ∈ gateway.spec.listeners, (validateSingleListener listener).valid = true := by
  have hall : (validateListeners gateway.spec.listeners).allValid = true ↔
      ∀ listener ∈ gateway.spec.listeners, (validateSingleListener listener).valid = true :=
    List.all_eq_true
  rw [statusUpdates_reconcileGateway hget, ← hall]
  constructor
  · intro h
    obtain ⟨status, hstatus, hper⟩ := h
    obtain rfl : gatewayStatusOf s gateway ns name = status := by simpa using hstatus
    by_contra hinvalid
    unfold gatewayStatusOf at hper
    rw [isNone_getAcceptedGatewayClass, hclass, Bool.not_true, if_neg Bool.false_ne_true,
      Bool.eq_false_iff.mpr hinvalid, Bool.not_false, if_pos rfl,
      conditionsPerListener_buildGatewayStatus_iff] at hper
    -- without listeners none is invalid
    rw [hper] at hinvalid
    exact hinvalid rfl
  · intro hvalid
    refine ⟨_, rfl, ?_⟩
    rw [gatewayStatusOf_of_ready hget ((readyGateway_eq_some_iff hget).mpr ⟨hclass, hvalid⟩)]
    exact conditionsPerListener_builtGatewayStatus hvalid

theorem conditionsPerListener_two_valid :
    ∃ status, (reconcileGateway (.full (clusterWith [httpListener "http" 80,
        httpListener "alt" 8080] []) 0) {} "default" "gw").statusUpdates =
        [.gateway "default" "gw" status] ∧
      ConditionsPerListener (gatewayWith [httpListener "http" 80, httpListener "alt" 8080])
        status := by
  refine (conditionsPerListener_iff {} rfl rfl).mpr ?_
  intro listener hmem
  rcases List.mem_pair.mp hmem with rfl | rfl
  · rfl
  · rfl

/-- A listener of a protocol that is not supported, beside a valid one. -/
def tcpBeside : List GatewayListeners :=
  [httpListener "http" 80, { httpListener "tcp" 9000 with protocol := "TCP" }]

/-- The valid listener is not accepted. -/
theorem sibling_not_accepted :
    ∃ status, (reconcileGateway (.full (clusterWith tcpBeside []) 0) {} "default"
        "gw").statusUpdates = [.gateway "default" "gw" status] ∧
      (validateSingleListener (httpListener "http" 80)).valid = true ∧
      ¬ConditionsPerListener (gatewayWith tcpBeside) status := by
  refine ⟨_, rfl, rfl, ?_⟩
  intro hper
  have haccepted := (List.forall₂_cons.mp hper).1.accepted.mpr rfl
  revert haccepted
  decide

end Multiway.ControlPlane
