import Multiway.ControlPlane.Addresses
import Multiway.ControlPlane.StatusPatch

/-!
# What is stored after a status is written

The arrays of a status replace the stored ones, but a merge patch keeps every
field it does not name, and a status without addresses does not name them. So
the stored status is the emitted one exactly when it had no field before that
the emitted one leaves out (`stores_iff`). Of a Gateway that is what it was
reached under before it became invalid.
-/

namespace Multiway.ControlPlane

open Multiway.Lib
open Multiway.Kube

/-! ## The fields that are emitted -/

/-- The status part of a stored object. -/
def statusOf (stored : Json) : Json := (stored.field? "status").getD .null

/-- The stored status is the emitted one, field by field. -/
def Stores (rfc3339 : Time → String) (stored : Json) (u : StatusUpdate) : Prop :=
  ∀ field, (statusOf stored).field? field = (StatusUpdate.toJson rfc3339 u).field? field

/-- There is an address to be reached under: one of the spec, or, once the data
plane Service is there, of a load balancer, of a node, or its ClusterIP. -/
def HasAddress (s : WorldSnapshot) (gateway : Gateway) (names : DataPlaneNames) : Prop :=
  gateway.spec.addresses.getD [] ≠ [] ∨
    ∃ svc, s.getService names.namespace names.serviceName = some svc ∧
      ((∃ entry ∈ ((svc.status.bind ServiceStatus.loadBalancer).bind
          LoadBalancerStatus.ingress).getD [], entry.ip ≠ none ∨ entry.hostname ≠ none) ∨
        s.getNodeInternalIp ≠ none ∨
        ∃ ip, svc.spec.bind ServiceSpec.clusterIp = some ip ∧ ip ≠ "" ∧ ip ≠ "None")

/-- The Gateway is accepted, its listeners are valid, and it has an address. -/
structure Addressed (s : WorldSnapshot) (ns name : String) (gateway : Gateway) : Prop where
  found : s.getGateway ns name = some gateway
  accepted : getAcceptedGatewayClass s gateway.spec.gatewayClassName ≠ none
  valid : (validateListeners gateway.spec.listeners).allValid = true
  address : HasAddress s gateway ⟨ns, name⟩

/-- The fields of the status a reconciler writes. -/
def Writes (s : WorldSnapshot) (field : String) : Reconciler → Prop
  | .gatewayClass _ => field = "conditions"
  | .gateway ns name =>
    field = "conditions" ∨ field = "listeners" ∨
      field = "addresses" ∧ ∃ gateway, Addressed s ns name gateway
  | .httproute _ _ => field = "parents"

/-- Addresses are derived exactly when there are any. -/
theorem deriveGatewayAddresses_ne_none {s : WorldSnapshot} {gateway : Gateway}
    {names : DataPlaneNames} :
    (deriveGatewayAddresses s gateway names).1 ≠ none ↔ HasAddress s gateway names := by
  unfold HasAddress
  by_cases hspec : gateway.spec.addresses.getD [] = []
  · rw [deriveGatewayAddresses_of_service hspec, or_iff_right (not_not.mpr hspec)]
    rcases s.getService names.namespace names.serviceName with _ | svc
    · rw [Option.bind_none]
      refine iff_of_false (fun h => h rfl) ?_
      intro h
      obtain ⟨svc, hsvc, -⟩ := h
      exact Option.some_ne_none svc hsvc.symm
    · rw [Option.bind_some, serviceAddresses_ne_none_iff, filter_hasAddress_ne_nil_iff]
      constructor
      · intro h
        exact ⟨svc, rfl, h⟩
      · intro h
        obtain ⟨other, hother, h⟩ := h
        obtain rfl := Option.some.inj hother
        exact h
  · rw [deriveGatewayAddresses_of_spec hspec]
    refine iff_of_true ?_ (.inl hspec)
    intro hnone
    have hnone : gateway.spec.addresses = none := hnone
    rw [hnone] at hspec
    exact hspec rfl

section
variable {s : WorldSnapshot} {config : ControllerConfig}

/-- Conditions and listeners are always there, addresses when there are any. -/
theorem gatewayStatusOf_fields {ns name : String} {gateway : Gateway}
    (hget : s.getGateway ns name = some gateway) :
    (gatewayStatusOf s gateway ns name).conditions ≠ none ∧
      (gatewayStatusOf s gateway ns name).listeners ≠ none ∧
      ((gatewayStatusOf s gateway ns name).addresses ≠ none ↔
        ∃ gateway, Addressed s ns name gateway) := by
  have hsame : ∀ other, Addressed s ns name other → other = gateway := by
    intro other h
    exact Option.some.inj (h.found.symm.trans hget)
  unfold gatewayStatusOf
  split
  next hclass =>
    refine ⟨nofun, nofun, iff_of_false (not_not.mpr rfl) ?_⟩
    intro haddressed
    obtain ⟨other, h⟩ := haddressed
    exact h.accepted (hsame other h ▸ Option.isNone_iff_eq_none.mp hclass)
  next hclass =>
    split
    next hvalid =>
      refine ⟨nofun, nofun, iff_of_false (not_not.mpr rfl) ?_⟩
      intro haddressed
      obtain ⟨other, h⟩ := haddressed
      have := h.valid
      rw [hsame other h] at this
      simp [this] at hvalid
    next hvalid =>
      refine ⟨nofun, nofun, deriveGatewayAddresses_ne_none.trans ?_⟩
      constructor
      · intro haddress
        exact ⟨gateway, hget, by simpa using hclass, by simpa using hvalid, haddress⟩
      · intro haddressed
        obtain ⟨other, h⟩ := haddressed
        exact hsame other h ▸ h.address

end

/-! ## The document of a status -/

section
variable (rfc3339 : Time → String)

theorem isArrays_gateway (status : GatewayStatus) :
    Json.IsArrays
      (fun field => field = "addresses" ∧ status.addresses ≠ none ∨
        field = "conditions" ∧ status.conditions ≠ none ∨
        field = "listeners" ∧ status.listeners ≠ none)
      (GatewayStatus.toJson rfc3339 status) := by
  obtain ⟨addresses, conditions, listeners⟩ := status
  refine ⟨_, rfl, ?_, ?_, ?_⟩
  all_goals
    rcases addresses with _ | addresses <;> rcases conditions with _ | conditions <;>
      rcases listeners with _ | listeners <;> simp [Json.optional, conditionsToJson]

/-- **The fields of an emitted status** are arrays, each under a name of its own. -/
theorem isArrays_emitted {s : WorldSnapshot} {config : ControllerConfig} {reconciler : Reconciler}
    {u : StatusUpdate} (hu : u ∈ (reconciler.run config s).statusUpdates) :
    Json.IsArrays (fun field => Writes s field reconciler) (StatusUpdate.toJson rfc3339 u) := by
  by_cases hwrites : writesStatus s reconciler = true
  · cases reconciler with
    | gatewayClass name =>
      obtain ⟨gatewayClass, hget, hours⟩ := (Option.any_eq_true _ _).mp hwrites
      simp only [Reconciler.run, statusUpdates_reconcileGatewayClass hget hours,
        List.mem_singleton] at hu
      subst hu
      refine ⟨_, rfl, ?_, ?_, ?_⟩
      all_goals
        simp [Writes, conditionsToJson, Json.optional, buildGatewayClassStatus]
    | gateway ns name =>
      obtain ⟨gateway, hget⟩ := Option.isSome_iff_exists.mp hwrites
      simp only [Reconciler.run, statusUpdates_reconcileGateway hget, List.mem_singleton] at hu
      subst hu
      obtain ⟨hconditions, hlisteners, haddresses⟩ := gatewayStatusOf_fields hget
      obtain ⟨fields, hfields, hnodup, harr, hnames⟩ :=
        isArrays_gateway rfc3339 (gatewayStatusOf s gateway ns name)
      refine ⟨fields, hfields, hnodup, harr, ?_⟩
      intro field
      rw [hnames, haddresses]
      show _ ↔ _ ∨ _ ∨ _
      tauto
    | httproute ns name =>
      obtain ⟨route, hget, hrefs⟩ := (Option.any_eq_true _ _).mp hwrites
      have hne : route.spec.parentRefs.getD [] ≠ [] := by simpa using hrefs
      simp only [Reconciler.run, statusUpdates_reconcileHttproute hget hne,
        List.mem_singleton] at hu
      subst hu
      refine ⟨_, rfl, ?_, ?_, ?_⟩
      all_goals
        simp [Writes]
  · rw [statusUpdates_of_not_writesStatus reconciler (Bool.eq_false_iff.mpr hwrites)] at hu
    cases hu

/-- What the patch makes of the stored status. -/
theorem statusOf_executeStatusUpdate (stored : Json) (u : StatusUpdate) :
    statusOf (executeStatusUpdate rfc3339 stored u) =
      (statusOf stored).mergePatch (StatusUpdate.toJson rfc3339 u) := by
  have hpatch : StatusUpdate.toJson rfc3339 u ≠ .null := by
    cases u <;> exact nofun
  rw [statusOf, executeStatusUpdate, Json.field?_mergePatch stored "status" hpatch,
    Option.getD_some, statusOf]

end

/-- **When the stored status is the computed one.** Whatever was stored and
whichever status a reconciler emits for it: exactly when the stored status had
no field before that the emitted one is without. -/
theorem stores_iff (rfc3339 : Time → String) {s : WorldSnapshot} {config : ControllerConfig}
    {reconciler : Reconciler} {u : StatusUpdate}
    (hu : u ∈ (reconciler.run config s).statusUpdates) (stored : Json) :
    Stores rfc3339 (executeStatusUpdate rfc3339 stored u) u ↔
      ∀ field, ((statusOf stored).field? field).isSome = true → Writes s field reconciler := by
  unfold Stores
  rw [statusOf_executeStatusUpdate]
  exact (isArrays_emitted rfc3339 hu).field?_mergePatch_eq_iff (statusOf stored)

/-! ## A Gateway that becomes invalid -/

/-- The Gateway without its class. -/
def classless : WorldSnapshot :=
  .full { gateways := (∅ : Namespaced Gateway).insert (gatewayWith []) } 0

theorem getGateway_classless :
    classless.getGateway "default" "gw" = some (gatewayWith []) :=
  Store.get?_insert_self ∅ (gatewayWith [])

/-- The status it gets. -/
def classlessUpdate : StatusUpdate :=
  .gateway "default" "gw" (gatewayStatusOf classless (gatewayWith []) "default" "gw")

theorem classlessUpdate_mem :
    classlessUpdate ∈
      (Reconciler.run {} classless (.gateway "default" "gw")).statusUpdates := by
  show _ ∈ (reconcileGateway classless {} "default" "gw").statusUpdates
  rw [statusUpdates_reconcileGateway getGateway_classless]
  exact List.mem_singleton_self _

/-- What is stored of a Gateway with the given addresses and no listeners. -/
def documentWith (addresses : Option (List GatewayAddresses)) : Json :=
  .obj [("status", GatewayStatus.toJson (fun _ => "")
    { addresses, conditions := some [], listeners := some [] })]

/-- A status without addresses is replaced. -/
theorem stores_without_addresses :
    Stores (fun _ => "") (executeStatusUpdate (fun _ => "") (documentWith none) classlessUpdate)
      classlessUpdate := by
  refine (stores_iff (fun _ => "") classlessUpdate_mem (documentWith none)).mpr ?_
  intro field hsome
  have hfields : field = "conditions" ∨ field = "listeners" := by
    by_contra hne
    push Not at hne
    have hnone : (statusOf (documentWith none)).field? field = none := by
      show ((List.find? _ [_, _]).map _) = none
      simp [Ne.symm hne.1, Ne.symm hne.2]
    rw [hnone] at hsome
    cases hsome
  rcases hfields with h | h
  · exact .inl h
  · exact .inr (.inl h)

/-- The addresses of a Gateway outlast its class. -/
theorem addresses_remain :
    ¬ ∀ (rfc3339 : Time → String) (s : WorldSnapshot) (config : ControllerConfig)
        (reconciler : Reconciler) (u : StatusUpdate),
      u ∈ (reconciler.run config s).statusUpdates → ∀ stored : Json,
        Stores rfc3339 (executeStatusUpdate rfc3339 stored u) u := by
  intro h
  have hstores := h (fun _ => "") classless {} (.gateway "default" "gw") classlessUpdate
    classlessUpdate_mem (documentWith (some [{ type := some "IPAddress", value := "10.0.0.1" }]))
  unfold Stores at hstores
  rw [statusOf_executeStatusUpdate] at hstores
  -- the addresses that are left would have to be written
  have hwrites : Writes classless "addresses" (.gateway "default" "gw") :=
    ((isArrays_emitted (fun _ => "") classlessUpdate_mem).field?_mergePatch_eq_iff _).mp hstores
      "addresses" rfl
  rcases hwrites with h | h | ⟨-, gateway, haddressed⟩
  · exact absurd h (by decide)
  · exact absurd h (by decide)
  · have hgateway : gateway = gatewayWith [] :=
      Option.some.inj (haddressed.found.symm.trans getGateway_classless)
    have hclass : getAcceptedGatewayClass classless (gatewayWith []).spec.gatewayClassName = none :=
      rfl
    exact haddressed.accepted (hgateway ▸ hclass)

end Multiway.ControlPlane
