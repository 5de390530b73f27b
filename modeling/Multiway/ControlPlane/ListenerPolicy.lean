import Multiway.ControlPlane.Acceptance

/-!
# Policies of listeners

`validate_parent_ref` asks whether one of the matching listeners is open to the
namespace of a route, and attaches the route to all of them. A Gateway that
mixes open and closed listeners so takes the route in at the closed ones;
`policyEnforced_iff` is when it does not.
-/

namespace Multiway.ControlPlane

open Multiway.Lib
open Multiway.Lib.Text
open Multiway.Kube

/-- A listener is one a parent reference means. -/
structure Matches (parentRef : HttpRouteParentRefs) (listener : GatewayListeners) : Prop where
  sectionName : ∀ name, parentRef.sectionName = some name → listener.name = name
  port : ∀ port, parentRef.port = some port → listener.port = port
  protocol : toUppercase listener.protocol = "HTTP" ∨ toUppercase listener.protocol = "HTTPS"

/-- A listener is open to routes of a namespace: by its own policy, or by a
grant for the namespace to attach from outside. -/
def Admits (s : WorldSnapshot) (routeNs : String) (gateway : Gateway)
    (listener : GatewayListeners) : Prop :=
  listenerAllows gateway routeNs listener = true ∨
    routeNs ≠ namespaceOf gateway ∧
      s.isGatewayReferenceAllowed routeNs (namespaceOf gateway) = true

/-- The listeners that are reported are matching ones that admit the route, and
there is one. -/
structure PolicyEnforced (s : WorldSnapshot) (parentRef : HttpRouteParentRefs)
    (routeNs : String) (gateway : Gateway) (attached : List String) : Prop where
  each : ∀ name ∈ attached, ∃ listener ∈ gateway.spec.listeners,
    listener.name = name ∧ Matches parentRef listener ∧ Admits s routeNs gateway listener
  some : ∃ listener ∈ gateway.spec.listeners,
    Matches parentRef listener ∧ Admits s routeNs gateway listener

variable {s : WorldSnapshot} {route : HTTPRoute} {parentRef : HttpRouteParentRefs}
  {routeNs : String} {gateway : Gateway}

theorem mem_findMatchingListeners {listener : GatewayListeners} :
    listener ∈ findMatchingListeners gateway parentRef.sectionName parentRef.port ↔
      listener ∈ gateway.spec.listeners ∧ Matches parentRef listener := by
  have hmatches : (parentRef.sectionName.all (listener.name == ·) &&
      parentRef.port.all (listener.port == ·) &&
      (toUppercase listener.protocol == "HTTP" || toUppercase listener.protocol == "HTTPS")) =
        true ↔ Matches parentRef listener := by
    simp only [Bool.and_eq_true, Bool.or_eq_true, beq_iff_eq, Option.all_eq_true_iff_get]
    constructor
    · intro h
      obtain ⟨⟨hsection, hport⟩, hprotocol⟩ := h
      refine ⟨?_, ?_, hprotocol⟩
      · intro name hname
        simpa [hname] using hsection
      · intro port hport'
        simpa [hport'] using hport
    · intro h
      refine ⟨⟨?_, ?_⟩, h.protocol⟩
      · intro hsome
        exact h.sectionName _ (Option.some_get hsome).symm
      · intro hsome
        exact h.port _ (Option.some_get hsome).symm
  rw [findMatchingListeners, List.mem_filter, hmatches]

/-- What an accepted reference reports is enforced when every listener it
matches admits the route, or one of its name does. -/
theorem Accepts.attached_enforced_iff (h : Accepts s route parentRef routeNs gateway) :
    PolicyEnforced s parentRef routeNs gateway
        (validateParentRef s route parentRef routeNs).attachedListeners ↔
      ∀ listener ∈ gateway.spec.listeners, Matches parentRef listener →
        ∃ listener' ∈ gateway.spec.listeners, listener'.name = listener.name ∧
          Matches parentRef listener' ∧ Admits s routeNs gateway listener' := by
  rw [attachedListeners_of_accepts h]
  constructor
  · intro henforced listener hmem hmatches
    exact henforced.each _
      (List.mem_map_of_mem (mem_findMatchingListeners.mpr ⟨hmem, hmatches⟩))
  · intro hall
    refine ⟨?_, ?_⟩
    · intro name hname
      obtain ⟨listener, hlistener, rfl⟩ := List.mem_map.mp hname
      obtain ⟨hmem, hmatches⟩ := mem_findMatchingListeners.mp hlistener
      exact hall listener hmem hmatches
    · obtain ⟨listener, hlistener⟩ := List.exists_mem_of_ne_nil _ h.matching
      obtain ⟨hmem, hmatches⟩ := mem_findMatchingListeners.mp hlistener
      obtain ⟨listener', hmem', -, hrest⟩ := hall listener hmem hmatches
      exact ⟨listener', hmem', hrest⟩

/-- **When listener policies are enforced.** A grant lets the namespace attach
to the Gateway from outside, or each name among the matching listeners is that
of one whose policy is open to it. -/
theorem policyEnforced_iff (s : WorldSnapshot) (route : HTTPRoute)
    (parentRef : HttpRouteParentRefs) (routeNs : String) :
    ((validateParentRef s route parentRef routeNs).accepted = true →
      ∃ gateway, s.getGateway (parentRef.namespace.getD routeNs) parentRef.name = some gateway ∧
        PolicyEnforced s parentRef routeNs gateway
          (validateParentRef s route parentRef routeNs).attachedListeners) ↔
    ∀ gateway, Accepts s route parentRef routeNs gateway →
      (routeNs ≠ namespaceOf gateway ∧
        s.isGatewayReferenceAllowed routeNs (namespaceOf gateway) = true) ∨
      ∀ listener ∈ gateway.spec.listeners, Matches parentRef listener →
        ∃ listener' ∈ gateway.spec.listeners, listener'.name = listener.name ∧
          Matches parentRef listener' ∧ listenerAllows gateway routeNs listener' = true := by
  constructor
  · intro henforced gateway haccepts
    obtain ⟨found, hfound, hpolicy⟩ := henforced (accepted_iff.mpr ⟨gateway, haccepts⟩)
    obtain rfl := Option.some.inj (haccepts.found.symm.trans hfound)
    by_cases hgrant : routeNs ≠ namespaceOf gateway ∧
        s.isGatewayReferenceAllowed routeNs (namespaceOf gateway) = true
    · exact .inl hgrant
    · refine .inr fun listener hmem hmatches => ?_
      obtain ⟨listener', hmem', hname, hmatches', hadmits⟩ :=
        haccepts.attached_enforced_iff.mp hpolicy listener hmem hmatches
      exact ⟨listener', hmem', hname, hmatches', hadmits.resolve_right hgrant⟩
  · intro hcond haccepted
    obtain ⟨gateway, haccepts⟩ := accepts_of_accepted haccepted
    refine ⟨gateway, haccepts.found, haccepts.attached_enforced_iff.mpr ?_⟩
    intro listener hmem hmatches
    rcases hcond gateway haccepts with hgrant | hopen
    · exact ⟨listener, hmem, rfl, hmatches, .inr hgrant⟩
    · obtain ⟨listener', hmem', hname, hmatches', hallows⟩ := hopen listener hmem hmatches
      exact ⟨listener', hmem', hname, hmatches', .inl hallows⟩

/-! ## An open listener beside a closed one -/

/-- A listener for routes from everywhere. -/
def openListener (name : String) (port : ℤ) : GatewayListeners :=
  { httpListener name port with
    allowedRoutes := some { namespaces := some { «from» := some .all } } }

/-- A route `tenant/app` that names the Gateway `default/gw`, and no listener. -/
def tenantRoute : HTTPRoute where
  metadata := { name := some "app", «namespace» := some "tenant" }
  spec := { parentRefs := some [{ name := "gw", «namespace» := some "default" }] }

def mixedListeners : List GatewayListeners := [openListener "public" 80, httpListener "internal" 81]

def tenantSnapshot : WorldSnapshot := .full (clusterWith mixedListeners [tenantRoute]) 0

def tenantParentRef : HttpRouteParentRefs := { name := "gw", «namespace» := some "default" }

/-- The tenant's route is attached to the listener that is for routes of the
Gateway's own namespace. -/
theorem closed_listener_attached :
    (validateParentRef tenantSnapshot tenantRoute tenantParentRef "tenant").accepted = true ∧
      ¬∃ gateway, tenantSnapshot.getGateway "default" "gw" = some gateway ∧
        PolicyEnforced tenantSnapshot tenantParentRef "tenant" gateway
          (validateParentRef tenantSnapshot tenantRoute tenantParentRef
            "tenant").attachedListeners := by
  have hgateway : tenantSnapshot.getGateway "default" "gw" =
      some (gatewayWith mixedListeners) := rfl
  have hattached : (validateParentRef tenantSnapshot tenantRoute tenantParentRef
      "tenant").attachedListeners = ["public", "internal"] := by decide +kernel
  refine ⟨by decide +kernel, fun henforced => ?_⟩
  obtain ⟨gateway, hfound, hpolicy⟩ := henforced
  obtain rfl := Option.some.inj (hgateway.symm.trans hfound)
  obtain ⟨listener, hmem, hname, -, hadmits⟩ :=
    hpolicy.each "internal" (by rw [hattached]; simp)
  -- the only listener of that name is the closed one
  have hclosed : listener = httpListener "internal" 81 := by
    rcases (by simpa [gatewayWith, mixedListeners] using hmem :
      listener = openListener "public" 80 ∨ listener = httpListener "internal" 81) with rfl | rfl
    · exact absurd hname (by decide)
    · rfl
  subst hclosed
  rcases hadmits with hallows | ⟨-, hgrant⟩
  · revert hallows
    decide
  · revert hgrant
    decide +kernel

end Multiway.ControlPlane
