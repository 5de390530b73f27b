import Multiway.ControlPlane.Validate

/-!
# When a parent reference is accepted

`validateParentRef` is a chain of early returns. `Accepts` lists what has been
checked when none of them was taken, and `accepted_iff` says that this is all
there is to acceptance. What an accepted reference reports is in
`attachedListeners_of_accepts`.
-/

namespace Multiway.ControlPlane

open Multiway.Lib
open Multiway.Kube

/-- A listener's policy lets routes of the namespace attach to the Gateway. -/
def listenerAllows (gateway : Gateway) (routeNs : String) (listener : GatewayListeners) : Bool :=
  isNamespaceAllowed (getAllowedRouteNamespaces listener (namespaceOf gateway)) routeNs

/-- What is checked of an accepted parent reference, `gateway` being the
Gateway it resolves to. -/
structure Accepts (s : WorldSnapshot) (route : HTTPRoute) (parentRef : HttpRouteParentRefs)
    (routeNs : String) (gateway : Gateway) : Prop where
  group : parentRef.group.getD "gateway.networking.k8s.io" = "gateway.networking.k8s.io"
  kind : parentRef.kind.getD "Gateway" = "Gateway"
  found : s.getGateway (parentRef.namespace.getD routeNs) parentRef.name = some gateway
  gatewayClass : (getAcceptedGatewayClass s gateway.spec.gatewayClassName).isSome = true
  matching : findMatchingListeners gateway parentRef.sectionName parentRef.port ≠ []
  /-- One of the matching listeners is open to the namespace, or the namespace
  needs no leave, or a grant gives it. -/
  policy : (findMatchingListeners gateway parentRef.sectionName parentRef.port).any
      (listenerAllows gateway routeNs) = true ∨ routeNs = namespaceOf gateway ∨
    s.isGatewayReferenceAllowed routeNs (namespaceOf gateway) = true
  backends : ∀ backend ∈ backendRefsOf route, validateBackend s routeNs backend = none

variable {s : WorldSnapshot} {route : HTTPRoute} {parentRef : HttpRouteParentRefs}
  {routeNs : String} {gateway : Gateway}

theorem Accepts.gateway_unique {gateway' : Gateway}
    (h : Accepts s route parentRef routeNs gateway)
    (h' : Accepts s route parentRef routeNs gateway') : gateway = gateway' :=
  Option.some.inj (h.found.symm.trans h'.found)

/-- **An accepted reference has passed every check.** -/
theorem accepts_of_accepted
    (h : (validateParentRef s route parentRef routeNs).accepted = true) :
    ∃ gateway, Accepts s route parentRef routeNs gateway := by
  unfold validateParentRef at h
  dsimp only at h
  split at h
  · cases h
  next htype =>
    obtain ⟨hgroup, hkind⟩ := not_or.mp htype
    rcases hfound : s.getGateway (parentRef.namespace.getD routeNs) parentRef.name
      with _ | gateway
    · rw [hfound] at h
      cases h
    · rw [hfound] at h
      dsimp only at h
      split at h
      · cases h
      next hclass =>
        split at h
        · cases h
        next hmatching =>
          split at h
          · cases h
          next hpolicy =>
            rcases herror : (backendRefsOf route).findSome? (validateBackend s routeNs)
              with _ | error
            · refine ⟨gateway, not_not.mp hgroup, not_not.mp hkind, hfound, ?_, ?_, ?_,
                List.findSome?_eq_none_iff.mp herror⟩
              · exact Option.isSome_iff_ne_none.mpr (by simpa using hclass)
              · simpa using hmatching
              · -- not turned away by the policy: one of the three lets it in
                simp only [Bool.not_eq_true', not_and, Bool.not_eq_false] at hpolicy
                by_contra hdenied
                obtain ⟨hany, hrest⟩ := not_or.mp hdenied
                obtain ⟨hsame, hgrant⟩ := not_or.mp hrest
                exact hgrant (hpolicy (by simpa [listenerAllows] using hany) hsame)
            · rw [herror] at h
              cases h

/-- An accepted reference reports the listeners it matches, all of them. -/
theorem validateParentRef_of_accepts (h : Accepts s route parentRef routeNs gateway) :
    validateParentRef s route parentRef routeNs =
      { parentRef, accepted := true, reason := "Accepted"
        message := "Route is accepted by Gateway"
        attachedListeners := (findMatchingListeners gateway parentRef.sectionName
          parentRef.port).map GatewayListeners.name } := by
  have hclass : (getAcceptedGatewayClass s gateway.spec.gatewayClassName).isNone = false :=
    Option.isNone_eq_false_iff.mpr h.gatewayClass
  have hmatching : (findMatchingListeners gateway parentRef.sectionName
      parentRef.port).isEmpty = false := List.isEmpty_eq_false_iff.mpr h.matching
  unfold validateParentRef
  dsimp only
  rw [if_neg (not_or.mpr ⟨not_not.mpr h.group, not_not.mpr h.kind⟩), h.found]
  dsimp only
  rw [hclass, hmatching, if_neg Bool.false_ne_true, if_neg Bool.false_ne_true, if_neg,
    List.findSome?_eq_none_iff.mpr h.backends]
  intro hdenied
  obtain ⟨hnone, hother, hnogrant⟩ := hdenied
  rcases h.policy with hany | hsame | hgrant
  · unfold listenerAllows at hany
    rw [hany] at hnone
    cases hnone
  · exact hother hsame
  · rw [hgrant] at hnogrant
    cases hnogrant

theorem accepted_iff :
    (validateParentRef s route parentRef routeNs).accepted = true ↔
      ∃ gateway, Accepts s route parentRef routeNs gateway := by
  refine ⟨accepts_of_accepted, ?_⟩
  intro haccepts
  obtain ⟨gateway, h⟩ := haccepts
  rw [validateParentRef_of_accepts h]

theorem attachedListeners_of_accepts (h : Accepts s route parentRef routeNs gateway) :
    (validateParentRef s route parentRef routeNs).attachedListeners =
      (findMatchingListeners gateway parentRef.sectionName parentRef.port).map
        GatewayListeners.name := by
  rw [validateParentRef_of_accepts h]

/-! ## A small cluster -/

/-- A class of this controller that has been accepted. -/
def acceptedClass : GatewayClass where
  metadata := { name := some "multiway" }
  spec := { controllerName := controllerName }
  status := some { conditions := some [{ type := "Accepted", status := "True" }] }

/-- A Gateway of that class, `default/gw`, with the given listeners. -/
def gatewayWith (listeners : List GatewayListeners) : Gateway where
  metadata := { name := some "gw", «namespace» := some "default" }
  spec := { gatewayClassName := "multiway", listeners }

def httpListener (name : String) (port : ℤ) : GatewayListeners :=
  { name, port, protocol := "HTTP" }

/-- A route `default/<name>` that names the Gateway by one parentRef. -/
def routeNamed (name : String) (sectionName : Option String)
    (backendRefs : List HttpRouteRulesBackendRefs) : HTTPRoute where
  metadata := { name := some name, «namespace» := some "default" }
  spec :=
    { parentRefs := some [{ name := "gw", sectionName }]
      rules := some [{ backendRefs := some backendRefs }] }

/-- A cluster with that class, such a Gateway and the given routes. -/
def clusterWith (listeners : List GatewayListeners) (routes : List HTTPRoute) : Objects where
  gatewayClasses := (∅ : Named GatewayClass).insert acceptedClass
  gateways := (∅ : Namespaced Gateway).insert (gatewayWith listeners)
  httproutes := (∅ : Namespaced HTTPRoute).insertAll routes

/-- Both PEM texts of a TLS Secret. -/
def pemData : BTreeMap ByteArray :=
  ((∅ : BTreeMap ByteArray).insert "tls.crt" "CERT".toUTF8).insert "tls.key" "KEY".toUTF8

def secretNamed (ns name : String) (data : Option (BTreeMap ByteArray)) : Secret where
  metadata := { name := some name, «namespace» := some ns }
  data

end Multiway.ControlPlane
