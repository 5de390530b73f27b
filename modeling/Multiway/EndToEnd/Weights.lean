import Multiway.ControlPlane.Represents
import Multiway.EndToEnd.WireFormat
import Multiway.ProxyCore.Selection

/-!
# Weights from the HTTPRoute to the selected backend

The HTTPRoute definition bounds the backends of a rule, their weights and their
ports (`AdmittedRefs`). Within these bounds the casts of `convert_backend` keep
every number, the wire format keeps them too, and sixteen weights of at most a
million add up in 32 bits, which is all that selection needs (`weights_exact`).
-/

namespace Multiway.EndToEnd

open Multiway.Kube
open Multiway.Lib
open Multiway.ControlPlane (convertBackend convertRule Fits SameNumber)
open Multiway.ProxyCore (Backend ExactSelection totalWeight)

/-- Backend references as the HTTPRoute definition admits them. -/
structure AdmittedRefs (refs : List HttpRouteRulesBackendRefs) : Prop where
  maxItems : refs.length ≤ 16
  weight : ∀ ref ∈ refs, ∀ w, ref.weight = some w → 0 ≤ w ∧ w ≤ 1000000
  port : ∀ ref ∈ refs, ∀ p, ref.port = some p → 1 ≤ p ∧ p ≤ 65535

/-- The numbers of the reference; the weight is 1 where it has none. -/
structure SameNumbers (ref : HttpRouteRulesBackendRefs) (backend : Backend) : Prop where
  port : ∀ p, ref.port = some p → SameNumber p backend.port
  weight : (backend.weight.toNat : ℤ) = ref.weight.getD 1

/-- What arrives of the backends of a rule. -/
theorem fromJson_backends (backends : List ControlPlane.BackendRef) :
    Serde.list ProxyCore.Backend.fromJson (.arr (backends.map ControlPlane.BackendRef.toJson)) =
      some (backends.map translateBackend) := by
  rw [fromJson_translateBackend, Serde.map_list]
  simp only
  rw [Serde.list_map fun b _ => ControlPlane.BackendRef.fromJson_toJson b, Option.map_some]

/-- The casts lose nothing. -/
theorem sameNumbers_convert {refs : List HttpRouteRulesBackendRefs} (h : AdmittedRefs refs)
    (routeNamespace : String) {ref : HttpRouteRulesBackendRefs} (href : ref ∈ refs) :
    SameNumbers ref (translateBackend (convertBackend routeNamespace ref)) := by
  constructor
  · intro p hp
    obtain ⟨hlow, hhigh⟩ := h.port ref href p hp
    change SameNumber p (UInt16.ofInt (ref.port.getD 80))
    rw [hp, Option.getD_some, ControlPlane.sameNumber_ofInt]
    exact ⟨by omega, by omega⟩
  · change ((UInt32.ofInt (ref.weight.getD 1)).toNat : ℤ) = ref.weight.getD 1
    rw [ControlPlane.toNat_ofInt_weight]
    cases hweight : ref.weight with
    | none => exact ⟨by decide, by decide⟩
    | some w =>
      obtain ⟨hlow, hhigh⟩ := h.weight ref href w hweight
      exact ⟨hlow, hhigh.trans_lt (by decide)⟩

/-- Sixteen million fit into 32 bits. -/
theorem totalWeight_lt {refs : List HttpRouteRulesBackendRefs} (h : AdmittedRefs refs)
    (routeNamespace : String) :
    totalWeight ((refs.map (convertBackend routeNamespace)).map translateBackend) < 2 ^ 32 := by
  have hbound : totalWeight ((refs.map (convertBackend routeNamespace)).map translateBackend) ≤
      refs.length * 1000000 := by
    have hsum := List.sum_le_card_nsmul
      (((refs.map (convertBackend routeNamespace)).map translateBackend).map
        fun b => b.weight.toNat) 1000000 ?_
    · simpa [totalWeight] using hsum
    intro weight hweight
    simp only [List.map_map, List.mem_map, Function.comp_apply] at hweight
    obtain ⟨ref, href, rfl⟩ := hweight
    have hsame := (sameNumbers_convert h routeNamespace href).weight
    cases hw : ref.weight with
    | none =>
      rw [hw] at hsame
      simp only [Option.getD_none] at hsame
      omega
    | some w =>
      have hhigh := (h.weight ref href w hw).2
      rw [hw] at hsame
      simp only [Option.getD_some] at hsame
      omega
  have hitems := h.maxItems
  omega

/-- **Weighted selection is exact for admitted routes**: the data plane reads
the numbers of the references, and picks by them. -/
theorem weights_exact (routeNamespace : String) (rule : HttpRouteRules)
    (h : AdmittedRefs (rule.backendRefs.getD [])) :
    ∃ backends,
      Serde.list ProxyCore.Backend.fromJson
          (.arr ((convertRule routeNamespace rule).backends.map
            ControlPlane.BackendRef.toJson)) = some backends ∧
        List.Forall₂ SameNumbers (rule.backendRefs.getD []) backends ∧
        ExactSelection backends := by
  refine ⟨_, fromJson_backends _, ?_, ProxyCore.exactSelection (totalWeight_lt h routeNamespace)⟩
  rw [convertRule, List.map_map, List.forall₂_map_right_iff, List.forall₂_same]
  exact fun ref href => sameNumbers_convert h routeNamespace href

/-- A rule that sends a tenth of its requests to a second backend. -/
def splitRule : HttpRouteRules where
  backendRefs := some
    [{ name := "stable", port := some 80, weight := some 9 }, { name := "canary", port := some 80 }]

theorem weights_exact_split : ∃ backends,
    Serde.list ProxyCore.Backend.fromJson
        (.arr ((convertRule "default" splitRule).backends.map
          ControlPlane.BackendRef.toJson)) = some backends ∧
      List.Forall₂ SameNumbers (splitRule.backendRefs.getD []) backends ∧
      ExactSelection backends :=
  weights_exact "default" splitRule
    { maxItems := by decide
      weight := by decide
      port := by decide }

end Multiway.EndToEnd
