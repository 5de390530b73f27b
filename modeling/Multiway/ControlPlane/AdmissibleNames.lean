import Multiway.ControlPlane.Wiring
import Multiway.Kube.Names

/-!
# Names the API server admits

The Service of a data plane is named after its Gateway, and its resources are
labelled with the names of the Gateway and of its namespace. A Gateway may have
a name with dots and of up to 253 characters; a Service may not, and neither may
the value of a label be so long. `namesAdmissible_iff` is when the names that are
derived are admitted too.
-/

namespace Multiway.ControlPlane

open Multiway.Lib
open Multiway.Kube

/-- All labels on a resource, those of its pods and those it selects by. -/
def labelsOf : ResourceUpsert → List (BTreeMap String)
  | .deployment deployment =>
    [deployment.metadata.labels.getD ∅, podLabels deployment, deploymentSelector deployment]
  | .service service => [service.metadata.labels.getD ∅, serviceSelector service]
  | .configMap configMap => [configMap.metadata.labels.getD ∅]
  | .serviceAccount serviceAccount => [serviceAccount.metadata.labels.getD ∅]
  | .role role => [role.metadata.labels.getD ∅]
  | .roleBinding roleBinding => [roleBinding.metadata.labels.getD ∅]

/-- The Service has the name of a Service, and every label has the value of a
label. -/
structure NamesAdmissible (upserts : List ResourceUpsert) : Prop where
  service : ∀ service, .service service ∈ upserts → isServiceName (nameAny service) = true
  labels : ∀ u ∈ upserts, ∀ labels ∈ labelsOf u, ∀ (k v : String), labels[k]? = some v →
    isLabelValue v = true

section
variable {s : WorldSnapshot} {config : ControllerConfig} {ns name : String} {gateway : Gateway}

/-- Every resource has the labels of the data plane. -/
theorem labelsOf_builtResources {u : ResourceUpsert} {labels : BTreeMap String}
    (hu : u ∈ (builtResources s config ns name gateway).upserts) (hlabels : labels ∈ labelsOf u) :
    labels = DataPlaneNames.labels ⟨ns, name⟩ ∨
      labels = DataPlaneNames.selectorLabels ⟨ns, name⟩ := by
  simp only [DataPlaneResources.upserts, List.mem_cons, List.not_mem_nil, or_false] at hu
  rcases hu with rfl | rfl | rfl | rfl | rfl | rfl
  · exact .inl (List.mem_singleton.mp hlabels)
  · exact .inl (List.mem_singleton.mp hlabels)
  · exact .inl (List.mem_singleton.mp hlabels)
  · exact .inl (List.mem_singleton.mp hlabels)
  · exact List.mem_pair.mp hlabels
  · rcases List.mem_cons.mp hlabels with hmeta | hrest
    · exact .inl hmeta
    · exact List.mem_pair.mp hrest

/-- Selectors are labels too, so it is the labels that count. -/
theorem getElem?_labels_of_mem {u : ResourceUpsert} {labels : BTreeMap String} {k v : String}
    (hu : u ∈ (builtResources s config ns name gateway).upserts) (hlabels : labels ∈ labelsOf u)
    (hv : labels[k]? = some v) : (DataPlaneNames.labels ⟨ns, name⟩)[k]? = some v := by
  rcases labelsOf_builtResources hu hlabels with rfl | rfl
  · exact hv
  · exact (selectsLabels_labels_iff _ _).mpr rfl k v hv

theorem isLabelValue_labels (names : DataPlaneNames)
    (hname : isLabelValue names.gatewayName = true)
    (hns : isLabelValue names.gatewayNamespace = true) {k v : String}
    (hv : names.labels[k]? = some v) : isLabelValue v = true := by
  rw [getElem?_labels] at hv
  split_ifs at hv with hk hk hk hk hk
  · exact Option.some.inj hv ▸ by decide +kernel
  · exact Option.some.inj hv ▸ by decide +kernel
  · exact Option.some.inj hv ▸ hns
  · exact Option.some.inj hv ▸ hname
  · exact Option.some.inj hv ▸ by decide +kernel

theorem service_mem_upserts_iff {service : Service} :
    .service service ∈ (builtResources s config ns name gateway).upserts ↔
      service = buildService ⟨ns, name⟩ gateway := by
  simp [DataPlaneResources.upserts, builtResources]

theorem nameAny_buildService (names : DataPlaneNames) (gateway : Gateway) :
    nameAny (buildService names gateway) = names.serviceName := rfl

/-- The name of the Service is that of the Gateway behind a prefix. -/
theorem isServiceName_serviceName_iff (name : DnsSubdomain) :
    isServiceName (DataPlaneNames.serviceName ⟨ns, name.text⟩) = true ↔
      '.' ∉ name.text.toList ∧ name.text.length ≤ 51 := by
  have hprefix : "multiway-dp-" = String.ofList ('m' :: "ultiway-dp-".toList) := by decide
  have hchars : ('m' :: "ultiway-dp-".toList).all isDnsChar = true := by decide
  have hlength : ('m' :: "ultiway-dp-".toList).length = 12 := by decide
  rw [DataPlaneNames.serviceName, hprefix,
    isServiceName_append_iff hchars (by decide) name.valid, hlength]
  refine and_congr_right fun _ => ?_
  omega

end

/-- **When the names are admissible.** The Gateway's name has no dots and is not
longer than the prefix of the Service's name leaves room for. -/
theorem namesAdmissible_iff (s : WorldSnapshot) (config : ControllerConfig) (ns : DnsLabel)
    (name : DnsSubdomain) (hemits : (reconcileGateway s config ns.text name.text).upserts ≠ []) :
    NamesAdmissible (reconcileGateway s config ns.text name.text).upserts ↔
      '.' ∉ name.text.toList ∧ name.text.length ≤ 51 := by
  obtain ⟨gateway, hready⟩ := ready_of_upserts hemits
  rw [upserts_of_ready hready]
  constructor
  · intro h
    have hservice := h.service _ (service_mem_upserts_iff.mpr rfl)
    rw [nameAny_buildService] at hservice
    exact (isServiceName_serviceName_iff name).mp hservice
  · intro h
    obtain ⟨hdots, hle⟩ := h
    refine ⟨?_, ?_⟩
    · intro service hservice
      rw [service_mem_upserts_iff.mp hservice, nameAny_buildService]
      exact (isServiceName_serviceName_iff name).mpr ⟨hdots, hle⟩
    · intro u hu labels hlabels k v hv
      -- short and without dots, the name is a label itself
      have hname : isDnsLabel name.text = true := by
        unfold isDnsLabel
        rw [isBounded_of_isDnsSubdomain name.valid hdots, Bool.and_true, decide_eq_true_iff]
        omega
      exact isLabelValue_labels ⟨ns.text, name.text⟩ (isLabelValue_of_isDnsLabel hname)
        (isLabelValue_of_isDnsLabel ns.valid) (getElem?_labels_of_mem hu hlabels hv)

/-- A Gateway `default/<name>` in a cluster of its own. -/
def clusterNamed (name : String) : Objects where
  gatewayClasses := (∅ : Named GatewayClass).insert acceptedClass
  gateways := (∅ : Namespaced Gateway).insert
    { gatewayWith [httpListener "http" 80] with
      metadata := { name := some name, «namespace» := some "default" } }

def upsertsNamed (name : String) : List ResourceUpsert :=
  (reconcileGateway (.full (clusterNamed name) 0) {} "default" name).upserts

theorem namesAdmissible_shop : NamesAdmissible (upsertsNamed "shop") := by
  have hemits : upsertsNamed "shop" ≠ [] := by
    intro hnone
    exact absurd (congrArg List.length hnone) (by decide)
  exact (namesAdmissible_iff (.full (clusterNamed "shop") 0) {} ⟨"default", by decide +kernel⟩
    ⟨"shop", by decide +kernel⟩ hemits).mpr ⟨by decide, by decide⟩

/-- A name with a dot is one of a Gateway, and of no Service. -/
theorem dotted_not_admissible :
    isDnsSubdomain "shop.eu" = true ∧ ¬NamesAdmissible (upsertsNamed "shop.eu") := by
  refine ⟨by decide +kernel, ?_⟩
  intro h
  have hservice := h.service (buildService ⟨"default", "shop.eu"⟩
    { gatewayWith [httpListener "http" 80] with
      metadata := { name := some "shop.eu", «namespace» := some "default" } })
    (List.mem_of_getElem? (i := 4) rfl)
  rw [nameAny_buildService] at hservice
  revert hservice
  decide +kernel

end Multiway.ControlPlane
