import Multiway.ControlPlane.Agreement
import Multiway.Lib.Firsts

/-!
# The resources of a data plane fit together

`reconcile_gateway` emits six resources that refer to each other by name, label
and port, and the data plane finds its ConfigMap by a name it derives from its
environment. `Wired` is that these references meet (`emitted_wired`).
-/

namespace Multiway.ControlPlane

open Multiway.Lib
open Multiway.Kube

/-! ## The data plane's start (`dataplane/src/main.rs`) -/

def envValue (env : List EnvVar) (name : String) : Option String :=
  (env.find? fun v => v.name == name).bind EnvVar.value

/-- Namespace and name of the ConfigMap the data plane loads. Both arguments
are required, and come from the environment. -/
def configmapToLoad (env : List EnvVar) : Option (String × String) := do
  let gatewayName ← envValue env "GATEWAY_NAME"
  let gatewayNamespace ← envValue env "GATEWAY_NAMESPACE"
  return (gatewayNamespace, "multiway-config-" ++ gatewayName)

/-! ## Parts of the resources -/

/-- A selector selects what has all its labels. -/
def SelectsLabels (selector labels : BTreeMap String) : Prop :=
  ∀ (k v : String), selector[k]? = some v → labels[k]? = some v

def serviceSelector (service : Service) : BTreeMap String :=
  (service.spec.bind ServiceSpec.selector).getD ∅

def servicePorts (service : Service) : List ServicePort :=
  (service.spec.bind ServiceSpec.ports).getD []

def targetPorts (service : Service) : List (Option ℤ) :=
  (servicePorts service).map ServicePort.targetPort

def deploymentSelector (deployment : Deployment) : BTreeMap String :=
  (deployment.spec.bind fun spec => spec.selector.matchLabels).getD ∅

def podLabels (deployment : Deployment) : BTreeMap String :=
  ((deployment.spec.bind fun spec => spec.template.metadata).bind ObjectMeta.labels).getD ∅

def podSpec (deployment : Deployment) : Option PodSpec :=
  deployment.spec.bind fun spec => spec.template.spec

def containersOf (deployment : Deployment) : List Container :=
  ((podSpec deployment).map PodSpec.containers).getD []

def portsOfContainers (deployment : Deployment) : List ContainerPort :=
  (containersOf deployment).flatMap fun container => container.ports.getD []

def containerPorts (deployment : Deployment) : List ℤ :=
  (portsOfContainers deployment).map ContainerPort.containerPort

/-! ## The references between them -/

structure DataPlaneResources where
  configMap : ConfigMap
  serviceAccount : ServiceAccount
  role : Role
  roleBinding : RoleBinding
  service : Service
  deployment : Deployment

def DataPlaneResources.upserts (r : DataPlaneResources) : List ResourceUpsert :=
  [.configMap r.configMap, .serviceAccount r.serviceAccount, .role r.role,
    .roleBinding r.roleBinding, .service r.service, .deployment r.deployment]

/-- Each reference from one of the resources names another of them. -/
structure Wired (r : DataPlaneResources) : Prop where
  /-- The Role is for the ConfigMap alone. -/
  role : ∃ rule name, r.role.rules = some [rule] ∧ rule.resources = some ["configmaps"] ∧
    rule.resourceNames = some [name] ∧ r.configMap.metadata.name = some name ∧
    r.role.metadata.namespace = r.configMap.metadata.namespace
  roleRef : r.roleBinding.roleRef.kind = "Role" ∧
    r.role.metadata.name = some r.roleBinding.roleRef.name ∧
    r.roleBinding.metadata.namespace = r.role.metadata.namespace
  subject : ∃ subject, r.roleBinding.subjects = some [subject] ∧
    subject.kind = "ServiceAccount" ∧ r.serviceAccount.metadata.name = some subject.name ∧
    r.serviceAccount.metadata.namespace = subject.namespace
  /-- The pods run as the ServiceAccount. -/
  serviceAccount : ∃ name, (podSpec r.deployment).bind PodSpec.serviceAccountName = some name ∧
    r.serviceAccount.metadata.name = some name ∧
    r.deployment.metadata.namespace = r.serviceAccount.metadata.namespace
  deploymentSelector : SelectsLabels (deploymentSelector r.deployment) (podLabels r.deployment)
  serviceSelector : SelectsLabels (serviceSelector r.service) (podLabels r.deployment)
  ports : targetPorts r.service = (containerPorts r.deployment).map some
  /-- And these are the ports of the listeners in the configuration. -/
  listeners : ∃ gatewayConfig : GatewayConfig,
    r.configMap.data = some ((∅ : BTreeMap Json).insert configKey gatewayConfig.toJson) ∧
    ∀ port : ℤ, port ∈ containerPorts r.deployment ↔
      ∃ listener ∈ gatewayConfig.listeners, (listener.port.toNat : ℤ) = port
  /-- The data plane loads the ConfigMap. -/
  loads : ∃ container, containersOf r.deployment = [container] ∧
    ∃ ns name, configmapToLoad (container.env.getD []) = some (ns, name) ∧
      r.configMap.metadata.namespace = some ns ∧ r.configMap.metadata.name = some name

/-- Neither selector selects the pods of another Gateway, whatever is reconciled
for it. -/
def SelectsNoOther (ns name : String) (r : DataPlaneResources) : Prop :=
  ∀ (t : WorldSnapshot) (config : ControllerConfig) (ns' name' : String),
    (ns', name') ≠ (ns, name) →
      ∀ deployment, .deployment deployment ∈ (reconcileGateway t config ns' name').upserts →
        ¬SelectsLabels (deploymentSelector r.deployment) (podLabels deployment) ∧
          ¬SelectsLabels (serviceSelector r.service) (podLabels deployment)

/-! ## What is built -/

section
variable {s : WorldSnapshot} {config : ControllerConfig} {ns name : String} {gateway : Gateway}

def builtResources (s : WorldSnapshot) (config : ControllerConfig) (ns name : String)
    (gateway : Gateway) : DataPlaneResources where
  configMap := buildConfigmap ⟨ns, name⟩ (buildGatewayConfig gateway ns s).1 gateway
  serviceAccount := buildServiceaccount ⟨ns, name⟩ gateway
  role := buildRole ⟨ns, name⟩ gateway
  roleBinding := buildRolebinding ⟨ns, name⟩ gateway
  service := buildService ⟨ns, name⟩ gateway
  deployment := buildDeployment ⟨ns, name⟩ gateway config

/-! ### Labels -/

theorem selectorLabels_eq_some_iff (names : DataPlaneNames) {k v : String} :
    names.selectorLabels[k]? = some v ↔
      k = "app.kubernetes.io/component" ∧ v = "dataplane" ∨
      k = "gateway.networking.k8s.io/gateway-namespace" ∧ v = names.gatewayNamespace ∨
      k = "gateway.networking.k8s.io/gateway-name" ∧ v = names.gatewayName := by
  unfold DataPlaneNames.selectorLabels
  simp only [Std.ExtTreeMap.getElem?_insert, compare_eq_iff_eq, Std.ExtTreeMap.getElem?_empty]
  constructor
  · intro h
    split_ifs at h with hcomponent hnamespace hname
    · exact .inl ⟨hcomponent.symm, (Option.some.inj h).symm⟩
    · exact .inr (.inl ⟨hnamespace.symm, (Option.some.inj h).symm⟩)
    · exact .inr (.inr ⟨hname.symm, (Option.some.inj h).symm⟩)
  · intro h
    rcases h with ⟨rfl, rfl⟩ | ⟨rfl, rfl⟩ | ⟨rfl, rfl⟩
    · rfl
    · rw [if_neg (by decide), if_pos rfl]
    · rw [if_neg (by decide), if_neg (by decide), if_pos rfl]

theorem getElem?_labels (names : DataPlaneNames) (k : String) :
    names.labels[k]? =
      if k = "app.kubernetes.io/name" then some "multiway"
      else if k = "app.kubernetes.io/component" then some "dataplane"
      else if k = "gateway.networking.k8s.io/gateway-namespace" then some names.gatewayNamespace
      else if k = "gateway.networking.k8s.io/gateway-name" then some names.gatewayName
      else if k = "app.kubernetes.io/managed-by" then some "multiway-gateway-controller"
      else none := by
  unfold DataPlaneNames.labels
  simp only [Std.ExtTreeMap.getElem?_insert, compare_eq_iff_eq, Std.ExtTreeMap.getElem?_empty,
    eq_comm (b := k)]

/-- Selectors are made of labels that name the Gateway, so they select the pods
of this Gateway alone. -/
theorem selectsLabels_labels_iff (names other : DataPlaneNames) :
    SelectsLabels names.selectorLabels other.labels ↔ names = other := by
  constructor
  · intro h
    have hnamespace := h "gateway.networking.k8s.io/gateway-namespace" names.gatewayNamespace
      ((selectorLabels_eq_some_iff names).mpr (.inr (.inl ⟨rfl, rfl⟩)))
    have hname := h "gateway.networking.k8s.io/gateway-name" names.gatewayName
      ((selectorLabels_eq_some_iff names).mpr (.inr (.inr ⟨rfl, rfl⟩)))
    rw [getElem?_labels, if_neg (by decide), if_neg (by decide), if_pos rfl] at hnamespace
    rw [getElem?_labels, if_neg (by decide), if_neg (by decide), if_neg (by decide),
      if_pos rfl] at hname
    obtain ⟨ns, name⟩ := names
    obtain ⟨ns', name'⟩ := other
    rw [DataPlaneNames.mk.injEq]
    exact ⟨(Option.some.inj hnamespace).symm, (Option.some.inj hname).symm⟩
  · intro h
    subst h
    intro k v hselector
    rw [getElem?_labels]
    rcases (selectorLabels_eq_some_iff names).mp hselector with
      ⟨rfl, rfl⟩ | ⟨rfl, rfl⟩ | ⟨rfl, rfl⟩
    · rw [if_neg (by decide), if_pos rfl]
    · rw [if_neg (by decide), if_neg (by decide), if_pos rfl]
    · rw [if_neg (by decide), if_neg (by decide), if_neg (by decide), if_pos rfl]

/-! ### Ports -/

/-- The entries are those of the first listener of each port. -/
theorem portEntries_eq {α : Type} (listeners : List GatewayListeners)
    (entry : GatewayListeners → α) :
    portEntries listeners entry = (firsts GatewayListeners.port listeners).map entry :=
  values_collect listeners

theorem map_servicePorts {α : Type} (names : DataPlaneNames) (f : ServicePort → α) :
    (servicePorts (buildService names gateway)).map f =
      (firsts GatewayListeners.port gateway.spec.listeners).map fun listener =>
        f { name := some (sanitizePortName listener.name), port := listener.port
            targetPort := some listener.port, protocol := some "TCP" } := by
  show (portEntries gateway.spec.listeners _).map f = _
  rw [portEntries_eq, List.map_map]
  rfl

theorem map_portsOfContainers {α : Type} (names : DataPlaneNames) (f : ContainerPort → α) :
    (portsOfContainers (buildDeployment names gateway config)).map f =
      (firsts GatewayListeners.port gateway.spec.listeners).map fun listener =>
        f { name := some (sanitizePortName listener.name), containerPort := listener.port
            hostPort := some listener.port, protocol := some "TCP" } := by
  show (portEntries gateway.spec.listeners _ ++ []).map f = _
  rw [List.append_nil, portEntries_eq, List.map_map]
  rfl

theorem containerPorts_buildDeployment (names : DataPlaneNames) :
    containerPorts (buildDeployment names gateway config) =
      (firsts GatewayListeners.port gateway.spec.listeners).map GatewayListeners.port :=
  map_portsOfContainers names ContainerPort.containerPort

theorem targetPorts_buildService (names : DataPlaneNames) :
    targetPorts (buildService names gateway) =
      (containerPorts (buildDeployment names gateway config)).map some := by
  rw [targetPorts, map_servicePorts, containerPorts_buildDeployment, List.map_map]
  rfl

/-- The ports of valid listeners are configured as they are. -/
theorem mem_containerPorts_iff
    (hvalid : (validateListeners gateway.spec.listeners).allValid = true) {port : ℤ} :
    port ∈ containerPorts (buildDeployment ⟨ns, name⟩ gateway config) ↔
      ∃ listener ∈ (buildGatewayConfig gateway ns s).1.listeners,
        (listener.port.toNat : ℤ) = port := by
  have hfits := port_fits_of_allValid hvalid
  have hlisteners : (buildGatewayConfig gateway ns s).1.listeners =
      gateway.spec.listeners.map (buildListenerConfig ns s) := rfl
  rw [containerPorts_buildDeployment, mem_map_key_firsts, hlisteners, List.mem_map]
  constructor
  · intro h
    obtain ⟨listener, hmem, rfl⟩ := h
    exact ⟨_, List.mem_map_of_mem hmem, hfits listener hmem⟩
  · intro h
    obtain ⟨listenerConfig, hmem, rfl⟩ := h
    obtain ⟨listener, hlistener, rfl⟩ := List.mem_map.mp hmem
    exact ⟨listener, hlistener, (hfits listener hlistener).symm⟩

/-! ### The resources -/

theorem wired_builtResources (hname : nameAny gateway = name)
    (hvalid : (validateListeners gateway.spec.listeners).allValid = true) :
    Wired (builtResources s config ns name gateway) := by
  have hselects := (selectsLabels_labels_iff ⟨ns, name⟩ ⟨ns, name⟩).mpr rfl
  refine ⟨?_, ?_, ?_, ?_, hselects, hselects, ?_, ?_, ?_⟩
  · exact ⟨_, _, rfl, rfl, rfl, rfl, rfl⟩
  · exact ⟨rfl, rfl, rfl⟩
  · exact ⟨_, rfl, rfl, rfl, rfl⟩
  · exact ⟨_, rfl, rfl, rfl⟩
  · exact targetPorts_buildService _
  · exact ⟨(buildGatewayConfig gateway ns s).1, rfl, fun port => mem_containerPorts_iff hvalid⟩
  · -- the environment names the Gateway by the name it carries
    refine ⟨_, rfl, ns, "multiway-config-" ++ nameAny gateway, rfl, rfl, ?_⟩
    rw [hname]
    rfl

theorem upserts_of_ready (h : readyGateway s ns name = some gateway) :
    (reconcileGateway s config ns name).upserts =
      (builtResources s config ns name gateway).upserts :=
  (reconcileGateway_of_ready h).1

theorem ready_of_upserts (h : (reconcileGateway s config ns name).upserts ≠ []) :
    ∃ gateway, readyGateway s ns name = some gateway := by
  rcases hready : readyGateway s ns name with _ | gateway
  · exact absurd (upserts_of_not_ready hready) h
  · exact ⟨gateway, rfl⟩

/-- The pods of a Gateway carry its labels. -/
theorem podLabels_of_mem_upserts {deployment : Deployment}
    (h : .deployment deployment ∈ (reconcileGateway s config ns name).upserts) :
    podLabels deployment = DataPlaneNames.labels ⟨ns, name⟩ := by
  obtain ⟨gateway, hready⟩ := ready_of_upserts (List.ne_nil_of_mem h)
  rw [upserts_of_ready hready] at h
  have hdeployment : deployment = (builtResources s config ns name gateway).deployment := by
    simpa [DataPlaneResources.upserts] using h
  rw [hdeployment]
  rfl

theorem selectsNoOther_builtResources :
    SelectsNoOther ns name (builtResources s config ns name gateway) := by
  intro t config' ns' name' hother deployment hmem
  have hselects : ¬SelectsLabels (DataPlaneNames.selectorLabels ⟨ns, name⟩)
      (DataPlaneNames.labels ⟨ns', name'⟩) := by
    intro hselects
    have hsame := (selectsLabels_labels_iff _ _).mp hselects
    rw [DataPlaneNames.mk.injEq] at hsame
    exact hother (Prod.ext hsame.1.symm hsame.2.symm)
  rw [podLabels_of_mem_upserts hmem]
  exact ⟨hselects, hselects⟩

end

/-- **The emitted resources are wired together**, and select no pods of another
Gateway. -/
theorem emitted_wired (s : WorldSnapshot) (config : ControllerConfig) (ns name : String)
    (hemits : (reconcileGateway s config ns name).upserts ≠ []) :
    ∃ r : DataPlaneResources, (reconcileGateway s config ns name).upserts = r.upserts ∧
      Wired r ∧ SelectsNoOther ns name r := by
  obtain ⟨gateway, hready⟩ := ready_of_upserts hemits
  have hget := getGateway_of_ready hready
  have hvalid : (validateListeners gateway.spec.listeners).allValid = true :=
    (Bool.and_eq_true_iff.mp (Option.filter_eq_some_iff.mp hready).2).2
  exact ⟨_, upserts_of_ready hready, wired_builtResources (nameAny_of_getGateway hget) hvalid,
    selectsNoOther_builtResources⟩

/-- Two listeners share a port. -/
theorem emitted_wired_shared_port :
    ∃ r : DataPlaneResources,
      (reconcileGateway (.full (clusterWith [httpListener "a" 80, httpListener "b" 80] []) 0) {}
        "default" "gw").upserts = r.upserts ∧ Wired r ∧ SelectsNoOther "default" "gw" r := by
  refine emitted_wired _ {} "default" "gw" ?_
  intro hnone
  have hlength := congrArg List.length hnone
  exact absurd hlength (by decide)

end Multiway.ControlPlane
