import Multiway.ControlPlane.Quiescence

/-!
# The addresses of a Gateway

A Gateway without addresses of its own takes them from its data plane: from the
load balancer, else from a node, else from the Service. `AddressPriority` is
this order as it is documented, `ProgrammedAgrees` that the three places that
say whether the Gateway is programmed say it with the addresses.
-/

namespace Multiway.ControlPlane

open Multiway.Lib
open Multiway.Kube

/-! ## Where an address comes from -/

/-- The ingress entries of the load balancer of a Service. -/
def ingressOf (svc : Service) : List LoadBalancerIngress :=
  ((svc.status.bind ServiceStatus.loadBalancer).bind LoadBalancerStatus.ingress).getD []

def hasAddress (entry : LoadBalancerIngress) : Bool := entry.ip.isSome || entry.hostname.isSome

/-- The address of an ingress entry: its IP, else its hostname. -/
inductive AddressOf : LoadBalancerIngress → GatewayAddresses → Prop
  | ip {entry : LoadBalancerIngress} {ip : String} (ip_eq : entry.ip = some ip) :
    AddressOf entry { type := some "IPAddress", value := ip }
  | hostname {entry : LoadBalancerIngress} {hostname : String} (ip_eq : entry.ip = none)
      (hostname_eq : entry.hostname = some hostname) :
    AddressOf entry { type := some "Hostname", value := hostname }

/-- The first address of type InternalIP of a node. -/
def FirstInternalIp (node : Node) (ip : String) : Prop :=
  ∃ before after, (node.status.bind NodeStatus.addresses).getD [] =
      before ++ { type := "InternalIP", address := ip } :: after ∧
    ∀ addr ∈ before, addr.type ≠ "InternalIP"

/-- The first InternalIP of the first Ready node, by name, that has one. -/
def NodeIp (s : WorldSnapshot) (ip : String) : Prop :=
  ∃ node ∈ s.nodes.values, isReady node = true ∧ FirstInternalIp node ip ∧
    ∀ other ∈ s.nodes.values, isReady other = true → (∃ ip', FirstInternalIp other ip') →
      nameAny node ≤ nameAny other

/-- The ClusterIP of a Service that has one. -/
def ClusterIp (svc : Service) (ip : String) : Prop :=
  svc.spec.bind ServiceSpec.clusterIp = some ip ∧ ip ≠ "" ∧ ip ≠ "None"

/-- The addresses are those of the first source that has any. -/
structure AddressPriority (s : WorldSnapshot) (gateway : Gateway) (names : DataPlaneNames)
    (addresses : Option (List GatewayAddresses)) : Prop where
  spec : gateway.spec.addresses.getD [] ≠ [] → addresses = gateway.spec.addresses
  noService : gateway.spec.addresses.getD [] = [] →
    s.getService names.namespace names.serviceName = none → addresses = none
  loadBalancer : gateway.spec.addresses.getD [] = [] →
    ∀ svc, s.getService names.namespace names.serviceName = some svc →
      (ingressOf svc).filter hasAddress ≠ [] →
        ∃ found, addresses = some found ∧
          List.Forall₂ AddressOf ((ingressOf svc).filter hasAddress) found
  node : gateway.spec.addresses.getD [] = [] →
    ∀ svc, s.getService names.namespace names.serviceName = some svc →
      (ingressOf svc).filter hasAddress = [] →
        ∀ ip, NodeIp s ip → addresses = some [{ type := some "IPAddress", value := ip }]
  clusterIp : gateway.spec.addresses.getD [] = [] →
    ∀ svc, s.getService names.namespace names.serviceName = some svc →
      (ingressOf svc).filter hasAddress = [] → (∀ ip, ¬NodeIp s ip) →
        ∀ ip, ClusterIp svc ip →
          addresses = some [{ type := some "IPAddress", value := ip }]
  absent : gateway.spec.addresses.getD [] = [] →
    ∀ svc, s.getService names.namespace names.serviceName = some svc →
      (ingressOf svc).filter hasAddress = [] → (∀ ip, ¬NodeIp s ip) →
        (∀ ip, ¬ClusterIp svc ip) → addresses = none

/-- The Gateway and each of its listeners have one Programmed condition, which
is True when there is an address. -/
structure ProgrammedAgrees (gateway : Gateway) (status : GatewayStatus) : Prop where
  names : (status.listeners.getD []).map GatewayStatusListeners.name =
    gateway.spec.listeners.map GatewayListeners.name
  listeners : ∀ listener ∈ status.listeners.getD [],
    conditionStatus listener.conditions "Programmed" =
      conditionStatus (status.conditions.getD []) "Programmed"
  gateway : conditionStatus (status.conditions.getD []) "Programmed" =
    some (statusText (!(status.addresses.getD []).isEmpty))

/-- The addresses the Service of a data plane gives, next to the address of a
node. -/
def serviceAddresses (nodeIp : Option String) (svc : Service) : Option (List GatewayAddresses) :=
  match ingressAddresses (((svc.status.bind ServiceStatus.loadBalancer).bind
      LoadBalancerStatus.ingress).getD []) with
  | a :: as => some (a :: as)
  | [] =>
    let clusterIp := (svc.spec.bind ServiceSpec.clusterIp).filter fun ip => ip != "" && ip != "None"
    (nodeIp.or clusterIp).map fun ip => [{ type := some "IPAddress", value := ip }]

section
variable {s : WorldSnapshot} {gateway : Gateway} {names : DataPlaneNames}

/-- An address that is derived is what makes a Gateway programmed. -/
theorem deriveGatewayAddresses_snd (s : WorldSnapshot) (gateway : Gateway)
    (names : DataPlaneNames) :
    (deriveGatewayAddresses s gateway names).2 =
      (deriveGatewayAddresses s gateway names).1.isSome := by
  unfold deriveGatewayAddresses
  split
  · rfl
  · split
    · rfl
    · dsimp only
      split
      · rfl
      · split
        · rfl
        · split <;> rfl

/-- A Gateway with addresses of its own keeps them. -/
theorem deriveGatewayAddresses_of_spec (h : gateway.spec.addresses.getD [] ≠ []) :
    deriveGatewayAddresses s gateway names = (gateway.spec.addresses, true) := by
  unfold deriveGatewayAddresses
  rcases haddresses : gateway.spec.addresses with _ | _ | ⟨a, as⟩
  · rw [haddresses] at h
    exact absurd rfl h
  · rw [haddresses] at h
    exact absurd rfl h
  · rfl

/-- One without asks its Service. -/
theorem deriveGatewayAddresses_of_service (h : gateway.spec.addresses.getD [] = []) :
    (deriveGatewayAddresses s gateway names).1 =
      (s.getService names.namespace names.serviceName).bind
        (serviceAddresses s.getNodeInternalIp) := by
  have hspec : ∀ a as, gateway.spec.addresses ≠ some (a :: as) := by
    intro a as hsome
    rw [hsome] at h
    cases h
  unfold deriveGatewayAddresses
  split
  next a as hsome => exact absurd hsome (hspec a as)
  · rcases s.getService names.namespace names.serviceName with _ | svc
    · rfl
    · rw [Option.bind_some]
      unfold serviceAddresses
      dsimp only
      rcases ingressAddresses (((svc.status.bind ServiceStatus.loadBalancer).bind
        LoadBalancerStatus.ingress).getD []) with _ | ⟨a, as⟩
      · dsimp only
        rcases s.getNodeInternalIp with _ | ip
        · rw [Option.none_or]
          rcases (svc.spec.bind ServiceSpec.clusterIp).filter fun ip => ip != "" && ip != "None"
            with _ | ip
          · rfl
          · rfl
        · rfl
      · rfl

theorem internalIp_eq_some_iff {node : Node} {ip : String} :
    internalIp node = some ip ↔ FirstInternalIp node ip := by
  unfold internalIp FirstInternalIp
  rw [List.findSome?_eq_some_iff]
  constructor
  · intro h
    obtain ⟨before, addr, after, haddresses, hfound, hbefore⟩ := h
    obtain ⟨htype, haddress⟩ := Option.ite_none_right_eq_some.mp hfound
    obtain rfl := Option.some.inj haddress
    obtain ⟨type, address⟩ := addr
    obtain rfl : type = "InternalIP" := eq_of_beq htype
    refine ⟨before, after, haddresses, ?_⟩
    intro addr hmem htype
    have hnone := hbefore addr hmem
    rw [htype] at hnone
    cases hnone
  · intro h
    obtain ⟨before, after, haddresses, hbefore⟩ := h
    refine ⟨before, _, after, haddresses, rfl, ?_⟩
    intro addr hmem
    exact if_neg fun htype => hbefore addr hmem (eq_of_beq htype)

/-- The search through the nodes is in the order of their names. -/
theorem getNodeInternalIp_eq_some_iff {ip : String} :
    s.getNodeInternalIp = some ip ↔ NodeIp s ip := by
  have hnode : ∀ (node : Node) (ip : String),
      (if isReady node then internalIp node else none) = some ip ↔
        isReady node = true ∧ FirstInternalIp node ip := by
    intro node ip
    rw [Option.ite_none_right_eq_some, internalIp_eq_some_iff]
  unfold WorldSnapshot.getNodeInternalIp NodeIp
  rw [Store.findSome?_values_eq_some_iff]
  refine exists_congr fun node => and_congr_right fun _ => ?_
  rw [hnode, and_assoc]
  refine and_congr_right fun _ => and_congr_right fun _ => forall₂_congr fun other _ => ?_
  rw [Option.isSome_iff_exists, compare_le_iff_le]
  simp only [hnode]
  rw [exists_and_left, and_imp]

theorem filter_hasAddress_ne_nil_iff {ingress : List LoadBalancerIngress} :
    ingress.filter hasAddress ≠ [] ↔
      ∃ entry ∈ ingress, entry.ip ≠ none ∨ entry.hostname ≠ none := by
  rw [ne_eq, List.filter_eq_nil_iff]
  push Not
  refine exists_congr fun entry => and_congr_right fun _ => ?_
  unfold hasAddress
  rw [Bool.or_eq_true, Option.isSome_iff_ne_none, Option.isSome_iff_ne_none]

theorem ingressAddresses_eq_nil_iff {ingress : List LoadBalancerIngress} :
    ingressAddresses ingress = [] ↔ ingress.filter hasAddress = [] := by
  unfold ingressAddresses
  rw [List.filterMap_eq_nil_iff, List.filter_eq_nil_iff]
  refine forall₂_congr fun entry _ => ?_
  unfold hasAddress
  rcases entry with ⟨_ | ip, _ | hostname⟩ <;> simp

/-- Each entry with an address gives it, in order. -/
theorem forall₂_ingressAddresses (ingress : List LoadBalancerIngress) :
    List.Forall₂ AddressOf (ingress.filter hasAddress) (ingressAddresses ingress) := by
  induction ingress with
  | nil => exact .nil
  | cons entry entries ih =>
    obtain ⟨ip, hostname⟩ := entry
    rcases ip with _ | ip
    · rcases hostname with _ | hostname
      · exact ih
      · exact .cons (.hostname rfl rfl) ih
    · exact .cons (.ip rfl) ih

theorem clusterIp_eq_some_iff {svc : Service} {ip : String} :
    (svc.spec.bind ServiceSpec.clusterIp).filter (fun ip => ip != "" && ip != "None") = some ip ↔
      ClusterIp svc ip := by
  unfold ClusterIp
  rw [Option.filter_eq_some_iff, Bool.and_eq_true, bne_iff_ne, bne_iff_ne]

theorem serviceAddresses_of_ingress {nodeIp : Option String} {svc : Service}
    (h : (ingressOf svc).filter hasAddress ≠ []) :
    serviceAddresses nodeIp svc = some (ingressAddresses (ingressOf svc)) := by
  rw [ne_eq, ← ingressAddresses_eq_nil_iff] at h
  obtain ⟨a, as, hcons⟩ := List.exists_cons_of_ne_nil h
  have hcons' : ingressAddresses (((svc.status.bind ServiceStatus.loadBalancer).bind
      LoadBalancerStatus.ingress).getD []) = a :: as := hcons
  unfold serviceAddresses
  rw [hcons', hcons]

/-- Without a load balancer a node is asked before the Service itself. -/
theorem serviceAddresses_of_no_ingress {nodeIp : Option String} {svc : Service}
    (h : (ingressOf svc).filter hasAddress = []) :
    serviceAddresses nodeIp svc =
      (nodeIp.or ((svc.spec.bind ServiceSpec.clusterIp).filter
        fun ip => ip != "" && ip != "None")).map
          fun ip => [{ type := some "IPAddress", value := ip }] := by
  have hnil : ingressAddresses (((svc.status.bind ServiceStatus.loadBalancer).bind
      LoadBalancerStatus.ingress).getD []) = [] := ingressAddresses_eq_nil_iff.mpr h
  unfold serviceAddresses
  rw [hnil]

/-- A Service gives an address as soon as one of its sources does. -/
theorem serviceAddresses_ne_none_iff {nodeIp : Option String} {svc : Service} :
    serviceAddresses nodeIp svc ≠ none ↔
      (ingressOf svc).filter hasAddress ≠ [] ∨ nodeIp ≠ none ∨ ∃ ip, ClusterIp svc ip := by
  by_cases hingress : (ingressOf svc).filter hasAddress = []
  · rw [serviceAddresses_of_no_ingress hingress, ne_eq, Option.map_eq_none_iff,
      Option.or_eq_none_iff, not_and_or, or_iff_right (not_not.mpr hingress), ← ne_eq]
    refine or_congr_right ?_
    rw [← ne_eq, Option.ne_none_iff_exists']
    exact exists_congr fun ip => clusterIp_eq_some_iff
  · rw [serviceAddresses_of_ingress hingress]
    exact iff_of_true nofun (.inl hingress)

theorem getNodeInternalIp_eq_none (h : ∀ ip, ¬NodeIp s ip) : s.getNodeInternalIp = none := by
  rw [Option.eq_none_iff_forall_ne_some]
  intro ip hsome
  exact h ip (getNodeInternalIp_eq_some_iff.mp hsome)

/-- The order in which the sources are asked is the documented one. -/
theorem addressPriority_deriveGatewayAddresses (s : WorldSnapshot) (gateway : Gateway)
    (names : DataPlaneNames) :
    AddressPriority s gateway names (deriveGatewayAddresses s gateway names).1 := by
  have hservice : gateway.spec.addresses.getD [] = [] →
      ∀ svc, s.getService names.namespace names.serviceName = some svc →
        (deriveGatewayAddresses s gateway names).1 =
          serviceAddresses s.getNodeInternalIp svc := by
    intro hspec svc hsvc
    rw [deriveGatewayAddresses_of_service hspec, hsvc, Option.bind_some]
  refine ⟨?_, ?_, ?_, ?_, ?_, ?_⟩
  · intro hspec
    rw [deriveGatewayAddresses_of_spec hspec]
  · intro hspec hnone
    rw [deriveGatewayAddresses_of_service hspec, hnone, Option.bind_none]
  · intro hspec svc hsvc hingress
    rw [hservice hspec svc hsvc, serviceAddresses_of_ingress hingress]
    exact ⟨_, rfl, forall₂_ingressAddresses _⟩
  · intro hspec svc hsvc hingress ip hnode
    rw [hservice hspec svc hsvc, serviceAddresses_of_no_ingress hingress,
      getNodeInternalIp_eq_some_iff.mpr hnode, Option.some_or, Option.map_some]
  · intro hspec svc hsvc hingress hnode ip hcluster
    rw [hservice hspec svc hsvc, serviceAddresses_of_no_ingress hingress,
      getNodeInternalIp_eq_none hnode, Option.none_or, clusterIp_eq_some_iff.mpr hcluster,
      Option.map_some]
  · intro hspec svc hsvc hingress hnode hcluster
    have hnone : (svc.spec.bind ServiceSpec.clusterIp).filter
        (fun ip => ip != "" && ip != "None") = none := by
      rw [Option.eq_none_iff_forall_ne_some]
      intro ip hsome
      exact hcluster ip (clusterIp_eq_some_iff.mp hsome)
    rw [hservice hspec svc hsvc, serviceAddresses_of_no_ingress hingress,
      getNodeInternalIp_eq_none hnode, Option.none_or, hnone, Option.map_none]

/-- No source gives an empty list. -/
theorem deriveGatewayAddresses_ne_nil : (deriveGatewayAddresses s gateway names).1 ≠ some [] := by
  by_cases hspec : gateway.spec.addresses.getD [] = []
  · rw [deriveGatewayAddresses_of_service hspec]
    intro hnil
    obtain ⟨svc, -, hempty⟩ := Option.bind_eq_some_iff.mp hnil
    by_cases hingress : (ingressOf svc).filter hasAddress = []
    · rw [serviceAddresses_of_no_ingress hingress] at hempty
      obtain ⟨ip, -, hcons⟩ := Option.map_eq_some_iff.mp hempty
      cases hcons
    · rw [serviceAddresses_of_ingress hingress] at hempty
      exact hingress (ingressAddresses_eq_nil_iff.mp (Option.some.inj hempty))
  · rw [deriveGatewayAddresses_of_spec hspec]
    intro hnil
    have hnil : gateway.spec.addresses = some [] := hnil
    rw [hnil] at hspec
    exact hspec rfl

theorem deriveGatewayAddresses_snd_eq :
    (deriveGatewayAddresses s gateway names).2 =
      !((deriveGatewayAddresses s gateway names).1.getD []).isEmpty := by
  rw [deriveGatewayAddresses_snd]
  rcases haddresses : (deriveGatewayAddresses s gateway names).1 with _ | _ | ⟨a, as⟩
  · rfl
  · exact absurd haddresses deriveGatewayAddresses_ne_nil
  · rfl

/-! ## The status -/

theorem programmedAgrees_buildGatewayStatus {now : Time} {reason message : String} :
    ProgrammedAgrees gateway (buildGatewayStatus now gateway false reason message none) := by
  refine ⟨?_, ?_, rfl⟩
  · exact List.map_map
  · intro listener hmem
    obtain ⟨l, -, rfl⟩ := List.mem_map.mp hmem
    rfl

/-- The condition before it is about references and of one of two kinds. -/
theorem programmedAgrees_buildGatewayStatusAccepted {now : Time} {programmed : Bool}
    {reason message : String} {addresses : Option (List GatewayAddresses)} {attachedRoutes : ℤ}
    {resolved : BTreeMap Bool} (h : programmed = !(addresses.getD []).isEmpty) :
    ProgrammedAgrees gateway (buildGatewayStatusAccepted now gateway programmed reason message
      addresses attachedRoutes resolved) := by
  refine ⟨List.map_map, ?_, ?_⟩
  · intro listener hmem
    obtain ⟨l, -, rfl⟩ := List.mem_map.mp hmem
    dsimp only
    cases resolved[l.name]?.getD true with
    | true => rfl
    | false => rfl
  · rw [h]
    rfl

end

/-- **Addresses and Programmed agree.** -/
theorem gateway_addresses {s : WorldSnapshot} (config : ControllerConfig) {ns name : String}
    {gateway : Gateway} (hget : s.getGateway ns name = some gateway) :
    ∃ status, (reconcileGateway s config ns name).statusUpdates = [.gateway ns name status] ∧
      ProgrammedAgrees gateway status ∧
      (classAccepted s gateway.spec.gatewayClassName = true →
        (validateListeners gateway.spec.listeners).allValid = true →
          AddressPriority s gateway ⟨ns, name⟩ status.addresses) := by
  refine ⟨gatewayStatusOf s gateway ns name, statusUpdates_reconcileGateway hget, ?_, ?_⟩
  · unfold gatewayStatusOf
    split
    · exact programmedAgrees_buildGatewayStatus
    · split
      · exact programmedAgrees_buildGatewayStatus
      · exact programmedAgrees_buildGatewayStatusAccepted deriveGatewayAddresses_snd_eq
  · intro hclass hvalid
    have hready : readyGateway s ns name = some gateway :=
      (readyGateway_eq_some_iff hget).mpr ⟨hclass, hvalid⟩
    rw [gatewayStatusOf_of_ready hget hready]
    exact addressPriority_deriveGatewayAddresses s gateway ⟨ns, name⟩

/-- A Ready node whose first address is not an internal one. -/
def readyNode : Node where
  metadata := { name := some "node-1" }
  status := some
    { conditions := some [{ type := "Ready", status := "True" }]
      addresses := some
        [{ type := "Hostname", address := "node-1" },
          { type := "InternalIP", address := "10.0.0.1" }] }

/-- The data plane's Service of the Gateway `default/gw`, without a load balancer. -/
def headlessService : Service where
  metadata := { name := some "multiway-dp-gw", «namespace» := some "default" }
  spec := some { clusterIp := some "None" }

def nodeSnapshot : WorldSnapshot :=
  ((WorldSnapshot.full (clusterWith [httpListener "http" 80] []) 0).withNode readyNode).withService
    headlessService

theorem gateway_addresses_of_node :
    ∃ status, (reconcileGateway nodeSnapshot {} "default" "gw").statusUpdates =
        [.gateway "default" "gw" status] ∧
      status.addresses = some [{ type := some "IPAddress", value := "10.0.0.1" }] := by
  obtain ⟨status, hstatus, -, hpriority⟩ := gateway_addresses {}
    (rfl : nodeSnapshot.getGateway "default" "gw" = some (gatewayWith [httpListener "http" 80]))
  have hsvc : nodeSnapshot.getService "default" (DataPlaneNames.serviceName ⟨"default", "gw"⟩) =
      some headlessService := rfl
  refine ⟨status, hstatus, ?_⟩
  exact (hpriority rfl rfl).node rfl headlessService hsvc rfl "10.0.0.1"
    (getNodeInternalIp_eq_some_iff.mp (by decide +kernel))

end Multiway.ControlPlane
