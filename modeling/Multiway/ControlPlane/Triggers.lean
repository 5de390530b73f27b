import Multiway.ControlPlane.Inputs
import Multiway.Kube.Runtime

/-!
# Triggers (`controller/gateway.rs`, `controller/httproute.rs`)

The two controllers are told of some changes by what they declare to kube's
runtime. A change is missed when it makes the result for an object another one
and the object is not enqueued: then the status and the ConfigMap stay as they
are until the object is requeued for another reason.

Much is missed. No GatewayClass, Secret, ReferenceGrant or Node is watched, a
Service reaches only the Gateway that owns it, and the mapper that is to
reconcile "all HTTPRoutes in its namespace" when a Gateway changes names one:
the HTTPRoute with the name of the Gateway. `Contained` says of each kind of
object which changes stay with what they enqueue, and `triggersComplete_iff`
that the declarations are complete for these and no others.
-/

namespace Multiway.ControlPlane

open Multiway.Lib
open Multiway.Kube

/-! ## Changes -/

/-- A change to one object of the cluster. -/
inductive ClusterChange
  | gatewayClass (c : Store.Change String GatewayClass)
  | gateway (c : Store.Change (String × String) Gateway)
  | httproute (c : Store.Change (String × String) HTTPRoute)
  | service (c : Store.Change (String × String) Service)
  | secret (c : Store.Change (String × String) Secret)
  | referenceGrant (c : Store.Change (String × String) ReferenceGrant)
  | node (c : Store.Change String Node)

def ClusterChange.apply (cluster : Objects) : ClusterChange → Objects
  | .gatewayClass c => { cluster with gatewayClasses := cluster.gatewayClasses.change c }
  | .gateway c => { cluster with gateways := cluster.gateways.change c }
  | .httproute c => { cluster with httproutes := cluster.httproutes.change c }
  | .service c => { cluster with services := cluster.services.change c }
  | .secret c => { cluster with secrets := cluster.secrets.change c }
  | .referenceGrant c => { cluster with referenceGrants := cluster.referenceGrants.change c }
  | .node c => { cluster with nodes := cluster.nodes.change c }

/-- The event of a change in a store of objects of a kind. -/
def watchEvent {K α : Type} [Ord K] [Std.TransOrd K] [Resource α] {key : α → K} (kind : Kind)
    (s : Store K α key) (c : Store.Change K α) : WatchEvent where
  kind
  old := (s.get? (c.keyBy key)).map Resource.metadata
  new := c.new.map Resource.metadata

def ClusterChange.event (cluster : Objects) : ClusterChange → WatchEvent
  | .gatewayClass c => watchEvent .gatewayClass cluster.gatewayClasses c
  | .gateway c => watchEvent .gateway cluster.gateways c
  | .httproute c => watchEvent .httproute cluster.httproutes c
  | .service c => watchEvent .service cluster.services c
  | .secret c => watchEvent .secret cluster.secrets c
  | .referenceGrant c => watchEvent .referenceGrant cluster.referenceGrants c
  | .node c => watchEvent .node cluster.nodes c

/-! ## The declarations -/

/-- `MANAGED_BY_LABEL` and `MANAGED_BY_VALUE`. -/
def managedByLabel : String := "app.kubernetes.io/managed-by"

def managedByValue : String := "multiway-gateway-controller"

/-- An `owns` of the Gateway controller. -/
def ownedByGateways (kind : Kind) : Declaration :=
  .owns kind managedByLabel managedByValue "gateway.networking.k8s.io/v1" "Gateway"

def runGatewayController (watchNamespace : Option String) : List Declaration :=
  [.primary .gateway watchNamespace, ownedByGateways .deployment, ownedByGateways .service,
    ownedByGateways .configmap]

def runHttprouteController (watchNamespace : Option String) : List Declaration :=
  [.primary .httproute watchNamespace,
    -- one HTTPRoute, by the name of the Gateway; Services are not watched
    .watches .gateway fun gateway => [(namespaceOf gateway, nameAny gateway)]]

/-- Whether an event enqueues an object. -/
def Enqueued (runtime : Runtime) (watchNamespace : Option String) (event : WatchEvent) :
    Target → Prop
  | .gateway ns name => ∃ declaration ∈ runGatewayController watchNamespace,
      (ns, name) ∈ runtime.enqueued declaration event
  | .httproute ns name => ∃ declaration ∈ runHttprouteController watchNamespace,
      (ns, name) ∈ runtime.enqueued declaration event

/-! ## Completeness -/

/-- The object is there, and in a namespace whose objects are reconciled. -/
def Reconciled (watchNamespace : Option String) (s : WorldSnapshot) : Target → Prop
  | .gateway ns name =>
    watchesNamespace watchNamespace ns = true ∧ (s.getGateway ns name).isSome = true
  | .httproute ns name =>
    watchesNamespace watchNamespace ns = true ∧ (s.getHttproute ns name).isSome = true

/-- A reference of an HTTPRoute that is reconciled. -/
structure WatchedParent (watchNamespace : Option String) (s : WorldSnapshot) (ns name : String)
    (route : HTTPRoute) (parentRef : HttpRouteParentRefs) : Prop where
  watched : watchesNamespace watchNamespace ns = true
  found : s.getHttproute ns name = some route
  listed : parentRef ∈ route.spec.parentRefs.getD []

/-- A parent reference names the Gateway of a key. -/
structure NamesKey (parentRef : HttpRouteParentRefs) (routeNs : String) (key : String × String) :
    Prop where
  group : parentRef.group.getD "gateway.networking.k8s.io" = "gateway.networking.k8s.io"
  kind : parentRef.kind.getD "Gateway" = "Gateway"
  key : (parentRef.namespace.getD routeNs, parentRef.name) = key

section
variable (runtime : Runtime) (config : ControllerConfig) (watchNamespace : Option String)
  (cluster : Objects) (now : Time)

/-- Every object whose result is changed is enqueued, and a Gateway event
enqueues every HTTPRoute with a parentRef to the Gateway. -/
structure TriggersComplete (change : ClusterChange) : Prop where
  results : ∀ target, Reconciled watchNamespace (.full (change.apply cluster) now) target →
    computed config (.full cluster now) target ≠
        computed config (.full (change.apply cluster) now) target →
      Enqueued runtime watchNamespace (change.event cluster) target
  parents : ∀ c, change = .gateway c →
    (c.new.or (cluster.gateways.get? (c.keyBy objectKey))).isSome = true →
      ∀ ns name route parentRef,
        WatchedParent watchNamespace (.full (change.apply cluster) now) ns name route parentRef →
          NamesKey parentRef ns (c.keyBy objectKey) →
            Enqueued runtime watchNamespace (change.event cluster) (.httproute ns name)

end

/-! ## What is enqueued -/

section
variable {runtime : Runtime} {watchNamespace : Option String} {event : WatchEvent} {target : Target}

/-- The declarations of the controller that reconciles the target. -/
def declarationsFor (watchNamespace : Option String) : Target → List Declaration
  | .gateway _ _ => runGatewayController watchNamespace
  | .httproute _ _ => runHttprouteController watchNamespace

def Target.key : Target → String × String
  | .gateway ns name => (ns, name)
  | .httproute ns name => (ns, name)

theorem enqueued_iff (h : runtime.Documented) :
    Enqueued runtime watchNamespace event target ↔
      ∃ declaration ∈ declarationsFor watchNamespace target,
        target.key ∈ declaration.enqueues event := by
  cases target with
  | gateway ns name => exact exists_congr fun d => and_congr_right fun _ => h d event _
  | httproute ns name => exact exists_congr fun d => and_congr_right fun _ => h d event _

/-- Only the declarations of the event's kind count. -/
theorem enqueued_iff_of_only (h : runtime.Documented) {declaration : Declaration}
    (honly : (declarationsFor watchNamespace target).filter (fun d => d.kind = event.kind) =
      [declaration]) :
    Enqueued runtime watchNamespace event target ↔ target.key ∈ declaration.enqueues event := by
  have hmem : ∀ d, d ∈ declarationsFor watchNamespace target ∧ d.kind = event.kind ↔
      d = declaration := by
    intro d
    rw [← List.mem_singleton (b := declaration), ← honly, List.mem_filter, decide_eq_true_iff]
  rw [enqueued_iff h]
  constructor
  · intro henqueued
    obtain ⟨d, hd, hkey⟩ := henqueued
    obtain rfl := (hmem d).mp ⟨hd, Declaration.kind_eq_of_mem hkey⟩
    exact hkey
  · intro hkey
    exact ⟨declaration, ((hmem declaration).mpr rfl).1, hkey⟩

theorem not_enqueued (h : runtime.Documented)
    (hkind : ∀ declaration ∈ declarationsFor watchNamespace target,
      declaration.kind ≠ event.kind) : ¬Enqueued runtime watchNamespace event target := by
  rw [enqueued_iff h]
  intro henqueued
  obtain ⟨declaration, hmem, hkey⟩ := henqueued
  exact hkind declaration hmem (Declaration.kind_eq_of_mem hkey)

/-- Of what the cluster holds, Gateways, HTTPRoutes and Services are watched. -/
theorem not_enqueued_of_unwatched (h : runtime.Documented) (hgateway : event.kind ≠ .gateway)
    (hroute : event.kind ≠ .httproute) (hservice : event.kind ≠ .service)
    (hdeployment : event.kind ≠ .deployment) (hconfigmap : event.kind ≠ .configmap) :
    ¬Enqueued runtime watchNamespace event target := by
  refine not_enqueued h ?_
  cases target with
  | gateway ns name =>
    simp [declarationsFor, runGatewayController, ownedByGateways, Declaration.kind,
      hgateway.symm, hservice.symm, hdeployment.symm, hconfigmap.symm]
  | httproute ns name =>
    simp [declarationsFor, runHttprouteController, Declaration.kind, hgateway.symm, hroute.symm]

end

section
variable {runtime : Runtime} {watchNamespace : Option String} {cluster : Objects}
  {ns name : String}

/-- An object to reconcile is enqueued while it is there. -/
theorem mem_enqueues_primary {α : Type} [Resource α] (kind : Kind) (s : Namespaced α)
    {c : Store.Change (String × String) α} :
    (ns, name) ∈ (Declaration.primary kind watchNamespace).enqueues (watchEvent kind s c) ↔
      watchesNamespace watchNamespace ns = true ∧
        ∃ a, c.new = some a ∧ objectKey a = (ns, name) := by
  show (ns, name) ∈ (if kind = kind then _ else []) ↔ _
  rw [if_pos rfl]
  show (ns, name) ∈ (((c.new.map Resource.metadata).filter _).map objectKey).toList ↔ _
  rw [Option.mem_toList, Option.map_eq_some_iff]
  constructor
  · intro h
    obtain ⟨metadata, hmetadata, hkey⟩ := h
    obtain ⟨hnew, hwatched⟩ := Option.filter_eq_some_iff.mp hmetadata
    obtain ⟨a, ha, rfl⟩ := Option.map_eq_some_iff.mp hnew
    obtain ⟨rfl, rfl⟩ : namespaceOf a = ns ∧ nameAny a = name := Prod.mk.inj hkey
    exact ⟨hwatched, a, ha, rfl⟩
  · intro h
    obtain ⟨hwatched, a, ha, hkey⟩ := h
    obtain ⟨rfl, rfl⟩ : namespaceOf a = ns ∧ nameAny a = name := Prod.mk.inj hkey
    refine ⟨Resource.metadata a, Option.filter_eq_some_iff.mpr ⟨?_, hwatched⟩, rfl⟩
    rw [ha, Option.map_some]

theorem seen_watchEvent {α : Type} [Resource α] (kind : Kind) (s : Namespaced α)
    (c : Store.Change (String × String) α) :
    (watchEvent kind s c).seen (fun _ => true) =
      (c.new.or (s.get? (c.keyBy objectKey))).map Resource.metadata := by
  unfold WatchEvent.seen watchEvent
  rcases c.new with _ | a <;> rcases s.get? (c.keyBy objectKey) with _ | b <;> rfl

theorem key_of_touched {α : Type} [Resource α] {s : Namespaced α}
    {c : Store.Change (String × String) α} {a : α}
    (h : c.new.or (s.get? (c.keyBy objectKey)) = some a) : objectKey a = c.keyBy objectKey := by
  cases c with
  | put a => exact congrArg objectKey (Option.some.inj h).symm
  | delete key => exact Store.key_of_get? h

/-- A Gateway event enqueues the Gateway, while it is there. -/
theorem enqueued_gateway_of_gateway (h : runtime.Documented)
    {c : Store.Change (String × String) Gateway} :
    Enqueued runtime watchNamespace ((ClusterChange.gateway c).event cluster) (.gateway ns name) ↔
      watchesNamespace watchNamespace ns = true ∧
        ∃ gateway, c.new = some gateway ∧ objectKey gateway = (ns, name) := by
  rw [← mem_enqueues_primary .gateway cluster.gateways]
  exact enqueued_iff_of_only h rfl

/-- It enqueues one HTTPRoute, the one with its key. -/
theorem enqueued_httproute_of_gateway (h : runtime.Documented)
    {c : Store.Change (String × String) Gateway} :
    Enqueued runtime watchNamespace ((ClusterChange.gateway c).event cluster)
        (.httproute ns name) ↔
      (c.new.or (cluster.gateways.get? (c.keyBy objectKey))).isSome = true ∧
        c.keyBy objectKey = (ns, name) := by
  have hevent : (ns, name) ∈ (Declaration.watches .gateway
        fun gateway => [(namespaceOf gateway, nameAny gateway)]).enqueues
          (watchEvent .gateway cluster.gateways c) ↔
      ∃ gateway, c.new.or (cluster.gateways.get? (c.keyBy objectKey)) = some gateway ∧
        objectKey gateway = (ns, name) := by
    show (ns, name) ∈ ((watchEvent .gateway cluster.gateways c).seen _).toList.flatMap _ ↔ _
    rw [seen_watchEvent]
    rcases c.new.or (cluster.gateways.get? (c.keyBy objectKey)) with _ | gateway
    · simp
    · simp only [Option.map_some, Option.toList_some, List.flatMap_singleton, List.mem_singleton,
        Option.some.injEq, exists_eq_left']
      exact eq_comm
  rw [enqueued_iff_of_only h rfl, Option.isSome_iff_exists, exists_and_right.symm]
  constructor
  · intro henqueued
    obtain ⟨gateway, hgateway, hname⟩ := hevent.mp henqueued
    exact ⟨gateway, hgateway, (key_of_touched hgateway).symm.trans hname⟩
  · intro htouched
    obtain ⟨gateway, hgateway, hname⟩ := htouched
    exact hevent.mpr ⟨gateway, hgateway, (key_of_touched hgateway).trans hname⟩

/-- An HTTPRoute event enqueues the HTTPRoute, while it is there. -/
theorem enqueued_httproute_of_httproute (h : runtime.Documented)
    {c : Store.Change (String × String) HTTPRoute} :
    Enqueued runtime watchNamespace ((ClusterChange.httproute c).event cluster)
        (.httproute ns name) ↔
      watchesNamespace watchNamespace ns = true ∧
        ∃ route, c.new = some route ∧ objectKey route = (ns, name) := by
  rw [← mem_enqueues_primary .httproute cluster.httproutes]
  exact enqueued_iff_of_only h rfl

/-- A Service event enqueues the Gateways that own the Service. -/
theorem enqueued_gateway_of_service (h : runtime.Documented)
    {c : Store.Change (String × String) Service} :
    Enqueued runtime watchNamespace ((ClusterChange.service c).event cluster) (.gateway ns name) ↔
      (ns, name) ∈
        (ownedByGateways .service).enqueues (watchEvent .service cluster.services c) :=
  enqueued_iff_of_only h rfl

end

/-! ## What has to be enqueued -/

/-- Reconciling the target prints the configuration of a Gateway. -/
inductive Prints (watchNamespace : Option String) (s : WorldSnapshot) :
    Target → String → Gateway → Prop
  | gateway {ns name : String} {gateway : Gateway}
      (hwatched : watchesNamespace watchNamespace ns = true)
      (hready : readyGateway s ns name = some gateway) :
      Prints watchNamespace s (.gateway ns name) ns gateway
  | httproute {ns name : String} {route : HTTPRoute} {parentRef : HttpRouteParentRefs}
      {gateway : Gateway} (hparent : WatchedParent watchNamespace s ns name route parentRef)
      (haccepts : Accepts s route parentRef ns gateway) :
      Prints watchNamespace s (.httproute ns name) (parentRef.namespace.getD ns) gateway

/-- Where a target is missed, the snapshots agree on what its result tells
apart. -/
structure ResultsCovered (watchNamespace : Option String) (missed : Target → Prop)
    (after before : WorldSnapshot) : Prop where
  classes : ∀ ns name gateway, watchesNamespace watchNamespace ns = true →
    after.getGateway ns name = some gateway → missed (.gateway ns name) →
      classAccepted after gateway.spec.gatewayClassName =
        classAccepted before gateway.spec.gatewayClassName
  addresses : ∀ ns name gateway, watchesNamespace watchNamespace ns = true →
    readyGateway after ns name = some gateway → missed (.gateway ns name) →
      deriveGatewayAddresses after gateway ⟨ns, name⟩ =
        deriveGatewayAddresses before gateway ⟨ns, name⟩
  configurations : ∀ target ns gateway, Prints watchNamespace after target ns gateway →
    missed target → SameConfiguration after before ns gateway
  stages : ∀ ns name route parentRef gateway,
    WatchedParent watchNamespace after ns name route parentRef →
      Resolves after parentRef ns gateway → missed (.httproute ns name) →
        SameStages after before route parentRef ns gateway

section
variable (config : ControllerConfig) {watchNamespace : Option String} {after before : WorldSnapshot}

/-- **What has to be enqueued.** For targets that were there before, with the
Gateways they refer to, no result is missed exactly when nothing that tells the
results of missed targets apart has changed. -/
theorem results_iff {enqueued : Target → Prop} (hnow : after.now = before.now)
    (hgateways : ∀ ns name gateway, watchesNamespace watchNamespace ns = true →
      after.getGateway ns name = some gateway → ¬enqueued (.gateway ns name) →
        before.getGateway ns name = some gateway)
    (hroutes : ∀ ns name route, watchesNamespace watchNamespace ns = true →
      after.getHttproute ns name = some route → ¬enqueued (.httproute ns name) →
        before.getHttproute ns name = some route)
    (hresolves : ∀ ns name route parentRef,
      WatchedParent watchNamespace after ns name route parentRef → ¬enqueued (.httproute ns name) →
        ∀ gateway, Resolves after parentRef ns gateway ↔ Resolves before parentRef ns gateway) :
    (∀ target, Reconciled watchNamespace after target →
        computed config before target ≠ computed config after target → enqueued target) ↔
      ResultsCovered watchNamespace (fun target => ¬enqueued target) after before := by
  constructor
  · intro h
    have hsame : ∀ target, Reconciled watchNamespace after target → ¬enqueued target →
        computed config after target = computed config before target := by
      intro target hreconciled hmissed
      by_contra hne
      exact hmissed (h target hreconciled (Ne.symm hne))
    have hgateway : ∀ ns name gateway, watchesNamespace watchNamespace ns = true →
        after.getGateway ns name = some gateway → ¬enqueued (.gateway ns name) →
          SameGateway after before ns name gateway := by
      intro ns name gateway hwatched hget hmissed
      refine (computed_gateway_eq_iff hnow hget
        (hgateways ns name gateway hwatched hget hmissed)).mp (hsame _ ⟨hwatched, ?_⟩ hmissed)
      rw [hget]
      rfl
    have hparent : ∀ ns name route parentRef gateway,
        WatchedParent watchNamespace after ns name route parentRef →
          Resolves after parentRef ns gateway → ¬enqueued (.httproute ns name) →
            SameParent after before route ns parentRef gateway := by
      intro ns name route parentRef gateway hparent hresolved hmissed
      refine (computed_httproute_eq_iff hnow hparent.found
        (hroutes ns name route hparent.watched hparent.found hmissed)
        fun parentRef' hlisted => hresolves ns name route parentRef'
          ⟨hparent.watched, hparent.found, hlisted⟩ hmissed).mp
            (hsame _ ⟨hparent.watched, ?_⟩ hmissed) parentRef hparent.listed gateway hresolved
      rw [hparent.found]
      rfl
    refine ⟨?_, ?_, ?_, ?_⟩
    · intro ns name gateway hwatched hget hmissed
      exact (hgateway ns name gateway hwatched hget hmissed).gatewayClass
    · intro ns name gateway hwatched hready hmissed
      have hget := getGateway_of_ready hready
      exact (hgateway ns name gateway hwatched hget hmissed).addresses hready
    · intro target ns gateway hprints hmissed
      cases hprints with
      | gateway hwatched hready =>
        exact (hgateway _ _ _ hwatched (getGateway_of_ready hready) hmissed).configuration hready
      | httproute hlisted haccepts =>
        exact (hparent _ _ _ _ _ hlisted haccepts.resolves hmissed).configuration haccepts
    · intro ns name route parentRef gateway hlisted hresolved hmissed
      exact (hparent ns name route parentRef gateway hlisted hresolved hmissed).stages
  · intro h target hreconciled hne
    by_contra hmissed
    refine hne (Eq.symm ?_)
    cases target with
    | gateway ns name =>
      obtain ⟨hwatched, hsome⟩ := hreconciled
      obtain ⟨gateway, hget⟩ := Option.isSome_iff_exists.mp hsome
      refine (computed_gateway_eq_iff hnow hget
        (hgateways ns name gateway hwatched hget hmissed)).mpr ⟨?_, ?_, ?_⟩
      · exact h.classes ns name gateway hwatched hget hmissed
      · exact fun hready => h.addresses ns name gateway hwatched hready hmissed
      · exact fun hready => h.configurations _ _ _ (.gateway hwatched hready) hmissed
    | httproute ns name =>
      obtain ⟨hwatched, hsome⟩ := hreconciled
      obtain ⟨route, hget⟩ := Option.isSome_iff_exists.mp hsome
      refine (computed_httproute_eq_iff hnow hget (hroutes ns name route hwatched hget hmissed)
        fun parentRef hlisted => hresolves ns name route parentRef ⟨hwatched, hget, hlisted⟩
          hmissed).mpr fun parentRef hlisted gateway hresolved => ⟨?_, ?_⟩
      · exact h.stages ns name route parentRef gateway ⟨hwatched, hget, hlisted⟩ hresolved hmissed
      · exact fun haccepts =>
          h.configurations _ _ _ (.httproute ⟨hwatched, hget, hlisted⟩ haccepts) hmissed

end

/-! ## What a kind of object is read for -/

section
variable {s t : WorldSnapshot} {gateway : Gateway} {ns : String}

theorem classAccepted_congr (h : s.gatewayClasses = t.gatewayClasses) {className : String} :
    classAccepted s className = classAccepted t className := by
  unfold classAccepted getAcceptedGatewayClass WorldSnapshot.getGatewayClass
  rw [h]

theorem resolvedCertificates_congr (hgrants : s.referenceGrants = t.referenceGrants)
    (hsecrets : s.secrets = t.secrets) {listener : GatewayListeners} :
    resolvedCertificates s ns listener = resolvedCertificates t ns listener := by
  have href : resolveCertificateRef ns s = resolveCertificateRef ns t := by
    funext ref
    unfold resolveCertificateRef WorldSnapshot.isSecretReferenceAllowed
      WorldSnapshot.isReferenceAllowed WorldSnapshot.getSecret
    rw [hgrants, hsecrets]
  unfold resolvedCertificates
  rw [href]

theorem routeDocuments_congr (h : s.httproutes = t.httproutes) :
    routeDocuments s ns gateway = routeDocuments t ns gateway := by
  unfold routeDocuments WorldSnapshot.routesForGateway
  rw [h]

theorem sameConfiguration_of_eq (hgrants : s.referenceGrants = t.referenceGrants)
    (hsecrets : s.secrets = t.secrets) (hroutes : s.httproutes = t.httproutes) :
    SameConfiguration s t ns gateway where
  certificates _ _ := resolvedCertificates_congr hgrants hsecrets
  routes := routeDocuments_congr hroutes

theorem mayAttach_congr (h : s.referenceGrants = t.referenceGrants)
    {parentRef : HttpRouteParentRefs} :
    mayAttach s ns parentRef gateway = mayAttach t ns parentRef gateway := by
  unfold mayAttach WorldSnapshot.isGatewayReferenceAllowed WorldSnapshot.isReferenceAllowed
  rw [h]

theorem firstBackendError_congr (hgrants : s.referenceGrants = t.referenceGrants)
    (hservices : s.services = t.services) {route : HTTPRoute} :
    firstBackendError s ns route = firstBackendError t ns route := by
  have hbackend : validateBackend s ns = validateBackend t ns := by
    funext backend
    unfold validateBackend WorldSnapshot.serviceExists WorldSnapshot.isServiceReferenceAllowed
      WorldSnapshot.isReferenceAllowed
    rw [hgrants, hservices]
  unfold firstBackendError
  rw [hbackend]

theorem deriveGatewayAddresses_congr (hservices : s.services = t.services)
    (hnodes : s.nodes = t.nodes) {names : DataPlaneNames} :
    deriveGatewayAddresses s gateway names = deriveGatewayAddresses t gateway names := by
  refine deriveGatewayAddresses_eq_iff.mpr fun _ => ?_
  unfold WorldSnapshot.getService WorldSnapshot.getNodeInternalIp
  rw [hservices, hnodes]

/-- The references of a Gateway that resolve, when every Secret with PEM texts
keeps some and every leave is kept. -/
theorem isSome_resolveCertificateRef_mono
    (hallowed : ∀ toNs, s.isSecretReferenceAllowed ns toNs = true →
      t.isSecretReferenceAllowed ns toNs = true)
    (hsecrets : ∀ key, ((s.secrets.get? key).bind secretPem).isSome = true →
      ((t.secrets.get? key).bind secretPem).isSome = true)
    (ref : GatewayListenersTlsCertificateRefs)
    (h : (resolveCertificateRef ns s ref).isSome = true) :
    (resolveCertificateRef ns t ref).isSome = true := by
  obtain ⟨pem, hpem⟩ := Option.isSome_iff_exists.mp h
  obtain ⟨hleave, secret, hsecret, hdata⟩ := resolveCertificateRef_eq_some_iff.mp hpem
  have hsome : ((s.secrets.get? (ref.namespace.getD ns, ref.name)).bind secretPem).isSome =
      true := by
    rw [show s.secrets.get? (ref.namespace.getD ns, ref.name) = some secret from hsecret,
      Option.bind_some, hdata]
    rfl
  obtain ⟨pem', hpem'⟩ := Option.isSome_iff_exists.mp (hsecrets _ hsome)
  obtain ⟨secret', hsecret', hdata'⟩ := Option.bind_eq_some_iff.mp hpem'
  exact Option.isSome_iff_exists.mpr ⟨pem', resolveCertificateRef_eq_some_iff.mpr
    ⟨hleave.imp_right (hallowed _), secret', hsecret', hdata'⟩⟩

/-- Where references only begin or only cease to resolve, the certificates of a
listener tell each of them. -/
theorem resolvedCertificates_eq_iff {listener : GatewayListeners}
    (hmono : (∀ ref, (resolveCertificateRef ns s ref).isSome = true →
        (resolveCertificateRef ns t ref).isSome = true) ∨
      ∀ ref, (resolveCertificateRef ns t ref).isSome = true →
        (resolveCertificateRef ns s ref).isSome = true) :
    resolvedCertificates s ns listener = resolvedCertificates t ns listener ↔
      ∀ ref ∈ certificateRefsOf listener,
        resolveCertificateRef ns s ref = resolveCertificateRef ns t ref := by
  unfold resolvedCertificates
  rcases hmono with hst | hts
  · exact filterMap_eq_iff_of_isSome fun ref _ => hst ref
  · rw [eq_comm, filterMap_eq_iff_of_isSome fun ref _ => hts ref]
    exact forall₂_congr fun ref _ => eq_comm

theorem routeDocument_key {a b : HTTPRoute}
    (h : routeDocument gateway a = routeDocument gateway b) : objectKey a = objectKey b := by
  unfold routeDocument RouteConfig.toJson at h
  simp only [Json.obj.injEq, List.cons.injEq, Prod.mk.injEq, Json.str.injEq, true_and] at h
  exact Prod.ext h.2.1 h.1

/-- A change of one route shows in the configuration of a Gateway only in how
that route is printed there. -/
theorem routeDocuments_change (cluster : Objects) (now : Time)
    (c : Store.Change (String × String) HTTPRoute) :
    routeDocuments (.full ((ClusterChange.httproute c).apply cluster) now) ns gateway =
        routeDocuments (.full cluster now) ns gateway ↔
      (c.new.filter (referencesGateway ns (nameAny gateway))).map (routeDocument gateway) =
        ((cluster.httproutes.get? (c.keyBy objectKey)).filter
          (referencesGateway ns (nameAny gateway))).map (routeDocument gateway) := by
  rw [eq_comm, eq_comm (a := Option.map _ _)]
  exact Store.map_filter_values_change cluster.httproutes c fun _ _ => routeDocument_key

/-- A change of one grant is one of leave to its namespace. -/
theorem isReferenceAllowed_change (cluster : Objects) (now : Time)
    (c : Store.Change (String × String) ReferenceGrant)
    {fromNs fromGroup fromKind toNs toGroup toKind : String}
    (h : (c.keyBy objectKey).1 ≠ toNs) :
    (WorldSnapshot.full ((ClusterChange.referenceGrant c).apply cluster) now).isReferenceAllowed
        fromNs fromGroup fromKind toNs toGroup toKind =
      (WorldSnapshot.full cluster now).isReferenceAllowed fromNs fromGroup fromKind toNs toGroup
        toKind := by
  refine Store.any_values_change cluster.referenceGrants fun grant hallows hkey => ?_
  unfold grantAllows at hallows
  simp only [Bool.and_eq_true, beq_iff_eq] at hallows
  refine h ?_
  rw [hkey]
  show (grant.metadata.namespace).getD "" = toNs
  rw [hallows.1.1]
  rfl

end

/-! ## Which changes are contained -/

section
variable (watchNamespace : Option String) (after before : WorldSnapshot)

/-- Each certificate reference of each Gateway that is printed resolves as
before. -/
def CertificatesKept : Prop :=
  ∀ target ns gateway, Prints watchNamespace after target ns gateway →
    ∀ listener ∈ gateway.spec.listeners, ∀ ref ∈ certificateRefsOf listener,
      resolveCertificateRef ns after ref = resolveCertificateRef ns before ref

/-- Each reference that gets to the listener policies may attach as before. -/
def PoliciesKept : Prop :=
  ∀ ns name route parentRef gateway, WatchedParent watchNamespace after ns name route parentRef →
    Resolves after parentRef ns gateway →
      classAccepted after gateway.spec.gatewayClassName = true →
        findMatchingListeners gateway parentRef.sectionName parentRef.port ≠ [] →
          mayAttach after ns parentRef gateway = mayAttach before ns parentRef gateway

/-- For each reference that gets to the backends, the first wrong one is wrong
as before. -/
def BackendsKept : Prop :=
  ∀ ns name route parentRef gateway, WatchedParent watchNamespace after ns name route parentRef →
    Resolves after parentRef ns gateway →
      classAccepted after gateway.spec.gatewayClassName = true →
        findMatchingListeners gateway parentRef.sectionName parentRef.port ≠ [] →
          mayAttach after ns parentRef gateway = true →
            firstBackendError after ns route = firstBackendError before ns route

/-- A watched Gateway is built, and has no addresses of its own. -/
structure AsksForAddress (ns name : String) (gateway : Gateway) : Prop where
  watched : watchesNamespace watchNamespace ns = true
  ready : readyGateway after ns name = some gateway
  unset : gateway.spec.addresses.getD [] = []

end

section
variable (watchNamespace : Option String) (cluster : Objects) (now : Time)

/-- The changes that make no result another one that they do not enqueue. -/
def Contained (change : ClusterChange) : Prop :=
  let before := WorldSnapshot.full cluster now
  let after := WorldSnapshot.full (change.apply cluster) now
  match change with
  -- its acceptance stays, or nobody watched depends on it
  | .gatewayClass c =>
    classAccepted after (c.keyBy nameAny) = classAccepted before (c.keyBy nameAny) ∨
      (∀ ns name gateway, watchesNamespace watchNamespace ns = true →
        after.getGateway ns name = some gateway →
          gateway.spec.gatewayClassName ≠ c.keyBy nameAny) ∧
      ∀ ns name route parentRef gateway,
        WatchedParent watchNamespace after ns name route parentRef →
          Resolves after parentRef ns gateway →
            gateway.spec.gatewayClassName ≠ c.keyBy nameAny
  -- only the HTTPRoute with its key refers to it
  | .gateway c =>
    (c.new.or (cluster.gateways.get? (c.keyBy objectKey))).isSome = true →
      ∀ ns name route parentRef, WatchedParent watchNamespace after ns name route parentRef →
        NamesKey parentRef ns (c.keyBy objectKey) → c.keyBy objectKey = (ns, name)
  -- whoever else prints it prints it as before
  | .httproute c =>
    ∀ target ns gateway, Prints watchNamespace after target ns gateway →
      target ≠ .httproute (c.keyBy objectKey).1 (c.keyBy objectKey).2 →
        (c.new.filter (referencesGateway ns (nameAny gateway))).map (routeDocument gateway) =
          ((cluster.httproutes.get? (c.keyBy objectKey)).filter
            (referencesGateway ns (nameAny gateway))).map (routeDocument gateway)
  -- a Gateway it belongs to by name alone gets the same addresses of it
  | .service c =>
    (∀ ns name gateway, AsksForAddress watchNamespace after ns name gateway →
      c.keyBy objectKey = (ns, DataPlaneNames.serviceName ⟨ns, name⟩) →
        (ns, name) ∉
            (ownedByGateways .service).enqueues (watchEvent .service cluster.services c) →
          c.new.bind (serviceAddresses before.getNodeInternalIp) =
            (cluster.services.get? (c.keyBy objectKey)).bind
              (serviceAddresses before.getNodeInternalIp)) ∧
      BackendsKept watchNamespace after before
  | .secret _ => CertificatesKept watchNamespace after before
  | .referenceGrant _ =>
    CertificatesKept watchNamespace after before ∧ PoliciesKept watchNamespace after before ∧
      BackendsKept watchNamespace after before
  -- the Service of a Gateway gives the same addresses next to the nodes
  | .node _ =>
    ∀ ns name gateway svc, AsksForAddress watchNamespace after ns name gateway →
      after.getService ns (DataPlaneNames.serviceName ⟨ns, name⟩) = some svc →
        serviceAddresses after.getNodeInternalIp svc = serviceAddresses before.getNodeInternalIp svc

end

section
variable {runtime : Runtime} {config : ControllerConfig} {watchNamespace : Option String}
  {cluster : Objects} {now : Time}

/-- Where Gateways and HTTPRoutes stay, it is enough to look at what tells the
results apart. -/
theorem triggersComplete_iff_covered {change : ClusterChange}
    (hgateways : (change.apply cluster).gateways = cluster.gateways)
    (hroutes : ∀ ns name route, watchesNamespace watchNamespace ns = true →
      (change.apply cluster).httproutes.get? (ns, name) = some route →
        ¬Enqueued runtime watchNamespace (change.event cluster) (.httproute ns name) →
          cluster.httproutes.get? (ns, name) = some route)
    (hchange : ∀ c, change ≠ .gateway c) :
    TriggersComplete runtime config watchNamespace cluster now change ↔
      ResultsCovered watchNamespace
        (fun target => ¬Enqueued runtime watchNamespace (change.event cluster) target)
        (.full (change.apply cluster) now) (.full cluster now) := by
  have hget : ∀ ns name, (WorldSnapshot.full (change.apply cluster) now).getGateway ns name =
      (WorldSnapshot.full cluster now).getGateway ns name :=
    fun ns name => congrArg (fun store => store.get? (ns, name)) hgateways
  refine Iff.trans ?_ (results_iff config rfl ?_ ?_ ?_)
  · exact ⟨fun h => h.results, fun h => ⟨h, fun c hc => absurd hc (hchange c)⟩⟩
  · intro ns name gateway _ hfound _
    rwa [← hget]
  · exact hroutes
  · intro ns name route parentRef _ _ gateway
    constructor
    · intro h
      exact ⟨h.group, h.kind, (hget _ _).symm.trans h.found⟩
    · intro h
      exact ⟨h.group, h.kind, (hget _ _).trans h.found⟩

theorem triggersComplete_gatewayClass (h : runtime.Documented)
    (c : Store.Change String GatewayClass) :
    TriggersComplete runtime config watchNamespace cluster now (.gatewayClass c) ↔
      Contained watchNamespace cluster now (.gatewayClass c) := by
  have hmissed : ∀ target, ¬Enqueued runtime watchNamespace
      ((ClusterChange.gatewayClass c).event cluster) target :=
    fun _ => not_enqueued_of_unwatched h nofun nofun nofun nofun nofun
  rw [triggersComplete_iff_covered rfl (fun _ _ _ _ hget _ => hget)
    fun _ h => by cases h]
  -- a class of another name is as before
  have hother : ∀ className, className ≠ c.keyBy nameAny →
      classAccepted (.full ((ClusterChange.gatewayClass c).apply cluster) now) className =
        classAccepted (.full cluster now) className := by
    intro className hne
    unfold classAccepted getAcceptedGatewayClass
    rw [show WorldSnapshot.getGatewayClass (.full ((ClusterChange.gatewayClass c).apply cluster)
      now) className = WorldSnapshot.getGatewayClass (.full cluster now) className from
        Store.get?_change_of_ne _ (Ne.symm hne)]
  constructor
  · intro hcovered
    by_cases hsame : classAccepted (.full ((ClusterChange.gatewayClass c).apply cluster) now)
        (c.keyBy nameAny) = classAccepted (.full cluster now) (c.keyBy nameAny)
    · exact .inl hsame
    · refine .inr ⟨?_, ?_⟩
      · intro ns name gateway hwatched hget hname
        exact hsame (hname ▸ hcovered.classes ns name gateway hwatched hget (hmissed _))
      · intro ns name route parentRef gateway hparent hresolved hname
        exact hsame (hname ▸ (hcovered.stages ns name route parentRef gateway hparent hresolved
          (hmissed _)).gatewayClass)
  · intro hcontained
    have hclass : ∀ gateway : Gateway,
        (gateway.spec.gatewayClassName = c.keyBy nameAny →
          classAccepted (.full ((ClusterChange.gatewayClass c).apply cluster) now)
            (c.keyBy nameAny) = classAccepted (.full cluster now) (c.keyBy nameAny)) →
          classAccepted (.full ((ClusterChange.gatewayClass c).apply cluster) now)
              gateway.spec.gatewayClassName =
            classAccepted (.full cluster now) gateway.spec.gatewayClassName := by
      intro gateway hkey
      by_cases hname : gateway.spec.gatewayClassName = c.keyBy nameAny
      · rw [hname]
        exact hkey hname
      · exact hother _ hname
    refine ⟨?_, ?_, ?_, ?_⟩
    · intro ns name gateway hwatched hget _
      exact hclass gateway fun hname => hcontained.elim id fun hnone =>
        absurd hname (hnone.1 ns name gateway hwatched hget)
    · exact fun _ _ _ _ _ _ => deriveGatewayAddresses_congr rfl rfl
    · exact fun _ _ _ _ _ => sameConfiguration_of_eq rfl rfl rfl
    · intro ns name route parentRef gateway hparent hresolved _
      refine ⟨?_, fun _ _ => mayAttach_congr rfl, fun _ _ _ => firstBackendError_congr rfl rfl⟩
      exact hclass gateway fun hname => hcontained.elim id fun hnone =>
        absurd hname (hnone.2 ns name route parentRef gateway hparent hresolved)

theorem triggersComplete_node (h : runtime.Documented) (c : Store.Change String Node) :
    TriggersComplete runtime config watchNamespace cluster now (.node c) ↔
      Contained watchNamespace cluster now (.node c) := by
  have hmissed : ∀ target, ¬Enqueued runtime watchNamespace
      ((ClusterChange.node c).event cluster) target :=
    fun _ => not_enqueued_of_unwatched h nofun nofun nofun nofun nofun
  rw [triggersComplete_iff_covered rfl (fun _ _ _ _ hget _ => hget)
    fun _ h => by cases h]
  constructor
  · intro hcovered ns name gateway svc hasks hservice
    have haddresses := deriveGatewayAddresses_eq_iff.mp
      (hcovered.addresses ns name gateway hasks.watched hasks.ready (hmissed _)) hasks.unset
    change (cluster.services.get? (ns, DataPlaneNames.serviceName ⟨ns, name⟩)).bind _ =
      (cluster.services.get? (ns, DataPlaneNames.serviceName ⟨ns, name⟩)).bind _ at haddresses
    change cluster.services.get? (ns, DataPlaneNames.serviceName ⟨ns, name⟩) = some svc at hservice
    rwa [hservice] at haddresses
  · intro hcontained
    refine ⟨?_, ?_, ?_, ?_⟩
    · exact fun _ _ _ _ _ _ => classAccepted_congr rfl
    · intro ns name gateway hwatched hready _
      refine deriveGatewayAddresses_eq_iff.mpr fun hunset => ?_
      exact Option.bind_congr fun svc hservice =>
        hcontained ns name gateway svc ⟨hwatched, hready, hunset⟩ hservice
    · exact fun _ _ _ _ _ => sameConfiguration_of_eq rfl rfl rfl
    · exact fun _ _ _ _ _ _ _ _ => ⟨classAccepted_congr rfl, fun _ _ => mayAttach_congr rfl,
        fun _ _ _ => firstBackendError_congr rfl rfl⟩

/-- Where references only begin or only cease to resolve, the configurations
tell the certificates. -/
theorem certificatesKept_iff (watchNamespace : Option String) {after before : WorldSnapshot}
    (hmono : ∀ ns, (∀ ref, (resolveCertificateRef ns after ref).isSome = true →
        (resolveCertificateRef ns before ref).isSome = true) ∨
      ∀ ref, (resolveCertificateRef ns before ref).isSome = true →
        (resolveCertificateRef ns after ref).isSome = true)
    (hroutes : after.httproutes = before.httproutes) :
    CertificatesKept watchNamespace after before ↔
      ∀ target ns gateway, Prints watchNamespace after target ns gateway →
        SameConfiguration after before ns gateway := by
  constructor
  · intro hkept target ns gateway hprints
    exact ⟨fun listener hl => (resolvedCertificates_eq_iff (hmono ns)).mpr
      (hkept target ns gateway hprints listener hl), routeDocuments_congr hroutes⟩
  · intro hsame target ns gateway hprints listener hl
    exact (resolvedCertificates_eq_iff (hmono ns)).mp
      ((hsame target ns gateway hprints).certificates listener hl)

/-- The references to a Secret that changes begin to resolve or cease to. -/
theorem resolves_mono_secret (cluster : Objects) (now : Time)
    (c : Store.Change (String × String) Secret) (ns : String) :
    (∀ ref, (resolveCertificateRef ns (.full ((ClusterChange.secret c).apply cluster) now)
        ref).isSome = true → (resolveCertificateRef ns (.full cluster now) ref).isSome = true) ∨
      ∀ ref, (resolveCertificateRef ns (.full cluster now) ref).isSome = true →
        (resolveCertificateRef ns (.full ((ClusterChange.secret c).apply cluster) now)
          ref).isSome = true := by
  by_cases hpem : (c.new.bind secretPem).isSome = true
  · refine .inr (isSome_resolveCertificateRef_mono (fun _ hallowed => hallowed)
      fun key hsome => ?_)
    show (((cluster.secrets.change c).get? key).bind secretPem).isSome = true
    by_cases hkey : c.keyBy objectKey = key
    · rw [← hkey, Store.get?_change_self]
      exact hpem
    · rw [Store.get?_change_of_ne _ hkey]
      exact hsome
  · refine .inl (isSome_resolveCertificateRef_mono (fun _ hallowed => hallowed)
      fun key hsome => ?_)
    change (((cluster.secrets.change c).get? key).bind secretPem).isSome = true at hsome
    by_cases hkey : c.keyBy objectKey = key
    · rw [← hkey, Store.get?_change_self] at hsome
      exact absurd hsome hpem
    · rwa [Store.get?_change_of_ne _ hkey] at hsome

/-- So do the references a grant gives leave for. -/
theorem resolves_mono_grant (cluster : Objects) (now : Time)
    (c : Store.Change (String × String) ReferenceGrant) (ns : String) :
    (∀ ref, (resolveCertificateRef ns (.full ((ClusterChange.referenceGrant c).apply cluster) now)
        ref).isSome = true → (resolveCertificateRef ns (.full cluster now) ref).isSome = true) ∨
      ∀ ref, (resolveCertificateRef ns (.full cluster now) ref).isSome = true →
        (resolveCertificateRef ns (.full ((ClusterChange.referenceGrant c).apply cluster) now)
          ref).isSome = true := by
  have hother : ∀ toNs, (c.keyBy objectKey).1 ≠ toNs →
      (WorldSnapshot.full ((ClusterChange.referenceGrant c).apply cluster)
          now).isSecretReferenceAllowed ns toNs =
        (WorldSnapshot.full cluster now).isSecretReferenceAllowed ns toNs :=
    fun _ hne => isReferenceAllowed_change cluster now c hne
  by_cases hleave : (WorldSnapshot.full ((ClusterChange.referenceGrant c).apply cluster)
      now).isSecretReferenceAllowed ns (c.keyBy objectKey).1 = true
  · refine .inr (isSome_resolveCertificateRef_mono (fun toNs hallowed => ?_) fun _ hsome => hsome)
    by_cases hns : (c.keyBy objectKey).1 = toNs
    · rw [← hns]
      exact hleave
    · rw [hother toNs hns]
      exact hallowed
  · refine .inl (isSome_resolveCertificateRef_mono (fun toNs hallowed => ?_) fun _ hsome => hsome)
    by_cases hns : (c.keyBy objectKey).1 = toNs
    · rw [← hns] at hallowed
      exact absurd hallowed hleave
    · rwa [hother toNs hns] at hallowed

theorem triggersComplete_secret (h : runtime.Documented)
    (c : Store.Change (String × String) Secret) :
    TriggersComplete runtime config watchNamespace cluster now (.secret c) ↔
      Contained watchNamespace cluster now (.secret c) := by
  have hmissed : ∀ target, ¬Enqueued runtime watchNamespace
      ((ClusterChange.secret c).event cluster) target :=
    fun _ => not_enqueued_of_unwatched h nofun nofun nofun nofun nofun
  have hcertificates := certificatesKept_iff watchNamespace
    (resolves_mono_secret cluster now c) rfl
  rw [triggersComplete_iff_covered rfl (fun _ _ _ _ hget _ => hget)
    fun _ h => by cases h]
  constructor
  · intro hcovered
    exact hcertificates.mpr fun target ns gateway hprints =>
      hcovered.configurations target ns gateway hprints (hmissed _)
  · intro hkept
    refine ⟨?_, ?_, ?_, ?_⟩
    · exact fun _ _ _ _ _ _ => classAccepted_congr rfl
    · exact fun _ _ _ _ _ _ => deriveGatewayAddresses_congr rfl rfl
    · exact fun target ns gateway hprints _ => hcertificates.mp hkept target ns gateway hprints
    · exact fun _ _ _ _ _ _ _ _ => ⟨classAccepted_congr rfl, fun _ _ => mayAttach_congr rfl,
        fun _ _ _ => firstBackendError_congr rfl rfl⟩

theorem triggersComplete_referenceGrant (h : runtime.Documented)
    (c : Store.Change (String × String) ReferenceGrant) :
    TriggersComplete runtime config watchNamespace cluster now (.referenceGrant c) ↔
      Contained watchNamespace cluster now (.referenceGrant c) := by
  have hmissed : ∀ target, ¬Enqueued runtime watchNamespace
      ((ClusterChange.referenceGrant c).event cluster) target :=
    fun _ => not_enqueued_of_unwatched h nofun nofun nofun nofun nofun
  have hcertificates := certificatesKept_iff watchNamespace
    (resolves_mono_grant cluster now c) rfl
  rw [triggersComplete_iff_covered rfl (fun _ _ _ _ hget _ => hget)
    fun _ h => by cases h]
  constructor
  · intro hcovered
    refine ⟨hcertificates.mpr fun target ns gateway hprints =>
      hcovered.configurations target ns gateway hprints (hmissed _), ?_, ?_⟩
    · intro ns name route parentRef gateway hparent hresolved
      exact (hcovered.stages ns name route parentRef gateway hparent hresolved (hmissed _)).policy
    · intro ns name route parentRef gateway hparent hresolved
      exact (hcovered.stages ns name route parentRef gateway hparent hresolved (hmissed _)).backends
  · intro hcontained
    obtain ⟨hkept, hpolicies, hbackends⟩ := hcontained
    refine ⟨?_, ?_, ?_, ?_⟩
    · exact fun _ _ _ _ _ _ => classAccepted_congr rfl
    · exact fun _ _ _ _ _ _ => deriveGatewayAddresses_congr rfl rfl
    · exact fun target ns gateway hprints _ => hcertificates.mp hkept target ns gateway hprints
    · exact fun ns name route parentRef gateway hparent hresolved _ =>
        ⟨classAccepted_congr rfl, hpolicies ns name route parentRef gateway hparent hresolved,
          hbackends ns name route parentRef gateway hparent hresolved⟩

theorem triggersComplete_service (h : runtime.Documented)
    (c : Store.Change (String × String) Service) :
    TriggersComplete runtime config watchNamespace cluster now (.service c) ↔
      Contained watchNamespace cluster now (.service c) := by
  have hroute : ∀ ns name, ¬Enqueued runtime watchNamespace
      ((ClusterChange.service c).event cluster) (.httproute ns name) := by
    intro ns name
    refine not_enqueued h ?_
    simp [declarationsFor, runHttprouteController, Declaration.kind, ClusterChange.event,
      watchEvent]
  rw [triggersComplete_iff_covered rfl (fun _ _ _ _ hget _ => hget)
    fun _ h => by cases h]
  constructor
  · intro hcovered
    refine ⟨?_, ?_⟩
    · intro ns name gateway hasks hkey howner
      have haddresses := deriveGatewayAddresses_eq_iff.mp
        (hcovered.addresses ns name gateway hasks.watched hasks.ready
          (mt (enqueued_gateway_of_service h).mp howner)) hasks.unset
      change ((cluster.services.change c).get? (ns, DataPlaneNames.serviceName ⟨ns, name⟩)).bind
        _ = (cluster.services.get? (ns, DataPlaneNames.serviceName ⟨ns, name⟩)).bind _
        at haddresses
      rw [← hkey, Store.get?_change_self] at haddresses
      exact haddresses
    · intro ns name route parentRef gateway hparent hresolved
      exact (hcovered.stages ns name route parentRef gateway hparent hresolved
        (hroute ns name)).backends
  · intro hcontained
    obtain ⟨haddresses, hbackends⟩ := hcontained
    refine ⟨?_, ?_, ?_, ?_⟩
    · exact fun _ _ _ _ _ _ => classAccepted_congr rfl
    · intro ns name gateway hwatched hready hmissed
      refine deriveGatewayAddresses_eq_iff.mpr fun hunset => ?_
      show ((cluster.services.change c).get? (ns, DataPlaneNames.serviceName ⟨ns, name⟩)).bind
        _ = (cluster.services.get? (ns, DataPlaneNames.serviceName ⟨ns, name⟩)).bind _
      by_cases hkey : c.keyBy objectKey = (ns, DataPlaneNames.serviceName ⟨ns, name⟩)
      · have hsame := haddresses ns name gateway ⟨hwatched, hready, hunset⟩ hkey
          (mt (enqueued_gateway_of_service h).mpr hmissed)
        rw [← hkey, Store.get?_change_self]
        exact hsame
      · rw [Store.get?_change_of_ne _ hkey]
        rfl
    · exact fun _ _ _ _ _ => sameConfiguration_of_eq rfl rfl rfl
    · exact fun ns name route parentRef gateway hparent hresolved _ =>
        ⟨classAccepted_congr rfl, fun _ _ => mayAttach_congr rfl,
          hbackends ns name route parentRef gateway hparent hresolved⟩

theorem triggersComplete_httproute (h : runtime.Documented)
    (c : Store.Change (String × String) HTTPRoute) :
    TriggersComplete runtime config watchNamespace cluster now (.httproute c) ↔
      Contained watchNamespace cluster now (.httproute c) := by
  have hgateway : ∀ ns name, ¬Enqueued runtime watchNamespace
      ((ClusterChange.httproute c).event cluster) (.gateway ns name) := by
    intro ns name
    refine not_enqueued h ?_
    simp [declarationsFor, runGatewayController, ownedByGateways, Declaration.kind,
      ClusterChange.event, watchEvent]
  -- the changed route is enqueued, if it is still to be reconciled
  have hself : ∀ ns name route, watchesNamespace watchNamespace ns = true →
      (cluster.httproutes.change c).get? (ns, name) = some route →
        (Enqueued runtime watchNamespace ((ClusterChange.httproute c).event cluster)
          (.httproute ns name) ↔ c.keyBy objectKey = (ns, name)) := by
    intro ns name route hwatched hget
    rw [enqueued_httproute_of_httproute h]
    constructor
    · intro henqueued
      obtain ⟨-, route', hnew, hkey⟩ := henqueued
      rw [← hkey]
      exact (key_of_touched (s := cluster.httproutes) (c := c) (by rw [hnew]; rfl)).symm
    · intro hkey
      rw [← hkey, Store.get?_change_self] at hget
      refine ⟨hwatched, route, hget, ?_⟩
      rw [← hkey]
      exact key_of_touched (s := cluster.httproutes) (c := c) (by rw [hget]; rfl)
  have hmissed : ∀ target ns gateway,
      Prints watchNamespace (.full ((ClusterChange.httproute c).apply cluster) now) target ns
          gateway →
        (¬Enqueued runtime watchNamespace ((ClusterChange.httproute c).event cluster) target ↔
          target ≠ .httproute (c.keyBy objectKey).1 (c.keyBy objectKey).2) := by
    intro target ns gateway hprints
    cases hprints with
    | gateway hwatched hready => exact iff_of_true (hgateway _ _) nofun
    | httproute hparent haccepts =>
      rw [hself _ _ _ hparent.watched hparent.found, eq_comm (a := c.keyBy objectKey), Ne,
        Target.httproute.injEq, Prod.ext_iff]
  rw [triggersComplete_iff_covered rfl ?_ fun _ h => by cases h]
  · constructor
    · intro hcovered target ns gateway hprints hne
      exact (routeDocuments_change cluster now c).mp
        (hcovered.configurations target ns gateway hprints
          ((hmissed target ns gateway hprints).mpr hne)).routes
    · intro hcontained
      refine ⟨?_, ?_, ?_, ?_⟩
      · exact fun _ _ _ _ _ _ => classAccepted_congr rfl
      · exact fun _ _ _ _ _ _ => deriveGatewayAddresses_congr rfl rfl
      · intro target ns gateway hprints hother
        exact ⟨fun _ _ => resolvedCertificates_congr rfl rfl,
          (routeDocuments_change cluster now c).mpr (hcontained target ns gateway hprints
            ((hmissed target ns gateway hprints).mp hother))⟩
      · exact fun _ _ _ _ _ _ _ _ => ⟨classAccepted_congr rfl, fun _ _ => mayAttach_congr rfl,
          fun _ _ _ => firstBackendError_congr rfl rfl⟩
  · intro ns name route hwatched hget hother
    change (cluster.httproutes.change c).get? (ns, name) = some route at hget
    rwa [Store.get?_change_of_ne _ (mt (hself ns name route hwatched hget).mpr hother)] at hget

theorem triggersComplete_gateway (h : runtime.Documented)
    (c : Store.Change (String × String) Gateway) :
    TriggersComplete runtime config watchNamespace cluster now (.gateway c) ↔
      Contained watchNamespace cluster now (.gateway c) := by
  constructor
  · intro hcomplete htouched ns name route parentRef hparent hnames
    exact ((enqueued_httproute_of_gateway h).mp
      (hcomplete.parents c rfl htouched ns name route parentRef hparent hnames)).2
  · intro hcontained
    refine ⟨?_, ?_⟩
    · refine (results_iff config ?_ ?_ ?_ ?_).mpr ⟨?_, ?_, ?_, ?_⟩
      · rfl
      · intro ns name gateway hwatched hget hother
        change (cluster.gateways.change c).get? (ns, name) = some gateway at hget
        by_cases hkey : c.keyBy objectKey = (ns, name)
        · rw [← hkey, Store.get?_change_self] at hget
          refine absurd ((enqueued_gateway_of_gateway h).mpr ⟨hwatched, gateway, hget, ?_⟩) hother
          rw [← hkey]
          exact key_of_touched (s := cluster.gateways) (c := c) (by rw [hget]; rfl)
        · rwa [Store.get?_change_of_ne _ hkey] at hget
      · exact fun _ _ _ _ hget _ => hget
      · intro ns name route parentRef hparent hother
        -- a Gateway that is named and has changed enqueues the route
        have hget : parentRef.group.getD "gateway.networking.k8s.io" = "gateway.networking.k8s.io" →
            parentRef.kind.getD "Gateway" = "Gateway" →
              (cluster.gateways.change c).get? (parentRef.namespace.getD ns, parentRef.name) =
                cluster.gateways.get? (parentRef.namespace.getD ns, parentRef.name) := by
          intro hgroup hkind
          by_cases hkey : c.keyBy objectKey = (parentRef.namespace.getD ns, parentRef.name)
          · by_cases htouched : (c.new.or (cluster.gateways.get? (c.keyBy objectKey))).isSome = true
            · have hname := hcontained htouched ns name route parentRef hparent
                ⟨hgroup, hkind, hkey.symm⟩
              exact absurd ((enqueued_httproute_of_gateway h).mpr ⟨htouched, hname⟩) hother
            · obtain ⟨hnew, hold⟩ := Option.or_eq_none_iff.mp
                (Option.not_isSome_iff_eq_none.mp htouched)
              rw [← hkey, Store.get?_change_self, hnew, hold]
          · exact Store.get?_change_of_ne _ hkey
        intro gateway
        constructor
        · intro hresolved
          exact ⟨hresolved.group, hresolved.kind,
            (hget hresolved.group hresolved.kind).symm.trans hresolved.found⟩
        · intro hresolved
          exact ⟨hresolved.group, hresolved.kind,
            (hget hresolved.group hresolved.kind).trans hresolved.found⟩
      · exact fun _ _ _ _ _ _ => classAccepted_congr rfl
      · exact fun _ _ _ _ _ _ => deriveGatewayAddresses_congr rfl rfl
      · exact fun _ _ _ _ _ => sameConfiguration_of_eq rfl rfl rfl
      · exact fun _ _ _ _ _ _ _ _ => ⟨classAccepted_congr rfl, fun _ _ => mayAttach_congr rfl,
          fun _ _ _ => firstBackendError_congr rfl rfl⟩
    · intro c' hc htouched ns name route parentRef hparent hnames
      obtain rfl := ClusterChange.gateway.inj hc
      exact (enqueued_httproute_of_gateway h).mpr
        ⟨htouched, hcontained htouched ns name route parentRef hparent hnames⟩

end

/-- **When the triggers are complete.** The declarations enqueue all that a
change of one object makes different exactly when the change is contained. -/
theorem triggersComplete_iff (runtime : Runtime) (h : runtime.Documented)
    (config : ControllerConfig) (watchNamespace : Option String) (cluster : Objects) (now : Time)
    (change : ClusterChange) :
    TriggersComplete runtime config watchNamespace cluster now change ↔
      Contained watchNamespace cluster now change := by
  cases change with
  | gatewayClass c => exact triggersComplete_gatewayClass h c
  | gateway c => exact triggersComplete_gateway h c
  | httproute c => exact triggersComplete_httproute h c
  | service c => exact triggersComplete_service h c
  | secret c => exact triggersComplete_secret h c
  | referenceGrant c => exact triggersComplete_referenceGrant h c
  | node c => exact triggersComplete_node h c

/-- The Gateway `default/gw` with the route `default/<name>`. -/
def clusterWithRoute (name : String) : Objects :=
  clusterWith [httpListener "http" 80] [routeNamed name none []]

/-- A route of the Gateway's name is enqueued when the Gateway changes. -/
theorem triggersComplete_namesake :
    TriggersComplete documentedRuntime {} none (clusterWithRoute "gw") 0
      (.gateway (.put (gatewayWith [httpListener "http" 8080]))) := by
  refine (triggersComplete_iff documentedRuntime documented_documentedRuntime _ _ _ _ _).mpr ?_
  intro _ ns name route parentRef hparent _
  have hroute := hparent.found
  change ((∅ : Namespaced HTTPRoute).insert (routeNamed "gw" none [])).get? (ns, name) = some route
    at hroute
  by_contra hkey
  have hother : objectKey (routeNamed "gw" none []) ≠ (ns, name) := hkey
  rw [Store.get?_insert_of_ne _ hother, Store.get?_empty] at hroute
  cases hroute

/-- The Gateway is deleted, and the route that it had accepted is not
reconciled. -/
theorem gateway_delete_missed :
    ¬ ∀ runtime : Runtime, runtime.Documented → ∀ (config : ControllerConfig)
      (watchNamespace : Option String) (cluster : Objects) (now : Time) (change : ClusterChange),
        TriggersComplete runtime config watchNamespace cluster now change := by
  intro hall
  have hcomplete := hall documentedRuntime documented_documentedRuntime {} none
    (clusterWithRoute "a") 0 (.gateway (.delete ("default", "gw")))
  -- its ConfigMap is computed no longer
  have hchanged : computed {} (.full (clusterWithRoute "a") 0) (.httproute "default" "a") ≠
      computed {} (.full ((ClusterChange.gateway (.delete ("default", "gw"))).apply
        (clusterWithRoute "a")) 0) (.httproute "default" "a") := by
    intro hsame
    exact absurd (congrArg (fun result => result.2.length) hsame) (by decide)
  have henqueued := hcomplete.results (.httproute "default" "a") ⟨rfl, rfl⟩ hchanged
  have hname := ((enqueued_httproute_of_gateway documented_documentedRuntime).mp henqueued).2
  exact absurd hname (by decide)

end Multiway.ControlPlane
