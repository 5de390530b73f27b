import Multiway.ControlPlane.Convert
import Multiway.ControlPlane.Result
import Multiway.ControlPlane.Validate

/-!
# Reconciliation (`core/reconcile.rs`)

Pure functions from a snapshot to the effects to perform. `reconcileGateway`
validates a Gateway and builds everything its data plane needs;
`reconcileHttproute` validates each parent reference of a route and rebuilds
the configuration of every Gateway that accepts it, through the same
`buildGatewayConfig`.
-/

namespace Multiway.ControlPlane

open Multiway.Lib
open Multiway.Lib.Text
open Multiway.Kube

structure ResourceConfig where
  cpu : String
  memory : String
deriving DecidableEq

/-- The settings of the controller the reconcilers read. -/
structure ControllerConfig where
  dataplaneImage : String := "ghcr.io/wack/multiway-dataplane:latest"
  imagePullPolicy : String := "IfNotPresent"
  defaultReplicas : ℤ := 1
  resourceRequests : ResourceConfig := ⟨"100m", "128Mi"⟩
  resourceLimits : ResourceConfig := ⟨"500m", "256Mi"⟩
  requeueAfterSecs : ℕ := 300
deriving DecidableEq

def statusText (b : Bool) : String := if b then "True" else "False"

/-! ## GatewayClass reconciliation -/

def buildGatewayClassStatus (now : Time) (generation : Option ℤ)
    (validation : GatewayClassValidation) : GatewayClassStatus where
  conditions := some
    [{ type := "Accepted", status := statusText validation.accepted
       observedGeneration := generation, lastTransitionTime := now
       reason := validation.reason, message := validation.message }]

def reconcileGatewayClass (snapshot : WorldSnapshot) (config : ControllerConfig)
    (gatewayClassName : String) : ReconcileResult :=
  match snapshot.getGatewayClass gatewayClassName with
  | none => {}
  | some gatewayClass =>
    if !isOurGatewayClass gatewayClass then ({} : ReconcileResult).withRequeue 3600
    else
      let validation := validateGatewayClass gatewayClass
      let status :=
        buildGatewayClassStatus snapshot.now gatewayClass.metadata.generation validation
      let result := ({} : ReconcileResult).updateStatus (.gatewayClass gatewayClassName status)
      let result :=
        if validation.accepted then result.emitNormal "Accepted" "GatewayClass accepted"
        else result.emitWarning "NotAccepted" validation.message
      result.withRequeue config.requeueAfterSecs

/-! ## Gateway status -/

def supportedKinds (l : GatewayListeners) : List GatewayStatusListenersSupportedKinds :=
  match toUppercase l.protocol with
  | "HTTP" => [{ group := some "gateway.networking.k8s.io", kind := "HTTPRoute" }]
  | "HTTPS" => [{ group := some "gateway.networking.k8s.io", kind := "HTTPRoute" }]
  | _ => []

/-- The status of a Gateway and of all its listeners with one verdict. -/
def buildGatewayStatusWithRoutes (now : Time) (gateway : Gateway) (accepted : Bool)
    (reason message : String) (addresses : Option (List GatewayAddresses))
    (attachedRoutes : ℤ) : GatewayStatus :=
  let condition (type reason message : String) : Condition :=
    { type, status := statusText accepted, observedGeneration := gateway.metadata.generation
      lastTransitionTime := now, reason, message }
  { addresses
    conditions := some
      [condition "Accepted" reason message,
        condition "Programmed" (if accepted then "Programmed" else "Invalid")
          (if accepted then "Data plane is programmed" else message)]
    listeners := some (gateway.spec.listeners.map fun l =>
      { name := l.name
        attachedRoutes
        supportedKinds := supportedKinds l
        conditions :=
          [condition "Accepted" reason message,
            condition "ResolvedRefs" (if accepted then "ResolvedRefs" else reason)
              (if accepted then "All references resolved" else message),
            condition "Programmed" (if accepted then "Programmed" else "Invalid")
              (if accepted then "Listener is programmed" else message)] }) }

def buildGatewayStatus (now : Time) (gateway : Gateway) (accepted : Bool)
    (reason message : String) (addresses : Option (List GatewayAddresses)) : GatewayStatus :=
  buildGatewayStatusWithRoutes now gateway accepted reason message addresses 0

/-- The addresses of a load balancer's ingress entries. -/
def ingressAddresses (ingress : List LoadBalancerIngress) : List GatewayAddresses :=
  ingress.filterMap fun entry =>
    match entry.ip with
    | some ip => some { type := some "IPAddress", value := ip }
    | none => entry.hostname.map fun hostname => { type := some "Hostname", value := hostname }

/-- Derive Gateway addresses from cluster state: the addresses of the spec,
else, once the data plane Service exists, its load balancer, else a node, else
its ClusterIP. -/
def deriveGatewayAddresses (snapshot : WorldSnapshot) (gateway : Gateway)
    (names : DataPlaneNames) : Option (List GatewayAddresses) × Bool :=
  match gateway.spec.addresses with
  | some (a :: as) => (some (a :: as), true)
  | _ =>
    match snapshot.getService names.namespace names.serviceName with
    | none => (none, false)
    | some svc =>
      let ingress := ((svc.status.bind ServiceStatus.loadBalancer).bind
        LoadBalancerStatus.ingress).getD []
      match ingressAddresses ingress with
      | a :: as => (some (a :: as), true)
      | [] =>
        match snapshot.getNodeInternalIp with
        | some ip => (some [{ type := some "IPAddress", value := ip }], true)
        | none =>
          match (svc.spec.bind ServiceSpec.clusterIp).filter
              fun ip => ip != "" && ip != "None" with
          | some ip => (some [{ type := some "IPAddress", value := ip }], true)
          | none => (none, false)

/-- The status of a Gateway that is accepted; whether it is programmed depends
on an address, whether a listener's references resolve on its certificates. -/
def buildGatewayStatusAccepted (now : Time) (gateway : Gateway) (programmed : Bool)
    (programmedReason programmedMessage : String) (addresses : Option (List GatewayAddresses))
    (attachedRoutes : ℤ) (listenerRefsResolved : BTreeMap Bool) : GatewayStatus :=
  let condition (type : String) (status : Bool) (reason message : String) : Condition :=
    { type, status := statusText status, observedGeneration := gateway.metadata.generation
      lastTransitionTime := now, reason, message }
  { addresses
    conditions := some
      [condition "Accepted" true "Accepted" "Gateway is accepted",
        condition "Programmed" programmed programmedReason programmedMessage]
    listeners := some (gateway.spec.listeners.map fun l =>
      { name := l.name
        attachedRoutes
        supportedKinds := supportedKinds l
        conditions :=
          [condition "Accepted" true "Accepted" "Listener is accepted",
            if listenerRefsResolved[l.name]?.getD true then
              condition "ResolvedRefs" true "ResolvedRefs" "All references resolved"
            else
              condition "ResolvedRefs" false "InvalidCertificateRef"
                "One or more certificate references could not be resolved",
            condition "Programmed" programmed programmedReason
              (if programmed then "Listener is programmed" else programmedMessage)] }) }

/-! ## The data plane's configuration -/

/-- The PEM texts of a TLS Secret, if it holds both and they are UTF-8. -/
def secretPem (secret : Secret) : Option (String × String) :=
  match secret.data with
  | none => none
  | some data =>
    match data["tls.crt"]?.bind String.fromUTF8?, data["tls.key"]?.bind String.fromUTF8? with
    | some cert, some key => some (cert, key)
    | _, _ => none

/-- The certificate behind a reference; `none` when it does not resolve. -/
def resolveCertificateRef (gatewayNs : String) (snapshot : WorldSnapshot)
    (certRef : GatewayListenersTlsCertificateRefs) : Option (String × String) :=
  let secretNs := certRef.namespace.getD gatewayNs
  -- whether the Secret is there is not asked before the grant
  if secretNs ≠ gatewayNs ∧ !snapshot.isSecretReferenceAllowed gatewayNs secretNs then none
  else (snapshot.getSecret secretNs certRef.name).bind secretPem

/-- Resolve TLS configuration for a single listener, and whether every
certificate reference resolved. -/
def resolveListenerTls (listener : GatewayListeners) (gatewayNs : String)
    (snapshot : WorldSnapshot) : Option TlsConfig × Bool :=
  match listener.tls with
  | none => (none, true)
  | some tlsSpec =>
    let certRefs := tlsSpec.certificateRefs.getD []
    (some
      { mode :=
          match tlsSpec.mode with
          | some .passthrough => .passthrough
          | _ => .terminate
        certificates := certRefs.map fun certRef =>
          { «namespace» := certRef.namespace.getD gatewayNs, name := certRef.name }
        inlineCertificates := (certRefs.filterMap (resolveCertificateRef gatewayNs snapshot)).map
          fun (certPem, keyPem) => { certPem, keyPem, hostnames := listener.hostname.toList } },
      certRefs.all fun certRef => (resolveCertificateRef gatewayNs snapshot certRef).isSome)

def buildListenerConfig (gatewayNs : String) (snapshot : WorldSnapshot)
    (listener : GatewayListeners) : ListenerConfig where
  name := listener.name
  port := UInt16.ofInt listener.port
  protocol := (Protocol.fromStr listener.protocol).getD .http
  hostname := listener.hostname
  tls := (resolveListenerTls listener gatewayNs snapshot).1

/-- Build GatewayConfig for the data plane. -/
def buildGatewayConfig (gateway : Gateway) (ns : String) (snapshot : WorldSnapshot) :
    GatewayConfig × BTreeMap Bool :=
  let listenerRefsResolved := gateway.spec.listeners.foldl (fun resolved listener =>
    resolved.insert listener.name (resolveListenerTls listener ns snapshot).2) ∅
  ({ gateway := { «namespace» := ns, name := nameAny gateway }
     listeners := gateway.spec.listeners.map (buildListenerConfig ns snapshot)
     -- by name alone, and at every listener
     routes := (snapshot.routesForGateway ns (nameAny gateway)).map fun route =>
       convertHttprouteToConfig route (gateway.spec.listeners.map GatewayListeners.name) },
    listenerRefsResolved)

/-! ## The data plane's resources -/

/-- Create an owner reference for a Gateway. -/
def ownerReference (gateway : Gateway) : OwnerReference where
  apiVersion := "gateway.networking.k8s.io/v1"
  kind := "Gateway"
  name := nameAny gateway
  uid := gateway.metadata.uid.getD ""
  controller := some true
  blockOwnerDeletion := some true

/-- The metadata all resources of a data plane share. -/
def dataPlaneMetadata (names : DataPlaneNames) (gateway : Gateway) (name : String) :
    ObjectMeta where
  name := some name
  «namespace» := some names.namespace
  labels := some names.labels
  ownerReferences := some [ownerReference gateway]

def buildConfigmap (names : DataPlaneNames) (config : GatewayConfig) (gateway : Gateway) :
    ConfigMap where
  metadata := dataPlaneMetadata names gateway names.configmapName
  data := some ((∅ : BTreeMap Json).insert configKey config.toJson)

def buildServiceaccount (names : DataPlaneNames) (gateway : Gateway) : ServiceAccount where
  metadata := dataPlaneMetadata names gateway names.serviceaccountName

/-- The data plane may read its own ConfigMap only. -/
def buildRole (names : DataPlaneNames) (gateway : Gateway) : Role where
  metadata := dataPlaneMetadata names gateway names.roleName
  rules := some
    [{ apiGroups := some [""]
       resources := some ["configmaps"]
       verbs := ["get", "list", "watch"]
       resourceNames := some [names.configmapName] }]

def buildRolebinding (names : DataPlaneNames) (gateway : Gateway) : RoleBinding where
  metadata := dataPlaneMetadata names gateway names.rolebindingName
  roleRef :=
    { apiGroup := "rbac.authorization.k8s.io", kind := "Role", name := names.roleName }
  subjects := some
    [{ kind := "ServiceAccount", name := names.serviceaccountName
       «namespace» := some names.namespace }]

def maxPortNameLength : ℕ := 15

/-- Lowercase hexadecimal digits. -/
def hexDigits (n : ℕ) : String := String.ofList (Nat.toDigits 16 n)

/-- Sanitize a listener name to be a valid Kubernetes port name: a long name is
cut and gets a hash of the whole as suffix. -/
def sanitizePortName (name : String) : String :=
  if name.utf8ByteSize ≤ maxPortNameLength then name
  else
    let hash := name.toUTF8.toList.foldl (fun (acc : UInt32) b => acc * 31 + b.toUInt32) 0
    let hashSuffix := hexDigits (hash &&& 0xFFFF).toNat
    let truncateLen := maxPortNameLength - 1 - hashSuffix.utf8ByteSize
    let truncated := (name.toList.take truncateLen).reverse.dropWhile (· == '-')
    String.ofList truncated.reverse ++ "-" ++ hashSuffix

/-- One entry for each distinct listener port, in port order: that of the
first listener with the port. -/
def portEntries {α : Type} (listeners : List GatewayListeners) (entry : GatewayListeners → α) :
    List α :=
  ((listeners.foldl (fun (ports : Std.ExtTreeMap ℤ α) listener =>
    ports.insertIfNew listener.port (entry listener)) ∅).toList).map Prod.snd

def buildService (names : DataPlaneNames) (gateway : Gateway) : Service where
  metadata := dataPlaneMetadata names gateway names.serviceName
  spec := some
    { selector := some names.selectorLabels
      ports := some (portEntries gateway.spec.listeners fun listener =>
        { name := some (sanitizePortName listener.name), port := listener.port
          targetPort := some listener.port, protocol := some "TCP" })
      type := some "ClusterIP" }

def resourceQuantities (r : ResourceConfig) : BTreeMap String :=
  ((∅ : BTreeMap String).insert "cpu" r.cpu).insert "memory" r.memory

def buildDeployment (names : DataPlaneNames) (gateway : Gateway) (config : ControllerConfig) :
    Deployment where
  metadata := dataPlaneMetadata names gateway names.deploymentName
  spec := some
    { replicas := some config.defaultReplicas
      selector := { matchLabels := some names.selectorLabels }
      template :=
        { metadata := some { labels := some names.labels }
          spec := some
            { serviceAccountName := some names.serviceaccountName
              containers :=
                [{ name := "dataplane"
                   image := some config.dataplaneImage
                   imagePullPolicy := some config.imagePullPolicy
                   ports := some (portEntries gateway.spec.listeners fun listener =>
                     { name := some (sanitizePortName listener.name)
                       containerPort := listener.port, hostPort := some listener.port
                       protocol := some "TCP" })
                   env := some
                     [{ name := "GATEWAY_NAME", value := some (nameAny gateway) },
                       { name := "GATEWAY_NAMESPACE", value := some names.namespace }]
                   resources := some
                     { requests := some (resourceQuantities config.resourceRequests)
                       limits := some (resourceQuantities config.resourceLimits) } }] } } }

/-! ## Gateway reconciliation -/

/-- The resources of a Gateway's data plane, in the order they are applied. -/
def dataPlaneUpserts (names : DataPlaneNames) (gateway : Gateway) (config : ControllerConfig)
    (gatewayConfig : GatewayConfig) : List ResourceUpsert :=
  [.configMap (buildConfigmap names gatewayConfig gateway),
    .serviceAccount (buildServiceaccount names gateway),
    .role (buildRole names gateway),
    .roleBinding (buildRolebinding names gateway),
    .service (buildService names gateway),
    .deployment (buildDeployment names gateway config)]

/-- The result for a Gateway that is not accepted. -/
def invalidGatewayResult (snapshot : WorldSnapshot) (gateway : Gateway)
    (gatewayNs gatewayName reason message eventReason eventMessage : String) : ReconcileResult :=
  let status := buildGatewayStatus snapshot.now gateway false reason message none
  (({} : ReconcileResult).updateStatus (.gateway gatewayNs gatewayName status)
    |>.emitWarning eventReason eventMessage).withRequeue 30

/-- Steps 4 to 6: the status of a Gateway whose resources are built. -/
def builtGatewayStatus (snapshot : WorldSnapshot) (gateway : Gateway)
    (gatewayNs gatewayName : String) : GatewayStatus :=
  let derived := deriveGatewayAddresses snapshot gateway ⟨gatewayNs, gatewayName⟩
  -- `len() as i32`
  let attachedRoutes : ℤ :=
    Int.bmod (snapshot.routesForGateway gatewayNs gatewayName).length (2 ^ 32)
  buildGatewayStatusAccepted snapshot.now gateway derived.2
    (if derived.2 then "Programmed" else "AddressNotAssigned")
    (if derived.2 then "Data plane is programmed"
      else "No address has been assigned to the Gateway")
    derived.1 attachedRoutes (buildGatewayConfig gateway gatewayNs snapshot).2

def reconcileGateway (snapshot : WorldSnapshot) (config : ControllerConfig)
    (gatewayNs gatewayName : String) : ReconcileResult :=
  match snapshot.getGateway gatewayNs gatewayName with
  | none => {}
  | some gateway =>
    if (getAcceptedGatewayClass snapshot gateway.spec.gatewayClassName).isNone then
      invalidGatewayResult snapshot gateway gatewayNs gatewayName "Invalid"
        "GatewayClass not found or not accepted by this controller"
        "InvalidGatewayClass" "GatewayClass not accepted"
    else if !(validateListeners gateway.spec.listeners).allValid then
      invalidGatewayResult snapshot gateway gatewayNs gatewayName "ListenersNotValid"
        "One or more listeners have invalid configuration"
        "InvalidListeners" "Listener validation failed"
    else
      let gatewayConfig := (buildGatewayConfig gateway gatewayNs snapshot).1
      (({ upserts := dataPlaneUpserts ⟨gatewayNs, gatewayName⟩ gateway config gatewayConfig } :
          ReconcileResult)
        |>.updateStatus (.gateway gatewayNs gatewayName
          (builtGatewayStatus snapshot gateway gatewayNs gatewayName))
        |>.emitNormal "Reconciled" "Gateway reconciled successfully").withRequeue
        config.requeueAfterSecs

/-! ## HTTPRoute reconciliation -/

def buildParentStatus (now : Time) (validation : ParentRefValidation) (generation : Option ℤ) :
    HttpRouteStatusParents where
  controllerName := controllerName
  parentRef := validation.parentRef
  conditions := some
    [{ type := "Accepted", status := statusText validation.accepted
       observedGeneration := generation, lastTransitionTime := now
       reason := validation.reason, message := validation.message },
      { type := "ResolvedRefs", status := statusText validation.accepted
        observedGeneration := generation, lastTransitionTime := now
        reason := if validation.accepted then "ResolvedRefs" else validation.reason
        message := validation.message }]

/-- The ConfigMap of the Gateway a parent reference resolves to, when the
route is accepted there. -/
def parentConfigmap (snapshot : WorldSnapshot) (httproute : HTTPRoute) (routeNs : String)
    (parentRef : HttpRouteParentRefs) : Option ConfigMap :=
  if (validateParentRef snapshot httproute parentRef routeNs).accepted then
    let parentNamespace := parentRef.namespace.getD routeNs
    -- the listeners of this Gateway are not validated here
    (snapshot.getGateway parentNamespace parentRef.name).map fun gateway =>
      buildConfigmap ⟨parentNamespace, parentRef.name⟩
        (buildGatewayConfig gateway parentNamespace snapshot).1 gateway
  else none

def reconcileHttproute (snapshot : WorldSnapshot) (config : ControllerConfig)
    (routeNs routeName : String) : ReconcileResult :=
  match snapshot.getHttproute routeNs routeName with
  | none => {}
  | some httproute =>
    match httproute.spec.parentRefs.getD [] with
    | [] => ({} : ReconcileResult).withRequeue config.requeueAfterSecs
    | parentRefs =>
      let status : HttpRouteStatus :=
        { parents := parentRefs.map fun parentRef =>
            buildParentStatus snapshot.now
              (validateParentRef snapshot httproute parentRef routeNs)
              httproute.metadata.generation }
      let upserts :=
        (parentRefs.filterMap (parentConfigmap snapshot httproute routeNs)).map .configMap
      ((({ upserts } : ReconcileResult).updateStatus
        (.httpRoute routeNs routeName status)).withRequeue config.requeueAfterSecs)

end Multiway.ControlPlane
