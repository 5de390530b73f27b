import Multiway.ControlPlane.Addresses
import Multiway.ControlPlane.Executor
import Multiway.ControlPlane.Wire

/-!
# What a result tells apart

`Reads` says what a result depends on. Here is the converse: whatever of this
is different shows in the status or in a ConfigMap. For one Gateway the result
is the same on two snapshots exactly when they agree on whether its class is
accepted and, if its resources are built, on its addresses, on the certificates
behind its listeners and on its routes as they are printed
(`computed_gateway_eq_iff`). For one HTTPRoute they have to agree on each stage
of `validateParentRef` it gets to, and on the configuration of each Gateway
that accepts it (`computed_httproute_eq_iff`).
-/

namespace Multiway.ControlPlane

open Multiway.Lib
open Multiway.Kube

/-- The status and the ConfigMaps that are computed for an object. -/
def computed (config : ControllerConfig) (s : WorldSnapshot) :
    Target → List StatusUpdate × List ConfigMap
  | .gateway ns name =>
    ((reconcileGateway s config ns name).statusUpdates,
      (reconcileGateway s config ns name).configmapUpserts)
  | .httproute ns name =>
    ((reconcileHttproute s config ns name).statusUpdates,
      (reconcileHttproute s config ns name).configmapUpserts)

/-! ## The configuration of a Gateway -/

/-- The certificates that the references of a listener resolve to, in order. -/
def resolvedCertificates (s : WorldSnapshot) (ns : String) (listener : GatewayListeners) :
    List (String × String) :=
  (certificateRefsOf listener).filterMap (resolveCertificateRef ns s)

/-- A route as it is printed into the configuration of a Gateway. -/
def routeDocument (gateway : Gateway) (route : HTTPRoute) : Json :=
  (convertHttprouteToConfig route (gateway.spec.listeners.map GatewayListeners.name)).toJson

def routeDocuments (s : WorldSnapshot) (ns : String) (gateway : Gateway) : List Json :=
  (s.routesForGateway ns (nameAny gateway)).map (routeDocument gateway)

/-- The same certificates behind each listener, and the same routes. -/
structure SameConfiguration (s t : WorldSnapshot) (ns : String) (gateway : Gateway) : Prop where
  certificates : ∀ listener ∈ gateway.spec.listeners,
    resolvedCertificates s ns listener = resolvedCertificates t ns listener
  routes : routeDocuments s ns gateway = routeDocuments t ns gateway

section
variable {s t : WorldSnapshot} {ns : String} {gateway : Gateway}

theorem SameConfiguration.refl : SameConfiguration s s ns gateway := ⟨fun _ _ => rfl, rfl⟩

theorem ListenerConfig.toJson_injective : Function.Injective ListenerConfig.toJson := by
  intro l m h
  have hread := congrArg ListenerConfig.fromJson h
  rw [ListenerConfig.fromJson_toJson, ListenerConfig.fromJson_toJson] at hread
  exact Option.some.inj hread

/-- A listener's configuration tells which certificates were resolved. -/
theorem buildListenerConfig_eq_iff {listener : GatewayListeners} :
    buildListenerConfig ns s listener = buildListenerConfig ns t listener ↔
      resolvedCertificates s ns listener = resolvedCertificates t ns listener := by
  unfold buildListenerConfig resolveListenerTls resolvedCertificates certificateRefsOf
  rcases listener.tls with _ | tls
  · exact iff_of_true rfl rfl
  · have hinj : Function.Injective fun pem : String × String =>
        ({ certPem := pem.1, keyPem := pem.2, hostnames := listener.hostname.toList } :
          InlineCertificate) := by
      intro p q h
      exact Prod.ext (congrArg InlineCertificate.certPem h) (congrArg InlineCertificate.keyPem h)
    simp only [ListenerConfig.mk.injEq, Option.some.injEq, TlsConfig.mk.injEq, true_and,
      Option.bind_some]
    exact hinj.list_map.eq_iff

/-- Two configurations are printed alike exactly when certificates and routes
are. -/
theorem toJson_buildGatewayConfig_eq_iff :
    (buildGatewayConfig gateway ns s).1.toJson = (buildGatewayConfig gateway ns t).1.toJson ↔
      SameConfiguration s t ns gateway := by
  have hrouteDocuments : ∀ u : WorldSnapshot,
      (buildGatewayConfig gateway ns u).1.routes.map RouteConfig.toJson =
        routeDocuments u ns gateway := by
    intro u
    exact List.map_map
  have hlisteners : ∀ u : WorldSnapshot,
      (buildGatewayConfig gateway ns u).1.listeners =
        gateway.spec.listeners.map (buildListenerConfig ns u) := fun _ => rfl
  unfold GatewayConfig.toJson
  rw [hrouteDocuments, hrouteDocuments, hlisteners, hlisteners]
  simp only [Json.obj.injEq, List.cons.injEq, Prod.mk.injEq, Json.arr.injEq, true_and, and_true]
  rw [ListenerConfig.toJson_injective.list_map.eq_iff, List.map_inj_left]
  constructor
  · intro h
    obtain ⟨-, -, hlisteners, hroutes⟩ := h
    exact ⟨fun listener hl => buildListenerConfig_eq_iff.mp (hlisteners listener hl), hroutes⟩
  · intro h
    exact ⟨rfl, rfl,
      fun listener hl => buildListenerConfig_eq_iff.mpr (h.certificates listener hl), h.routes⟩

theorem gatewayConfigmap_eq_iff {name : String} :
    gatewayConfigmap s ns name gateway = gatewayConfigmap t ns name gateway ↔
      SameConfiguration s t ns gateway := by
  rw [← toJson_buildGatewayConfig_eq_iff]
  constructor
  · exact toJson_of_buildConfigmap
  · intro h
    unfold gatewayConfigmap buildConfigmap
    rw [h]

/-- Whether all references resolve can be told from what they resolve to. -/
theorem SameConfiguration.resolved_eq (h : SameConfiguration s t ns gateway) :
    (buildGatewayConfig gateway ns s).2 = (buildGatewayConfig gateway ns t).2 := by
  have hresolved : ∀ (u : WorldSnapshot) (listener : GatewayListeners),
      (resolveListenerTls listener ns u).2 =
        decide ((resolvedCertificates u ns listener).length =
          (certificateRefsOf listener).length) := by
    intro u listener
    unfold resolveListenerTls resolvedCertificates certificateRefsOf
    rcases listener.tls with _ | tls
    · rfl
    · rw [Bool.eq_iff_iff, decide_eq_true_iff, List.length_filterMap_eq_countP,
        List.countP_eq_length, List.all_eq_true]
      rfl
  show gateway.spec.listeners.foldl _ _ = gateway.spec.listeners.foldl _ _
  refine List.foldl_ext _ _ _ fun resolved listener hl => ?_
  rw [hresolved s, hresolved t, h.certificates listener hl]

theorem deriveGatewayAddresses_eq_iff {names : DataPlaneNames} :
    deriveGatewayAddresses s gateway names = deriveGatewayAddresses t gateway names ↔
      (gateway.spec.addresses.getD [] = [] →
        (s.getService names.namespace names.serviceName).bind
            (serviceAddresses s.getNodeInternalIp) =
          (t.getService names.namespace names.serviceName).bind
            (serviceAddresses t.getNodeInternalIp)) := by
  by_cases hspec : gateway.spec.addresses.getD [] = []
  · rw [imp_iff_right hspec, ← deriveGatewayAddresses_of_service hspec,
      ← deriveGatewayAddresses_of_service hspec]
    refine ⟨congrArg Prod.fst, fun h => Prod.ext h ?_⟩
    rw [deriveGatewayAddresses_snd, deriveGatewayAddresses_snd, h]
  · rw [deriveGatewayAddresses_of_spec hspec, deriveGatewayAddresses_of_spec hspec]
    exact iff_of_true rfl fun h => absurd h hspec

theorem builtGatewayStatus_eq_iff {name : String} (hnow : s.now = t.now)
    (hname : nameAny gateway = name) (h : SameConfiguration s t ns gateway) :
    builtGatewayStatus s gateway ns name = builtGatewayStatus t gateway ns name ↔
      deriveGatewayAddresses s gateway ⟨ns, name⟩ =
        deriveGatewayAddresses t gateway ⟨ns, name⟩ := by
  have hlength := congrArg List.length h.routes
  simp only [routeDocuments, List.length_map, hname] at hlength
  constructor
  · intro hstatus
    have haddresses : (deriveGatewayAddresses s gateway ⟨ns, name⟩).1 =
        (deriveGatewayAddresses t gateway ⟨ns, name⟩).1 :=
      congrArg GatewayStatus.addresses hstatus
    refine Prod.ext haddresses ?_
    rw [deriveGatewayAddresses_snd, deriveGatewayAddresses_snd, haddresses]
  · intro haddresses
    unfold builtGatewayStatus
    rw [haddresses, hlength, h.resolved_eq, hnow]

end

/-! ## Gateways -/

/-- What the Accepted condition of a Gateway's status gives as its reason. -/
def acceptedReason (status : GatewayStatus) : Option String :=
  (status.conditions.getD []).head?.map Condition.reason

theorem acceptedReason_buildGatewayStatus (now : Time) (gateway : Gateway) (accepted : Bool)
    (reason message : String) (addresses : Option (List GatewayAddresses)) :
    acceptedReason (buildGatewayStatus now gateway accepted reason message addresses) =
      some reason := rfl

theorem acceptedReason_builtGatewayStatus (s : WorldSnapshot) (gateway : Gateway)
    (ns name : String) :
    acceptedReason (builtGatewayStatus s gateway ns name) = some "Accepted" := rfl

theorem acceptedReason_gatewayStatusOf (s : WorldSnapshot) (gateway : Gateway)
    (ns name : String) :
    acceptedReason (gatewayStatusOf s gateway ns name) = some "Invalid" ↔
      classAccepted s gateway.spec.gatewayClassName = false := by
  unfold gatewayStatusOf
  rw [isNone_getAcceptedGatewayClass]
  cases classAccepted s gateway.spec.gatewayClassName with
  | false => exact iff_of_true (acceptedReason_buildGatewayStatus _ _ _ _ _ _) rfl
  | true =>
    refine iff_of_false ?_ nofun
    rw [Bool.not_true, if_neg Bool.false_ne_true]
    split
    · rw [acceptedReason_buildGatewayStatus]
      decide
    · rw [acceptedReason_builtGatewayStatus]
      decide

/-- What the result for a Gateway tells apart. -/
structure SameGateway (s t : WorldSnapshot) (ns name : String) (gateway : Gateway) : Prop where
  gatewayClass : classAccepted s gateway.spec.gatewayClassName =
    classAccepted t gateway.spec.gatewayClassName
  addresses : readyGateway s ns name = some gateway →
    deriveGatewayAddresses s gateway ⟨ns, name⟩ = deriveGatewayAddresses t gateway ⟨ns, name⟩
  configuration : readyGateway s ns name = some gateway → SameConfiguration s t ns gateway

section
variable {s t : WorldSnapshot} {config : ControllerConfig} {ns name : String}

theorem sameGateway_iff {gateway : Gateway} :
    SameGateway s t ns name gateway ↔
      classAccepted s gateway.spec.gatewayClassName =
          classAccepted t gateway.spec.gatewayClassName ∧
        (readyGateway s ns name = some gateway →
          deriveGatewayAddresses s gateway ⟨ns, name⟩ =
              deriveGatewayAddresses t gateway ⟨ns, name⟩ ∧
            SameConfiguration s t ns gateway) := by
  constructor
  · intro h
    exact ⟨h.gatewayClass, fun hready => ⟨h.addresses hready, h.configuration hready⟩⟩
  · intro h
    exact ⟨h.1, fun hready => (h.2 hready).1, fun hready => (h.2 hready).2⟩

/-- Nothing is built, and the status depends on the Gateway alone. -/
theorem gatewayStatusOf_of_not_ready {gateway : Gateway} (hnow : s.now = t.now)
    (hget : s.getGateway ns name = some gateway)
    (hready : readyGateway s ns name ≠ some gateway)
    (hclass : classAccepted s gateway.spec.gatewayClassName =
      classAccepted t gateway.spec.gatewayClassName) :
    gatewayStatusOf s gateway ns name = gatewayStatusOf t gateway ns name := by
  rw [Ne, readyGateway_eq_some_iff hget] at hready
  unfold gatewayStatusOf
  rw [isNone_getAcceptedGatewayClass, isNone_getAcceptedGatewayClass, ← hclass, hnow]
  cases haccepted : classAccepted s gateway.spec.gatewayClassName with
  | false => rw [Bool.not_false, if_pos rfl, if_pos rfl]
  | true =>
    have hvalid : (validateListeners gateway.spec.listeners).allValid = false := by
      rw [haccepted] at hready
      simpa using hready
    rw [hvalid, Bool.not_true, Bool.not_false, if_neg Bool.false_ne_true,
      if_neg Bool.false_ne_true, if_pos rfl, if_pos rfl]

theorem readyGateway_eq_none {gateway : Gateway} (hget : s.getGateway ns name = some gateway)
    (hready : readyGateway s ns name ≠ some gateway) : readyGateway s ns name = none := by
  by_contra hne
  obtain ⟨other, hother⟩ := Option.ne_none_iff_exists'.mp hne
  obtain rfl := Option.some.inj (hget.symm.trans (getGateway_of_ready hother))
  exact hready hother

/-- **What the result for a Gateway tells apart.** -/
theorem computed_gateway_eq_iff {gateway : Gateway} (hnow : s.now = t.now)
    (hs : s.getGateway ns name = some gateway) (ht : t.getGateway ns name = some gateway) :
    computed config s (.gateway ns name) = computed config t (.gateway ns name) ↔
      SameGateway s t ns name gateway := by
  rw [sameGateway_iff]
  have hname : nameAny gateway = name := nameAny_of_getGateway hs
  simp only [computed, statusUpdates_reconcileGateway hs, statusUpdates_reconcileGateway ht,
    configmapUpserts_reconcileGateway, Prod.mk.injEq, List.cons.injEq, and_true,
    StatusUpdate.gateway.injEq, true_and]
  by_cases hclass : classAccepted s gateway.spec.gatewayClassName =
      classAccepted t gateway.spec.gatewayClassName
  · have hready : readyGateway s ns name = some gateway ↔
        readyGateway t ns name = some gateway := by
      rw [readyGateway_eq_some_iff hs, readyGateway_eq_some_iff ht, hclass]
    rw [and_iff_right hclass]
    by_cases hbuilt : readyGateway s ns name = some gateway
    · have hbuilt' := hready.mp hbuilt
      rw [gatewayStatusOf_of_ready hs hbuilt, gatewayStatusOf_of_ready ht hbuilt', hbuilt, hbuilt',
        imp_iff_right rfl]
      simp only [Option.map_some, Option.toList_some, List.cons.injEq, and_true,
        gatewayConfigmap_eq_iff]
      exact and_congr_left fun hsame => builtGatewayStatus_eq_iff hnow hname hsame
    · have hbuilt' := mt hready.mpr hbuilt
      rw [readyGateway_eq_none hs hbuilt, readyGateway_eq_none ht hbuilt', Option.map_none,
        Option.map_none]
      exact iff_of_true ⟨gatewayStatusOf_of_not_ready hnow hs hbuilt hclass, rfl⟩ nofun
  · refine iff_of_false ?_ fun h => hclass h.1
    intro hsame
    have hreason := acceptedReason_gatewayStatusOf s gateway ns name
    rw [hsame.1, acceptedReason_gatewayStatusOf] at hreason
    exact hclass (Bool.eq_iff_iff.mpr (by simpa using (not_congr hreason).symm))

end

/-! ## HTTPRoutes -/

theorem statusText_injective : Function.Injective statusText := by decide

/-- The status of a parent tells the whole verdict. -/
theorem buildParentStatus_eq_iff {now : Time} {v w : ParentRefValidation} {generation : Option ℤ} :
    buildParentStatus now v generation = buildParentStatus now w generation ↔
      v.parentRef = w.parentRef ∧ v.accepted = w.accepted ∧ v.reason = w.reason ∧
        v.message = w.message := by
  constructor
  · intro h
    have hconditions := congrArg HttpRouteStatusParents.conditions h
    simp only [buildParentStatus, Option.some.injEq, List.cons.injEq, Condition.mk.injEq,
      true_and, and_true] at hconditions
    obtain ⟨⟨haccepted, hreason, hmessage⟩, -⟩ := hconditions
    exact ⟨congrArg HttpRouteStatusParents.parentRef h, statusText_injective haccepted, hreason,
      hmessage⟩
  · intro h
    obtain ⟨hparent, haccepted, hreason, hmessage⟩ := h
    unfold buildParentStatus
    rw [hparent, haccepted, hreason, hmessage]

/-- The Gateway a parent reference resolves to. -/
structure Resolves (s : WorldSnapshot) (parentRef : HttpRouteParentRefs) (routeNs : String)
    (gateway : Gateway) : Prop where
  group : parentRef.group.getD "gateway.networking.k8s.io" = "gateway.networking.k8s.io"
  kind : parentRef.kind.getD "Gateway" = "Gateway"
  found : s.getGateway (parentRef.namespace.getD routeNs) parentRef.name = some gateway

/-- A listener that matches is open to the namespace, or the namespace needs no
leave, or a grant gives it. -/
def mayAttach (s : WorldSnapshot) (routeNs : String) (parentRef : HttpRouteParentRefs)
    (gateway : Gateway) : Bool :=
  (findMatchingListeners gateway parentRef.sectionName parentRef.port).any
      (listenerAllows gateway routeNs) || routeNs == namespaceOf gateway ||
    s.isGatewayReferenceAllowed routeNs (namespaceOf gateway)

/-- What is wrong with the first backend that is wrong. -/
def firstBackendError (s : WorldSnapshot) (routeNs : String) (route : HTTPRoute) :
    Option BackendValidationError :=
  (backendRefsOf route).findSome? (validateBackend s routeNs)

/-- The verdict on a reference that resolves, from what the snapshot says at
each stage. -/
def verdict (parentRef : HttpRouteParentRefs) (routeNs : String) (gateway : Gateway)
    (accepted attaches : Bool) (error : Option BackendValidationError) : ParentRefValidation :=
  if !accepted then
    rejected parentRef "NotAllowedByGateway"
      "Gateway's GatewayClass is not managed by this controller"
  else if (findMatchingListeners gateway parentRef.sectionName parentRef.port).isEmpty then
    rejected parentRef "NoMatchingListenerHostname" "No matching listener found on Gateway"
  else if !attaches then
    rejected parentRef "RefNotPermitted"
      ("Route namespace " ++ routeNs ++ " is not allowed by Gateway listener policies")
  else
    match error with
    | some error => rejected parentRef error.reason error.message
    | none =>
      { parentRef, accepted := true, reason := "Accepted"
        message := "Route is accepted by Gateway"
        attachedListeners := (findMatchingListeners gateway parentRef.sectionName
          parentRef.port).map GatewayListeners.name }

section
variable {s t : WorldSnapshot} {route : HTTPRoute} {parentRef : HttpRouteParentRefs}
  {routeNs : String} {gateway : Gateway}

theorem Resolves.gateway_unique {gateway' : Gateway} (h : Resolves s parentRef routeNs gateway)
    (h' : Resolves s parentRef routeNs gateway') : gateway = gateway' :=
  Option.some.inj (h.found.symm.trans h'.found)

theorem Accepts.resolves (h : Accepts s route parentRef routeNs gateway) :
    Resolves s parentRef routeNs gateway := ⟨h.group, h.kind, h.found⟩

theorem validateParentRef_of_resolves (h : Resolves s parentRef routeNs gateway) :
    validateParentRef s route parentRef routeNs =
      verdict parentRef routeNs gateway (classAccepted s gateway.spec.gatewayClassName)
        (mayAttach s routeNs parentRef gateway) (firstBackendError s routeNs route) := by
  unfold validateParentRef verdict
  dsimp only
  rw [if_neg (not_or.mpr ⟨not_not.mpr h.group, not_not.mpr h.kind⟩), h.found]
  dsimp only
  rw [isNone_getAcceptedGatewayClass]
  split
  · rfl
  · split
    · rfl
    · refine if_congr ?_ rfl rfl
      unfold mayAttach listenerAllows
      simp only [Bool.not_eq_true', Bool.or_eq_false_iff, beq_eq_false_iff_ne, ne_eq, and_assoc]

/-- A reference that resolves to nothing is turned away for what it names. -/
theorem validateParentRef_of_not_resolves (hs : ∀ gateway, ¬Resolves s parentRef routeNs gateway)
    (ht : ∀ gateway, ¬Resolves t parentRef routeNs gateway) :
    validateParentRef s route parentRef routeNs = validateParentRef t route parentRef routeNs := by
  unfold validateParentRef
  dsimp only
  split
  · rfl
  next htype =>
    obtain ⟨hgroup, hkind⟩ := not_or.mp htype
    have hnone : ∀ u : WorldSnapshot, (∀ gateway, ¬Resolves u parentRef routeNs gateway) →
        u.getGateway (parentRef.namespace.getD routeNs) parentRef.name = none := by
      intro u hu
      exact Option.eq_none_iff_forall_ne_some.mpr fun gateway hfound =>
        hu gateway ⟨not_not.mp hgroup, not_not.mp hkind, hfound⟩
    rw [hnone s hs, hnone t ht]

/-- An error of a backend is none of the errors before it. -/
theorem firstBackendError_spec {error : BackendValidationError}
    (h : firstBackendError s routeNs route = some error) :
    error.reason ≠ "NotAllowedByGateway" ∧
      error.message ≠
        "Route namespace " ++ routeNs ++ " is not allowed by Gateway listener policies" := by
  obtain ⟨backend, -, hbackend⟩ := List.exists_of_findSome?_eq_some h
  -- the messages start with different letters
  have hmessage : ∀ message : String, message.toList.head? ≠ some 'R' → message ≠
      "Route namespace " ++ routeNs ++ " is not allowed by Gateway listener policies" := by
    intro message hfirst hsame
    refine hfirst ?_
    rw [hsame, String.toList_append, String.toList_append]
    rfl
  unfold validateBackend at hbackend
  dsimp only at hbackend
  split at hbackend
  · obtain rfl := Option.some.inj hbackend
    refine ⟨by simp, hmessage _ ?_⟩
    rw [String.toList_append, String.toList_append, String.toList_append]
    show some 'U' ≠ some 'R'
    decide
  · split at hbackend
    · obtain rfl := Option.some.inj hbackend
      refine ⟨by simp, hmessage _ ?_⟩
      rw [String.toList_append, String.toList_append, String.toList_append, String.toList_append]
      show some 'S' ≠ some 'R'
      decide
    · split at hbackend
      · obtain rfl := Option.some.inj hbackend
        refine ⟨by simp, hmessage _ ?_⟩
        rw [String.toList_append, String.toList_append, String.toList_append,
          String.toList_append]
        show some 'C' ≠ some 'R'
        decide
      · cases hbackend

/-- The reason and the message of a verdict whose class is accepted. -/
theorem verdict_accepted_ne (attaches : Bool) (error : Option BackendValidationError)
    (herror : ∀ e, error = some e → e.reason ≠ "NotAllowedByGateway") :
    (verdict parentRef routeNs gateway true attaches error).reason ≠ "NotAllowedByGateway" := by
  unfold verdict
  rw [Bool.not_true, if_neg Bool.false_ne_true]
  split
  · simp [rejected]
  · split
    · simp [rejected]
    · rcases error with _ | e
      · simp
      · exact herror e rfl

/-- With a listener that matches, the rest decides. -/
theorem verdict_of_matching (attaches : Bool) (error : Option BackendValidationError)
    (hmatching : findMatchingListeners gateway parentRef.sectionName parentRef.port ≠ []) :
    verdict parentRef routeNs gateway true attaches error =
      if !attaches then
        rejected parentRef "RefNotPermitted"
          ("Route namespace " ++ routeNs ++ " is not allowed by Gateway listener policies")
      else
        match error with
        | some error => rejected parentRef error.reason error.message
        | none =>
          { parentRef, accepted := true, reason := "Accepted"
            message := "Route is accepted by Gateway"
            attachedListeners := (findMatchingListeners gateway parentRef.sectionName
              parentRef.port).map GatewayListeners.name } := by
  unfold verdict
  rw [Bool.not_true, if_neg Bool.false_ne_true, List.isEmpty_eq_false_iff.mpr hmatching,
    if_neg Bool.false_ne_true]

/-- A policy that turns the route away is not an error of a backend. -/
theorem verdict_denied_ne {error error' : Option BackendValidationError}
    (hmatching : findMatchingListeners gateway parentRef.sectionName parentRef.port ≠ [])
    (herror : ∀ e, error' = some e → e.message ≠
      "Route namespace " ++ routeNs ++ " is not allowed by Gateway listener policies") :
    verdict parentRef routeNs gateway true false error ≠
      verdict parentRef routeNs gateway true true error' := by
  rw [verdict_of_matching _ _ hmatching, verdict_of_matching _ _ hmatching]
  intro h
  rcases error' with _ | e
  · cases congrArg ParentRefValidation.accepted h
  · exact herror e rfl (congrArg ParentRefValidation.message h).symm

theorem verdict_error_inj {error error' : Option BackendValidationError}
    (hmatching : findMatchingListeners gateway parentRef.sectionName parentRef.port ≠ [])
    (h : verdict parentRef routeNs gateway true true error =
      verdict parentRef routeNs gateway true true error') : error = error' := by
  rw [verdict_of_matching _ _ hmatching, verdict_of_matching _ _ hmatching] at h
  rcases error with _ | ⟨reason, message⟩ <;> rcases error' with _ | ⟨reason', message'⟩
  · rfl
  · cases congrArg ParentRefValidation.accepted h
  · cases congrArg ParentRefValidation.accepted h
  · obtain rfl : reason = reason' := congrArg ParentRefValidation.reason h
    obtain rfl : message = message' := congrArg ParentRefValidation.message h
    rfl

/-- The stages of the verdict on a reference to the Gateway come out alike, as
far as it gets. -/
structure SameStages (s t : WorldSnapshot) (route : HTTPRoute) (parentRef : HttpRouteParentRefs)
    (routeNs : String) (gateway : Gateway) : Prop where
  gatewayClass : classAccepted s gateway.spec.gatewayClassName =
    classAccepted t gateway.spec.gatewayClassName
  policy : classAccepted s gateway.spec.gatewayClassName = true →
    findMatchingListeners gateway parentRef.sectionName parentRef.port ≠ [] →
      mayAttach s routeNs parentRef gateway = mayAttach t routeNs parentRef gateway
  backends : classAccepted s gateway.spec.gatewayClassName = true →
    findMatchingListeners gateway parentRef.sectionName parentRef.port ≠ [] →
      mayAttach s routeNs parentRef gateway = true →
        firstBackendError s routeNs route = firstBackendError t routeNs route

/-- **A verdict tells its stages apart.** -/
theorem validateParentRef_eq_iff (hs : Resolves s parentRef routeNs gateway)
    (ht : Resolves t parentRef routeNs gateway) :
    validateParentRef s route parentRef routeNs = validateParentRef t route parentRef routeNs ↔
      SameStages s t route parentRef routeNs gateway := by
  have herror : ∀ u : WorldSnapshot, ∀ e, firstBackendError u routeNs route = some e →
      e.reason ≠ "NotAllowedByGateway" := fun _ _ he => (firstBackendError_spec he).1
  have hdenied : ∀ u : WorldSnapshot, ∀ e, firstBackendError u routeNs route = some e →
      e.message ≠ "Route namespace " ++ routeNs ++ " is not allowed by Gateway listener policies" :=
    fun _ _ he => (firstBackendError_spec he).2
  rw [validateParentRef_of_resolves hs, validateParentRef_of_resolves ht]
  constructor
  · intro h
    have hclass : classAccepted s gateway.spec.gatewayClassName =
        classAccepted t gateway.spec.gatewayClassName := by
      cases hcs : classAccepted s gateway.spec.gatewayClassName <;>
        cases hct : classAccepted t gateway.spec.gatewayClassName <;> rw [hcs, hct] at h
      · exact absurd (congrArg ParentRefValidation.reason h).symm
          (verdict_accepted_ne _ _ (herror t))
      · exact absurd (congrArg ParentRefValidation.reason h) (verdict_accepted_ne _ _ (herror s))
    have hpolicy : classAccepted s gateway.spec.gatewayClassName = true →
        findMatchingListeners gateway parentRef.sectionName parentRef.port ≠ [] →
          mayAttach s routeNs parentRef gateway = mayAttach t routeNs parentRef gateway := by
      intro haccepted hmatching
      rw [← hclass, haccepted] at h
      cases hms : mayAttach s routeNs parentRef gateway <;>
        cases hmt : mayAttach t routeNs parentRef gateway <;> rw [hms, hmt] at h
      · exact absurd h (verdict_denied_ne hmatching (hdenied t))
      · exact absurd h.symm (verdict_denied_ne hmatching (hdenied s))
    refine ⟨hclass, hpolicy, fun haccepted hmatching hattaches => ?_⟩
    rw [← hclass, haccepted, ← hpolicy haccepted hmatching, hattaches] at h
    exact verdict_error_inj hmatching h
  · intro h
    rw [← h.gatewayClass]
    cases haccepted : classAccepted s gateway.spec.gatewayClassName with
    | false => rfl
    | true =>
      by_cases hmatching : findMatchingListeners gateway parentRef.sectionName parentRef.port = []
      · unfold verdict
        rw [hmatching]
        rfl
      · rw [← h.policy haccepted hmatching, verdict_of_matching _ _ hmatching,
          verdict_of_matching _ _ hmatching]
        cases hattaches : mayAttach s routeNs parentRef gateway with
        | false => rfl
        | true => rw [h.backends haccepted hmatching hattaches]

theorem accepted_or_rejected (s : WorldSnapshot) (route : HTTPRoute)
    (parentRef : HttpRouteParentRefs) (routeNs : String) :
    (∃ gateway, Accepts s route parentRef routeNs gateway) ∨
      ∃ reason message,
        validateParentRef s route parentRef routeNs = rejected parentRef reason message := by
  by_cases haccepted : (validateParentRef s route parentRef routeNs).accepted = true
  · exact .inl (accepts_of_accepted haccepted)
  · refine .inr ?_
    unfold validateParentRef at haccepted ⊢
    dsimp only at haccepted ⊢
    split
    · exact ⟨_, _, rfl⟩
    next htype =>
      rw [if_neg htype] at haccepted
      rcases hfound : s.getGateway (parentRef.namespace.getD routeNs) parentRef.name
        with _ | gateway
      · exact ⟨_, _, rfl⟩
      · rw [hfound] at haccepted
        dsimp only at haccepted ⊢
        split
        · exact ⟨_, _, rfl⟩
        next hclass =>
          split
          · exact ⟨_, _, rfl⟩
          next hmatching =>
            rw [if_neg hclass, if_neg hmatching] at haccepted
            split
            · exact ⟨_, _, rfl⟩
            next hpolicy =>
              rw [if_neg hpolicy] at haccepted
              split
              · exact ⟨_, _, rfl⟩
              next herror =>
                rw [herror] at haccepted
                exact absurd rfl haccepted

/-- What the status shows of a verdict is all of it. -/
theorem validateParentRef_eq_of_fields
    (hresolves : ∀ gateway,
      Resolves s parentRef routeNs gateway ↔ Resolves t parentRef routeNs gateway)
    (haccepted : (validateParentRef s route parentRef routeNs).accepted =
      (validateParentRef t route parentRef routeNs).accepted)
    (hreason : (validateParentRef s route parentRef routeNs).reason =
      (validateParentRef t route parentRef routeNs).reason)
    (hmessage : (validateParentRef s route parentRef routeNs).message =
      (validateParentRef t route parentRef routeNs).message) :
    validateParentRef s route parentRef routeNs = validateParentRef t route parentRef routeNs := by
  rcases accepted_or_rejected s route parentRef routeNs
    with ⟨gateway, hs⟩ | ⟨reason, message, hs⟩ <;>
    rcases accepted_or_rejected t route parentRef routeNs
      with ⟨gateway', ht⟩ | ⟨reason', message', ht⟩
  -- accepted by one Gateway, at the same listeners
  · obtain rfl := ((hresolves gateway).mp hs.resolves).gateway_unique ht.resolves
    rw [validateParentRef_of_accepts hs, validateParentRef_of_accepts ht]
  · rw [validateParentRef_of_accepts hs, ht] at haccepted
    cases haccepted
  · rw [hs, validateParentRef_of_accepts ht] at haccepted
    cases haccepted
  · rw [hs, ht] at hreason hmessage ⊢
    obtain rfl : reason = reason' := hreason
    obtain rfl : message = message' := hmessage
    rfl

theorem isSome_parentConfigmap :
    (parentConfigmap s route routeNs parentRef).isSome =
      (validateParentRef s route parentRef routeNs).accepted := by
  rw [Bool.eq_iff_iff, accepted_iff, Option.isSome_iff_exists]
  constructor
  · intro h
    obtain ⟨configmap, hconfigmap⟩ := h
    obtain ⟨gateway, haccepts, -⟩ := parentConfigmap_eq_some_iff.mp hconfigmap
    exact ⟨gateway, haccepts⟩
  · intro h
    obtain ⟨gateway, haccepts⟩ := h
    exact ⟨_, parentConfigmap_eq_some_iff.mpr ⟨gateway, haccepts, rfl⟩⟩

/-- For a reference judged alike, the ConfigMaps are told apart by the
configuration of the Gateway that accepts it. -/
theorem parentConfigmap_eq_iff
    (hresolves : ∀ gateway,
      Resolves s parentRef routeNs gateway ↔ Resolves t parentRef routeNs gateway)
    (hverdict : validateParentRef s route parentRef routeNs =
      validateParentRef t route parentRef routeNs) :
    parentConfigmap s route routeNs parentRef = parentConfigmap t route routeNs parentRef ↔
      ∀ gateway, Accepts s route parentRef routeNs gateway →
        SameConfiguration s t (parentRef.namespace.getD routeNs) gateway := by
  by_cases haccepted : (validateParentRef s route parentRef routeNs).accepted = true
  · obtain ⟨gateway, hs⟩ := accepts_of_accepted haccepted
    obtain ⟨gateway', ht⟩ := accepts_of_accepted (hverdict ▸ haccepted)
    obtain rfl := ((hresolves gateway).mp hs.resolves).gateway_unique ht.resolves
    rw [parentConfigmap_eq_some_iff.mpr ⟨gateway, hs, rfl⟩,
      parentConfigmap_eq_some_iff.mpr ⟨gateway, ht, rfl⟩, Option.some.injEq,
      gatewayConfigmap_eq_iff]
    constructor
    · intro hsame gateway' hs'
      rw [hs'.gateway_unique hs]
      exact hsame
    · intro h
      exact h gateway hs
  · have hnone : ∀ u : WorldSnapshot,
        (validateParentRef u route parentRef routeNs).accepted ≠ true →
          parentConfigmap u route routeNs parentRef = none := by
      intro u hu
      rw [← isSome_parentConfigmap] at hu
      exact Option.not_isSome_iff_eq_none.mp hu
    rw [hnone s haccepted, hnone t (hverdict ▸ haccepted)]
    exact iff_of_true rfl fun gateway hs => absurd (accepted_iff.mpr ⟨gateway, hs⟩) haccepted

end

/-- Of two partial maps, one defined wherever the other is, the results over a
list are the same only if they are the same for each element. -/
theorem filterMap_eq_iff_of_isSome {α β : Type} {f g : α → Option β} {l : List α}
    (h : ∀ a ∈ l, (f a).isSome = true → (g a).isSome = true) :
    l.filterMap f = l.filterMap g ↔ ∀ a ∈ l, f a = g a := by
  refine ⟨?_, List.filterMap_congr⟩
  induction l with
  | nil => exact fun _ => nofun
  | cons a l ih =>
    intro heq
    have htail : ∀ b ∈ l, (f b).isSome = true → (g b).isSome = true :=
      fun b hb => h b (List.mem_cons_of_mem _ hb)
    cases hf : f a with
    | some b =>
      obtain ⟨c, hg⟩ := Option.isSome_iff_exists.mp (h a List.mem_cons_self (by rw [hf]; rfl))
      rw [List.filterMap_cons_some hf, List.filterMap_cons_some hg, List.cons.injEq] at heq
      exact List.forall_mem_cons.mpr ⟨by rw [hf, hg, heq.1], ih htail heq.2⟩
    | none =>
      cases hg : g a with
      | none =>
        rw [List.filterMap_cons_none hf, List.filterMap_cons_none hg] at heq
        exact List.forall_mem_cons.mpr ⟨hf.trans hg.symm, ih htail heq⟩
      -- one element more than the other list can have
      | some c =>
        rw [List.filterMap_cons_none hf, List.filterMap_cons_some hg] at heq
        have hlength := congrArg List.length heq
        rw [List.length_cons, List.length_filterMap_eq_countP,
          List.length_filterMap_eq_countP] at hlength
        have hle := List.countP_mono_left htail
        omega

/-- What the result for an HTTPRoute tells apart at one of its references. -/
structure SameParent (s t : WorldSnapshot) (route : HTTPRoute) (ns : String)
    (parentRef : HttpRouteParentRefs) (gateway : Gateway) : Prop where
  stages : SameStages s t route parentRef ns gateway
  configuration : Accepts s route parentRef ns gateway →
    SameConfiguration s t (parentRef.namespace.getD ns) gateway

section
variable {s t : WorldSnapshot} {config : ControllerConfig} {ns name : String} {route : HTTPRoute}

theorem httprouteStatusOf_eq_iff (hnow : s.now = t.now)
    (hresolves : ∀ parentRef ∈ route.spec.parentRefs.getD [], ∀ gateway,
      Resolves s parentRef ns gateway ↔ Resolves t parentRef ns gateway) :
    httprouteStatusOf s route ns = httprouteStatusOf t route ns ↔
      ∀ parentRef ∈ route.spec.parentRefs.getD [],
        validateParentRef s route parentRef ns = validateParentRef t route parentRef ns := by
  unfold httprouteStatusOf
  rw [HttpRouteStatus.mk.injEq, List.map_inj_left, hnow]
  refine forall₂_congr fun parentRef hmem => ?_
  rw [buildParentStatus_eq_iff]
  constructor
  · intro h
    obtain ⟨-, haccepted, hreason, hmessage⟩ := h
    exact validateParentRef_eq_of_fields (hresolves parentRef hmem) haccepted hreason hmessage
  · intro h
    rw [h]
    exact ⟨rfl, rfl, rfl, rfl⟩

/-- The verdict on a reference and its ConfigMap, told apart together. -/
theorem sameParent_iff {parentRef : HttpRouteParentRefs}
    (hresolves : ∀ gateway, Resolves s parentRef ns gateway ↔ Resolves t parentRef ns gateway) :
    (validateParentRef s route parentRef ns = validateParentRef t route parentRef ns ∧
        ∀ gateway, Accepts s route parentRef ns gateway →
          SameConfiguration s t (parentRef.namespace.getD ns) gateway) ↔
      ∀ gateway, Resolves s parentRef ns gateway → SameParent s t route ns parentRef gateway := by
  constructor
  · intro h gateway hs
    exact ⟨(validateParentRef_eq_iff hs ((hresolves gateway).mp hs)).mp h.1, h.2 gateway⟩
  · intro h
    refine ⟨?_, fun gateway haccepts => (h gateway haccepts.resolves).configuration haccepts⟩
    by_cases hresolved : ∃ gateway, Resolves s parentRef ns gateway
    · obtain ⟨gateway, hs⟩ := hresolved
      exact (validateParentRef_eq_iff hs ((hresolves gateway).mp hs)).mpr (h gateway hs).stages
    · rw [not_exists] at hresolved
      exact validateParentRef_of_not_resolves hresolved
        fun gateway ht => hresolved gateway ((hresolves gateway).mpr ht)

/-- **What the result for an HTTPRoute tells apart.** -/
theorem computed_httproute_eq_iff (hnow : s.now = t.now)
    (hs : s.getHttproute ns name = some route) (ht : t.getHttproute ns name = some route)
    (hresolves : ∀ parentRef ∈ route.spec.parentRefs.getD [], ∀ gateway,
      Resolves s parentRef ns gateway ↔ Resolves t parentRef ns gateway) :
    computed config s (.httproute ns name) = computed config t (.httproute ns name) ↔
      ∀ parentRef ∈ route.spec.parentRefs.getD [], ∀ gateway,
        Resolves s parentRef ns gateway → SameParent s t route ns parentRef gateway := by
  have hparents : (∀ parentRef ∈ route.spec.parentRefs.getD [], ∀ gateway,
        Resolves s parentRef ns gateway → SameParent s t route ns parentRef gateway) ↔
      (∀ parentRef ∈ route.spec.parentRefs.getD [],
          validateParentRef s route parentRef ns = validateParentRef t route parentRef ns) ∧
        ∀ parentRef ∈ route.spec.parentRefs.getD [], ∀ gateway,
          Accepts s route parentRef ns gateway →
            SameConfiguration s t (parentRef.namespace.getD ns) gateway := by
    rw [← forall₂_and]
    exact forall₂_congr fun parentRef hmem => (sameParent_iff (hresolves parentRef hmem)).symm
  have hstatus : (reconcileHttproute s config ns name).statusUpdates =
        (reconcileHttproute t config ns name).statusUpdates ↔
      ∀ parentRef ∈ route.spec.parentRefs.getD [],
        validateParentRef s route parentRef ns = validateParentRef t route parentRef ns := by
    by_cases hrefs : route.spec.parentRefs.getD [] = []
    -- no reference, and nothing is written
    · have hnil : ∀ u : WorldSnapshot, u.getHttproute ns name = some route →
          (reconcileHttproute u config ns name).statusUpdates = [] := by
        intro u hu
        unfold reconcileHttproute
        rw [hu]
        dsimp only
        rw [hrefs]
        rfl
      rw [hnil s hs, hnil t ht, hrefs]
      exact iff_of_true rfl nofun
    · rw [statusUpdates_reconcileHttproute hs hrefs, statusUpdates_reconcileHttproute ht hrefs,
        ← httprouteStatusOf_eq_iff hnow hresolves, List.cons.injEq, StatusUpdate.httpRoute.injEq]
      simp only [and_true, true_and]
      rfl
  unfold computed
  dsimp only
  rw [Prod.mk.injEq, hstatus, configmapUpserts_reconcileHttproute hs,
    configmapUpserts_reconcileHttproute ht, hparents]
  refine and_congr_right fun hverdict => ?_
  rw [filterMap_eq_iff_of_isSome]
  · exact forall₂_congr fun parentRef hmem =>
      parentConfigmap_eq_iff (hresolves parentRef hmem) (hverdict parentRef hmem)
  · intro parentRef hmem hsome
    rw [isSome_parentConfigmap, hverdict parentRef hmem] at hsome
    rw [isSome_parentConfigmap, hsome]

end

end Multiway.ControlPlane
