import Multiway.ControlPlane.Reconcile

/-!
# What the reconcilers read of a snapshot

`reconcileGateway` depends on a snapshot only through the Gateway, its class
and, once it gets as far as building resources (`readyGateway`), through the
routes that name the Gateway, the certificates behind its listeners and the
addresses (`reconcileGateway_congr`).

Nothing of that is lost on the way into the ConfigMap either: the number of
routes and the number of inline certificates of each listener can be read back
from the JSON (`routeCount_toJson`, `certificateCounts_toJson`), so two
configurations that differ in them are written differently.
-/

namespace Multiway.ControlPlane

open Multiway.Lib
open Multiway.Kube

/-! ## Certificates -/

/-- The certificate references of a listener. -/
def certificateRefsOf (listener : GatewayListeners) : List GatewayListenersTlsCertificateRefs :=
  (listener.tls.bind GatewayListenersTls.certificateRefs).getD []

/-- A reference resolves to the PEM texts of a Secret the Gateway may use. -/
theorem resolveCertificateRef_eq_some_iff {gatewayNs : String} {s : WorldSnapshot}
    {ref : GatewayListenersTlsCertificateRefs} {pem : String × String} :
    resolveCertificateRef gatewayNs s ref = some pem ↔
      (ref.namespace.getD gatewayNs = gatewayNs ∨
        s.isSecretReferenceAllowed gatewayNs (ref.namespace.getD gatewayNs) = true) ∧
      ∃ secret, s.getSecret (ref.namespace.getD gatewayNs) ref.name = some secret ∧
        secretPem secret = some pem := by
  unfold resolveCertificateRef
  simp only
  by_cases hdenied : ref.namespace.getD gatewayNs ≠ gatewayNs ∧
      (!s.isSecretReferenceAllowed gatewayNs (ref.namespace.getD gatewayNs)) = true
  · rw [if_pos hdenied]
    refine ⟨fun h => absurd h (by simp), ?_⟩
    intro hresolves
    obtain ⟨hsame | hallowed, -⟩ := hresolves
    · exact absurd hsame hdenied.1
    · rw [hallowed] at hdenied
      exact absurd hdenied.2 (by simp)
  · rw [if_neg hdenied, Option.bind_eq_some_iff]
    refine (and_iff_right ?_).symm
    by_cases hsame : ref.namespace.getD gatewayNs = gatewayNs
    · exact Or.inl hsame
    · refine Or.inr ?_
      by_contra hnot
      exact hdenied ⟨hsame, by simpa using hnot⟩

/-- What the inline certificates and the verdict of a listener depend on. -/
theorem resolveListenerTls_congr {listener : GatewayListeners} {ns : String}
    {s t : WorldSnapshot}
    (h : ∀ ref ∈ certificateRefsOf listener,
      resolveCertificateRef ns s ref = resolveCertificateRef ns t ref) :
    resolveListenerTls listener ns s = resolveListenerTls listener ns t := by
  unfold resolveListenerTls
  rcases htls : listener.tls with _ | tlsSpec
  · rfl
  · have h' : ∀ ref ∈ tlsSpec.certificateRefs.getD [],
        resolveCertificateRef ns s ref = resolveCertificateRef ns t ref := by
      simpa [certificateRefsOf, htls] using h
    have hall : ((tlsSpec.certificateRefs.getD []).all fun ref =>
          (resolveCertificateRef ns s ref).isSome) =
        (tlsSpec.certificateRefs.getD []).all fun ref =>
          (resolveCertificateRef ns t ref).isSome := by
      rw [Bool.eq_iff_iff, List.all_eq_true, List.all_eq_true]
      exact forall₂_congr fun ref href => by rw [h' ref href]
    simp only
    rw [List.filterMap_congr h', hall]

theorem buildGatewayConfig_congr {gateway : Gateway} {ns : String} {s t : WorldSnapshot}
    (hroutes : s.routesForGateway ns (nameAny gateway) = t.routesForGateway ns (nameAny gateway))
    (hcerts : ∀ listener ∈ gateway.spec.listeners, ∀ ref ∈ certificateRefsOf listener,
      resolveCertificateRef ns s ref = resolveCertificateRef ns t ref) :
    buildGatewayConfig gateway ns s = buildGatewayConfig gateway ns t := by
  have htls : ∀ listener ∈ gateway.spec.listeners,
      resolveListenerTls listener ns s = resolveListenerTls listener ns t :=
    fun listener hl => resolveListenerTls_congr (hcerts listener hl)
  have hlisteners : gateway.spec.listeners.map (buildListenerConfig ns s) =
      gateway.spec.listeners.map (buildListenerConfig ns t) := by
    refine List.map_congr_left fun listener hl => ?_
    unfold buildListenerConfig
    rw [htls listener hl]
  have hresolved : gateway.spec.listeners.foldl (fun resolved listener =>
        resolved.insert listener.name (resolveListenerTls listener ns s).2)
          (∅ : BTreeMap Bool) =
      gateway.spec.listeners.foldl (fun resolved listener =>
        resolved.insert listener.name (resolveListenerTls listener ns t).2) ∅ := by
    refine List.foldl_ext _ _ _ fun resolved listener hl => ?_
    rw [htls listener hl]
  unfold buildGatewayConfig
  simp only [hlisteners, hresolved, hroutes]

/-! ## The stages of `reconcileGateway` -/

/-- The Gateway, if it is there, its class is accepted and its listeners are
valid: the case in which resources are built. -/
def readyGateway (s : WorldSnapshot) (ns name : String) : Option Gateway :=
  (s.getGateway ns name).filter fun gateway =>
    (getAcceptedGatewayClass s gateway.spec.gatewayClassName).isSome &&
      (validateListeners gateway.spec.listeners).allValid

theorem getGateway_of_ready {s : WorldSnapshot} {ns name : String} {gateway : Gateway}
    (h : readyGateway s ns name = some gateway) : s.getGateway ns name = some gateway :=
  (Option.filter_eq_some_iff.mp h).1

/-- Stored under the key it carries, a Gateway goes by the name asked for. -/
theorem nameAny_of_getGateway {s : WorldSnapshot} {ns name : String} {gateway : Gateway}
    (h : s.getGateway ns name = some gateway) : nameAny gateway = name :=
  congrArg Prod.snd (Store.key_of_get? h)

theorem readyGateway_congr {s t : WorldSnapshot} {ns name : String}
    (hgateway : s.getGateway ns name = t.getGateway ns name)
    (hclass : ∀ gateway, s.getGateway ns name = some gateway →
      s.getGatewayClass gateway.spec.gatewayClassName =
        t.getGatewayClass gateway.spec.gatewayClassName) :
    readyGateway s ns name = readyGateway t ns name := by
  unfold readyGateway
  rw [← hgateway]
  rcases hg : s.getGateway ns name with _ | gateway
  · rfl
  · unfold getAcceptedGatewayClass
    rw [Option.filter_some, Option.filter_some, hclass gateway hg]

theorem reconcileGateway_of_ready {s : WorldSnapshot} {config : ControllerConfig}
    {ns name : String} {gateway : Gateway} (h : readyGateway s ns name = some gateway) :
    (reconcileGateway s config ns name).upserts =
        dataPlaneUpserts ⟨ns, name⟩ gateway config (buildGatewayConfig gateway ns s).1 ∧
      (reconcileGateway s config ns name).statusUpdates =
        [.gateway ns name (builtGatewayStatus s gateway ns name)] := by
  obtain ⟨hgateway, hready⟩ := Option.filter_eq_some_iff.mp h
  simp only [Bool.and_eq_true] at hready
  have hclass : (getAcceptedGatewayClass s gateway.spec.gatewayClassName).isNone = false := by
    rw [← Option.not_isSome, hready.1]
    rfl
  unfold reconcileGateway
  simp only [hgateway, hclass, hready.2, Bool.not_true, Bool.false_eq_true, if_false]
  exact ⟨rfl, rfl⟩

/-- Otherwise nothing is built: there is no Gateway, or it is found invalid. -/
theorem reconcileGateway_of_not_ready {s : WorldSnapshot} {config : ControllerConfig}
    {ns name : String} (h : readyGateway s ns name = none) :
    reconcileGateway s config ns name = {} ∨
      ∃ gateway reason message eventReason eventMessage, reconcileGateway s config ns name =
        invalidGatewayResult s gateway ns name reason message eventReason eventMessage := by
  unfold reconcileGateway
  rcases hgateway : s.getGateway ns name with _ | gateway
  · exact Or.inl rfl
  · refine Or.inr ⟨gateway, ?_⟩
    simp only
    split
    · exact ⟨_, _, _, _, rfl⟩
    next hclass =>
      split
      · exact ⟨_, _, _, _, rfl⟩
      next hvalid =>
        have hready : readyGateway s ns name = some gateway := by
          refine Option.filter_eq_some_iff.mpr ⟨hgateway, ?_⟩
          simp only [Bool.not_eq_true, Bool.not_eq_false'] at hvalid
          simp only [Bool.not_eq_true, Option.isNone_eq_false_iff] at hclass
          rw [hvalid, hclass]
          rfl
        rw [h] at hready
        cases hready

theorem upserts_of_not_ready {s : WorldSnapshot} {config : ControllerConfig}
    {ns name : String} (h : readyGateway s ns name = none) :
    (reconcileGateway s config ns name).upserts = [] := by
  rcases reconcileGateway_of_not_ready h with hnone | ⟨_, _, _, _, _, hinvalid⟩
  · rw [hnone]
  · rw [hinvalid]
    rfl

/-- **What `reconcileGateway` reads.** Snapshots that agree on the Gateway and
its class, and on what is built if the Gateway gets that far, give the same
result. -/
theorem reconcileGateway_congr {s t : WorldSnapshot} {config : ControllerConfig}
    {ns name : String} (hnow : s.now = t.now)
    (hgateway : s.getGateway ns name = t.getGateway ns name)
    (hclass : ∀ gateway, s.getGateway ns name = some gateway →
      s.getGatewayClass gateway.spec.gatewayClassName =
        t.getGatewayClass gateway.spec.gatewayClassName)
    (hbuilt : ∀ gateway, readyGateway s ns name = some gateway →
      buildGatewayConfig gateway ns s = buildGatewayConfig gateway ns t ∧
        builtGatewayStatus s gateway ns name = builtGatewayStatus t gateway ns name) :
    reconcileGateway s config ns name = reconcileGateway t config ns name := by
  unfold reconcileGateway
  rw [← hgateway]
  rcases hg : s.getGateway ns name with _ | gateway
  · rfl
  · have haccepted : getAcceptedGatewayClass s gateway.spec.gatewayClassName =
        getAcceptedGatewayClass t gateway.spec.gatewayClassName := by
      unfold getAcceptedGatewayClass
      rw [hclass gateway hg]
    simp only [← haccepted]
    split
    · simp only [invalidGatewayResult, hnow]
    next hsome =>
      split
      · simp only [invalidGatewayResult, hnow]
      next hvalid =>
        have hready : readyGateway s ns name = some gateway := by
          refine Option.filter_eq_some_iff.mpr ⟨hg, ?_⟩
          simp only [Bool.not_eq_true, Bool.not_eq_false'] at hvalid
          simp only [Bool.not_eq_true, Option.isNone_eq_false_iff] at hsome
          rw [hvalid, hsome]
          rfl
        obtain ⟨hconfig, hstatus⟩ := hbuilt gateway hready
        rw [hconfig, hstatus]

/-- What the status of a built Gateway depends on, beyond its configuration. -/
theorem builtGatewayStatus_congr {s t : WorldSnapshot} {gateway : Gateway} {ns name : String}
    (hnow : s.now = t.now)
    (hroutes : s.routesForGateway ns name = t.routesForGateway ns name)
    (hservice : s.getService ns (DataPlaneNames.serviceName ⟨ns, name⟩) =
      t.getService ns (DataPlaneNames.serviceName ⟨ns, name⟩))
    (hnodes : s.getNodeInternalIp = t.getNodeInternalIp)
    (hconfig : buildGatewayConfig gateway ns s = buildGatewayConfig gateway ns t) :
    builtGatewayStatus s gateway ns name = builtGatewayStatus t gateway ns name := by
  have haddresses : deriveGatewayAddresses s gateway ⟨ns, name⟩ =
      deriveGatewayAddresses t gateway ⟨ns, name⟩ := by
    unfold deriveGatewayAddresses DataPlaneNames.namespace
    rw [hservice, hnodes]
  unfold builtGatewayStatus
  rw [haddresses, hroutes, hconfig, hnow]

/-! ## What can be read back from the JSON -/

/-- The number of routes in a configuration document. -/
def routeCount (doc : Json) : ℕ := ((doc.field? "routes").getD .null).elems.length

/-- The number of inline certificates of each listener. -/
def certificateCounts (doc : Json) : List ℕ :=
  ((doc.field? "listeners").getD .null).elems.map fun listener =>
    (((listener.field? "tls").bind (Json.field? "inline_certificates")).getD .null).elems.length

theorem routeCount_toJson (c : GatewayConfig) : routeCount c.toJson = c.routes.length := by
  show (c.routes.map RouteConfig.toJson).length = c.routes.length
  exact List.length_map _

private theorem inlineCertificates_toJson (t : TlsConfig) :
    ((t.toJson.field? "inline_certificates").getD .null).elems.length =
      t.inlineCertificates.length := by
  unfold TlsConfig.toJson
  rcases t.inlineCertificates with _ | ⟨c, cs⟩
  · rfl
  · show ((c :: cs).map InlineCertificate.toJson).length = (c :: cs).length
    exact List.length_map _

private theorem tls_toJson (l : ListenerConfig) :
    l.toJson.field? "tls" = l.tls.map TlsConfig.toJson := by
  unfold ListenerConfig.toJson
  rcases l.hostname with _ | hostname <;> rcases l.tls with _ | tls <;> rfl

theorem certificateCounts_toJson (c : GatewayConfig) :
    certificateCounts c.toJson = c.listeners.map fun l =>
      (l.tls.map fun t => t.inlineCertificates.length).getD 0 := by
  show (c.listeners.map ListenerConfig.toJson).map _ = _
  rw [List.map_map]
  refine List.map_congr_left fun l _ => ?_
  simp only [Function.comp_apply, tls_toJson]
  rcases l.tls with _ | tls
  · rfl
  · exact inlineCertificates_toJson tls

/-- For a listener's configuration: the references that resolve. -/
theorem certificateCounts_buildGatewayConfig (gateway : Gateway) (ns : String)
    (s : WorldSnapshot) :
    certificateCounts (buildGatewayConfig gateway ns s).1.toJson =
      gateway.spec.listeners.map fun listener =>
        ((certificateRefsOf listener).filterMap (resolveCertificateRef ns s)).length := by
  rw [certificateCounts_toJson]
  show (gateway.spec.listeners.map (buildListenerConfig ns s)).map _ = _
  rw [List.map_map]
  refine List.map_congr_left fun listener _ => ?_
  simp only [Function.comp_apply, buildListenerConfig, resolveListenerTls, certificateRefsOf]
  rcases listener.tls with _ | tlsSpec
  · rfl
  · simp

theorem routeCount_buildGatewayConfig (gateway : Gateway) (ns : String) (s : WorldSnapshot) :
    routeCount (buildGatewayConfig gateway ns s).1.toJson =
      (s.routesForGateway ns (nameAny gateway)).length := by
  rw [routeCount_toJson]
  exact List.length_map _

/-- Documents with the same counts: what resolves for a reference list that
resolves nothing on one side resolves to nothing on the other. -/
theorem resolveCertificateRef_eq_none_of_toJson {gateway : Gateway} {ns : String}
    {s t : WorldSnapshot}
    (hjson : (buildGatewayConfig gateway ns s).1.toJson =
      (buildGatewayConfig gateway ns t).1.toJson)
    (hs : ∀ listener ∈ gateway.spec.listeners, ∀ ref ∈ certificateRefsOf listener,
      resolveCertificateRef ns s ref = none) :
    ∀ listener ∈ gateway.spec.listeners, ∀ ref ∈ certificateRefsOf listener,
      resolveCertificateRef ns t ref = none := by
  have hcounts := congrArg certificateCounts hjson
  rw [certificateCounts_buildGatewayConfig, certificateCounts_buildGatewayConfig,
    List.map_inj_left] at hcounts
  intro listener hl
  have hnil : (certificateRefsOf listener).filterMap (resolveCertificateRef ns s) = [] :=
    List.filterMap_eq_nil_iff.mpr (hs listener hl)
  have hlength := hcounts listener hl
  rw [hnil, List.length_nil] at hlength
  exact List.filterMap_eq_nil_iff.mp (List.length_eq_zero_iff.mp hlength.symm)

/-- Equal ConfigMaps hold equal configuration documents. -/
theorem toJson_of_buildConfigmap {names : DataPlaneNames} {c d : GatewayConfig}
    {gateway : Gateway} (h : buildConfigmap names c gateway = buildConfigmap names d gateway) :
    c.toJson = d.toJson := by
  have hdata := congrArg ConfigMap.data h
  simp only [buildConfigmap, Option.some.injEq] at hdata
  have hget := congrArg (fun m : BTreeMap Json => m[configKey]?) hdata
  simpa using hget

end Multiway.ControlPlane
