import Multiway.ControlPlane.Grants

/-!
# Secrets of other namespaces

Two snapshots that differ in a Secret a Gateway has no leave to use should
give the same result for the Gateway. They do, unless one of its certificate
references names that Secret and a grant limited to other names lets the
reference pass: `isSecretReferenceAllowed` does not read the limit.
-/

namespace Multiway.ControlPlane

open Multiway.Lib
open Multiway.Kube

/-- A grant of the snapshot lets the Gateways of `gatewayNs` refer to the
Secret. -/
def secretPermitted (s : WorldSnapshot) (gatewayNs secretNs secretName : String) : Bool :=
  s.referenceGrants.values.any
    (grantPermits gatewayNs "gateway.networking.k8s.io" "Gateway" secretNs "" "Secret" secretName)

/-- The second snapshot is the first with other Secrets, but for those in the
Gateway's namespace and those a grant permits. -/
structure DifferOnlyInProtected (gatewayNs : String) (s t : WorldSnapshot) : Prop where
  frame : t = { s with secrets := t.secrets }
  visible : ∀ secretNs secretName,
    secretNs = gatewayNs ∨ secretPermitted s gatewayNs secretNs secretName = true →
      s.getSecret secretNs secretName = t.getSecret secretNs secretName

/-- Every certificate reference into another namespace that passes the check is
let in by a grant for the Secret it names. -/
def CertificateRefsPermitted (s : WorldSnapshot) (gatewayNs : String) (gateway : Gateway) :
    Prop :=
  ∀ listener ∈ gateway.spec.listeners, ∀ ref ∈ certificateRefsOf listener,
    ref.namespace.getD gatewayNs ≠ gatewayNs →
      s.isSecretReferenceAllowed gatewayNs (ref.namespace.getD gatewayNs) = true →
        secretPermitted s gatewayNs (ref.namespace.getD gatewayNs) ref.name = true

section
variable {s t : WorldSnapshot} {gatewayNs gatewayName : String} {gateway : Gateway}

/-- A reference that is permitted, or does not pass, resolves alike. -/
theorem DifferOnlyInProtected.resolveCertificateRef_eq
    (h : DifferOnlyInProtected gatewayNs s t) {ref : GatewayListenersTlsCertificateRefs}
    (hpermitted : ref.namespace.getD gatewayNs ≠ gatewayNs →
      s.isSecretReferenceAllowed gatewayNs (ref.namespace.getD gatewayNs) = true →
        secretPermitted s gatewayNs (ref.namespace.getD gatewayNs) ref.name = true) :
    resolveCertificateRef gatewayNs s ref = resolveCertificateRef gatewayNs t ref := by
  have hallowed : t.isSecretReferenceAllowed gatewayNs (ref.namespace.getD gatewayNs) =
      s.isSecretReferenceAllowed gatewayNs (ref.namespace.getD gatewayNs) := by
    rw [h.frame]
    rfl
  unfold resolveCertificateRef
  dsimp only
  rw [hallowed]
  split
  · rfl
  next hpasses =>
    rw [h.visible]
    by_cases hsame : ref.namespace.getD gatewayNs = gatewayNs
    · exact Or.inl hsame
    · refine Or.inr (hpermitted hsame ?_)
      by_contra hdenied
      exact hpasses ⟨hsame, by simpa using hdenied⟩

/-- Permitted references give nothing away. -/
theorem DifferOnlyInProtected.reconcileGateway_eq (h : DifferOnlyInProtected gatewayNs s t)
    (config : ControllerConfig)
    (hpermitted : ∀ gateway, readyGateway s gatewayNs gatewayName = some gateway →
      CertificateRefsPermitted s gatewayNs gateway) :
    reconcileGateway s config gatewayNs gatewayName =
      reconcileGateway t config gatewayNs gatewayName := by
  have hnow : s.now = t.now := by rw [h.frame]
  have hroutes : ∀ name, s.routesForGateway gatewayNs name = t.routesForGateway gatewayNs name := by
    intro name
    rw [h.frame]
    rfl
  refine reconcileGateway_congr hnow ?_ (fun _ _ => ?_) fun gateway hready => ?_
  · rw [h.frame]
    rfl
  · rw [h.frame]
    rfl
  · have hconfig : buildGatewayConfig gateway gatewayNs s =
        buildGatewayConfig gateway gatewayNs t :=
      buildGatewayConfig_congr (hroutes _) fun listener hl ref href =>
        h.resolveCertificateRef_eq (hpermitted gateway hready listener hl ref href)
    refine ⟨hconfig, builtGatewayStatus_congr hnow (hroutes _) ?_ ?_ hconfig⟩
    · rw [h.frame]
      rfl
    · rw [h.frame]
      rfl

/-! ## What an unpermitted Secret gives away -/

/-- Filing a Secret the Gateway has no leave to use. -/
theorem differOnlyInProtected_withSecret {secretNs secretName : String} {secret : Secret}
    (hkey : objectKey secret = (secretNs, secretName)) (hns : secretNs ≠ gatewayNs)
    (hprotected : secretPermitted s gatewayNs secretNs secretName = false) :
    DifferOnlyInProtected gatewayNs s (s.withSecret secret) := by
  refine ⟨rfl, fun ns name hvisible => ?_⟩
  refine (Store.get?_insert_of_ne s.secrets ?_).symm
  rw [hkey]
  intro hsame
  obtain ⟨rfl, rfl⟩ := Prod.mk.inj hsame
  rcases hvisible with hown | hpermitted
  · exact hns hown
  · rw [hprotected] at hpermitted
    cases hpermitted

theorem resolveCertificateRef_withSecret {secret : Secret}
    {ref : GatewayListenersTlsCertificateRefs} :
    resolveCertificateRef gatewayNs (s.withSecret secret) ref =
      if objectKey secret = (ref.namespace.getD gatewayNs, ref.name) then
        if ref.namespace.getD gatewayNs ≠ gatewayNs ∧
            !s.isSecretReferenceAllowed gatewayNs (ref.namespace.getD gatewayNs) then none
        else secretPem secret
      else resolveCertificateRef gatewayNs s ref := by
  have hallowed : (s.withSecret secret).isSecretReferenceAllowed gatewayNs
      (ref.namespace.getD gatewayNs) =
      s.isSecretReferenceAllowed gatewayNs (ref.namespace.getD gatewayNs) := rfl
  unfold resolveCertificateRef
  dsimp only
  rw [hallowed]
  by_cases hkey : objectKey secret = (ref.namespace.getD gatewayNs, ref.name)
  · have hget : (s.withSecret secret).getSecret (ref.namespace.getD gatewayNs) ref.name =
        some secret := by
      show (s.secrets.insert secret).get? (ref.namespace.getD gatewayNs, ref.name) = some secret
      rw [← hkey, Store.get?_insert_self]
    rw [if_pos hkey, hget]
    rfl
  · have hget : (s.withSecret secret).getSecret (ref.namespace.getD gatewayNs) ref.name =
        s.getSecret (ref.namespace.getD gatewayNs) ref.name :=
      Store.get?_insert_of_ne s.secrets hkey
    rw [if_neg hkey, hget]

/-- With more defined, strictly more is kept. -/
theorem length_filterMap_lt {α β : Type} {f g : α → Option β} {l : List α}
    (hle : ∀ a ∈ l, (f a).isSome = true → (g a).isSome = true) {a : α} (ha : a ∈ l)
    (hf : (f a).isSome = false) (hg : (g a).isSome = true) :
    (l.filterMap f).length < (l.filterMap g).length := by
  obtain ⟨l₁, l₂, rfl⟩ := List.append_of_mem ha
  rw [List.length_filterMap_eq_countP, List.length_filterMap_eq_countP, List.countP_append,
    List.countP_append, List.countP_cons, List.countP_cons, hf, hg]
  have h₁ : l₁.countP (fun a => (f a).isSome) ≤ l₁.countP fun a => (g a).isSome :=
    List.countP_mono_left fun b hb => hle b (List.mem_append_left _ hb)
  have h₂ : l₂.countP (fun a => (f a).isSome) ≤ l₂.countP fun a => (g a).isSome :=
    List.countP_mono_left fun b hb =>
      hle b (List.mem_append_right _ (List.mem_cons_of_mem _ hb))
  rw [if_neg Bool.false_ne_true, if_pos rfl]
  omega

/-- Filing the Secret a reference that passes names, once empty and once with
its PEM texts, makes two different ConfigMaps. -/
theorem upserts_ne_of_passes (config : ControllerConfig)
    (hready : readyGateway s gatewayNs gatewayName = some gateway)
    {listener : GatewayListeners} (hl : listener ∈ gateway.spec.listeners)
    {ref : GatewayListenersTlsCertificateRefs} (href : ref ∈ certificateRefsOf listener)
    {secretNs : String} (hns : ref.namespace.getD gatewayNs = secretNs)
    (hallowed : s.isSecretReferenceAllowed gatewayNs secretNs = true) :
    (reconcileGateway (s.withSecret (secretNamed secretNs ref.name none)) config gatewayNs
        gatewayName).upserts ≠
      (reconcileGateway (s.withSecret (secretNamed secretNs ref.name (some pemData))) config
        gatewayNs gatewayName).upserts := by
  intro hupserts
  have hready' : ∀ secret, readyGateway (s.withSecret secret) gatewayNs gatewayName =
      some gateway := fun _ => hready
  rw [(reconcileGateway_of_ready (hready' _)).1, (reconcileGateway_of_ready (hready' _)).1]
    at hupserts
  simp only [dataPlaneUpserts, List.cons.injEq, ResourceUpsert.configMap.injEq] at hupserts
  have hcounts := congrArg certificateCounts (toJson_of_buildConfigmap hupserts.1)
  rw [certificateCounts_buildGatewayConfig, certificateCounts_buildGatewayConfig,
    List.map_inj_left] at hcounts
  have hkey : ∀ data, objectKey (secretNamed secretNs ref.name data) = (secretNs, ref.name) :=
    fun _ => rfl
  refine absurd (hcounts listener hl) (ne_of_lt (length_filterMap_lt (fun r hr => ?_) href ?_ ?_))
  · rw [resolveCertificateRef_withSecret, resolveCertificateRef_withSecret, hkey, hkey]
    split
    · -- the empty Secret never resolves
      split
      · exact id
      · exact nofun
    · exact id
  · rw [resolveCertificateRef_withSecret, hkey, hns, if_pos rfl]
    split <;> rfl
  · rw [resolveCertificateRef_withSecret, hkey, hns, if_pos rfl, hallowed, if_neg (by simp)]
    rfl

end

/-- **When Secrets stay confidential.** Reconciling the Gateway on any snapshot
that differs in protected Secrets only gives the same upserts and status,
exactly when its resources are not built or each certificate reference into
another namespace that passes the check is permitted for the Secret it names. -/
theorem secrets_confidential_iff (s : WorldSnapshot) (config : ControllerConfig)
    (gatewayNs gatewayName : String) :
    (∀ t, DifferOnlyInProtected gatewayNs s t →
      (reconcileGateway s config gatewayNs gatewayName).upserts =
          (reconcileGateway t config gatewayNs gatewayName).upserts ∧
        (reconcileGateway s config gatewayNs gatewayName).statusUpdates =
          (reconcileGateway t config gatewayNs gatewayName).statusUpdates) ↔
      ∀ gateway, readyGateway s gatewayNs gatewayName = some gateway →
        CertificateRefsPermitted s gatewayNs gateway := by
  constructor
  · intro hsame gateway hready listener hl ref href hns hallowed
    -- otherwise the Secret the reference names is protected, and it shows
    by_contra hprotected
    rw [Bool.not_eq_true] at hprotected
    have hdiffer : ∀ data, DifferOnlyInProtected gatewayNs s
        (s.withSecret (secretNamed (ref.namespace.getD gatewayNs) ref.name data)) :=
      fun data => differOnlyInProtected_withSecret rfl hns hprotected
    refine upserts_ne_of_passes config hready hl href rfl hallowed ?_
    rw [← (hsame _ (hdiffer none)).1, ← (hsame _ (hdiffer (some pemData))).1]
  · intro hpermitted t hdiffer
    rw [hdiffer.reconcileGateway_eq config hpermitted]
    exact ⟨rfl, rfl⟩

/-- A grant of `vault` to the Gateways of `default`, for the Secret `other`. -/
def otherGrant : ReferenceGrant where
  metadata := { name := some "grant", «namespace» := some "vault" }
  spec :=
    { «from» := [{ group := "gateway.networking.k8s.io", kind := "Gateway",
                   «namespace» := "default" }]
      «to» := [{ group := "", kind := "Secret", name := some "other" }] }

def vaultListener : GatewayListeners where
  name := "https"
  port := 443
  protocol := "HTTPS"
  tls := some { certificateRefs := some [{ name := "cert", «namespace» := some "vault" }] }

def vaultCluster : Objects :=
  { clusterWith [vaultListener] [] with
    referenceGrants := (∅ : Namespaced ReferenceGrant).insert otherGrant }

/-- A grant for one Secret opens the others of its namespace. -/
theorem secret_disclosed :
    ¬ ∀ (s t : WorldSnapshot) (config : ControllerConfig) (gatewayNs gatewayName : String),
      DifferOnlyInProtected gatewayNs s t →
        (reconcileGateway s config gatewayNs gatewayName).upserts =
            (reconcileGateway t config gatewayNs gatewayName).upserts ∧
          (reconcileGateway s config gatewayNs gatewayName).statusUpdates =
            (reconcileGateway t config gatewayNs gatewayName).statusUpdates := by
  intro hall
  have hready : readyGateway (.full vaultCluster 0) "default" "gw" =
      some (gatewayWith [vaultListener]) := rfl
  have hprotected : secretPermitted (.full vaultCluster 0) "default" "vault" "cert" = false := by
    decide
  have hvault : "vault" ≠ "default" := by decide
  have hdiffer : ∀ data, DifferOnlyInProtected "default" (.full vaultCluster 0)
      ((WorldSnapshot.full vaultCluster 0).withSecret (secretNamed "vault" "cert" data)) :=
    fun _ => differOnlyInProtected_withSecret rfl hvault hprotected
  have href : ({ name := "cert", «namespace» := some "vault" } :
      GatewayListenersTlsCertificateRefs) ∈ certificateRefsOf vaultListener :=
    List.mem_singleton_self _
  refine upserts_ne_of_passes {} hready (List.mem_singleton_self _) href rfl (by decide) ?_
  exact (hall _ _ {} _ "gw" (hdiffer none)).1.symm.trans
    (hall _ _ {} _ "gw" (hdiffer (some pemData))).1

end Multiway.ControlPlane
