import Multiway.Lib.Run
import Multiway.Lib.Text
import Multiway.ProxyCore.Config

/-!
# TLS termination (`proxy-core/src/tls.rs`)

`build_tls_acceptor` makes an acceptor of a listener's TLS section, or an
error, or nothing at all when TLS is passed through. PEM and DER are read by
`rustls_pemfile` and `rustls` (`Rustls`), which also decide whether a key
belongs to a certificate and a certificate to a name. `Terminates` collects
what all of them have to say for there to be an acceptor
(`buildTlsAcceptor_eq_some_iff`).
-/

namespace Multiway.ProxyCore

open Multiway.Lib
open Multiway.Lib.Text

abbrev Der := List UInt8

/-- A certificate chain and the key to its leaf. -/
structure CertifiedKey where
  chain : List Der
  key : Der
deriving DecidableEq

/-- What a `ServerConfig` selects certificates by. -/
inductive CertResolver
  | single (key : CertifiedKey)
  /-- `ResolvesServerCertUsingSni`: names and keys in the order they were added -/
  | sni (entries : List (String × CertifiedKey))
deriving DecidableEq

structure Rustls where
  pemCerts : String → Except String (List Der)
  pemPrivateKey : String → Except String (Option Der)
  safeDefaultProtocolVersions : Except String Unit
  withSingleCert : List Der → Der → Except String CertifiedKey
  fromDer : List Der → Der → Except String CertifiedKey
  /-- Whether the SNI resolver takes the key for the name. -/
  sniAdd : String → CertifiedKey → Except String Unit
  /-- The certificate for a client that asks for a name, or for none. -/
  resolve : CertResolver → Option String → Option CertifiedKey

inductive TlsSetupError
  | noCertificates
  | certParse (msg : String)
  | keyParse (msg : String)
  | rustls (msg : String)
  | sniAdd (msg : String)
deriving DecidableEq

section
variable (rustls : Rustls)

def parsePemCerts (pem : String) : Except TlsSetupError (List Der) :=
  match rustls.pemCerts pem with
  | .error e => .error (.certParse e)
  | .ok [] => .error (.certParse "no certificates found in PEM data")
  | .ok (cert :: certs) => .ok (cert :: certs)

def parsePemPrivateKey (pem : String) : Except TlsSetupError Der :=
  match rustls.pemPrivateKey pem with
  | .error e => .error (.keyParse e)
  | .ok none => .error (.keyParse "no private key found in PEM data")
  | .ok (some key) => .ok key

/-- Chain and key of an inline certificate, put together by `certify`. -/
def certifiedKey (certify : List Der → Der → Except String CertifiedKey)
    (cert : InlineCertificate) : Except TlsSetupError CertifiedKey := do
  let chain ← parsePemCerts rustls cert.certPem
  let key ← parsePemPrivateKey rustls cert.keyPem
  (certify chain key).mapError .rustls

/-- One turn of the loop over the hostnames of a certificate. -/
def addHostname (key : CertifiedKey) (entries : List (String × CertifiedKey))
    (hostname : String) : Except TlsSetupError (List (String × CertifiedKey)) :=
  match rustls.sniAdd hostname key with
  | .error e => .error (.sniAdd (hostname ++ ": " ++ e))
  | .ok () => .ok (entries ++ [(hostname, key)])

/-- One turn of the loop over several certificates. -/
def addCertificate (entries : List (String × CertifiedKey)) (cert : InlineCertificate) :
    Except TlsSetupError (List (String × CertifiedKey)) := do
  let key ← certifiedKey rustls rustls.fromDer cert
  cert.hostnames.foldlM (addHostname rustls key) entries

def buildServerConfig (inlineCerts : List InlineCertificate) :
    Except TlsSetupError CertResolver :=
  match inlineCerts with
  | [cert] => do
    let chain ← parsePemCerts rustls cert.certPem
    let key ← parsePemPrivateKey rustls cert.keyPem
    rustls.safeDefaultProtocolVersions.mapError .rustls
    let certified ← (rustls.withSingleCert chain key).mapError .rustls
    return .single certified
  | inlineCerts => do
    let entries ← inlineCerts.foldlM (addCertificate rustls) []
    rustls.safeDefaultProtocolVersions.mapError .rustls
    return .sni entries

/-- The acceptor of a TLS section; there is none where TLS is passed through. -/
def buildTlsAcceptor (tls : TlsConfig) : Except TlsSetupError (Option CertResolver) :=
  if tls.mode = .passthrough then .ok none
  else if tls.inlineCertificates.isEmpty then .error .noCertificates
  else (buildServerConfig rustls tls.inlineCertificates).map some

/-! ## When there is an acceptor -/

/-- The certificate has a chain and a key, which `certify` puts together. -/
def Certifies (certify : List Der → Der → Except String CertifiedKey) (cert : InlineCertificate)
    (key : CertifiedKey) : Prop :=
  ∃ chain der, rustls.pemCerts cert.certPem = .ok chain ∧ chain ≠ [] ∧
    rustls.pemPrivateKey cert.keyPem = .ok (some der) ∧ certify chain der = .ok key

/-- The certificate goes into the SNI resolver under each of its hostnames. -/
def Resolvable (cert : InlineCertificate) (key : CertifiedKey) : Prop :=
  Certifies rustls rustls.fromDer cert key ∧
    ∀ hostname ∈ cert.hostnames, rustls.sniAdd hostname key = .ok ()

/-- What an acceptor takes: TLS is terminated, there are certificates, and
each is as good as a single one, or one of several, has to be. -/
structure Terminates (tls : TlsConfig) : Prop where
  mode : tls.mode = .terminate
  certificates : tls.inlineCertificates ≠ []
  versions : rustls.safeDefaultProtocolVersions = .ok ()
  single : ∀ cert, tls.inlineCertificates = [cert] →
    ∃ key, Certifies rustls rustls.withSingleCert cert key
  several : 2 ≤ tls.inlineCertificates.length → ∀ cert ∈ tls.inlineCertificates,
    ∃ key, Resolvable rustls cert key

end

section
variable {rustls : Rustls}

theorem parsePemCerts_eq_ok {pem : String} {chain : List Der} :
    parsePemCerts rustls pem = .ok chain ↔ rustls.pemCerts pem = .ok chain ∧ chain ≠ [] := by
  unfold parsePemCerts
  rcases rustls.pemCerts pem with e | _ | ⟨cert, certs⟩
  · exact iff_of_false nofun nofun
  · refine iff_of_false nofun ?_
    rintro ⟨⟨⟩, hne⟩
    exact hne rfl
  · constructor
    · rintro ⟨⟩
      exact ⟨rfl, List.cons_ne_nil cert certs⟩
    · rintro ⟨⟨⟩, -⟩
      rfl

theorem parsePemPrivateKey_eq_ok {pem : String} {key : Der} :
    parsePemPrivateKey rustls pem = .ok key ↔ rustls.pemPrivateKey pem = .ok (some key) := by
  unfold parsePemPrivateKey
  rcases rustls.pemPrivateKey pem with e | _ | der
  · exact iff_of_false nofun nofun
  · exact iff_of_false nofun nofun
  · simp

theorem certifiedKey_eq_ok {certify : List Der → Der → Except String CertifiedKey}
    {cert : InlineCertificate} {key : CertifiedKey} :
    certifiedKey rustls certify cert = .ok key ↔ Certifies rustls certify cert key := by
  simp only [certifiedKey, bind_eq_ok, mapError_eq_ok, parsePemCerts_eq_ok,
    parsePemPrivateKey_eq_ok, Certifies]
  constructor
  · intro hparsed
    obtain ⟨chain, ⟨hchain, hne⟩, der, hder, hkey⟩ := hparsed
    exact ⟨chain, der, hchain, hne, hder, hkey⟩
  · intro hparsed
    obtain ⟨chain, der, hchain, hne, hder, hkey⟩ := hparsed
    exact ⟨chain, ⟨hchain, hne⟩, der, hder, hkey⟩

theorem addHostname_eq_ok {key : CertifiedKey} (entries : List (String × CertifiedKey))
    (hostname : String) (entries' : List (String × CertifiedKey)) :
    addHostname rustls key entries hostname = .ok entries' ↔
      rustls.sniAdd hostname key = .ok () ∧ entries' = entries ++ [(hostname, key)] := by
  unfold addHostname
  cases rustls.sniAdd hostname key with
  | error e => exact iff_of_false nofun nofun
  | ok u =>
    constructor
    · rintro ⟨⟩
      exact ⟨rfl, rfl⟩
    · rintro ⟨-, rfl⟩
      rfl

/-- What a certificate adds to the resolver: its key, under each hostname. -/
def entriesOf (rustls : Rustls) (cert : InlineCertificate) : List (String × CertifiedKey) :=
  match certifiedKey rustls rustls.fromDer cert with
  | .ok key => cert.hostnames.map (·, key)
  | .error _ => []

theorem addCertificate_eq_ok (entries : List (String × CertifiedKey)) (cert : InlineCertificate)
    (entries' : List (String × CertifiedKey)) :
    addCertificate rustls entries cert = .ok entries' ↔
      (∃ key, Resolvable rustls cert key) ∧ entries' = entries ++ entriesOf rustls cert := by
  simp only [addCertificate, bind_eq_ok, Resolvable, ← certifiedKey_eq_ok, entriesOf]
  cases certifiedKey rustls rustls.fromDer cert with
  | error e => exact iff_of_false nofun nofun
  | ok key =>
    simp only [Except.ok.injEq, exists_eq_left', foldlM_append_eq_ok addHostname_eq_ok]
    rw [List.map_eq_flatMap]

theorem buildServerConfig_single {cert : InlineCertificate} {resolver : CertResolver} :
    buildServerConfig rustls [cert] = .ok resolver ↔
      rustls.safeDefaultProtocolVersions = .ok () ∧
        ∃ key, Certifies rustls rustls.withSingleCert cert key ∧ resolver = .single key := by
  simp only [buildServerConfig, bind_eq_ok, mapError_eq_ok, parsePemCerts_eq_ok,
    parsePemPrivateKey_eq_ok, Certifies]
  constructor
  · intro hbuilt
    obtain ⟨chain, ⟨hchain, hne⟩, der, hder, ⟨⟩, hversions, key, hkey, ⟨⟩⟩ := hbuilt
    exact ⟨hversions, key, ⟨chain, der, hchain, hne, hder, hkey⟩, rfl⟩
  · intro hbuilt
    obtain ⟨hversions, key, ⟨chain, der, hchain, hne, hder, hkey⟩, rfl⟩ := hbuilt
    exact ⟨chain, ⟨hchain, hne⟩, der, hder, (), hversions, key, hkey, rfl⟩

theorem buildServerConfig_several {certs : List InlineCertificate} (h : 2 ≤ certs.length)
    {resolver : CertResolver} :
    buildServerConfig rustls certs = .ok resolver ↔
      rustls.safeDefaultProtocolVersions = .ok () ∧
        (∀ cert ∈ certs, ∃ key, Resolvable rustls cert key) ∧
          resolver = .sni (certs.flatMap (entriesOf rustls)) := by
  rcases certs with _ | ⟨cert, _ | ⟨cert', certs⟩⟩
  · exact absurd h (by simp)
  · exact absurd h (by simp)
  · simp only [buildServerConfig, bind_eq_ok, mapError_eq_ok,
      foldlM_append_eq_ok addCertificate_eq_ok, List.nil_append]
    constructor
    · intro hbuilt
      obtain ⟨entries, ⟨hcerts, rfl⟩, ⟨⟩, hversions, ⟨⟩⟩ := hbuilt
      exact ⟨hversions, hcerts, rfl⟩
    · intro hbuilt
      obtain ⟨hversions, hcerts, rfl⟩ := hbuilt
      exact ⟨_, ⟨hcerts, rfl⟩, (), hversions, rfl⟩

/-- **There is an acceptor exactly when TLS is terminated** with certificates
that are each good for it. -/
theorem buildTlsAcceptor_eq_some_iff {tls : TlsConfig} :
    (∃ resolver, buildTlsAcceptor rustls tls = .ok (some resolver)) ↔ Terminates rustls tls := by
  unfold buildTlsAcceptor
  by_cases hmode : tls.mode = .passthrough
  · rw [if_pos hmode]
    refine iff_of_false nofun fun h => ?_
    rw [h.mode] at hmode
    exact absurd hmode (by decide)
  have hterminate : tls.mode = .terminate := by
    cases h : tls.mode with
    | terminate => rfl
    | passthrough => exact absurd h hmode
  -- nothing to present is an error
  by_cases hcerts : tls.inlineCertificates = []
  · rw [if_neg hmode, if_pos (List.isEmpty_iff.mpr hcerts)]
    exact iff_of_false nofun fun h => h.certificates hcerts
  rw [if_neg hmode, if_neg (by simpa using hcerts)]
  have hmap : ∀ resolver, (buildServerConfig rustls tls.inlineCertificates).map some =
      .ok (some resolver) ↔ buildServerConfig rustls tls.inlineCertificates = .ok resolver := by
    intro resolver
    cases buildServerConfig rustls tls.inlineCertificates <;> simp [Except.map]
  simp only [hmap]
  -- one certificate is presented always, several by the name that is asked for
  by_cases hlength : 2 ≤ tls.inlineCertificates.length
  · simp only [buildServerConfig_several hlength]
    constructor
    · intro hbuilt
      obtain ⟨_, hversions, hall, -⟩ := hbuilt
      refine ⟨hterminate, hcerts, hversions, fun cert hsingle => ?_, fun _ => hall⟩
      rw [hsingle] at hlength
      exact absurd hlength (by simp)
    · intro h
      exact ⟨_, h.versions, h.several hlength, rfl⟩
  · obtain ⟨cert, hsingle⟩ : ∃ cert, tls.inlineCertificates = [cert] := by
      refine List.length_eq_one_iff.mp ?_
      have hpos := List.length_pos_iff.mpr hcerts
      omega
    rw [hsingle]
    simp only [buildServerConfig_single]
    constructor
    · intro hbuilt
      obtain ⟨_, hversions, key, hkey, -⟩ := hbuilt
      refine ⟨hterminate, hcerts, hversions, fun cert' hcert' => ?_, fun h => absurd h hlength⟩
      obtain rfl := List.singleton_inj.mp (hsingle.symm.trans hcert')
      exact ⟨key, hkey⟩
    · intro h
      obtain ⟨key, hkey⟩ := h.single cert hsingle
      exact ⟨_, h.versions, key, hkey, rfl⟩

/-- The resolver of an acceptor is the one built of its certificates. -/
theorem buildServerConfig_of_acceptor {tls : TlsConfig} {resolver : CertResolver}
    (h : buildTlsAcceptor rustls tls = .ok (some resolver)) :
    buildServerConfig rustls tls.inlineCertificates = .ok resolver := by
  have hterminates := buildTlsAcceptor_eq_some_iff.mp ⟨resolver, h⟩
  rw [buildTlsAcceptor, if_neg (by rw [hterminates.mode]; decide),
    if_neg (by simpa using hterminates.certificates)] at h
  cases hconfig : buildServerConfig rustls tls.inlineCertificates with
  | error e =>
    rw [hconfig] at h
    cases h
  | ok other =>
    rw [hconfig] at h
    cases h
    rfl

/-! ## The certificate a client gets -/

/-- How the resolvers resolve: a single certificate is for everybody, and of
several keys under one name the last one counts. -/
structure Rustls.ResolvesSni (rustls : Rustls) : Prop where
  single : ∀ key sni, rustls.resolve (.single key) sni = some key
  unnamed : ∀ entries, rustls.resolve (.sni entries) none = none
  named : ∀ entries name, rustls.resolve (.sni entries) (some name) =
    (entries.reverse.find? fun entry => eqIgnoreAsciiCase entry.1 name).map Prod.snd

/-- The certificate a TLS section has for a client: its only one, or the last
of several that lists the name. -/
def certificateFor (rustls : Rustls) (tls : TlsConfig) (sni : Option String) :
    Option CertifiedKey :=
  match tls.inlineCertificates with
  | [cert] => (certifiedKey rustls rustls.withSingleCert cert).toOption
  | certs =>
    sni.bind fun name =>
      (certs.reverse.find? fun cert => cert.hostnames.any (eqIgnoreAsciiCase · name)).bind
        fun cert => (certifiedKey rustls rustls.fromDer cert).toOption

/-- The key of a certificate is found under the names the certificate lists. -/
theorem find?_entriesOf {cert : InlineCertificate} (h : ∃ key, Resolvable rustls cert key)
    (p : String → Bool) :
    ((entriesOf rustls cert).reverse.find? fun entry => p entry.1).map Prod.snd =
      if cert.hostnames.any p then (certifiedKey rustls rustls.fromDer cert).toOption
      else none := by
  obtain ⟨key, hkey, -⟩ := h
  rw [← certifiedKey_eq_ok] at hkey
  simp only [entriesOf, hkey]
  split
  next hany =>
    obtain ⟨hostname, hmem, heq⟩ := List.any_eq_true.mp hany
    have hsome : ((cert.hostnames.map (·, key)).reverse.find? fun entry =>
        p entry.1).isSome = true := by
      refine List.find?_isSome.mpr ⟨(hostname, key), ?_, heq⟩
      exact List.mem_reverse.mpr (List.mem_map_of_mem hmem)
    obtain ⟨entry, hentry⟩ := Option.isSome_iff_exists.mp hsome
    obtain ⟨other, -, rfl⟩ :=
      List.mem_map.mp (List.mem_reverse.mp (List.mem_of_find?_eq_some hentry))
    rw [hentry]
    rfl
  next hnone =>
    rw [Option.map_eq_none_iff, List.find?_eq_none]
    intro entry hentry heq
    obtain ⟨hostname, hmem, rfl⟩ := List.mem_map.mp (List.mem_reverse.mp hentry)
    exact hnone (List.any_eq_true.mpr ⟨hostname, hmem, heq⟩)

/-- The last certificate that lists the name is the one whose key is found. -/
theorem find?_flatMap_entriesOf (p : String → Bool) : ∀ {certs : List InlineCertificate},
    (∀ cert ∈ certs, ∃ key, Resolvable rustls cert key) →
      ((certs.flatMap fun cert => (entriesOf rustls cert).reverse).find? fun entry =>
          p entry.1).map Prod.snd =
        (certs.find? fun cert => cert.hostnames.any p).bind
          fun cert => (certifiedKey rustls rustls.fromDer cert).toOption
  | [], _ => rfl
  | cert :: certs, h => by
    obtain ⟨hcert, hcerts⟩ := List.forall_mem_cons.mp h
    have hfind := find?_entriesOf hcert p
    rw [List.flatMap_cons, List.find?_append, List.find?_cons]
    cases hany : cert.hostnames.any p with
    | true =>
      obtain ⟨key, hkey, -⟩ := hcert
      rw [← certifiedKey_eq_ok] at hkey
      rw [hany, if_pos rfl, hkey] at hfind
      obtain ⟨entry, hentry, hsnd⟩ := Option.map_eq_some_iff.mp hfind
      rw [hentry, Option.some_or, Option.map_some, hsnd, Option.bind_some, hkey]
      rfl
    | false =>
      rw [hany, if_neg Bool.false_ne_true, Option.map_eq_none_iff] at hfind
      rw [hfind, Option.none_or]
      exact find?_flatMap_entriesOf p hcerts

/-- Of all that was added, the last entry whose name is asked for is the key of
the last certificate that lists such a name. -/
theorem find?_reverse_entriesOf (p : String → Bool) {certs : List InlineCertificate}
    (h : ∀ cert ∈ certs, ∃ key, Resolvable rustls cert key) :
    ((certs.flatMap (entriesOf rustls)).reverse.find? fun entry => p entry.1).map Prod.snd =
      (certs.reverse.find? fun cert => cert.hostnames.any p).bind
        fun cert => (certifiedKey rustls rustls.fromDer cert).toOption := by
  rw [List.reverse_flatMap]
  exact find?_flatMap_entriesOf p fun cert hcert => h cert (List.mem_reverse.mp hcert)

/-- **The acceptor presents the certificate of the section.** -/
theorem resolve_eq_certificateFor (hsni : rustls.ResolvesSni) {tls : TlsConfig}
    {resolver : CertResolver} (h : buildTlsAcceptor rustls tls = .ok (some resolver))
    (sni : Option String) : rustls.resolve resolver sni = certificateFor rustls tls sni := by
  have hterminates := buildTlsAcceptor_eq_some_iff.mp ⟨resolver, h⟩
  have hbuild := buildServerConfig_of_acceptor h
  unfold certificateFor
  split
  next cert hsingle =>
    rw [hsingle] at hbuild
    obtain ⟨-, key, hkey, rfl⟩ := buildServerConfig_single.mp hbuild
    rw [hsni.single, certifiedKey_eq_ok.mpr hkey]
    rfl
  next hmany =>
    have hlength : 2 ≤ tls.inlineCertificates.length := by
      rcases hcerts : tls.inlineCertificates with _ | ⟨cert, _ | ⟨cert', certs⟩⟩
      · exact absurd hcerts hterminates.certificates
      · exact absurd hcerts (hmany cert)
      · simp
    obtain ⟨-, hcerts, rfl⟩ := (buildServerConfig_several hlength).mp hbuild
    cases sni with
    | none => rw [hsni.unnamed, Option.bind_none]
    | some name =>
      rw [hsni.named, Option.bind_some]
      exact find?_reverse_entriesOf (eqIgnoreAsciiCase · name) hcerts

end

end Multiway.ProxyCore
