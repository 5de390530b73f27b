import Multiway.ProxyCore.Listeners
import Multiway.ProxyCore.Pipeline
import Multiway.ProxyCore.RouteSpec

/-!
# Listeners on one port

Every listener has a socket of its own, also where the port is another's
already (`SO_REUSEPORT`), and the kernel picks the socket a connection goes to.
What the connection meets there is the acceptor and the pipeline of that one
listener: its certificates, and the routes attached to its name. Neither is
compared with the other listeners of the port, so a connection is treated alike
on all of them when their configurations amount to the same
(`shared_port_alike`).
-/

namespace Multiway.ProxyCore.Server

open Multiway.Lib
open Multiway.Lib.Text

/-! ## What a connection meets -/

/-- What a client first sees. -/
inductive Greeting
  | plain
  /-- the certificate presented, or an aborted handshake -/
  | handshake (certificate : Option CertifiedKey)
deriving DecidableEq

def Transport.greeting (rustls : Rustls) (sni : Option String) : Transport → Greeting
  | .plain => .plain
  | .tls resolver => .handshake (rustls.resolve resolver sni)

/-- The sockets of a configuration: the listener states, each with the
pipeline at its position. -/
def sockets (rustls : Rustls) (arc : ConfigArc) : List (ListenerState × Pipeline) :=
  (arc.config.listeners.map (bound rustls arc)).zip (buildPipelines arc)

/-- Nothing a client can do tells the two sockets apart. -/
structure Indistinct (rustls : Rustls) (isMatch : String → String → Bool)
    (a b : ListenerState × Pipeline) : Prop where
  greeting : ∀ sni, a.1.transport.greeting rustls sni = b.1.transport.greeting rustls sni
  decision : ∀ request, route isMatch a.2.proxyConfig a.2.listenerName request =
    route isMatch b.2.proxyConfig b.2.listenerName request
  response : ∀ (Addr : Type) (env : Env Addr) routingMeta request,
    RouteAndFilter.call env isMatch a.2.proxyConfig a.2.listenerName routingMeta request =
      RouteAndFilter.call env isMatch b.2.proxyConfig b.2.listenerName routingMeta request
  upgrade : ∀ (Addr : Type) (env : Env Addr) routingMeta,
    handleWebsocketUpgrade env isMatch a.2.proxyConfig a.2.listenerName routingMeta =
      handleWebsocketUpgrade env isMatch b.2.proxyConfig b.2.listenerName routingMeta

/-! ## When two listeners amount to the same -/

/-- What the TLS section of a listener has for a client. -/
inductive Offers (rustls : Rustls) (listener : ListenerConfig) (sni : Option String) :
    Greeting → Prop
  | plain (h : listener.protocol = .https → ¬ TerminatesTls rustls listener) :
      Offers rustls listener sni .plain
  | handshake {tls : TlsConfig} (hhttps : listener.protocol = .https)
      (htls : listener.tls = some tls) (hterminates : Terminates rustls tls) :
      Offers rustls listener sni (.handshake (certificateFor rustls tls sni))

/-- Every client is offered the same certificate, or none to either. -/
def OffersAlike (rustls : Rustls) (l₁ l₂ : ListenerConfig) : Prop :=
  ∀ sni greeting, Offers rustls l₁ sni greeting ↔ Offers rustls l₂ sni greeting

/-- The rules of the routes attached to the name, in order, each with the
hostnames of its route. -/
def attachedRules (config : ProxyConfig) (listenerName : String) :
    List (List String × RouteRule) :=
  (config.routes.filter (·.attachedListeners.contains listenerName)).flatMap fun route =>
    route.rules.map (route.hostnames, ·)

variable {rustls : Rustls} {isMatch : String → String → Bool} {config : ProxyConfig}

theorem tlsAcceptor_eq_some {listener : ListenerConfig} {resolver : CertResolver}
    (h : tlsAcceptor rustls listener = some resolver) :
    listener.protocol = .https ∧
      ∃ tls, listener.tls = some tls ∧ buildTlsAcceptor rustls tls = .ok (some resolver) := by
  unfold tlsAcceptor at h
  split at h
  next hhttps =>
    refine ⟨hhttps, ?_⟩
    cases htls : listener.tls with
    | none =>
      rw [htls] at h
      cases h
    | some tls =>
      simp only [htls] at h
      rcases hbuild : buildTlsAcceptor rustls tls with e | acceptor
      · simp only [hbuild] at h
        cases h
      · simp only [hbuild] at h
        exact ⟨tls, rfl, hbuild.trans (congrArg Except.ok h)⟩
  next => cases h

/-- A section offers one thing. -/
theorem Offers.unique {listener : ListenerConfig} {sni : Option String} {g₁ g₂ : Greeting}
    (h₁ : Offers rustls listener sni g₁) (h₂ : Offers rustls listener sni g₂) : g₁ = g₂ := by
  cases h₁ with
  | plain hplain =>
    cases h₂ with
    | plain => rfl
    | handshake hhttps htls hterminates => exact absurd ⟨_, htls, hterminates⟩ (hplain hhttps)
  | handshake hhttps htls hterminates =>
    cases h₂ with
    | plain hplain => exact absurd ⟨_, htls, hterminates⟩ (hplain hhttps)
    | handshake _ htls' _ =>
      obtain rfl := Option.some.inj (htls.symm.trans htls')
      rfl

/-- A bound listener greets its clients as its TLS section says. -/
theorem greeting_bound (hsni : rustls.ResolvesSni) (arc : ConfigArc) (listener : ListenerConfig)
    (sni : Option String) :
    Offers rustls listener sni
      ((bound rustls arc listener).transport.greeting rustls sni) := by
  unfold bound ListenerState.transport
  cases hacceptor : tlsAcceptor rustls listener with
  | none =>
    refine .plain fun hhttps hterminates => ?_
    rw [← tlsAcceptor_isSome_iff hhttps, hacceptor] at hterminates
    cases hterminates
  | some resolver =>
    obtain ⟨hhttps, tls, htls, hbuild⟩ := tlsAcceptor_eq_some hacceptor
    have hkey := resolve_eq_certificateFor hsni hbuild sni
    dsimp only [Transport.greeting]
    rw [hkey]
    exact .handshake hhttps htls (buildTlsAcceptor_eq_some_iff.mp ⟨resolver, hbuild⟩)

theorem greeting_eq_iff (hsni : rustls.ResolvesSni) (arc : ConfigArc) (l₁ l₂ : ListenerConfig) :
    (∀ sni, (bound rustls arc l₁).transport.greeting rustls sni =
        (bound rustls arc l₂).transport.greeting rustls sni) ↔ OffersAlike rustls l₁ l₂ := by
  constructor
  · intro h sni greeting
    have h₁ := greeting_bound hsni arc l₁ sni
    have h₂ := greeting_bound hsni arc l₂ sni
    rw [h sni] at h₁
    constructor
    · intro hoffers
      exact hoffers.unique h₁ ▸ h₂
    · intro hoffers
      exact hoffers.unique h₂ ▸ h₁
  · intro h sni
    exact ((h sni _).mp (greeting_bound hsni arc l₁ sni)).unique (greeting_bound hsni arc l₂ sni)

/-- Which attached rules are in play is a matter of their hostnames. -/
theorem rulesInPlay_eq (config : ProxyConfig) (listenerName : String) (request : RequestMeta) :
    rulesInPlay config listenerName request =
      ((attachedRules config listenerName).filter fun attached =>
        attached.1.isEmpty || request.host.any fun host =>
          attached.1.any (hostnamePatternMatches (stripPort host))).map (·.2) := by
  have hhost : ∀ route : RouteConfig, hostnameMatches route request.host =
      (route.hostnames.isEmpty || request.host.any fun host =>
        route.hostnames.any (hostnamePatternMatches (stripPort host))) := by
    intro route
    unfold hostnameMatches
    cases route.hostnames.isEmpty <;> cases request.host <;> simp
  unfold rulesInPlay attachedRules
  induction config.routes with
  | nil => rfl
  | cons route routes ih =>
    cases hattached : route.attachedListeners.contains listenerName with
    | false => simpa only [List.filter_cons, hattached, Bool.false_and, if_false,
        Bool.false_eq_true] using ih
    | true =>
      simp only [List.filter_cons, hattached, Bool.true_and, if_true, List.flatMap_cons,
        List.filter_append, List.map_append, ← ih]
      cases hadmits : hostnameMatches route request.host with
      | false =>
        have hnone := (hhost route).symm.trans hadmits
        simp [List.filter_map, Function.comp_def, hnone]
      | true =>
        have hall := (hhost route).symm.trans hadmits
        simp [List.filter_map, Function.comp_def, hall]

/-- Names with the same rules attached are routed alike. -/
theorem route_eq_of_attachedRules (isMatch : String → String → Bool) {n₁ n₂ : String}
    (h : attachedRules config n₁ = attachedRules config n₂) (request : RequestMeta) :
    route isMatch config n₁ request = route isMatch config n₂ request := by
  rw [route_eq_winner, route_eq_winner, winner, winner, rulesInPlay_eq, rulesInPlay_eq, h]

/-- What is selected for the one name has its like among the rules attached to
the other, where both decide a request alike. -/
theorem exists_attached_of_route_eq {n₁ n₂ : String} {request : RequestMeta} {rule : RouteRule}
    {best : PrecedenceTuple} (hselects : Selects isMatch config n₁ request rule best)
    (h : route isMatch config n₁ request = route isMatch config n₂ request) :
    ∃ attached ∈ attachedRules config n₂,
      buildDecision attached.2 request = buildDecision rule request := by
  have hroute : route isMatch config n₂ request = buildDecision rule request :=
    h.symm.trans hselects.route_eq
  have hfound : route isMatch config n₂ request ≠ .notFound := by
    rw [hroute, buildDecision]
    split <;> exact nofun
  obtain ⟨rule', best', hselects'⟩ := exists_selects isMatch hfound
  have hplay := hselects'.mem
  rw [rulesInPlay_eq] at hplay
  obtain ⟨attached, hattached, rfl⟩ := List.mem_map.mp hplay
  exact ⟨attached, (List.mem_filter.mp hattached).1, hselects'.route_eq.symm.trans hroute⟩

/-! ## The sockets of a port -/

theorem mem_sockets {arc : ConfigArc} {socket : ListenerState × Pipeline} :
    socket ∈ sockets rustls arc ↔ ∃ listener ∈ arc.config.listeners,
      socket = (bound rustls arc listener, ⟨listener.name, arc.config, arc.generation⟩) := by
  rw [sockets, buildPipelines, List.zip_map', List.mem_map]
  simp only [eq_comm]

/-- **Which socket the kernel picks makes no difference** where the listeners of
a port offer their clients the same certificates and have the same rules
attached; and only where they offer the same, and have attached the like of every
rule that some request selects with the other. -/
theorem shared_port_alike (hsni : rustls.ResolvesSni) (isMatch : String → String → Bool)
    (arc : ConfigArc) :
    ((∀ l₁ ∈ arc.config.listeners, ∀ l₂ ∈ arc.config.listeners, l₁.port = l₂.port →
        OffersAlike rustls l₁ l₂ ∧
          attachedRules arc.config l₁.name = attachedRules arc.config l₂.name) →
      ∀ a ∈ sockets rustls arc, ∀ b ∈ sockets rustls arc, a.1.listener.port = b.1.listener.port →
        Indistinct rustls isMatch a b) ∧
    ((∀ a ∈ sockets rustls arc, ∀ b ∈ sockets rustls arc, a.1.listener.port = b.1.listener.port →
        Indistinct rustls isMatch a b) →
      ∀ l₁ ∈ arc.config.listeners, ∀ l₂ ∈ arc.config.listeners, l₁.port = l₂.port →
        OffersAlike rustls l₁ l₂ ∧
          ∀ request rule best, Selects isMatch arc.config l₁.name request rule best →
            ∃ attached ∈ attachedRules arc.config l₂.name,
              buildDecision attached.2 request = buildDecision rule request) := by
  constructor
  · intro h a ha b hb hport
    obtain ⟨l₁, hl₁, rfl⟩ := mem_sockets.mp ha
    obtain ⟨l₂, hl₂, rfl⟩ := mem_sockets.mp hb
    obtain ⟨hoffers, hattached⟩ := h l₁ hl₁ l₂ hl₂ hport
    have hroute := route_eq_of_attachedRules isMatch hattached
    -- the name plays no part once the decision is taken
    refine ⟨(greeting_eq_iff hsni arc l₁ l₂).mpr hoffers, hroute, ?_, ?_⟩
    · intro Addr env routingMeta request
      simp only [RouteAndFilter.call, hroute]
    · intro Addr env routingMeta
      simp only [handleWebsocketUpgrade, hroute]
  · intro h l₁ hl₁ l₂ hl₂ hport
    have hindistinct :=
      h _ (mem_sockets.mpr ⟨l₁, hl₁, rfl⟩) _ (mem_sockets.mpr ⟨l₂, hl₂, rfl⟩) hport
    exact ⟨(greeting_eq_iff hsni arc l₁ l₂).mp hindistinct.greeting,
      fun request rule best hselects =>
        exists_attached_of_route_eq hselects (hindistinct.decision request)⟩

theorem resolvesSni_emptyRustls : emptyRustls.ResolvesSni where
  single _ _ := rfl
  unnamed _ := rfl
  named _ _ := rfl

/-- Two listeners on port 80, with one route that is attached to some of them. -/
def sharedPort (attachedListeners : List String) : ProxyConfig where
  listeners := [plainListener "a", plainListener "b"]
  routes :=
    [{ name := "web", «namespace» := "gw", attachedListeners
       rules := [{ «matches» := [], backends := [svcA] }] }]

/-- Attached to both, the route is found on either socket. -/
theorem sharedPort_indistinct :
    (sockets emptyRustls ⟨0, sharedPort ["a", "b"], 0⟩).map (·.1.listener.port) = [80, 80] ∧
      ∀ a ∈ sockets emptyRustls ⟨0, sharedPort ["a", "b"], 0⟩,
        ∀ b ∈ sockets emptyRustls ⟨0, sharedPort ["a", "b"], 0⟩,
          a.1.listener.port = b.1.listener.port →
            Indistinct emptyRustls (fun _ _ => false) a b := by
  have hplain : ∀ l ∈ (sharedPort ["a", "b"]).listeners, l.protocol = .http ∧
      (l.name = "a" ∨ l.name = "b") := by decide
  have hunsecured : ∀ l ∈ (sharedPort ["a", "b"]).listeners, ∀ sni greeting,
      Offers emptyRustls l sni greeting ↔ greeting = .plain := by
    intro l hl sni greeting
    have hhttp : l.protocol ≠ .https := by simp [(hplain l hl).1]
    have hoffers : Offers emptyRustls l sni .plain := .plain fun hhttps => absurd hhttps hhttp
    constructor
    · exact fun h => h.unique hoffers
    · rintro rfl
      exact hoffers
  refine ⟨rfl, (shared_port_alike resolvesSni_emptyRustls (fun _ _ => false) ⟨0, _, 0⟩).1 ?_⟩
  intro l₁ hl₁ l₂ hl₂ _
  have hattached : ∀ l ∈ (sharedPort ["a", "b"]).listeners,
      attachedRules (sharedPort ["a", "b"]) l.name = attachedRules (sharedPort ["a", "b"]) "a" := by
    decide
  refine ⟨fun sni greeting => ?_, (hattached l₁ hl₁).trans (hattached l₂ hl₂).symm⟩
  rw [hunsecured l₁ hl₁, hunsecured l₂ hl₂]

/-- Half of the connections to the port find the route. -/
theorem sharedPort_distinct :
    ¬ ∀ (rustls : Rustls), rustls.ResolvesSni → ∀ (isMatch : String → String → Bool)
        (arc : ConfigArc), ∀ a ∈ sockets rustls arc, ∀ b ∈ sockets rustls arc,
      a.1.listener.port = b.1.listener.port → Indistinct rustls isMatch a b := by
  intro hall
  have h := hall emptyRustls resolvesSni_emptyRustls (fun _ _ => false)
    ⟨0, sharedPort ["a"], 0⟩ _ List.mem_cons_self _ (List.mem_cons_of_mem _ List.mem_cons_self) rfl
  have hdecision := h.decision { host := none, path := "/" }
  have hfound : route (fun _ _ => false) (sharedPort ["a"]) "a" { host := none, path := "/" } =
      .forward [svcA] [] none := rfl
  have hnot : route (fun _ _ => false) (sharedPort ["a"]) "b" { host := none, path := "/" } =
      .notFound := rfl
  have hsame : RoutingDecision.forward [svcA] [] none = .notFound :=
    hfound.symm.trans (hdecision.trans hnot)
  cases hsame

end Multiway.ProxyCore.Server
