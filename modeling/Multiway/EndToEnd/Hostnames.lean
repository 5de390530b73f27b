import Multiway.ControlPlane.Acceptance
import Multiway.ControlPlane.Attachment
import Multiway.EndToEnd.WireFormat
import Multiway.Lib.NamePattern
import Multiway.ProxyCore.HostMatching
import Multiway.ProxyCore.RouteSpec

/-!
# Listener hostnames

A listener's hostname is meant to restrict the requests the listener takes, and
the route hostnames that apply there. The control plane copies it into the
configuration next to the routes, every route under every listener's name, and
`route` looks at the routes' hostnames only. So a listener restricts a request
exactly when its hostname would have admitted it anyway, or when no route
wanted it (`listenerRestricts_iff`).

A hostname stands for a set of names (`Lib.NamePattern`); the data plane's
matching stays within that set (`mem_hostnameNames`), a wildcard takes one label
there and any number of labels in the Gateway API.
-/

namespace Multiway.EndToEnd

open Multiway.Kube
open Multiway.ControlPlane (WorldSnapshot buildGatewayConfig convertHttprouteToConfig)
open Multiway.Lib (NamePattern)
open Multiway.Lib.Text
open Multiway.ProxyCore (RequestMeta hostnamePatternMatches hostnameMatches stripPort)

/-! ## What a hostname stands for -/

/-- A hostname, in any case of its letters. -/
def hostnamePattern (hostname : String) : NamePattern Char :=
  match hostname.toList with
  | '*' :: '.' :: domain => .wildcard (toAsciiLowercase domain)
  | name => .exact (toAsciiLowercase name)

theorem hostnamePattern_wildcard {hostname : String} {domain : List Char}
    (h : hostname.toList = '*' :: '.' :: domain) :
    hostnamePattern hostname = .wildcard (toAsciiLowercase domain) := by
  simp only [hostnamePattern, h]

theorem hostnamePattern_exact {hostname : String}
    (h : ∀ domain, hostname.toList ≠ '*' :: '.' :: domain) :
    hostnamePattern hostname = .exact (toAsciiLowercase hostname.toList) := by
  unfold hostnamePattern
  split
  next domain hwildcard => exact absurd hwildcard (h domain)
  next => rfl

def hostnameNames (hostname : String) : Set (List Char) := (hostnamePattern hostname).names '.'

instance decidableMemHostnameNames (name : List Char) (hostname : String) :
    Decidable (name ∈ hostnameNames hostname) :=
  NamePattern.decidableMemNames '.' name (hostnamePattern hostname)

/-- The request has a host, and it is one the hostname stands for. -/
def HostMatches (hostname : String) (request : RequestMeta) : Prop :=
  ∃ host, request.host = some host ∧
    toAsciiLowercase (stripPort host).toList ∈ hostnameNames hostname

/-- What the data plane matches, the hostname stands for. -/
theorem mem_hostnameNames {host hostname : String}
    (h : hostnamePatternMatches host hostname = true) :
    toAsciiLowercase host.toList ∈ hostnameNames hostname := by
  rw [hostnameNames]
  by_cases hwildcard : ∃ domain, hostname.toList = '*' :: '.' :: domain
  · obtain ⟨domain, hpattern⟩ := hwildcard
    obtain ⟨label, hlabel, -, hhost⟩ :=
      (ProxyCore.hostnamePatternMatches_wildcard_iff hpattern).mp h
    rw [hostnamePattern_wildcard hpattern]
    exact ⟨label, hlabel, hhost⟩
  · have hexact : ∀ domain, hostname.toList ≠ '*' :: '.' :: domain :=
      fun domain hpattern => hwildcard ⟨domain, hpattern⟩
    rw [ProxyCore.hostnamePatternMatches_exact hexact] at h
    rw [hostnamePattern_exact hexact]
    exact eq_of_beq h

/-! ## What the control plane programs -/

/-- The configuration the data plane routes by. -/
def programmedConfig (gateway : Gateway) (ns : String) (snapshot : WorldSnapshot) :
    ProxyCore.ProxyConfig :=
  translate (buildGatewayConfig gateway ns snapshot).1

/-- A route of the cluster as the data plane has it, under every listener. -/
def programmedRoute (gateway : Gateway) (route : HTTPRoute) : ProxyCore.RouteConfig :=
  translateRoute (convertHttprouteToConfig route (gateway.spec.listeners.map GatewayListeners.name))

theorem routes_programmedConfig (gateway : Gateway) (ns : String) (snapshot : WorldSnapshot) :
    (programmedConfig gateway ns snapshot).routes =
      (snapshot.routesForGateway ns (nameAny gateway)).map (programmedRoute gateway) := by
  simp only [programmedConfig, translate, ControlPlane.routes_buildGatewayConfig, List.map_map]
  rfl

/-- Every route is programmed under every listener of its Gateway. -/
theorem attached_programmedRoute {gateway : Gateway} {listener : GatewayListeners}
    (hlistener : listener ∈ gateway.spec.listeners) (route : HTTPRoute) :
    (programmedRoute gateway route).attachedListeners.contains listener.name = true :=
  List.contains_iff_mem.mpr (List.mem_map_of_mem hlistener)

/-- The hostnames of the route admit the host, and one of its rules matches. -/
def RouteWants (isMatch : String → String → Bool) (route : ProxyCore.RouteConfig)
    (request : RequestMeta) : Prop :=
  hostnameMatches route request.host = true ∧
    ∃ rule ∈ route.rules, (ProxyCore.offers isMatch rule request).Nonempty

/-- A request is answered when some route of the Gateway wants it, at whatever
listener it arrives. -/
theorem route_programmedConfig_ne_notFound {isMatch : String → String → Bool} {gateway : Gateway}
    {ns : String} {snapshot : WorldSnapshot} {listener : GatewayListeners}
    (hlistener : listener ∈ gateway.spec.listeners) {request : RequestMeta} :
    ProxyCore.route isMatch (programmedConfig gateway ns snapshot) listener.name request ≠
        .notFound ↔
      ∃ route ∈ snapshot.routesForGateway ns (nameAny gateway),
        RouteWants isMatch (programmedRoute gateway route) request := by
  rw [ne_eq, ProxyCore.route_eq_notFound_iff]
  push Not
  simp only [ProxyCore.rulesInPlay, routes_programmedConfig, List.mem_flatMap, List.mem_filter,
    List.mem_map, Bool.and_eq_true]
  constructor
  · rintro ⟨rule, ⟨_, ⟨⟨route, hroute, rfl⟩, -, hhost⟩, hrule⟩, hoffers⟩
    exact ⟨route, hroute, hhost, rule, hrule, hoffers⟩
  · rintro ⟨route, hroute, hhost, rule, hrule, hoffers⟩
    exact ⟨rule, ⟨_, ⟨⟨route, hroute, rfl⟩, attached_programmedRoute hlistener route, hhost⟩,
      hrule⟩, hoffers⟩

/-! ## Restricting -/

/-- Where the listener has a hostname, what is not of that hostname is not
answered, and no route hostname that has nothing in common with it matches. -/
structure ListenerRestricts (isMatch : String → String → Bool) (config : ProxyCore.ProxyConfig)
    (listener : GatewayListeners) (request : RequestMeta) : Prop where
  answered : ∀ hostname, listener.hostname = some hostname →
    ProxyCore.route isMatch config listener.name request ≠ .notFound →
      HostMatches hostname request
  disjoint : ∀ hostname, listener.hostname = some hostname →
    ∀ route ∈ config.routes, route.attachedListeners.contains listener.name = true →
      ∀ pattern ∈ route.hostnames,
        Disjoint (hostnameNames pattern) (hostnameNames hostname) →
          ∀ host, request.host = some host →
            hostnamePatternMatches (stripPort host) pattern = false

/-- **A listener hostname restricts nothing.** The promise is kept for a
request exactly when its host is one of the hostname anyway, or when no route
of the Gateway wants it and no disjoint hostname of theirs matches it. -/
theorem listenerRestricts_iff (isMatch : String → String → Bool) {gateway : Gateway}
    {ns : String} {snapshot : WorldSnapshot} {listener : GatewayListeners} {hostname : String}
    (hlistener : listener ∈ gateway.spec.listeners)
    (hhostname : listener.hostname = some hostname) (request : RequestMeta) :
    ListenerRestricts isMatch (programmedConfig gateway ns snapshot) listener request ↔
      HostMatches hostname request ∨
        ∀ route ∈ snapshot.routesForGateway ns (nameAny gateway),
          ¬ RouteWants isMatch (programmedRoute gateway route) request ∧
          ∀ pattern ∈ route.spec.hostnames.getD [],
            Disjoint (hostnameNames pattern) (hostnameNames hostname) →
              ∀ host, request.host = some host →
                hostnamePatternMatches (stripPort host) pattern = false := by
  constructor
  · intro h
    by_cases hmatches : HostMatches hostname request
    · exact .inl hmatches
    refine .inr fun route hroute => ⟨fun hwants => hmatches ?_, fun pattern hpattern => ?_⟩
    · exact h.answered hostname hhostname
        ((route_programmedConfig_ne_notFound hlistener).mpr ⟨route, hroute, hwants⟩)
    · refine h.disjoint hostname hhostname (programmedRoute gateway route) ?_
        (attached_programmedRoute hlistener route) pattern hpattern
      rw [routes_programmedConfig]
      exact List.mem_map_of_mem hroute
  · rintro (⟨host, hhost, hname⟩ | hnone)
    · refine ⟨fun other hother _ => ?_,
        fun other hother route _ _ pattern _ hdisjoint host' hhost' => ?_⟩
      · obtain rfl := Option.some.inj (hhostname.symm.trans hother)
        exact ⟨host, hhost, hname⟩
      · obtain rfl := Option.some.inj (hhostname.symm.trans hother)
        obtain rfl := Option.some.inj (hhost.symm.trans hhost')
        -- a name both hostnames stand for
        refine Bool.eq_false_iff.mpr fun hpattern => ?_
        exact Set.disjoint_left.mp hdisjoint (mem_hostnameNames hpattern) hname
    · refine ⟨fun other hother hanswered => ?_,
        fun other hother route hroute _ pattern hpattern => ?_⟩
      · obtain ⟨route, hroute, hwants⟩ :=
          (route_programmedConfig_ne_notFound hlistener).mp hanswered
        exact absurd hwants (hnone route hroute).1
      · obtain rfl := Option.some.inj (hhostname.symm.trans hother)
        rw [routes_programmedConfig] at hroute
        obtain ⟨source, hsource, rfl⟩ := List.mem_map.mp hroute
        exact (hnone source hsource).2 pattern hpattern

/-- A listener for `*.example.com`. -/
def exampleListener : GatewayListeners :=
  { ControlPlane.httpListener "http" 80 with hostname := some "*.example.com" }

/-- A route for a host outside `example.com`. -/
def netRoute : HTTPRoute :=
  { ControlPlane.routeNamed "web" none [] with
    spec :=
      { (ControlPlane.routeNamed "web" none []).spec with
        hostnames := some ["test.example.net"] } }

def exampleSnapshot : WorldSnapshot :=
  .full (ControlPlane.clusterWith [exampleListener] [netRoute]) 0

theorem exampleListener_restricts :
    ListenerRestricts (fun _ _ => false)
      (programmedConfig (ControlPlane.gatewayWith [exampleListener]) "default" exampleSnapshot)
      exampleListener { host := some "Test.example.com:8080", path := "/" } :=
  (listenerRestricts_iff _ List.mem_cons_self rfl _).mpr (.inl ⟨_, rfl, by decide⟩)

/-- The listener answers for `test.example.net`. -/
theorem listener_not_restricted :
    ¬ ∀ (isMatch : String → String → Bool) (gateway : Gateway) (ns : String)
        (snapshot : WorldSnapshot) (listener : GatewayListeners) (hostname : String)
        (request : RequestMeta),
      listener ∈ gateway.spec.listeners → listener.hostname = some hostname →
        ListenerRestricts isMatch (programmedConfig gateway ns snapshot) listener request := by
  intro hall
  have h := hall (fun _ _ => false) (ControlPlane.gatewayWith [exampleListener]) "default"
    exampleSnapshot exampleListener "*.example.com"
    { host := some "test.example.net", path := "/" } List.mem_cons_self rfl
  obtain ⟨host, hhost, hname⟩ := h.answered _ rfl (by decide)
  obtain rfl := Option.some.inj hhost
  exact absurd hname (by decide)

end Multiway.EndToEnd
