import Multiway.EndToEnd.Destinations
import Multiway.EndToEnd.Rollout

/-!
# Whose routes a request depends on

Teams that share a Gateway share its ConfigMap and its data plane. A request is
decided by the HTTPRoutes that bear on it, those that name the Gateway and admit
the host, and by nothing else in the cluster: whatever other teams do to theirs,
the decision is the same (`decision_isolated`).
-/

namespace Multiway.EndToEnd

open Multiway.Lib
open Multiway.Kube
open Multiway.ControlPlane (Objects GatewayConfig AdmittedTimeouts convertHttprouteToConfig
  referencesGateway shownToGateways desiredConfigmap)
open Multiway.DataPlane (Args)
open Multiway.ProxyCore (RequestMeta)

/-- The data plane's test of the hostnames of a route. -/
def admitsHost (host : Option String) (route : HTTPRoute) : Bool :=
  ProxyCore.hostnameMatches (translateRoute (convertHttprouteToConfig route [])) host

def bearsOn (args : Args) (host : Option String) (route : HTTPRoute) : Bool :=
  referencesGateway args.gatewayNamespace args.gatewayName route && admitsHost host route

/-- The rules of a route as the data plane has them. -/
def programmedRules (route : HTTPRoute) : List ProxyCore.RouteRule :=
  (route.spec.rules.getD []).map (programmedRule route)

theorem rules_programmedRoute (gateway : Gateway) (route : HTTPRoute) :
    (programmedRoute gateway route).rules = programmedRules route := by
  unfold programmedRoute translateRoute convertHttprouteToConfig programmedRules
  rw [List.map_map]
  rfl

/-- **The rules in play** for a request, at any listener of the Gateway, are
those of the routes that bear on it. -/
theorem rulesInPlay_current {cluster : Objects} {args : Args} {c : GatewayConfig}
    (h : currentConfig cluster args = some c) {listenerName : String}
    (hlistener : listenerName ∈ c.listeners.map ControlPlane.ListenerConfig.name)
    (request : RequestMeta) :
    ProxyCore.rulesInPlay (translate c) listenerName request =
      (cluster.httproutes.values.filter (bearsOn args request.host)).flatMap programmedRules := by
  obtain ⟨gateway, hready, rfl⟩ := Option.map_eq_some_iff.mp h
  have hname := ControlPlane.nameAny_of_getGateway (ControlPlane.getGateway_of_ready hready)
  obtain ⟨converted, hconverted, rfl⟩ := List.mem_map.mp hlistener
  obtain ⟨listener, hmem, rfl⟩ := List.mem_map.mp hconverted
  have hroutes := routes_programmedConfig gateway args.gatewayNamespace (shownToGateways cluster)
  -- a programmed route is attached to every listener, so only its hostnames count
  have hadmits : ∀ route : HTTPRoute,
      ((programmedRoute gateway route).attachedListeners.contains listener.name &&
        ProxyCore.hostnameMatches (programmedRoute gateway route) request.host) =
          admitsHost request.host route := by
    intro route
    rw [attached_programmedRoute hmem route, Bool.true_and]
    rfl
  show ((programmedConfig gateway args.gatewayNamespace (shownToGateways cluster)).routes.filter
    fun route => route.attachedListeners.contains listener.name &&
      ProxyCore.hostnameMatches route request.host).flatMap ProxyCore.RouteConfig.rules = _
  rw [hroutes, hname, List.filter_map, List.flatMap_map]
  -- the routes that name the Gateway are filtered before they are converted
  have hfilter : ((shownToGateways cluster).routesForGateway args.gatewayNamespace
      args.gatewayName).filter (fun route => admitsHost request.host route) =
        cluster.httproutes.values.filter (bearsOn args request.host) := by
    show (cluster.httproutes.values.filter (referencesGateway args.gatewayNamespace
      args.gatewayName)).filter _ = _
    rw [List.filter_filter]
    refine List.filter_congr fun route _ => ?_
    rw [bearsOn, Bool.and_comm]
  rw [← hfilter]
  simp only [Function.comp_def, hadmits, rules_programmedRoute]

/-- What a data plane reads of the ConfigMap that the cluster asks for. -/
theorem parse_of_current {cluster : Objects} {args : Args} {c : GatewayConfig}
    (hadmitted : AdmittedTimeouts cluster) (h : currentConfig cluster args = some c) :
    ∃ configmap, desiredConfigmap cluster args.gatewayNamespace args.gatewayName =
        some configmap ∧ DataPlane.parseConfigFromConfigmap configmap = .ok (translate c) := by
  obtain ⟨gateway, hready, -⟩ := Option.map_eq_some_iff.mp h
  have hdesired : desiredConfigmap cluster args.gatewayNamespace args.gatewayName = some
      (ControlPlane.gatewayConfigmap (shownToGateways cluster) args.gatewayNamespace
        args.gatewayName gateway) := congrArg (Option.map _) hready
  obtain ⟨c', hcurrent, hreads⟩ := parse_desired hadmitted (congrArg (Option.map _) hdesired)
  obtain rfl := Option.some.inj (h.symm.trans hcurrent)
  exact ⟨_, hdesired, hreads _ rfl⟩

/-- **Isolation.** However two states of the cluster differ, in routes of other
Gateways and other hosts, in Services, Secrets or the Gateway itself: the data
plane can read the ConfigMaps that both ask for, and where both have the listener
and the same of the routes that bear on the request, it decides it alike under
what it reads. -/
theorem decision_isolated (isMatch : String → String → Bool) (args : Args)
    {cluster cluster' : Objects} {c c' : GatewayConfig}
    (h : currentConfig cluster args = some c) (h' : currentConfig cluster' args = some c')
    {listenerName : String}
    (hlistener : listenerName ∈ c.listeners.map ControlPlane.ListenerConfig.name)
    (hlistener' : listenerName ∈ c'.listeners.map ControlPlane.ListenerConfig.name)
    (request : RequestMeta)
    (hroutes : ∀ route, bearsOn args request.host route = true →
      (cluster.httproutes.get? (objectKey route) = some route ↔
        cluster'.httproutes.get? (objectKey route) = some route)) :
    ProxyCore.route isMatch (translate c) listenerName request =
        ProxyCore.route isMatch (translate c') listenerName request ∧
      (AdmittedTimeouts cluster → AdmittedTimeouts cluster' →
        ∃ configmap configmap' served served',
          desiredConfigmap cluster args.gatewayNamespace args.gatewayName = some configmap ∧
          desiredConfigmap cluster' args.gatewayNamespace args.gatewayName = some configmap' ∧
          DataPlane.parseConfigFromConfigmap configmap = .ok served ∧
          DataPlane.parseConfigFromConfigmap configmap' = .ok served' ∧
          ProxyCore.route isMatch served listenerName request =
            ProxyCore.route isMatch served' listenerName request) := by
  have hplay : ProxyCore.rulesInPlay (translate c) listenerName request =
      ProxyCore.rulesInPlay (translate c') listenerName request := by
    rw [rulesInPlay_current h hlistener, rulesInPlay_current h' hlistener',
      Store.filter_values_congr hroutes]
  have hroute : ProxyCore.route isMatch (translate c) listenerName request =
      ProxyCore.route isMatch (translate c') listenerName request := by
    rw [ProxyCore.route_eq_winner, ProxyCore.route_eq_winner, ProxyCore.winner, ProxyCore.winner,
      hplay]
  refine ⟨hroute, fun hadmitted hadmitted' => ?_⟩
  obtain ⟨configmap, hdesired, hparse⟩ := parse_of_current hadmitted h
  obtain ⟨configmap', hdesired', hparse'⟩ := parse_of_current hadmitted' h'
  exact ⟨configmap, configmap', _, _, hdesired, hdesired', hparse, hparse', hroute⟩

/-- A route of another team, for a host of its own. -/
def otherTeams : HTTPRoute where
  metadata := { name := some "b", «namespace» := some "team" }
  spec :=
    { parentRefs := some [{ name := "gw", «namespace» := some "default" }]
      hostnames := some ["b.example"]
      rules := some [{ backendRefs := some [{ name := "svc" }] }] }

/-- The other team has created its route. -/
def shared : Objects :=
  { serviced with httproutes := serviced.httproutes.insert otherTeams }

theorem get?_shared (key : String × String) :
    shared.httproutes.get? key =
      if objectKey otherTeams = key then some otherTeams else serviced.httproutes.get? key := by
  split
  next hkey => exact Store.get?_insert_of_eq _ hkey
  next hkey => exact Store.get?_insert_of_ne _ hkey

theorem admittedTimeouts_shared : AdmittedTimeouts shared := by
  intro route hroute
  have hget := Store.mem_values.mp hroute
  rw [get?_shared] at hget
  split at hget
  · obtain rfl := Option.some.inj hget
    intro rule hrule timeouts htimeouts
    obtain rfl := List.mem_singleton.mp hrule
    cases htimeouts
  · exact admittedTimeouts_serviced route (Store.mem_values.mpr hget)

theorem otherTeams_isolated :
    ∃ c c' configmap configmap' served served',
      currentConfig serviced ⟨"gw", "default"⟩ = some c ∧
      currentConfig shared ⟨"gw", "default"⟩ = some c' ∧
      c.routes.length = 1 ∧ c'.routes.length = 2 ∧
      desiredConfigmap serviced "default" "gw" = some configmap ∧
      desiredConfigmap shared "default" "gw" = some configmap' ∧
      DataPlane.parseConfigFromConfigmap configmap = .ok served ∧
      DataPlane.parseConfigFromConfigmap configmap' = .ok served' ∧
      ProxyCore.route (fun _ _ => false) served "http" ⟨some "a.example", "/", "GET", [], []⟩ =
        ProxyCore.route (fun _ _ => false) served' "http"
          ⟨some "a.example", "/", "GET", [], []⟩ := by
  have hconfig : ((currentConfig serviced ⟨"gw", "default"⟩).any fun c =>
      c.routes.length == 1 && (c.listeners.map ControlPlane.ListenerConfig.name).contains "http") =
        true := rfl
  have hconfig' : ((currentConfig shared ⟨"gw", "default"⟩).any fun c =>
      c.routes.length == 2 && (c.listeners.map ControlPlane.ListenerConfig.name).contains "http") =
        true := rfl
  simp only [Option.any_eq_true, Bool.and_eq_true, beq_iff_eq, List.contains_iff_mem]
    at hconfig hconfig'
  obtain ⟨c, hc, hone, hlistener⟩ := hconfig
  obtain ⟨c', hc', htwo, hlistener'⟩ := hconfig'
  have hsame : ∀ route, bearsOn ⟨"gw", "default"⟩ (some "a.example") route = true →
      (serviced.httproutes.get? (objectKey route) = some route ↔
        shared.httproutes.get? (objectKey route) = some route) := by
    intro route hbears
    rw [get?_shared]
    split
    next hkey =>
      have hnone : serviced.httproutes.get? (objectKey otherTeams) = none := rfl
      rw [← hkey, hnone]
      refine iff_of_false (fun hfound => by cases hfound) fun heq => ?_
      obtain rfl := Option.some.inj heq
      exact absurd hbears (by decide)
    next => rfl
  obtain ⟨configmap, configmap', served, served', hread⟩ :=
    (decision_isolated (fun _ _ => false) ⟨"gw", "default"⟩ hc hc' hlistener hlistener'
      ⟨some "a.example", "/", "GET", [], []⟩ hsame).2 admittedTimeouts_serviced
      admittedTimeouts_shared
  exact ⟨c, c', configmap, configmap', served, served', hc, hc', hone, htwo, hread⟩

end Multiway.EndToEnd
