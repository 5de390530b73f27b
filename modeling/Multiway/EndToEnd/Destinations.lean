import Multiway.EndToEnd.Deployment
import Multiway.EndToEnd.Hostnames
import Multiway.ProxyCore.Destinations
import Multiway.ProxyCore.Panics

/-!
# From a request back to its HTTPRoute

A Gateway's data plane looks up and connects to nothing but what an HTTPRoute
says: whatever a worker does for a request, at any point of any run of the
deployment, is for a rule of an HTTPRoute that names the Gateway, as it stood in
some state of the cluster, and goes to a `backendRef` or a mirror of that rule
(`requests_go_where_routes_say`).
-/

namespace Multiway.EndToEnd

open Multiway.Lib
open Multiway.Kube
open Multiway.ControlPlane (Objects ControllerConfig ComputedFrom AdmittedTimeouts GatewayConfig
  referencesGateway)
open Multiway.DataPlane (Args)
open Multiway.ProxyCore (Destination Env GoesTo RequestMeta Rustls Selects)
open Multiway.ProxyCore.Server (Running Worker)

/-- The rule names the destination, in a `backendRef` or a mirror filter. -/
inductive Names (rule : HttpRouteRules) : String → UInt16 → Prop
  | backendRef {ref : HttpRouteRulesBackendRefs} (h : ref ∈ rule.backendRefs.getD [])
      (hweight : UInt32.ofInt (ref.weight.getD 1) ≠ 0) :
      Names rule ref.name (UInt16.ofInt (ref.port.getD 80))
  | mirror {filter : HttpRouteRulesFilters} {mirror : RequestMirror}
      (h : filter ∈ rule.filters.getD []) (htype : filter.type = .requestMirror)
      (hmirror : filter.requestMirror = some mirror) :
      Names rule mirror.backendRef.name (UInt16.ofInt (mirror.backendRef.port.getD 80))

/-- A rule of an HTTPRoute as the data plane has it. -/
def programmedRule (route : HTTPRoute) (rule : HttpRouteRules) : ProxyCore.RouteRule :=
  translateRule (ControlPlane.convertRule (namespaceOf route) rule)

theorem mirror_of_convertFilter {filter : HttpRouteRulesFilters}
    {backend : ControlPlane.BackendRef} {percent : Option UInt32}
    (h : ControlPlane.convertFilter filter = some (.requestMirror backend percent)) :
    filter.type = .requestMirror ∧ ∃ mirror, filter.requestMirror = some mirror ∧
      backend = ControlPlane.convertMirrorBackend mirror.backendRef := by
  unfold ControlPlane.convertFilter at h
  cases htype : filter.type with
  | requestMirror =>
    rw [htype] at h
    obtain ⟨mirror, hmirror, heq⟩ := Option.map_eq_some_iff.mp h
    injection heq with hbackend
    exact ⟨rfl, mirror, hmirror, hbackend.symm⟩
  | requestRedirect =>
    rw [htype] at h
    obtain ⟨_, -, heq⟩ := Option.map_eq_some_iff.mp h
    cases heq
  | urlRewrite =>
    rw [htype] at h
    obtain ⟨_, -, heq⟩ := Option.map_eq_some_iff.mp h
    cases heq
  | _ =>
    rw [htype] at h
    cases h

theorem mirror_of_translateFilter {filter : ControlPlane.RouteFilter} {backend : ProxyCore.Backend}
    {percent : Option UInt32} (h : translateFilter filter = .requestMirror backend percent) :
    ∃ converted, filter = .requestMirror converted percent ∧
      backend = translateBackend converted := by
  cases filter with
  | requestMirror converted _ =>
    injection h with hbackend hpercent
    exact ⟨converted, by rw [hpercent], hbackend.symm⟩
  | _ => cases h

/-- Conversion and translation add no destination. -/
theorem names_of_destination {route : HTTPRoute} {rule : HttpRouteRules} {host : String}
    {port : UInt16} (h : Destination (programmedRule route rule) host port) :
    Names rule host port := by
  cases h with
  | backend hmem hweight =>
    obtain ⟨converted, hconverted, rfl⟩ := List.mem_map.mp hmem
    obtain ⟨ref, href, rfl⟩ := List.mem_map.mp hconverted
    exact .backendRef href hweight
  | mirror hmem =>
    obtain ⟨converted, hconverted, htranslated⟩ := List.mem_map.mp hmem
    obtain ⟨backend, rfl, rfl⟩ := mirror_of_translateFilter htranslated
    obtain ⟨filter, hfilter, hconvert⟩ := List.mem_filterMap.mp hconverted
    obtain ⟨htype, mirror, hmirror, rfl⟩ := mirror_of_convertFilter hconvert
    exact .mirror hfilter htype hmirror

/-! ## Rules in play -/

/-- In the state of the cluster an HTTPRoute names the Gateway and admits the
host, and the rule is one of its rules. -/
structure RuleOf (args : Args) (cluster : Objects) (routingMeta : RequestMeta) (route : HTTPRoute)
    (rule : HttpRouteRules) : Prop where
  stored : route ∈ cluster.httproutes.values
  references : referencesGateway args.gatewayNamespace args.gatewayName route = true
  hostname : ∀ hostnames, route.spec.hostnames = some hostnames → hostnames ≠ [] →
    ∃ host, routingMeta.host = some host ∧ ∃ hostname ∈ hostnames,
      ProxyCore.hostnamePatternMatches (ProxyCore.stripPort host) hostname = true
  rule : rule ∈ route.spec.rules.getD []

theorem hostname_of_hostnameMatches {route : ProxyCore.RouteConfig} {host : Option String}
    (h : ProxyCore.hostnameMatches route host = true) (hne : route.hostnames ≠ []) :
    ∃ name, host = some name ∧ ∃ hostname ∈ route.hostnames,
      ProxyCore.hostnamePatternMatches (ProxyCore.stripPort name) hostname = true := by
  unfold ProxyCore.hostnameMatches at h
  rw [if_neg (by simpa using hne)] at h
  cases host with
  | none => cases h
  | some name => exact ⟨name, rfl, List.any_eq_true.mp h⟩

/-- **A rule in play is a rule of an HTTPRoute.** -/
theorem ruleOf_of_selects {args : Args} {cluster : Objects} {c : GatewayConfig}
    (hcomputed : ComputedFrom cluster args.gatewayNamespace args.gatewayName c)
    {isMatch : String → String → Bool} {listenerName : String} {routingMeta : RequestMeta}
    {rule : ProxyCore.RouteRule} {best : ProxyCore.PrecedenceTuple}
    (hselects : Selects isMatch (translate c) listenerName routingMeta rule best) :
    ∃ route rule', RuleOf args cluster routingMeta route rule' ∧
      rule = programmedRule route rule' := by
  obtain ⟨now, target, snapshot, gateway, -, hfetch, hgateway, rfl⟩ := hcomputed
  have hname : nameAny gateway = args.gatewayName := congrArg Prod.snd (Store.key_of_get? hgateway)
  have hplay := hselects.mem
  unfold ProxyCore.rulesInPlay at hplay
  obtain ⟨config, hconfig, hrule⟩ := List.mem_flatMap.mp hplay
  obtain ⟨hroutes, hadmits⟩ := List.mem_filter.mp hconfig
  -- back from the rule that was selected to the route it was converted from
  have hprogrammed : config ∈
      (programmedConfig gateway args.gatewayNamespace snapshot).routes := hroutes
  rw [routes_programmedConfig, hname] at hprogrammed
  obtain ⟨route, hroute, rfl⟩ := List.mem_map.mp hprogrammed
  obtain ⟨hfetched, hreferences⟩ := List.mem_filter.mp hroute
  obtain ⟨converted, hconverted, rfl⟩ := List.mem_map.mp hrule
  obtain ⟨rule', hrule', rfl⟩ := List.mem_map.mp hconverted
  refine ⟨route, rule', ⟨?_, hreferences, fun hostnames hhostnames hne => ?_, hrule'⟩, rfl⟩
  · have hget := (ControlPlane.fragment_fetchSnapshot hfetch).httproutes _ _
      (Store.mem_values.mp hfetched)
    exact Store.mem_values_of_get? hget
  · have hsame : (programmedRoute gateway route).hostnames = hostnames := by
      change route.spec.hostnames.getD [] = hostnames
      rw [hhostnames, Option.getD_some]
    have hmatches := hostname_of_hostnameMatches (Bool.and_eq_true_iff.mp hadmits).2
      (by rw [hsame]; exact hne)
    rwa [hsame] at hmatches

/-! ## Every run -/

/-- **Requests go where HTTPRoutes say.** In every run of the deployment in which
nobody else writes the ConfigMap, whatever a worker's pipeline does for a request or a WebSocket upgrade other
than answering the client itself, it does for the rule that is selected; that is
a rule of an HTTPRoute which, in one state the cluster has been in, names the
Gateway and admits the request's host; and what is looked up and connected to is
a `backendRef` of the rule with a weight, or one of its mirrors. -/
theorem requests_go_where_routes_say (args : Args) (config : ControllerConfig) (rustls : Rustls)
    {objects : Objects} (hadmitted : AdmittedTimeouts objects) {es : List WorldEvent} {w : World}
    (hrun : Run (Guarded (World.Undisturbed args) (stepOf (World.step args config rustls)))
      (.init objects) es w) {s : Running} (hprocess : w.process = some s) {i : ℕ} {worker : Worker}
    (hthread : s.threads[i]? = some (.running worker)) {pipeline : ProxyCore.Server.Pipeline}
    (hpipeline : pipeline ∈ worker.pipelines) {Addr : Type} (env : Env Addr)
    (isMatch : String → String → Bool) (routingMeta : RequestMeta) (request : ProxyCore.Request)
    {e : ProxyCore.Effect Addr}
    (he : e ∈ (ProxyCore.RouteAndFilter.call env isMatch pipeline.proxyConfig
        pipeline.listenerName routingMeta request).1 ∨
      e ∈ ProxyCore.handleWebsocketUpgrade env isMatch pipeline.proxyConfig
        pipeline.listenerName routingMeta)
    (hout : ∀ text, e ≠ .writeClient text) :
    ∃ cluster ∈ w.visited, ∃ route rule best, RuleOf args cluster routingMeta route rule ∧
      Selects isMatch pipeline.proxyConfig pipeline.listenerName routingMeta
        (programmedRule route rule) best ∧ GoesTo env (Names rule) e := by
  have hsound := hrun.invariant (fun _ _ _ hstep hs => hs.step hstep) (World.Sound.init hadmitted)
  obtain ⟨c, ⟨cluster, hcluster, hcomputed⟩, hconfig⟩ :=
    (hsound.process s hprocess).pipelines i worker hthread pipeline hpipeline
  have hgoes : ∃ rule best, Selects isMatch pipeline.proxyConfig pipeline.listenerName routingMeta
      rule best ∧ GoesTo env (Destination rule) e := by
    rcases he with hcall | hupgrade
    · exact ProxyCore.goesTo_call hcall
    · exact ProxyCore.goesTo_handleWebsocketUpgrade hupgrade hout
  obtain ⟨rule, best, hselects, hgoes⟩ := hgoes
  rw [hconfig] at hselects
  obtain ⟨route, rule', hruleOf, rfl⟩ := ruleOf_of_selects hcomputed hselects
  rw [← hconfig] at hselects
  exact ⟨cluster, hcluster, route, rule', best, hruleOf, hselects,
    hgoes.mono fun _ _ => names_of_destination⟩

/-- The Gateway with one route, to the Service `svc`. -/
def serviced : Objects :=
  ControlPlane.clusterWith [ControlPlane.httpListener "http" 80]
    [ControlPlane.routeNamed "a" none [{ name := "svc" }]]

theorem admittedTimeouts_serviced : AdmittedTimeouts serviced := by
  intro route hroute rule hrule timeouts htimeouts
  have hvalues : serviced.httproutes.values =
      [ControlPlane.routeNamed "a" none [{ name := "svc" }]] := Store.values_insert_empty _
  rw [hvalues, List.mem_singleton] at hroute
  obtain rfl := hroute
  obtain rfl := List.mem_singleton.mp hrule
  cases htimeouts

def servicedRollout : List WorldEvent :=
  [.control (.fetch 0 0 (.gateway "default" "gw")), .control (.patch 0 serviced),
    .control (.get 0), .control (.put 0), .start 0 none, .server (.enter 0 fun _ => true)]

/-- A worker asks for the Service's address. -/
def asksFor (w : World) : Bool :=
  w.process.any fun s => (s.threads[0]?).any fun
    | .running worker => worker.pipelines.any fun pipeline =>
      (ProxyCore.RouteAndFilter.call (Env.reachable ProxyCore.plainHttp) (fun _ _ => false)
        pipeline.proxyConfig pipeline.listenerName { host := none, path := "/" }
        ⟨"GET", "/", [], .none⟩).1.head? == some (.resolve "svc" 80)
    | _ => false

theorem servicedRollout_goes_where_its_route_says :
    ∃ w, execAll (World.step ⟨"gw", "default"⟩ {} ProxyCore.Server.emptyRustls) (.init serviced)
        servicedRollout = some w ∧
      ∃ cluster ∈ w.visited, ∃ route rule,
        RuleOf ⟨"gw", "default"⟩ cluster { host := none, path := "/" } route rule ∧
          GoesTo (Env.reachable ProxyCore.plainHttp) (Names rule) (.resolve "svc" 80) := by
  have hasked : ((execAll (World.step ⟨"gw", "default"⟩ {} ProxyCore.Server.emptyRustls)
      (.init serviced) servicedRollout).any asksFor) = true := rfl
  obtain ⟨w, hexec, hasks⟩ := (Option.any_eq_true _ _).mp hasked
  have hrun : Run (Guarded (World.Undisturbed ⟨"gw", "default"⟩)
      (stepOf (World.step ⟨"gw", "default"⟩ {} ProxyCore.Server.emptyRustls)))
      (.init serviced) servicedRollout w := by
    refine Run.guarded_of_execAll hexec fun event hevent _ => ?_
    simp only [servicedRollout, List.mem_cons, List.not_mem_nil, or_false] at hevent
    rcases hevent with rfl | rfl | rfl | rfl | rfl | rfl
    · trivial
    · exact admittedTimeouts_serviced
    all_goals trivial
  obtain ⟨s, hprocess, hthreads⟩ := (Option.any_eq_true _ _).mp hasks
  obtain ⟨thread, hthread, hpipelines⟩ := (Option.any_eq_true _ _).mp hthreads
  cases thread with
  | running worker =>
    obtain ⟨pipeline, hpipeline, heffect⟩ := List.any_eq_true.mp hpipelines
    have he := List.mem_of_mem_head? (Option.mem_def.mpr (beq_iff_eq.mp heffect))
    obtain ⟨cluster, hcluster, route, rule, -, hruleOf, -, hgoes⟩ :=
      requests_go_where_routes_say ⟨"gw", "default"⟩ {} ProxyCore.Server.emptyRustls
        admittedTimeouts_serviced hrun hprocess hthread hpipeline
        (Env.reachable ProxyCore.plainHttp) (fun _ _ => false) { host := none, path := "/" } ⟨"GET", "/", [], .none⟩ (.inl he) nofun
    exact ⟨w, hexec, cluster, hcluster, route, rule, hruleOf, hgoes⟩
  | _ => cases hpipelines

end Multiway.EndToEnd
