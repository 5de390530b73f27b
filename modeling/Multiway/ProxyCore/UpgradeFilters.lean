import Multiway.ProxyCore.HeaderFilters
import Multiway.ProxyCore.KeepAlive
import Multiway.ProxyCore.RequestHead

/-!
# The filters of a rule and WebSocket upgrades

`RouteAndFilter::call` folds the filters of the matched rule into the request
and answers a redirect or a missing route itself. `handle_websocket_upgrade`
asks the same `route` and keeps the backends only: what it sends is the head as
it came (`sendBackend_mem_upgrade`), and everything that is not a backend is a
502. `followsRule_iff` says when that makes no difference: `LeavesAlone` goes
through what the filters say about each header.
-/

namespace Multiway.ProxyCore

open Multiway.Lib.Text

/-! ## What is compared -/

/-- The request line and, for each header, its values. -/
structure SameHead (a b : Request) : Prop where
  method : a.method = b.method
  uri : a.uri = b.uri
  headers : ∀ name, a.headers.values name = b.headers.values name

/-- The status of the response `RouteAndFilter::call` has for a decision that is
none to forward; `none` is a panic. -/
def decisionStatus (http : HttpCrate) : RoutingDecision → Option UInt16
  | .forward .. => none
  | .redirect redirect => (redirectResponse http redirect).map Response.status
  | .notFound => some notFoundResponse.status

/-- The status in the status line of a response text. -/
def statusOf (text : String) : Option ℕ :=
  ((splitWhitespace text.toList)[1]?).map fun digits =>
    digits.foldl (fun n c => 10 * n + (c.toNat - 48)) 0

section
variable {Addr : Type} (env : ConnectionEnv Addr) (isMatch : String → String → Bool)
  (config : ProxyConfig) (listenerName : String)

/-- The head of the upgrade a backend gets is the one `build_upstream_request`
makes of the request by the matched rule; any other decision has the client
answered with the status it has for a request. -/
def FollowsRule (codec : ServerCodec) (raw : List UInt8) (request : Request)
    (routingMeta : RequestMeta) : Prop :=
  match route isMatch config listenerName routingMeta with
  | .forward backends filters timeout =>
    ∀ addr bytes, .sendBackend addr bytes ∈ (upgrade env isMatch config listenerName raw).1 →
      ∃ sent rest forwarded, codec bytes = some sent :: rest ∧
        RouteAndFilter.forwardRequest (extractRequestMeta env.uris request) request backends
          filters timeout = some forwarded ∧
        SameHead sent.request (buildUpstreamRequest env.http forwarded.request forwarded.host
          forwarded.appliedFilter)
  | decision =>
    ∃ text, (upgrade env isMatch config listenerName raw).1 = [.pipeline (.writeClient text)] ∧
      statusOf text = (decisionStatus env.http decision).map UInt16.toNat

/-! ## What an upgrade sends -/

variable {isMatch config listenerName}

/-- A backend is selected, resolved and reached, and takes the head. -/
def Reaches (backends : List Backend) (addr : Addr) : Prop :=
  ∃ backend addrs, selectBackend env.selectDraw backends = some backend ∧
    env.resolve backend.name backend.port = some (addr :: addrs) ∧
    env.connects addr = true ∧ env.sends addr = true

theorem mem_relayUpgrade {env : ConnectionEnv Addr} {addr addr' : Addr}
    {raw bytes : List UInt8} :
    .sendBackend addr' bytes ∈ (relayUpgrade env addr raw).1 ↔
      addr' = addr ∧ bytes = raw ∧ env.connects addr = true ∧ env.sends addr = true := by
  unfold relayUpgrade
  cases hconnects : env.connects addr with
  | false => simp
  | true =>
    cases hsends : env.sends addr with
    | false => simp
    | true =>
      simp only [Bool.not_true, Bool.false_eq_true, if_false]
      split
      · simp
      · split <;> simp

/-- **What a backend gets is the head as it came.** -/
theorem sendBackend_mem_upgrade {env : ConnectionEnv Addr} {raw bytes : List UInt8}
    {routingMeta : RequestMeta}
    (hmeta : rawRoutingMeta env.http env.uris raw = some routingMeta)
    {backends : List Backend} {filters : List Filter} {timeout : Option TimeoutConfig}
    (hroute : route isMatch config listenerName routingMeta =
      .forward backends filters timeout) {addr : Addr} :
    .sendBackend addr bytes ∈ (upgrade env isMatch config listenerName raw).1 ↔
      bytes = raw ∧ Reaches env backends addr := by
  have hpipeline : ∀ effects : List (Effect Addr),
      ConnectionEffect.sendBackend addr bytes ∉ effects.map .pipeline := by
    intro effects h
    obtain ⟨effect, -, heq⟩ := List.mem_map.mp h
    cases heq
  unfold upgrade handleWebsocketUpgrade Reaches
  simp only [hmeta, hroute]
  cases hselect : selectBackend env.selectDraw backends with
  | none => simp
  | some backend =>
    cases hresolve : env.resolve backend.name backend.port with
    | none => simp [hresolve]
    | some addrs =>
      rcases addrs with _ | ⟨first, addrs⟩
      · simp [hresolve]
      · simp only [hresolve, List.getLast?_cons_cons, List.getLast?_singleton, List.mem_append,
          hpipeline, false_or, mem_relayUpgrade]
        constructor
        · intro hsent
          obtain ⟨rfl, rfl, hconnects, hsends⟩ := hsent
          exact ⟨rfl, backend, addrs, rfl, hresolve, hconnects, hsends⟩
        · intro hreaches
          obtain ⟨rfl, backend', addrs', hbackend, hresolve', hconnects, hsends⟩ := hreaches
          obtain rfl := Option.some.inj hbackend
          rw [hresolve] at hresolve'
          obtain ⟨rfl, rfl⟩ := List.cons.inj (Option.some.inj hresolve')
          exact ⟨rfl, rfl, hconnects, hsends⟩

/-- What is written to a client that has no backend. -/
def badGatewayText : String :=
  "HTTP/1.1 502 Bad Gateway\r\ncontent-length: 15\r\n\r\n502 Bad Gateway"

theorem statusOf_badGatewayText : statusOf badGatewayText = some 502 := by decide +kernel

/-- Without a backend to forward to the client gets a 502. -/
theorem upgrade_of_not_forward {env : ConnectionEnv Addr} {raw : List UInt8}
    {routingMeta : RequestMeta}
    (hmeta : rawRoutingMeta env.http env.uris raw = some routingMeta)
    (hanswers : ∀ backends filters timeout,
      route isMatch config listenerName routingMeta ≠ .forward backends filters timeout) :
    (upgrade env isMatch config listenerName raw).1 =
      [.pipeline (.writeClient badGatewayText)] := by
  unfold upgrade handleWebsocketUpgrade
  simp only [hmeta]
  cases hdecision : route isMatch config listenerName routingMeta with
  | forward backends filters timeout => exact absurd hdecision (hanswers backends filters timeout)
  | redirect redirect => rfl
  | notFound => rfl

end

/-! ## When the filters make no difference -/

/-- The rule leaves a header with the values it came with: the value it gives
was there, with those it adds; what it removes, it adds again; and where it
leaves them in place, it adds none. -/
structure HeaderLeft (http : HttpCrate) (filters : List Filter) (host : Option String)
    (headers : HeaderMap) (name : String) : Prop where
  given : ∀ value, givenValue http filters name = some value →
    headers.values name = value :: addedValues http filters name
  removed : givenValue http filters name = none → removesHeader http filters name = true →
    headers.values name =
      if name = "host" ∧ addedValues http filters name = [] then
        (host.bind http.parseHeaderValue).toList
      else addedValues http filters name
  kept : givenValue http filters name = none → removesHeader http filters name = false →
    addedValues http filters name = [] ∧
      (name = "host" → headers.values name = [] → host.bind http.parseHeaderValue = none)

theorem headerLeft_iff {http : HttpCrate} {filters : List Filter} {host : Option String}
    {headers : HeaderMap} {name : String} :
    HeaderLeft http filters host headers name ↔
      headers.values name = upstreamValues http filters host headers name := by
  -- a given value hides the header's own, a removal leaves what is added
  cases hgiven : givenValue http filters name with
  | some value =>
    have hup : upstreamValues http filters host headers name =
        value :: addedValues http filters name := by
      simp [upstreamValues, modifiedValues, hgiven]
    rw [hup]
    exact ⟨fun h => h.given value hgiven, fun h => ⟨by simp [hgiven, h], by simp [hgiven],
      by simp [hgiven]⟩⟩
  | none =>
    cases hremoves : removesHeader http filters name with
    | true =>
      have hmodified : modifiedValues http filters headers name =
          addedValues http filters name := by simp [modifiedValues, hgiven, hremoves]
      rw [upstreamValues, hmodified]
      exact ⟨fun h => h.removed hgiven hremoves, fun h => ⟨by simp [hgiven], fun _ _ => h,
        by simp [hremoves]⟩⟩
    | false =>
      have hmodified : modifiedValues http filters headers name =
          headers.values name ++ addedValues http filters name := by
        simp [modifiedValues, hgiven, hremoves]
      rw [upstreamValues, hmodified]
      simp only [List.append_eq_nil_iff]
      constructor
      · intro h
        obtain ⟨hadded, hhost⟩ := h.kept hgiven hremoves
        by_cases hempty : name = "host" ∧ headers.values name = []
        · rw [if_pos ⟨hempty.1, hempty.2, hadded⟩, hhost hempty.1 hempty.2, hempty.2]
          rfl
        · rw [if_neg fun h => hempty ⟨h.1, h.2.1⟩, hadded, List.append_nil]
      · intro h
        refine ⟨by simp [hgiven], by simp [hremoves], fun _ _ => ?_⟩
        by_cases hempty : name = "host" ∧ headers.values name = [] ∧
            addedValues http filters name = []
        · rw [if_pos hempty, hempty.2.1] at h
          exact ⟨hempty.2.2, fun _ _ => by simpa using h.symm⟩
        · rw [if_neg hempty, List.self_eq_append_right] at h
          exact ⟨h, fun hname hvalues => absurd ⟨hname, hvalues, h⟩ hempty⟩

/-- The path of the last rewrite is the one of the request, as far as it is a
URI, no rewrite panics, and every header is left as it is. -/
structure LeavesAlone (http : HttpCrate) (filters : List Filter) (host : Option String)
    (request : Request) : Prop where
  keeps : ∀ filter ∈ filters, filter.replacesPrefix = false
  uri : ∀ uri, ((lastRewrite filters).bind RewriteResult.path).bind http.parseUri = some uri →
    uri = request.uri
  headers : ∀ name, HeaderLeft http filters host request.headers name

theorem leavesAlone_iff {http : HttpCrate} {filters : List Filter} {routingMeta : RequestMeta}
    {request : Request} (backends : List Backend) (timeout : Option TimeoutConfig) :
    LeavesAlone http filters routingMeta.host request ↔
      ∃ forwarded, RouteAndFilter.forwardRequest routingMeta request backends filters timeout =
          some forwarded ∧
        SameHead request (buildUpstreamRequest http forwarded.request forwarded.host
          forwarded.appliedFilter) := by
  by_cases hkeeps : ∀ filter ∈ filters, filter.replacesPrefix = false
  · obtain ⟨applied, hforwarded, hto⟩ :=
      forwardRequest_eq hkeeps routingMeta request backends timeout
    have hrewrite : applied.rewrite = lastRewrite filters := by rw [hto.rewrite, Option.or_none]
    have hvalues : ∀ name, (buildUpstreamRequest http request routingMeta.host
        applied).headers.values name = upstreamValues http filters routingMeta.host request.headers
          name := hto.values_buildUpstreamRequest request routingMeta.host
    have huri : (buildUpstreamRequest http request routingMeta.host applied).uri =
        (((lastRewrite filters).bind RewriteResult.path).bind http.parseUri).getD request.uri := by
      rw [← hrewrite]
      rfl
    rw [hforwarded]
    simp only [Option.some.injEq, exists_eq_left']
    constructor
    · intro halone
      obtain ⟨-, hpath, hheaders⟩ := halone
      refine ⟨rfl, ?_, fun name => ?_⟩
      · rw [huri]
        cases hparsed : ((lastRewrite filters).bind RewriteResult.path).bind http.parseUri with
        | none => rfl
        | some uri => exact (hpath uri hparsed).symm
      · rw [hvalues]
        exact headerLeft_iff.mp (hheaders name)
    · intro hsent
      obtain ⟨-, hsame, hheaders⟩ := hsent
      refine ⟨hkeeps, fun uri hparsed => ?_, fun name => headerLeft_iff.mpr ?_⟩
      · rw [huri, hparsed] at hsame
        exact hsame.symm
      · rw [hheaders name, hvalues]
  · -- there is no request to compare with, since collecting the filters panics
    refine iff_of_false (fun h => hkeeps h.keeps) ?_
    intro hforward
    obtain ⟨forwarded, hforwarded, -⟩ := hforward
    refine hkeeps ((forwardRequest_isSome routingMeta request backends filters timeout).mp ?_)
    rw [hforwarded]
    rfl

/-- The rule treats an upgrade like a request: no backend takes its head, or the
filters leave it alone; or the rule redirects with the status of a bad gateway. -/
def RuleAlike {Addr : Type} (env : ConnectionEnv Addr) (request : Request) :
    RoutingDecision → Prop
  | .forward backends filters _ => (∃ addr, Reaches env backends addr) →
      LeavesAlone env.http filters (extractRequestMeta env.uris request).host request
  | .redirect redirect => redirect.statusCode = 502 ∧
      (env.http.parseHeaderValue redirect.location).isSome = true
  | .notFound => False

theorem redirectStatus_iff {http : HttpCrate} {redirect : RedirectResponse} :
    some 502 = ((redirectResponse http redirect).map Response.status).map UInt16.toNat ↔
      redirect.statusCode = 502 ∧ (http.parseHeaderValue redirect.location).isSome = true := by
  unfold redirectResponse
  cases http.parseHeaderValue redirect.location with
  | none => simp
  | some location =>
    simp only [Option.map_some, Option.some.injEq, Option.isSome_some, and_true]
    constructor
    · intro h
      split at h
      · exact UInt16.toNat_inj.mp h.symm
      · simp at h
    · rintro h
      rw [h]
      rfl

/-- **When the filters apply to an upgrade.** -/
theorem followsRule_iff {Addr : Type} {env : ConnectionEnv Addr} {isMatch : String → String → Bool}
    {config : ProxyConfig} {listenerName : String} {codec : ServerCodec} {raw : List UInt8}
    {routingMeta : RequestMeta} {decoded : Decoded} {rest : List (Option Decoded)}
    (hmeta : rawRoutingMeta env.http env.uris raw = some routingMeta)
    (haccepts : codec raw = some decoded :: rest) :
    FollowsRule env isMatch config listenerName codec raw decoded.request routingMeta ↔
      RuleAlike env decoded.request (route isMatch config listenerName routingMeta) := by
  unfold FollowsRule RuleAlike
  cases hroute : route isMatch config listenerName routingMeta with
  | forward backends filters timeout =>
    simp only [sendBackend_mem_upgrade hmeta hroute]
    rw [leavesAlone_iff backends timeout]
    constructor
    · rintro h ⟨addr, hreaches⟩
      obtain ⟨sent, more, forwarded, hsent, hforwarded, hsame⟩ := h addr raw ⟨rfl, hreaches⟩
      obtain rfl : decoded = sent := by
        rw [haccepts] at hsent
        exact Option.some.inj (List.cons.inj hsent).1
      exact ⟨forwarded, hforwarded, hsame⟩
    · rintro h addr bytes ⟨rfl, hreaches⟩
      obtain ⟨forwarded, hforwarded, hsame⟩ := h ⟨addr, hreaches⟩
      exact ⟨decoded, rest, forwarded, haccepts, hforwarded, hsame⟩
  | redirect redirect =>
    have hanswer : (upgrade env isMatch config listenerName raw).1 =
        [.pipeline (.writeClient badGatewayText)] := upgrade_of_not_forward hmeta (by simp [hroute])
    simp only [hanswer, decisionStatus]
    rw [← redirectStatus_iff, ← statusOf_badGatewayText]
    constructor
    · intro hanswered
      obtain ⟨text, htext, hstatus⟩ := hanswered
      obtain rfl : badGatewayText = text := by simpa using htext
      exact hstatus
    · intro hstatus
      exact ⟨badGatewayText, rfl, hstatus⟩
  | notFound =>
    have hanswer : (upgrade env isMatch config listenerName raw).1 =
        [.pipeline (.writeClient badGatewayText)] := upgrade_of_not_forward hmeta (by simp [hroute])
    simp only [hanswer, decisionStatus]
    refine iff_of_false ?_ id
    intro hanswered
    obtain ⟨text, htext, hstatus⟩ := hanswered
    obtain rfl : badGatewayText = text := by simpa using htext
    rw [statusOf_badGatewayText] at hstatus
    exact absurd hstatus (by decide)

/-! ## A rule that sets a header -/

theorem reaches_switchingEnv : Reaches switchingEnv [svcA] 0 := ⟨svcA, [], rfl, rfl, rfl, rfl⟩

/-- A rule without filters. -/
theorem noFilters_followsRule :
    ∃ routingMeta, FollowsRule switchingEnv (fun _ _ => false) (oneBackend []) "l"
      (codecOf (upgradeFor ["a.com"])) (encodeUtf8 (upgradeFor ["a.com"]).chars)
      (upgradeFor ["a.com"]).request routingMeta := by
  obtain ⟨routingMeta, hmeta⟩ := rawRoutingMeta_switchingEnv
    (fromUtf8_encodeUtf8 (upgradeFor ["a.com"]).chars)
  refine ⟨routingMeta, (followsRule_iff hmeta (codecOf_self _)).mpr ?_⟩
  rw [route_oneBackend [] routingMeta rfl]
  intro _
  refine ⟨by simp, ?_, fun name => ⟨?_, ?_, ?_⟩⟩
  · intro uri h
    cases h
  · intro value h
    simp [givenValue, acceptedValues, rewrittenHost, lastRewrite] at h
  · intro _ h
    cases h
  · intro _ _
    refine ⟨rfl, fun hname hnone => ?_⟩
    subst hname
    exact absurd hnone (by decide)

/-- The value the rule sets for a header is not what the backend of an upgrade
sees. -/
theorem setHeader_not_followed :
    ¬ ∀ (env : ConnectionEnv ℕ) (isMatch : String → String → Bool) (config : ProxyConfig)
        (listenerName : String) (codec : ServerCodec) (raw : List UInt8)
        (routingMeta : RequestMeta) (decoded : Decoded) (rest : List (Option Decoded)),
      isRawWebsocketUpgrade raw = true →
      rawRoutingMeta env.http env.uris raw = some routingMeta →
      codec raw = some decoded :: rest →
      FollowsRule env isMatch config listenerName codec raw decoded.request routingMeta := by
  intro h
  obtain ⟨routingMeta, hmeta⟩ := rawRoutingMeta_switchingEnv
    (fromUtf8_encodeUtf8 (upgradeFor ["a.com"]).chars)
  have hfollows := h switchingEnv (fun _ _ => false)
    (oneBackend [.requestHeaderModifier [] [⟨"x-user", "anonymous"⟩] []]) "l"
    (codecOf (upgradeFor ["a.com"])) _ routingMeta _ [] isRaw_oneHost hmeta (codecOf_self _)
  have hroute := route_oneBackend [.requestHeaderModifier [] [⟨"x-user", "anonymous"⟩] []]
    routingMeta rfl
  unfold FollowsRule at hfollows
  simp only [hroute] at hfollows
  obtain ⟨sent, more, forwarded, hsent, hforwarded, hsame⟩ := hfollows 0 _
    ((sendBackend_mem_upgrade hmeta hroute).mpr ⟨rfl, reaches_switchingEnv⟩)
  obtain rfl := Option.some.inj (List.cons.inj ((codecOf_self _).symm.trans hsent)).1
  have halone := (leavesAlone_iff [svcA] none).mpr ⟨forwarded, hforwarded, hsame⟩
  exact absurd ((halone.headers "x-user").given "anonymous" (by decide)) (by decide)

end Multiway.ProxyCore
