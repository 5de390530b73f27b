import Multiway.ProxyCore.Filter
import Multiway.ProxyCore.Http
import Multiway.ProxyCore.Routing

/-!
# The request pipeline (`proxy-core/src/pipeline.rs`)

What a request makes the pipeline do to the outside is a list of effects, in
order: the names it has resolved, the mirror tasks it spawns, the exchange
with the backend. The answers of the outside (resolver, random draws,
exchanges) are an `Env`. A call that panics has effects but no response.

The resolver is asked for a host and a port on three paths: the primary
backend of `UpstreamForwarder::call`, each of its mirrors, and the backend of
a WebSocket upgrade. `asked_ne_iff` says what of a backend's identity survives
on each.
-/

namespace Multiway.ProxyCore

open Multiway.Lib (F64)

/-! ## Responses the proxy makes itself -/

/-- `string_response_to_monoio` of a plain-text response. -/
def plainResponse (status : UInt16) (headers : HeaderMap) (body : String) : Response :=
  if body.isEmpty then { status, headers, payload := .none }
  else
    { status
      headers := headers.insert "content-length" (toString body.utf8ByteSize)
      payload := .fixed body.toUTF8.toList }

def notFoundResponse : Response :=
  plainResponse 404 [("content-type", "text/plain")] "404 Not Found"

def badGatewayResponse : Response :=
  plainResponse 502 [("content-type", "text/plain")] "502 Bad Gateway"

def serviceUnavailableResponse : Response :=
  plainResponse 503 [("content-type", "text/plain")] "503 Service Unavailable"

def gatewayTimeoutResponse : Response :=
  plainResponse 504 [("content-type", "text/plain")] "504 Gateway Timeout"

/-- `redirect_response`; a location that is no header value panics. A status
outside 100 to 999 becomes 302. -/
def redirectResponse (http : HttpCrate) (redirect : RedirectResponse) : Option Response :=
  (http.parseHeaderValue redirect.location).map fun location =>
    { status := if 100 ≤ redirect.statusCode ∧ redirect.statusCode < 1000 then
        redirect.statusCode else 302
      headers := [("location", location), ("content-type", "text/plain")]
      payload := .none }

/-! ## Backend selection -/

/-- Walk the weights down to the backend `pick` falls on. -/
def pickBackend (pick : UInt32) : List Backend → Option Backend
  | [] => none
  | backend :: backends =>
    if backend.weight = 0 then pickBackend pick backends
    else if pick < backend.weight then some backend
    else pickBackend (pick - backend.weight) backends

/-- Weighted random selection; `randomRange n` is drawn from `0..n`. -/
def selectBackend (randomRange : UInt32 → UInt32) (backends : List Backend) : Option Backend :=
  let totalWeight := (backends.map Backend.weight).sum
  if totalWeight = 0 then none
  else
    (pickBackend (randomRange totalWeight) backends).or
      (backends.find? fun backend => decide (0 < backend.weight))

/-! ## The upstream request -/

section
variable (http : HttpCrate)

/-- Put `hv` on the map with `op`, if the crate accepts its name and value. -/
def modifyHeader (op : HeaderMap → String → String → HeaderMap) (headers : HeaderMap)
    (hv : HeaderValue) : HeaderMap :=
  match http.parseHeaderName hv.name, http.parseHeaderValue hv.value with
  | some name, some value => op headers name value
  | _, _ => headers

/-- Remove, then set, then add. -/
def modifyHeaders (headers : HeaderMap) (remove : List String) (set add : List HeaderValue) :
    HeaderMap :=
  let headers := remove.foldl (fun headers name =>
    match http.parseHeaderName name with
    | some name => headers.remove name
    | none => headers) headers
  let headers := set.foldl (modifyHeader http HeaderMap.insert) headers
  add.foldl (modifyHeader http HeaderMap.append) headers

/-- Insert a Host header, if its value is one. -/
def insertHost (headers : HeaderMap) (host : Option String) : HeaderMap :=
  match host.bind http.parseHeaderValue with
  | some value => headers.insert "host" value
  | none => headers

/-- Build the upstream request, applying request header and rewrite filters. -/
def buildUpstreamRequest (original : Request) (host : Option String)
    (applied : AppliedFilter) : Request :=
  let uri := ((applied.rewrite.bind RewriteResult.path).bind http.parseUri).getD original.uri
  let headers := insertHost http original.headers (applied.rewrite.bind RewriteResult.hostname)
  let headers := modifyHeaders http headers applied.requestHeaderRemove applied.requestHeaderSet
    applied.requestHeaderAdd
  let headers := if headers.containsKey "host" then headers else insertHost http headers host
  { original with uri, headers }

/-- Apply response header filters. -/
def applyResponseFilters (response : Response) (applied : AppliedFilter) : Response :=
  { response with
    headers := modifyHeaders http response.headers applied.responseHeaderRemove
      applied.responseHeaderSet applied.responseHeaderAdd }

end

/-- Method, URI and headers; the body is sent as empty. -/
def cloneRequestForMirror (request : Request) : Request := { request with payload := .none }

/-! ## UpstreamForwarder -/

/-- What the pipeline does to the outside. -/
inductive Effect (Addr : Type)
  | resolve (host : String) (port : UInt16)
  /-- `monoio::spawn` of a mirror task. -/
  | spawnMirror (addr : Addr) (request : Request)
  | forward (addr : Addr) (protocol : BackendProtocol) (request : Request)
      (timeout : Option F64)
  /-- A connection outside the pool, for a WebSocket tunnel. -/
  | connect (addr : Addr)
  /-- Bytes written to the client as they are. -/
  | writeClient (text : String)
deriving DecidableEq

/-- How an exchange with a backend fails. -/
inductive ForwardError | timedOut | other
deriving DecidableEq

/-- What the outside answers. -/
structure Env (Addr : Type) where
  http : HttpCrate
  /-- `Resolver::resolve`; `none` is an error. -/
  resolve : String → UInt16 → Option (List Addr)
  /-- `rand::random_range(0..n)` in `select_backend` -/
  selectDraw : UInt32 → UInt32
  /-- `rand::random_range(0..100)` for the mirror at a position -/
  mirrorDraw : ℕ → UInt32
  /-- Whether the forwarder is still busy when the request timeout is up. -/
  expires : F64 → Bool
  forward : Addr → BackendProtocol → Request → Option F64 → Except ForwardError Response

/-- A request with its routing result, as it reaches the forwarder. Of the
metadata only the host is used from here on. -/
structure ForwardRequest where
  request : Request
  host : Option String
  backends : List Backend
  appliedFilter : AppliedFilter
deriving DecidableEq

namespace UpstreamForwarder

variable {Addr : Type} (env : Env Addr)

/-- Whether this request is mirrored to the target at position `i`. -/
def sampled (mirror : MirrorTarget) (i : ℕ) : Bool :=
  !(decide (mirror.percent < 100) && decide (mirror.percent ≤ env.mirrorDraw i))

/-- One turn of the loop over the mirrors. -/
def mirrorEffects (upstreamReq : Request) : MirrorTarget × ℕ → List (Effect Addr)
  | (mirror, i) =>
    if !sampled env mirror i then []
    else
      .resolve mirror.backend.name mirror.backend.port ::
        match env.resolve mirror.backend.name mirror.backend.port with
        | some (addr :: _) => [.spawnMirror addr (cloneRequestForMirror upstreamReq)]
        | _ => []

/-- The backend timeout, where `Duration::from_secs_f64` may panic. -/
def backendTimeout (applied : AppliedFilter) : Option (Option F64) :=
  match (applied.timeout.bind TimeoutConfig.backendRequest).filter F64.isPos with
  | some t => if t.isDuration then some (some t) else none
  | none => some none

def call (req : ForwardRequest) : List (Effect Addr) × Option Response :=
  match selectBackend env.selectDraw req.backends with
  | none => ([], some serviceUnavailableResponse)
  | some backend =>
    match env.resolve backend.name backend.port with
    | some (addr :: _) =>
      let upstreamReq := buildUpstreamRequest env.http req.request req.host req.appliedFilter
      match backendTimeout req.appliedFilter with
      | none => ([.resolve backend.name backend.port], none)
      | some timeout =>
        let effects :=
          .resolve backend.name backend.port ::
            (req.appliedFilter.mirrors.zipIdx.flatMap (mirrorEffects env upstreamReq) ++
              [.forward addr backend.protocol upstreamReq timeout])
        match env.forward addr backend.protocol upstreamReq timeout with
        | .ok response => (effects, some (applyResponseFilters env.http response req.appliedFilter))
        | .error .timedOut => (effects, some gatewayTimeoutResponse)
        | .error .other => (effects, some badGatewayResponse)
    | _ => ([.resolve backend.name backend.port], some badGatewayResponse)

end UpstreamForwarder

/-! ## RouteAndFilter -/

namespace RouteAndFilter

variable {Addr : Type} (env : Env Addr) (isMatch : String → String → Bool)
  (config : ProxyConfig) (listenerName : String) (routingMeta : RequestMeta)

/-- What the forwarder is given when the decision is to forward; `none` when
collecting the filters panics. -/
def forwardRequest (request : Request) (backends : List Backend) (filters : List Filter)
    (timeout : Option TimeoutConfig) : Option ForwardRequest :=
  ((collectFilters filters).bind (recomputeRewrite filters routingMeta.path)).map fun applied =>
    { request, host := routingMeta.host, backends
      appliedFilter := { applied with timeout } }

/-- The request timeout, where `Duration::from_secs_f64` may panic. -/
def requestTimeout (timeout : Option TimeoutConfig) : Option (Option F64) :=
  match (timeout.bind TimeoutConfig.request).filter F64.isPos with
  | some t => if t.isDuration then some (some t) else none
  | none => some none

/-- The resolver is asked, the backend timeout is converted and the mirrors are
spawned before the first await point of the forwarder: an expired request
timeout changes a response, it neither undoes an effect nor hides a panic. -/
def call (request : Request) : List (Effect Addr) × Option Response :=
  match route isMatch config listenerName routingMeta with
  | .notFound => ([], some notFoundResponse)
  | .redirect redirect => ([], redirectResponse env.http redirect)
  | .forward backends filters timeout =>
    match forwardRequest routingMeta request backends filters timeout, requestTimeout timeout with
    | some forwardReq, some limit =>
      let (effects, response) := UpstreamForwarder.call env forwardReq
      (effects, response.map fun response =>
        if limit.any env.expires then gatewayTimeoutResponse else response)
    | _, _ => ([], none)

end RouteAndFilter

/-! ## WebSocket upgrades -/

/-- `handle_websocket_upgrade` from the routing metadata of the raw head on,
up to the connection to the backend. -/
def handleWebsocketUpgrade {Addr : Type} (env : Env Addr) (isMatch : String → String → Bool)
    (config : ProxyConfig) (listenerName : String) (routingMeta : RequestMeta) :
    List (Effect Addr) :=
  match route isMatch config listenerName routingMeta with
  | .forward backends _ _ =>
    match selectBackend env.selectDraw backends with
    | none =>
      [.writeClient
        "HTTP/1.1 503 Service Unavailable\r\ncontent-length: 23\r\n\r\n503 Service Unavailable"]
    | some backend =>
      .resolve backend.name backend.port ::
        match env.resolve backend.name backend.port with
        | some (addr :: _) => [.connect addr]
        | _ =>
          [.writeClient
            "HTTP/1.1 502 Bad Gateway\r\ncontent-length: 15\r\n\r\n502 Bad Gateway"]
  | _ =>
    [.writeClient "HTTP/1.1 502 Bad Gateway\r\ncontent-length: 15\r\n\r\n502 Bad Gateway"]

/-! ## What the resolver is told -/

variable {Addr : Type}

/-- The first thing the resolver is asked. -/
def firstQuery (effects : List (Effect Addr)) : Option (String × UInt16) :=
  effects.findSome? fun
    | .resolve host port => some (host, port)
    | _ => none

theorem firstQuery_call {env : Env Addr} {req : ForwardRequest} {b : Backend}
    (h : selectBackend env.selectDraw req.backends = some b) :
    firstQuery (UpstreamForwarder.call env req).1 = some (b.name, b.port) := by
  unfold UpstreamForwarder.call
  simp only [h]
  split
  · split
    · rfl
    · split <;> rfl
  · rfl

theorem firstQuery_mirrorEffects {env : Env Addr} {upstreamReq : Request} {m : MirrorTarget}
    {i : ℕ} (h : UpstreamForwarder.sampled env m i = true) :
    firstQuery (UpstreamForwarder.mirrorEffects env upstreamReq (m, i)) =
      some (m.backend.name, m.backend.port) := by
  simp [UpstreamForwarder.mirrorEffects, h, firstQuery]

theorem firstQuery_handleWebsocketUpgrade {env : Env Addr} {isMatch : String → String → Bool}
    {config : ProxyConfig} {listenerName : String} {routingMeta : RequestMeta}
    {backends : List Backend} {filters : List Filter} {timeout : Option TimeoutConfig}
    {b : Backend}
    (hroute : route isMatch config listenerName routingMeta = .forward backends filters timeout)
    (h : selectBackend env.selectDraw backends = some b) :
    firstQuery (handleWebsocketUpgrade env isMatch config listenerName routingMeta) =
      some (b.name, b.port) := by
  simp [handleWebsocketUpgrade, hroute, h, firstQuery]

/-- The three paths on which a backend is resolved. -/
inductive Path | primary | mirror | webSocket
deriving DecidableEq

/-- `Asked config path b q`: some request that the configuration routes to
`b` on that path has the resolver asked for `q`. -/
inductive Asked (Addr : Type) (isMatch : String → String → Bool) (config : ProxyConfig) :
    Path → Backend → Option (String × UInt16) → Prop
  | primary {env : Env Addr} {listenerName : String} {routingMeta : RequestMeta}
      {request : Request} {backends : List Backend} {filters : List Filter}
      {timeout : Option TimeoutConfig} {req : ForwardRequest} {b : Backend}
      (hroute : route isMatch config listenerName routingMeta =
        .forward backends filters timeout)
      (hreq : RouteAndFilter.forwardRequest routingMeta request backends filters timeout =
        some req)
      (hselect : selectBackend env.selectDraw req.backends = some b) :
      Asked Addr isMatch config .primary b (firstQuery (UpstreamForwarder.call env req).1)
  | mirror {env : Env Addr} {listenerName : String} {routingMeta : RequestMeta}
      {request : Request} {backends : List Backend} {filters : List Filter}
      {timeout : Option TimeoutConfig} {req : ForwardRequest} {m : MirrorTarget} {i : ℕ}
      (hroute : route isMatch config listenerName routingMeta =
        .forward backends filters timeout)
      (hreq : RouteAndFilter.forwardRequest routingMeta request backends filters timeout =
        some req)
      (hmirror : (m, i) ∈ req.appliedFilter.mirrors.zipIdx)
      (hsampled : UpstreamForwarder.sampled env m i = true) :
      Asked Addr isMatch config .mirror m.backend
        (firstQuery (UpstreamForwarder.mirrorEffects env
          (buildUpstreamRequest env.http req.request req.host req.appliedFilter) (m, i)))
  | webSocket {env : Env Addr} {listenerName : String} {routingMeta : RequestMeta}
      {backends : List Backend} {filters : List Filter} {timeout : Option TimeoutConfig}
      {b : Backend}
      (hroute : route isMatch config listenerName routingMeta =
        .forward backends filters timeout)
      (hselect : selectBackend env.selectDraw backends = some b) :
      Asked Addr isMatch config .webSocket b
        (firstQuery (handleWebsocketUpgrade env isMatch config listenerName routingMeta))

/-- On every path the resolver is told the name and the port. -/
theorem Asked.eq {isMatch : String → String → Bool} {config : ProxyConfig} {path : Path}
    {b : Backend} {q : Option (String × UInt16)} (h : Asked Addr isMatch config path b q) :
    q = some (b.name, b.port) := by
  cases h with
  | primary _ _ hselect => exact firstQuery_call hselect
  | mirror _ _ _ hsampled => exact firstQuery_mirrorEffects hsampled
  | webSocket hroute hselect => exact firstQuery_handleWebsocketUpgrade hroute hselect

/-- **What reaches the resolver is the name.** For two backends on one port
the resolver is asked for different things, whichever the path, exactly when
their names differ: the namespace plays no part. -/
theorem asked_ne_iff {isMatch : String → String → Bool} {config : ProxyConfig} {path : Path}
    {b₁ b₂ : Backend} {q₁ q₂ : Option (String × UInt16)} (hport : b₁.port = b₂.port)
    (h₁ : Asked Addr isMatch config path b₁ q₁) (h₂ : Asked Addr isMatch config path b₂ q₂) :
    q₁ ≠ q₂ ↔ b₁.name ≠ b₂.name := by
  rw [h₁.eq, h₂.eq, hport]
  simp

/-! ## Two Services of one name -/

/-- A configuration with two routes, each forwarding the traffic of its own
listener to its own backend and mirroring it there. -/
def twoRoutes (b₁ b₂ : Backend) : ProxyConfig where
  routes :=
    [{ name := "first", «namespace» := "gw", attachedListeners := ["l1"]
       rules := [{ «matches» := [], backends := [b₁], filters := [.requestMirror b₁ none] }] },
     { name := "second", «namespace» := "gw", attachedListeners := ["l2"]
       rules := [{ «matches» := [], backends := [b₂], filters := [.requestMirror b₂ none] }] }]

/-- An outside on which nothing is ever reached. -/
def Env.unreachable (Addr : Type) : Env Addr where
  http := ⟨some, some, some⟩
  resolve _ _ := none
  selectDraw _ := 0
  mirrorDraw _ := 0
  expires _ := false
  forward _ _ _ _ := .error .other

private theorem route_twoRoutes (b₁ b₂ : Backend) :
    route (fun _ _ => false) (twoRoutes b₁ b₂) "l1" { host := none, path := "/" } =
        .forward [b₁] [.requestMirror b₁ none] none ∧
      route (fun _ _ => false) (twoRoutes b₁ b₂) "l2" { host := none, path := "/" } =
        .forward [b₂] [.requestMirror b₂ none] none :=
  ⟨rfl, rfl⟩

/-- A backend that is alone in its rule is asked for on every path. -/
private theorem asked_of_route {config : ProxyConfig} {listenerName : String} {b : Backend}
    (hroute : route (fun _ _ => false) config listenerName { host := none, path := "/" } =
      .forward [b] [.requestMirror b none] none) (hweight : b.weight = 1) (path : Path) :
    Asked ℕ (fun _ _ => false) config path b (some (b.name, b.port)) := by
  have hselect : selectBackend (Env.unreachable ℕ).selectDraw [b] = some b := by
    simp [selectBackend, pickBackend, Env.unreachable, hweight]
  have hreq : RouteAndFilter.forwardRequest { host := none, path := "/" }
      ⟨"GET", "/", [], .none⟩ [b] [.requestMirror b none] none =
      some ⟨⟨"GET", "/", [], .none⟩, none, [b], { mirrors := [⟨b, 100⟩] }⟩ := rfl
  cases path with
  | primary =>
    have h := Asked.primary hroute hreq hselect
    rwa [h.eq] at h
  | mirror =>
    have hsampled : UpstreamForwarder.sampled (Env.unreachable ℕ) ⟨b, 100⟩ 0 = true := rfl
    have h := Asked.mirror hroute hreq (by simp) hsampled
    rwa [h.eq] at h
  | webSocket =>
    have h := Asked.webSocket hroute hselect
    rwa [h.eq] at h

def svcA : Backend := { «namespace» := "a", name := "svc", port := 80 }

def svcB : Backend := { «namespace» := "b", name := "svc", port := 80 }

def otherB : Backend := { «namespace» := "b", name := "other", port := 80 }

theorem asked_apart_other_name :
    ∃ q₁ q₂, Asked ℕ (fun _ _ => false) (twoRoutes svcA otherB) .primary svcA q₁ ∧
      Asked ℕ (fun _ _ => false) (twoRoutes svcA otherB) .primary otherB q₂ ∧ q₁ ≠ q₂ := by
  have h₁ := asked_of_route (route_twoRoutes svcA otherB).1 rfl .primary
  have h₂ := asked_of_route (route_twoRoutes svcA otherB).2 rfl .primary
  have hport : svcA.port = otherB.port := rfl
  exact ⟨_, _, h₁, h₂, (asked_ne_iff hport h₁ h₂).mpr (by decide)⟩

/-- `a/svc` and `b/svc` on one port are one Service to the resolver. -/
theorem same_name_asked_alike :
    ¬ ∀ (config : ProxyConfig) (path : Path) (b₁ b₂ : Backend)
        (q₁ q₂ : Option (String × UInt16)), b₁.port = b₂.port →
      (b₁.namespace, b₁.name) ≠ (b₂.namespace, b₂.name) →
      Asked ℕ (fun _ _ => false) config path b₁ q₁ →
      Asked ℕ (fun _ _ => false) config path b₂ q₂ → q₁ ≠ q₂ := by
  intro hall
  exact hall (twoRoutes svcA svcB) .primary svcA svcB _ _ rfl (by decide)
    (asked_of_route (route_twoRoutes svcA svcB).1 rfl .primary)
    (asked_of_route (route_twoRoutes svcA svcB).2 rfl .primary) rfl

end Multiway.ProxyCore
