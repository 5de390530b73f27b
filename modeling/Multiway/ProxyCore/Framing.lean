import Multiway.ProxyCore.Bodies
import Multiway.ProxyCore.HeaderFilters

/-!
# Framing

A forwarder collects the body of a response and keeps its headers, a mirror
keeps the headers of a request and drops its body, and the modifiers of a rule
work on headers whatever they say about a body. What the pipeline then hands to
an HTTP/1 codec is framed exactly when the upstream's headers, behind the
modifiers, happen to describe what was collected: `handed_framed_iff`.

`Upstreams` takes the exchange apart that an `Env` leaves whole, down to the
steps of the two forwarders.
-/

namespace Multiway.ProxyCore

open Multiway.Lib (F64 mapError_eq_ok)

/-! ## Headers that agree with a payload -/

/-- The number a Content-Length value stands for. -/
def lengthValue (value : String) : Option ℕ :=
  if value.toList ≠ [] ∧ value.toList.all Char.isDigit then
    some (Nat.ofDigitChars 10 value.toList 0)
  else none

def Payload.isStream : Payload → Bool
  | .stream _ => true
  | _ => false

/-- How many bytes a payload carries. -/
def Payload.length : Payload → ℕ
  | .none => 0
  | .fixed bytes => bytes.length
  | .stream chunks => chunks.flatten.length

/-- The headers of a message say of its payload what it is. -/
structure Framed (headers : HeaderMap) (payload : Payload) : Prop where
  encoding : payload.isStream = false → headers.values "transfer-encoding" = []
  length : ∀ value ∈ headers.values "content-length", lengthValue value = some payload.length

/-- Modifiers that make the headers of a message describe `n` bytes: what it
comes with does or does not stay, and so does what they put on it. -/
structure KeepsFraming (http : HttpCrate) (remove : List String) (set add : List HeaderValue)
    (headers : HeaderMap) (n : ℕ) : Prop where
  encoding : headers.values "transfer-encoding" = [] ∨
    namesHeader http remove "transfer-encoding" = true
  given : acceptedValues http (set ++ add) "transfer-encoding" = []
  length : ∀ value ∈ headers.values "content-length", lengthValue value = some n ∨
    namesHeader http remove "content-length" = true ∨
    acceptedValues http set "content-length" ≠ []
  last : ∀ value ∈ (acceptedValues http set "content-length").getLast?,
    lengthValue value = some n
  added : ∀ value ∈ acceptedValues http add "content-length", lengthValue value = some n

section
variable {http : HttpCrate} {remove : List String} {set add : List HeaderValue}
  {headers : HeaderMap}

theorem values_modifyHeaders_eq_nil_iff (name : String) :
    (modifyHeaders http headers remove set add).values name = [] ↔
      (headers.values name = [] ∨ namesHeader http remove name = true) ∧
        acceptedValues http (set ++ add) name = [] := by
  rw [values_modifyHeaders, List.append_eq_nil_iff]
  have happend : acceptedValues http (set ++ add) name =
      acceptedValues http set name ++ acceptedValues http add name := List.filterMap_append
  rw [happend, List.append_eq_nil_iff]
  cases hset : acceptedValues http set name with
  | nil =>
    cases namesHeader http remove name with
    | true => simp
    | false => simp
  | cons value values => simp [List.getLast?_cons]

theorem forall_values_modifyHeaders_iff (name : String) (P : String → Prop) :
    (∀ value ∈ (modifyHeaders http headers remove set add).values name, P value) ↔
      (∀ value ∈ headers.values name, P value ∨ namesHeader http remove name = true ∨
        acceptedValues http set name ≠ []) ∧
      (∀ value ∈ (acceptedValues http set name).getLast?, P value) ∧
      ∀ value ∈ acceptedValues http add name, P value := by
  rw [values_modifyHeaders, List.forall_mem_append, ← and_assoc]
  refine and_congr_left fun _ => ?_
  cases hset : acceptedValues http set name with
  | nil =>
    cases namesHeader http remove name with
    | true => simp
    | false => simp
  | cons value values => simp [List.getLast?_cons]

theorem framed_modifyHeaders_iff {payload : Payload} (h : payload.isStream = false) :
    Framed (modifyHeaders http headers remove set add) payload ↔
      KeepsFraming http remove set add headers payload.length := by
  constructor
  · intro hframed
    obtain ⟨hencoding, hgiven⟩ := (values_modifyHeaders_eq_nil_iff _).mp (hframed.encoding h)
    obtain ⟨hlength, hlast, hadded⟩ := (forall_values_modifyHeaders_iff _ _).mp hframed.length
    exact ⟨hencoding, hgiven, hlength, hlast, hadded⟩
  · intro hkeeps
    refine ⟨fun _ => ?_, ?_⟩
    · exact (values_modifyHeaders_eq_nil_iff _).mpr ⟨hkeeps.encoding, hkeeps.given⟩
    · exact (forall_values_modifyHeaders_iff _ _).mpr
        ⟨hkeeps.length, hkeeps.last, hkeeps.added⟩

end

/-! ## Responses of the proxy's own -/

/-! ## The exchange with an upstream -/

/-- What the forwarder needs of the outside to reach an upstream. -/
structure Upstreams (Addr : Type) where
  /-- An exchange on a pooled connection; `none` where there is no connection. -/
  codec : Addr → Request → Option F64 → Option CodecExchange
  /-- An exchange over a fresh HTTP/2 connection. -/
  h2 : Addr → Request → H2Exchange
  /-- Whether an exchange over HTTP/2 is still going when its timeout is up. -/
  outlasts : Addr → Request → F64 → Bool
  /-- What reading the payload of a request returns. -/
  reads : Payload → Body

/-- What of an error the forwarder looks at. -/
def IoError.forwardError (e : IoError) : ForwardError :=
  if e.kind = .timedOut then .timedOut else .other

def Request.incoming (request : Request) (body : Body) : IncomingRequest :=
  ⟨request.method, request.uri, request.headers, body⟩

namespace Upstreams

variable {Addr : Type} (upstreams : Upstreams Addr)

/-- `forward_via_h2` and `forward_via_codec`, by the backend's protocol. -/
def forward (addr : Addr) (protocol : BackendProtocol) (request : Request)
    (timeout : Option F64) : Except ForwardError Response :=
  match protocol with
  | .h2c =>
    if timeout.any (upstreams.outlasts addr request) then .error .timedOut
    else
      (forwardViaH2Inner (upstreams.h2 addr request)
        (request.incoming (upstreams.reads request.payload))).2.mapError IoError.forwardError
  | .http1 =>
    match upstreams.codec addr request timeout with
    | none => .error .other
    | some exchange => (forwardViaCodec exchange).mapError IoError.forwardError

/-- An environment in which the exchanges are these. -/
def env (env : Env Addr) : Env Addr := { env with forward := upstreams.forward }

/-- The head and the body an upstream answers a request with. -/
inductive Answers : Addr → BackendProtocol → Request → Option F64 → ResponseHead → Body → Prop
  | codec {addr : Addr} {request : Request} {timeout : Option F64} {exchange : CodecExchange}
      {head : ResponseHead} (hexchange : upstreams.codec addr request timeout = some exchange)
      (hsend : exchange.send = none) (hflush : exchange.flush = none)
      (hnext : exchange.next = some (.ok head)) :
      Answers addr .http1 request timeout head exchange.body
  | h2 {addr : Addr} {request : Request} {timeout : Option F64} {head : ResponseHead}
      (hintime : timeout.any (upstreams.outlasts addr request) = false)
      (hsent : (upstreams.h2 addr request).Sent
        (request.incoming (upstreams.reads request.payload)))
      (hhead : (upstreams.h2 addr request).response = .ok head) :
      Answers addr .h2c request timeout head (upstreams.h2 addr request).body

variable {upstreams}

theorem forwardViaCodec_eq_ok_iff {exchange : CodecExchange} {response : Response} :
    forwardViaCodec exchange = .ok response ↔
      exchange.send = none ∧ exchange.flush = none ∧
        ∃ head, exchange.next = some (.ok head) ∧ response = head.withBody exchange.body := by
  obtain ⟨send, flush, next, body⟩ := exchange
  cases send
  case some => simp [forwardViaCodec, bind, Except.bind]
  cases flush
  case some => simp [forwardViaCodec, bind, Except.bind]
  rcases next with _ | _ | head
  · simp [forwardViaCodec, receiveHead, bind, Except.bind]
  · simp [forwardViaCodec, receiveHead, bind, Except.bind]
  · simp [forwardViaCodec, receiveHead, bind, Except.bind, pure, Except.pure, eq_comm]

theorem forwardViaH2Inner_eq_ok_iff {exchange : H2Exchange} {request : IncomingRequest}
    {response : Response} :
    (forwardViaH2Inner exchange request).2 = .ok response ↔
      exchange.Sent request ∧
        ∃ head, exchange.response = .ok head ∧ response = head.withBody exchange.body := by
  rcases forwardViaH2Inner_cases exchange request with ⟨hsent, hres, -⟩ | ⟨hsent, ⟨e, hres⟩, -⟩
  · rw [hres, receiveH2]
    cases exchange.response with
    | error message => simp
    | ok head => simp [hsent, eq_comm]
  · simp [hres, hsent]

/-- An answer is what the forwarders return, with the body collected. -/
theorem forward_eq_ok_iff {addr : Addr} {protocol : BackendProtocol} {request : Request}
    {timeout : Option F64} {response : Response} :
    upstreams.forward addr protocol request timeout = .ok response ↔
      ∃ head body, upstreams.Answers addr protocol request timeout head body ∧
        response = head.withBody body := by
  cases protocol with
  | http1 =>
    unfold forward
    constructor
    · intro h
      cases hexchange : upstreams.codec addr request timeout with
      | none => simp [hexchange] at h
      | some exchange =>
        simp only [hexchange, mapError_eq_ok, forwardViaCodec_eq_ok_iff] at h
        obtain ⟨hsend, hflush, head, hnext, rfl⟩ := h
        exact ⟨head, exchange.body, .codec hexchange hsend hflush hnext, rfl⟩
    · intro h
      obtain ⟨head, body, hanswers, rfl⟩ := h
      cases hanswers with
      | codec hexchange hsend hflush hnext =>
        simp only [hexchange, mapError_eq_ok, forwardViaCodec_eq_ok_iff]
        exact ⟨hsend, hflush, head, hnext, rfl⟩
  | h2c =>
    unfold forward
    cases hlate : timeout.any (upstreams.outlasts addr request) with
    | true =>
      simp only [if_true]
      constructor
      · intro h
        cases h
      · intro h
        obtain ⟨head, body, hanswers, -⟩ := h
        cases hanswers with
        | h2 hintime => simp [hlate] at hintime
    | false =>
      simp only [Bool.false_eq_true, if_false, mapError_eq_ok, forwardViaH2Inner_eq_ok_iff]
      constructor
      · intro h
        obtain ⟨hsent, head, hhead, rfl⟩ := h
        exact ⟨head, _, .h2 hlate hsent hhead, rfl⟩
      · intro h
        obtain ⟨head, body, hanswers, rfl⟩ := h
        cases hanswers with
        | h2 _ hsent hhead => exact ⟨hsent, head, hhead, rfl⟩

end Upstreams

/-! ## What is handed over -/

/-- How many bytes of a body come before its first error. -/
def bytesBeforeError : Body → ℕ
  | .ok chunk :: rest => chunk.length + bytesBeforeError rest
  | _ => 0

theorem length_collectBody (body : Body) (bodyBytes : List UInt8) :
    (collectBody bodyBytes body).length = bodyBytes.length + bytesBeforeError body := by
  induction body generalizing bodyBytes with
  | nil => rfl
  | cons read rest ih =>
    cases read with
    | error e => rfl
    | ok chunk =>
      rw [collectBody, ih, List.length_append, bytesBeforeError]
      omega

@[simp]
theorem Payload.length_ofBytes (bytes : List UInt8) :
    (Payload.ofBytes bytes).length = bytes.length := by
  cases bytes <;> rfl

@[simp]
theorem Payload.isStream_ofBytes (bytes : List UInt8) :
    (Payload.ofBytes bytes).isStream = false := by
  cases bytes <;> rfl

section
variable {Addr : Type} {env : Env Addr} {req : ForwardRequest}

/-- A response for what the exchange with the backend comes to. -/
def answered (http : HttpCrate) (applied : AppliedFilter) :
    Except ForwardError Response → Response
  | .ok response => applyResponseFilters http response applied
  | .error .timedOut => gatewayTimeoutResponse
  | .error .other => badGatewayResponse

/-- What a call of the forwarder comes to: it ends with the resolver, or it
mirrors, forwards, and answers with what the exchange comes to. -/
theorem call_cases (env : Env Addr) (req : ForwardRequest) :
    (∀ effect ∈ (UpstreamForwarder.call env req).1, ∃ host port, effect = .resolve host port) ∨
    ∃ (backend : Backend) (addr : Addr) (timeout : Option F64) (upstreamReq : Request),
      upstreamReq = buildUpstreamRequest env.http req.request req.host req.appliedFilter ∧
      (UpstreamForwarder.call env req).1 =
        .resolve backend.name backend.port ::
          (req.appliedFilter.mirrors.zipIdx.flatMap
              (UpstreamForwarder.mirrorEffects env upstreamReq) ++
            [.forward addr backend.protocol upstreamReq timeout]) ∧
      (UpstreamForwarder.call env req).2 =
        some (answered env.http req.appliedFilter
          (env.forward addr backend.protocol upstreamReq timeout)) := by
  unfold UpstreamForwarder.call
  cases hselect : selectBackend env.selectDraw req.backends with
  | none => exact .inl (by simp)
  | some backend =>
    rcases hresolve : env.resolve backend.name backend.port with _ | _ | ⟨first, addrs⟩
    · exact .inl (by simp [hresolve])
    · exact .inl (by simp [hresolve])
    · cases htimeout : UpstreamForwarder.backendTimeout req.appliedFilter with
      | none => exact .inl (by simp [hresolve])
      | some timeout =>
        refine .inr ⟨backend, first, timeout, _, rfl, ?_⟩
        simp only [hresolve]
        rcases env.forward first backend.protocol (buildUpstreamRequest env.http req.request
          req.host req.appliedFilter) timeout with (_ | _) | response
        · exact ⟨rfl, rfl⟩
        · exact ⟨rfl, rfl⟩
        · exact ⟨rfl, rfl⟩

theorem mem_mirrorEffects {upstreamReq : Request} {target : MirrorTarget × ℕ}
    {effect : Effect Addr} (h : effect ∈ UpstreamForwarder.mirrorEffects env upstreamReq target) :
    (∃ host port, effect = .resolve host port) ∨
      ∃ addr, effect = .spawnMirror addr (cloneRequestForMirror upstreamReq) := by
  unfold UpstreamForwarder.mirrorEffects at h
  cases hsampled : UpstreamForwarder.sampled env target.1 target.2 with
  | false => simp [hsampled] at h
  | true =>
    rcases hresolve : env.resolve target.1.backend.name target.1.backend.port with
      _ | _ | ⟨first, addrs⟩
    · exact .inl ⟨_, _, by simpa [hsampled, hresolve] using h⟩
    · exact .inl ⟨_, _, by simpa [hsampled, hresolve] using h⟩
    · have hcases : effect = .resolve target.1.backend.name target.1.backend.port ∨
          effect = .spawnMirror first (cloneRequestForMirror upstreamReq) := by
        simpa [hsampled, hresolve] using h
      rcases hcases with rfl | rfl
      · exact .inl ⟨_, _, rfl⟩
      · exact .inr ⟨_, rfl⟩

/-- A mirror task gets the request that is sent upstream, without its body. -/
theorem spawnMirror_mem_call {addr : Addr} {request : Request}
    (h : .spawnMirror addr request ∈ (UpstreamForwarder.call env req).1) :
    request = cloneRequestForMirror
      (buildUpstreamRequest env.http req.request req.host req.appliedFilter) := by
  rcases call_cases env req with hresolves | ⟨backend, first, timeout, _, rfl, heffects, -⟩
  · obtain ⟨host, port, heq⟩ := hresolves _ h
    cases heq
  · rw [heffects] at h
    have hmem : .spawnMirror addr request ∈ req.appliedFilter.mirrors.zipIdx.flatMap
        (UpstreamForwarder.mirrorEffects env
          (buildUpstreamRequest env.http req.request req.host req.appliedFilter)) := by
      simpa using h
    obtain ⟨target, -, htarget⟩ := List.mem_flatMap.mp hmem
    rcases mem_mirrorEffects htarget with ⟨host, port, heq⟩ | ⟨first', heq⟩
    · cases heq
    · exact (Effect.spawnMirror.inj heq).2

/-- An upstream response is handed on behind the response modifiers. -/
theorem call_of_forward {addr : Addr} {protocol : BackendProtocol} {request : Request}
    {timeout : Option F64} {response : Response}
    (h : .forward addr protocol request timeout ∈ (UpstreamForwarder.call env req).1)
    (hok : env.forward addr protocol request timeout = .ok response) :
    (UpstreamForwarder.call env req).2 =
      some (applyResponseFilters env.http response req.appliedFilter) := by
  rcases call_cases env req with hresolves | ⟨backend, first, timeout', sent, rfl, heffects, hres⟩
  · obtain ⟨host, port, heq⟩ := hresolves _ h
    cases heq
  · rw [heffects] at h
    rcases List.mem_append.mp (List.mem_of_ne_of_mem (by simp) h) with hmirror | hforward
    · obtain ⟨target, -, htarget⟩ := List.mem_flatMap.mp hmirror
      rcases mem_mirrorEffects htarget with ⟨host, port, heq⟩ | ⟨first', heq⟩
      · cases heq
      · cases heq
    · obtain ⟨rfl, rfl, rfl, rfl⟩ := Effect.forward.inj (List.mem_singleton.mp hforward)
      rw [hres, hok]
      rfl

/-- Apart from Host the headers of the upstream request are those the modifiers
make of the original's. -/
theorem values_buildUpstreamRequest {http : HttpCrate} {name : String} (h : name ≠ "host")
    (original : Request) (host : Option String) (applied : AppliedFilter) :
    (buildUpstreamRequest http original host applied).headers.values name =
      (modifyHeaders http original.headers applied.requestHeaderRemove
        applied.requestHeaderSet applied.requestHeaderAdd).values name := by
  have hmodified : (modifyHeaders http
      (insertHost http original.headers (applied.rewrite.bind RewriteResult.hostname))
      applied.requestHeaderRemove applied.requestHeaderSet applied.requestHeaderAdd).values name =
      (modifyHeaders http original.headers applied.requestHeaderRemove
        applied.requestHeaderSet applied.requestHeaderAdd).values name := by
    rw [values_modifyHeaders, values_modifyHeaders, values_insertHost, if_neg h]
  unfold buildUpstreamRequest
  dsimp only
  by_cases hhost : (modifyHeaders http
      (insertHost http original.headers (applied.rewrite.bind RewriteResult.hostname))
      applied.requestHeaderRemove applied.requestHeaderSet
      applied.requestHeaderAdd).containsKey "host" = true
  · rw [if_pos hhost, hmodified]
  · rw [if_neg hhost, values_insertHost, if_neg h, hmodified]

theorem framed_mirror_iff (http : HttpCrate) (original : Request) (host : Option String)
    (applied : AppliedFilter) :
    Framed (buildUpstreamRequest http original host applied).headers .none ↔
      KeepsFraming http applied.requestHeaderRemove applied.requestHeaderSet
        applied.requestHeaderAdd original.headers 0 := by
  have hiff : Framed (modifyHeaders http original.headers applied.requestHeaderRemove
      applied.requestHeaderSet applied.requestHeaderAdd) .none ↔ _ :=
    framed_modifyHeaders_iff rfl
  refine Iff.trans ?_ hiff
  have hencoding : (buildUpstreamRequest http original host applied).headers.values
      "transfer-encoding" = _ := values_buildUpstreamRequest (by decide) original host applied
  have hlength : (buildUpstreamRequest http original host applied).headers.values
      "content-length" = _ := values_buildUpstreamRequest (by decide) original host applied
  constructor
  · intro h
    exact ⟨fun hstream => hencoding ▸ h.encoding hstream, hlength ▸ h.length⟩
  · intro h
    exact ⟨fun hstream => hencoding.trans (h.encoding hstream), hlength.symm ▸ h.length⟩

end

/-- **What decides the framing of a message.** -/
theorem handed_framed_iff {Addr : Type} (upstreams : Upstreams Addr) (env : Env Addr)
    (req : ForwardRequest) :
    (∀ addr protocol request timeout head body,
      .forward addr protocol request timeout ∈
        (UpstreamForwarder.call (upstreams.env env) req).1 →
      upstreams.Answers addr protocol request timeout head body →
      ∃ response, (UpstreamForwarder.call (upstreams.env env) req).2 = some response ∧
        (Framed response.headers response.payload ↔
          KeepsFraming env.http req.appliedFilter.responseHeaderRemove
            req.appliedFilter.responseHeaderSet req.appliedFilter.responseHeaderAdd
            head.headers (bytesBeforeError body))) ∧
    ∀ addr request,
      .spawnMirror addr request ∈ (UpstreamForwarder.call (upstreams.env env) req).1 →
      (Framed request.headers request.payload ↔
        KeepsFraming env.http req.appliedFilter.requestHeaderRemove
          req.appliedFilter.requestHeaderSet req.appliedFilter.requestHeaderAdd
          req.request.headers 0) := by
  constructor
  · intro addr protocol request timeout head body hforward hanswers
    have hok : (upstreams.env env).forward addr protocol request timeout =
        .ok (head.withBody body) := Upstreams.forward_eq_ok_iff.mpr ⟨head, body, hanswers, rfl⟩
    refine ⟨_, call_of_forward hforward hok, ?_⟩
    have hlength : (head.withBody body).payload.length = bytesBeforeError body := by
      rw [ResponseHead.withBody, Payload.length_ofBytes, length_collectBody, List.length_nil,
        Nat.zero_add]
    rw [← hlength]
    exact framed_modifyHeaders_iff (Payload.isStream_ofBytes _)
  · intro addr request hmirror
    rw [spawnMirror_mem_call hmirror]
    exact framed_mirror_iff _ _ _ _

/-! ## A request that is mirrored, a response in chunks -/

/-- One backend on port 80, with a mirror. -/
def mirrored (request : Request) : ForwardRequest where
  request
  host := some "a.example"
  backends := [{ «namespace» := "a", name := "svc", port := 80 }]
  appliedFilter := { mirrors := [⟨{ «namespace» := "a", name := "copy", port := 80 }, 100⟩] }

/-- Upstreams that all answer a request in the same way. -/
def answering (head : ResponseHead) (body : Body) : Upstreams ℕ where
  codec _ _ _ := some ⟨none, none, some (.ok head), body⟩
  h2 _ _ := ⟨none, none, none, fun _ _ => none, none, fun _ => none, none, .ok head, body⟩
  outlasts _ _ _ := false
  reads _ := []

/-- A GET that is answered with a length: both messages are framed. -/
theorem handed_framed_get :
    let request : Request := ⟨"GET", "/", [("host", "a.example")], .none⟩
    let head : ResponseHead := ⟨200, [("content-length", "2")]⟩
    let env := (answering head [.ok [104, 105]]).env (Env.reachable ⟨some, some, some⟩)
    (∃ response, (UpstreamForwarder.call env (mirrored request)).2 = some response ∧
      Framed response.headers response.payload) ∧
    ∃ sent, .spawnMirror 0 sent ∈ (UpstreamForwarder.call env (mirrored request)).1 ∧
      Framed sent.headers sent.payload := by
  intro request head env
  have heffects : (UpstreamForwarder.call env (mirrored request)).1 =
      [.resolve "svc" 80, .resolve "copy" 80, .spawnMirror 0 request,
        .forward 0 .http1 request none] := rfl
  have hexchange : (answering head [.ok [104, 105]]).codec 0 request none =
      some ⟨none, none, some (.ok head), [.ok [104, 105]]⟩ := rfl
  have hanswers : (answering head [.ok [104, 105]]).Answers 0 .http1 request none head
      [.ok [104, 105]] := .codec hexchange rfl rfl rfl
  obtain ⟨hresponse, hmirror⟩ := handed_framed_iff (answering head [.ok [104, 105]])
    (Env.reachable ⟨some, some, some⟩) (mirrored request)
  obtain ⟨response, hres, hiff⟩ := hresponse 0 .http1 request none head _
    (by rw [heffects]; simp) hanswers
  have hsent : .spawnMirror 0 request ∈ (UpstreamForwarder.call env (mirrored request)).1 := by
    rw [heffects]
    simp
  refine ⟨⟨response, hres, hiff.mpr ⟨.inl rfl, rfl, ?_, ?_, ?_⟩⟩,
    request, hsent, (hmirror 0 request hsent).mpr ⟨.inl rfl, rfl, ?_, ?_, ?_⟩⟩
  all_goals decide +kernel

/-- A POST with a body of 5 bytes that is mirrored, and answered in chunks: the
mirror task is told of 5 bytes and has none, the client is told of chunks and
gets 2 bytes. -/
theorem post_misframed :
    let request : Request := ⟨"POST", "/", [("host", "a.example"), ("content-length", "5")],
      .fixed [104, 101, 108, 108, 111]⟩
    let head : ResponseHead := ⟨200, [("transfer-encoding", "chunked")]⟩
    let env := (answering head [.ok [104, 105]]).env (Env.reachable ⟨some, some, some⟩)
    (∃ addr sent, .spawnMirror addr sent ∈ (UpstreamForwarder.call env (mirrored request)).1 ∧
      ¬Framed sent.headers sent.payload) ∧
    ∃ response, (UpstreamForwarder.call env (mirrored request)).2 = some response ∧
      ¬Framed response.headers response.payload := by
  intro request head env
  have hcall : UpstreamForwarder.call env (mirrored request) =
      ([.resolve "svc" 80, .resolve "copy" 80,
        .spawnMirror 0 { request with payload := .none },
        .forward 0 .http1 request none],
      some ⟨200, [("transfer-encoding", "chunked")], .fixed [104, 105]⟩) := rfl
  constructor
  · refine ⟨0, { request with payload := .none }, by rw [hcall]; simp, ?_⟩
    intro h
    have hlength := h.length "5" (by decide)
    revert hlength
    decide +kernel
  · refine ⟨_, congrArg Prod.snd hcall, ?_⟩
    intro h
    have hencoding := h.encoding rfl
    revert hencoding
    decide

end Multiway.ProxyCore
