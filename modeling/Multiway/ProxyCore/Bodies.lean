import Multiway.ProxyCore.Upgrade

/-!
# Forwarding with bodies (`forward_via_codec`, `forward_via_h2_inner`)

A body is read with `while let Some(Ok(chunk))`: the loop ends at the end of
the body and at an error, and does not say which. So
an exchange whose body is cut short is an error exactly when something else of
it is: `truncated_iff`. What a forwarder depends on are the outcomes of the
steps of the exchange, in the order it takes them.
-/

namespace Multiway.ProxyCore

/-! ## Errors -/

/-- The kinds of `io::Error` a forwarder ends with. -/
inductive ForwardErrorKind
  | brokenPipe | unexpectedEof | timedOut | connectionRefused | invalidInput | other
deriving DecidableEq

structure IoError where
  kind : ForwardErrorKind
  message : String
deriving DecidableEq

/-- A step that fails with the text of an error, or succeeds. -/
abbrev Step := Option String

/-- Go on after a step, or return its error under a kind. -/
def Step.check (step : Step) (kind : ForwardErrorKind) : Except IoError Unit :=
  match step with
  | some message => .error ⟨kind, message⟩
  | none => .ok ()

@[simp]
theorem Step.check_none (kind : ForwardErrorKind) : Step.check none kind = .ok () := rfl

@[simp]
theorem Step.check_some (message : String) (kind : ForwardErrorKind) :
    Step.check (some message) kind = .error ⟨kind, message⟩ := rfl

/-! ## Bodies -/

/-- Why a chunk of a body cannot be read. -/
inductive BodyError | closed | malformed | reset | timedOut
deriving DecidableEq

/-- What `next_data` returns, up to the end of the body. -/
abbrev Body := List (Except BodyError (List UInt8))

/-- `while let Some(Ok(chunk)) = body.next_data().await`, with what is collected
so far. -/
def collectBody (bodyBytes : List UInt8) : Body → List UInt8
  | .ok chunk :: rest => collectBody (bodyBytes ++ chunk) rest
  | .error _ :: _ => bodyBytes
  | [] => bodyBytes

def Payload.ofBytes (bytes : List UInt8) : Payload :=
  if bytes.isEmpty then .none else .fixed bytes

/-- Status and headers of a response. -/
structure ResponseHead where
  status : UInt16
  headers : HeaderMap
deriving DecidableEq

def ResponseHead.withBody (head : ResponseHead) (body : Body) : Response where
  status := head.status
  headers := head.headers
  payload := .ofBytes (collectBody [] body)

/-! ## `forward_via_codec` -/

/-- An exchange through a `ClientCodec`. -/
structure CodecExchange where
  send : Step
  flush : Step
  /-- `none` is a connection that the upstream has closed. -/
  next : Option (Except String ResponseHead)
  body : Body

/-- The error of `Stream::next`; a timeout is told by its text. -/
def nextError (message : String) : IoError :=
  if "timeout".toList <:+: message.toList then ⟨.timedOut, message⟩ else ⟨.brokenPipe, message⟩

def receiveHead : Option (Except String ResponseHead) → Except IoError ResponseHead
  | none => .error ⟨.unexpectedEof, "upstream closed"⟩
  | some (.error message) => .error (nextError message)
  | some (.ok head) => .ok head

def forwardViaCodec (exchange : CodecExchange) : Except IoError Response := do
  Step.check exchange.send .brokenPipe
  Step.check exchange.flush .brokenPipe
  let head ← receiveHead exchange.next
  return head.withBody exchange.body

/-! ## `forward_via_h2_inner` -/

/-- A request whose body has not been read. -/
structure IncomingRequest where
  method : String
  uri : String
  headers : HeaderMap
  body : Body

/-- An exchange over a fresh HTTP/2 connection. -/
structure H2Exchange where
  connect : Step
  handshake : Step
  ready : Step
  /-- `http::Uri::builder` with the authority and the path of a URI -/
  authorityUri : String → String → Option String
  /-- `http::request::Builder::body` -/
  build : Step
  /-- `send_request`, which looks at the headers of the request. -/
  sendRequest : HeaderMap → Step
  sendData : Step
  response : Except String ResponseHead
  body : Body

/-- What is sent to the backend; the flag says that the request ends there. -/
inductive H2Effect
  | sendRequest (method uri : String) (headers : HeaderMap) (endOfStream : Bool)
  | sendData (bytes : List UInt8) (endOfStream : Bool)
deriving DecidableEq

/-- The backend takes the request for complete. -/
def H2Effect.completes : H2Effect → Bool
  | .sendRequest _ _ _ endOfStream => endOfStream
  | .sendData _ endOfStream => endOfStream

/-- The URI with the authority from the Host header. -/
def h2Uri (exchange : H2Exchange) (request : IncomingRequest) : String :=
  match (request.headers.values "host").head? with
  | some host =>
    (exchange.authorityUri ((toStr host).getD "") request.uri).getD request.uri
  | none => request.uri

/-- The headers without those of HTTP/1.1 connections. -/
def h2Headers (headers : HeaderMap) : HeaderMap :=
  ((headers.remove "transfer-encoding").remove "connection").remove "host"

/-- Steps 1 to 5: the connection, and the request that is sent on it. -/
def openH2 (exchange : H2Exchange) : Except IoError Unit := do
  Step.check exchange.connect .connectionRefused
  Step.check exchange.handshake .other
  Step.check exchange.ready .other
  Step.check exchange.build .invalidInput

/-- Step 6: the head, then the collected body if there is any; with an error,
what was sent before it. -/
def sendH2 (exchange : H2Exchange) (request : IncomingRequest) :
    List H2Effect × Except IoError Unit :=
  let bodyBytes := collectBody [] request.body
  let hasBody := !bodyBytes.isEmpty
  match exchange.sendRequest (h2Headers request.headers) with
  | some message => ([], .error ⟨.other, message⟩)
  | none =>
    let head := .sendRequest request.method (h2Uri exchange request) (h2Headers request.headers)
      !hasBody
    if hasBody then
      match exchange.sendData with
      | some message => ([head], .error ⟨.other, message⟩)
      | none => ([head, .sendData bodyBytes true], .ok ())
    else ([head], .ok ())

/-- Steps 7 to 9. -/
def receiveH2 (exchange : H2Exchange) : Except IoError Response :=
  match exchange.response with
  | .error message => .error ⟨.other, message⟩
  | .ok head => .ok (head.withBody exchange.body)

def forwardViaH2Inner (exchange : H2Exchange) (request : IncomingRequest) :
    List H2Effect × Except IoError Response :=
  match openH2 exchange with
  | .error e => ([], .error e)
  | .ok () =>
    match sendH2 exchange request with
    | (effects, .error e) => (effects, .error e)
    | (effects, .ok ()) => (effects, receiveH2 exchange)

/-! ## Truncated bodies -/

/-- Some chunks are read, then one is not. -/
def Truncated (body : Body) : Prop :=
  ∃ (chunks : List (List UInt8)) (e : BodyError) (rest : Body),
    body = chunks.map .ok ++ .error e :: rest

/-! ## When an exchange is an error -/

/-- Some chunk before the first error has bytes. -/
def HasBytes (body : Body) : Prop :=
  ∃ (chunks : List (List UInt8)) (chunk : List UInt8) (rest : Body),
    body = chunks.map .ok ++ .ok chunk :: rest ∧ chunk ≠ []

theorem hasBytes_cons_ok {chunk : List UInt8} {rest : Body} :
    HasBytes (.ok chunk :: rest) ↔ chunk ≠ [] ∨ HasBytes rest := by
  constructor
  · intro h
    obtain ⟨chunks, last, tail, hbody, hlast⟩ := h
    cases chunks with
    | nil =>
      obtain ⟨rfl, rfl⟩ : chunk = last ∧ rest = tail := by simpa using hbody
      exact .inl hlast
    | cons first chunks =>
      obtain ⟨-, hrest⟩ : chunk = first ∧ rest = chunks.map .ok ++ .ok last :: tail := by
        simpa using hbody
      exact .inr ⟨chunks, last, tail, hrest, hlast⟩
  · intro h
    rcases h with hchunk | hrest
    · exact ⟨[], chunk, rest, rfl, hchunk⟩
    · obtain ⟨chunks, last, tail, rfl, hlast⟩ := hrest
      exact ⟨chunk :: chunks, last, tail, rfl, hlast⟩

theorem not_hasBytes_error {e : BodyError} {rest : Body} : ¬HasBytes (.error e :: rest) := by
  intro h
  obtain ⟨chunks, _, _, hbody, -⟩ := h
  cases chunks <;> simp at hbody

theorem collectBody_ne_nil_iff {body : Body} {bodyBytes : List UInt8} :
    collectBody bodyBytes body ≠ [] ↔ bodyBytes ≠ [] ∨ HasBytes body := by
  induction body generalizing bodyBytes with
  | nil => simp [collectBody, HasBytes]
  | cons read rest ih =>
    cases read with
    | error e => simp [collectBody, not_hasBytes_error]
    | ok chunk =>
      rw [collectBody, ih, hasBytes_cons_ok, ← or_assoc]
      refine or_congr_left ?_
      rw [Ne, List.append_eq_nil_iff, not_and_or]

/-- The upstream takes the request and answers it. -/
def CodecExchange.Answered (exchange : CodecExchange) : Prop :=
  exchange.send = none ∧ exchange.flush = none ∧ ∃ head, exchange.next = some (.ok head)

theorem forwardViaCodec_error_iff {exchange : CodecExchange} :
    (∃ e, forwardViaCodec exchange = .error e) ↔ ¬exchange.Answered := by
  obtain ⟨send, flush, next, body⟩ := exchange
  cases send
  case some => simp [forwardViaCodec, CodecExchange.Answered, bind, Except.bind]
  cases flush
  case some => simp [forwardViaCodec, CodecExchange.Answered, bind, Except.bind]
  rcases next with _ | _ | head <;>
    simp [forwardViaCodec, receiveHead, CodecExchange.Answered, bind, Except.bind, pure,
      Except.pure]

/-- The connection is there, and takes the head of the request. -/
def H2Exchange.Opened (exchange : H2Exchange) (request : IncomingRequest) : Prop :=
  (exchange.connect = none ∧ exchange.handshake = none ∧ exchange.ready = none ∧
    exchange.build = none) ∧ exchange.sendRequest (h2Headers request.headers) = none

/-- The connection takes the request with its body. -/
def H2Exchange.Sent (exchange : H2Exchange) (request : IncomingRequest) : Prop :=
  exchange.Opened request ∧ (HasBytes request.body → exchange.sendData = none)

theorem openH2_eq_ok_iff {exchange : H2Exchange} :
    openH2 exchange = .ok () ↔ exchange.connect = none ∧ exchange.handshake = none ∧
      exchange.ready = none ∧ exchange.build = none := by
  obtain ⟨connect, handshake, ready, _, build, _, _, _, _⟩ := exchange
  cases connect
  case some => simp [openH2, bind, Except.bind]
  cases handshake
  case some => simp [openH2, bind, Except.bind]
  cases ready
  case some => simp [openH2, bind, Except.bind]
  cases build <;> simp [openH2, bind, Except.bind]

/-- A request is sent whole or not at all: its last frame ends the stream, and
where a step fails no frame does. -/
theorem sendH2_cases (exchange : H2Exchange) (request : IncomingRequest) :
    ((sendH2 exchange request).2 = .ok () ∧
      exchange.sendRequest (h2Headers request.headers) = none ∧
      (HasBytes request.body → exchange.sendData = none) ∧
      ∃ effect ∈ (sendH2 exchange request).1, effect.completes = true) ∨
    ((∃ e, (sendH2 exchange request).2 = .error e) ∧
      ¬(exchange.sendRequest (h2Headers request.headers) = none ∧
        (HasBytes request.body → exchange.sendData = none)) ∧
      ∀ effect ∈ (sendH2 exchange request).1, effect.completes = false) := by
  have hbytes : collectBody [] request.body ≠ [] ↔ HasBytes request.body := by
    have hcollected : collectBody [] request.body ≠ [] ↔ [] ≠ [] ∨ HasBytes request.body :=
      collectBody_ne_nil_iff
    simpa using hcollected
  cases hreq : exchange.sendRequest (h2Headers request.headers)
  case some => simp [sendH2, hreq]
  by_cases hbody : HasBytes request.body
  case neg =>
    have hnil : collectBody [] request.body = [] := by
      by_contra hne
      exact hbody (hbytes.1 hne)
    left
    simp [sendH2, hreq, hnil, hbody, H2Effect.completes]
  have hempty : (collectBody [] request.body).isEmpty = false := by
    simpa using hbytes.2 hbody
  cases hdata : exchange.sendData with
  | some message =>
    right
    simp [sendH2, hreq, hempty, hbody, hdata, H2Effect.completes]
  | none =>
    left
    simp [sendH2, hreq, hempty, hdata, H2Effect.completes]

theorem forwardViaH2Inner_cases (exchange : H2Exchange) (request : IncomingRequest) :
    (exchange.Sent request ∧
      (forwardViaH2Inner exchange request).2 = receiveH2 exchange ∧
      ∃ effect ∈ (forwardViaH2Inner exchange request).1, effect.completes = true) ∨
    (¬exchange.Sent request ∧
      (∃ e, (forwardViaH2Inner exchange request).2 = .error e) ∧
      ∀ effect ∈ (forwardViaH2Inner exchange request).1, effect.completes = false) := by
  cases hopen : openH2 exchange with
  | error e =>
    right
    have hclosed : ¬(exchange.connect = none ∧ exchange.handshake = none ∧
        exchange.ready = none ∧ exchange.build = none) := by
      rw [← openH2_eq_ok_iff, hopen]
      simp
    refine ⟨fun h => hclosed h.1.1, ?_⟩
    simp [forwardViaH2Inner, hopen]
  | ok =>
    have hopened := openH2_eq_ok_iff.1 hopen
    rcases sendH2_cases exchange request with ⟨hres, hreq, hdata, heffect⟩ | ⟨hres, hsent, heffect⟩
    · left
      refine ⟨⟨⟨hopened, hreq⟩, hdata⟩, ?_⟩
      rw [forwardViaH2Inner, hopen]
      rcases hsend : sendH2 exchange request with ⟨effects, result⟩
      rw [hsend] at hres heffect
      obtain rfl : result = .ok () := hres
      exact ⟨rfl, heffect⟩
    · right
      refine ⟨fun h => hsent ⟨h.1.2, h.2⟩, ?_⟩
      rw [forwardViaH2Inner, hopen]
      rcases hsend : sendH2 exchange request with ⟨effects, result⟩
      rw [hsend] at hres heffect
      obtain ⟨e, rfl⟩ : ∃ e, result = .error e := hres
      exact ⟨⟨e, rfl⟩, heffect⟩

theorem receiveH2_error_iff {exchange : H2Exchange} :
    (∃ e, receiveH2 exchange = .error e) ↔ ∀ head, exchange.response ≠ .ok head := by
  cases h : exchange.response <;> simp [receiveH2, h]

/-- An exchange with a body that is cut short is an error exactly when another
step of it fails; with a request body, one before the end of the request. -/
theorem truncated_iff (codec : CodecExchange) (exchange : H2Exchange)
    (request : IncomingRequest) :
    ((Truncated codec.body → ∃ e, forwardViaCodec codec = .error e) ↔
        (Truncated codec.body → ¬codec.Answered)) ∧
      ((Truncated exchange.body → ∃ e, (forwardViaH2Inner exchange request).2 = .error e) ↔
        (Truncated exchange.body →
          ¬exchange.Sent request ∨ ∀ head, exchange.response ≠ .ok head)) ∧
      ((Truncated request.body →
        (∃ e, (forwardViaH2Inner exchange request).2 = .error e) ∧
          ∀ effect ∈ (forwardViaH2Inner exchange request).1, effect.completes = false) ↔
        (Truncated request.body → ¬exchange.Sent request)) := by
  refine ⟨?_, ?_, ?_⟩
  · rw [forwardViaCodec_error_iff]
  · refine imp_congr_right fun _ => ?_
    rcases forwardViaH2Inner_cases exchange request with ⟨hsent, hres, -⟩ | ⟨hsent, hres, -⟩
    · rw [hres, receiveH2_error_iff]
      exact ⟨.inr, fun h => h.resolve_left fun hnot => hnot hsent⟩
    · exact ⟨fun _ => .inl hsent, fun _ => hres⟩
  · refine imp_congr_right fun _ => ?_
    rcases forwardViaH2Inner_cases exchange request with
      ⟨hsent, -, effect, hmem, hcomplete⟩ | ⟨hsent, hres, heffect⟩
    · constructor
      · intro h
        have hfalse := h.2 effect hmem
        rw [hcomplete] at hfalse
        cases hfalse
      · intro hnot
        exact absurd hsent hnot
    · exact ⟨fun _ => hsent, fun _ => ⟨hres, heffect⟩⟩

/-- A connection that is closed after the first chunk of a body, on either side:
its 3 bytes are the body. -/
theorem partial_body_forwarded :
    let body : Body := [.ok [1, 2, 3], .error .closed]
    let request : IncomingRequest := ⟨"POST", "/", [("host", "a.example")], body⟩
    let exchange : H2Exchange :=
      ⟨none, none, none, fun authority uri => some ("http://" ++ authority ++ uri), none,
        fun _ => none, none, .ok ⟨200, []⟩, body⟩
    Truncated body ∧
      forwardViaCodec ⟨none, none, some (.ok ⟨200, [("transfer-encoding", "chunked")]⟩), body⟩ =
        .ok ⟨200, [("transfer-encoding", "chunked")], .fixed [1, 2, 3]⟩ ∧
      forwardViaH2Inner exchange request =
        ([.sendRequest "POST" "http://a.example/" [] false, .sendData [1, 2, 3] true],
          .ok ⟨200, [], .fixed [1, 2, 3]⟩) := by
  refine ⟨⟨[[1, 2, 3]], .closed, [], rfl⟩, rfl, ?_⟩
  decide

end Multiway.ProxyCore
