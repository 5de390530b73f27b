import Multiway.Lib.Lines
import Multiway.Lib.Utf8
import Multiway.ProxyCore.Pipeline

/-!
# A connection (`proxy-core/src/pipeline.rs`)

`HttpCoreService::call` reads the first request head off the stream itself. A
WebSocket upgrade is handled on the raw bytes (`upgrade`); anything else is put
back in front of the stream and left to the codec, whose requests go through
the pipeline one after the other (`keepAlive`).

The two paths read a request in two ways: `rawRoutingMeta` takes the routing
metadata from the lines of the head, `extractRequestMeta` from the request the
codec has parsed. The codec is the `monoio-http` crate's: from the bytes of a
connection it makes a list of requests, with an error where a head does not
parse. A stream is the list of what its reads return, up to its end.
-/

namespace Multiway.ProxyCore

open Multiway.Lib.Text

/-! ## Reading a head -/

/-- The kinds of `io::Error` a connection ends with. -/
inductive IoErrorKind | unexpectedEof | invalidData | brokenPipe
deriving DecidableEq

/-- How the task of a connection ends. -/
inductive Ending
  | ok
  | error (kind : IoErrorKind)
  | panicked
deriving DecidableEq

/-- `\r\n\r\n` -/
def terminator : List UInt8 := [13, 10, 13, 10]

/-- The loop of `read_http_request_head` with what is in the buffer. -/
def readMore (buf : List UInt8) :
    List (List UInt8) → Except IoErrorKind (List UInt8 × List (List UInt8))
  | [] => .error .unexpectedEof
  | chunk :: reads =>
    if chunk.isEmpty then .error .unexpectedEof
    else
      let buf := buf ++ chunk
      if terminator <:+: buf then .ok (buf, reads)
      else if 65536 < buf.length then .error .invalidData
      else readMore buf reads

/-- Read until the terminator is there: the bytes read so far, and what is left
to read. -/
def readHttpRequestHead (reads : List (List UInt8)) :
    Except IoErrorKind (List UInt8 × List (List UInt8)) :=
  readMore [] reads

/-! ## Header lines -/

/-- The lines after the first one, up to an empty line. -/
def headerLines (text : List Char) : List (List Char) :=
  ((lines text).drop 1).takeWhile fun line => !(line.isEmpty || line == ['\r'])

/-- A line cut at its first colon; one without a colon is skipped. -/
def headerField (line : List Char) : Option (String × String) :=
  (splitOnce ':' line).map fun (name, value) =>
    (String.ofList (trim name), String.ofList (trim value))

def headerFields (text : List Char) : List (String × String) :=
  (headerLines text).filterMap headerField

/-- What `is_raw_websocket_upgrade` has seen so far. -/
structure UpgradeFlags where
  hasConnectionUpgrade : Bool := false
  hasUpgradeWebsocket : Bool := false
  hasWsVersion : Bool := false
  hasWsKey : Bool := false
deriving DecidableEq

/-- One header line of `is_raw_websocket_upgrade`. -/
def UpgradeFlags.see (flags : UpgradeFlags) : String × String → UpgradeFlags
  | (name, value) =>
    if eqIgnoreAsciiCase name "connection" then
      { flags with
        hasConnectionUpgrade := (value.toList.splitOn ',').any fun part =>
          eqIgnoreAsciiCase (String.ofList (trim part)) "upgrade" }
    else if eqIgnoreAsciiCase name "upgrade" then
      { flags with hasUpgradeWebsocket := eqIgnoreAsciiCase value "websocket" }
    else if eqIgnoreAsciiCase name "sec-websocket-version" then
      { flags with hasWsVersion := true }
    else if eqIgnoreAsciiCase name "sec-websocket-key" then
      { flags with hasWsKey := true }
    else flags

/-- The verdict on a text. -/
def isUpgradeText (text : List Char) : Bool :=
  let flags := (headerFields text).foldl UpgradeFlags.see {}
  flags.hasConnectionUpgrade && flags.hasUpgradeWebsocket && flags.hasWsVersion && flags.hasWsKey

/-- Check if raw HTTP request bytes represent a WebSocket upgrade. -/
def isRawWebsocketUpgrade (raw : List UInt8) : Bool := (fromUtf8 raw).any isUpgradeText

/-! ## Routing metadata -/

/-- The parts of a parsed URI. -/
structure UriParts where
  path : String → String
  query : String → Option String

/-- `HeaderValue::to_str`: visible ASCII and tabs. -/
def toStr (value : String) : Option String :=
  if value.toList.all fun c => c == '\t' || (' ' ≤ c && c ≤ '~') then some value else none

/-- Strip the port, if what follows the last colon is all digits. -/
def withoutPort (host : String) : String :=
  match rsplitOnce ':' host.toList with
  | some (hostPart, portPart) => if portPart.all Char.isDigit then String.ofList hostPart else host
  | none => host

/-- Name and value of each part of the query. -/
def queryPairs (query : Option String) : List (String × String) :=
  query.elim [] fun q => (q.toList.splitOn '&').map fun pair =>
    match splitOnce '=' pair with
    | some (key, value) => (String.ofList key, String.ofList value)
    | none => (String.ofList pair, "")

/-- Extract routing-relevant metadata from an HTTP request. -/
def extractRequestMeta (uris : UriParts) (req : Request) : RequestMeta where
  host := ((req.headers.find? fun (name, _) => name == "host").bind fun (_, value) =>
    toStr value).map withoutPort
  path := uris.path req.uri
  method := req.method
  headers := req.headers.map fun (name, value) => (name, (toStr value).getD "")
  queryParams := queryPairs (uris.query req.uri)

/-- The first Host header wins. -/
theorem find?_host (headers : HeaderMap) :
    (headers.find? fun (name, _) => name == "host").map Prod.snd =
      (headers.values "host").head? := by
  induction headers with
  | nil => rfl
  | cons entry headers ih =>
    obtain ⟨name, value⟩ := entry
    rw [HeaderMap.values_cons]
    by_cases hname : name = "host"
    · simp [hname]
    · rw [List.find?_cons_of_neg (by simpa using hname), ih, if_neg hname]

/-- The host of a request is that of its first Host header. -/
theorem host_extractRequestMeta (uris : UriParts) (req : Request) :
    (extractRequestMeta uris req).host =
      ((req.headers.values "host").head?.bind toStr).map withoutPort := by
  rw [extractRequestMeta, ← find?_host]
  cases req.headers.find? fun (name, _) => name == "host" <;> rfl

/-- The header fields of a raw head, names in lowercase. -/
def rawHeaders (text : List Char) : List (String × String) :=
  (headerFields text).map fun (name, value) => (String.ofList (toLowercase name.toList), value)

/-- The host after the header loop: each Host line overwrites the one before. -/
def rawHost (headers : List (String × String)) : Option String :=
  headers.foldl (fun host (name, value) => if name == "host" then some (withoutPort value) else host)
    none

/-- The routing metadata `handle_websocket_upgrade` takes from a text; `none`
where its URI does not parse. -/
def textRoutingMeta (http : HttpCrate) (uris : UriParts) (text : List Char) :
    Option RequestMeta :=
  let parts := splitWhitespace ((lines text).headD [])
  let method := String.ofList ((parts[0]?).getD "GET".toList)
  let uriStr := String.ofList ((parts[1]?).getD "/".toList)
  (http.parseUri uriStr).map fun uri =>
    { host := rawHost (rawHeaders text)
      path := uris.path uri
      method
      headers := rawHeaders text
      queryParams := queryPairs (uris.query uri) }

def rawRoutingMeta (http : HttpCrate) (uris : UriParts) (raw : List UInt8) :
    Option RequestMeta :=
  (fromUtf8 raw).bind (textRoutingMeta http uris)

/-! ## The upgrade -/

/-- What a connection does to the outside. -/
inductive ConnectionEffect (Addr : Type)
  | pipeline (effect : Effect Addr)
  /-- A response sent through the codec. -/
  | respond (response : Response)
  /-- The raw head, sent to the backend of an upgrade. -/
  | sendBackend (addr : Addr) (bytes : List UInt8)
  /-- The answer of that backend, sent to the client as it is. -/
  | relayClient (bytes : List UInt8)
  /-- Bytes are copied both ways until either side closes. -/
  | tunnel (addr : Addr)
deriving DecidableEq

/-- What a connection needs of the outside besides what the pipeline needs. -/
structure ConnectionEnv (Addr : Type) extends Env Addr where
  uris : UriParts
  /-- `TcpStream::connect` -/
  connects : Addr → Bool
  /-- Whether a backend takes the head of an upgrade. -/
  sends : Addr → Bool
  /-- The reads of a backend's answer to the head of an upgrade. -/
  answers : Addr → List UInt8 → List (List UInt8)
  /-- Whether the client takes what it is sent. -/
  clientTakes : Bool

section
variable {Addr : Type} (env : ConnectionEnv Addr) (isMatch : String → String → Bool)
  (config : ProxyConfig) (listenerName : String)

/-- `write_all` to the client. -/
def ConnectionEnv.written : Ending := if env.clientTakes then .ok else .error .brokenPipe

/-- Whether the first line of a backend's answer contains `101`. -/
def switchesProtocols (answer : List UInt8) : Bool :=
  "101".toList <:+: ((lines ((fromUtf8 answer).getD [])).headD [])

/-- `handle_websocket_upgrade` from the connection to the backend on. -/
def relayUpgrade (addr : Addr) (raw : List UInt8) :
    List (ConnectionEffect Addr) × Ending :=
  if !env.connects addr then
    ([.pipeline (.writeClient
      "HTTP/1.1 502 Bad Gateway\r\ncontent-length: 15\r\n\r\n502 Bad Gateway")], env.written)
  else if !env.sends addr then ([], .error .brokenPipe)
  else
    match readHttpRequestHead (env.answers addr raw) with
    | .error e => ([.sendBackend addr raw], .error e)
    | .ok (answer, _) =>
      if switchesProtocols answer && env.clientTakes then
        ([.sendBackend addr raw, .relayClient answer, .tunnel addr], .ok)
      else ([.sendBackend addr raw, .relayClient answer], env.written)

/-- `handle_websocket_upgrade`. -/
def upgrade (raw : List UInt8) : List (ConnectionEffect Addr) × Ending :=
  match rawRoutingMeta env.http env.uris raw with
  | none => ([], .error .invalidData)
  | some routingMeta =>
    let effects := handleWebsocketUpgrade env.toEnv isMatch config listenerName routingMeta
    match effects.getLast? with
    | some (.connect addr) =>
      let (relayed, result) := relayUpgrade env addr raw
      (effects.map .pipeline ++ relayed, result)
    | _ => (effects.map .pipeline, env.written)

/-! ## HttpCoreService -/

inductive HttpVersion | http10 | http11
deriving DecidableEq

/-- A request as the codec parses it, with the bytes its head takes. -/
structure Decoded where
  request : Request
  version : HttpVersion
  head : List UInt8
deriving DecidableEq

/-- `ServerCodec` as a stream of requests over the bytes of a connection; `none`
is a parse error. -/
abbrev ServerCodec := List UInt8 → List (Option Decoded)

/-- The keep-alive loop. -/
def keepAlive : List (Option Decoded) → List (ConnectionEffect Addr) × Ending
  | [] => ([], .ok)
  | none :: _ => ([], .error .invalidData)
  | some decoded :: rest =>
    let (effects, response) := RouteAndFilter.call env.toEnv isMatch config listenerName
      (extractRequestMeta env.uris decoded.request) decoded.request
    match response with
    | none => (effects.map .pipeline, .panicked)
    | some response =>
      if !env.clientTakes then (effects.map .pipeline, .error .brokenPipe)
      else
        let (later, result) := keepAlive rest
        (effects.map .pipeline ++ .respond response :: later, result)

namespace HttpCoreService

def call (codec : ServerCodec) (reads : List (List UInt8)) :
    List (ConnectionEffect Addr) × Ending :=
  match readHttpRequestHead reads with
  | .error e => ([], .error e)
  | .ok (rawHead, rest) =>
    if isRawWebsocketUpgrade rawHead then upgrade env isMatch config listenerName rawHead
    else keepAlive env isMatch config listenerName (codec (rawHead ++ rest.flatten))

end HttpCoreService

end

end Multiway.ProxyCore
