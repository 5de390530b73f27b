import Multiway.ProxyCore.Framing

/-!
# Connection-specific headers over HTTP/2 (`forward_via_h2_inner`)

Which headers belong to a connection is partly fixed and partly said by the
request, in its Connection header. `forward_via_h2_inner` removes three by
name and keeps all the others. The HTTP/2 client does not send what it can tell
to be malformed (`RefusesMalformed`), but it does not know what the Connection
header said, which has been removed. So what is sent is right exactly when no
other header was nominated, and no further TE header hides behind the first
(`h2_stripped_iff`).
-/

namespace Multiway.ProxyCore

open Multiway.Lib
open Multiway.Lib.Text

/-- The header names that the Connection headers list. -/
def nominated (headers : HeaderMap) : List String :=
  (headers.values "connection").flatMap fun value =>
    (value.toList.splitOn ',').map fun part => String.ofList (toAsciiLowercase (trim part))

/-- The names that `forward_via_h2_inner` removes. -/
def removedNames : List String := ["transfer-encoding", "connection", "host"]

/-- Other headers that are always for one connection. -/
def hopNames : List String := ["keep-alive", "proxy-connection", "upgrade"]

/-- The header is for the connection that `original` came on, and not for the
next one. -/
def connectionSpecific (original : HeaderMap) (entry : String × String) : Bool :=
  (removedNames ++ hopNames).contains entry.1 ||
    entry.1 == "te" && entry.2 != "trailers" || (nominated original).contains entry.1

/-- Of the headers of the upstream request, the connection-specific ones are
left out, and all others are sent. -/
structure Stripped (original upstream sent : HeaderMap) : Prop where
  stripped : ∀ entry ∈ sent, connectionSpecific original entry = false
  kept : sent.filter (fun entry => !connectionSpecific original entry) =
    upstream.filter fun entry => !connectionSpecific original entry

theorem connectionSpecific_of_removed {original : HeaderMap} {entry : String × String}
    (h : entry.1 ∈ removedNames) : connectionSpecific original entry = true := by
  unfold connectionSpecific
  rw [List.contains_iff_mem.mpr (List.mem_append_left _ h), Bool.true_or, Bool.true_or]

/-- Three removals are one. -/
theorem h2Headers_eq_filter (headers : HeaderMap) :
    h2Headers headers = headers.filter fun entry => !removedNames.contains entry.1 := by
  unfold h2Headers HeaderMap.remove
  rw [List.filter_filter, List.filter_filter]
  refine List.filter_congr fun entry _ => ?_
  simp only [removedNames, List.contains_cons, List.contains_nil, Bool.or_false, bne]
  cases entry.1 == "transfer-encoding" <;> cases entry.1 == "connection" <;>
    cases entry.1 == "host" <;> rfl

/-- The request is sent once the connection takes its head. -/
theorem sendRequest_of_opened {exchange : H2Exchange} {request : IncomingRequest}
    (h : exchange.Opened request) :
    ∃ endOfStream, .sendRequest request.method (h2Uri exchange request)
      (h2Headers request.headers) endOfStream ∈ (forwardViaH2Inner exchange request).1 := by
  obtain ⟨hsteps, htaken⟩ := h
  refine ⟨(collectBody [] request.body).isEmpty, ?_⟩
  have hhead : H2Effect.sendRequest request.method (h2Uri exchange request)
      (h2Headers request.headers) (collectBody [] request.body).isEmpty ∈
        (sendH2 exchange request).1 := by
    unfold sendH2
    simp only [htaken, Bool.not_not]
    split
    · split <;> exact List.mem_cons_self
    · exact List.mem_cons_self
  unfold forwardViaH2Inner
  rw [openH2_eq_ok_iff.mpr hsteps]
  dsimp only
  split
  next heq => rwa [heq] at hhead
  next heq => rwa [heq] at hhead

/-- Every request that is sent carries these headers, and they were taken. -/
theorem headers_of_sendRequest {exchange : H2Exchange} {request : IncomingRequest}
    {method uri : String} {sent : HeaderMap} {endOfStream : Bool}
    (h : .sendRequest method uri sent endOfStream ∈ (forwardViaH2Inner exchange request).1) :
    exchange.Opened request ∧ sent = h2Headers request.headers := by
  have hsteps : openH2 exchange = .ok () := by
    unfold forwardViaH2Inner at h
    split at h
    · cases h
    next hopen => exact hopen
  have hsend : H2Effect.sendRequest method uri sent endOfStream ∈
      (sendH2 exchange request).1 := by
    unfold forwardViaH2Inner at h
    rw [hsteps] at h
    dsimp only at h
    split at h
    next heq => rwa [heq]
    next heq => rwa [heq]
  unfold sendH2 at hsend
  simp only at hsend
  split at hsend
  · cases hsend
  next htaken =>
    refine ⟨⟨openH2_eq_ok_iff.mp hsteps, htaken⟩, ?_⟩
    split at hsend
    · split at hsend
      · cases List.mem_singleton.mp hsend
        rfl
      · rcases List.mem_cons.mp hsend with heq | hdata
        · cases heq
          rfl
        · cases List.mem_singleton.mp hdata
    · cases List.mem_singleton.mp hsend
      rfl

theorem stripped_h2Headers_iff {original upstream : HeaderMap} :
    Stripped original upstream (h2Headers upstream) ↔
      ∀ entry ∈ upstream, connectionSpecific original entry = true → entry.1 ∈ removedNames := by
  rw [h2Headers_eq_filter]
  constructor
  · intro h entry hentry hspecific
    by_contra hkept
    have hsent := h.stripped entry (List.mem_filter.mpr ⟨hentry, by simpa using hkept⟩)
    rw [hspecific] at hsent
    cases hsent
  · intro h
    constructor
    · intro entry hentry
      obtain ⟨hmem, hkept⟩ := List.mem_filter.mp hentry
      cases hspecific : connectionSpecific original entry with
      | false => rfl
      | true =>
        rw [List.contains_iff_mem.mpr (h entry hmem hspecific)] at hkept
        cases hkept
    · -- what is removed is connection-specific
      rw [List.filter_filter]
      refine List.filter_congr fun entry _ => ?_
      cases hremoved : removedNames.contains entry.1 with
      | false => simp
      | true =>
        rw [connectionSpecific_of_removed (List.contains_iff_mem.mp hremoved)]
        rfl

/-! ## What the client sends -/

/-- HTTP/2 has no place for the request: it has a header that is always for one
connection, or its TE header is not `trailers`. -/
def malformedForH2 (headers : HeaderMap) : Bool :=
  headers.any (fun entry => (["transfer-encoding", "connection"] ++ hopNames).contains entry.1) ||
    (headers.values "te").head?.any (· != "trailers")

/-- The HTTP/2 client refuses such requests (`UserError::MalformedHeaders`). -/
def H2Exchange.RefusesMalformed (exchange : H2Exchange) : Prop :=
  ∀ headers, malformedForH2 headers = true → exchange.sendRequest headers ≠ none

/-- A header that goes on is none of those that make a request malformed. -/
theorem not_hopNames_of_taken {exchange : H2Exchange} (hclient : exchange.RefusesMalformed)
    {headers : HeaderMap} (htaken : exchange.sendRequest (h2Headers headers) = none)
    {entry : String × String} (hentry : entry ∈ headers) (hkept : entry.1 ∉ removedNames) :
    entry.1 ∉ hopNames := by
  intro hhop
  refine hclient (h2Headers headers) (Bool.or_eq_true_iff.mpr (.inl ?_)) htaken
  rw [h2Headers_eq_filter]
  refine List.any_eq_true.mpr ⟨entry, List.mem_filter.mpr ⟨hentry, by simpa using hkept⟩, ?_⟩
  exact List.contains_iff_mem.mpr (List.mem_append_right _ hhop)

/-- **What crosses to HTTP/2 is stripped** exactly when the request is not sent at
all, or no header that the filters leave was nominated by the original request or
is a TE header with another value than `trailers`, besides Transfer-Encoding,
Connection and Host. -/
theorem h2_stripped_iff {exchange : H2Exchange} (hclient : exchange.RefusesMalformed)
    (http : HttpCrate) (original : Request) (host : Option String) (applied : AppliedFilter)
    (body : Body) :
    (∀ method uri sent endOfStream,
      .sendRequest method uri sent endOfStream ∈ (forwardViaH2Inner exchange
        ((buildUpstreamRequest http original host applied).incoming body)).1 →
      Stripped original.headers (buildUpstreamRequest http original host applied).headers sent) ↔
    (exchange.Opened ((buildUpstreamRequest http original host applied).incoming body) →
      ∀ entry ∈ (buildUpstreamRequest http original host applied).headers,
        entry.1 ∈ nominated original.headers ∨ entry.1 = "te" ∧ entry.2 ≠ "trailers" →
          entry.1 ∈ removedNames) := by
  constructor
  · intro h hopened entry hentry hother
    obtain ⟨endOfStream, hsent⟩ := sendRequest_of_opened hopened
    refine stripped_h2Headers_iff.mp (h _ _ _ _ hsent) entry hentry ?_
    unfold connectionSpecific
    rcases hother with hnominated | ⟨hte, hvalue⟩
    · rw [List.contains_iff_mem.mpr hnominated, Bool.or_true]
    · rw [hte, beq_self_eq_true, bne_iff_ne.mpr hvalue, Bool.and_self, Bool.or_true, Bool.true_or]
  · intro h method uri sent endOfStream hsent
    obtain ⟨hopened, rfl⟩ := headers_of_sendRequest hsent
    refine stripped_h2Headers_iff.mpr fun entry hentry hspecific => ?_
    by_contra hkept
    -- what is always for one connection is refused, so the request has said it of this one
    have hhop := not_hopNames_of_taken hclient hopened.2 hentry hkept
    simp only [connectionSpecific, Bool.or_eq_true, Bool.and_eq_true, List.contains_iff_mem,
      List.mem_append, beq_iff_eq, bne_iff_ne] at hspecific
    rcases hspecific with ((hremoved | hname) | hte) | hnominated
    · exact hkept hremoved
    · exact hhop hname
    · exact hkept (h hopened entry hentry (.inr hte))
    · exact hkept (h hopened entry hentry (.inl hnominated))

/-- Every step of the exchange goes through, the client takes what is not
malformed, and the backend answers. -/
def openExchange : H2Exchange where
  connect := none
  handshake := none
  ready := none
  authorityUri authority path := some ("http://" ++ authority ++ path)
  build := none
  sendRequest headers := if malformedForH2 headers then some "malformed headers" else none
  sendData := none
  response := .ok ⟨200, []⟩
  body := []

theorem refusesMalformed_openExchange : openExchange.RefusesMalformed := by
  intro headers hmalformed htaken
  unfold openExchange at htaken
  dsimp only at htaken
  rw [if_pos hmalformed] at htaken
  cases htaken

/-- A browser's request. -/
def browserRequest (headers : HeaderMap) : Request where
  method := "GET"
  uri := "/"
  headers := [("host", "a.example"), ("connection", "keep-alive, x-hop")] ++ headers
  payload := .none

theorem browserRequest_stripped :
    .sendRequest "GET" "http://a.example/" [("accept", "*/*")] true ∈
        (forwardViaH2Inner openExchange ((buildUpstreamRequest plainHttp
          (browserRequest [("accept", "*/*")]) none {}).incoming [])).1 ∧
      Stripped (browserRequest [("accept", "*/*")]).headers
        (browserRequest [("accept", "*/*")]).headers [("accept", "*/*")] := by
  have hsent : .sendRequest "GET" "http://a.example/" [("accept", "*/*")] true ∈
      (forwardViaH2Inner openExchange ((buildUpstreamRequest plainHttp
        (browserRequest [("accept", "*/*")]) none {}).incoming [])).1 := by decide
  exact ⟨hsent, (h2_stripped_iff refusesMalformed_openExchange plainHttp
    (browserRequest [("accept", "*/*")]) none {} []).mpr (fun _ => by decide) _ _ _ _ hsent⟩

/-- `X-Hop` goes on to the backend, although the request itself says that it is
for the connection. -/
theorem nominated_crosses :
    ¬ ∀ (exchange : H2Exchange), exchange.RefusesMalformed → ∀ (http : HttpCrate)
        (original : Request) (host : Option String) (applied : AppliedFilter) (body : Body)
        (method uri : String) (sent : HeaderMap) (endOfStream : Bool),
      .sendRequest method uri sent endOfStream ∈ (forwardViaH2Inner exchange
        ((buildUpstreamRequest http original host applied).incoming body)).1 →
      Stripped original.headers (buildUpstreamRequest http original host applied).headers sent := by
  intro hall
  have h := hall openExchange refusesMalformed_openExchange plainHttp
    (browserRequest [("x-hop", "1")]) none {} [] "GET" "http://a.example/" [("x-hop", "1")] true
    (by decide)
  have hspecific := h.stripped ("x-hop", "1") (List.mem_singleton_self _)
  revert hspecific
  decide

end Multiway.ProxyCore
