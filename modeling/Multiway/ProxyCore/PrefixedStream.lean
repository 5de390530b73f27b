import Multiway.Lib.Source
import Multiway.ProxyCore.KeepAlive

/-!
# The bytes behind a peek (`PrefixedStream` of `proxy-core/src/pipeline.rs`)

What `read_http_request_head` has taken off a stream is handed on in one of two
ways. `PrefixedStream` puts it back in front of the stream for the codec: read
through it, the stream delivers what it would have delivered
(`PrefixedStream.delivers`). A tunnel sends it ahead of what
`monoio::io::copy` copies, in either direction (`mem_call_tunnel`). Together
with the bytes the head itself accounts for (`readMore_bytes`) nothing of a
stream gets lost: `peek_conserves`.
-/

namespace Multiway.ProxyCore

open Multiway.Lib

/-! ## PrefixedStream -/

/-- A stream wrapper that yields pre-read bytes before delegating to the inner
stream. -/
structure PrefixedStream (S : Type) where
  inner : S
  prefixBytes : List UInt8
  prefixOffset : ℕ
  offset_le : prefixOffset ≤ prefixBytes.length

namespace PrefixedStream

variable {S : Type}

def new (inner : S) (prefixBytes : List UInt8) : PrefixedStream S :=
  ⟨inner, prefixBytes, 0, Nat.zero_le _⟩

def prefixRemaining (stream : PrefixedStream S) : ℕ :=
  stream.prefixBytes.length - stream.prefixOffset

/-- The part of the prefix that is copied next, and the offset behind it. -/
def copyPrefix (stream : PrefixedStream S) (bytesTotal : ℕ) : List UInt8 × PrefixedStream S :=
  let toCopy := min stream.prefixRemaining bytesTotal
  ((stream.prefixBytes.drop stream.prefixOffset).take toCopy,
    { stream with
      prefixOffset := stream.prefixOffset + toCopy
      offset_le := by
        have hle := stream.offset_le
        have hcopy : toCopy ≤ stream.prefixBytes.length - stream.prefixOffset := min_le_left _ _
        omega })

variable (inner : Source UInt8 S)

/-- `AsyncReadRent::read`, into a buffer of so many bytes. -/
def read (stream : PrefixedStream S) (bytesTotal : ℕ) : List UInt8 × PrefixedStream S :=
  if 0 < stream.prefixRemaining then stream.copyPrefix bytesTotal
  else
    let (got, rest) := inner.read stream.inner bytesTotal
    (got, { stream with inner := rest })

/-- `AsyncReadRent::readv`. `IoVecWrapperMut` stands for the first segment; of a
vector without one it is not made. -/
def readv (stream : PrefixedStream S) (segments : List ℕ) : List UInt8 × PrefixedStream S :=
  if 0 < stream.prefixRemaining then
    match segments with
    | [] => ([], stream)
    | first :: _ => stream.read inner first
  else
    let (got, rest) := inner.readv stream.inner segments
    (got, { stream with inner := rest })

/-- The stream as something that is read. -/
def source : Source UInt8 (PrefixedStream S) where
  read stream bytesTotal := stream.read inner bytesTotal
  readv stream segments := stream.readv inner segments

/-- What is still to come: the rest of the prefix, then the inner stream. -/
def left (innerLeft : S → List UInt8) (stream : PrefixedStream S) : List UInt8 :=
  stream.prefixBytes.drop stream.prefixOffset ++ innerLeft stream.inner

theorem left_new (innerLeft : S → List UInt8) (s : S) (prefixBytes : List UInt8) :
    (new s prefixBytes).left innerLeft = prefixBytes ++ innerLeft s := rfl

theorem length_remaining (stream : PrefixedStream S) :
    (stream.prefixBytes.drop stream.prefixOffset).length = stream.prefixRemaining :=
  List.length_drop

/-- What is copied comes off the front. -/
theorem copyPrefix_append (innerLeft : S → List UInt8) (stream : PrefixedStream S)
    (bytesTotal : ℕ) :
    (stream.copyPrefix bytesTotal).1 ++ (stream.copyPrefix bytesTotal).2.left innerLeft =
      stream.left innerLeft := by
  show _ ++ (List.drop (stream.prefixOffset + _) _ ++ _) = _
  rw [← List.drop_drop, ← List.append_assoc]
  exact congrArg (· ++ innerLeft stream.inner) (List.take_append_drop _ _)

theorem length_copyPrefix (stream : PrefixedStream S) (bytesTotal : ℕ) :
    (stream.copyPrefix bytesTotal).1.length = min stream.prefixRemaining bytesTotal := by
  show (List.take (min _ _) _).length = _
  rw [List.length_take, length_remaining]
  omega

/-- One answer copies from the prefix into the first buffer, or is the inner
stream's with the prefix used up. -/
theorem answer_cases (stream : PrefixedStream S) (ask : Ask) :
    (∃ size ≤ ask.capacity, (ask.HasRoom → 0 < size) ∧ 0 < stream.prefixRemaining ∧
        (source inner).answer stream ask = stream.copyPrefix size) ∨
      (stream.prefixRemaining = 0 ∧ (source inner).answer stream ask =
        ((inner.answer stream.inner ask).1,
          { stream with inner := (inner.answer stream.inner ask).2 })) := by
  by_cases hpos : 0 < stream.prefixRemaining
  · left
    rcases ask with size | _ | ⟨first, others⟩
    · exact ⟨size, le_rfl, id, hpos, if_pos hpos⟩
    · -- no segment: nothing is copied
      refine ⟨0, le_rfl, fun hroom => absurd rfl hroom.1, hpos, ?_⟩
      show stream.readv inner [] = _
      rw [readv, if_pos hpos]
      simp [copyPrefix]
    · refine ⟨first, ?_, fun hroom => hroom.2 first List.mem_cons_self, hpos, ?_⟩
      · show first ≤ (first :: others).sum
        rw [List.sum_cons]
        omega
      · show stream.readv inner (first :: others) = _
        rw [readv, if_pos hpos]
        exact if_pos hpos
  · right
    refine ⟨by omega, ?_⟩
    cases ask with
    | read size => exact if_neg hpos
    | readv segments => exact if_neg hpos

/-- **The wrapper delivers the prefix, then what the inner stream delivers.** -/
theorem delivers {inner : Source UInt8 S} {innerLeft : S → List UInt8}
    (h : inner.Delivers innerLeft) : (source inner).Delivers (left innerLeft) where
  next stream ask := by
    rcases answer_cases inner stream ask with ⟨size, -, -, -, hanswer⟩ | ⟨hzero, hanswer⟩
    · rw [hanswer, copyPrefix_append]
    · rw [hanswer]
      have hused : stream.prefixBytes.drop stream.prefixOffset = [] :=
        List.eq_nil_of_length_eq_zero ((length_remaining stream).trans hzero)
      show _ ++ (stream.prefixBytes.drop stream.prefixOffset ++ _) =
        stream.prefixBytes.drop stream.prefixOffset ++ _
      rw [hused]
      exact h.next stream.inner ask
  fits stream ask := by
    rcases answer_cases inner stream ask with ⟨size, hsize, -, -, hanswer⟩ | ⟨-, hanswer⟩
    · rw [hanswer, length_copyPrefix]
      omega
    · rw [hanswer]
      exact h.fits stream.inner ask
  some stream ask hroom hleft := by
    rcases answer_cases inner stream ask with ⟨size, -, hsize, hpos, hanswer⟩ | ⟨hzero, hanswer⟩
    · have hlen := length_copyPrefix stream size
      have hsize := hsize hroom
      rw [hanswer]
      exact List.length_pos_iff.mp (by omega)
    · rw [hanswer]
      have hused : stream.prefixBytes.drop stream.prefixOffset = [] :=
        List.eq_nil_of_length_eq_zero ((length_remaining stream).trans hzero)
      refine h.some stream.inner ask hroom ?_
      rwa [left, hused, List.nil_append] at hleft

end PrefixedStream

/-! ## What a head leaves behind -/

/-- The bytes that are read off a stream for its head. -/
def peeked (reads : List (List UInt8)) : List UInt8 :=
  match readHttpRequestHead reads with
  | .error _ => []
  | .ok (head, _) => head

/-- The bytes that are still to come then. -/
def behindHead (reads : List (List UInt8)) : List UInt8 :=
  match readHttpRequestHead reads with
  | .error _ => []
  | .ok (_, rest) => rest.flatten

/-- The buffer and what is still to be read are the stream, in every round. -/
theorem readMore_bytes {reads : List (List UInt8)} {buf head : List UInt8}
    {rest : List (List UInt8)} (h : readMore buf reads = .ok (head, rest)) :
    head ++ rest.flatten = buf ++ reads.flatten := by
  induction reads generalizing buf with
  | nil => cases h
  | cons chunk reads ih =>
    rw [List.flatten_cons, ← List.append_assoc]
    unfold readMore at h
    by_cases hempty : chunk.isEmpty = true
    · rw [if_pos hempty] at h
      cases h
    · rw [if_neg hempty] at h
      dsimp only at h
      split at h
      · obtain ⟨rfl, rfl⟩ := Prod.mk.inj (Except.ok.inj h)
        rfl
      · split at h
        · cases h
        · exact ih h

theorem readHttpRequestHead_bytes {reads : List (List UInt8)} {head : List UInt8}
    {rest : List (List UInt8)} (h : readHttpRequestHead reads = .ok (head, rest)) :
    head ++ rest.flatten = reads.flatten :=
  readMore_bytes h

/-! ## A tunnel -/

section
variable {Addr : Type}

/-- The bytes an effect sends to the backend at an address, on the connection
that is made for an upgrade. A tunnel copies what the client's head has left. -/
def toBackend [DecidableEq Addr] (client : List (List UInt8)) (addr : Addr) :
    ConnectionEffect Addr → List UInt8
  | .sendBackend peer bytes => if peer = addr then bytes else []
  | .tunnel peer => if peer = addr then behindHead client else []
  | .pipeline _ | .respond _ | .relayClient _ => []

/-- The bytes an effect sends to the client; the codec encodes responses. -/
def toClient (encode : Response → List UInt8) (backend : List (List UInt8)) :
    ConnectionEffect Addr → List UInt8
  | .pipeline (.writeClient text) => Text.encodeUtf8 text.toList
  | .respond response => encode response
  | .relayClient bytes => bytes
  | .tunnel _ => behindHead backend
  | .pipeline _ | .sendBackend _ _ => []

variable {env : ConnectionEnv Addr} {isMatch : String → String → Bool} {config : ProxyConfig}
  {listenerName : String} {codec : ServerCodec}

theorem tunnel_not_mem_pipeline (addr : Addr) (effects : List (Effect Addr)) :
    ConnectionEffect.tunnel addr ∉ effects.map .pipeline := by
  intro h
  obtain ⟨effect, -, heq⟩ := List.mem_map.mp h
  cases heq

/-- A tunnel comes after the head and its answer. -/
theorem mem_relayUpgrade_tunnel {addr peer : Addr} {raw : List UInt8}
    (h : .tunnel addr ∈ (relayUpgrade env peer raw).1) :
    peer = addr ∧ ∃ answer rest, readHttpRequestHead (env.answers addr raw) = .ok (answer, rest) ∧
      (relayUpgrade env peer raw).1 =
        [.sendBackend addr raw, .relayClient answer, .tunnel addr] := by
  unfold relayUpgrade at h ⊢
  by_cases hconnects : (!env.connects peer) = true
  · rw [if_pos hconnects] at h
    simp at h
  by_cases hsends : (!env.sends peer) = true
  · rw [if_neg hconnects, if_pos hsends] at h
    simp at h
  rw [if_neg hconnects, if_neg hsends] at h ⊢
  cases hanswer : readHttpRequestHead (env.answers peer raw) with
  | error e => simp [hanswer] at h
  | ok result =>
    obtain ⟨answer, rest⟩ := result
    simp only [hanswer] at h ⊢
    split at h
    next hswitch =>
      obtain rfl : addr = peer := by simpa using h
      exact ⟨rfl, answer, rest, hanswer, by rw [if_pos hswitch]⟩
    next => simp at h

/-- What handles the head of an upgrade before a connection is made writes
nothing. -/
theorem handleWebsocketUpgrade_connect {env : Env Addr} {routingMeta : RequestMeta} {addr : Addr}
    (h : (handleWebsocketUpgrade env isMatch config listenerName routingMeta).getLast? =
      some (.connect addr)) :
    ∃ host port, handleWebsocketUpgrade env isMatch config listenerName routingMeta =
      [.resolve host port, .connect addr] := by
  unfold handleWebsocketUpgrade at h ⊢
  split at h
  next backends filters timeout hroute =>
    split at h
    next => cases h
    next backend hselect =>
      split at h
      next addr' others hresolve =>
        cases h
        exact ⟨_, _, rfl⟩
      next => cases h
  next => cases h

/-- **The connection of a tunnel, from its first effect to its last.** -/
theorem mem_call_tunnel {reads : List (List UInt8)} {addr : Addr}
    (h : .tunnel addr ∈
      (HttpCoreService.call env isMatch config listenerName codec reads).1) :
    ∃ raw rest answer rest' host port,
      readHttpRequestHead reads = .ok (raw, rest) ∧
      readHttpRequestHead (env.answers addr raw) = .ok (answer, rest') ∧
      (HttpCoreService.call env isMatch config listenerName codec reads).1 =
        [.pipeline (.resolve host port), .pipeline (.connect addr), .sendBackend addr raw,
          .relayClient answer, .tunnel addr] := by
  unfold HttpCoreService.call at h ⊢
  cases hread : readHttpRequestHead reads with
  | error e => simp [hread] at h
  | ok result =>
    obtain ⟨raw, rest⟩ := result
    rw [hread] at h
    by_cases hup : isRawWebsocketUpgrade raw = true
    · simp only [if_pos hup] at h ⊢
      unfold upgrade at h ⊢
      cases hmeta : rawRoutingMeta env.http env.uris raw with
      | none => simp [hmeta] at h
      | some routingMeta =>
        simp only [hmeta] at h ⊢
        split at h
        next peer hlast =>
          obtain ⟨host, port, heffects⟩ := handleWebsocketUpgrade_connect hlast
          rcases List.mem_append.mp h with hmem | hmem
          · exact absurd hmem (tunnel_not_mem_pipeline addr _)
          · obtain ⟨rfl, answer, rest', hanswer, hrelay⟩ := mem_relayUpgrade_tunnel hmem
            refine ⟨raw, rest, answer, rest', host, port, rfl, hanswer, ?_⟩
            rw [heffects, hrelay]
            rfl
        next => exact absurd h (tunnel_not_mem_pipeline addr _)
    · simp only [if_neg hup] at h
      exact absurd h (keepAlive_not_tunnelled env _ addr)

/-- What both sides of a tunnel have received is what the other has sent. -/
theorem tunnel_bytes [DecidableEq Addr] (encode : Response → List UInt8)
    {reads : List (List UInt8)} {addr : Addr}
    (h : .tunnel addr ∈
      (HttpCoreService.call env isMatch config listenerName codec reads).1) :
    let effects := (HttpCoreService.call env isMatch config listenerName codec reads).1
    let backend := env.answers addr (peeked reads)
    effects.flatMap (toBackend reads addr) = reads.flatten ∧
      effects.flatMap (toClient encode backend) = backend.flatten := by
  obtain ⟨raw, rest, answer, rest', host, port, hread, hanswer, heffects⟩ := mem_call_tunnel h
  have hpeeked : peeked reads = raw := by rw [peeked, hread]
  have hclient : behindHead reads = rest.flatten := by rw [behindHead, hread]
  have hbackend : behindHead (env.answers addr raw) = rest'.flatten := by
    rw [behindHead, hanswer]
  dsimp only
  rw [heffects, hpeeked, ← readHttpRequestHead_bytes hread, ← readHttpRequestHead_bytes hanswer]
  constructor
  · simp [toBackend, hclient]
  · simp [toClient, hbackend]

/-- **The peek conserves bytes.** Through the wrapper the codec obtains what the
client has sent, whatever it asks for and however the rest arrives; behind a
tunnel each side receives what the other has sent. -/
theorem peek_conserves [DecidableEq Addr] (env : ConnectionEnv Addr)
    (isMatch : String → String → Bool) (config : ProxyConfig) (listenerName : String)
    (codec : ServerCodec) (encode : Response → List UInt8) (reads : List (List UInt8)) :
    (∀ (rawHead : List UInt8) (rest : List (List UInt8)),
      readHttpRequestHead reads = .ok (rawHead, rest) →
      ∀ (S : Type) (inner : Source UInt8 S) (innerLeft : S → List UInt8),
        inner.Delivers innerLeft →
        ∀ (s : S), innerLeft s = rest.flatten → ∀ asks : List Ask,
          let source := PrefixedStream.source inner
          let run := source.obtained (PrefixedStream.new s rawHead) asks
          rawHead ++ rest.flatten = reads.flatten ∧
          run.2.prefixOffset ≤ run.2.prefixBytes.length ∧
          run.1 ++ run.2.left innerLeft = reads.flatten ∧
          (∀ ask : Ask, ask.HasRoom → (source.answer run.2 ask).1 = [] → run.1 = reads.flatten) ∧
          ((∀ ask ∈ asks, ask.HasRoom) → reads.flatten.length ≤ asks.length →
            run.1 = reads.flatten)) ∧
    ∀ addr : Addr,
      .tunnel addr ∈ (HttpCoreService.call env isMatch config listenerName codec reads).1 →
      let effects := (HttpCoreService.call env isMatch config listenerName codec reads).1
      let backend := env.answers addr (peeked reads)
      effects.flatMap (toBackend reads addr) = reads.flatten ∧
        effects.flatMap (toClient encode backend) = backend.flatten := by
  refine ⟨?_, fun addr h => tunnel_bytes encode h⟩
  intro rawHead rest hread S inner innerLeft hinner s hs asks
  have hbytes := readHttpRequestHead_bytes hread
  have hdelivers := PrefixedStream.delivers hinner
  have hleft : (PrefixedStream.new s rawHead).left innerLeft = reads.flatten := by
    rw [PrefixedStream.left_new, hs, hbytes]
  have happend := hdelivers.obtained_append asks (PrefixedStream.new s rawHead)
  rw [hleft] at happend
  refine ⟨hbytes, PrefixedStream.offset_le _, happend, ?_, ?_⟩
  · intro ask hroom hend
    rwa [hdelivers.left_eq_nil hroom hend, List.append_nil] at happend
  · intro hroom hlen
    rw [← hleft] at hlen ⊢
    exact hdelivers.obtained_all hroom hlen

end

/-- A head of which three bytes are taken, then two buffers, then all there is. -/
example : ((PrefixedStream.source arrivals).obtained
    (PrefixedStream.new ⟨[[9, 10], [11]], by decide⟩ [1, 2, 3, 4, 5, 6, 7, 8])
    [.read 3, .readv [2, 4], .read 100, .read 1, .readv [1, 100]]).1 =
      [1, 2, 3, 4, 5, 6, 7, 8, 9, 10] := by decide

/-- A plain request and three bytes behind it, read to the end; and an upgrade
that becomes a tunnel. -/
theorem peek_conserves_plainGet :
    ((PrefixedStream.source arrivals).obtained
        (PrefixedStream.new ⟨[[1, 2], [3]], by decide⟩ plainGet)
        [.read 4096, .readv [1, 1], .read 4096]).1 = plainGet ++ [1, 2, 3] ∧
      (HttpCoreService.call switchingEnv (fun _ _ => false) (oneBackend []) "l" (fun _ => [])
        [Text.encodeUtf8 upgradeHead]).1.flatMap
          (toBackend [Text.encodeUtf8 upgradeHead] 0) = Text.encodeUtf8 upgradeHead := by
  constructor
  · have hread : readHttpRequestHead [plainGet, [1, 2], [3]] = .ok (plainGet, [[1, 2], [3]]) := by
      decide +kernel
    have h := (peek_conserves switchingEnv (fun _ _ => false) (oneBackend []) "l" (fun _ => [])
      (fun _ => []) [plainGet, [1, 2], [3]]).1 plainGet [[1, 2], [3]] hread _ arrivals
      Pieces.left arrivals_delivers ⟨[[1, 2], [3]], by decide⟩ rfl
      [.read 4096, .readv [1, 1], .read 4096]
    exact h.2.2.2.1 (.read 1) (by decide) (by decide +kernel)
  · have htunnel := (peek_conserves switchingEnv (fun _ _ => false) (oneBackend []) "l"
      (fun _ => []) (fun _ => []) [Text.encodeUtf8 upgradeHead]).2 0
      (tunnel_mem_call_upgradeHead fun _ => [])
    simpa using htunnel.1

end Multiway.ProxyCore
