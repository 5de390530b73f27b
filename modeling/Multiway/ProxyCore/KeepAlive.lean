import Multiway.ProxyCore.ReadSplits

/-!
# Upgrades on a connection that is kept alive

Only the first head of a connection is read by `HttpCoreService::call` itself;
the requests after it come out of the codec, and nothing is ever joined to a
backend on that path (`keepAlive_not_tunnelled`). The verdict on the first head
is a verdict on the first request, whatever else has been read with it
(`branch_of_ordinary`), so `tunnelled_after_iff`: an upgrade is a tunnel as the
first request of its connection, or not at all.
-/

namespace Multiway.ProxyCore

open Multiway.Lib.Text

section
variable {Addr : Type} (env : ConnectionEnv Addr) (isMatch : String → String → Bool)
  (config : ProxyConfig) (listenerName : String) (codec : ServerCodec)

/-- Client and backend are joined. -/
def Tunnelled (reads : List (List UInt8)) : Prop :=
  ∃ addr, .tunnel addr ∈ (HttpCoreService.call env isMatch config listenerName codec reads).1

/-- A request whose head is no upgrade. -/
def Ordinary (request : List UInt8) : Prop :=
  ∃ t, headEnd request = some t ∧ isRawWebsocketUpgrade (request.take t) = false

/-- The reads of a connection on which the request that is read as `first` comes
after the requests `before`. -/
def SentAfter (before : List (List UInt8)) (first reads : List (List UInt8)) : Prop :=
  match before with
  | [] => reads = first
  | _ => Reads (before.flatten ++ first.flatten) reads

variable {isMatch config listenerName codec}

/-- Nothing the codec hands to the pipeline becomes a tunnel. -/
theorem keepAlive_not_tunnelled (requests : List (Option Decoded)) (addr : Addr) :
    .tunnel addr ∉ (keepAlive env isMatch config listenerName requests).1 := by
  have hpipeline : ∀ effects : List (Effect Addr),
      ConnectionEffect.tunnel addr ∉ effects.map .pipeline := by
    intro effects h
    obtain ⟨effect, -, heq⟩ := List.mem_map.mp h
    cases heq
  induction requests with
  | nil => exact List.not_mem_nil
  | cons item rest ih =>
    rcases item with _ | decoded
    · exact List.not_mem_nil
    · rw [keepAlive]
      obtain ⟨effects, _ | response⟩ := RouteAndFilter.call env.toEnv isMatch config listenerName
        (extractRequestMeta env.uris decoded.request) decoded.request
      · exact hpipeline effects
      · dsimp only
        split
        · exact hpipeline effects
        · intro h
          rcases List.mem_append.mp h with h | h
          · exact hpipeline _ h
          · rcases List.mem_cons.mp h with h | h
            · cases h
            · exact ih h

theorem Tunnelled.branch_eq {env : ConnectionEnv Addr} {reads : List (List UInt8)}
    (h : Tunnelled env isMatch config listenerName codec reads) : branch reads = some true := by
  obtain ⟨addr, haddr⟩ := h
  unfold HttpCoreService.call at haddr
  unfold branch
  cases hread : readHttpRequestHead reads with
  | error e => simp [hread] at haddr
  | ok result =>
    obtain ⟨rawHead, rest⟩ := result
    cases hup : isRawWebsocketUpgrade rawHead with
    | true => simp [hup]
    | false =>
      rw [hread] at haddr
      simp only [hup, Bool.false_eq_true, if_false] at haddr
      exact absurd haddr (keepAlive_not_tunnelled env _ addr)

end

/-- The first terminator of a stream is that of its first request. -/
theorem headEnd_append {request : List UInt8} {t : ℕ} (h : headEnd request = some t)
    (rest : List UInt8) : headEnd (request ++ rest) = some t := by
  obtain ⟨hsuffix, hle, hfirst⟩ := headEnd_eq_some h
  refine List.find?_range_eq_some.mpr ⟨?_, ?_, ?_⟩
  · rw [List.take_append_of_le_length hle]
    exact decide_eq_true hsuffix
  · rw [List.mem_range, List.length_append]
    omega
  · intro n hn
    rw [List.take_append_of_le_length (by omega)]
    simpa using hfirst n hn

/-- A connection that starts with an ordinary request is none for a tunnel. -/
theorem branch_of_ordinary {request rest : List UInt8} (h : Ordinary request)
    {reads : List (List UInt8)} (hreads : Reads (request ++ rest) reads) :
    branch reads ≠ some true := by
  obtain ⟨t, hend, hverdict⟩ := h
  -- the head that is read is that of `request`, whatever is read along with it
  have hend' := headEnd_append hend rest
  intro hbranch
  obtain ⟨before, chunk, more, hsplit, hterm, -, hup⟩ :=
    (branch_eq_some hreads.nonempty true).mp hbranch
  have hstream : request ++ rest = before.flatten ++ chunk ++ more.flatten := by
    rw [← hreads.bytes, hsplit]
    simp
  have hle : t ≤ (before.flatten ++ chunk).length :=
    (infix_iff_le hend' ⟨more.flatten, hstream.symm⟩).mp hterm
  have htake := isRaw_take hend' ((before.flatten ++ chunk).length - t)
  rw [Nat.add_sub_cancel' hle, hstream, List.take_left' rfl, ← hstream,
    List.take_append_of_le_length (headEnd_eq_some hend).2.1, hverdict, hup] at htake
  cases htake

/-- **An upgrade is seen at the front of its connection only.** -/
theorem tunnelled_after_iff {Addr : Type} {env : ConnectionEnv Addr}
    {isMatch : String → String → Bool} {config : ProxyConfig} {listenerName : String}
    {codec : ServerCodec} {before : List (List UInt8)} {first reads : List (List UInt8)}
    (hfirst : Tunnelled env isMatch config listenerName codec first)
    (hbefore : ∀ request ∈ before, Ordinary request) (hreads : SentAfter before first reads) :
    Tunnelled env isMatch config listenerName codec reads ↔ before = [] := by
  rcases before with _ | ⟨request, before⟩
  · obtain rfl : reads = first := hreads
    exact iff_of_true hfirst rfl
  · refine iff_of_false (fun h => ?_) (List.cons_ne_nil request before)
    have hreads : Reads ((request :: before).flatten ++ first.flatten) reads := hreads
    rw [List.flatten_cons, List.append_assoc] at hreads
    exact branch_of_ordinary (hbefore request List.mem_cons_self) hreads h.branch_eq

/-! ## An upgrade after another request -/

/-- One route, for every request of the listener. -/
def oneBackend (filters : List Filter) : ProxyConfig where
  routes :=
    [{ name := "route", «namespace» := "gw", attachedListeners := ["l"]
       rules := [{ «matches» := [], backends := [svcA], filters }] }]

/-- `HTTP/1.1 101 Switching Protocols`, and no more. -/
def switchingAnswer : List UInt8 :=
  encodeUtf8 "HTTP/1.1 101 Switching Protocols".toList ++ terminator

/-- Every backend switches protocols. -/
def switchingEnv : ConnectionEnv ℕ where
  toEnv := { Env.unreachable ℕ with resolve := fun _ _ => some [0] }
  uris := ⟨id, fun _ => none⟩
  connects _ := true
  sends _ := true
  answers _ _ := [switchingAnswer]
  clientTakes := true

theorem relayUpgrade_switchingEnv (raw : List UInt8) :
    .tunnel 0 ∈ (relayUpgrade switchingEnv 0 raw).1 := by
  have hread : readHttpRequestHead [switchingAnswer] = .ok (switchingAnswer, []) := by
    have hne : switchingAnswer.isEmpty = false := by decide +kernel
    have hterm : terminator <:+: switchingAnswer := (List.suffix_append _ _).isInfix
    rw [readHttpRequestHead, readMore, hne]
    simp [hterm]
  have hswitch : switchesProtocols switchingAnswer = true := by
    have htext : switchingAnswer =
        encodeUtf8 ("HTTP/1.1 101 Switching Protocols".toList ++ "\r\n\r\n".toList) := by
      rw [encodeUtf8_append, switchingAnswer]
      rfl
    rw [switchesProtocols, htext, fromUtf8_encodeUtf8]
    decide +kernel
  have hanswers : readHttpRequestHead (switchingEnv.answers 0 raw) = .ok (switchingAnswer, []) :=
    hread
  unfold relayUpgrade
  rw [hanswers]
  simp [hswitch, switchingEnv]

theorem route_oneBackend (filters : List Filter) (routingMeta : RequestMeta)
    (hfilters : firstRedirect routingMeta filters = none) :
    route (fun _ _ => false) (oneBackend filters) "l" routingMeta =
      .forward [svcA] filters none := by
  have h : route (fun _ _ => false) (oneBackend filters) "l" routingMeta =
      buildDecision { «matches» := [], backends := [svcA], filters } routingMeta := rfl
  rw [h, buildDecision, hfilters]

theorem rawRoutingMeta_switchingEnv {raw : List UInt8} {text : List Char}
    (htext : fromUtf8 raw = some text) :
    ∃ routingMeta,
      rawRoutingMeta switchingEnv.http switchingEnv.uris raw = some routingMeta := by
  rw [rawRoutingMeta, htext]
  exact ⟨_, rfl⟩

theorem upgrade_switchingEnv {raw : List UInt8} {text : List Char}
    (htext : fromUtf8 raw = some text) :
    .tunnel 0 ∈ (upgrade switchingEnv (fun _ _ => false) (oneBackend []) "l" raw).1 := by
  obtain ⟨routingMeta, hmeta⟩ := rawRoutingMeta_switchingEnv htext
  have heffects : handleWebsocketUpgrade switchingEnv.toEnv (fun _ _ => false) (oneBackend [])
      "l" routingMeta = [.resolve "svc" 80, .connect 0] := by
    have hselect : selectBackend switchingEnv.selectDraw [svcA] = some svcA := rfl
    rw [handleWebsocketUpgrade, route_oneBackend [] routingMeta rfl]
    simp only [hselect]
    rfl
  rw [upgrade, hmeta]
  simp only [heffects]
  exact List.mem_append_right _ (relayUpgrade_switchingEnv raw)

theorem tunnel_mem_call_upgradeHead (codec : ServerCodec) :
    .tunnel 0 ∈ (HttpCoreService.call switchingEnv (fun _ _ => false) (oneBackend []) "l" codec
      [encodeUtf8 upgradeHead]).1 := by
  have hread : readHttpRequestHead [encodeUtf8 upgradeHead] =
      .ok (encodeUtf8 upgradeHead, []) := by
    rw [readHttpRequestHead, readMore, List.isEmpty_eq_false_iff.mpr upgradeHead_ne_nil]
    simp [terminator_upgradeHead.isInfix]
  rw [HttpCoreService.call, hread]
  simp only [isRaw_upgradeHead, if_true]
  exact upgrade_switchingEnv (fromUtf8_encodeUtf8 upgradeHead)

theorem tunnelled_upgradeHead (codec : ServerCodec) :
    Tunnelled switchingEnv (fun _ _ => false) (oneBackend []) "l" codec
      [encodeUtf8 upgradeHead] :=
  ⟨0, tunnel_mem_call_upgradeHead codec⟩

/-- `GET / HTTP/1.1`, and no more. -/
def plainGet : List UInt8 := encodeUtf8 "GET / HTTP/1.1".toList ++ terminator

theorem ordinary_plainGet : Ordinary plainGet := by
  refine ⟨plainGet.length, ?_, ?_⟩
  · decide +kernel
  · have htext : plainGet = encodeUtf8 ("GET / HTTP/1.1".toList ++ "\r\n\r\n".toList) := by
      rw [encodeUtf8_append, plainGet]
      rfl
    rw [List.take_length, htext, isRawWebsocketUpgrade, fromUtf8_encodeUtf8]
    decide +kernel

theorem sentAfter_plainGet :
    SentAfter [plainGet] [encodeUtf8 upgradeHead] [plainGet, encodeUtf8 upgradeHead] := by
  have hne : plainGet ≠ [] := by decide +kernel
  have hlen : plainGet.length ≤ 4096 := by decide +kernel
  refine ⟨by simp, by simp [hne, upgradeHead_ne_nil], ?_⟩
  simp only [List.forall_mem_cons]
  exact ⟨hlen, length_upgradeHead.le, by simp⟩

theorem not_tunnelled_after_get :
    ¬ Tunnelled switchingEnv (fun _ _ => false) (oneBackend []) "l" (fun _ => [])
      [plainGet, encodeUtf8 upgradeHead] := by
  have h := tunnelled_after_iff (tunnelled_upgradeHead fun _ => [])
    (List.forall_mem_singleton.mpr ordinary_plainGet) sentAfter_plainGet
  simp [h]

/-- One request before it, and an upgrade is no longer one. -/
theorem position_decides_upgrade :
    ¬ ∀ (env : ConnectionEnv ℕ) (isMatch : String → String → Bool) (config : ProxyConfig)
        (listenerName : String) (codec : ServerCodec) (before : List (List UInt8))
        (first reads : List (List UInt8)),
      Tunnelled env isMatch config listenerName codec first →
      (∀ request ∈ before, Ordinary request) → SentAfter before first reads →
      Tunnelled env isMatch config listenerName codec reads := by
  intro h
  have htunnelled := h switchingEnv (fun _ _ => false) (oneBackend []) "l" (fun _ => [])
    [plainGet] _ _ (tunnelled_upgradeHead fun _ => [])
    (List.forall_mem_singleton.mpr ordinary_plainGet) sentAfter_plainGet
  have hreads : Reads (plainGet ++ encodeUtf8 upgradeHead)
      [plainGet, encodeUtf8 upgradeHead] := by
    simpa [SentAfter] using sentAfter_plainGet
  exact branch_of_ordinary ordinary_plainGet hreads htunnelled.branch_eq

end Multiway.ProxyCore
