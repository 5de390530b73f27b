import Multiway.ProxyCore.UpgradeFilters

/-!
# The handshake with the backend of an upgrade

`handle_websocket_upgrade` reads the backend's answer with
`read_http_request_head`, takes the buffer for a text and looks for `101`
anywhere in its first line; whatever it finds, it sends the buffer to the
client and, without a `101`, nothing more. `decidedByStatus_iff` compares this
with what the status code of the answer asks for.
-/

namespace Multiway.ProxyCore

open Multiway.Lib.Text

/-! ## Status lines -/

/-- The first line of some bytes, without the carriage return before its end. -/
def firstLine (bytes : List UInt8) : List UInt8 :=
  let line := bytes.takeWhile (· != 10)
  if line.getLast? = some 13 then line.dropLast else line

/-- The number that decimal digits stand for. -/
def digitsValue (digits : List UInt8) : ℕ := digits.foldl (fun n b => 10 * n + (b.toNat - 48)) 0

/-- The status code of an answer: the three digits behind the version. -/
def statusCode (answer : List UInt8) : Option ℕ :=
  match (firstLine answer).splitOn 32 with
  | version :: code :: _ =>
    if encodeUtf8 "HTTP/".toList <+: version ∧ code.length = 3 ∧
        ∀ b ∈ code, 48 ≤ b ∧ b ≤ 57 then
      some (digitsValue code)
    else none
  | _ => none

/-- `101` -/
def code101 : List UInt8 := encodeUtf8 "101".toList

theorem takeWhile_append_cons {α : Type} [BEq α] [LawfulBEq α] {a : α} {front : List α}
    (h : a ∉ front) (back : List α) : (front ++ a :: back).takeWhile (· != a) = front := by
  have hfront : ∀ x ∈ front, (x != a) = true := by
    intro x hx
    rw [bne_iff_ne]
    intro heq
    exact h (heq ▸ hx)
  rw [List.takeWhile_append_of_pos hfront]
  simp

/-- What follows the first line does not touch it. -/
theorem firstLine_append {bytes : List UInt8} (h : 10 ∈ bytes) (rest : List UInt8) :
    firstLine (bytes ++ rest) = firstLine bytes := by
  obtain ⟨front, back, rfl, hfront⟩ := List.eq_append_cons_of_mem h
  have hcut : front ++ 10 :: back ++ rest = front ++ 10 :: (back ++ rest) := by simp
  rw [firstLine, firstLine, hcut, takeWhile_append_cons hfront, takeWhile_append_cons hfront]

theorem getLast?_encodeUtf8_iff {c : Char} (hc : c.toNat < 128) {text : List Char} :
    (encodeUtf8 text).getLast? = some (UInt8.ofNat c.toNat) ↔ text.getLast? = some c := by
  constructor
  · intro h
    obtain ⟨before, hbytes⟩ := List.getLast?_eq_some_iff.mp h
    obtain ⟨front, back, rfl, -, hback⟩ := encodeUtf8_eq_append_cons hc hbytes
    obtain rfl := encodeUtf8_eq_nil.mp hback
    exact List.getLast?_concat
  · intro h
    obtain ⟨front, rfl⟩ := List.getLast?_eq_some_iff.mp h
    rw [encodeUtf8_append_cons hc]
    exact List.getLast?_concat

/-- The first line of a text in bytes. -/
theorem firstLine_encodeUtf8 {front : List Char} (h : '\n' ∉ front) (back : List Char) :
    firstLine (encodeUtf8 (front ++ '\n' :: back)) = encodeUtf8 (stripCr front) := by
  have hbytes : (10 : UInt8) ∉ encodeUtf8 front := fun hmem =>
    h ((mem_encodeUtf8_iff (c := '\n') (by decide)).mp hmem)
  have hcut : encodeUtf8 (front ++ '\n' :: back) = encodeUtf8 front ++ 10 :: encodeUtf8 back :=
    encodeUtf8_append_cons (by decide) front back
  have hlast : (encodeUtf8 front).getLast? = some 13 ↔ front.getLast? = some '\r' :=
    getLast?_encodeUtf8_iff (c := '\r') (by decide)
  rw [firstLine, hcut, takeWhile_append_cons hbytes, stripCr]
  by_cases hcr : front.getLast? = some '\r'
  · obtain ⟨init, rfl⟩ := List.getLast?_eq_some_iff.mp hcr
    have hencode : encodeUtf8 (init ++ ['\r']) = encodeUtf8 init ++ [13] :=
      encodeUtf8_append_cons (by decide) init []
    rw [if_pos hcr, if_pos (hlast.mpr hcr), hencode, List.dropLast_concat, List.dropLast_concat]
  · rw [if_neg hcr, if_neg fun h => hcr (hlast.mp h)]

theorem infix_of_mem_splitOn {α : Type} [BEq α] [LawfulBEq α] {a : α} {l part : List α}
    (h : part ∈ l.splitOn a) : part <:+: l := by
  induction hn : l.length using Nat.strong_induction_on generalizing l with
  | _ n ih =>
    by_cases hmem : a ∈ l
    · obtain ⟨front, back, rfl, hfront⟩ := List.eq_append_cons_of_mem hmem
      rw [List.splitOn_append_cons_self_of_not_mem hfront, List.mem_cons] at h
      rcases h with rfl | h
      · exact (List.prefix_append part _).isInfix
      · have hback := ih back.length (by simp at hn; omega) h rfl
        exact hback.trans ⟨front ++ [a], [], by simp⟩
    · rw [List.splitOn_eq_singleton hmem, List.mem_singleton] at h
      rw [h]

/-- Three digits that are worth 101 are `101`. -/
theorem eq_code101 {code : List UInt8} (hlength : code.length = 3)
    (hdigits : ∀ b ∈ code, 48 ≤ b ∧ b ≤ 57) (hvalue : digitsValue code = 101) :
    code = code101 := by
  obtain ⟨a, b, c, rfl⟩ := List.length_eq_three.mp hlength
  simp only [List.forall_mem_cons, UInt8.le_iff_toNat_le, UInt8.reduceToNat] at hdigits
  obtain ⟨⟨ha, ha'⟩, ⟨hb, hb'⟩, ⟨hc, hc'⟩, -⟩ := hdigits
  simp only [digitsValue, List.foldl_cons, List.foldl_nil] at hvalue
  have h1 : a = 49 := UInt8.toNat_inj.mp (by simp only [UInt8.reduceToNat]; omega)
  have h2 : b = 48 := UInt8.toNat_inj.mp (by simp only [UInt8.reduceToNat]; omega)
  have h3 : c = 49 := UInt8.toNat_inj.mp (by simp only [UInt8.reduceToNat]; omega)
  subst h1 h2 h3
  decide

/-- A status code of 101 stands in its line. -/
theorem infix_of_statusCode {answer : List UInt8} (h : statusCode answer = some 101) :
    code101 <:+: firstLine answer := by
  unfold statusCode at h
  rcases hsplit : (firstLine answer).splitOn 32 with _ | ⟨version, _ | ⟨code, rest⟩⟩
  · simp [hsplit] at h
  · simp [hsplit] at h
  · simp only [hsplit] at h
    by_cases hcode : encodeUtf8 "HTTP/".toList <+: version ∧ code.length = 3 ∧
        ∀ b ∈ code, 48 ≤ b ∧ b ≤ 57
    · rw [if_pos hcode, Option.some.injEq] at h
      rw [← eq_code101 hcode.2.1 hcode.2.2 h]
      exact infix_of_mem_splitOn (a := 32) (by rw [hsplit]; simp)
    · rw [if_neg hcode] at h
      cases h

/-- What `contains("101")` finds. -/
theorem switchesProtocols_iff {answer : List UInt8} (h : 10 ∈ answer) :
    switchesProtocols answer = true ↔
      (fromUtf8 answer).isSome = true ∧ code101 <:+: firstLine answer := by
  unfold switchesProtocols
  rw [decide_eq_true_iff]
  cases htext : fromUtf8 answer with
  | none =>
    refine iff_of_false ?_ fun hboth => Bool.false_ne_true hboth.1
    decide
  | some text =>
    have hbytes := fromUtf8_eq_some.mp htext
    have hmem : '\n' ∈ text := (mem_encodeUtf8_iff (c := '\n') (by decide)).mp (hbytes ▸ h)
    obtain ⟨front, back, rfl, hfront⟩ := List.eq_append_cons_of_mem hmem
    have hword : ∀ c ∈ "101".toList, c.toNat < 128 := by
      intro c hc
      rcases (by simpa using hc : c = '1' ∨ c = '0' ∨ c = '1') with rfl | rfl | rfl <;> decide
    rw [Option.getD_some, lines_cons hfront, List.headD_cons, ← hbytes,
      firstLine_encodeUtf8 hfront, code101, infix_encodeUtf8_iff (by simp) hword]
    simp

/-! ## What the client gets -/

section
variable {Addr : Type}

/-- The bytes of a backend's answer that are sent to the client before anything
is copied. -/
def relayed (effects : List (ConnectionEffect Addr)) : List UInt8 :=
  effects.flatMap fun
    | .relayClient bytes => bytes
    | _ => []

/-- The two sides are joined for a 101, and any other answer is passed on whole. -/
structure DecidedByStatus (effects : List (ConnectionEffect Addr)) (answer : List UInt8) :
    Prop where
  joined : (∃ addr, .tunnel addr ∈ effects) ↔ statusCode answer = some 101
  whole : statusCode answer ≠ some 101 → relayed effects = answer

/-- The reads up to the one that brings the terminator, in time, and what they
have brought. -/
def HeadRead (reads : List (List UInt8)) (buffer : List UInt8) (rest : List (List UInt8)) :
    Prop :=
  ∃ before chunk, reads = before ++ chunk :: rest ∧ buffer = before.flatten ++ chunk ∧
    terminator <:+: buffer ∧ Pending before.flatten

/-- The buffer shows what the answer is: behind a 101 it is a text; behind any
other code there is nothing left to read, and its first line holds no `101`,
unless it is no text. -/
structure Telling (answer buffer : List UInt8) (rest : List (List UInt8)) : Prop where
  text : statusCode answer = some 101 → (fromUtf8 buffer).isSome = true
  whole : statusCode answer ≠ some 101 → rest = []
  plain : statusCode answer ≠ some 101 → (fromUtf8 buffer).isSome = true →
    ¬code101 <:+: firstLine answer

variable {env : ConnectionEnv Addr} {isMatch : String → String → Bool} {config : ProxyConfig}
  {listenerName : String} {addr : Addr} {raw sent answer : List UInt8}

theorem readHttpRequestHead_eq_ok {reads : List (List UInt8)} (hne : ∀ chunk ∈ reads, chunk ≠ [])
    {buffer : List UInt8} {rest : List (List UInt8)} :
    readHttpRequestHead reads = .ok (buffer, rest) ↔ HeadRead reads buffer rest := by
  have hread := readMore_eq_ok hne pending_nil buffer rest
  simp only [List.nil_append] at hread
  exact hread

/-- The effects of an upgrade that reaches a backend. -/
theorem upgrade_of_sendBackend
    (h : .sendBackend addr sent ∈ (upgrade env isMatch config listenerName raw).1) :
    env.connects addr = true ∧ env.sends addr = true ∧
      ∃ effects : List (Effect Addr),
        (upgrade env isMatch config listenerName raw).1 =
          effects.map .pipeline ++ (relayUpgrade env addr raw).1 := by
  have hpipeline : ∀ effects : List (Effect Addr),
      ConnectionEffect.sendBackend addr sent ∉ effects.map .pipeline := by
    intro effects hmem
    obtain ⟨effect, -, heq⟩ := List.mem_map.mp hmem
    cases heq
  unfold upgrade at h ⊢
  cases hmeta : rawRoutingMeta env.http env.uris raw with
  | none => simp [hmeta] at h
  | some routingMeta =>
    simp only [hmeta] at h ⊢
    rcases hlast : (handleWebsocketUpgrade env.toEnv isMatch config listenerName
      routingMeta).getLast? with _ | effect
    · simp only [hlast] at h
      exact absurd h (hpipeline _)
    · cases effect with
      | connect reached =>
        simp only [hlast] at h ⊢
        rcases List.mem_append.mp h with hmem | hmem
        · exact absurd hmem (hpipeline _)
        · obtain ⟨rfl, -, hconnects, hsends⟩ := mem_relayUpgrade.mp hmem
          exact ⟨hconnects, hsends, _, rfl⟩
      | _ =>
        simp only [hlast] at h
        exact absurd h (hpipeline _)

/-- Effects that join the two sides are right for a 101. -/
theorem decidedByStatus_of_tunnel {effects : List (ConnectionEffect Addr)}
    (h : .tunnel addr ∈ effects) :
    DecidedByStatus effects answer ↔ statusCode answer = some 101 := by
  constructor
  · intro hdecided
    exact hdecided.joined.mp ⟨addr, h⟩
  · intro hcode
    exact ⟨iff_of_true ⟨addr, h⟩ hcode, fun hne => absurd hcode hne⟩

/-- Effects that do not are right for any other code, with the whole answer. -/
theorem decidedByStatus_of_notMem {effects : List (ConnectionEffect Addr)}
    (h : ∀ addr, .tunnel addr ∉ effects) :
    DecidedByStatus effects answer ↔ statusCode answer ≠ some 101 ∧ relayed effects = answer := by
  have hnot : ¬∃ addr, .tunnel addr ∈ effects := fun ⟨addr, hmem⟩ => h addr hmem
  constructor
  · intro hdecided
    have hcode : statusCode answer ≠ some 101 := fun hcode => hnot (hdecided.joined.mpr hcode)
    exact ⟨hcode, hdecided.whole hcode⟩
  · intro hwhole
    exact ⟨iff_of_false hnot hwhole.1, fun _ => hwhole.2⟩

theorem relayed_pipeline (effects : List (Effect Addr)) (more : List (ConnectionEffect Addr)) :
    relayed (effects.map .pipeline ++ more) = relayed more := by
  induction effects with
  | nil => rfl
  | cons effect effects ih => exact ih

/-- Without a complete head the client gets nothing. -/
theorem decidedByStatus_of_error
    (h : .sendBackend addr sent ∈ (upgrade env isMatch config listenerName raw).1)
    {e : IoErrorKind} (hread : readHttpRequestHead (env.answers addr raw) = .error e) :
    DecidedByStatus (upgrade env isMatch config listenerName raw).1 answer ↔ answer = [] := by
  obtain ⟨hconnects, hsends, effects, heffects⟩ := upgrade_of_sendBackend h
  have hrelay : (relayUpgrade env addr raw).1 = [.sendBackend addr raw] := by
    simp [relayUpgrade, hconnects, hsends, hread]
  rw [heffects, hrelay, decidedByStatus_of_notMem (by simp), relayed_pipeline]
  constructor
  · intro hwhole
    exact hwhole.2.symm
  · rintro rfl
    exact ⟨by decide, rfl⟩

/-- With one, the buffer is what it gets, and the first line decides on more. -/
theorem decidedByStatus_of_ok
    (h : .sendBackend addr sent ∈ (upgrade env isMatch config listenerName raw).1)
    (htakes : env.clientTakes = true) {buffer : List UInt8} {rest : List (List UInt8)}
    (hread : readHttpRequestHead (env.answers addr raw) = .ok (buffer, rest)) :
    DecidedByStatus (upgrade env isMatch config listenerName raw).1 answer ↔
      if switchesProtocols buffer = true then statusCode answer = some 101
      else statusCode answer ≠ some 101 ∧ buffer = answer := by
  obtain ⟨hconnects, hsends, effects, heffects⟩ := upgrade_of_sendBackend h
  rw [heffects]
  by_cases hswitch : switchesProtocols buffer = true
  · have hrelay : (relayUpgrade env addr raw).1 =
        [.sendBackend addr raw, .relayClient buffer, .tunnel addr] := by
      simp [relayUpgrade, hconnects, hsends, hread, hswitch, htakes]
    have hjoined : .tunnel addr ∈ effects.map ConnectionEffect.pipeline ++
        [.sendBackend addr raw, .relayClient buffer, .tunnel addr] := by simp
    rw [if_pos hswitch, hrelay]
    exact decidedByStatus_of_tunnel hjoined
  · have hrelay : (relayUpgrade env addr raw).1 =
        [.sendBackend addr raw, .relayClient buffer] := by
      simp [relayUpgrade, hconnects, hsends, hread, hswitch]
    rw [if_neg hswitch, hrelay, decidedByStatus_of_notMem (by simp), relayed_pipeline]
    simp [relayed]

/-- A buffer that is passed on is right when it tells. -/
theorem telling_iff {buffer : List UInt8} {rest : List (List UInt8)} (hnewline : 10 ∈ buffer)
    (hne : ∀ chunk ∈ rest, chunk ≠ []) (hanswer : answer = buffer ++ rest.flatten) :
    (if switchesProtocols buffer = true then statusCode answer = some 101
      else statusCode answer ≠ some 101 ∧ buffer = answer) ↔ Telling answer buffer rest := by
  have hrest : buffer = answer ↔ rest = [] := by
    rw [hanswer, List.self_eq_append_right, List.flatten_eq_nil_iff]
    constructor
    · intro hall
      exact List.eq_nil_iff_forall_not_mem.mpr fun chunk hmem => hne chunk hmem (hall _ hmem)
    · intro hnil
      simp [hnil]
  have hline : firstLine answer = firstLine buffer := by
    rw [hanswer, firstLine_append hnewline]
  have hswitch : switchesProtocols buffer = true ↔
      (fromUtf8 buffer).isSome = true ∧ code101 <:+: firstLine answer := by
    rw [hline]
    exact switchesProtocols_iff hnewline
  have htelling : Telling answer buffer rest ↔
      (statusCode answer = some 101 → (fromUtf8 buffer).isSome = true) ∧
      (statusCode answer ≠ some 101 → rest = []) ∧
      (statusCode answer ≠ some 101 → (fromUtf8 buffer).isSome = true →
        ¬code101 <:+: firstLine answer) := by
    constructor
    · intro h
      exact ⟨h.text, h.whole, h.plain⟩
    · intro h
      exact ⟨h.1, h.2.1, h.2.2⟩
  rw [htelling, hrest]
  by_cases hcode : statusCode answer = some 101
  · -- the line of a 101 holds one
    have hcontains := infix_of_statusCode hcode
    by_cases htext : (fromUtf8 buffer).isSome = true
    · simp [hswitch, hcode, htext, hcontains]
    · simp [hswitch, hcode, htext]
  · by_cases htext : (fromUtf8 buffer).isSome = true
    · by_cases hcontains : code101 <:+: firstLine answer
      · simp [hswitch, hcode, htext, hcontains]
      · simp [hswitch, hcode, htext, hcontains]
    · simp [hswitch, hcode, htext]

/-- **When the status code decides, and nothing is lost.** The head of the
answer comes in time, and the buffer it comes in tells. -/
theorem decidedByStatus_iff
    (h : .sendBackend addr sent ∈ (upgrade env isMatch config listenerName raw).1)
    (htakes : env.clientTakes = true) (hreads : Reads answer (env.answers addr raw)) :
    DecidedByStatus (upgrade env isMatch config listenerName raw).1 answer ↔
      answer = [] ∨ ∃ buffer rest, HeadRead (env.answers addr raw) buffer rest ∧
        Telling answer buffer rest := by
  have hok := @readHttpRequestHead_eq_ok _ hreads.nonempty
  cases hread : readHttpRequestHead (env.answers addr raw) with
  | error e =>
    rw [decidedByStatus_of_error h hread]
    refine (or_iff_left ?_).symm
    intro hcond
    obtain ⟨buffer, rest, hhead, -⟩ := hcond
    rw [hok.mpr hhead] at hread
    cases hread
  | ok result =>
    obtain ⟨buffer, rest⟩ := result
    have hhead := hok.mp hread
    obtain ⟨before, chunk, hsplit, hbuffer, hterm, -⟩ := id hhead
    have hanswer : answer = buffer ++ rest.flatten := by
      rw [← hreads.bytes, hsplit, hbuffer]
      simp
    have hnewline : 10 ∈ buffer := hterm.subset (by decide)
    have hne : ∀ chunk ∈ rest, chunk ≠ [] := fun chunk hchunk =>
      hreads.nonempty chunk (by rw [hsplit]; simp [hchunk])
    rw [decidedByStatus_of_ok h htakes hread, telling_iff hnewline hne hanswer]
    constructor
    · intro htells
      exact .inr ⟨buffer, rest, hhead, htells⟩
    · intro hcases
      rcases hcases with rfl | ⟨buffer', rest', hhead', htells⟩
      · rw [(List.append_eq_nil_iff.mp hanswer.symm).1] at hnewline
        cases hnewline
      · rw [hok.mpr hhead'] at hread
        obtain ⟨rfl, rfl⟩ := Prod.mk.inj (Except.ok.inj hread)
        exact htells

end

/-! ## A reason phrase, and a body -/

/-- An outside on which a backend answers an upgrade in these reads. -/
def answeringEnv (reads : List (List UInt8)) : ConnectionEnv ℕ :=
  { switchingEnv with answers := fun _ _ => reads }

theorem sendBackend_answeringEnv (reads : List (List UInt8)) :
    .sendBackend 0 (encodeUtf8 upgradeHead) ∈ (upgrade (answeringEnv reads) (fun _ _ => false)
      (oneBackend []) "l" (encodeUtf8 upgradeHead)).1 := by
  obtain ⟨routingMeta, hmeta⟩ := rawRoutingMeta_switchingEnv (fromUtf8_encodeUtf8 upgradeHead)
  have hroute := route_oneBackend [] routingMeta rfl
  have hreaches : Reaches (answeringEnv reads) [svcA] 0 := ⟨svcA, [], rfl, rfl, rfl, rfl⟩
  have hmeta' : rawRoutingMeta (answeringEnv reads).http (answeringEnv reads).uris
      (encodeUtf8 upgradeHead) = some routingMeta := hmeta
  exact (sendBackend_mem_upgrade hmeta' hroute).mpr ⟨rfl, hreaches⟩

theorem reads_answeringEnv {reads : List (List UInt8)} (hne : ∀ chunk ∈ reads, chunk ≠ [])
    (hshort : ∀ chunk ∈ reads, chunk.length ≤ 4096) :
    Reads reads.flatten ((answeringEnv reads).answers 0 (encodeUtf8 upgradeHead)) :=
  ⟨rfl, hne, hshort⟩

/-- `403 Forbidden`, in one read with its body. -/
theorem forbidden_decidedByStatus :
    let answer := encodeUtf8 "HTTP/1.1 403 Forbidden\r\n\r\nno".toList
    DecidedByStatus (upgrade (answeringEnv [answer]) (fun _ _ => false) (oneBackend []) "l"
      (encodeUtf8 upgradeHead)).1 [answer].flatten := by
  intro answer
  have hreads : Reads [answer].flatten _ :=
    reads_answeringEnv (by decide +kernel) (by decide +kernel)
  refine (decidedByStatus_iff (sendBackend_answeringEnv _) rfl hreads).mpr (.inr ?_)
  refine ⟨answer, [], ⟨[], answer, rfl, rfl, by decide +kernel, pending_nil⟩, ?_, ?_, ?_⟩
  · intro hcode
    exact absurd hcode (by decide +kernel)
  · exact fun _ => rfl
  · intro _ _
    decide +kernel

/-- After `HTTP/1.1 400 Error 101` the two sides are joined, and of a body that
comes in a read of its own the client gets nothing. -/
theorem phrase_and_body_misjudged :
    let phrase := encodeUtf8 "HTTP/1.1 400 Error 101\r\n\r\n".toList
    let head := encodeUtf8 "HTTP/1.1 403 Forbidden\r\n\r\n".toList
    let body := encodeUtf8 "no".toList
    (statusCode phrase = some 400 ∧ ¬DecidedByStatus (upgrade (answeringEnv [phrase])
      (fun _ _ => false) (oneBackend []) "l" (encodeUtf8 upgradeHead)).1 phrase) ∧
    statusCode (head ++ body) = some 403 ∧ ¬DecidedByStatus (upgrade (answeringEnv [head, body])
      (fun _ _ => false) (oneBackend []) "l" (encodeUtf8 upgradeHead)).1 (head ++ body) := by
  intro phrase head body
  have hread : ∀ (first : List UInt8) (rest : List (List UInt8)), first ≠ [] →
      terminator <:+: first → readHttpRequestHead (first :: rest) = .ok (first, rest) := by
    intro first rest hne hterm
    rw [readHttpRequestHead, readMore, if_neg (by simpa using hne)]
    exact if_pos hterm
  refine ⟨⟨by decide +kernel, ?_⟩, by decide +kernel, ?_⟩
  · have hswitch : switchesProtocols phrase = true := by
      rw [switchesProtocols, fromUtf8_encodeUtf8]
      decide +kernel
    rw [decidedByStatus_of_ok (sendBackend_answeringEnv _) rfl
      (hread phrase [] (by decide +kernel) (by decide +kernel)), if_pos hswitch]
    decide +kernel
  · have hswitch : ¬switchesProtocols head = true := by
      rw [switchesProtocols, fromUtf8_encodeUtf8]
      decide +kernel
    rw [decidedByStatus_of_ok (sendBackend_answeringEnv _) rfl
      (hread head [body] (by decide +kernel) (by decide +kernel)), if_neg hswitch]
    decide +kernel

end Multiway.ProxyCore
