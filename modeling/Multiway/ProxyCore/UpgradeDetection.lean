import Multiway.ProxyCore.Upgrade

/-!
# Upgrades and the order of the header lines

`is_raw_websocket_upgrade` assigns its four flags line by line, so of several
Connection lines the last one counts, and of several Upgrade lines
(`foldl_seeLine`), and it gives up on a head that is no UTF-8 as a whole. A
`RawHead` is a head in bytes, and `Respelled` what may be done to its lines
without changing what they say: `functionOfHeaders_iff` is when the verdict
follows what they say.
-/

namespace Multiway.ProxyCore

open Multiway.Lib.Text

/-! ## Header lines in bytes -/

/-- Some bytes are a word, but for its case and for white space around it. -/
def isWord (bytes : List UInt8) (word : String) : Bool :=
  (fromUtf8 bytes).any fun text => eqIgnoreAsciiCase (String.ofList (trim text)) word

/-- What stands before the first colon. -/
def lineName (line : List UInt8) : List UInt8 := line.takeWhile (· != 58)

/-- What stands behind it. -/
def lineValue (line : List UInt8) : List UInt8 := (line.dropWhile (· != 58)).drop 1

/-- The name of a header line, one with a colon. -/
def named (line : List UInt8) (name : String) : Bool :=
  line.contains 58 && isWord (lineName line) name

/-- The value between its commas. -/
def tokens (line : List UInt8) : List (List UInt8) := (lineValue line).splitOn 44

section
variable {name value : List UInt8}

theorem lineName_append (h : 58 ∉ name) : lineName (name ++ 58 :: value) = name := by
  have hname : ∀ b ∈ name, (b != 58) = true := by
    intro b hb
    rw [bne_iff_ne]
    intro heq
    exact h (heq ▸ hb)
  rw [lineName, List.takeWhile_append_of_pos hname]
  simp

theorem lineValue_append (h : 58 ∉ name) : lineValue (name ++ 58 :: value) = value := by
  have hname : ∀ b ∈ name, (b != 58) = true := by
    intro b hb
    rw [bne_iff_ne]
    intro heq
    exact h (heq ▸ hb)
  rw [lineValue, List.dropWhile_append_of_pos hname]
  simp

theorem named_append (h : 58 ∉ name) (word : String) :
    named (name ++ 58 :: value) word = isWord name word := by
  rw [named, lineName_append h]
  simp

theorem tokens_append (h : 58 ∉ name) : tokens (name ++ 58 :: value) = value.splitOn 44 := by
  rw [tokens, lineValue_append h]

/-- A header line is its name, a colon and its value. -/
theorem exists_of_named {line : List UInt8} {word : String} (h : named line word = true) :
    ∃ name value, line = name ++ 58 :: value ∧ 58 ∉ name ∧ isWord name word = true := by
  obtain ⟨hcolon, hname⟩ := Bool.and_eq_true_iff.mp h
  obtain ⟨name, value, rfl, hnot⟩ := List.eq_append_cons_of_mem (List.contains_iff_mem.mp hcolon)
  rw [lineName_append hnot] at hname
  exact ⟨name, value, rfl, hnot, hname⟩

end

theorem isWord_encodeUtf8 (text : List Char) (word : String) :
    isWord (encodeUtf8 text) word = eqIgnoreAsciiCase (String.ofList (trim text)) word := by
  rw [isWord, fromUtf8_encodeUtf8, Option.any_some]

theorem eqIgnoreAsciiCase_congr {a b : String} (h : eqIgnoreAsciiCase a b = true) (c : String) :
    eqIgnoreAsciiCase a c = eqIgnoreAsciiCase b c := by
  unfold eqIgnoreAsciiCase at h ⊢
  rw [beq_iff_eq.mp h]

/-- Some bytes are one word only. -/
theorem isWord_congr {bytes : List UInt8} {word : String} (h : isWord bytes word = true)
    (other : String) : isWord bytes other = eqIgnoreAsciiCase word other := by
  unfold isWord at h ⊢
  cases htext : fromUtf8 bytes with
  | none => simp [htext] at h
  | some text =>
    rw [htext, Option.any_some] at h
    exact eqIgnoreAsciiCase_congr h other

/-! ## The scan on bytes -/

/-- One header line of the scan, in bytes. -/
def UpgradeFlags.seeLine (flags : UpgradeFlags) (line : List UInt8) : UpgradeFlags where
  hasConnectionUpgrade :=
    if named line "connection" then (tokens line).any (isWord · "upgrade")
    else flags.hasConnectionUpgrade
  hasUpgradeWebsocket :=
    if named line "upgrade" then isWord (lineValue line) "websocket"
    else flags.hasUpgradeWebsocket
  hasWsVersion := named line "sec-websocket-version" || flags.hasWsVersion
  hasWsKey := named line "sec-websocket-key" || flags.hasWsKey

/-- The tokens of a value are found whether or not it is trimmed first. -/
theorem any_splitOn_trim (value : List Char) (word : String) :
    ((trim value).splitOn ',').any (fun part => eqIgnoreAsciiCase (String.ofList (trim part)) word) =
      (value.splitOn ',').any fun part => eqIgnoreAsciiCase (String.ofList (trim part)) word := by
  have hany : ∀ parts : List (List Char),
      parts.any (fun part => eqIgnoreAsciiCase (String.ofList (trim part)) word) =
        (parts.map trim).any fun part => eqIgnoreAsciiCase (String.ofList part) word := by
    intro parts
    rw [List.any_map]
    rfl
  rw [hany, hany, map_trim_splitOn_trim (by decide)]

theorem seeLine_encodeUtf8 (flags : UpgradeFlags) (text : List Char) :
    flags.seeLine (encodeUtf8 text) = (headerField text).elim flags flags.see := by
  by_cases hcolon : ':' ∈ text
  · obtain ⟨name, value, rfl, hname⟩ := List.eq_append_cons_of_mem hcolon
    have hbytes : (58 : UInt8) ∉ encodeUtf8 name := fun h =>
      hname ((mem_encodeUtf8_iff (c := ':') (by decide)).mp h)
    have hline : encodeUtf8 (name ++ ':' :: value) = encodeUtf8 name ++ 58 :: encodeUtf8 value :=
      encodeUtf8_append_cons (by decide) name value
    have hsplit : (encodeUtf8 value).splitOn 44 = (value.splitOn ',').map encodeUtf8 :=
      splitOn_encodeUtf8 (c := ',') (by decide) value
    have htokens : (tokens (encodeUtf8 (name ++ ':' :: value))).any (isWord · "upgrade") =
        ((trim value).splitOn ',').any fun part =>
          eqIgnoreAsciiCase (String.ofList (trim part)) "upgrade" := by
      rw [any_splitOn_trim, hline, tokens_append hbytes, hsplit, List.any_map]
      simp only [Function.comp_def, isWord_encodeUtf8]
    have hnamed : ∀ word, named (encodeUtf8 (name ++ ':' :: value)) word =
        eqIgnoreAsciiCase (String.ofList (trim name)) word := by
      intro word
      rw [hline, named_append hbytes, isWord_encodeUtf8]
    have hvalue : isWord (lineValue (encodeUtf8 (name ++ ':' :: value))) "websocket" =
        eqIgnoreAsciiCase (String.ofList (trim value)) "websocket" := by
      rw [hline, lineValue_append hbytes, isWord_encodeUtf8]
    rw [headerField, splitOnce_of_notMem hname, Option.map_some, Option.elim_some,
      UpgradeFlags.seeLine, UpgradeFlags.see]
    simp only [hnamed, hvalue, htokens, String.toList_ofList]
    generalize String.ofList (trim name) = word
    by_cases hconnection : eqIgnoreAsciiCase word "connection" = true
    · have hothers := eqIgnoreAsciiCase_congr hconnection
      simp only [hothers]
      rfl
    by_cases hupgrade : eqIgnoreAsciiCase word "upgrade" = true
    · have hothers := eqIgnoreAsciiCase_congr hupgrade
      simp only [hothers]
      rfl
    by_cases hversion : eqIgnoreAsciiCase word "sec-websocket-version" = true
    · have hothers := eqIgnoreAsciiCase_congr hversion
      simp only [hothers]
      rfl
    by_cases hkey : eqIgnoreAsciiCase word "sec-websocket-key" = true
    · have hothers := eqIgnoreAsciiCase_congr hkey
      simp only [hothers]
      rfl
    simp [hconnection, hupgrade, hversion, hkey]
  · have hnone : headerField text = none := by
      rw [headerField, splitOnce_eq_none hcolon]
      rfl
    have hbytes : (encodeUtf8 text).contains 58 = false := by
      rw [Bool.eq_false_iff]
      intro h
      exact hcolon ((mem_encodeUtf8_iff (c := ':') (by decide)).mp (List.contains_iff_mem.mp h))
    have hnamed : ∀ word, named (encodeUtf8 text) word = false := by
      intro word
      rw [named, hbytes, Bool.false_and]
    rw [hnone, Option.elim_none, UpgradeFlags.seeLine]
    simp [hnamed]

/-- The scan of a text is that of its lines in bytes. -/
theorem foldl_see (texts : List (List Char)) (flags : UpgradeFlags) :
    (texts.filterMap headerField).foldl UpgradeFlags.see flags =
      (texts.map encodeUtf8).foldl UpgradeFlags.seeLine flags := by
  induction texts generalizing flags with
  | nil => rfl
  | cons text texts ih =>
    rw [List.map_cons, List.foldl_cons, seeLine_encodeUtf8]
    cases hfield : headerField text with
    | none => rw [List.filterMap_cons_none hfield, ih, Option.elim_none]
    | some field => rw [List.filterMap_cons_some hfield, List.foldl_cons, ih, Option.elim_some]

/-- The last line of a name. -/
def lastNamed (lines : List (List UInt8)) (name : String) : Option (List UInt8) :=
  (lines.filter (named · name)).getLast?

/-- **The last one counts.** -/
theorem foldl_seeLine (lines : List (List UInt8)) (flags : UpgradeFlags) :
    lines.foldl UpgradeFlags.seeLine flags =
      { hasConnectionUpgrade := ((lastNamed lines "connection").map fun line =>
          (tokens line).any (isWord · "upgrade")).getD flags.hasConnectionUpgrade
        hasUpgradeWebsocket := ((lastNamed lines "upgrade").map fun line =>
          isWord (lineValue line) "websocket").getD flags.hasUpgradeWebsocket
        hasWsVersion := lines.any (named · "sec-websocket-version") || flags.hasWsVersion
        hasWsKey := lines.any (named · "sec-websocket-key") || flags.hasWsKey } := by
  induction lines generalizing flags with
  | nil => rfl
  | cons line lines ih =>
    have hlast : ∀ (name : String) (f : List UInt8 → Bool) (flag : Bool),
        ((lastNamed (line :: lines) name).map f).getD flag =
          ((lastNamed lines name).map f).getD (if named line name then f line else flag) := by
      intro name f flag
      unfold lastNamed
      by_cases hnamed : named line name = true
      · rw [List.filter_cons, if_pos hnamed, List.getLast?_cons, if_pos hnamed]
        cases (lines.filter (named · name)).getLast? with
        | none => rfl
        | some last => rfl
      · rw [List.filter_cons, if_neg hnamed, if_neg hnamed]
    rw [List.foldl_cons, ih, hlast, hlast, List.any_cons, List.any_cons, UpgradeFlags.seeLine]
    simp only [Bool.or_assoc, Bool.or_left_comm]

/-! ## Heads in bytes -/

def crlf : List UInt8 := [13, 10]

/-- A request head in bytes: no line has a newline in it, and no header line is
one that ends the head. -/
structure RawHead where
  requestLine : List UInt8
  lines : List (List UInt8)
  noBreak : ∀ line ∈ requestLine :: lines, 10 ∉ line
  filled : ∀ line ∈ lines, line ≠ [] ∧ line ≠ [13]

def RawHead.bytes (head : RawHead) : List UInt8 :=
  head.requestLine ++ crlf ++ head.lines.flatMap (· ++ crlf) ++ crlf

theorem lines_crlf {line : List Char} (h : '\n' ∉ line) (rest : List Char) :
    Lib.Text.lines (line ++ '\r' :: '\n' :: rest) = line :: Lib.Text.lines rest := by
  have hcut : line ++ '\r' :: '\n' :: rest = (line ++ ['\r']) ++ '\n' :: rest := by simp
  rw [hcut, lines_cons (by simpa using h), stripCr_concat]

/-- A head is a text when each of its lines is. -/
theorem RawHead.isSome_fromUtf8_bytes (head : RawHead) :
    (fromUtf8 head.bytes).isSome = true ↔
      ∀ line ∈ head.requestLine :: head.lines, (fromUtf8 line).isSome = true := by
  have hcrlf : ∀ line rest : List UInt8, (fromUtf8 (line ++ crlf ++ rest)).isSome = true ↔
      (fromUtf8 line).isSome = true ∧ (fromUtf8 rest).isSome = true := by
    intro line rest
    have hcut : line ++ crlf ++ rest = line ++ UInt8.ofNat ('\r').toNat ::
        ([] ++ UInt8.ofNat ('\n').toNat :: rest) := by simp [crlf]
    rw [hcut, isSome_fromUtf8_append_cons (by decide), isSome_fromUtf8_append_cons (by decide)]
    have hempty : (fromUtf8 []).isSome = true := isSome_fromUtf8_iff.mpr ⟨[], rfl⟩
    simp [hempty]
  have hlines : ∀ lines : List (List UInt8),
      (fromUtf8 (lines.flatMap (· ++ crlf) ++ crlf)).isSome = true ↔
        ∀ line ∈ lines, (fromUtf8 line).isSome = true := by
    intro lines
    induction lines with
    | nil =>
      have hend : (fromUtf8 crlf).isSome = true :=
        isSome_fromUtf8_iff.mpr ⟨['\r', '\n'], by decide⟩
      simp [hend]
    | cons line lines ih =>
      rw [List.flatMap_cons, List.append_assoc, hcrlf, ih, List.forall_mem_cons]
  rw [RawHead.bytes, List.append_assoc, hcrlf, hlines, List.forall_mem_cons]

/-- What the scan goes over. -/
theorem headerLines_chars {requestLine : List Char} {texts : List (List Char)}
    (hrequest : '\n' ∉ requestLine)
    (htexts : ∀ text ∈ texts, '\n' ∉ text ∧ text ≠ [] ∧ text ≠ ['\r']) :
    headerLines (requestLine ++ '\r' :: '\n' ::
      (texts.flatMap (· ++ ['\r', '\n']) ++ ['\r', '\n'])) = texts := by
  rw [headerLines, lines_crlf hrequest]
  show (Lib.Text.lines _).takeWhile _ = texts
  induction texts with
  | nil =>
    have hend : Lib.Text.lines ['\r', '\n'] = [[]] := by decide
    rw [List.flatMap_nil, List.nil_append, hend]
    rfl
  | cons text texts ih =>
    obtain ⟨⟨hbreak, hne, hcr⟩, htexts⟩ := List.forall_mem_cons.mp htexts
    have hcut : (text :: texts).flatMap (· ++ ['\r', '\n']) ++ ['\r', '\n'] =
        text ++ '\r' :: '\n' :: (texts.flatMap (· ++ ['\r', '\n']) ++ ['\r', '\n']) := by simp
    rw [hcut, lines_crlf hbreak, List.takeWhile_cons_of_pos (by simp [hne, hcr]), ih htexts]

/-- A head of texts, in bytes. -/
theorem encodeUtf8_head (requestLine : List Char) (texts : List (List Char)) :
    encodeUtf8 (requestLine ++ '\r' :: '\n' ::
      (texts.flatMap (· ++ ['\r', '\n']) ++ ['\r', '\n'])) =
    encodeUtf8 requestLine ++ crlf ++ (texts.map encodeUtf8).flatMap (· ++ crlf) ++ crlf := by
  have hend : encodeUtf8 ['\r', '\n'] = crlf := by decide
  have hflat : encodeUtf8 (texts.flatMap (· ++ ['\r', '\n'])) =
      (texts.map encodeUtf8).flatMap (· ++ crlf) := by
    induction texts with
    | nil => rfl
    | cons text texts ih =>
      rw [List.flatMap_cons, encodeUtf8_append, encodeUtf8_append, hend, ih, List.map_cons,
        List.flatMap_cons]
  have hcut : requestLine ++ '\r' :: '\n' ::
      (texts.flatMap (· ++ ['\r', '\n']) ++ ['\r', '\n']) =
      requestLine ++ ['\r', '\n'] ++ texts.flatMap (· ++ ['\r', '\n']) ++ ['\r', '\n'] := by
    simp
  rw [hcut, encodeUtf8_append, encodeUtf8_append, encodeUtf8_append, hend, hflat]

/-- The verdict on a head, in terms of its lines. -/
theorem RawHead.isRaw_bytes (head : RawHead) :
    isRawWebsocketUpgrade head.bytes = true ↔
      (∀ line ∈ head.requestLine :: head.lines, (fromUtf8 line).isSome = true) ∧
      (∃ line, lastNamed head.lines "connection" = some line ∧
        ∃ token ∈ tokens line, isWord token "upgrade" = true) ∧
      (∃ line, lastNamed head.lines "upgrade" = some line ∧
        isWord (lineValue line) "websocket" = true) ∧
      (∃ line ∈ head.lines, named line "sec-websocket-version" = true) ∧
      ∃ line ∈ head.lines, named line "sec-websocket-key" = true := by
  by_cases htext : ∀ line ∈ head.requestLine :: head.lines, (fromUtf8 line).isSome = true
  case neg =>
    refine iff_of_false ?_ fun h => htext h.1
    have hnone := mt head.isSome_fromUtf8_bytes.mp htext
    rw [isRawWebsocketUpgrade, Option.not_isSome_iff_eq_none.mp hnone]
    exact Bool.false_ne_true
  obtain ⟨requestLine, lines, hbreak, hfilled⟩ := head
  obtain ⟨hrequest, hlines⟩ := List.forall_mem_cons.mp htext
  obtain ⟨request, rfl⟩ := isSome_fromUtf8_iff.mp hrequest
  obtain ⟨texts, rfl⟩ : ∃ texts : List (List Char), texts.map encodeUtf8 = lines :=
    (Set.ext_iff.mp (Set.range_list_map encodeUtf8) lines).mpr fun line hline =>
      isSome_fromUtf8_iff.mp (hlines line hline)
  have hcharBreak : ∀ text : List Char, encodeUtf8 text ∈ encodeUtf8 request ::
      texts.map encodeUtf8 → '\n' ∉ text := by
    intro text hmem hnewline
    exact hbreak _ hmem ((mem_encodeUtf8_iff (c := '\n') (by decide)).mpr hnewline)
  have htexts : ∀ text ∈ texts, '\n' ∉ text ∧ text ≠ [] ∧ text ≠ ['\r'] := by
    intro text hmem
    obtain ⟨hne, hcr⟩ := hfilled _ (List.mem_map_of_mem hmem)
    refine ⟨hcharBreak text (List.mem_cons_of_mem _ (List.mem_map_of_mem hmem)), ?_, ?_⟩
    · rintro rfl
      exact hne rfl
    · rintro rfl
      exact hcr (by decide)
  rw [RawHead.bytes, ← encodeUtf8_head, isRawWebsocketUpgrade, fromUtf8_encodeUtf8, Option.any_some,
    isUpgradeText,
    headerFields, headerLines_chars (hcharBreak request List.mem_cons_self) htexts, foldl_see,
    foldl_seeLine]
  have hlast : ∀ (name : String) (f : List UInt8 → Bool),
      ((lastNamed (texts.map encodeUtf8) name).map f).getD false = true ↔
        ∃ line, lastNamed (texts.map encodeUtf8) name = some line ∧ f line = true := by
    intro name f
    cases lastNamed (texts.map encodeUtf8) name <;> simp
  simp only [Bool.and_eq_true, Bool.or_false, hlast, List.any_eq_true, and_assoc]
  exact (and_iff_right htext).symm

/-! ## What the lines say -/

/-- The header lines ask for an upgrade, whichever of them do. -/
structure AsksUpgrade (lines : List (List UInt8)) : Prop where
  connection : ∃ line ∈ lines, named line "connection" = true ∧
    ∃ token ∈ tokens line, isWord token "upgrade" = true
  upgrade : ∃ line ∈ lines, named line "upgrade" = true ∧
    isWord (lineValue line) "websocket" = true
  version : ∃ line ∈ lines, named line "sec-websocket-version" = true
  key : ∃ line ∈ lines, named line "sec-websocket-key" = true

/-- The lines in another order, or with a Connection value spread over several
lines at its commas. -/
inductive Respelled : List (List UInt8) → List (List UInt8) → Prop
  | perm {lines lines' : List (List UInt8)} (h : lines.Perm lines') : Respelled lines lines'
  | split {front back : List (List UInt8)} {name a b : List UInt8} (hcolon : 58 ∉ name)
      (hname : isWord name "connection" = true) :
      Respelled (front ++ (name ++ 58 :: (a ++ 44 :: b)) :: back)
        (front ++ (name ++ 58 :: a) :: (name ++ 58 :: b) :: back)
  | trans {lines lines' lines'' : List (List UInt8)} (h : Respelled lines lines')
      (h' : Respelled lines' lines'') : Respelled lines lines''

/-- The verdict on a head is what its lines say, however they are spelled. -/
structure FunctionOfHeaders (head : RawHead) : Prop where
  respelled : ∀ head' : RawHead, head'.requestLine = head.requestLine →
    Respelled head.lines head'.lines →
      isRawWebsocketUpgrade head'.bytes = isRawWebsocketUpgrade head.bytes
  asks : isRawWebsocketUpgrade head.bytes = true ↔ AsksUpgrade head.lines

/-- A head that is a text, in which Connection says nothing but `upgrade` and
Upgrade nothing but `websocket`. -/
structure RawHead.Plain (head : RawHead) : Prop where
  text : ∀ line ∈ head.requestLine :: head.lines, (fromUtf8 line).isSome = true
  connection : ∀ line ∈ head.lines, named line "connection" = true →
    ∀ token ∈ tokens line, isWord token "upgrade" = true
  upgrade : ∀ line ∈ head.lines, named line "upgrade" = true →
    isWord (lineValue line) "websocket" = true

/-- Spreading a Connection value takes one line for two; what is said of single
lines is said of both or of one of them. -/
theorem Respelled.forall_iff {P : List UInt8 → Prop}
    (hP : ∀ name a b : List UInt8, 58 ∉ name → isWord name "connection" = true →
      (P (name ++ 58 :: (a ++ 44 :: b)) ↔ P (name ++ 58 :: a) ∧ P (name ++ 58 :: b)))
    {lines lines' : List (List UInt8)} (h : Respelled lines lines') :
    (∀ line ∈ lines, P line) ↔ ∀ line ∈ lines', P line := by
  induction h with
  | perm h =>
    constructor
    · intro hall line hmem
      exact hall line (h.mem_iff.mpr hmem)
    · intro hall line hmem
      exact hall line (h.mem_iff.mp hmem)
  | split hcolon hname =>
    simp only [List.forall_mem_append, List.forall_mem_cons, hP _ _ _ hcolon hname, and_assoc]
  | trans _ _ ih ih' => exact ih.trans ih'

/-- No line but Connection lines are touched. -/
theorem Respelled.exists_iff {P : List UInt8 → Prop}
    (hP : ∀ name a b : List UInt8, 58 ∉ name → isWord name "connection" = true →
      (P (name ++ 58 :: (a ++ 44 :: b)) ↔ P (name ++ 58 :: a) ∨ P (name ++ 58 :: b)))
    {lines lines' : List (List UInt8)} (h : Respelled lines lines') :
    (∃ line ∈ lines, P line) ↔ ∃ line ∈ lines', P line := by
  have hforall := h.forall_iff (P := fun line => ¬P line) fun name a b hcolon hname => by
    rw [hP name a b hcolon hname, not_or]
  simpa using not_congr hforall

/-- A Connection line has no other name. -/
theorem named_of_connection {name : List UInt8} (hcolon : 58 ∉ name)
    (hname : isWord name "connection" = true) (value : List UInt8) {word : String}
    (hword : eqIgnoreAsciiCase "connection" word = false) :
    named (name ++ 58 :: value) word = false := by
  rw [named_append hcolon, isWord_congr hname, hword]

theorem Respelled.asksUpgrade_iff {lines lines' : List (List UInt8)}
    (h : Respelled lines lines') : AsksUpgrade lines ↔ AsksUpgrade lines' := by
  have hconnection := h.exists_iff (P := fun line => named line "connection" = true ∧
      ∃ token ∈ tokens line, isWord token "upgrade" = true) fun name a b hcolon hname => by
    simp only [named_append hcolon, tokens_append hcolon, List.splitOn_append_cons_self,
      List.mem_append, or_and_right, exists_or, and_or_left]
  have hother : ∀ (P : List UInt8 → Prop) (word : String),
      eqIgnoreAsciiCase "connection" word = false →
      ((∃ line ∈ lines, named line word = true ∧ P line) ↔
        ∃ line ∈ lines', named line word = true ∧ P line) := by
    intro P word hword
    refine h.exists_iff fun name a b hcolon hname => ?_
    simp [named_of_connection hcolon hname _ hword]
  have hupgrade := hother (fun line => isWord (lineValue line) "websocket" = true) "upgrade"
    (by decide)
  have hversion := hother (fun _ => True) "sec-websocket-version" (by decide)
  have hkey := hother (fun _ => True) "sec-websocket-key" (by decide)
  simp only [and_true] at hversion hkey
  constructor
  · intro hasks
    exact ⟨hconnection.mp hasks.connection, hupgrade.mp hasks.upgrade, hversion.mp hasks.version,
      hkey.mp hasks.key⟩
  · intro hasks
    exact ⟨hconnection.mpr hasks.connection, hupgrade.mpr hasks.upgrade,
      hversion.mpr hasks.version, hkey.mpr hasks.key⟩

theorem RawHead.Plain.of_respelled {head head' : RawHead}
    (hrequest : head'.requestLine = head.requestLine) (h : Respelled head.lines head'.lines)
    (hplain : head.Plain) : head'.Plain := by
  obtain ⟨hfirst, hlines⟩ := List.forall_mem_cons.mp hplain.text
  refine ⟨List.forall_mem_cons.mpr ⟨hrequest ▸ hfirst, ?_⟩, ?_, ?_⟩
  · refine (h.forall_iff fun name a b _ _ => ?_).mp hlines
    have hcolon : ∀ value, (fromUtf8 (name ++ 58 :: value)).isSome = true ↔
        (fromUtf8 name).isSome = true ∧ (fromUtf8 value).isSome = true := fun value =>
      isSome_fromUtf8_append_cons (c := ':') (by decide)
    have hcomma : (fromUtf8 (a ++ 44 :: b)).isSome = true ↔
        (fromUtf8 a).isSome = true ∧ (fromUtf8 b).isSome = true :=
      isSome_fromUtf8_append_cons (c := ',') (by decide)
    rw [hcolon, hcolon, hcolon, hcomma]
    tauto
  · refine (h.forall_iff fun name a b hcolon hname => ?_).mp hplain.connection
    simp only [named_append hcolon, hname, tokens_append hcolon, List.splitOn_append_cons_self,
      List.forall_mem_append, true_implies]
  · refine (h.forall_iff fun name a b hcolon hname => ?_).mp hplain.upgrade
    have hother : eqIgnoreAsciiCase "connection" "upgrade" = false := by decide
    simp [named_of_connection hcolon hname _ hother]

/-- What is respelled is a head again. -/
theorem RawHead.exists_respelled (head : RawHead) {lines : List (List UInt8)}
    (h : Respelled head.lines lines) :
    ∃ head' : RawHead, head'.requestLine = head.requestLine ∧ head'.lines = lines := by
  obtain ⟨hrequest, hbreak⟩ := List.forall_mem_cons.mp head.noBreak
  have hbreak' := (h.forall_iff (P := fun line => 10 ∉ line) fun name a b _ _ => by
    simp only [List.mem_append, List.mem_cons, not_or]
    tauto).mp hbreak
  have hfilled := (h.forall_iff (P := fun line => line ≠ [] ∧ line ≠ [13])
    fun name a b _ _ => by
      have hne : ∀ value : List UInt8, name ++ 58 :: value ≠ [] ∧ name ++ 58 :: value ≠ [13] := by
        intro value
        refine ⟨by simp, fun heq => ?_⟩
        have hmem : (58 : UInt8) ∈ [13] := heq ▸ by simp
        simp at hmem
      exact iff_of_true (hne _) ⟨hne _, hne _⟩).mp head.filled
  exact ⟨⟨head.requestLine, lines, List.forall_mem_cons.mpr ⟨hrequest, hbreak'⟩, hfilled⟩, rfl, rfl⟩

/-- Every token of a Connection line can be put on a line of its own. -/
theorem exists_respelled_token {name token : List UInt8} (hcolon : 58 ∉ name)
    (hname : isWord name "connection" = true) {value : List UInt8}
    (htoken : token ∈ value.splitOn 44) {lines : List (List UInt8)}
    (hline : name ++ 58 :: value ∈ lines) :
    ∃ lines', Respelled lines lines' ∧ name ++ 58 :: token ∈ lines' ∧ 44 ∉ token := by
  induction hn : value.length using Nat.strong_induction_on generalizing value lines with
  | _ n ih =>
    by_cases hcomma : 44 ∈ value
    · obtain ⟨a, b, rfl, ha⟩ := List.eq_append_cons_of_mem hcomma
      obtain ⟨front, back, rfl⟩ := List.append_of_mem hline
      rw [List.splitOn_append_cons_self_of_not_mem ha, List.mem_cons] at htoken
      rcases htoken with rfl | htoken
      · exact ⟨_, .split hcolon hname, by simp, ha⟩
      · have hlast : name ++ 58 :: b ∈
            front ++ (name ++ 58 :: a) :: (name ++ 58 :: b) :: back := by simp
        obtain ⟨lines', hrespelled, hmem, hfree⟩ :=
          ih b.length (by simp at hn; omega) htoken hlast rfl
        exact ⟨lines', .trans (.split hcolon hname) hrespelled, hmem, hfree⟩
    · rw [List.splitOn_eq_singleton hcomma, List.mem_singleton] at htoken
      subst htoken
      exact ⟨lines, .perm (List.Perm.refl _), hline, hcomma⟩

/-- Any line can be put last. -/
theorem exists_respelled_last {lines : List (List UInt8)} {line : List UInt8}
    (h : line ∈ lines) : ∃ others, Respelled lines (others ++ [line]) := by
  obtain ⟨front, back, rfl⟩ := List.append_of_mem h
  refine ⟨front ++ back, .perm ?_⟩
  rw [List.append_assoc]
  exact List.Perm.append_left front (List.perm_append_singleton line back).symm

theorem lastNamed_concat {lines : List (List UInt8)} {line : List UInt8} {name : String}
    (h : named line name = true) : lastNamed (lines ++ [line]) name = some line := by
  rw [lastNamed, List.filter_append]
  simp [h]

theorem exists_lastNamed {lines : List (List UInt8)} {line : List UInt8} {name : String}
    (hmem : line ∈ lines) (h : named line name = true) :
    ∃ last ∈ lines, lastNamed lines name = some last ∧ named last name = true := by
  have hne : lines.filter (named · name) ≠ [] :=
    List.ne_nil_of_mem (List.mem_filter.mpr ⟨hmem, h⟩)
  obtain ⟨hlast, hnamed⟩ := List.mem_filter.mp (List.getLast_mem hne)
  exact ⟨_, hlast, List.getLast?_eq_some_getLast hne, hnamed⟩

theorem mem_of_lastNamed {lines : List (List UInt8)} {line : List UInt8} {name : String}
    (h : lastNamed lines name = some line) : line ∈ lines ∧ named line name = true :=
  List.mem_filter.mp (List.mem_of_getLast? h)

/-- A verdict for an upgrade has the lines on its side. -/
theorem RawHead.asksUpgrade_of_isRaw {head : RawHead}
    (h : isRawWebsocketUpgrade head.bytes = true) : AsksUpgrade head.lines := by
  obtain ⟨-, ⟨connection, hconnection, htoken⟩, ⟨upgrade, hupgrade, hvalue⟩, hversion, hkey⟩ :=
    head.isRaw_bytes.mp h
  obtain ⟨hmem, hnamed⟩ := mem_of_lastNamed hconnection
  obtain ⟨hmem', hnamed'⟩ := mem_of_lastNamed hupgrade
  exact ⟨⟨connection, hmem, hnamed, htoken⟩, ⟨upgrade, hmem', hnamed', hvalue⟩, hversion, hkey⟩

theorem RawHead.Plain.isRaw {head : RawHead} (hplain : head.Plain)
    (hasks : AsksUpgrade head.lines) : isRawWebsocketUpgrade head.bytes = true := by
  obtain ⟨connection, hmem, hnamed, -⟩ := hasks.connection
  obtain ⟨upgrade, hmem', hnamed', -⟩ := hasks.upgrade
  obtain ⟨last, hlast, heq, hlastNamed⟩ := exists_lastNamed hmem hnamed
  obtain ⟨last', hlast', heq', hlastNamed'⟩ := exists_lastNamed hmem' hnamed'
  obtain ⟨token, htoken⟩ := List.exists_mem_of_ne_nil (tokens last) (List.splitOn_ne_nil _ _)
  exact head.isRaw_bytes.mpr ⟨hplain.text,
    ⟨last, heq, token, htoken, hplain.connection last hlast hlastNamed token htoken⟩,
    ⟨last', heq', hplain.upgrade last' hlast' hlastNamed'⟩, hasks.version, hasks.key⟩

/-- **When the verdict is a function of the headers.** The head asks for no
upgrade, or it is plain. -/
theorem functionOfHeaders_iff (head : RawHead) :
    FunctionOfHeaders head ↔ (AsksUpgrade head.lines → head.Plain) := by
  constructor
  · intro hfunction hasks
    have hverdict := hfunction.asks.mpr hasks
    -- every respelling of the head is one for an upgrade
    have hevery : ∀ lines, Respelled head.lines lines → ∃ head' : RawHead,
        head'.lines = lines ∧ isRawWebsocketUpgrade head'.bytes = true := by
      intro lines hrespelled
      obtain ⟨head', hrequest, rfl⟩ := head.exists_respelled hrespelled
      exact ⟨head', rfl, (hfunction.respelled head' hrequest hrespelled).trans hverdict⟩
    refine ⟨(head.isRaw_bytes.mp hverdict).1, ?_, ?_⟩
    · intro line hline hnamed token htoken
      obtain ⟨name, value, rfl, hcolon, hname⟩ := exists_of_named hnamed
      rw [tokens_append hcolon] at htoken
      obtain ⟨lines, hrespelled, hmem, hfree⟩ :=
        exists_respelled_token hcolon hname htoken hline
      obtain ⟨others, hlast⟩ := exists_respelled_last hmem
      obtain ⟨head', hlines, hraw⟩ := hevery _ (.trans hrespelled hlast)
      obtain ⟨-, ⟨last, hlastNamed, found, hfound, hword⟩, -⟩ := head'.isRaw_bytes.mp hraw
      have hconnection : named (name ++ 58 :: token) "connection" = true := by
        rw [named_append hcolon, hname]
      rw [hlines, lastNamed_concat hconnection, Option.some.injEq] at hlastNamed
      rw [← hlastNamed, tokens_append hcolon, List.splitOn_eq_singleton hfree,
        List.mem_singleton] at hfound
      exact hfound ▸ hword
    · intro line hline hnamed
      obtain ⟨others, hlast⟩ := exists_respelled_last hline
      obtain ⟨head', hlines, hraw⟩ := hevery _ hlast
      obtain ⟨-, -, ⟨last, hlastNamed, hvalue⟩, -⟩ := head'.isRaw_bytes.mp hraw
      rw [hlines, lastNamed_concat hnamed, Option.some.injEq] at hlastNamed
      exact hlastNamed ▸ hvalue
  · intro hplain
    have hasks : ∀ head' : RawHead, head'.requestLine = head.requestLine →
        Respelled head.lines head'.lines →
          (isRawWebsocketUpgrade head'.bytes = true ↔ AsksUpgrade head.lines) := by
      intro head' hrequest hrespelled
      constructor
      · intro hraw
        exact hrespelled.asksUpgrade_iff.mpr (RawHead.asksUpgrade_of_isRaw hraw)
      · intro hlines
        exact ((hplain hlines).of_respelled hrequest hrespelled).isRaw
          (hrespelled.asksUpgrade_iff.mp hlines)
    have hself := hasks head rfl (.perm (List.Perm.refl _))
    refine ⟨fun head' hrequest hrespelled => ?_, hself⟩
    rw [Bool.eq_iff_iff, hasks head' hrequest hrespelled, hself]

/-! ## Two Connection lines -/

/-- An upgrade whose Connection line is followed by another one. -/
def keptAliveHead : RawHead where
  requestLine := encodeUtf8 "GET / HTTP/1.1".toList
  lines := [encodeUtf8 "Connection: Upgrade".toList, encodeUtf8 "Connection: keep-alive".toList,
    encodeUtf8 "Upgrade: websocket".toList, encodeUtf8 "Sec-WebSocket-Version: 13".toList,
    encodeUtf8 "Sec-WebSocket-Key: a2V5".toList]
  noBreak := by decide +kernel
  filled := by decide +kernel

theorem keptAlive_not_seen : ¬FunctionOfHeaders keptAliveHead := by
  intro h
  have hasks : AsksUpgrade keptAliveHead.lines := by
    refine ⟨⟨_, List.mem_cons_self, ?_⟩, ?_, ?_, ?_⟩
    · decide +kernel
    · decide +kernel
    · decide +kernel
    · decide +kernel
  have hraw := h.asks.mpr hasks
  revert hraw
  decide +kernel

end Multiway.ProxyCore
