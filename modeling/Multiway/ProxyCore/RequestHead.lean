import Multiway.ProxyCore.ReadSplits

/-!
# Two readings of a request head

`handle_websocket_upgrade` reads the head of an upgrade line by line where the
codec parses it. `RequestHead` is a head as HTTP/1.1 writes it, with the empty
lines a server skips before the request line, and `Conforms` what is used of the
codec: it accepts nothing else, and its request is what the head says. The lines
of such a head are known (`lines_chars`), and from them what either reading
makes of it. `routedAlike_iff`: they agree unless the first and the last Host
header differ, or an empty line hides the request line.
-/

namespace Multiway.ProxyCore

open Multiway.Lib.Text

/-! ## Heads as they are written -/

/-- How a line ends. -/
inductive Eol | crlf | lf
deriving DecidableEq

def Eol.chars : Eol → List Char
  | .crlf => ['\r', '\n']
  | .lf => ['\n']

/-- A header field, with the white space around its value. -/
structure FieldLine where
  name : List Char
  before : List Char
  value : List Char
  after : List Char
  eol : Eol

/-- A request head, with the empty lines before it. -/
structure RequestHead where
  blank : List Eol := []
  method : List Char
  target : List Char
  eol : Eol
  fields : List FieldLine
  last : Eol

/-- Visible ASCII. -/
def isVisible (c : Char) : Bool := 33 ≤ c.toNat && c.toNat ≤ 126

/-- The characters of a token: the visible ones but for the delimiters. -/
def isTchar (c : Char) : Bool :=
  isVisible c && !"\"(),/:;<=>?@[\\]\x7b\x7d".toList.contains c

def isOws (c : Char) : Bool := c == ' ' || c == '\t'

structure FieldLine.WellFormed (field : FieldLine) : Prop where
  nonempty : field.name ≠ []
  name : ∀ c ∈ field.name, isTchar c = true
  before : ∀ c ∈ field.before, isOws c = true
  value : ∀ c ∈ field.value, isVisible c = true ∨ isOws c = true
  head : ∀ c ∈ field.value.head?, isOws c = false
  last : ∀ c ∈ field.value.getLast?, isOws c = false
  after : ∀ c ∈ field.after, isOws c = true

structure RequestHead.WellFormed (head : RequestHead) : Prop where
  hasMethod : head.method ≠ []
  method : ∀ c ∈ head.method, isTchar c = true
  hasTarget : head.target ≠ []
  target : ∀ c ∈ head.target, isVisible c = true
  fields : ∀ field ∈ head.fields, field.WellFormed

def FieldLine.line (field : FieldLine) : List Char :=
  field.name ++ ':' :: (field.before ++ field.value ++ field.after)

def RequestHead.requestLine (head : RequestHead) : List Char :=
  head.method ++ ' ' :: (head.target ++ " HTTP/1.1".toList)

def RequestHead.chars (head : RequestHead) : List Char :=
  head.blank.flatMap Eol.chars ++ (head.requestLine ++ head.eol.chars ++
    (head.fields.flatMap (fun field => field.line ++ field.eol.chars) ++ head.last.chars))

/-- The fields of a head, names in lowercase. -/
def RequestHead.headers (head : RequestHead) : HeaderMap :=
  head.fields.map fun field =>
    (String.ofList (toAsciiLowercase field.name), String.ofList field.value)

/-- The request a head stands for; its header map keeps the values of each name
in order. -/
structure RequestHead.Denotes (http : HttpCrate) (head : RequestHead) (request : Request) :
    Prop where
  method : request.method = String.ofList head.method
  uri : http.parseUri (String.ofList head.target) = some request.uri
  headers : ∀ name, request.headers.values name = head.headers.values name

/-- What is used of the codec: an ASCII head it accepts as HTTP/1.1 is one. -/
def Conforms (http : HttpCrate) (codec : ServerCodec) : Prop :=
  ∀ raw decoded rest, codec raw = some decoded :: rest → decoded.version = .http11 →
    decoded.head <+: raw ∧
      ((∀ b ∈ decoded.head, b < 128) → ∃ head : RequestHead,
        head.WellFormed ∧ encodeUtf8 head.chars = decoded.head ∧ head.Denotes http decoded.request)

/-! ## Characters -/

theorem isVisible_of_isTchar {c : Char} (h : isTchar c = true) : isVisible c = true :=
  (Bool.and_eq_true_iff.mp h).1

theorem ne_colon_of_isTchar {c : Char} (h : isTchar c = true) : c ≠ ':' := by
  rintro rfl
  exact absurd h (by decide)

theorem isWhitespace_of_isVisible {c : Char} (h : isVisible c = true) :
    isWhitespace c = false := by
  simp only [isVisible, Bool.and_eq_true, decide_eq_true_eq] at h
  simp only [isWhitespace, Bool.or_eq_false_iff, Bool.and_eq_false_iff, decide_eq_false_iff_not,
    beq_eq_false_iff_ne]
  omega

theorem isWhitespace_of_isOws {c : Char} (h : isOws c = true) : isWhitespace c = true := by
  simp only [isOws, Bool.or_eq_true, beq_iff_eq] at h
  rcases h with rfl | rfl
  · decide
  · decide

theorem ne_of_isVisible {c d : Char} (h : isVisible c = true) (hd : isVisible d = false) :
    c ≠ d := by
  rintro rfl
  rw [h] at hd
  cases hd

theorem ne_of_isOws {c d : Char} (h : isOws c = true) (hd : isOws d = false) : c ≠ d := by
  rintro rfl
  rw [h] at hd
  cases hd

/-- A token in lowercase is the same to both readings: the Kelvin sign is none. -/
theorem toLowercase_eq {name : List Char} (h : ∀ c ∈ name, isTchar c = true) :
    toLowercase name = toAsciiLowercase name := by
  refine List.map_congr_left fun c hc => if_neg ?_
  exact ne_of_isVisible (isVisible_of_isTchar (h c hc)) (by decide)

/-! ## Lines -/

/-- A character that keeps a text on its line. -/
def NoBreak (cs : List Char) : Prop := ∀ c ∈ cs, isVisible c = true ∨ isOws c = true

theorem NoBreak.notMem {cs : List Char} (h : NoBreak cs) {d : Char} (hvisible : isVisible d = false)
    (hows : isOws d = false) : d ∉ cs := by
  intro hd
  rcases h d hd with hd | hd
  · exact ne_of_isVisible hd hvisible rfl
  · exact ne_of_isOws hd hows rfl

theorem lines_eol {line : List Char} (h : NoBreak line) (eol : Eol) (rest : List Char) :
    lines (line ++ eol.chars ++ rest) = line :: lines rest := by
  have hlf : '\n' ∉ line := h.notMem (by decide) (by decide)
  have hcr : '\r' ∉ line := h.notMem (by decide) (by decide)
  cases eol with
  | lf =>
    rw [Eol.chars, List.append_assoc, List.singleton_append, lines_cons hlf, stripCr_of_notMem hcr]
  | crlf =>
    have hcut : line ++ Eol.crlf.chars ++ rest = (line ++ ['\r']) ++ '\n' :: rest := by
      simp [Eol.chars]
    have hlf' : '\n' ∉ line ++ ['\r'] := by simp [hlf]
    rw [hcut, lines_cons hlf', stripCr_concat]

theorem FieldLine.WellFormed.noBreak {field : FieldLine} (h : field.WellFormed) :
    NoBreak field.line := by
  intro c hc
  simp only [FieldLine.line, List.mem_append, List.mem_cons] at hc
  rcases hc with hc | rfl | (hc | hc) | hc
  · exact .inl (isVisible_of_isTchar (h.name c hc))
  · exact .inl (by decide)
  · exact .inr (h.before c hc)
  · exact h.value c hc
  · exact .inr (h.after c hc)

theorem RequestHead.WellFormed.noBreak {head : RequestHead} (h : head.WellFormed) :
    NoBreak head.requestLine := by
  intro c hc
  simp only [RequestHead.requestLine, List.mem_append, List.mem_cons] at hc
  rcases hc with hc | rfl | hc | hc
  · exact .inl (isVisible_of_isTchar (h.method c hc))
  · exact .inr (by decide)
  · exact .inl (h.target c hc)
  · have hversion : " HTTP/1.1".toList.all (fun c => isVisible c || isOws c) = true := by decide
    simpa using List.all_eq_true.mp hversion c hc

/-- The lines of a head: empty ones, the request line, the fields, and the empty
line at its end. -/
theorem RequestHead.WellFormed.lines_chars {head : RequestHead} (h : head.WellFormed)
    (rest : List Char) :
    lines (head.chars ++ rest) =
      head.blank.map (fun _ => []) ++
        (head.requestLine :: (head.fields.map FieldLine.line ++ [] :: lines rest)) := by
  have hempty : ∀ (eol : Eol) (rest : List Char), lines (eol.chars ++ rest) = [] :: lines rest := by
    intro eol rest
    have hnil : NoBreak [] := fun c hc => absurd hc List.not_mem_nil
    exact lines_eol hnil eol rest
  have hblank : ∀ (blank : List Eol) (rest : List Char),
      lines (blank.flatMap Eol.chars ++ rest) = blank.map (fun _ => []) ++ lines rest := by
    intro blank rest
    induction blank with
    | nil => rfl
    | cons eol blank ih =>
      rw [List.flatMap_cons, List.append_assoc, hempty, ih]
      rfl
  have hfields : ∀ fields : List FieldLine, (∀ field ∈ fields, field.WellFormed) →
      ∀ rest, lines (fields.flatMap (fun field => field.line ++ field.eol.chars) ++ rest) =
        fields.map FieldLine.line ++ lines rest := by
    intro fields hwf rest
    induction fields with
    | nil => rfl
    | cons field fields ih =>
      obtain ⟨hfield, hfields⟩ := List.forall_mem_cons.mp hwf
      rw [List.flatMap_cons, List.append_assoc, lines_eol hfield.noBreak, ih hfields]
      rfl
  rw [RequestHead.chars, List.append_assoc, hblank, List.append_assoc, lines_eol h.noBreak,
    List.append_assoc, hfields head.fields h.fields, hempty]

/-! ## What the line reader makes of them -/

theorem FieldLine.WellFormed.headerField_line {field : FieldLine} (h : field.WellFormed) :
    headerField field.line = some (String.ofList field.name, String.ofList field.value) := by
  have hcolon : ':' ∉ field.name := fun hc => ne_colon_of_isTchar (h.name _ hc) rfl
  have hname : ∀ c ∈ field.name, isWhitespace c = false := fun c hc =>
    isWhitespace_of_isVisible (isVisible_of_isTchar (h.name c hc))
  have htrim : trim field.name = field.name := by
    have hpad := @trim_pad [] field.name [] (by simp) (by simp)
      (fun c hc => hname c (List.mem_of_mem_head? hc))
      (fun c hc => hname c (List.mem_of_getLast? hc))
    simpa using hpad
  have hvalue : ∀ c ∈ field.value, isOws c = false → isWhitespace c = false := by
    intro c hc hows
    rcases h.value c hc with hvisible | hows'
    · exact isWhitespace_of_isVisible hvisible
    · rw [hows] at hows'
      cases hows'
  have htrim' : trim (field.before ++ field.value ++ field.after) = field.value :=
    trim_pad (fun c hc => isWhitespace_of_isOws (h.before c hc))
      (fun c hc => isWhitespace_of_isOws (h.after c hc))
      (fun c hc => hvalue c (List.mem_of_mem_head? hc) (h.head c hc))
      (fun c hc => hvalue c (List.mem_of_getLast? hc) (h.last c hc))
  rw [headerField, FieldLine.line, splitOnce_of_notMem hcolon, Option.map_some]
  dsimp only
  rw [htrim, htrim']

/-- The lines up to the empty one. -/
theorem takeWhile_line {front : List (List Char)} (h : ∀ line ∈ front, NoBreak line ∧ line ≠ [])
    (more : List (List Char)) :
    (front ++ [] :: more).takeWhile (fun line => !(line.isEmpty || line == ['\r'])) = front := by
  have hpos : ∀ line ∈ front, (!(line.isEmpty || line == ['\r'])) = true := by
    intro line hline
    obtain ⟨hbreak, hne⟩ := h line hline
    have hcr : line ≠ ['\r'] := by
      rintro rfl
      exact hbreak.notMem (d := '\r') (by decide) (by decide) List.mem_cons_self
    simp [hne, hcr]
  rw [List.takeWhile_append_of_pos hpos, List.takeWhile_cons_of_neg (by simp), List.append_nil]

theorem FieldLine.line_ne_nil (field : FieldLine) : field.line ≠ [] := by simp [FieldLine.line]

theorem RequestHead.requestLine_ne_nil (head : RequestHead) : head.requestLine ≠ [] := by
  simp [RequestHead.requestLine]

/-- One empty line makes a header line of the request line, two hide the head. -/
theorem RequestHead.WellFormed.headerLines_chars {head : RequestHead} (h : head.WellFormed)
    (rest : List Char) :
    headerLines (head.chars ++ rest) =
      match head.blank with
      | [] => head.fields.map FieldLine.line
      | [_] => head.requestLine :: head.fields.map FieldLine.line
      | _ => [] := by
  have hfields : ∀ line ∈ head.fields.map FieldLine.line, NoBreak line ∧ line ≠ [] := by
    intro line hline
    obtain ⟨field, hfield, rfl⟩ := List.mem_map.mp hline
    exact ⟨(h.fields field hfield).noBreak, field.line_ne_nil⟩
  rw [headerLines, h.lines_chars]
  rcases head.blank with _ | ⟨eol, _ | ⟨eol', blank⟩⟩
  · exact takeWhile_line hfields _
  · rw [List.map_singleton, List.singleton_append, List.drop_one, List.tail_cons,
      ← List.cons_append]
    refine takeWhile_line ?_ _
    exact List.forall_mem_cons.mpr ⟨⟨h.noBreak, head.requestLine_ne_nil⟩, hfields⟩
  · rfl

theorem RequestHead.WellFormed.filterMap_fields {head : RequestHead} (h : head.WellFormed) :
    (head.fields.map FieldLine.line).filterMap headerField =
      head.fields.map fun field => (String.ofList field.name, String.ofList field.value) := by
  rw [List.filterMap_map, ← List.filterMap_eq_map]
  refine List.filterMap_congr fun field hfield => ?_
  exact (h.fields field hfield).headerField_line

/-- The header field a request line is taken for. -/
def RequestHead.strayField (head : RequestHead) : List (String × String) :=
  (headerField head.requestLine).toList.map fun (name, value) =>
    (String.ofList (toLowercase name.toList), value)

theorem RequestHead.WellFormed.rawHeaders_chars {head : RequestHead} (h : head.WellFormed)
    (rest : List Char) :
    rawHeaders (head.chars ++ rest) =
      match head.blank with
      | [] => head.headers
      | [_] => head.strayField ++ head.headers
      | _ => [] := by
  have hheaders : (head.fields.map fun field =>
      (String.ofList field.name, String.ofList field.value)).map (fun (name, value) =>
        (String.ofList (toLowercase name.toList), value)) = head.headers := by
    rw [List.map_map, RequestHead.headers]
    refine List.map_congr_left fun field hfield => ?_
    simp [toLowercase_eq (h.fields field hfield).name]
  rw [rawHeaders, headerFields, h.headerLines_chars]
  rcases head.blank with _ | ⟨eol, _ | ⟨eol', blank⟩⟩
  · simp only
    rw [h.filterMap_fields, hheaders]
  · simp only
    rw [List.filterMap_cons, RequestHead.strayField]
    cases headerField head.requestLine with
    | none => simpa [h.filterMap_fields] using hheaders
    | some field => simpa [h.filterMap_fields] using hheaders
  · rfl

theorem RequestHead.WellFormed.splitWhitespace_requestLine {head : RequestHead}
    (h : head.WellFormed) :
    splitWhitespace head.requestLine = [head.method, head.target, "HTTP/1.1".toList] := by
  have hmethod : ∀ c ∈ head.method, isWhitespace c = false := fun c hc =>
    isWhitespace_of_isVisible (isVisible_of_isTchar (h.method c hc))
  have htarget : ∀ c ∈ head.target, isWhitespace c = false := fun c hc =>
    isWhitespace_of_isVisible (h.target c hc)
  have hversion : head.target ++ " HTTP/1.1".toList = head.target ++ ' ' :: "HTTP/1.1".toList := rfl
  have hlast : splitWhitespace "HTTP/1.1".toList = ["HTTP/1.1".toList] := by decide
  rw [RequestHead.requestLine, splitWhitespace_cons h.hasMethod hmethod (by decide), hversion,
    splitWhitespace_cons h.hasTarget htarget (by decide), hlast]

/-- The routing metadata of a head; behind an empty line there is no request line. -/
theorem RequestHead.WellFormed.textRoutingMeta_chars {head : RequestHead} (h : head.WellFormed)
    (http : HttpCrate) (uris : UriParts) (rest : List Char) :
    textRoutingMeta http uris (head.chars ++ rest) =
      if head.blank = [] then
        (http.parseUri (String.ofList head.target)).map fun uri =>
          { host := rawHost (rawHeaders (head.chars ++ rest))
            path := uris.path uri
            method := String.ofList head.method
            headers := rawHeaders (head.chars ++ rest)
            queryParams := queryPairs (uris.query uri) }
      else
        (http.parseUri "/").map fun uri =>
          { host := rawHost (rawHeaders (head.chars ++ rest))
            path := uris.path uri
            method := "GET"
            headers := rawHeaders (head.chars ++ rest)
            queryParams := queryPairs (uris.query uri) } := by
  rw [textRoutingMeta, h.lines_chars]
  rcases hblank : head.blank with _ | ⟨eol, blank⟩
  · rw [if_pos rfl, List.map_nil, List.nil_append, List.headD_cons, h.splitWhitespace_requestLine]
    rfl
  · rw [if_neg (List.cons_ne_nil eol blank)]
    rfl

/-! ## What the codec makes of them -/

/-- The last Host header wins. -/
theorem rawHost_eq (headers : HeaderMap) :
    rawHost headers = (headers.values "host").getLast?.map withoutPort := by
  have hfold : ∀ (headers : HeaderMap) (seen : Option String),
      headers.foldl (fun host (name, value) =>
        if name == "host" then some (withoutPort value) else host) seen =
        ((headers.values "host").getLast?.map withoutPort).or seen := by
    intro headers
    induction headers with
    | nil => exact fun seen => rfl
    | cons entry headers ih =>
      obtain ⟨name, value⟩ := entry
      intro seen
      rw [List.foldl_cons, ih, HeaderMap.values_cons]
      by_cases hname : name = "host"
      · rw [if_pos hname, List.getLast?_cons]
        cases (HeaderMap.values headers "host").getLast? with
        | none => simp [hname]
        | some last => simp
      · simp [hname]
  rw [rawHost, hfold, Option.or_none]

theorem toStr_of_visible {value : List Char}
    (h : ∀ c ∈ value, isVisible c = true ∨ isOws c = true) :
    toStr (String.ofList value) = some (String.ofList value) := by
  refine if_pos ?_
  rw [String.toList_ofList, List.all_eq_true]
  intro c hc
  rcases h c hc with hc | hc
  · simp only [isVisible, Bool.and_eq_true, decide_eq_true_eq] at hc
    have hle : ' ' ≤ c ∧ c ≤ '~' := by
      rw [Char.le_def, Char.le_def, UInt32.le_iff_toNat_le, UInt32.le_iff_toNat_le]
      exact ⟨by change 32 ≤ c.toNat; omega, hc.2⟩
    simp [hle]
  · simp only [isOws, Bool.or_eq_true, beq_iff_eq] at hc
    rcases hc with rfl | rfl
    · decide
    · decide

/-- Every value of a parsed ASCII head is text. -/
theorem RequestHead.Denotes.toStr_eq {http : HttpCrate} {head : RequestHead} {request : Request}
    (h : head.Denotes http request) (hwf : head.WellFormed) {name value : String}
    (hmem : (name, value) ∈ request.headers) : toStr value = some value := by
  have hvalue : value ∈ request.headers.values name := by
    simp only [HeaderMap.values, List.mem_map, List.mem_filter]
    exact ⟨(name, value), ⟨hmem, beq_self_eq_true name⟩, rfl⟩
  rw [h.headers] at hvalue
  simp only [HeaderMap.values, List.mem_map, List.mem_filter] at hvalue
  obtain ⟨entry, ⟨hentry, -⟩, rfl⟩ := hvalue
  obtain ⟨field, hfield, rfl⟩ := List.mem_map.mp hentry
  exact toStr_of_visible (hwf.fields field hfield).value

theorem RequestHead.Denotes.extractRequestMeta_eq {http : HttpCrate} {head : RequestHead}
    {request : Request} (h : head.Denotes http request) (hwf : head.WellFormed)
    (uris : UriParts) :
    extractRequestMeta uris request =
      { host := (request.headers.values "host").head?.map withoutPort
        path := uris.path request.uri
        method := request.method
        headers := request.headers
        queryParams := queryPairs (uris.query request.uri) } := by
  have hheaders : request.headers.map (fun (name, value) => (name, (toStr value).getD "")) =
      request.headers := by
    refine (List.map_congr_left fun entry hentry => ?_).trans (List.map_id _)
    simp [h.toStr_eq hwf hentry]
  have hhost : ((request.headers.find? fun (name, _) => name == "host").bind fun (_, value) =>
      toStr value) = (request.headers.values "host").head? := by
    rw [← find?_host]
    cases hfind : request.headers.find? fun (name, _) => name == "host" with
    | none => rfl
    | some entry => simp [h.toStr_eq hwf (List.mem_of_find?_eq_some hfind)]
  rw [extractRequestMeta, hheaders, hhost]

/-! ## Routing alike -/

/-- The same metadata, up to the order of the headers. -/
structure MetaAlike (a b : RequestMeta) : Prop where
  host : a.host = b.host
  path : a.path = b.path
  method : a.method = b.method
  headers : a.headers.Perm b.headers
  queryParams : a.queryParams = b.queryParams

/-- Routing does not look at the order of the headers. -/
theorem MetaAlike.route_eq {a b : RequestMeta} (h : MetaAlike a b)
    (isMatch : String → String → Bool) (config : ProxyConfig) (listenerName : String) :
    route isMatch config listenerName a = route isMatch config listenerName b := by
  obtain ⟨hhost, hpath, hmethod, hheaders, hquery⟩ := h
  have hany : ∀ hm : HeaderMatch, headerMatches isMatch hm a.headers =
      headerMatches isMatch hm b.headers := fun hm => hheaders.any_eq
  have hsingle : ∀ routeMatch, singleMatchApplies isMatch routeMatch a =
      singleMatchApplies isMatch routeMatch b := by
    intro routeMatch
    simp only [singleMatchApplies, hpath, hmethod, hquery, hany]
  have hrule : ∀ rule, ruleMatches isMatch rule a = ruleMatches isMatch rule b := by
    intro rule
    simp only [ruleMatches, hsingle]
  have hconsider : considerRule isMatch a = considerRule isMatch b := by
    funext best rule
    simp only [considerRule, hrule]
  have hredirect : ∀ filters, firstRedirect a filters = firstRedirect b filters := by
    intro filters
    induction filters with
    | nil => rfl
    | cons filter filters ih =>
      cases filter with
      | requestRedirect => simp only [firstRedirect, buildRedirectLocation, hhost, hpath]
      | _ => simpa only [firstRedirect] using ih
  simp only [route, hhost, hconsider, buildDecision, hredirect]

/-- The two readings of a head give the same metadata, and the same decision. -/
def RoutedAlike (http : HttpCrate) (uris : UriParts) (raw : List UInt8) (request : Request) :
    Prop :=
  ∃ routingMeta, rawRoutingMeta http uris raw = some routingMeta ∧
    MetaAlike routingMeta (extractRequestMeta uris request) ∧
    ∀ isMatch config listenerName, route isMatch config listenerName routingMeta =
      route isMatch config listenerName (extractRequestMeta uris request)

/-- The first and the last Host header name one host; and if the head starts
with an empty line, its request line says what none says, and is taken for no
header. -/
structure ReadAlike (uris : UriParts) (raw : List UInt8) (request : Request) : Prop where
  host : (request.headers.values "host").getLast?.map withoutPort =
    (request.headers.values "host").head?.map withoutPort
  blank : ∀ text, fromUtf8 raw = some text → (lines text).head? = some [] →
    request.method = "GET" ∧ uris.path request.uri = "/" ∧ uris.query request.uri = none ∧
      ':' ∉ ((lines text)[1]?).getD []

theorem queryPairs_eq_nil {query : Option String} : queryPairs query = [] ↔ query = none := by
  cases query with
  | none => simp [queryPairs]
  | some q => simp [queryPairs, List.splitOn_ne_nil]

theorem headerField_eq_none {line : List Char} : headerField line = none ↔ ':' ∉ line := by
  constructor
  · intro h hcolon
    obtain ⟨before, after, rfl, hbefore⟩ := List.eq_append_cons_of_mem hcolon
    rw [headerField, splitOnce_of_notMem hbefore] at h
    cases h
  · intro h
    rw [headerField, splitOnce_eq_none h]
    rfl

theorem RequestHead.strayField_eq_nil {head : RequestHead} :
    head.strayField = [] ↔ ':' ∉ head.requestLine := by
  rw [← headerField_eq_none, RequestHead.strayField, List.map_eq_nil_iff, Option.toList_eq_nil_iff]

/-- No head with two empty lines before it is taken for an upgrade. -/
theorem RequestHead.WellFormed.blank_of_isUpgradeText {head : RequestHead} (h : head.WellFormed)
    {rest : List Char} (hup : isUpgradeText (head.chars ++ rest) = true) :
    head.blank = [] ∨ ∃ eol, head.blank = [eol] := by
  rcases hblank : head.blank with _ | ⟨eol, _ | ⟨eol', blank⟩⟩
  · exact .inl rfl
  · exact .inr ⟨eol, rfl⟩
  · -- the second one ends the headers before there is any
    rw [isUpgradeText, headerFields, h.headerLines_chars, hblank] at hup
    simp at hup

/-- `ReadAlike` in terms of the head the bytes are. -/
structure RequestHead.ReadAlike (uris : UriParts) (head : RequestHead) (request : Request) :
    Prop where
  host : (request.headers.values "host").getLast?.map withoutPort =
    (request.headers.values "host").head?.map withoutPort
  blank : head.blank ≠ [] → request.method = "GET" ∧ uris.path request.uri = "/" ∧
    uris.query request.uri = none ∧ ':' ∉ head.requestLine

section
variable {http : HttpCrate} {uris : UriParts} {head : RequestHead} {request : Request}
  {rest : List Char}

theorem RequestHead.Denotes.perm_headers (hdenotes : head.Denotes http request) :
    head.headers.Perm request.headers :=
  HeaderMap.perm_of_values fun name => (hdenotes.headers name).symm

theorem RequestHead.Denotes.rawHost_headers (hdenotes : head.Denotes http request) :
    rawHost head.headers = (request.headers.values "host").getLast?.map withoutPort := by
  rw [rawHost_eq, hdenotes.headers]

/-- With no empty line before the head only its Host headers can make a difference. -/
theorem RequestHead.WellFormed.metaAlike_iff_of_nil (h : head.WellFormed)
    (hdenotes : head.Denotes http request) (hblank : head.blank = []) :
    (∃ routingMeta, textRoutingMeta http uris (head.chars ++ rest) = some routingMeta ∧
        MetaAlike routingMeta (extractRequestMeta uris request)) ↔
      (request.headers.values "host").getLast?.map withoutPort =
        (request.headers.values "host").head?.map withoutPort := by
  rw [h.textRoutingMeta_chars, h.rawHeaders_chars, hdenotes.extractRequestMeta_eq h]
  simp only [hblank, if_true, hdenotes.uri, Option.map_some, Option.some.injEq, exists_eq_left',
    hdenotes.rawHost_headers]
  constructor
  · intro halike
    exact halike.host
  · intro heq
    exact ⟨heq, rfl, hdenotes.method.symm, hdenotes.perm_headers, rfl⟩

/-- Behind an empty line the raw reading is the one of a request line that is
not there, and of a header if the one that is there has a colon. -/
theorem RequestHead.WellFormed.metaAlike_iff_of_singleton
    (hroot : ∃ uri, http.parseUri "/" = some uri ∧ uris.path uri = "/" ∧ uris.query uri = none)
    (h : head.WellFormed) (hdenotes : head.Denotes http request) {eol : Eol}
    (hblank : head.blank = [eol]) :
    (∃ routingMeta, textRoutingMeta http uris (head.chars ++ rest) = some routingMeta ∧
        MetaAlike routingMeta (extractRequestMeta uris request)) ↔
      (request.headers.values "host").getLast?.map withoutPort =
          (request.headers.values "host").head?.map withoutPort ∧
        request.method = "GET" ∧ uris.path request.uri = "/" ∧ uris.query request.uri = none ∧
          ':' ∉ head.requestLine := by
  obtain ⟨uri, hparse, hpath, hquery⟩ := hroot
  have hne : ¬ [eol] = [] := List.cons_ne_nil eol []
  rw [h.textRoutingMeta_chars, h.rawHeaders_chars, hdenotes.extractRequestMeta_eq h]
  simp only [hblank, hne, if_false, hparse, Option.map_some, Option.some.injEq, exists_eq_left',
    hpath, hquery]
  constructor
  · intro halike
    obtain ⟨hhost, hpath', hmethod, hheaders, hquery'⟩ := halike
    -- as many headers on both sides, so the request line is none of them
    have hstray : head.strayField = [] := by
      have hheaders : (head.strayField ++ head.headers).Perm request.headers := hheaders
      have hlen := hheaders.length_eq
      rw [List.length_append, hdenotes.perm_headers.length_eq] at hlen
      exact List.length_eq_zero_iff.mp (by omega)
    rw [hstray, List.nil_append, hdenotes.rawHost_headers] at hhost
    exact ⟨hhost, hmethod.symm, hpath'.symm, queryPairs_eq_nil.mp hquery'.symm,
      RequestHead.strayField_eq_nil.mp hstray⟩
  · intro hsame
    obtain ⟨heq, hmethod, hpath', hquery', hcolon⟩ := hsame
    have hstray := RequestHead.strayField_eq_nil.mpr hcolon
    refine ⟨?_, hpath'.symm, hmethod.symm, ?_, ?_⟩
    · rw [hstray, List.nil_append, hdenotes.rawHost_headers, heq]
    · rw [hstray]
      exact hdenotes.perm_headers
    · rw [hquery']

/-- What is left to compare once the codec's reading of a head is known. -/
theorem RequestHead.WellFormed.metaAlike_iff
    (hroot : ∃ uri, http.parseUri "/" = some uri ∧ uris.path uri = "/" ∧ uris.query uri = none)
    (h : head.WellFormed) (hdenotes : head.Denotes http request)
    (hup : isUpgradeText (head.chars ++ rest) = true) :
    (∃ routingMeta, textRoutingMeta http uris (head.chars ++ rest) = some routingMeta ∧
        MetaAlike routingMeta (extractRequestMeta uris request)) ↔
      head.ReadAlike uris request := by
  rcases h.blank_of_isUpgradeText hup with hblank | ⟨eol, hblank⟩
  · rw [h.metaAlike_iff_of_nil hdenotes hblank]
    exact ⟨fun hhost => ⟨hhost, absurd hblank⟩, fun h => h.host⟩
  · have hne : head.blank ≠ [] := by simp [hblank]
    rw [h.metaAlike_iff_of_singleton hroot hdenotes hblank]
    exact ⟨fun halike => ⟨halike.1, fun _ => halike.2⟩, fun h => ⟨h.host, h.blank hne⟩⟩

/-- The condition read off the bytes is the one on the head they are. -/
theorem RequestHead.WellFormed.readAlike_iff (h : head.WellFormed) {raw : List UInt8}
    (htext : fromUtf8 raw = some (head.chars ++ rest))
    (hup : isUpgradeText (head.chars ++ rest) = true) :
    Multiway.ProxyCore.ReadAlike uris raw request ↔ head.ReadAlike uris request := by
  have hlines := h.lines_chars rest
  have hblank : (∀ text, fromUtf8 raw = some text → (lines text).head? = some [] →
      request.method = "GET" ∧ uris.path request.uri = "/" ∧ uris.query request.uri = none ∧
        ':' ∉ ((lines text)[1]?).getD []) ↔
      (head.blank ≠ [] → request.method = "GET" ∧ uris.path request.uri = "/" ∧
        uris.query request.uri = none ∧ ':' ∉ head.requestLine) := by
    simp only [htext, Option.some.injEq, forall_eq']
    rcases h.blank_of_isUpgradeText hup with hblank | ⟨eol, hblank⟩
    · simp [hlines, hblank, head.requestLine_ne_nil]
    · simp [hlines, hblank]
  constructor
  · intro halike
    obtain ⟨hhost, hread⟩ := halike
    exact ⟨hhost, hblank.mp hread⟩
  · intro halike
    obtain ⟨hhost, hread⟩ := halike
    exact ⟨hhost, hblank.mpr hread⟩

end

/-- **When the two readings agree.** -/
theorem routedAlike_iff {http : HttpCrate} {uris : UriParts} {codec : ServerCodec}
    (hcodec : Conforms http codec)
    (hroot : ∃ uri, http.parseUri "/" = some uri ∧ uris.path uri = "/" ∧ uris.query uri = none)
    {raw : List UInt8} {decoded : Decoded} {rest : List (Option Decoded)}
    (haccepts : codec raw = some decoded :: rest) (hversion : decoded.version = .http11)
    (hascii : ∀ b ∈ decoded.head, b < 128) (hup : isRawWebsocketUpgrade raw = true) :
    RoutedAlike http uris raw decoded.request ↔ ReadAlike uris raw decoded.request := by
  obtain ⟨⟨behind, rfl⟩, hhead⟩ := hcodec raw decoded rest haccepts hversion
  obtain ⟨head, hwf, hchars, hdenotes⟩ := hhead hascii
  obtain ⟨text, htext, hupText⟩ := (Option.any_eq_true _ _).mp hup
  obtain ⟨back, rfl⟩ : ∃ back, text = head.chars ++ back := by
    rw [← hchars, fromUtf8_append, Option.map_eq_some_iff] at htext
    obtain ⟨back, -, rfl⟩ := htext
    exact ⟨back, rfl⟩
  have hraw : rawRoutingMeta http uris (decoded.head ++ behind) =
      textRoutingMeta http uris (head.chars ++ back) := by
    rw [rawRoutingMeta, htext]
    rfl
  rw [hwf.readAlike_iff htext hupText, ← hwf.metaAlike_iff hroot hdenotes hupText, RoutedAlike,
    hraw]
  constructor
  · intro hrouted
    obtain ⟨routingMeta, hmeta, halike, -⟩ := hrouted
    exact ⟨routingMeta, hmeta, halike⟩
  · intro hrouted
    obtain ⟨routingMeta, hmeta, halike⟩ := hrouted
    exact ⟨routingMeta, hmeta, halike, halike.route_eq⟩

/-! ## Two Host headers -/

def fieldLine (name value : String) : FieldLine := ⟨name.toList, [' '], value.toList, [], .crlf⟩

/-- The head of an upgrade with a Host header for each of `hosts`. -/
def upgradeFor (hosts : List String) : RequestHead where
  method := "GET".toList
  target := "/ws".toList
  eol := .crlf
  fields := hosts.map (fieldLine "Host") ++
    [fieldLine "Connection" "Upgrade", fieldLine "Upgrade" "websocket",
      fieldLine "Sec-WebSocket-Version" "13", fieldLine "Sec-WebSocket-Key" "dGhl"]
  last := .crlf

def RequestHead.request (head : RequestHead) : Request where
  method := String.ofList head.method
  uri := String.ofList head.target
  headers := head.headers
  payload := .none

/-- A codec that knows one head. -/
def codecOf (head : RequestHead) : ServerCodec := fun raw =>
  if raw = encodeUtf8 head.chars then [some ⟨head.request, .http11, raw⟩] else []

theorem codecOf_self (head : RequestHead) :
    codecOf head (encodeUtf8 head.chars) =
      [some ⟨head.request, .http11, encodeUtf8 head.chars⟩] := if_pos rfl

/-- Path and query of a URI that has nothing else. -/
def originForm : UriParts where
  path uri := String.ofList (uri.toList.takeWhile (· != '?'))
  query uri := (splitOnce '?' uri.toList).map fun (_, query) => String.ofList query

theorem conforms_codecOf {head : RequestHead} (h : head.WellFormed) :
    Conforms ⟨some, some, some⟩ (codecOf head) := by
  intro raw decoded rest haccepts _
  unfold codecOf at haccepts
  split at haccepts
  · rename_i hraw
    obtain ⟨hdecoded, -⟩ := List.cons.inj haccepts
    obtain rfl := Option.some.inj hdecoded
    exact ⟨List.prefix_refl raw, fun _ => ⟨head, h, hraw.symm, rfl, rfl, fun _ => rfl⟩⟩
  · cases haccepts

theorem wellFormed_fieldLine {name value : String}
    (hname : name.toList ≠ [] ∧ name.toList.all isTchar = true)
    (hvalue : value.toList.all isVisible = true) : (fieldLine name value).WellFormed := by
  rw [List.all_eq_true] at hname hvalue
  have hows : ∀ c ∈ value.toList, isOws c = false := by
    intro c hc
    rw [Bool.eq_false_iff]
    intro h
    simp only [isOws, Bool.or_eq_true, beq_iff_eq] at h
    rcases h with rfl | rfl
    · exact absurd (hvalue _ hc) (by decide)
    · exact absurd (hvalue _ hc) (by decide)
  refine ⟨hname.1, hname.2, by simp [fieldLine, isOws], ?_, ?_, ?_, by simp [fieldLine]⟩
  · exact fun c hc => .inl (hvalue c hc)
  · exact fun c hc => hows c (List.mem_of_mem_head? hc)
  · exact fun c hc => hows c (List.mem_of_getLast? hc)

theorem wellFormed_upgradeFor {hosts : List String}
    (h : ∀ host ∈ hosts, host.toList.all isVisible = true) : (upgradeFor hosts).WellFormed where
  hasMethod := List.cons_ne_nil 'G' _
  method := by
    have hmethod : "GET".toList.all isTchar = true := by decide
    exact List.all_eq_true.mp hmethod
  hasTarget := List.cons_ne_nil '/' _
  target := by
    have htarget : "/ws".toList.all isVisible = true := by decide
    exact List.all_eq_true.mp htarget
  fields := by
    intro field hfield
    rcases List.mem_append.mp hfield with hfield | hfield
    · obtain ⟨host, hhost, rfl⟩ := List.mem_map.mp hfield
      exact wellFormed_fieldLine (by decide) (h host hhost)
    · simp only [List.mem_cons, List.not_mem_nil, or_false] at hfield
      rcases hfield with rfl | rfl | rfl | rfl
      · exact wellFormed_fieldLine (by decide) (by decide)
      · exact wellFormed_fieldLine (by decide) (by decide)
      · exact wellFormed_fieldLine (by decide) (by decide)
      · exact wellFormed_fieldLine (by decide) (by decide)

theorem root_originForm : ∃ uri, (some "/" : Option String) = some uri ∧
    originForm.path uri = "/" ∧ originForm.query uri = none :=
  ⟨"/", rfl, by decide, by decide⟩

theorem wellFormed_oneHost : (upgradeFor ["a.com"]).WellFormed := wellFormed_upgradeFor (by decide)

theorem isUpgradeText_oneHost : isUpgradeText (upgradeFor ["a.com"]).chars = true := by
  decide +kernel

theorem isRaw_oneHost :
    isRawWebsocketUpgrade (encodeUtf8 (upgradeFor ["a.com"]).chars) = true := by
  rw [isRawWebsocketUpgrade, fromUtf8_encodeUtf8, Option.any_some, isUpgradeText_oneHost]

/-- One Host header is read alike. -/
theorem oneHost_routedAlike :
    RoutedAlike ⟨some, some, some⟩ originForm (encodeUtf8 (upgradeFor ["a.com"]).chars)
      (upgradeFor ["a.com"]).request := by
  have hwf := wellFormed_oneHost
  have htext := isUpgradeText_oneHost
  have hascii : (encodeUtf8 (upgradeFor ["a.com"]).chars).all (· < 128) = true := by
    decide +kernel
  refine (routedAlike_iff (conforms_codecOf hwf) root_originForm (codecOf_self _) rfl
    (by simpa using hascii) isRaw_oneHost).mpr ?_
  rw [← List.append_nil (upgradeFor ["a.com"]).chars] at htext ⊢
  exact (hwf.readAlike_iff (fromUtf8_encodeUtf8 _) htext).mpr
    ⟨by decide, fun h => absurd rfl h⟩

/-- Of two Host headers one path routes by the first and the other by the last. -/
theorem twoHosts_not_alike :
    ¬ ∀ (http : HttpCrate) (uris : UriParts) (codec : ServerCodec), Conforms http codec →
      (∃ uri, http.parseUri "/" = some uri ∧ uris.path uri = "/" ∧ uris.query uri = none) →
      ∀ (raw : List UInt8) (decoded : Decoded) (rest : List (Option Decoded)),
        codec raw = some decoded :: rest → decoded.version = .http11 →
        (∀ b ∈ decoded.head, b < 128) → isRawWebsocketUpgrade raw = true →
        RoutedAlike http uris raw decoded.request := by
  intro h
  have hwf : (upgradeFor ["a.com", "b.com"]).WellFormed := wellFormed_upgradeFor (by decide)
  have htext : isUpgradeText (upgradeFor ["a.com", "b.com"]).chars = true := by decide +kernel
  have hascii : (encodeUtf8 (upgradeFor ["a.com", "b.com"]).chars).all (· < 128) = true := by
    decide +kernel
  have hup : isRawWebsocketUpgrade (encodeUtf8 (upgradeFor ["a.com", "b.com"]).chars) = true := by
    rw [isRawWebsocketUpgrade, fromUtf8_encodeUtf8, Option.any_some, htext]
  obtain ⟨routingMeta, hmeta, halike, -⟩ := h _ originForm _ (conforms_codecOf hwf) root_originForm
    _ _ _ (codecOf_self _) rfl (by simpa using hascii) hup
  rw [rawRoutingMeta, fromUtf8_encodeUtf8, Option.bind_some] at hmeta
  rw [← List.append_nil (upgradeFor ["a.com", "b.com"]).chars] at htext hmeta
  obtain ⟨hhost, -⟩ := (hwf.metaAlike_iff root_originForm ⟨rfl, rfl, fun _ => rfl⟩ htext).mp
    ⟨routingMeta, hmeta, halike⟩
  exact absurd hhost (by decide)

end Multiway.ProxyCore
