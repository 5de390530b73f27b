import Multiway.ProxyCore.Upgrade

/-!
# Hosts, ports and hostnames

`extract_request_meta` cuts a port off the Host header when what follows the
last colon is all digits, `hostname_matches` whatever follows the last colon
outside of brackets. Of a host that is one the first leaves what the second
leaves alone (`routes_without_port`), and there `hostname_matches` is the
comparison of labels it is documented to be (`hostnameMatches_iff`).
-/

namespace Multiway.ProxyCore

open Multiway.Lib.Text

/-! ## Ports -/

/-- A registered name or an IPv4 address, or an IPv6 literal in brackets. -/
def IsHost (host : List Char) : Prop := ':' ∉ host ∨ ∃ literal, host = '[' :: (literal ++ [']'])

section
variable {host port : String}

theorem stripPort_eq_self (h : ':' ∉ host.toList ∨ host.toList.head? = some '[') :
    stripPort host = host := by
  unfold stripPort
  split
  · rfl
  next cs hbracket =>
    have hcolon : ':' ∉ host.toList := by
      refine h.resolve_right fun hhead => ?_
      obtain ⟨rest, hrest⟩ := List.head?_eq_some_iff.mp hhead
      exact hbracket rest hrest
    rw [rsplitOnce_of_notMem hcolon]

theorem IsHost.stripPort_eq (h : IsHost host.toList) : stripPort host = host := by
  refine stripPort_eq_self (h.imp_right fun hliteral => ?_)
  obtain ⟨literal, hhost⟩ := hliteral
  rw [hhost]
  rfl

/-- Behind the last colon of a literal there is the closing bracket. -/
theorem IsHost.withoutPort_eq (h : IsHost host.toList) : withoutPort host = host := by
  unfold withoutPort
  by_cases hcolon : ':' ∈ host.toList
  · obtain ⟨literal, hliteral⟩ := h.resolve_left (not_not.mpr hcolon)
    obtain ⟨before, after, hsplit, hafter⟩ := exists_last hcolon
    rw [hsplit, rsplitOnce_append_cons hafter]
    refine if_neg fun hdigits => ?_
    have hlast : (':' :: after).getLast? = some ']' := by
      have hends : host.toList.getLast? = some ']' := by
        rw [hliteral, ← List.cons_append]
        exact List.getLast?_concat
      rwa [hsplit, List.getLast?_append_of_ne_nil _ (List.cons_ne_nil _ _)] at hends
    rcases List.mem_cons.mp (List.mem_of_getLast? hlast) with hbracket | hbracket
    · exact absurd hbracket (by decide)
    · exact absurd (List.all_eq_true.mp hdigits _ hbracket) (by decide)
  · rw [rsplitOnce_of_notMem hcolon]

theorem withoutPort_append (hport : port.toList.all Char.isDigit = true) :
    withoutPort (host ++ ":" ++ port) = host := by
  have hcolon : ':' ∉ port.toList := fun hmem =>
    absurd (List.all_eq_true.mp hport _ hmem) (by decide)
  have hsplit : (host ++ ":" ++ port).toList = host.toList ++ ':' :: port.toList := by
    simp [String.toList_append]
  unfold withoutPort
  rw [hsplit, rsplitOnce_append_cons hcolon]
  dsimp only
  rw [if_pos hport, String.ofList_toList]

theorem visible_of_isDigit {c : Char} (h : c.isDigit = true) :
    (c == '\t' || (decide (' ' ≤ c) && decide (c ≤ '~'))) = true := by
  rw [Char.isDigit_iff_toNat] at h
  have hspace : ' ' ≤ c := by
    rw [Char.le_def, UInt32.le_iff_toNat_le]
    exact le_trans (by decide) h.1
  have htilde : c ≤ '~' := by
    rw [Char.le_def, UInt32.le_iff_toNat_le]
    exact le_trans h.2 (by decide)
  simp [hspace, htilde]

/-- A port is text, so it does not matter to what is in front of it. -/
theorem toStr_append (hport : port.toList.all Char.isDigit = true) :
    toStr (host ++ ":" ++ port) = (toStr host).map fun host => host ++ ":" ++ port := by
  have hvisible : port.toList.all
      (fun c => c == '\t' || (decide (' ' ≤ c) && decide (c ≤ '~'))) = true := by
    rw [List.all_eq_true]
    intro c hc
    exact visible_of_isDigit (List.all_eq_true.mp hport c hc)
  have hcolon : ":".toList.all
      (fun c => c == '\t' || (decide (' ' ≤ c) && decide (c ≤ '~'))) = true := by decide
  unfold toStr
  rw [String.toList_append, String.toList_append, List.all_append, List.all_append, hvisible,
    hcolon, Bool.and_true, Bool.and_true]
  split <;> rfl

/-- **A port makes no difference.** Two requests for one host, with and without
a port, have the same host for the routing; every route answers them alike, and
`hostname_matches` has nothing more to cut off. -/
theorem routes_without_port (h : IsHost host.toList) (hport : port.toList.all Char.isDigit = true)
    (uris : UriParts) {plain withPort : Request}
    (hplain : (plain.headers.values "host").head? = some host)
    (hwithPort : (withPort.headers.values "host").head? = some (host ++ ":" ++ port)) :
    (extractRequestMeta uris withPort).host = (extractRequestMeta uris plain).host ∧
      (∀ route, hostnameMatches route (extractRequestMeta uris withPort).host =
        hostnameMatches route (extractRequestMeta uris plain).host) ∧
      ∀ value, (extractRequestMeta uris withPort).host = some value → stripPort value = value := by
  have hhost : (extractRequestMeta uris plain).host = (toStr host).map withoutPort := by
    rw [host_extractRequestMeta, hplain, Option.bind_some]
  have hsame : (extractRequestMeta uris withPort).host = (extractRequestMeta uris plain).host := by
    rw [hhost, host_extractRequestMeta, hwithPort, Option.bind_some, toStr_append hport]
    cases htext : toStr host with
    | none => rfl
    | some text =>
      obtain rfl : host = text := Option.some.inj (Option.ite_none_right_eq_some.mp htext).2
      rw [Option.map_some, Option.map_some, Option.map_some, withoutPort_append hport,
        h.withoutPort_eq]
  refine ⟨hsame, fun route => by rw [hsame], ?_⟩
  intro value hvalue
  rw [hsame, hhost] at hvalue
  obtain ⟨text, htext, rfl⟩ := Option.map_eq_some_iff.mp hvalue
  obtain rfl : host = text := Option.some.inj (Option.ite_none_right_eq_some.mp htext).2
  rw [h.withoutPort_eq, h.stripPort_eq]

end

/-- Requests for `[::1]`, at its port 8080 and without a port. -/
theorem routes_without_port_literal :
    (extractRequestMeta ⟨id, fun _ => none⟩ ⟨"GET", "/", [("host", "[::1]:8080")], .none⟩).host =
      (extractRequestMeta ⟨id, fun _ => none⟩ ⟨"GET", "/", [("host", "[::1]")], .none⟩).host := by
  have hhost : IsHost "[::1]".toList := .inr ⟨"::1".toList, rfl⟩
  have hport : "8080".toList.all Char.isDigit = true := by decide
  exact (routes_without_port hhost hport ⟨id, fun _ => none⟩ rfl rfl).1

/-! ## Labels -/

/-- The host is the pattern, or the pattern is a wildcard and the host has
exactly one label in its place. -/
inductive LabelMatch (host : String) : String → Prop
  | exact {pattern : String} (h : eqIgnoreAsciiCase host pattern = true) : LabelMatch host pattern
  | wildcard {pattern : String} {suffix label : List Char}
      (hpattern : pattern.toList = '*' :: '.' :: suffix) (hlabel : label ≠ []) (hdot : '.' ∉ label)
      (hhost : toAsciiLowercase host.toList = label ++ '.' :: toAsciiLowercase suffix) :
      LabelMatch host pattern

/-- What a wildcard must not take for a name under its suffix. -/
inductive OffWildcard (suffix : List Char) : List Char → Prop
  | bare : OffWildcard suffix suffix
  | deeper (below label : List Char) :
    OffWildcard suffix (below ++ '.' :: (label ++ '.' :: suffix))
  | undotted {before : List Char} (h : before.getLast? ≠ some '.') :
    OffWildcard suffix (before ++ suffix)

theorem hostnamePatternMatches_wildcard_iff {host pattern : String} {suffix : List Char}
    (hpattern : pattern.toList = '*' :: '.' :: suffix) :
    hostnamePatternMatches host pattern = true ↔
      ∃ label, label ≠ [] ∧ '.' ∉ label ∧
        toAsciiLowercase host.toList = label ++ '.' :: toAsciiLowercase suffix := by
  simp only [hostnamePatternMatches, hpattern]
  split
  next label hlabel =>
    have hhost := dropSuffix?_eq_some.mp hlabel
    rw [Bool.and_eq_true, Bool.not_eq_true', Bool.not_eq_true', List.isEmpty_eq_false_iff,
      List.contains_eq_mem, decide_eq_false_iff_not]
    constructor
    · intro h
      exact ⟨label, h.1, h.2, hhost⟩
    · intro h
      obtain ⟨other, hne, hdot, hother⟩ := h
      obtain rfl : other = label := List.append_cancel_right (hother.symm.trans hhost)
      exact ⟨hne, hdot⟩
  next hnone =>
    refine iff_of_false Bool.false_ne_true ?_
    intro h
    obtain ⟨label, -, -, hhost⟩ := h
    rw [dropSuffix?_eq_some.mpr hhost] at hnone
    cases hnone

theorem hostnamePatternMatches_exact {host pattern : String}
    (hpattern : ∀ suffix, pattern.toList ≠ '*' :: '.' :: suffix) :
    hostnamePatternMatches host pattern = eqIgnoreAsciiCase host pattern := by
  unfold hostnamePatternMatches
  split
  next suffix hwildcard => exact absurd hwildcard (hpattern suffix)
  · rfl

/-- A host that is written like a wildcard has the star for its label. -/
theorem hostnamePatternMatches_iff {host pattern : String} :
    hostnamePatternMatches host pattern = true ↔ LabelMatch host pattern := by
  by_cases hwildcard : ∃ suffix, pattern.toList = '*' :: '.' :: suffix
  · obtain ⟨suffix, hpattern⟩ := hwildcard
    rw [hostnamePatternMatches_wildcard_iff hpattern]
    constructor
    · intro h
      obtain ⟨label, hlabel, hdot, hhost⟩ := h
      exact .wildcard hpattern hlabel hdot hhost
    · intro h
      cases h with
      | exact h =>
        refine ⟨['*'], List.cons_ne_nil _ _, by decide, ?_⟩
        rw [eq_of_beq h, hpattern]
        rfl
      | @wildcard suffix' label hpattern' hlabel hdot hhost =>
        obtain rfl : suffix' = suffix := by simpa [hpattern'] using hpattern
        exact ⟨label, hlabel, hdot, hhost⟩
  · rw [hostnamePatternMatches_exact fun suffix hpattern => hwildcard ⟨suffix, hpattern⟩]
    constructor
    · exact .exact
    · intro h
      cases h with
      | exact h => exact h
      | wildcard hpattern => exact absurd ⟨_, hpattern⟩ hwildcard

theorem not_hostnamePatternMatches {host pattern : String} {suffix : List Char}
    (hpattern : pattern.toList = '*' :: '.' :: suffix)
    (hoff : OffWildcard (toAsciiLowercase suffix) (toAsciiLowercase host.toList)) :
    hostnamePatternMatches host pattern = false := by
  rw [← Bool.not_eq_true, hostnamePatternMatches_wildcard_iff hpattern]
  intro h
  obtain ⟨label, hlabel, hdot, hhost⟩ := h
  rw [hhost] at hoff
  generalize toAsciiLowercase suffix = lower at hoff
  generalize hname : label ++ '.' :: lower = name at hoff
  cases hoff with
  | bare =>
    have hlength := congrArg List.length hname
    rw [List.length_append, List.length_cons] at hlength
    omega
  | deeper below sub =>
    have hsplit : label ++ '.' :: lower = (below ++ '.' :: sub) ++ '.' :: lower := by
      rw [hname, List.append_assoc, List.cons_append]
    apply hdot
    rw [List.append_cancel_right hsplit]
    exact List.mem_append_cons_self
  | @undotted before hlast =>
    have hsplit : (label ++ ['.']) ++ lower = before ++ lower := by
      rw [List.append_assoc, List.singleton_append, hname]
    apply hlast
    rw [← List.append_cancel_right hsplit, List.getLast?_concat]

/-- **Hostnames are compared label by label**, and what a wildcard must not
match it does not. -/
theorem hostnameMatches_iff {route : RouteConfig} {host : String}
    (hhost : ':' ∉ host.toList ∨ host.toList.head? = some '[') :
    (hostnameMatches route (some host) = true ↔
        route.hostnames = [] ∨ ∃ pattern ∈ route.hostnames, LabelMatch host pattern) ∧
      ∀ (pattern : String) (suffix : List Char), pattern.toList = '*' :: '.' :: suffix →
        OffWildcard (toAsciiLowercase suffix) (toAsciiLowercase host.toList) →
          hostnameMatches { route with hostnames := [pattern] } (some host) = false := by
  have hmatches : ∀ hostnames, hostnameMatches { route with hostnames } (some host) =
      (hostnames.isEmpty || hostnames.any (hostnamePatternMatches host)) := by
    intro hostnames
    unfold hostnameMatches
    dsimp only
    rw [stripPort_eq_self hhost]
    cases hostnames <;> rfl
  refine ⟨?_, fun pattern suffix hpattern hoff => ?_⟩
  · have hself := hmatches route.hostnames
    rw [show ({ route with hostnames := route.hostnames } : RouteConfig) = route from rfl] at hself
    rw [hself, Bool.or_eq_true, List.isEmpty_iff, List.any_eq_true]
    simp only [hostnamePatternMatches_iff]
  · rw [hmatches, List.isEmpty_cons, Bool.false_or, List.any_cons, List.any_nil, Bool.or_false,
      not_hostnamePatternMatches hpattern hoff]

theorem hostnameMatches_wildcard :
    hostnameMatches { name := "r", «namespace» := "gw", hostnames := ["*.example.com"] }
      (some "Foo.example.com") = true := by
  have hlabel : toAsciiLowercase "Foo.example.com".toList =
      "foo".toList ++ '.' :: toAsciiLowercase "example.com".toList := by decide
  refine (hostnameMatches_iff (.inl (by decide))).1.mpr (.inr ⟨_, List.mem_cons_self, ?_⟩)
  exact .wildcard rfl (by decide) (by decide) hlabel

end Multiway.ProxyCore
