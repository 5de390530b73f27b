import Multiway.ProxyCore.HeaderFilters
import Multiway.ProxyCore.Upgrade

/-!
# What a rewritten path leaves of the URI

`build_upstream_request` puts the rewritten path in the place of the whole URI.
Host and headers come out as they should, and so does the path; a query of the
original URI is gone (`onlyRewritten_iff`).
-/

namespace Multiway.ProxyCore

open Multiway.Lib.Text

/-- A valid absolute path: a URI that is nothing but a path. -/
def ValidPath (http : HttpCrate) (uris : UriParts) (path : String) : Prop :=
  ∃ uri, http.parseUri path = some uri ∧ uris.path uri = path ∧ uris.query uri = none

/-- Path and host are those that are given, everything else is the original's. -/
structure OnlyRewritten (uris : UriParts) (original upstream : Request)
    (hostname path : Option String) : Prop where
  path : uris.path upstream.uri = path.getD (uris.path original.uri)
  query : uris.query upstream.uri = uris.query original.uri
  host : upstream.headers.values "host" =
    (hostname.map fun host => [host]).getD (original.headers.values "host")
  headers : ∀ name ≠ "host", upstream.headers.values name = original.headers.values name

theorem host_eq_none_of_values {uris : UriParts} {original : Request}
    (h : original.headers.values "host" = []) : (extractRequestMeta uris original).host = none := by
  rw [host_extractRequestMeta, h]
  rfl

section
variable {http : HttpCrate} {uris : UriParts} {hostname path : Option String}

theorem lastRewrite_singleton (hostname path : Option String) :
    lastRewrite [.urlRewrite hostname (path.map .replaceFullPath)] = some ⟨hostname, path⟩ := by
  cases path <;> rfl

/-- The URI is the parsed path, and nothing else is left of the original one. -/
theorem uri_buildUpstreamRequest {applied : AppliedFilter}
    (hrewrite : applied.rewrite = some ⟨hostname, path⟩) (original : Request)
    (host : Option String) :
    (buildUpstreamRequest http original host applied).uri =
      (path.bind http.parseUri).getD original.uri := by
  unfold buildUpstreamRequest
  rw [hrewrite]
  rfl

/-- Without modifiers, the Host header is the rewritten one. -/
theorem values_rewritten (hhost : ∀ h, hostname = some h → http.parseHeaderValue h = some h)
    (original : Request) (name : String) :
    upstreamValues http [.urlRewrite hostname (path.map .replaceFullPath)]
        (extractRequestMeta uris original).host original.headers name =
      if name = "host" then (hostname.map fun host => [host]).getD (original.headers.values "host")
      else original.headers.values name := by
  have hgiven : rewrittenHost http [.urlRewrite hostname (path.map .replaceFullPath)] =
      hostname := by
    rw [rewrittenHost, lastRewrite_singleton]
    cases hostname with
    | none => rfl
    | some h => exact hhost h rfl
  have hmodified : ∀ name, modifiedValues http [.urlRewrite hostname (path.map .replaceFullPath)]
      original.headers name =
      if name = "host" then (hostname.map fun host => [host]).getD (original.headers.values "host")
      else original.headers.values name := by
    intro name
    have hvalue : givenValue http [.urlRewrite hostname (path.map .replaceFullPath)] name =
        if name = "host" then hostname else none := by
      rw [givenValue, hgiven]
      by_cases hname : name = "host"
      · simp [hname, removesHeader, namesHeader, acceptedValues, Filter.requestSets,
          Filter.requestRemoves]
      · simp [hname, acceptedValues, Filter.requestSets]
    rw [modifiedValues, hvalue]
    by_cases hname : name = "host"
    · rw [if_pos hname, if_pos hname]
      cases hostname with
      | none =>
        simp [hname, removesHeader, namesHeader, addedValues, acceptedValues,
          Filter.requestAdds, Filter.requestRemoves]
      | some h => simp [addedValues, acceptedValues, Filter.requestAdds]
    · rw [if_neg hname, if_neg hname]
      simp [removesHeader, namesHeader, addedValues, acceptedValues, Filter.requestAdds,
        Filter.requestRemoves]
  rw [upstreamValues, hmodified]
  by_cases hname : name = "host"
  · rw [if_pos hname]
    by_cases hnil : (hostname.map fun host => [host]).getD (original.headers.values "host") = []
    · -- nothing to fill in where there was no Host header
      have hvalues : original.headers.values "host" = [] := by
        cases hostname with
        | none => exact hnil
        | some h => cases hnil
      rw [if_pos ⟨hname, hnil⟩, hnil, host_eq_none_of_values hvalues]
      rfl
    · rw [if_neg fun h => hnil h.2]
  · rw [if_neg hname, if_neg fun h => hname h.1]

/-- **What a URL rewrite touches.** For every request and every rule whose only
filter it is: what it names and nothing else, exactly when it names no path or
the request has no query. -/
theorem onlyRewritten_iff (hpath : ∀ p, path = some p → ValidPath http uris p)
    (hhost : ∀ h, hostname = some h → http.parseHeaderValue h = some h) {rule : RouteRule}
    (hrule : rule.filters = [.urlRewrite hostname (path.map .replaceFullPath)])
    (original : Request) :
    ∃ req, RouteAndFilter.forwardRequest (extractRequestMeta uris original) original
        rule.backends rule.filters rule.timeout = some req ∧
      (OnlyRewritten uris original
          (buildUpstreamRequest http req.request req.host req.appliedFilter) hostname path ↔
        path = none ∨ uris.query original.uri = none) := by
  have hfilters : ∀ filter ∈ rule.filters, filter.replacesPrefix = false := by
    intro filter hfilter
    rw [hrule, List.mem_singleton] at hfilter
    rw [hfilter]
    cases path <;> rfl
  obtain ⟨applied, hforward, hcollects⟩ := forwardRequest_eq hfilters
    (extractRequestMeta uris original) original rule.backends rule.timeout
  refine ⟨_, hforward, ?_⟩
  have hrewrite : applied.rewrite = some ⟨hostname, path⟩ := by
    rw [hcollects.rewrite, Option.or_none, hrule, lastRewrite_singleton]
  have hvalues : ∀ name, (buildUpstreamRequest http original (extractRequestMeta uris original).host
      applied).headers.values name = _ := fun name =>
    (hcollects.values_buildUpstreamRequest original _ name).trans
      (hrule ▸ values_rewritten hhost original name)
  have huri : (buildUpstreamRequest http original (extractRequestMeta uris original).host
      applied).uri = _ := uri_buildUpstreamRequest hrewrite original _
  have hkept : path = none ∨ uris.query original.uri = none ↔
      uris.query ((path.bind http.parseUri).getD original.uri) = uris.query original.uri := by
    cases path with
    | none => simp
    | some p =>
      obtain ⟨uri, hparse, -, hquery⟩ := hpath p rfl
      rw [Option.bind_some, hparse, Option.getD_some, hquery]
      simp [eq_comm]
  rw [hkept]
  constructor
  · intro h
    rw [← huri]
    exact h.query
  · intro h
    refine ⟨?_, huri ▸ h, (hvalues "host").trans (if_pos rfl), ?_⟩
    · rw [huri]
      cases path with
      | none => rfl
      | some p =>
        obtain ⟨uri, hparse, hsame, -⟩ := hpath p rfl
        rw [Option.bind_some, hparse]
        exact hsame
    · intro name hname
      exact (hvalues name).trans (if_neg hname)

end

/-- URIs that are a path and a query. -/
def splitUris : UriParts where
  path uri := ((splitOnce '?' uri.toList).map fun (path, _) => String.ofList path).getD uri
  query uri := (splitOnce '?' uri.toList).map fun (_, query) => String.ofList query

/-- A rule that rewrites host and path. -/
def rewritingRule : RouteRule where
  «matches» := []
  filters := [.urlRewrite (some "b.test") (some (.replaceFullPath "/new"))]
  backends := [svcA]

def getRequest (uri : String) : Request := ⟨"GET", uri, [("host", "a.test")], .none⟩

theorem validPath_new : ∀ p, some "/new" = some p → ValidPath plainHttp splitUris p := by
  intro p hp
  obtain rfl := Option.some.inj hp
  exact ⟨"/new", rfl, by decide, by decide⟩

theorem headerValue_host : ∀ h, some "b.test" = some h → plainHttp.parseHeaderValue h = some h := by
  intro h hh
  obtain rfl := Option.some.inj hh
  decide

/-- Host and path are rewritten. -/
theorem onlyRewritten_rewritingRule :
    ∃ req, RouteAndFilter.forwardRequest (extractRequestMeta splitUris (getRequest "/old"))
        (getRequest "/old") rewritingRule.backends rewritingRule.filters rewritingRule.timeout =
          some req ∧
      OnlyRewritten splitUris (getRequest "/old")
        (buildUpstreamRequest plainHttp req.request req.host req.appliedFilter) (some "b.test")
        (some "/new") := by
  obtain ⟨req, hreq, hiff⟩ := onlyRewritten_iff validPath_new headerValue_host
    (show rewritingRule.filters =
      [.urlRewrite (some "b.test") ((some "/new").map .replaceFullPath)] from rfl)
    (getRequest "/old")
  exact ⟨req, hreq, hiff.mpr (.inr (by decide))⟩

/-- The query of a rewritten request is lost. -/
theorem query_lost :
    ¬ ∀ (http : HttpCrate) (uris : UriParts) (hostname path : Option String) (rule : RouteRule)
        (original : Request) (req : ForwardRequest),
      (∀ p, path = some p → ValidPath http uris p) →
      (∀ h, hostname = some h → http.parseHeaderValue h = some h) →
      rule.filters = [.urlRewrite hostname (path.map .replaceFullPath)] →
      RouteAndFilter.forwardRequest (extractRequestMeta uris original) original rule.backends
        rule.filters rule.timeout = some req →
      OnlyRewritten uris original
        (buildUpstreamRequest http req.request req.host req.appliedFilter) hostname path := by
  intro hall
  have hrewritten := hall plainHttp splitUris (some "b.test") (some "/new") rewritingRule
    (getRequest "/old?q=1") _ validPath_new headerValue_host rfl rfl
  exact absurd hrewritten.query (by decide)

end Multiway.ProxyCore
