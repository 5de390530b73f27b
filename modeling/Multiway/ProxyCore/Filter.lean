import Multiway.Lib.Text
import Multiway.ProxyCore.Config

/-!
# Collecting route filters (`proxy-core/src/filter.rs`)

The filters of a rule are folded into one `AppliedFilter`. `none` is a panic:
`replace_prefix` slices the path at the length of the matched prefix.
-/

namespace Multiway.ProxyCore

open Multiway.Lib.Text

/-- Computed URL rewrite. -/
structure RewriteResult where
  hostname : Option String
  path : Option String
deriving DecidableEq

/-- A mirror target with its sampling percentage. -/
structure MirrorTarget where
  backend : Backend
  percent : UInt32
deriving DecidableEq

/-- Accumulated filter effects. -/
structure AppliedFilter where
  requestHeaderAdd : List HeaderValue := []
  requestHeaderSet : List HeaderValue := []
  requestHeaderRemove : List String := []
  responseHeaderAdd : List HeaderValue := []
  responseHeaderSet : List HeaderValue := []
  responseHeaderRemove : List String := []
  rewrite : Option RewriteResult := none
  mirrors : List MirrorTarget := []
  timeout : Option TimeoutConfig := none
deriving DecidableEq

/-- Replace a matched path prefix, preserving the remainder. -/
def replacePrefix (original matchedPrefix replacement : String) : Option String :=
  (sliceFrom matchedPrefix.utf8ByteSize original.toList).map fun remainder =>
    match replacement.toList.getLast? == some '/', remainder with
    | true, '/' :: rest => replacement ++ String.ofList rest
    | false, c :: rest =>
      if c = '/' then replacement ++ String.ofList (c :: rest)
      else replacement ++ "/" ++ String.ofList (c :: rest)
    | _, rest => replacement ++ String.ofList rest

/-- The rewrite of a `URLRewrite` filter's hostname and path. -/
def computeRewrite (hostname : Option String) (path : Option PathModifier)
    (originalPath : String) (matchedPathPrefix : Option String) : Option RewriteResult :=
  match path with
  | some (.replaceFullPath value) => some { hostname, path := some value }
  | some (.replacePrefixMatch value) =>
    (replacePrefix originalPath (matchedPathPrefix.getD "/") value).map fun rewritten =>
      { hostname, path := some rewritten }
  | none => some { hostname, path := none }

/-- One turn of the loop of `collect_filters`. -/
def collectFilter (applied : AppliedFilter) : Filter → Option AppliedFilter
  | .requestHeaderModifier add set remove =>
    some { applied with
      requestHeaderAdd := applied.requestHeaderAdd ++ add
      requestHeaderSet := applied.requestHeaderSet ++ set
      requestHeaderRemove := applied.requestHeaderRemove ++ remove }
  | .responseHeaderModifier add set remove =>
    some { applied with
      responseHeaderAdd := applied.responseHeaderAdd ++ add
      responseHeaderSet := applied.responseHeaderSet ++ set
      responseHeaderRemove := applied.responseHeaderRemove ++ remove }
  | .urlRewrite hostname path =>
    (computeRewrite hostname path "" none).map fun rewrite =>
      { applied with rewrite := some rewrite }
  | .requestMirror backend percent =>
    some { applied with mirrors := applied.mirrors ++ [⟨backend, percent.getD 100⟩] }
  -- redirects are handled separately
  | .requestRedirect .. => some applied

/-- Accumulate the effects of a list of filters. -/
def collectFilters (filters : List Filter) : Option AppliedFilter :=
  filters.foldlM collectFilter {}

/-- Re-compute the rewrite with the actual request path. -/
def recomputeRewrite (filters : List Filter) (path : String) (applied : AppliedFilter) :
    Option AppliedFilter :=
  filters.foldlM (fun applied filter =>
    match filter with
    | .urlRewrite hostname modifier =>
      (computeRewrite hostname modifier path none).map fun rewrite =>
        { applied with rewrite := some rewrite }
    | _ => some applied) applied

end Multiway.ProxyCore
