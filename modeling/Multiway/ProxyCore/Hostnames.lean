import Multiway.ProxyCore.RouteSpec

/-!
# Hostname specificity

When several routes of a listener match a request, the HTTPRoute definition
gives precedence to the one with the most specific matching hostname, before
any path is compared. `route` filters by hostname and then ranks rules by
their matches alone: the hostname that let a route in is forgotten.

To say which route a decision comes from, the rules in play carry the position
of their route (`selected`). `hostname_precedence_iff` says for which
configurations the forgotten hostname makes no difference: those in which
every less specific route is outranked by a most specific one.
-/

namespace Multiway.ProxyCore

open Multiway.Lib

variable (isMatch : String → String → Bool) (config : ProxyConfig) (listenerName : String)
  (request : RequestMeta)

/-! ## The selected route -/

/-- The rules in play, each with the position of its route. -/
def rulesInPlayAt : List (ℕ × RouteRule) :=
  (config.routes.zipIdx.filter fun (route, _) =>
    route.attachedListeners.contains listenerName && hostnameMatches route request.host).flatMap
    fun (route, i) => route.rules.map fun rule => (i, rule)

/-- What the rules in play contribute to the search. -/
def candidatesAt : List (ℕ × MatchCandidate) :=
  (rulesInPlayAt config listenerName request).filterMap fun (i, rule) =>
    (candidate isMatch request rule).map fun c => (i, c)

/-- The candidate `route` decides by, and the position of its route. -/
def selected : Option (ℕ × MatchCandidate) :=
  (candidatesAt isMatch config listenerName request).argmax fun (_, c) => c.precedence.tuple

theorem map_snd_rulesInPlayAt :
    (rulesInPlayAt config listenerName request).map Prod.snd =
      rulesInPlay config listenerName request := by
  have hroutes : rulesInPlay config listenerName request =
      ((config.routes.zipIdx.map Prod.fst).filter fun route =>
        route.attachedListeners.contains listenerName &&
          hostnameMatches route request.host).flatMap RouteConfig.rules := by
    rw [List.zipIdx_map_fst]
    rfl
  rw [hroutes, List.filter_map, List.flatMap_map, rulesInPlayAt, List.map_flatMap]
  refine List.flatMap_congr fun x _ => ?_
  simp

theorem map_snd_candidatesAt :
    (candidatesAt isMatch config listenerName request).map Prod.snd =
      (rulesInPlay config listenerName request).filterMap (candidate isMatch request) := by
  rw [← map_snd_rulesInPlayAt, List.filterMap_map, candidatesAt, List.map_filterMap]
  congr 1
  funext x
  cases candidate isMatch request x.2 <;> simp_all

/-- The positions change nothing: what `route` answers is the decision of the
selected candidate. -/
theorem route_eq_selected :
    route isMatch config listenerName request =
      match selected isMatch config listenerName request with
      | some (_, c) => buildDecision c.rule request
      | none => .notFound := by
  have hwinner : winner isMatch config listenerName request =
      (selected isMatch config listenerName request).map Prod.snd := by
    rw [winner, ← map_snd_candidatesAt, argmax_map]
    rfl
  rw [route_eq_winner, hwinner]
  cases selected isMatch config listenerName request <;> rfl

/-- `route` selects a rule of the route at this position. -/
def SelectedAt (i : ℕ) : Prop :=
  ∃ c, selected isMatch config listenerName request = some (i, c)

theorem mem_rulesInPlayAt {i : ℕ} {rule : RouteRule} :
    (i, rule) ∈ rulesInPlayAt config listenerName request ↔
      ∃ route, config.routes[i]? = some route ∧
        route.attachedListeners.contains listenerName = true ∧
        hostnameMatches route request.host = true ∧ rule ∈ route.rules := by
  simp only [rulesInPlayAt, List.mem_flatMap, List.mem_filter, List.mem_map, Prod.exists,
    List.mem_zipIdx_iff_getElem?, Bool.and_eq_true, Prod.mk.injEq]
  constructor
  · rintro ⟨route, j, ⟨hroute, hattached, hhost⟩, r, hr, rfl, rfl⟩
    exact ⟨route, hroute, hattached, hhost, hr⟩
  · rintro ⟨route, hroute, hattached, hhost, hr⟩
    exact ⟨route, i, ⟨hroute, hattached, hhost⟩, rule, hr, rfl, rfl⟩

theorem mem_candidatesAt {i : ℕ} {c : MatchCandidate} :
    (i, c) ∈ candidatesAt isMatch config listenerName request ↔
      ∃ rule, (i, rule) ∈ rulesInPlayAt config listenerName request ∧
        candidate isMatch request rule = some c := by
  simp only [candidatesAt, List.mem_filterMap, Option.map_eq_some_iff, Prod.exists, Prod.mk.injEq]
  constructor
  · rintro ⟨j, rule, hrule, c', hc, rfl, rfl⟩
    exact ⟨rule, hrule, hc⟩
  · rintro ⟨rule, hrule, hc⟩
    exact ⟨i, rule, hrule, c, hc, rfl, rfl⟩

private theorem pairwise_zipIdx {α : Type} :
    ∀ (l : List α) (n : ℕ), (l.zipIdx n).Pairwise fun a b => a.2 < b.2
  | [], _ => .nil
  | _ :: l, n =>
    List.pairwise_cons.mpr ⟨fun _ hb => List.le_snd_of_mem_zipIdx hb, pairwise_zipIdx l (n + 1)⟩

theorem rulesInPlayAt_sorted :
    (rulesInPlayAt config listenerName request).Pairwise fun a b => a.1 ≤ b.1 := by
  refine List.pairwise_flatMap.mpr ⟨fun x _ => ?_, ?_⟩
  · exact List.pairwise_map.mpr (List.pairwise_of_forall fun _ _ => le_rfl)
  · refine ((pairwise_zipIdx config.routes 0).filter _).imp fun {x y} hlt a ha b hb => ?_
    obtain ⟨_, -, rfl⟩ := List.mem_map.mp ha
    obtain ⟨_, -, rfl⟩ := List.mem_map.mp hb
    exact le_of_lt hlt

theorem candidatesAt_sorted :
    (candidatesAt isMatch config listenerName request).Pairwise fun a b => a.1 ≤ b.1 := by
  refine (rulesInPlayAt_sorted config listenerName request).filterMap _ ?_
  intro x y hle x' hx y' hy
  obtain ⟨_, -, rfl⟩ := Option.map_eq_some_iff.mp hx
  obtain ⟨_, -, rfl⟩ := Option.map_eq_some_iff.mp hy
  exact hle

/-! ## Ranks of a route -/

/-- The route at the position matches the request: one of its rules does. -/
structure RouteMatches (i : ℕ) (route : RouteConfig) : Prop where
  position : config.routes[i]? = some route
  attached : route.attachedListeners.contains listenerName = true
  host : hostnameMatches route request.host = true
  rule : ∃ rule ∈ route.rules, (offers isMatch rule request).Nonempty

/-- The ranks the rules of a route offer for a request. -/
def routeOffers (route : RouteConfig) : Set PrecedenceTuple :=
  {r | ∃ rule ∈ route.rules, r ∈ offers isMatch rule request}

/-- Some route outranks another one: its rules offer more, or the same earlier
in the configuration. -/
def Outranks (k j : ℕ) : Prop :=
  ∃ winner loser best other,
    RouteMatches isMatch config listenerName request k winner ∧
    RouteMatches isMatch config listenerName request j loser ∧
    IsGreatest (routeOffers isMatch request winner) best ∧
    IsGreatest (routeOffers isMatch request loser) other ∧
    (other < best ∨ other = best ∧ k < j)

variable {isMatch config listenerName request}

theorem Outranks.asymm {k j : ℕ} (h : Outranks isMatch config listenerName request k j) :
    ¬ Outranks isMatch config listenerName request j k := by
  rintro ⟨loser', winner', other', best', hloser', hwinner', hother', hbest', hrank'⟩
  obtain ⟨winner, loser, best, other, hwinner, hloser, hbest, hother, hrank⟩ := h
  obtain rfl := Option.some.inj (hwinner.position.symm.trans hwinner'.position)
  obtain rfl := Option.some.inj (hloser.position.symm.trans hloser'.position)
  obtain rfl := hbest.unique hbest'
  obtain rfl := hother.unique hother'
  rcases hrank with hlt | ⟨heq, hlt⟩
  · rcases hrank' with hlt' | ⟨heq', -⟩
    · exact absurd hlt (not_lt.mpr hlt'.le)
    · exact absurd heq'.symm hlt.ne
  · rcases hrank' with hlt' | ⟨-, hlt'⟩
    · exact absurd heq.symm hlt'.ne
    · exact absurd hlt (not_lt.mpr hlt'.le)

/-- What a rule of a matching route offers, some candidate of the route does. -/
theorem RouteMatches.exists_candidateAt {i : ℕ} {route : RouteConfig} {r : PrecedenceTuple}
    (h : RouteMatches isMatch config listenerName request i route)
    (hr : r ∈ routeOffers isMatch request route) :
    ∃ c, (i, c) ∈ candidatesAt isMatch config listenerName request ∧ r ≤ c.precedence.tuple ∧
      c.precedence.tuple ∈ routeOffers isMatch request route := by
  obtain ⟨rule, hrule, hoffer⟩ := hr
  obtain ⟨c, hc, hle⟩ := offer_le isMatch hoffer
  refine ⟨c, (mem_candidatesAt ..).mpr ⟨rule, (mem_rulesInPlayAt ..).mpr
    ⟨route, h.position, h.attached, h.host, hrule⟩, hc⟩, hle, rule, hrule, ?_⟩
  exact (candidate_eq_some isMatch hc).2.1

/-- A candidate comes from a matching route. -/
theorem exists_routeMatches {i : ℕ} {c : MatchCandidate}
    (h : (i, c) ∈ candidatesAt isMatch config listenerName request) :
    ∃ route, RouteMatches isMatch config listenerName request i route ∧
      c.precedence.tuple ∈ routeOffers isMatch request route := by
  obtain ⟨rule, hrule, hc⟩ := (mem_candidatesAt ..).mp h
  obtain ⟨route, hroute, hattached, hhost, hmem⟩ := (mem_rulesInPlayAt ..).mp hrule
  have hoffer := (candidate_eq_some isMatch hc).2.1
  exact ⟨route, ⟨hroute, hattached, hhost, rule, hmem, _, hoffer⟩, rule, hmem, hoffer⟩

theorem RouteMatches.exists_isGreatest {i : ℕ} {route : RouteConfig}
    (h : RouteMatches isMatch config listenerName request i route) :
    ∃ best, IsGreatest (routeOffers isMatch request route) best := by
  have hmem : ∀ rule ∈ route.rules, ∀ r ∈ offers isMatch rule request,
      ∃ c ∈ route.rules.filterMap (candidate isMatch request), r ≤ c.precedence.tuple := by
    intro rule hrule r hr
    obtain ⟨c, hc, hle⟩ := offer_le isMatch hr
    exact ⟨c, List.mem_filterMap.mpr ⟨rule, hrule, hc⟩, hle⟩
  cases hbest : (route.rules.filterMap (candidate isMatch request)).argmax
      fun c => c.precedence.tuple with
  | none =>
    obtain ⟨rule, hrule, r, hr⟩ := h.rule
    obtain ⟨c, hc, -⟩ := hmem rule hrule r hr
    rw [List.argmax_eq_none.mp hbest] at hc
    exact absurd hc List.not_mem_nil
  | some c =>
    obtain ⟨rule, hrule, hc⟩ := List.mem_filterMap.mp (List.argmax_mem hbest)
    refine ⟨c.precedence.tuple, ⟨rule, hrule, (candidate_eq_some isMatch hc).2.1⟩, ?_⟩
    rintro r ⟨other, hother, hr⟩
    obtain ⟨c', hc', hle⟩ := hmem other hother r hr
    exact hle.trans
      (List.le_of_mem_argmax (f := fun c : MatchCandidate => c.precedence.tuple) hc' hbest)

/-! ## The selected route outranks the others -/

/-- A matching route makes some route selected. -/
theorem exists_selectedAt {i : ℕ} {route : RouteConfig}
    (h : RouteMatches isMatch config listenerName request i route) :
    ∃ k, SelectedAt isMatch config listenerName request k := by
  obtain ⟨rule, hrule, r, hr⟩ := h.rule
  obtain ⟨c, hc, -⟩ := h.exists_candidateAt ⟨rule, hrule, hr⟩
  cases hselected : selected isMatch config listenerName request with
  | none =>
    rw [List.argmax_eq_none.mp hselected] at hc
    exact absurd hc List.not_mem_nil
  | some x => exact ⟨x.1, x.2, hselected⟩

theorem SelectedAt.outranks {k j : ℕ} {loser : RouteConfig}
    (h : SelectedAt isMatch config listenerName request k)
    (hloser : RouteMatches isMatch config listenerName request j loser) (hne : j ≠ k) :
    Outranks isMatch config listenerName request k j := by
  obtain ⟨c, hc⟩ := h
  obtain ⟨winner, hwinner, hoffer⟩ := exists_routeMatches (List.argmax_mem hc)
  -- no candidate ranks higher than the selected one
  have hmax : ∀ i c', (i, c') ∈ candidatesAt isMatch config listenerName request →
      c'.precedence.tuple ≤ c.precedence.tuple :=
    fun i c' hmem =>
      List.le_of_mem_argmax (f := fun x : ℕ × MatchCandidate => x.2.precedence.tuple) hmem hc
  have hbest : IsGreatest (routeOffers isMatch request winner) c.precedence.tuple := by
    refine ⟨hoffer, fun r hr => ?_⟩
    obtain ⟨c', hc', hle, -⟩ := hwinner.exists_candidateAt hr
    exact hle.trans (hmax k c' hc')
  obtain ⟨other, hother⟩ := hloser.exists_isGreatest
  obtain ⟨c', hc', hle, -⟩ := hloser.exists_candidateAt hother.1
  refine ⟨winner, loser, _, other, hwinner, hloser, hbest, hother, ?_⟩
  rcases lt_or_eq_of_le (hle.trans (hmax j c' hc')) with hlt | heq
  · exact .inl hlt
  refine .inr ⟨heq, ?_⟩
  -- of equal candidates the earlier one is kept, and candidates come in order
  obtain ⟨pre, post, hsplit, hpre, -⟩ := argmax_split hc
  have hsorted := candidatesAt_sorted isMatch config listenerName request
  rw [hsplit] at hc' hsorted
  rcases List.mem_append.mp hc' with hmem | hmem
  · have hlt : c'.precedence.tuple < c.precedence.tuple := hpre _ hmem
    rw [heq] at hle
    exact absurd hle (not_le.mpr hlt)
  rcases List.mem_cons.mp hmem with hself | hmem
  · exact absurd (congrArg Prod.fst hself) hne
  have hkj : k ≤ j := (List.pairwise_cons.mp (List.pairwise_append.mp hsorted).2.1).1 _ hmem
  exact lt_of_le_of_ne hkj hne.symm

theorem Outranks.not_selectedAt {k j : ℕ} (h : Outranks isMatch config listenerName request k j) :
    ¬ SelectedAt isMatch config listenerName request j := by
  intro hselected
  obtain ⟨winner, -, -, -, hwinner, -⟩ := id h
  by_cases hkj : k = j
  · subst hkj
    exact h.asymm h
  · exact h.asymm (hselected.outranks hwinner hkj)

variable (isMatch config listenerName request) in
/-- A rule of the route at the position offers the highest rank of all. -/
def Leads (k : ℕ) : Prop :=
  ∃ route best, RouteMatches isMatch config listenerName request k route ∧
    IsGreatest (routeOffers isMatch request route) best ∧
    ∀ j other, RouteMatches isMatch config listenerName request j other →
      ∀ r ∈ routeOffers isMatch request other, r ≤ best

theorem SelectedAt.leads {k : ℕ} (h : SelectedAt isMatch config listenerName request k) :
    Leads isMatch config listenerName request k := by
  obtain ⟨c, hc⟩ := id h
  obtain ⟨route, hroute, -⟩ := exists_routeMatches (List.argmax_mem hc)
  obtain ⟨best, hbest⟩ := hroute.exists_isGreatest
  refine ⟨route, best, hroute, hbest, fun j other hother r hr => ?_⟩
  by_cases hj : j = k
  · subst hj
    obtain rfl := Option.some.inj (hroute.position.symm.trans hother.position)
    exact hbest.2 hr
  · obtain ⟨winner, loser, best', rank, hwinner, hloser, hbest', hrank, hle⟩ :=
      h.outranks hother hj
    obtain rfl := Option.some.inj (hroute.position.symm.trans hwinner.position)
    obtain rfl := Option.some.inj (hother.position.symm.trans hloser.position)
    obtain rfl := hbest.unique hbest'
    refine (hrank.2 hr).trans ?_
    rcases hle with hlt | ⟨heq, -⟩
    · exact hlt.le
    · exact heq.le

/-- **The selected route** is the first of those that lead. -/
theorem selectedAt_iff {k : ℕ} :
    SelectedAt isMatch config listenerName request k ↔
      Leads isMatch config listenerName request k ∧
        ∀ j, Leads isMatch config listenerName request j → k ≤ j := by
  constructor
  · intro h
    refine ⟨h.leads, fun j hj => ?_⟩
    obtain ⟨loser, rank, hloser, hrank, htop⟩ := hj
    by_cases hjk : j = k
    · exact hjk.ge
    · obtain ⟨winner, loser', best, rank', hwinner, hloser', hbest, hrank', hle⟩ :=
        h.outranks hloser hjk
      obtain rfl := Option.some.inj (hloser.position.symm.trans hloser'.position)
      obtain rfl := hrank.unique hrank'
      rcases hle with hlt | ⟨-, hlt⟩
      · exact absurd (htop k winner hwinner best hbest.1) (not_le.mpr hlt)
      · exact hlt.le
  · intro h
    obtain ⟨hleads, hfirst⟩ := h
    obtain ⟨route, _, hroute, -⟩ := id hleads
    obtain ⟨k', hk'⟩ := exists_selectedAt hroute
    have hle : k ≤ k' := hfirst k' hk'.leads
    by_cases hsame : k = k'
    · exact hsame ▸ hk'
    · -- the selected route would outrank this one by its position alone
      obtain ⟨winner, loser, best, rank, hwinner, hloser, hbest, hrank, hlt⟩ :=
        hk'.outranks hroute hsame
      obtain ⟨route', best', hroute', hbest', htop⟩ := hleads
      obtain rfl := Option.some.inj (hloser.position.symm.trans hroute'.position)
      obtain rfl := hrank.unique hbest'
      rcases hlt with hlt | ⟨-, hlt⟩
      · exact absurd (htop k' winner hwinner best hbest.1) (not_le.mpr hlt)
      · omega

/-! ## Specificity -/

/-- How specific a hostname is: an exact one beats a wildcard, then length. -/
def hostnameRank (pattern : String) : ℕ ×ₗ ℕ :=
  match pattern.toList with
  | '*' :: '.' :: _ => toLex (1, pattern.length)
  | _ => toLex (2, pattern.length)

/-- The ranks of a route's hostnames that match the host; the least of all
ranks, when the route has no hostnames. -/
def hostnameRanks (route : RouteConfig) (host : Option String) : Set (ℕ ×ₗ ℕ) :=
  {s | (route.hostnames = [] ∧ s = ⊥) ∨
    ∃ pattern ∈ route.hostnames, (∃ h, host = some h ∧
      hostnamePatternMatches (stripPort h) pattern = true) ∧ hostnameRank pattern = s}

theorem isGreatest_hostnameRanks_nil {route : RouteConfig} (h : route.hostnames = [])
    (host : Option String) : IsGreatest (hostnameRanks route host) ⊥ := by
  refine ⟨.inl ⟨h, rfl⟩, ?_⟩
  rintro s (⟨-, rfl⟩ | ⟨pattern, hpattern, -⟩)
  · exact le_rfl
  · rw [h] at hpattern
    exact absurd hpattern List.not_mem_nil

theorem isGreatest_hostnameRanks_singleton {route : RouteConfig} {pattern host : String}
    (h : route.hostnames = [pattern])
    (hmatches : hostnamePatternMatches (stripPort host) pattern = true) :
    IsGreatest (hostnameRanks route (some host)) (hostnameRank pattern) := by
  have hmem : pattern ∈ route.hostnames := by
    rw [h]
    exact List.mem_singleton_self pattern
  refine ⟨.inr ⟨pattern, hmem, ⟨host, rfl, hmatches⟩, rfl⟩, ?_⟩
  rintro s (⟨hnil, -⟩ | ⟨other, hother, -, rfl⟩)
  · rw [h] at hnil
    exact absurd hnil (List.cons_ne_nil _ _)
  · rw [h] at hother
    rw [List.mem_singleton.mp hother]

variable (isMatch config listenerName request) in
/-- Both routes match the request, and the first one's most specific hostname
that matches the host is more specific than the second one's. -/
def MoreSpecific (i j : ℕ) : Prop :=
  ∃ first second s t,
    RouteMatches isMatch config listenerName request i first ∧
    RouteMatches isMatch config listenerName request j second ∧
    IsGreatest (hostnameRanks first request.host) s ∧
    IsGreatest (hostnameRanks second request.host) t ∧ t < s

/-- **Hostnames and precedence.** `route` never prefers a less specific
hostname exactly when every route that is less specific than another is
outranked by one that is not. -/
theorem hostname_precedence_iff (isMatch : String → String → Bool) (config : ProxyConfig)
    (listenerName : String) (request : RequestMeta) :
    (∀ i j, MoreSpecific isMatch config listenerName request i j →
        ¬ SelectedAt isMatch config listenerName request j) ↔
      ∀ i j, MoreSpecific isMatch config listenerName request i j →
        ∃ k, (∀ other, ¬ MoreSpecific isMatch config listenerName request other k) ∧
          Outranks isMatch config listenerName request k j := by
  constructor
  · intro h i j hspecific
    obtain ⟨-, loser, -, -, -, hloser, -⟩ := id hspecific
    obtain ⟨k, hk⟩ := exists_selectedAt hloser
    have hmost : ∀ other, ¬ MoreSpecific isMatch config listenerName request other k :=
      fun other hother => h other k hother hk
    refine ⟨k, hmost, hk.outranks hloser ?_⟩
    rintro rfl
    exact hmost i hspecific
  · intro h i j hspecific
    obtain ⟨k, -, houtranks⟩ := h i j hspecific
    exact houtranks.not_selectedAt

/-! ### A longer path on a less specific hostname -/

/-- One route for a host and one for all hosts, each matching a path prefix. -/
def twoHostnames : ProxyConfig where
  routes :=
    [{ name := "exact", «namespace» := "gw", hostnames := ["foo.example.com"]
       attachedListeners := ["http"]
       rules := [{ «matches» := [{ path := some ⟨.pathPrefix, "/"⟩ }] }] },
     { name := "any", «namespace» := "gw", attachedListeners := ["http"]
       rules := [{ «matches» := [{ path := some ⟨.pathPrefix, "/api"⟩ }] }] }]

theorem hostname_precedence_fails :
    ¬ ∀ (isMatch : String → String → Bool) (config : ProxyConfig) (listenerName : String)
        (request : RequestMeta) (i j : ℕ),
      MoreSpecific isMatch config listenerName request i j →
        ¬ SelectedAt isMatch config listenerName request j := by
  intro hall
  refine hall (fun _ _ => false) twoHostnames "http"
    { host := some "foo.example.com", path := "/api" } 0 1 ?_ ⟨_, rfl⟩
  exact ⟨_, _, hostnameRank "foo.example.com", ⊥,
    ⟨rfl, rfl, rfl, _, List.mem_cons_self, _, (isGreatest_of_ruleMatches _ rfl).1⟩,
    ⟨rfl, rfl, rfl, _, List.mem_cons_self, _, (isGreatest_of_ruleMatches _ rfl).1⟩,
    isGreatest_hostnameRanks_singleton rfl (by decide), isGreatest_hostnameRanks_nil rfl _,
    by decide⟩

end Multiway.ProxyCore
