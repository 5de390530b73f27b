import Multiway.ProxyCore.Routing

/-!
# What `route` is for

The documented specification of route matching, stated without loops. A rule
offers the ranks of its passing matches (`offers`); the rules in play for a
request are those of the attached routes whose hostnames match, in
configuration order (`rulesInPlay`). `Routes` says what the decision has to
be: `notFound` when nothing in play is offered, otherwise the decision of the
first rule whose best offer no other rule exceeds.

The engine meets it because both of its loops are running maxima
(`Lib.Argmax`): `ruleMatches_eq_argmax` for the loop over a rule's matches,
`route_eq_argmax` for the two nested loops over routes and rules, flattened.
-/

namespace Multiway.ProxyCore

open Multiway.Lib
open Multiway.Lib.Text

variable (isMatch : String → String → Bool)

/-! ## The specification -/

/-- Every condition of the match holds of the request. -/
structure MatchPasses (m : RouteMatch) (request : RequestMeta) : Prop where
  path : ∀ pm, m.path = some pm → pathMatches isMatch pm.matchType pm.value request.path = true
  method : ∀ name, m.method = some name → eqIgnoreAsciiCase request.method name = true
  headers : ∀ hm ∈ m.headers, headerMatches isMatch hm request.headers = true
  queryParams : ∀ qpm ∈ m.queryParams, queryParamMatches isMatch qpm request.queryParams = true

/-- How specific a match is: path kind, path length, has method, header count,
query-parameter count, compared lexicographically. -/
def matchRank (m : RouteMatch) : PrecedenceTuple :=
  let path : ℕ × ℕ :=
    match m.path with
    | some ⟨.exact, value⟩ => (2, value.utf8ByteSize)
    | some ⟨.pathPrefix, value⟩ => (1, value.utf8ByteSize)
    | some ⟨.regularExpression, value⟩ => (0, value.utf8ByteSize)
    | none => (0, 0)
  toLex (path.1, toLex (path.2,
    toLex (m.method.isSome, toLex (m.headers.length, m.queryParams.length))))

/-- The ranks a rule offers for a request: those of its passing matches, or
the least of all ranks, `⊥`, when it has no matches at all. -/
def offers (rule : RouteRule) (request : RequestMeta) : Set PrecedenceTuple :=
  {r | (rule.matches = [] ∧ r = ⊥) ∨
    ∃ m ∈ rule.matches, MatchPasses isMatch m request ∧ matchRank m = r}

/-- The rules of the routes that are attached to the listener and whose
hostnames match, in configuration order. -/
def rulesInPlay (config : ProxyConfig) (listenerName : String) (request : RequestMeta) :
    List RouteRule :=
  (config.routes.filter fun route =>
    route.attachedListeners.contains listenerName && hostnameMatches route request.host).flatMap
    RouteConfig.rules

/-- The decision of the winning rule: a redirect computed from its first
`RequestRedirect` filter, or a forward with exactly its own contents. -/
inductive Decides (rule : RouteRule) (request : RequestMeta) : RoutingDecision → Prop
  | redirect {pre post : List Filter} {scheme hostname : Option String}
      {port : Option UInt16} {path : Option PathModifier} {statusCode : Option UInt16}
      (hfilters : rule.filters = pre ++ .requestRedirect scheme hostname port path statusCode :: post)
      (hfirst : ∀ s h p m c, .requestRedirect s h p m c ∉ pre) :
      Decides rule request (.redirect
        { statusCode := statusCode.getD 302
          location := buildRedirectLocation scheme hostname port path request })
  | forward (hnone : ∀ s h p m c, .requestRedirect s h p m c ∉ rule.filters) :
      Decides rule request (.forward rule.backends rule.filters rule.timeout)

/-- The documented matching algorithm as a relation between a request and the
decision taken for it. -/
inductive Routes (config : ProxyConfig) (listenerName : String) (request : RequestMeta) :
    RoutingDecision → Prop
  | notFound
      (hnone : ∀ rule ∈ rulesInPlay config listenerName request,
        offers isMatch rule request = ∅) :
      Routes config listenerName request .notFound
  | winner {pre post : List RouteRule} {rule : RouteRule} {best : PrecedenceTuple}
      {decision : RoutingDecision}
      (hplay : rulesInPlay config listenerName request = pre ++ rule :: post)
      (hbest : IsGreatest (offers isMatch rule request) best)
      (hpre : ∀ other ∈ pre, ∀ r ∈ offers isMatch other request, r < best)
      (hpost : ∀ other ∈ post, ∀ r ∈ offers isMatch other request, r ≤ best)
      (hdecision : Decides rule request decision) :
      Routes config listenerName request decision

/-! ## One match -/

private theorem tuple_matchRank {m : RouteMatch} {request : RequestMeta}
    {pathKind pathLength : Nat}
    (h : pathPrecedence isMatch m.path request.path = some (pathKind, pathLength)) :
    (⟨pathKind, pathLength, m.method.isSome, m.headers.length,
      m.queryParams.length⟩ : MatchPrecedence).tuple = matchRank m := by
  unfold matchRank MatchPrecedence.tuple
  unfold pathPrecedence at h
  rcases hpath : m.path with _ | ⟨matchType, value⟩
  · rw [hpath] at h
    obtain ⟨rfl, rfl⟩ : 0 = pathKind ∧ 0 = pathLength := by simpa using h
    rfl
  · rw [hpath] at h
    simp only at h
    split at h
    · cases matchType <;> simp only [Option.some.injEq, Prod.mk.injEq] at h <;>
        obtain ⟨rfl, rfl⟩ := h <;> rfl
    · exact absurd h (by simp)

private theorem pathPrecedence_isSome {m : RouteMatch} {request : RequestMeta} :
    (pathPrecedence isMatch m.path request.path).isSome = true ↔
      ∀ pm, m.path = some pm →
        pathMatches isMatch pm.matchType pm.value request.path = true := by
  unfold pathPrecedence
  rcases m.path with _ | ⟨matchType, value⟩
  · simp
  · simp only [Option.some.injEq, forall_eq']
    split
    next h => cases matchType <;> simp [h]
    next h => simp [h]

/-- `singleMatchApplies` succeeds exactly when every condition holds, and
reports the match's rank. -/
theorem passes_of_singleMatchApplies {m : RouteMatch} {request : RequestMeta}
    {p : MatchPrecedence} (hp : singleMatchApplies isMatch m request = some p) :
    MatchPasses isMatch m request ∧ p.tuple = matchRank m := by
  unfold singleMatchApplies at hp
  split at hp
  · exact absurd hp (by simp)
  next pathKind pathLength hpath =>
    split at hp
    · exact absurd hp (by simp)
    next hmethod =>
      split at hp
      · exact absurd hp (by simp)
      next hheaders =>
        split at hp
        · exact absurd hp (by simp)
        next hquery =>
          obtain rfl := Option.some.inj hp
          refine ⟨⟨?_, ?_, ?_, ?_⟩, tuple_matchRank isMatch hpath⟩
          · exact (pathPrecedence_isSome isMatch).mp (by rw [hpath]; rfl)
          · intro name hname
            simpa [hname] using hmethod
          · simpa using hheaders
          · simpa using hquery

theorem singleMatchApplies_isSome {m : RouteMatch} {request : RequestMeta}
    (h : MatchPasses isMatch m request) :
    ∃ p, singleMatchApplies isMatch m request = some p := by
  obtain ⟨⟨pathKind, pathLength⟩, hpath⟩ :=
    Option.isSome_iff_exists.mp ((pathPrecedence_isSome isMatch).mpr h.path)
  have hmethod : (m.method.any fun method => !eqIgnoreAsciiCase request.method method) = false := by
    rcases hm : m.method with _ | name
    · rfl
    · simp [h.method name hm]
  have hheaders : m.headers.all (headerMatches isMatch · request.headers) = true :=
    List.all_eq_true.mpr h.headers
  have hquery : m.queryParams.all (queryParamMatches isMatch · request.queryParams) = true :=
    List.all_eq_true.mpr h.queryParams
  unfold singleMatchApplies
  simp only [hpath, hmethod, hheaders, hquery]
  exact ⟨_, rfl⟩

/-! ## One rule -/

/-- The loop over a rule's matches is a running maximum. -/
theorem ruleMatches_eq_argmax {rule : RouteRule} (request : RequestMeta)
    (h : rule.matches ≠ []) :
    ruleMatches isMatch rule request =
      (rule.matches.filterMap (singleMatchApplies isMatch · request)).argmax
        MatchPrecedence.tuple := by
  unfold ruleMatches
  rw [if_neg (by simpa using h), ← foldl_keepBest, List.foldl_filterMap]
  congr 1
  funext best routeMatch
  rcases singleMatchApplies isMatch routeMatch request with _ | p <;> rfl

theorem ruleMatches_eq_none_iff {rule : RouteRule} {request : RequestMeta} :
    ruleMatches isMatch rule request = none ↔ offers isMatch rule request = ∅ := by
  by_cases hm : rule.matches = []
  · have hsome : ruleMatches isMatch rule request = some ⟨0, 0, false, 0, 0⟩ := by
      unfold ruleMatches
      rw [hm]
      rfl
    have hbot : (⊥ : PrecedenceTuple) ∈ offers isMatch rule request := Or.inl ⟨hm, rfl⟩
    rw [hsome]
    refine ⟨fun h => absurd h (by simp), fun h => ?_⟩
    rw [h] at hbot
    exact absurd hbot (Set.notMem_empty _)
  · rw [ruleMatches_eq_argmax isMatch request hm, List.argmax_eq_none,
      List.filterMap_eq_nil_iff, Set.eq_empty_iff_forall_notMem]
    constructor
    · rintro h r (⟨hnil, -⟩ | ⟨m, hmem, hpass, -⟩)
      · exact hm hnil
      · obtain ⟨p, hp⟩ := singleMatchApplies_isSome isMatch hpass
        rw [h m hmem] at hp
        exact absurd hp (by simp)
    · intro h m hmem
      rcases hs : singleMatchApplies isMatch m request with _ | p
      · rfl
      · have hpass := (passes_of_singleMatchApplies isMatch hs).1
        exact absurd (Or.inr ⟨m, hmem, hpass, rfl⟩) (h (matchRank m))

/-- The precedence reported for a rule is the greatest of its offers. -/
theorem isGreatest_of_ruleMatches {rule : RouteRule} {request : RequestMeta}
    {p : MatchPrecedence} (h : ruleMatches isMatch rule request = some p) :
    IsGreatest (offers isMatch rule request) p.tuple := by
  by_cases hm : rule.matches = []
  · have hp : p = ⟨0, 0, false, 0, 0⟩ := by
      unfold ruleMatches at h
      rw [hm] at h
      exact (Option.some.inj h).symm
    have hbot : p.tuple = (⊥ : PrecedenceTuple) := by
      rw [hp]
      rfl
    rw [hbot]
    refine ⟨Or.inl ⟨hm, rfl⟩, ?_⟩
    rintro r (⟨-, rfl⟩ | ⟨m, hmem, -⟩)
    · exact le_rfl
    · rw [hm] at hmem
      exact absurd hmem (List.not_mem_nil)
  · rw [ruleMatches_eq_argmax isMatch request hm] at h
    have hmem := List.argmax_mem h
    obtain ⟨m, hm₁, hs⟩ := List.mem_filterMap.mp hmem
    obtain ⟨hpass, hrank⟩ := passes_of_singleMatchApplies isMatch hs
    refine ⟨Or.inr ⟨m, hm₁, hpass, hrank.symm⟩, ?_⟩
    rintro r (⟨hnil, -⟩ | ⟨m', hm', hpass', rfl⟩)
    · exact absurd hnil hm
    · obtain ⟨p', hp'⟩ := singleMatchApplies_isSome isMatch hpass'
      rw [← (passes_of_singleMatchApplies isMatch hp').2]
      exact List.le_of_mem_argmax (List.mem_filterMap.mpr ⟨m', hm', hp'⟩) h

/-! ## All rules -/

/-- What one rule contributes to the search. -/
def candidate (request : RequestMeta) (rule : RouteRule) : Option MatchCandidate :=
  (ruleMatches isMatch rule request).map fun precedence => ⟨rule, precedence⟩

private theorem considerRule_eq (request : RequestMeta) (best : Option MatchCandidate)
    (rule : RouteRule) :
    considerRule isMatch request best rule =
      match candidate isMatch request rule with
      | some c => keepBest (fun c : MatchCandidate => c.precedence.tuple) best c
      | none => best := by
  unfold considerRule candidate
  rcases ruleMatches isMatch rule request with _ | p <;> rfl

/-- The rule `route` decides by, if there is one. -/
def winner (config : ProxyConfig) (listenerName : String) (request : RequestMeta) :
    Option MatchCandidate :=
  ((rulesInPlay config listenerName request).filterMap (candidate isMatch request)).argmax
    fun c => c.precedence.tuple

/-- **The nested loops of `route` are one running maximum** over the rules in
play. -/
theorem route_eq_winner (config : ProxyConfig) (listenerName : String)
    (request : RequestMeta) :
    route isMatch config listenerName request =
      match winner isMatch config listenerName request with
      | some c => buildDecision c.rule request
      | none => .notFound := by
  have hloop : config.routes.foldl (fun best route =>
      if !route.attachedListeners.contains listenerName then best
      else if !hostnameMatches route request.host then best
      else route.rules.foldl (considerRule isMatch request) best) none =
      winner isMatch config listenerName request := by
    unfold winner rulesInPlay
    rw [← foldl_keepBest, List.foldl_filterMap, List.foldl_flatMap, List.foldl_filter]
    congr 1
    funext best route
    rcases hattached : route.attachedListeners.contains listenerName with _ | _
    · simp only [Bool.not_false, Bool.false_and, if_true, if_false, Bool.false_eq_true]
    · rcases hhost : hostnameMatches route request.host with _ | _
      · simp only [Bool.not_true, Bool.not_false, Bool.and_false, if_true, if_false,
          Bool.false_eq_true]
      · simp only [Bool.not_true, Bool.and_self, if_true, if_false, Bool.false_eq_true]
        congr 1
        funext best rule
        rw [considerRule_eq]
        rcases candidate isMatch request rule with _ | c <;> rfl
  unfold route
  rcases hwinner : winner isMatch config listenerName request with _ | c
  · simp only [hloop, hwinner]
  · simp only [hloop, hwinner]

theorem candidate_eq_none {request : RequestMeta} {rule : RouteRule}
    (h : candidate isMatch request rule = none) : offers isMatch rule request = ∅ := by
  refine (ruleMatches_eq_none_iff isMatch).mp ?_
  simpa [candidate] using h

theorem candidate_eq_some {request : RequestMeta} {rule : RouteRule}
    {c : MatchCandidate} (h : candidate isMatch request rule = some c) :
    c.rule = rule ∧ IsGreatest (offers isMatch rule request) c.precedence.tuple := by
  obtain ⟨p, hp, rfl⟩ := Option.map_eq_some_iff.mp h
  exact ⟨rfl, isGreatest_of_ruleMatches isMatch hp⟩

/-- An offer never exceeds what its rule's candidate was ranked by. -/
theorem offer_le {request : RequestMeta} {rule : RouteRule} {r : PrecedenceTuple}
    (h : r ∈ offers isMatch rule request) :
    ∃ c, candidate isMatch request rule = some c ∧ r ≤ c.precedence.tuple := by
  rcases hc : candidate isMatch request rule with _ | c
  · rw [candidate_eq_none isMatch hc] at h
    exact absurd h (Set.notMem_empty _)
  · exact ⟨c, rfl, (candidate_eq_some isMatch hc).2.2 h⟩

/-! ## The decision -/

/-- What `firstRedirect` found, as a split of the filter list. -/
private theorem firstRedirect_eq_some {request : RequestMeta} {response : RedirectResponse}
    {filters : List Filter} (h : firstRedirect request filters = some response) :
    ∃ pre post scheme hostname port path statusCode,
      filters = pre ++ .requestRedirect scheme hostname port path statusCode :: post ∧
      (∀ s n p m c, .requestRedirect s n p m c ∉ pre) ∧
      response = ⟨statusCode.getD 302,
        buildRedirectLocation scheme hostname port path request⟩ := by
  induction filters with
  | nil => exact absurd h (by simp [firstRedirect])
  | cons filter filters ih =>
    cases filter with
    | requestRedirect scheme hostname port path statusCode =>
      exact ⟨[], filters, scheme, hostname, port, path, statusCode, rfl, by simp,
        (Option.some.inj h).symm⟩
    | requestHeaderModifier add set remove =>
      obtain ⟨pre, post, s, n, p, m, c, rfl, hpre, hr⟩ := ih h
      exact ⟨_ :: pre, post, s, n, p, m, c, rfl, by simpa using hpre, hr⟩
    | responseHeaderModifier add set remove =>
      obtain ⟨pre, post, s, n, p, m, c, rfl, hpre, hr⟩ := ih h
      exact ⟨_ :: pre, post, s, n, p, m, c, rfl, by simpa using hpre, hr⟩
    | urlRewrite hostname path =>
      obtain ⟨pre, post, s, n, p, m, c, rfl, hpre, hr⟩ := ih h
      exact ⟨_ :: pre, post, s, n, p, m, c, rfl, by simpa using hpre, hr⟩
    | requestMirror backend percent =>
      obtain ⟨pre, post, s, n, p, m, c, rfl, hpre, hr⟩ := ih h
      exact ⟨_ :: pre, post, s, n, p, m, c, rfl, by simpa using hpre, hr⟩

private theorem firstRedirect_eq_none {request : RequestMeta} {filters : List Filter}
    (h : firstRedirect request filters = none) :
    ∀ s n p m c, .requestRedirect s n p m c ∉ filters := by
  induction filters with
  | nil => simp
  | cons filter filters ih =>
    cases filter with
    | requestRedirect => exact absurd h (by simp [firstRedirect])
    | _ => simpa using ih h

/-- `buildDecision` decides by the first redirect of the rule. -/
theorem decides_buildDecision (rule : RouteRule) (request : RequestMeta) :
    Decides rule request (buildDecision rule request) := by
  unfold buildDecision
  split
  next response h =>
    obtain ⟨pre, post, s, n, p, m, c, hfilters, hpre, rfl⟩ := firstRedirect_eq_some h
    exact .redirect hfilters hpre
  next h => exact .forward (firstRedirect_eq_none h)

private theorem firstRedirect_split {request : RequestMeta} {pre post : List Filter}
    {scheme hostname : Option String} {port : Option UInt16} {path : Option PathModifier}
    {statusCode : Option UInt16} (hpre : ∀ s n p m c, .requestRedirect s n p m c ∉ pre) :
    firstRedirect request
        (pre ++ .requestRedirect scheme hostname port path statusCode :: post) =
      some ⟨statusCode.getD 302,
        buildRedirectLocation scheme hostname port path request⟩ := by
  induction pre with
  | nil => rfl
  | cons filter pre ih =>
    have hrest : ∀ s n p m c, .requestRedirect s n p m c ∉ pre :=
      fun s n p m c hmem => hpre s n p m c (List.mem_cons_of_mem _ hmem)
    cases filter with
    | requestRedirect s n p m c => exact absurd List.mem_cons_self (hpre s n p m c)
    | _ => exact ih hrest

private theorem firstRedirect_of_none {request : RequestMeta} {filters : List Filter}
    (h : ∀ s n p m c, .requestRedirect s n p m c ∉ filters) :
    firstRedirect request filters = none := by
  rcases hf : firstRedirect request filters with _ | response
  · rfl
  · obtain ⟨pre, post, s, n, p, m, c, rfl, -⟩ := firstRedirect_eq_some hf
    exact absurd List.mem_append_cons_self (h s n p m c)

/-- A rule decides one thing. -/
theorem Decides.eq_buildDecision {rule : RouteRule} {request : RequestMeta}
    {decision : RoutingDecision} (h : Decides rule request decision) :
    decision = buildDecision rule request := by
  unfold buildDecision
  cases h with
  | redirect hfilters hfirst => rw [hfilters, firstRedirect_split hfirst]
  | forward hnone => rw [firstRedirect_of_none hnone]

/-- A later winner would have to be both strictly better and no better. -/
private theorem winners_clash {request : RequestMeta} {earlier later : RouteRule}
    {best₁ best₂ : PrecedenceTuple} (hbest₁ : IsGreatest (offers isMatch earlier request) best₁)
    (hbest₂ : IsGreatest (offers isMatch later request) best₂)
    (hpost : ∀ r ∈ offers isMatch later request, r ≤ best₁)
    (hpre : ∀ r ∈ offers isMatch earlier request, r < best₂) : False := by
  have hlt := hpre best₁ hbest₁.1
  have hle := hpost best₂ hbest₂.1
  exact absurd hlt (not_lt.mpr hle)

/-- The specification leaves no choice. -/
theorem Routes.unique {config : ProxyConfig} {listenerName : String} {request : RequestMeta}
    {d₁ d₂ : RoutingDecision} (h₁ : Routes isMatch config listenerName request d₁)
    (h₂ : Routes isMatch config listenerName request d₂) : d₁ = d₂ := by
  cases h₁ with
  | notFound hnone =>
    cases h₂ with
    | notFound => rfl
    | winner hplay hbest =>
      have hempty := hnone _ (hplay ▸ List.mem_append_cons_self)
      rw [hempty] at hbest
      exact absurd hbest.1 (Set.notMem_empty _)
  | @winner pre₁ post₁ rule₁ best₁ _ hplay₁ hbest₁ hpre₁ hpost₁ hd₁ =>
    cases h₂ with
    | notFound hnone =>
      have hempty := hnone _ (hplay₁ ▸ List.mem_append_cons_self)
      rw [hempty] at hbest₁
      exact absurd hbest₁.1 (Set.notMem_empty _)
    | @winner pre₂ post₂ rule₂ best₂ _ hplay₂ hbest₂ hpre₂ hpost₂ hd₂ =>
      rw [hplay₁] at hplay₂
      rcases append_cons_cases hplay₂ with ⟨-, rfl, -⟩ | ⟨mid, rfl, rfl⟩ | ⟨mid, rfl, rfl⟩
      · exact hd₁.eq_buildDecision.trans hd₂.eq_buildDecision.symm
      · exact (winners_clash isMatch hbest₁ hbest₂ (hpost₁ rule₂ List.mem_append_cons_self)
          (hpre₂ rule₁ List.mem_append_cons_self)).elim
      · exact (winners_clash isMatch hbest₂ hbest₁ (hpost₂ rule₁ List.mem_append_cons_self)
          (hpre₁ rule₂ List.mem_append_cons_self)).elim

/-- `route` takes a decision the specification allows. -/
theorem routes_route (config : ProxyConfig) (listenerName : String) (request : RequestMeta) :
    Routes isMatch config listenerName request
      (route isMatch config listenerName request) := by
  rw [route_eq_winner]
  rcases hw : winner isMatch config listenerName request with _ | c
  · refine .notFound fun rule hrule => candidate_eq_none isMatch ?_
    exact List.filterMap_eq_nil_iff.mp (List.argmax_eq_none.mp hw) rule hrule
  · obtain ⟨cpre, cpost, hsplit, hpre, hpost⟩ := argmax_split hw
    -- split the rules in play where the winning candidate comes from
    obtain ⟨pre, rest, hplay, hcpre, hrest⟩ := List.filterMap_eq_append_iff.mp hsplit
    obtain ⟨skipped, rule, post, hrest', hskipped, hrule, hcpost⟩ :=
      List.filterMap_eq_cons_iff.mp hrest
    obtain ⟨rfl, hbest⟩ := candidate_eq_some isMatch hrule
    have hplay' : rulesInPlay config listenerName request =
        (pre ++ skipped) ++ c.rule :: post := by
      rw [hplay, hrest', List.append_assoc]
    refine .winner hplay' hbest ?_ ?_ (decides_buildDecision c.rule request)
    · intro other hother r hr
      obtain ⟨c', hc', hle⟩ := offer_le isMatch hr
      rcases List.mem_append.mp hother with hmem | hmem
      · refine lt_of_le_of_lt hle (hpre c' ?_)
        rw [← hcpre]
        exact List.mem_filterMap.mpr ⟨other, hmem, hc'⟩
      · rw [hskipped other hmem] at hc'
        exact absurd hc' (by simp)
    · intro other hother r hr
      obtain ⟨c', hc', hle⟩ := offer_le isMatch hr
      refine le_trans hle (hpost c' ?_)
      rw [← hcpost]
      exact List.mem_filterMap.mpr ⟨other, hother, hc'⟩

theorem route_eq_notFound_iff {config : ProxyConfig} {listenerName : String}
    {request : RequestMeta} :
    route isMatch config listenerName request = .notFound ↔
      ∀ rule ∈ rulesInPlay config listenerName request, offers isMatch rule request = ∅ := by
  have hroute := routes_route isMatch config listenerName request
  constructor
  · intro hnot
    rw [hnot] at hroute
    cases hroute with
    | notFound hnone => exact hnone
    | winner _ _ _ _ hdecision => cases hdecision
  · intro hnone
    exact hroute.unique isMatch (.notFound hnone)

/-! ## The selected rule -/

/-- The rule the decision is taken by, and the greatest rank it offers. -/
def Selects (config : ProxyConfig) (listenerName : String) (request : RequestMeta)
    (rule : RouteRule) (best : PrecedenceTuple) : Prop :=
  ∃ pre post, rulesInPlay config listenerName request = pre ++ rule :: post ∧
    IsGreatest (offers isMatch rule request) best ∧
    (∀ other ∈ pre, ∀ r ∈ offers isMatch other request, r < best) ∧
    ∀ other ∈ post, ∀ r ∈ offers isMatch other request, r ≤ best

variable {isMatch} in
theorem Selects.route_eq {config : ProxyConfig} {listenerName : String} {request : RequestMeta}
    {rule : RouteRule} {best : PrecedenceTuple}
    (h : Selects isMatch config listenerName request rule best) :
    route isMatch config listenerName request = buildDecision rule request := by
  obtain ⟨pre, post, hplay, hbest, hpre, hpost⟩ := h
  exact (routes_route isMatch config listenerName request).unique isMatch
    (.winner hplay hbest hpre hpost (decides_buildDecision rule request))

variable {isMatch} in
theorem Selects.mem {config : ProxyConfig} {listenerName : String} {request : RequestMeta}
    {rule : RouteRule} {best : PrecedenceTuple}
    (h : Selects isMatch config listenerName request rule best) :
    rule ∈ rulesInPlay config listenerName request := by
  obtain ⟨pre, post, hplay, -⟩ := h
  rw [hplay]
  exact List.mem_append_cons_self

/-- A rule that is alone in play is selected as soon as it matches. -/
theorem selects_of_alone {config : ProxyConfig} {listenerName : String} {request : RequestMeta}
    {rule : RouteRule} {p : MatchPrecedence}
    (hplay : rulesInPlay config listenerName request = [rule])
    (hmatches : ruleMatches isMatch rule request = some p) :
    Selects isMatch config listenerName request rule p.tuple :=
  ⟨[], [], hplay, isGreatest_of_ruleMatches isMatch hmatches, by simp, by simp⟩

/-- A request that is answered with anything but `notFound` has a selected rule. -/
theorem exists_selects {config : ProxyConfig} {listenerName : String} {request : RequestMeta}
    (h : route isMatch config listenerName request ≠ .notFound) :
    ∃ rule best, Selects isMatch config listenerName request rule best := by
  generalize hd : route isMatch config listenerName request = decision at h
  have hroute := routes_route isMatch config listenerName request
  rw [hd] at hroute
  cases hroute with
  | notFound => exact absurd rfl h
  | @winner pre post rule best _ hplay hbest hpre hpost _ =>
    exact ⟨rule, best, pre, post, hplay, hbest, hpre, hpost⟩

/-- **`route` meets its specification**: the decision is `notFound` when no
rule in play offers anything, and otherwise that of the first rule whose best
offer is greatest; it is the only decision the specification allows. -/
theorem route_correct (config : ProxyConfig) (listenerName : String) (request : RequestMeta)
    (decision : RoutingDecision) :
    route isMatch config listenerName request = decision ↔
      Routes isMatch config listenerName request decision := by
  have hroute := routes_route isMatch config listenerName request
  constructor
  · rintro rfl
    exact hroute
  · intro h
    exact hroute.unique isMatch h

end Multiway.ProxyCore
