import Multiway.ProxyCore.RouteSpec

/-!
# Rules and matches without a path (`rule_matches`, `single_match_applies`)

A rule without matches, or a match without a path, is for every request, as
`PathPrefix` `/` is, but it ranks as a match with no path, below every prefix.
Written out as that prefix (`SpelledOut`), a rule matches the same requests
with a higher rank. The decision changes where this puts it before a rule that
came first without it (`Overtakes`), and nowhere else (`route_put`).
-/

namespace Multiway.ProxyCore

open Multiway.Lib

/-- `PathPrefix` `/`, the default of the HTTPRoute definition. -/
def everyPath : PathMatch := ⟨.pathPrefix, "/"⟩

/-- A rule with one missing path condition written out. -/
inductive SpelledOut (rule : RouteRule) : RouteRule → Prop
  | noMatches (hnil : rule.matches = []) :
      SpelledOut rule { rule with «matches» := [{ path := some everyPath }] }
  | noPath {pre post : List RouteMatch} {m : RouteMatch}
      (hsplit : rule.matches = pre ++ m :: post) (hpath : m.path = none) :
      SpelledOut rule { rule with «matches» := pre ++ { m with path := some everyPath } :: post }

/-- A rule of a configuration, and what stands around it. -/
structure RulePlace (config : ProxyConfig) where
  routesBefore : List RouteConfig
  route : RouteConfig
  routesAfter : List RouteConfig
  rulesBefore : List RouteRule
  rule : RouteRule
  rulesAfter : List RouteRule
  routes_eq : config.routes = routesBefore ++ route :: routesAfter
  rules_eq : route.rules = rulesBefore ++ rule :: rulesAfter

namespace RulePlace

variable {config : ProxyConfig} (place : RulePlace config) (listenerName : String)
  (request : RequestMeta)

/-- The configuration with another rule at the place. -/
def put (rule' : RouteRule) : ProxyConfig :=
  { config with
    routes := place.routesBefore ++
      { place.route with rules := place.rulesBefore ++ rule' :: place.rulesAfter } ::
        place.routesAfter }

/-- The route is one for the listener and the host. -/
def InPlay : Prop :=
  (place.route.attachedListeners.contains listenerName &&
    hostnameMatches place.route request.host) = true

/-- The rules in play before this one. -/
def before : List RouteRule :=
  rulesInPlay { config with routes := place.routesBefore } listenerName request ++
    place.rulesBefore

/-- The rules in play after this one. -/
def after : List RouteRule :=
  place.rulesAfter ++
    rulesInPlay { config with routes := place.routesAfter } listenerName request

/-- The rule is in play and comes first with the other contents, but not with
its own. -/
structure Overtakes (isMatch : String → String → Bool) (rule' : RouteRule) : Prop where
  inPlay : place.InPlay listenerName request
  leads : TakesLead (offers isMatch · request) (place.before listenerName request) rule'
    (place.after listenerName request)
  trails : ¬ TakesLead (offers isMatch · request) (place.before listenerName request) place.rule
    (place.after listenerName request)

theorem put_rule : place.put place.rule = config := by
  rw [put, ← place.rules_eq, ← place.routes_eq]

variable {listenerName request}

/-- The rules of a route have no part in whether it is for the host. -/
theorem hostnameMatches_rules (route : RouteConfig) (rules : List RouteRule)
    (host : Option String) :
    hostnameMatches { route with rules } host = hostnameMatches route host := rfl

theorem rulesInPlay_put (h : place.InPlay listenerName request) (rule' : RouteRule) :
    rulesInPlay (place.put rule') listenerName request =
      place.before listenerName request ++ rule' :: place.after listenerName request := by
  unfold InPlay at h
  simp only [rulesInPlay, put, before, after, List.filter_append, List.filter_cons,
    hostnameMatches_rules, h, if_true, List.flatMap_append, List.flatMap_cons, List.append_assoc,
    List.cons_append]

theorem rulesInPlay_put_of_not (h : ¬ place.InPlay listenerName request) (rule' : RouteRule) :
    rulesInPlay (place.put rule') listenerName request =
      rulesInPlay config listenerName request := by
  conv_rhs => rw [← place.put_rule]
  unfold InPlay at h
  simp only [rulesInPlay, put, List.filter_append, List.filter_cons, hostnameMatches_rules, h,
    Bool.false_eq_true, if_false]

end RulePlace

section
variable {isMatch : String → String → Bool} {rule rule' : RouteRule} {request : RequestMeta}

/-- A rule that offers anything has a best offer. -/
theorem exists_isGreatest_offers (h : (offers isMatch rule request).Nonempty) :
    ∃ r, IsGreatest (offers isMatch rule request) r := by
  cases hmatches : ruleMatches isMatch rule request with
  | none =>
    rw [(ruleMatches_eq_none_iff isMatch).mp hmatches] at h
    exact absurd h Set.not_nonempty_empty
  | some p => exact ⟨p.tuple, isGreatest_of_ruleMatches isMatch hmatches⟩

/-- Every path has the prefix `/`. -/
theorem passes_everyPath {m : RouteMatch} (hpath : m.path = none) :
    MatchPasses isMatch { m with path := some everyPath } request ↔
      MatchPasses isMatch m request := by
  constructor
  · intro h
    refine ⟨fun pm hpm => ?_, h.method, h.headers, h.queryParams⟩
    rw [hpath] at hpm
    cases hpm
  · intro h
    refine ⟨fun pm hpm => ?_, h.method, h.headers, h.queryParams⟩
    obtain rfl := Option.some.inj hpm
    change prefixPathMatches "/" request.path = true
    exact if_pos rfl

/-- A prefix ranks above no path at all. -/
theorem matchRank_lt_everyPath {m : RouteMatch} (hpath : m.path = none) :
    matchRank m < matchRank { m with path := some everyPath } := by
  refine Prod.Lex.toLex_lt_toLex.mpr (Or.inl ?_)
  rw [hpath]
  exact Nat.zero_lt_one

/-- Written out, a rule matches the same requests, with ranks as high. -/
theorem SpelledOut.outbids (h : SpelledOut rule rule') :
    Outbids (offers isMatch · request) rule rule' := by
  cases h with
  | noMatches hnil =>
    refine ⟨fun _ => ⟨⊥, Or.inl ⟨hnil, rfl⟩⟩, ?_⟩
    rintro r (⟨-, rfl⟩ | ⟨m, hm, -⟩)
    · refine ⟨_, Or.inr ⟨_, List.mem_singleton_self _, ?_, rfl⟩, bot_le⟩
      exact (passes_everyPath (m := {}) rfl).mpr ⟨by simp, by simp, by simp, by simp⟩
    · rw [hnil] at hm
      cases hm
  | @noPath pre post m hsplit hpath =>
    constructor
    · rintro ⟨r, ⟨hnil, -⟩ | ⟨other, hother, hpasses, rfl⟩⟩
      · exact absurd hnil (by simp)
      rcases List.mem_append.mp hother with hmem | hmem
      · exact ⟨_, Or.inr ⟨other, hsplit ▸ List.mem_append_left _ hmem, hpasses, rfl⟩⟩
      rcases List.mem_cons.mp hmem with rfl | hmem
      · exact ⟨_, Or.inr ⟨m, hsplit ▸ List.mem_append_cons_self,
          (passes_everyPath hpath).mp hpasses, rfl⟩⟩
      · exact ⟨_, Or.inr ⟨other,
          hsplit ▸ List.mem_append_right _ (List.mem_cons_of_mem _ hmem), hpasses, rfl⟩⟩
    · rintro r (⟨hnil, -⟩ | ⟨other, hother, hpasses, rfl⟩)
      · exact absurd (hsplit.symm.trans hnil) (by simp)
      rw [hsplit] at hother
      rcases List.mem_append.mp hother with hmem | hmem
      · exact ⟨_, Or.inr ⟨other, List.mem_append_left _ hmem, hpasses, rfl⟩, le_rfl⟩
      rcases List.mem_cons.mp hmem with rfl | hmem
      · exact ⟨_, Or.inr ⟨_, List.mem_append_cons_self, (passes_everyPath hpath).mpr hpasses,
          rfl⟩, (matchRank_lt_everyPath hpath).le⟩
      · exact ⟨_, Or.inr ⟨other, List.mem_append_right _ (List.mem_cons_of_mem _ hmem),
          hpasses, rfl⟩, le_rfl⟩

/-- Filters, backends and timeout stay as they are. -/
theorem SpelledOut.buildDecision_eq (h : SpelledOut rule rule') :
    buildDecision rule' request = buildDecision rule request := by
  cases h <;> rfl

theorem SpelledOut.isSome_ruleMatches (h : SpelledOut rule rule') :
    (ruleMatches isMatch rule' request).isSome ↔ (ruleMatches isMatch rule request).isSome := by
  have houtbids : Outbids (offers isMatch · request) rule rule' := h.outbids
  have hnonempty := houtbids.nonempty_iff
  simp only [Set.nonempty_iff_ne_empty, ne_eq, ← ruleMatches_eq_none_iff] at hnonempty
  simpa only [Option.isSome_iff_ne_none] using hnonempty

/-- What is selected stands somewhere among the rules in play and leads there. -/
theorem exists_selects_iff {config : ProxyConfig} {listenerName : String} :
    (∃ best, Selects isMatch config listenerName request rule best) ↔
      ∃ pre post, rulesInPlay config listenerName request = pre ++ rule :: post ∧
        TakesLead (offers isMatch · request) pre rule post := by
  constructor
  · rintro ⟨best, pre, post, hplay, hleads⟩
    exact ⟨pre, post, hplay, best, hleads⟩
  · rintro ⟨pre, post, hplay, best, hleads⟩
    exact ⟨best, pre, post, hplay, hleads⟩

/-- Whoever leads takes the decision. -/
theorem route_of_leads {config : ProxyConfig} {listenerName : String} {pre post : List RouteRule}
    (hplay : rulesInPlay config listenerName request = pre ++ rule :: post)
    (hleads : TakesLead (offers isMatch · request) pre rule post) :
    route isMatch config listenerName request = buildDecision rule request := by
  obtain ⟨best, hselects⟩ := exists_selects_iff.mpr ⟨pre, post, hplay, hleads⟩
  exact hselects.route_eq

/-- A rule that comes first in neither form leaves the decision to the others. -/
theorem SpelledOut.route_put_eq {config : ProxyConfig} {place : RulePlace config}
    {listenerName : String} (h : SpelledOut place.rule rule')
    (hplay : place.InPlay listenerName request)
    (hleads : ¬ TakesLead (offers isMatch · request) (place.before listenerName request)
      place.rule (place.after listenerName request))
    (hleads' : ¬ TakesLead (offers isMatch · request) (place.before listenerName request)
      rule' (place.after listenerName request)) :
    route isMatch (place.put rule') listenerName request =
      route isMatch config listenerName request := by
  have hconfig := place.rulesInPlay_put hplay place.rule
  rw [place.put_rule] at hconfig
  have hput := place.rulesInPlay_put hplay rule'
  by_cases hfound : route isMatch config listenerName request = .notFound
  · -- a rule that offers nothing goes on to offer nothing
    rw [hfound, route_eq_notFound_iff, hput, List.forall_mem_append, List.forall_mem_cons]
    rw [route_eq_notFound_iff, hconfig, List.forall_mem_append, List.forall_mem_cons] at hfound
    obtain ⟨hbefore, hempty, hafter⟩ := hfound
    refine ⟨hbefore, ?_, hafter⟩
    rw [← Set.not_nonempty_iff_eq_empty] at hempty ⊢
    exact fun hsome => hempty (h.outbids.nonempty hsome)
  · obtain ⟨other, best, hselects⟩ := exists_selects isMatch hfound
    obtain ⟨pre, post, hsplit, hother⟩ := exists_selects_iff.mp ⟨best, hselects⟩
    rw [hconfig] at hsplit
    obtain ⟨pre', post', hsplit', hother'⟩ :=
      hother.beside hsplit exists_isGreatest_offers hleads hleads'
    rw [hselects.route_eq]
    exact route_of_leads (hput.trans hsplit') hother'

/-- **What writing out a default does.** The rule matches the requests it
matched before, and the decision stays, except where the rule overtakes: there
it becomes the decision of the rule. -/
theorem route_put {config : ProxyConfig} (place : RulePlace config) (listenerName : String)
    (request : RequestMeta) (h : SpelledOut place.rule rule') :
    ((ruleMatches isMatch rule' request).isSome ↔
      (ruleMatches isMatch place.rule request).isSome) ∧
    (¬ place.Overtakes listenerName request isMatch rule' →
      route isMatch (place.put rule') listenerName request =
        route isMatch config listenerName request) ∧
    (place.Overtakes listenerName request isMatch rule' →
      route isMatch (place.put rule') listenerName request =
        buildDecision place.rule request) := by
  refine ⟨h.isSome_ruleMatches, fun hnot => ?_, fun hover => ?_⟩
  · by_cases hplay : place.InPlay listenerName request
    · by_cases hleads : TakesLead (offers isMatch · request) (place.before listenerName request)
          place.rule (place.after listenerName request)
      · -- the rule came first before, and has not become worse
        have hconfig := place.rulesInPlay_put hplay place.rule
        rw [place.put_rule] at hconfig
        rw [route_of_leads hconfig hleads, ← h.buildDecision_eq]
        exact route_of_leads (place.rulesInPlay_put hplay rule')
          (hleads.outbid h.outbids exists_isGreatest_offers)
      · exact h.route_put_eq hplay hleads fun hl => hnot ⟨hplay, hl, hleads⟩
    · rw [route_eq_winner, route_eq_winner, winner, winner, place.rulesInPlay_put_of_not hplay]
  · rw [← h.buildDecision_eq]
    exact route_of_leads (place.rulesInPlay_put hover.inPlay rule') hover.leads

end

/-! ### A rule without matches beside one for a method -/

def fallbackRule : RouteRule :=
  { «matches» := [], backends := [⟨"default", "fallback", 80, 1, .http1⟩] }

def getRule : RouteRule :=
  { «matches» := [{ method := some "GET" }], backends := [⟨"default", "get", 80, 1, .http1⟩] }

def fallbackRoute : RouteConfig where
  name := "route"
  «namespace» := "default"
  attachedListeners := ["http"]
  rules := [fallbackRule, getRule]

/-- The rule without matches, first in the only route. -/
def fallbackPlace : RulePlace { routes := [fallbackRoute] } where
  routesBefore := []
  route := fallbackRoute
  routesAfter := []
  rulesBefore := []
  rule := fallbackRule
  rulesAfter := [getRule]
  routes_eq := rfl
  rules_eq := rfl

def getRoot : RequestMeta := { host := none, path := "/" }

/-- Written out, the rule is before the one for the method. -/
theorem route_put_fallback :
    route (fun _ _ => false)
        (fallbackPlace.put { fallbackRule with «matches» := [{ path := some everyPath }] })
        "http" getRoot =
      buildDecision fallbackRule getRoot := by
  have hmatches : ruleMatches (fun _ _ => false) getRule getRoot = some ⟨0, 0, true, 0, 0⟩ := by
    decide
  have hget := isGreatest_of_ruleMatches (fun _ _ => false) hmatches
  refine (route_put fallbackPlace "http" getRoot (.noMatches rfl)).2.2 ⟨rfl, ?_, ?_⟩
  · refine ⟨_, isGreatest_of_ruleMatches (p := ⟨1, 1, false, 0, 0⟩) _ (by decide), nofun, ?_⟩
    intro other hother r hr
    obtain rfl := List.mem_singleton.mp hother
    exact (hget.2 hr).trans (by decide)
  · rintro ⟨best, hbest, -, hafter⟩
    have hfallback : ruleMatches (fun _ _ => false) fallbackRule getRoot =
        some ⟨0, 0, false, 0, 0⟩ := by decide
    have hbot := isGreatest_of_ruleMatches (fun _ _ => false) hfallback
    have hle := hafter getRule (List.mem_singleton_self _) _ hget.1
    rw [hbest.unique hbot] at hle
    exact absurd hle (by decide)

/-- As it stands it is behind it. -/
theorem default_changes_decision :
    ¬ ∀ (isMatch : String → String → Bool) (config : ProxyConfig) (place : RulePlace config)
        (rule' : RouteRule) (listenerName : String) (request : RequestMeta),
      SpelledOut place.rule rule' →
        route isMatch (place.put rule') listenerName request =
          route isMatch config listenerName request := by
  intro h
  have hsame := h (fun _ _ => false) { routes := [fallbackRoute] } fallbackPlace _ "http" getRoot
    (.noMatches rfl)
  revert hsame
  decide

end Multiway.ProxyCore
