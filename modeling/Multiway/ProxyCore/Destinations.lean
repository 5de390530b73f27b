import Multiway.ProxyCore.Pipeline
import Multiway.ProxyCore.RouteSpec

/-!
# Where a request goes

Whatever the pipeline does for a request, be it forwarded, mirrored or a
WebSocket upgrade, it looks up nothing and sends nothing anywhere but to the
backends and mirrors of the rule that is selected for the request
(`goesTo_call`, `goesTo_handleWebsocketUpgrade`).
-/

namespace Multiway.ProxyCore

open Multiway.Lib

variable {Addr : Type}

/-- The rule names the destination, as a backend with a weight or as a mirror. -/
inductive Destination (rule : RouteRule) : String → UInt16 → Prop
  | backend {b : Backend} (h : b ∈ rule.backends) (hweight : b.weight ≠ 0) :
      Destination rule b.name b.port
  | mirror {b : Backend} {percent : Option UInt32} (h : .requestMirror b percent ∈ rule.filters) :
      Destination rule b.name b.port

/-- An address that is used is the first the resolver gives for a destination. -/
inductive GoesTo (env : Env Addr) (P : String → UInt16 → Prop) : Effect Addr → Prop
  | resolve {host : String} {port : UInt16} (h : P host port) : GoesTo env P (.resolve host port)
  | spawnMirror {host : String} {port : UInt16} {addr : Addr} {rest : List Addr}
      (h : P host port) (haddr : env.resolve host port = some (addr :: rest)) (request : Request) :
      GoesTo env P (.spawnMirror addr request)
  | forward {host : String} {port : UInt16} {addr : Addr} {rest : List Addr}
      (h : P host port) (haddr : env.resolve host port = some (addr :: rest))
      (protocol : BackendProtocol) (request : Request) (timeout : Option F64) :
      GoesTo env P (.forward addr protocol request timeout)
  | connect {host : String} {port : UInt16} {addr : Addr} {rest : List Addr}
      (h : P host port) (haddr : env.resolve host port = some (addr :: rest)) :
      GoesTo env P (.connect addr)

theorem GoesTo.mono {env : Env Addr} {P Q : String → UInt16 → Prop} {e : Effect Addr}
    (h : GoesTo env P e) (hPQ : ∀ host port, P host port → Q host port) : GoesTo env Q e := by
  cases h with
  | resolve h => exact .resolve (hPQ _ _ h)
  | spawnMirror h haddr request => exact .spawnMirror (hPQ _ _ h) haddr request
  | forward h haddr protocol request timeout =>
    exact .forward (hPQ _ _ h) haddr protocol request timeout
  | connect h haddr => exact .connect (hPQ _ _ h) haddr

/-! ## The mirrors of a rule -/

theorem mirrors_collectFilter {applied after : AppliedFilter} {filter : Filter}
    (h : collectFilter applied filter = some after) :
    ∀ m ∈ after.mirrors, m ∈ applied.mirrors ∨
      ∃ percent, filter = .requestMirror m.backend percent := by
  cases filter with
  | requestMirror backend percent =>
    obtain rfl := Option.some.inj h
    intro m hm
    rcases List.mem_append.mp hm with hbefore | hnew
    · exact .inl hbefore
    · obtain rfl := List.mem_singleton.mp hnew
      exact .inr ⟨percent, rfl⟩
  | urlRewrite hostname path =>
    obtain ⟨rewrite, -, rfl⟩ := Option.map_eq_some_iff.mp h
    exact fun m hm => .inl hm
  | _ =>
    obtain rfl := Option.some.inj h
    exact fun m hm => .inl hm

theorem mirrors_collectFilters {filters : List Filter} {before after : AppliedFilter}
    (h : filters.foldlM collectFilter before = some after) :
    ∀ m ∈ after.mirrors, m ∈ before.mirrors ∨
      ∃ percent, Filter.requestMirror m.backend percent ∈ filters := by
  induction filters generalizing before with
  | nil =>
    obtain rfl := Option.some.inj h
    exact fun m hm => .inl hm
  | cons filter filters ih =>
    obtain ⟨mid, hmid, hrest⟩ := Option.bind_eq_some_iff.mp h
    intro m hm
    rcases ih hrest m hm with hearly | ⟨percent, hlate⟩
    · rcases mirrors_collectFilter hmid m hearly with hbefore | ⟨percent, rfl⟩
      · exact .inl hbefore
      · exact .inr ⟨percent, List.mem_cons_self⟩
    · exact .inr ⟨percent, List.mem_cons_of_mem _ hlate⟩

theorem mirrors_recomputeRewrite {filters : List Filter} {path : String}
    {before after : AppliedFilter} (h : recomputeRewrite filters path before = some after) :
    after.mirrors = before.mirrors := by
  induction filters generalizing before with
  | nil =>
    obtain rfl := Option.some.inj h
    rfl
  | cons filter filters ih =>
    obtain ⟨mid, hmid, hrest⟩ := Option.bind_eq_some_iff.mp h
    rw [ih hrest]
    cases filter with
    | urlRewrite hostname modifier =>
      obtain ⟨rewrite, -, rfl⟩ := Option.map_eq_some_iff.mp hmid
      rfl
    | _ =>
      obtain rfl := Option.some.inj hmid
      rfl

theorem mirrors_forwardRequest {routingMeta : RequestMeta} {request : Request}
    {backends : List Backend} {filters : List Filter} {timeout : Option TimeoutConfig}
    {req : ForwardRequest}
    (h : RouteAndFilter.forwardRequest routingMeta request backends filters timeout = some req) :
    req.backends = backends ∧ ∀ m ∈ req.appliedFilter.mirrors,
      ∃ percent, Filter.requestMirror m.backend percent ∈ filters := by
  obtain ⟨applied, happlied, rfl⟩ := Option.map_eq_some_iff.mp h
  obtain ⟨collected, hcollected, hrewritten⟩ := Option.bind_eq_some_iff.mp happlied
  refine ⟨rfl, fun m hm => ?_⟩
  have hmirror : m ∈ collected.mirrors := mirrors_recomputeRewrite hrewritten ▸ hm
  obtain hnone | hfilter := mirrors_collectFilters hcollected m hmirror
  · cases hnone
  · exact hfilter

/-! ## The selected backend -/

theorem pickBackend_mem {pick : UInt32} {backends : List Backend} {b : Backend}
    (h : pickBackend pick backends = some b) : b ∈ backends ∧ b.weight ≠ 0 := by
  induction backends generalizing pick with
  | nil => cases h
  | cons backend backends ih =>
    unfold pickBackend at h
    split at h
    · exact (ih h).imp_left (List.mem_cons_of_mem backend)
    next hweight =>
      split at h
      · obtain rfl := Option.some.inj h
        exact ⟨List.mem_cons_self, hweight⟩
      · exact (ih h).imp_left (List.mem_cons_of_mem backend)

theorem selectBackend_mem {randomRange : UInt32 → UInt32} {backends : List Backend} {b : Backend}
    (h : selectBackend randomRange backends = some b) : b ∈ backends ∧ b.weight ≠ 0 := by
  unfold selectBackend at h
  dsimp only at h
  split at h
  · cases h
  · obtain hpick | ⟨-, hfind⟩ := Option.or_eq_some_iff.mp h
    · exact pickBackend_mem hpick
    · have hpositive := List.find?_some hfind
      exact ⟨List.mem_of_find?_eq_some hfind,
        UInt32.pos_iff_ne_zero.mp (of_decide_eq_true hpositive)⟩

/-! ## The pipeline -/

section
variable {env : Env Addr} {rule : RouteRule}

theorem goesTo_mirrorEffects {upstreamReq : Request} {m : MirrorTarget} {i : ℕ}
    (h : Destination rule m.backend.name m.backend.port) :
    ∀ e ∈ UpstreamForwarder.mirrorEffects env upstreamReq (m, i),
      GoesTo env (Destination rule) e := by
  unfold UpstreamForwarder.mirrorEffects
  dsimp only
  split
  · exact fun e he => absurd he List.not_mem_nil
  · refine List.forall_mem_cons.mpr ⟨.resolve h, ?_⟩
    split
    next addr rest haddr =>
      intro e he
      obtain rfl := List.mem_singleton.mp he
      exact .spawnMirror h haddr _
    · exact fun e he => absurd he List.not_mem_nil

theorem goesTo_forwarder {req : ForwardRequest} (hbackends : req.backends = rule.backends)
    (hmirrors : ∀ m ∈ req.appliedFilter.mirrors,
      ∃ percent, Filter.requestMirror m.backend percent ∈ rule.filters) :
    ∀ e ∈ (UpstreamForwarder.call env req).1, GoesTo env (Destination rule) e := by
  unfold UpstreamForwarder.call
  rcases hselect : selectBackend env.selectDraw req.backends with _ | b
  · exact fun e he => absurd he List.not_mem_nil
  · obtain ⟨hmem, hweight⟩ := selectBackend_mem hselect
    rw [hbackends] at hmem
    have hdestination : Destination rule b.name b.port := .backend hmem hweight
    dsimp only
    split
    next addr rest haddr =>
      split
      · intro e he
        obtain rfl := List.mem_singleton.mp he
        exact .resolve hdestination
      next timeout htimeout =>
        have heffects : ∀ e ∈ Effect.resolve b.name b.port ::
            (req.appliedFilter.mirrors.zipIdx.flatMap (UpstreamForwarder.mirrorEffects env
              (buildUpstreamRequest env.http req.request req.host req.appliedFilter)) ++
              [.forward addr b.protocol
                (buildUpstreamRequest env.http req.request req.host req.appliedFilter) timeout]),
            GoesTo env (Destination rule) e := by
          refine List.forall_mem_cons.mpr ⟨.resolve hdestination, fun e he => ?_⟩
          rcases List.mem_append.mp he with hmirror | hforward
          · obtain ⟨⟨m, i⟩, hm, he⟩ := List.mem_flatMap.mp hmirror
            obtain ⟨percent, hfilter⟩ := hmirrors m (List.fst_mem_of_mem_zipIdx hm)
            exact goesTo_mirrorEffects (.mirror hfilter) e he
          · obtain rfl := List.mem_singleton.mp hforward
            exact .forward hdestination haddr _ _ _
        split <;> exact heffects
    · intro e he
      obtain rfl := List.mem_singleton.mp he
      exact .resolve hdestination

end

section
variable {env : Env Addr} {isMatch : String → String → Bool} {config : ProxyConfig}
  {listenerName : String} {routingMeta : RequestMeta}

/-- A request is forwarded by the rule that is selected. -/
theorem selected_of_forward {backends : List Backend} {filters : List Filter}
    {timeout : Option TimeoutConfig}
    (h : route isMatch config listenerName routingMeta = .forward backends filters timeout) :
    ∃ rule best, Selects isMatch config listenerName routingMeta rule best ∧
      rule.backends = backends ∧ rule.filters = filters := by
  have hfound : route isMatch config listenerName routingMeta ≠ .notFound := by
    rw [h]
    exact nofun
  obtain ⟨rule, best, hselects⟩ := exists_selects isMatch hfound
  refine ⟨rule, best, hselects, ?_⟩
  have hdecision := hselects.route_eq.symm.trans h
  unfold buildDecision at hdecision
  split at hdecision
  · cases hdecision
  · injection hdecision with hbackends hfilters
    exact ⟨hbackends, hfilters⟩

/-- **Requests.** -/
theorem goesTo_call {request : Request} {e : Effect Addr}
    (he : e ∈ (RouteAndFilter.call env isMatch config listenerName routingMeta request).1) :
    ∃ rule best, Selects isMatch config listenerName routingMeta rule best ∧
      GoesTo env (Destination rule) e := by
  unfold RouteAndFilter.call at he
  split at he
  · cases he
  · cases he
  next backends filters timeout hroute =>
    obtain ⟨rule, best, hselects, rfl, rfl⟩ := selected_of_forward hroute
    split at he
    next req limit hreq hlimit =>
      obtain ⟨hbackends, hmirrors⟩ := mirrors_forwardRequest hreq
      exact ⟨rule, best, hselects, goesTo_forwarder hbackends hmirrors e he⟩
    · cases he

/-- **WebSocket upgrades.** -/
theorem goesTo_handleWebsocketUpgrade {e : Effect Addr}
    (he : e ∈ handleWebsocketUpgrade env isMatch config listenerName routingMeta)
    (hout : ∀ text, e ≠ .writeClient text) :
    ∃ rule best, Selects isMatch config listenerName routingMeta rule best ∧
      GoesTo env (Destination rule) e := by
  unfold handleWebsocketUpgrade at he
  split at he
  next backends filters timeout hroute =>
    obtain ⟨rule, best, hselects, rfl, rfl⟩ := selected_of_forward hroute
    refine ⟨rule, best, hselects, ?_⟩
    split at he
    · exact absurd (List.mem_singleton.mp he) (hout _)
    next b hselect =>
      obtain ⟨hmem, hweight⟩ := selectBackend_mem hselect
      rcases List.mem_cons.mp he with rfl | he
      · exact .resolve (.backend hmem hweight)
      · split at he
        next addr rest haddr =>
          obtain rfl := List.mem_singleton.mp he
          exact .connect (.backend hmem hweight) haddr
        · exact absurd (List.mem_singleton.mp he) (hout _)
  · exact absurd (List.mem_singleton.mp he) (hout _)

end

end Multiway.ProxyCore
