import Multiway.ProxyCore.Pool

/-!
# Connections that the backend closed while they were idle

`is_open` does not notice a connection the backend has closed, so the pool
hands it out, and the exchange on it fails before a byte of a response. The
comment on `is_open` leaves it to the callers to retry with a fresh one. No
caller does: the request is answered 502 and is over (`answered_of_fails`).

Which exchanges have such a connection depends on what happened before, so the
run is watched (`watch`): `stale` remembers what the connection was when it was
taken from the pool, `visible` collects the requests whose 502 is due to it. The
worker does not see the onlooker (`exists_watched`).
-/

namespace Multiway.ProxyCore.Pool

open Multiway.Lib

variable {Addr Req Head : Type}

/-- A worker, and what is noted about its run. -/
structure Watched (Addr Req Head : Type) where
  worker : Worker Addr Req Head := {}
  /-- The backend had closed the connection when the exchange took it from the pool. -/
  stale : Req → Bool := fun _ => false
  /-- The requests answered 502 on such a connection, without a byte of a response. -/
  visible : List Req := []

def Reply.isBadGateway : Reply Head → Bool
  | .badGateway => true
  | _ => false

/-- Nothing of a response has arrived. -/
def Exchange.unanswered (x : Exchange Addr Req Head) : Bool :=
  match x.phase with
  | .reading .. => false
  | _ => x.conn.coming.isEmpty

namespace Watched

/-- The request of a client is on a stale connection, and nothing of a response
has arrived. -/
def onStale (w : Watched Addr Req Head) (k : Req) : Bool :=
  w.stale k && (w.worker.exchanges k).any fun x => !x.mirror && x.unanswered

/-- Of the replies that are new, the 502s on a stale connection. -/
def newlyVisible (w : Watched Addr Req Head) (w' : Worker Addr Req Head) : List Req :=
  ((w'.replies.drop w.worker.replies.length).filter fun (k, reply) =>
    w.onStale k && reply.isBadGateway).map Prod.fst

end Watched

@[simp] theorem newlyVisible_setExchange [DecidableEq Req] {w : Watched Addr Req Head} (k : Req)
    (x : Exchange Addr Req Head) : w.newlyVisible (w.worker.setExchange k x) = [] := by
  simp [Watched.newlyVisible, Worker.setExchange]

@[simp] theorem newlyVisible_setIdle [DecidableEq Addr] {w : Watched Addr Req Head} (addr : Addr)
    (conns : List (PoolableConnection Req Head)) :
    w.newlyVisible (w.worker.setIdle addr conns) = [] := by
  simp [Watched.newlyVisible, Worker.setIdle]

/-- A client's exchange fails on a stale connection, before a byte of a
response. Running out of time is no failure of the connection. -/
def FailsStale (w : Watched Addr Req Head) : Event Addr Req → Prop
  | .sendError k _ _ => w.onStale k = true
  | .headError k error _ => w.onStale k = true ∧ error ≠ .timedOut
  | _ => False

section
variable [DecidableEq Addr] [DecidableEq Req]

def Watched.staleAfter (w : Watched Addr Req Head) : Event Addr Req → Req → Bool
  | .connect k addr _ _ slot =>
    Function.update w.stale k
      (slot.any fun i => (w.worker.idle addr)[i]?.any PoolableConnection.closed)
  | _ => w.stale

/-- `step`, watched. -/
def watch (up : Upstream Req Head) (w : Watched Addr Req Head) (e : Event Addr Req) :
    Option (Watched Addr Req Head) :=
  (step up w.worker e).map fun w' =>
    { worker := w', stale := w.staleAfter e, visible := w.visible ++ w.newlyVisible w' }

variable {up : Upstream Req Head} {w w' : Watched Addr Req Head} {e : Event Addr Req}

theorem watch_eq_some (h : watch up w e = some w') :
    step up w.worker e = some w'.worker ∧ w'.visible = w.visible ++ w.newlyVisible w'.worker := by
  obtain ⟨worker, hstep, rfl⟩ := Option.map_eq_some_iff.mp h
  exact ⟨hstep, rfl⟩

/-- The onlooker has no part in what happens: every run of a worker can be
watched. -/
theorem exists_watched {es : List (Event Addr Req)} {s t : Worker Addr Req Head}
    (h : Run (stepOf (step up)) s es t) (w : Watched Addr Req Head) (hw : w.worker = s) :
    ∃ w', Run (stepOf (watch up)) w es w' ∧ w'.worker = t := by
  induction h generalizing w with
  | nil s => exact ⟨w, .nil w, hw⟩
  | @cons s u t e es hstep _ ih =>
    obtain ⟨w', hrun, hw'⟩ := ih
      { worker := u, stale := w.staleAfter e, visible := w.visible ++ w.newlyVisible u } rfl
    refine ⟨w', .cons ?_ hrun, hw'⟩
    change (step up w.worker e).map _ = some _
    rw [hw, show step up s e = some u from hstep]
    rfl

/-! ## One step -/

theorem newlyVisible_finish {k : Req} {x : Exchange Addr Req Head}
    (hx : w.worker.exchanges k = some x) (conn : PoolableConnection Req Head)
    (reply : Reply Head) :
    w.newlyVisible (w.worker.finish k x conn reply) =
      if w.onStale k && reply.isBadGateway then [k] else [] := by
  cases hmirror : x.mirror with
  | true =>
    have hnot : w.onStale k = false := by simp [Watched.onStale, hx, hmirror]
    simp [Watched.newlyVisible, Worker.finish, hmirror, hnot]
  | false =>
    simp only [Watched.newlyVisible, Worker.finish, hmirror, Bool.false_eq_true, if_false,
      List.drop_left, List.filter_singleton]
    cases w.onStale k && reply.isBadGateway <;> rfl

theorem HeadError.isBadGateway_reply (error : HeadError) :
    (error.reply : Reply Head).isBadGateway = true ↔ error ≠ .timedOut := by
  cases error with
  | timedOut => exact iff_of_false nofun fun h => h rfl
  | upstreamClosed => exact iff_of_true rfl nofun
  | broken => exact iff_of_true rfl nofun

/-- **One step** shows a stale connection to a client exactly when an exchange
fails on one. -/
theorem newlyVisible_eq_nil_iff {worker : Worker Addr Req Head}
    (hstep : step up w.worker e = some worker) :
    w.newlyVisible worker = [] ↔ ¬ FailsStale w e := by
  cases transition_of_step hstep with
  | connectFresh => exact iff_of_true (newlyVisible_setExchange _ _) id
  | connectIdle =>
    refine iff_of_true ?_ id
    simp [Watched.newlyVisible, Worker.setExchange, Worker.setIdle]
  | sent => exact iff_of_true (newlyVisible_setExchange _ _) id
  | sendError hx =>
    rw [newlyVisible_finish hx]
    simp [FailsStale, Reply.isBadGateway]
  | responseHead => exact iff_of_true (newlyVisible_setExchange _ _) id
  | @headError k error readAhead x hx =>
    have hreply : (error.reply : Reply Head).isBadGateway = true ↔ error ≠ .timedOut :=
      error.isBadGateway_reply
    rw [newlyVisible_finish hx, FailsStale, ← hreply]
    simp
  | bodyChunk => exact iff_of_true (newlyVisible_setExchange _ _) id
  | bodyEnd hx =>
    refine iff_of_true ?_ id
    simp [newlyVisible_finish hx, Reply.isBadGateway]
  | bodyError hx =>
    refine iff_of_true ?_ id
    simp [newlyVisible_finish hx, Reply.isBadGateway]
  | timeoutSending hx =>
    refine iff_of_true ?_ id
    simp [newlyVisible_finish hx, Reply.isBadGateway]
  | timeoutSent hx =>
    refine iff_of_true ?_ id
    simp [newlyVisible_finish hx, Reply.isBadGateway]
  | closeIdle => exact iff_of_true (newlyVisible_setIdle _ _) id
  | closeBusy => exact iff_of_true (newlyVisible_setExchange _ _) id
  | evict => exact iff_of_true (newlyVisible_setIdle _ _) id

/-- A failure on a stale connection is answered 502 at once, and the request is
over: no exchange is left that could be a retry. -/
theorem answered_of_fails {worker : Worker Addr Req Head}
    (hstep : step up w.worker e = some worker) (hfails : FailsStale w e) :
    ∃ k, w.onStale k = true ∧ worker.replies = w.worker.replies ++ [(k, .badGateway)] ∧
      worker.exchanges k = none := by
  have hclient : ∀ {k x}, w.worker.exchanges k = some x → w.onStale k = true →
      x.mirror = false := by
    intro k x hx hstale
    simp only [Watched.onStale, hx, Option.any_some, Bool.and_eq_true] at hstale
    simpa using hstale.2.1
  cases transition_of_step hstep with
  | @sendError k written readAhead x hx =>
    refine ⟨k, hfails, ?_, by simp [Worker.finish]⟩
    simp [Worker.finish, hclient hx hfails]
  | @headError k error readAhead x hx =>
    refine ⟨k, hfails.1, ?_, by simp [Worker.finish]⟩
    have hreply : (error.reply : Reply Head) = .badGateway := by
      cases error with
      | timedOut => exact absurd rfl hfails.2
      | upstreamClosed => rfl
      | broken => rfl
    simp [Worker.finish, hclient hx hfails.1, hreply]
  | _ => exact absurd hfails id

/-! ## Whole runs -/

/-- Replies are only added. -/
theorem replies_prefix_of_step {worker worker' : Worker Addr Req Head}
    (hstep : step up worker e = some worker') : worker.replies <+: worker'.replies := by
  have hfinish : ∀ k x conn reply,
      worker.replies <+: (worker.finish k x conn reply).replies := by
    intro k x conn reply
    simp only [Worker.finish]
    split
    · exact List.prefix_refl _
    · exact List.prefix_append _ _
  cases transition_of_step hstep with
  | sendError => exact hfinish _ _ _ _
  | headError => exact hfinish _ _ _ _
  | bodyEnd => exact hfinish _ _ _ _
  | bodyError => exact hfinish _ _ _ _
  | timeoutSending => exact hfinish _ _ _ _
  | timeoutSent => exact hfinish _ _ _ _
  | _ => exact List.prefix_refl _

/-- What is visible was answered 502. -/
theorem replies_of_visible {s : Watched Addr Req Head} {es : List (Event Addr Req)}
    (hrun : Run (stepOf (watch up)) s es w)
    (hs : ∀ k ∈ s.visible, (k, .badGateway) ∈ s.worker.replies) :
    ∀ k ∈ w.visible, (k, .badGateway) ∈ w.worker.replies := by
  have hkeeps : ∀ (u : Watched Addr Req Head) e u', stepOf (watch up) u e u' →
      (∀ k ∈ u.visible, (k, .badGateway) ∈ u.worker.replies) →
        ∀ k ∈ u'.visible, (k, .badGateway) ∈ u'.worker.replies := by
    intro u e u' hwatch ih k hk
    obtain ⟨hstep, hvisible⟩ := watch_eq_some hwatch
    rw [hvisible] at hk
    rcases List.mem_append.mp hk with hold | hnew
    · exact (replies_prefix_of_step hstep).subset (ih k hold)
    · obtain ⟨⟨k', reply⟩, hmem, rfl⟩ := List.mem_map.mp hnew
      obtain ⟨hdrop, hbad⟩ := List.mem_filter.mp hmem
      have hreply : reply = .badGateway := by
        cases reply with
        | badGateway => rfl
        | upstream => simp [Reply.isBadGateway] at hbad
        | gatewayTimeout => simp [Reply.isBadGateway] at hbad
      rw [← hreply]
      exact List.mem_of_mem_drop hdrop
  exact hrun.invariant hkeeps hs

/-- A run shows no stale connection exactly when none of its steps fails on one. -/
theorem visible_eq_nil_iff {s : Watched Addr Req Head} {es : List (Event Addr Req)}
    (hrun : Run (stepOf (watch up)) s es w) :
    w.visible = [] ↔ s.visible = [] ∧
      Run (Guarded (fun w e => ¬ FailsStale w e) (stepOf (watch up))) s es w := by
  induction hrun with
  | nil s => exact ⟨fun h => ⟨h, .nil s⟩, And.left⟩
  | @cons s t u e es hwatch _ ih =>
    obtain ⟨hstep, hvisible⟩ := watch_eq_some hwatch
    rw [ih, hvisible, List.append_eq_nil_iff, newlyVisible_eq_nil_iff hstep]
    constructor
    · rintro ⟨⟨hs, hguard⟩, hrest⟩
      exact ⟨hs, .cons ⟨hguard, hwatch⟩ hrest⟩
    · rintro ⟨hs, hguarded⟩
      cases hguarded with
      | cons hfirst hrest =>
        -- the watched step leads to one worker only
        obtain rfl := Option.some.inj (hwatch.symm.trans hfirst.2)
        exact ⟨⟨hs, hfirst.1⟩, hrest⟩

end

/-! ## Main results -/

/-- **Stale connections are visible to clients exactly when an exchange fails on
one.** A run in which none does has no 502 that is due to a stale connection;
and where one does, its request is answered 502 and not tried again. -/
theorem stale_visible_iff [DecidableEq Addr] [DecidableEq Req] (up : Upstream Req Head) :
    (∀ (es : List (Event Addr Req)) (worker : Worker Addr Req Head),
      Run (stepOf (step up)) {} es worker →
      ∃ w : Watched Addr Req Head, w.worker = worker ∧ Run (stepOf (watch up)) {} es w ∧
        (∀ k ∈ w.visible, (k, .badGateway) ∈ worker.replies) ∧
        (w.visible = [] ↔
          Run (Guarded (fun w e => ¬ FailsStale w e) (stepOf (watch up))) {} es w)) ∧
    (∀ (w : Watched Addr Req Head) (e : Event Addr Req) (worker : Worker Addr Req Head),
      step up w.worker e = some worker → FailsStale w e →
      ∃ k, w.onStale k = true ∧ worker.replies = w.worker.replies ++ [(k, .badGateway)] ∧
        worker.exchanges k = none) := by
  refine ⟨fun es worker hrun => ?_, fun w e worker => answered_of_fails⟩
  obtain ⟨w, hwatched, rfl⟩ := exists_watched hrun {} rfl
  refine ⟨w, rfl, hwatched, replies_of_visible hwatched (by simp), ?_⟩
  rw [visible_eq_nil_iff hwatched]
  exact and_iff_right rfl

/-- Nothing was closed: the second request finds the connection as the first
one left it. -/
theorem reuse_invisible : ∃ w : Watched ℕ ℕ ℕ,
    Run (stepOf (watch echo)) {} reuse w ∧ w.visible = [] := by
  have hexec : (execAll (step echo) {} reuse).isSome = true := by decide
  obtain ⟨worker, hworker⟩ := Option.isSome_iff_exists.mp hexec
  obtain ⟨w, -, hwatched, -, hvisible⟩ :=
    (stale_visible_iff echo).1 reuse worker (.of_execAll hworker)
  refine ⟨w, hwatched, hvisible.mpr (hwatched.guarded ?_)⟩
  simp [reuse, FailsStale]

/-- Between two requests the backend closes the connection they share. -/
def idleTimeout : List (Event ℕ ℕ) :=
  [.connect 0 80 false false none, .sent 0, .responseHead 0, .bodyChunk 0, .bodyEnd 0 0,
    .closeIdle 80 0 0, .connect 1 80 false false (some 0), .sent 1, .headError 1 .upstreamClosed 0]

/-- The second request is answered 502, though the backend answers whoever
connects anew. -/
theorem idleTimeout_visible :
    (∃ worker, Run (stepOf (step echo)) {} idleTimeout worker ∧
      worker.replies = [(0, .upstream 0 [0]), (1, .badGateway)]) ∧
    ¬ ∀ (es : List (Event ℕ ℕ)) (w : Watched ℕ ℕ ℕ),
      Run (stepOf (watch echo)) {} es w → w.visible = [] := by
  constructor
  · have hreplies : (execAll (step echo) {} idleTimeout).map (·.replies) =
        some [(0, .upstream 0 [0]), (1, .badGateway)] := by decide
    obtain ⟨worker, hrun, hworker⟩ := Option.map_eq_some_iff.mp hreplies
    exact ⟨worker, .of_execAll hrun, hworker⟩
  · intro hall
    have hvisible : (execAll (watch echo) {} idleTimeout).map (·.visible) = some [1] := by decide
    obtain ⟨w, hrun, hw⟩ := Option.map_eq_some_iff.mp hvisible
    rw [hall idleTimeout w (.of_execAll hrun)] at hw
    cases hw

end Multiway.ProxyCore.Pool
