import Multiway.Lib.Run

/-!
# The upstream connection pool (`proxy-core/src/pool.rs`, `pipeline.rs`)

One worker's pool is a list of idle connections per address. A `Pooled`
connection goes back to its list when it is dropped, on every way out of
`forward_via_codec`: `is_open` asks for the cached peer address and is true of
every connection that was ever connected. Exchanges of one worker interleave
at their await points, so the model is a step function over the pool and the
exchanges in flight, one event for each thing that can happen at an await
point (`Event`).

A connection carries bytes, not requests: what a codec reads next is whatever
the backend has put on the connection and nobody has read (`coming`). The
field `pending` is bookkeeping the code does not have: the requests written to
the connection, in whole or in part, whose responses were not read to the end.

`unmixed_run` is the guarantee the pool does give, `abandoned_handed_on` the
way it fails.
-/

namespace Multiway.ProxyCore.Pool

open Multiway.Lib

variable {Addr Req Head : Type}

/-! ## The wire -/

/-- What a decoder takes off a connection, one item at a time. -/
inductive Frame (Head : Type)
  | head (head : Head)
  | data (chunk : List UInt8)
  /-- The point where the payload decoder knows the body is complete. -/
  | done
deriving DecidableEq

structure Response (Head : Type) where
  head : Head
  chunks : List (List UInt8)
deriving DecidableEq

def Response.frames (r : Response Head) : List (Frame Head) :=
  .head r.head :: (r.chunks.map .data ++ [.done])

def Response.body (r : Response Head) : List UInt8 := r.chunks.flatten

/-- The backends behind the pool. -/
structure Upstream (Req Head : Type) where
  answer : Req → Response Head
  /-- What comes back when the request arrives behind the part of another. -/
  misread : Req → Response Head

structure PoolableConnection (Req Head : Type) where
  pending : List Req := []
  coming : List (Frame Head) := []
  /-- The last thing written to it is the part of a request. -/
  cutShort : Bool := false
  /-- The backend has closed its side; nothing more will be added to `coming`. -/
  closed : Bool := false
deriving DecidableEq

/-- How much of a request was on the wire when its `send` ended early. -/
inductive Written | nothing | part | whole
deriving DecidableEq

namespace PoolableConnection

variable (up : Upstream Req Head) (c : PoolableConnection Req Head)

/-- The whole of request `k` is written: the backend answers it. -/
def send (k : Req) : PoolableConnection Req Head :=
  { c with
    pending := c.pending ++ [k]
    coming :=
      if c.closed then c.coming
      else if c.cutShort then c.coming ++ (up.misread k).frames
      else c.coming ++ (up.answer k).frames }

/-- Request `k` is written as far as `written`. -/
def write (k : Req) : Written → PoolableConnection Req Head
  | .nothing => c
  | .part => { c with pending := c.pending ++ [k], cutShort := true }
  | .whole => c.send up k

/-- The codec is dropped, and with it the bytes it had read ahead. -/
def dropCodec (readAhead : Nat) : PoolableConnection Req Head :=
  { c with coming := c.coming.drop readAhead }

end PoolableConnection

/-! ## Exchanges -/

/-- Where an exchange is in `forward_via_codec`. -/
inductive Phase (Head : Type)
  /-- in `Sink::send` or `Sink::flush` -/
  | sending
  /-- in `Stream::next` -/
  | awaiting
  /-- in the `while let` over `next_data` -/
  | reading (head : Head) (bodyBytes : List UInt8)
deriving DecidableEq

/-- An exchange in flight: it owns its connection. -/
structure Exchange (Addr Req Head : Type) where
  addr : Addr
  conn : PoolableConnection Req Head
  /-- Spawned for a mirror: its result is thrown away, nobody times it out. -/
  mirror : Bool
  /-- `backend_timeout` is set. -/
  backendTimeout : Bool
  phase : Phase Head := .sending
deriving DecidableEq

/-- What the caller of the pipeline gets for a request. -/
inductive Reply (Head : Type)
  | upstream (head : Head) (body : List UInt8)
  | badGateway
  | gatewayTimeout
deriving DecidableEq

structure Worker (Addr Req Head : Type) where
  idle : Addr → List (PoolableConnection Req Head) := fun _ => []
  exchanges : Req → Option (Exchange Addr Req Head) := fun _ => none
  replies : List (Req × Reply Head) := []

/-- The error `Stream::next` reports instead of a response head. -/
inductive HeadError | upstreamClosed | timedOut | broken
deriving DecidableEq

/-- What can happen at an await point. `readAhead` is how many frames the
codec had buffered when it is dropped. -/
inductive Event (Addr Req : Type)
  /-- `pool.connect`: a fresh connection, or the idle one in `slot` -/
  | connect (k : Req) (addr : Addr) (mirror backendTimeout : Bool) (slot : Option Nat)
  | sent (k : Req)
  | sendError (k : Req) (written : Written) (readAhead : Nat)
  | responseHead (k : Req)
  | headError (k : Req) (error : HeadError) (readAhead : Nat)
  | bodyChunk (k : Req)
  | bodyEnd (k : Req) (readAhead : Nat)
  | bodyError (k : Req) (readAhead : Nat)
  /-- The outer request timeout drops the `call` future where it stands. -/
  | requestTimeout (k : Req) (written : Written) (readAhead : Nat)
  /-- The backend closes an idle connection; `arrived` frames still come. -/
  | closeIdle (addr : Addr) (slot arrived : Nat)
  | closeBusy (k : Req) (arrived : Nat)
  /-- The pool itself lets go of an idle connection (size cap, idle time). -/
  | evict (addr : Addr) (slot : Nat)

section
variable [DecidableEq Addr] [DecidableEq Req]

namespace Worker

def setIdle (w : Worker Addr Req Head) (addr : Addr)
    (conns : List (PoolableConnection Req Head)) : Worker Addr Req Head :=
  { w with idle := Function.update w.idle addr conns }

def setExchange (w : Worker Addr Req Head) (k : Req) (x : Exchange Addr Req Head) :
    Worker Addr Req Head :=
  { w with exchanges := Function.update w.exchanges k (some x) }

/-- Exchange `k` is over: its connection is dropped, which returns it to the
pool, and the caller gets `reply`. -/
def finish (w : Worker Addr Req Head) (k : Req) (x : Exchange Addr Req Head)
    (conn : PoolableConnection Req Head) (reply : Reply Head) : Worker Addr Req Head where
  idle := Function.update w.idle x.addr (w.idle x.addr ++ [conn])
  exchanges := Function.update w.exchanges k none
  replies := if x.mirror then w.replies else w.replies ++ [(k, reply)]

end Worker

/-- The response `UpstreamForwarder::call` makes of an error before the head. -/
def HeadError.reply : HeadError → Reply Head
  | .timedOut => .gatewayTimeout
  | .upstreamClosed => .badGateway
  | .broken => .badGateway

/-- Whether `Stream::next` can report the error on this exchange. -/
def HeadError.possible (x : Exchange Addr Req Head) : HeadError → Bool
  | .upstreamClosed => x.conn.closed && x.conn.coming.isEmpty
  | .timedOut => x.backendTimeout
  | .broken => true

def step (up : Upstream Req Head) (w : Worker Addr Req Head) :
    Event Addr Req → Option (Worker Addr Req Head)
  | .connect k addr mirror backendTimeout slot =>
    match w.exchanges k, slot with
    | none, none =>
      if (w.idle addr).isEmpty then
        some (w.setExchange k { addr, conn := {}, mirror, backendTimeout })
      else none
    | none, some i =>
      match (w.idle addr)[i]? with
      | some conn =>
        some ((w.setIdle addr ((w.idle addr).eraseIdx i)).setExchange k
          { addr, conn, mirror, backendTimeout })
      | none => none
    | some _, _ => none
  | .sent k =>
    match w.exchanges k with
    | some x =>
      match x.phase with
      | .sending => some (w.setExchange k { x with conn := x.conn.send up k, phase := .awaiting })
      | _ => none
    | none => none
  | .sendError k written readAhead =>
    match w.exchanges k with
    | some x =>
      match x.phase with
      | .sending =>
        some (w.finish k x ((x.conn.write up k written).dropCodec readAhead) .badGateway)
      | _ => none
    | none => none
  | .responseHead k =>
    match w.exchanges k with
    | some x =>
      match x.phase, x.conn.coming with
      | .awaiting, .head head :: rest =>
        some (w.setExchange k
          { x with conn := { x.conn with coming := rest }, phase := .reading head [] })
      | _, _ => none
    | none => none
  | .headError k error readAhead =>
    match w.exchanges k with
    | some x =>
      match x.phase with
      | .awaiting =>
        if error.possible x then
          some (w.finish k x (x.conn.dropCodec readAhead) error.reply)
        else none
      | _ => none
    | none => none
  | .bodyChunk k =>
    match w.exchanges k with
    | some x =>
      match x.phase, x.conn.coming with
      | .reading head bodyBytes, .data chunk :: rest =>
        some (w.setExchange k
          { x with
            conn := { x.conn with coming := rest }, phase := .reading head (bodyBytes ++ chunk) })
      | _, _ => none
    | none => none
  | .bodyEnd k readAhead =>
    match w.exchanges k with
    | some x =>
      match x.phase, x.conn.coming with
      | .reading head bodyBytes, .done :: rest =>
        -- the response that was read is that of the oldest request on the connection
        let conn := { x.conn with coming := rest, pending := x.conn.pending.tail }
        some (w.finish k x (conn.dropCodec readAhead) (.upstream head bodyBytes))
      | _, _ => none
    | none => none
  | .bodyError k readAhead =>
    match w.exchanges k with
    | some x =>
      match x.phase with
      | .reading head bodyBytes =>
        -- `while let Some(Ok(chunk))` ends on an error as it does on the end
        some (w.finish k x (x.conn.dropCodec readAhead) (.upstream head bodyBytes))
      | _ => none
    | none => none
  | .requestTimeout k written readAhead =>
    match w.exchanges k with
    | some x =>
      if x.mirror then none
      else
        match x.phase with
        | .sending =>
          some (w.finish k x ((x.conn.write up k written).dropCodec readAhead) .gatewayTimeout)
        | _ => some (w.finish k x (x.conn.dropCodec readAhead) .gatewayTimeout)
    | none => none
  | .closeIdle addr slot arrived =>
    some (w.setIdle addr ((w.idle addr).modify slot fun c =>
      { c with coming := c.coming.take arrived, closed := true }))
  | .closeBusy k arrived =>
    match w.exchanges k with
    | some x =>
      some (w.setExchange k
        { x with conn := { x.conn with coming := x.conn.coming.take arrived, closed := true } })
    | none => none
  | .evict addr slot => some (w.setIdle addr ((w.idle addr).eraseIdx slot))

/-- What an event does to a worker it can happen to: `step` as a relation, one
rule for each of its ways through. -/
inductive Transition (up : Upstream Req Head) (w : Worker Addr Req Head) :
    Event Addr Req → Worker Addr Req Head → Prop
  | connectFresh {k : Req} {addr : Addr} {mirror backendTimeout : Bool}
      (hnew : w.exchanges k = none) (hidle : w.idle addr = []) :
      Transition up w (.connect k addr mirror backendTimeout none)
        (w.setExchange k { addr, conn := {}, mirror, backendTimeout })
  | connectIdle {k : Req} {addr : Addr} {mirror backendTimeout : Bool} {slot : Nat}
      {conn : PoolableConnection Req Head} (hnew : w.exchanges k = none)
      (hconn : (w.idle addr)[slot]? = some conn) :
      Transition up w (.connect k addr mirror backendTimeout (some slot))
        ((w.setIdle addr ((w.idle addr).eraseIdx slot)).setExchange k
          { addr, conn, mirror, backendTimeout })
  | sent {k : Req} {x : Exchange Addr Req Head} (hx : w.exchanges k = some x)
      (hphase : x.phase = .sending) :
      Transition up w (.sent k)
        (w.setExchange k { x with conn := x.conn.send up k, phase := .awaiting })
  | sendError {k : Req} {written : Written} {readAhead : Nat} {x : Exchange Addr Req Head}
      (hx : w.exchanges k = some x) (hphase : x.phase = .sending) :
      Transition up w (.sendError k written readAhead)
        (w.finish k x ((x.conn.write up k written).dropCodec readAhead) .badGateway)
  | responseHead {k : Req} {x : Exchange Addr Req Head} {head : Head} {rest : List (Frame Head)}
      (hx : w.exchanges k = some x) (hphase : x.phase = .awaiting)
      (hcoming : x.conn.coming = .head head :: rest) :
      Transition up w (.responseHead k)
        (w.setExchange k
          { x with conn := { x.conn with coming := rest }, phase := .reading head [] })
  | headError {k : Req} {error : HeadError} {readAhead : Nat} {x : Exchange Addr Req Head}
      (hx : w.exchanges k = some x) (hphase : x.phase = .awaiting)
      (hpossible : error.possible x = true) :
      Transition up w (.headError k error readAhead)
        (w.finish k x (x.conn.dropCodec readAhead) error.reply)
  | bodyChunk {k : Req} {x : Exchange Addr Req Head} {head : Head} {bodyBytes chunk : List UInt8}
      {rest : List (Frame Head)} (hx : w.exchanges k = some x)
      (hphase : x.phase = .reading head bodyBytes)
      (hcoming : x.conn.coming = .data chunk :: rest) :
      Transition up w (.bodyChunk k)
        (w.setExchange k
          { x with
            conn := { x.conn with coming := rest }, phase := .reading head (bodyBytes ++ chunk) })
  | bodyEnd {k : Req} {readAhead : Nat} {x : Exchange Addr Req Head} {head : Head}
      {bodyBytes : List UInt8} {rest : List (Frame Head)} (hx : w.exchanges k = some x)
      (hphase : x.phase = .reading head bodyBytes) (hcoming : x.conn.coming = .done :: rest) :
      Transition up w (.bodyEnd k readAhead)
        (w.finish k x
          ({ x.conn with coming := rest, pending := x.conn.pending.tail }.dropCodec readAhead)
          (.upstream head bodyBytes))
  | bodyError {k : Req} {readAhead : Nat} {x : Exchange Addr Req Head} {head : Head}
      {bodyBytes : List UInt8} (hx : w.exchanges k = some x)
      (hphase : x.phase = .reading head bodyBytes) :
      Transition up w (.bodyError k readAhead)
        (w.finish k x (x.conn.dropCodec readAhead) (.upstream head bodyBytes))
  | timeoutSending {k : Req} {written : Written} {readAhead : Nat} {x : Exchange Addr Req Head}
      (hx : w.exchanges k = some x) (hmirror : x.mirror = false) (hphase : x.phase = .sending) :
      Transition up w (.requestTimeout k written readAhead)
        (w.finish k x ((x.conn.write up k written).dropCodec readAhead) .gatewayTimeout)
  | timeoutSent {k : Req} {written : Written} {readAhead : Nat} {x : Exchange Addr Req Head}
      (hx : w.exchanges k = some x) (hmirror : x.mirror = false) (hphase : x.phase ≠ .sending) :
      Transition up w (.requestTimeout k written readAhead)
        (w.finish k x (x.conn.dropCodec readAhead) .gatewayTimeout)
  | closeIdle {addr : Addr} {slot arrived : Nat} :
      Transition up w (.closeIdle addr slot arrived)
        (w.setIdle addr ((w.idle addr).modify slot fun c =>
          { c with coming := c.coming.take arrived, closed := true }))
  | closeBusy {k : Req} {arrived : Nat} {x : Exchange Addr Req Head}
      (hx : w.exchanges k = some x) :
      Transition up w (.closeBusy k arrived)
        (w.setExchange k
          { x with conn := { x.conn with coming := x.conn.coming.take arrived, closed := true } })
  | evict {addr : Addr} {slot : Nat} :
      Transition up w (.evict addr slot) (w.setIdle addr ((w.idle addr).eraseIdx slot))

/-- **A step is a transition.** The branches of `step` are gone through here
and nowhere else. -/
theorem transition_of_step {up : Upstream Req Head} {w w' : Worker Addr Req Head}
    {e : Event Addr Req} (hstep : step up w e = some w') : Transition up w e w' := by
  cases e with
  | connect k addr mirror backendTimeout slot =>
    simp only [step] at hstep
    split at hstep
    next hnew =>
      split at hstep
      next hidle =>
        obtain rfl := Option.some.inj hstep
        exact .connectFresh hnew (List.isEmpty_iff.mp hidle)
      · cases hstep
    next hnew =>
      split at hstep
      next conn hconn =>
        obtain rfl := Option.some.inj hstep
        exact .connectIdle hnew hconn
      · cases hstep
    · cases hstep
  | sent k =>
    simp only [step] at hstep
    split at hstep
    next x hx =>
      split at hstep
      next hphase =>
        obtain rfl := Option.some.inj hstep
        exact .sent hx hphase
      · cases hstep
    · cases hstep
  | sendError k written readAhead =>
    simp only [step] at hstep
    split at hstep
    next x hx =>
      split at hstep
      next hphase =>
        obtain rfl := Option.some.inj hstep
        exact .sendError hx hphase
      · cases hstep
    · cases hstep
  | responseHead k =>
    simp only [step] at hstep
    split at hstep
    next x hx =>
      split at hstep
      next head rest hphase hcoming =>
        obtain rfl := Option.some.inj hstep
        exact .responseHead hx hphase hcoming
      · cases hstep
    · cases hstep
  | headError k error readAhead =>
    simp only [step] at hstep
    split at hstep
    next x hx =>
      split at hstep
      next hphase =>
        split at hstep
        next hpossible =>
          obtain rfl := Option.some.inj hstep
          exact .headError hx hphase hpossible
        · cases hstep
      · cases hstep
    · cases hstep
  | bodyChunk k =>
    simp only [step] at hstep
    split at hstep
    next x hx =>
      split at hstep
      next head bodyBytes chunk rest hphase hcoming =>
        obtain rfl := Option.some.inj hstep
        exact .bodyChunk hx hphase hcoming
      · cases hstep
    · cases hstep
  | bodyEnd k readAhead =>
    simp only [step] at hstep
    split at hstep
    next x hx =>
      split at hstep
      next head bodyBytes rest hphase hcoming =>
        obtain rfl := Option.some.inj hstep
        exact .bodyEnd hx hphase hcoming
      · cases hstep
    · cases hstep
  | bodyError k readAhead =>
    simp only [step] at hstep
    split at hstep
    next x hx =>
      split at hstep
      next head bodyBytes hphase =>
        obtain rfl := Option.some.inj hstep
        exact .bodyError hx hphase
      · cases hstep
    · cases hstep
  | requestTimeout k written readAhead =>
    simp only [step] at hstep
    split at hstep
    next x hx =>
      split at hstep
      · cases hstep
      next hmirror =>
        split at hstep
        next hphase =>
          obtain rfl := Option.some.inj hstep
          exact .timeoutSending hx (Bool.eq_false_iff.mpr hmirror) hphase
        next hphase =>
          obtain rfl := Option.some.inj hstep
          exact .timeoutSent hx (Bool.eq_false_iff.mpr hmirror) hphase
    · cases hstep
  | closeIdle addr slot arrived =>
    obtain rfl := Option.some.inj hstep
    exact .closeIdle
  | closeBusy k arrived =>
    simp only [step] at hstep
    split at hstep
    next x hx =>
      obtain rfl := Option.some.inj hstep
      exact .closeBusy hx
    · cases hstep
  | evict addr slot =>
    obtain rfl := Option.some.inj hstep
    exact .evict

end

/-! ## Invariants of a worker -/

/-- A worker whose idle connections, exchanges and replies all satisfy the
given predicates. -/
structure Invariant (P : PoolableConnection Req Head → Prop)
    (Q : Req → Exchange Addr Req Head → Prop) (R : Req → Reply Head → Prop)
    (w : Worker Addr Req Head) : Prop where
  idle : ∀ addr, ∀ c ∈ w.idle addr, P c
  exchanges : ∀ k x, w.exchanges k = some x → Q k x
  replies : ∀ k r, (k, r) ∈ w.replies → R k r

namespace Invariant

variable {P : PoolableConnection Req Head → Prop} {Q : Req → Exchange Addr Req Head → Prop}
  {R : Req → Reply Head → Prop} {w : Worker Addr Req Head}

theorem empty : Invariant P Q R ({} : Worker Addr Req Head) where
  idle := by simp
  exchanges := by simp
  replies := by simp

theorem setIdle [DecidableEq Addr] (h : Invariant P Q R w) {addr : Addr}
    {conns : List (PoolableConnection Req Head)} (hc : ∀ c ∈ conns, P c) :
    Invariant P Q R (w.setIdle addr conns) where
  idle := by
    intro a c hmem
    simp only [Worker.setIdle, Function.update_apply] at hmem
    split at hmem
    · exact hc c hmem
    · exact h.idle a c hmem
  exchanges := h.exchanges
  replies := h.replies

theorem setExchange [DecidableEq Req] (h : Invariant P Q R w) {k : Req}
    {x : Exchange Addr Req Head} (hx : Q k x) : Invariant P Q R (w.setExchange k x) where
  idle := h.idle
  exchanges := by
    intro k' x' hx'
    simp only [Worker.setExchange, Function.update_apply] at hx'
    split at hx'
    next hk =>
      rw [hk, ← Option.some.inj hx']
      exact hx
    next => exact h.exchanges k' x' hx'
  replies := h.replies

theorem finish [DecidableEq Addr] [DecidableEq Req] (h : Invariant P Q R w) {k : Req}
    {x : Exchange Addr Req Head} {conn : PoolableConnection Req Head} {reply : Reply Head}
    (hconn : P conn) (hreply : R k reply) : Invariant P Q R (w.finish k x conn reply) where
  idle := by
    intro a c hmem
    simp only [Worker.finish, Function.update_apply] at hmem
    split at hmem
    · rcases List.mem_append.mp hmem with hold | hnew
      · exact h.idle _ c hold
      · rw [List.mem_singleton.mp hnew]
        exact hconn
    · exact h.idle a c hmem
  exchanges := by
    intro k' x' hx'
    simp only [Worker.finish, Function.update_apply] at hx'
    split at hx'
    · exact absurd hx' (by simp)
    · exact h.exchanges k' x' hx'
  replies := by
    intro k' r hmem
    simp only [Worker.finish] at hmem
    split at hmem
    · exact h.replies k' r hmem
    · rcases List.mem_append.mp hmem with hold | hnew
      · exact h.replies k' r hold
      · obtain ⟨rfl, rfl⟩ := Prod.mk.inj (List.mem_singleton.mp hnew)
        exact hreply

end Invariant

/-! ## The guarantee -/

/-- Every response returned is the backend's answer to its request, and no
exchange starts on a connection that owes a response. -/
structure Unmixed (up : Upstream Req Head) (w : Worker Addr Req Head) : Prop where
  replies : ∀ k head body, (k, Reply.upstream head body) ∈ w.replies →
    head = (up.answer k).head ∧ body = (up.answer k).body
  handed : ∀ k x, w.exchanges k = some x → x.phase = .sending → x.conn.pending = []

/-- The event ends an exchange after some of its request was written and
before its response was read to the end. -/
def Abandons (w : Worker Addr Req Head) : Event Addr Req → Prop
  | .sendError _ written _ => written ≠ .nothing
  | .headError .. => True
  | .bodyError .. => True
  | .requestTimeout k written _ =>
    written ≠ .nothing ∨ ∃ x, w.exchanges k = some x ∧ x.phase ≠ .sending
  | _ => False

/-- Nothing was written to the connection that has not been answered in full
and read. -/
structure Clean (c : PoolableConnection Req Head) : Prop where
  pending : c.pending = []
  coming : c.coming = []
  cutShort : c.cutShort = false

/-- What the connection of exchange `k` still carries, phase by phase: the
rest of the answer to `k`, or as much of it as arrived before the backend
closed. -/
def Carries (up : Upstream Req Head) (k : Req) (c : PoolableConnection Req Head) :
    Phase Head → Prop
  | .sending => c.pending = [] ∧ c.coming = []
  | .awaiting => c.pending = [k] ∧ c.coming <+: (up.answer k).frames
  | .reading head bodyBytes =>
    c.pending = [k] ∧ head = (up.answer k).head ∧
      ∃ read rest, (up.answer k).chunks = read ++ rest ∧ bodyBytes = read.flatten ∧
        c.coming <+: rest.map .data ++ [.done]

/-- **The invariant of a pool nobody abandons an exchange on.** -/
def Orderly (up : Upstream Req Head) : Worker Addr Req Head → Prop :=
  Invariant Clean (fun k x => x.conn.cutShort = false ∧ Carries up k x.conn x.phase)
    fun k r => ∀ head body, r = .upstream head body →
      head = (up.answer k).head ∧ body = (up.answer k).body

theorem Orderly.unmixed {up : Upstream Req Head} {w : Worker Addr Req Head}
    (h : Orderly up w) : Unmixed up w where
  replies k head body hmem := h.replies k _ hmem head body rfl
  handed k x hx hphase := by
    have hcarries := (h.exchanges k x hx).2
    rw [hphase] at hcarries
    exact hcarries.1

/-! ## One step -/

section
variable {up : Upstream Req Head} {k : Req} {c : PoolableConnection Req Head}

/-- A connection that owes nothing stays clean when its codec is dropped. -/
private theorem clean_untouched {readAhead : Nat} (hpending : c.pending = [])
    (hcoming : c.coming = []) (hcut : c.cutShort = false) : Clean (c.dropCodec readAhead) :=
  ⟨hpending, by simp [PoolableConnection.dropCodec, hcoming], hcut⟩

/-- Sending on a clean connection leaves it carrying the answer. -/
private theorem carries_send (hpending : c.pending = []) (hcoming : c.coming = [])
    (hcut : c.cutShort = false) :
    (c.send up k).cutShort = false ∧ Carries up k (c.send up k) .awaiting := by
  refine ⟨hcut, ?_, ?_⟩
  · simp [PoolableConnection.send, hpending]
  · by_cases hclosed : c.closed
    · simp [PoolableConnection.send, hclosed, hcoming]
    · simp [PoolableConnection.send, hclosed, hcut, hcoming]

private theorem carries_responseHead {head : Head} {rest : List (Frame Head)}
    (h : Carries up k c .awaiting) (hcoming : c.coming = .head head :: rest) :
    Carries up k { c with coming := rest } (.reading head []) := by
  obtain ⟨hpending, hprefix⟩ := h
  rw [hcoming, Response.frames, List.cons_prefix_cons] at hprefix
  obtain ⟨hhead, hrest⟩ := hprefix
  exact ⟨hpending, Frame.head.inj hhead, [], (up.answer k).chunks, rfl, rfl, hrest⟩

private theorem carries_bodyChunk {head : Head} {bodyBytes chunk : List UInt8}
    {rest : List (Frame Head)} (h : Carries up k c (.reading head bodyBytes))
    (hcoming : c.coming = .data chunk :: rest) :
    Carries up k { c with coming := rest } (.reading head (bodyBytes ++ chunk)) := by
  obtain ⟨hpending, hhead, read, unread, hchunks, hbody, hprefix⟩ := h
  rw [hcoming] at hprefix
  cases unread with
  -- after the last chunk only `done` comes
  | nil => simp at hprefix
  | cons next unread =>
    rw [List.map_cons, List.cons_append, List.cons_prefix_cons] at hprefix
    obtain ⟨hnext, hrest⟩ := hprefix
    obtain rfl := Frame.data.inj hnext
    refine ⟨hpending, hhead, read ++ [chunk], unread, ?_, ?_, hrest⟩
    · rw [hchunks, List.append_assoc]
      rfl
    · rw [hbody, List.flatten_append, List.flatten_singleton]

/-- The payload decoder stops exactly at the end of the answer. -/
private theorem carries_bodyEnd {head : Head} {bodyBytes : List UInt8}
    {rest : List (Frame Head)} (h : Carries up k c (.reading head bodyBytes))
    (hcoming : c.coming = .done :: rest) :
    rest = [] ∧ c.pending.tail = [] ∧
      head = (up.answer k).head ∧ bodyBytes = (up.answer k).body := by
  obtain ⟨hpending, hhead, read, unread, hchunks, hbody, hprefix⟩ := h
  rw [hcoming] at hprefix
  cases unread with
  | nil =>
    have hrest : rest = [] := by simpa using hprefix
    refine ⟨hrest, by rw [hpending]; rfl, hhead, ?_⟩
    rw [hbody, Response.body, hchunks, List.append_nil]
  | cons next unread => simp at hprefix

private theorem carries_close {phase : Phase Head} (arrived : Nat)
    (h : Carries up k c phase) :
    Carries up k { c with coming := c.coming.take arrived, closed := true } phase := by
  cases phase with
  | sending => exact ⟨h.1, by simp [h.2]⟩
  | awaiting => exact ⟨h.1, (List.take_prefix _ _).trans h.2⟩
  | reading head bodyBytes =>
    obtain ⟨hpending, hhead, read, rest, hchunks, hbody, hprefix⟩ := h
    exact ⟨hpending, hhead, read, rest, hchunks, hbody, (List.take_prefix _ _).trans hprefix⟩

end

/-- **One step.** Whatever happens, other than abandoning an exchange, keeps
a worker orderly. -/
theorem orderly_step [DecidableEq Addr] [DecidableEq Req] {up : Upstream Req Head}
    {w w' : Worker Addr Req Head} {e : Event Addr Req} (hstep : step up w e = some w')
    (hguard : ¬ Abandons w e) (h : Orderly up w) : Orderly up w' := by
  cases transition_of_step hstep with
  | connectFresh => exact h.setExchange ⟨rfl, rfl, rfl⟩
  | @connectIdle k addr mirror backendTimeout slot conn hnew hconn =>
    -- an idle connection is clean, so nothing of an older answer is on it
    have hclean := h.idle addr conn (List.mem_of_getElem? hconn)
    refine (h.setIdle fun c hc => ?_).setExchange
      ⟨hclean.cutShort, hclean.pending, hclean.coming⟩
    exact h.idle addr c (List.mem_of_mem_eraseIdx hc)
  | @sent k x hx hphase =>
    obtain ⟨hcut, hcarries⟩ := h.exchanges k x hx
    rw [hphase] at hcarries
    exact h.setExchange (carries_send hcarries.1 hcarries.2 hcut)
  | @sendError k written readAhead x hx hphase =>
    -- with nothing written the connection goes back as it came
    obtain rfl : written = .nothing := not_not.mp hguard
    obtain ⟨hcut, hcarries⟩ := h.exchanges k x hx
    rw [hphase] at hcarries
    exact h.finish (clean_untouched hcarries.1 hcarries.2 hcut) (by simp)
  | @responseHead k x head rest hx hphase hcoming =>
    obtain ⟨hcut, hcarries⟩ := h.exchanges k x hx
    rw [hphase] at hcarries
    exact h.setExchange ⟨hcut, carries_responseHead hcarries hcoming⟩
  | headError => exact absurd trivial hguard
  | @bodyChunk k x head bodyBytes chunk rest hx hphase hcoming =>
    obtain ⟨hcut, hcarries⟩ := h.exchanges k x hx
    rw [hphase] at hcarries
    exact h.setExchange ⟨hcut, carries_bodyChunk hcarries hcoming⟩
  | @bodyEnd k readAhead x head bodyBytes rest hx hphase hcoming =>
    obtain ⟨hcut, hcarries⟩ := h.exchanges k x hx
    rw [hphase] at hcarries
    obtain ⟨hrest, hpending, hhead, hbody⟩ := carries_bodyEnd hcarries hcoming
    refine h.finish (clean_untouched hpending hrest hcut) ?_
    rintro head' body' ⟨⟩
    exact ⟨hhead, hbody⟩
  | bodyError => exact absurd trivial hguard
  | @timeoutSending k written readAhead x hx hmirror hphase =>
    obtain rfl : written = .nothing := not_not.mp fun hwritten => hguard (.inl hwritten)
    obtain ⟨hcut, hcarries⟩ := h.exchanges k x hx
    rw [hphase] at hcarries
    exact h.finish (clean_untouched hcarries.1 hcarries.2 hcut) (by simp)
  | timeoutSent hx hmirror hphase => exact absurd (.inr ⟨_, hx, hphase⟩) hguard
  | @closeIdle addr slot arrived =>
    -- a connection the backend closed stays idle, since `is_open` does not notice
    refine h.setIdle fun c hc => ?_
    obtain ⟨i, hi⟩ := List.mem_iff_getElem?.mp hc
    rw [List.getElem?_modify] at hi
    obtain ⟨c₀, hc₀, rfl⟩ := Option.map_eq_some_iff.mp hi
    have hclean := h.idle addr c₀ (List.mem_of_getElem? hc₀)
    split
    · exact ⟨hclean.pending, by simp [hclean.coming], hclean.cutShort⟩
    · exact hclean
  | @closeBusy k arrived x hx =>
    obtain ⟨hcut, hcarries⟩ := h.exchanges k x hx
    exact h.setExchange ⟨hcut, carries_close arrived hcarries⟩
  | @evict addr slot => exact h.setIdle fun c hc => h.idle addr c (List.mem_of_mem_eraseIdx hc)

/-! ## What abandoning an exchange leads to -/

/-- In any run at all: an exchange past its `send` owes a response. -/
def Owing : Worker Addr Req Head → Prop :=
  Invariant (fun _ => True) (fun _ x => x.phase ≠ .sending → x.conn.pending ≠ [])
    fun _ _ => True

/-- The events that end an exchange. -/
def Event.Ends : Event Addr Req → Prop
  | .sendError .. | .headError .. | .bodyEnd .. | .bodyError .. | .requestTimeout .. => True
  | _ => False

theorem Abandons.ends {w : Worker Addr Req Head} {e : Event Addr Req} (h : Abandons w e) :
    e.Ends := by
  cases e <;> trivial

private theorem pending_write {up : Upstream Req Head} {c : PoolableConnection Req Head} {k : Req}
    {written : Written} (h : written ≠ .nothing) : (c.write up k written).pending ≠ [] := by
  cases written with
  | nothing => exact absurd rfl h
  | part => simp [PoolableConnection.write]
  | whole => simp [PoolableConnection.write, PoolableConnection.send]

/-- An exchange ends by returning its connection to the pool, and one that is
abandoned returns a connection that owes a response. -/
theorem finish_of_step [DecidableEq Addr] [DecidableEq Req] {up : Upstream Req Head}
    {w w' : Worker Addr Req Head} {e : Event Addr Req} (hstep : step up w e = some w')
    (hends : e.Ends) (h : Owing w) :
    ∃ k x conn reply, w' = w.finish k x conn reply ∧ (Abandons w e → conn.pending ≠ []) := by
  cases transition_of_step hstep with
  | @sendError k written readAhead x hx hphase => exact ⟨k, x, _, _, rfl, pending_write⟩
  | @headError k error readAhead x hx hphase =>
    exact ⟨k, x, _, _, rfl, fun _ => h.exchanges k x hx (by simp [hphase])⟩
  | @bodyEnd k readAhead x =>
    exact ⟨k, x, _, _, rfl, fun habandons => absurd habandons id⟩
  | @bodyError k readAhead x head bodyBytes hx hphase =>
    exact ⟨k, x, _, _, rfl, fun _ => h.exchanges k x hx (by simp [hphase])⟩
  | @timeoutSending k written readAhead x hx hmirror hphase =>
    refine ⟨k, x, _, _, rfl, ?_⟩
    rintro (hwritten | ⟨x', hx', hsending⟩)
    · exact pending_write hwritten
    · obtain rfl := Option.some.inj (hx.symm.trans hx')
      exact absurd hphase hsending
  | @timeoutSent k written readAhead x hx hmirror hphase =>
    exact ⟨k, x, _, _, rfl, fun _ => h.exchanges k x hx hphase⟩
  | _ => exact absurd hends id

theorem owing_step [DecidableEq Addr] [DecidableEq Req] {up : Upstream Req Head}
    {w w' : Worker Addr Req Head} {e : Event Addr Req} (hstep : step up w e = some w')
    (h : Owing w) : Owing w' := by
  cases transition_of_step hstep with
  | connectFresh => exact h.setExchange fun hne => absurd rfl hne
  | connectIdle => exact (h.setIdle fun _ _ => trivial).setExchange fun hne => absurd rfl hne
  | sent => exact h.setExchange fun _ => by simp [PoolableConnection.send]
  | @responseHead k x head rest hx hphase hcoming =>
    exact h.setExchange fun _ => h.exchanges k x hx (by simp [hphase])
  | @bodyChunk k x head bodyBytes chunk rest hx hphase hcoming =>
    exact h.setExchange fun _ => h.exchanges k x hx (by simp [hphase])
  | @closeBusy k arrived x hx => exact h.setExchange (h.exchanges k x hx)
  | closeIdle => exact h.setIdle fun _ _ => trivial
  | evict => exact h.setIdle fun _ _ => trivial
  | sendError => exact h.finish trivial trivial
  | headError => exact h.finish trivial trivial
  | bodyEnd => exact h.finish trivial trivial
  | bodyError => exact h.finish trivial trivial
  | timeoutSending => exact h.finish trivial trivial
  | timeoutSent => exact h.finish trivial trivial

/-- The connection an exchange ends with is there for the next request. -/
theorem handed_on [DecidableEq Addr] [DecidableEq Req] {up : Upstream Req Head}
    {w : Worker Addr Req Head} {k k' : Req} {x : Exchange Addr Req Head}
    {conn : PoolableConnection Req Head} {reply : Reply Head} (hconn : conn.pending ≠ [])
    (hk' : (w.finish k x conn reply).exchanges k' = none) :
    ∃ slot w'', step up (w.finish k x conn reply)
        (.connect k' x.addr false false (some slot)) = some w'' ∧ ¬ Unmixed up w'' := by
  have hslot : ((w.finish k x conn reply).idle x.addr)[(w.idle x.addr).length]? = some conn := by
    simp [Worker.finish]
  have hconnect : step up (w.finish k x conn reply)
      (.connect k' x.addr false false (some (w.idle x.addr).length)) =
      some (((w.finish k x conn reply).setIdle x.addr
        (((w.finish k x conn reply).idle x.addr).eraseIdx (w.idle x.addr).length)).setExchange k'
        { addr := x.addr, conn, mirror := false, backendTimeout := false }) := by
    simp only [step, hk', hslot]
  refine ⟨_, _, hconnect, fun hunmixed => ?_⟩
  refine hconn (hunmixed.handed k' ⟨x.addr, conn, false, false, .sending⟩ ?_ rfl)
  simp [Worker.setExchange]

/-! ## Main results -/

/-- **Responses are not mixed up exactly as long as no exchange is
abandoned.** In a run in which none is, every reply is the answer to its
request and every connection handed out owes nothing; and once one is, the
next request to that address can be handed its connection. -/
theorem unmixed_iff_none_abandoned [DecidableEq Addr] [DecidableEq Req]
    (up : Upstream Req Head) :
    (∀ (es : List (Event Addr Req)) (w : Worker Addr Req Head),
      Run (Guarded (fun w e => ¬ Abandons w e) (stepOf (step up))) {} es w → Unmixed up w) ∧
    (∀ (es : List (Event Addr Req)) (w w' : Worker Addr Req Head) (e : Event Addr Req) (k : Req),
      Run (stepOf (step up)) {} es w → step up w e = some w' → Abandons w e →
      w'.exchanges k = none →
      ∃ addr slot w'', step up w' (.connect k addr false false (some slot)) = some w'' ∧
        ¬ Unmixed up w'') := by
  constructor
  · intro es w hrun
    have hkeeps : ∀ w (e : Event Addr Req) w',
        Guarded (fun w e => ¬ Abandons w e) (stepOf (step up)) w e w' →
        Orderly up w → Orderly up w' :=
      fun w e w' hstep => orderly_step hstep.2 hstep.1
    exact (hrun.invariant hkeeps Invariant.empty).unmixed
  · intro es w w' e k hrun hstep habandons hk
    have hkeeps : ∀ w (e : Event Addr Req) w', stepOf (step up) w e w' → Owing w → Owing w' :=
      fun w e w' hstep => owing_step hstep
    have howing : Owing w := hrun.invariant hkeeps Invariant.empty
    obtain ⟨k', x, conn, reply, rfl, hpending⟩ := finish_of_step hstep habandons.ends howing
    obtain ⟨slot, w'', hconnect, hmixed⟩ := handed_on (hpending habandons) hk
    exact ⟨x.addr, slot, w'', hconnect, hmixed⟩

/-- A backend whose answer to a request names the request. -/
def echo : Upstream ℕ ℕ where
  answer k := ⟨k, [[k.toUInt8]]⟩
  misread _ := ⟨400, []⟩

/-- Two requests to one address, the second on the connection of the first. -/
def reuse : List (Event ℕ ℕ) :=
  [.connect 0 80 false false none, .sent 0, .responseHead 0, .bodyChunk 0, .bodyEnd 0 0,
    .connect 1 80 false false (some 0), .sent 1]

theorem reuse_unmixed :
    ∃ w, Run (stepOf (step echo)) {} reuse w ∧ w.replies = [(0, .upstream 0 [0])] ∧
      Unmixed echo w := by
  have hreplies : (execAll (step echo) {} reuse).map (·.replies) =
      some [(0, .upstream 0 [0])] := by decide
  obtain ⟨w, hrun, hw⟩ := Option.map_eq_some_iff.mp hreplies
  have hguard : ∀ e ∈ reuse, ∀ w : Worker ℕ ℕ ℕ, ¬ Abandons w e := by
    simp [reuse, Abandons]
  exact ⟨w, .of_execAll hrun, hw,
    (unmixed_iff_none_abandoned echo).1 reuse w (.guarded_of_execAll hrun hguard)⟩

/-- The backend is slower than `backend_timeout`: its late answer to request 0
is what request 1 gets. -/
def slowBackend : List (Event ℕ ℕ) :=
  [.connect 0 80 false true none, .sent 0, .headError 0 .timedOut 0,
    .connect 1 80 false true (some 0), .sent 1, .responseHead 1, .bodyChunk 1, .bodyEnd 1 0]

theorem slowBackend_mixed :
    ¬ ∀ (es : List (Event ℕ ℕ)) (w : Worker ℕ ℕ ℕ),
      Run (stepOf (step echo)) {} es w → Unmixed echo w := by
  intro hall
  have hreplies : (execAll (step echo) {} slowBackend).map (·.replies) =
      some [(0, .gatewayTimeout), (1, .upstream 0 [0])] := by decide
  obtain ⟨w, hrun, hw⟩ := Option.map_eq_some_iff.mp hreplies
  have hunmixed := hall slowBackend w (.of_execAll hrun)
  have hanswer := hunmixed.replies 1 0 [0] (by rw [hw]; decide)
  exact absurd hanswer.1 (by decide)

end Multiway.ProxyCore.Pool
