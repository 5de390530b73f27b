import Mathlib.Data.List.Forall2

/-!
# Programs that make calls

A program talks to its surroundings by calls, each of which is answered before
the next one is made (`Script`). What a call is and how it may be answered is
a parameter, so the same program can be run against a server of any kind, and
between two of its calls anything may happen.

`Ends` is a run to the end: the exchanges in order, and what is returned or
that the program has panicked. A run of two programs in a row is a run of the
first and one of the second (`ends_bind`). For the two loops of such programs
this is said once: one that stops at the first error (`ends_tryEach`) and one
that goes on (`ends_each`).
-/

namespace Multiway.Lib

variable {κ : Type} {ρ : κ → Type} {α β γ ε φ : Type}

/-- A program that makes calls `c`, each answered by a `ρ c`. -/
inductive Script (ρ : κ → Type) (α : Type)
  | done (a : α)
  /-- Nothing catches this. -/
  | panics
  | call (c : κ) (next : ρ c → Script ρ α)

namespace Script

/-- A call and its answer. -/
abbrev Exchange (ρ : κ → Type) := (c : κ) × ρ c

def bind : Script ρ α → (α → Script ρ β) → Script ρ β
  | done a, f => f a
  | panics, _ => panics
  | call c next, f => call c fun r => (next r).bind f

/-- One call, whose answer is returned. -/
def ask (c : κ) : Script ρ (ρ c) := call c done

/-- Go through a list until something fails. -/
def tryEach (f : ε → Script ρ (Except φ Unit)) : List ε → Script ρ (Except φ Unit)
  | [] => done (.ok ())
  | e :: es => (f e).bind fun
    | .ok () => tryEach f es
    | .error x => done (.error x)

/-- Go through a list, whatever comes of its elements. -/
def each (f : ε → Script ρ β) : List ε → Script ρ Unit
  | [] => done ()
  | e :: es => (f e).bind fun _ => each f es

@[simp] theorem done_bind (a : α) (f : α → Script ρ β) : (done a).bind f = f a := rfl

@[simp] theorem panics_bind (f : α → Script ρ β) : (panics : Script ρ α).bind f = panics := rfl

@[simp] theorem call_bind (c : κ) (next : ρ c → Script ρ α) (f : α → Script ρ β) :
    (call c next).bind f = call c fun r => (next r).bind f := rfl

@[simp] theorem ask_bind (c : κ) (f : ρ c → Script ρ β) : (ask c).bind f = call c f := rfl

theorem bind_assoc (s : Script ρ α) (f : α → Script ρ β) (g : β → Script ρ γ) :
    (s.bind f).bind g = s.bind fun a => (f a).bind g := by
  induction s with
  | done a => rfl
  | panics => rfl
  | call c next ih => exact congrArg (call c) (funext fun r => ih r)

theorem tryEach_append (f : ε → Script ρ (Except φ Unit)) (l l' : List ε) :
    tryEach f (l ++ l') = (tryEach f l).bind fun
      | .ok () => tryEach f l'
      | .error x => done (.error x) := by
  induction l with
  | nil => rfl
  | cons e l ih =>
    rw [List.cons_append, tryEach, tryEach, bind_assoc]
    congr 1
    funext outcome
    cases outcome with
    | ok _ => exact ih
    | error x => rfl

theorem tryEach_map {δ : Type} (f : ε → Script ρ (Except φ Unit)) (g : δ → ε) (l : List δ) :
    tryEach f (l.map g) = tryEach (fun d => f (g d)) l := by
  induction l with
  | nil => rfl
  | cons d l ih =>
    rw [List.map_cons, tryEach, tryEach]
    congr 1
    funext outcome
    cases outcome with
    | ok _ => exact ih
    | error x => rfl

/-! ## Runs to the end -/

/-- The program makes these exchanges and then returns, or panics (`none`). -/
inductive Ends : Script ρ α → List (Exchange ρ) → Option α → Prop
  | done (a : α) : Ends (done a) [] (some a)
  | panics : Ends panics [] none
  | call {c : κ} {next : ρ c → Script ρ α} {r : ρ c} {log : List (Exchange ρ)} {out : Option α} :
      Ends (next r) log out → Ends (call c next) (⟨c, r⟩ :: log) out

theorem ends_done {a : α} {log : List (Exchange ρ)} {out : Option α} :
    Ends (done a) log out ↔ log = [] ∧ out = some a := by
  constructor
  · rintro ⟨⟩
    exact ⟨rfl, rfl⟩
  · rintro ⟨rfl, rfl⟩
    exact .done a

theorem ends_panics {log : List (Exchange ρ)} {out : Option α} :
    Ends (panics : Script ρ α) log out ↔ log = [] ∧ out = none := by
  constructor
  · rintro ⟨⟩
    exact ⟨rfl, rfl⟩
  · rintro ⟨rfl, rfl⟩
    exact .panics

theorem ends_call {c : κ} {next : ρ c → Script ρ α} {log : List (Exchange ρ)} {out : Option α} :
    Ends (call c next) log out ↔ ∃ r rest, log = ⟨c, r⟩ :: rest ∧ Ends (next r) rest out := by
  constructor
  · intro h
    cases h with
    | @call _ _ r rest _ hrest => exact ⟨r, rest, rfl, hrest⟩
  · rintro ⟨r, rest, rfl, hrest⟩
    exact .call hrest

theorem ends_ask {c : κ} {log : List (Exchange ρ)} {out : Option (ρ c)} :
    Ends (ask c) log out ↔ ∃ r, log = [⟨c, r⟩] ∧ out = some r := by
  unfold ask
  rw [ends_call]
  simp only [ends_done]
  constructor
  · rintro ⟨r, _, rfl, rfl, rfl⟩
    exact ⟨r, rfl, rfl⟩
  · rintro ⟨r, rfl, rfl⟩
    exact ⟨r, [], rfl, rfl, rfl⟩

/-- A program that has ended makes no further exchange, and ends in one way. -/
theorem Ends.unique {s : Script ρ α} {log more : List (Exchange ρ)} {out out' : Option α}
    (h : Ends s log out) (h' : Ends s (log ++ more) out') : more = [] ∧ out' = out := by
  induction h with
  | done a => exact ends_done.mp h'
  | panics => exact ends_panics.mp h'
  | call _ ih =>
    obtain ⟨r, rest, hlog, hrest⟩ := ends_call.mp h'
    obtain ⟨hexchange, rfl⟩ := List.cons.inj hlog
    obtain ⟨-, hanswer⟩ := Sigma.mk.inj hexchange
    cases hanswer
    exact ih hrest

/-- **The sequence rule.** The first program panics, or the second goes on with
what it has returned. -/
theorem ends_bind {s : Script ρ α} {f : α → Script ρ β} {log : List (Exchange ρ)}
    {out : Option β} :
    Ends (s.bind f) log out ↔
      (Ends s log none ∧ out = none) ∨
      ∃ first rest a, log = first ++ rest ∧ Ends s first (some a) ∧ Ends (f a) rest out := by
  induction s generalizing log with
  | done a =>
    rw [done_bind]
    constructor
    · intro h
      exact .inr ⟨[], log, a, rfl, .done a, h⟩
    · rintro (⟨h, -⟩ | ⟨first, rest, a', rfl, hfirst, hrest⟩)
      · exact absurd (ends_done.mp h).2 (Option.some_ne_none a).symm
      · obtain ⟨rfl, ha⟩ := ends_done.mp hfirst
        rw [Option.some.inj ha] at hrest
        exact hrest
  | panics =>
    rw [panics_bind, ends_panics, ends_panics]
    constructor
    · rintro ⟨rfl, rfl⟩
      exact .inl ⟨⟨rfl, rfl⟩, rfl⟩
    · rintro (⟨⟨rfl, -⟩, rfl⟩ | ⟨first, rest, a, -, hfirst, -⟩)
      · exact ⟨rfl, rfl⟩
      · exact absurd (ends_panics.mp hfirst).2 (Option.some_ne_none a)
  | call c next ih =>
    rw [call_bind, ends_call, ends_call]
    constructor
    · rintro ⟨r, tail, rfl, htail⟩
      obtain ⟨hnext, rfl⟩ | ⟨first, rest, a, rfl, hfirst, hrest⟩ := (ih r).mp htail
      · exact .inl ⟨⟨r, tail, rfl, hnext⟩, rfl⟩
      · exact .inr ⟨⟨c, r⟩ :: first, rest, a, rfl, .call hfirst, hrest⟩
    · rintro (⟨⟨r, tail, rfl, htail⟩, rfl⟩ | ⟨first, rest, a, rfl, hfirst, hrest⟩)
      · exact ⟨r, tail, rfl, (ih r).mpr (.inl ⟨htail, rfl⟩)⟩
      · obtain ⟨r, tail, rfl, htail⟩ := ends_call.mp hfirst
        exact ⟨r, tail ++ rest, rfl, (ih r).mpr (.inr ⟨tail, rest, a, rfl, htail, hrest⟩)⟩

/-- **The loop that stops.** Either all elements go through, or those before
the first that does not; then the loop ends as that one has. -/
theorem ends_tryEach {f : ε → Script ρ (Except φ Unit)} {l : List ε} {log : List (Exchange ρ)}
    {out : Option (Except φ Unit)} :
    Ends (tryEach f l) log out ↔
      (out = some (.ok ()) ∧ ∃ logs,
        List.Forall₂ (fun e log => Ends (f e) log (some (.ok ()))) l logs ∧ log = logs.flatten) ∨
      (out ≠ some (.ok ()) ∧ ∃ before e after logs last, l = before ++ e :: after ∧
        List.Forall₂ (fun e log => Ends (f e) log (some (.ok ()))) before logs ∧
          Ends (f e) last out ∧ log = logs.flatten ++ last) := by
  induction l generalizing log with
  | nil =>
    rw [tryEach, ends_done]
    constructor
    · rintro ⟨rfl, rfl⟩
      exact .inl ⟨rfl, [], .nil, rfl⟩
    · rintro (⟨rfl, logs, hlogs, rfl⟩ | ⟨-, before, e, after, _, _, hl, -⟩)
      · cases hlogs
        exact ⟨rfl, rfl⟩
      · exact absurd hl.symm (List.append_ne_nil_of_right_ne_nil before (List.cons_ne_nil e after))
  | cons e l ih =>
    rw [tryEach, ends_bind]
    constructor
    · rintro (⟨hpanics, rfl⟩ | ⟨first, rest, outcome, rfl, hfirst, hrest⟩)
      · exact .inr ⟨nofun, [], e, l, [], log, rfl, .nil, hpanics, rfl⟩
      · cases outcome with
        | error x =>
          obtain ⟨rfl, rfl⟩ := ends_done.mp hrest
          refine .inr ⟨nofun, [], e, l, [], first, rfl, .nil, hfirst, ?_⟩
          rw [List.append_nil, List.flatten_nil, List.nil_append]
        | ok _ =>
          obtain ⟨hout, logs, hlogs, rfl⟩ | ⟨hout, before, b, after, logs, last, rfl, hlogs, hlast,
            rfl⟩ := ih.mp hrest
          · exact .inl ⟨hout, first :: logs, .cons hfirst hlogs, rfl⟩
          · refine .inr ⟨hout, e :: before, b, after, first :: logs, last, rfl,
              .cons hfirst hlogs, hlast, ?_⟩
            rw [List.flatten_cons, List.append_assoc]
    · rintro (⟨hout, logs, hlogs, rfl⟩ | ⟨hout, before, b, after, logs, last, hl, hlogs, hlast, rfl⟩)
      · cases hlogs with
        | @cons _ first _ rest hfirst hrest =>
          exact .inr ⟨first, rest.flatten, .ok (), rfl, hfirst,
            ih.mpr (.inl ⟨hout, rest, hrest, rfl⟩)⟩
      · cases before with
        | nil =>
          obtain ⟨rfl, rfl⟩ := List.cons.inj hl
          cases hlogs
          rw [List.flatten_nil, List.nil_append]
          cases out with
          | none => exact .inl ⟨hlast, rfl⟩
          | some outcome =>
            refine .inr ⟨last, [], outcome, (List.append_nil last).symm, hlast, ?_⟩
            cases outcome with
            | ok _ => exact absurd rfl hout
            | error x => exact .done _
        | cons _ before =>
          obtain ⟨rfl, rfl⟩ := List.cons.inj hl
          cases hlogs with
          | @cons _ first _ rest hfirst hrest =>
            refine .inr ⟨first, rest.flatten ++ last, .ok (), ?_, hfirst,
              ih.mpr (.inr ⟨hout, before, b, after, rest, last, rfl, hrest, hlast, rfl⟩)⟩
            rw [List.flatten_cons, List.append_assoc]

/-- **The loop that goes on.** When no element panics, each is gone through. -/
theorem ends_each {f : ε → Script ρ β} {l : List ε} {log : List (Exchange ρ)} {out : Option Unit}
    (hf : ∀ e ∈ l, ∀ log, ¬Ends (f e) log none) :
    Ends (each f l) log out ↔
      out = some () ∧ ∃ logs,
        List.Forall₂ (fun e log => ∃ b, Ends (f e) log (some b)) l logs ∧ log = logs.flatten := by
  induction l generalizing log with
  | nil =>
    rw [each, ends_done]
    constructor
    · rintro ⟨rfl, rfl⟩
      exact ⟨rfl, [], .nil, rfl⟩
    · rintro ⟨rfl, logs, hlogs, rfl⟩
      cases hlogs
      exact ⟨rfl, rfl⟩
  | cons e l ih =>
    have htail : ∀ b ∈ l, ∀ log, ¬Ends (f b) log none :=
      fun b hb => hf b (List.mem_cons_of_mem e hb)
    rw [each, ends_bind]
    constructor
    · rintro (⟨hpanics, -⟩ | ⟨first, rest, b, rfl, hfirst, hrest⟩)
      · exact absurd hpanics (hf e List.mem_cons_self log)
      · obtain ⟨hout, logs, hlogs, rfl⟩ := (ih htail).mp hrest
        exact ⟨hout, first :: logs, .cons ⟨b, hfirst⟩ hlogs, rfl⟩
    · rintro ⟨hout, logs, hlogs, rfl⟩
      cases hlogs with
      | @cons _ first _ rest hfirst hrest =>
        obtain ⟨b, hfirst⟩ := hfirst
        exact .inr ⟨first, rest.flatten, b, rfl, hfirst, (ih htail).mpr ⟨hout, rest, hrest, rfl⟩⟩

end Script

end Multiway.Lib
