import Mathlib

/-!
# Labelled runs

The states a system reaches when it takes one labelled step after another.
Nothing here names a system: `step` is any relation between a state, the
label of what happened and the next state, so a scheduler, an environment
and a set of processes are all expressed by which labels are allowed.

`Run.invariant` packages the only induction a safety proof needs, and
`Run.countdown` the one that bounds how long a run can go on, `Run.brought` the
one that gets a run somewhere, and
`Run.simulation` the one that makes a run of one system a run of another. `Guarded`
restricts a system to the steps that meet a condition on the state *before*
the step, so a conditional guarantee is an invariant of the guarded system.
`execAll` runs an executable step function on a list of labels, which is how
one concrete run is exhibited (`Run.of_execAll`). A loop over a list is a run
too: what each round brings about and no later round undoes holds of every
element at the end (`foldl_each`), and a loop that may fail gets to its end
when no round fails (`foldlM_isSome`). One whose rounds only append has, at the
end, what each of them appended (`foldlM_append_eq_ok`); straight-line code that
may fail goes through when its parts do (`bind_eq_ok`).
-/

namespace Multiway.Lib

variable {σ ℓ : Type}

/-- `Run step s ls t`: the labels `ls`, in order, lead from `s` to `t`. -/
inductive Run (step : σ → ℓ → σ → Prop) : σ → List ℓ → σ → Prop
  | nil (s : σ) : Run step s [] s
  | cons {s t u : σ} {l : ℓ} {ls : List ℓ} :
      step s l t → Run step t ls u → Run step s (l :: ls) u

/-- The steps of a system that meet a condition on the state they start in. -/
def Guarded (guard : σ → ℓ → Prop) (step : σ → ℓ → σ → Prop) : σ → ℓ → σ → Prop :=
  fun s l t => guard s l ∧ step s l t

/-- The step relation of an executable, partial step function. -/
def stepOf (f : σ → ℓ → Option σ) : σ → ℓ → σ → Prop := fun s l t => f s l = some t

/-- Take the listed steps in order; `none` when one of them is not enabled. -/
def execAll (f : σ → ℓ → Option σ) : σ → List ℓ → Option σ
  | s, [] => some s
  | s, l :: ls => (f s l).bind fun t => execAll f t ls

namespace Run

variable {step : σ → ℓ → σ → Prop}

/-- **The invariant rule.** What one step preserves, a run preserves. -/
theorem invariant {P : σ → Prop} (hstep : ∀ s l t, step s l t → P s → P t)
    {s t : σ} {ls : List ℓ} (h : Run step s ls t) (hs : P s) : P t := by
  induction h with
  | nil => exact hs
  | cons hl _ ih => exact ih (hstep _ _ _ hl hs)

/-- **The countdown rule.** A measure that no step raises and that every counted
step lowers bounds how many of those a run has. -/
theorem countdown {I : σ → Prop} {m : σ → ℕ} {p : ℓ → Bool}
    (hstep : ∀ s l t, step s l t → I s → I t ∧ m t + (p l).toNat ≤ m s)
    {s t : σ} {ls : List ℓ} (h : Run step s ls t) (hs : I s) : m t + ls.countP p ≤ m s := by
  induction h with
  | nil s => simp
  | @cons s t u l ls hl _ ih =>
    obtain ⟨ht, hle⟩ := hstep s l t hl hs
    have hrest := ih ht
    rw [List.countP_cons]
    cases hp : p l with
    | false =>
      rw [hp, Bool.toNat_false] at hle
      simpa using hrest.trans hle
    | true =>
      rw [hp, Bool.toNat_true] at hle
      rw [if_pos rfl]
      omega

/-- **The rule of progress.** In states with `I`, a step with one of the labels
brings `Q` about and no step undoes it: a run with such a step ends in `Q`. -/
theorem brought {I Q : σ → Prop} {p : ℓ → Prop} (hI : ∀ s l t, step s l t → I s → I t)
    (hbring : ∀ s l t, step s l t → I s → p l → Q t)
    (hkeep : ∀ s l t, step s l t → I s → Q s → Q t) {s t : σ} {ls : List ℓ}
    (h : Run step s ls t) (hs : I s) (hp : ∃ l ∈ ls, p l) : Q t := by
  induction h with
  | nil => exact absurd hp.choose_spec.1 List.not_mem_nil
  | @cons s u t l ls hl hrest ih =>
    have hu := hI s l u hl hs
    obtain ⟨l', hmem, hl'⟩ := hp
    rcases List.mem_cons.mp hmem with rfl | hlater
    · have hlast := hrest.invariant (P := fun s => I s ∧ Q s)
        (fun s l t hl hs => ⟨hI s l t hl hs.1, hkeep s l t hl hs.1 hs.2⟩) ⟨hu, hbring _ _ _ hl hs hl'⟩
      exact hlast.2
    · exact ih hu ⟨l', hlater, hl'⟩

theorem append {s t u : σ} {ls ls' : List ℓ} (h : Run step s ls t) (h' : Run step t ls' u) :
    Run step s (ls ++ ls') u := by
  induction h with
  | nil => exact h'
  | cons hl _ ih => exact .cons hl (ih h')

/-- **The simulation rule.** When every step is matched by a run of another
system that keeps the two states related, so is every run. -/
theorem simulation {τ ℓ' : Type} {step' : τ → ℓ' → τ → Prop} {R : σ → τ → Prop}
    (hstep : ∀ s l t, step s l t → ∀ s', R s s' → ∃ ls' t', Run step' s' ls' t' ∧ R t t')
    {s t : σ} {ls : List ℓ} (h : Run step s ls t) {s' : τ} (hs : R s s') :
    ∃ ls' t', Run step' s' ls' t' ∧ R t t' := by
  induction h generalizing s' with
  | nil s => exact ⟨[], s', .nil s', hs⟩
  | cons hl _ ih =>
    obtain ⟨first, u', hfirst, hu⟩ := hstep _ _ _ hl s' hs
    obtain ⟨rest, t', hrest, ht⟩ := ih hu
    exact ⟨first ++ rest, t', hfirst.append hrest, ht⟩

theorem split {s u : σ} {ls ls' : List ℓ} (h : Run step s (ls ++ ls') u) :
    ∃ t, Run step s ls t ∧ Run step t ls' u := by
  induction ls generalizing s with
  | nil => exact ⟨s, .nil s, h⟩
  | cons l ls ih =>
    cases h with
    | cons hl hrest =>
      obtain ⟨t, hfirst, hsecond⟩ := ih hrest
      exact ⟨t, .cons hl hfirst, hsecond⟩

theorem mono {step' : σ → ℓ → σ → Prop} (hstep : ∀ s l t, step s l t → step' s l t) {s t : σ}
    {ls : List ℓ} (h : Run step s ls t) : Run step' s ls t := by
  induction h with
  | nil s => exact .nil s
  | cons hl _ ih => exact .cons (hstep _ _ _ hl) ih

/-- Fewer steps are allowed under a guard. -/
theorem unguarded {guard : σ → ℓ → Prop} {s t : σ} {ls : List ℓ}
    (h : Run (Guarded guard step) s ls t) : Run step s ls t :=
  h.mono fun _ _ _ hstep => hstep.2

/-- Steps whose labels the guard never objects to are steps under the guard. -/
theorem guarded {guard : σ → ℓ → Prop} {s t : σ} {ls : List ℓ} (h : Run step s ls t)
    (hguard : ∀ l ∈ ls, ∀ s, guard s l) : Run (Guarded guard step) s ls t := by
  induction h with
  | nil s => exact .nil s
  | cons hl _ ih =>
    obtain ⟨hfirst, hrest⟩ := List.forall_mem_cons.mp hguard
    exact .cons ⟨hfirst _, hl⟩ (ih hrest)

theorem of_execAll {f : σ → ℓ → Option σ} :
    ∀ {ls : List ℓ} {s t : σ}, execAll f s ls = some t → Run (stepOf f) s ls t
  | [], s, t, h => by
    rw [← Option.some.inj h]
    exact .nil s
  | l :: ls, s, t, h => by
    obtain ⟨u, hu, hrest⟩ := Option.bind_eq_some_iff.mp h
    exact .cons hu (of_execAll hrest)

/-- A list of labels the guard never objects to runs under the guard. -/
theorem guarded_of_execAll {f : σ → ℓ → Option σ} {guard : σ → ℓ → Prop} {ls : List ℓ} {s t : σ}
    (h : execAll f s ls = some t) (hguard : ∀ l ∈ ls, ∀ s, guard s l) :
    Run (Guarded guard (stepOf f)) s ls t :=
  (of_execAll h).guarded hguard

end Run

/-- **The loop rule.** Every round keeps `I` and brings `P` about for its
element, and no round undoes `P` for another. -/
theorem foldl_each {f : σ → ℓ → σ} {I : σ → Prop} {P : ℓ → σ → Prop} {l : List ℓ}
    (hstep : ∀ s, ∀ a ∈ l, I s → I (f s a) ∧ P a (f s a))
    (hkeep : ∀ s a, ∀ b ∈ l, I s → P a s → P a (f s b)) {s : σ} (hs : I s) :
    I (l.foldl f s) ∧ ∀ a ∈ l, P a (l.foldl f s) := by
  induction l generalizing s with
  | nil => exact ⟨hs, nofun⟩
  | cons a l ih =>
    obtain ⟨hI, hP⟩ := hstep s a List.mem_cons_self hs
    have htail : ∀ b ∈ l, b ∈ a :: l := fun b hb => List.mem_cons_of_mem a hb
    obtain ⟨hend, hall⟩ := ih (fun s b hb => hstep s b (htail b hb))
      (fun s c b hb => hkeep s c b (htail b hb)) hI
    -- what the first round brought about lasts through the others
    have hfirst := List.foldlRecOn l f (motive := fun s => I s ∧ P a s) ⟨hI, hP⟩
      fun s hs b hb => ⟨(hstep s b (htail b hb) hs.1).1, hkeep s a b (htail b hb) hs.1 hs.2⟩
    exact ⟨hend, List.forall_mem_cons.mpr ⟨hfirst.2, hall⟩⟩

/-- **The rule of a fallible loop.** When a round fails on some elements and
never on others, whatever was accumulated, the loop fails on the former. -/
theorem foldlM_isSome {f : σ → ℓ → Option σ} {P : ℓ → Prop} {l : List ℓ}
    (hstep : ∀ s, ∀ a ∈ l, (f s a).isSome = true ↔ P a) (s : σ) :
    (l.foldlM f s).isSome = true ↔ ∀ a ∈ l, P a := by
  induction l generalizing s with
  | nil => simp
  | cons a l ih =>
    have hhead := hstep s a List.mem_cons_self
    rw [List.foldlM_cons, List.forall_mem_cons, ← hhead]
    cases hf : f s a with
    | none => simp
    | some t => simpa using ih (fun s b hb => hstep s b (List.mem_cons_of_mem a hb)) t

/-- A computation that goes through has a first part that does. -/
theorem bind_eq_ok {ε α β : Type} {x : Except ε α} {f : α → Except ε β} {b : β} :
    (x >>= f) = .ok b ↔ ∃ a, x = .ok a ∧ f a = .ok b := by
  cases x with
  | error e => exact iff_of_false nofun nofun
  | ok a =>
    refine ⟨fun h => ⟨a, rfl, h⟩, ?_⟩
    rintro ⟨_, ⟨⟩, h⟩
    exact h

theorem mapError_eq_ok {ε ε' α : Type} {x : Except ε α} {f : ε → ε'} {a : α} :
    x.mapError f = .ok a ↔ x = .ok a := by
  cases x with
  | error e => exact iff_of_false nofun nofun
  | ok a => simp [Except.mapError]

/-- **The rule of an appending loop.** It goes through when every round does,
and what the rounds append is there in order. -/
theorem foldlM_append_eq_ok {ε α β : Type} {f : List β → α → Except ε (List β)}
    {P : α → Prop} {g : α → List β} (hstep : ∀ s a t, f s a = .ok t ↔ P a ∧ t = s ++ g a)
    {l : List α} {s t : List β} :
    l.foldlM f s = .ok t ↔ (∀ a ∈ l, P a) ∧ t = s ++ l.flatMap g := by
  induction l generalizing s with
  | nil =>
    rw [List.foldlM_nil, List.flatMap_nil, List.append_nil]
    constructor
    · rintro ⟨⟩
      exact ⟨nofun, rfl⟩
    · rintro ⟨-, rfl⟩
      rfl
  | cons a l ih =>
    rw [List.foldlM_cons, List.forall_mem_cons, List.flatMap_cons, ← List.append_assoc]
    constructor
    · intro h
      cases hf : f s a with
      | error e =>
        rw [hf] at h
        cases h
      | ok u =>
        rw [hf] at h
        obtain ⟨ha, rfl⟩ := (hstep s a u).mp hf
        obtain ⟨hl, rfl⟩ := ih.mp h
        exact ⟨⟨ha, hl⟩, rfl⟩
    · rintro ⟨⟨ha, hl⟩, rfl⟩
      rw [(hstep s a (s ++ g a)).mpr ⟨ha, rfl⟩]
      exact ih.mpr ⟨hl, rfl⟩

end Multiway.Lib
