import Multiway.ControlPlane.Execute

/-!
# Merging results (`core/result.rs`)

`merge` puts the effects of two results one after the other and combines their
requeue decisions. A decision is worth three things: whether there is one,
whether it is an error, and the time, which may be absent (`worth`). Merging is
componentwise there, so the bracketing of many merges does not matter
(`merged_eq`). When to reconcile is only settled by the executor, though, which
has times of its own for "no decision" and "never"; so merged results may come
back later than one of them would have (`merged_prompt_iff`).
-/

namespace Multiway.ControlPlane

open Multiway.Kube

namespace RequeueDecision

/-- The minimum of two decisions; errors take precedence. -/
protected def min : RequeueDecision → RequeueDecision → RequeueDecision
  | never, r => r
  | r, never => r
  | after a, after b => after (min a b)
  | onError a, onError b => onError (min a b)
  | after a, onError b => onError (min a b)
  | onError a, after b => onError (min a b)

def duration : RequeueDecision → Option ℕ
  | after d => some d
  | onError d => some d
  | never => none

end RequeueDecision

namespace ReconcileResult

def mergeRequeue : Option RequeueDecision → Option RequeueDecision → Option RequeueDecision
  | none, r => r
  | r, none => r
  | some a, some b => some (a.min b)

/-- Merge another result into this one. -/
def merge (r other : ReconcileResult) : ReconcileResult where
  upserts := r.upserts ++ other.upserts
  deletes := r.deletes ++ other.deletes
  statusUpdates := r.statusUpdates ++ other.statusUpdates
  requeue := mergeRequeue r.requeue other.requeue
  events := r.events ++ other.events

end ReconcileResult

/-! ## What a decision is worth -/

/-- What a requeue decision says. -/
@[ext]
structure Worth where
  decided : Bool
  error : Bool
  time : WithTop ℕ

def worth : Option RequeueDecision → Worth
  | none => ⟨false, false, ⊤⟩
  | some .never => ⟨true, false, ⊤⟩
  | some (.after d) => ⟨true, false, d⟩
  | some (.onError d) => ⟨true, true, d⟩

theorem worth_injective : Function.Injective worth := by
  intro a b h
  rcases a with _ | ⟨_ | _ | _⟩ <;> rcases b with _ | ⟨_ | _ | _⟩ <;> simp_all [worth]

theorem worth_mergeRequeue (a b : Option RequeueDecision) :
    worth (ReconcileResult.mergeRequeue a b) =
      ⟨(worth a).decided || (worth b).decided, (worth a).error || (worth b).error,
        min (worth a).time (worth b).time⟩ := by
  rcases a with _ | ⟨_ | _ | _⟩ <;> rcases b with _ | ⟨_ | _ | _⟩ <;>
    simp [worth, ReconcileResult.mergeRequeue, RequeueDecision.min,
      Nat.mono_cast.map_min]

theorem time_worth_le_iff {r : Option RequeueDecision} {n : ℕ} :
    (worth r).time ≤ n ↔ ∃ d ≤ n, r.bind RequeueDecision.duration = some d := by
  rcases r with _ | ⟨_ | _ | _⟩ <;> simp [worth, RequeueDecision.duration]

/-! ## Merging many -/

/-- Results merged in some bracketing. -/
inductive Merging
  | single (r : ReconcileResult)
  | both (m m' : Merging)

namespace Merging

def results : Merging → List ReconcileResult
  | single r => [r]
  | both m m' => m.results ++ m'.results

def merged : Merging → ReconcileResult
  | single r => r
  | both m m' => m.merged.merge m'.merged

theorem decided_merged (m : Merging) :
    (worth m.merged.requeue).decided = m.results.any fun r => (worth r.requeue).decided := by
  induction m with
  | single r => simp [merged, results]
  | both m m' ih ih' =>
    rw [merged, ReconcileResult.merge, worth_mergeRequeue, results, List.any_append, ← ih, ← ih']

theorem error_merged (m : Merging) :
    (worth m.merged.requeue).error = m.results.any fun r => (worth r.requeue).error := by
  induction m with
  | single r => simp [merged, results]
  | both m m' ih ih' =>
    rw [merged, ReconcileResult.merge, worth_mergeRequeue, results, List.any_append, ← ih, ← ih']

/-- The time of merged results is the least of theirs. -/
theorem le_time_merged_iff (m : Merging) (t : WithTop ℕ) :
    t ≤ (worth m.merged.requeue).time ↔ ∀ r ∈ m.results, t ≤ (worth r.requeue).time := by
  induction m with
  | single r => simp [merged, results]
  | both m m' ih ih' =>
    rw [merged, ReconcileResult.merge, worth_mergeRequeue, results, List.forall_mem_append,
      le_min_iff, ih, ih']

theorem exists_time_merged (m : Merging) :
    ∃ r ∈ m.results, (worth r.requeue).time = (worth m.merged.requeue).time := by
  induction m with
  | single r => exact ⟨r, List.mem_singleton_self r, rfl⟩
  | both m m' ih ih' =>
    obtain ⟨r, hr, htime⟩ := ih
    obtain ⟨r', hr', htime'⟩ := ih'
    rw [merged, ReconcileResult.merge, worth_mergeRequeue, results]
    rcases min_choice (worth m.merged.requeue).time (worth m'.merged.requeue).time with h | h
    · exact ⟨r, List.mem_append_left _ hr, htime.trans h.symm⟩
    · exact ⟨r', List.mem_append_right _ hr', htime'.trans h.symm⟩

/-- **Merging is by components.** Effects stay in order, and what the decision
is worth is settled by what the decisions are. -/
theorem merged_eq (m : Merging) :
    m.merged.upserts = m.results.flatMap ReconcileResult.upserts ∧
      m.merged.deletes = m.results.flatMap ReconcileResult.deletes ∧
      m.merged.statusUpdates = m.results.flatMap ReconcileResult.statusUpdates ∧
      m.merged.events = m.results.flatMap ReconcileResult.events := by
  induction m with
  | single r => simp [merged, results]
  | both m m' ih ih' =>
    simp only [merged, results, ReconcileResult.merge, List.flatMap_append, ih, ih', and_self]

/-- The bracketing does not matter. -/
theorem merged_congr {m m' : Merging} (h : m.results = m'.results) : m.merged = m'.merged := by
  obtain ⟨hupserts, hdeletes, hstatuses, hevents⟩ := m.merged_eq
  obtain ⟨hupserts', hdeletes', hstatuses', hevents'⟩ := m'.merged_eq
  have htime : (worth m.merged.requeue).time = (worth m'.merged.requeue).time :=
    eq_of_forall_le_iff fun t => by rw [le_time_merged_iff, le_time_merged_iff, h]
  have hrequeue : m.merged.requeue = m'.merged.requeue := by
    refine worth_injective (Worth.ext ?_ ?_ htime)
    · rw [decided_merged, decided_merged, h]
    · rw [error_merged, error_merged, h]
  rw [h] at hupserts hdeletes hstatuses hevents
  generalize m.merged = r at *
  generalize m'.merged = r' at *
  obtain ⟨_, _, _, _, _⟩ := r
  obtain ⟨_, _, _, _, _⟩ := r'
  simp_all

/-! ## When to come back -/

/-- The time after which the executor has a result reconciled again. -/
def secondsOf (r : ReconcileResult) : ℕ :=
  match ReconcileExecutor.actionOf r.requeue with
  | .requeue seconds => seconds

/-- One of the results asks for a time of at most `n` seconds. -/
def AskedWithin (m : Merging) (n : ℕ) : Prop :=
  ∃ r ∈ m.results, ∃ d ≤ n, r.requeue.bind RequeueDecision.duration = some d

theorem secondsOf_le_iff {r : ReconcileResult} {n : ℕ} :
    secondsOf r ≤ n ↔ (worth r.requeue).time ≤ n ∨ (r.requeue = none ∧ 300 ≤ n) ∨
      (r.requeue = some .never ∧ 3600 ≤ n) := by
  unfold secondsOf
  rcases r.requeue with _ | ⟨_ | _ | _⟩ <;> simp [worth, ReconcileExecutor.actionOf]

theorem time_merged_le_iff (m : Merging) (n : ℕ) :
    (worth m.merged.requeue).time ≤ n ↔ AskedWithin m n := by
  unfold AskedWithin
  simp only [← time_worth_le_iff]
  constructor
  · intro h
    obtain ⟨r, hr, htime⟩ := m.exists_time_merged
    exact ⟨r, hr, htime.trans_le h⟩
  · rintro ⟨r, hr, h⟩
    exact ((m.le_time_merged_iff _).mp le_rfl r hr).trans h

theorem merged_requeue_eq_none_iff (m : Merging) :
    m.merged.requeue = none ↔ ∀ r ∈ m.results, r.requeue = none := by
  have hdecided : ∀ d : Option RequeueDecision, (worth d).decided = false ↔ d = none := by
    intro d
    rcases d with _ | ⟨_ | _ | _⟩ <;> simp [worth]
  rw [← hdecided, decided_merged, List.any_eq_false]
  simp only [Bool.not_eq_true, hdecided]

theorem duration_eq_none_iff {d : Option RequeueDecision} :
    d.bind RequeueDecision.duration = none ↔ d = none ∨ d = some .never := by
  rcases d with _ | ⟨_ | _ | _⟩ <;> simp [RequeueDecision.duration]

theorem merged_duration_eq_none_iff (m : Merging) :
    (m.merged.requeue = none ∨ m.merged.requeue = some .never) ↔
      ∀ r ∈ m.results, r.requeue.bind RequeueDecision.duration = none := by
  have htime : ∀ d : Option RequeueDecision,
      ⊤ ≤ (worth d).time ↔ d.bind RequeueDecision.duration = none := by
    intro d
    rcases d with _ | ⟨_ | _ | _⟩ <;> simp [worth, RequeueDecision.duration]
  rw [← duration_eq_none_iff, ← htime, le_time_merged_iff]
  simp only [htime]

theorem secondsOf_of_undecided {r : ReconcileResult} (h : r.requeue = none) :
    secondsOf r = 300 := by
  unfold secondsOf
  rw [h]
  rfl

theorem secondsOf_of_never {r : ReconcileResult} (h : r.requeue = some .never) :
    secondsOf r = 3600 := by
  unfold secondsOf
  rw [h]
  rfl

theorem time_le_secondsOf {r : ReconcileResult} {decision : RequeueDecision}
    (h : r.requeue = some decision) (hdecision : decision ≠ .never) :
    (worth r.requeue).time ≤ (secondsOf r : ℕ) := by
  obtain htime | ⟨hnone, -⟩ | ⟨hnever, -⟩ := secondsOf_le_iff.mp (le_refl (secondsOf r))
  · exact htime
  · rw [h] at hnone
    cases hnone
  · rw [h] at hnever
    exact absurd (Option.some.inj hnever) hdecision

theorem secondsOf_merged_le_300 (m : Merging) :
    secondsOf m.merged ≤ 300 ↔ (∀ r ∈ m.results, r.requeue = none) ∨ AskedWithin m 300 := by
  rw [secondsOf_le_iff, m.time_merged_le_iff, ← m.merged_requeue_eq_none_iff]
  constructor
  · rintro (hasked | ⟨hundecided, -⟩ | ⟨-, habsurd⟩)
    · exact .inr hasked
    · exact .inl hundecided
    · exact absurd habsurd (by decide)
  · rintro (hundecided | hasked)
    · exact .inr (.inl ⟨hundecided, le_rfl⟩)
    · exact .inl hasked

theorem secondsOf_merged_le_3600 (m : Merging) :
    secondsOf m.merged ≤ 3600 ↔
      (∀ r ∈ m.results, r.requeue.bind RequeueDecision.duration = none) ∨ AskedWithin m 3600 := by
  rw [secondsOf_le_iff, m.time_merged_le_iff, ← m.merged_duration_eq_none_iff]
  constructor
  · rintro (hasked | ⟨hundecided, -⟩ | ⟨hnever, -⟩)
    · exact .inr hasked
    · exact .inl (.inl hundecided)
    · exact .inl (.inr hnever)
  · rintro ((hundecided | hnever) | hasked)
    · exact .inr (.inl ⟨hundecided, by decide⟩)
    · exact .inr (.inr ⟨hnever, le_rfl⟩)
    · exact .inl hasked

/-- **When merging does not delay.** In any bracketing the merged result is the
same, and it comes back no later than each of the results would have, except
next to a result without a decision or with `Never`: there somebody has to ask
for a time within the executor's own, or nobody must ask for more. -/
theorem merged_prompt_iff (m : Merging) :
    (∀ m' : Merging, m'.results = m.results → m'.merged = m.merged) ∧
      ((∀ r ∈ m.results, secondsOf m.merged ≤ secondsOf r) ↔
        ((∃ r ∈ m.results, r.requeue = none) →
          (∀ r ∈ m.results, r.requeue = none) ∨ AskedWithin m 300) ∧
        ((∃ r ∈ m.results, r.requeue = some .never) →
          (∀ r ∈ m.results, r.requeue.bind RequeueDecision.duration = none) ∨
            AskedWithin m 3600)) := by
  refine ⟨fun m' h => merged_congr h, fun hprompt => ⟨?_, ?_⟩, ?_⟩
  · rintro ⟨r, hr, hnone⟩
    have hle := hprompt r hr
    rw [secondsOf_of_undecided hnone] at hle
    exact m.secondsOf_merged_le_300.mp hle
  · rintro ⟨r, hr, hnever⟩
    have hle := hprompt r hr
    rw [secondsOf_of_never hnever] at hle
    exact m.secondsOf_merged_le_3600.mp hle
  · rintro ⟨hundecided, hnever⟩ r hr
    rcases hrequeue : r.requeue with _ | decision
    · rw [secondsOf_of_undecided hrequeue]
      exact m.secondsOf_merged_le_300.mpr (hundecided ⟨r, hr, hrequeue⟩)
    · by_cases hdecision : decision = .never
      · subst hdecision
        rw [secondsOf_of_never hrequeue]
        exact m.secondsOf_merged_le_3600.mpr (hnever ⟨r, hr, hrequeue⟩)
      -- a time that is asked for is never exceeded
      · have htime := time_le_secondsOf hrequeue hdecision
        exact secondsOf_le_iff.mpr
          (.inl (((m.le_time_merged_iff _).mp le_rfl r hr).trans htime))

end Merging

end Multiway.ControlPlane
