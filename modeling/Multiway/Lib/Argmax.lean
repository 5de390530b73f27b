import Mathlib

/-!
# Running-maximum loops

A loop that keeps the best candidate seen so far and replaces it only by a
strictly better one computes `List.argmax` of the candidates it meets, in the
order it meets them (`foldl_keepBest`). `argmax_split` restates what
`List.argmax` promises as a split of the list at the winner: everything
before it ranks strictly lower, everything after it ranks at most as high.
`argmax_map` lets the candidates carry tags the ranking does not see.

Where candidates offer several ranks each, or none, the winner is the one that
`TakesLead`; `TakesLead.beside` says when replacing one of the others changes it.
-/

namespace Multiway.Lib

variable {α β κ : Type} [LinearOrder κ]

/-- One turn of the loop: `x` displaces the incumbent when there is none or
when `x` ranks strictly higher. -/
def keepBest (rank : β → κ) (best : Option β) (x : β) : Option β :=
  if best.all fun b => decide (rank b < rank x) then some x else best

theorem foldl_keepBest (rank : β → κ) (l : List β) :
    l.foldl (keepBest rank) none = l.argmax rank := by
  rw [List.argmax]
  congr 1
  funext best x
  cases best with
  | none => rfl
  | some b =>
    simp only [keepBest, List.argAux, Option.all_some, decide_eq_true_eq]

theorem argmax_map (f : α → β) (rank : β → κ) (l : List α) :
    (l.map f).argmax rank = (l.argmax fun a => rank (f a)).map f := by
  have hstep : ∀ best a, keepBest rank (Option.map f best) (f a) =
      Option.map f (keepBest (fun a => rank (f a)) best a) := by
    intro best a
    cases best with
    | none => rfl
    | some b =>
      simp only [keepBest, Option.map_some, Option.all_some]
      split <;> rfl
  rw [← foldl_keepBest, ← foldl_keepBest, List.foldl_map]
  change l.foldl (fun best a => keepBest rank best (f a)) (Option.map f none) = _
  exact List.foldl_hom (Option.map f) hstep

/-- **The winner of a running-maximum loop.** It beats everything before it
and ties or beats everything after it. -/
theorem argmax_split {rank : β → κ} {l : List β} {m : β} (h : m ∈ l.argmax rank) :
    ∃ pre post, l = pre ++ m :: post ∧ (∀ x ∈ pre, rank x < rank m) ∧
      ∀ x ∈ post, rank x ≤ rank m := by
  classical
  obtain ⟨hm, hmax, hfirst⟩ := List.mem_argmax_iff.mp h
  obtain ⟨pre, post, hl, hnotin⟩ := List.eq_append_cons_of_mem hm
  refine ⟨pre, post, hl, ?_, ?_⟩
  · intro x hx
    have hxl : x ∈ l := by rw [hl]; exact List.mem_append_left _ hx
    refine lt_of_le_of_ne (hmax x hxl) fun heq => ?_
    -- an equal rank before `m` would contradict that `m` is the first maximum
    have hle : l.idxOf m ≤ l.idxOf x := hfirst x hxl heq.ge
    rw [hl, List.idxOf_append_of_notMem hnotin, List.idxOf_append_of_mem hx] at hle
    have hlt : pre.idxOf x < pre.length := List.idxOf_lt_length_of_mem hx
    omega
  · intro x hx
    refine hmax x ?_
    rw [hl]
    exact List.mem_append_right _ (List.mem_cons_of_mem _ hx)

/-- Two places in a list are one place, or one of them is behind the other. -/
theorem append_cons_cases {pre post pre' post' : List α} {a b : α}
    (h : pre ++ a :: post = pre' ++ b :: post') :
    (pre = pre' ∧ a = b ∧ post = post') ∨
      (∃ mid, pre' = pre ++ a :: mid ∧ post = mid ++ b :: post') ∨
        ∃ mid, pre = pre' ++ b :: mid ∧ post' = mid ++ a :: post := by
  rcases List.append_eq_append_iff.mp h with ⟨mid, hpre, hrest⟩ | ⟨mid, hpre, hrest⟩
  · cases mid with
    | nil =>
      obtain ⟨hab, hpost⟩ := List.cons.inj hrest
      exact .inl ⟨(hpre.trans (List.append_nil pre)).symm, hab, hpost⟩
    | cons c mid =>
      obtain ⟨rfl, hpost⟩ := List.cons.inj hrest
      exact .inr (.inl ⟨mid, hpre, hpost⟩)
  · cases mid with
    | nil =>
      obtain ⟨hba, hpost⟩ := List.cons.inj hrest
      exact .inl ⟨hpre.trans (List.append_nil pre'), hba.symm, hpost.symm⟩
    | cons c mid =>
      obtain ⟨rfl, hpost⟩ := List.cons.inj hrest
      exact .inr (.inr ⟨mid, hpre, hpost⟩)

/-! ## Candidates with several ranks -/

section
variable {offers : α → Set κ} {before after : List α} {x x' : α}

/-- Of candidates that each offer some ranks, the one between `before` and
`after` comes first: its best offer beats everything before it, and nothing
after it is better. -/
def TakesLead (offers : α → Set κ) (before : List α) (x : α) (after : List α) : Prop :=
  ∃ best, IsGreatest (offers x) best ∧ (∀ y ∈ before, ∀ r ∈ offers y, r < best) ∧
    ∀ y ∈ after, ∀ r ∈ offers y, r ≤ best

/-- `x'` offers something when `x` does, and something as good, and nothing
when `x` does not. -/
structure Outbids (offers : α → Set κ) (x x' : α) : Prop where
  nonempty : (offers x').Nonempty → (offers x).Nonempty
  exceeds : ∀ r ∈ offers x, ∃ r' ∈ offers x', r ≤ r'

theorem Outbids.nonempty_iff (h : Outbids offers x x') :
    (offers x').Nonempty ↔ (offers x).Nonempty := by
  refine ⟨h.nonempty, fun hx => ?_⟩
  obtain ⟨r, hr⟩ := hx
  obtain ⟨r', hr', -⟩ := h.exceeds r hr
  exact ⟨r', hr'⟩

/-- An offer that is enough takes the lead, and so does the best one. -/
theorem TakesLead.of_offer {r : κ} (hr : r ∈ offers x)
    (hgreatest : (offers x).Nonempty → ∃ best, IsGreatest (offers x) best)
    (hbefore : ∀ y ∈ before, ∀ s ∈ offers y, s < r)
    (hafter : ∀ y ∈ after, ∀ s ∈ offers y, s ≤ r) : TakesLead offers before x after := by
  obtain ⟨best, hbest⟩ := hgreatest ⟨r, hr⟩
  have hle : r ≤ best := hbest.2 hr
  refine ⟨best, hbest, fun y hy s hs => ?_, fun y hy s hs => ?_⟩
  · exact (hbefore y hy s hs).trans_le hle
  · exact (hafter y hy s hs).trans hle

theorem TakesLead.outbid (h : TakesLead offers before x after) (hout : Outbids offers x x')
    (hgreatest : (offers x').Nonempty → ∃ r, IsGreatest (offers x') r) :
    TakesLead offers before x' after := by
  obtain ⟨best, hbest, hbefore, hafter⟩ := h
  obtain ⟨r, hr, hle⟩ := hout.exceeds best hbest.1
  refine .of_offer hr hgreatest (fun y hy s hs => ?_) (fun y hy s hs => ?_)
  · exact (hbefore y hy s hs).trans_le hle
  · exact (hafter y hy s hs).trans hle

/-- **A candidate that does not take the lead changes nothing**: what leads
beside `x` leads beside `x'` too. -/
theorem TakesLead.beside {pre post : List α} {y : α} (h : TakesLead offers pre y post)
    (hsplit : before ++ x :: after = pre ++ y :: post)
    (hgreatest : (offers x').Nonempty → ∃ r, IsGreatest (offers x') r)
    (hx : ¬ TakesLead offers before x after) (hx' : ¬ TakesLead offers before x' after) :
    ∃ pre' post', before ++ x' :: after = pre' ++ y :: post' ∧
      TakesLead offers pre' y post' := by
  obtain ⟨best, hbest, hpre, hpost⟩ := h
  rcases append_cons_cases hsplit with ⟨rfl, rfl, rfl⟩ | ⟨mid, rfl, rfl⟩ | ⟨mid, rfl, rfl⟩
  · exact absurd ⟨best, hbest, hpre, hpost⟩ hx
  · -- `x` stands before `y`
    rw [List.forall_mem_append, List.forall_mem_cons] at hpre
    obtain ⟨hbefore, -, hmid⟩ := hpre
    have hbelow : ∀ r ∈ offers x', r < best := by
      intro r hr
      by_contra hge
      have hle := not_lt.mp hge
      refine hx' (.of_offer hr hgreatest (fun w hw s hs => (hbefore w hw s hs).trans_le hle) ?_)
      rw [List.forall_mem_append, List.forall_mem_cons]
      exact ⟨fun w hw s hs => (hmid w hw s hs).le.trans hle, fun s hs => (hbest.2 hs).trans hle,
        fun w hw s hs => (hpost w hw s hs).trans hle⟩
    refine ⟨before ++ x' :: mid, post, by simp, best, hbest, ?_, hpost⟩
    rw [List.forall_mem_append, List.forall_mem_cons]
    exact ⟨hbefore, hbelow, hmid⟩
  · -- `x` stands behind `y`
    rw [List.forall_mem_append, List.forall_mem_cons] at hpost
    obtain ⟨hmid, -, hafter⟩ := hpost
    have hbelow : ∀ r ∈ offers x', r ≤ best := by
      intro r hr
      by_contra hgt
      have hlt := not_le.mp hgt
      refine hx' (.of_offer hr hgreatest ?_ fun w hw s hs => (hafter w hw s hs).trans hlt.le)
      rw [List.forall_mem_append, List.forall_mem_cons]
      exact ⟨fun w hw s hs => (hpre w hw s hs).trans hlt, fun s hs => (hbest.2 hs).trans_lt hlt,
        fun w hw s hs => (hmid w hw s hs).trans_lt hlt⟩
    refine ⟨pre, mid ++ x' :: after, by simp, best, hbest, hpre, ?_⟩
    rw [List.forall_mem_append, List.forall_mem_cons]
    exact ⟨hmid, hbelow, hafter⟩

end

end Multiway.Lib
