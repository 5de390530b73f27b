import Multiway.Lib.Store

/-!
# Versions and optimistic concurrency

Values of a store that carry a version. The store issues it: the `n`-th write
stamps its value with `stamp n`, and no two stamps are the same. A reader that
wants to replace what it has read names the version it saw, and the store
refuses when another one is filed by then.

`Seen` is what such a reader may rely on for as long as it likes: a value of
that key and version, if one is filed at all, is the very value that was read.
It is established by reading (`Seen.of_get?`) and no write undoes it
(`Seen.insert`, `Seen.erase`). So a replacement that is let through replaces
what was read, and nothing that was written since.
-/

namespace Multiway.Lib

variable {K α V : Type} [Ord K] [Std.TransOrd K] {key : α → K}

/-- Every version in the store was issued by one of the first `clock` writes. -/
def Issued (version : α → Option V) (stamp : ℕ → V) (s : Store K α key) (clock : ℕ) : Prop :=
  ∀ k a, s.get? k = some a → ∃ n ≤ clock, version a = some (stamp n)

/-- `a` has been read, after `readAt` writes. -/
structure Seen (version : α → Option V) (stamp : ℕ → V) (s : Store K α key) (readAt : ℕ)
    (a : α) : Prop where
  issued : ∃ n ≤ readAt, version a = some (stamp n)
  current : ∀ b, s.get? (key a) = some b → version b = version a → b = a

variable {version : α → Option V} {stamp : ℕ → V} {s : Store K α key} {clock : ℕ}

theorem Issued.empty : Issued version stamp (∅ : Store K α key) clock := by
  intro k a h
  rw [Store.get?_empty] at h
  cases h

theorem Issued.mono (h : Issued version stamp s clock) {clock' : ℕ} (hle : clock ≤ clock') :
    Issued version stamp s clock' := by
  intro k a hget
  obtain ⟨n, hn, hversion⟩ := h k a hget
  exact ⟨n, le_trans hn hle, hversion⟩

theorem Issued.insert [Std.LawfulEqOrd K] (h : Issued version stamp s clock) {a : α}
    (ha : version a = some (stamp (clock + 1))) :
    Issued version stamp (s.insert a) (clock + 1) := by
  intro k b hget
  by_cases hk : key a = k
  · rw [← hk, Store.get?_insert_self] at hget
    cases hget
    exact ⟨clock + 1, le_refl _, ha⟩
  · rw [Store.get?_insert_of_ne s hk] at hget
    exact h.mono (Nat.le_succ clock) k b hget

theorem Issued.erase [Std.LawfulEqOrd K] (h : Issued version stamp s clock) (k : K) :
    Issued version stamp (s.erase k) clock := by
  intro k' a hget
  exact h k' a (Store.get?_of_erase hget)

namespace Seen

theorem of_get? (h : Issued version stamp s clock) {k : K} {a : α} (hget : s.get? k = some a) :
    Seen version stamp s clock a := by
  refine ⟨h k a hget, fun b hb _ => ?_⟩
  rw [Store.key_of_get? hget, hget] at hb
  exact (Option.some.inj hb).symm

/-- A later write has a later version. -/
theorem insert [Std.LawfulEqOrd K] {readAt : ℕ} {a : α}
    (h : Seen version stamp s readAt a) (hstamp : Function.Injective stamp)
    (hle : readAt ≤ clock) {b : α} (hb : version b = some (stamp (clock + 1))) :
    Seen version stamp (s.insert b) readAt a := by
  refine ⟨h.issued, fun c hc hversion => ?_⟩
  by_cases hk : key b = key a
  · rw [← hk, Store.get?_insert_self] at hc
    cases hc
    obtain ⟨n, hn, ha⟩ := h.issued
    rw [hb, ha] at hversion
    have hsame := hstamp (Option.some.inj hversion)
    omega
  · rw [Store.get?_insert_of_ne s hk] at hc
    exact h.current c hc hversion

theorem erase [Std.LawfulEqOrd K] {readAt : ℕ} {a : α} (h : Seen version stamp s readAt a)
    (k : K) : Seen version stamp (s.erase k) readAt a :=
  ⟨h.issued, fun c hc hversion => h.current c (Store.get?_of_erase hc) hversion⟩

end Seen

end Multiway.Lib
