import Mathlib

/-!
# Sources that are read in pieces

A source has elements to come, and is asked for them through one buffer or
through several. How many it hands over at once is its own affair: `Delivers`
says only that they are the next ones, that the buffers hold them, and that
buffers with room get something as long as anything is to come. Whatever is
asked then, what has been handed over and what is still to come are together
what was to come at the start (`Delivers.obtained_append`), and enough asking
gets all of it (`Delivers.obtained_all`).
-/

namespace Multiway.Lib

variable {α σ : Type}

/-- One buffer with room for so many elements, or several. -/
inductive Ask
  | read (size : ℕ)
  | readv (sizes : List ℕ)
deriving DecidableEq

namespace Ask

def capacity : Ask → ℕ
  | read size => size
  | readv sizes => sizes.sum

/-- There is a buffer, and each has room. -/
def HasRoom : Ask → Prop
  | read size => 0 < size
  | readv sizes => sizes ≠ [] ∧ ∀ size ∈ sizes, 0 < size

instance (ask : Ask) : Decidable ask.HasRoom := by
  cases ask
  · exact inferInstanceAs (Decidable (_ < _))
  · exact inferInstanceAs (Decidable (_ ∧ _))

theorem HasRoom.capacity_pos {ask : Ask} (h : ask.HasRoom) : 0 < ask.capacity := by
  rcases ask with size | _ | ⟨size, sizes⟩
  · exact h
  · exact absurd rfl h.1
  · have hsize : 0 < size := h.2 size List.mem_cons_self
    show 0 < (size :: sizes).sum
    rw [List.sum_cons]
    omega

end Ask

/-- What a source answers, and what becomes of it. -/
structure Source (α σ : Type) where
  read : σ → ℕ → List α × σ
  readv : σ → List ℕ → List α × σ

namespace Source

variable (source : Source α σ)

def answer (s : σ) : Ask → List α × σ
  | .read size => source.read s size
  | .readv sizes => source.readv s sizes

/-- Everything obtained by asking again and again, and the source after it. -/
def obtained : σ → List Ask → List α × σ
  | s, [] => ([], s)
  | s, ask :: asks =>
    let (got, s) := source.answer s ask
    let (more, s) := obtained s asks
    (got ++ more, s)

/-- `left s` is what is still to come of a source. -/
structure Delivers (left : σ → List α) : Prop where
  next : ∀ s ask, (source.answer s ask).1 ++ left (source.answer s ask).2 = left s
  fits : ∀ s ask, (source.answer s ask).1.length ≤ ask.capacity
  some : ∀ s ask, ask.HasRoom → left s ≠ [] → (source.answer s ask).1 ≠ []

namespace Delivers

variable {source} {left : σ → List α} (h : source.Delivers left)
include h

/-- **Nothing is lost, repeated or reordered.** -/
theorem obtained_append (asks : List Ask) (s : σ) :
    (source.obtained s asks).1 ++ left (source.obtained s asks).2 = left s := by
  induction asks generalizing s with
  | nil => rfl
  | cons ask asks ih =>
    show (_ ++ (source.obtained (source.answer s ask).2 asks).1) ++
      left (source.obtained (source.answer s ask).2 asks).2 = left s
    rw [List.append_assoc, ih]
    exact h.next s ask

/-- An answer without elements to a buffer with room is the end. -/
theorem left_eq_nil {s : σ} {ask : Ask} (hroom : ask.HasRoom)
    (hend : (source.answer s ask).1 = []) : left s = [] := by
  by_contra hleft
  exact h.some s ask hroom hleft hend

/-- Buffers with room get an element each, until nothing is to come. -/
theorem length_left_le {asks : List Ask} (hroom : ∀ ask ∈ asks, ask.HasRoom) (s : σ) :
    (left (source.obtained s asks).2).length ≤ (left s).length - asks.length := by
  induction asks generalizing s with
  | nil => exact le_rfl
  | cons ask asks ih =>
    obtain ⟨hfirst, hrest⟩ := List.forall_mem_cons.mp hroom
    have hnext := congrArg List.length (h.next s ask)
    rw [List.length_append] at hnext
    refine (ih hrest (source.answer s ask).2).trans ?_
    rw [List.length_cons]
    by_cases hleft : left s = []
    · rw [hleft, List.length_nil] at hnext
      omega
    · have hgot := List.length_pos_iff.mpr (h.some s ask hfirst hleft)
      omega

/-- **Enough asking gets everything.** -/
theorem obtained_all {asks : List Ask} (hroom : ∀ ask ∈ asks, ask.HasRoom) {s : σ}
    (hlen : (left s).length ≤ asks.length) : (source.obtained s asks).1 = left s := by
  have hle := h.length_left_le hroom s
  have hnil : left (source.obtained s asks).2 = [] := List.eq_nil_of_length_eq_zero (by omega)
  have happend := h.obtained_append asks s
  rwa [hnil, List.append_nil] at happend

end Delivers

end Source

/-! ## Elements that arrive in pieces -/

/-- Pieces that arrive one after the other, none of them empty. -/
abbrev Pieces (α : Type) : Type := {pieces : List (List α) // [] ∉ pieces}

namespace Pieces

def left (pieces : Pieces α) : List α := pieces.1.flatten

/-- What there is of the first piece, as far as there is room for it. -/
def take (size : ℕ) : Pieces α → List α × Pieces α
  | ⟨[], h⟩ => ([], ⟨[], h⟩)
  | ⟨piece :: later, h⟩ =>
    (piece.take size,
      if hlt : size < piece.length then
        ⟨piece.drop size :: later, by
          intro hmem
          rcases List.mem_cons.mp hmem with hnil | hmem
          · exact absurd (List.drop_eq_nil_iff.mp hnil.symm) (by omega)
          · exact h (List.mem_cons_of_mem _ hmem)⟩
      else ⟨later, fun hmem => h (List.mem_cons_of_mem _ hmem)⟩)

theorem take_append (size : ℕ) (pieces : Pieces α) :
    (pieces.take size).1 ++ (pieces.take size).2.left = pieces.left := by
  obtain ⟨_ | ⟨piece, later⟩, h⟩ := pieces
  · rfl
  · by_cases hlt : size < piece.length
    · simp [take, left, hlt, ← List.append_assoc]
    · simp [take, left, hlt, List.take_of_length_le (not_lt.mp hlt)]

theorem length_take_le (size : ℕ) (pieces : Pieces α) :
    (pieces.take size).1.length ≤ size := by
  obtain ⟨_ | ⟨piece, later⟩, h⟩ := pieces
  · exact Nat.zero_le size
  · exact List.length_take_le size piece

theorem take_ne_nil {size : ℕ} (hsize : 0 < size) {pieces : Pieces α} (h : pieces.left ≠ []) :
    (pieces.take size).1 ≠ [] := by
  obtain ⟨_ | ⟨piece, later⟩, hne⟩ := pieces
  · exact absurd rfl h
  · have hpiece : piece ≠ [] := by
      intro hnil
      exact hne (hnil ▸ List.mem_cons_self)
    show piece.take size ≠ []
    simp [List.take_eq_nil_iff, hsize.ne', hpiece]

end Pieces

/-- Several buffers are filled like one. -/
def arrivals : Source α (Pieces α) where
  read pieces size := pieces.take size
  readv pieces sizes := pieces.take sizes.sum

theorem answer_arrivals (pieces : Pieces α) (ask : Ask) :
    arrivals.answer pieces ask = pieces.take ask.capacity := by
  cases ask <;> rfl

theorem arrivals_delivers : (arrivals : Source α (Pieces α)).Delivers Pieces.left where
  next pieces ask := by
    rw [answer_arrivals, Pieces.take_append]
  fits pieces ask := by
    rw [answer_arrivals]
    exact Pieces.length_take_le _ _
  some pieces ask hroom hleft := by
    rw [answer_arrivals]
    exact Pieces.take_ne_nil hroom.capacity_pos hleft

end Multiway.Lib
