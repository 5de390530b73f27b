import Mathlib

/-!
# Name patterns

Names are labels joined by a separator, as hostnames are, most general label
last. A pattern stands for a set of names: an exact pattern for itself, a
wildcard for every name below a domain, however deep. What two patterns have in
common is what their sets have in common.
-/

namespace Multiway.Lib

inductive NamePattern (α : Type)
  | exact (name : List α)
  | wildcard (domain : List α)
deriving DecidableEq

namespace NamePattern

variable {α : Type} (sep : α)

/-- The names a pattern stands for. -/
def names : NamePattern α → Set (List α)
  | exact name => {name}
  | wildcard domain => {name | ∃ below, below ≠ [] ∧ name = below ++ sep :: domain}

theorem mem_names_exact {name other : List α} : other ∈ (exact name).names sep ↔ other = name :=
  Iff.rfl

theorem mem_names_wildcard {domain name : List α} :
    name ∈ (wildcard domain).names sep ↔ sep :: domain <:+ name ∧ name ≠ sep :: domain := by
  constructor
  · rintro ⟨below, hbelow, rfl⟩
    refine ⟨List.suffix_append _ _, fun hself => hbelow ?_⟩
    simpa using hself
  · rintro ⟨⟨below, rfl⟩, hself⟩
    refine ⟨below, ?_, rfl⟩
    rintro rfl
    exact hself rfl

instance decidableMemNames [DecidableEq α] (name : List α) :
    ∀ pattern : NamePattern α, Decidable (name ∈ pattern.names sep)
  | exact _ => decidable_of_iff _ (mem_names_exact sep).symm
  | wildcard _ => decidable_of_iff _ (mem_names_wildcard sep).symm

end NamePattern

end Multiway.Lib
