import Mathlib.Data.List.Sort
import MailSearch.Data.IdSet

/-!
# Equality and intersection of sets of identifiers

A set is determined by its members, and emptiness and meeting of sets say what
they should of the members.
-/

namespace MailSearch
namespace IdSet

/-- Sets with the same members are equal. -/
theorem eq_of_mem_iff
    {left right : IdSet}
    (same : ∀ id, id ∈ left ↔ id ∈ right) :
    left = right := by
  obtain ⟨leftIds, leftAscending⟩ := left
  obtain ⟨rightIds, rightAscending⟩ := right
  have equal : leftIds = rightIds :=
    leftAscending.eq_of_mem_iff rightAscending same
  subst equal
  rfl

@[simp] theorem isEmpty_eq_false_iff {set : IdSet} :
    set.isEmpty = false ↔ ∃ id, id ∈ set := by
  rw [isEmpty, List.isEmpty_eq_false_iff_exists_mem]
  rfl

@[simp] theorem meets_iff {left right : IdSet} :
    left.meets right = true ↔ ∃ id, id ∈ left ∧ id ∈ right := by
  simp [meets, mem_def]

end IdSet
end MailSearch
