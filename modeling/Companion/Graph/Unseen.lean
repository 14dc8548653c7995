/-!
# What is left to see

A search that never expands the same place twice ends because the finitely many places that lead
anywhere run out. Their number that have not been seen yet is its measure.
-/

namespace Companion.Graph

variable {α : Type} [DecidableEq α]

/-- The number of the sources that have not been seen. -/
def unseen (sources seen : List α) : Nat :=
  (sources.filter (· ∉ seen)).length

theorem filter_notMem_cons (sources seen : List α) (a : α) :
    sources.filter (· ∉ a :: seen) = (sources.filter (· ∉ seen)).filter (· ≠ a) := by
  simp [List.filter_filter]

theorem unseen_cons_le (sources seen : List α) (a : α) :
    unseen sources (a :: seen) ≤ unseen sources seen := by
  rw [unseen, filter_notMem_cons]
  exact List.length_filter_le _ _

theorem unseen_cons_lt {sources seen : List α} {a : α} (h : a ∈ sources) (ha : a ∉ seen) :
    unseen sources (a :: seen) < unseen sources seen := by
  rw [unseen, filter_notMem_cons]
  exact List.length_filter_lt_length_iff_exists.2 ⟨a, by simp [h, ha], by simp⟩

end Companion.Graph
