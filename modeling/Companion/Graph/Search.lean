import Companion.Graph.Unseen

/-!
# Search along many links

Arrows lead from each of finitely many places to a list of others. Whether a place can be reached is
found layer by layer. No place is expanded twice, so cycles do no harm and neither do many ways to
one place.
-/

namespace Companion.Graph

/-- Arrows from finitely many places. -/
structure Arrows (α : Type) where
  next : α → List α
  sources : List α
  mem_sources : ∀ a, next a ≠ [] → a ∈ sources

namespace Arrows

variable {α : Type} [DecidableEq α]

/-- The places of a layer that have not been seen, each once. -/
def fresh (seen layer : List α) : List α :=
  (layer.filter (· ∉ seen)).eraseDups

/-- Where the arrows from a layer lead. -/
def after (g : Arrows α) (layer : List α) : List α :=
  layer.flatMap g.next

theorem unseen_fresh_lt (g : Arrows α) {seen layer : List α}
    (h : g.after (fresh seen layer) ≠ []) :
    unseen g.sources (fresh seen layer ++ seen) < unseen g.sources seen := by
  have ⟨a, ha, hn⟩ : ∃ a ∈ fresh seen layer, g.next a ≠ [] := by
    simpa [after, List.flatMap_eq_nil_iff] using h
  have hs : a ∉ seen := by simpa using (List.mem_filter.1 (List.mem_eraseDups.1 ha)).2
  refine Nat.lt_of_le_of_lt ?_ (unseen_cons_lt (g.mem_sources a hn) hs)
  simp only [unseen, ← List.countP_eq_length_filter]
  refine List.countP_mono_left fun b _ hb => ?_
  simp only [decide_eq_true_eq, List.mem_append, List.mem_cons, not_or] at hb ⊢
  exact ⟨fun hba => hb.1 (hba ▸ ha), hb.2⟩

/-- Whether `target` is in the layer or can be reached from there past what was seen. -/
def search (g : Arrows α) (target : α) (seen layer : List α) : Bool :=
  if target ∈ layer then true
  else if _h : g.after (fresh seen layer) = [] then false
  else search g target (fresh seen layer ++ seen) (g.after (fresh seen layer))
termination_by unseen g.sources seen
decreasing_by exact g.unseen_fresh_lt _h

/-- Whether arrows lead from `a` to `target`, in any number of steps. -/
def reaches (g : Arrows α) (a target : α) : Bool :=
  g.search target [] [a]

end Arrows

end Companion.Graph
