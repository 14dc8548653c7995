import Companion.Graph.Search
import Mathlib.Logic.Relation
import Mathlib.Tactic.Lemma

/-!
# What a search finds

A search by layers finds exactly what arrows lead to. At every layer, what was seen has been
expanded: the arrows from it lead to what was seen or to the layer, and the target is not among it.
The order in which arrows are followed has no part in the answer.
-/

namespace Companion.Graph.Arrows

variable {α : Type} [DecidableEq α] (g : Arrows α)

/-- An arrow leads from `a` to `b`. -/
def Leads (a b : α) : Prop :=
  b ∈ g.next a

variable {g} {target : α} {seen layer : List α}

lemma mem_fresh {a : α} : a ∈ fresh seen layer ↔ a ∈ layer ∧ a ∉ seen := by
  simp [fresh]

omit [DecidableEq α] in
lemma mem_after {b : α} : b ∈ g.after layer ↔ ∃ a ∈ layer, g.Leads a b := by
  simp [after, Leads]

/-- What is found is reached from the layer. -/
lemma exists_reaches_of_search (h : g.search target seen layer = true) :
    ∃ a ∈ layer, Relation.ReflTransGen g.Leads a target := by
  fun_induction search g target seen layer with
  | case1 seen layer hmem => exact ⟨target, hmem, .refl⟩
  | case2 seen layer hmem hlast => cases h
  | case3 seen layer hmem hmore ih =>
    obtain ⟨b, hb, hreach⟩ := ih h
    obtain ⟨a, ha, hab⟩ := mem_after.mp hb
    exact ⟨a, (mem_fresh.mp ha).1, .head hab hreach⟩

/-- What was seen is not the target, and the arrows from it lead to what was seen or to the
layer. -/
def Expanded (g : Arrows α) (target : α) (seen layer : List α) : Prop :=
  ∀ a ∈ seen, a ≠ target ∧ ∀ b, g.Leads a b → b ∈ seen ∨ b ∈ layer

lemma mem_seen_or_fresh {a : α} (h : a ∈ seen ∨ a ∈ layer) : a ∈ fresh seen layer ++ seen := by
  rw [List.mem_append, mem_fresh]
  by_cases ha : a ∈ seen
  · exact Or.inr ha
  · exact Or.inl ⟨h.resolve_left ha, ha⟩

/-- Expanding a layer without the target leaves everything that was seen expanded. -/
lemma Expanded.step (h : Expanded g target seen layer) (hmem : target ∉ layer) :
    Expanded g target (fresh seen layer ++ seen) (g.after (fresh seen layer)) := by
  intro a ha
  rcases List.mem_append.mp ha with hfresh | hseen
  · refine ⟨fun heq => hmem (heq ▸ (mem_fresh.mp hfresh).1), fun b hab => ?_⟩
    exact Or.inr (mem_after.mpr ⟨a, hfresh, hab⟩)
  · obtain ⟨hne, hleads⟩ := h a hseen
    exact ⟨hne, fun b hab => Or.inl (mem_seen_or_fresh (hleads b hab))⟩

omit [DecidableEq α] in
/-- Where no arrows are left, everything that is reached was seen, and the target was not. -/
lemma Expanded.not_reaches (h : Expanded g target seen []) {a : α} (ha : a ∈ seen) :
    ¬Relation.ReflTransGen g.Leads a target := by
  intro hreach
  induction hreach using Relation.ReflTransGen.head_induction_on with
  | refl => exact (h target ha).1 rfl
  | head hab _ ih =>
    rcases (h _ ha).2 _ hab with hb | hb
    · exact ih hb
    · cases hb

/-- What is reached from the layer or from what was expanded is found. -/
lemma Expanded.search_eq_true (h : Expanded g target seen layer) {a : α}
    (ha : a ∈ seen ∨ a ∈ layer) (hreach : Relation.ReflTransGen g.Leads a target) :
    g.search target seen layer = true := by
  fun_induction search g target seen layer with
  | case1 seen layer hmem => rfl
  | case2 seen layer hmem hlast =>
    have hstep := h.step hmem
    rw [hlast] at hstep
    exact absurd hreach (hstep.not_reaches (mem_seen_or_fresh ha))
  | case3 seen layer hmem hmore ih =>
    exact ih (h.step hmem) (Or.inl (mem_seen_or_fresh ha))

/-- A search finds the target if and only if arrows lead to it in any number of steps. -/
theorem reaches_iff {a : α} :
    g.reaches a target = true ↔ Relation.ReflTransGen g.Leads a target := by
  constructor
  · intro h
    obtain ⟨b, hb, hreach⟩ := exists_reaches_of_search h
    exact List.mem_singleton.mp hb ▸ hreach
  · intro h
    have hstart : Expanded g target [] [a] := fun b hb => absurd hb List.not_mem_nil
    exact hstart.search_eq_true (Or.inr List.mem_cons_self) h

omit [DecidableEq α] in
/-- From a place among some that no arrow leads out of, the arrows of these places alone count. -/
lemma reflTransGen_congr_on {g' : Arrows α} {S : α → Prop}
    (same : ∀ a, S a → ∀ b, b ∈ g.next a → b ∈ g'.next a)
    (closed : ∀ a, S a → ∀ b, b ∈ g.next a → S b) {a b : α} (ha : S a)
    (h : Relation.ReflTransGen g.Leads a b) : Relation.ReflTransGen g'.Leads a b := by
  induction h using Relation.ReflTransGen.head_induction_on with
  | refl => exact .refl
  | head hab _ ih => exact .head (same _ ha _ hab) (ih (closed _ ha _ hab))

/-- Arrows to the same places, whatever their order, reach the same places. -/
lemma reaches_congr_on {g' : Arrows α} {S : α → Prop}
    (same : ∀ a, S a → ∀ b, b ∈ g.next a ↔ b ∈ g'.next a)
    (closed : ∀ a, S a → ∀ b, b ∈ g.next a → S b) {a : α} (ha : S a) (target : α) :
    g.reaches a target = g'.reaches a target := by
  rw [Bool.eq_iff_iff, reaches_iff, reaches_iff]
  exact ⟨reflTransGen_congr_on (fun a ha b => (same a ha b).mp) closed ha,
    reflTransGen_congr_on (fun a ha b => (same a ha b).mpr)
      (fun a ha b hb => closed a ha b ((same a ha b).mpr hb)) ha⟩

lemma reaches_congr {g' : Arrows α} (h : ∀ a b, b ∈ g.next a ↔ b ∈ g'.next a) (a target : α) :
    g.reaches a target = g'.reaches a target :=
  reaches_congr_on (S := fun _ => True) (fun a _ => h a) (fun _ _ _ _ => trivial) trivial target

end Companion.Graph.Arrows
