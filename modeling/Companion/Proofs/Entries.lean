import Mathlib.Data.List.Nodup
import Mathlib.Tactic.Lemma

/-!
# Entries under keys

Lists of entries are looked up from the front, so an entry hides those behind it with the same key.
Where no key comes twice, what is found is what is in the list.
-/

namespace Companion.Entries

variable {α β : Type} [BEq α] [LawfulBEq α] {entries : List (α × β)} {key a : α} {value : β}

lemma lookup_cons [DecidableEq α] (key : α) (value : β) (entries : List (α × β)) (a : α) :
    ((key, value) :: entries).lookup a = if a = key then some value else entries.lookup a := by
  rw [List.lookup_cons]
  by_cases ha : a = key
  · rw [if_pos ha, beq_iff_eq.mpr ha]
  · rw [if_neg ha, beq_eq_false_iff_ne.mpr ha]

/-- Nothing is found under a key that no entry has. -/
lemma lookup_eq_none_iff : entries.lookup a = none ↔ a ∉ entries.map Prod.fst := by
  rw [List.lookup_eq_none_iff]
  constructor
  · intro h hmem
    obtain ⟨entry, hentry, rfl⟩ := List.mem_map.mp hmem
    have hne := h entry hentry
    simp at hne
  · intro h entry hentry
    have hne : a ≠ entry.1 := fun heq => h (List.mem_map.mpr ⟨entry, hentry, heq.symm⟩)
    simpa using hne

lemma lookup_eq_some_iff [DecidableEq α] (nodup : (entries.map Prod.fst).Nodup) :
    entries.lookup a = some value ↔ (a, value) ∈ entries := by
  induction entries with
  | nil => simp
  | cons entry entries ih =>
    obtain ⟨key, other⟩ := entry
    obtain ⟨hfresh, hrest⟩ := List.nodup_cons.mp nodup
    rw [lookup_cons, List.mem_cons]
    split
    next heq =>
      subst heq
      have hnot : (a, value) ∉ entries := by
        intro hmem
        exact hfresh (List.mem_map.mpr ⟨(a, value), hmem, rfl⟩)
      simp [hnot, eq_comm]
    next hne => simp [ih hrest, hne]

end Companion.Entries
