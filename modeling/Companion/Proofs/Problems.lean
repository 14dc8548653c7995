import Companion.Collection
import Mathlib.Data.List.Dedup
import Mathlib.Data.List.Perm.Basic
import Mathlib.Tactic.Lemma

/-!
# The problems of a round

Whatever is known when a field is looked at, its problems are its own, and the problems of a type
are reported with the first of its fields. So all that is reported is the problems of each field
and, once, those of each type that declares one.
-/

namespace Companion.Collection

variable (m : TypeModel) (config : Config)

/-- The problems of a field, whatever is known. -/
def fieldProblems (f : MarkedField) : List Diagnostic :=
  modifierProblems f ++ strategyProblems f (Classification.classify m config f.type).answer

/-- The types that declare fields of a list, each once, without those already checked. -/
def unchecked (checked : List QName) (fs : List MarkedField) : List QName :=
  (fs.map (·.enclosing)).dedup.filter (· ∉ checked)

lemma unchecked_nodup (checked : List QName) (fs : List MarkedField) :
    (unchecked checked fs).Nodup :=
  (List.nodup_dedup _).filter _

lemma mem_unchecked {checked : List QName} {fs : List MarkedField} {n : QName} :
    n ∈ unchecked checked fs ↔ (∃ f ∈ fs, f.enclosing = n) ∧ n ∉ checked := by
  rw [unchecked, List.mem_filter, List.mem_dedup, List.mem_map, decide_eq_true_eq]

lemma unchecked_of_mem {checked : List QName} {f : MarkedField} (h : f.enclosing ∈ checked)
    (fs : List MarkedField) :
    (unchecked checked (f :: fs)).Perm (unchecked (f.enclosing :: checked) fs) := by
  refine (List.perm_ext_iff_of_nodup (unchecked_nodup _ _) (unchecked_nodup _ _)).mpr fun n => ?_
  rw [mem_unchecked, mem_unchecked, List.mem_cons, not_or]
  constructor
  · rintro ⟨⟨g, hg, rfl⟩, hn⟩
    rcases List.mem_cons.mp hg with rfl | hg
    · exact absurd h hn
    · exact ⟨⟨g, hg, rfl⟩, fun heq => hn (heq ▸ h), hn⟩
  · rintro ⟨⟨g, hg, rfl⟩, -, hn⟩
    exact ⟨⟨g, List.mem_cons_of_mem f hg, rfl⟩, hn⟩

lemma unchecked_of_notMem {checked : List QName} {f : MarkedField} (h : f.enclosing ∉ checked)
    (fs : List MarkedField) :
    (unchecked checked (f :: fs)).Perm
      (f.enclosing :: unchecked (f.enclosing :: checked) fs) := by
  have hnotMem : f.enclosing ∉ unchecked (f.enclosing :: checked) fs := fun hmem =>
    (mem_unchecked.mp hmem).2 List.mem_cons_self
  have hnodup := List.nodup_cons.mpr ⟨hnotMem, unchecked_nodup (f.enclosing :: checked) fs⟩
  refine (List.perm_ext_iff_of_nodup (unchecked_nodup _ _) hnodup).mpr fun n => ?_
  rw [List.mem_cons, mem_unchecked, mem_unchecked, List.mem_cons, not_or]
  constructor
  · rintro ⟨⟨g, hg, rfl⟩, hn⟩
    by_cases hgf : g.enclosing = f.enclosing
    · exact Or.inl hgf
    · rcases List.mem_cons.mp hg with rfl | hg
      · exact absurd rfl hgf
      · exact Or.inr ⟨⟨g, hg, rfl⟩, hgf, hn⟩
  · rintro (rfl | ⟨⟨g, hg, rfl⟩, -, hn⟩)
    · exact ⟨⟨f, List.mem_cons_self, rfl⟩, h⟩
    · exact ⟨⟨g, List.mem_cons_of_mem f hg, rfl⟩, hn⟩

/-- The problems of the first field of a list, with those of its type if that was not checked. -/
lemma diagnostics_collectFrom_cons (checked : List QName) (memo : Memo) (f : MarkedField)
    (fs : List MarkedField) :
    (collectFrom m config checked memo (f :: fs)).answer.diagnostics =
      (if f.enclosing ∈ checked then [] else typeProblems m f.enclosing) ++
        fieldProblems m config f ++
        (collectFrom m config (f.enclosing :: checked)
          (collectField m config memo f).answer.2.2 fs).answer.diagnostics :=
  rfl

/-- What is reported is the problems of the types that were not checked before, and those of the
fields. -/
lemma diagnostics_collectFrom (checked : List QName) (memo : Memo) (fs : List MarkedField) :
    (collectFrom m config checked memo fs).answer.diagnostics.Perm
      ((unchecked checked fs).flatMap (typeProblems m) ++
        fs.flatMap (fieldProblems m config)) := by
  induction fs generalizing checked memo with
  | nil => exact .refl _
  | cons f fs ih =>
    have hrest := ih (f.enclosing :: checked) (collectField m config memo f).answer.2.2
    rw [diagnostics_collectFrom_cons, List.flatMap_cons, List.append_assoc]
    have hfield := hrest.append_left (fieldProblems m config f)
    have hswap : (fieldProblems m config f ++
        ((unchecked (f.enclosing :: checked) fs).flatMap (typeProblems m) ++
          fs.flatMap (fieldProblems m config))).Perm
        ((unchecked (f.enclosing :: checked) fs).flatMap (typeProblems m) ++
          (fieldProblems m config f ++ fs.flatMap (fieldProblems m config))) := by
      rw [← List.append_assoc, ← List.append_assoc]
      exact List.perm_append_comm.append_right _
    have htail := hfield.trans hswap
    by_cases h : f.enclosing ∈ checked
    · rw [if_pos h, List.nil_append]
      have htypes := (unchecked_of_mem h fs).flatMap_right (typeProblems m)
      exact htail.trans (htypes.symm.append_right _)
    · rw [if_neg h]
      have htypes := (unchecked_of_notMem h fs).flatMap_right (typeProblems m)
      rw [List.flatMap_cons] at htypes
      refine (htail.append_left _).trans ?_
      rw [← List.append_assoc]
      exact htypes.symm.append_right _

/-- All that is reported in a round. -/
lemma diagnostics_ofModel :
    (ofModel m config {}).answer.diagnostics.Perm
      ((unchecked [] m.markedFields).flatMap (typeProblems m) ++
        m.markedFields.flatMap (fieldProblems m config)) :=
  diagnostics_collectFrom m config [] {} m.markedFields

end Companion.Collection
