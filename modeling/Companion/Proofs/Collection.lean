import Companion.Collection
import Companion.Proofs.Ancestry

/-!
# Collected fields

Where superclasses do not run in circles, each marked field is collected by itself: with the
strategy for its type, and with what the model says of the type that declares it. What was collected
before a field leaves no trace in it.
-/

namespace Companion

namespace Collection

variable (m : TypeModel) (config : Config)

/-- A marked field as it is collected, whatever was collected before. -/
def collected (f : MarkedField) : CollectedField where
  name := f.name
  type := f.type
  strategy := (Classification.classify m config f.type).answer
  owner := Ancestry.describe m config f.enclosing
  modifiersValid := (modifierProblems f).isEmpty

variable {m config}

lemma collectField_sound (acyclic : m.superclassLinks.IsAcyclic) {memo : Memo}
    (h : memo.Sound m config) (f : MarkedField) :
    (collectField m config memo f).answer.1 = collected m config f ∧
      (collectField m config memo f).answer.2.2.Sound m config := by
  obtain ⟨howner, hsound⟩ := Ancestry.typeInfo_sound acyclic h f.enclosing
  refine ⟨?_, hsound⟩
  simp only [collectField, collected, howner]

lemma collectFrom_sound (acyclic : m.superclassLinks.IsAcyclic) (checked : List QName)
    {memo : Memo} (h : memo.Sound m config) (fs : List MarkedField) :
    (collectFrom m config checked memo fs).answer.fields = fs.map (collected m config) := by
  induction fs generalizing checked memo with
  | nil => rfl
  | cons f fs ih =>
    obtain ⟨hfield, hsound⟩ := collectField_sound acyclic h f
    rw [List.map_cons, ← hfield, ← ih (f.enclosing :: checked) hsound]
    rfl

end Collection

namespace Catalog

variable {c : Catalog}

/-- The marked fields are those of the declared types. -/
lemma mem_markedFields {f : MarkedField} :
    f ∈ c.model.markedFields ↔ ∃ d ∈ c.declared, f ∈ markedFieldsOf d := by
  rw [model, List.mem_flatMap]

lemma enclosing_of_mem_markedFieldsOf {d : TypeDecl} {f : MarkedField}
    (hf : f ∈ markedFieldsOf d) : f.enclosing = d.qualifiedName := by
  obtain ⟨_, -, rfl⟩ := List.mem_map.mp hf
  rfl

lemma exists_mem_markedFieldsOf_iff {d : TypeDecl} :
    (∃ f, f ∈ markedFieldsOf d) ↔ d.isMarked = true := by
  rw [TypeDecl.isMarked, List.any_eq_true]
  constructor
  · rintro ⟨f, hf⟩
    obtain ⟨a, ha, -⟩ := List.mem_map.mp hf
    exact ⟨a, List.mem_filter.mp ha⟩
  · rintro ⟨a, ha⟩
    exact ⟨_, List.mem_map_of_mem (List.mem_filter.mpr ha)⟩

lemma filter_markedFieldsOf_self {d : TypeDecl} {n : QName} (h : d.qualifiedName = n) :
    (markedFieldsOf d).filter (fun f => f.enclosing = n) = markedFieldsOf d := by
  refine List.filter_eq_self.mpr fun f hf => ?_
  rw [enclosing_of_mem_markedFieldsOf hf]
  exact decide_eq_true h

lemma filter_markedFieldsOf_of_ne {d : TypeDecl} {n : QName} (h : d.qualifiedName ≠ n) :
    (markedFieldsOf d).filter (fun f => f.enclosing = n) = [] := by
  refine List.filter_eq_nil_iff.mpr fun f hf => ?_
  rw [enclosing_of_mem_markedFieldsOf hf, decide_eq_false h]
  exact Bool.false_ne_true

lemma filter_flatMap_markedFieldsOf {ds : List TypeDecl}
    (nodup : (ds.map (·.qualifiedName)).Nodup) {d : TypeDecl} (hd : d ∈ ds) :
    (ds.flatMap markedFieldsOf).filter (fun f => f.enclosing = d.qualifiedName) =
      markedFieldsOf d := by
  induction ds with
  | nil => cases hd
  | cons e ds ih =>
    rw [List.map_cons, List.nodup_cons] at nodup
    rw [List.flatMap_cons, List.filter_append]
    rcases List.mem_cons.mp hd with rfl | hd
    · have hrest : (ds.flatMap markedFieldsOf).filter (fun f => f.enclosing = d.qualifiedName) =
          [] := by
        refine List.filter_eq_nil_iff.mpr fun f hf => ?_
        obtain ⟨e, he, hf⟩ := List.mem_flatMap.mp hf
        rw [enclosing_of_mem_markedFieldsOf hf, decide_eq_true_eq]
        exact fun heq => nodup.1 (List.mem_map.mpr ⟨e, he, heq⟩)
      rw [filter_markedFieldsOf_self rfl, hrest, List.append_nil]
    · have hne : e.qualifiedName ≠ d.qualifiedName := fun heq =>
        nodup.1 (List.mem_map.mpr ⟨d, hd, heq.symm⟩)
      rw [filter_markedFieldsOf_of_ne hne, List.nil_append]
      exact ih nodup.2 hd

namespace WellFormed

variable (h : c.WellFormed)
include h

/-- The marked fields of a declared type, among all of them. -/
lemma filter_markedFields {d : TypeDecl} (hd : d ∈ c.declared) :
    c.model.markedFields.filter (fun f => f.enclosing = d.qualifiedName) = markedFieldsOf d :=
  filter_flatMap_markedFieldsOf h.nodup hd

/-- A type is marked if and only if one of the marked fields is its own. -/
lemma declaresMarked_iff {n : QName} :
    c.model.declaresMarked n = true ↔ ∃ f ∈ c.model.markedFields, f.enclosing = n := by
  constructor
  · intro hn
    cases hl : c.lookup n with
    | none => simp [model, hl] at hn
    | some d =>
      have hmarked : d.isMarked = true := by simpa [model, hl] using hn
      have hd := h.declared_of_isMarked hl hmarked
      obtain ⟨f, hf⟩ := exists_mem_markedFieldsOf_iff.mpr hmarked
      refine ⟨f, mem_markedFields.mpr ⟨d, hd, hf⟩, ?_⟩
      rw [enclosing_of_mem_markedFieldsOf hf, (lookup_some hl).1]
  · rintro ⟨f, hf, rfl⟩
    obtain ⟨d, hd, hf⟩ := mem_markedFields.mp hf
    have hmarked := exists_mem_markedFieldsOf_iff.mp ⟨f, hf⟩
    rw [enclosing_of_mem_markedFieldsOf hf]
    simp [model, h.lookup_declared hd, hmarked]

end WellFormed

end Catalog

end Companion
