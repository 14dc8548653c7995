import Companion.Proofs.Collection
import Companion.Proofs.Group
import Companion.Proofs.Store

/-!
# Rounds into a store

A round into an empty store succeeds if and only if its artifacts have distinct names, and then it
has published the source of each group. The groups are those of the marked types, and a group holds
its type's fields with what the model says of the type.
-/

namespace Companion

namespace Round

/-- A round into an empty store, with the store that it leaves. -/
def intoStore (model : TypeModel) (config : Config) : Round × Store :=
  (run Store.publisher model config).run {}

lemma groups_ordered (model : TypeModel) (config : Config) :
    Group.Ordered (groups model config) :=
  Group.ofFields_ordered _

variable {c : Catalog} {config : Config} {report : Report}

lemma intoStore_eq (model : TypeModel) (config : Config) :
    (intoStore model config).1.result =
        ((Group.emitAll Store.publisher config (groups model config)).run {}).1.map
          (fun artifacts =>
            { artifacts
              errorCount := (Collection.ofModel model config {}).answer.diagnostics.length
              inspectedTypes := (Collection.ofModel model config {}).answer.memo.inspected }) ∧
      (intoStore model config).2 =
        ((Group.emitAll Store.publisher config (groups model config)).run {}).2 := by
  rw [intoStore, run_run]
  exact ⟨rfl, rfl⟩

/-- A report is of all groups, and so is the store. -/
lemma intoStore_ok {model : TypeModel} (h : (intoStore model config).1.result = .ok report) :
    report.artifacts = (groups model config).map (Group.summary config) ∧
      Store.Published config (groups model config) {} (intoStore model config).2 := by
  obtain ⟨hresult, hstore⟩ := intoStore_eq model config
  rw [hstore]
  rcases hrun : (Group.emitAll Store.publisher config (groups model config)).run {} with
    ⟨e | summaries, s⟩
  · rw [hresult, hrun] at h
    cases h
  · obtain ⟨rfl, hpublished⟩ := Store.emitAll_ok hrun
    rw [hresult, hrun] at h
    obtain rfl := Except.ok.inj h
    exact ⟨rfl, hpublished⟩

/-- A round succeeds if no two of its groups have artifacts of one name. -/
lemma intoStore_of_nodup {model : TypeModel}
    (nodup : ((groups model config).map (·.info.artifact)).Nodup) :
    (intoStore model config).1.result = .ok
      { artifacts := (groups model config).map (Group.summary config)
        errorCount := (Collection.ofModel model config {}).answer.diagnostics.length
        inspectedTypes := (Collection.ofModel model config {}).answer.memo.inspected } := by
  obtain ⟨s, hemitted⟩ : ∃ s, Group.Emitted Store.publisher config (groups model config) {} s :=
    Store.exists_emitted nodup fun _ _ => rfl
  rw [(intoStore_eq model config).1, hemitted.emitAll_ok]
  rfl

lemma fields_eq (h : c.WellFormed) :
    (Collection.ofModel c.model config {}).answer.fields =
      c.model.markedFields.map (Collection.collected c.model config) :=
  Collection.collectFrom_sound h.acyclic [] Memo.Sound.empty c.model.markedFields

/-- A group is that of a marked type. -/
lemma of_mem_groups (h : c.WellFormed) {g : Group} (hg : g ∈ groups c.model config) :
    ∃ d ∈ c.declared, d.isMarked = true ∧
      g.info = Ancestry.describe c.model config d.qualifiedName ∧
      g.fields = (Catalog.markedFieldsOf d).map (Collection.collected c.model config) := by
  obtain ⟨hfields, f, hf, hinfo⟩ := Group.of_mem_ofFields hg
  rw [fields_eq h] at hfields hf
  obtain ⟨a, ha, rfl⟩ := List.mem_map.mp hf
  obtain ⟨d, hd, hmem⟩ := Catalog.mem_markedFields.mp ha
  have hinfo : g.info = Ancestry.describe c.model config d.qualifiedName := by
    rw [hinfo, ← Catalog.enclosing_of_mem_markedFieldsOf hmem]
    rfl
  refine ⟨d, hd, Catalog.exists_mem_markedFieldsOf_iff.mp ⟨a, hmem⟩, hinfo, ?_⟩
  rw [hfields, hinfo, List.filter_map]
  exact congrArg (List.map _) (h.filter_markedFields hd)

/-- Every marked type has a group. -/
lemma exists_mem_groups (h : c.WellFormed) {n : QName} (hn : c.model.declaresMarked n = true) :
    ∃ g ∈ groups c.model config, g.info = Ancestry.describe c.model config n := by
  obtain ⟨f, hf, rfl⟩ := h.declaresMarked_iff.mp hn
  have hmem : Collection.collected c.model config f ∈
      (Collection.ofModel c.model config {}).answer.fields := by
    rw [fields_eq h]
    exact List.mem_map_of_mem hf
  obtain ⟨g, hg, hname⟩ := Group.exists_mem_ofFields hmem
  obtain ⟨d, -, -, hinfo, -⟩ := of_mem_groups h hg
  refine ⟨g, hg, ?_⟩
  rw [hinfo] at hname ⊢
  exact congrArg _ hname

/-- The report of two lines of classes, one plain and one renderable. -/
def sampleReport : Report where
  artifacts :=
    [⟨"p.Base$$Stash", "p.Base", .plain, "stash.Stash.Object", ["x"], []⟩,
      ⟨"p.Dial$$Stash", "p.Dial", .renderable, "p.Gauge$$Stash", ["level", "angle"], []⟩,
      ⟨"p.Gauge$$Stash", "p.Gauge", .renderable, "stash.Stash.View", ["level"], []⟩,
      ⟨"p.Leaf$$Stash", "p.Leaf", .plain, "p.Base$$Stash", ["x", "y"], []⟩]
  errorCount := 0
  inspectedTypes := 3

lemma sampleManifest_reported :
    (intoStore (Catalog.unchecked Ancestry.sampleManifest).model {}).1.result =
      .ok sampleReport := by
  rw [intoStore_of_nodup (by decide +kernel)]
  decide +kernel

end Round

end Companion
