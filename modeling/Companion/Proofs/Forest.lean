import Companion.Proofs.Lineage

/-!
# The forest of artifacts

What a round publishes is closed: no artifact extends a class that should have been generated and
was not. The parent is found by asking the types above for marked fields, the artifacts are made
from the marked fields themselves, and the two agree.
-/

namespace Companion

/-- What a variant extends where there is no parent. -/
def Variant.base (config : Config) : Variant → QName
  | .plain => config.plainBase
  | .renderable => config.renderableBase

lemma Variant.parent_of_none {config : Config} {info : TypeInfo} (v : Variant)
    (h : info.parentArtifact = none) : v.parent config info = v.base config := by
  cases v <;> simp [Variant.parent, Variant.base, h]

lemma Variant.parent_of_some {config : Config} {info : TypeInfo} {artifact : QName} (v : Variant)
    (h : info.parentArtifact = some artifact) : v.parent config info = artifact := by
  cases v <;> simp [Variant.parent, h]

/-- The artifact of the parent of a summary's type, as a question without a memo finds it. -/
def Summary.parentArtifact? (model : TypeModel) (config : Config) (s : Summary) : Option QName :=
  (Ancestry.typeInfo model config {} s.origin).answer.1.parentArtifact

/-- Each artifact extends the base of its variant or exactly one other artifact, that of a strict
superclass, and from each of them the links to parents come to an end. -/
structure Summary.IsForest (model : TypeModel) (config : Config) (artifacts : List Summary) :
    Prop where
  nodup : (artifacts.map (·.name)).Nodup
  parent : ∀ s ∈ artifacts,
    s.parentArtifact? model config = none ∧ s.parent = s.variant.base config ∨
    ∃ t ∈ artifacts, s.parentArtifact? model config = some t.name ∧ s.parent = t.name ∧ t ≠ s ∧
      (∀ u ∈ artifacts, u.name = t.name → u = t) ∧
      Relation.TransGen model.superclassLinks.Leads s.origin t.origin
  lineage : ∀ s ∈ artifacts, ∃ line,
    Lineage (·.name) (·.parentArtifact? model config) artifacts s line ∧
      (line.map (·.origin)).Nodup
  closed : ∀ s ∈ artifacts, s.parent ≠ s.variant.base config → ∃ t ∈ artifacts, t.name = s.parent

namespace Round

variable {c : Catalog} {config : Config}

lemma parentArtifact?_summary (h : c.WellFormed) {g : Group} (hg : g ∈ groups c.model config) :
    (g.summary config).parentArtifact? c.model config = g.info.parentArtifact := by
  obtain ⟨d, -, -, hinfo, -⟩ := of_mem_groups h hg
  have hname : (g.summary config).origin = d.qualifiedName := by
    rw [Group.summary, hinfo]
    rfl
  rw [Summary.parentArtifact?, hname, hinfo,
    (Ancestry.typeInfo_sound h.acyclic Memo.Sound.empty d.qualifiedName).1]

/-- The groups of a well-formed catalog have a forest of artifacts, if these have distinct names. -/
lemma isForest_summaries (h : c.WellFormed)
    (nodup : ((groups c.model config).map (·.info.artifact)).Nodup) :
    Summary.IsForest c.model config ((groups c.model config).map (Group.summary config)) := by
  have inj := List.inj_on_of_nodup_map nodup
  have parent : ∀ g ∈ groups c.model config,
      g.info.parentArtifact = none ∨ ∃ t ∈ groups c.model config,
        g.info.parentArtifact = some t.info.artifact ∧
          Relation.TransGen c.model.superclassLinks.Leads g.info.name t.info.name := by
    intro g hg
    cases hp : g.info.parentArtifact with
    | none => exact Or.inl rfl
    | some artifact =>
      obtain ⟨t, ht, rfl, hreach⟩ := parent_mem_groups h hg hp
      exact Or.inr ⟨t, ht, rfl, hreach⟩
  refine ⟨?_, fun s hs => ?_, fun s hs => ?_, fun s hs hbase => ?_⟩
  · rw [List.map_map]
    exact nodup
  · obtain ⟨g, hg, rfl⟩ := List.mem_map.mp hs
    rw [parentArtifact?_summary h hg]
    rcases parent g hg with hp | ⟨t, ht, hp, hreach⟩
    · exact Or.inl ⟨hp, Variant.parent_of_none _ hp⟩
    · refine Or.inr ⟨t.summary config, List.mem_map_of_mem ht, hp, Variant.parent_of_some _ hp,
        fun heq => ?_, fun u hu hname => ?_, hreach⟩
      · have horigin : t.info.name = g.info.name := congrArg Summary.origin heq
        exact h.acyclic.irrefl _ (horigin ▸ hreach)
      · obtain ⟨x, hx, rfl⟩ := List.mem_map.mp hu
        rw [inj hx ht hname]
  · obtain ⟨g, hg, rfl⟩ := List.mem_map.mp hs
    obtain ⟨line, hline, hnodup, -⟩ := exists_groupLineage h hg
    refine ⟨line.map (Group.summary config), hline.map (Group.summary config) (fun _ => rfl)
      (fun a ha => parentArtifact?_summary h ha), ?_⟩
    rw [List.map_map]
    exact hnodup
  · obtain ⟨g, hg, rfl⟩ := List.mem_map.mp hs
    rcases parent g hg with hp | ⟨t, ht, hp, -⟩
    · exact absurd (Variant.parent_of_none _ hp) hbase
    · exact ⟨t.summary config, List.mem_map_of_mem ht, (Variant.parent_of_some _ hp).symm⟩

/-- The artifacts that a successful round publishes into an empty store form a forest. -/
theorem artifacts_isForest {manifest : Manifest} (hc : Catalog.ofManifest manifest = .ok c)
    {report : Report} (hr : (intoStore c.model config).1.result = .ok report) :
    Summary.IsForest c.model config report.artifacts := by
  obtain ⟨hartifacts, hpublished⟩ := intoStore_ok hr
  rw [hartifacts]
  exact isForest_summaries (Catalog.wellFormed_of_ofManifest hc).2 hpublished.nodup

theorem sampleReport_isForest :
    (intoStore (Catalog.unchecked Ancestry.sampleManifest).model {}).1.result = .ok sampleReport ∧
      Summary.IsForest (Catalog.unchecked Ancestry.sampleManifest).model {}
        sampleReport.artifacts :=
  ⟨sampleManifest_reported,
    artifacts_isForest Ancestry.sampleManifest_accepted sampleManifest_reported⟩

end Round

end Companion
