import Companion.Proofs.Restore

/-!
# Keys of fields

In a container a field has the name of its artifact before its own name, with a dot between them. A
successful round has published each artifact under a name of its own, and no field name has a dot.
So the last dot of a key tells the artifact, which tells the type, and the name of the field.
-/

namespace Companion

/-- The key of a marked field: the name of its artifact, a dot, and its own name. -/
def containerKey (m : TypeModel) (config : Config) (f : MarkedField) : Text :=
  (Ancestry.artifactName m config f.enclosing).text ++ '.' :: f.name

namespace Group

/-- The source of a group makes a helper with its key prefix. -/
lemma newHelper_infix_source (config : Config) (g : Group) :
    (" H = new " ++ config.helperType.text ++ "(\"" ++ g.keyPrefix ++ "\");\n" : Text) <:+:
      g.source config := by
  refine ⟨g.packageLine ++ "public class " ++ g.info.artifact.simpleName ++ "<T extends " ++
    g.info.sourceName ++ "> extends " ++ ((Variant.of g.info).parent config g.info).text ++
    "<T> \x7b\n" ++ "    private static final " ++ config.helperType.text,
    "\n" ++ g.printMethod config .restore ++ "\n" ++ g.printMethod config .save ++ "\x7d\n", ?_⟩
  rw [source, header]
  simp only [List.append_assoc]

end Group

namespace Catalog.WellFormed

variable {c : Catalog} (h : c.WellFormed)
include h

lemma dot_notMem_name {f : MarkedField} (hf : f ∈ c.model.markedFields) : '.' ∉ f.name := by
  obtain ⟨d, hd, hf⟩ := Catalog.mem_markedFields.mp hf
  obtain ⟨a, ha, rfl⟩ := List.mem_map.mp hf
  have hvalid := (Catalog.nameFault?_eq_none (h.names d hd)).2 a (List.mem_filter.mp ha).1
  exact Identifier.dot_notMem_of_isValid hvalid

end Catalog.WellFormed

namespace Round

variable {c : Catalog} {config : Config}

/-- A marked field is collected in the group of the type that declares it. -/
lemma exists_group_of_mem_markedFields (config : Config) (h : c.WellFormed) {f : MarkedField}
    (hf : f ∈ c.model.markedFields) :
    ∃ g ∈ groups c.model config, g.info = Ancestry.describe c.model config f.enclosing ∧
      Collection.collected c.model config f ∈ g.fields := by
  have hmarked := h.declaresMarked_iff.mpr ⟨f, hf, rfl⟩
  obtain ⟨g, hg, hinfo⟩ : ∃ g ∈ groups c.model config,
      g.info = Ancestry.describe c.model config f.enclosing := exists_mem_groups h hmarked
  obtain ⟨d, hd, -, hinfo', hfields⟩ := of_mem_groups h hg
  obtain ⟨e, he, hmem⟩ := Catalog.mem_markedFields.mp hf
  have hname : e.qualifiedName = d.qualifiedName := by
    rw [← Catalog.enclosing_of_mem_markedFieldsOf hmem]
    exact congrArg TypeInfo.name (hinfo.symm.trans hinfo')
  obtain rfl := h.eq_of_qualifiedName_eq he hd hname
  refine ⟨g, hg, hinfo, ?_⟩
  rw [hfields]
  exact List.mem_map_of_mem hmem

/-- What an artifact moves is a marked field of its type, under the key of the field. -/
lemma exists_field_of_mem_transfers (h : c.WellFormed) {g : Group}
    (hg : g ∈ groups c.model config) {t : Transfer} (ht : t ∈ g.transfers) :
    ∃ f ∈ c.model.markedFields, f.enclosing = g.info.name ∧ f.name = t.field ∧
      g.key t = containerKey c.model config f := by
  obtain ⟨d, hd, -, hinfo, hfields⟩ := of_mem_groups h hg
  have hfield : t.field ∈ g.emitted.map (·.name) :=
    g.map_field_transfers ▸ List.mem_map_of_mem ht
  obtain ⟨collected, hcollected, hname⟩ := List.mem_map.mp hfield
  have hmem := (List.mem_filter.mp hcollected).1
  rw [hfields] at hmem
  obtain ⟨f, hf, rfl⟩ := List.mem_map.mp hmem
  have henclosing := Catalog.enclosing_of_mem_markedFieldsOf hf
  refine ⟨f, Catalog.mem_markedFields.mpr ⟨d, hd, hf⟩, ?_, hname, ?_⟩
  · rw [henclosing, hinfo]
    rfl
  · rw [Group.key_eq, containerKey, henclosing, hinfo, ← hname]
    rfl

/-- In a successful round the artifacts of different types have different names. -/
lemma enclosing_eq_of_artifactName_eq (h : c.WellFormed) {report : Report}
    (hr : (intoStore c.model config).1.result = .ok report) {f f' : MarkedField}
    (hf : f ∈ c.model.markedFields) (hf' : f' ∈ c.model.markedFields)
    (heq : Ancestry.artifactName c.model config f.enclosing =
      Ancestry.artifactName c.model config f'.enclosing) : f.enclosing = f'.enclosing := by
  obtain ⟨g, hg, hinfo, -⟩ := exists_group_of_mem_markedFields config h hf
  obtain ⟨g', hg', hinfo', -⟩ := exists_group_of_mem_markedFields config h hf'
  have hartifact : g.info.artifact = g'.info.artifact := by
    rw [hinfo, hinfo']
    exact heq
  have hgroup := List.inj_on_of_nodup_map (intoStore_ok hr).2.nodup hg hg' hartifact
  rw [hgroup, hinfo'] at hinfo
  exact (congrArg TypeInfo.name hinfo).symm

/-- In a successful round each marked field is in the group of its type, whose published source puts
the prefix of its key before its name, and the fields of two types or of two names have two keys. -/
theorem containerKey_eq_iff {manifest : Manifest} (hc : Catalog.ofManifest manifest = .ok c)
    (config : Config) {report : Report} (hr : (intoStore c.model config).1.result = .ok report) :
    (∀ f ∈ c.model.markedFields, ∃ g ∈ groups c.model config,
        g.info.name = f.enclosing ∧ Collection.collected c.model config f ∈ g.fields ∧
        containerKey c.model config f = g.keyPrefix ++ f.name ∧
        (intoStore c.model config).2.source? g.info.artifact = some (g.source config) ∧
        (" H = new " ++ config.helperType.text ++ "(\"" ++ g.keyPrefix ++ "\");\n" : Text) <:+:
          g.source config) ∧
      (∀ g ∈ groups c.model config, ∀ t ∈ g.transfers, ∃ f ∈ c.model.markedFields,
        f.enclosing = g.info.name ∧ f.name = t.field ∧
          g.key t = containerKey c.model config f) ∧
      ∀ f ∈ c.model.markedFields, ∀ f' ∈ c.model.markedFields,
        containerKey c.model config f = containerKey c.model config f' ↔
          f.enclosing = f'.enclosing ∧ f.name = f'.name := by
  have hwf := (Catalog.wellFormed_of_ofManifest hc).2
  refine ⟨?_, ?_, ?_⟩
  · intro f hf
    obtain ⟨g, hg, hinfo, hfield⟩ := exists_group_of_mem_markedFields config hwf hf
    have hkey : containerKey c.model config f = g.keyPrefix ++ f.name := by
      rw [containerKey, Group.keyPrefix, hinfo, List.append_assoc]
      rfl
    refine ⟨g, hg, ?_, hfield, hkey, (intoStore_ok hr).2.sources g hg,
      g.newHelper_infix_source config⟩
    rw [hinfo]
    rfl
  · intro g hg t ht
    exact exists_field_of_mem_transfers hwf hg ht
  · intro f hf f' hf'
    constructor
    · intro heq
      obtain ⟨htext, hname⟩ :=
        Text.append_cons_inj (hwf.dot_notMem_name hf) (hwf.dot_notMem_name hf') heq
      exact ⟨enclosing_eq_of_artifactName_eq hwf hr hf hf' (congrArg QName.mk htext), hname⟩
    · rintro ⟨henclosing, hname⟩
      rw [containerKey, containerKey, henclosing, hname]

/-- The fields of one name in two classes of a line have two keys. -/
theorem sampleManifest_keys :
    (intoStore (Catalog.unchecked Ancestry.sampleManifest).model {}).1.result = .ok sampleReport ∧
      ∀ f ∈ (Catalog.unchecked Ancestry.sampleManifest).model.markedFields,
        ∀ f' ∈ (Catalog.unchecked Ancestry.sampleManifest).model.markedFields,
          f.enclosing ≠ f'.enclosing ∨ f.name ≠ f'.name →
            containerKey (Catalog.unchecked Ancestry.sampleManifest).model {} f ≠
              containerKey (Catalog.unchecked Ancestry.sampleManifest).model {} f' := by
  obtain ⟨-, -, keys⟩ :=
    containerKey_eq_iff Ancestry.sampleManifest_accepted {} sampleManifest_reported
  refine ⟨sampleManifest_reported, ?_⟩
  intro f hf f' hf' hne heq
  obtain ⟨henclosing, hname⟩ := (keys f hf f' hf').mp heq
  rcases hne with hne | hne
  · exact hne henclosing
  · exact hne hname

end Round

end Companion
