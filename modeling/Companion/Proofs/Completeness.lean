import Companion.Proofs.Round
import Mathlib.Data.List.Nodup
import Mathlib.Data.List.Perm.Basic

/-!
# Nothing lost, nothing twice

The groups of a round are those of the marked types, one for each. So a round into an empty store
fails only where two marked types have artifacts of one name, and otherwise every marked field is in
exactly one place: among the fields of its type's artifact or among those that it leaves out.
-/

namespace Companion

namespace Store

/-- A source under a new name is one entry more. -/
lemma insertInto_perm {n : QName} {entries : List (QName × Text)} (h : n ∉ entries.map Prod.fst)
    (source : Text) :
    (insertInto n source entries).Perm ((n, source) :: entries) := by
  induction entries with
  | nil => exact .refl _
  | cons entry entries ih =>
    rw [List.map_cons, List.mem_cons, not_or] at h
    rw [insertInto, if_neg h.1]
    split
    · exact .refl _
    · exact ((ih h.2).cons entry).trans (.swap _ _ _)

/-- A store has the sources of the groups that were published into it, and those it had before. -/
lemma sources_perm_of_emitted {config : Config} {gs : List Group} {s t : Store}
    (h : Group.Emitted publisher config gs s t) :
    t.sources.Perm (gs.map (fun g => (g.info.artifact, g.source config)) ++ s.sources) := by
  induction h with
  | nil s => exact .refl _
  | @cons g _ _ _ _ _ hg _ ih =>
    obtain ⟨hnew, rfl⟩ := publish_ok (Group.publish_of_emit publisher_through hg)
    have hinsert := insertInto_perm (Entries.lookup_eq_none_iff.mp hnew) (g.source config)
    exact (ih.trans (hinsert.append_left _)).trans List.perm_middle

end Store

namespace Catalog

/-- The declared types that have marked fields, in declaration order. -/
def markedTypes (c : Catalog) : List TypeDecl :=
  c.declared.filter (·.isMarked)

variable {c : Catalog}

lemma mem_markedTypes {d : TypeDecl} :
    d ∈ c.markedTypes ↔ d ∈ c.declared ∧ d.isMarked = true :=
  List.mem_filter

lemma flatMap_filter_isMarked (ds : List TypeDecl) :
    (ds.filter (·.isMarked)).flatMap markedFieldsOf = ds.flatMap markedFieldsOf := by
  induction ds with
  | nil => rfl
  | cons d ds ih =>
    rw [List.flatMap_cons, ← ih, List.filter_cons]
    split
    · rw [List.flatMap_cons]
    next hd =>
      have hnone : markedFieldsOf d = [] := by
        refine List.eq_nil_iff_forall_not_mem.mpr fun f hf => hd ?_
        exact exists_mem_markedFieldsOf_iff.mp ⟨f, hf⟩
      rw [hnone, List.nil_append]

/-- All marked fields are those of the marked types. -/
lemma markedFields_eq : c.model.markedFields = c.markedTypes.flatMap markedFieldsOf :=
  (flatMap_filter_isMarked c.declared).symm

end Catalog

namespace Round

/-- The group that a marked type makes. -/
def groupOf (c : Catalog) (config : Config) (d : TypeDecl) : Group where
  info := Ancestry.describe c.model config d.qualifiedName
  fields := (Catalog.markedFieldsOf d).map (Collection.collected c.model config)

/-- The report has one artifact for each marked type, in the order of the names of the types, the
store has the rendered text of each under its name, and each marked field is in one of the two lists
of its type's artifact. -/
structure IsComplete (c : Catalog) (config : Config) (report : Report) (s : Store) : Prop where
  increasing : report.artifacts.Pairwise fun a b => a.origin.text < b.origin.text
  origins : (report.artifacts.map (·.origin)).Perm (c.markedTypes.map (·.qualifiedName))
  sources : (s.sources.map fun entry => (entry.1, Except.ok entry.2)).Perm
    (c.markedTypes.map fun d =>
      (Ancestry.artifactName c.model config d.qualifiedName,
        (Variant.of (groupOf c config d).info).render config (groupOf c config d)))
  fields : ∀ a ∈ report.artifacts, ∃ d ∈ c.markedTypes, a.origin = d.qualifiedName ∧
    a.name = Ancestry.artifactName c.model config d.qualifiedName ∧
    a.fields = ((Catalog.markedFieldsOf d).filter fun f =>
      (Collection.collected c.model config f).isValid).map (·.name) ∧
    a.skippedFields = ((Catalog.markedFieldsOf d).filter fun f =>
      !(Collection.collected c.model config f).isValid).map (·.name)
  once : (report.artifacts.flatMap fun a =>
      (a.fields ++ a.skippedFields).map fun name => (a.origin, name)).Perm
    (c.model.markedFields.map fun f => (f.enclosing, f.name))

variable {c : Catalog} {config : Config}

/-- The groups of a round are those of the marked types, one for each. -/
lemma groups_perm (h : c.WellFormed) (config : Config) :
    (groups c.model config).Perm (c.markedTypes.map (groupOf c config)) := by
  have hgroups := (groups_ordered c.model config).nodup
  have htypes : (c.markedTypes.map (groupOf c config)).Nodup := by
    have hnames : (c.markedTypes.map (·.qualifiedName)).Nodup :=
      h.nodup.sublist (List.filter_sublist.map _)
    refine List.Nodup.of_map (·.info.name) ?_
    rw [List.map_map]
    exact hnames
  refine (List.perm_ext_iff_of_nodup hgroups htypes).mpr fun g => ?_
  rw [List.mem_map]
  constructor
  · intro hg
    obtain ⟨d, hd, hmarked, hinfo, hfields⟩ := of_mem_groups h hg
    refine ⟨d, Catalog.mem_markedTypes.mpr ⟨hd, hmarked⟩, ?_⟩
    rw [groupOf, ← hinfo, ← hfields]
  · rintro ⟨d, hd, rfl⟩
    obtain ⟨hdeclared, hmarked⟩ := Catalog.mem_markedTypes.mp hd
    have hn : c.model.declaresMarked d.qualifiedName = true := by
      simp [Catalog.model, h.lookup_declared hdeclared, hmarked]
    obtain ⟨g, hg, hinfo⟩ : ∃ g ∈ groups c.model config,
        g.info = Ancestry.describe c.model config d.qualifiedName := exists_mem_groups h hn
    obtain ⟨e, he, -, hinfo', hfields⟩ := of_mem_groups h hg
    have hname : d.qualifiedName = e.qualifiedName :=
      congrArg TypeInfo.name (hinfo.symm.trans hinfo')
    obtain rfl := h.eq_of_qualifiedName_eq hdeclared he hname
    have hself : g = groupOf c config d := by rw [groupOf, ← hinfo, ← hfields]
    exact hself ▸ hg

/-- The artifacts of the groups have the names of those of the marked types. -/
lemma artifacts_perm (h : c.WellFormed) (config : Config) :
    ((groups c.model config).map (·.info.artifact)).Perm
      (c.markedTypes.map fun d => Ancestry.artifactName c.model config d.qualifiedName) := by
  have hperm := (groups_perm h config).map (·.info.artifact)
  rwa [List.map_map] at hperm

/-- The store that a successful round leaves has the sources of the groups. -/
lemma sources_perm {model : TypeModel} {report : Report}
    (hr : (intoStore model config).1.result = .ok report) :
    (intoStore model config).2.sources.Perm
      ((groups model config).map fun g => (g.info.artifact, g.source config)) := by
  obtain ⟨hresult, hstore⟩ := intoStore_eq model config
  rw [hstore]
  rcases hrun : (Group.emitAll Store.publisher config (groups model config)).run {} with
    ⟨e | summaries, s⟩
  · rw [hresult, hrun] at hr
    cases hr
  · have hsources := Store.sources_perm_of_emitted (Group.emitted_of_emitAll hrun).2
    rwa [List.append_nil] at hsources

lemma fields_summary (d : TypeDecl) :
    ((groupOf c config d).summary config).fields =
      ((Catalog.markedFieldsOf d).filter fun f =>
        (Collection.collected c.model config f).isValid).map (·.name) := by
  rw [Group.summary, Group.emitted, groupOf, List.filter_map, List.map_map]
  rfl

lemma skippedFields_summary (d : TypeDecl) :
    ((groupOf c config d).summary config).skippedFields =
      ((Catalog.markedFieldsOf d).filter fun f =>
        !(Collection.collected c.model config f).isValid).map (·.name) := by
  rw [Group.summary, Group.skipped, groupOf, List.filter_map, List.map_map]
  rfl

/-- The two lists of an artifact have each marked field of its type once. -/
lemma fields_append_skippedFields_perm (c : Catalog) (config : Config) (d : TypeDecl) :
    (((groupOf c config d).summary config).fields ++
      ((groupOf c config d).summary config).skippedFields).Perm
      ((Catalog.markedFieldsOf d).map (·.name)) := by
  rw [fields_summary, skippedFields_summary, ← List.map_append]
  exact (List.filter_append_perm _ _).map _

/-- The artifacts in a report are those of the marked types. -/
lemma summaries_perm (h : c.WellFormed) {report : Report}
    (hr : (intoStore c.model config).1.result = .ok report) :
    report.artifacts.Perm
      (c.markedTypes.map fun d => (groupOf c config d).summary config) := by
  have hperm := (groups_perm h config).map (Group.summary config)
  rw [List.map_map] at hperm
  rw [(intoStore_ok hr).1]
  exact hperm

/-- The entries of the store are the rendered groups of the marked types. -/
lemma rendered_perm (h : c.WellFormed) {report : Report}
    (hr : (intoStore c.model config).1.result = .ok report) :
    ((intoStore c.model config).2.sources.map fun entry => (entry.1, Except.ok entry.2)).Perm
      (c.markedTypes.map fun d => (Ancestry.artifactName c.model config d.qualifiedName,
        (Variant.of (groupOf c config d).info).render config (groupOf c config d))) := by
  have hsources := (sources_perm hr).trans ((groups_perm h config).map _)
  have hentries := hsources.map fun entry => (entry.1, (Except.ok entry.2 : Except Error Text))
  simp only [List.map_map] at hentries
  convert hentries using 2
  funext d
  rw [Group.render_eq_source]
  rfl

/-- The marked fields of a type are those that its artifact names. -/
lemma names_perm (d : TypeDecl) :
    ((((groupOf c config d).summary config).fields ++
      ((groupOf c config d).summary config).skippedFields).map fun name =>
        (d.qualifiedName, name)).Perm
      ((Catalog.markedFieldsOf d).map fun f => (f.enclosing, f.name)) := by
  have hfields := (fields_append_skippedFields_perm c config d).map fun name =>
    (d.qualifiedName, name)
  rw [List.map_map] at hfields
  refine hfields.trans (.of_eq (List.map_congr_left fun f hf => ?_))
  rw [Catalog.enclosing_of_mem_markedFieldsOf hf]
  rfl

lemma isComplete_of_ok (h : c.WellFormed) {report : Report}
    (hr : (intoStore c.model config).1.result = .ok report) :
    IsComplete c config report (intoStore c.model config).2 := by
  have hsummaries := summaries_perm h hr
  refine ⟨?_, ?_, rendered_perm h hr, ?_, ?_⟩
  · rw [(intoStore_ok hr).1, List.pairwise_map]
    exact groups_ordered c.model config
  · have horigins := hsummaries.map (·.origin)
    rw [List.map_map] at horigins
    exact horigins
  · intro a ha
    obtain ⟨d, hd, rfl⟩ := List.mem_map.mp (hsummaries.mem_iff.mp ha)
    exact ⟨d, hd, rfl, rfl, fields_summary d, skippedFields_summary d⟩
  · have hnames := hsummaries.flatMap_right fun a =>
      (a.fields ++ a.skippedFields).map fun name => (a.origin, name)
    rw [List.flatMap_map] at hnames
    rw [Catalog.markedFields_eq, List.map_flatMap]
    exact hnames.trans (.flatMap_left _ fun d _ => names_perm d)

/-- A round into an empty store succeeds if and only if no two marked types have artifacts of one
name, and then nothing is lost and nothing is there twice. -/
theorem succeeds_iff_and_isComplete {manifest : Manifest}
    (hc : Catalog.ofManifest manifest = .ok c) (config : Config) :
    ((∃ report, (intoStore c.model config).1.result = .ok report) ↔
      (c.markedTypes.map fun d => Ancestry.artifactName c.model config d.qualifiedName).Nodup) ∧
    ∀ report, (intoStore c.model config).1.result = .ok report →
      IsComplete c config report (intoStore c.model config).2 := by
  have h := (Catalog.wellFormed_of_ofManifest hc).2
  refine ⟨?_, fun report hr => isComplete_of_ok h hr⟩
  rw [← (artifacts_perm h config).nodup_iff]
  constructor
  · rintro ⟨report, hr⟩
    exact (intoStore_ok hr).2.nodup
  · intro hnodup
    exact ⟨_, intoStore_of_nodup hnodup⟩

/-- Two types, the one declared first with the greater name, and each with a marked field that may
not be transferred. -/
def mixedManifest : Manifest where
  usesPlatform := true
  types :=
    [{ package := "p", name := "Zone", enclosing := none, superclass := none, interfaces := []
       modifiers := .empty
       fields :=
        [{ name := "lost", type := .declared "java.lang.Object" [], modifiers := .empty
           marked := true },
         { name := "idle", type := .primitive .int, modifiers := .empty, marked := false },
         { name := "kept", type := .primitive .int, modifiers := .empty, marked := true }] },
     { package := "p", name := "Area", enclosing := none
       superclass := some (.declared "p.Zone" []), interfaces := [], modifiers := .empty
       fields :=
        [{ name := "shared", type := .primitive .int, modifiers := .ofList [.static]
           marked := true }] }]

/-- The report on the types of `mixedManifest`. -/
def mixedReport : Report where
  artifacts :=
    [⟨"p.Area$$Stash", "p.Area", .plain, "p.Zone$$Stash", [], ["shared"]⟩,
      ⟨"p.Zone$$Stash", "p.Zone", .plain, "stash.Stash.Object", ["kept"], ["lost"]⟩]
  errorCount := 2
  inspectedTypes := 1

lemma mixedManifest_accepted :
    Catalog.ofManifest mixedManifest = .ok (Catalog.unchecked mixedManifest) :=
  Catalog.ofManifest_of_fault?_eq_none (by decide +kernel)

lemma mixedManifest_reported :
    (intoStore (Catalog.unchecked mixedManifest).model {}).1.result = .ok mixedReport := by
  rw [intoStore_of_nodup (by decide +kernel)]
  decide +kernel

theorem mixedReport_isComplete :
    Catalog.ofManifest mixedManifest = .ok (Catalog.unchecked mixedManifest) ∧
      (intoStore (Catalog.unchecked mixedManifest).model {}).1.result = .ok mixedReport ∧
      IsComplete (Catalog.unchecked mixedManifest) {} mixedReport
        (intoStore (Catalog.unchecked mixedManifest).model {}).2 :=
  ⟨mixedManifest_accepted, mixedManifest_reported,
    (succeeds_iff_and_isComplete mixedManifest_accepted {}).2 mixedReport mixedManifest_reported⟩

end Round

end Companion
