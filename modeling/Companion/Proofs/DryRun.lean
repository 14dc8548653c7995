import Companion.Proofs.Directory
import Companion.Proofs.Reports

/-!
# Dry runs

A dry run tells what the run itself will do. Where file operations do not fail, the round into a
directory has the report and the diagnostics of the round into memory, and leaves the sources that
the dry run prints, each in the file that its name leads to, and no other file. They do not fail if
the output directory can be made and has nothing in it, and paths and names are short enough.
-/

namespace Companion

/-- The files below a place are the sources, each of them where its name leads to. -/
structure FileTree.HasSources (t : FileTree) (place : Location) (sources : List (QName × Text)) :
    Prop where
  distinct : (sources.map fun entry => entry.1.sourcePath.names).Nodup
  files : ∀ names content, t.file? (place ++ names) = some content ↔
    ∃ entry ∈ sources, names = entry.1.sourcePath.names ∧ content = Utf8.encode entry.2

lemma FileTree.HasSources.congr {t t' : FileTree} {place : Location}
    {sources : List (QName × Text)} (h : t.HasSources place sources)
    (hsame : ∀ names, t'.file? (place ++ names) = t.file? (place ++ names)) :
    t'.HasSources place sources where
  distinct := h.distinct
  files names content := by
    rw [hsame]
    exact h.files names content

namespace CommandLine

open FileTree Directory

section Loading

variable {t : FileTree}

/-- Loading a configuration and a manifest leaves the tree as it is. -/
lemma loadConfig_run (file : Option Path) (t : FileTree) :
    ((loadConfig system file).run t).2 = t := by
  cases file with
  | none => rfl
  | some file =>
    rw [loadConfig, StateM.run_bind, read_run]
    rfl

lemma loadCatalog_run (file : Path) (t : FileTree) :
    ((loadCatalog system file).run t).2 = t := by
  rw [loadCatalog, StateM.run_bind, read_run]
  rfl

/-- A catalog that is loaded is one of a manifest that is accepted. -/
lemma exists_of_loadCatalog {file : Path} {catalog : Catalog}
    (h : ((loadCatalog system file).run t).1 = .ok catalog) :
    ∃ manifest, Catalog.ofManifest manifest = .ok catalog := by
  rw [loadCatalog, StateM.run_bind] at h
  change (Manifest.load file ((system.read file).run t).1).bind Catalog.ofManifest = .ok catalog at h
  cases hload : Manifest.load file ((system.read file).run t).1 with
  | error e =>
    rw [hload] at h
    cases h
  | ok manifest =>
    rw [hload] at h
    exact ⟨manifest, h⟩

/-- Writing a report touches no file but its own. -/
lemma file?_of_writeReport {report : Report} {file : Option Path} {t' : FileTree}
    (h : (writeReport system report file).run t = (.ok (), t')) {x : Location}
    (hx : ∀ p ∈ file, x ≠ t.placeOf p) : t'.file? x = t.file? x := by
  cases file with
  | none =>
    obtain ⟨-, rfl⟩ := Prod.mk.inj h
    rfl
  | some p =>
    rw [writeReport, StateM.run_bind] at h
    rcases hwrite : (system.write p (Utf8.encode report.toJson.pretty)).run t with ⟨fault | _, t₁⟩
    · rw [hwrite] at h
      cases (Prod.mk.inj h).1
    · rw [hwrite] at h
      obtain ⟨-, rfl⟩ := Prod.mk.inj h
      rw [(filed_of_write_run hwrite).files, if_neg (hx p rfl)]

end Loading

/-- The round of a run that is not dry. -/
def realRound (a : Arguments) (catalog : Catalog) (config : Config) (t : FileTree) :
    Round × FileTree :=
  (Round.run (Directory.publisher system a.out) catalog.model config).run t

section Round

variable {a : Arguments} {catalog : Catalog} {config : Config} {t t' : FileTree} {report : Report}

/-- Real rounds and dry ones have the same diagnostics. -/
lemma diagnostics_realRound :
    (realRound a catalog config t).1.diagnostics = (dryRound catalog config).1.diagnostics := by
  rw [realRound, Round.run_run, dryRound_eq, Round.intoStore, Round.run_run]

/-- A real round whose artifacts are published has the report of the dry one. -/
lemma realRound_of_emitAll {summaries : List Summary}
    (hdry : (Round.intoStore catalog.model config).1.result = .ok report)
    (h : (Group.emitAll (publisher system a.out) config
      (Round.groups catalog.model config)).run t = (.ok summaries, t')) :
    (realRound a catalog config t).1.result = .ok report ∧
      (realRound a catalog config t).2 = t' := by
  have hreport := Round.intoStore_of_nodup (Round.intoStore_ok hdry).2.nodup
  rw [hdry] at hreport
  rw [realRound, Round.run_run, h, Except.ok.inj hreport, ← (Group.emitted_of_emitAll h).1]
  exact ⟨rfl, rfl⟩

/-- A real round that no file operation stops publishes all artifacts. -/
lemma exists_emitAll
    (h : ∀ e, (realRound a catalog config t).1.result = .error e → e.kind ≠ .fileOperation) :
    ∃ summaries t', (Group.emitAll (publisher system a.out) config
      (Round.groups catalog.model config)).run t = (.ok summaries, t') := by
  rcases hrun : (Group.emitAll (publisher system a.out) config
    (Round.groups catalog.model config)).run t with ⟨e | summaries, t'⟩
  · refine absurd (kind_of_emitAll hrun) (h e ?_)
    rw [realRound, Round.run_run, hrun]
    rfl
  · exact ⟨summaries, t', rfl⟩

variable (h : catalog.WellFormed) (hsuffix : config.artifactSuffix.all Identifier.isPart = true)
include h hsuffix

lemma exists_isFiled {g : Group} (hg : g ∈ Round.groups catalog.model config) :
    ∃ directories file, g.info.artifact.IsFiled directories file := by
  obtain ⟨d, hd, -, hinfo, -⟩ := Round.of_mem_groups h hg
  rw [hinfo]
  exact h.artifact_isFiled (h.lookup_declared hd) hsuffix

lemma placeOf_artifact {g : Group} (hg : g ∈ Round.groups catalog.model config) (t : FileTree)
    (root : Path) : t.placeOf (Path.source root g.info.artifact) =
      t.placeOf root ++ g.info.artifact.sourcePath.names := by
  obtain ⟨_, _, hn⟩ := exists_isFiled h hsuffix hg
  exact placeOf_source hn.isLocated t root

/-- Artifacts of different names have their sources at different places. -/
lemma names_nodup (hdry : (Round.intoStore catalog.model config).1.result = .ok report) :
    ((Round.groups catalog.model config).map fun g => g.info.artifact.sourcePath.names).Nodup := by
  have hnodup := (Round.intoStore_ok hdry).2.nodup.map_on (f := fun n => n.sourcePath.names) ?_
  · rwa [List.map_map] at hnodup
  · intro n hn n' hn' heq
    obtain ⟨g, hg, rfl⟩ := List.mem_map.mp hn
    obtain ⟨g', hg', rfl⟩ := List.mem_map.mp hn'
    obtain ⟨_, _, hfiled⟩ := exists_isFiled h hsuffix hg
    obtain ⟨_, _, hfiled'⟩ := exists_isFiled h hsuffix hg'
    exact hfiled.isLocated.eq_of_names_eq hfiled'.isLocated heq

/-- After a real round the files below the output directory are the sources of the dry one. -/
lemma hasSources_of_emitAll {summaries : List Summary} {root : Path}
    (hdry : (Round.intoStore catalog.model config).1.result = .ok report)
    (hempty : ∀ names, t.file? (t.placeOf root ++ names) = none)
    (hrun : (Group.emitAll (publisher system root) config
      (Round.groups catalog.model config)).run t = (.ok summaries, t')) :
    t'.home = t.home ∧
      t'.HasSources (t.placeOf root) (Round.intoStore catalog.model config).2.sources := by
  have hsources := Round.sources_perm hdry
  have hnames := names_nodup h hsuffix hdry
  have hplaces : ((Round.groups catalog.model config).map fun g =>
      t.placeOf (Path.source root g.info.artifact)) =
        ((Round.groups catalog.model config).map fun g =>
          g.info.artifact.sourcePath.names).map (t.placeOf root ++ ·) := by
    rw [List.map_map]
    exact List.map_congr_left fun g hg => placeOf_artifact h hsuffix hg t root
  have hinjective : Function.Injective (t.placeOf root ++ ·) :=
    fun _ _ => List.append_cancel_left
  obtain ⟨hhome, hpublished, hothers⟩ :=
    files_of_emitted (Group.emitted_of_emitAll hrun).2 (hplaces ▸ hnames.map hinjective)
  refine ⟨hhome, ?_, ?_⟩
  · have hperm := (hsources.map fun entry => entry.1.sourcePath.names).nodup_iff
    rw [hperm, List.map_map]
    exact hnames
  · intro names content
    constructor
    · intro hfile
      by_cases hmem : t.placeOf root ++ names ∈ (Round.groups catalog.model config).map fun g =>
          t.placeOf (Path.source root g.info.artifact)
      · obtain ⟨g, hg, heq⟩ := List.mem_map.mp hmem
        rw [← heq, hpublished g hg] at hfile
        rw [placeOf_artifact h hsuffix hg] at heq
        exact ⟨(g.info.artifact, g.source config),
          hsources.mem_iff.mpr (List.mem_map.mpr ⟨g, hg, rfl⟩),
          (List.append_cancel_left heq).symm, (Option.some.inj hfile).symm⟩
      · rw [hothers _ hmem, hempty] at hfile
        cases hfile
    · rintro ⟨entry, hentry, rfl, rfl⟩
      obtain ⟨g, hg, rfl⟩ := List.mem_map.mp (hsources.mem_iff.mp hentry)
      rw [← placeOf_artifact h hsuffix hg]
      exact hpublished g hg

end Round

section Run

variable {a : Arguments} {catalog : Catalog} {config : Config} {t t' : FileTree} {report : Report}

lemma perform_real_run (hconfig : (loadConfig system a.config).run t = (.ok config, t))
    (hcatalog : (loadCatalog system a.manifest).run t = (.ok catalog, t)) :
    (perform system { a with dryRun := false }).run t =
      (conclude system a.report (realRound a catalog config t).1 []).run
        (realRound a catalog config t).2 :=
  perform_run (a := { a with dryRun := false }) hconfig hcatalog

lemma perform_dry_run (hconfig : (loadConfig system a.config).run t = (.ok config, t))
    (hcatalog : (loadCatalog system a.manifest).run t = (.ok catalog, t)) :
    (perform system { a with dryRun := true }).run t =
      (conclude system a.report (dryRound catalog config).1 (dryRound catalog config).2).run t :=
  perform_run (a := { a with dryRun := true }) hconfig hcatalog

/-- Where file operations do not fail, a run does what the dry run says: it has the same report, the
same diagnostics and the same status, and the files below the output directory are then the sources
of the dry run. File operations do not stop the round if the output directory can be made and has
nothing in it, and the paths of the sources are short enough. -/
theorem run_agrees_with_dryRun
    (hconfig : ((loadConfig system a.config).run t).1 = .ok config)
    (hcatalog : ((loadCatalog system a.manifest).run t).1 = .ok catalog)
    (hsuffix : config.artifactSuffix.all Identifier.isPart = true)
    (hdry : (dryRound catalog config).1.result = .ok report)
    (hempty : ∀ names, t.file? (t.placeOf a.out ++ names) = none)
    (houtside : ∀ file ∈ a.report, ¬t.placeOf a.out <+: t.placeOf file) :
    ((∀ e, (realRound a catalog config t).1.result = .error e → e.kind ≠ .fileOperation) →
      (realRound a catalog config t).1.result = .ok report ∧
      (realRound a catalog config t).1.diagnostics = (dryRound catalog config).1.diagnostics ∧
      ∀ t', (writeReport system report a.report).run (realRound a catalog config t).2 =
          (.ok (), t') →
        t'.HasSources (t.placeOf a.out) (Round.intoStore catalog.model config).2.sources ∧
        (perform system { a with dryRun := false }).run t =
          (⟨if report.hasErrors then 1 else 0, [],
            diagnosticLines (dryRound catalog config).1.diagnostics⟩, t') ∧
        (((writeReport system report a.report).run t).1 = .ok () →
          ((perform system { a with dryRun := true }).run t).1 =
            ⟨if report.hasErrors then 1 else 0,
              sourceText (Round.intoStore catalog.model config).2,
              diagnosticLines (dryRound catalog config).1.diagnostics⟩)) ∧
    ∀ t₀, (system.makeDirectories a.out).run t = (.ok (), t₀) →
      (∀ names, names ≠ [] → t₀.node? (t.placeOf a.out ++ names) = none) → a.out.text ≠ [] →
      (∀ entry ∈ (Round.intoStore catalog.model config).2.sources, Fits a.out entry.1) →
      (realRound a catalog config t).1.result = .ok report := by
  have hloadConfig : (loadConfig system a.config).run t = (.ok config, t) :=
    Prod.ext hconfig (loadConfig_run a.config t)
  have hloadCatalog : (loadCatalog system a.manifest).run t = (.ok catalog, t) :=
    Prod.ext hcatalog (loadCatalog_run a.manifest t)
  obtain ⟨manifest, hmanifest⟩ := exists_of_loadCatalog hcatalog
  have h := (Catalog.wellFormed_of_ofManifest hmanifest).2
  have hstore : (Round.intoStore catalog.model config).1.result = .ok report := by
    rwa [dryRound_eq] at hdry
  refine ⟨?_, ?_⟩
  · intro hrefused
    obtain ⟨summaries, t₁, hrun⟩ := exists_emitAll hrefused
    obtain ⟨hreal, htree⟩ := realRound_of_emitAll hstore hrun
    refine ⟨hreal, diagnostics_realRound, ?_⟩
    intro t' hreport
    obtain ⟨hhome, hsources⟩ := hasSources_of_emitAll h hsuffix hstore hempty hrun
    refine ⟨?_, ?_, ?_⟩
    · rw [htree] at hreport
      refine hsources.congr fun names => file?_of_writeReport hreport ?_
      intro file hfile heq
      refine houtside file hfile ?_
      rw [← placeOf_congr hhome file, ← heq]
      exact List.prefix_append _ names
    · rw [perform_real_run hloadConfig hloadCatalog, conclude_run hreal hreport,
        diagnostics_realRound]
    · intro hdryReport
      rw [perform_dry_run hloadConfig hloadCatalog, conclude_run hdry (Prod.ext hdryReport rfl),
        dryRound_eq, hstore]
  · intro t₀ hmake hnothing hroot hfits
    obtain ⟨hnul, hmake⟩ := makeDirectories_run_ok hmake
    have hready := ready_of_makeDirectories hmake hnothing
    have hfitting : ∀ g ∈ Round.groups catalog.model config, Fits a.out g.info.artifact := by
      intro g hg
      exact hfits (g.info.artifact, g.source config)
        ((Round.sources_perm hstore).mem_iff.mpr (List.mem_map.mpr ⟨g, hg, rfl⟩))
    have hfiled : ∀ g ∈ Round.groups catalog.model config,
        ∃ directories file, g.info.artifact.IsFiled directories file :=
      fun g hg => exists_isFiled h hsuffix hg
    obtain ⟨t', hrun⟩ := hready.emitAll_run hroot hnul hfiled hfitting
    exact (realRound_of_emitAll hstore hrun).1

end Run

/-- Neither the output directory is in `sampleTree`, nor anything below it. -/
lemma sampleTree_node? (names : List Text) :
    sampleTree.node? (sampleTree.placeOf "generated" ++ names) = none := by
  have hplace : sampleTree.placeOf "generated" ++ names =
      ("home" :: "generated" :: names : Location) := by
    rfl
  have hne : ("home" :: "generated" :: names : Location) ≠
      (["home", "manifest.json"] : Location) := by
    simp
  have hhome : ¬("home" :: "generated" :: names : Location).isPrefixOf FileTree.empty.home := by
    simp [FileTree.empty]
  have hfree : FileTree.empty.node? ["home", "manifest.json"] ≠ some .directory := by
    decide
  have hput := node?_put hfree (.file (Utf8.encode sampleText)) ("home" :: "generated" :: names)
  rw [if_neg hne, node?.eq_1 FileTree.empty, if_neg hhome] at hput
  rw [hplace, sampleTree, hput]
  exact Trie.find?_empty _

/-- The output directory has nothing in it when it was made in `sampleTree`. -/
lemma sampleTree_makeDirectories : ∃ t₀,
    (system.makeDirectories "generated").run sampleTree = (.ok (), t₀) ∧
      ∀ names, names ≠ [] → t₀.node? (sampleTree.placeOf "generated" ++ names) = none := by
  have hmade : ((system.makeDirectories "generated").run sampleTree).1 = .ok () := by
    decide +kernel
  have hmake : (system.makeDirectories "generated").run sampleTree =
      (.ok (), ((system.makeDirectories "generated").run sampleTree).2) := Prod.ext hmade rfl
  have hway : way (sampleTree.start "generated") (Path.steps "generated") =
      [sampleTree.placeOf "generated"] := by
    decide +kernel
  refine ⟨_, hmake, ?_⟩
  intro names hnames
  obtain ⟨-, -, hpaved⟩ := makeDirectories_ok (makeDirectories_run_ok hmake).2
  rw [hpaved.nodes, hway, sampleTree_node?, if_neg (by simpa using hnames)]

theorem sampleTree_run_agrees :
    ∃ t', (perform system (sampleArguments false)).run sampleTree =
        (⟨1, [], diagnosticLines
          (dryRound (Catalog.unchecked Round.mixedManifest) {}).1.diagnostics⟩, t') ∧
      t'.HasSources (sampleTree.placeOf "generated")
        (Round.intoStore (Catalog.unchecked Round.mixedManifest).model {}).2.sources ∧
      ((perform system (sampleArguments true)).run sampleTree).1.status = 1 := by
  have hdry : (dryRound (Catalog.unchecked Round.mixedManifest) {}).1.result =
      .ok Round.mixedReport := by
    rw [dryRound_eq]
    exact Round.mixedManifest_reported
  have hempty (names : List Text) :
      sampleTree.file? (sampleTree.placeOf "generated" ++ names) = none :=
    file?_eq_none_iff.mpr (.inl (sampleTree_node? names))
  have houtside : ∀ file ∈ (sampleArguments false).report,
      ¬sampleTree.placeOf "generated" <+: sampleTree.placeOf file := by
    decide +kernel
  obtain ⟨hagrees, hsucceeds⟩ := run_agrees_with_dryRun (a := sampleArguments false) rfl
    (congrArg Prod.fst sampleTree_loaded) (by decide +kernel) hdry hempty houtside
  have hfits : ∀ entry ∈ (Round.intoStore (Catalog.unchecked Round.mixedManifest).model
      {}).2.sources, Fits "generated" entry.1 := by
    have hgroups : ∀ g ∈ Round.groups (Catalog.unchecked Round.mixedManifest).model {},
        isLongPath (Path.source "generated" g.info.artifact) = false ∧
          ∀ name ∈ g.info.artifact.sourcePath.names, isLongName name = false := by
      decide +kernel
    intro entry hentry
    obtain ⟨g, hg, rfl⟩ :=
      List.mem_map.mp ((Round.sources_perm Round.mixedManifest_reported).mem_iff.mp hentry)
    exact ⟨(hgroups g hg).1, (hgroups g hg).2⟩
  obtain ⟨t₀, hmake, hnothing⟩ := sampleTree_makeDirectories
  have hround := hsucceeds t₀ hmake hnothing (by decide) hfits
  have hrefused : ∀ e, (realRound (sampleArguments false) (Catalog.unchecked Round.mixedManifest)
      {} sampleTree).1.result = .error e → e.kind ≠ .fileOperation := by
    intro e he
    rw [hround] at he
    cases he
  obtain ⟨-, -, hrun⟩ := hagrees hrefused
  have hreport : ((writeReport system Round.mixedReport (sampleArguments false).report).run
      (realRound (sampleArguments false) (Catalog.unchecked Round.mixedManifest) {}
        sampleTree).2).1 = .ok () := by
    decide +kernel
  have hdryReport : ((writeReport system Round.mixedReport (sampleArguments false).report).run
      sampleTree).1 = .ok () := by
    decide +kernel
  obtain ⟨hsources, hreal, hdryRun⟩ := hrun _ (Prod.ext hreport rfl)
  have hdryOutcome : (perform system (sampleArguments true)).run sampleTree =
      (perform system { sampleArguments false with dryRun := true }).run sampleTree := rfl
  refine ⟨_, hreal, hsources, ?_⟩
  rw [hdryOutcome, hdryRun hdryReport]
  rfl

end CommandLine

end Companion
