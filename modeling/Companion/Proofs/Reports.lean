import Companion.CommandLine.Run
import Companion.Proofs.Completeness
import Companion.Proofs.Places
import Mathlib.Data.List.Forall2

/-!
# What is reported

The reports of a collection are those of its fields, one field after the other: first that its type
cannot be named, if no field of the type came before, then each modifier that it must not have, and
last that its type has no strategy. A field takes part in saving and restoring if none of these is
about the field. So a round without a report leaves out no field, and what a run exits with tells
whether there was one.
-/

namespace Companion

/-- Whether a type is known, and known as private. -/
def TypeModel.knowsPrivate (m : TypeModel) (n : QName) : Bool :=
  (m.element n).any (·.modifiers.contains .privateAccess)

/-- The reports with a field that comes after others. -/
def reportsOn (m : TypeModel) (config : Config) (before : List MarkedField) (f : MarkedField) :
    List Diagnostic :=
  (if f.enclosing ∉ before.map (·.enclosing) ∧ m.knowsPrivate f.enclosing then
    [.inaccessibleType f.enclosing] else []) ++
  ([Modifier.privateAccess, .static, .final].filter f.modifiers.contains).map
    (.invalidModifier f.name f.enclosing) ++
  (if (Classification.classify m config f.type).answer = none then
    [.unrecognizedType f.name f.enclosing f.type] else [])

/-- The reports with all marked fields, in declaration order. -/
def TypeModel.reports (m : TypeModel) (config : Config) : List Diagnostic :=
  (m.markedFields.mapIdx fun i f => reportsOn m config (m.markedFields.take i) f).flatten

/-- What a field is collected as, with reports of its own. -/
structure CollectedField.IsOf (c : CollectedField) (m : TypeModel) (config : Config)
    (f : MarkedField) (reports : List Diagnostic) : Prop where
  name : c.name = f.name
  type : c.type = f.type
  owner : c.owner.name = f.enclosing
  strategy : c.strategy = (Classification.classify m config f.type).answer
  valid : c.isValid = true ↔ ∀ d ∈ reports, d.ofField = false

namespace Collection

variable (m : TypeModel) (config : Config)

lemma typeProblems_eq (n : QName) :
    typeProblems m n = if m.knowsPrivate n then [.inaccessibleType n] else [] := by
  rw [typeProblems, TypeModel.knowsPrivate]
  cases m.element n <;> rfl

lemma strategyProblems_eq (f : MarkedField) (strategy : Option Strategy) :
    strategyProblems f strategy =
      if strategy = none then [.unrecognizedType f.name f.enclosing f.type] else [] := by
  cases strategy <;> rfl

variable {m config}

/-- What is reported where a field is looked at. -/
lemma reportsOn_eq {before : List MarkedField} {checked : List QName}
    (hchecked : ∀ n, n ∈ checked ↔ n ∈ before.map (·.enclosing)) (memo : Memo) (f : MarkedField) :
    reportsOn m config before f =
      (if f.enclosing ∈ checked then [] else typeProblems m f.enclosing) ++
        (collectField m config memo f).answer.2.1 := by
  rw [reportsOn, typeProblems_eq, collectField, strategyProblems_eq, List.append_assoc]
  congr 1
  by_cases hmem : f.enclosing ∈ checked
  · have hbefore := (hchecked f.enclosing).mp hmem
    rw [if_pos hmem, if_neg fun h => h.1 hbefore]
  · have hbefore : f.enclosing ∉ before.map (·.enclosing) := fun h => hmem ((hchecked _).mpr h)
    simp only [if_neg hmem, hbefore, not_false_eq_true, true_and]

/-- The reports of fields that come after others, one field after the other. -/
lemma diagnostics_collectFrom_eq {before : List MarkedField} {checked : List QName}
    (hchecked : ∀ n, n ∈ checked ↔ n ∈ before.map (·.enclosing)) (memo : Memo)
    (fs : List MarkedField) :
    (collectFrom m config checked memo fs).answer.diagnostics =
      (fs.mapIdx fun i f => reportsOn m config (before ++ fs.take i) f).flatten := by
  induction fs generalizing before checked memo with
  | nil => rfl
  | cons f fs ih =>
    have hrest : ∀ n, n ∈ f.enclosing :: checked ↔ n ∈ (before ++ [f]).map (·.enclosing) := by
      intro n
      simp [hchecked, or_comm]
    have hcollect : (collectFrom m config checked memo (f :: fs)).answer.diagnostics =
        (if f.enclosing ∈ checked then [] else typeProblems m f.enclosing) ++
          (collectField m config memo f).answer.2.1 ++
          (collectFrom m config (f.enclosing :: checked)
            (collectField m config memo f).answer.2.2 fs).answer.diagnostics := rfl
    rw [hcollect, ← reportsOn_eq hchecked, ih hrest, List.mapIdx_cons, List.flatten_cons]
    simp

lemma owner_typeInfo (memo : Memo) (n : QName) :
    (Ancestry.typeInfo m config memo n).answer.1.name = n := by
  rw [Ancestry.typeInfo]
  cases hi : memo.info? n with
  | none => rfl
  | some info => simpa using List.find?_some hi

/-- The reports about the field itself are those of its modifiers and of its type. -/
lemma forall_reportsOn_iff {before : List MarkedField} {f : MarkedField} :
    (∀ d ∈ reportsOn m config before f, d.ofField = false) ↔
      modifierProblems f = [] ∧ (Classification.classify m config f.type).answer ≠ none := by
  rw [reportsOn, modifierProblems, forbiddenModifiers]
  generalize [Modifier.privateAccess, .static, .final].filter f.modifiers.contains = carried
  constructor
  · intro h
    constructor
    · cases carried with
      | nil => rfl
      | cons c cs => exact absurd (h (.invalidModifier f.name f.enclosing c) (by simp)) (by simp [Diagnostic.ofField])
    · intro hnone
      exact absurd (h (.unrecognizedType f.name f.enclosing f.type) (by simp [hnone]))
        (by simp [Diagnostic.ofField])
  · rintro ⟨hcarried, hstrategy⟩ d hd
    rw [hcarried, if_neg hstrategy, List.append_nil, List.append_nil] at hd
    split at hd
    · rw [List.mem_singleton.mp hd]
      rfl
    · cases hd

lemma isOf_collectField (before : List MarkedField) (memo : Memo) (f : MarkedField) :
    (collectField m config memo f).answer.1.IsOf m config f (reportsOn m config before f) := by
  refine ⟨rfl, rfl, owner_typeInfo memo f.enclosing, rfl, ?_⟩
  rw [forall_reportsOn_iff, ← List.isEmpty_iff, Option.ne_none_iff_isSome,
    CollectedField.isValid, CollectedField.transfer?, collectField]
  dsimp only
  cases (modifierProblems f).isEmpty <;> simp

/-- Each field is collected, in its place. -/
lemma fields_collectFrom (checked : List QName) (memo : Memo) (before fs : List MarkedField) :
    List.Forall₂ (fun (entry : MarkedField × List Diagnostic) c => c.IsOf m config entry.1 entry.2)
      (fs.mapIdx fun i f => (f, reportsOn m config (before ++ fs.take i) f))
      (collectFrom m config checked memo fs).answer.fields := by
  induction fs generalizing before checked memo with
  | nil => exact .nil
  | cons f fs ih =>
    have hrest := ih (f.enclosing :: checked) (collectField m config memo f).answer.2.2
      (before ++ [f])
    rw [List.mapIdx_cons]
    refine .cons (isOf_collectField _ memo f) ?_
    simp only [List.append_assoc, List.singleton_append] at hrest
    exact hrest

lemma fields_ofModel (memo : Memo) :
    List.Forall₂ (fun (entry : MarkedField × List Diagnostic) c => c.IsOf m config entry.1 entry.2)
      (m.markedFields.mapIdx fun i f => (f, reportsOn m config (m.markedFields.take i) f))
      (ofModel m config memo).answer.fields :=
  fields_collectFrom [] memo [] m.markedFields

lemma diagnostics_ofModel_eq (memo : Memo) :
    (ofModel m config memo).answer.diagnostics = m.reports config := by
  have hnone : ∀ n : QName, n ∈ ([] : List QName) ↔ n ∈ ([] : List MarkedField).map (·.enclosing) :=
    fun _ => Iff.rfl
  exact diagnostics_collectFrom_eq hnone memo m.markedFields

lemma isValid_of_isOf {entries : List (MarkedField × List Diagnostic)}
    {fields : List CollectedField}
    (h : List.Forall₂ (fun entry c => c.IsOf m config entry.1 entry.2) entries fields)
    (hnone : ∀ entry ∈ entries, entry.2 = []) : ∀ c ∈ fields, c.isValid = true := by
  induction h with
  | nil =>
    intro c hc
    cases hc
  | cons hhead _ ih =>
    rw [List.forall_mem_cons] at hnone ⊢
    refine ⟨hhead.valid.mpr ?_, ih hnone.2⟩
    rw [hnone.1]
    intro d hd
    cases hd

/-- Where nothing is reported, every field takes part. -/
lemma isValid_of_reports_eq_nil (h : m.reports config = []) (memo : Memo) :
    ∀ c ∈ (ofModel m config memo).answer.fields, c.isValid = true := by
  refine isValid_of_isOf (fields_ofModel memo) ?_
  intro entry hentry
  obtain ⟨i, hi, rfl⟩ := List.mem_mapIdx.mp hentry
  rw [TypeModel.reports, List.flatten_eq_nil_iff] at h
  exact h _ (List.mem_mapIdx.mpr ⟨i, hi, rfl⟩)

end Collection

/-- The collector of diagnostics after more of them are reported to it. -/
def reportAll (log ds : List Diagnostic) : List Diagnostic :=
  ds.foldl (fun log d => log ++ [d]) log

lemma reportAll_eq (log ds : List Diagnostic) : reportAll log ds = log ++ ds := by
  induction ds generalizing log with
  | nil => exact (List.append_nil log).symm
  | cons d ds ih =>
    change reportAll (log ++ [d]) ds = log ++ d :: ds
    rw [ih, List.append_assoc]
    rfl

namespace Round

variable {σ Sink : Type} {m : TypeModel} {config : Config}

/-- A round that succeeds counts what was reported, and leaves out no field if that is nothing. -/
lemma errorCount_of_run {p : Publisher (StateM σ) Sink} {s : σ} {report : Report}
    (h : ((run p m config).run s).1.result = .ok report) :
    report.errorCount = (m.reports config).length ∧
      (report.errorCount = 0 → ∀ a ∈ report.artifacts, a.skippedFields = []) := by
  obtain ⟨hartifacts, hcount⟩ := report_of_run h
  rw [Collection.diagnostics_ofModel_eq] at hcount
  refine ⟨hcount, ?_⟩
  intro hzero a ha
  rw [hartifacts] at ha
  obtain ⟨g, hg, rfl⟩ := List.mem_map.mp ha
  have hnone : m.reports config = [] := List.eq_nil_of_length_eq_zero (hcount ▸ hzero)
  have hvalid := Collection.isValid_of_reports_eq_nil hnone {}
  have hfields := (Group.of_mem_ofFields hg).1
  have hskipped : g.skipped = [] := by
    refine List.filter_eq_nil_iff.mpr ?_
    intro f hf
    rw [hfields] at hf
    simp [hvalid f (List.mem_filter.mp hf).1]
  rw [Group.summary, hskipped]
  rfl

end Round

namespace CommandLine

section

variable {m : Type → Type} [Monad m] {Draft : Type}

/-- The round of a run, with what it prints. -/
def performRound (fs : FileSystem m Draft) (a : Arguments) (catalog : Catalog) (config : Config) :
    m (Round × Text) :=
  if a.dryRun then return dryRound catalog config
  else return (← Round.run (Directory.publisher fs a.out) catalog.model config, [])

end

/-- A dry run is a round into an empty store, and prints what that has. -/
lemma dryRound_eq (catalog : Catalog) (config : Config) :
    dryRound catalog config =
      ((Round.intoStore catalog.model config).1,
        match (Round.intoStore catalog.model config).1.result with
        | .ok _ => sourceText (Round.intoStore catalog.model config).2
        | .error _ => []) := by
  rw [dryRound, Round.intoStore]
  rcases (Round.run Store.publisher catalog.model config).run {} with ⟨round, store⟩
  change (match round.result with
    | .ok _ => (round, sourceText store)
    | .error _ => (round, [])) = _
  cases round.result <;> rfl

variable {σ Draft : Type} {fs : FileSystem (StateM σ) Draft} {a : Arguments} {s s₁ s₂ s₃ : σ}
  {config : Config} {catalog : Catalog} {round : Round} {stdout : Text} {report : Report}

/-- Once configuration and manifest are loaded, a run is its round and what is concluded of it. -/
lemma perform_run (hconfig : (loadConfig fs a.config).run s = (.ok config, s₁))
    (hcatalog : (loadCatalog fs a.manifest).run s₁ = (.ok catalog, s₂)) :
    (perform fs a).run s =
      (conclude fs a.report ((performRound fs a catalog config).run s₂).1.1
        ((performRound fs a catalog config).run s₂).1.2).run
          ((performRound fs a catalog config).run s₂).2 := by
  rw [perform, StateM.run_bind, hconfig]
  dsimp only
  rw [StateM.run_bind, hcatalog]
  dsimp only
  rw [performRound]
  cases a.dryRun <;> rfl

/-- A run whose report is written exits with what its report says. -/
lemma conclude_run (hround : round.result = .ok report)
    (hreport : (writeReport fs report a.report).run s₂ = (.ok (), s₃)) :
    (conclude fs a.report round stdout).run s₂ =
      (⟨if report.hasErrors then 1 else 0, stdout, diagnosticLines round.diagnostics⟩, s₃) := by
  rw [conclude, hround]
  dsimp only
  rw [StateM.run_bind, hreport]
  rfl

/-- The round of a run that succeeds counts what was reported. -/
lemma errorCount_of_performRound
    (h : ((performRound fs a catalog config).run s).1.1.result = .ok report) :
    report.errorCount = (catalog.model.reports config).length := by
  rw [performRound] at h
  cases hdry : a.dryRun with
  | true =>
    rw [hdry] at h
    have hround : (dryRound catalog config).1.result = .ok report := h
    rw [dryRound_eq] at hround
    exact (Round.errorCount_of_run hround).1
  | false =>
    rw [hdry] at h
    exact (Round.errorCount_of_run h).1

/-- A round collects each marked field once and in order, reports on the fields one after the other
behind what was reported before, counts these reports, leaves out nothing if there are none, and
lets the run fail if and only if there are some. -/
theorem collected_reported_and_concluded :
    (∀ (m : TypeModel) (config : Config) (memo : Memo) (earlier : List Diagnostic),
      List.Forall₂ (fun (entry : MarkedField × List Diagnostic) c =>
          c.IsOf m config entry.1 entry.2)
        (m.markedFields.mapIdx fun i f => (f, reportsOn m config (m.markedFields.take i) f))
        (Collection.ofModel m config memo).answer.fields ∧
      reportAll earlier (Collection.ofModel m config memo).answer.diagnostics =
        earlier ++ m.reports config) ∧
    (∀ (σ Sink : Type) (p : Publisher (StateM σ) Sink) (m : TypeModel) (config : Config) (s : σ)
        (report : Report), ((Round.run p m config).run s).1.result = .ok report →
      report.errorCount = (m.reports config).length ∧
        (report.errorCount = 0 → ∀ a ∈ report.artifacts, a.skippedFields = [])) ∧
    ∀ (σ Draft : Type) (fs : FileSystem (StateM σ) Draft) (a : Arguments) (s s₁ s₂ s₃ : σ)
        (config : Config) (catalog : Catalog) (report : Report),
      (loadConfig fs a.config).run s = (.ok config, s₁) →
      (loadCatalog fs a.manifest).run s₁ = (.ok catalog, s₂) →
      ((performRound fs a catalog config).run s₂).1.1.result = .ok report →
      (writeReport fs report a.report).run ((performRound fs a catalog config).run s₂).2 =
        (.ok (), s₃) →
      report.errorCount = (catalog.model.reports config).length ∧
        (((perform fs a).run s).1.status = 1 ↔ 0 < report.errorCount) ∧
        (((perform fs a).run s).1.status = 0 ↔ report.errorCount = 0) := by
  refine ⟨?_, ?_, ?_⟩
  · intro m config memo earlier
    refine ⟨Collection.fields_ofModel memo, ?_⟩
    rw [reportAll_eq, Collection.diagnostics_ofModel_eq]
  · intro σ Sink p m config s report h
    exact Round.errorCount_of_run h
  · intro σ Draft fs a s s₁ s₂ s₃ config catalog report hconfig hcatalog hround hreport
    refine ⟨errorCount_of_performRound hround, ?_⟩
    rw [perform_run hconfig hcatalog, conclude_run hround hreport]
    cases hzero : report.errorCount <;> simp [Report.hasErrors, hzero]

/-- A manifest file that writes `Round.mixedManifest`. -/
def sampleText : Text :=
  "[true,[[\"p\",\"Zone\",null,null,[],[],[[\"lost\",\"java.lang.Object\",[],true]," ++
    "[\"idle\",\"int\"],[\"kept\",\"int\",[],true]]]," ++
    "[\"p\",\"Area\",null,\"p.Zone\",[],[],[[\"shared\",\"int\",[\"static\"],true]]]]]"

/-- A tree with a manifest file. -/
def sampleTree : FileTree :=
  FileTree.empty.put ["home", "manifest.json"] (.file (Utf8.encode sampleText))

/-- A run of what `sampleTree` has. -/
def sampleArguments (dryRun : Bool) : Arguments where
  manifest := "manifest.json"
  out := "generated"
  config := none
  report := some "report.json"
  logLevel := .warn
  dryRun := dryRun

lemma sampleTree_loaded :
    (loadCatalog FileTree.system "manifest.json").run sampleTree =
      (.ok (Catalog.unchecked Round.mixedManifest), sampleTree) := by
  have hread : sampleTree.read "manifest.json" = .ok (Utf8.encode sampleText) := by
    decide +kernel
  have hload : Manifest.load "manifest.json" (.ok (Utf8.encode sampleText)) =
      .ok Round.mixedManifest := by
    decide +kernel
  rw [loadCatalog, StateM.run_bind, FileTree.read_run, if_neg (by decide), hread, hload]
  exact congrArg (·, sampleTree) Round.mixedManifest_accepted

theorem sampleTree_fails :
    Round.mixedReport.errorCount =
        ((Catalog.unchecked Round.mixedManifest).model.reports {}).length ∧
      ((perform FileTree.system (sampleArguments true)).run sampleTree).1.status = 1 := by
  have hreport : ((writeReport FileTree.system Round.mixedReport
      (sampleArguments true).report).run sampleTree).1 = .ok () := by
    decide +kernel
  have hround : (dryRound (Catalog.unchecked Round.mixedManifest) {}).1.result =
      .ok Round.mixedReport := by
    rw [dryRound_eq]
    exact Round.mixedManifest_reported
  obtain ⟨-, hrounds, hruns⟩ := collected_reported_and_concluded
  have hcount := hrounds Store Store.Sink Store.publisher _ {} {} Round.mixedReport
    Round.mixedManifest_reported
  have hrun := hruns FileTree FileTree.Draft FileTree.system (sampleArguments true) sampleTree
    sampleTree sampleTree _ {} _ Round.mixedReport rfl sampleTree_loaded hround
    (Prod.ext hreport rfl)
  exact ⟨hcount.1, hrun.2.1.mpr (by decide)⟩

end CommandLine

end Companion
