import Companion.Proofs.Acceptance
import Companion.Proofs.Agreement
import Companion.Proofs.Reachability

/-!
# One more type

A type that nothing mentions adds its own artifact to a round and its own problems to what is
reported, and nothing else. All that a model is asked about the other types leads to other types
again: to those around them, to what they extend and implement, and to what their fields name. So on
these types the models with and without it agree, and what a round makes of them is the same.
-/

namespace Companion

/-- A model is what another one says of some types: it agrees with it on these, and has the marked
fields of these alone. -/
structure TypeModel.IsPart (S : QName → Prop) [DecidablePred S] (m m' : TypeModel) : Prop
    extends m.AgreesOn S m' where
  fields : m.markedFields = m'.markedFields.filter fun f => S f.enclosing
  within : ∀ f ∈ m.markedFields, f.Within S

namespace TypeModel.IsPart

variable {S : QName → Prop} [DecidablePred S] {m m' : TypeModel} (h : m.IsPart S m')
  {config : Config}
include h

lemma filter_fields {n : QName} (hn : S n) :
    m.markedFields.filter (fun f => f.enclosing = n) =
      m'.markedFields.filter fun f => f.enclosing = n := by
  rw [h.fields, List.filter_filter]
  refine List.filter_congr fun f _ => ?_
  by_cases hf : f.enclosing = n
  · simp [hf, hn]
  · simp [hf]

section

variable (acyclic : m.superclassLinks.IsAcyclic)
include acyclic

lemma mem_of_mem_groups {g : Group} (hg : g ∈ Round.groups m config) : S g.info.name := by
  have hfields := Collection.collectFrom_sound acyclic [] (.empty : Memo.Sound m config {})
    m.markedFields
  obtain ⟨-, a, ha, hinfo⟩ := Group.of_mem_ofFields hg
  rw [Collection.ofModel, hfields] at ha
  obtain ⟨f, hf, rfl⟩ := List.mem_map.mp ha
  rw [hinfo]
  exact (h.within f hf).enclosing

/-- A group of the part is a group of the whole. -/
lemma groups_subset (acyclic' : m'.superclassLinks.IsAcyclic) {g : Group}
    (hg : g ∈ Round.groups m config) : g ∈ Round.groups m' config := by
  have hS := h.mem_of_mem_groups acyclic hg
  have found := (Round.groups_ordered m config).ofName?_of_mem hg
  have hcollected : ∀ f ∈ m.markedFields.filter (fun f => f.enclosing = g.info.name),
      Collection.collected m config f = Collection.collected m' config f := fun f hf =>
    h.toAgreesOn.collected config (h.within f (List.mem_filter.mp hf).1)
  rw [Round.ofName?_groups acyclic, List.map_congr_left hcollected, h.filter_fields hS,
    ← Round.ofName?_groups acyclic'] at found
  exact (Group.ofName?_eq_some found).1

/-- A round over the whole that succeeds has every artifact of a round over the part, with the same
source. -/
lemma artifacts_kept (acyclic' : m'.superclassLinks.IsAcyclic) {report report' : Report}
    (hr : (Round.intoStore m config).1.result = .ok report)
    (hr' : (Round.intoStore m' config).1.result = .ok report') :
    ∀ a ∈ report.artifacts, a ∈ report'.artifacts ∧
      ∃ text, (Round.intoStore m config).2.source? a.name = some text ∧
        (Round.intoStore m' config).2.source? a.name = some text := by
  obtain ⟨hartifacts, hpublished⟩ := Round.intoStore_ok hr
  obtain ⟨hartifacts', hpublished'⟩ := Round.intoStore_ok hr'
  rw [hartifacts, hartifacts']
  intro a ha
  obtain ⟨g, hg, rfl⟩ := List.mem_map.mp ha
  have hg' := h.groups_subset acyclic acyclic' hg
  exact ⟨List.mem_map_of_mem hg', _, hpublished.sources g hg, hpublished'.sources g hg'⟩

end

/-- What is reported about the fields of the part is reported, in this order, among what is reported
about all fields. -/
lemma collectFrom_sublist {checked checked' : List QName}
    (hchecked : ∀ n, S n → (n ∈ checked ↔ n ∈ checked')) (memo memo' : Memo)
    {fs : List MarkedField} (within : ∀ f ∈ fs, S f.enclosing → f.Within S) :
    (Collection.collectFrom m config checked memo
        (fs.filter fun f => S f.enclosing)).answer.diagnostics.Sublist
      (Collection.collectFrom m' config checked' memo' fs).answer.diagnostics := by
  induction fs generalizing checked checked' memo memo' with
  | nil => exact List.Sublist.refl []
  | cons f fs ih =>
    obtain ⟨hf, within⟩ := List.forall_mem_cons.mp within
    rw [Collection.diagnostics_collectFrom_cons m']
    by_cases hS : S f.enclosing
    · have hnext : ∀ n, S n → (n ∈ f.enclosing :: checked ↔ n ∈ f.enclosing :: checked') :=
        fun n hn => by rw [List.mem_cons, List.mem_cons, hchecked n hn]
      rw [List.filter_cons_of_pos (by simpa using hS), Collection.diagnostics_collectFrom_cons m,
        h.toAgreesOn.typeProblems hS, h.toAgreesOn.fieldProblems config (hf hS)]
      simp only [hchecked _ hS]
      exact (List.Sublist.refl _).append (ih hnext _ _ within)
    · have hnext : ∀ n, S n → (n ∈ checked ↔ n ∈ f.enclosing :: checked') := fun n hn => by
        rw [List.mem_cons, hchecked n hn]
        exact (or_iff_right fun heq : n = f.enclosing => hS (heq ▸ hn)).symm
      rw [List.filter_cons_of_neg (by simpa using hS)]
      exact (ih hnext _ _ within).trans (List.sublist_append_right _ _)

lemma diagnostics_sublist :
    (Round.intoStore m config).1.diagnostics.Sublist
      (Round.intoStore m' config).1.diagnostics := by
  have within : ∀ f ∈ m'.markedFields, S f.enclosing → f.Within S := fun f hf hS =>
    h.within f (by rw [h.fields]; exact List.mem_filter.mpr ⟨hf, by simpa using hS⟩)
  have hchecked : ∀ n, S n → (n ∈ ([] : List QName) ↔ n ∈ ([] : List QName)) :=
    fun _ _ => Iff.rfl
  rw [Round.intoStore, Round.intoStore, Round.run_run, Round.run_run]
  dsimp only [Collection.ofModel]
  rw [h.fields]
  exact h.collectFrom_sublist hchecked {} {} within

end TypeModel.IsPart

namespace Manifest

/-- A manifest with one more declaration, wherever it stands. -/
structure Adds (m : Manifest) (d : TypeDecl) (m' : Manifest) : Prop where
  usesPlatform : m'.usesPlatform = m.usesPlatform
  types : ∃ before after, m.types = before ++ after ∧ m'.types = before ++ d :: after

/-- A manifest mentions a name: as that of a type, as what a type extends or implements, as that of
the type around one, or somewhere in the type of a field. -/
def Mentions (m : Manifest) (n : QName) : Prop :=
  ∃ d ∈ m.types, d.qualifiedName = n ∨ n ∈ d.supertypes ∨ d.enclosing = some n ∨
    ∃ f ∈ d.fields, n ∈ f.type.names

end Manifest

namespace Catalog

/-- What a type of the platform extends or implements is of the platform. -/
lemma platform_closed :
    ∀ d ∈ Platform.types, ∀ s ∈ d.supertypes, ∃ e ∈ Platform.types, e.qualifiedName = s := by
  decide +kernel

lemma mem_supertypes_of_superclassName {d : TypeDecl} {s : QName} (h : d.superclassName = some s) :
    s ∈ d.supertypes := by
  obtain ⟨args, hs⟩ := superclassName_eq_some_iff.mp h
  simp [TypeDecl.supertypes, hs, TypeExpr.erasure]

section Adds

variable {m m' : Manifest} {d : TypeDecl} (h : m.Adds d m')
include h

lemma lookup_of_adds {n : QName} (hn : n ≠ d.qualifiedName) :
    (unchecked m).lookup n = (unchecked m').lookup n := by
  obtain ⟨before, after, htypes, htypes'⟩ := h.types
  have hd : decide (d.qualifiedName = n) = false := decide_eq_false (Ne.symm hn)
  rw [lookup_eq_find?, lookup_eq_find?, types, types, unchecked, unchecked, h.usesPlatform,
    ofTypes, ofTypes, htypes, htypes']
  simp only [List.find?_append, List.find?_cons, hd]

variable (unmentioned : ¬m.Mentions d.qualifiedName)
  (new : m.usesPlatform = true → ∀ e ∈ Platform.types, e.qualifiedName ≠ d.qualifiedName)
include unmentioned new

omit h in
/-- No type that can be looked up without the new one leads to it. -/
lemma ne_of_mem_supertypes {n s : QName} {e : TypeDecl} (he : (unchecked m).lookup n = some e)
    (hs : s ∈ e.supertypes) : s ≠ d.qualifiedName := by
  obtain ⟨-, he | he⟩ := lookup_some he
  · exact fun heq => unmentioned ⟨e, he, Or.inr (Or.inl (heq ▸ hs))⟩
  · obtain ⟨hp, he⟩ := mem_platform_unchecked.mp he
    obtain ⟨p, hp', rfl⟩ := platform_closed e he s hs
    exact new hp p hp'

omit h new in
lemma ne_of_enclosing {n outer : QName} {e : TypeDecl} (he : (unchecked m).lookup n = some e)
    (ho : e.enclosing = some outer) : outer ≠ d.qualifiedName := by
  obtain ⟨-, he | he⟩ := lookup_some he
  · exact fun heq => unmentioned ⟨e, he, Or.inr (Or.inr (Or.inl (heq ▸ ho)))⟩
  · rw [(platform_plain e (mem_platform_unchecked.mp he).2).2.1] at ho
    cases ho

omit new in
lemma packageOf_of_adds {n : QName} (hn : n ≠ d.qualifiedName) :
    (unchecked m).packageOf n = (unchecked m').packageOf n := by
  have same : ∀ a, a ≠ d.qualifiedName →
      (unchecked m).enclosingLinks.next a = (unchecked m').enclosingLinks.next a := fun a ha => by
    simp only [enclosingLinks, lookup_of_adds h ha]
  have closed : ∀ a outer, a ≠ d.qualifiedName →
      (unchecked m).enclosingLinks.next a = some outer → outer ≠ d.qualifiedName := by
    intro a outer _ ho
    obtain ⟨e, he, ho⟩ := Option.bind_eq_some_iff.mp ho
    exact ne_of_enclosing unmentioned he ho
  obtain ⟨hpath, hmem⟩ := Graph.Links.path_congr_on same closed hn
  have hown : ∀ a ∈ (unchecked m).enclosingLinks.path n,
      (unchecked m).ownPackage? a = (unchecked m').ownPackage? a := fun a ha => by
    rw [ownPackage?, ownPackage?, lookup_of_adds h (hmem a ha)]
  rw [packageOf, packageOf, Graph.Links.findFrom_nil, Graph.Links.findFrom_nil, ← hpath,
    ← List.head?_filterMap, ← List.head?_filterMap, List.filterMap_congr hown]

lemma isAssignable_of_adds {t : TypeExpr} (ht : ∀ n ∈ t.names, n ≠ d.qualifiedName)
    (target : QName) :
    (unchecked m).isAssignable t target = (unchecked m').isAssignable t target := by
  have same : ∀ a, a ≠ d.qualifiedName → ∀ b,
      b ∈ (unchecked m).supertypeArrows.next a ↔ b ∈ (unchecked m').supertypeArrows.next a := by
    intro a ha b
    simp only [supertypeArrows, lookup_of_adds h ha]
  have closed : ∀ a, a ≠ d.qualifiedName → ∀ b,
      b ∈ (unchecked m).supertypeArrows.next a → b ≠ d.qualifiedName := by
    intro a _ b hb
    cases he : (unchecked m).lookup a with
    | none => simp [supertypeArrows, he] at hb
    | some e =>
      simp only [supertypeArrows, he, Option.map_some, Option.getD_some] at hb
      exact ne_of_mem_supertypes unmentioned new he hb
  cases t with
  | declared n args =>
    exact Graph.Arrows.reaches_congr_on same closed (ht n (by simp [TypeExpr.names])) target
  | _ => rfl

/-- On all types but the new one the models agree. -/
lemma agreesOn_of_adds :
    (unchecked m).model.AgreesOn (· ≠ d.qualifiedName) (unchecked m').model where
  element n hn := by simp only [model, element, lookup_of_adds h hn]
  package n hn := packageOf_of_adds h unmentioned hn
  superclass n hn := by simp only [model, lookup_of_adds h hn]
  declaresMarked n hn := by simp only [model, lookup_of_adds h hn]
  isAssignable t target ht := isAssignable_of_adds h unmentioned new ht target
  enclosing_closed n outer _ ho := by
    rw [model_enclosingLinks] at ho
    obtain ⟨e, he, ho⟩ := Option.bind_eq_some_iff.mp ho
    exact ne_of_enclosing unmentioned he ho
  superclass_closed n above _ hs := by
    obtain ⟨e, he, hs⟩ := Option.bind_eq_some_iff.mp hs
    exact ne_of_mem_supertypes unmentioned new he (mem_supertypes_of_superclassName hs)

lemma isPart_of_adds :
    (unchecked m).model.IsPart (· ≠ d.qualifiedName) (unchecked m').model where
  toAgreesOn := agreesOn_of_adds h unmentioned new
  fields := by
    obtain ⟨before, after, htypes, htypes'⟩ := h.types
    have kept : ∀ ds : List TypeDecl, (∀ e ∈ ds, e ∈ m.types) →
        (ds.flatMap markedFieldsOf).filter (fun f => f.enclosing ≠ d.qualifiedName) =
          ds.flatMap markedFieldsOf := by
      intro ds hds
      refine List.filter_eq_self.mpr fun f hf => decide_eq_true fun heq => ?_
      obtain ⟨e, he, hf⟩ := List.mem_flatMap.mp hf
      rw [enclosing_of_mem_markedFieldsOf hf] at heq
      exact unmentioned ⟨e, hds e he, Or.inl heq⟩
    have dropped : (markedFieldsOf d).filter (fun f => f.enclosing ≠ d.qualifiedName) = [] := by
      refine List.filter_eq_nil_iff.mpr fun f hf => ?_
      simp [enclosing_of_mem_markedFieldsOf hf]
    change m.types.flatMap markedFieldsOf = (m'.types.flatMap markedFieldsOf).filter _
    rw [htypes', List.flatMap_append, List.filter_append, List.flatMap_cons, List.filter_append,
      dropped, kept before fun e he => htypes ▸ List.mem_append_left _ he,
      kept after fun e he => htypes ▸ List.mem_append_right _ he, htypes, List.flatMap_append,
      List.nil_append]
  within f hf := by
    obtain ⟨e, he, hf⟩ := mem_markedFields.mp hf
    refine ⟨fun heq => ?_, fun n hn heq => ?_⟩
    · rw [enclosing_of_mem_markedFieldsOf hf] at heq
      exact unmentioned ⟨e, he, Or.inl heq⟩
    · obtain ⟨a, ha, rfl⟩ := List.mem_map.mp hf
      exact unmentioned
        ⟨e, he, Or.inr (Or.inr (Or.inr ⟨a, (List.mem_filter.mp ha).1, heq ▸ hn⟩))⟩

end Adds

end Catalog

namespace Round

/-- One more declaration, of a type that nothing mentions and the platform does not have, takes no
artifact from a round, changes none in its source or in what is reported of it, and leaves the
problems that were reported, in their order. -/
theorem intoStore_addition {m m' : Manifest} {d : TypeDecl} (h : m.Adds d m')
    (unmentioned : ¬m.Mentions d.qualifiedName)
    (new : m.usesPlatform = true → ∀ e ∈ Platform.types, e.qualifiedName ≠ d.qualifiedName)
    {c c' : Catalog} (hc : Catalog.ofManifest m = .ok c) (hc' : Catalog.ofManifest m' = .ok c')
    {config : Config} {report report' : Report}
    (hr : (intoStore c.model config).1.result = .ok report)
    (hr' : (intoStore c'.model config).1.result = .ok report') :
    (∀ a ∈ report.artifacts, a ∈ report'.artifacts ∧
      ∃ text, (intoStore c.model config).2.source? a.name = some text ∧
        (intoStore c'.model config).2.source? a.name = some text) ∧
    (intoStore c.model config).1.diagnostics.Sublist (intoStore c'.model config).1.diagnostics := by
  have acyclic := (Catalog.wellFormed_of_ofManifest hc).2.acyclic
  have acyclic' := (Catalog.wellFormed_of_ofManifest hc').2.acyclic
  obtain ⟨rfl, -⟩ := Catalog.ofManifest_ok hc
  obtain ⟨rfl, -⟩ := Catalog.ofManifest_ok hc'
  have part := Catalog.isPart_of_adds h unmentioned new
  exact ⟨part.artifacts_kept acyclic acyclic' hr hr', part.diagnostics_sublist⟩

/-- The two lines of classes with a class that nothing mentions, in the middle of them. -/
def chestManifest : Manifest where
  usesPlatform := true
  types := Ancestry.sampleManifest.types.take 2 ++
    Ancestry.sampleClass "Chest" (some "p.Base") ["z"] :: Ancestry.sampleManifest.types.drop 2

/-- The report with the artifact of the new class after that of the class that it extends. -/
def chestReport : Report where
  artifacts := sampleReport.artifacts.insertIdx 1
    ⟨"p.Chest$$Stash", "p.Chest", .plain, "p.Base$$Stash", ["z"], []⟩
  errorCount := 0
  inspectedTypes := 3

theorem chestManifest_keeps :
    Ancestry.sampleManifest.Adds (Ancestry.sampleClass "Chest" (some "p.Base") ["z"])
      chestManifest ∧
    ¬Ancestry.sampleManifest.Mentions "p.Chest" ∧
    (intoStore (Catalog.unchecked chestManifest).model {}).1.result = .ok chestReport ∧
    ∃ text, (intoStore (Catalog.unchecked Ancestry.sampleManifest).model {}).2.source?
        "p.Leaf$$Stash" = some text ∧
      (intoStore (Catalog.unchecked chestManifest).model {}).2.source? "p.Leaf$$Stash" =
        some text := by
  have adds : Ancestry.sampleManifest.Adds (Ancestry.sampleClass "Chest" (some "p.Base") ["z"])
      chestManifest :=
    ⟨rfl, Ancestry.sampleManifest.types.take 2, Ancestry.sampleManifest.types.drop 2,
      (List.take_append_drop 2 _).symm, rfl⟩
  have unmentioned : ¬Ancestry.sampleManifest.Mentions "p.Chest" := by
    unfold Manifest.Mentions
    decide +kernel
  have accepted : Catalog.ofManifest chestManifest = .ok (Catalog.unchecked chestManifest) :=
    Catalog.ofManifest_of_fault?_eq_none (by decide +kernel)
  have reported : (intoStore (Catalog.unchecked chestManifest).model {}).1.result =
      .ok chestReport := by
    rw [intoStore_of_nodup (by decide +kernel)]
    decide +kernel
  have kept := (intoStore_addition adds unmentioned (by decide +kernel)
    Ancestry.sampleManifest_accepted accepted sampleManifest_reported reported).1
  exact ⟨adds, unmentioned, reported,
    (kept ⟨"p.Leaf$$Stash", "p.Leaf", .plain, "p.Base$$Stash", ["x", "y"], []⟩
      (by decide +kernel)).2⟩

end Round

end Companion
