import Companion.Catalog.Basic
import Companion.Proofs.QName
import Companion.Proofs.Walk

/-!
# Accepted manifests

What a catalog has once its manifest is accepted: its names are identifiers, no two declarations
share a name, the types around nested ones are there, and neither superclasses nor enclosing types
run in circles. The last of these is checked for superclasses only; that a nested type's name is
longer than the name of the type around it keeps the enclosing types apart.
-/

namespace Companion.Catalog

/-- What acceptance leaves true of a catalog. -/
structure WellFormed (c : Catalog) : Prop where
  names : ∀ d ∈ c.declared, nameFault? d = none
  nodup : (c.declared.map (·.qualifiedName)).Nodup
  enclosing : ∀ d ∈ c.declared, ∀ outer, d.enclosing = some outer → (c.lookup outer).isSome
  superclasses : c.superclassLinks.IsAcyclic
  platform : ∀ d ∈ c.platform, d ∈ Platform.types

lemma nameFault?_eq_none {d : TypeDecl} (h : nameFault? d = none) :
    Identifier.isValid d.name = true ∧ ∀ f ∈ d.fields, Identifier.isValid f.name = true := by
  rw [nameFault?] at h
  split at h
  · cases h
  · split at h
    · cases h
    · next hname =>
      rw [Option.map_eq_none_iff, List.find?_eq_none] at h
      exact ⟨by simpa using hname, fun f hf => by simpa using h f hf⟩

lemma declarationFault?_eq_none_iff {earlier : List QName} {d : TypeDecl} :
    declarationFault? earlier d = none ↔
      (nameFault? d = none ∧ supertypeFault? d = none) ∧ d.qualifiedName ∉ earlier := by
  rw [declarationFault?]
  cases nameFault? d with
  | some e => simp
  | none => by_cases hd : d.qualifiedName ∈ earlier <;> simp [hd]

lemma declarationsFault?_cons {earlier : List QName} {d : TypeDecl} {ds : List TypeDecl} :
    declarationsFault? earlier (d :: ds) = none ↔
      declarationFault? earlier d = none ∧
        declarationsFault? (d.qualifiedName :: earlier) ds = none := by
  rw [declarationsFault?]
  cases declarationFault? earlier d <;> simp

/-- What acceptance asks of the declarations by themselves. -/
lemma declarationsFault?_eq_none_iff {earlier : List QName} {ds : List TypeDecl} :
    declarationsFault? earlier ds = none ↔
      (∀ d ∈ ds, nameFault? d = none ∧ supertypeFault? d = none) ∧
      (∀ d ∈ ds, d.qualifiedName ∉ earlier) ∧ (ds.map (·.qualifiedName)).Nodup := by
  induction ds generalizing earlier with
  | nil => simp [declarationsFault?]
  | cons d ds ih =>
    rw [declarationsFault?_cons, declarationFault?_eq_none_iff, ih, List.map_cons, List.nodup_cons,
      List.forall_mem_cons, List.forall_mem_cons]
    constructor
    · rintro ⟨⟨hfault, hfresh⟩, hfaults, hnew, hnodup⟩
      refine ⟨⟨hfault, hfaults⟩, ⟨hfresh, fun x hx hmem => ?_⟩, fun hmem => ?_, hnodup⟩
      · exact hnew x hx (List.mem_cons_of_mem _ hmem)
      · obtain ⟨x, hx, hxd⟩ := List.mem_map.mp hmem
        exact hnew x hx (hxd ▸ List.mem_cons_self)
    · rintro ⟨⟨hfault, hfaults⟩, ⟨hfresh, hnew⟩, hnotMem, hnodup⟩
      refine ⟨⟨hfault, hfresh⟩, hfaults, fun x hx hmem => ?_, hnodup⟩
      rcases List.mem_cons.mp hmem with heq | hmem
      · exact hnotMem (List.mem_map.mpr ⟨x, hx, heq⟩)
      · exact hnew x hx hmem

lemma lookup_some {c : Catalog} {n : QName} {d : TypeDecl} (h : c.lookup n = some d) :
    d.qualifiedName = n ∧ (d ∈ c.declared ∨ d ∈ c.platform) := by
  rw [lookup_eq_find?] at h
  exact ⟨by simpa using List.find?_some h, by
    simpa [types] using List.mem_of_find?_eq_some h⟩

/-- A platform type has a plain name, is not nested and has no marked fields. -/
lemma platform_plain :
    ∀ d ∈ Platform.types, Identifier.isValid d.name = true ∧ d.enclosing = none ∧
      '$' ∉ d.name ∧ d.isMarked = false := by
  decide +kernel

/-- A platform type extends one that stands before it in the list. -/
lemma platform_superclass_before :
    ∀ d ∈ Platform.types, ∀ s ∈ d.superclassName,
      (Platform.types.map (·.qualifiedName)).idxOf s <
        (Platform.types.map (·.qualifiedName)).idxOf d.qualifiedName := by
  decide +kernel

lemma superclassLinks_isAcyclic {c : Catalog}
    (declared : ∀ d ∈ c.declared, c.superclassLinks.repeated? d.qualifiedName = none)
    (platform : ∀ d ∈ c.platform, d ∈ Platform.types) : c.superclassLinks.IsAcyclic := by
  refine ⟨fun n => ?_⟩
  induction hk : (Platform.types.map (·.qualifiedName)).idxOf n using Nat.strongRecOn
    generalizing n with
  | ind k ih =>
    cases hn : c.superclassLinks.next n with
    | none => exact c.superclassLinks.acc_of_next_none hn
    | some s =>
      obtain ⟨d, hd, hs⟩ := Option.bind_eq_some_iff.mp hn
      obtain ⟨rfl, hmem | hmem⟩ := lookup_some hd
      · exact c.superclassLinks.acc_of_repeated?_eq_none (declared d hmem)
      · have hlt := platform_superclass_before d (platform d hmem) s hs
        exact c.superclassLinks.acc_of_next_some hn (ih _ (hk ▸ hlt) s rfl)

lemma linkFault?_eq_none_iff {c : Catalog} :
    c.linkFault? = none ↔
      (∀ d ∈ c.declared, c.enclosingFault? d = none) ∧ ∀ d ∈ c.declared, c.cycleFault? d = none := by
  rw [linkFault?, ← List.findSome?_eq_none_iff, ← List.findSome?_eq_none_iff]
  cases c.declared.findSome? c.enclosingFault? <;> simp

lemma fault?_eq_none_iff {m : Manifest} :
    fault? m = none ↔ declarationsFault? [] m.types = none ∧ (unchecked m).linkFault? = none := by
  rw [fault?]
  cases declarationsFault? [] m.types <;> simp

lemma ofManifest_ok {m : Manifest} {c : Catalog} (h : ofManifest m = .ok c) :
    c = unchecked m ∧ fault? m = none := by
  rw [ofManifest] at h
  cases hm : fault? m with
  | some e => simp [hm] at h
  | none =>
    rw [hm] at h
    exact ⟨(Except.ok.inj h).symm, rfl⟩

lemma ofManifest_of_fault?_eq_none {m : Manifest} (h : fault? m = none) :
    ofManifest m = .ok (unchecked m) := by
  rw [ofManifest, h]

lemma platform_unchecked (m : Manifest) :
    ∀ d ∈ (unchecked m).platform, d ∈ Platform.types := by
  intro d hd
  cases hp : m.usesPlatform with
  | true => simpa [unchecked, ofTypes, hp] using hd
  | false => simp [unchecked, ofTypes, hp] at hd

/-- The declared types of an accepted manifest are those of the manifest, and its catalog is
well-formed. -/
lemma wellFormed_of_ofManifest {m : Manifest} {c : Catalog} (h : ofManifest m = .ok c) :
    c.declared = m.types ∧ c.WellFormed := by
  obtain ⟨rfl, hm⟩ := ofManifest_ok h
  obtain ⟨hdeclarations, hlinks⟩ := fault?_eq_none_iff.mp hm
  obtain ⟨faults, -, nodup⟩ := declarationsFault?_eq_none_iff.mp hdeclarations
  obtain ⟨enclosing, cycles⟩ := linkFault?_eq_none_iff.mp hlinks
  refine ⟨rfl, fun d hd => (faults d hd).1, nodup, ?_, ?_, platform_unchecked m⟩
  · intro d hd outer ho
    cases hl : ((unchecked m).lookup outer).isSome with
    | true => rfl
    | false => simpa [enclosingFault?, ho, hl] using enclosing d hd
  · exact superclassLinks_isAcyclic
      (fun d hd => by simpa [cycleFault?] using cycles d hd) (platform_unchecked m)

/-- Where no name occurs twice, a search for the name of a member finds the member. -/
lemma find?_qualifiedName {ds : List TypeDecl} (nodup : (ds.map (·.qualifiedName)).Nodup)
    {d : TypeDecl} (hd : d ∈ ds) :
    ds.find? (fun x => x.qualifiedName = d.qualifiedName) = some d := by
  induction ds with
  | nil => cases hd
  | cons x xs ih =>
    rw [List.map_cons, List.nodup_cons] at nodup
    rcases List.mem_cons.mp hd with rfl | hd
    · simp
    · have hne : x.qualifiedName ≠ d.qualifiedName := fun he =>
        nodup.1 (List.mem_map.mpr ⟨d, hd, he.symm⟩)
      simpa [hne] using ih nodup.2 hd

/-- A name that is not declared is looked up beneath. -/
lemma lookup_undeclared {c : Catalog} {n : QName} (h : n ∉ c.declared.map (·.qualifiedName)) :
    c.lookup n = c.platform.find? fun d => d.qualifiedName = n := by
  have hnone : c.declared.find? (fun d => d.qualifiedName = n) = none := by
    refine List.find?_eq_none.mpr fun d hd heq => h ?_
    exact List.mem_map.mpr ⟨d, hd, of_decide_eq_true heq⟩
  rw [lookup_eq_find?, types, List.find?_append, hnone, Option.none_or]

lemma lookup_of_nodup {c : Catalog} (nodup : (c.declared.map (·.qualifiedName)).Nodup)
    {d : TypeDecl} (hd : d ∈ c.declared) : c.lookup d.qualifiedName = some d := by
  rw [lookup_eq_find?, types, List.find?_append, find?_qualifiedName nodup hd, Option.some_or]

namespace WellFormed

variable {c : Catalog} (h : c.WellFormed)
include h

/-- A declared type is found under its name. -/
lemma lookup_declared {d : TypeDecl} (hd : d ∈ c.declared) :
    c.lookup d.qualifiedName = some d :=
  lookup_of_nodup h.nodup hd

/-- The declared type of a name is the only one. -/
lemma eq_of_qualifiedName_eq {d e : TypeDecl} (hd : d ∈ c.declared) (he : e ∈ c.declared)
    (hn : d.qualifiedName = e.qualifiedName) : d = e := by
  have hd' := h.lookup_declared hd
  rw [hn, h.lookup_declared he] at hd'
  exact (Option.some.inj hd').symm

/-- Both declared types and those of the platform have identifiers for names. -/
lemma name_valid {n : QName} {d : TypeDecl} (hl : c.lookup n = some d) :
    Identifier.isValid d.name = true := by
  obtain ⟨-, hd | hd⟩ := lookup_some hl
  · exact (nameFault?_eq_none (h.names d hd)).1
  · exact (platform_plain d (h.platform d hd)).1

lemma text_ne_nil {n : QName} {d : TypeDecl} (hl : c.lookup n = some d) : n.text ≠ [] := by
  have hname := Identifier.ne_nil_of_isValid (h.name_valid hl)
  obtain ⟨rfl, -⟩ := lookup_some hl
  rw [TypeDecl.qualifiedName]
  split
  · exact QName.text_child_ne_nil _ hname
  · exact QName.text_child_ne_nil _ hname

/-- Only declared types have marked fields. -/
lemma declared_of_isMarked {n : QName} {d : TypeDecl} (hl : c.lookup n = some d)
    (hm : d.isMarked = true) : d ∈ c.declared := by
  obtain ⟨-, hd | hd⟩ := lookup_some hl
  · exact hd
  · have := (platform_plain d (h.platform d hd)).2.2.2
    rw [hm] at this
    cases this

/-- The type around a known type is known. -/
lemma enclosing_known {n outer : QName} {d : TypeDecl} (hl : c.lookup n = some d)
    (ho : d.enclosing = some outer) : ∃ e, c.lookup outer = some e := by
  obtain ⟨-, hd | hd⟩ := lookup_some hl
  · exact Option.isSome_iff_exists.mp (h.enclosing d hd outer ho)
  · rw [(platform_plain d (h.platform d hd)).2.1] at ho
    cases ho

/-- The name of a nested type is longer than the name of the type around it. -/
lemma enclosingLinks_isAcyclic : c.enclosingLinks.IsAcyclic := by
  refine Graph.Links.isAcyclic_of_rank (fun n => n.text.length) fun n outer hn => ?_
  obtain ⟨d, hl, ho⟩ := Option.bind_eq_some_iff.mp hn
  have hname := Identifier.ne_nil_of_isValid (h.name_valid hl)
  obtain ⟨rfl, -⟩ := lookup_some hl
  rw [TypeDecl.qualifiedName, ho]
  exact QName.length_lt_child hname

end WellFormed

/-- A model follows the same links as its catalog. -/
lemma model_enclosingLinks (c : Catalog) : c.model.enclosingLinks = c.enclosingLinks := by
  have hnext : c.model.enclosingLinks.next = c.enclosingLinks.next := by
    funext n
    cases hl : c.lookup n <;>
      simp [TypeModel.enclosingLinks, enclosingLinks, model, element, hl]
  simp only [TypeModel.enclosingLinks, enclosingLinks] at hnext ⊢
  congr 1

end Companion.Catalog
