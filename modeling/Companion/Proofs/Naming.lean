import Companion.Identity
import Companion.Proofs.Catalog

/-!
# Names of artifacts

An artifact's name holds the package of its type and, joined with `$`, the names of the type and of
the types around it, and it holds no more than that. Two types of an accepted manifest therefore
share an artifact name exactly when they agree in both. They never do where no name has a `$` and
nested types leave their packages to the types around them; without either of these they may.
-/

namespace Companion.Catalog

/-- The simple names of a type and of the types around it, outermost first. -/
def nestedNames (c : Catalog) (n : QName) : List Text :=
  (c.enclosingLinks.path n).reverse.filterMap fun x => (c.lookup x).map (·.name)

/-- No name has a `$`, and nested types leave their packages to the types around them. -/
def PlainNames (types : List TypeDecl) : Prop :=
  ∀ d ∈ types, '$' ∉ d.name ∧ (d.enclosing ≠ none → d.package = [])

variable {c : Catalog} {n outer : QName} {d : TypeDecl}

lemma enclosingLinks_next (hl : c.lookup n = some d) : c.enclosingLinks.next n = d.enclosing := by
  simp [enclosingLinks, hl]

lemma segmentOf_model (hl : c.lookup n = some d) : Identity.segmentOf c.model n = d.name := by
  simp [Identity.segmentOf, model, element, hl]

lemma ownPackage?_eq (hl : c.lookup n = some d) :
    c.ownPackage? n = if d.package = [] then none else some d.package := by
  simp [ownPackage?, hl]

namespace WellFormed

variable (h : c.WellFormed)
include h

/-- What holds of types at the top, and of a nested type if it holds of the type around it, holds
of every known type. -/
lemma induction_on_enclosing {P : QName → TypeDecl → Prop}
    (top : ∀ n d, c.lookup n = some d → d.enclosing = none → P n d)
    (nested : ∀ n d outer e, c.lookup n = some d → d.enclosing = some outer →
      c.lookup outer = some e → P outer e → P n d)
    (hl : c.lookup n = some d) : P n d := by
  induction n using h.enclosingLinks_isAcyclic.induction generalizing d with
  | _ n ih =>
    cases ho : d.enclosing with
    | none => exact top n d hl ho
    | some outer =>
      obtain ⟨e, he⟩ := h.enclosing_known hl ho
      have hn : c.enclosingLinks.Leads n outer := (enclosingLinks_next hl).trans ho
      exact nested n d outer e hl ho he (ih outer hn he)

omit h in
lemma path_of_top (hl : c.lookup n = some d) (ho : d.enclosing = none) :
    c.enclosingLinks.path n = [n] :=
  Graph.Links.path_of_next_none ((enclosingLinks_next hl).trans ho)

lemma path_of_nested (hl : c.lookup n = some d) (ho : d.enclosing = some outer) :
    c.enclosingLinks.path n = n :: c.enclosingLinks.path outer :=
  h.enclosingLinks_isAcyclic.path_of_next_some ((enclosingLinks_next hl).trans ho)

omit h in
lemma nestedNames_of_top (hl : c.lookup n = some d) (ho : d.enclosing = none) :
    c.nestedNames n = [d.name] := by
  simp [nestedNames, path_of_top hl ho, hl]

lemma nestedNames_of_nested (hl : c.lookup n = some d) (ho : d.enclosing = some outer) :
    c.nestedNames n = c.nestedNames outer ++ [d.name] := by
  simp [nestedNames, h.path_of_nested hl ho, hl]

lemma nestedNames_ne_nil (hl : c.lookup n = some d) : c.nestedNames n ≠ [] := by
  cases ho : d.enclosing with
  | none => simp [nestedNames_of_top hl ho]
  | some outer => simp [h.nestedNames_of_nested hl ho]

/-- The package of a known type: its own or, for want of one, that of the type around it. -/
lemma packageOf_of_nested (hl : c.lookup n = some d) (ho : d.enclosing = some outer)
    (hp : d.package = []) : c.packageOf n = c.packageOf outer := by
  rw [packageOf, packageOf, Graph.Links.findFrom_nil, Graph.Links.findFrom_nil,
    h.path_of_nested hl ho, List.findSome?_cons, ownPackage?_eq hl, if_pos hp]

omit h in
lemma packageOf_of_top (hl : c.lookup n = some d) (ho : d.enclosing = none) :
    c.packageOf n = d.package := by
  rw [packageOf, Graph.Links.findFrom_nil, path_of_top hl ho, List.findSome?_singleton,
    ownPackage?_eq hl]
  split
  · next hp => rw [hp, Option.getD_none]
  · rfl

lemma flattenedName_eq (hl : c.lookup n = some d) :
    (Identity.of c.model n).flattenedName = List.intercalate ['$'] (c.nestedNames n) := by
  have segments : ((c.enclosingLinks.path n).map (Identity.segmentOf c.model)).reverse =
      c.nestedNames n := by
    refine h.induction_on_enclosing (P := fun n _ =>
      ((c.enclosingLinks.path n).map (Identity.segmentOf c.model)).reverse = c.nestedNames n)
      ?_ ?_ hl
    · intro n d hl ho
      simp [path_of_top hl ho, nestedNames_of_top hl ho, segmentOf_model hl]
    · intro n d outer e hl ho _ ih
      rw [h.path_of_nested hl ho, h.nestedNames_of_nested hl ho, List.map_cons, List.reverse_cons,
        ih, segmentOf_model hl]
  have helem : c.model.element n =
      some { name := n, simpleName := d.name, enclosing := d.enclosing,
             modifiers := d.modifiers } := by
    simp [model, element, hl]
  rw [Identity.of, helem, model_enclosingLinks, segments]

omit h in
lemma package_eq (hl : c.lookup n = some d) :
    (Identity.of c.model n).package = c.packageOf n := by
  simp [Identity.of, model, element, hl]

/-- Known types have names without dots, and so has what they are flattened to. -/
lemma dot_notMem_flattenedName (hl : c.lookup n = some d) :
    '.' ∉ (Identity.of c.model n).flattenedName := by
  rw [h.flattenedName_eq hl]
  refine h.induction_on_enclosing
    (P := fun n _ => '.' ∉ List.intercalate ['$'] (c.nestedNames n)) ?_ ?_ hl
  · intro n d hl ho
    rw [nestedNames_of_top hl ho, List.intercalate_singleton]
    exact Identifier.dot_notMem_of_isValid (h.name_valid hl)
  · intro n d outer e hl ho he ih
    rw [h.nestedNames_of_nested hl ho,
      Text.intercalate_append_singleton '$' d.name (h.nestedNames_ne_nil he)]
    simpa using ⟨ih, Identifier.dot_notMem_of_isValid (h.name_valid hl)⟩

/-- A known type is named by its package and the names around it, if all names are plain. -/
lemma eq_child_of_plainNames (plain : PlainNames c.declared) (hl : c.lookup n = some d) :
    n = QName.child ⟨c.packageOf n⟩ (List.intercalate ['.'] (c.nestedNames n)) := by
  refine h.induction_on_enclosing (P := fun n _ =>
    n = QName.child ⟨c.packageOf n⟩ (List.intercalate ['.'] (c.nestedNames n))) ?_ ?_ hl
  · intro n d hl ho
    rw [nestedNames_of_top hl ho, packageOf_of_top hl ho, List.intercalate_singleton,
      ← (lookup_some hl).1, TypeDecl.qualifiedName, ho]
  · intro n d outer e hl ho he ih
    have hd : d ∈ c.declared := by
      refine (lookup_some hl).2.resolve_right fun hp => ?_
      rw [(platform_plain d (h.platform d hp)).2.1] at ho
      cases ho
    have hp : d.package = [] := (plain d hd).2 (by simp [ho])
    have hn : n = outer.child d.name := by
      rw [← (lookup_some hl).1, TypeDecl.qualifiedName, ho]
    rw [h.packageOf_of_nested hl ho hp, h.nestedNames_of_nested hl ho,
      Text.intercalate_append_singleton '.' d.name (h.nestedNames_ne_nil he),
      ← QName.child_child (ih ▸ h.text_ne_nil he), ← ih]
    exact hn

lemma dollar_notMem_nestedNames (plain : PlainNames c.declared) {t : Text}
    (ht : t ∈ c.nestedNames n) : '$' ∉ t := by
  obtain ⟨x, -, hx⟩ := List.mem_filterMap.mp ht
  obtain ⟨d, hd, rfl⟩ := Option.map_eq_some_iff.mp hx
  obtain ⟨-, hd | hd⟩ := lookup_some hd
  · exact (plain d hd).1
  · exact (platform_plain d (h.platform d hd)).2.2.1

/-- The name of an artifact holds the package and the joined names, and no more. -/
lemma artifactName_eq_iff (suffix : Text) {m : QName} {e : TypeDecl}
    (hl : c.lookup n = some d) (hm : c.lookup m = some e) :
    (Identity.of c.model n).artifactName suffix = (Identity.of c.model m).artifactName suffix ↔
      c.packageOf n = c.packageOf m ∧
        List.intercalate ['$'] (c.nestedNames n) = List.intercalate ['$'] (c.nestedNames m) := by
  have hdot := h.dot_notMem_flattenedName hl
  have hdot' := h.dot_notMem_flattenedName hm
  rw [← package_eq hl, ← package_eq hm, ← h.flattenedName_eq hl, ← h.flattenedName_eq hm]
  constructor
  · intro heq
    have htext := congrArg QName.text heq
    rw [Identity.artifactName, Identity.artifactName, QName.text_child_append,
      QName.text_child_append] at htext
    have hchild := congrArg QName.mk (List.append_cancel_right htext)
    obtain ⟨hpackage, hname⟩ := QName.child_inj hdot hdot' hchild
    exact ⟨congrArg QName.text hpackage, hname⟩
  · rintro ⟨hpackage, hname⟩
    rw [Identity.artifactName, Identity.artifactName, hpackage, hname]

/-- Among plain names no two artifacts have the same. -/
lemma eq_of_artifactName_eq (plain : PlainNames c.declared) {suffix : Text} {m : QName}
    {e : TypeDecl} (hl : c.lookup n = some d) (hm : c.lookup m = some e)
    (heq : (Identity.of c.model n).artifactName suffix =
      (Identity.of c.model m).artifactName suffix) : n = m := by
  obtain ⟨hpackage, hjoin⟩ := (h.artifactName_eq_iff suffix hl hm).mp heq
  have hnames := Text.intercalate_inj (fun _ => h.dollar_notMem_nestedNames plain)
    (fun _ => h.dollar_notMem_nestedNames plain) (h.nestedNames_ne_nil hl)
    (h.nestedNames_ne_nil hm) hjoin
  rw [h.eq_child_of_plainNames plain hl, h.eq_child_of_plainNames plain hm, hpackage, hnames]

end WellFormed

/-- The artifacts of two declared types have the same name exactly when the types have the same
package and their nested names join to the same text, which no two types with plain names do. -/
theorem artifactNames_shared_iff {m : Manifest} {c : Catalog} (hm : ofManifest m = .ok c)
    (suffix : Text) :
    (∀ a ∈ m.types, ∀ b ∈ m.types,
      (Identity.of c.model a.qualifiedName).artifactName suffix =
          (Identity.of c.model b.qualifiedName).artifactName suffix ↔
        c.packageOf a.qualifiedName = c.packageOf b.qualifiedName ∧
          List.intercalate ['$'] (c.nestedNames a.qualifiedName) =
            List.intercalate ['$'] (c.nestedNames b.qualifiedName)) ∧
    (PlainNames m.types → ∀ a ∈ m.types, ∀ b ∈ m.types, a ≠ b →
      (Identity.of c.model a.qualifiedName).artifactName suffix ≠
        (Identity.of c.model b.qualifiedName).artifactName suffix) := by
  obtain ⟨hdeclared, h⟩ := wellFormed_of_ofManifest hm
  rw [← hdeclared]
  refine ⟨fun a ha b hb => ?_, fun plain a ha b hb hne heq => hne ?_⟩
  · exact h.artifactName_eq_iff suffix (h.lookup_declared ha) (h.lookup_declared hb)
  · have hname := h.eq_of_artifactName_eq plain (h.lookup_declared ha) (h.lookup_declared hb) heq
    exact h.eq_of_qualifiedName_eq ha hb hname

/-- A class `A` with a class `B` in it, and next to it a class with a package of its own. -/
def plainManifest : Manifest where
  usesPlatform := true
  types :=
    [{ package := "p", name := "A", enclosing := none, superclass := none, interfaces := [],
       modifiers := .empty, fields := [] },
      { package := [], name := "B", enclosing := some "p.A", superclass := none, interfaces := [],
        modifiers := .empty, fields := [] },
      { package := "p.A", name := "C", enclosing := none, superclass := none, interfaces := [],
        modifiers := .empty, fields := [] }]

theorem plainManifest_names_differ :
    ofManifest plainManifest = .ok (unchecked plainManifest) ∧ PlainNames plainManifest.types ∧
      ∀ a ∈ plainManifest.types, ∀ b ∈ plainManifest.types, a ≠ b →
        (Identity.of (unchecked plainManifest).model a.qualifiedName).artifactName "$$Stash" ≠
          (Identity.of (unchecked plainManifest).model b.qualifiedName).artifactName "$$Stash" := by
  have accepted : ofManifest plainManifest = .ok (unchecked plainManifest) :=
    ofManifest_of_fault?_eq_none (by decide +kernel)
  have plain : PlainNames plainManifest.types := by
    unfold PlainNames
    decide
  exact ⟨accepted, plain, (artifactNames_shared_iff accepted "$$Stash").2 plain⟩

/-- A class `B` in a class `A`, next to a class whose name is `A$B`. -/
def dollarManifest : Manifest where
  usesPlatform := true
  types :=
    [{ package := "p", name := "A", enclosing := none, superclass := none, interfaces := [],
       modifiers := .empty, fields := [] },
      { package := [], name := "B", enclosing := some "p.A", superclass := none, interfaces := [],
        modifiers := .empty, fields := [] },
      { package := "p", name := "A$B", enclosing := none, superclass := none, interfaces := [],
        modifiers := .empty, fields := [] }]

/-- A `$` within a name can pass for the one between two names. -/
theorem artifactNames_not_injective :
    ¬∀ (m : Manifest) (c : Catalog), ofManifest m = .ok c → ∀ suffix : Text, suffix ≠ [] →
      ∀ a ∈ m.types, ∀ b ∈ m.types, a ≠ b →
        (Identity.of c.model a.qualifiedName).artifactName suffix ≠
          (Identity.of c.model b.qualifiedName).artifactName suffix := by
  intro distinct
  have accepted : ofManifest dollarManifest = .ok (unchecked dollarManifest) :=
    ofManifest_of_fault?_eq_none (by decide +kernel)
  have shared : ∃ a ∈ dollarManifest.types, ∃ b ∈ dollarManifest.types, a ≠ b ∧
      (Identity.of (unchecked dollarManifest).model a.qualifiedName).artifactName "$$Stash" =
        (Identity.of (unchecked dollarManifest).model b.qualifiedName).artifactName "$$Stash" := by
    decide +kernel
  obtain ⟨a, ha, b, hb, hne, heq⟩ := shared
  exact distinct _ _ accepted "$$Stash" (by decide) a ha b hb hne heq

end Companion.Catalog
