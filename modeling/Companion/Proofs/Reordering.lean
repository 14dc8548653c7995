import Companion.Proofs.Agreement
import Companion.Proofs.Reachability
import Mathlib.Data.List.Forall2
import Mathlib.Data.List.Perm.Basic

/-!
# Manifests in another order

A manifest may declare its types in another order, and each type may list its interfaces in another
order. Names are unique, so every name is looked up to the same declaration but for the order of its
interfaces, and all that is asked of these is what they reach. The models of the two manifests agree,
and so do the rounds.
-/

namespace Companion

/-- The same declaration with its interfaces in another order. -/
structure TypeDecl.Reordered (d d' : TypeDecl) : Prop where
  eq : d' = { d with interfaces := d'.interfaces }
  interfaces : d.interfaces.Perm d'.interfaces

namespace TypeDecl.Reordered

variable {d d' : TypeDecl}

lemma refl (d : TypeDecl) : d.Reordered d :=
  ⟨rfl, .refl _⟩

lemma symm (h : d.Reordered d') : d'.Reordered d :=
  ⟨by rw [h.eq], h.interfaces.symm⟩

/-- What does not look at interfaces cannot tell the declarations apart. -/
lemma apply_eq {β : Type} (h : d.Reordered d') (f : TypeDecl → β)
    (hf : ∀ d is, f { d with interfaces := is } = f d) : f d = f d' := by
  have hsame : f d' = f { d with interfaces := d'.interfaces } := congrArg f h.eq
  exact (hsame.trans (hf d d'.interfaces)).symm

lemma qualifiedName (h : d.Reordered d') : d.qualifiedName = d'.qualifiedName :=
  h.apply_eq TypeDecl.qualifiedName fun _ _ => rfl

lemma mem_supertypes (h : d.Reordered d') (n : QName) : n ∈ d.supertypes ↔ n ∈ d'.supertypes := by
  have hsuperclass : d.superclass = d'.superclass :=
    h.apply_eq TypeDecl.superclass fun _ _ => rfl
  rw [supertypes, supertypes, hsuperclass]
  exact ((h.interfaces.append_left _).filterMap _).mem_iff

lemma exists_of_mem {ds ds' : List TypeDecl} (h : List.Forall₂ Reordered ds ds')
    (hd : d ∈ ds) : ∃ d' ∈ ds', d.Reordered d' := by
  induction h with
  | nil => cases hd
  | cons hhead _ ih =>
    rcases List.mem_cons.mp hd with rfl | hd
    · exact ⟨_, List.mem_cons_self, hhead⟩
    · obtain ⟨d', hd', hreordered⟩ := ih hd
      exact ⟨d', List.mem_cons_of_mem _ hd', hreordered⟩

lemma names_eq {ds ds' : List TypeDecl} (h : List.Forall₂ Reordered ds ds') :
    ds.map (·.qualifiedName) = ds'.map (·.qualifiedName) := by
  induction h with
  | nil => rfl
  | cons hhead _ ih => rw [List.map_cons, List.map_cons, ih, hhead.qualifiedName]

/-- What is made of a declaration without its interfaces is made of what is found. -/
lemma bind_eq {β : Type} {o o' : Option TypeDecl} (h : Option.Rel Reordered o o')
    (f : TypeDecl → Option β) (hf : ∀ d is, f { d with interfaces := is } = f d) :
    o.bind f = o'.bind f := by
  cases h with
  | none => rfl
  | some hd => exact hd.apply_eq f hf

lemma map_eq {β : Type} {o o' : Option TypeDecl} (h : Option.Rel Reordered o o')
    (f : TypeDecl → β) (hf : ∀ d is, f { d with interfaces := is } = f d) :
    o.map f = o'.map f := by
  cases h with
  | none => rfl
  | some hd => exact congrArg some (hd.apply_eq f hf)

lemma mem_supertypes_of_rel {o o' : Option TypeDecl} (h : Option.Rel Reordered o o') (n : QName) :
    n ∈ (o.map (·.supertypes)).getD [] ↔ n ∈ (o'.map (·.supertypes)).getD [] := by
  cases h with
  | none => exact Iff.rfl
  | some hd => exact hd.mem_supertypes n

end TypeDecl.Reordered

/-- The same declarations in another order, each with its interfaces in any order. -/
structure Manifest.Reordered (m m' : Manifest) : Prop where
  usesPlatform : m.usesPlatform = m'.usesPlatform
  types : ∃ ds, m.types.Perm ds ∧ List.Forall₂ TypeDecl.Reordered ds m'.types

namespace Manifest.Reordered

variable {m m' : Manifest}

lemma symm (h : m.Reordered m') : m'.Reordered m := by
  obtain ⟨ds, hperm, hall⟩ := h.types
  have hflip : List.Forall₂ TypeDecl.Reordered m'.types ds :=
    hall.flip.imp fun _ _ hd => hd.symm
  have hcomp : Relation.Comp (List.Forall₂ TypeDecl.Reordered) List.Perm m'.types m.types :=
    ⟨ds, hflip, hperm.symm⟩
  rw [List.forall₂_comp_perm_eq_perm_comp_forall₂] at hcomp
  exact ⟨h.usesPlatform.symm, hcomp⟩

/-- Every declaration is there in the other manifest. -/
lemma exists_reordered (h : m.Reordered m') {d : TypeDecl} (hd : d ∈ m.types) :
    ∃ d' ∈ m'.types, d.Reordered d' := by
  obtain ⟨ds, hperm, hall⟩ := h.types
  exact TypeDecl.Reordered.exists_of_mem hall (hperm.mem_iff.mp hd)

lemma names_perm (h : m.Reordered m') :
    (m.types.map (·.qualifiedName)).Perm (m'.types.map (·.qualifiedName)) := by
  obtain ⟨ds, hperm, hall⟩ := h.types
  rw [← TypeDecl.Reordered.names_eq hall]
  exact hperm.map _

end Manifest.Reordered

namespace Catalog

variable {m m' : Manifest}

/-- Each name is looked up to the same declaration, but for the order of its interfaces. -/
lemma lookup_reordered (h : m.Reordered m') (nodup : (m.types.map (·.qualifiedName)).Nodup)
    (n : QName) :
    Option.Rel TypeDecl.Reordered ((unchecked m).lookup n) ((unchecked m').lookup n) := by
  have nodup' : (m'.types.map (·.qualifiedName)).Nodup := h.names_perm.nodup_iff.mp nodup
  by_cases hn : n ∈ m.types.map (·.qualifiedName)
  · obtain ⟨d, hd, rfl⟩ := List.mem_map.mp hn
    obtain ⟨d', hd', hreordered⟩ := h.exists_reordered hd
    have hlookup : (unchecked m).lookup d.qualifiedName = some d :=
      lookup_of_nodup (c := unchecked m) nodup hd
    have hlookup' : (unchecked m').lookup d'.qualifiedName = some d' :=
      lookup_of_nodup (c := unchecked m') nodup' hd'
    rw [hlookup, hreordered.qualifiedName, hlookup']
    exact .some hreordered
  · have hn' : n ∉ m'.types.map (·.qualifiedName) := fun hmem =>
      hn (h.names_perm.mem_iff.mpr hmem)
    have hplatform : (unchecked m').platform = (unchecked m).platform := by
      rw [unchecked, unchecked, h.usesPlatform]
      rfl
    rw [lookup_undeclared (c := unchecked m) hn, lookup_undeclared (c := unchecked m') hn',
      hplatform]
    cases (unchecked m).platform.find? fun d => d.qualifiedName = n with
    | none => exact .none
    | some d => exact .some (.refl d)

section

variable (h : m.Reordered m') (nodup : (m.types.map (·.qualifiedName)).Nodup)
include h nodup

lemma superclassLinks_next_reordered :
    (unchecked m).superclassLinks.next = (unchecked m').superclassLinks.next :=
  funext fun n => TypeDecl.Reordered.bind_eq (lookup_reordered h nodup n) TypeDecl.superclassName
    fun _ _ => rfl

lemma enclosingLinks_next_reordered :
    (unchecked m).enclosingLinks.next = (unchecked m').enclosingLinks.next :=
  funext fun n => TypeDecl.Reordered.bind_eq (lookup_reordered h nodup n) TypeDecl.enclosing
    fun _ _ => rfl

lemma enclosingFault?_reordered {d d' : TypeDecl} (hd : d.Reordered d') :
    (unchecked m).enclosingFault? d = (unchecked m').enclosingFault? d' := by
  have henclosing : d.enclosing = d'.enclosing := hd.apply_eq TypeDecl.enclosing fun _ _ => rfl
  have hknown : ∀ n, ((unchecked m).lookup n).isSome = ((unchecked m').lookup n).isSome := by
    intro n
    have hmap := TypeDecl.Reordered.map_eq (lookup_reordered h nodup n) (fun _ => ())
      fun _ _ => rfl
    rw [← Option.isSome_map (f := fun _ => ()), hmap, Option.isSome_map]
  rw [enclosingFault?, enclosingFault?, henclosing, hd.qualifiedName]
  simp only [hknown]

lemma cycleFault?_reordered {d d' : TypeDecl} (hd : d.Reordered d') :
    (unchecked m).cycleFault? d = (unchecked m').cycleFault? d' := by
  rw [cycleFault?, cycleFault?, hd.qualifiedName, Graph.Links.repeated?, Graph.Links.repeated?,
    Graph.Links.walk_congr_next (superclassLinks_next_reordered h nodup)]

end

/-- What has no fault in one order has none in another. -/
lemma fault?_reordered (h : m.Reordered m') (hm : fault? m = none) : fault? m' = none := by
  obtain ⟨hdeclarations, hlinks⟩ := fault?_eq_none_iff.mp hm
  obtain ⟨hfaults, -, nodup⟩ := declarationsFault?_eq_none_iff.mp hdeclarations
  obtain ⟨henclosing, hcycles⟩ := linkFault?_eq_none_iff.mp hlinks
  refine fault?_eq_none_iff.mpr ⟨declarationsFault?_eq_none_iff.mpr ⟨fun d' hd' => ?_,
    fun _ _ => List.not_mem_nil, h.names_perm.nodup_iff.mp nodup⟩,
    linkFault?_eq_none_iff.mpr ⟨fun d' hd' => ?_, fun d' hd' => ?_⟩⟩
  · obtain ⟨d, hd, hreordered⟩ := h.symm.exists_reordered hd'
    rw [hreordered.apply_eq nameFault? fun _ _ => rfl,
      hreordered.apply_eq supertypeFault? fun _ _ => rfl]
    exact hfaults d hd
  · obtain ⟨d, hd, hreordered⟩ := h.symm.exists_reordered hd'
    rw [← enclosingFault?_reordered h nodup hreordered.symm]
    exact henclosing d hd
  · obtain ⟨d, hd, hreordered⟩ := h.symm.exists_reordered hd'
    rw [← cycleFault?_reordered h nodup hreordered.symm]
    exact hcycles d hd

/-- The order of a manifest has no part in its acceptance. -/
lemma exists_ofManifest_reordered (h : m.Reordered m') :
    (∃ c, ofManifest m = .ok c) → ∃ c, ofManifest m' = .ok c := by
  rintro ⟨c, hc⟩
  exact ⟨unchecked m', ofManifest_of_fault?_eq_none (fault?_reordered h (ofManifest_ok hc).2)⟩

lemma filter_markedFields_undeclared {c : Catalog} {n : QName}
    (hn : n ∉ c.declared.map (·.qualifiedName)) :
    c.model.markedFields.filter (fun f => f.enclosing = n) = [] := by
  refine List.filter_eq_nil_iff.mpr fun f hf heq => hn ?_
  obtain ⟨d, hd, hmem⟩ := mem_markedFields.mp hf
  have henclosing : f.enclosing = n := of_decide_eq_true heq
  rw [← henclosing, enclosing_of_mem_markedFieldsOf hmem]
  exact List.mem_map_of_mem hd

lemma packageOf_reordered (h : m.Reordered m') (nodup : (m.types.map (·.qualifiedName)).Nodup)
    (n : QName) : (unchecked m).packageOf n = (unchecked m').packageOf n := by
  have hbind : ∀ c : Catalog, c.ownPackage? = fun a =>
      (c.lookup a).bind fun d => if d.package = [] then none else some d.package := by
    intro c
    funext a
    rw [ownPackage?]
    cases c.lookup a <;> rfl
  have hown : (unchecked m).ownPackage? = (unchecked m').ownPackage? := by
    rw [hbind, hbind]
    funext a
    exact TypeDecl.Reordered.bind_eq (lookup_reordered h nodup a)
      (fun d => if d.package = [] then none else some d.package) fun _ _ => rfl
  rw [packageOf, packageOf, Graph.Links.findFrom_nil, Graph.Links.findFrom_nil, hown,
    Graph.Links.path_congr_next (enclosingLinks_next_reordered h nodup)]

/-- What is assignable depends on the supertypes that are reached, in whatever order they are
listed. -/
lemma isAssignable_reordered (h : m.Reordered m')
    (nodup : (m.types.map (·.qualifiedName)).Nodup) (t : TypeExpr) (target : QName) :
    (unchecked m).isAssignable t target = (unchecked m').isAssignable t target := by
  have hnext : ∀ a b, b ∈ (unchecked m).supertypeArrows.next a ↔
      b ∈ (unchecked m').supertypeArrows.next a := fun a b =>
    TypeDecl.Reordered.mem_supertypes_of_rel (lookup_reordered h nodup a) b
  cases t with
  | declared n args => exact Graph.Arrows.reaches_congr hnext n target
  | _ => rfl

/-- The models of two orders of one manifest have the same answers. -/
lemma model_agrees (h : m.Reordered m') (hm : fault? m = none) :
    (unchecked m).model.Agrees (unchecked m').model := by
  have hm' := fault?_reordered h hm
  have hwf := (wellFormed_of_ofManifest (ofManifest_of_fault?_eq_none hm)).2
  have hwf' := (wellFormed_of_ofManifest (ofManifest_of_fault?_eq_none hm')).2
  have nodup : (m.types.map (·.qualifiedName)).Nodup := hwf.nodup
  have hlookup := lookup_reordered h nodup
  have hfields : ∀ n, (unchecked m).model.markedFields.filter (fun f => f.enclosing = n) =
      (unchecked m').model.markedFields.filter (fun f => f.enclosing = n) := by
    intro n
    by_cases hn : n ∈ m.types.map (·.qualifiedName)
    · obtain ⟨d, hd, rfl⟩ := List.mem_map.mp hn
      obtain ⟨d', hd', hreordered⟩ := h.exists_reordered hd
      rw [hwf.filter_markedFields hd, hreordered.qualifiedName, hwf'.filter_markedFields hd']
      exact hreordered.apply_eq markedFieldsOf fun _ _ => rfl
    · have hn' : n ∉ m'.types.map (·.qualifiedName) := fun hmem =>
        hn (h.names_perm.mem_iff.mpr hmem)
      rw [filter_markedFields_undeclared hn, filter_markedFields_undeclared hn']
  exact {
    fields := hfields
    element := funext fun n => TypeDecl.Reordered.map_eq (hlookup n) _ fun _ _ => rfl
    package := funext (packageOf_reordered h nodup)
    superclass := superclassLinks_next_reordered h nodup
    isAssignable := funext fun t => funext (isAssignable_reordered h nodup t)
    declaresMarked := funext fun n => congrArg (Option.getD · false)
      (TypeDecl.Reordered.map_eq (hlookup n) TypeDecl.isMarked fun _ _ => rfl) }

end Catalog

namespace Round

/-- The order in which a manifest declares its types, and in which these list their interfaces, has
no part in its acceptance, in the report of a round or the reason why it fails, and in what is
published; what is reported on the way is the same up to its order. -/
theorem intoStore_reordered {m m' : Manifest} (h : m.Reordered m') (config : Config) :
    ((∃ c, Catalog.ofManifest m = .ok c) ↔ ∃ c, Catalog.ofManifest m' = .ok c) ∧
    ∀ c c', Catalog.ofManifest m = .ok c → Catalog.ofManifest m' = .ok c' →
      (intoStore c.model config).1.result = (intoStore c'.model config).1.result ∧
      (intoStore c.model config).2 = (intoStore c'.model config).2 ∧
      (intoStore c.model config).1.diagnostics.Perm
        (intoStore c'.model config).1.diagnostics := by
  refine ⟨⟨Catalog.exists_ofManifest_reordered h, Catalog.exists_ofManifest_reordered h.symm⟩, ?_⟩
  intro c c' hc hc'
  have acyclic := (Catalog.wellFormed_of_ofManifest hc).2.acyclic
  obtain ⟨rfl, hm⟩ := Catalog.ofManifest_ok hc
  obtain ⟨rfl, -⟩ := Catalog.ofManifest_ok hc'
  exact (Catalog.model_agrees h hm).intoStore config acyclic

/-- A class of the package `p` with interfaces. -/
def shelfClass (name : Text) (superclass : Option QName) (interfaces : List QName)
    (fields : List FieldDecl) : TypeDecl :=
  { Ancestry.sampleClass name superclass [] with
    interfaces := interfaces.map (.declared · [])
    fields := fields }

/-- A class that is serializable through one of its interfaces. -/
def shelfItem (interfaces : List QName) : TypeDecl :=
  shelfClass "Item" none interfaces []

/-- A type that is serializable itself. -/
def shelfTag : TypeDecl :=
  shelfClass "Tag" none ["java.io.Serializable"] []

/-- A class with a field of type `p.Item`, and one of a type that cannot be stored. -/
def shelfBox : TypeDecl :=
  shelfClass "Box" (some "p.Base") []
    [{ name := "item", type := .declared "p.Item" [], modifiers := .empty, marked := true },
      { name := "odd", type := .declared "java.lang.Object" [], modifiers := .empty
        marked := true }]

/-- A class whose only marked field is static. -/
def shelfBase : TypeDecl :=
  shelfClass "Base" none []
    [{ name := "shared", type := .primitive .int, modifiers := .ofList [.static], marked := true }]

/-- A manifest in one order. -/
def shelf : Manifest where
  usesPlatform := true
  types := [shelfItem ["p.Tag", "java.lang.Cloneable"], shelfTag, shelfBox, shelfBase]

/-- The manifest `shelf` in another order. -/
def turnedShelf : Manifest where
  usesPlatform := true
  types := [shelfBase, shelfBox, shelfTag, shelfItem ["java.lang.Cloneable", "p.Tag"]]

/-- The report on either of them. -/
def shelfReport : Report where
  artifacts :=
    [⟨"p.Base$$Stash", "p.Base", .plain, "stash.Stash.Object", [], ["shared"]⟩,
      ⟨"p.Box$$Stash", "p.Box", .plain, "p.Base$$Stash", ["item"], ["odd"]⟩]
  errorCount := 2
  inspectedTypes := 1

theorem turnedShelf_report :
    shelf.Reordered turnedShelf ∧
      (∃ c, Catalog.ofManifest turnedShelf = .ok c) ∧
      (intoStore (Catalog.unchecked turnedShelf).model {}).1.result = .ok shelfReport := by
  have hitem : (shelfItem ["p.Tag", "java.lang.Cloneable"]).Reordered
      (shelfItem ["java.lang.Cloneable", "p.Tag"]) := ⟨rfl, .swap _ _ _⟩
  have hperm : shelf.types.Perm
      [shelfBase, shelfBox, shelfTag, shelfItem ["p.Tag", "java.lang.Cloneable"]] := by
    decide +kernel
  have h : shelf.Reordered turnedShelf :=
    ⟨rfl, _, hperm, .cons (.refl _) (.cons (.refl _) (.cons (.refl _) (.cons hitem .nil)))⟩
  have hc : Catalog.ofManifest shelf = .ok (Catalog.unchecked shelf) :=
    Catalog.ofManifest_of_fault?_eq_none (by decide +kernel)
  have hr : (intoStore (Catalog.unchecked shelf).model {}).1.result = .ok shelfReport := by
    rw [intoStore_of_nodup (by decide +kernel)]
    decide +kernel
  obtain ⟨haccepted, hrounds⟩ := intoStore_reordered h {}
  obtain ⟨c', hc'⟩ := haccepted.mp ⟨_, hc⟩
  have hresult := (hrounds _ _ hc hc').1
  obtain ⟨rfl, -⟩ := Catalog.ofManifest_ok hc'
  exact ⟨h, ⟨_, hc'⟩, hresult ▸ hr⟩

end Round

end Companion
