import Companion.Proofs.Naming
import Companion.Proofs.Path

/-!
# Paths of sources

A source lies below the root of the output, one directory down for each part of its package. Its
file name has a dot, and no directory of a package has one, so no source lies where another one has
a directory; and the names along the path tell the name of the artifact.
-/

namespace Companion

namespace Text

lemma splitLast_of_notMem {sep : Char} {t : Text} (h : sep ∉ t) : t.splitLast sep = none := by
  induction t with
  | nil => rfl
  | cons c cs ih =>
    rw [List.mem_cons, not_or] at h
    rw [splitLast, ih h.2]
    exact if_neg (Ne.symm h.1)

lemma splitLast_append {sep : Char} (t : Text) {u : Text} (h : sep ∉ u) :
    (t ++ sep :: u).splitLast sep = some (t, u) := by
  induction t with
  | nil =>
    rw [List.nil_append, splitLast, splitLast_of_notMem h]
    exact if_pos rfl
  | cons c cs ih => rw [List.cons_append, splitLast, ih]

end Text

namespace QName

lemma qualifier_child (n : QName) {s : Text} (h : '.' ∉ s) : (n.child s).qualifier = n.text := by
  by_cases hn : n.text = []
  · rw [child_nil hn, qualifier, Text.splitLast_of_notMem h, hn]
  · rw [child_of_ne_nil hn, qualifier, Text.splitLast_append _ h]

lemma simpleName_child (n : QName) {s : Text} (h : '.' ∉ s) : (n.child s).simpleName = s := by
  by_cases hn : n.text = []
  · rw [child_nil hn, simpleName, Text.splitLast_of_notMem h]
  · rw [child_of_ne_nil hn, simpleName, Text.splitLast_append _ h]

/-- A name whose source lies in directories named like identifiers, and has the rest of the name for
its file name. -/
structure IsLocated (n : QName) (directories : List Text) (file : Text) : Prop where
  name : n = child ⟨List.intercalate ['.'] directories⟩ file
  directories : ∀ directory ∈ directories, Identifier.isValid directory = true
  dot : '.' ∉ file
  slash : '/' ∉ file

/-- A name whose source has a file name of its own in directories named like identifiers. -/
structure IsFiled (n : QName) (directories : List Text) (file : Text) : Prop where
  name : n = child ⟨List.intercalate ['.'] directories⟩ file
  directories : ∀ directory ∈ directories, Identifier.isValid directory = true
  ne_nil : file ≠ []
  parts : ∀ c ∈ file, Identifier.isPart c = true

end QName

namespace Identifier

lemma isSegment {t : Text} (h : isValid t = true) : Path.IsSegment t where
  ne_nil := ne_nil_of_isValid h
  slash hmem := by
    have := isPart_of_mem h hmem
    exact absurd this (by decide)

end Identifier

namespace QName

namespace IsLocated

variable {n : QName} {directories : List Text} {file : Text} (h : n.IsLocated directories file)
include h

lemma isSegment_file : Path.IsSegment (file ++ ".java") where
  ne_nil := by simp
  slash := by simpa using h.slash

lemma qualifier_eq : n.qualifier = List.intercalate ['.'] directories := by
  rw [h.name, qualifier_child _ h.dot]

lemma simpleName_eq : n.simpleName = file := by
  rw [h.name, simpleName_child _ h.dot]

lemma split_qualifier : (Text.split '.' n.qualifier).filter (· ≠ []) = directories := by
  rw [h.qualifier_eq]
  cases hds : directories with
  | nil => rfl
  | cons directory rest =>
    rw [← hds, Text.split_intercalate
      (fun piece hpiece => Identifier.dot_notMem_of_isValid (h.directories piece hpiece)) (by simp [hds]),
      List.filter_eq_self.mpr]
    intro piece hpiece
    simpa using Identifier.ne_nil_of_isValid (h.directories piece hpiece)

lemma source_eq (root : Path) :
    Path.source root n = (directories.foldl Path.push root).push (file ++ ".java") := by
  rw [Path.source, h.split_qualifier, h.simpleName_eq]

lemma isSegment_of_mem {directory : Text} (hd : directory ∈ directories) :
    Path.IsSegment directory :=
  Identifier.isSegment (h.directories directory hd)

lemma names_source (root : Path) :
    (Path.source root n).names = root.names ++ (directories ++ [file ++ ".java"]) := by
  rw [h.source_eq, Path.names_push h.isSegment_file,
    Path.names_foldl_push fun _ => h.isSegment_of_mem, List.append_assoc]

lemma names_sourcePath : n.sourcePath.names = directories ++ [file ++ ".java"] :=
  h.names_source ⟨[]⟩

lemma mem_names_of_mem_directories {directory : Text} (hd : directory ∈ directories) :
    directory ∈ n.sourcePath.names := by
  rw [h.names_sourcePath]
  exact List.mem_append_left _ hd

lemma file_mem_names : file ++ ".java" ∈ n.sourcePath.names := by
  rw [h.names_sourcePath]
  exact List.mem_append_right _ (List.mem_singleton_self _)

lemma isAbsolute_source (root : Path) : (Path.source root n).isAbsolute = root.isAbsolute := by
  rw [h.source_eq, Path.isAbsolute_push h.isSegment_file,
    Path.isAbsolute_foldl_push fun _ => h.isSegment_of_mem]

lemma ne_dot_of_mem {directory : Text} (hd : directory ∈ directories) : directory ≠ ['.'] := by
  rintro rfl
  exact Identifier.dot_notMem_of_isValid (h.directories _ hd) (by simp)

lemma directories_filter : (directories.filter fun name => name ≠ ['.']) = directories := by
  refine List.filter_eq_self.mpr ?_
  intro directory hd
  simpa using h.ne_dot_of_mem hd

/-- The directory of a source is below the root of the output. -/
lemma source_parent (root : Path) :
    (Path.source root n).parent.steps = root.steps ++ directories ∧
      (Path.source root n).parent.isAbsolute = root.isAbsolute ∧
      (Path.source root n).parent.text <+: (Path.source root n).text ∧
      (root.text ≠ [] → (Path.source root n).parent.text ≠ []) := by
  have hdot : file ++ ".java" ≠ ['.'] := by
    intro heq
    have hlength := congrArg List.length heq
    simp at hlength
  have hbelow := Path.push_isBelow h.isSegment_file hdot (directories.foldl Path.push root)
  rw [h.source_eq]
  refine ⟨?_, ?_, hbelow.text, ?_⟩
  · rw [hbelow.steps, ← Path.names_filter, ← Path.names_filter,
      Path.names_foldl_push fun _ => h.isSegment_of_mem, List.filter_append, h.directories_filter]
  · rw [hbelow.absolute, Path.isAbsolute_foldl_push fun _ => h.isSegment_of_mem]
  · intro hne
    exact hbelow.ne_nil (Path.text_foldl_push_ne_nil (fun _ => h.isSegment_of_mem) hne)

lemma notMem_directories {name : Text} (hname : '.' ∈ name) : name ∉ directories :=
  fun hmem => Identifier.dot_notMem_of_isValid (h.directories name hmem) hname

lemma exists_text_source (root : Path) : ∃ before, (Path.source root n).text =
    before ++ (file ++ ".java") ∧
      ∀ c ∈ before, c = '/' ∨ c ∈ root.text ∨ ∃ directory ∈ directories, c ∈ directory := by
  obtain ⟨before, htext, hbefore⟩ :=
    Path.exists_text_push h.isSegment_file (directories.foldl Path.push root)
  refine ⟨before, h.source_eq root ▸ htext, ?_⟩
  intro c hc
  rcases hbefore c hc with rfl | hc
  · exact .inl rfl
  · exact Path.mem_foldl_push (fun _ => h.isSegment_of_mem) hc

/-- The source of a name is looked up as a file. -/
lemma endsInSlash_source (root : Path) : (Path.source root n).endsInSlash = false := by
  obtain ⟨before, htext, -⟩ := h.exists_text_source root
  rw [Path.endsInSlash, htext, ← List.append_assoc, List.getLast?_append]
  rfl

lemma text_source_ne_nil (root : Path) : (Path.source root n).text ≠ [] := by
  obtain ⟨before, htext, -⟩ := h.exists_text_source root
  simp [htext]

/-- The names along the path of its source tell a name. -/
lemma eq_of_names_eq {n' : QName} {directories' : List Text} {file' : Text}
    (h' : n'.IsLocated directories' file') (heq : n.sourcePath.names = n'.sourcePath.names) :
    n = n' := by
  rw [h.names_sourcePath, h'.names_sourcePath] at heq
  obtain ⟨hdirectories, hlast⟩ := List.append_inj' heq rfl
  have hfile : file = file' := List.append_cancel_right (List.cons.inj hlast).1
  rw [h.name, h'.name, hdirectories, hfile]

end IsLocated

namespace IsFiled

variable {n : QName} {directories : List Text} {file : Text} (h : n.IsFiled directories file)
include h

lemma notMem_file {c : Char} (hc : Identifier.isPart c = false) : c ∉ file := by
  intro hmem
  rw [h.parts c hmem] at hc
  cases hc

lemma isLocated : n.IsLocated directories file where
  name := h.name
  directories := h.directories
  dot := h.notMem_file Identifier.isPart_dot
  slash := h.notMem_file (by decide)

lemma hasNul_source {root : Path} (hroot : root.hasNul = false) :
    (Path.source root n).hasNul = false ∧ (Path.source root n).parent.hasNul = false := by
  have hnul : Identifier.isPart '\x00' = false := by
    decide
  have hsource : '\x00' ∉ (Path.source root n).text := by
    obtain ⟨before, htext, hbefore⟩ := h.isLocated.exists_text_source root
    rw [htext, List.mem_append, List.mem_append, not_or, not_or]
    refine ⟨?_, h.notMem_file hnul, by decide⟩
    intro hmem
    rcases hbefore _ hmem with hslash | hmem | ⟨directory, hd, hmem⟩
    · cases hslash
    · rw [Path.hasNul, decide_eq_false_iff_not] at hroot
      exact hroot hmem
    · rw [Identifier.isPart_of_mem (h.directories directory hd) hmem] at hnul
      cases hnul
  have hbegins := (h.isLocated.source_parent root).2.2.1
  simp only [Path.hasNul, decide_eq_false_iff_not]
  exact ⟨hsource, fun hmem => hsource (hbegins.subset hmem)⟩

end IsFiled

end QName

namespace Catalog

variable {c : Catalog}

lemma package_valid {d : TypeDecl} (h : nameFault? d = none) (hne : d.package ≠ []) :
    (Text.split '.' d.package).all Identifier.isValid = true := by
  rw [nameFault?] at h
  split at h
  · cases h
  · next hpackage =>
    by_contra hnot
    exact hpackage ⟨hne, hnot⟩

lemma platform_package :
    ∀ d ∈ Platform.types, (Text.split '.' d.package).all Identifier.isValid = true := by
  decide +kernel

namespace WellFormed

variable (h : c.WellFormed)
include h

/-- The package of a type has identifiers between its dots. -/
lemma exists_packageOf_eq (n : QName) : ∃ directories : List Text,
    c.packageOf n = List.intercalate ['.'] directories ∧
      ∀ directory ∈ directories, Identifier.isValid directory = true := by
  rw [packageOf, Graph.Links.findFrom_nil]
  cases hfound : (c.enclosingLinks.path n).findSome? c.ownPackage? with
  | none => exact ⟨[], rfl, by simp⟩
  | some package =>
    obtain ⟨x, -, hx⟩ := List.exists_of_findSome?_eq_some hfound
    rw [ownPackage?] at hx
    cases hl : c.lookup x with
    | none => simp [hl] at hx
    | some d =>
      simp only [hl, Option.ite_none_left_eq_some, Option.some.injEq] at hx
      obtain ⟨hne, rfl⟩ := hx
      refine ⟨d.package.split '.', (Text.intercalate_split '.' d.package).symm, ?_⟩
      rw [← List.all_eq_true]
      obtain ⟨-, hd | hd⟩ := lookup_some hl
      · exact package_valid (h.names d hd) hne
      · exact platform_package d (h.platform d hd)

/-- What the names of nested types are joined to can be part of an identifier. -/
lemma flattenedName_parts {n : QName} {d : TypeDecl} (hl : c.lookup n = some d) :
    (Identity.of c.model n).flattenedName ≠ [] ∧
      ∀ x ∈ (Identity.of c.model n).flattenedName, Identifier.isPart x = true := by
  rw [h.flattenedName_eq hl]
  refine h.induction_on_enclosing
    (P := fun n _ => List.intercalate ['$'] (c.nestedNames n) ≠ [] ∧
      ∀ x ∈ List.intercalate ['$'] (c.nestedNames n), Identifier.isPart x = true) ?_ ?_ hl
  · intro n d hl ho
    have hvalid := h.name_valid hl
    rw [nestedNames_of_top hl ho, List.intercalate_singleton]
    exact ⟨Identifier.ne_nil_of_isValid hvalid, fun x => Identifier.isPart_of_mem hvalid⟩
  · intro n d outer e hl ho he ih
    rw [h.nestedNames_of_nested hl ho,
      Text.intercalate_append_singleton '$' d.name (h.nestedNames_ne_nil he)]
    refine ⟨by simp, ?_⟩
    intro x hx
    rcases List.mem_append.mp hx with hx | hx
    · exact ih.2 x hx
    · rcases List.mem_cons.mp hx with rfl | hx
      · decide
      · exact Identifier.isPart_of_mem (h.name_valid hl) hx

lemma slash_notMem_flattenedName {n : QName} {d : TypeDecl} (hl : c.lookup n = some d) :
    '/' ∉ (Identity.of c.model n).flattenedName := by
  intro hmem
  exact absurd ((h.flattenedName_parts hl).2 '/' hmem) (by decide)

/-- With a suffix that has neither dot nor slash, the source of an artifact lies in the directories of
its package. -/
lemma artifact_isLocated {n : QName} {d : TypeDecl} (hl : c.lookup n = some d) {suffix : Text}
    (hdot : '.' ∉ suffix) (hslash : '/' ∉ suffix) :
    ∃ directories, (Identity.of c.model n).package = List.intercalate ['.'] directories ∧
      ((Identity.of c.model n).artifactName suffix).IsLocated directories
        ((Identity.of c.model n).flattenedName ++ suffix) := by
  obtain ⟨directories, hpackage, hdirectories⟩ := h.exists_packageOf_eq n
  rw [← package_eq hl] at hpackage
  refine ⟨directories, hpackage, ?_, hdirectories, ?_, ?_⟩
  · rw [Identity.artifactName, hpackage]
  · rw [List.mem_append, not_or]
    exact ⟨h.dot_notMem_flattenedName hl, hdot⟩
  · rw [List.mem_append, not_or]
    exact ⟨h.slash_notMem_flattenedName hl, hslash⟩

/-- With a suffix of characters that identifiers have, artifacts have sources of their own. -/
lemma artifact_isFiled {n : QName} {d : TypeDecl} (hl : c.lookup n = some d) {suffix : Text}
    (hsuffix : suffix.all Identifier.isPart = true) :
    ∃ directories file, ((Identity.of c.model n).artifactName suffix).IsFiled directories file := by
  obtain ⟨directories, hpackage, hdirectories⟩ := h.exists_packageOf_eq n
  obtain ⟨hne, hparts⟩ := h.flattenedName_parts hl
  refine ⟨directories, (Identity.of c.model n).flattenedName ++ suffix, ?_, hdirectories,
    by simp [hne], ?_⟩
  · rw [Identity.artifactName, package_eq hl, hpackage]
  · intro x hx
    rcases List.mem_append.mp hx with hx | hx
    · exact hparts x hx
    · exact List.all_eq_true.mp hsuffix x hx

end WellFormed

end Catalog

end Companion
