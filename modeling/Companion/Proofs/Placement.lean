import Companion.Proofs.Directory
import Companion.Proofs.Round

/-!
# Where sources are placed

A source belongs into a file named after its class, one directory down from the root of the output
for each part of the package that it names. The name of an artifact is taken apart at its dots again
to find the file, so a suffix with a dot or a slash leads elsewhere. With any other suffix a round
touches no file but those of its sources, whether it succeeds or not.
-/

namespace Companion

namespace Text

lemma notMem_of_splitLast {sep : Char} {t : Text} (h : t.splitLast sep = none) : sep ∉ t := by
  induction t with
  | nil => exact List.not_mem_nil
  | cons c cs ih =>
    rw [splitLast] at h
    cases hcs : splitLast sep cs with
    | some found => simp [hcs] at h
    | none =>
      have hne : c ≠ sep := by simpa [hcs] using h
      intro hmem
      rcases List.mem_cons.mp hmem with heq | hmem
      · exact hne heq.symm
      · exact ih hcs hmem

/-- What follows the last separator stands at the end and has none. -/
lemma of_splitLast {sep : Char} {t before after : Text}
    (h : t.splitLast sep = some (before, after)) : t = before ++ sep :: after ∧ sep ∉ after := by
  induction t generalizing before with
  | nil => cases h
  | cons c cs ih =>
    rw [splitLast] at h
    cases hcs : splitLast sep cs with
    | some found =>
      rw [hcs] at h
      obtain ⟨rfl, rfl⟩ := Prod.mk.inj (Option.some.inj h)
      obtain ⟨heq, hafter⟩ := ih hcs
      exact ⟨congrArg (c :: ·) heq, hafter⟩
    | none =>
      rw [hcs] at h
      dsimp only at h
      split at h
      next hsep =>
        obtain ⟨rfl, rfl⟩ := Prod.mk.inj (Option.some.inj h)
        exact ⟨congrArg (· :: cs) hsep, notMem_of_splitLast hcs⟩
      next => cases h

end Text

namespace QName

/-- A simple name stands at the end and has no dot. -/
lemma simpleName_spec (n : QName) : n.simpleName <:+ n.text ∧ '.' ∉ n.simpleName := by
  rw [simpleName]
  cases hsplit : n.text.splitLast '.' with
  | none => exact ⟨List.suffix_rfl, Text.notMem_of_splitLast hsplit⟩
  | some found =>
    obtain ⟨htext, hdot⟩ := Text.of_splitLast hsplit
    exact ⟨⟨found.1 ++ ['.'], by simp [htext]⟩, hdot⟩

/-- The simple name of a member is the end of what the member adds. -/
lemma simpleName_child_suffix (n : QName) (s : Text) : (n.child s).simpleName <:+ s := by
  obtain ⟨hsuffix, hdot⟩ := (n.child s).simpleName_spec
  by_cases hn : n.text = []
  · rw [child_nil hn] at hsuffix ⊢
    exact hsuffix
  · have hdotted : '.' :: s <:+ (n.child s).text := by
      rw [child_of_ne_nil hn]
      exact List.suffix_append n.text _
    rcases List.suffix_or_suffix_of_suffix hsuffix hdotted with hshort | hlong
    · rcases List.suffix_cons_iff.mp hshort with heq | hshort
      · exact absurd (by simp [heq]) hdot
      · exact hshort
    · exact absurd (hlong.subset List.mem_cons_self) hdot

end QName

namespace FileTree

/-- The second tree has the files of the first one, except for some places. -/
structure Differs (t t' : FileTree) (places : List Location) : Prop where
  home : t'.home = t.home
  files : ∀ x, x ∉ places → t'.file? x = t.file? x

namespace Differs

variable {t t' t'' : FileTree} {places places' : List Location}

lemma refl (t : FileTree) (places : List Location) : t.Differs t places :=
  ⟨rfl, fun _ _ => rfl⟩

lemma trans (h : t.Differs t' places) (h' : t'.Differs t'' places') :
    t.Differs t'' (places ++ places') where
  home := h'.home.trans h.home
  files x hx := by
    rw [List.mem_append, not_or] at hx
    exact (h'.files x hx.2).trans (h.files x hx.1)

lemma mono (h : t.Differs t' places) (hsub : places ⊆ places') : t.Differs t' places' :=
  ⟨h.home, fun x hx => h.files x fun hmem => hx (hsub hmem)⟩

end Differs

lemma Filed.differs {t t' : FileTree} {place : Location} {content : Bytes}
    (h : Filed t t' place content) : t.Differs t' [place] where
  home := h.home
  files x hx := by
    rw [h.files, if_neg (by simpa using hx)]

variable {t t' : FileTree} {p : Path}

/-- Making directories touches no file, even where it fails on the way. -/
lemma makeDirectoriesFrom_differs (t : FileTree) (place : Location) (made : Bool)
    (names : List Text) : t.Differs (t.makeDirectoriesFrom place made names).2 [] := by
  induction place, names using names_induction generalizing t made with
  | nil place => exact .refl t []
  | dot place names ih => exact ih t made
  | dots place names ih => exact ih t made
  | cons place name names hname ih =>
    rw [makeDirectoriesFrom, if_neg hname.1, if_neg hname.2]
    split
    · exact .refl t []
    · split
      next hnode =>
        have hput : t.Differs (t.put (place ++ [name]) .directory) [] :=
          ⟨rfl, fun x _ => file?_put_directory hnode x⟩
        exact hput.trans (ih _ true)
      next => exact ih t made
      next => exact .refl t []

lemma makeDirectories_differs (p : Path) (t : FileTree) :
    t.Differs ((system.makeDirectories p).run t).2 [] := by
  rw [makeDirectories_run]
  split
  · exact .refl t []
  · rw [makeDirectories]
    split
    · exact .refl t []
    · exact makeDirectoriesFrom_differs t _ _ _

lemma openDraft_differs (p : Path) (t : FileTree) :
    t.Differs ((system.openDraft p).run t).2 [] := by
  rcases h : (system.openDraft p).run t with ⟨fault | d, t'⟩
  · rw [openDraft_run_error h]
    exact .refl t []
  · obtain ⟨-, rfl⟩ := openDraft_run_ok h
    exact ⟨rfl, fun _ _ => rfl⟩

/-- Publishing a draft touches no file but the one at its path. -/
lemma publish_differs (d : Draft) (p : Path) (t : FileTree) :
    t.Differs ((system.publish d p).run t).2 [t.placeOf p] := by
  rcases h : (system.publish d p).run t with ⟨fault | _, t'⟩
  · rw [publish_run_error h]
    exact ⟨rfl, fun _ _ => rfl⟩
  · exact (publish_run_ok h).differs

end FileTree

namespace Directory

open FileTree

variable {config : Config} {root : Path}

lemma openSink_differs (root : Path) (n : QName) (t : FileTree) :
    t.Differs ((openSink system root n).run t).2 [] := by
  have hmake := makeDirectories_differs (Path.source root n).parent t
  rw [openSink_run]
  generalize (system.makeDirectories (Path.source root n).parent).run t = made at hmake ⊢
  obtain ⟨fault | _, t₁⟩ := made
  · exact hmake
  · have hdraft := openDraft_differs (Path.source root n).parent t₁
    dsimp only
    generalize (system.openDraft (Path.source root n).parent).run t₁ = opened at hdraft ⊢
    obtain ⟨fault | d, t₂⟩ := opened
    · exact hmake.trans hdraft
    · exact hmake.trans hdraft

lemma commit_differs (root : Path) (sink : Sink Draft) (t : FileTree) :
    t.Differs (((publisher system root).commit sink).run t).2 [t.placeOf sink.path] := by
  have hpublish := publish_differs sink.draft sink.path t
  rw [commit_run]
  generalize (system.publish sink.draft sink.path).run t = published at hpublish ⊢
  obtain ⟨fault | _, t₁⟩ := published
  · exact hpublish
  · exact hpublish

/-- Publishing an artifact touches no file but its own. -/
lemma emit_differs (config : Config) (root : Path) (g : Group) (t : FileTree) :
    t.Differs ((g.emit (publisher system root) config).run t).2
      [t.placeOf (Path.source root g.info.artifact)] := by
  have hopen := openSink_differs root g.info.artifact t
  rw [emit_run]
  rcases hsink : (openSink system root g.info.artifact).run t with ⟨e | sink, t₁⟩
  · rw [hsink] at hopen
    exact hopen.mono (List.nil_subset _)
  · rw [hsink] at hopen
    have hpath : (extended sink (Utf8.encode (g.source config))).path =
        Path.source root g.info.artifact := (openSink_ok hsink).1
    have hcommit := commit_differs root (extended sink (Utf8.encode (g.source config))) t₁
    rw [hpath, placeOf_congr hopen.home] at hcommit
    dsimp only
    generalize ((publisher system root).commit
      (extended sink (Utf8.encode (g.source config)))).run t₁ = committed at hcommit ⊢
    obtain ⟨e | _, t₂⟩ := committed
    · exact hopen.trans hcommit
    · exact hopen.trans hcommit

/-- Publishing artifacts touches no files but their own, also where it stops at one of them. -/
lemma emitAll_differs (config : Config) (root : Path) (gs : List Group) (t : FileTree) :
    t.Differs ((Group.emitAll (publisher system root) config gs).run t).2
      (gs.map fun g => t.placeOf (Path.source root g.info.artifact)) := by
  induction gs generalizing t with
  | nil => exact .refl t _
  | cons g gs ih =>
    have hemit := emit_differs config root g t
    rw [Group.emitAll_cons_run]
    generalize (g.emit (publisher system root) config).run t = emitted at hemit ⊢
    obtain ⟨e | variant, t₁⟩ := emitted
    · exact hemit.mono (List.cons_subset_cons _ (List.nil_subset _))
    · have hrest := ih t₁
      have hplaces : (gs.map fun g => t₁.placeOf (Path.source root g.info.artifact)) =
          gs.map fun g => t.placeOf (Path.source root g.info.artifact) :=
        List.map_congr_left fun g _ => placeOf_congr hemit.home _
      rw [hplaces] at hrest
      dsimp only
      generalize (Group.emitAll (publisher system root) config gs).run t₁ = emitted at hrest ⊢
      obtain ⟨e | rest, t₂⟩ := emitted
      · exact hemit.trans hrest
      · exact hemit.trans hrest

end Directory

namespace Group

/-- The names from the root of the output down to the file of a source: a directory for each part of
the package, and a file named after the class. -/
def placement (config : Config) (g : Group) : List Text :=
  (Text.split '.' g.info.package).filter (· ≠ []) ++
    [g.info.flattenedName ++ config.artifactSuffix ++ ".java"]

/-- A source declares the class of its artifact in the package of its type, and lies where they
lead. -/
structure IsPlaced (config : Config) (root : Path) (g : Group) : Prop where
  source : ∃ rest, g.source config = g.packageLine ++ "public class " ++
    (g.info.flattenedName ++ config.artifactSuffix) ++ "<T extends " ++ rest
  names : (Path.source root g.info.artifact).names = root.names ++ g.placement config
  absolute : (Path.source root g.info.artifact).isAbsolute = root.isAbsolute

end Group

namespace Round

variable {c : Catalog} {config : Config} {g : Group}

lemma isLocated_artifact (h : c.WellFormed) (hg : g ∈ groups c.model config)
    (hdot : '.' ∉ config.artifactSuffix) (hslash : '/' ∉ config.artifactSuffix) :
    ∃ directories, directories = (Text.split '.' g.info.package).filter (· ≠ []) ∧
      g.info.artifact.IsLocated directories (g.info.flattenedName ++ config.artifactSuffix) := by
  obtain ⟨d, hd, -, hinfo, -⟩ := of_mem_groups h hg
  rw [hinfo]
  obtain ⟨directories, hpackage, hlocated⟩ :=
    h.artifact_isLocated (h.lookup_declared hd) hdot hslash
  refine ⟨directories, ?_, hlocated⟩
  rw [← hlocated.split_qualifier, hlocated.qualifier_eq, ← hpackage]
  rfl

lemma isPlaced_of_suffix (h : c.WellFormed) (hg : g ∈ groups c.model config)
    (hdot : '.' ∉ config.artifactSuffix) (hslash : '/' ∉ config.artifactSuffix) (root : Path) :
    g.IsPlaced config root := by
  obtain ⟨directories, hdirectories, hlocated⟩ := isLocated_artifact h hg hdot hslash
  refine ⟨?_, ?_, hlocated.isAbsolute_source root⟩
  · rw [Group.source, Group.header, hlocated.simpleName_eq]
    simp only [List.append_assoc]
    exact ⟨_, rfl⟩
  · rw [hlocated.names_source, hdirectories]
    rfl

/-- A file name has no slash, and what it is made of has no dot. -/
lemma suffix_of_isPlaced (h : c.WellFormed) (hg : g ∈ groups c.model config) {root : Path}
    (hplaced : g.IsPlaced config root) :
    '.' ∉ config.artifactSuffix ∧ '/' ∉ config.artifactSuffix := by
  obtain ⟨d, hd, -, hinfo, -⟩ := of_mem_groups h hg
  have hlast : g.info.flattenedName ++ config.artifactSuffix ++ ".java" ∈
      (Path.source root g.info.artifact).names := by
    rw [hplaced.names, Group.placement]
    simp
  have hslash : '/' ∉ g.info.flattenedName ++ config.artifactSuffix ++ ".java" :=
    Text.notMem_of_mem_split (List.mem_filter.mp hlast).1
  have hsuffix : g.info.artifact.simpleName <:+ g.info.flattenedName ++ config.artifactSuffix := by
    rw [hinfo]
    exact QName.simpleName_child_suffix _ _
  have hsegment : Path.IsSegment (g.info.artifact.simpleName ++ ".java") := by
    refine ⟨by simp, ?_⟩
    intro hmem
    rcases List.mem_append.mp hmem with hmem | hmem
    · exact hslash (List.mem_append_left _ (hsuffix.subset hmem))
    · exact absurd hmem (by decide)
  -- The file is named after the simple name, so the simple name is all of what has to be there.
  have hnames := hplaced.names
  rw [Path.source, Path.names_push hsegment, Group.placement, ← List.append_assoc] at hnames
  obtain ⟨-, hfile⟩ := List.append_inj' hnames rfl
  have hname : g.info.artifact.simpleName = g.info.flattenedName ++ config.artifactSuffix :=
    List.append_cancel_right (List.cons.inj hfile).1
  constructor
  · intro hdot
    apply g.info.artifact.simpleName_spec.2
    rw [hname]
    exact List.mem_append_right _ hdot
  · intro hmem
    exact hslash (List.mem_append_left _ (List.mem_append_right _ hmem))

/-- Where the artifacts of groups lie if their suffix has neither dot nor slash. -/
lemma placeOf_source_eq (h : c.WellFormed) (hg : g ∈ groups c.model config)
    (hdot : '.' ∉ config.artifactSuffix) (hslash : '/' ∉ config.artifactSuffix) (root : Path)
    (t : FileTree) : t.placeOf (Path.source root g.info.artifact) =
      t.placeOf root ++ g.placement config := by
  obtain ⟨directories, hdirectories, hlocated⟩ := isLocated_artifact h hg hdot hslash
  rw [Directory.placeOf_source hlocated, hlocated.names_sourcePath, hdirectories]
  rfl

/-- The sources of a round are placed as their packages and classes are named if and only if the
suffix has neither dot nor slash. Then a round, whether it succeeds or not, touches no file but
those below the root that its sources are placed in. -/
theorem isPlaced_iff {manifest : Manifest} (hc : Catalog.ofManifest manifest = .ok c)
    (config : Config) (root : Path) :
    (∀ g ∈ groups c.model config, g.IsPlaced config root ↔
        '.' ∉ config.artifactSuffix ∧ '/' ∉ config.artifactSuffix) ∧
      ('.' ∉ config.artifactSuffix → '/' ∉ config.artifactSuffix → ∀ (t : FileTree) x,
        ((run (Directory.publisher FileTree.system root) c.model config).run t).2.file? x ≠
            t.file? x →
          ∃ g ∈ groups c.model config, x = t.placeOf root ++ g.placement config) := by
  have h := (Catalog.wellFormed_of_ofManifest hc).2
  refine ⟨?_, ?_⟩
  · intro g hg
    constructor
    · exact suffix_of_isPlaced h hg
    · rintro ⟨hdot, hslash⟩
      exact isPlaced_of_suffix h hg hdot hslash root
  · intro hdot hslash t x hx
    rw [run_run] at hx
    have hdiffers := Directory.emitAll_differs config root (groups c.model config) t
    by_contra hnone
    apply hx
    apply hdiffers.files
    intro hmem
    obtain ⟨g, hg, rfl⟩ := List.mem_map.mp hmem
    exact hnone ⟨g, hg, placeOf_source_eq h hg hdot hslash root t⟩

/-- With the default suffix each class of two lines has its file, and nothing is touched outside. -/
theorem sampleManifest_isPlaced :
    Catalog.ofManifest Ancestry.sampleManifest =
        .ok (Catalog.unchecked Ancestry.sampleManifest) ∧
      (∀ g ∈ groups (Catalog.unchecked Ancestry.sampleManifest).model {},
        g.IsPlaced {} "generated") ∧
      ∀ x, ((run (Directory.publisher FileTree.system "generated")
          (Catalog.unchecked Ancestry.sampleManifest).model {}).run .empty).2.file? x ≠
            FileTree.empty.file? x → (["home", "generated"] : Location) <+: x := by
  have hdot : '.' ∉ ({} : Config).artifactSuffix := by decide
  have hslash : '/' ∉ ({} : Config).artifactSuffix := by decide
  obtain ⟨hplaced, hfiles⟩ := isPlaced_iff Ancestry.sampleManifest_accepted {} "generated"
  refine ⟨Ancestry.sampleManifest_accepted, ?_, ?_⟩
  · intro g hg
    exact (hplaced g hg).mpr ⟨hdot, hslash⟩
  · intro x hx
    obtain ⟨g, -, rfl⟩ := hfiles hdot hslash .empty x hx
    exact List.prefix_append _ _

/-- A class with a marked field. -/
def singleManifest : Manifest where
  usesPlatform := false
  types := [Ancestry.sampleClass "A" none ["x"]]

lemma singleManifest_accepted :
    Catalog.ofManifest singleManifest = .ok (Catalog.unchecked singleManifest) :=
  Catalog.ofManifest_of_fault?_eq_none (by decide +kernel)

/-- With the suffix `./x` the source lies at the root of the tree. -/
lemma singleManifest_escapes :
    (((run (Directory.publisher FileTree.system "generated")
      (Catalog.unchecked singleManifest).model { artifactSuffix := "./x" }).run
        .empty).2.file? ["x.java"]).isSome = true := by
  decide +kernel

/-- A suffix with a dot is no fault of a configuration, yet the source does not lie where its
package and class lead, and it need not even lie below the root of the output. -/
theorem suffix_misplaces :
    (¬∀ (manifest : Manifest) (c : Catalog) (config : Config) (root : Path),
        Catalog.ofManifest manifest = .ok c → config.validate = .ok config →
          ∀ g ∈ groups c.model config, g.IsPlaced config root) ∧
      ¬∀ (manifest : Manifest) (c : Catalog) (config : Config) (root : Path) (t : FileTree) x,
        Catalog.ofManifest manifest = .ok c → config.validate = .ok config →
          ((run (Directory.publisher FileTree.system root) c.model config).run t).2.file? x ≠
              t.file? x → t.placeOf root <+: x := by
  constructor
  · intro placed
    have h := (Catalog.wellFormed_of_ofManifest singleManifest_accepted).2
    have hmarked : (Catalog.unchecked singleManifest).model.declaresMarked "p.A" = true := by
      decide +kernel
    obtain ⟨g, hg, -⟩ : ∃ g ∈ groups (Catalog.unchecked singleManifest).model
        { artifactSuffix := ".x" }, g.info = Ancestry.describe _ _ "p.A" :=
      exists_mem_groups h hmarked
    have hg' := placed _ _ { artifactSuffix := ".x" } "generated" singleManifest_accepted rfl g hg
    exact (suffix_of_isPlaced h hg hg').1 (by decide)
  · intro confined
    have hbelow := confined _ _ { artifactSuffix := "./x" } "generated" .empty ["x.java"]
      singleManifest_accepted rfl ?_
    · exact absurd hbelow (by decide)
    · intro heq
      have hescapes := singleManifest_escapes
      rw [heq] at hescapes
      exact absurd hescapes (by decide)

end Round

end Companion
