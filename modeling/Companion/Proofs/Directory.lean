import Companion.Publisher.Directory
import Companion.Proofs.Places
import Companion.Proofs.Publishing
import Companion.Proofs.Source
import Companion.Proofs.SourcePath

/-!
# Files of artifacts

Publishing into a directory puts the source of each artifact into the file that its name leads to
below the root of the output, and changes no other file. Nothing but directories of packages is made
on the way, so no file stands in the way of another one.
-/

namespace Companion

namespace FileTree

variable {t t' : FileTree} {p : Path}

lemma makeDirectories_run (p : Path) (t : FileTree) :
    (system.makeDirectories p).run t =
      if p.hasNul then (.error .nulInPath, t) else t.makeDirectories p := by
  rw [system, FileSystem.guarded]
  cases hnul : p.hasNul <;> simp [hnul] <;> rfl

lemma openDraft_run (p : Path) (t : FileTree) :
    (system.openDraft p).run t =
      if p.hasNul then (.error .nulInPath, t) else
        match t.openDraft p with
        | .ok (d, t') => (.ok d, t')
        | .error fault => (.error fault, t) := by
  rw [system, FileSystem.guarded]
  cases hnul : p.hasNul <;> simp [hnul] <;> rfl

lemma publish_run (d : Draft) (p : Path) (t : FileTree) :
    (system.publish d p).run t =
      if p.hasNul then (.error .invalidArgument, t.discard d) else t.publish d p := by
  rw [system, FileSystem.guarded]
  cases hnul : p.hasNul <;> simp [hnul] <;> rfl

lemma makeDirectories_run_ok (h : (system.makeDirectories p).run t = (.ok (), t')) :
    p.hasNul = false ∧ t.makeDirectories p = (.ok (), t') := by
  rw [makeDirectories_run] at h
  split at h
  · cases (Prod.mk.inj h).1
  next hnul => exact ⟨by simpa using hnul, h⟩

lemma openDraft_run_ok_iff {d : Draft} :
    (system.openDraft p).run t = (.ok d, t') ↔
      p.hasNul = false ∧ t.openDraft p = .ok (d, t') := by
  rw [openDraft_run]
  constructor
  · intro h
    split at h
    · cases (Prod.mk.inj h).1
    next hnul =>
      split at h
      next hopen =>
        obtain ⟨hd, rfl⟩ := Prod.mk.inj h
        obtain rfl := Except.ok.inj hd
        exact ⟨by simpa using hnul, hopen⟩
      · cases (Prod.mk.inj h).1
  · rintro ⟨hnul, hopen⟩
    rw [hnul, if_neg Bool.false_ne_true, hopen]

/-- An open draft is empty, and the tree only knows that it is open. -/
lemma openDraft_run_ok {d : Draft} (h : (system.openDraft p).run t = (.ok d, t')) :
    d.content = [] ∧ t' = { t with drafts := d.directory :: t.drafts } := by
  obtain ⟨place, -, -, rfl, rfl⟩ := openDraft_eq_ok_iff.mp (openDraft_run_ok_iff.mp h).2
  exact ⟨rfl, rfl⟩

lemma openDraft_run_error {fault : FileFault}
    (h : (system.openDraft p).run t = (.error fault, t')) : t' = t := by
  rw [openDraft_run] at h
  split at h
  · exact (Prod.mk.inj h).2.symm
  · split at h
    · cases (Prod.mk.inj h).1
    · exact (Prod.mk.inj h).2.symm

lemma publish_run_ok_iff {d : Draft} :
    (system.publish d p).run t = (.ok (), t') ↔
      p.hasNul = false ∧ (t.discard d).write p d.content = .ok t' := by
  rw [publish_run]
  constructor
  · intro h
    split at h
    · cases (Prod.mk.inj h).1
    next hnul =>
      rw [publish] at h
      split at h
      next hwrite =>
        obtain ⟨-, rfl⟩ := Prod.mk.inj h
        exact ⟨by simpa using hnul, hwrite⟩
      · cases (Prod.mk.inj h).1
  · rintro ⟨hnul, hwrite⟩
    rw [hnul, if_neg Bool.false_ne_true, publish, hwrite]

/-- A draft that is published is the file at its path. -/
lemma publish_run_ok {d : Draft} (h : (system.publish d p).run t = (.ok (), t')) :
    Filed t t' (t.placeOf p) d.content := by
  have hfiled := filed_of_write (publish_run_ok_iff.mp h).2
  exact ⟨hfiled.home, hfiled.files⟩

lemma publish_run_error {d : Draft} {fault : FileFault}
    (h : (system.publish d p).run t = (.error fault, t')) : t' = t.discard d := by
  rw [publish_run] at h
  split at h
  · exact (Prod.mk.inj h).2.symm
  · rw [publish] at h
    split at h
    · cases (Prod.mk.inj h).1
    · exact (Prod.mk.inj h).2.symm

end FileTree

namespace Directory

open FileTree

variable {config : Config} {root : Path} {g : Group} {t t' : FileTree}

section Runs

variable {σ D : Type} {fs : FileSystem (StateM σ) D}

lemma openSink_run (root : Path) (artifact : QName) (s : σ) :
    (openSink fs root artifact).run s =
      match (fs.makeDirectories (Path.source root artifact).parent).run s with
      | (.error fault, s₁) =>
        (.error (.fileRefused .createDirectory (Path.source root artifact).parent fault), s₁)
      | (.ok (), s₁) =>
        match (fs.openDraft (Path.source root artifact).parent).run s₁ with
        | (.error fault, s₂) =>
          (.error (.fileRefused .createDraft (Path.source root artifact).parent fault), s₂)
        | (.ok d, s₂) => (.ok ⟨Path.source root artifact, d⟩, s₂) := by
  rw [openSink, StateM.run_bind]
  rcases (fs.makeDirectories (Path.source root artifact).parent).run s with ⟨fault | _, s₁⟩
  · rfl
  · dsimp only
    rw [StateM.run_bind]
    rcases (fs.openDraft (Path.source root artifact).parent).run s₁ with ⟨fault | d, s₂⟩ <;> rfl

lemma write_run (root : Path) (sink : Sink D) (content : Bytes) (s : σ) :
    ((publisher fs root).write sink content).run s =
      match (fs.append sink.draft content).run s with
      | (.error _, s₁) => (none, s₁)
      | (.ok draft, s₁) => (some { sink with draft }, s₁) := by
  rw [publisher]
  dsimp only
  rw [StateM.run_bind]
  rcases (fs.append sink.draft content).run s with ⟨fault | draft, s₁⟩ <;> rfl

lemma commit_run (root : Path) (sink : Sink D) (s : σ) :
    ((publisher fs root).commit sink).run s =
      match (fs.publish sink.draft sink.path).run s with
      | (.error fault, s₁) => (.error (.fileRefused .publish sink.path fault), s₁)
      | (.ok (), s₁) => (.ok (), s₁) := by
  rw [publisher]
  dsimp only
  rw [StateM.run_bind]
  rcases (fs.publish sink.draft sink.path).run s with ⟨fault | _, s₁⟩ <;> rfl

end Runs

/-- A draft with more content. -/
def extended (sink : Sink Draft) (content : Bytes) : Sink Draft :=
  { sink with draft := { sink.draft with content := sink.draft.content ++ content } }

/-- Publishing an artifact opens its draft and, if that succeeds, publishes it with its source. -/
lemma emit_run (config : Config) (root : Path) (g : Group) (t : FileTree) :
    (g.emit (publisher system root) config).run t =
      match (openSink system root g.info.artifact).run t with
      | (.error e, t₁) => (.error e, t₁)
      | (.ok sink, t₁) =>
        match ((publisher system root).commit
            (extended sink (Utf8.encode (g.source config)))).run t₁ with
        | (.error e, t₂) => (.error e, t₂)
        | (.ok (), t₂) => (.ok (Variant.of g.info), t₂) := by
  have hcreate : (publisher system root).create g.info.artifact g.info.name =
      openSink system root g.info.artifact := rfl
  rw [Group.emit_run, hcreate]
  rcases (openSink system root g.info.artifact).run t with ⟨e | sink, t₁⟩
  · rfl
  · have hwrite : ((publisher system root).write sink (Utf8.encode (g.source config))).run t₁ =
        (some (extended sink (Utf8.encode (g.source config))), t₁) := rfl
    dsimp only
    rw [hwrite]
    dsimp only
    rcases ((publisher system root).commit
      (extended sink (Utf8.encode (g.source config)))).run t₁ with ⟨e | _, t₂⟩ <;> rfl

section Success

variable {n : QName} {sink : Sink Draft}

/-- Where a draft is opened, the tree may have got directories, but no file was touched. -/
lemma openSink_ok (h : (openSink system root n).run t = (.ok sink, t')) :
    sink.path = Path.source root n ∧ sink.draft.content = [] ∧ t'.home = t.home ∧
      ∀ x, t'.file? x = t.file? x := by
  rw [openSink_run] at h
  split at h
  · cases (Prod.mk.inj h).1
  next t₁ hmake =>
    split at h
    · cases (Prod.mk.inj h).1
    next d t₂ hdraft =>
      obtain ⟨hsink, rfl⟩ := Prod.mk.inj h
      obtain rfl := Except.ok.inj hsink
      obtain ⟨-, hopen, hpaved⟩ := makeDirectories_ok (makeDirectories_run_ok hmake).2
      obtain ⟨hcontent, rfl⟩ := openDraft_run_ok hdraft
      exact ⟨rfl, hcontent, hpaved.home, hpaved.file?_eq hopen.free⟩

lemma filed_of_commit (h : ((publisher system root).commit sink).run t = (.ok (), t')) :
    Filed t t' (t.placeOf sink.path) sink.draft.content := by
  rw [commit_run] at h
  split at h
  · cases (Prod.mk.inj h).1
  next t₁ hpublish =>
    obtain ⟨-, rfl⟩ := Prod.mk.inj h
    exact publish_run_ok hpublish

/-- A draft that was opened for an artifact and is published is its file, and no other file was
touched. -/
lemma filed_of_openSink {content : Bytes} {t₁ t₂ : FileTree}
    (hsink : (openSink system root n).run t = (.ok sink, t₁))
    (hcommit : ((publisher system root).commit (extended sink content)).run t₁ = (.ok (), t₂)) :
    Filed t t₂ (t.placeOf (Path.source root n)) content := by
  obtain ⟨hpath, hcontent, hhome, hfiles⟩ := openSink_ok hsink
  have hfiled := filed_of_commit hcommit
  simp only [extended, hpath, hcontent, List.nil_append, placeOf_congr hhome] at hfiled
  refine ⟨hfiled.home.trans hhome, ?_⟩
  intro x
  rw [hfiled.files, hfiles]

lemma filed_of_emit {variant : Variant}
    (h : (g.emit (publisher system root) config).run t = (.ok variant, t')) :
    Filed t t' (t.placeOf (Path.source root g.info.artifact)) (Utf8.encode (g.source config)) := by
  rw [emit_run] at h
  split at h
  · cases (Prod.mk.inj h).1
  next sink t₁ hsink =>
    split at h
    · cases (Prod.mk.inj h).1
    next t₂ hcommit =>
      obtain ⟨-, rfl⟩ := Prod.mk.inj h
      exact filed_of_openSink hsink hcommit

/-- The artifacts of groups that are published have their sources in files of their own, and no
other file was touched. -/
lemma files_of_emitted {gs : List Group} (h : Group.Emitted (publisher system root) config gs t t')
    (hnodup : (gs.map fun g => t.placeOf (Path.source root g.info.artifact)).Nodup) :
    t'.home = t.home ∧
      (∀ g ∈ gs, t'.file? (t.placeOf (Path.source root g.info.artifact)) =
        some (Utf8.encode (g.source config))) ∧
      ∀ x, x ∉ (gs.map fun g => t.placeOf (Path.source root g.info.artifact)) →
        t'.file? x = t.file? x := by
  induction h with
  | nil t => exact ⟨rfl, by simp, by simp⟩
  | @cons g gs t t₁ t₂ variant hg _ ih =>
    rw [List.map_cons, List.nodup_cons] at hnodup
    have hfiled := filed_of_emit hg
    have hplaces (g' : Group) : t₁.placeOf (Path.source root g'.info.artifact) =
        t.placeOf (Path.source root g'.info.artifact) := placeOf_congr hfiled.home _
    have hgs := ih (by simpa only [hplaces] using hnodup.2)
    simp only [hplaces] at hgs
    obtain ⟨hhome, hsources, hothers⟩ := hgs
    refine ⟨hhome.trans hfiled.home, ?_, ?_⟩
    · rw [List.forall_mem_cons]
      refine ⟨?_, hsources⟩
      -- no later group has this place, so what is there stays
      rw [hothers _ hnodup.1, hfiled.files, if_pos rfl]
    · intro x hx
      rw [List.map_cons, List.mem_cons, not_or] at hx
      rw [hothers x hx.2, hfiled.files, if_neg hx.1]

end Success

section Failure

variable {e : Error}

lemma kind_of_openSink {n : QName} (h : (openSink system root n).run t = (.error e, t')) :
    e.kind = .fileOperation := by
  rw [openSink_run] at h
  split at h
  · rw [← Except.error.inj (Prod.mk.inj h).1]
    rfl
  · split at h
    · rw [← Except.error.inj (Prod.mk.inj h).1]
      rfl
    · cases (Prod.mk.inj h).1

lemma kind_of_commit {sink : Sink Draft}
    (h : ((publisher system root).commit sink).run t = (.error e, t')) :
    e.kind = .fileOperation := by
  rw [commit_run] at h
  split at h
  · rw [← Except.error.inj (Prod.mk.inj h).1]
    rfl
  · cases (Prod.mk.inj h).1

lemma kind_of_emit (h : (g.emit (publisher system root) config).run t = (.error e, t')) :
    e.kind = .fileOperation := by
  rw [emit_run] at h
  split at h
  next e₁ t₁ hsink =>
    obtain ⟨he, rfl⟩ := Prod.mk.inj h
    exact kind_of_openSink (Except.error.inj he ▸ hsink)
  · split at h
    next e₂ t₂ hcommit =>
      obtain ⟨he, rfl⟩ := Prod.mk.inj h
      exact kind_of_commit (Except.error.inj he ▸ hcommit)
    · cases (Prod.mk.inj h).1

/-- Publishing artifacts fails by nothing but file operations. -/
lemma kind_of_emitAll {gs : List Group}
    (h : (Group.emitAll (publisher system root) config gs).run t = (.error e, t')) :
    e.kind = .fileOperation := by
  obtain ⟨before, g, after, t₁, -, -, hg⟩ := Group.exists_stop_of_emitAll h
  exact kind_of_emit hg

end Failure

section Place

variable {n : QName} {directories : List Text} {file : Text} (hn : n.IsLocated directories file)
include hn

lemma isPlain_of_mem {name : Text} (h : name ∈ n.sourcePath.names) : IsPlain name := by
  rw [hn.names_sourcePath, List.mem_append, List.mem_singleton] at h
  rcases h with h | rfl
  · have hdot := Identifier.dot_notMem_of_isValid (hn.directories name h)
    constructor <;> rintro rfl <;> exact hdot (by simp)
  · constructor <;> intro heq <;> simpa using congrArg List.length heq

lemma isPlain_of_mem_directories : ∀ name ∈ directories, IsPlain name :=
  fun _ h => isPlain_of_mem hn (hn.mem_names_of_mem_directories h)

/-- A source lies below the root of the output. -/
lemma placeOf_source (t : FileTree) (root : Path) :
    t.placeOf (Path.source root n) = t.placeOf root ++ n.sourcePath.names := by
  rw [placeOf, hn.names_source, ← hn.names_sourcePath, placeFrom_append,
    start_of_isAbsolute (hn.isAbsolute_source root), placeFrom_of_plain fun _ => isPlain_of_mem hn]
  rfl

end Place

/-- Whether paths and names are short enough for a source. -/
structure Fits (root : Path) (n : QName) : Prop where
  path : isLongPath (Path.source root n) = false
  names : ∀ name ∈ n.sourcePath.names, isLongName name = false

/-- Whether nothing stands in the way of a source: no file is on the way to the root, nothing that
lies below the root is on it either, and what lies there is directories without a dot in their names
and files with one. -/
structure Ready (t : FileTree) (root : Path) : Prop where
  free : t.IsOpen (t.start root) root.steps
  apart : ∀ x ∈ way (t.start root) root.steps, ∀ rel, rel ≠ [] → x ≠ t.placeOf root ++ rel
  directories : ∀ rel name, t.node? (t.placeOf root ++ (rel ++ [name])) = some .directory →
    '.' ∉ name
  files : ∀ rel name content, t.node? (t.placeOf root ++ (rel ++ [name])) = some (.file content) →
    '.' ∈ name

section Ready

variable {n : QName} {directories : List Text} {file : Text} (hn : n.IsFiled directories file)

include hn

lemma mem_way_source {x : Location}
    (hx : x ∈ way (t.start root) (Path.source root n).parent.steps) :
    x ∈ way (t.start root) root.steps ∨
      ∃ rel, rel ≠ [] ∧ rel <+: directories ∧ x = t.placeOf root ++ rel := by
  rw [(hn.isLocated.source_parent root).1, way_append, ← placeOf_eq_steps, List.mem_append] at hx
  exact hx.imp_right (mem_way_of_plain (isPlain_of_mem_directories hn.isLocated))

/-- The directory of a source can be made where nothing stands in the way. -/
lemma Ready.isOpen (h : Ready t root) (hfits : Fits root n) :
    t.IsOpen (t.start root) (Path.source root n).parent.steps := by
  refine ⟨?_, ?_⟩
  · intro name hname
    rw [(hn.isLocated.source_parent root).1, List.mem_append] at hname
    rcases hname with hname | hname
    · exact h.free.short name hname
    · exact hfits.names name (hn.isLocated.mem_names_of_mem_directories hname)
  · intro x hx
    rcases mem_way_source hn hx with hx | ⟨rel, hne, hrel, rfl⟩
    · exact h.free.free x hx
    · obtain ⟨before, name, rfl⟩ := List.eq_nil_or_concat' rel |>.resolve_left hne
      cases hfile : t.file? (t.placeOf root ++ (before ++ [name])) with
      | none => rfl
      | some content =>
        have hdot := h.files before name content (file?_eq_some_iff.mp hfile)
        exact absurd (hrel.subset (by simp)) (hn.isLocated.notMem_directories hdot)

/-- The draft of a source can be opened where nothing stands in the way. -/
lemma Ready.openSink_run (h : Ready t root) (hfits : Fits root n) (hroot : root.text ≠ [])
    (hnul : root.hasNul = false) :
    ∃ sink t₁, (openSink system root n).run t = (.ok sink, t₁) ∧
      sink.path = Path.source root n ∧
      Paved t t₁ (way (t.start root) (Path.source root n).parent.steps) := by
  obtain ⟨-, habsolute, hbegins, hne⟩ := hn.isLocated.source_parent root
  have hstart := start_of_isAbsolute habsolute t
  have hparent := (hn.hasNul_source hnul).2
  have hshort := isLongPath_of_prefix hbegins hfits.path
  have hopen := h.isOpen hn hfits
  rw [← hstart] at hopen ⊢
  obtain ⟨t₁, hmake, hpaved⟩ := makeDirectories_of_isOpen hshort hopen
  obtain ⟨hlocate, hdirectory⟩ :=
    locateFrom_of_paved hopen hpaved (Path.components_filter _)
  have hdraft := openDraft_of_locateFrom (hne hroot) hshort hlocate hdirectory
  refine ⟨⟨Path.source root n, ⟨t.placeOf (Path.source root n).parent, []⟩⟩,
    { t₁ with drafts := t.placeOf (Path.source root n).parent :: t₁.drafts }, ?_, rfl,
    ⟨hpaved.home, hpaved.nodes⟩⟩
  rw [Directory.openSink_run, makeDirectories_run, hparent, if_neg Bool.false_ne_true, hmake]
  dsimp only
  rw [openDraft_run, hparent, if_neg Bool.false_ne_true, hdraft]

lemma placeOf_parent (t : FileTree) (root : Path) :
    t.placeOf (Path.source root n).parent = t.placeOf root ++ directories := by
  obtain ⟨hsteps, habsolute, -⟩ := hn.isLocated.source_parent root
  rw [placeOf_eq_steps, hsteps, placeFrom_append, start_of_isAbsolute habsolute,
    ← placeOf_eq_steps,
    placeFrom_of_plain (isPlain_of_mem_directories hn.isLocated)]

/-- The place of a source is no directory, also when its own directory was made. -/
lemma Ready.node?_source_ne {t₁ : FileTree} (h : Ready t root)
    (hpaved : Paved t t₁ (way (t.start root) (Path.source root n).parent.steps)) :
    t₁.node? (t.placeOf root ++ (directories ++ [file ++ ".java"])) ≠ some .directory := by
  have hway : t.placeOf root ++ (directories ++ [file ++ ".java"]) ∉
      way (t.start root) (Path.source root n).parent.steps := by
    intro hmem
    rcases mem_way_source hn hmem with hmem | ⟨rel, -, hrel, heq⟩
    · exact h.apart _ hmem _ (by simp) rfl
    · have hlength := hrel.length_le
      rw [← List.append_cancel_left heq, List.length_append, List.length_singleton] at hlength
      omega
  rw [hpaved.nodes, if_neg hway]
  intro hnode
  exact h.directories _ _ hnode (by simp)

/-- The draft of a source can be published where nothing stands in the way. -/
lemma Ready.commit_run {sink : Sink Draft} {t₁ : FileTree} (h : Ready t root)
    (hfits : Fits root n) (hnul : root.hasNul = false) (hsink : sink.path = Path.source root n)
    (hpaved : Paved t t₁ (way (t.start root) (Path.source root n).parent.steps)) :
    ∃ t₂, ((publisher system root).commit sink).run t₁ = (.ok (), t₂) ∧ t₂.home = t₁.home ∧
      ∀ x, t₂.node? x = if x = t.placeOf root ++ n.sourcePath.names then
        some (.file sink.draft.content) else t₁.node? x := by
  obtain ⟨hsteps, habsolute, -⟩ := hn.isLocated.source_parent root
  have hdirectories : (root.names ++ directories).filter (fun name => name ≠ ['.']) =
      (Path.source root n).parent.steps := by
    rw [List.filter_append, Path.names_filter, hn.isLocated.directories_filter, hsteps]
  have hopen := h.isOpen hn hfits
  have hnode := h.node?_source_ne hn hpaved
  rw [← start_of_isAbsolute habsolute] at hopen hpaved
  have hdiscard : Paved t (t₁.discard sink.draft)
      (way (t.start (Path.source root n).parent) (Path.source root n).parent.steps) :=
    ⟨hpaved.home, hpaved.nodes⟩
  obtain ⟨hlocate, hdirectory⟩ := locateFrom_of_paved hopen hdiscard hdirectories
  rw [placeOf_parent hn] at hlocate hdirectory
  have hlast := hn.isLocated.file_mem_names
  have hnames : (Path.source root n).names = root.names ++ directories ++ [file ++ ".java"] := by
    rw [hn.isLocated.names_source, List.append_assoc]
  have hstart : (t₁.discard sink.draft).start (Path.source root n).parent =
      (t₁.discard sink.draft).start (Path.source root n) :=
    start_of_isAbsolute (habsolute.trans (hn.isLocated.isAbsolute_source root).symm) _
  rw [hstart] at hlocate
  have hwrite := write_of_locateFrom (hn.isLocated.endsInSlash_source root)
    (hn.isLocated.text_source_ne_nil root) hfits.path hnames (isPlain_of_mem hn.isLocated hlast)
    (hfits.names _ hlast) hlocate hdirectory (by rw [List.append_assoc]; exact hnode)
    sink.draft.content
  refine ⟨(t₁.discard sink.draft).put (t.placeOf root ++ directories ++ [file ++ ".java"])
    (.file sink.draft.content), ?_, rfl, ?_⟩
  · rw [Directory.commit_run, hsink, publish_run, (hn.hasNul_source hnul).1,
      if_neg Bool.false_ne_true, publish, hwrite]
  · rw [hn.isLocated.names_sourcePath, ← List.append_assoc]
    exact node?_put (by rw [List.append_assoc]; exact hnode) _

/-- A source stands in the way of no other one. -/
lemma Ready.published {t₁ t₂ : FileTree} {content : Bytes} (h : Ready t root)
    (hfits : Fits root n)
    (hpaved : Paved t t₁ (way (t.start root) (Path.source root n).parent.steps))
    (hhome : t₂.home = t₁.home)
    (hnodes : ∀ x, t₂.node? x = if x = t.placeOf root ++ n.sourcePath.names then
      some (.file content) else t₁.node? x) : Ready t₂ root := by
  have hhome' : t₂.home = t.home := hhome.trans hpaved.home
  have hopen := h.isOpen hn hfits
  rw [hn.isLocated.names_sourcePath] at hnodes
  refine ⟨?_, ?_, ?_, ?_⟩
  · rw [start_congr hhome']
    refine (isOpen_congr ?_).mpr h.free
    intro x hx
    have hne : x ≠ t.placeOf root ++ (directories ++ [file ++ ".java"]) :=
      h.apart x hx _ (by simp)
    have hsame : t₂.node? x = t₁.node? x := by
      rw [hnodes, if_neg hne]
    rw [file?_congr hsame, hpaved.file?_eq hopen.free]
  · rw [start_congr hhome', placeOf_congr hhome']
    exact h.apart
  · intro rel name hnode
    rw [placeOf_congr hhome', hnodes, hpaved.nodes] at hnode
    split at hnode
    · cases hnode
    · split at hnode
      next hway =>
        -- a directory that was made below the root is named like a part of the package
        rcases mem_way_source hn hway with hway | ⟨rel', -, hrel', heq⟩
        · exact absurd rfl (h.apart _ hway _ (by simp))
        · rw [← List.append_cancel_left heq] at hrel'
          exact Identifier.dot_notMem_of_isValid (hn.directories name (hrel'.subset (by simp)))
      next => exact h.directories rel name hnode
  · intro rel name content' hnode
    rw [placeOf_congr hhome', hnodes, hpaved.nodes] at hnode
    split at hnode
    next heq =>
      -- the only new file is the source itself, and its name has a dot
      obtain ⟨-, hname⟩ := List.append_inj' (List.append_cancel_left heq) rfl
      rw [(List.cons.inj hname).1]
      simp
    next =>
      split at hnode
      · cases hnode
      · exact h.files rel name content' hnode

omit hn in
/-- Where nothing stands in the way, an artifact is published, and then nothing stands in the way of
another one. -/
lemma Ready.emit_run (h : Ready t root) (hroot : root.text ≠ []) (hnul : root.hasNul = false)
    (hn : g.info.artifact.IsFiled directories file) (hfits : Fits root g.info.artifact) :
    ∃ t', (g.emit (publisher system root) config).run t = (.ok (Variant.of g.info), t') ∧
      Ready t' root := by
  obtain ⟨sink, t₁, hsink, hpath, hpaved⟩ := h.openSink_run hn hfits hroot hnul
  have hpath' : (extended sink (Utf8.encode (g.source config))).path =
      Path.source root g.info.artifact := hpath
  obtain ⟨t₂, hcommit, hhome, hnodes⟩ := h.commit_run hn hfits hnul hpath' hpaved
  refine ⟨t₂, ?_, h.published hn hfits hpaved hhome hnodes⟩
  rw [Directory.emit_run, hsink]
  dsimp only
  rw [hcommit]

omit hn in
/-- Where nothing stands in the way, the artifacts of all groups are published. -/
lemma Ready.emitAll_run {gs : List Group} (h : Ready t root) (hroot : root.text ≠ [])
    (hnul : root.hasNul = false)
    (hfiled : ∀ g ∈ gs, ∃ directories file, g.info.artifact.IsFiled directories file)
    (hfits : ∀ g ∈ gs, Fits root g.info.artifact) :
    ∃ t', (Group.emitAll (publisher system root) config gs).run t =
      (.ok (gs.map (Group.summary config)), t') := by
  induction gs generalizing t with
  | nil => exact ⟨t, rfl⟩
  | cons g gs ih =>
    rw [List.forall_mem_cons] at hfiled hfits
    obtain ⟨directories, file, hn⟩ := hfiled.1
    obtain ⟨t₁, hemit, hready⟩ := h.emit_run hroot hnul hn hfits.1
    obtain ⟨t₂, hrest⟩ := ih hready hfiled.2 hfits.2
    refine ⟨t₂, ?_⟩
    rw [Group.emitAll_cons_run, hemit]
    dsimp only
    rw [hrest]
    rfl

end Ready

/-- Where the root of the output can be made and has nothing in it then, nothing stands in the way. -/
lemma ready_of_makeDirectories (h : t.makeDirectories root = (.ok (), t'))
    (hempty : ∀ rel, rel ≠ [] → t'.node? (t.placeOf root ++ rel) = none) : Ready t root := by
  obtain ⟨-, hopen, hpaved⟩ := makeDirectories_ok h
  have hnone (rel : List Text) (hrel : rel ≠ []) :
      t.placeOf root ++ rel ∉ way (t.start root) root.steps ∧
        t.node? (t.placeOf root ++ rel) = none := by
    have hnode := hempty rel hrel
    rw [hpaved.nodes] at hnode
    split at hnode
    · cases hnode
    next hway => exact ⟨hway, hnode⟩
  refine ⟨hopen, ?_, ?_, ?_⟩
  · rintro x hx rel hrel rfl
    exact (hnone rel hrel).1 hx
  · intro rel name hnode
    rw [(hnone (rel ++ [name]) (by simp)).2] at hnode
    cases hnode
  · intro rel name content hnode
    rw [(hnone (rel ++ [name]) (by simp)).2] at hnode
    cases hnode

end Directory

end Companion
