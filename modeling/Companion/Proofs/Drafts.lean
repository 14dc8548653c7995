import Companion.Proofs.Placement

/-!
# Drafts

A draft is no file. It is opened in a directory that is made for it, and if it is given up nothing is
left of it. What is published from it is read from its path, and can be published again: what was
found once is found along the directories that are still there, and no file stands in the way of
itself.
-/

namespace Companion

namespace FileTree

/-- The second tree has the files and the drafts of the first one. -/
structure Untouched (t t' : FileTree) : Prop where
  home : t'.home = t.home
  files : ∀ x, t'.file? x = t.file? x
  drafts : t'.drafts = t.drafts

/-- The second tree has a draft in a directory besides the files and the drafts of the first one. -/
structure Opened (t t' : FileTree) (directory : Location) : Prop where
  home : t'.home = t.home
  files : ∀ x, t'.file? x = t.file? x
  drafts : t'.drafts = directory :: t.drafts

/-- If the draft is given up, nothing is left of it. -/
lemma Opened.discard {t t' : FileTree} {d : Draft} (h : t.Opened t' d.directory) :
    t.Untouched (t'.discard d) where
  home := h.home
  files := h.files
  drafts := by
    rw [FileTree.discard, h.drafts, List.erase_cons_head]

lemma drafts_makeDirectoriesFrom (t : FileTree) (place : Location) (made : Bool)
    (names : List Text) : (t.makeDirectoriesFrom place made names).2.drafts = t.drafts := by
  induction place, names using names_induction generalizing t made with
  | nil place => rfl
  | dot place names ih => exact ih t made
  | dots place names ih => exact ih t made
  | cons place name names hname ih =>
    rw [makeDirectoriesFrom, if_neg hname.1, if_neg hname.2]
    split
    · rfl
    · split
      · exact ih (t.put (place ++ [name]) .directory) true
      · exact ih t made
      · rfl

lemma drafts_makeDirectories (t : FileTree) (p : Path) :
    (t.makeDirectories p).2.drafts = t.drafts := by
  rw [makeDirectories]
  split
  · rfl
  · exact drafts_makeDirectoriesFrom t _ _ _

lemma makeDirectories_untouched (p : Path) (t : FileTree) :
    t.Untouched ((system.makeDirectories p).run t).2 := by
  have hdiffers := makeDirectories_differs p t
  refine ⟨hdiffers.home, fun x => hdiffers.files x List.not_mem_nil, ?_⟩
  rw [makeDirectories_run]
  split
  · rfl
  · exact drafts_makeDirectories t p

/-- A draft that is given up as soon as it is open leaves the tree as it was. -/
lemma discard_opened (t : FileTree) (place : Location) (content : Bytes) :
    { t with drafts := place :: t.drafts }.discard ⟨place, content⟩ = t := by
  rw [discard, List.erase_cons_head]

section Looking

variable {t t' : FileTree} {p : Path} {place found : Location} {names : List Text}

/-- The second tree has a directory wherever the first one has one. -/
structure KeepsDirectories (t t' : FileTree) : Prop where
  home : t'.home = t.home
  directories : ∀ x, t.node? x = some .directory → t'.node? x = some .directory

namespace KeepsDirectories

/-- What is found is found again, since names are looked up along directories. -/
lemma locateFrom (h : t.KeepsDirectories t') (hfound : t.locateFrom place names = .ok found) :
    t'.locateFrom place names = .ok found := by
  induction place, names using names_induction with
  | nil place => exact hfound
  | dot place names ih =>
    have hnode := node?_of_locateFrom hfound
    rw [locateFrom_dot hnode] at hfound
    rw [locateFrom_dot (h.directories place hnode)]
    exact ih hfound
  | dots place names ih =>
    have hnode := node?_of_locateFrom hfound
    rw [locateFrom_dots hnode] at hfound
    rw [locateFrom_dots (h.directories place hnode)]
    exact ih hfound
  | cons place name names hname ih =>
    have hnode := node?_of_locateFrom hfound
    rw [locateFrom_cons hnode hname] at hfound
    rw [locateFrom_cons (h.directories place hnode) hname]
    split at hfound
    · cases hfound
    next hlong =>
      rw [if_neg hlong]
      exact ih hfound

lemma follow (h : t.KeepsDirectories t') (hfound : t.follow p names = .ok found) :
    t'.follow p names = .ok found := by
  obtain ⟨hne, hpath, hlocate⟩ := follow_eq_ok_iff.mp hfound
  rw [← start_congr h.home] at hlocate
  exact follow_eq_ok_iff.mpr ⟨hne, hpath, h.locateFrom hlocate⟩

end KeepsDirectories

lemma keepsDirectories_put (h : t.node? place ≠ some .directory) (node : Node) :
    t.KeepsDirectories (t.put place node) where
  home := rfl
  directories x hx := by
    rw [node?_put h, if_neg ?_]
    · exact hx
    · rintro rfl
      exact h hx

lemma Paved.keepsDirectories {places : List Location} (h : Paved t t' places) :
    t.KeepsDirectories t' where
  home := h.home
  directories x hx := by
    rw [h.nodes]
    split
    · rfl
    · exact hx

/-- What was written is read. -/
lemma read_of_write {content : Bytes} (h : t.write p content = .ok t') :
    t'.read p = .ok content := by
  obtain ⟨hend, place, hfollow, hnode, rfl⟩ := write_eq_ok_iff.mp h
  have hlocate : (t.put place (.file content)).locate p = .ok place := by
    rw [locate, Path.components, if_neg (by simp [hend])]
    exact (keepsDirectories_put hnode _).follow hfollow
  rw [read, hlocate]
  dsimp only
  rw [node?_put hnode, if_pos rfl]

end Looking

end FileTree

namespace Directory

open FileTree

section Publishing

variable {root : Path} {n : QName} {content : Bytes} {t t' : FileTree}

lemma opened_of_openSink {sink : Sink Draft}
    (h : (openSink system root n).run t = (.ok sink, t')) : t.Opened t' sink.draft.directory := by
  obtain ⟨-, -, hhome, hfiles⟩ := openSink_ok h
  refine ⟨hhome, hfiles, ?_⟩
  rw [openSink_run] at h
  split at h
  · cases (Prod.mk.inj h).1
  next t₁ hmake =>
    split at h
    · cases (Prod.mk.inj h).1
    next d t₂ hdraft =>
      obtain ⟨hsink, rfl⟩ := Prod.mk.inj h
      obtain rfl := Except.ok.inj hsink
      have hdrafts := drafts_makeDirectories t (Path.source root n).parent
      rw [(makeDirectories_run_ok hmake).2] at hdrafts
      rw [(openDraft_run_ok hdraft).2, ← hdrafts]

/-- No file stands on the way to the directory that a draft is opened in. -/
lemma isOpen_of_openSink {sink : Sink Draft}
    (h : (openSink system root n).run t = (.ok sink, t')) :
    t.IsOpen (t.start (Path.source root n).parent) (Path.source root n).parent.steps := by
  rw [openSink_run] at h
  split at h
  · cases (Prod.mk.inj h).1
  next t₁ hmake => exact (makeDirectories_ok (makeDirectories_run_ok hmake).2).2.1

/-- An artifact with this content is published on a tree, from the opening of its draft on. -/
def Publishes (root : Path) (n : QName) (content : Bytes) (t t' : FileTree) : Prop :=
  ∃ sink t₁, (openSink system root n).run t = (.ok sink, t₁) ∧
    ((publisher system root).commit (extended sink content)).run t₁ = (.ok (), t')

/-- A directory is made, the draft is opened in it, and its content is written to its path. -/
lemma publishes_iff :
    Publishes root n content t t' ↔
      (Path.source root n).hasNul = false ∧ (Path.source root n).parent.hasNul = false ∧
      ∃ t₁ place, t.makeDirectories (Path.source root n).parent = (.ok (), t₁) ∧
        t₁.locate (Path.source root n).parent = .ok place ∧
        t₁.node? place = some .directory ∧
        t₁.write (Path.source root n) content = .ok t' := by
  constructor
  · rintro ⟨sink, t₂, hsink, hcommit⟩
    rw [openSink_run] at hsink
    split at hsink
    · cases (Prod.mk.inj hsink).1
    next t₁ hmake =>
      split at hsink
      · cases (Prod.mk.inj hsink).1
      next d t₃ hdraft =>
        obtain ⟨hopened, rfl⟩ := Prod.mk.inj hsink
        obtain rfl := Except.ok.inj hopened
        obtain ⟨hparent, hmake⟩ := makeDirectories_run_ok hmake
        obtain ⟨place, hlocate, hnode, rfl, rfl⟩ :=
          openDraft_eq_ok_iff.mp (openDraft_run_ok_iff.mp hdraft).2
        rw [commit_run] at hcommit
        split at hcommit
        · cases (Prod.mk.inj hcommit).1
        next hpublish =>
          obtain ⟨-, rfl⟩ := Prod.mk.inj hcommit
          obtain ⟨hnul, hwrite⟩ := publish_run_ok_iff.mp hpublish
          dsimp only [extended, List.nil_append] at hwrite
          rw [discard_opened] at hwrite
          exact ⟨hnul, hparent, t₁, place, hmake, hlocate, hnode, hwrite⟩
  · rintro ⟨hnul, hparent, t₁, place, hmake, hlocate, hnode, hwrite⟩
    have hdraft := openDraft_run_ok_iff.mpr
      ⟨hparent, openDraft_eq_ok_iff.mpr ⟨place, hlocate, hnode, rfl, rfl⟩⟩
    rw [← discard_opened t₁ place content] at hwrite
    have hpublish := publish_run_ok_iff.mpr ⟨hnul, hwrite⟩
    refine ⟨⟨Path.source root n, ⟨place, []⟩⟩, { t₁ with drafts := place :: t₁.drafts }, ?_, ?_⟩
    · rw [openSink_run, makeDirectories_run, hparent, if_neg Bool.false_ne_true, hmake]
      dsimp only
      rw [hdraft]
    · rw [commit_run]
      dsimp only [extended, List.nil_append]
      rw [hpublish]

namespace Publishes

variable (h : Publishes root n content t t')
include h

lemma filed : Filed t t' (t.placeOf (Path.source root n)) content := by
  obtain ⟨sink, t₁, hsink, hcommit⟩ := h
  exact filed_of_openSink hsink hcommit

lemma read : t'.read (Path.source root n) = .ok content := by
  obtain ⟨-, -, t₁, place, -, -, -, hwrite⟩ := publishes_iff.mp h
  exact read_of_write hwrite

lemma drafts : t'.drafts = t.drafts := by
  obtain ⟨-, -, t₁, place, hmake, -, -, hwrite⟩ := publishes_iff.mp h
  have hdrafts := drafts_makeDirectories t (Path.source root n).parent
  rw [hmake] at hdrafts
  rw [(write_ok hwrite).2, ← hdrafts]
  rfl

/-- No directory has the path of the artifact. -/
lemma node?_ne : t.node? (t.placeOf (Path.source root n)) ≠ some .directory := by
  obtain ⟨-, -, t₁, place, hmake, -, -, hwrite⟩ := publishes_iff.mp h
  have hkeeps := (makeDirectories_ok hmake).2.2.keepsDirectories
  intro hnode
  apply (write_ok hwrite).1
  rw [placeOf_congr hkeeps.home]
  exact hkeeps.directories _ hnode

/-- What was published can be published again, and that changes nothing. -/
lemma again : ∃ t'', Publishes root n content t' t'' ∧ ∀ x, t''.node? x = t'.node? x := by
  obtain ⟨hnul, hparent, t₁, place, hmake, hlocate, hdirectory, hwrite⟩ := publishes_iff.mp h
  obtain ⟨hshort, hopen, hpaved⟩ := makeDirectories_ok hmake
  obtain ⟨hend, file, hfollow, hfile, rfl⟩ := write_eq_ok_iff.mp hwrite
  have hput := node?_put hfile (.file content)
  have hkeeps : t₁.KeepsDirectories (t₁.put file (.file content)) := keepsDirectories_put hfile _
  have hhome : (t₁.put file (.file content)).home = t.home := hpaved.home
  -- the directories on the way are there now, and none of them is the file
  have hway : ∀ x ∈ way (t.start (Path.source root n).parent) (Path.source root n).parent.steps,
      (t₁.put file (.file content)).node? x = some .directory := by
    intro x hx
    refine hkeeps.directories x ?_
    rw [hpaved.nodes, if_pos hx]
  have hopen' : (t₁.put file (.file content)).IsOpen
      ((t₁.put file (.file content)).start (Path.source root n).parent)
      (Path.source root n).parent.steps := by
    rw [start_congr hhome]
    exact ⟨hopen.short, fun x hx => file?_eq_none_iff.mpr (Or.inr (hway x hx))⟩
  obtain ⟨t₂, hmake', hpaved'⟩ := makeDirectories_of_isOpen hshort hopen'
  have hnodes : ∀ x, t₂.node? x = (t₁.put file (.file content)).node? x := by
    intro x
    rw [hpaved'.nodes, start_congr hhome]
    split
    next hx => exact (hway x hx).symm
    next => rfl
  have hkeeps' : t₁.KeepsDirectories t₂ :=
    ⟨hpaved'.home, fun x hx => (hnodes x).trans (hkeeps.directories x hx)⟩
  have hfile' : t₂.node? file = some (.file content) := by
    rw [hnodes, hput, if_pos rfl]
  have hfree : t₂.node? file ≠ some .directory := by
    rw [hfile']
    simp
  refine ⟨t₂.put file (.file content), publishes_iff.mpr ⟨hnul, hparent, t₂, place, hmake',
    hkeeps'.follow hlocate, hkeeps'.directories place hdirectory,
    write_eq_ok_iff.mpr ⟨hend, file, hkeeps'.follow hfollow, hfree, rfl⟩⟩, ?_⟩
  intro x
  rw [node?_put hfree, ← hnodes]
  split
  next hx => rw [hx, hfile']
  next => rfl

end Publishes

end Publishing

end Directory

end Companion
