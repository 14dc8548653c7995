import Companion.Proofs.Drafts
import Companion.Proofs.Session

/-!
# Sessions with a directory

Nobody sees what is written to a draft, so files are changed by a commit that succeeds and by nothing
else. This is so on every disk that works on a tree, also if it fails where nothing stands in the
way: an operation that fails leaves the files alone.
-/

namespace Companion

namespace FileSystem

open FileTree

variable {σ : Type}

/-- A file system works on the tree in its state: an operation does what it does to the tree, or it
fails. Where it fails without need no file is touched, no draft is opened, and a draft that was to
be published is gone. -/
structure WorksOn (fs : FileSystem (StateM σ) Draft) (tree : σ → FileTree) : Prop where
  makeDirectories : ∀ p s r s', (fs.makeDirectories p).run s = (r, s') →
    (system.makeDirectories p).run (tree s) = (r, tree s') ∨
      (∃ fault, r = .error fault) ∧ (tree s).Untouched (tree s')
  openDraft : ∀ p s r s', (fs.openDraft p).run s = (r, s') →
    (system.openDraft p).run (tree s) = (r, tree s') ∨
      (∃ fault, r = .error fault) ∧ tree s' = tree s
  append : ∀ d content s r s', (fs.append d content).run s = (r, s') →
    (system.append d content).run (tree s) = (r, tree s') ∨
      (∃ fault, r = .error fault) ∧ tree s' = tree s
  publish : ∀ d p s r s', (fs.publish d p).run s = (r, s') →
    (system.publish d p).run (tree s) = (r, tree s') ∨
      (∃ fault, r = .error fault) ∧ tree s' = (tree s).discard d
  discard : ∀ d s, tree ((fs.discard d).run s).2 = (tree s).discard d

/-- A tree works on itself. -/
lemma system_worksOn : system.WorksOn id where
  makeDirectories _ _ _ _ h := Or.inl h
  openDraft _ _ _ _ h := Or.inl h
  append _ _ _ _ _ h := Or.inl h
  publish _ _ _ _ _ h := Or.inl h
  discard _ _ := rfl

namespace WorksOn

/-- What succeeds does what it does to the tree. -/
lemma of_ok {α : Type} {a : α} {done failed : Prop}
    (h : done ∨ (∃ fault : FileFault, Except.ok a = .error fault) ∧ failed) : done := by
  rcases h with hdone | ⟨⟨fault, hfault⟩, -⟩
  · exact hdone
  · cases hfault

variable {fs : FileSystem (StateM σ) Draft} {tree : σ → FileTree} (h : fs.WorksOn tree) {p : Path}
  {d : Draft} {content : Bytes} {fault : FileFault} {s s' : σ}
include h

lemma makeDirectories_ok (hrun : (fs.makeDirectories p).run s = (.ok (), s')) :
    (system.makeDirectories p).run (tree s) = (.ok (), tree s') :=
  of_ok (h.makeDirectories p s _ s' hrun)

lemma makeDirectories_untouched : (tree s).Untouched (tree ((fs.makeDirectories p).run s).2) := by
  rcases h.makeDirectories p s _ _ rfl with hrun | ⟨-, huntouched⟩
  · have huntouched := FileTree.makeDirectories_untouched p (tree s)
    rw [hrun] at huntouched
    exact huntouched
  · exact huntouched

lemma openDraft_ok (hrun : (fs.openDraft p).run s = (.ok d, s')) :
    (system.openDraft p).run (tree s) = (.ok d, tree s') :=
  of_ok (h.openDraft p s _ s' hrun)

lemma openDraft_error (hrun : (fs.openDraft p).run s = (.error fault, s')) : tree s' = tree s := by
  rcases h.openDraft p s _ s' hrun with hrun | ⟨-, hsame⟩
  · exact openDraft_run_error hrun
  · exact hsame

lemma append_ok {d' : Draft} (hrun : (fs.append d content).run s = (.ok d', s')) :
    d' = { d with content := d.content ++ content } ∧ tree s' = tree s := by
  obtain ⟨hd, htree⟩ := Prod.mk.inj (of_ok (h.append d content s _ s' hrun))
  exact ⟨(Except.ok.inj hd).symm, htree.symm⟩

lemma append_error (hrun : (fs.append d content).run s = (.error fault, s')) :
    tree s' = tree s := by
  rcases h.append d content s _ s' hrun with hrun | ⟨-, hsame⟩
  · cases (Prod.mk.inj hrun).1
  · exact hsame

lemma publish_ok (hrun : (fs.publish d p).run s = (.ok (), s')) :
    (system.publish d p).run (tree s) = (.ok (), tree s') :=
  of_ok (h.publish d p s _ s' hrun)

lemma publish_error (hrun : (fs.publish d p).run s = (.error fault, s')) :
    tree s' = (tree s).discard d := by
  rcases h.publish d p s _ s' hrun with hrun | ⟨-, hgone⟩
  · exact publish_run_error hrun
  · exact hgone

end WorksOn

end FileSystem

namespace Directory

open FileTree
open Publisher (Session Outcome)

variable {σ : Type} {fs : FileSystem (StateM σ) Draft} {tree : σ → FileTree}
  (h : fs.WorksOn tree) {root : Path} {n origin : QName} {chunks : List Bytes}
  {sink sink' : Sink Draft} {s s' : σ}

section Steps

variable {outcome : Outcome}

include h

/-- A draft that is opened is opened in the tree. -/
lemma openSink_of_worksOn (hrun : (openSink fs root n).run s = (.ok sink, s')) :
    (openSink system root n).run (tree s) = (.ok sink, tree s') := by
  rw [openSink_run] at hrun ⊢
  split at hrun
  · cases (Prod.mk.inj hrun).1
  next s₁ hmake =>
    rw [h.makeDirectories_ok hmake]
    dsimp only
    split at hrun
    · cases (Prod.mk.inj hrun).1
    next d s₂ hdraft =>
      obtain ⟨hsink, rfl⟩ := Prod.mk.inj hrun
      rw [h.openDraft_ok hdraft, ← hsink]

lemma untouched_of_openSink {e : Error} (hrun : (openSink fs root n).run s = (.error e, s')) :
    (tree s).Untouched (tree s') := by
  have hmade := h.makeDirectories_untouched (p := (Path.source root n).parent) (s := s)
  rw [openSink_run] at hrun
  split at hrun
  next hmake =>
    rw [hmake] at hmade
    obtain ⟨-, rfl⟩ := Prod.mk.inj hrun
    exact hmade
  next s₁ hmake =>
    rw [hmake] at hmade
    split at hrun
    next hdraft =>
      obtain ⟨-, rfl⟩ := Prod.mk.inj hrun
      rw [h.openDraft_error hdraft]
      exact hmade
    next => cases (Prod.mk.inj hrun).1

/-- Pieces that are written come one after the other. -/
lemma of_writeAll_some (hrun : ((publisher fs root).writeAll sink chunks).run s = (some sink', s')) :
    sink' = extended sink chunks.flatten ∧ tree s' = tree s := by
  induction chunks generalizing sink s with
  | nil =>
    obtain ⟨hsink, rfl⟩ := Prod.mk.inj hrun
    rw [← Option.some.inj hsink, List.flatten_nil, extended, List.append_nil]
    exact ⟨rfl, rfl⟩
  | cons chunk chunks ih =>
    rw [Publisher.writeAll_cons_run, write_run] at hrun
    rcases happend : (fs.append sink.draft chunk).run s with ⟨fault | draft, s₁⟩
    · simp only [happend] at hrun
      cases (Prod.mk.inj hrun).1
    · simp only [happend] at hrun
      obtain ⟨rfl, htree⟩ := h.append_ok happend
      obtain ⟨rfl, htree'⟩ := ih hrun
      refine ⟨?_, htree'.trans htree⟩
      simp only [extended, List.flatten_cons, List.append_assoc]

/-- A sink that cannot be written to is given up. -/
lemma of_writeAll_none (hrun : ((publisher fs root).writeAll sink chunks).run s = (none, s')) :
    tree s' = (tree s).discard sink.draft := by
  induction chunks generalizing sink s with
  | nil => cases (Prod.mk.inj hrun).1
  | cons chunk chunks ih =>
    rw [Publisher.writeAll_cons_run, write_run] at hrun
    rcases happend : (fs.append sink.draft chunk).run s with ⟨fault | draft, s₁⟩
    · simp only [happend] at hrun
      obtain ⟨-, rfl⟩ := Prod.mk.inj hrun
      rw [← h.append_error happend]
      exact h.discard sink.draft s₁
    · simp only [happend] at hrun
      obtain ⟨rfl, htree⟩ := h.append_ok happend
      rw [ih hrun, htree]
      rfl

/-- What is open after some pieces is a draft of all of them. -/
lemma of_openWith_ok
    (hrun : ((publisher fs root).openWith n origin chunks).run s = (.ok sink, s')) :
    ∃ first, (openSink system root n).run (tree s) = (.ok first, tree s') ∧
      sink = extended first chunks.flatten := by
  have hcreate : (publisher fs root).create n origin = openSink fs root n := rfl
  rw [Publisher.openWith_run, hcreate] at hrun
  rcases hopen : (openSink fs root n).run s with ⟨e | first, s₁⟩
  · simp only [hopen] at hrun
    cases (Prod.mk.inj hrun).1
  · simp only [hopen] at hrun
    rcases hwrite : ((publisher fs root).writeAll first chunks).run s₁ with ⟨_ | written, s₂⟩
    · simp only [hwrite] at hrun
      cases (Prod.mk.inj hrun).1
    · simp only [hwrite] at hrun
      obtain ⟨hsink, rfl⟩ := Prod.mk.inj hrun
      obtain rfl := Except.ok.inj hsink
      obtain ⟨hextended, htree⟩ := of_writeAll_some h hwrite
      rw [htree]
      exact ⟨first, openSink_of_worksOn h hopen, hextended⟩

/-- A session that is over before its end has left nothing. -/
lemma untouched_of_openWith
    (hrun : ((publisher fs root).openWith n origin chunks).run s = (.error outcome, s')) :
    (tree s).Untouched (tree s') ∧ outcome ≠ .committed := by
  have hcreate : (publisher fs root).create n origin = openSink fs root n := rfl
  rw [Publisher.openWith_run, hcreate] at hrun
  rcases hopen : (openSink fs root n).run s with ⟨e | first, s₁⟩
  · simp only [hopen] at hrun
    obtain ⟨houtcome, rfl⟩ := Prod.mk.inj hrun
    refine ⟨untouched_of_openSink h hopen, ?_⟩
    rw [← Except.error.inj houtcome]
    exact Outcome.noConfusion
  · simp only [hopen] at hrun
    rcases hwrite : ((publisher fs root).writeAll first chunks).run s₁ with ⟨_ | written, s₂⟩
    · simp only [hwrite] at hrun
      obtain ⟨houtcome, rfl⟩ := Prod.mk.inj hrun
      have hopened := opened_of_openSink (openSink_of_worksOn h hopen)
      rw [of_writeAll_none h hwrite, ← Except.error.inj houtcome]
      exact ⟨hopened.discard, Outcome.noConfusion⟩
    · simp only [hwrite] at hrun
      cases (Prod.mk.inj hrun).1

lemma of_close_committed {ending : Publisher.Ending}
    (hrun : ((publisher fs root).close sink ending).run s = (.committed, s')) :
    ending = .commit ∧
      ((publisher system root).commit sink).run (tree s) = (.ok (), tree s') := by
  cases ending with
  | discard => cases (Prod.mk.inj hrun).1
  | commit =>
    refine ⟨rfl, ?_⟩
    rw [Publisher.close_commit_run, commit_run] at hrun
    rcases hpublish : (fs.publish sink.draft sink.path).run s with ⟨fault | ⟨⟩, s₁⟩
    · simp only [hpublish] at hrun
      cases (Prod.mk.inj hrun).1
    · simp only [hpublish] at hrun
      obtain ⟨-, rfl⟩ := Prod.mk.inj hrun
      rw [commit_run, h.publish_ok hpublish]

/-- Where a commit fails, and where there is none, the draft is given up. -/
lemma of_close {ending : Publisher.Ending}
    (hrun : ((publisher fs root).close sink ending).run s = (outcome, s'))
    (hne : outcome ≠ .committed) : tree s' = (tree s).discard sink.draft := by
  cases ending with
  | discard =>
    obtain ⟨-, rfl⟩ := Prod.mk.inj hrun
    exact h.discard sink.draft s
  | commit =>
    rw [Publisher.close_commit_run, commit_run] at hrun
    rcases hpublish : (fs.publish sink.draft sink.path).run s with ⟨fault | ⟨⟩, s₁⟩
    · simp only [hpublish] at hrun
      obtain ⟨-, rfl⟩ := Prod.mk.inj hrun
      exact h.publish_error hpublish
    · simp only [hpublish] at hrun
      exact absurd (Prod.mk.inj hrun).1.symm hne

lemma publishes_of_session {x : Session}
    (hrun : ((publisher fs root).session x).run s = (.committed, s')) :
    x.ending = .commit ∧ Publishes root x.artifact x.chunks.flatten (tree s) (tree s') := by
  rw [Publisher.session_run] at hrun
  rcases hopen : ((publisher fs root).openWith x.artifact x.origin x.chunks).run s with
    ⟨outcome | sink, s₁⟩
  · simp only [hopen] at hrun
    exact absurd (Prod.mk.inj hrun).1 (untouched_of_openWith h hopen).2
  · simp only [hopen] at hrun
    obtain ⟨first, hfirst, rfl⟩ := of_openWith_ok h hopen
    obtain ⟨hending, hcommit⟩ := of_close_committed h hrun
    exact ⟨hending, first, tree s₁, hfirst, hcommit⟩

/-- A session that is not committed leaves files and drafts as they were. -/
lemma untouched_of_session {x : Session}
    (hrun : ((publisher fs root).session x).run s = (outcome, s'))
    (hne : outcome ≠ .committed) : (tree s).Untouched (tree s') := by
  rw [Publisher.session_run] at hrun
  rcases hopen : ((publisher fs root).openWith x.artifact x.origin x.chunks).run s with
    ⟨outcome' | sink, s₁⟩
  · simp only [hopen] at hrun
    obtain ⟨-, rfl⟩ := Prod.mk.inj hrun
    exact (untouched_of_openWith h hopen).1
  · simp only [hopen] at hrun
    obtain ⟨first, hfirst, rfl⟩ := of_openWith_ok h hopen
    rw [of_close h hrun hne]
    exact (opened_of_openSink hfirst).discard

/-- No sink is opened where a file stands on the way to the directory of the artifact. -/
lemma refused_of_file {x : Session} {y : Location}
    (hy : y ∈ way ((tree s).start (Path.source root x.artifact).parent)
      (Path.source root x.artifact).parent.steps)
    (hfile : ((tree s).file? y).isSome) :
    ∃ e, (((publisher fs root).session x).run s).1 = .refused e := by
  have hcreate : (publisher fs root).create x.artifact x.origin = openSink fs root x.artifact := rfl
  rw [Publisher.session_run, Publisher.openWith_run, hcreate]
  rcases hopen : (openSink fs root x.artifact).run s with ⟨e | first, s₁⟩
  · exact ⟨e, rfl⟩
  · have hfree := isOpen_of_openSink (openSink_of_worksOn h hopen)
    rw [hfree.free y hy] at hfile
    cases hfile

end Steps

lemma writeAll_run (sink : Sink Draft) (chunks : List Bytes) (t : FileTree) :
    ((publisher system root).writeAll sink chunks).run t =
      (some (extended sink chunks.flatten), t) := by
  induction chunks generalizing sink with
  | nil =>
    rw [List.flatten_nil, extended, List.append_nil]
    rfl
  | cons chunk chunks ih =>
    refine (ih (extended sink chunk)).trans ?_
    simp only [extended, List.flatten_cons, List.append_assoc]

/-- On the tree itself nothing else can go wrong with a session. -/
lemma session_of_publishes {x : Session} {t t' : FileTree} (hending : x.ending = .commit)
    (hx : Publishes root x.artifact x.chunks.flatten t t') :
    ((publisher system root).session x).run t = (.committed, t') := by
  obtain ⟨sink, t₁, hsink, hcommit⟩ := hx
  have hcreate : (publisher system root).create x.artifact x.origin =
      openSink system root x.artifact := rfl
  have hopen : ((publisher system root).openWith x.artifact x.origin x.chunks).run t =
      (.ok (extended sink x.chunks.flatten), t₁) := by
    rw [Publisher.openWith_run, hcreate, hsink]
    dsimp only
    rw [writeAll_run]
  rw [Publisher.session_run, hopen, hending]
  dsimp only
  rw [Publisher.close_commit_run, hcommit]

/-- A session with a directory changes files by a commit that succeeds and by nothing else, whatever
lies in the tree and wherever the disk fails. While its sink is open, a draft is all that is new
besides directories; if it is not committed, nothing is left of the draft. If it is committed, the
file of the artifact has the pieces one after the other, every other file is as it was, and on the
tree the session can be committed again, which changes nothing. No sink is opened if a file stands on
the way to the directory of the artifact, and none is committed if its path is a directory. -/
theorem session_changes_one_file (h : fs.WorksOn tree) (root : Path) (x : Session) (s : σ) :
    let p := publisher fs root
    let path := Path.source root x.artifact
    let ran := (p.session x).run s
    (∀ written sink s₁, (p.openWith x.artifact x.origin written).run s = (.ok sink, s₁) →
      sink.draft.content = written.flatten ∧
        (tree s).Opened (tree s₁) sink.draft.directory) ∧
    (ran.1 ≠ .committed → (tree s).Untouched (tree ran.2)) ∧
    (ran.1 = .committed →
      Filed (tree s) (tree ran.2) ((tree s).placeOf path) x.chunks.flatten ∧
        (tree ran.2).drafts = (tree s).drafts ∧
        (tree ran.2).read path = .ok x.chunks.flatten ∧
        (∀ y, (tree ((p.session x).run ran.2).2).file? y = (tree ran.2).file? y) ∧
        ∃ t, ((publisher system root).session x).run (tree ran.2) = (.committed, t) ∧
          ∀ y, t.node? y = (tree ran.2).node? y) ∧
    ((∃ y ∈ way ((tree s).start path.parent) path.parent.steps, ((tree s).file? y).isSome) →
      ∃ e, ran.1 = .refused e) ∧
    ((tree s).node? ((tree s).placeOf path) = some .directory → ran.1 ≠ .committed) := by
  intro p path ran
  refine ⟨fun written sink s₁ hopen => ?_, untouched_of_session h rfl, fun hcommitted => ?_, ?_,
    fun hdirectory hcommitted => ?_⟩
  · obtain ⟨first, hfirst, rfl⟩ := of_openWith_ok h hopen
    have hopened := opened_of_openSink hfirst
    refine ⟨?_, hopened⟩
    rw [extended, (openSink_ok hfirst).2.1, List.nil_append]
  · have hrun : (p.session x).run s = (.committed, ran.2) := Prod.ext hcommitted rfl
    obtain ⟨hending, hpublishes⟩ := publishes_of_session h hrun
    obtain ⟨t, hagain, hnodes⟩ := hpublishes.again
    refine ⟨hpublishes.filed, hpublishes.drafts, hpublishes.read, fun y => ?_,
      t, session_of_publishes hending hagain, hnodes⟩
    rcases hsecond : (p.session x).run ran.2 with ⟨outcome, s₂⟩
    by_cases houtcome : outcome = .committed
    · -- the same content is published at the same place
      subst houtcome
      have hfiled := (publishes_of_session h hsecond).2.filed
      rw [placeOf_congr hpublishes.filed.home] at hfiled
      rw [hfiled.files, hpublishes.filed.files]
      split <;> rfl
    · exact (untouched_of_session h hsecond houtcome).files y
  · rintro ⟨y, hy, hfile⟩
    exact refused_of_file h hy hfile
  · have hrun : (p.session x).run s = (.committed, ran.2) := Prod.ext hcommitted rfl
    exact (publishes_of_session h hrun).2.node?_ne hdirectory

/-- The disk on which a draft has room for so many bytes. -/
def smallDisk (room : Nat) : FileSystem (StateM FileTree) Draft where
  __ := system
  append d content :=
    if d.content.length + content.length ≤ room then system.append d content
    else return .error (.other "No space left on device (os error 28)")

lemma smallDisk_worksOn (room : Nat) : (smallDisk room).WorksOn id where
  makeDirectories := FileSystem.system_worksOn.makeDirectories
  openDraft := FileSystem.system_worksOn.openDraft
  append d content t r t' hrun := by
    rw [smallDisk] at hrun
    dsimp only at hrun
    split at hrun
    · exact FileSystem.system_worksOn.append d content t r t' hrun
    · obtain ⟨rfl, rfl⟩ := Prod.mk.inj hrun
      exact Or.inr ⟨⟨_, rfl⟩, rfl⟩
  publish := FileSystem.system_worksOn.publish
  discard := FileSystem.system_worksOn.discard

/-- A session that writes these pieces into the source of one class. -/
def sampleSession (chunks : List Bytes) : Session :=
  ⟨"p.A$$Stash", "p.A", chunks, .commit⟩

/-- Such a session on a small disk with nothing on it. -/
def sampleRun (chunks : List Bytes) : Outcome × FileTree :=
  ((publisher (smallDisk 3) "out").session (sampleSession chunks)).run .empty

/-- What fits on the disk is committed, and the file can be read; what does not fit leaves no draft
and no file. -/
theorem smallDisk_session :
    (smallDisk 3).WorksOn id ∧
      ((sampleRun [[1, 2], [3]]).1 = .committed ∧
        (sampleRun [[1, 2], [3]]).2.read "out/p/A$$Stash.java" = .ok [1, 2, 3] ∧
        (sampleRun [[1, 2], [3]]).2.drafts = []) ∧
      (sampleRun [[1, 2], [3, 4]]).1 = .unwritten ∧
        FileTree.empty.Untouched (sampleRun [[1, 2], [3, 4]]).2 := by
  have hworks := smallDisk_worksOn 3
  have hcommitted : (sampleRun [[1, 2], [3]]).1 = .committed := by decide +kernel
  have hunwritten : (sampleRun [[1, 2], [3, 4]]).1 = .unwritten := by decide +kernel
  obtain ⟨-, -, hfits, -⟩ :=
    session_changes_one_file hworks "out" (sampleSession [[1, 2], [3]]) .empty
  obtain ⟨-, hfull, -⟩ :=
    session_changes_one_file hworks "out" (sampleSession [[1, 2], [3, 4]]) .empty
  rw [← sampleRun] at hfits hfull
  obtain ⟨-, hdrafts, hread, -⟩ := hfits hcommitted
  have hpath : Path.source "out" (sampleSession [[1, 2], [3]]).artifact =
      "out/p/A$$Stash.java" := by
    decide +kernel
  rw [hpath] at hread
  rw [hunwritten] at hfull
  exact ⟨hworks, ⟨hcommitted, hread, hdrafts⟩, hunwritten, hfull Outcome.noConfusion⟩

end Directory

end Companion
