import Companion.Proofs.Session
import Companion.Proofs.Store

/-!
# Sessions with a store

A store is written once. A session gets a sink exactly if the store has nothing under its name, what
it writes is one row of bytes wherever the pieces are cut, and only a commit of bytes that are valid
UTF-8 leaves anything. So a store has under each name what the first session of that name left that
left anything, and every other session has left no trace.
-/

namespace Companion

namespace Publisher.Session

/-- What a session leaves behind if it gets a sink: the text whose bytes it commits. -/
def Leaves (x : Session) (text : Text) : Prop :=
  x.ending = .commit ∧ text.utf8Encode = x.chunks.flatten.toByteArray

lemma leaves_iff {x : Session} {text : Text} :
    x.Leaves text ↔ x.ending = .commit ∧ Utf8.decode x.chunks.flatten = .ok text := by
  rw [Leaves, Utf8.decode_eq_ok_iff, ← Utf8.toByteArray_encode, List.toByteArray_inj]

lemma exists_leaves_iff {x : Session} :
    (∃ text, x.Leaves text) ↔
      x.ending = .commit ∧ x.chunks.flatten.toByteArray.IsValidUTF8 := by
  rw [← Utf8.exists_decode_eq_ok_iff, ← exists_and_left]
  exact exists_congr fun _ => leaves_iff

lemma Leaves.unique {x : Session} {text text' : Text} (h : x.Leaves text) (h' : x.Leaves text') :
    text = text' := by
  have hdecode := (leaves_iff.mp h).2
  rw [(leaves_iff.mp h').2] at hdecode
  exact (Except.ok.inj hdecode).symm

/-- Among sessions, the first one of a name that leaves anything leaves this text. -/
def IsFirst (xs : List Session) (n : QName) (text : Text) : Prop :=
  ∃ earlier x later, xs = earlier ++ x :: later ∧ x.artifact = n ∧ x.Leaves text ∧
    ∀ y ∈ earlier, y.artifact = n → ∀ text', ¬ y.Leaves text'

lemma not_isFirst_nil (n : QName) (text : Text) : ¬ IsFirst [] n text := by
  rintro ⟨earlier, x, later, hxs, -⟩
  exact List.append_ne_nil_of_right_ne_nil earlier (List.cons_ne_nil x later) hxs.symm

lemma isFirst_cons {x : Session} {xs : List Session} {n : QName} {text : Text} :
    IsFirst (x :: xs) n text ↔ (x.artifact = n ∧ x.Leaves text) ∨
      ((x.artifact = n → ∀ text', ¬ x.Leaves text') ∧ IsFirst xs n text) := by
  constructor
  · rintro ⟨_ | ⟨y, earlier⟩, z, later, hxs, hname, hleaves, hearlier⟩
    · obtain ⟨rfl, rfl⟩ := List.cons.inj hxs
      exact Or.inl ⟨hname, hleaves⟩
    · obtain ⟨rfl, rfl⟩ := List.cons.inj hxs
      obtain ⟨hx, hearlier⟩ := List.forall_mem_cons.mp hearlier
      exact Or.inr ⟨hx, earlier, z, later, rfl, hname, hleaves, hearlier⟩
  · rintro (⟨hname, hleaves⟩ | ⟨hx, earlier, z, later, rfl, hname, hleaves, hearlier⟩)
    · exact ⟨[], x, xs, rfl, hname, hleaves, fun _ hy => absurd hy List.not_mem_nil⟩
    · exact ⟨x :: earlier, z, later, rfl, hname, hleaves, List.forall_mem_cons.mpr ⟨hx, hearlier⟩⟩

end Publisher.Session

namespace Store

open Publisher (Session Outcome)

lemma writeAll_run (sink : Sink) (chunks : List Bytes) (s : Store) :
    (publisher.writeAll sink chunks).run s =
      (some { sink with content := sink.content ++ chunks.flatten }, s) := by
  induction chunks generalizing sink with
  | nil =>
    rw [List.flatten_nil, List.append_nil]
    rfl
  | cons chunk chunks ih =>
    have hwrite : (publisher.write sink chunk).run s =
        (some { sink with content := sink.content ++ chunk }, s) := rfl
    rw [Publisher.writeAll_cons_run, hwrite]
    dsimp only
    rw [ih, List.flatten_cons, List.append_assoc]

/-- The store is as it was while a session is open. -/
lemma openWith_run (artifact origin : QName) (chunks : List Bytes) (s : Store) :
    (publisher.openWith artifact origin chunks).run s =
      if (s.source? artifact).isSome then (.error (.refused (.alreadyEmitted artifact)), s)
      else (.ok ⟨artifact, chunks.flatten⟩, s) := by
  have hcreate : (publisher.create artifact origin).run s = (s.openSink artifact, s) := rfl
  rw [Publisher.openWith_run, hcreate, openSink]
  by_cases h : (s.source? artifact).isSome
  · rw [if_pos h, if_pos h]
  · rw [if_neg h, if_neg h]
    dsimp only
    rw [writeAll_run]
    rfl

lemma session_of_isSome {x : Session} {s : Store} (h : (s.source? x.artifact).isSome) :
    (publisher.session x).run s = (.refused (.alreadyEmitted x.artifact), s) := by
  rw [Publisher.session_run, openWith_run, if_pos h]

/-- A session that gets a sink. -/
lemma session_of_eq_none {x : Session} {s : Store} (h : s.source? x.artifact = none) :
    (publisher.session x).run s =
      (publisher.close ⟨x.artifact, x.chunks.flatten⟩ x.ending).run s := by
  rw [Publisher.session_run, openWith_run, h]
  rfl

lemma session_of_leaves {x : Session} {s : Store} {text : Text}
    (h : s.source? x.artifact = none) (hx : x.Leaves text) :
    (publisher.session x).run s = (.committed, s.insert x.artifact text) := by
  obtain ⟨hending, hdecode⟩ := Session.leaves_iff.mp hx
  have hcommit : (publisher.commit ⟨x.artifact, x.chunks.flatten⟩).run s =
      (.ok (), s.insert x.artifact text) := by
    simp only [publisher, StateT.run, commit, hdecode]
  rw [session_of_eq_none h, hending, Publisher.close_commit_run, hcommit]

lemma session_of_not_leaves {x : Session} {s : Store} (h : s.source? x.artifact = none)
    (hx : ∀ text, ¬ x.Leaves text) :
    ∃ outcome, (outcome = .discarded ∨ ∃ e, outcome = .uncommitted e) ∧
      (publisher.session x).run s = (outcome, s) := by
  rw [session_of_eq_none h]
  cases hending : x.ending with
  | discard => exact ⟨_, Or.inl rfl, rfl⟩
  | commit =>
    cases hdecode : Utf8.decode x.chunks.flatten with
    | ok text => exact absurd (Session.leaves_iff.mpr ⟨hending, hdecode⟩) (hx text)
    | error fault =>
      have hcommit : (publisher.commit ⟨x.artifact, x.chunks.flatten⟩).run s =
          (.error (.notUtf8 x.artifact fault), s) := by
        simp only [publisher, StateT.run, commit, hdecode]
      refine ⟨_, Or.inr ⟨.notUtf8 x.artifact fault, rfl⟩, ?_⟩
      rw [Publisher.close_commit_run, hcommit]

/-- A session finds its name taken, leaves a text, or leaves nothing. -/
lemma session_cases (x : Session) (s : Store) :
    ((s.source? x.artifact).isSome ∧
      (publisher.session x).run s = (.refused (.alreadyEmitted x.artifact), s)) ∨
    (s.source? x.artifact = none ∧ ∃ text, x.Leaves text ∧
      (publisher.session x).run s = (.committed, s.insert x.artifact text)) ∨
    (s.source? x.artifact = none ∧ (∀ text, ¬ x.Leaves text) ∧
      ∃ outcome, (outcome = .discarded ∨ ∃ e, outcome = .uncommitted e) ∧
        (publisher.session x).run s = (outcome, s)) := by
  cases h : s.source? x.artifact with
  | some text =>
    have hsome : (s.source? x.artifact).isSome := by rw [h]; rfl
    exact Or.inl ⟨rfl, session_of_isSome hsome⟩
  | none =>
    by_cases hx : ∃ text, x.Leaves text
    · obtain ⟨text, hleaves⟩ := hx
      exact Or.inr (Or.inl ⟨rfl, text, hleaves, session_of_leaves h hleaves⟩)
    · rw [not_exists] at hx
      exact Or.inr (Or.inr ⟨rfl, hx, session_of_not_leaves h hx⟩)

/-- What a store has after one session was there before, or is what the session left. -/
lemma source?_session {x : Session} {s : Store} {n : QName} {text : Text} :
    ((publisher.session x).run s).2.source? n = some text ↔
      s.source? n = some text ∨ s.source? n = none ∧ x.artifact = n ∧ x.Leaves text := by
  rcases session_cases x s with ⟨htaken, hrun⟩ | ⟨hfree, text', hleaves, hrun⟩ |
    ⟨-, hnone, outcome, -, hrun⟩
  · rw [hrun, or_iff_left]
    rintro ⟨hfree, rfl, -⟩
    rw [hfree] at htaken
    cases htaken
  · rw [hrun, source?_insert]
    split
    · next hn =>
      subst hn
      rw [hfree, Option.some.injEq]
      constructor
      · rintro rfl
        exact Or.inr ⟨rfl, rfl, hleaves⟩
      · rintro (h | ⟨-, -, h⟩)
        · cases h
        · exact hleaves.unique h
    · next hn =>
      exact (or_iff_left fun h => hn h.2.1.symm).symm
  · rw [hrun]
    exact (or_iff_left fun h => hnone text h.2.2).symm

lemma source?_session_eq_none {x : Session} {s : Store} {n : QName} :
    ((publisher.session x).run s).2.source? n = none ↔
      s.source? n = none ∧ (x.artifact = n → ∀ text, ¬ x.Leaves text) := by
  rw [Option.eq_none_iff_forall_ne_some]
  constructor
  · intro h
    have hs : s.source? n = none := by
      rw [Option.eq_none_iff_forall_ne_some]
      exact fun text htext => h text (source?_session.mpr (Or.inl htext))
    exact ⟨hs, fun hn text hx => h text (source?_session.mpr (Or.inr ⟨hs, hn, hx⟩))⟩
  · rintro ⟨hs, hx⟩ text htext
    rcases source?_session.mp htext with hsome | ⟨-, hn, hleaves⟩
    · rw [hs] at hsome
      cases hsome
    · exact hx hn text hleaves

/-- What a store has after some sessions was there before, or is what the first session left. -/
lemma source?_sessions {xs : List Session} {s : Store} {n : QName} {text : Text} :
    ((publisher.sessions xs).run s).2.source? n = some text ↔
      s.source? n = some text ∨ s.source? n = none ∧ Session.IsFirst xs n text := by
  induction xs generalizing s with
  | nil => exact (or_iff_left fun h => Session.not_isFirst_nil n text h.2).symm
  | cons x xs ih =>
    rw [Publisher.sessions_cons_run, ih, source?_session, source?_session_eq_none,
      Session.isFirst_cons, and_or_left, or_assoc, and_assoc]

/-- What was left once stays. -/
lemma source?_sessions_of_eq_some {s : Store} {n : QName} {text : Text}
    (h : s.source? n = some text) (xs : List Session) :
    ((publisher.sessions xs).run s).2.source? n = some text :=
  source?_sessions.mpr (Or.inl h)

lemma session_refused_iff {x : Session} {s : Store} :
    (∃ e, ((publisher.session x).run s).1 = .refused e) ↔ (s.source? x.artifact).isSome := by
  rcases session_cases x s with ⟨htaken, hrun⟩ | ⟨hfree, text, -, hrun⟩ |
    ⟨hfree, -, outcome, houtcome, hrun⟩
  · rw [hrun]
    exact iff_of_true ⟨_, rfl⟩ htaken
  · rw [hrun, hfree]
    refine iff_of_false ?_ Bool.false_ne_true
    rintro ⟨e, he⟩
    cases he
  · rw [hrun, hfree]
    refine iff_of_false ?_ Bool.false_ne_true
    rintro ⟨e, rfl⟩
    rcases houtcome with h | ⟨e', h⟩ <;> cases h

lemma session_committed_iff {x : Session} {s : Store} :
    ((publisher.session x).run s).1 = .committed ↔
      s.source? x.artifact = none ∧ ∃ text, x.Leaves text := by
  rcases session_cases x s with ⟨htaken, hrun⟩ | ⟨hfree, text, hleaves, hrun⟩ |
    ⟨-, hnone, outcome, houtcome, hrun⟩
  · rw [hrun]
    refine iff_of_false Outcome.noConfusion ?_
    rintro ⟨hfree, -⟩
    rw [hfree] at htaken
    cases htaken
  · rw [hrun]
    exact iff_of_true rfl ⟨hfree, text, hleaves⟩
  · rw [hrun]
    refine iff_of_false ?_ ?_
    · rintro rfl
      rcases houtcome with h | ⟨e, h⟩ <;> cases h
    · rintro ⟨-, text, hleaves⟩
      exact hnone text hleaves

lemma session_of_ne_committed {x : Session} {s : Store}
    (h : ((publisher.session x).run s).1 ≠ .committed) : ((publisher.session x).run s).2 = s := by
  rcases session_cases x s with ⟨-, hrun⟩ | ⟨-, text, -, hrun⟩ | ⟨-, -, outcome, -, hrun⟩
  · rw [hrun]
  · rw [hrun] at h
    exact absurd rfl h
  · rw [hrun]

/-- A store is written once, whatever sessions there are. Under each name it has what the first
session left that left anything. The next session gets no sink exactly if its name is taken. It is
committed exactly if it gets one, is to be, and all it writes is valid UTF-8 together; its text is
then in the store, beside what was there, for good. Any other session leaves the store as it was. -/
theorem sessions_write_once (before : List Session) (x : Session) (after : List Session) :
    let s := ((publisher.sessions before).run {}).2
    let ran := (publisher.session x).run s
    (∀ n text, s.source? n = some text ↔ Session.IsFirst before n text) ∧
    ((∃ e, ran.1 = .refused e) ↔ (s.source? x.artifact).isSome) ∧
    (ran.1 = .committed ↔ s.source? x.artifact = none ∧ x.ending = .commit ∧
      x.chunks.flatten.toByteArray.IsValidUTF8) ∧
    (ran.1 = .committed → ∃ text : Text, text.utf8Encode = x.chunks.flatten.toByteArray ∧
      ∀ n, ran.2.source? n = if n = x.artifact then some text else s.source? n) ∧
    (ran.1 ≠ .committed → ran.2 = s) ∧
    ∀ n text, ran.2.source? n = some text →
      ((publisher.sessions (before ++ x :: after)).run {}).2.source? n = some text := by
  intro s ran
  refine ⟨fun n text => ?_, session_refused_iff, ?_, fun hran => ?_, session_of_ne_committed,
    fun n text h => ?_⟩
  · have hempty : ({} : Store).source? n = none := rfl
    rw [source?_sessions, hempty]
    exact (or_iff_right (Option.some_ne_none text).symm).trans (and_iff_right rfl)
  · exact session_committed_iff.trans (and_congr_right fun _ => Session.exists_leaves_iff)
  · obtain ⟨hfree, text, hleaves⟩ := session_committed_iff.mp hran
    have hran : ran = (.committed, s.insert x.artifact text) := session_of_leaves hfree hleaves
    refine ⟨text, hleaves.2, fun n => ?_⟩
    rw [hran, source?_insert]
  · rw [Publisher.sessions_append_run, Publisher.sessions_cons_run]
    exact source?_sessions_of_eq_some h after

/-- Sessions of one name: half a character, something given up, the character in two pieces, and one
too many. -/
def sampleSessions : List Session :=
  [⟨"p.A", "p", [[0xE2, 0x82]], .commit⟩, ⟨"p.A", "p", [[0x61]], .discard⟩,
    ⟨"p.A", "p", [[0xE2], [0x82, 0xAC]], .commit⟩, ⟨"p.A", "p", [[0x61]], .commit⟩]

example : ((publisher.sessions sampleSessions).run {}).1 =
      [.uncommitted (.notUtf8 "p.A" ⟨0, none⟩), .discarded, .committed,
        .refused (.alreadyEmitted "p.A")] ∧
    ((publisher.sessions sampleSessions).run {}).2 = ⟨[("p.A", ['€'])]⟩ := by
  decide +kernel

end Store

end Companion
