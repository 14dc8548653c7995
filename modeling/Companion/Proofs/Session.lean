import Companion.Publisher.Session
import Companion.Proofs.Publishing

/-!
# Sessions step by step

What a session does with any publisher: a sink is opened, written to piece by piece, and committed or
given up, each from the state that was left before. Sessions that follow one another do so as well.
-/

namespace Companion.Publisher

variable {σ Sink : Type} (p : Publisher (StateM σ) Sink)

lemma writeAll_cons_run (sink : Sink) (chunk : Bytes) (chunks : List Bytes) (s : σ) :
    (p.writeAll sink (chunk :: chunks)).run s =
      match (p.write sink chunk).run s with
      | (none, s₁) => (none, ((p.discard sink).run s₁).2)
      | (some sink', s₁) => (p.writeAll sink' chunks).run s₁ := by
  rw [writeAll, StateM.run_bind]
  rcases (p.write sink chunk).run s with ⟨_ | sink', s₁⟩ <;> rfl

lemma openWith_run (artifact origin : QName) (chunks : List Bytes) (s : σ) :
    (p.openWith artifact origin chunks).run s =
      match (p.create artifact origin).run s with
      | (.error e, s₁) => (.error (.refused e), s₁)
      | (.ok sink, s₁) =>
        match (p.writeAll sink chunks).run s₁ with
        | (none, s₂) => (.error .unwritten, s₂)
        | (some sink', s₂) => (.ok sink', s₂) := by
  rw [openWith, StateM.run_bind]
  rcases (p.create artifact origin).run s with ⟨e | sink, s₁⟩
  · rfl
  · dsimp only
    rw [StateM.run_bind]
    rcases (p.writeAll sink chunks).run s₁ with ⟨_ | sink', s₂⟩ <;> rfl

lemma close_commit_run (sink : Sink) (s : σ) :
    (p.close sink .commit).run s =
      match (p.commit sink).run s with
      | (.error e, s₁) => (.uncommitted e, s₁)
      | (.ok (), s₁) => (.committed, s₁) := by
  rw [close, StateM.run_bind]
  rcases (p.commit sink).run s with ⟨e | ⟨⟩, s₁⟩ <;> rfl

lemma session_run (x : Session) (s : σ) :
    (p.session x).run s =
      match (p.openWith x.artifact x.origin x.chunks).run s with
      | (.error outcome, s₁) => (outcome, s₁)
      | (.ok sink, s₁) => (p.close sink x.ending).run s₁ := by
  rw [session, StateM.run_bind]
  rcases (p.openWith x.artifact x.origin x.chunks).run s with ⟨outcome | sink, s₁⟩ <;> rfl

lemma sessions_cons_run (x : Session) (xs : List Session) (s : σ) :
    ((p.sessions (x :: xs)).run s).2 = ((p.sessions xs).run ((p.session x).run s).2).2 :=
  rfl

lemma sessions_append_run (xs ys : List Session) (s : σ) :
    ((p.sessions (xs ++ ys)).run s).2 = ((p.sessions ys).run ((p.sessions xs).run s).2).2 := by
  induction xs generalizing s with
  | nil => rfl
  | cons x xs ih => rw [List.cons_append, sessions_cons_run, sessions_cons_run, ih]

end Companion.Publisher
