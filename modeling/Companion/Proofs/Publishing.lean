import Companion.Round.Basic
import Companion.Proofs.Source
import Mathlib.Tactic.Lemma

/-!
# One group after the other

A round publishes group by group, whatever the publisher does with its state. Each group goes on
from the state that the one before it has left. If all of them are published, the summaries are
theirs, and if not, the first that cannot be published stops the round with its error.
-/

namespace Companion

/-- What follows in a state goes on from the state that was left. -/
lemma StateM.run_bind {σ α β : Type} (x : StateM σ α) (f : α → StateM σ β) (s : σ) :
    (x >>= f).run s = (f (x.run s).1).run (x.run s).2 :=
  rfl

namespace Group

variable {σ Sink : Type} {config : Config}

/-- What is rendered for a group goes into one sink, at once. -/
lemma emit_run (p : Publisher (StateM σ) Sink) (config : Config) (g : Group) (s : σ) :
    (g.emit p config).run s =
      match (p.create g.info.artifact g.info.name).run s with
      | (.error e, t) => (.error e, t)
      | (.ok sink, t) =>
        match (p.write sink (Utf8.encode (g.source config))).run t with
        | (none, u) => (.error (.writeRefused g.info.artifact), ((p.discard sink).run u).2)
        | (some sink', u) =>
          match (p.commit sink').run u with
          | (.error e, v) => (.error e, v)
          | (.ok (), v) => (.ok (Variant.of g.info), v) := by
  rw [emit, render_eq_source]
  dsimp only
  rw [StateM.run_bind]
  rcases (p.create g.info.artifact g.info.name).run s with ⟨e | sink, t⟩
  · rfl
  dsimp only
  rw [StateM.run_bind]
  rcases (p.write sink (Utf8.encode (g.source config))).run t with ⟨_ | sink', u⟩
  · rfl
  dsimp only
  rw [StateM.run_bind]
  rcases (p.commit sink').run u with ⟨e | ⟨⟩, v⟩ <;> rfl

/-- Publishing groups begins with the first one, and goes on if that one is published. -/
lemma emitAll_cons_run (p : Publisher (StateM σ) Sink) (g : Group) (gs : List Group) (s : σ) :
    (emitAll p config (g :: gs)).run s =
      match (g.emit p config).run s with
      | (.error e, t) => (.error e, t)
      | (.ok _, t) =>
        match (emitAll p config gs).run t with
        | (.error e, u) => (.error e, u)
        | (.ok rest, u) => (.ok (g.summary config :: rest), u) := by
  rw [emitAll, StateM.run_bind]
  rcases (g.emit p config).run s with ⟨e | v, t⟩
  · rfl
  · dsimp only
    rw [StateM.run_bind]
    rcases (emitAll p config gs).run t with ⟨e | rest, u⟩ <;> rfl

/-- Groups are published one after the other, from one state to another. -/
inductive Emitted (p : Publisher (StateM σ) Sink) (config : Config) :
    List Group → σ → σ → Prop where
  | nil (s : σ) : Emitted p config [] s s
  | cons {g : Group} {gs : List Group} {s t u : σ} {variant : Variant}
      (hg : (g.emit p config).run s = (.ok variant, t)) (h : Emitted p config gs t u) :
      Emitted p config (g :: gs) s u

variable {p : Publisher (StateM σ) Sink}

/-- Either all groups can be published, or there is a first one that cannot. -/
lemma emitted_or_stops (p : Publisher (StateM σ) Sink) (config : Config) (gs : List Group) (s : σ) :
    (∃ t, Emitted p config gs s t) ∨
      ∃ before g after t e u, gs = before ++ g :: after ∧ Emitted p config before s t ∧
        (g.emit p config).run t = (.error e, u) := by
  induction gs generalizing s with
  | nil => exact .inl ⟨s, .nil s⟩
  | cons g gs ih =>
    rcases hg : (g.emit p config).run s with ⟨e | variant, t⟩
    · exact .inr ⟨[], g, gs, s, e, t, rfl, .nil s, hg⟩
    · rcases ih t with ⟨u, h⟩ | ⟨before, g', after, u, e, v, rfl, hbefore, hg'⟩
      · exact .inl ⟨u, .cons hg h⟩
      · exact .inr ⟨g :: before, g', after, u, e, v, rfl, .cons hg hbefore, hg'⟩

lemma Emitted.emitAll_ok {gs : List Group} {s t : σ} (h : Emitted p config gs s t) :
    (emitAll p config gs).run s = (.ok (gs.map (summary config)), t) := by
  induction h with
  | nil s => rfl
  | cons hg _ ih =>
    rw [emitAll_cons_run, hg]
    simp only [ih, List.map_cons]

/-- What stops the groups that follow published ones is the first of them that cannot be
published. -/
lemma Emitted.emitAll_error {before after : List Group} {g : Group} {s t u : σ} {e : Error}
    (h : Emitted p config before s t) (hg : (g.emit p config).run t = (.error e, u)) :
    (emitAll p config (before ++ g :: after)).run s = (.error e, u) := by
  induction h with
  | nil s => rw [List.nil_append, emitAll_cons_run, hg]
  | cons hfirst _ ih =>
    rw [List.cons_append, emitAll_cons_run, hfirst]
    simp only [ih hg]

/-- If all groups get published, the summaries are theirs. -/
lemma emitted_of_emitAll {gs : List Group} {s t : σ} {summaries : List Summary}
    (h : (emitAll p config gs).run s = (.ok summaries, t)) :
    summaries = gs.map (summary config) ∧ Emitted p config gs s t := by
  rcases emitted_or_stops p config gs s with
    ⟨u, hall⟩ | ⟨before, g, after, u, e, v, rfl, hbefore, hg⟩
  · rw [hall.emitAll_ok] at h
    obtain ⟨hok, rfl⟩ := Prod.mk.inj h
    exact ⟨(Except.ok.inj hok).symm, hall⟩
  · rw [hbefore.emitAll_error hg] at h
    cases (Prod.mk.inj h).1

/-- If publishing fails, it does so at the first group that cannot be published. -/
lemma exists_stop_of_emitAll {gs : List Group} {s u : σ} {e : Error}
    (h : (emitAll p config gs).run s = (.error e, u)) :
    ∃ before g after t, gs = before ++ g :: after ∧ Emitted p config before s t ∧
      (g.emit p config).run t = (.error e, u) := by
  rcases emitted_or_stops p config gs s with
    ⟨v, hall⟩ | ⟨before, g, after, t, e', v, rfl, hbefore, hg⟩
  · rw [hall.emitAll_ok] at h
    cases (Prod.mk.inj h).1
  · rw [hbefore.emitAll_error hg] at h
    obtain ⟨he, rfl⟩ := Prod.mk.inj h
    obtain rfl := Except.error.inj he
    exact ⟨before, g, after, t, rfl, hbefore, hg⟩

end Group

namespace Round

/-- The groups of a round with a memo of its own. -/
def groups (model : TypeModel) (config : Config) : List Group :=
  Group.ofFields (Collection.ofModel model config {}).answer.fields

variable {σ Sink : Type}

/-- What a round into any publisher gives and leaves. -/
lemma run_run (p : Publisher (StateM σ) Sink) (model : TypeModel) (config : Config) (s : σ) :
    (run p model config).run s =
      ({ result := ((Group.emitAll p config (groups model config)).run s).1.map fun artifacts =>
          { artifacts
            errorCount := (Collection.ofModel model config {}).answer.diagnostics.length
            inspectedTypes := (Collection.ofModel model config {}).answer.memo.inspected }
         diagnostics := (Collection.ofModel model config {}).answer.diagnostics
         queries := (Collection.ofModel model config {}).queries },
        ((Group.emitAll p config (groups model config)).run s).2) := by
  rw [run, StateM.run_bind]
  rfl

/-- The report of a round that succeeds is of all groups. -/
lemma report_of_run {p : Publisher (StateM σ) Sink} {model : TypeModel} {config : Config} {s : σ}
    {report : Report} (h : ((run p model config).run s).1.result = .ok report) :
    report.artifacts = (groups model config).map (Group.summary config) ∧
      report.errorCount = (Collection.ofModel model config {}).answer.diagnostics.length := by
  rw [run_run] at h
  rcases hrun : (Group.emitAll p config (groups model config)).run s with ⟨e | summaries, s'⟩
  · rw [hrun] at h
    cases h
  · rw [hrun] at h
    obtain rfl := Except.ok.inj h
    exact ⟨(Group.emitted_of_emitAll hrun).1, rfl⟩

end Round

end Companion
