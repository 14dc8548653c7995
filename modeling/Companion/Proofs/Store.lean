import Companion.Publisher.Memory
import Companion.Proofs.Entries
import Companion.Proofs.Publishing
import Companion.Proofs.Utf8

/-!
# Publishing through a store

A store publishes no name twice, and nothing else can go wrong with it. Another publisher may stand
before a store and fail where the store would not: it may refuse a sink, lose what is written, or
refuse to commit. All that is asked of it is that nothing reaches the store but by a commit that
succeeds, of a sink that the store has opened and of what was written to it.
-/

namespace Companion

namespace Store

lemma lookup_insertInto (n : QName) (source : Text) (entries : List (QName × Text)) (a : QName) :
    (insertInto n source entries).lookup a =
      if a = n then some source else entries.lookup a := by
  induction entries with
  | nil => exact Entries.lookup_cons n source [] a
  | cons entry entries ih =>
    obtain ⟨k, old⟩ := entry
    rw [insertInto]
    by_cases hn : n = k
    · rw [if_pos hn, Entries.lookup_cons, Entries.lookup_cons, hn]
      split <;> rfl
    · rw [if_neg hn]
      split
      · exact Entries.lookup_cons n source _ a
      · rw [Entries.lookup_cons, Entries.lookup_cons, ih]
        by_cases ha : a = k
        · rw [if_pos ha, if_pos ha, if_neg fun han => hn (han.symm.trans ha)]
        · rw [if_neg ha, if_neg ha]

/-- What a store has under a name after a source is put into it. -/
lemma source?_insert (s : Store) (n : QName) (source : Text) (a : QName) :
    (s.insert n source).source? a = if a = n then some source else s.source? a :=
  lookup_insertInto n source s.sources a

/-- The store after the source of a group is published, or the reason why it cannot be. -/
def publish (config : Config) (g : Group) (s : Store) : Except Error Store :=
  match (Variant.of g.info).render config g with
  | .error e => .error e
  | .ok source =>
    match s.openSink g.info.artifact with
    | .error e => .error e
    | .ok sink => s.commit { sink with content := sink.content ++ Utf8.encode source }

/-- A group that cannot be published leaves the store as it was. -/
lemma emit_run (config : Config) (g : Group) (s : Store) :
    (g.emit publisher config).run s =
      match s.publish config g with
      | .ok s' => (.ok (Variant.of g.info), s')
      | .error e => (.error e, s) := by
  rw [Group.emit_run, publish, Group.render_eq_source]
  dsimp only [publisher, StateT.run]
  cases s.openSink g.info.artifact with
  | error e => rfl
  | ok sink =>
    dsimp only
    cases s.commit { sink with content := sink.content ++ Utf8.encode (g.source config) } <;> rfl

variable {config : Config}

/-- Only a new name is published. -/
lemma publish_eq (g : Group) (s : Store) :
    s.publish config g =
      if (s.source? g.info.artifact).isSome then .error (.alreadyEmitted g.info.artifact)
      else .ok (s.insert g.info.artifact (g.source config)) := by
  rw [publish, Group.render_eq_source, openSink]
  by_cases hs : (s.source? g.info.artifact).isSome
  · simp only [if_pos hs]
  · simp only [if_neg hs, commit, List.nil_append, Utf8.decode_encode]

lemma publish_ok {g : Group} {s s' : Store} (h : s.publish config g = .ok s') :
    s.source? g.info.artifact = none ∧ s' = s.insert g.info.artifact (g.source config) := by
  rw [publish_eq] at h
  split at h
  · cases h
  · next hs => exact ⟨by simpa using hs, (Except.ok.inj h).symm⟩

/-- The second store has the sources of groups, each under a new name of its own, and otherwise
what the first one has. -/
structure Published (config : Config) (groups : List Group) (s s' : Store) : Prop where
  nodup : (groups.map (·.info.artifact)).Nodup
  fresh : ∀ g ∈ groups, s.source? g.info.artifact = none
  sources : ∀ g ∈ groups, s'.source? g.info.artifact = some (g.source config)
  others : ∀ n, n ∉ groups.map (·.info.artifact) → s'.source? n = s.source? n

lemma Published.nil (s : Store) : Published config [] s s where
  nodup := .nil
  fresh _ hg := absurd hg List.not_mem_nil
  sources _ hg := absurd hg List.not_mem_nil
  others _ _ := rfl

lemma Published.cons {g : Group} {gs : List Group} {s s' s'' : Store}
    (hg : s.publish config g = .ok s') (h : Published config gs s' s'') :
    Published config (g :: gs) s s'' := by
  obtain ⟨hnew, rfl⟩ := publish_ok hg
  have hself : (s.insert g.info.artifact (g.source config)).source? g.info.artifact =
      some (g.source config) := by
    rw [source?_insert, if_pos rfl]
  have hne : ∀ x ∈ gs, x.info.artifact ≠ g.info.artifact := by
    intro x hx heq
    have hfresh := h.fresh x hx
    rw [heq, hself] at hfresh
    cases hfresh
  have hnotMem : g.info.artifact ∉ gs.map (·.info.artifact) := by
    intro hmem
    obtain ⟨x, hx, heq⟩ := List.mem_map.mp hmem
    exact hne x hx heq
  refine ⟨List.nodup_cons.mpr ⟨hnotMem, h.nodup⟩, fun x hx => ?_, fun x hx => ?_, fun n hn => ?_⟩
  · rcases List.mem_cons.mp hx with rfl | hx
    · exact hnew
    · rw [← h.fresh x hx, source?_insert, if_neg (hne x hx)]
  · rcases List.mem_cons.mp hx with rfl | hx
    · rw [h.others _ hnotMem, hself]
    · exact h.sources x hx
  · rw [List.map_cons, List.mem_cons, not_or] at hn
    rw [h.others n hn.2, source?_insert, if_neg hn.1]

end Store

namespace Publisher

variable {σ Sink : Type}

/-- A publisher publishes through a store, if at all: `Backs k sink` says that `k` is the sink of
the store behind `sink`, and a sink with none behind it can never be committed. -/
structure Through (p : Publisher (StateM σ) Sink) (store : σ → Store)
    (Backs : Store.Sink → Sink → Prop) : Prop where
  create_store : ∀ artifact origin s, store ((p.create artifact origin).run s).2 = store s
  create_backs : ∀ artifact origin s sink, ((p.create artifact origin).run s).1 = .ok sink →
    ∀ k, Backs k sink → (store s).openSink artifact = .ok k
  write_store : ∀ sink content s, store ((p.write sink content).run s).2 = store s
  write_backs : ∀ sink content s sink', ((p.write sink content).run s).1 = some sink' →
    ∀ k', Backs k' sink' → ∃ k, Backs k sink ∧ k' = { k with content := k.content ++ content }
  commit_ok : ∀ sink s, ((p.commit sink).run s).1 = .ok () →
    ∃ k, Backs k sink ∧ (store s).commit k = .ok (store ((p.commit sink).run s).2)
  commit_error : ∀ sink s e, ((p.commit sink).run s).1 = .error e →
    store ((p.commit sink).run s).2 = store s
  discard_store : ∀ sink s, store ((p.discard sink).run s).2 = store s

end Publisher

namespace Group

variable {σ Sink : Type} {p : Publisher (StateM σ) Sink} {config : Config} {store : σ → Store}
  {Backs : Store.Sink → Sink → Prop} (hp : p.Through store Backs)
include hp

/-- A group is published as the store itself would publish it. -/
lemma publish_of_emit {g : Group} {s t : σ} {variant : Variant}
    (h : (g.emit p config).run s = (.ok variant, t)) :
    (store s).publish config g = .ok (store t) := by
  rw [emit_run] at h
  have hcreate := hp.create_store g.info.artifact g.info.name s
  have hbacks := hp.create_backs g.info.artifact g.info.name s
  rcases hc : (p.create g.info.artifact g.info.name).run s with ⟨e | sink, s₁⟩
  · simp only [hc] at h
    cases (Prod.mk.inj h).1
  have hwrite := hp.write_store sink (Utf8.encode (g.source config)) s₁
  have hwritten := hp.write_backs sink (Utf8.encode (g.source config)) s₁
  rcases hw : (p.write sink (Utf8.encode (g.source config))).run s₁ with ⟨_ | sink', s₂⟩
  · simp only [hc, hw] at h
    cases (Prod.mk.inj h).1
  have hcommit := hp.commit_ok sink' s₂
  rcases hk : (p.commit sink').run s₂ with ⟨e | ⟨⟩, s₃⟩
  · simp only [hc, hw, hk] at h
    cases (Prod.mk.inj h).1
  simp only [hc, hw, hk] at h
  obtain ⟨-, rfl⟩ := Prod.mk.inj h
  rw [hc] at hcreate hbacks
  rw [hw] at hwrite hwritten
  rw [hk] at hcommit
  obtain ⟨k', hk', hcommitted⟩ := hcommit rfl
  obtain ⟨k, hback, rfl⟩ := hwritten sink' rfl k' hk'
  have hopen := hbacks sink rfl k hback
  rw [Store.publish, render_eq_source]
  simp only [hopen]
  rw [← hcommitted, hwrite, hcreate]

/-- A group that cannot be published leaves the store as it was. -/
lemma store_of_emit_error {g : Group} {s t : σ} {e : Error}
    (h : (g.emit p config).run s = (.error e, t)) : store t = store s := by
  rw [emit_run] at h
  have hcreate := hp.create_store g.info.artifact g.info.name s
  rcases hc : (p.create g.info.artifact g.info.name).run s with ⟨e' | sink, s₁⟩
  · simp only [hc] at h
    obtain ⟨-, rfl⟩ := Prod.mk.inj h
    rw [hc] at hcreate
    exact hcreate
  rw [hc] at hcreate
  have hwrite := hp.write_store sink (Utf8.encode (g.source config)) s₁
  rcases hw : (p.write sink (Utf8.encode (g.source config))).run s₁ with ⟨_ | sink', s₂⟩
  · simp only [hc, hw] at h
    obtain ⟨-, rfl⟩ := Prod.mk.inj h
    rw [hw] at hwrite
    rw [hp.discard_store, hwrite, hcreate]
  rw [hw] at hwrite
  have hcommit := hp.commit_error sink' s₂
  rcases hk : (p.commit sink').run s₂ with ⟨e' | ⟨⟩, s₃⟩
  · simp only [hc, hw, hk] at h
    obtain ⟨-, rfl⟩ := Prod.mk.inj h
    rw [hk] at hcommit
    rw [hcommit e' rfl, hwrite, hcreate]
  · simp only [hc, hw, hk] at h
    cases (Prod.mk.inj h).1

lemma Emitted.published {gs : List Group} {s t : σ} (h : Emitted p config gs s t) :
    Store.Published config gs (store s) (store t) := by
  induction h with
  | nil s => exact .nil _
  | cons hg _ ih => exact .cons (publish_of_emit hp hg) ih

end Group

namespace Store

/-- A store publishes through itself. -/
lemma publisher_through : publisher.Through id (· = ·) where
  create_store _ _ _ := rfl
  create_backs artifact origin s sink h k hk := by rw [hk]; exact h
  write_store _ _ _ := rfl
  write_backs sink content s sink' h k' hk' := by
    obtain rfl := Option.some.inj h
    exact ⟨sink, rfl, hk'⟩
  commit_ok sink s h := by
    refine ⟨sink, rfl, ?_⟩
    simp only [publisher, StateT.run, id] at h ⊢
    split at h
    · next s' hs => rw [hs]
    · cases h
  commit_error sink s e h := by
    simp only [publisher, StateT.run, id] at h ⊢
    split at h
    · cases h
    · rfl
  discard_store _ _ := rfl

variable {config : Config}

/-- If all groups get published, the summaries are theirs. -/
lemma emitAll_ok {gs : List Group} {s s' : Store} {summaries : List Summary}
    (h : (Group.emitAll publisher config gs).run s = (.ok summaries, s')) :
    summaries = gs.map (Group.summary config) ∧ Published config gs s s' := by
  obtain ⟨hsummaries, hemitted⟩ := Group.emitted_of_emitAll h
  exact ⟨hsummaries, hemitted.published publisher_through⟩

/-- A source under a new name leaves the other names free. -/
lemma free_insert {s : Store} {n : QName} {names : List QName} (hn : n ∉ names)
    (free : ∀ a ∈ n :: names, s.source? a = none) (source : Text) :
    ∀ a ∈ names, (s.insert n source).source? a = none := by
  intro a ha
  rw [source?_insert, if_neg (ne_of_mem_of_not_mem ha hn)]
  exact free a (List.mem_cons_of_mem n ha)

/-- Groups with distinct artifacts that the store does not have get published. -/
lemma exists_emitted {gs : List Group} {s : Store} (nodup : (gs.map (·.info.artifact)).Nodup)
    (free : ∀ n ∈ gs.map (·.info.artifact), s.source? n = none) :
    ∃ t, Group.Emitted publisher config gs s t := by
  induction gs generalizing s with
  | nil => exact ⟨s, .nil s⟩
  | cons g gs ih =>
    rw [List.map_cons] at nodup free
    obtain ⟨hnew, nodup⟩ := List.nodup_cons.mp nodup
    have hg : (g.emit publisher config).run s = (.ok (Variant.of g.info),
        s.insert g.info.artifact (g.source config)) := by
      rw [emit_run, publish_eq, free _ List.mem_cons_self]
      rfl
    obtain ⟨t, hemitted⟩ := ih nodup (free_insert hnew free _)
    exact ⟨t, .cons hg hemitted⟩

end Store

end Companion
