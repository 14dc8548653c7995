import Companion.Publisher.Faulty
import Companion.Proofs.Round

/-!
# Rounds that break down

A round through a store stops at the first group that cannot be published, be it that its name is
taken or that the publisher before the store fails. The groups before it are published as in any
round, and of it and the groups after it the store has nothing. A publisher whose sinks break down
as planned fails in each of these ways.
-/

namespace Companion

namespace FaultyStore

/-- The error of an artifact whose sink breaks down. -/
def errorOf (artifact : QName) : Breakdown → Error
  | .create => .sinkRefused artifact
  | .write => .writeRefused artifact
  | .commit => .sinkClosed

/-- A sink that breaks down has no sink of the store behind it. -/
def Backs (k : Store.Sink) (sink : Sink) : Prop :=
  sink = .sound k

/-- However its sinks break down, the publisher publishes through its store. -/
lemma publisher_through (plan : Nat → Option Breakdown) :
    (publisher plan).Through FaultyStore.store Backs where
  create_store artifact origin s := by
    simp only [publisher, StateT.run]
    split <;> rfl
  create_backs artifact origin s sink h k hk := by
    obtain rfl : sink = .sound k := hk
    simp only [publisher, StateT.run] at h
    split at h
    · cases hopen : s.store.openSink artifact with
      | error e =>
        rw [hopen] at h
        cases h
      | ok k' =>
        rw [hopen] at h
        obtain rfl := Sink.sound.inj (Except.ok.inj h)
        rfl
    · cases h
    · cases Except.ok.inj h
  write_store sink content s := by
    rcases sink with k | _ | _ | _ <;> rfl
  write_backs sink content s sink' h k' hk' := by
    obtain rfl : sink' = .sound k' := hk'
    rcases sink with k | _ | _ | _
    · exact ⟨k, rfl, (Sink.sound.inj (Option.some.inj h)).symm⟩
    · cases Option.some.inj h
    · cases h
    · cases Option.some.inj h
  commit_ok sink s h := by
    rcases sink with k | breakdown
    · refine ⟨k, rfl, ?_⟩
      simp only [publisher, StateT.run] at h ⊢
      split at h
      · next store hstore => rw [hstore]
      · cases h
    · cases h
  commit_error sink s e h := by
    rcases sink with k | breakdown
    · simp only [publisher, StateT.run] at h ⊢
      split at h
      · cases h
      · rfl
    · rfl
  discard_store _ _ := rfl

/-- A group is published as the store would, unless its sink breaks down, and then the error tells
how. -/
lemma emit_run (plan : Nat → Option Breakdown) (config : Config) (g : Group) (s : FaultyStore) :
    (g.emit (publisher plan) config).run s =
      match plan s.asked with
      | none =>
        match s.store.publish config g with
        | .ok store => (.ok (Variant.of g.info), ⟨s.asked + 1, store⟩)
        | .error e => (.error e, ⟨s.asked + 1, s.store⟩)
      | some breakdown =>
        (.error (errorOf g.info.artifact breakdown), ⟨s.asked + 1, s.store⟩) := by
  rw [Group.emit_run]
  cases hplan : plan s.asked with
  | none =>
    cases hopen : s.store.openSink g.info.artifact with
    | error e =>
      simp [publisher, StateT.run, hplan, hopen, Store.publish, Group.render_eq_source, Except.map]
    | ok k =>
      cases hcommit : s.store.commit
        { k with content := k.content ++ Utf8.encode (g.source config) }
      all_goals
        simp [publisher, StateT.run, hplan, hopen, hcommit, Store.publish, Group.render_eq_source,
          Except.map]
  | some breakdown => cases breakdown <;> simp [publisher, StateT.run, hplan, errorOf]

/-- As long as no sink breaks down and their names are new and distinct, groups are published. -/
lemma exists_emitted {plan : Nat → Option Breakdown} {config : Config} {gs : List Group}
    {s : FaultyStore} (sound : ∀ n, s.asked ≤ n → n < s.asked + gs.length → plan n = none)
    (nodup : (gs.map (·.info.artifact)).Nodup)
    (free : ∀ n ∈ gs.map (·.info.artifact), s.store.source? n = none) :
    ∃ t : FaultyStore, Group.Emitted (publisher plan) config gs s t ∧
      t.asked = s.asked + gs.length := by
  induction gs generalizing s with
  | nil => exact ⟨s, .nil s, rfl⟩
  | cons g gs ih =>
    rw [List.length_cons] at sound
    rw [List.map_cons] at nodup free
    obtain ⟨hnew, nodup⟩ := List.nodup_cons.mp nodup
    have hg : (g.emit (publisher plan) config).run s = (.ok (Variant.of g.info),
        ⟨s.asked + 1, s.store.insert g.info.artifact (g.source config)⟩) := by
      rw [emit_run, sound s.asked le_rfl (by omega), Store.publish_eq,
        free _ List.mem_cons_self]
      rfl
    have hsound : ∀ n, s.asked + 1 ≤ n → n < s.asked + 1 + gs.length → plan n = none :=
      fun n hle hlt => sound n (by omega) (by omega)
    obtain ⟨t, hemitted, hasked⟩ := ih (s := ⟨s.asked + 1, _⟩) hsound nodup
      (Store.free_insert hnew free _)
    have hlength : s.asked + 1 + gs.length = s.asked + (gs.length + 1) := by omega
    exact ⟨t, .cons hg hemitted, hasked.trans hlength⟩

end FaultyStore

namespace Round

variable {σ Sink : Type} {p : Publisher (StateM σ) Sink} {store : σ → Store}
  {Backs : Store.Sink → Sink → Prop}

/-- How a round stops at a group, with an error: the groups before it are published and nothing
else is, what was there is kept, and neither the texts nor the problems that are reported differ
from those of a round that succeeds, whatever the store of that round had before. -/
structure StopsAt (p : Publisher (StateM σ) Sink) (store : σ → Store) (m : TypeModel)
    (config : Config) (s : σ) (before : List Group) (g : Group) (e : Error) : Prop where
  result : ((run p m config).run s).1.result = .error e
  refused : ∃ t, Group.Emitted p config before s t ∧ ((g.emit p config).run t).1 = .error e
  published : Store.Published config before (store s) (store ((run p m config).run s).2)
  kept : ∀ n text, (store s).source? n = some text →
    (store ((run p m config).run s).2).source? n = some text
  texts : ∀ s₀ report, ((run Store.publisher m config).run s₀).1.result = .ok report →
    ∀ x ∈ before, (store ((run p m config).run s).2).source? x.info.artifact =
      ((run Store.publisher m config).run s₀).2.source? x.info.artifact
  diagnostics : ∀ s₀, ((run p m config).run s).1.diagnostics =
    ((run Store.publisher m config).run s₀).1.diagnostics

/-- A round that succeeds has published all groups, whatever the store had before. -/
lemma published_of_run {m : TypeModel} {config : Config} {s₀ : Store} {report : Report}
    (h : ((run Store.publisher m config).run s₀).1.result = .ok report) :
    Store.Published config (groups m config) s₀ ((run Store.publisher m config).run s₀).2 := by
  rw [run_run] at h ⊢
  rcases hrun : (Group.emitAll Store.publisher config (groups m config)).run s₀ with
    ⟨e | summaries, u⟩
  · rw [hrun] at h
    cases h
  · exact (Store.emitAll_ok hrun).2

lemma stopsAt (hp : p.Through store Backs) {m : TypeModel} {config : Config} {s t : σ}
    {before after : List Group} {g : Group} {e : Error}
    (hgroups : groups m config = before ++ g :: after) (hbefore : Group.Emitted p config before s t)
    (hg : ((g.emit p config).run t).1 = .error e) :
    StopsAt p store m config s before g e := by
  rcases hemit : (g.emit p config).run t with ⟨result, u⟩
  rw [hemit] at hg
  obtain rfl : result = .error e := hg
  have hall : (Group.emitAll p config (groups m config)).run s = (.error e, u) := by
    rw [hgroups]
    exact hbefore.emitAll_error hemit
  have hstate : ((run p m config).run s).2 = u := by
    rw [run_run, hall]
  have hpublished : Store.Published config before (store s) (store u) := by
    rw [Group.store_of_emit_error hp hemit]
    exact hbefore.published hp
  refine
    { result := by rw [run_run, hall]; rfl
      refused := ⟨t, hbefore, by rw [hemit]⟩
      published := hstate ▸ hpublished
      kept := fun n text hn => ?_
      texts := fun s₀ report hr x hx => ?_
      diagnostics := fun s₀ => by rw [run_run, run_run] }
  · rw [hstate, hpublished.others n fun hmem => ?_, hn]
    obtain ⟨x, hx, rfl⟩ := List.mem_map.mp hmem
    rw [hpublished.fresh x hx] at hn
    cases hn
  · have hmem : x ∈ groups m config := by
      rw [hgroups]
      exact List.mem_append_left _ hx
    rw [hstate, hpublished.sources x hx, (published_of_run hr).sources x hmem]

/-- As long as no sink breaks down and their names are free, the first groups are published. -/
lemma exists_emitted_of_free {plan : Nat → Option Breakdown} {m : TypeModel} {config : Config}
    {s : FaultyStore} (names : List QName) {n : QName} {more : List QName}
    (h : (groups m config).map (·.info.artifact) = names ++ n :: more)
    (sound : ∀ i, s.asked ≤ i → i < s.asked + names.length → plan i = none)
    (nodup : names.Nodup) (free : ∀ a ∈ names, s.store.source? a = none) :
    ∃ (before : List Group) (g : Group) (after : List Group) (t : FaultyStore),
      groups m config = before ++ g :: after ∧ before.map (·.info.artifact) = names ∧
      g.info.artifact = n ∧ Group.Emitted (FaultyStore.publisher plan) config before s t ∧
      t.asked = s.asked + names.length := by
  obtain ⟨before, rest, hgroups, rfl, hrest⟩ := List.map_eq_append_iff.mp h
  obtain ⟨g, after, rfl, hg, -⟩ := List.map_eq_cons_iff.mp hrest
  rw [List.length_map] at sound ⊢
  obtain ⟨t, hemitted, hasked⟩ := FaultyStore.exists_emitted sound nodup free
  exact ⟨before, g, after, t, hgroups, rfl, hg, hemitted, hasked⟩

/-- A round through a store fails exactly if one of its groups, in the order of their names, cannot
be published after those before it, and it stops there with the error of this group. A name that
the store has already is reason enough. -/
theorem run_error_iff_stopsAt (hp : p.Through store Backs) (m : TypeModel) (config : Config)
    (s : σ) :
    Group.Ordered (groups m config) ∧
    (∀ e, ((run p m config).run s).1.result = .error e ↔
      ∃ before g after, groups m config = before ++ g :: after ∧
        StopsAt p store m config s before g e) ∧
    (∀ before g after t e, groups m config = before ++ g :: after →
      Group.Emitted p config before s t → ((g.emit p config).run t).1 = .error e →
        StopsAt p store m config s before g e) ∧
    ∀ (g : Group) (t : σ), ((store t).source? g.info.artifact).isSome →
      ∃ e, ((g.emit p config).run t).1 = .error e := by
  refine ⟨groups_ordered m config, fun e => ⟨fun h => ?_, ?_⟩, ?_, fun g t htaken => ?_⟩
  · rw [run_run] at h
    rcases hall : (Group.emitAll p config (groups m config)).run s with ⟨e' | summaries, u⟩
    · rw [hall] at h
      obtain rfl := Except.error.inj h
      obtain ⟨before, g, after, t, hgroups, hbefore, hg⟩ := Group.exists_stop_of_emitAll hall
      exact ⟨before, g, after, hgroups, stopsAt hp hgroups hbefore (congrArg Prod.fst hg)⟩
    · rw [hall] at h
      cases h
  · rintro ⟨before, g, after, -, h⟩
    exact h.result
  · exact fun before g after t e => stopsAt hp
  · rcases hg : (g.emit p config).run t with ⟨e | variant, u⟩
    · exact ⟨e, rfl⟩
    · have hpublish := Group.publish_of_emit hp hg
      rw [Store.publish_eq, if_pos htaken] at hpublish
      cases hpublish

/-- A store with the artifact of another program, and one that this program has as well. -/
def olderStore : Store :=
  ⟨[("p.Leaf$$Stash", "old"), ("q.Old$$Stash", "old")]⟩

/-- The third sink breaks down when it is written to. -/
def thirdBreaks (n : Nat) : Option Breakdown :=
  if n = 2 then some .write else none

lemma sampleManifest_artifacts :
    (groups (Catalog.unchecked Ancestry.sampleManifest).model {}).map (·.info.artifact) =
      ["p.Base$$Stash", "p.Dial$$Stash", "p.Gauge$$Stash", "p.Leaf$$Stash"] := by
  decide +kernel

/-- A round breaks down at its third group, and the next one at the name that is taken. -/
theorem thirdBreaks_stopsAt :
    (∃ (before : List Group) (g : Group) (after : List Group),
      groups (Catalog.unchecked Ancestry.sampleManifest).model {} = before ++ g :: after ∧
      before.map (·.info.artifact) = ["p.Base$$Stash", "p.Dial$$Stash"] ∧
      StopsAt (FaultyStore.publisher thirdBreaks) FaultyStore.store
        (Catalog.unchecked Ancestry.sampleManifest).model {} ⟨0, olderStore⟩ before g
        (.writeRefused "p.Gauge$$Stash")) ∧
    ∃ (before : List Group) (g : Group) (after : List Group),
      groups (Catalog.unchecked Ancestry.sampleManifest).model {} = before ++ g :: after ∧
      before.map (·.info.artifact) = ["p.Base$$Stash", "p.Dial$$Stash", "p.Gauge$$Stash"] ∧
      StopsAt (FaultyStore.publisher thirdBreaks) FaultyStore.store
        (Catalog.unchecked Ancestry.sampleManifest).model {} ⟨3, olderStore⟩ before g
        (.alreadyEmitted "p.Leaf$$Stash") := by
  have hp := FaultyStore.publisher_through thirdBreaks
  constructor
  · have hsound : ∀ i, 0 ≤ i → i < 2 → thirdBreaks i = none :=
      fun i _ hi => if_neg (by omega)
    obtain ⟨before, g, after, t, hgroups, hbefore, hg, hemitted, hasked⟩ :=
      exists_emitted_of_free ["p.Base$$Stash", "p.Dial$$Stash"] (s := ⟨0, olderStore⟩)
        sampleManifest_artifacts hsound (by decide) (by decide)
    obtain ⟨-, -, hstops, -⟩ := run_error_iff_stopsAt hp
      (Catalog.unchecked Ancestry.sampleManifest).model {} ⟨0, olderStore⟩
    refine ⟨before, g, after, hgroups, hbefore, hstops before g after t _ hgroups hemitted ?_⟩
    rw [FaultyStore.emit_run, hasked, hg]
    rfl
  · have hsound : ∀ i, 3 ≤ i → i < 6 → thirdBreaks i = none :=
      fun i hi _ => if_neg (by omega)
    obtain ⟨before, g, after, t, hgroups, hbefore, hg, hemitted, hasked⟩ :=
      exists_emitted_of_free ["p.Base$$Stash", "p.Dial$$Stash", "p.Gauge$$Stash"]
        (s := ⟨3, olderStore⟩) sampleManifest_artifacts hsound (by decide) (by decide)
    have htaken : t.store.source? g.info.artifact = some "old" := by
      rw [(hemitted.published hp).others _ (by rw [hbefore, hg]; decide), hg]
      decide
    obtain ⟨-, -, hstops, -⟩ := run_error_iff_stopsAt hp
      (Catalog.unchecked Ancestry.sampleManifest).model {} ⟨3, olderStore⟩
    refine ⟨before, g, after, hgroups, hbefore, hstops before g after t _ hgroups hemitted ?_⟩
    rw [FaultyStore.emit_run, hasked, Store.publish_eq, htaken, hg]
    rfl

end Round

end Companion
