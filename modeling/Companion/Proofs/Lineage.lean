import Companion.Proofs.Round
import Mathlib.Data.List.Nodup

/-!
# Lineages

An artifact extends the artifact of its nearest marked superclass, and that one is published by the
same round, so the links to parents lead from artifact to artifact. Each link climbs to a strict
superclass. The artifacts of a round are therefore a forest, and each of them has one lineage.
-/

namespace Companion

/-- The items from one of them along the links to their parents, up to one without a parent. -/
inductive Lineage {α : Type} (name : α → QName) (parent? : α → Option QName) (items : List α) :
    α → List α → Prop where
  | top {a : α} (ha : a ∈ items) (hp : parent? a = none) : Lineage name parent? items a [a]
  | above {a b : α} {line : List α} (ha : a ∈ items) (hp : parent? a = some (name b))
      (hb : Lineage name parent? items b line) : Lineage name parent? items a (a :: line)

namespace Lineage

variable {α : Type} {name : α → QName} {parent? : α → Option QName} {items : List α}

lemma mem {a : α} {line : List α} (h : Lineage name parent? items a line) :
    ∀ b ∈ line, b ∈ items := by
  induction h with
  | top ha hp =>
    intro b hb
    exact List.mem_singleton.mp hb ▸ ha
  | above ha hp hb ih =>
    intro b hmem
    rcases List.mem_cons.mp hmem with rfl | hmem
    · exact ha
    · exact ih b hmem

lemma self_mem {a : α} {line : List α} (h : Lineage name parent? items a line) : a ∈ line := by
  cases h with
  | top ha hp => exact List.mem_singleton_self a
  | above ha hp hb => exact List.mem_cons_self

/-- Where names are told apart, there is one lineage at most. -/
lemma unique (inj : ∀ a ∈ items, ∀ b ∈ items, name a = name b → a = b) {a : α}
    {line line' : List α} (h : Lineage name parent? items a line)
    (h' : Lineage name parent? items a line') : line = line' := by
  induction h generalizing line' with
  | top ha hp =>
    cases h' with
    | top _ _ => rfl
    | above _ hp' _ => rw [hp] at hp'; cases hp'
  | @above a b line ha hp hb ih =>
    cases h' with
    | top _ hp' => rw [hp] at hp'; cases hp'
    | @above _ b' line' _ hp' hb' =>
      have hname : name b = name b' := Option.some.inj (hp.symm.trans hp')
      obtain rfl := inj b (hb.mem b hb.self_mem) b' (hb'.mem b' hb'.self_mem) hname
      rw [ih hb']

/-- Items of another kind with the same names and parents have the same lineages. -/
lemma map {β : Type} {name' : β → QName} {parent?' : β → Option QName} (f : α → β)
    (hname : ∀ a, name' (f a) = name a) (hparent : ∀ a ∈ items, parent?' (f a) = parent? a)
    {a : α} {line : List α} (h : Lineage name parent? items a line) :
    Lineage name' parent?' (items.map f) (f a) (line.map f) := by
  induction h with
  | top ha hp => exact .top (List.mem_map_of_mem ha) ((hparent _ ha).trans hp)
  | above ha hp hb ih =>
    refine .above (List.mem_map_of_mem ha) ?_ ih
    rw [hparent _ ha, hp, hname]

variable {l : Graph.Links QName} {origin : α → QName}

/-- If each parent is the name of an item of a place farther along acyclic links, then every item
has a lineage, and its places are distinct. -/
lemma exists_of_parents (acyclic : l.IsAcyclic)
    (parents : ∀ a ∈ items, ∀ n, parent? a = some n →
      ∃ b ∈ items, name b = n ∧ Relation.TransGen l.Leads (origin a) (origin b))
    {a : α} (ha : a ∈ items) :
    ∃ line, Lineage name parent? items a line ∧ (line.map origin).Nodup ∧
      ∀ b ∈ line, Relation.ReflTransGen l.Leads (origin a) (origin b) := by
  -- A parent may be many places away, so the induction is on what can be reached in any steps.
  have wf : WellFounded fun x y => Relation.TransGen l.Leads y x := by
    refine Subrelation.wf (fun {x y} hyx => ?_) acyclic.transGen
    exact Relation.transGen_swap.mpr hyx
  induction hn : origin a using wf.induction generalizing a with
  | _ n ih =>
    subst hn
    cases hp : parent? a with
    | none =>
      refine ⟨[a], .top ha hp, List.pairwise_singleton _ _, fun b hb => ?_⟩
      rw [List.mem_singleton.mp hb]
    | some p =>
      obtain ⟨b, hb, rfl, hab⟩ := parents a ha p hp
      obtain ⟨line, hline, nodup, reach⟩ := ih (origin b) hab hb rfl
      have later : ∀ x ∈ line, Relation.TransGen l.Leads (origin a) (origin x) :=
        fun x hx => hab.trans_left (reach x hx)
      refine ⟨a :: line, .above ha hp hline, ?_, fun x hx => ?_⟩
      · rw [List.map_cons, List.nodup_cons]
        refine ⟨fun hmem => ?_, nodup⟩
        obtain ⟨x, hx, heq⟩ := List.mem_map.mp hmem
        exact acyclic.irrefl (origin a) (heq ▸ later x hx)
      · rcases List.mem_cons.mp hx with rfl | hx
        · exact .refl
        · exact (later x hx).to_reflTransGen

end Lineage

namespace Round

variable {c : Catalog} {config : Config}

/-- The parent of a group's artifact is the artifact of a group above it. -/
lemma parent_mem_groups (h : c.WellFormed) {g : Group} (hg : g ∈ groups c.model config)
    {artifact : QName} (hp : g.info.parentArtifact = some artifact) :
    ∃ g' ∈ groups c.model config, g'.info.artifact = artifact ∧
      Relation.TransGen c.model.superclassLinks.Leads g.info.name g'.info.name := by
  obtain ⟨d, -, -, hinfo, -⟩ := of_mem_groups h hg
  rw [hinfo] at hp
  obtain ⟨s, hs, hmarked, rfl⟩ := Ancestry.exists_of_nearest_eq_some hp
  obtain ⟨g', hg', hinfo'⟩ := exists_mem_groups h hmarked
  refine ⟨g', hg', by rw [hinfo']; rfl, ?_⟩
  rw [hinfo, hinfo']
  exact h.acyclic.mem_beyond_iff.mp hs

/-- The lineages of groups, by their artifacts and the parents of these. -/
abbrev GroupLineage (groups : List Group) : Group → List Group → Prop :=
  Lineage (·.info.artifact) (·.info.parentArtifact) groups

/-- Every group has a lineage, through types that differ from each other. -/
lemma exists_groupLineage (h : c.WellFormed) {g : Group} (hg : g ∈ groups c.model config) :
    ∃ line, GroupLineage (groups c.model config) g line ∧ (line.map (·.info.name)).Nodup ∧
      ∀ b ∈ line, Relation.ReflTransGen c.model.superclassLinks.Leads g.info.name b.info.name :=
  Lineage.exists_of_parents h.acyclic (fun _ ha _ hn => parent_mem_groups h ha hn) hg

end Round

end Companion
