import Companion.Proofs.Forest
import Companion.Proofs.Reachability

/-!
# Protocols along a line of artifacts

An artifact extends that of its nearest marked superclass, whatever protocol the two follow. The
protocol is that of the renderable type where a type is assignable to it, through superclasses or
interfaces. So it goes down the line: below a renderable artifact all are renderable. An artifact
differs from its parent exactly where one of the classes between them is or implements what makes a
type renderable.
-/

namespace Companion

/-- The interfaces that the type implements. -/
def TypeDecl.interfaceNames (d : TypeDecl) : List QName :=
  d.interfaces.filterMap (·.erasure)

lemma TypeDecl.mem_supertypes_iff {d : TypeDecl} {n : QName} :
    n ∈ d.supertypes ↔ d.superclassName = some n ∨ n ∈ d.interfaceNames := by
  rw [supertypes, List.filterMap_append, List.mem_append, superclassName, interfaceNames]
  cases d.superclass <;> simp

namespace Catalog

open Relation

/-- Whether a type is the renderable type itself, or implements an interface that leads to it. -/
def TurnsRenderable (c : Catalog) (config : Config) (n : QName) : Prop :=
  n = config.renderableType ∨
    ∃ d ∈ c.lookup n, ∃ i ∈ d.interfaceNames,
      c.supertypeArrows.reaches i config.renderableType = true

variable {c : Catalog} {config : Config}

lemma leads_supertype_iff {a b : QName} : c.supertypeArrows.Leads a b ↔
    c.model.superclassLinks.Leads a b ∨ ∃ d ∈ c.lookup a, b ∈ d.interfaceNames := by
  change b ∈ ((c.lookup a).map (·.supertypes)).getD [] ↔
    (c.lookup a).bind (·.superclassName) = some b ∨ ∃ d ∈ c.lookup a, b ∈ d.interfaceNames
  cases c.lookup a with
  | none => simp
  | some d => simp [TypeDecl.mem_supertypes_iff]

/-- A type is renderable by itself or through the class that it extends. -/
lemma reaches_renderable_iff {a : QName} :
    c.supertypeArrows.reaches a config.renderableType = true ↔
      c.TurnsRenderable config a ∨
        ∃ b, c.model.superclassLinks.Leads a b ∧
          c.supertypeArrows.reaches b config.renderableType = true := by
  rw [Graph.Arrows.reaches_iff, ReflTransGen.cases_head_iff]
  constructor
  · rintro (rfl | ⟨b, hab, hb⟩)
    · exact .inl (.inl rfl)
    · rw [← Graph.Arrows.reaches_iff] at hb
      rcases leads_supertype_iff.mp hab with hsuper | ⟨d, hd, hmem⟩
      · exact .inr ⟨b, hsuper, hb⟩
      · exact .inl (.inr ⟨d, hd, b, hmem, hb⟩)
  · rintro ((rfl | ⟨d, hd, i, hi, hreach⟩) | ⟨b, hab, hreach⟩)
    · exact .inl rfl
    · exact .inr ⟨i, leads_supertype_iff.mpr (.inr ⟨d, hd, hi⟩), Graph.Arrows.reaches_iff.mp hreach⟩
    · exact .inr ⟨b, leads_supertype_iff.mpr (.inl hab), Graph.Arrows.reaches_iff.mp hreach⟩

/-- One of the classes from `a` up to below `top` is renderable by itself. -/
def TurnsRenderableBelow (c : Catalog) (config : Config) (a top : QName) : Prop :=
  ∃ n, ReflTransGen c.model.superclassLinks.Leads a n ∧
    TransGen c.model.superclassLinks.Leads n top ∧ c.TurnsRenderable config n

lemma turnsRenderableBelow_of_leads (h : c.WellFormed) {a top : QName}
    (hleads : c.model.superclassLinks.Leads a top) :
    c.TurnsRenderableBelow config a top ↔ c.TurnsRenderable config a := by
  constructor
  · rintro ⟨n, hreach, habove, hn⟩
    rcases ReflTransGen.cases_head_iff.mp hreach with rfl | ⟨b, hab, hbn⟩
    · exact hn
    · obtain rfl : top = b := Option.some.inj (hleads.symm.trans hab)
      exact absurd (habove.trans_right hbn) (h.acyclic.irrefl top)
  · intro ha
    exact ⟨a, .refl, .single hleads, ha⟩

lemma turnsRenderableBelow_cons {a b top : QName} (hleads : c.model.superclassLinks.Leads a b)
    (habove : TransGen c.model.superclassLinks.Leads b top) :
    c.TurnsRenderableBelow config a top ↔
      c.TurnsRenderable config a ∨ c.TurnsRenderableBelow config b top := by
  constructor
  · rintro ⟨n, hreach, hn⟩
    rcases ReflTransGen.cases_head_iff.mp hreach with rfl | ⟨b', hab, hbn⟩
    · exact .inl hn.2
    · obtain rfl : b = b' := Option.some.inj (hleads.symm.trans hab)
      exact .inr ⟨n, hbn, hn⟩
  · rintro (ha | ⟨n, hreach, hn⟩)
    · exact ⟨a, .refl, habove.head hleads, ha⟩
    · exact ⟨n, hreach.head hleads, hn⟩

/-- A type is renderable through a superclass, or because of a class below that one. -/
lemma reaches_renderable_iff_below (h : c.WellFormed) {a top : QName}
    (habove : TransGen c.model.superclassLinks.Leads a top) :
    c.supertypeArrows.reaches a config.renderableType = true ↔
      c.TurnsRenderableBelow config a top ∨
        c.supertypeArrows.reaches top config.renderableType = true := by
  induction habove using TransGen.head_induction_on with
  | @single a hleads =>
    rw [turnsRenderableBelow_of_leads h hleads, reaches_renderable_iff]
    constructor
    · rintro (ha | ⟨b, hab, hb⟩)
      · exact .inl ha
      · obtain rfl : top = b := Option.some.inj (hleads.symm.trans hab)
        exact .inr hb
    · rintro (ha | htop)
      · exact .inl ha
      · exact .inr ⟨top, hleads, htop⟩
  | @head a b hleads habove ih =>
    rw [turnsRenderableBelow_cons hleads habove, or_assoc, ← ih, reaches_renderable_iff]
    constructor
    · rintro (ha | ⟨b', hab, hb⟩)
      · exact .inl ha
      · obtain rfl : b = b' := Option.some.inj (hleads.symm.trans hab)
        exact .inr hb
    · rintro (ha | hb)
      · exact .inl ha
      · exact .inr ⟨b, hleads, hb⟩

end Catalog

namespace Round

variable {c : Catalog} {config : Config}

/-- An artifact is renderable if its type reaches the renderable type. -/
lemma variant_eq_renderable_iff (h : c.WellFormed) {s : Summary}
    (hs : s ∈ (groups c.model config).map (Group.summary config)) :
    s.variant = .renderable ↔
      c.supertypeArrows.reaches s.origin config.renderableType = true := by
  obtain ⟨g, hg, rfl⟩ := List.mem_map.mp hs
  obtain ⟨d, -, -, hinfo, -⟩ := of_mem_groups h hg
  have hname : g.info.name = d.qualifiedName := congrArg TypeInfo.name hinfo
  have hrenderable : g.info.renderable =
      c.supertypeArrows.reaches d.qualifiedName config.renderableType :=
    congrArg TypeInfo.renderable hinfo
  change Variant.of g.info = .renderable ↔
    c.supertypeArrows.reaches g.info.name config.renderableType = true
  rw [hname, ← hrenderable, Variant.of]
  cases g.info.renderable <;> simp

/-- An artifact is renderable if its parent is. It differs from its parent if and only if the parent
is plain and a class from its own type up to below the parent's is renderable by itself. -/
theorem variants_differ_iff {manifest : Manifest} (hc : Catalog.ofManifest manifest = .ok c)
    {report : Report} (hr : (intoStore c.model config).1.result = .ok report) {s t : Summary}
    (hs : s ∈ report.artifacts) (ht : t ∈ report.artifacts)
    (hp : s.parentArtifact? c.model config = some t.name) :
    s.parent = t.name ∧ (t.variant = .renderable → s.variant = .renderable) ∧
      (s.variant ≠ t.variant ↔
        t.variant = .plain ∧ c.TurnsRenderableBelow config s.origin t.origin) := by
  have h := (Catalog.wellFormed_of_ofManifest hc).2
  obtain ⟨hartifacts, hpublished⟩ := intoStore_ok hr
  have hforest := isForest_summaries h hpublished.nodup
  rw [hartifacts] at hs ht
  have hsv := variant_eq_renderable_iff h hs
  have htv := variant_eq_renderable_iff h ht
  rcases hforest.parent s hs with ⟨hnone, -⟩ | ⟨t', ht', hp', hparent, -, hunique, habove⟩
  · rw [hp] at hnone
    cases hnone
  have hname : t.name = t'.name := Option.some.inj (hp.symm.trans hp')
  obtain rfl := hunique t ht hname
  have hiff : c.supertypeArrows.reaches s.origin config.renderableType = true ↔ _ :=
    Catalog.reaches_renderable_iff_below h habove
  rw [← hsv, ← htv] at hiff
  refine ⟨hparent, fun hrenderable => hiff.mpr (.inr hrenderable), ?_⟩
  cases hvariant : t.variant with
  | plain =>
    rw [hvariant] at hiff
    have hdiffers : s.variant ≠ .plain ↔ s.variant = .renderable := by
      cases s.variant <;> simp
    simpa [hdiffers] using hiff
  | renderable =>
    have hsame := hiff.mpr (.inr hvariant)
    simp [hsame]

/-- A class that extends another and by itself implements the renderable type. -/
def crossedManifest : Manifest where
  usesPlatform := true
  types :=
    [{ package := "ui", name := "Renderable", enclosing := none, superclass := none
       interfaces := [], modifiers := .empty, fields := [] },
      Ancestry.sampleClass "Base" none ["x"],
      { Ancestry.sampleClass "Child" (some "p.Base") ["y"] with
        interfaces := [.declared "ui.Renderable" []] }]

/-- A configuration under which an interface makes types renderable. -/
def crossedConfig : Config :=
  { renderableType := "ui.Renderable" }

/-- The artifact of a class without superclass. -/
def plainParent : Summary :=
  ⟨"p.Base$$Stash", "p.Base", .plain, "stash.Stash.Object", ["x"], []⟩

/-- The artifact of a class that follows the other protocol. -/
def renderableChild : Summary :=
  ⟨"p.Child$$Stash", "p.Child", .renderable, "p.Base$$Stash", ["y"], []⟩

/-- The report on the types of `crossedManifest`. -/
def crossedReport : Report where
  artifacts := [plainParent, renderableChild]
  errorCount := 0
  inspectedTypes := 1

lemma crossedManifest_accepted :
    Catalog.ofManifest crossedManifest = .ok (Catalog.unchecked crossedManifest) :=
  Catalog.ofManifest_of_fault?_eq_none (by decide +kernel)

lemma crossedManifest_reported :
    (intoStore (Catalog.unchecked crossedManifest).model crossedConfig).1.result =
      .ok crossedReport := by
  rw [intoStore_of_nodup (by decide +kernel)]
  decide +kernel

theorem crossedReport_variants :
    renderableChild.parent = plainParent.name ∧
      (Catalog.unchecked crossedManifest).TurnsRenderableBelow crossedConfig
        renderableChild.origin plainParent.origin := by
  have hdiffers := variants_differ_iff crossedManifest_accepted crossedManifest_reported
    (show renderableChild ∈ _ by decide) (show plainParent ∈ _ by decide) (by decide +kernel)
  exact ⟨hdiffers.1, (hdiffers.2.2.mp (by decide)).2⟩

/-- An artifact does not always follow the protocol of the one that it extends. -/
theorem variants_not_shared : ¬∀ (manifest : Manifest) (c : Catalog) (config : Config)
    (report : Report), Catalog.ofManifest manifest = .ok c →
      (intoStore c.model config).1.result = .ok report →
        ∀ s ∈ report.artifacts, ∀ t ∈ report.artifacts, s.parent = t.name →
          s.variant = t.variant := by
  intro hshared
  have hsame := hshared _ _ _ _ crossedManifest_accepted crossedManifest_reported
    renderableChild (by decide) plainParent (by decide) rfl
  cases hsame

end Round

end Companion
