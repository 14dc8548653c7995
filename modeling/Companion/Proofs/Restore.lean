import Companion.Proofs.Lineage
import Companion.Proofs.Transfer

/-!
# What is saved is restored

No two fields of a lineage have one key: artifacts have distinct names, a type has distinct field
names, and a field name has no dot, so that the last dot of a key tells the artifact from the field.
The methods of published artifacts therefore restore what they saved.
-/

namespace Companion

namespace Group

lemma key_eq (g : Group) (t : Transfer) : g.key t = g.info.artifact.text ++ '.' :: t.field := by
  simp [key, keyPrefix]

/-- A key tells the artifact and the field, if the latter has no dot. -/
lemma key_inj {g h : Group} {t u : Transfer} (ht : '.' ∉ t.field) (hu : '.' ∉ u.field)
    (heq : g.key t = h.key u) : g.info.artifact = h.info.artifact ∧ t.field = u.field := by
  rw [key_eq, key_eq] at heq
  obtain ⟨htext, hfield⟩ := Text.append_cons_inj ht hu heq
  exact ⟨congrArg QName.mk htext, hfield⟩

/-- Artifacts of distinct names, each with distinct fields, use distinct keys. -/
lemma flatMap_keys_nodup {line : List Group} (artifacts : (line.map (·.info.artifact)).Nodup)
    (fields : ∀ g ∈ line, (g.transfers.map (·.field)).Nodup)
    (dots : ∀ g ∈ line, ∀ t ∈ g.transfers, '.' ∉ t.field) :
    (line.flatMap keys).Nodup := by
  induction line with
  | nil => exact .nil
  | cons g line ih =>
    rw [List.map_cons, List.nodup_cons] at artifacts
    have hg : g ∈ g :: line := List.mem_cons_self
    have hline : ∀ h ∈ line, h ∈ g :: line := fun h hh => List.mem_cons_of_mem g hh
    rw [List.flatMap_cons, List.nodup_append]
    refine ⟨?_, ih artifacts.2 (fun h hh => fields h (hline h hh))
      (fun h hh => dots h (hline h hh)), ?_⟩
    · refine List.Nodup.map_on (fun t ht u hu heq => ?_) (fields g hg).of_map
      have hfield := (key_inj (dots g hg t ht) (dots g hg u hu) heq).2
      exact List.inj_on_of_nodup_map (fields g hg) ht hu hfield
    · -- A key in common would name one artifact twice in the line.
      intro key hkey key' hkey' heq
      subst heq
      obtain ⟨t, ht, rfl⟩ := List.mem_map.mp hkey
      obtain ⟨h, hh, hkey'⟩ := List.mem_flatMap.mp hkey'
      obtain ⟨u, hu, heq⟩ := List.mem_map.mp hkey'
      have hartifact := (key_inj (dots g hg t ht) (dots h (hline h hh) u hu) heq.symm).1
      exact artifacts.1 (List.mem_map.mpr ⟨h, hh, hartifact.symm⟩)

end Group

namespace Round

variable {c : Catalog} {config : Config}

/-- The fields of a group are fields of the type that it belongs to. -/
lemma map_field_transfers_sublist (h : c.WellFormed) {g : Group}
    (hg : g ∈ groups c.model config) :
    ∃ d ∈ c.declared, (g.transfers.map (·.field)).Sublist (d.fields.map (·.name)) := by
  obtain ⟨d, hd, -, -, hfields⟩ := of_mem_groups h hg
  have hnames : g.fields.map (·.name) = (d.fields.filter (·.marked)).map (·.name) := by
    rw [hfields, Catalog.markedFieldsOf, List.map_map, List.map_map]
    rfl
  refine ⟨d, hd, ?_⟩
  rw [g.map_field_transfers]
  have hemitted : (g.emitted.map (·.name)).Sublist (g.fields.map (·.name)) :=
    List.filter_sublist.map _
  exact (hnames ▸ hemitted).trans (List.filter_sublist.map _)

/-- In a successful round each artifact is published with the two methods of its group, its line of
parents leads to a base, and if the whole line is of one variant, a restore undoes a save for all
fields of the line. -/
theorem restores_line {manifest : Manifest} (hc : Catalog.ofManifest manifest = .ok c)
    (distinct : ∀ d ∈ manifest.types, (d.fields.map (·.name)).Nodup) {report : Report}
    (hr : (intoStore c.model config).1.result = .ok report) {R : Runtime} (hR : R.Lawful) :
    report.artifacts = (groups c.model config).map (Group.summary config) ∧
      ∀ g ∈ groups c.model config,
        (intoStore c.model config).2.source? g.info.artifact = some (g.source config) ∧
        ∃ line, GroupLineage (groups c.model config) g line ∧
          (∀ line', GroupLineage (groups c.model config) g line' → line' = line) ∧
          ((∀ h ∈ line, Variant.of h.info = Variant.of g.info) →
            R.Restores (Variant.of g.info) line) := by
  obtain ⟨hdeclared, hwf⟩ := Catalog.wellFormed_of_ofManifest hc
  obtain ⟨hartifacts, hpublished⟩ := intoStore_ok hr
  have inj := List.inj_on_of_nodup_map hpublished.nodup
  refine ⟨hartifacts, fun g hg => ⟨hpublished.sources g hg, ?_⟩⟩
  obtain ⟨line, hline, nodup, -⟩ := exists_groupLineage hwf hg
  refine ⟨line, hline, fun line' hline' => ?_, fun hv => ?_⟩
  · exact hline'.unique (fun a ha b hb hab => inj ha hb hab) hline
  · refine Runtime.restores_of_nodup hR hv (Group.flatMap_keys_nodup ?_ ?_ ?_)
    · exact nodup.of_map.map_on fun a ha b hb hab => inj (hline.mem a ha) (hline.mem b hb) hab
    · intro h hh
      obtain ⟨d, hd, hsub⟩ := map_field_transfers_sublist hwf (hline.mem h hh)
      exact (distinct d (hdeclared ▸ hd)).sublist hsub
    · intro h hh t ht
      obtain ⟨d, hd, hsub⟩ := map_field_transfers_sublist hwf (hline.mem h hh)
      obtain ⟨a, ha, hname⟩ := List.mem_map.mp (hsub.subset (List.mem_map_of_mem ht))
      have hvalid := (Catalog.nameFault?_eq_none (hwf.names d hd)).2 a ha
      exact hname ▸ Identifier.dot_notMem_of_isValid hvalid

/-- A parent state: none, or a container with values under keys and a parent state of its own. -/
inductive Parcel where
  | null
  | bundle (entries : List (Text × Nat)) (parent : Parcel)

/-- The first value under a key, or zero. -/
def valueOf (entries : List (Text × Nat)) (key : Text) : Nat :=
  (entries.lookup key).getD 0

lemma valueOf_cons_self (key : Text) (n : Nat) (entries : List (Text × Nat)) :
    valueOf ((key, n) :: entries) key = n := by
  simp [valueOf]

lemma valueOf_cons_of_ne {key key' : Text} (h : key ≠ key') (n : Nat)
    (entries : List (Text × Nat)) : valueOf ((key', n) :: entries) key = valueOf entries key := by
  rw [valueOf, valueOf, List.lookup_cons, beq_eq_false_iff_ne.mpr h]

/-- Containers as lists of entries, where the last entry put under a key is the first one found. -/
def sampleRuntime : Runtime where
  Value := Nat
  Container := List (Text × Nat) × Parcel
  State := Parcel
  put key _ v c := ((key, v) :: c.1, c.2)
  get key _ c := valueOf c.1 key
  wrap _ s := ([], s)
  unwrap _ c := c.2
  up c := .bundle c.1 c.2
  down
    | .null => none
    | .bundle entries parent => some (entries, parent)
  base s := s

lemma sampleRuntime_lawful : sampleRuntime.Lawful where
  get_put_self key _ v c := valueOf_cons_self key v c.1
  get_put_of_ne _ _ _ _ v c h := valueOf_cons_of_ne h v c.1
  unwrap_wrap _ _ := rfl
  unwrap_put _ _ _ _ _ := rfl
  down_up _ := rfl

/-- The groups of two lines of classes, one plain and one renderable. -/
def sampleGroups : List Group :=
  groups (Catalog.unchecked Ancestry.sampleManifest).model {}

/-- Each of the two lines restores what it saved. -/
theorem sampleManifest_restores :
    (∃ leaf ∈ sampleGroups, ∃ base ∈ sampleGroups, leaf.info.name = "p.Leaf" ∧
      base.info.name = "p.Base" ∧ sampleRuntime.Restores .plain [leaf, base]) ∧
    ∃ dial ∈ sampleGroups, ∃ gauge ∈ sampleGroups, dial.info.name = "p.Dial" ∧
      gauge.info.name = "p.Gauge" ∧ sampleRuntime.Restores .renderable [dial, gauge] := by
  obtain ⟨-, restores⟩ := restores_line Ancestry.sampleManifest_accepted (by decide +kernel)
    sampleManifest_reported sampleRuntime_lawful
  have restores_pair : ∀ v : Variant, ∀ lower ∈ sampleGroups, ∀ upper ∈ sampleGroups,
      lower.info.parentArtifact = some upper.info.artifact → upper.info.parentArtifact = none →
      Variant.of lower.info = v → Variant.of upper.info = v →
      sampleRuntime.Restores v [lower, upper] := by
    intro v lower hlower upper hupper hparent htop hv hv'
    obtain ⟨-, line, -, unique, hline⟩ := restores lower hlower
    have heq : [lower, upper] = line := unique _ (.above hlower hparent (.top hupper htop))
    rw [hv, ← heq] at hline
    refine hline fun h hh => ?_
    rcases List.mem_pair.mp hh with rfl | rfl
    · exact hv
    · exact hv'
  constructor
  · have found : ∃ leaf ∈ sampleGroups, ∃ base ∈ sampleGroups, leaf.info.name = "p.Leaf" ∧
        base.info.name = "p.Base" ∧ leaf.info.parentArtifact = some base.info.artifact ∧
        base.info.parentArtifact = none ∧ Variant.of leaf.info = .plain ∧
        Variant.of base.info = .plain := by
      decide +kernel
    obtain ⟨leaf, hleaf, base, hbase, hname, hname', hparent, htop, hv, hv'⟩ := found
    exact ⟨leaf, hleaf, base, hbase, hname, hname',
      restores_pair .plain leaf hleaf base hbase hparent htop hv hv'⟩
  · have found : ∃ dial ∈ sampleGroups, ∃ gauge ∈ sampleGroups, dial.info.name = "p.Dial" ∧
        gauge.info.name = "p.Gauge" ∧ dial.info.parentArtifact = some gauge.info.artifact ∧
        gauge.info.parentArtifact = none ∧ Variant.of dial.info = .renderable ∧
        Variant.of gauge.info = .renderable := by
      decide +kernel
    obtain ⟨dial, hdial, gauge, hgauge, hname, hname', hparent, htop, hv, hv'⟩ := found
    exact ⟨dial, hdial, gauge, hgauge, hname, hname',
      restores_pair .renderable dial hdial gauge hgauge hparent htop hv hv'⟩

end Round

end Companion
