import Companion.Proofs.Group

/-!
# The partition by owner

Fields can be parted by the names of their owners in one way only, if the parts have to be in order
and to keep the order of the fields. The groups of a list of fields are this partition, so they do
not depend on how the fields of different types are mixed.
-/

namespace Companion.Group

/-- Groups that part a list of fields by the names of their owners. Their names rise strictly, none
of them is empty, each has the fields of its name in their order and the information of the first of
them, and together they have every field once. -/
structure IsPartition (fields : List CollectedField) (groups : List Group) : Prop where
  ordered : Ordered groups
  nonempty : ∀ g ∈ groups, g.fields ≠ []
  fields_eq : ∀ g ∈ groups, g.fields = fields.filter fun f => f.owner.name = g.info.name
  info_eq : ∀ g ∈ groups, g.fields.head?.map (·.owner) = some g.info
  complete : (groups.flatMap (·.fields)).Perm fields

/-- A field that is put in is one field more. -/
lemma insert_perm (f : CollectedField) (groups : List Group) :
    ((insert f groups).flatMap (·.fields)).Perm (f :: groups.flatMap (·.fields)) := by
  induction groups with
  | nil => exact .refl _
  | cons g gs ih =>
    rw [insert]
    split
    · rw [List.flatMap_cons, List.flatMap_cons, List.append_assoc]
      exact List.perm_middle
    · split
      · exact .refl _
      · rw [List.flatMap_cons, List.flatMap_cons]
        exact (ih.append_left g.fields).trans List.perm_middle

lemma ofFields_perm (fields : List CollectedField) :
    ((ofFields fields).flatMap (·.fields)).Perm fields := by
  induction fields using List.reverseRecOn with
  | nil => exact .refl _
  | append_singleton fields f ih =>
    rw [ofFields_append]
    have hinsert := insert_perm f (ofFields fields)
    exact (hinsert.trans (ih.cons f)).trans (List.perm_append_singleton f fields).symm

/-- The groups of a list of fields part it. -/
lemma isPartition_ofFields (fields : List CollectedField) :
    IsPartition fields (ofFields fields) := by
  have ordered := ofFields_ordered fields
  have gathered (g : Group) (hg : g ∈ ofFields fields) :
      g.fields = fields.filter (fun f => f.owner.name = g.info.name) ∧
        g.fields.head?.map (·.owner) = some g.info := by
    rw [← gather_eq_some_iff, ← ofName?_ofFields]
    exact ordered.ofName?_of_mem hg
  refine ⟨ordered, ?_, fun g hg => (gathered g hg).1, fun g hg => (gathered g hg).2,
    ofFields_perm fields⟩
  intro g hg hnil
  have hinfo := (gathered g hg).2
  rw [hnil] at hinfo
  cases hinfo

/-- Under each name a partition has what the fields of that name make. -/
lemma IsPartition.ofName?_eq {fields : List CollectedField} {groups : List Group}
    (h : IsPartition fields groups) (n : QName) : ofName? groups n = gather fields n := by
  cases hfound : ofName? groups n with
  | some g =>
    obtain ⟨hg, rfl⟩ := ofName?_eq_some hfound
    exact (gather_eq_some_iff.mpr ⟨h.fields_eq g hg, h.info_eq g hg⟩).symm
  | none =>
    refine (gather_eq_none_iff.mpr (List.filter_eq_nil_iff.mpr ?_)).symm
    intro f hf hname
    -- the group that has the field is found under its name
    obtain ⟨g, hg, hfg⟩ := List.mem_flatMap.mp (h.complete.mem_iff.mpr hf)
    rw [h.fields_eq g hg, List.mem_filter] at hfg
    have hn : g.info.name = n :=
      (of_decide_eq_true hfg.2).symm.trans (of_decide_eq_true hname)
    have hself := h.ordered.ofName?_of_mem hg
    rw [hn, hfound] at hself
    cases hself

/-- The groups of a list of fields are its only partition by owner. Lists have the same groups if and
only if they have the same fields of each owner in the same order. -/
theorem ofFields_unique_partition (fields : List CollectedField) :
    (∀ groups, IsPartition fields groups ↔ groups = ofFields fields) ∧
      ∀ others : List CollectedField, ofFields others = ofFields fields ↔
        ∀ n : QName, others.filter (fun f => f.owner.name = n) =
          fields.filter fun f => f.owner.name = n := by
  refine ⟨?_, ?_⟩
  · intro groups
    constructor
    · intro h
      refine h.ordered.eq_of_ofName? (ofFields_ordered fields) fun n => ?_
      rw [h.ofName?_eq, ofName?_ofFields]
    · rintro rfl
      exact isPartition_ofFields fields
  · intro others
    constructor
    · intro h n
      have hgather : gather others n = gather fields n := by
        rw [← ofName?_ofFields, ← ofName?_ofFields, h]
      cases hfound : gather fields n with
      | none =>
        rw [hfound] at hgather
        rw [gather_eq_none_iff.mp hgather, gather_eq_none_iff.mp hfound]
      | some g =>
        rw [hfound] at hgather
        exact (gather_eq_some_iff.mp hgather).1.symm.trans (gather_eq_some_iff.mp hfound).1
    · intro h
      refine (ofFields_ordered others).eq_of_ofName? (ofFields_ordered fields) fun n => ?_
      rw [ofName?_ofFields, ofName?_ofFields, gather, gather, h n]

end Companion.Group
