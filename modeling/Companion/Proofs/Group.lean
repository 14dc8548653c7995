import Companion.Group
import Mathlib.Data.Char
import Mathlib.Data.List.Induction
import Mathlib.Data.List.Lex
import Mathlib.Tactic.Lemma

/-!
# Groups as a partition

Groups in strict order of their names are told by what is found under a name. Under the name of a
type the groups of a list hold the fields of that type, in their order, and under any other name
nothing. A field that is put in changes what is found under the name of its owner only.
-/

namespace Companion.Group

/-- The names of groups rise strictly. -/
def Ordered (groups : List Group) : Prop :=
  groups.Pairwise fun g h => g.info.name.text < h.info.name.text

/-- The group of a name. -/
def ofName? (groups : List Group) (n : QName) : Option Group :=
  groups.find? fun g => g.info.name = n

/-- The group that the fields of a type make. -/
def gather (fields : List CollectedField) (n : QName) : Option Group :=
  match fields.filter fun f => f.owner.name = n with
  | [] => none
  | f :: rest => some ⟨f.owner, f :: rest⟩

lemma ofName?_cons_self (g : Group) (groups : List Group) :
    ofName? (g :: groups) g.info.name = some g := by
  simp [ofName?]

lemma ofName?_cons_of_ne {g : Group} {n : QName} (h : g.info.name ≠ n) (groups : List Group) :
    ofName? (g :: groups) n = ofName? groups n := by
  simp [ofName?, h]

lemma ofName?_eq_some {groups : List Group} {n : QName} {g : Group}
    (h : ofName? groups n = some g) : g ∈ groups ∧ g.info.name = n :=
  ⟨List.mem_of_find?_eq_some h, by simpa using List.find?_some h⟩

/-- Above the names of ordered groups nothing is found. -/
lemma ofName?_eq_none_of_lt {groups : List Group} {n : QName}
    (h : ∀ g ∈ groups, n.text < g.info.name.text) : ofName? groups n = none := by
  refine List.find?_eq_none.mpr fun g hg heq => ?_
  have hn : g.info.name = n := of_decide_eq_true heq
  exact lt_irrefl _ (hn ▸ h g hg)

/-- An ordered group is what is found under its name. -/
lemma Ordered.ofName?_of_mem {groups : List Group} (h : Ordered groups) {g : Group}
    (hg : g ∈ groups) : ofName? groups g.info.name = some g := by
  induction groups with
  | nil => cases hg
  | cons first rest ih =>
    obtain ⟨hfirst, hrest⟩ := List.pairwise_cons.mp h
    rcases List.mem_cons.mp hg with rfl | hg
    · exact ofName?_cons_self g rest
    · have hne : first.info.name ≠ g.info.name := fun heq =>
        lt_irrefl _ (heq ▸ hfirst g hg)
      rw [ofName?_cons_of_ne hne]
      exact ih hrest hg

lemma Ordered.nodup {groups : List Group} (h : Ordered groups) : groups.Nodup := by
  refine h.imp fun {g g'} hlt heq => ?_
  rw [heq] at hlt
  exact lt_irrefl _ hlt

/-- Ordered groups are told by what is found under each name. -/
lemma Ordered.eq_of_ofName? {groups groups' : List Group} (h : Ordered groups)
    (h' : Ordered groups') (hname : ∀ n, ofName? groups n = ofName? groups' n) :
    groups = groups' := by
  have mem : ∀ {gs gs' : List Group}, Ordered gs → (∀ n, ofName? gs n = ofName? gs' n) →
      ∀ g ∈ gs, g ∈ gs' := by
    intro gs gs' hgs heq g hg
    have hfound := hgs.ofName?_of_mem hg
    rw [heq] at hfound
    exact (ofName?_eq_some hfound).1
  have hperm : groups.Perm groups' :=
    (List.perm_ext_iff_of_nodup h.nodup h'.nodup).mpr fun g =>
      ⟨mem h hname g, mem h' (fun n => (hname n).symm) g⟩
  refine hperm.eq_of_pairwise (fun g g' _ _ hlt hlt' => ?_) h h'
  exact absurd (lt_trans hlt hlt') (lt_irrefl _)

lemma mem_insert {f : CollectedField} {groups : List Group} {g : Group}
    (hg : g ∈ insert f groups) : g.info.name = f.owner.name ∨ g ∈ groups := by
  induction groups with
  | nil => exact Or.inl (by simp [List.mem_singleton.mp hg])
  | cons first rest ih =>
    rw [insert] at hg
    split at hg
    · next hname =>
      rcases List.mem_cons.mp hg with rfl | hg
      · exact Or.inl hname.symm
      · exact Or.inr (List.mem_cons_of_mem _ hg)
    · split at hg
      · rcases List.mem_cons.mp hg with rfl | hg
        · exact Or.inl rfl
        · exact Or.inr hg
      · rcases List.mem_cons.mp hg with rfl | hg
        · exact Or.inr List.mem_cons_self
        · exact (ih hg).imp_right (List.mem_cons_of_mem _)

lemma lt_of_ne_of_not_lt {m n : QName} (hne : m ≠ n) (hlt : ¬m.text < n.text) :
    n.text < m.text := by
  rcases lt_trichotomy m.text n.text with h | h | h
  · exact absurd h hlt
  · exact absurd (congrArg QName.mk h) hne
  · exact h

lemma Ordered.insert {groups : List Group} (h : Ordered groups) (f : CollectedField) :
    Ordered (insert f groups) := by
  induction groups with
  | nil => exact List.pairwise_singleton _ _
  | cons first rest ih =>
    obtain ⟨hfirst, hrest⟩ := List.pairwise_cons.mp h
    rw [Group.insert]
    split
    · exact List.pairwise_cons.mpr ⟨hfirst, hrest⟩
    · next hne =>
      split
      · next hlt =>
        refine List.pairwise_cons.mpr ⟨fun g hg => ?_, h⟩
        rcases List.mem_cons.mp hg with rfl | hg
        · exact hlt
        · exact lt_trans hlt (hfirst g hg)
      · next hlt =>
        refine List.pairwise_cons.mpr ⟨fun g hg => ?_, ih hrest⟩
        rcases mem_insert hg with heq | hg
        · rw [heq]
          exact lt_of_ne_of_not_lt hne hlt
        · exact hfirst g hg

lemma Ordered.ofName?_insert_of_ne {groups : List Group} (h : Ordered groups)
    {f : CollectedField} {n : QName} (hn : f.owner.name ≠ n) :
    ofName? (Group.insert f groups) n = ofName? groups n := by
  induction groups with
  | nil => exact ofName?_cons_of_ne hn []
  | cons first rest ih =>
    rw [Group.insert]
    split
    · next hname =>
      rw [ofName?_cons_of_ne (hname ▸ hn), ofName?_cons_of_ne (hname ▸ hn)]
    · split
      · exact ofName?_cons_of_ne hn _
      · by_cases hfirst : first.info.name = n
        · subst hfirst
          rw [ofName?_cons_self, ofName?_cons_self]
        · rw [ofName?_cons_of_ne hfirst, ofName?_cons_of_ne hfirst]
          exact ih (List.pairwise_cons.mp h).2

/-- The group with one more field at its end, or a new group. -/
def extend (f : CollectedField) : Option Group → Group
  | some g => { g with fields := g.fields ++ [f] }
  | none => ⟨f.owner, [f]⟩

lemma Ordered.ofName?_insert_self {groups : List Group} (h : Ordered groups)
    (f : CollectedField) :
    ofName? (Group.insert f groups) f.owner.name =
      some (extend f (ofName? groups f.owner.name)) := by
  induction groups with
  | nil => exact ofName?_cons_self ⟨f.owner, [f]⟩ []
  | cons first rest ih =>
    obtain ⟨hfirst, hrest⟩ := List.pairwise_cons.mp h
    rw [Group.insert]
    split
    · next hname =>
      rw [hname, ofName?_cons_self first]
      exact ofName?_cons_self { first with fields := first.fields ++ [f] } rest
    · next hne =>
      split
      · next hlt =>
        have hnone : ofName? (first :: rest) f.owner.name = none := by
          refine ofName?_eq_none_of_lt fun g hg => ?_
          rcases List.mem_cons.mp hg with rfl | hg
          · exact hlt
          · exact lt_trans hlt (hfirst g hg)
        rw [hnone]
        exact ofName?_cons_self ⟨f.owner, [f]⟩ _
      · rw [ofName?_cons_of_ne (Ne.symm hne), ofName?_cons_of_ne (Ne.symm hne)]
        exact ih hrest

lemma gather_append_self (fields : List CollectedField) (f : CollectedField) :
    gather (fields ++ [f]) f.owner.name = some (extend f (gather fields f.owner.name)) := by
  rw [gather, gather, List.filter_append]
  cases fields.filter fun g => g.owner.name = f.owner.name <;> simp [extend]

lemma gather_append_of_ne (fields : List CollectedField) {f : CollectedField} {n : QName}
    (h : f.owner.name ≠ n) : gather (fields ++ [f]) n = gather fields n := by
  rw [gather, gather, List.filter_append]
  simp [h]

lemma ofFields_append (fields : List CollectedField) (f : CollectedField) :
    ofFields (fields ++ [f]) = insert f (ofFields fields) := by
  rw [ofFields, ofFields, List.foldl_append]
  rfl

lemma ofFields_ordered (fields : List CollectedField) : Ordered (ofFields fields) := by
  induction fields using List.reverseRecOn with
  | nil => exact .nil
  | append_singleton fields f ih =>
    rw [ofFields_append]
    exact ih.insert f

/-- Under a name the groups of a list have what the fields of that name make. -/
lemma ofName?_ofFields (fields : List CollectedField) (n : QName) :
    ofName? (ofFields fields) n = gather fields n := by
  induction fields using List.reverseRecOn with
  | nil => rfl
  | append_singleton fields f ih =>
    have ordered := ofFields_ordered fields
    rw [ofFields_append]
    by_cases hn : f.owner.name = n
    · subst hn
      rw [ordered.ofName?_insert_self, ih, gather_append_self]
    · rw [ordered.ofName?_insert_of_ne hn, ih, gather_append_of_ne fields hn]

/-- What the fields of a name make has all of them, and is told about by the first. -/
lemma gather_eq_some_iff {fields : List CollectedField} {n : QName} {g : Group} :
    gather fields n = some g ↔ g.fields = fields.filter (fun f => f.owner.name = n) ∧
      g.fields.head?.map (·.owner) = some g.info := by
  rw [gather]
  cases fields.filter fun f => f.owner.name = n with
  | nil =>
    constructor
    · intro h
      cases h
    · rintro ⟨hfields, hinfo⟩
      rw [hfields] at hinfo
      cases hinfo
  | cons f rest =>
    constructor
    · intro h
      obtain rfl := Option.some.inj h
      exact ⟨rfl, rfl⟩
    · rintro ⟨hfields, hinfo⟩
      rw [hfields] at hinfo
      obtain ⟨info, members⟩ := g
      obtain rfl : f.owner = info := Option.some.inj hinfo
      obtain rfl : members = f :: rest := hfields
      rfl

/-- Where nothing is gathered under a name, no field has it. -/
lemma gather_eq_none_iff {fields : List CollectedField} {n : QName} :
    gather fields n = none ↔ fields.filter (fun f => f.owner.name = n) = [] := by
  rw [gather]
  split
  next hnil => simp [hnil]
  next f rest hcons => simp [hcons]

/-- A group holds all fields of the type whose information it has from one of them. -/
lemma of_mem_ofFields {fields : List CollectedField} {g : Group} (hg : g ∈ ofFields fields) :
    g.fields = fields.filter (fun f => f.owner.name = g.info.name) ∧
      ∃ f ∈ fields, g.info = f.owner := by
  have found := (ofFields_ordered fields).ofName?_of_mem hg
  rw [ofName?_ofFields] at found
  obtain ⟨hfields, hinfo⟩ := gather_eq_some_iff.mp found
  obtain ⟨f, hf, hinfo⟩ := Option.map_eq_some_iff.mp hinfo
  have hmem := List.mem_of_mem_head? hf
  rw [hfields] at hmem
  exact ⟨hfields, f, (List.mem_filter.mp hmem).1, hinfo.symm⟩

/-- Every field has a group. -/
lemma exists_mem_ofFields {fields : List CollectedField} {f : CollectedField} (hf : f ∈ fields) :
    ∃ g ∈ ofFields fields, g.info.name = f.owner.name := by
  have hmem : f ∈ fields.filter fun h => h.owner.name = f.owner.name :=
    List.mem_filter.mpr ⟨hf, by simp⟩
  cases hg : ofName? (ofFields fields) f.owner.name with
  | some g => exact ⟨g, ofName?_eq_some hg⟩
  | none =>
    rw [ofName?_ofFields, gather_eq_none_iff] at hg
    rw [hg] at hmem
    cases hmem

end Companion.Group
