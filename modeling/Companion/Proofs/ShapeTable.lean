import Companion.ShapeTable
import Companion.Proofs.Entries
import Mathlib.Data.List.Forall2
import Mathlib.Data.List.Pairwise
import Mathlib.Tactic.Lemma

/-!
# Derived tables

Which variants of an enumeration are rejected is said without the loop that goes through them: a
variant is at fault by itself, or it has the shape of an earlier one that is not rejected. The loop
keeps five lists and the shapes that are taken. Between two variants the faults are those of the
rejected variants so far, and as long as there is none the lists are those of all variants so far.
-/

namespace Companion

namespace Literal

/-- The text of a literal, if it is one. -/
def text? : Literal → Option Text
  | .text t => some t
  | .integer _ | .unreadable _ => none

/-- The fault of a literal that is not a text. -/
def fault? : Literal → Option TableFault
  | .text _ => none
  | .integer _ => some .notText
  | .unreadable reason => some (.unreadable reason)

end Literal

namespace VariantDecl

/-- The fault of an item: it is malformed, its key is not known, or its value is not a text. -/
def attributeFault? : AttributeItem → Option TableFault
  | .value key literal =>
    if key = "shape" ∨ key = "op" then literal.fault? else some .unsupportedAttribute
  | .malformed reason => some (.unreadable reason)

/-- The texts that items give to a key. -/
def textsFor (key : Text) (items : List AttributeItem) : List Text :=
  items.filterMap fun
    | .value key' literal => if key' = key then literal.text? else none
    | .malformed _ => none

/-- The fault of the first bad attribute. -/
def badAttribute? (v : VariantDecl) : Option TableFault :=
  v.attributes.flatten.findSome? attributeFault?

/-- The last shape that is given. -/
def shape? (v : VariantDecl) : Option Text :=
  (textsFor "shape" v.attributes.flatten).getLast?

/-- The last operation that is given, or else the name of the variant. -/
def operation (v : VariantDecl) : Text :=
  (textsFor "op" v.attributes.flatten).getLast?.getD v.name

end VariantDecl

namespace ShapeTable

open VariantDecl

/-- A variant is rejected if it has fields, a bad attribute or a malformed shape, or if its shape is
that of an earlier variant that is accepted. -/
def IsRejected (vs : List VariantDecl) (i : Nat) : Prop :=
  ∃ v, vs[i]? = some v ∧ (v.isUnit = false ∨ v.badAttribute? ≠ none ∨
    ∃ shape, v.shape? = some shape ∧ (shapeFault? shape ≠ none ∨
      ∃ j : Fin i, ¬IsRejected vs j ∧ vs[j.val]?.bind VariantDecl.shape? = some shape))
termination_by i
decreasing_by exact j.isLt

/-- A fault says why a variant is rejected. -/
inductive Explains (vs : List VariantDecl) (i : Nat) : TableFault → Prop where
  | notUnit {v : VariantDecl} (hv : vs[i]? = some v) (hu : v.isUnit = false) :
      Explains vs i .notUnit
  | badAttribute {v : VariantDecl} {fault : TableFault} (hv : vs[i]? = some v)
      (hu : v.isUnit = true) (hb : v.badAttribute? = some fault) : Explains vs i fault
  | malformed {v : VariantDecl} {shape : Text} {fault : ShapeFault} (hv : vs[i]? = some v)
      (hu : v.isUnit = true) (hb : v.badAttribute? = none) (hs : v.shape? = some shape)
      (hf : shapeFault? shape = some fault) : Explains vs i (.malformedShape shape fault)
  | repeated {v u : VariantDecl} {shape : Text} {j : Nat} (hv : vs[i]? = some v)
      (hu : v.isUnit = true) (hb : v.badAttribute? = none) (hs : v.shape? = some shape)
      (hf : shapeFault? shape = none) (hj : j < i) (hr : ¬IsRejected vs j)
      (hju : vs[j]? = some u) (hus : u.shape? = some shape) :
      Explains vs i (.repeatedShape shape u.name)

/-- A table is that of an enumeration: its entries are the variants with a shape in declaration
order, all with different shapes, both look-ups agree with them, and each variant has its
operation. -/
structure IsTableOf (t : ShapeTable) (vs : List VariantDecl) : Prop where
  entries : t.entries = vs.filterMap fun v => v.shape?.map (·, v.name)
  distinct : (t.entries.map Prod.fst).Nodup
  variantOf : ∀ shape variant, t.variantOf? shape = some variant ↔ (shape, variant) ∈ t.entries
  shapeOf : ∀ shape variant, t.shapeOf? variant = some shape ↔ (shape, variant) ∈ t.entries
  exact : ∀ variant, t.isExact variant = true ↔ ∃ shape, (shape, variant) ∈ t.entries
  operation : ∀ v ∈ vs, t.operationOf? v.name = some v.operation
  covers : t.shapes.map Prod.fst = vs.map (·.name) ∧ t.operations.map Prod.fst = vs.map (·.name)

variable {vs : List VariantDecl} {v : VariantDecl} {k : Nat} {d d' : Draft}

/-! ### Attributes -/

lemma textsFor_self (key t : Text) : textsFor key [.value key (.text t)] = [t] := by
  simp [textsFor, Literal.text?]

lemma textsFor_of_ne {key key' : Text} (h : key' ≠ key) (literal : Literal) :
    textsFor key [.value key' literal] = [] := by
  simp [textsFor, h]

lemma set_eq (a : Attributes) (item : AttributeItem) :
    a.set item =
      match attributeFault? item with
      | some fault => .error fault
      | none => .ok
        ⟨(textsFor "shape" [item]).getLast?.or a.shape,
          (textsFor "op" [item]).getLast?.or a.operation⟩ := by
  have hne : ("op" : Text) ≠ "shape" := by decide
  cases item with
  | malformed reason => rfl
  | value key literal =>
    by_cases hshape : key = "shape"
    · subst hshape
      cases literal with
      | integer _ => rfl
      | unreadable _ => rfl
      | text t =>
        rw [textsFor_self, textsFor_of_ne hne.symm]
        rfl
    by_cases hop : key = "op"
    · subst hop
      cases literal with
      | integer _ => rfl
      | unreadable _ => rfl
      | text t =>
        rw [textsFor_self, textsFor_of_ne hne]
        rfl
    · rw [Attributes.set, if_neg hshape, if_neg hop, attributeFault?,
        if_neg (not_or.mpr ⟨hshape, hop⟩)]

lemma setAll_eq (a : Attributes) (items : List AttributeItem) :
    a.setAll items =
      match items.findSome? attributeFault? with
      | some fault => .error fault
      | none => .ok
        ⟨(textsFor "shape" items).getLast?.or a.shape,
          (textsFor "op" items).getLast?.or a.operation⟩ := by
  induction items generalizing a with
  | nil => rfl
  | cons item rest ih =>
    have htexts : ∀ key, (textsFor key (item :: rest)).getLast? =
        (textsFor key rest).getLast?.or (textsFor key [item]).getLast? := by
      intro key
      rw [← List.getLast?_append, textsFor, textsFor, textsFor, ← List.filterMap_append]
      rfl
    rw [Attributes.setAll, set_eq, List.findSome?_cons, htexts, htexts, Option.or_assoc,
      Option.or_assoc]
    cases attributeFault? item with
    | some fault => rfl
    | none => exact ih _

lemma attributesOf_eq (v : VariantDecl) :
    attributesOf v =
      match v.badAttribute? with
      | some fault => .error fault
      | none => .ok ⟨v.shape?, (textsFor "op" v.attributes.flatten).getLast?⟩ := by
  rw [attributesOf, setAll_eq, badAttribute?, shape?, Option.or_none, Option.or_none]

/-! ### Rejected variants -/

lemma Explains.isRejected {fault : TableFault} (h : Explains vs k fault) : IsRejected vs k := by
  rw [IsRejected]
  cases h with
  | notUnit hv hu => exact ⟨_, hv, Or.inl hu⟩
  | badAttribute hv hu hb => exact ⟨_, hv, Or.inr (Or.inl (by simp [hb]))⟩
  | malformed hv hu hb hs hf => exact ⟨_, hv, Or.inr (Or.inr ⟨_, hs, Or.inl (by simp [hf])⟩)⟩
  | @repeated v u shape j hv hu hb hs hf hj hr hju hus =>
    exact ⟨_, hv, Or.inr (Or.inr ⟨_, hs, Or.inr ⟨⟨j, hj⟩, hr, by simp [hju, hus]⟩⟩)⟩

lemma lt_length_of_isRejected (h : IsRejected vs k) : k < vs.length := by
  rw [IsRejected] at h
  obtain ⟨v, hv, -⟩ := h
  exact (List.getElem?_eq_some_iff.mp hv).1

lemma not_isRejected (hv : vs[k]? = some v) (hu : v.isUnit = true) (hb : v.badAttribute? = none)
    (hs : ∀ shape, v.shape? = some shape → shapeFault? shape = none ∧
      ∀ j < k, ¬IsRejected vs j → vs[j]?.bind VariantDecl.shape? ≠ some shape) :
    ¬IsRejected vs k := by
  intro h
  rw [IsRejected] at h
  obtain ⟨w, hw, hfault⟩ := h
  obtain rfl : v = w := Option.some.inj (hv.symm.trans hw)
  rcases hfault with hfields | hbad | ⟨shape, hshape, hmalformed | ⟨j, hj, hjs⟩⟩
  · simp [hu] at hfields
  · exact hbad hb
  · exact hmalformed (hs shape hshape).1
  · exact (hs shape hshape).2 j j.isLt hj hjs

/-- An accepted variant has a shape of its own. -/
lemma shape?_ne_of_lt {i j : Nat} (hij : i < j) (hi : ¬IsRejected vs i) (hj : ¬IsRejected vs j)
    {shape : Text} (his : vs[i]?.bind VariantDecl.shape? = some shape) :
    vs[j]?.bind VariantDecl.shape? ≠ some shape := by
  intro hjs
  obtain ⟨v, hv, hs⟩ := Option.bind_eq_some_iff.mp hjs
  apply hj
  rw [IsRejected]
  exact ⟨v, hv, Or.inr (Or.inr ⟨shape, hs, Or.inr ⟨⟨i, hij⟩, hi, his⟩⟩)⟩

/-! ### The loop -/

/-- The table of variants of which none is rejected. -/
def tableOf (vs : List VariantDecl) : ShapeTable where
  entries := vs.filterMap fun v => v.shape?.map (·, v.name)
  cases := vs.filterMap fun v => v.shape?.map (·, v.name)
  shapes := vs.map fun v => (v.name, v.shape?)
  operations := vs.map fun v => (v.name, v.operation)

/-- What holds of a draft after the first `k` variants. -/
structure Draft.Tracks (d : Draft) (vs : List VariantDecl) (k : Nat) : Prop where
  seen : ∀ shape name, d.seen.lookup shape = some name → ∃ j < k, ¬IsRejected vs j ∧
    ∃ u, vs[j]? = some u ∧ u.shape? = some shape ∧ u.name = name
  unseen : ∀ shape, d.seen.lookup shape = none → ∀ j < k, ¬IsRejected vs j →
    vs[j]?.bind VariantDecl.shape? ≠ some shape
  faults : ∃ rejected : List Nat, rejected.Pairwise (· < ·) ∧
    (∀ i, i ∈ rejected ↔ i < k ∧ IsRejected vs i) ∧ List.Forall₂ (Explains vs) rejected d.faults
  table : d.faults = [] → d.table = tableOf (vs.take k)

namespace Draft.Tracks

lemma zero : Tracks {} vs 0 where
  seen _ _ h := by cases h
  unseen _ _ j hj := absurd hj (Nat.not_lt_zero j)
  faults := ⟨[], List.Pairwise.nil, by simp, List.Forall₂.nil⟩
  table _ := by simp [tableOf]

/-- A rejected variant leaves the shapes that are taken as they are. -/
lemma reject (h : d.Tracks vs k) {fault : TableFault} (hk : Explains vs k fault)
    (hseen : d'.seen = d.seen) (hfaults : d'.faults = d.faults ++ [fault]) :
    d'.Tracks vs (k + 1) where
  seen shape name hs := by
    rw [hseen] at hs
    obtain ⟨j, hj, hr⟩ := h.seen shape name hs
    exact ⟨j, by omega, hr⟩
  unseen shape hs j hj hr := by
    rw [hseen] at hs
    have hne : j ≠ k := by
      rintro rfl
      exact hr hk.isRejected
    exact h.unseen shape hs j (by omega) hr
  faults := by
    obtain ⟨rejected, hsorted, hmem, hexplains⟩ := h.faults
    refine ⟨rejected ++ [k], ?_, ?_, ?_⟩
    · refine List.pairwise_append.mpr ⟨hsorted, List.pairwise_singleton _ _, ?_⟩
      intro i hi j hj
      rw [List.mem_singleton.mp hj]
      exact ((hmem i).mp hi).1
    · intro i
      simp only [List.mem_append, List.mem_singleton, hmem]
      constructor
      · rintro (⟨hi, hr⟩ | rfl)
        · exact ⟨by omega, hr⟩
        · exact ⟨by omega, hk.isRejected⟩
      · rintro ⟨hi, hr⟩
        by_cases hik : i = k
        · exact Or.inr hik
        · exact Or.inl ⟨by omega, hr⟩
    · rw [hfaults]
      exact List.rel_append hexplains (List.Forall₂.cons hk List.Forall₂.nil)
  table hnil := by simp [hfaults] at hnil

/-- An accepted variant has its place in the table, and its shape is taken. -/
lemma accept (h : d.Tracks vs k) (hv : vs[k]? = some v) (hk : ¬IsRejected vs k)
    (hseen : d'.seen = (v.shape?.map (·, v.name)).toList ++ d.seen) (hfaults : d'.faults = d.faults)
    (htable : d.table = tableOf (vs.take k) → d'.table = tableOf (vs.take k ++ [v])) :
    d'.Tracks vs (k + 1) where
  seen shape name hs := by
    have hold : d.seen.lookup shape = some name → ∃ j < k + 1, ¬IsRejected vs j ∧
        ∃ u, vs[j]? = some u ∧ u.shape? = some shape ∧ u.name = name := by
      intro hs
      obtain ⟨j, hj, hr⟩ := h.seen shape name hs
      exact ⟨j, by omega, hr⟩
    rw [hseen] at hs
    cases hvs : v.shape? with
    | none =>
      rw [hvs] at hs
      exact hold hs
    | some own =>
      rw [hvs, Option.map_some, Option.toList_some, List.singleton_append,
        Entries.lookup_cons] at hs
      split at hs
      next heq =>
        subst heq
        exact ⟨k, by omega, hk, v, hv, hvs, Option.some.inj hs⟩
      next => exact hold hs
  unseen shape hs j hj hr := by
    rw [hseen] at hs
    by_cases hjk : j = k
    · subst hjk
      intro hshape
      simp only [hv, Option.bind_some] at hshape
      simp [hshape] at hs
    · have hold : d.seen.lookup shape = none := by
        cases hvs : v.shape? with
        | none => simpa [hvs] using hs
        | some own =>
          rw [hvs, Option.map_some, Option.toList_some, List.singleton_append,
            Entries.lookup_cons] at hs
          split at hs
          next => cases hs
          next => exact hs
      exact h.unseen shape hold j (by omega) hr
  faults := by
    obtain ⟨rejected, hsorted, hmem, hexplains⟩ := h.faults
    refine ⟨rejected, hsorted, ?_, hfaults ▸ hexplains⟩
    intro i
    rw [hmem]
    constructor
    · rintro ⟨hi, hr⟩
      exact ⟨by omega, hr⟩
    · rintro ⟨hi, hr⟩
      have hne : i ≠ k := by
        rintro rfl
        exact hk hr
      exact ⟨by omega, hr⟩
  table hnil := by
    rw [List.take_add_one, hv]
    exact htable (h.table (hfaults ▸ hnil))

lemma addVariant (h : d.Tracks vs k) (hv : vs[k]? = some v) :
    (d.addVariant v).Tracks vs (k + 1) := by
  rw [Draft.addVariant, attributesOf_eq]
  cases hu : v.isUnit with
  | false => exact h.reject (.notUnit hv hu) rfl rfl
  | true =>
    rw [if_neg (by simp)]
    cases hb : v.badAttribute? with
    | some fault => exact h.reject (.badAttribute hv hu hb) rfl rfl
    | none =>
      dsimp only
      cases hs : v.shape? with
      | none =>
        have hk : ¬IsRejected vs k := not_isRejected hv hu hb (by simp [hs])
        refine h.accept hv hk (by simp [hs]; rfl) rfl ?_
        intro htable
        simp [Draft.addOperation, Draft.addShapeless, htable, tableOf, hs, operation]
      | some shape =>
        dsimp only
        cases hf : shapeFault? shape with
        | some fault => exact h.reject (.malformed hv hu hb hs hf) rfl rfl
        | none =>
          dsimp only
          have hseen : (d.addOperation v.name v.operation).seen.lookup shape =
              d.seen.lookup shape := rfl
          cases hl : d.seen.lookup shape with
          | some first =>
            obtain ⟨j, hj, hr, u, hju, hus, rfl⟩ := h.seen shape first hl
            rw [hl, operation] at hseen
            rw [hseen]
            exact h.reject (.repeated hv hu hb hs hf hj hr hju hus) rfl rfl
          | none =>
            have hk : ¬IsRejected vs k := by
              apply not_isRejected hv hu hb
              intro shape' hs'
              obtain rfl : shape = shape' := Option.some.inj (hs.symm.trans hs')
              exact ⟨hf, h.unseen shape hl⟩
            rw [hl, operation] at hseen
            rw [hseen]
            refine h.accept hv hk (by simp [hs]; rfl) rfl ?_
            intro htable
            simp [Draft.addOperation, Draft.addShape, htable, tableOf, hs, operation]

end Draft.Tracks

lemma foldl_tracks (vs : List VariantDecl) :
    ((vs.foldl Draft.addVariant {}).Tracks vs vs.length) := by
  have steps : ∀ k, k ≤ vs.length → ((vs.take k).foldl Draft.addVariant {}).Tracks vs k := by
    intro k
    induction k with
    | zero => exact fun _ => .zero
    | succ k ih =>
      intro hk
      have hv : vs[k]? = some vs[k] := List.getElem?_eq_getElem hk
      rw [List.take_add_one, hv, List.foldl_append]
      exact (ih (by omega)).addVariant hv
  have hall := steps vs.length (Nat.le_refl _)
  rwa [List.take_length] at hall

/-! ### The table -/

lemma isTableOf (names : (vs.map (·.name)).Nodup) (accepted : ∀ i, ¬IsRejected vs i) :
    (tableOf vs).IsTableOf vs := by
  have hshapes : (tableOf vs).entries.map Prod.fst = vs.filterMap VariantDecl.shape? := by
    simp [tableOf, List.map_filterMap, Function.comp_def]
  have hdistinct : ((tableOf vs).entries.map Prod.fst).Nodup := by
    rw [hshapes]
    have hpairwise : vs.Pairwise fun u v => ∀ shape, u.shape? = some shape →
        v.shape? ≠ some shape := by
      rw [List.pairwise_iff_getElem]
      intro i j hi hj hij shape hs
      have hbind : vs[i]?.bind VariantDecl.shape? = some shape := by simpa [hi] using hs
      have hne := shape?_ne_of_lt hij (accepted i) (accepted j) hbind
      simpa [hj] using hne
    refine hpairwise.filterMap _ ?_
    intro u v huv shape hs shape' hs' heq
    exact huv shape hs (heq ▸ hs')
  have hkeys : ((tableOf vs).shapes.map Prod.fst).Nodup := by
    simpa [tableOf, Function.comp_def] using names
  have hops : ((tableOf vs).operations.map Prod.fst).Nodup := by
    simpa [tableOf, Function.comp_def] using names
  have hshapeOf : ∀ shape variant, (tableOf vs).shapeOf? variant = some shape ↔
      (shape, variant) ∈ (tableOf vs).entries := by
    intro shape variant
    rw [shapeOf?, Option.join_eq_some_iff, Entries.lookup_eq_some_iff hkeys]
    simp [tableOf, and_comm]
  refine ⟨rfl, hdistinct, ?_, hshapeOf, ?_, ?_, ?_⟩
  · intro shape variant
    exact Entries.lookup_eq_some_iff hdistinct
  · intro variant
    rw [isExact, Option.isSome_iff_exists]
    exact exists_congr fun shape => hshapeOf shape variant
  · intro v hv
    exact (Entries.lookup_eq_some_iff hops).mpr (List.mem_map_of_mem hv)
  · simp [tableOf]

/-- An enumeration has a fault for each variant that is rejected, in declaration order, and a table
if none is. -/
theorem derive_enum (vs : List VariantDecl) (names : (vs.map (·.name)).Nodup) :
    ∃ rejected : List Nat, rejected.Pairwise (· < ·) ∧ (∀ i, i ∈ rejected ↔ IsRejected vs i) ∧
      match derive (.enum vs) with
      | .error faults => rejected ≠ [] ∧ List.Forall₂ (Explains vs) rejected faults
      | .ok t => rejected = [] ∧ t.IsTableOf vs := by
  have tracks := foldl_tracks vs
  obtain ⟨rejected, hsorted, hmem, hexplains⟩ := tracks.faults
  have hrejected : ∀ i, i ∈ rejected ↔ IsRejected vs i := by
    intro i
    rw [hmem]
    constructor
    · exact And.right
    · intro hr
      exact ⟨lt_length_of_isRejected hr, hr⟩
  refine ⟨rejected, hsorted, hrejected, ?_⟩
  rw [derive]
  by_cases hnil : (vs.foldl Draft.addVariant {}).faults = []
  · rw [if_pos hnil]
    rw [hnil] at hexplains
    obtain rfl := List.forall₂_nil_right_iff.mp hexplains
    have htable := tracks.table hnil
    rw [List.take_length] at htable
    rw [htable]
    refine ⟨rfl, isTableOf names ?_⟩
    intro i hr
    exact absurd ((hrejected i).mpr hr) List.not_mem_nil
  · rw [if_neg hnil]
    refine ⟨?_, hexplains⟩
    rintro rfl
    exact hnil (List.forall₂_nil_left_iff.mp hexplains)

/-- An attribute with a shape. -/
def shapeAttribute (shape : Text) : List AttributeItem :=
  [.value "shape" (.text shape)]

/-- Variants with a shape, with a shape and an operation, and with neither. -/
def sampleVariants : List VariantDecl :=
  [⟨"Int", [shapeAttribute "int"], true⟩,
    ⟨"Text", [shapeAttribute "int", shapeAttribute "java.lang.String",
      [.value "op" (.text "String")]], true⟩,
    ⟨"Opaque", [], true⟩]

def sampleTable : ShapeTable where
  entries := [("int", "Int"), ("java.lang.String", "Text")]
  cases := [("int", "Int"), ("java.lang.String", "Text")]
  shapes := [("Int", some "int"), ("Text", some "java.lang.String"), ("Opaque", none)]
  operations := [("Int", "Int"), ("Text", "String"), ("Opaque", "Opaque")]

/-- A variant with fields, one with a key without a value, one with an unclosed bracket, and two
with a shape that is taken. -/
def faultyVariants : List VariantDecl :=
  [⟨"Pair", [shapeAttribute "long"], false⟩,
    ⟨"Bare", [[.value "shape" (.unreadable "expected \x60=\x60")]], true⟩,
    ⟨"Open", [shapeAttribute "int["], true⟩, ⟨"Whole", [shapeAttribute "int"], true⟩,
    ⟨"Long", [shapeAttribute "long"], true⟩, ⟨"Wide", [shapeAttribute "long"], true⟩]

lemma derive_sampleVariants : derive (.enum sampleVariants) = .ok sampleTable := by
  decide +kernel

lemma derive_faultyVariants :
    derive (.enum (sampleVariants ++ faultyVariants)) =
      .error [.notUnit, .unreadable "expected \x60=\x60", .malformedShape "int[" .unclosedBracket,
        .repeatedShape "int" "Int", .repeatedShape "long" "Long"] := by
  decide +kernel

/-- The shape of a variant with fields is free for a later one. -/
theorem sampleVariants_derived :
    ((sampleVariants ++ faultyVariants).map (·.name)).Nodup ∧
      sampleTable.IsTableOf sampleVariants ∧ (∀ i, ¬IsRejected sampleVariants i) ∧
      ∃ rejected : List Nat, rejected.length = 5 ∧
        ∀ i, i ∈ rejected ↔ IsRejected (sampleVariants ++ faultyVariants) i := by
  have hnames : ((sampleVariants ++ faultyVariants).map (·.name)).Nodup := by decide +kernel
  obtain ⟨empty, -, hempty, htable⟩ := derive_enum sampleVariants (by decide +kernel)
  obtain ⟨rejected, -, hrejected, hfaults⟩ := derive_enum _ hnames
  rw [derive_sampleVariants] at htable
  rw [derive_faultyVariants] at hfaults
  refine ⟨hnames, htable.2, ?_, rejected, hfaults.2.length_eq, hrejected⟩
  intro i hi
  have hmem := (hempty i).mpr hi
  rw [htable.1] at hmem
  cases hmem

end ShapeTable

end Companion
