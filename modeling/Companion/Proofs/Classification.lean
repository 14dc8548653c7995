import Companion.Catalog.Basic
import Companion.Classification
import Companion.Proofs.TypeText

/-!
# Classification by structure

The table of exact shapes is kept by printed text, the other rules look at the type. What a type is
classified as can be said by its structure alone, for each shape in the table is the text of the
type that it denotes, and no two types are written alike. A type with such a shape has the strategy
of the shape. Any other type is tried on four capabilities in turn, unless a wildcard occurs in it.
The model is asked about capabilities only.
-/

namespace Companion

namespace TypeExpr

/-- A type occurs in another: it is the whole, or it occurs in an argument, a component or a
bound. -/
inductive OccursIn (u : TypeExpr) : TypeExpr → Prop where
  | whole : OccursIn u u
  | argument {name : QName} {args : List TypeExpr} {arg : TypeExpr} (harg : arg ∈ args)
      (h : OccursIn u arg) : OccursIn u (.declared name args)
  | component {component : TypeExpr} (h : OccursIn u component) : OccursIn u (.array component)
  | upperBound {bound : TypeExpr} (h : OccursIn u bound) : OccursIn u (.upperBounded bound)
  | lowerBound {bound : TypeExpr} (h : OccursIn u bound) : OccursIn u (.lowerBounded bound)

/-- A wildcard, with a bound or without, occurs in the type. -/
def ContainsWildcard (t : TypeExpr) : Prop :=
  ∃ u : TypeExpr, u.isWildcard = true ∧ OccursIn u t

lemma containsWildcard_of_isWildcard {t : TypeExpr} (h : t.isWildcard = true) :
    t.ContainsWildcard :=
  ⟨t, h, .whole⟩

lemma not_containsWildcard_primitive (p : Primitive) : ¬(primitive p).ContainsWildcard := by
  rintro ⟨u, hu, h⟩
  cases h
  cases hu

lemma containsWildcard_declared_iff {name : QName} {args : List TypeExpr} :
    (declared name args).ContainsWildcard ↔ ∃ arg ∈ args, arg.ContainsWildcard := by
  constructor
  · rintro ⟨u, hu, h⟩
    cases h with
    | whole => cases hu
    | argument harg h => exact ⟨_, harg, u, hu, h⟩
  · rintro ⟨arg, harg, u, hu, h⟩
    exact ⟨u, hu, .argument harg h⟩

lemma containsWildcard_array_iff {component : TypeExpr} :
    (array component).ContainsWildcard ↔ component.ContainsWildcard := by
  constructor
  · rintro ⟨u, hu, h⟩
    cases h with
    | whole => cases hu
    | component h => exact ⟨u, hu, h⟩
  · rintro ⟨u, hu, h⟩
    exact ⟨u, hu, .component h⟩

mutual

/-- The check for wildcards goes everywhere that one may occur. -/
theorem hasWildcard_iff (t : TypeExpr) : t.hasWildcard = true ↔ t.ContainsWildcard := by
  cases t with
  | primitive p =>
    rw [hasWildcard]
    exact iff_of_false Bool.false_ne_true (not_containsWildcard_primitive p)
  | declared name args =>
    rw [hasWildcard, containsWildcard_declared_iff]
    exact anyWildcard_iff args
  | array component =>
    rw [hasWildcard, containsWildcard_array_iff]
    exact hasWildcard_iff component
  | wildcard => exact iff_of_true rfl (containsWildcard_of_isWildcard rfl)
  | upperBounded bound => exact iff_of_true rfl (containsWildcard_of_isWildcard rfl)
  | lowerBounded bound => exact iff_of_true rfl (containsWildcard_of_isWildcard rfl)

theorem anyWildcard_iff (ts : List TypeExpr) :
    anyWildcard ts = true ↔ ∃ t ∈ ts, t.ContainsWildcard := by
  cases ts with
  | nil => simp [anyWildcard]
  | cons t ts =>
    rw [anyWildcard, Bool.or_eq_true, hasWildcard_iff t, anyWildcard_iff ts, List.exists_mem_cons_iff]

end

/-- Types that texts denote are the same if they are written alike. -/
lemma eq_of_print_eq {text text' : Text} {t t' : TypeExpr} (h : parse text = .ok t)
    (h' : parse text' = .ok t') (hprint : t.print = t'.print) : t = t' := by
  have hread := parse_print t (isCanonical_of_parse h)
  rw [hprint, parse_print t' (isCanonical_of_parse h')] at hread
  exact (Except.ok.inj hread).symm

end TypeExpr

namespace Strategy

/-- The strategy has a shape in the table, and this is the type that the shape denotes. -/
def IsFor (s : Strategy) (t : TypeExpr) : Prop :=
  ∃ shape, s.shape = some shape ∧ TypeExpr.parse shape = .ok t

/-- A shape is found with its strategy, as no two strategies have the same. -/
lemma ofShape?_of_shape {s : Strategy} {shape : Text} (h : s.shape = some shape) :
    ofShape? shape = some s := by
  have found : ∀ s ∈ all, ∀ shape ∈ s.shape, ofShape? shape = some s := by decide +kernel
  have listed : s ∈ all := by cases s <;> decide
  exact found s listed shape h

/-- Every shape denotes a type, and this is written like the shape. -/
lemma exists_parse_shape {s : Strategy} {shape : Text} (h : s.shape = some shape) :
    ∃ t, TypeExpr.parse shape = .ok t ∧ t.print = shape := by
  -- Every entry of the table is parsed and printed here, once and for all.
  have canonical : ∀ s ∈ all, ∀ shape ∈ s.shape,
      (TypeExpr.parse shape).toOption.map TypeExpr.print = some shape := by decide +kernel
  have listed : s ∈ all := by cases s <;> decide
  obtain ⟨t, ht, hprint⟩ := Option.map_eq_some_iff.mp (canonical s listed shape h)
  exact ⟨t, TypeExpr.toOption_parse_iff.mp ht, hprint⟩

/-- A type is looked up by its text as it would be by its structure. -/
lemma ofShape?_print_iff {text : Text} {t : TypeExpr} (h : TypeExpr.parse text = .ok t)
    {s : Strategy} : ofShape? t.print = some s ↔ s.IsFor t := by
  constructor
  · intro hs
    have hshape : s.shape = some t.print := by simpa using List.find?_some hs
    exact ⟨t.print, hshape, TypeExpr.parse_print t (TypeExpr.isCanonical_of_parse h)⟩
  · rintro ⟨shape, hshape, ht⟩
    obtain ⟨u, hu, hprint⟩ := exists_parse_shape hshape
    obtain rfl : u = t := Except.ok.inj (hu.symm.trans ht)
    rw [hprint]
    exact ofShape?_of_shape hshape

lemma ofShape?_print_eq_none_iff {text : Text} {t : TypeExpr} (h : TypeExpr.parse text = .ok t) :
    ofShape? t.print = none ↔ ∀ s : Strategy, ¬s.IsFor t := by
  rw [Option.eq_none_iff_forall_ne_some]
  exact forall_congr' fun s => not_congr (ofShape?_print_iff h)

/-- The strategies that are for a capability, by precedence. -/
def capabilities : List Strategy :=
  [structuredTransferable, structuredTransferableList, sparseStructuredTransferableMap,
    serializable]

end Strategy

namespace Classification

variable {m : TypeModel} {config : Config} {t : TypeExpr}

/-- A type has the capability that a strategy is for: it is assignable to the capability, it is the
list of the bare capability, or it is the sparse map of a declared type with the capability. -/
def Has (m : TypeModel) (config : Config) (t : TypeExpr) : Strategy → Prop
  | .structuredTransferable => m.isAssignable t config.structuredTransferable = true
  | .structuredTransferableList =>
    t = .declared config.listType [.declared config.structuredTransferable []]
  | .sparseStructuredTransferableMap =>
    ∃ element args, t = .declared config.sparseMapType [.declared element args] ∧
      m.isAssignable (.declared element args) config.structuredTransferable = true
  | .serializable => m.isAssignable t config.serializable = true
  | _ => False

/-- The answer names the first capability that the type has, or none if it has none. -/
def IsFirst (m : TypeModel) (config : Config) (t : TypeExpr) (strategies : List Strategy) :
    Option Strategy → Prop
  | some s => ∃ before after, strategies = before ++ s :: after ∧ Has m config t s ∧
      ∀ earlier ∈ before, ¬Has m config t earlier
  | none => ∀ s ∈ strategies, ¬Has m config t s

lemma answer_isStructuredList :
    (isStructuredList config t).answer = true ↔ Has m config t .structuredTransferableList := by
  rw [Has]
  unfold isStructuredList
  split
  next list element =>
    simp only [TypeExpr.declared.injEq, List.cons.injEq, and_true]
    exact decide_eq_true_iff
  next hne =>
    refine iff_of_false Bool.false_ne_true ?_
    rintro rfl
    exact hne _ _ rfl

lemma answer_isStructuredMap :
    (isStructuredMap m config t).answer = true ↔
      Has m config t .sparseStructuredTransferableMap := by
  rw [Has]
  unfold isStructuredMap
  split
  next map element args =>
    by_cases hmap : map = config.sparseMapType
    · rw [if_pos hmap]
      constructor
      · intro h
        exact ⟨element, args, by rw [hmap], h⟩
      · rintro ⟨element', args', heq, h⟩
        simp only [TypeExpr.declared.injEq, List.cons.injEq, and_true] at heq
        obtain ⟨-, rfl, rfl⟩ := heq
        exact h
    · rw [if_neg hmap]
      refine iff_of_false Bool.false_ne_true ?_
      rintro ⟨element', args', heq, -⟩
      exact hmap (TypeExpr.declared.inj heq).1
  next hne =>
    refine iff_of_false Bool.false_ne_true ?_
    rintro ⟨element, args, rfl, -⟩
    exact hne _ _ _ rfl

/-- Each rule asks for the capability of its strategy. -/
lemma answer_rules : ∀ rule ∈ rules m config,
    (rule.2 t).answer = true ↔ Has m config t rule.1 := by
  simp only [rules, List.forall_mem_cons]
  exact ⟨Iff.rfl, answer_isStructuredList, answer_isStructuredMap, Iff.rfl,
    fun _ h => absurd h List.not_mem_nil⟩

/-- Rules that are tried in turn give the first capability among theirs. -/
lemma isFirst_firstRule {rest : List (Strategy × (TypeExpr → Inquiry Bool))}
    (h : ∀ rule ∈ rest, (rule.2 t).answer = true ↔ Has m config t rule.1) :
    IsFirst m config t (rest.map (·.1)) (firstRule t rest).answer := by
  induction rest with
  | nil => exact fun _ hs => absurd hs List.not_mem_nil
  | cons rule rest ih =>
    obtain ⟨hrule, hrest⟩ := List.forall_mem_cons.mp h
    have hstep : (firstRule t (rule :: rest)).answer =
        if (rule.2 t).answer = true then some rule.1 else (firstRule t rest).answer := by
      change (if (rule.2 t).answer = true then pure (some rule.1) else
        firstRule t rest : Inquiry (Option Strategy)).answer = _
      split <;> rfl
    rw [hstep]
    by_cases hanswer : (rule.2 t).answer = true
    · rw [if_pos hanswer]
      exact ⟨[], rest.map (·.1), rfl, hrule.mp hanswer, fun _ hs => absurd hs List.not_mem_nil⟩
    · rw [if_neg hanswer]
      have hno : ¬Has m config t rule.1 := fun hhas => hanswer (hrule.mpr hhas)
      have hlater := ih hrest
      cases hfound : (firstRule t rest).answer with
      | none =>
        rw [hfound] at hlater
        exact List.forall_mem_cons.mpr ⟨hno, hlater⟩
      | some s =>
        rw [hfound] at hlater
        obtain ⟨before, after, heq, hhas, hbefore⟩ := hlater
        refine ⟨rule.1 :: before, after, ?_, hhas, List.forall_mem_cons.mpr ⟨hno, hbefore⟩⟩
        rw [List.map_cons, heq, List.cons_append]

/-- What a text denotes is classified by its structure. The strategy of the shape that denotes the
same type goes first, and without one a wildcard anywhere rules the type out; neither asks the model
anything. Otherwise the first of the four capabilities decides. So types that are written alike are
classified alike. -/
theorem classify_eq_structural (m : TypeModel) (config : Config) {text : Text} {t : TypeExpr}
    (h : TypeExpr.parse text = .ok t) :
    (∀ s : Strategy, s.IsFor t → classify m config t = ⟨some s, []⟩) ∧
    ((∀ s : Strategy, ¬s.IsFor t) → t.ContainsWildcard → classify m config t = ⟨none, []⟩) ∧
    ((∀ s : Strategy, ¬s.IsFor t) → ¬t.ContainsWildcard →
      IsFirst m config t Strategy.capabilities (classify m config t).answer) ∧
    ∀ text' t', TypeExpr.parse text' = .ok t' → t'.print = t.print →
      classify m config t' = classify m config t := by
  refine ⟨?_, ?_, ?_, ?_⟩
  · intro s hs
    rw [classify, (Strategy.ofShape?_print_iff h).mpr hs]
    rfl
  · intro hnone hwild
    rw [classify, (Strategy.ofShape?_print_eq_none_iff h).mpr hnone]
    dsimp only
    rw [if_pos ((TypeExpr.hasWildcard_iff t).mpr hwild)]
    rfl
  · intro hnone hwild
    rw [classify, (Strategy.ofShape?_print_eq_none_iff h).mpr hnone]
    dsimp only
    rw [if_neg (fun hhas => hwild ((TypeExpr.hasWildcard_iff t).mp hhas))]
    exact isFirst_firstRule answer_rules
  · intro text' t' h' hprint
    rw [TypeExpr.eq_of_print_eq h' h hprint]

/-- What the platform says of its own types. -/
def platformModel : TypeModel :=
  (Catalog.ofTypes [] Platform.types).model

/-- A loosely written shape has its strategy, an inner wildcard rules a type out, and the list of the
bare capability is no structured type itself but comes before what can be serialized. -/
theorem sampleTexts_classified :
    (∃ t, TypeExpr.parse " java.util.ArrayList < java.lang.Integer >" = .ok t ∧
      classify platformModel {} t = ⟨some .integerArrayList, []⟩) ∧
    (∃ t, TypeExpr.parse "java.util.ArrayList<a.B<?[]>>" = .ok t ∧
      classify platformModel {} t = ⟨none, []⟩) ∧
    ∃ t, TypeExpr.parse "java.util.ArrayList<android.os.Parcelable>" = .ok t ∧
      (classify platformModel {} t).answer = some .structuredTransferableList ∧
      IsFirst platformModel {} t Strategy.capabilities (classify platformModel {} t).answer := by
  have hshape : TypeExpr.parse " java.util.ArrayList < java.lang.Integer >" =
      .ok (.declared "java.util.ArrayList" [.declared "java.lang.Integer" []]) := by
    decide +kernel
  have hwild : TypeExpr.parse "java.util.ArrayList<a.B<?[]>>" =
      .ok (.declared "java.util.ArrayList" [.declared "a.B" [.array .wildcard]]) := by
    decide +kernel
  have hlist : TypeExpr.parse "java.util.ArrayList<android.os.Parcelable>" =
      .ok (.declared "java.util.ArrayList" [.declared "android.os.Parcelable" []]) := by
    decide +kernel
  refine ⟨⟨_, hshape, ?_⟩, ⟨_, hwild, ?_⟩, ⟨_, hlist, by decide +kernel, ?_⟩⟩
  · apply (classify_eq_structural platformModel {} hshape).1
    exact ⟨"java.util.ArrayList<java.lang.Integer>", rfl, by decide +kernel⟩
  · apply (classify_eq_structural platformModel {} hwild).2.1
    · exact (Strategy.ofShape?_print_eq_none_iff hwild).mp (by decide +kernel)
    · exact (TypeExpr.hasWildcard_iff _).mp (by decide +kernel)
  · apply (classify_eq_structural platformModel {} hlist).2.2.1
    · exact (Strategy.ofShape?_print_eq_none_iff hlist).mp (by decide +kernel)
    · exact fun hcontains =>
        absurd ((TypeExpr.hasWildcard_iff _).mpr hcontains) (by decide +kernel)

end Classification

end Companion
