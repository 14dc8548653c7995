import Companion.Proofs.Enclosure
import Companion.Proofs.Round

/-!
# Names in sources

The bound of an artifact's parameter is a name recovered from the flattened one, with a dot for
every `$`. The qualified name of the type is built from the names themselves, below the package of
the outermost type. The two are the same exactly where no name has a `$` and the package of the type
is that of the outermost one; an accepted manifest may have it otherwise in either respect.
-/

namespace Companion

namespace Text

/-- The text with a dot for every `$`. -/
def dotted (t : Text) : Text :=
  t.map fun c => if c = '$' then '.' else c

lemma length_dotted (t : Text) : t.dotted.length = t.length :=
  List.length_map _

lemma dotted_append (t u : Text) : dotted (t ++ u) = dotted t ++ dotted u :=
  List.map_append

lemma dotted_eq_self_iff {t : Text} : t.dotted = t ↔ '$' ∉ t := by
  induction t with
  | nil => simp [dotted]
  | cons c cs ih =>
    rw [dotted] at ih ⊢
    rw [List.map_cons, List.cons_eq_cons, ih, List.mem_cons, not_or]
    refine and_congr_left' ?_
    split
    · next hc => simp [hc]
    · next hc => simp [Ne.symm hc]

/-- Which of the two signs joins pieces makes no difference under dots. -/
lemma dotted_intercalate {sep : Char} (hsep : dotted [sep] = ['.']) (pieces : List Text) :
    dotted (List.intercalate [sep] pieces) = List.intercalate ['.'] (pieces.map dotted) := by
  induction pieces with
  | nil => rfl
  | cons first rest ih =>
    rcases eq_or_ne rest [] with rfl | hrest
    · simp
    · rw [List.map_cons, List.intercalate_cons_of_ne_nil hrest,
        List.intercalate_cons_of_ne_nil (by simpa using hrest), dotted_append, dotted_append, ih,
        hsep]

lemma notMem_intercalate_iff {sep c : Char} (hc : c ≠ sep) (pieces : List Text) :
    c ∉ List.intercalate [sep] pieces ↔ ∀ t ∈ pieces, c ∉ t := by
  induction pieces with
  | nil => simp
  | cons first rest ih =>
    rcases eq_or_ne rest [] with rfl | hrest
    · simp
    · simp [List.intercalate_cons_of_ne_nil hrest, hc, ih]

end Text

namespace QName

/-- A member is told by its qualifier and its name, if the length of the latter is known. -/
lemma child_inj_of_length_eq {m n : QName} {s t : Text} (hlength : s.length = t.length)
    (h : m.child s = n.child t) : m = n ∧ s = t := by
  have htext := congrArg text h
  by_cases hm : m.text = [] <;> by_cases hn : n.text = []
  · rw [child_nil hm, child_nil hn] at htext
    exact ⟨congrArg mk (hm.trans hn.symm), htext⟩
  · rw [child_nil hm, child_of_ne_nil hn] at htext
    have hlt : t.length < s.length := by
      rw [show s = n.text ++ '.' :: t from htext, List.length_append, List.length_cons]
      omega
    omega
  · rw [child_of_ne_nil hm, child_nil hn] at htext
    have hlt : s.length < t.length := by
      rw [← show m.text ++ '.' :: s = t from htext, List.length_append, List.length_cons]
      omega
    omega
  · rw [child_of_ne_nil hm, child_of_ne_nil hn] at htext
    obtain ⟨hmn, hst⟩ := List.append_inj' htext (by simp [hlength])
    exact ⟨congrArg mk hmn, (List.cons.inj hst).2⟩

end QName

namespace Identity

lemma sourceName_eq (i : Identity) :
    i.sourceName = (QName.child ⟨i.package⟩ i.flattenedName.dotted).text := by
  by_cases h : i.package = []
  · rw [sourceName, if_pos h, QName.child_nil h, Text.dotted]
  · rw [sourceName, if_neg h, QName.child_of_ne_nil h, Text.dotted]

end Identity

namespace Catalog

variable {c : Catalog} {n : QName} {d outermost : TypeDecl} {chain : List TypeDecl}

namespace Enclosure

lemma names_ne_nil (hchain : c.Enclosure n chain) : (chain.map (·.name)).reverse ≠ [] := by
  obtain ⟨d, ds, rfl, -⟩ := hchain.exists_cons
  simp

end Enclosure

namespace WellFormed

variable (h : c.WellFormed)
include h

/-- The name of a type is built from the names of its line below the package of the outermost
type. -/
lemma eq_child_outermost (hchain : c.Enclosure n chain) :
    ∃ outermost, chain.getLast? = some outermost ∧
      n = QName.child ⟨outermost.package⟩
        (List.intercalate ['.'] (chain.map (·.name)).reverse) := by
  induction hchain with
  | @top n d hl ho =>
    refine ⟨d, rfl, ?_⟩
    rw [List.map_singleton, List.reverse_singleton, List.intercalate_singleton,
      ← (lookup_some hl).1, TypeDecl.qualifiedName, ho]
  | @nested n outer d chain hl ho hchain ih =>
    obtain ⟨outermost, hlast, houter⟩ := ih
    obtain ⟨e, ds, rfl, he⟩ := hchain.exists_cons
    refine ⟨outermost, by rw [List.getLast?_cons_cons, hlast], ?_⟩
    rw [List.map_cons, List.reverse_cons,
      Text.intercalate_append_singleton '.' d.name hchain.names_ne_nil,
      ← QName.child_child (houter ▸ h.text_ne_nil he), ← houter, ← (lookup_some hl).1,
      TypeDecl.qualifiedName, ho]

/-- The source name of a type is built in the same way below the package of the type, with a dot
for every `$`. -/
lemma sourceName_eq (hl : c.lookup n = some d) :
    (Identity.of c.model n).sourceName =
      (QName.child ⟨c.packageOf n⟩
        (Text.dotted (List.intercalate ['.'] (c.nestedNames n)))).text := by
  rw [Identity.sourceName_eq, package_eq hl, h.flattenedName_eq hl,
    Text.dotted_intercalate (by decide), Text.dotted_intercalate (by decide)]

/-- The source name of a type is its qualified name if and only if no name of its line has a `$`
and its package is that of the outermost type. -/
lemma sourceName_eq_text_iff (hchain : c.Enclosure n chain) (hl : c.lookup n = some d)
    (hlast : chain.getLast? = some outermost) :
    (Identity.of c.model n).sourceName = n.text ↔
      (∀ e ∈ chain, '$' ∉ e.name) ∧ c.packageOf n = outermost.package := by
  obtain ⟨last, hlast', hname⟩ := h.eq_child_outermost hchain
  obtain rfl := Option.some.inj (hlast.symm.trans hlast')
  rw [h.sourceName_eq hl, h.nestedNames_eq_map hchain]
  generalize hjoin : List.intercalate ['.'] (chain.map (·.name)).reverse = join at hname ⊢
  have plain : Text.dotted join = join ↔ ∀ e ∈ chain, '$' ∉ e.name := by
    rw [Text.dotted_eq_self_iff, ← hjoin, Text.notMem_intercalate_iff (by decide)]
    simp
  rw [← plain]
  constructor
  · intro heq
    have hchild : QName.child ⟨c.packageOf n⟩ (Text.dotted join) =
        QName.child ⟨outermost.package⟩ join := (congrArg QName.mk heq).trans hname
    obtain ⟨hpackage, hdotted⟩ := QName.child_inj_of_length_eq (Text.length_dotted join) hchild
    exact ⟨hdotted, congrArg QName.text hpackage⟩
  · rintro ⟨hdotted, hpackage⟩
    rw [hdotted, hpackage, ← hname]

/-- Among plain names every type is called in sources what it is called in the program. -/
lemma sourceName_of_plainNames (plain : PlainNames c.declared) (hl : c.lookup n = some d) :
    (Identity.of c.model n).sourceName = n.text := by
  have hdollar : '$' ∉ List.intercalate ['.'] (c.nestedNames n) :=
    (Text.notMem_intercalate_iff (by decide) _).mpr fun _ => h.dollar_notMem_nestedNames plain
  rw [h.sourceName_eq hl, Text.dotted_eq_self_iff.mpr hdollar, ← h.eq_child_of_plainNames plain hl]

end WellFormed

end Catalog

namespace Group

/-- The beginning of a source with this type for the bound of the parameter. -/
def bounded (g : Group) (bound : Text) : Text :=
  g.packageLine ++ "public class " ++ g.info.artifact.simpleName ++ "<T extends " ++ bound ++
    "> extends "

/-- A source begins with the source name of its type for the bound. -/
lemma bounded_prefix_source (config : Config) (g : Group) :
    g.bounded g.info.sourceName <+: g.source config := by
  refine ⟨((Variant.of g.info).parent config g.info).text ++ "<T> \x7b\n" ++
    "    private static final " ++ config.helperType.text ++ " H = new " ++
    config.helperType.text ++ "(\"" ++ g.keyPrefix ++ "\");\n" ++ "\n" ++
    g.printMethod config .restore ++ "\n" ++ g.printMethod config .save ++ "\x7d\n", ?_⟩
  rw [source, header, bounded]
  simp only [List.append_assoc]

end Group

namespace Catalog

/-- A declared type is called in sources what it is called in the program if and only if none of the
names from the outermost type to it has a `$` and its package is that of the outermost type, which
holds throughout where names are plain. Every artifact of a round is bounded by the source name of
the type that it is generated for. -/
theorem sourceName_eq_qualifiedName_iff {m : Manifest} {c : Catalog} (hm : ofManifest m = .ok c) :
    (∀ d ∈ m.types, ∃ chain outermost, c.Enclosure d.qualifiedName chain ∧
      chain.getLast? = some outermost ∧
      ((Identity.of c.model d.qualifiedName).sourceName = d.qualifiedName.text ↔
        (∀ e ∈ chain, '$' ∉ e.name) ∧ c.packageOf d.qualifiedName = outermost.package)) ∧
    (PlainNames m.types → ∀ d ∈ m.types,
      (Identity.of c.model d.qualifiedName).sourceName = d.qualifiedName.text) ∧
    ∀ config, ∀ g ∈ Round.groups c.model config, ∃ d ∈ m.types, g.info.name = d.qualifiedName ∧
      ∃ rest, (Variant.of g.info).render config g =
        .ok (g.bounded (Identity.of c.model d.qualifiedName).sourceName ++ rest) := by
  obtain ⟨hdeclared, h⟩ := wellFormed_of_ofManifest hm
  rw [← hdeclared]
  refine ⟨fun d hd => ?_, fun plain d hd => ?_, fun config g hg => ?_⟩
  · have hl := h.lookup_declared hd
    obtain ⟨chain, hchain⟩ := h.exists_enclosure hl
    obtain ⟨outermost, hlast, -⟩ := h.eq_child_outermost hchain
    exact ⟨chain, outermost, hchain, hlast, h.sourceName_eq_text_iff hchain hl hlast⟩
  · exact h.sourceName_of_plainNames plain (h.lookup_declared hd)
  · obtain ⟨d, hd, -, hinfo, -⟩ := Round.of_mem_groups h hg
    obtain ⟨rest, hrest⟩ := Group.bounded_prefix_source config g
    refine ⟨d, hd, congrArg TypeInfo.name hinfo, rest, ?_⟩
    rw [Group.render_eq_source, ← hrest, hinfo]
    rfl

/-- Where names are plain, source names are qualified names; a type with a package of its own in
another one has a source name that is not. -/
theorem samples_sourceName :
    (ofManifest plainManifest = .ok (unchecked plainManifest) ∧ PlainNames plainManifest.types ∧
      ∀ d ∈ plainManifest.types,
        (Identity.of (unchecked plainManifest).model d.qualifiedName).sourceName =
          d.qualifiedName.text) ∧
    ofManifest layeredManifest = .ok (unchecked layeredManifest) ∧
      bareType "q" "Middle" (some "p.Outer") ∈ layeredManifest.types ∧
      (Identity.of (unchecked layeredManifest).model "p.Outer.Middle").sourceName ≠
        "p.Outer.Middle" := by
  have plain : PlainNames plainManifest.types := by
    unfold PlainNames
    decide
  have acceptedPlain : ofManifest plainManifest = .ok (unchecked plainManifest) :=
    ofManifest_of_fault?_eq_none (by decide +kernel)
  have accepted : ofManifest layeredManifest = .ok (unchecked layeredManifest) :=
    ofManifest_of_fault?_eq_none (by decide +kernel)
  have hmem : bareType "q" "Middle" (some "p.Outer") ∈ layeredManifest.types := by
    simp [layeredManifest]
  refine ⟨⟨acceptedPlain, plain, (sourceName_eq_qualifiedName_iff acceptedPlain).2.1 plain⟩,
    accepted, hmem, fun heq => ?_⟩
  obtain ⟨chain, outermost, hchain, hlast, hiff⟩ :=
    (sourceName_eq_qualifiedName_iff accepted).1 _ hmem
  have hline : (unchecked layeredManifest).Enclosure "p.Outer.Middle"
      [bareType "q" "Middle" (some "p.Outer"), bareType "p" "Outer" none] :=
    .nested (by decide +kernel) rfl (.top (by decide +kernel) rfl)
  obtain rfl := hchain.unique hline
  obtain rfl := Option.some.inj hlast
  exact absurd (hiff.mp heq).2 (by decide +kernel)

/-- A `$` within a name is written as a dot, too. -/
theorem sourceName_ne_qualifiedName :
    ¬∀ (m : Manifest) (c : Catalog), ofManifest m = .ok c → ∀ d ∈ m.types,
      (Identity.of c.model d.qualifiedName).sourceName = d.qualifiedName.text := by
  intro same
  have accepted : ofManifest dollarManifest = .ok (unchecked dollarManifest) :=
    ofManifest_of_fault?_eq_none (by decide +kernel)
  have written : ∃ d ∈ dollarManifest.types,
      (Identity.of (unchecked dollarManifest).model d.qualifiedName).sourceName ≠
        d.qualifiedName.text := by
    decide +kernel
  obtain ⟨d, hd, hne⟩ := written
  exact hne (same _ _ accepted d hd)

end Catalog

end Companion
