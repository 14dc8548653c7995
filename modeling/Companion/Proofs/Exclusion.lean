import Companion.Config.Basic
import Companion.Proofs.Enclosure
import Companion.Proofs.Path

/-!
# Namespaces that are left alone

Whether a type is left alone is a test on the characters of its name. A configuration is accepted
only if each of its prefixes ends in a dot, and this is just what it takes for the test to compare
whole segments: a name is left alone if and only if it has all segments of a namespace and more. So
a namespace takes in everything below it, but neither its own name nor a name in which one of its
segments is no more than a part of a segment.
-/

namespace Companion

namespace Text

/-- The pieces of a longer text go on after those of a shorter one where a separator follows it. -/
lemma split_eq_append_iff {sep : Char} {t u : Text} {rest : List Text} :
    u.split sep = t.split sep ++ rest ∧ rest ≠ [] ↔
      ∃ more, u = t ++ sep :: more ∧ rest = split sep more := by
  constructor
  · rintro ⟨hsplit, hne⟩
    have hpieces : ∀ piece ∈ rest, sep ∉ piece := fun piece hpiece =>
      notMem_of_mem_split (hsplit ▸ List.mem_append_right _ hpiece)
    have hrest : rest = split sep (List.intercalate [sep] rest) :=
      (split_intercalate hpieces hne).symm
    refine ⟨List.intercalate [sep] rest, ?_, hrest⟩
    -- Both sides have the same pieces, and a text is the join of its pieces.
    calc
      u = List.intercalate [sep] (u.split sep) := (intercalate_split sep u).symm
      _ = List.intercalate [sep] ((t ++ sep :: List.intercalate [sep] rest).split sep) := by
        rw [split_append, ← hrest, hsplit]
      _ = t ++ sep :: List.intercalate [sep] rest := intercalate_split sep _
  · rintro ⟨more, rfl, rfl⟩
    obtain ⟨piece, pieces, hmore⟩ := split_eq_cons sep more
    exact ⟨split_append sep t more, by simp [hmore]⟩

end Text

namespace QName

/-- A name is below another one if it has all segments of the other one and then more. -/
def IsBelow (n space : QName) : Prop :=
  space.segments <+: n.segments ∧ space.segments ≠ n.segments

instance (n space : QName) : Decidable (n.IsBelow space) :=
  inferInstanceAs (Decidable (_ ∧ _))

variable {n outer space : QName}

lemma isBelow_iff : n.IsBelow space ↔ ∃ more, n.text = space.text ++ '.' :: more := by
  constructor
  · rintro ⟨⟨rest, hrest⟩, hne⟩
    have hrest_ne : rest ≠ [] := by
      rintro rfl
      exact hne (by simpa using hrest)
    obtain ⟨more, hmore, -⟩ := Text.split_eq_append_iff.mp ⟨hrest.symm, hrest_ne⟩
    exact ⟨more, hmore⟩
  · rintro ⟨more, hmore⟩
    obtain ⟨hsplit, hne⟩ := Text.split_eq_append_iff.mpr ⟨more, hmore, rfl⟩
    refine ⟨⟨Text.split '.' more, hsplit.symm⟩, fun heq => hne ?_⟩
    rw [segments, segments, hsplit] at heq
    simpa using heq

lemma not_isBelow_self (n : QName) : ¬n.IsBelow n :=
  fun h => h.2 rfl

lemma isBelow_child (h : n.text ≠ []) (segment : Text) : (n.child segment).IsBelow n :=
  isBelow_iff.mpr ⟨segment, by rw [child_of_ne_nil h]⟩

namespace IsBelow

lemma trans (hn : n.IsBelow outer) (ho : outer.IsBelow space) : n.IsBelow space := by
  obtain ⟨more, hmore⟩ := isBelow_iff.mp hn
  obtain ⟨between, hbetween⟩ := isBelow_iff.mp ho
  refine isBelow_iff.mpr ⟨between ++ '.' :: more, ?_⟩
  rw [hmore, hbetween, List.append_assoc, List.cons_append]

lemma text_ne_nil (h : n.IsBelow space) : n.text ≠ [] := by
  obtain ⟨more, hmore⟩ := isBelow_iff.mp h
  simp [hmore]

/-- Where the namespace has a segment, the name has the same one. -/
lemma getElem?_segments (h : n.IsBelow space) {i : Nat} {segment : Text}
    (hi : space.segments[i]? = some segment) : n.segments[i]? = some segment := by
  obtain ⟨hlt, heq⟩ := List.getElem?_eq_some_iff.mp hi
  rw [List.prefix_iff_getElem?.mp h.1 i hlt, heq]

end IsBelow

/-- Texts that end in a dot, and no others, begin just those names that are below what stands before
their last character. -/
lemma getLast?_eq_dot_iff {start : Text} :
    start.getLast? = some '.' ↔ ∀ n : QName, start <+: n.text ↔ n.IsBelow ⟨start.dropLast⟩ := by
  constructor
  · intro hdot n
    rw [isBelow_iff, ← List.dropLast_append_getLast? '.' hdot]
    simp [List.IsPrefix, eq_comm]
  · intro hbelow
    obtain ⟨more, hmore⟩ := isBelow_iff.mp ((hbelow ⟨start⟩).mp (List.prefix_refl start))
    -- Past its last character, the text has room for nothing but the dot.
    have hlength := congrArg List.length hmore
    simp only [List.length_append, List.length_dropLast, List.length_cons] at hlength
    obtain rfl : more = [] := List.length_eq_zero_iff.mp (by omega)
    exact List.getLast?_eq_some_iff.mpr ⟨_, hmore⟩

end QName

namespace Config

/-- The configuration with one prefix in the place of all that it has. -/
def excludingOnly (c : Config) (start : Text) : Config :=
  { c with excludedPrefixes := [start] }

variable {c : Config} {start : Text} {n : QName}

lemma getLast?_of_validate (hc : c.validate = .ok c) (hs : start ∈ c.excludedPrefixes) :
    start.getLast? = some '.' := by
  have hfault : c.fault? = none := by
    cases hf : c.fault? with
    | none => rfl
    | some e => rw [validate, hf] at hc; cases hc
  rw [fault?] at hfault
  split at hfault
  · cases hfault
  split at hfault
  · cases hfault
  · rw [Option.map_eq_none_iff, List.find?_eq_none] at hfault
    simpa using hfault start hs

lemma isExcluded_iff : c.isExcluded n = true ↔ ∃ start ∈ c.excludedPrefixes, start <+: n.text := by
  simp [isExcluded]

lemma isExcluded_excludingOnly :
    (c.excludingOnly start).isExcluded n = true ↔ start <+: n.text := by
  simp [isExcluded_iff, excludingOnly]

section Accepted

variable (hc : c.validate = .ok c)
include hc

/-- The prefixes of an accepted configuration compare whole segments. -/
lemma prefix_text_iff_isBelow (hs : start ∈ c.excludedPrefixes) :
    start <+: n.text ↔ n.IsBelow ⟨start.dropLast⟩ :=
  QName.getLast?_eq_dot_iff.mp (getLast?_of_validate hc hs) n

lemma isExcluded_iff_exists :
    c.isExcluded n = true ↔ ∃ start ∈ c.excludedPrefixes, n.IsBelow ⟨start.dropLast⟩ := by
  rw [isExcluded_iff]
  exact exists_congr fun start => and_congr_right fun hs => prefix_text_iff_isBelow hc hs

lemma isExcluded_excludingOnly_iff (hs : start ∈ c.excludedPrefixes) :
    (c.excludingOnly start).isExcluded n = true ↔ n.IsBelow ⟨start.dropLast⟩ :=
  isExcluded_excludingOnly.trans (prefix_text_iff_isBelow hc hs)

/-- What is below a name that is left alone is left alone, too. -/
lemma isExcluded_of_isBelow {inner : QName} (hn : c.isExcluded n = true) (h : inner.IsBelow n) :
    c.isExcluded inner = true := by
  obtain ⟨start, hs, hbelow⟩ := (isExcluded_iff_exists hc).mp hn
  exact (isExcluded_iff_exists hc).mpr ⟨start, hs, h.trans hbelow⟩

lemma isExcluded_child (hn : c.isExcluded n = true) (segment : Text) :
    c.isExcluded (n.child segment) = true := by
  obtain ⟨start, -, hbelow⟩ := (isExcluded_iff_exists hc).mp hn
  exact isExcluded_of_isBelow hc hn (QName.isBelow_child hbelow.text_ne_nil segment)

lemma isExcluded_foldl_child (hn : c.isExcluded n = true) (path : List Text) :
    c.isExcluded (path.foldl QName.child n) = true := by
  induction path generalizing n with
  | nil => exact hn
  | cons segment path ih => exact ih (isExcluded_child hc hn segment)

/-- A declared type is left alone if a type around it is. -/
lemma isExcluded_of_enclosure {catalog : Catalog} {inner : QName} {chain : List TypeDecl}
    (h : catalog.Enclosure inner chain) {d : TypeDecl} (hd : d ∈ chain)
    (hn : c.isExcluded d.qualifiedName = true) : c.isExcluded inner = true := by
  induction h with
  | top hl _ =>
    obtain rfl := List.mem_singleton.mp hd
    rwa [(Catalog.lookup_some hl).1] at hn
  | @nested inner outer e chain hl ho _ ih =>
    have hname : inner = outer.child e.name := by
      rw [← (Catalog.lookup_some hl).1, TypeDecl.qualifiedName, ho]
    rcases List.mem_cons.mp hd with rfl | hd
    · rwa [(Catalog.lookup_some hl).1] at hn
    · rw [hname]
      exact isExcluded_child hc (ih hd) e.name

end Accepted

/-- An accepted configuration leaves a name alone if and only if the segments of one of its
prefixes, without the final dot, are followed by more segments in the name. So no prefix excludes
the name of its own namespace, nor a name with another segment in the place of one of its own; and
with a name everything below it is excluded: the names with more segments, the members of its
members, and the types declared within it. -/
theorem isExcluded_iff_isBelow {c : Config} (hc : c.validate = .ok c) :
    (∀ n : QName, c.isExcluded n = true ↔
      ∃ start ∈ c.excludedPrefixes, n.IsBelow ⟨start.dropLast⟩) ∧
    (∀ start ∈ c.excludedPrefixes, start = start.dropLast ++ ['.'] ∧
      (c.excludingOnly start).isExcluded ⟨start.dropLast⟩ = false ∧
      ∀ (n : QName) (i : Nat) (part whole : Text),
        (QName.segments ⟨start.dropLast⟩)[i]? = some part → n.segments[i]? = some whole →
          part ≠ whole → (c.excludingOnly start).isExcluded n = false) ∧
    ∀ n : QName, c.isExcluded n = true →
      (∀ inner : QName, inner.IsBelow n → c.isExcluded inner = true) ∧
      (∀ path : List Text, c.isExcluded (path.foldl QName.child n) = true) ∧
      ∀ (catalog : Catalog) (inner : QName) (chain : List TypeDecl),
        catalog.Enclosure inner chain → (∃ d ∈ chain, d.qualifiedName = n) →
          c.isExcluded inner = true := by
  refine ⟨fun n => isExcluded_iff_exists hc, fun start hs => ⟨?_, ?_, ?_⟩, fun n hn => ?_⟩
  · exact (List.dropLast_append_getLast? '.' (getLast?_of_validate hc hs)).symm
  · rw [← Bool.not_eq_true, isExcluded_excludingOnly_iff hc hs]
    exact QName.not_isBelow_self _
  · intro n i part whole hpart hwhole hne
    rw [← Bool.not_eq_true, isExcluded_excludingOnly_iff hc hs]
    intro hbelow
    exact hne (Option.some.inj ((hbelow.getElem?_segments hpart).symm.trans hwhole))
  · refine ⟨fun inner => isExcluded_of_isBelow hc hn, isExcluded_foldl_child hc hn, ?_⟩
    rintro catalog inner chain hchain ⟨d, hd, rfl⟩
    exact isExcluded_of_enclosure hc hchain hd hn

/-- Prefixes of one and of two segments, and one whose only segment is empty. -/
def layeredConfig : Config :=
  { excludedPrefixes := ["java.", "p.Outer.", "."] }

/-- A type within `p.Outer` is left alone with the type declared in it. `p.Outer` is not, and neither
is a name that only begins like a prefix. -/
theorem layeredConfig_isExcluded :
    layeredConfig.validate = .ok layeredConfig ∧
      (∃ start ∈ layeredConfig.excludedPrefixes,
        QName.IsBelow "p.Outer.Middle" ⟨start.dropLast⟩) ∧
      layeredConfig.isExcluded "p.Outer.Middle" = true ∧
      (layeredConfig.excludingOnly "p.Outer.").isExcluded "p.Outer" = false ∧
      (layeredConfig.excludingOnly "java.").isExcluded "javafx.Thing" = false ∧
      layeredConfig.isExcluded ".A" = true ∧
      QName.IsBelow "p.Outer.Middle.Other" "p.Outer.Middle" ∧
      layeredConfig.isExcluded "p.Outer.Middle.Other" = true ∧
      (Catalog.unchecked Catalog.layeredManifest).Enclosure "p.Outer.Middle.Inner"
        Catalog.layeredManifest.types ∧
      (∃ d ∈ Catalog.layeredManifest.types, d.qualifiedName = "p.Outer.Middle") ∧
      layeredConfig.isExcluded "p.Outer.Middle.Inner" = true := by
  have accepted : layeredConfig.validate = .ok layeredConfig := rfl
  obtain ⟨whole, alone, within⟩ := isExcluded_iff_isBelow accepted
  have below : ∃ start ∈ layeredConfig.excludedPrefixes,
      QName.IsBelow "p.Outer.Middle" ⟨start.dropLast⟩ := by
    decide
  have excluded := (whole "p.Outer.Middle").mpr below
  have more : QName.IsBelow "p.Outer.Middle.Other" "p.Outer.Middle" := by
    decide
  have line : (Catalog.unchecked Catalog.layeredManifest).Enclosure "p.Outer.Middle.Inner"
      Catalog.layeredManifest.types :=
    .nested (by decide +kernel) rfl
      (.nested (by decide +kernel) rfl (.top (by decide +kernel) rfl))
  have middle : ∃ d ∈ Catalog.layeredManifest.types, d.qualifiedName = "p.Outer.Middle" := by
    decide +kernel
  refine ⟨accepted, below, excluded, (alone "p.Outer." (by decide)).2.1, ?_, ?_, more,
    (within _ excluded).1 _ more, line, middle, (within _ excluded).2.2 _ _ _ line middle⟩
  · exact (alone "java." (by decide)).2.2 "javafx.Thing" 0 "java" "javafx" rfl rfl (by decide)
  · exact (whole ".A").mpr (by decide)

end Config

end Companion
