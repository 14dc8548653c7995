import Companion.Proofs.LongestType

/-!
# The text of a type

A canonical type is written as it is printed, so it is read back from its own text, and whatever can
be read is canonical. This makes printing and reading inverse, and the printed form a key.
-/

namespace Companion

namespace TypeExpr

open Identifier

lemma IsBrackets.snoc {n : Nat} {b : Text} (h : IsBrackets n b) :
    IsBrackets (n + 1) (b ++ "[]") := by
  induction h with
  | none => exact .pair isSpacing_nil .none
  | @pair n w s hw hs ih =>
    rw [List.append_assoc]
    exact .pair hw ih

/-- Bracket pairs may be written after any type but a wildcard with a bound. -/
lemma IsWritten.array {t : TypeExpr} {s : Text} (h : IsWritten t s) (ht : t.isBounded = false) :
    IsWritten (.array t) (s ++ "[]") := by
  cases h with
  | upperBounded hw hw' hs => exact absurd ht (by simp [isBounded, tree, TypeTree.isBounded])
  | lowerBounded hw hw' hs => exact absurd ht (by simp [isBounded, tree, TypeTree.isBounded])
  | arrayOf hs hs' =>
    rw [List.append_assoc]
    exact .arrayOf hs hs'.snoc

lemma IsBase.isWritten {t : TypeExpr} {s : Text} (h : IsBase t s) : IsWritten t s := by
  have hwritten := IsWritten.arrayOf h .none
  rwa [List.append_nil] at hwritten

lemma isGap_space : IsGap [' '] :=
  ⟨by simp, isSpacing_nil.cons (by decide)⟩

mutual

/-- A canonical type is written as it is printed. -/
theorem isWritten_print (t : TypeExpr) (h : t.isCanonical = true) : IsWritten t t.print := by
  cases t with
  | primitive p => exact (IsBase.primitive p).isWritten
  | declared name args =>
    obtain ⟨hname, hkeyword, hargs⟩ := isCanonical_declared_iff.mp h
    cases args with
    | nil =>
      have hword : ∀ p : Primitive, p.keyword ≠ name.text := by
        intro p hp
        have hnone := hkeyword rfl
        rw [← hp, Primitive.ofKeyword?_keyword] at hnone
        cases hnone
      rw [print_declared, printArgs_nil, List.append_nil]
      exact (IsBase.plain hname hword).isWritten
    | cons arg args =>
      rw [allCanonical_cons, Bool.and_eq_true] at hargs
      have harg := isWritten_print arg hargs.1
      have hmore := isMore_printMore args hargs.2
      exact (IsBase.generic hname isSpacing_nil isSpacing_nil harg hmore).isWritten
  | array component =>
    obtain ⟨hbounded, hcomponent⟩ := isCanonical_array_iff.mp h
    exact (isWritten_print component hcomponent).array hbounded
  | wildcard => exact IsBase.wildcard.isWritten
  | upperBounded bound =>
    rw [isCanonical_upperBounded] at h
    exact .upperBounded isGap_space isGap_space (isWritten_print bound h)
  | lowerBounded bound =>
    rw [isCanonical_lowerBounded] at h
    exact .lowerBounded isGap_space isGap_space (isWritten_print bound h)

theorem isMore_printMore (ts : List TypeExpr) (h : allCanonical ts = true) :
    IsMore ts (printMore ts) := by
  cases ts with
  | nil => exact .close isSpacing_nil
  | cons t ts =>
    rw [allCanonical_cons, Bool.and_eq_true] at h
    have ht := isWritten_print t h.1
    exact .comma isSpacing_nil isSpacing_nil ht (isMore_printMore ts h.2)

end

lemma IsName.eq_dot_or_isPart {name : Text} (h : IsName name) {c : Char} (hc : c ∈ name) :
    c = '.' ∨ isPart c = true := by
  refine (Text.mem_split hc '.').imp_right ?_
  rintro ⟨piece, hpiece, hmem⟩
  exact isPart_of_mem (List.all_eq_true.mp h piece hpiece) hmem

lemma isBlank_of_mem_name {name : Text} (h : IsName name) {c : Char} (hc : c ∈ name) :
    Text.isBlank c = false := by
  rcases h.eq_dot_or_isPart hc with rfl | hpart
  · decide
  · exact Text.isBlank_of_isPart hpart

lemma IsMore.getLast? {ts : List TypeExpr} {s : Text} (h : IsMore ts s) :
    s.getLast? = some '>' := by
  cases h with
  | close hw => rw [List.getLast?_append]; rfl
  | comma hw hw' hs hs' =>
    rw [List.getLast?_append, List.getLast?_cons, List.getLast?_append, List.getLast?_append,
      hs'.getLast?]
    rfl

lemma IsBase.isBlank_getLast {t : TypeExpr} {s : Text} (h : IsBase t s) :
    ∀ c ∈ s.getLast?, Text.isBlank c = false := by
  intro c hc
  cases h with
  | wildcard =>
    obtain rfl : '?' = c := Option.some.inj hc
    decide
  | primitive p => exact isBlank_of_mem_name (all_isValid_keyword p) (List.mem_of_getLast? hc)
  | plain hname hword => exact isBlank_of_mem_name hname (List.mem_of_getLast? hc)
  | generic hname hw hw' hs hs' =>
    rw [List.getLast?_append, List.getLast?_append, List.getLast?_cons, List.getLast?_append,
      List.getLast?_append, hs'.getLast?] at hc
    obtain rfl : '>' = c := Option.some.inj hc
    decide

lemma IsBrackets.getLast? {n : Nat} {b : Text} (h : IsBrackets (n + 1) b) :
    b.getLast? = some ']' := by
  cases h with
  | pair hw hs =>
    cases n with
    | zero =>
      cases hs
      rw [List.getLast?_append]
      rfl
    | succ n =>
      rw [List.getLast?_append, List.getLast?_cons, List.getLast?_cons, hs.getLast?]
      rfl

lemma IsWritten.ne_nil {t : TypeExpr} {s : Text} (h : IsWritten t s) : s ≠ [] := by
  obtain ⟨c, cs, rfl, -⟩ := h.exists_head
  exact List.cons_ne_nil c cs

lemma IsWritten.isBlank_getLast {t : TypeExpr} {s : Text} (h : IsWritten t s) :
    ∀ c ∈ s.getLast?, Text.isBlank c = false := by
  cases h with
  | @upperBounded bound w w' s hw hw' hs =>
    intro c hc
    rw [← List.singleton_append, ← List.append_assoc, ← List.append_assoc, ← List.append_assoc,
      List.getLast?_append_of_ne_nil _ hs.ne_nil] at hc
    exact hs.isBlank_getLast c hc
  | @lowerBounded bound w w' s hw hw' hs =>
    intro c hc
    rw [← List.singleton_append, ← List.append_assoc, ← List.append_assoc, ← List.append_assoc,
      List.getLast?_append_of_ne_nil _ hs.ne_nil] at hc
    exact hs.isBlank_getLast c hc
  | @arrayOf base n s b hs hb =>
    intro c hc
    cases n with
    | zero =>
      cases hb
      rw [List.append_nil] at hc
      exact hs.isBlank_getLast c hc
    | succ n =>
      rw [List.getLast?_append, hb.getLast?] at hc
      obtain rfl : ']' = c := Option.some.inj hc
      decide

/-- What is written as a type neither begins nor ends with white space. -/
lemma IsWritten.trim_eq_self {t : TypeExpr} {s : Text} (h : IsWritten t s) : s.trim = s := by
  refine Text.trim_eq_self ?_ h.isBlank_getLast
  intro d hd
  obtain ⟨c, cs, rfl, hc⟩ := h.exists_head
  obtain rfl : c = d := Option.some.inj hd
  rcases hc with rfl | hc
  · decide
  · exact Text.isBlank_of_isPart (isPart_of_isStart hc)

/-- A canonical type is what its text denotes. -/
theorem parse_print (t : TypeExpr) (h : t.isCanonical = true) : parse t.print = .ok t := by
  have hwritten := isWritten_print t h
  have hread := readType_of_isWritten (t.print.length + 1) hwritten (Nat.lt_succ_self _) ends_nil
  rw [List.append_nil] at hread
  rw [parse, hwritten.trim_eq_self, read, hread]

lemma toOption_parse_iff {text : Text} {t : TypeExpr} :
    (parse text).toOption = some t ↔ parse text = .ok t := by
  cases parse text with
  | error e => simp [Except.toOption]
  | ok u => simp [Except.toOption]

lemma exists_parse_iff_isCanonical (u : TypeTree) :
    (∃ text t, parse text = .ok t ∧ t.tree = u) ↔ u.isCanonical = true := by
  constructor
  · rintro ⟨text, t, ht, rfl⟩
    exact isCanonical_of_parse ht
  · intro h
    obtain ⟨t, rfl⟩ := u.exists_tree_eq h
    exact ⟨t.print, t, parse_print t h, rfl⟩

lemma parse_print_iff_isCanonical (u : TypeTree) :
    (∃ t, parse u.print = .ok t ∧ t.tree = u) ↔ u.isCanonical = true := by
  constructor
  · rintro ⟨t, ht, rfl⟩
    exact isCanonical_of_parse ht
  · intro h
    obtain ⟨t, rfl⟩ := u.exists_tree_eq h
    exact ⟨t, by rw [print_tree, parse_print t h], rfl⟩

/-- Printing and reading undo each other. What a text denotes is read back from its own printed
form. A tree survives being printed and read if and only if some text denotes it, and these are the
canonical trees. No two types that texts denote are written alike. -/
theorem print_parse_inverse :
    (∀ text t, parse text = .ok t → parse t.print = .ok t) ∧
    (∀ u : TypeTree, (∃ t, parse u.print = .ok t ∧ t.tree = u) ↔
      ∃ text t, parse text = .ok t ∧ t.tree = u) ∧
    (∀ u : TypeTree, (∃ text t, parse text = .ok t ∧ t.tree = u) ↔ u.isCanonical = true) ∧
    ∀ text text' t t', parse text = .ok t → parse text' = .ok t' → t.print = t'.print → t = t' := by
  refine ⟨fun text t ht => parse_print t (isCanonical_of_parse ht),
    fun u => (parse_print_iff_isCanonical u).trans (exists_parse_iff_isCanonical u).symm,
    exists_parse_iff_isCanonical, ?_⟩
  intro text text' t t' ht ht' hprint
  have hread := parse_print t (isCanonical_of_parse ht)
  rw [hprint, parse_print t' (isCanonical_of_parse ht')] at hread
  exact (Except.ok.inj hread).symm

/-- Wildcards with bounds, nested arguments and arrays, with space wherever it may stand. -/
def sampleText : Text :=
  " a.Map < b.K ,? extends int [] , ? super L<?[]>[]> []\t"

/-- What `sampleText` denotes. -/
def sampleType : TypeExpr :=
  .array (.declared "a.Map" [.declared "b.K" [], .upperBounded (.array (.primitive .int)),
    .lowerBounded (.array (.declared "L" [.array .wildcard]))])

theorem sampleText_parse_print :
    parse sampleText = .ok sampleType ∧ parse sampleType.print = .ok sampleType := by
  have hparse : parse sampleText = .ok sampleType := by decide +kernel
  exact ⟨hparse, print_parse_inverse.1 _ _ hparse⟩

end TypeExpr

end Companion
