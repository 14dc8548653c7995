import Companion.Proofs.TypeText
import Mathlib.Data.List.TakeWhile

/-!
# What texts denote

A text denotes a type exactly when it is written as one, white space at its ends aside. White space
between words never changes the type, since it can be put back where it is needed. A text that
denotes no type either does not begin as one, or goes on after the longest type at its start.
-/

namespace Companion

namespace Text

/-- The text without its white space. -/
def withoutBlanks (s : Text) : Text :=
  s.filter fun c => !isBlank c

@[simp] lemma withoutBlanks_nil : withoutBlanks [] = [] :=
  rfl

lemma withoutBlanks_cons {c : Char} (hc : isBlank c = false) (s : Text) :
    withoutBlanks (c :: s) = c :: withoutBlanks s := by
  rw [withoutBlanks, List.filter_cons, hc]
  rfl

lemma withoutBlanks_append (s t : Text) :
    withoutBlanks (s ++ t) = withoutBlanks s ++ withoutBlanks t :=
  List.filter_append s t

lemma withoutBlanks_reverse (s : Text) : withoutBlanks s.reverse = (withoutBlanks s).reverse :=
  List.filter_reverse

lemma withoutBlanks_eq_self {s : Text} (h : ∀ c ∈ s, isBlank c = false) : withoutBlanks s = s := by
  refine List.filter_eq_self.mpr ?_
  intro c hc
  rw [h c hc]
  rfl

lemma withoutBlanks_eq_nil {s : Text} (h : ∀ c ∈ s, isBlank c = true) : withoutBlanks s = [] := by
  refine List.filter_eq_nil_iff.mpr ?_
  intro c hc
  rw [h c hc]
  decide

lemma withoutBlanks_dropWhile (s : Text) : withoutBlanks (s.dropWhile isBlank) = withoutBlanks s := by
  have hblank : withoutBlanks (s.takeWhile isBlank) = [] :=
    withoutBlanks_eq_nil fun c hc => List.mem_takeWhile_imp hc
  have hsplit := withoutBlanks_append (s.takeWhile isBlank) (s.dropWhile isBlank)
  rwa [List.takeWhile_append_dropWhile, hblank, List.nil_append, eq_comm] at hsplit

lemma withoutBlanks_trim (s : Text) : withoutBlanks s.trim = withoutBlanks s := by
  rw [trim, withoutBlanks_reverse, withoutBlanks_dropWhile, withoutBlanks_reverse,
    withoutBlanks_dropWhile, List.reverse_reverse]

end Text

namespace TypeExpr

open Text

/-- The text after `skip` more characters, with a space on both sides of each word that opens a
bound. -/
def respaceAfter : Nat → Text → Text
  | _, [] => []
  | skip + 1, _ :: s => respaceAfter skip s
  | 0, c :: s =>
    if "?extends".toList.isPrefixOf (c :: s) then "? extends " ++ respaceAfter 7 s
    else if "?super".toList.isPrefixOf (c :: s) then "? super " ++ respaceAfter 5 s
    else c :: respaceAfter 0 s

/-- The text with a space on both sides of each word that opens a bound. -/
def respace (s : Text) : Text :=
  respaceAfter 0 s

/-- Whether no word that opens a bound stands at the start of a text. -/
def OpensNoBound (s : Text) : Prop :=
  ∀ c ∈ s.head?, c ≠ 'e' ∧ c ≠ 's'

lemma respace_question {s : Text} (h : OpensNoBound s) : respace ('?' :: s) = '?' :: respace s := by
  cases s with
  | nil => rfl
  | cons c s =>
    obtain ⟨he, hs⟩ := h c rfl
    have hupper : "?extends".toList.isPrefixOf ('?' :: c :: s) = false := by
      simp [List.isPrefixOf, Ne.symm he]
    have hlower : "?super".toList.isPrefixOf ('?' :: c :: s) = false := by
      simp [List.isPrefixOf, Ne.symm hs]
    rw [respace, respaceAfter, hupper, hlower]
    rfl

lemma respace_cons {c : Char} (hc : c ≠ '?') (s : Text) : respace (c :: s) = c :: respace s := by
  have hupper : "?extends".toList.isPrefixOf (c :: s) = false := by
    simp [List.isPrefixOf, Ne.symm hc]
  have hlower : "?super".toList.isPrefixOf (c :: s) = false := by
    simp [List.isPrefixOf, Ne.symm hc]
  rw [respace, respaceAfter, hupper, hlower]
  rfl

lemma respace_upper (s : Text) : respace ("?extends" ++ s) = "? extends " ++ respace s :=
  rfl

lemma respace_lower (s : Text) : respace ("?super" ++ s) = "? super " ++ respace s :=
  rfl

lemma respace_append {name : Text} (h : '?' ∉ name) (s : Text) :
    respace (name ++ s) = name ++ respace s := by
  induction name with
  | nil => rfl
  | cons c cs ih =>
    rw [List.mem_cons, not_or] at h
    rw [List.cons_append, respace_cons (Ne.symm h.1), ih h.2]
    rfl

lemma isBlank_of_isSpace {c : Char} (h : isSpace c = true) : isBlank c = true := by
  cases hc : isBlank c with
  | true => rfl
  | false =>
    rw [isSpace_of_isBlank hc] at h
    cases h

lemma IsSpacing.withoutBlanks {w : Text} (h : IsSpacing w) : withoutBlanks w = [] :=
  withoutBlanks_eq_nil fun c hc => isBlank_of_isSpace (h c hc)

lemma IsName.withoutBlanks {name : Text} (h : IsName name) : withoutBlanks name = name :=
  withoutBlanks_eq_self fun _ hc => isBlank_of_mem_name h hc

lemma IsName.question_notMem {name : Text} (h : IsName name) : '?' ∉ name := by
  intro hmem
  rcases h.eq_dot_or_isPart hmem with hdot | hpart
  · cases hdot
  · exact absurd hpart (by decide)

lemma respace_name {name : Text} (h : IsName name) (r : Text) :
    respace (withoutBlanks name ++ r) = name ++ respace r := by
  rw [h.withoutBlanks, respace_append h.question_notMem]

lemma arrayOf_array (t : TypeExpr) (n : Nat) : arrayOf (.array t) n = arrayOf t (n + 1) := by
  induction n with
  | zero => rfl
  | succ n ih => rw [arrayOf, ih]; rfl

namespace IsBrackets

lemma withoutBlanks_pair {w : Text} (hw : IsSpacing w) (s : Text) :
    withoutBlanks (w ++ '[' :: ']' :: s) = '[' :: ']' :: withoutBlanks s := by
  rw [withoutBlanks_append, hw.withoutBlanks, withoutBlanks_cons (by decide),
    withoutBlanks_cons (by decide)]
  rfl

lemma print_append {n : Nat} {b : Text} (h : IsBrackets n b) (base : TypeExpr) :
    base.print ++ withoutBlanks b = (arrayOf base n).print := by
  induction h generalizing base with
  | none => exact List.append_nil base.print
  | pair hw hs ih =>
    rw [withoutBlanks_pair hw, ← arrayOf_array, ← ih, print_array, List.append_assoc]
    rfl

lemma question_notMem {n : Nat} {b : Text} (h : IsBrackets n b) : '?' ∉ withoutBlanks b := by
  induction h with
  | none => exact List.not_mem_nil
  | pair hw hs ih =>
    rw [withoutBlanks_pair hw, List.mem_cons, List.mem_cons]
    rintro (hc | hc | hc)
    · cases hc
    · cases hc
    · exact ih hc

lemma opensNoBound {n : Nat} {b r : Text} (h : IsBrackets n b) (hr : OpensNoBound r) :
    OpensNoBound (withoutBlanks b ++ r) := by
  cases h with
  | none => exact hr
  | pair hw hs =>
    intro c hc
    rw [withoutBlanks_pair hw] at hc
    obtain rfl : '[' = c := Option.some.inj hc
    decide

end IsBrackets

lemma withoutBlanks_close {w : Text} (hw : IsSpacing w) : withoutBlanks (w ++ ['>']) = ['>'] := by
  rw [withoutBlanks_append, hw.withoutBlanks]
  rfl

lemma withoutBlanks_comma {w w' : Text} (hw : IsSpacing w) (hw' : IsSpacing w') (s : Text) :
    withoutBlanks (w ++ ',' :: (w' ++ s)) = ',' :: withoutBlanks s := by
  rw [withoutBlanks_append, hw.withoutBlanks, withoutBlanks_cons (by decide),
    withoutBlanks_append, hw'.withoutBlanks]
  rfl

lemma withoutBlanks_open {w w' : Text} (hw : IsSpacing w) (hw' : IsSpacing w') (s : Text) :
    withoutBlanks (w ++ '<' :: (w' ++ s)) = '<' :: withoutBlanks s := by
  rw [withoutBlanks_append, hw.withoutBlanks, withoutBlanks_cons (by decide),
    withoutBlanks_append, hw'.withoutBlanks]
  rfl

lemma withoutBlanks_bound {w w' word : Text} (hw : IsGap w) (hw' : IsGap w')
    (hword : withoutBlanks word = word) (s : Text) :
    withoutBlanks ('?' :: (w ++ (word ++ (w' ++ s)))) = '?' :: (word ++ withoutBlanks s) := by
  rw [withoutBlanks_cons (by decide), withoutBlanks_append, hw.2.withoutBlanks,
    withoutBlanks_append, hword, withoutBlanks_append, hw'.2.withoutBlanks]
  rfl

lemma IsMore.opensNoBound {ts : List TypeExpr} {s : Text} (h : IsMore ts s) (r : Text) :
    OpensNoBound (withoutBlanks s ++ r) := by
  intro c hc
  cases h with
  | close hw =>
    rw [withoutBlanks_close hw] at hc
    obtain rfl : '>' = c := Option.some.inj hc
    decide
  | comma hw hw' hs hs' =>
    rw [withoutBlanks_comma hw hw'] at hc
    obtain rfl : ',' = c := Option.some.inj hc
    decide

mutual

/-- What is written as a type is, without its white space, the type's own text but for the space
around the words that open bounds. -/
theorem respace_of_isWritten {t : TypeExpr} {s : Text} (h : IsWritten t s) {r : Text}
    (hr : OpensNoBound r) : respace (withoutBlanks s ++ r) = t.print ++ respace r := by
  cases h with
  | upperBounded hw hw' hs =>
    have hbound := respace_of_isWritten hs hr
    rw [withoutBlanks_bound hw hw' (by decide)]
    rw [print_upperBounded, List.append_assoc, ← hbound]
    exact respace_upper _
  | lowerBounded hw hw' hs =>
    have hbound := respace_of_isWritten hs hr
    rw [withoutBlanks_bound hw hw' (by decide)]
    rw [print_lowerBounded, List.append_assoc, ← hbound]
    exact respace_lower _
  | arrayOf hs hb =>
    have hbase := respace_of_isBase hs (hb.opensNoBound hr)
    rw [withoutBlanks_append, List.append_assoc, hbase, respace_append hb.question_notMem,
      ← List.append_assoc, hb.print_append]
  termination_by 2 * s.length + 1
  decreasing_by all_goals (simp only [List.length_cons, List.length_append]; omega)

theorem respace_of_isBase {t : TypeExpr} {s : Text} (h : IsBase t s) {r : Text}
    (hr : OpensNoBound r) : respace (withoutBlanks s ++ r) = t.print ++ respace r := by
  cases h with
  | wildcard => exact respace_question hr
  | primitive p => exact respace_name (all_isValid_keyword p) r
  | plain hname hword =>
    rw [respace_name hname, print_declared, printArgs_nil, List.append_nil]
  | generic hname hw hw' harg hargs =>
    have hread := respace_of_isWritten harg (hargs.opensNoBound r)
    have hmore := respace_of_isMore hargs r
    rw [withoutBlanks_append, withoutBlanks_open hw hw', withoutBlanks_append, List.append_assoc,
      respace_name hname, List.cons_append, respace_cons (by decide), List.append_assoc, hread,
      hmore, print_declared, printArgs_cons]
    simp
  termination_by 2 * s.length
  decreasing_by all_goals (simp only [List.length_cons, List.length_append]; omega)

theorem respace_of_isMore {ts : List TypeExpr} {s : Text} (h : IsMore ts s) (r : Text) :
    respace (withoutBlanks s ++ r) = printMore ts ++ respace r := by
  cases h with
  | close hw =>
    rw [withoutBlanks_close hw]
    exact respace_cons (by decide) r
  | comma hw hw' harg hargs =>
    have hread := respace_of_isWritten harg (hargs.opensNoBound r)
    have hmore := respace_of_isMore hargs r
    rw [withoutBlanks_comma hw hw', withoutBlanks_append, List.cons_append,
      respace_cons (by decide), List.append_assoc, hread, hmore, printMore_cons]
    simp
  termination_by 2 * s.length
  decreasing_by all_goals (simp only [List.length_cons, List.length_append]; omega)

end

/-- A text denotes a type exactly when it is written as one. -/
lemma parse_eq_ok_iff {text : Text} {t : TypeExpr} :
    parse text = .ok t ↔ IsWritten t text.trim := by
  constructor
  · intro h
    rw [parse] at h
    split at h
    · cases h
    next u hread =>
      cases h
      obtain ⟨p, hp, hsplit⟩ := exists_isWritten_of_readType _ hread
      rw [List.append_nil] at hsplit
      rwa [hsplit]
    · cases h
  · intro h
    have hread := readType_of_isWritten (text.trim.length + 1) h (Nat.lt_succ_self _) ends_nil
    rw [List.append_nil] at hread
    rw [parse, read, hread]

/-- The text of what a text denotes, from the text alone. -/
lemma respace_withoutBlanks {text : Text} {t : TypeExpr} (h : parse text = .ok t) :
    respace (withoutBlanks text) = t.print := by
  have hspaced := respace_of_isWritten (parse_eq_ok_iff.mp h) (r := []) (fun _ hc => nomatch hc)
  rw [List.append_nil, withoutBlanks_trim] at hspaced
  rw [hspaced]
  exact List.append_nil t.print

/-- White space never changes what a text denotes. -/
lemma eq_of_withoutBlanks_eq {text text' : Text} {t t' : TypeExpr} (h : parse text = .ok t)
    (h' : parse text' = .ok t') (heq : withoutBlanks text = withoutBlanks text') : t = t' := by
  have hprint : t.print = t'.print := by
    rw [← respace_withoutBlanks h, heq, respace_withoutBlanks h']
  have hread := parse_print t (isCanonical_of_parse h)
  rw [hprint, parse_print t' (isCanonical_of_parse h')] at hread
  exact (Except.ok.inj hread).symm

/-- Whether `rest` follows the longest type at the start of a text. -/
def FollowsLongest (s rest : Text) : Prop :=
  ∃ p, s = p ++ rest ∧ (∃ t, IsWritten t p) ∧
    ∀ p' rest' t, IsWritten t p' → s = p' ++ rest' → p'.length ≤ p.length

lemma FollowsLongest.unique {s rest rest' : Text} (h : FollowsLongest s rest)
    (h' : FollowsLongest s rest') : rest = rest' := by
  obtain ⟨p, hs, ⟨t, ht⟩, hlongest⟩ := h
  obtain ⟨p', hs', ⟨t', ht'⟩, hlongest'⟩ := h'
  have hle := hlongest p' rest' t' ht' hs'
  have hle' := hlongest' p rest t ht hs
  rw [hs] at hs'
  exact (List.append_inj hs' (by omega)).2

/-- What is read is the longest type at the start of the text. -/
lemma followsLongest_of_read {s rest : Text} {t : TypeExpr} (h : read s = some (t, rest)) :
    FollowsLongest s rest := by
  obtain ⟨p, hp, hs⟩ := exists_isWritten_of_readType _ h
  refine ⟨p, hs, ⟨t, hp⟩, ?_⟩
  intro p' rest' u hp' hs'
  have hlength : s.length = p'.length + rest'.length := by rw [hs', List.length_append]
  have hlength' : s.length = p.length + rest.length := by rw [hs, List.length_append]
  rw [read, hs'] at h
  have hle := length_le_of_isWritten _ hp' (by rw [List.length_append]; omega) h
  omega

lemma read_eq_none_iff {s : Text} : read s = none ↔ ¬BeginsType s := by
  constructor
  · intro h hbegins
    obtain ⟨t, rest, hread⟩ := exists_readType_of_beginsType hbegins s.length
    rw [read, hread] at h
    cases h
  · intro h
    cases hread : read s with
    | none => rfl
    | some found =>
      obtain ⟨p, hp, hs⟩ := exists_isWritten_of_readType _ hread
      exact absurd (hs ▸ hp.beginsType found.2) h

/-- A text is refused if it does not begin as a type, or goes on after the longest type at its
start. -/
lemma parse_eq_error_iff {text : Text} {e : Error} : parse text = .error e ↔
    ¬BeginsType text.trim ∧ e = .noType text ∨
      BeginsType text.trim ∧ ∃ rest, rest ≠ [] ∧ FollowsLongest text.trim rest ∧
        e = .unexpectedText text rest := by
  cases hread : read text.trim with
  | none =>
    have hnot := read_eq_none_iff.mp hread
    rw [parse, hread]
    simp [hnot, eq_comm]
  | some found =>
    obtain ⟨t, rest⟩ := found
    have hbegins : BeginsType text.trim := by
      by_contra hnot
      rw [read_eq_none_iff.mpr hnot] at hread
      cases hread
    have hlongest := followsLongest_of_read hread
    rw [parse, hread]
    cases rest with
    | nil =>
      -- Nothing is left, so what follows the longest type is nothing.
      constructor
      · intro h
        cases h
      · rintro (⟨hnot, -⟩ | ⟨-, rest', hne, hlongest', -⟩)
        · exact absurd hbegins hnot
        · exact absurd (hlongest'.unique hlongest) hne
    | cons c cs =>
      constructor
      · intro h
        exact .inr ⟨hbegins, c :: cs, List.cons_ne_nil c cs, hlongest, (Except.error.inj h).symm⟩
      · rintro (⟨hnot, -⟩ | ⟨-, rest', -, hlongest', rfl⟩)
        · exact absurd hbegins hnot
        · rw [hlongest'.unique hlongest]

/-- Reading accepts exactly the grammar, whatever white space stands between words. A text that is
refused is none at all, or goes on after the longest type at its start. -/
theorem parse_grammar :
    (∀ text t, parse text = .ok t ↔ IsWritten t text.trim) ∧
    (∀ text text' t t', parse text = .ok t → parse text' = .ok t' →
      withoutBlanks text = withoutBlanks text' → t = t') ∧
    ∀ text e, parse text = .error e ↔
      ¬BeginsType text.trim ∧ e = .noType text ∨
        BeginsType text.trim ∧ ∃ rest, rest ≠ [] ∧ FollowsLongest text.trim rest ∧
          e = .unexpectedText text rest := by
  refine ⟨?_, ?_, ?_⟩
  · intro text t
    exact parse_eq_ok_iff
  · intro text text' t t' h h' heq
    exact eq_of_withoutBlanks_eq h h' heq
  · intro text e
    exact parse_eq_error_iff

/-- `sampleText` with other white space. -/
def spacedText : Text :=
  "
a.Map<b.K,?	extends
int[],? super L < ? [] > []> []"

/-- A type whose arguments do not end. -/
def brokenText : Text :=
  " a.B[] <c "

theorem spacedText_grammar :
    (∃ t, parse spacedText = .ok t ∧ sampleType = t) ∧ IsWritten sampleType spacedText.trim ∧
      ∃ rest, rest ≠ [] ∧ FollowsLongest brokenText.trim rest ∧ rest = " <c" := by
  have hsample : parse sampleText = .ok sampleType := by decide +kernel
  have hspaced : parse spacedText = .ok sampleType := by decide +kernel
  have hbroken : parse brokenText = .error (.unexpectedText brokenText " <c") := by decide +kernel
  have hblanks : withoutBlanks sampleText = withoutBlanks spacedText := by decide +kernel
  refine ⟨⟨_, hspaced, parse_grammar.2.1 _ _ _ _ hsample hspaced hblanks⟩,
    (parse_grammar.1 _ _).mp hspaced, ?_⟩
  rcases (parse_grammar.2.2 _ _).mp hbroken with ⟨-, hnone⟩ | ⟨-, rest, hne, hlongest, hrest⟩
  · cases hnone
  · exact ⟨rest, hne, hlongest, (Error.unexpectedText.inj hrest).2.symm⟩

end TypeExpr

end Companion
