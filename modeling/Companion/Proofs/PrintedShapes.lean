import Companion.Proofs.Agreement
import Companion.Proofs.Shapes

/-!
# Shapes of printed types

The check of shapes takes the words of bounds out with the space around them, first the one and then
the other, and scans what is left. A printed type has no other space, and no word is taken out
together with a space that is not its own. What is left is scanned from one part of the type to the
next, each of which leaves the depth as it was. The scan therefore stops only at a character that
identifiers may have and shapes may not: the first one beyond ASCII.
-/

namespace Companion

namespace Text

/-- Whether a character is beyond ASCII. -/
def isForeign (c : Char) : Bool :=
  128 ≤ c.toNat

/-- A text that does not begin with a space turns into another one when bounds of one word are
replaced, whatever follows it but a space. -/
structure Turns (word before after : Text) : Prop where
  head : before.head? ≠ some ' '
  replace : ∀ s : Text, s.head? ≠ some ' ' →
    replaceAfter ('?' :: ' ' :: word) ['?'] 0 (before ++ s) =
      after ++ replaceAfter ('?' :: ' ' :: word) ['?'] 0 s

lemma replaceAfter_of_notMem {c : Char} {pattern replacement t : Text} (ht : c ∉ t) (s : Text) :
    replaceAfter (c :: pattern) replacement 0 (t ++ s) =
      t ++ replaceAfter (c :: pattern) replacement 0 s := by
  induction t with
  | nil => rfl
  | cons d ds ih =>
    rw [List.mem_cons, not_or] at ht
    rw [List.cons_append, replaceAfter, List.isPrefixOf, beq_false_of_ne ht.1, Bool.false_and,
      if_neg Bool.false_ne_true, ih ht.2, List.cons_append]

namespace Turns

variable {word before before' after after' : Text}

lemma nil : Turns word [] [] where
  head := by simp
  replace s _ := rfl

lemma append (h : Turns word before after) (h' : Turns word before' after') :
    Turns word (before ++ before') (after ++ after') where
  head := by
    cases before with
    | nil => exact h'.head
    | cons c cs => exact h.head
  replace s hs := by
    have hnext : (before' ++ s).head? ≠ some ' ' := by
      cases before' with
      | nil => exact hs
      | cons c cs => exact h'.head
    rw [List.append_assoc, h.replace _ hnext, h'.replace s hs, List.append_assoc]

lemma of_notMem {t : Text} (hhead : t.head? ≠ some ' ') (ht : '?' ∉ t) : Turns word t t where
  head := hhead
  replace s _ := replaceAfter_of_notMem ht s

/-- A wildcard stays where no space follows it. -/
lemma wildcard : Turns word ['?'] ['?'] where
  head := by decide
  replace s hs := by
    have hprefix : ('?' :: ' ' :: word).isPrefixOf ('?' :: s) = false := by
      cases s with
      | nil => rfl
      | cons c cs =>
        have hc : ' ' ≠ c := fun heq => hs (congrArg some heq.symm)
        simp [List.isPrefixOf, hc]
    rw [List.singleton_append, replaceAfter, hprefix, if_neg Bool.false_ne_true,
      List.singleton_append]

/-- A bound of the word turns into a wildcard. -/
lemma bound : Turns word ('?' :: ' ' :: word) ['?'] where
  head := by simp
  replace s _ := by
    have hprefix : ('?' :: ' ' :: word).isPrefixOf ('?' :: (' ' :: word ++ s)) = true := by
      rw [List.isPrefixOf_iff_prefix]
      exact List.prefix_append _ s
    rw [List.cons_append, replaceAfter, if_pos hprefix, List.length_cons, Nat.add_sub_cancel,
      replaceAfter_append]

/-- A bound of another word stays. -/
lemma other {c d : Char} {word word' : Text} (hcd : c ≠ d) (hword : '?' ∉ d :: word') :
    Turns (c :: word) ('?' :: ' ' :: d :: word') ('?' :: ' ' :: d :: word') where
  head := by simp
  replace s _ := by
    have hprefix : ('?' :: ' ' :: c :: word).isPrefixOf
        ('?' :: (' ' :: d :: word' ++ s)) = false := by
      simp [List.isPrefixOf, hcd]
    have hspace : '?' ∉ ' ' :: d :: word' := by simpa using hword
    rw [List.cons_append, replaceAfter, hprefix, if_neg Bool.false_ne_true,
      replaceAfter_of_notMem hspace]
    rfl

lemma replaceAll_eq (h : Turns word before after) :
    before.replaceAll ('?' :: ' ' :: word) ['?'] = after := by
  have hreplace := h.replace [] (by simp)
  rwa [List.append_nil, replaceAfter, List.append_nil] at hreplace

end Turns

end Text

namespace TypeExpr

open Text

/-- No identifier in the type has a character beyond ASCII. -/
def IsAscii (t : TypeExpr) : Prop :=
  ∀ n ∈ t.names, ∀ c ∈ n.text, c.toNat < 128

mutual

/-- The written form with other texts before the bounds. -/
def printWith (upper lower : Text) : TypeExpr → Text
  | .primitive p => p.keyword
  | .declared name args => name.text ++ printArgsWith upper lower args
  | .array component => component.printWith upper lower ++ "[]"
  | .wildcard => "?"
  | .upperBounded bound => upper ++ bound.printWith upper lower
  | .lowerBounded bound => lower ++ bound.printWith upper lower

/-- Type arguments with other texts before the bounds. -/
def printArgsWith (upper lower : Text) : List TypeExpr → Text
  | [] => []
  | arg :: args => '<' :: (arg.printWith upper lower ++ printMoreWith upper lower args)

/-- The arguments after the first with other texts before the bounds. -/
def printMoreWith (upper lower : Text) : List TypeExpr → Text
  | [] => ">"
  | arg :: args => ',' :: (arg.printWith upper lower ++ printMoreWith upper lower args)

end

mutual

theorem printWith_eq_print (t : TypeExpr) : t.printWith "? extends " "? super " = t.print := by
  cases t with
  | primitive p => rw [printWith, print_primitive]
  | declared name args => rw [printWith, print_declared, printArgsWith_eq_printArgs args]
  | array component => rw [printWith, print_array, printWith_eq_print component]
  | wildcard => rw [printWith, print_wildcard]
  | upperBounded bound => rw [printWith, print_upperBounded, printWith_eq_print bound]
  | lowerBounded bound => rw [printWith, print_lowerBounded, printWith_eq_print bound]

theorem printArgsWith_eq_printArgs (ts : List TypeExpr) :
    printArgsWith "? extends " "? super " ts = printArgs ts := by
  cases ts with
  | nil => rw [printArgsWith, printArgs_nil]
  | cons t ts =>
    rw [printArgsWith, printArgs_cons, printWith_eq_print t, printMoreWith_eq_printMore ts,
      List.cons_append]

theorem printMoreWith_eq_printMore (ts : List TypeExpr) :
    printMoreWith "? extends " "? super " ts = printMore ts := by
  cases ts with
  | nil => rw [printMoreWith, printMore_nil]
  | cons t ts =>
    rw [printMoreWith, printMore_cons, printWith_eq_print t, printMoreWith_eq_printMore ts,
      List.cons_append]

end

lemma IsName.turns {word name : Text} (h : IsName name) : Turns word name name := by
  refine .of_notMem (fun hhead => ?_) h.question_notMem
  exact absurd (isBlank_of_mem_name h (List.mem_of_head? hhead)) (by decide)

section

variable {word upper upper' lower lower' : Text}

mutual

/-- What becomes of a type depends on what becomes of the texts before its bounds. -/
theorem turns_printWith (hu : Turns word upper upper') (hl : Turns word lower lower')
    (t : TypeExpr) (h : t.isCanonical = true) :
    Turns word (t.printWith upper lower) (t.printWith upper' lower') := by
  cases t with
  | primitive p =>
    rw [printWith, printWith]
    exact IsName.turns (all_isValid_keyword p)
  | declared name args =>
    obtain ⟨hname, -, hargs⟩ := isCanonical_declared_iff.mp h
    rw [printWith, printWith]
    exact (IsName.turns hname).append (turns_printArgsWith hu hl args hargs)
  | array component =>
    have hcomponent := (isCanonical_array_iff.mp h).2
    rw [printWith, printWith]
    exact (turns_printWith hu hl component hcomponent).append (.of_notMem (by decide) (by decide))
  | wildcard =>
    rw [printWith, printWith]
    exact .wildcard
  | upperBounded bound =>
    rw [isCanonical_upperBounded] at h
    rw [printWith, printWith]
    exact hu.append (turns_printWith hu hl bound h)
  | lowerBounded bound =>
    rw [isCanonical_lowerBounded] at h
    rw [printWith, printWith]
    exact hl.append (turns_printWith hu hl bound h)

theorem turns_printArgsWith (hu : Turns word upper upper') (hl : Turns word lower lower')
    (ts : List TypeExpr) (h : allCanonical ts = true) :
    Turns word (printArgsWith upper lower ts) (printArgsWith upper' lower' ts) := by
  cases ts with
  | nil =>
    rw [printArgsWith, printArgsWith]
    exact .nil
  | cons t ts =>
    rw [allCanonical_cons, Bool.and_eq_true] at h
    have hopen : Turns word ['<'] ['<'] := .of_notMem (by decide) (by decide)
    rw [printArgsWith, printArgsWith]
    exact hopen.append ((turns_printWith hu hl t h.1).append (turns_printMoreWith hu hl ts h.2))

theorem turns_printMoreWith (hu : Turns word upper upper') (hl : Turns word lower lower')
    (ts : List TypeExpr) (h : allCanonical ts = true) :
    Turns word (printMoreWith upper lower ts) (printMoreWith upper' lower' ts) := by
  cases ts with
  | nil =>
    rw [printMoreWith, printMoreWith]
    exact .of_notMem (by decide) (by decide)
  | cons t ts =>
    rw [allCanonical_cons, Bool.and_eq_true] at h
    have hcomma : Turns word [','] [','] := .of_notMem (by decide) (by decide)
    rw [printMoreWith, printMoreWith]
    exact hcomma.append ((turns_printWith hu hl t h.1).append (turns_printMoreWith hu hl ts h.2))

end

end

/-- Taking out both words leaves a type with a wildcard before each bound. -/
lemma replaceAll_print {t : TypeExpr} (h : t.isCanonical = true) :
    (t.print.replaceAll "? extends " "?").replaceAll "? super " "?" = t.printWith "?" "?" := by
  have hupper : Turns "extends " (t.printWith "? extends " "? super ")
      (t.printWith "?" "? super ") :=
    turns_printWith .bound (.other (by decide) (by decide)) t h
  have hlower : Turns "super " (t.printWith "?" "? super ") (t.printWith "?" "?") :=
    turns_printWith .wildcard .bound t h
  have hfirst : t.print.replaceAll "? extends " "?" = t.printWith "?" "? super " := by
    rw [← printWith_eq_print]
    exact hupper.replaceAll_eq
  rw [hfirst]
  exact hlower.replaceAll_eq

end TypeExpr

namespace ShapeTable

open TypeExpr

/-- Whether a character may stand in a shape. -/
def IsShapeChar (c : Char) : Prop :=
  c.isAlphanum ∨ c ∈ ['<', '>', '[', ']', '.', ',', '_', '$', '?']

instance (c : Char) : Decidable (IsShapeChar c) :=
  inferInstanceAs (Decidable (c.isAlphanum ∨ c ∈ ['<', '>', '[', ']', '.', ',', '_', '$', '?']))

lemma isForeign_of_isShapeChar {c : Char} (h : IsShapeChar c) : Text.isForeign c = false := by
  rcases h with halphanum | hsign
  · have hval : c.toNat = c.val.toNat := rfl
    have hranges : ((decide (c.val ≥ 65 ∧ c.val ≤ 90) || c.val ≥ 97 && c.val ≤ 122) ||
        c.val ≥ 48 && c.val ≤ 57) = true := halphanum
    simp only [Bool.or_eq_true, Bool.and_eq_true, decide_eq_true_eq, ge_iff_le,
      UInt32.le_iff_toNat_le, UInt32.reduceToNat] at hranges
    simp only [Text.isForeign, decide_eq_false_iff_not, hval]
    omega
  · have hall : (['<', '>', '[', ']', '.', ',', '_', '$', '?'].all fun d => !Text.isForeign d) =
        true := by decide
    simpa using List.all_eq_true.mp hall c hsign

/-- What is part of an identifier may stand in a shape unless it is beyond ASCII. -/
lemma isShapeChar_iff {c : Char} (h : Identifier.isPart c = true) :
    IsShapeChar c ↔ Text.isForeign c = false := by
  refine ⟨isForeign_of_isShapeChar, fun hc => ?_⟩
  have hall : ∀ k < 128, Identifier.isPart (Char.ofNat k) = true → IsShapeChar (Char.ofNat k) := by
    decide +kernel
  have hpart := hall c.toNat (by simpa [Text.isForeign] using hc)
  rw [Char.ofNat_toNat] at hpart
  exact hpart h

/-- The first character beyond ASCII, as a fault. -/
def foreignFault? (letters : Text) : Option ShapeFault :=
  (letters.find? Text.isForeign).map .unexpected

/-- A part of a shape is scanned up to the first character beyond ASCII among some letters; without
one the scan goes on after it at the same depth. -/
def Scans (s letters : Text) : Prop :=
  ∀ depth previous r, previous ≠ '[' →
    scan depth previous (s ++ r) = (foreignFault? letters).or (scan depth ' ' r)

/-- A part that is scanned in the same way but closes a list of arguments. -/
def Closes (s letters : Text) : Prop :=
  ∀ depth previous r, previous ≠ '[' →
    scan (depth + 1) previous (s ++ r) = (foreignFault? letters).or (scan depth ' ' r)

lemma foreignFault?_append (letters letters' : Text) :
    foreignFault? (letters ++ letters') =
      (foreignFault? letters).or (foreignFault? letters') := by
  rw [foreignFault?, List.find?_append, Option.map_or, foreignFault?, foreignFault?]

/-- Only an open bracket right before the rest counts. -/
lemma scan_congr {previous : Char} (h : previous ≠ '[') (depth : Nat) (s : Text) :
    scan depth previous s = scan depth ' ' s := by
  cases s <;> simp [scan, h]

variable {s s' letters letters' : Text}

/-- A character that is no bracket and no white space is passed if it may stand in a shape. -/
lemma scan_cons {c previous : Char} (hbracket : c ∉ ['<', '>', '[', ']'])
    (hblank : Text.isBlank c = false) (hp : previous ≠ '[') (depth : Nat) (r : Text) :
    scan depth previous (c :: r) =
      if IsShapeChar c then scan depth ' ' r else some (.unexpected c) := by
  simp only [List.mem_cons, List.not_mem_nil, or_false, not_or] at hbracket
  obtain ⟨hless, hgreater, hopen, hclose⟩ := hbracket
  unfold IsShapeChar
  rw [scan, ← scan_congr hopen]
  by_cases hc : c.isAlphanum = true ∨ c ∈ ['<', '>', '[', ']', '.', ',', '_', '$', '?']
  · simp only [hless, hgreater, hclose, hblank, hc, hp, false_and, not_true, if_false, if_true,
      Bool.false_eq_true]
  · simp only [hgreater, hclose, hblank, hc, false_and, not_false_eq_true, if_false, if_true,
      Bool.false_eq_true]

namespace Scans

lemma nil : Scans [] [] :=
  fun depth _ r h => scan_congr h depth r

lemma append (h : Scans s letters) (h' : Scans s' letters') :
    Scans (s ++ s') (letters ++ letters') := by
  intro depth previous r hp
  rw [List.append_assoc, h depth previous _ hp, h' depth ' ' r (by decide), foreignFault?_append,
    Option.or_assoc]

/-- A sign that is neither a bracket nor white space is passed. -/
lemma sign {c : Char} (hc : c ∈ ['.', ',', '?']) : Scans [c] [] := by
  intro depth previous r hp
  have hplain : c ∉ ['<', '>', '[', ']'] ∧ Text.isBlank c = false ∧ IsShapeChar c := by
    simp only [List.mem_cons, List.not_mem_nil, or_false] at hc
    rcases hc with rfl | rfl | rfl <;> decide
  rw [List.singleton_append, scan_cons hplain.1 hplain.2.1 hp, if_pos hplain.2.2]
  rfl

/-- A character of an identifier is passed unless it is beyond ASCII. -/
lemma part {c : Char} (hc : Identifier.isPart c = true) : Scans [c] [c] := by
  intro depth previous r hp
  have hbracket : c ∉ ['<', '>', '[', ']'] := by
    have hall : (['<', '>', '[', ']'].all fun d => !Identifier.isPart d) = true := by decide
    intro hmem
    have hpart : Identifier.isPart c = false := by simpa using List.all_eq_true.mp hall c hmem
    exact Identifier.ne_of_isPart hc hpart rfl
  rw [List.singleton_append, scan_cons hbracket (Text.isBlank_of_isPart hc) hp, foreignFault?]
  cases hforeign : Text.isForeign c with
  | false =>
    rw [if_pos ((isShapeChar_iff hc).mpr hforeign), List.find?_cons_of_neg (by simp [hforeign])]
    rfl
  | true =>
    have hshape : ¬IsShapeChar c := by
      rw [isShapeChar_iff hc, hforeign]
      exact Bool.noConfusion
    rw [if_neg hshape, List.find?_cons_of_pos hforeign]
    rfl

/-- A name is passed up to its first character beyond ASCII. -/
lemma name {name : Text} (h : IsName name) : Scans name name := by
  have hparts : ∀ c ∈ name, c = '.' ∨ Identifier.isPart c = true := fun _ => h.eq_dot_or_isPart
  clear h
  induction name with
  | nil => exact nil
  | cons c cs ih =>
    obtain ⟨hc, hcs⟩ := List.forall_mem_cons.mp hparts
    have hfirst : Scans [c] [c] := by
      rcases hc with rfl | hc
      · exact sign (by decide)
      · exact part hc
    exact hfirst.append (ih hcs)

lemma keyword (p : Primitive) : Scans p.keyword [] := by
  have hascii : foreignFault? p.keyword = none := by cases p <;> decide
  intro depth previous r hp
  rw [name (all_isValid_keyword p) depth previous r hp, hascii]
  rfl

lemma brackets : Scans "[]" [] := by
  intro depth previous r hp
  have hopen : scan depth previous ('[' :: ']' :: r) = scan depth ']' r := by
    have hblank : Text.isBlank '[' = false ∧ Text.isBlank ']' = false := by decide
    simp [scan, hp, hblank]
  exact hopen.trans (scan_congr (by decide) depth r)

/-- Arguments in their brackets, the first of them and what closes the list. -/
lemma arguments (h : Scans s letters) (h' : Closes s' letters') :
    Scans ('<' :: (s ++ s')) (letters ++ letters') := by
  intro depth previous r hp
  have hopen : scan depth previous ('<' :: (s ++ (s' ++ r))) =
      scan (depth + 1) '<' (s ++ (s' ++ r)) := by
    have hblank : Text.isBlank '<' = false := by decide
    simp [scan, hp, hblank]
  rw [List.cons_append, List.append_assoc, hopen, h (depth + 1) '<' _ (by decide),
    h' depth ' ' r (by decide), foreignFault?_append, Option.or_assoc]

end Scans

namespace Closes

lemma bracket : Closes ">" [] := by
  intro depth previous r hp
  have hclose : scan (depth + 1) previous ('>' :: r) = scan depth '>' r := by
    have hblank : Text.isBlank '>' = false := by decide
    simp [scan, hp, hblank]
  exact hclose.trans (scan_congr (by decide) depth r)

/-- One more argument before what closes the list. -/
lemma cons (h : Scans s letters) (h' : Closes s' letters') :
    Closes (',' :: (s ++ s')) (letters ++ letters') := by
  intro depth previous r hp
  have hcomma := (Scans.sign (c := ',') (by decide)).append h (depth + 1) previous (s' ++ r) hp
  rw [List.nil_append] at hcomma
  have happend : ',' :: (s ++ s') ++ r = [','] ++ s ++ (s' ++ r) := by simp
  rw [happend, hcomma, h' depth ' ' r (by decide), foreignFault?_append, Option.or_assoc]

end Closes

mutual

/-- A printed type without the words of its bounds is scanned like the names in it. -/
theorem scans_printWith (t : TypeExpr) (h : t.isCanonical = true) :
    Scans (t.printWith "?" "?") (t.names.flatMap QName.text) := by
  have hquestion : Scans "?" [] := .sign (by decide)
  cases t with
  | primitive p =>
    rw [printWith, names]
    exact .keyword p
  | declared name args =>
    obtain ⟨hname, -, hargs⟩ := isCanonical_declared_iff.mp h
    rw [printWith, names, List.flatMap_cons]
    exact (Scans.name hname).append (scans_printArgsWith args hargs)
  | array component =>
    have hcomponent := (isCanonical_array_iff.mp h).2
    have happend := (scans_printWith component hcomponent).append .brackets
    rwa [printWith, names, ← List.append_nil (component.names.flatMap QName.text)]
  | wildcard =>
    rw [printWith, names]
    exact hquestion
  | upperBounded bound =>
    rw [isCanonical_upperBounded] at h
    rw [printWith, names]
    exact hquestion.append (scans_printWith bound h)
  | lowerBounded bound =>
    rw [isCanonical_lowerBounded] at h
    rw [printWith, names]
    exact hquestion.append (scans_printWith bound h)

theorem scans_printArgsWith (ts : List TypeExpr) (h : allCanonical ts = true) :
    Scans (printArgsWith "?" "?" ts) ((argNames ts).flatMap QName.text) := by
  cases ts with
  | nil =>
    rw [printArgsWith, argNames]
    exact .nil
  | cons t ts =>
    rw [allCanonical_cons, Bool.and_eq_true] at h
    rw [printArgsWith, argNames, List.flatMap_append]
    exact .arguments (scans_printWith t h.1) (closes_printMoreWith ts h.2)

theorem closes_printMoreWith (ts : List TypeExpr) (h : allCanonical ts = true) :
    Closes (printMoreWith "?" "?" ts) ((argNames ts).flatMap QName.text) := by
  cases ts with
  | nil =>
    rw [printMoreWith, argNames]
    exact .bracket
  | cons t ts =>
    rw [allCanonical_cons, Bool.and_eq_true] at h
    rw [printMoreWith, argNames, List.flatMap_append]
    exact .cons (scans_printWith t h.1) (closes_printMoreWith ts h.2)

end

/-- The fault of a printed type is its first character beyond ASCII. -/
lemma shapeFault?_print {t : TypeExpr} (h : t.isCanonical = true) :
    shapeFault? t.print = foreignFault? (t.names.flatMap QName.text) := by
  have hscan := scans_printWith t h 0 ' ' [] (by decide)
  rw [List.append_nil] at hscan
  rw [shapeFault?, if_neg (isWritten_print t h).ne_nil, replaceAll_print h, hscan]
  exact Option.or_none

/-- What is wrong with an attribute is not the shape that it gives. -/
lemma badAttribute?_ne_malformedShape (v : VariantDecl) (shape : Text) (fault : ShapeFault) :
    v.badAttribute? ≠ some (.malformedShape shape fault) := by
  intro hbad
  obtain ⟨item, -, hitem⟩ := List.exists_of_findSome?_eq_some hbad
  cases item with
  | malformed reason => cases hitem
  | value key literal =>
    rw [VariantDecl.attributeFault?] at hitem
    split at hitem
    · cases literal <;> cases hitem
    · cases hitem

/-- A fault of a list of variants is that of one of them. -/
lemma exists_explains {vs : List VariantDecl} {rejected : List Nat} {faults : List TableFault}
    (h : List.Forall₂ (Explains vs) rejected faults) {fault : TableFault} (hmem : fault ∈ faults) :
    ∃ i ∈ rejected, Explains vs i fault := by
  induction h with
  | nil => cases hmem
  | cons hhead _ ih =>
    rcases List.mem_cons.mp hmem with rfl | hmem
    · exact ⟨_, List.mem_cons_self, hhead⟩
    · obtain ⟨i, hi, hexplains⟩ := ih hmem
      exact ⟨i, List.mem_cons_of_mem _ hi, hexplains⟩

/-- A shape is only reported as malformed if it is. -/
lemma shapeFault?_of_mem_faults {vs : List VariantDecl} {faults : List TableFault} {shape : Text}
    {fault : ShapeFault} (h : derive (.enum vs) = .error faults)
    (hmem : .malformedShape shape fault ∈ faults) : shapeFault? shape = some fault := by
  rw [derive] at h
  split at h
  · cases h
  obtain rfl := Except.error.inj h
  obtain ⟨rejected, -, -, hexplains⟩ := (foldl_tracks vs).faults
  obtain ⟨i, -, hexplained⟩ := exists_explains hexplains hmem
  cases hexplained with
  | badAttribute hv hu hb => exact absurd hb (badAttribute?_ne_malformedShape _ shape fault)
  | malformed hv hu hb hs hf => exact hf

/-- Variants without faults of their own have a table if their shapes are distinct. -/
lemma exists_derive_eq_ok {vs : List VariantDecl}
    (plain : ∀ v ∈ vs, v.isUnit = true ∧ v.badAttribute? = none)
    (distinct : (vs.filterMap VariantDecl.shape?).Nodup)
    (shapes : ∀ shape ∈ vs.filterMap VariantDecl.shape?, shapeFault? shape = none) :
    ∃ table, derive (.enum vs) = .ok table := by
  have hpairwise := List.pairwise_iff_getElem.mp (List.pairwise_filterMap.mp distinct)
  have accepted : ∀ i, ¬IsRejected vs i := by
    intro i hi
    have hlt := lt_length_of_isRejected hi
    have hmem := List.getElem_mem hlt
    obtain ⟨hunit, hbad⟩ := plain _ hmem
    refine not_isRejected (List.getElem?_eq_getElem hlt) hunit hbad
      (fun shape hshape => ⟨?_, fun j hj _ hjs => ?_⟩) hi
    · exact shapes shape (List.mem_filterMap.mpr ⟨_, hmem, hshape⟩)
    · have hjlt : j < vs.length := by omega
      rw [List.getElem?_eq_getElem hjlt, Option.bind_some] at hjs
      exact hpairwise j i hjlt hlt hj shape hjs shape hshape rfl
  obtain ⟨rejected, -, hmem, hexplains⟩ := (foldl_tracks vs).faults
  obtain rfl : rejected = [] :=
    List.eq_nil_iff_forall_not_mem.mpr fun i hi => accepted i ((hmem i).mp hi).2
  refine ⟨(vs.foldl Draft.addVariant {}).table, ?_⟩
  rw [derive, if_pos (List.forall₂_nil_left_iff.mp hexplains)]

lemma foreignFault?_names_eq_none_iff (t : TypeExpr) :
    foreignFault? (t.names.flatMap QName.text) = none ↔ t.IsAscii := by
  rw [foreignFault?, Option.map_eq_none_iff, List.find?_eq_none, IsAscii]
  simp only [List.mem_flatMap, Text.isForeign, decide_eq_true_eq, not_le]
  constructor
  · exact fun h n hn c hc => h c ⟨n, hn, hc⟩
  · rintro h c ⟨n, hn, hc⟩
    exact h n hn c hc

/-- The shape of a type that a text denotes has no fault unless an identifier in it is beyond ASCII,
and then its fault is the first such character. No enumeration is refused for the shape of a type
whose identifiers are ASCII. -/
theorem shapeFault?_print_eq :
    (∀ text t, parse text = .ok t →
      shapeFault? t.print =
          ((t.names.flatMap QName.text).find? fun c => 128 ≤ c.toNat).map .unexpected ∧
        (shapeFault? t.print = none ↔ t.IsAscii)) ∧
    (∀ vs : List VariantDecl, (∀ v ∈ vs, v.isUnit = true ∧ v.badAttribute? = none) →
      (vs.filterMap VariantDecl.shape?).Nodup →
      (∀ shape ∈ vs.filterMap VariantDecl.shape?, ∃ text t, parse text = .ok t ∧ t.IsAscii ∧
        t.print = shape) →
      ∃ table, derive (.enum vs) = .ok table) ∧
    ∀ vs faults, derive (.enum vs) = .error faults → ∀ text t, parse text = .ok t → t.IsAscii →
      ∀ fault, .malformedShape t.print fault ∉ faults := by
  have hfault : ∀ text t, parse text = .ok t →
      shapeFault? t.print = foreignFault? (t.names.flatMap QName.text) :=
    fun _ _ h => shapeFault?_print (isCanonical_of_parse h)
  have hascii : ∀ text t, parse text = .ok t → (shapeFault? t.print = none ↔ t.IsAscii) := by
    intro text t h
    rw [hfault text t h, foreignFault?_names_eq_none_iff]
  refine ⟨fun text t h => ⟨hfault text t h, hascii text t h⟩, fun vs plain distinct printed => ?_,
    fun vs faults hderive text t h ht fault hmem => ?_⟩
  · refine exists_derive_eq_ok plain distinct fun shape hshape => ?_
    obtain ⟨text, t, h, ht, rfl⟩ := printed shape hshape
    exact (hascii text t h).mpr ht
  · have hnone := (hascii text t h).mpr ht
    rw [shapeFault?_of_mem_faults hderive hmem] at hnone
    cases hnone

/-- A type with both bounds, one within the other, and with arrays and arguments in its
arguments. -/
def nestedText : Text :=
  "a.Map<? extends ? super b.C$D[][],a.List<?>[]>"

def nestedType : TypeExpr :=
  .declared "a.Map" [.upperBounded (.lowerBounded (.array (.array (.declared "b.C$D" [])))),
    .array (.declared "a.List" [.wildcard])]

/-- A type with a name that is not ASCII. -/
def foreignText : Text :=
  "a.Caf\u00e9<?>"

/-- A variant for the nested type, and one for an array. -/
def nestedVariants : List VariantDecl :=
  [⟨"Nested", [shapeAttribute nestedText], true⟩, ⟨"Ints", [shapeAttribute "int[]"], true⟩]

theorem nestedText_accepted :
    nestedType.print = nestedText ∧ shapeFault? nestedText = none ∧
      (∃ table, derive (.enum nestedVariants) = .ok table) ∧
      ∃ t, parse foreignText = .ok t ∧ shapeFault? t.print = some (.unexpected '\u00e9') := by
  have hnested : parse nestedText = .ok nestedType := by decide +kernel
  have hints : parse "int[]" = .ok (.array (.primitive .int)) := by decide +kernel
  have hforeign : parse foreignText = .ok (.declared "a.Caf\u00e9" [.wildcard]) := by
    decide +kernel
  have hprint : nestedType.print = nestedText := by decide +kernel
  have hascii : nestedType.IsAscii ∧ (TypeExpr.array (.primitive .int)).IsAscii := by
    rw [← foreignFault?_names_eq_none_iff, ← foreignFault?_names_eq_none_iff]
    decide +kernel
  obtain ⟨accepts, derives, -⟩ := shapeFault?_print_eq
  refine ⟨hprint, ?_, ?_, _, hforeign, ?_⟩
  · exact hprint ▸ (accepts _ _ hnested).2.mpr hascii.1
  · refine derives nestedVariants (by decide +kernel) (by decide +kernel) fun shape hshape => ?_
    have hshapes : nestedVariants.filterMap VariantDecl.shape? = [nestedText, "int[]"] := by
      decide +kernel
    rw [hshapes, List.mem_pair] at hshape
    rcases hshape with rfl | rfl
    · exact ⟨nestedText, nestedType, hnested, hascii.1, hprint⟩
    · exact ⟨_, _, hints, hascii.2, by decide +kernel⟩
  · rw [(accepts _ _ hforeign).1]
    decide +kernel

end ShapeTable

end Companion
