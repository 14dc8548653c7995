import Companion.Proofs.DottedName
import Companion.Proofs.TypeTree

/-!
# Reading types

What each step of reading takes, and what a type that is read can be. Whatever can be read is
canonical: a type takes all the bracket pairs after it, so that none is left for a wildcard with a
bound.
-/

namespace Companion

namespace TypeExpr

open Identifier

/-- After all bracket pairs there are no more. -/
lemma readDimensions_rest (s : Text) :
    readDimensions (readDimensions s).2 = (0, (readDimensions s).2) := by
  fun_induction readDimensions s with
  | case1 => rfl
  | case2 cs n rest heq ih => rwa [heq] at ih
  | case3 c cs hne hspace rest heq ih =>
    rw [readDimensions, if_pos hspace, heq]
    · rfl
    · exact hne
  | case4 c cs hne hspace found ih => exact ih
  | case5 c cs hne hspace =>
    rw [readDimensions, if_neg hspace]
    exact hne

lemma skipSpace_cons {c : Char} (h : isSpace c = false) (s : Text) :
    skipSpace (c :: s) = c :: s := by
  rw [skipSpace, List.dropWhile_cons, if_neg (by simp [h])]

lemma all_isValid_keyword (p : Primitive) : (p.keyword.split '.').all isValid = true := by
  cases p <;> decide

lemma ofName_keyword (p : Primitive) : ofName p.keyword = .primitive p := by
  rw [ofName, Primitive.ofKeyword?_keyword]

lemma ne_question_of_readName {s name r : Text} (h : readName s = some (name, r)) (s' : Text) :
    s ≠ '?' :: s' := by
  rintro rfl
  rw [readName, if_neg (by decide)] at h
  cases h

lemma readType_of_noArgs {s name r : Text} (h : readName s = some (name, r))
    (hr : (skipSpace r).head? ≠ some '<') (fuel : Nat) :
    readType (fuel + 1) s = some (withDimensions (ofName name) r) := by
  rw [readType, h]
  · dsimp only
    split
    next r' hr' => exact absurd (by rw [hr', List.head?_cons]) hr
    next => rfl
  · exact ne_question_of_readName h

lemma readType_of_args {s name r r' after : Text} {arg : TypeExpr} {args : List TypeExpr}
    {rest : Text} {fuel : Nat} (h : readName s = some (name, r)) (hr : skipSpace r = '<' :: r')
    (harg : readType fuel (skipSpace r') = some (arg, after))
    (hargs : readMore fuel after = some (args, rest)) :
    readType (fuel + 1) s = some (withDimensions (.declared ⟨name⟩ (arg :: args)) rest) := by
  rw [readType, h]
  · simp only [hr, harg, hargs]
  · exact ne_question_of_readName h

lemma exists_isStart_of_all_isValid {name : Text} (h : (name.split '.').all isValid = true) :
    ∃ c cs, name = c :: cs ∧ isStart c = true ∧ isNameTail cs = true := by
  cases name with
  | nil => rw [split_nil_all_isValid] at h; cases h
  | cons c cs =>
    rw [split_cons_all_isValid, Bool.and_eq_true] at h
    exact ⟨c, cs, rfl, h⟩

lemma readType_of_noBound {s : Text} (h : readBoundWord s = none) (fuel : Nat) :
    readType (fuel + 1) ('?' :: s) = some (withDimensions .wildcard s) := by
  rw [readType, h]

lemma readType_of_bound {s r rest : Text} {bounded : TypeExpr → TypeExpr} {bound : TypeExpr}
    {fuel : Nat} (h : readBoundWord s = some (bounded, r))
    (hbound : readType fuel r = some (bound, rest)) :
    readType (fuel + 1) ('?' :: s) = some (withDimensions (bounded bound) rest) := by
  rw [readType, h]
  simp only [hbound]

lemma isCanonical_arrayOf {t : TypeExpr} (h : t.isCanonical = true) {n : Nat}
    (hn : t.isBounded = true → n = 0) : (arrayOf t n).isCanonical = true := by
  induction n with
  | zero => exact h
  | succ n ih =>
    have hplain : t.isBounded = false := by simpa using hn
    refine isCanonical_array_iff.mpr ⟨?_, ih (by simp [hplain])⟩
    cases n with
    | zero => exact hplain
    | succ n => rfl

lemma isCanonical_withDimensions {base t : TypeExpr} {s rest : Text}
    (h : withDimensions base s = (t, rest)) (hbase : base.isCanonical = true)
    (hs : base.isBounded = true → readDimensions s = (0, s)) :
    t.isCanonical = true ∧ readDimensions rest = (0, rest) := by
  obtain ⟨rfl, rfl⟩ := Prod.mk.inj h
  exact ⟨isCanonical_arrayOf hbase fun hb => congrArg Prod.fst (hs hb), readDimensions_rest s⟩

lemma isCanonical_ofName {name : Text} (h : (name.split '.').all isValid = true) :
    (ofName name).isCanonical = true ∧ (ofName name).isBounded = false := by
  rw [ofName]
  split
  · exact ⟨isCanonical_primitive _, rfl⟩
  next hkeyword =>
    exact ⟨isCanonical_declared_iff.mpr ⟨h, fun _ => hkeyword, allCanonical_nil⟩, rfl⟩

lemma eq_bound_of_readBoundWord {s r : Text} {bounded : TypeExpr → TypeExpr}
    (h : readBoundWord s = some (bounded, r)) :
    bounded = upperBounded ∨ bounded = lowerBounded := by
  unfold readBoundWord at h
  split at h
  · cases h
  · split at h
    · split at h
      · split at h
        · exact .inl (Prod.mk.inj (Option.some.inj h)).1.symm
        · cases h
      · split at h
        · exact .inr (Prod.mk.inj (Option.some.inj h)).1.symm
        · cases h
      · cases h
    · cases h

/-- A type that is read is a wildcard, a wildcard with a bound, or a name with or without
arguments, made an array by what follows. -/
lemma readType_cases {fuel : Nat} {s rest : Text} {t : TypeExpr}
    (h : readType (fuel + 1) s = some (t, rest)) :
    (∃ r, s = '?' :: r ∧ withDimensions .wildcard r = (t, rest)) ∨
    (∃ r r' after bounded bound, s = '?' :: r ∧ readBoundWord r = some (bounded, r') ∧
      readType fuel r' = some (bound, after) ∧ withDimensions (bounded bound) after = (t, rest)) ∨
    (∃ name r, readName s = some (name, r) ∧ withDimensions (ofName name) r = (t, rest)) ∨
    ∃ name r r' after arg args close, readName s = some (name, r) ∧ skipSpace r = '<' :: r' ∧
      readType fuel (skipSpace r') = some (arg, after) ∧ readMore fuel after = some (args, close) ∧
      withDimensions (.declared ⟨name⟩ (arg :: args)) close = (t, rest) := by
  unfold readType at h
  split at h
  · cases h
  next fuel' r heq =>
    cases heq
    split at h
    next => exact .inl ⟨r, rfl, Option.some.inj h⟩
    next bounded r' hword =>
      split at h
      next => exact .inl ⟨r, rfl, Option.some.inj h⟩
      next bound after hbound =>
        exact .inr (.inl ⟨r, r', after, bounded, bound, rfl, hword, hbound, Option.some.inj h⟩)
  next fuel' heq hne =>
    cases heq
    split at h
    next => cases h
    next name r hname =>
      split at h
      next r' hopen =>
        split at h
        next => exact .inr (.inr (.inl ⟨name, r, hname, Option.some.inj h⟩))
        next arg after harg =>
          split at h
          next => exact .inr (.inr (.inl ⟨name, r, hname, Option.some.inj h⟩))
          next args close hargs =>
            exact .inr (.inr (.inr ⟨name, r, r', after, arg, args, close, hname, hopen, harg,
              hargs, Option.some.inj h⟩))
      next => exact .inr (.inr (.inl ⟨name, r, hname, Option.some.inj h⟩))

mutual

/-- A type that is read is canonical, and no bracket pair follows it. -/
theorem isCanonical_of_readType (fuel : Nat) {s rest : Text} {t : TypeExpr}
    (h : readType fuel s = some (t, rest)) :
    t.isCanonical = true ∧ readDimensions rest = (0, rest) := by
  cases fuel with
  | zero => rw [readType] at h; cases h
  | succ fuel =>
    rcases readType_cases h with ⟨r, -, hr⟩ |
      ⟨r, r', after, bounded, bound, -, hword, hbound, hr⟩ | ⟨name, r, hname, hr⟩ |
      ⟨name, r, r', after, arg, args, close, hname, -, harg, hargs, hr⟩
    · exact isCanonical_withDimensions hr isCanonical_wildcard nofun
    · obtain ⟨hcanonical, hafter⟩ := isCanonical_of_readType fuel hbound
      refine isCanonical_withDimensions hr ?_ fun _ => hafter
      rcases eq_bound_of_readBoundWord hword with rfl | rfl <;> simpa using hcanonical
    · obtain ⟨hcanonical, hbounded⟩ := isCanonical_ofName (all_isValid_of_readName hname)
      exact isCanonical_withDimensions hr hcanonical (by simp [hbounded])
    · have hname := all_isValid_of_readName hname
      have harg := (isCanonical_of_readType fuel harg).1
      have hargs := allCanonical_of_readMore fuel hargs
      refine isCanonical_withDimensions hr (isCanonical_declared_iff.mpr ⟨hname, nofun, ?_⟩) nofun
      rw [allCanonical_cons, harg, hargs, Bool.and_self]

/-- Type arguments that are read are canonical. -/
theorem allCanonical_of_readMore (fuel : Nat) {s rest : Text} {ts : List TypeExpr}
    (h : readMore fuel s = some (ts, rest)) : allCanonical ts = true := by
  cases fuel with
  | zero => rw [readMore] at h; cases h
  | succ fuel =>
    rw [readMore] at h
    split at h
    · obtain ⟨rfl, -⟩ := Prod.mk.inj (Option.some.inj h)
      exact allCanonical_nil
    · split at h
      · cases h
      next arg r harg =>
        split at h
        · cases h
        next args r hargs =>
          obtain ⟨rfl, -⟩ := Prod.mk.inj (Option.some.inj h)
          have hcanonical := (isCanonical_of_readType fuel harg).1
          rw [allCanonical_cons, hcanonical, allCanonical_of_readMore fuel hargs, Bool.and_self]
    · cases h

end

/-- Whatever a text denotes is canonical. -/
theorem isCanonical_of_parse {text : Text} {t : TypeExpr} (h : parse text = .ok t) :
    t.isCanonical = true := by
  rw [parse] at h
  split at h
  · cases h
  next u hread =>
    cases h
    exact (isCanonical_of_readType _ hread).1
  · cases h

end TypeExpr

end Companion
