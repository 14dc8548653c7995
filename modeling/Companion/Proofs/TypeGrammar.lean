import Companion.Proofs.TypeReading

/-!
# The grammar of types

A type is written as a wildcard with a bound, or as a base and then any number of bracket pairs. A
base is a wildcard, a primitive, or a name with or without arguments. Space may stand around
arguments and before bracket pairs; it must stand on both sides of the word that opens a bound.
Every type that is read is written this way.
-/

namespace Companion.TypeExpr

open Identifier

/-- Space that may stand between words. -/
def IsSpacing (w : Text) : Prop :=
  ∀ c ∈ w, isSpace c = true

/-- Space that must stand between words. -/
def IsGap (w : Text) : Prop :=
  w ≠ [] ∧ IsSpacing w

/-- Identifiers with a dot between each two. -/
def IsName (name : Text) : Prop :=
  (name.split '.').all isValid = true

/-- A number of bracket pairs, with space before each. -/
inductive IsBrackets : Nat → Text → Prop where
  | none : IsBrackets 0 []
  | pair {n : Nat} {w s : Text} (hw : IsSpacing w) (hs : IsBrackets n s) :
      IsBrackets (n + 1) (w ++ '[' :: ']' :: s)

mutual

/-- How a type is written. -/
inductive IsWritten : TypeExpr → Text → Prop where
  | upperBounded {bound : TypeExpr} {w w' s : Text} (hw : IsGap w) (hw' : IsGap w')
      (hs : IsWritten bound s) :
      IsWritten (.upperBounded bound) ('?' :: (w ++ ("extends".toList ++ (w' ++ s))))
  | lowerBounded {bound : TypeExpr} {w w' s : Text} (hw : IsGap w) (hw' : IsGap w')
      (hs : IsWritten bound s) :
      IsWritten (.lowerBounded bound) ('?' :: (w ++ ("super".toList ++ (w' ++ s))))
  | arrayOf {base : TypeExpr} {n : Nat} {s s' : Text} (hs : IsBase base s)
      (hs' : IsBrackets n s') : IsWritten (arrayOf base n) (s ++ s')

/-- How a type that may take bracket pairs is written without them. -/
inductive IsBase : TypeExpr → Text → Prop where
  | wildcard : IsBase .wildcard ['?']
  | primitive (p : Primitive) : IsBase (.primitive p) p.keyword
  | plain {name : Text} (hname : IsName name) (hword : ∀ p : Primitive, p.keyword ≠ name) :
      IsBase (.declared ⟨name⟩ []) name
  | generic {name w w' s s' : Text} {arg : TypeExpr} {args : List TypeExpr}
      (hname : IsName name) (hw : IsSpacing w) (hw' : IsSpacing w') (hs : IsWritten arg s)
      (hs' : IsMore args s') :
      IsBase (.declared ⟨name⟩ (arg :: args)) (name ++ (w ++ '<' :: (w' ++ (s ++ s'))))

/-- How the arguments after the first are written, with the closing bracket. -/
inductive IsMore : List TypeExpr → Text → Prop where
  | close {w : Text} (hw : IsSpacing w) : IsMore [] (w ++ ['>'])
  | comma {w w' s s' : Text} {arg : TypeExpr} {args : List TypeExpr} (hw : IsSpacing w)
      (hw' : IsSpacing w') (hs : IsWritten arg s) (hs' : IsMore args s') :
      IsMore (arg :: args) (w ++ ',' :: (w' ++ (s ++ s')))

end

lemma isSpacing_nil : IsSpacing [] := by
  intro c hc
  cases hc

lemma IsSpacing.tail {c : Char} {w : Text} (h : IsSpacing (c :: w)) : IsSpacing w :=
  fun d hd => h d (List.mem_cons_of_mem c hd)

lemma IsSpacing.head {c : Char} {w : Text} (h : IsSpacing (c :: w)) : isSpace c = true :=
  h c List.mem_cons_self

lemma IsSpacing.cons {c : Char} {w : Text} (hc : isSpace c = true) (h : IsSpacing w) :
    IsSpacing (c :: w) := by
  intro d hd
  rcases List.mem_cons.mp hd with rfl | hd
  · exact hc
  · exact h d hd

/-- A text is its leading space and what is left without it. -/
lemma exists_spacing (s : Text) : ∃ w, IsSpacing w ∧ s = w ++ skipSpace s := by
  induction s with
  | nil => exact ⟨[], isSpacing_nil, rfl⟩
  | cons c cs ih =>
    by_cases hc : isSpace c = true
    · obtain ⟨w, hw, hcs⟩ := ih
      refine ⟨c :: w, hw.cons hc, ?_⟩
      rw [skipSpace, List.dropWhile_cons, if_pos hc]
      exact congrArg (c :: ·) hcs
    · refine ⟨[], isSpacing_nil, ?_⟩
      rw [skipSpace_cons (by simpa using hc)]
      rfl

/-- A keyword is the name of no class. -/
lemma isBase_ofName {name : Text} (h : IsName name) : IsBase (ofName name) name := by
  rw [ofName]
  cases hp : Primitive.ofKeyword? name with
  | some p =>
    rw [← Primitive.keyword_of_ofKeyword? hp]
    exact .primitive p
  | none =>
    refine .plain h ?_
    rintro p rfl
    rw [Primitive.ofKeyword?_keyword] at hp
    cases hp

/-- A name and what follows it make up the text that it is read from. -/
lemma append_readNameTail (s : Text) : (readNameTail s).1 ++ (readNameTail s).2 = s := by
  fun_induction readNameTail s with
  | case1 c cs hstart tail rest heq ih =>
    rw [heq] at ih
    exact congrArg ('.' :: c :: ·) ih
  | case2 => rfl
  | case3 c cs hne hpart tail rest heq ih =>
    rw [heq] at ih
    exact congrArg (c :: ·) ih
  | case4 => rfl
  | case5 => rfl

lemma isName_of_readName {s name rest : Text} (h : readName s = some (name, rest)) :
    IsName name ∧ s = name ++ rest := by
  refine ⟨all_isValid_of_readName h, ?_⟩
  cases s with
  | nil => cases h
  | cons c cs =>
    rw [readName] at h
    split at h
    · obtain ⟨rfl, rfl⟩ := Prod.mk.inj (Option.some.inj h)
      exact congrArg (c :: ·) (append_readNameTail cs).symm
    · cases h

lemma IsBrackets.cons {n : Nat} {c : Char} {s : Text} (hc : isSpace c = true)
    (h : IsBrackets (n + 1) s) : IsBrackets (n + 1) (c :: s) := by
  cases h with
  | @pair _ w s hw hs => exact .pair (hw.cons hc) hs

/-- The bracket pairs that are counted and what follows make up the text. -/
lemma exists_brackets (s : Text) :
    ∃ b, IsBrackets (readDimensions s).1 b ∧ s = b ++ (readDimensions s).2 := by
  fun_induction readDimensions s with
  | case1 => exact ⟨[], .none, rfl⟩
  | case2 cs n rest heq ih =>
    rw [heq] at ih
    obtain ⟨b, hb, hcs⟩ := ih
    exact ⟨'[' :: ']' :: b, .pair isSpacing_nil hb, congrArg ('[' :: ']' :: ·) hcs⟩
  | case3 c cs hne hspace rest heq ih => exact ⟨[], .none, rfl⟩
  | case4 c cs hne hspace found ih =>
    obtain ⟨b, hb, hcs⟩ := ih
    obtain ⟨n, hn⟩ : ∃ n, (readDimensions cs).1 = n + 1 := by
      refine Nat.exists_eq_succ_of_ne_zero fun hzero => found (readDimensions cs).2 ?_
      rw [← hzero]
    rw [hn] at hb ⊢
    exact ⟨c :: b, hb.cons hspace, congrArg (c :: ·) hcs⟩
  | case5 c cs hne hspace => exact ⟨[], .none, rfl⟩

/-- The word that opens a bound stands between gaps. -/
lemma exists_of_readBoundWord {s r : Text} {bounded : TypeExpr → TypeExpr}
    (h : readBoundWord s = some (bounded, r)) :
    ∃ w w', IsGap w ∧ IsGap w' ∧
      (bounded = upperBounded ∧ s = w ++ ("extends".toList ++ (w' ++ r)) ∨
        bounded = lowerBounded ∧ s = w ++ ("super".toList ++ (w' ++ r))) := by
  unfold readBoundWord at h
  split at h
  · cases h
  next c cs =>
    split at h
    next hc =>
      obtain ⟨v, hv, hcs⟩ := exists_spacing cs
      split at h
      next d r' hskip =>
        split at h
        next hd =>
          obtain ⟨rfl, rfl⟩ := Prod.mk.inj (Option.some.inj h)
          obtain ⟨v', hv', hr⟩ := exists_spacing r'
          refine ⟨c :: v, d :: v', ⟨by simp, hv.cons hc⟩, ⟨by simp, hv'.cons hd⟩, .inl ⟨rfl, ?_⟩⟩
          rw [hskip, hr] at hcs
          exact congrArg (c :: ·) hcs
        next => cases h
      next d r' hskip =>
        split at h
        next hd =>
          obtain ⟨rfl, rfl⟩ := Prod.mk.inj (Option.some.inj h)
          obtain ⟨v', hv', hr⟩ := exists_spacing r'
          refine ⟨c :: v, d :: v', ⟨by simp, hv.cons hc⟩, ⟨by simp, hv'.cons hd⟩, .inr ⟨rfl, ?_⟩⟩
          rw [hskip, hr] at hcs
          exact congrArg (c :: ·) hcs
        next => cases h
      next => cases h
    next => cases h

mutual

/-- What is read as a type is written as one. -/
theorem exists_isWritten_of_readType (fuel : Nat) {s rest : Text} {t : TypeExpr}
    (h : readType fuel s = some (t, rest)) : ∃ p, IsWritten t p ∧ s = p ++ rest := by
  cases fuel with
  | zero => rw [readType] at h; cases h
  | succ fuel =>
    rcases readType_cases h with ⟨r, rfl, hr⟩ |
      ⟨r, r', after, bounded, bound, rfl, hword, hbound, hr⟩ | ⟨name, r, hname, hr⟩ |
      ⟨name, r, r', after, arg, args, close, hname, hopen, harg, hargs, hr⟩
    · obtain ⟨rfl, rfl⟩ := Prod.mk.inj hr
      obtain ⟨b, hb, hsplit⟩ := exists_brackets r
      exact ⟨_, .arrayOf .wildcard hb, congrArg ('?' :: ·) hsplit⟩
    · obtain ⟨p, hp, rfl⟩ := exists_isWritten_of_readType fuel hbound
      -- The bound has taken all bracket pairs, so none is left for the wildcard.
      rw [withDimensions, (isCanonical_of_readType fuel hbound).2] at hr
      obtain ⟨rfl, rfl⟩ := Prod.mk.inj hr
      obtain ⟨w, w', hw, hw', ⟨rfl, rfl⟩ | ⟨rfl, rfl⟩⟩ := exists_of_readBoundWord hword
      · exact ⟨_, .upperBounded hw hw' hp, by simp⟩
      · exact ⟨_, .lowerBounded hw hw' hp, by simp⟩
    · obtain ⟨hvalid, rfl⟩ := isName_of_readName hname
      obtain ⟨rfl, rfl⟩ := Prod.mk.inj hr
      obtain ⟨b, hb, hsplit⟩ := exists_brackets r
      refine ⟨_, .arrayOf (isBase_ofName hvalid) hb, ?_⟩
      rw [List.append_assoc]
      exact congrArg (name ++ ·) hsplit
    · obtain ⟨hvalid, rfl⟩ := isName_of_readName hname
      obtain ⟨w, hw, hr₁⟩ := exists_spacing r
      obtain ⟨w', hw', hr₂⟩ := exists_spacing r'
      obtain ⟨p, hp, hsplit⟩ := exists_isWritten_of_readType fuel harg
      obtain ⟨p', hp', hsplit'⟩ := exists_isMore_of_readMore fuel hargs
      obtain ⟨b, hb, hsplit''⟩ := exists_brackets close
      obtain ⟨rfl, rfl⟩ := Prod.mk.inj hr
      refine ⟨_, .arrayOf (.generic hvalid hw hw' hp hp') hb, ?_⟩
      rw [hr₁, hopen, hr₂, hsplit, hsplit']
      simp [← hsplit'']

/-- What is read as further arguments is written as such. -/
theorem exists_isMore_of_readMore (fuel : Nat) {s rest : Text} {ts : List TypeExpr}
    (h : readMore fuel s = some (ts, rest)) : ∃ p, IsMore ts p ∧ s = p ++ rest := by
  cases fuel with
  | zero => rw [readMore] at h; cases h
  | succ fuel =>
    obtain ⟨w, hw, hs⟩ := exists_spacing s
    rw [readMore] at h
    split at h
    next r hskip =>
      obtain ⟨rfl, rfl⟩ := Prod.mk.inj (Option.some.inj h)
      refine ⟨_, .close hw, ?_⟩
      rw [hskip] at hs
      simpa using hs
    next r hskip =>
      obtain ⟨w', hw', hr⟩ := exists_spacing r
      split at h
      · cases h
      next arg r' harg =>
        split at h
        · cases h
        next args rest' hargs =>
          obtain ⟨rfl, rfl⟩ := Prod.mk.inj (Option.some.inj h)
          obtain ⟨p, hp, hsplit⟩ := exists_isWritten_of_readType fuel harg
          obtain ⟨p', hp', hsplit'⟩ := exists_isMore_of_readMore fuel hargs
          refine ⟨_, .comma hw hw' hp hp', ?_⟩
          rw [hs, hskip, hr, hsplit, hsplit']
          simp
    · cases h

end

end Companion.TypeExpr
