import Companion.Proofs.QName
import Companion.Text.Blank
import Companion.TypeExpr.Reader
import Mathlib.Data.List.Basic

/-!
# Reading dotted names

A name with dots is read back whatever stops it, and what is read as a name is one: identifiers
with a dot between each two. No identifier has white space, nor any of the signs that stand around
the name of a type.
-/

namespace Companion

namespace Text

lemma exists_range_of_inRanges {ranges : List (Nat × Nat)} {n : Nat}
    (h : inRanges ranges n = true) : ∃ range ∈ ranges, range.1 ≤ n ∧ n ≤ range.2 := by
  induction ranges with
  | nil => cases h
  | cons range ranges ih =>
    rw [inRanges] at h
    split at h
    · cases h
    next hlo =>
      rw [Bool.or_eq_true, decide_eq_true_eq] at h
      rcases h with hhi | hrest
      · exact ⟨range, List.mem_cons_self, by omega, hhi⟩
      · obtain ⟨found, hmem, hfound⟩ := ih hrest
        exact ⟨found, List.mem_cons_of_mem _ hmem, hfound⟩

/-- No white space is part of an identifier. -/
lemma isPart_of_isBlank {c : Char} (h : isBlank c = true) : Identifier.isPart c = false := by
  obtain ⟨range, hrange, hlo, hhi⟩ := exists_range_of_inRanges h
  have hall : ∀ range ∈ blankRanges, ∀ k < range.2 + 1 - range.1,
      Identifier.isPart (Char.ofNat (range.1 + k)) = false := by
    decide +kernel
  have hpart := hall range hrange (c.toNat - range.1) (by omega)
  rwa [Nat.add_sub_cancel' hlo, Char.ofNat_toNat] at hpart

lemma isBlank_of_isPart {c : Char} (h : Identifier.isPart c = true) : isBlank c = false := by
  cases hc : isBlank c with
  | false => rfl
  | true => rw [isPart_of_isBlank hc] at h; cases h

/-- Text that neither begins nor ends with white space is all that is left when it is trimmed. -/
lemma trim_eq_self {t : Text} (hhead : ∀ c ∈ t.head?, isBlank c = false)
    (hlast : ∀ c ∈ t.getLast?, isBlank c = false) : t.trim = t := by
  have hdrop (s : Text) (h : ∀ c ∈ s.head?, isBlank c = false) : s.dropWhile isBlank = s := by
    cases s with
    | nil => rfl
    | cons c cs => rw [List.dropWhile_cons, if_neg (by simp [h c rfl])]
  rw [trim, hdrop t hhead, hdrop t.reverse (by rwa [List.head?_reverse]), List.reverse_reverse]

lemma split_eq_cons (sep : Char) (t : Text) : ∃ piece pieces, t.split sep = piece :: pieces := by
  cases t with
  | nil => exact ⟨[], [], rfl⟩
  | cons c cs =>
    rw [split]
    split
    · exact ⟨[], _, rfl⟩
    · split <;> exact ⟨_, _, rfl⟩

/-- A character of a text is the separator or belongs to a piece. -/
lemma mem_split {t : Text} {c : Char} (h : c ∈ t) (sep : Char) :
    c = sep ∨ ∃ piece ∈ t.split sep, c ∈ piece := by
  induction t with
  | nil => cases h
  | cons d ds ih =>
    obtain ⟨piece, pieces, hsplit⟩ := split_eq_cons sep ds
    rw [hsplit] at ih
    rcases List.mem_cons.mp h with rfl | hmem
    · by_cases hsep : c = sep
      · exact .inl hsep
      · exact .inr ⟨c :: piece, by simp [split, hsep, hsplit], List.mem_cons_self⟩
    · refine (ih hmem).imp_right ?_
      rintro ⟨found, hfound, hc⟩
      by_cases hsep : d = sep
      · exact ⟨found, by simpa [split, hsep, hsplit] using .inr (List.mem_cons.mp hfound), hc⟩
      · rcases List.mem_cons.mp hfound with rfl | hfound
        · exact ⟨d :: found, by simp [split, hsep, hsplit], List.mem_cons_of_mem _ hc⟩
        · exact ⟨found, by simp [split, hsep, hsplit, hfound], hc⟩

end Text

namespace Identifier

lemma isPart_of_isStart {c : Char} (h : isStart c = true) : isPart c = true := by
  simp only [isStart, isPart, Bool.or_eq_true, decide_eq_true_eq] at h ⊢
  rcases h with (h | h) | h
  · exact .inl (.inl (.inl h))
  · exact .inl (.inr h)
  · exact .inr h

lemma isPart_of_mem {t : Text} (h : isValid t = true) {c : Char} (hc : c ∈ t) :
    isPart c = true := by
  cases t with
  | nil => cases hc
  | cons d ds =>
    rw [isValid, Bool.and_eq_true] at h
    rcases List.mem_cons.mp hc with rfl | hmem
    · exact isPart_of_isStart h.1
    · exact List.all_eq_true.mp h.2 c hmem

/-- A character that identifiers have is none that they lack. -/
lemma ne_of_isPart {c d : Char} (hc : isPart c = true) (hd : isPart d = false) : c ≠ d := by
  rintro rfl
  rw [hc] at hd
  cases hd

end Identifier

namespace TypeExpr

open Identifier

lemma isSpace_of_isBlank {c : Char} (h : Text.isBlank c = false) : isSpace c = false := by
  cases hc : isSpace c with
  | false => rfl
  | true =>
    simp only [isSpace, Bool.or_eq_true, decide_eq_true_eq] at hc
    rcases hc with ((rfl | rfl) | rfl) | rfl <;> exact absurd h (by decide)

/-- Whether a dot-separated name may go on like this after its first character. -/
def isNameTail (t : Text) : Bool :=
  match t.split '.' with
  | [] => false
  | piece :: pieces => piece.all isPart && pieces.all isValid

lemma isNameTail_nil : isNameTail [] = true := by
  decide

lemma isNameTail_dot (t : Text) : isNameTail ('.' :: t) = (t.split '.').all isValid := by
  simp [isNameTail, Text.split]

lemma isNameTail_cons {c : Char} (hc : c ≠ '.') (t : Text) :
    isNameTail (c :: t) = (isPart c && isNameTail t) := by
  obtain ⟨piece, pieces, h⟩ := Text.split_eq_cons '.' t
  simp [isNameTail, Text.split, hc, h, Bool.and_assoc]

lemma split_nil_all_isValid : (Text.split '.' []).all isValid = false := by
  decide

lemma split_cons_all_isValid (c : Char) (t : Text) :
    (Text.split '.' (c :: t)).all isValid = (isStart c && isNameTail t) := by
  by_cases hc : c = '.'
  · subst hc
    simp [Text.split, isValid, isStart_dot]
  · obtain ⟨piece, pieces, h⟩ := Text.split_eq_cons '.' t
    simp [isNameTail, Text.split, hc, h, isValid, Bool.and_assoc]

lemma readNameTail_dot {c : Char} (hc : isStart c = true) (s : Text) :
    readNameTail ('.' :: c :: s) = ('.' :: c :: (readNameTail s).1, (readNameTail s).2) := by
  rw [readNameTail, if_pos hc]

lemma readNameTail_part {c : Char} (hc : isPart c = true) (s : Text) :
    readNameTail (c :: s) = (c :: (readNameTail s).1, (readNameTail s).2) := by
  have hdot : c ≠ '.' := ne_of_isPart hc isPart_dot
  rw [readNameTail, if_pos hc]
  exact fun d ds h => absurd h hdot

/-- Whether no dot-separated name goes on with a text. -/
def StopsName (rest : Text) : Prop :=
  ∀ c ∈ rest.head?, c ≠ '.' ∧ isPart c = false

lemma readNameTail_of_stopsName {rest : Text} (h : StopsName rest) :
    readNameTail rest = ([], rest) := by
  cases rest with
  | nil => rfl
  | cons c cs =>
    obtain ⟨hdot, hpart⟩ := h c rfl
    rw [readNameTail, if_neg (by simp [hpart])]
    exact fun d ds hc => absurd hc hdot

/-- A name goes on for as long as it can, and at least as far as it is one. -/
lemma readNameTail_append {t : Text} (h : isNameTail t = true) (rest : Text) :
    readNameTail (t ++ rest) = (t ++ (readNameTail rest).1, (readNameTail rest).2) := by
  fun_induction readNameTail t with
  | case1 c cs hstart tail after heq ih =>
    rw [isNameTail_dot, split_cons_all_isValid, Bool.and_eq_true] at h
    rw [List.cons_append, List.cons_append, readNameTail_dot hstart, ih h.2]
    rfl
  | case2 c cs hstart =>
    rw [isNameTail_dot, split_cons_all_isValid, Bool.and_eq_true] at h
    exact absurd h.1 hstart
  | case3 c cs hne hpart tail after heq ih =>
    rw [isNameTail_cons (ne_of_isPart hpart isPart_dot), Bool.and_eq_true] at h
    rw [List.cons_append, readNameTail_part hpart, ih h.2]
    rfl
  | case4 c cs hne hpart =>
    by_cases hdot : c = '.'
    · subst hdot
      cases cs with
      | nil => exact absurd h (by decide)
      | cons d ds => exact (hne d ds rfl rfl).elim
    · rw [isNameTail_cons hdot, Bool.and_eq_true] at h
      exact absurd h.1 hpart
  | case5 => rfl

/-- What is read as the rest of a name is one. -/
lemma isNameTail_readNameTail (s : Text) : isNameTail (readNameTail s).1 = true := by
  fun_induction readNameTail s with
  | case1 c cs hstart tail rest heq ih =>
    rw [heq] at ih
    rw [isNameTail_dot, split_cons_all_isValid, hstart, ih, Bool.and_self]
  | case2 => exact isNameTail_nil
  | case3 c cs hne hpart tail rest heq ih =>
    rw [heq] at ih
    rw [isNameTail_cons (ne_of_isPart hpart isPart_dot), hpart, ih, Bool.and_self]
  | case4 => exact isNameTail_nil
  | case5 => exact isNameTail_nil

/-- A dot-separated name is read to its end. -/
lemma readName_append {name rest : Text} (h : (name.split '.').all isValid = true)
    (hrest : StopsName rest) : readName (name ++ rest) = some (name, rest) := by
  cases name with
  | nil => rw [split_nil_all_isValid] at h; cases h
  | cons c cs =>
    rw [split_cons_all_isValid, Bool.and_eq_true] at h
    rw [List.cons_append, readName, if_pos h.1, readNameTail_append h.2,
      readNameTail_of_stopsName hrest, List.append_nil]

/-- What is read as a name is one. -/
lemma all_isValid_of_readName {s name rest : Text} (h : readName s = some (name, rest)) :
    (name.split '.').all isValid = true := by
  cases s with
  | nil => cases h
  | cons c cs =>
    rw [readName] at h
    split at h
    next hstart =>
      obtain ⟨rfl, -⟩ := Prod.mk.inj (Option.some.inj h)
      rw [split_cons_all_isValid, hstart, isNameTail_readNameTail, Bool.and_self]
    · cases h

end TypeExpr

end Companion
