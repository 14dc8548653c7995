import Companion.Identifier
import Companion.QName
import Mathlib.Tactic.Lemma

/-!
# Dots in names

An identifier has no dot, so the last dot of a qualified name tells the name from its qualifier.
This is what keeps the parts of a name apart once they are put together.
-/

namespace Companion

namespace Text

/-- The last separator of a text tells what stands before it and after it. -/
lemma append_cons_inj {sep : Char} {a b x y : Text} (hx : sep ∉ x) (hy : sep ∉ y)
    (h : a ++ sep :: x = b ++ sep :: y) : a = b ∧ x = y := by
  rcases List.append_eq_append_iff.mp h with ⟨c, hb, hc⟩ | ⟨c, ha, hc⟩
  · cases c with
    | nil => exact ⟨by simpa using hb.symm, (List.cons.inj hc).2⟩
    | cons d c =>
      obtain ⟨-, hx'⟩ := List.cons.inj hc
      exact absurd (by simp [hx']) hx
  · cases c with
    | nil => exact ⟨by simpa using ha, (List.cons.inj hc).2.symm⟩
    | cons d c =>
      obtain ⟨-, hy'⟩ := List.cons.inj hc
      exact absurd (by simp [hy']) hy

/-- Putting one more piece at the end of joined pieces. -/
lemma intercalate_append_singleton (sep : Char) {pieces : List Text} (piece : Text)
    (h : pieces ≠ []) :
    List.intercalate [sep] (pieces ++ [piece]) =
      List.intercalate [sep] pieces ++ sep :: piece := by
  induction pieces with
  | nil => exact absurd rfl h
  | cons first rest ih =>
    cases rest with
    | nil => simp
    | cons second rest =>
      rw [List.cons_append, List.intercalate_cons_of_ne_nil (by simp),
        List.intercalate_cons_of_ne_nil (by simp), ih (by simp)]
      simp

/-- Pieces without a separator can be told from their join. -/
lemma intercalate_inj {sep : Char} {xs ys : List Text} (hx : ∀ t ∈ xs, sep ∉ t)
    (hy : ∀ t ∈ ys, sep ∉ t) (hxs : xs ≠ []) (hys : ys ≠ [])
    (h : List.intercalate [sep] xs = List.intercalate [sep] ys) : xs = ys := by
  rw [← List.splitOn_intercalate sep hx hxs, h, List.splitOn_intercalate sep hy hys]

end Text

namespace Identifier

lemma isPart_dot : isPart '.' = false := by
  decide

lemma isStart_dot : isStart '.' = false := by
  decide

lemma ne_nil_of_isValid {t : Text} (h : isValid t = true) : t ≠ [] := by
  rintro rfl
  cases h

lemma dot_notMem_of_isValid {t : Text} (h : isValid t = true) : '.' ∉ t := by
  cases t with
  | nil => exact List.not_mem_nil
  | cons c cs =>
    rw [isValid, Bool.and_eq_true, List.all_eq_true] at h
    intro hdot
    rcases List.mem_cons.mp hdot with rfl | hdot
    · rw [isStart_dot] at h
      exact Bool.noConfusion h.1
    · have hpart := h.2 '.' hdot
      rw [isPart_dot] at hpart
      cases hpart

end Identifier

namespace QName

lemma child_nil {n : QName} (h : n.text = []) (segment : Text) : n.child segment = ⟨segment⟩ := by
  rw [child, if_pos h]

lemma child_of_ne_nil {n : QName} (h : n.text ≠ []) (segment : Text) :
    n.child segment = ⟨n.text ++ '.' :: segment⟩ := by
  rw [child, if_neg h]

lemma text_child_append (n : QName) (s t : Text) :
    (n.child (s ++ t)).text = (n.child s).text ++ t := by
  by_cases h : n.text = []
  · rw [child_nil h, child_nil h]
  · rw [child_of_ne_nil h, child_of_ne_nil h]
    simp

lemma text_child_ne_nil (n : QName) {s : Text} (hs : s ≠ []) : (n.child s).text ≠ [] := by
  by_cases h : n.text = []
  · rwa [child_nil h]
  · rw [child_of_ne_nil h]
    simp

lemma child_child {n : QName} {s : Text} (h : (n.child s).text ≠ []) (t : Text) :
    (n.child s).child t = n.child (s ++ '.' :: t) := by
  rw [child_of_ne_nil h]
  exact congrArg mk (text_child_append n s ('.' :: t)).symm

lemma length_lt_child {n : QName} {s : Text} (hs : s ≠ []) :
    n.text.length < (n.child s).text.length := by
  have hpos := List.length_pos_iff.mpr hs
  by_cases h : n.text = []
  · rwa [child_nil h, h, List.length_nil]
  · rw [child_of_ne_nil h, List.length_append, List.length_cons]
    omega

/-- A member is told by its qualifier and its simple name, if the latter has no dot. -/
lemma child_inj {m n : QName} {s t : Text} (hs : '.' ∉ s) (ht : '.' ∉ t)
    (h : m.child s = n.child t) : m = n ∧ s = t := by
  by_cases hm : m.text = [] <;> by_cases hn : n.text = []
  · rw [child_nil hm, child_nil hn] at h
    exact ⟨congrArg mk (hm.trans hn.symm), congrArg text h⟩
  · rw [child_nil hm, child_of_ne_nil hn] at h
    have hst : s = n.text ++ '.' :: t := congrArg text h
    exact absurd (by simp [hst]) hs
  · rw [child_of_ne_nil hm, child_nil hn] at h
    have hts : m.text ++ '.' :: s = t := congrArg text h
    exact absurd (by simp [← hts]) ht
  · rw [child_of_ne_nil hm, child_of_ne_nil hn] at h
    obtain ⟨htext, hst⟩ := Text.append_cons_inj hs ht (congrArg text h)
    exact ⟨congrArg mk htext, hst⟩

end QName

end Companion
