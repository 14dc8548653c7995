import Companion.Artifact
import Mathlib.Tactic.Lemma

/-!
# Filling templates

A literal without two braces in a row is copied, a slot is filled with its value, and either way
rendering goes on with the rest of the template. A template that is put together from such stretches
is therefore rendered stretch by stretch.
-/

namespace Companion

namespace Template

/-- Whether no two opening braces stand in a row and no opening brace stands at the end. -/
def isLiteral : Text → Bool
  | '{' :: '{' :: _ => false
  | ['{'] => false
  | _ :: cs => isLiteral cs
  | [] => true

lemma fillAll_literal (values : List (Text × Text)) (t : Text) (rest : List Piece) :
    fillAll values (.literal t :: rest) = (fillAll values rest).map (t ++ ·) := by
  rw [fillAll, Piece.fill]

lemma fillAll_slot {values : List (Text × Text)} {name value : Text}
    (h : values.lookup name = some value) (rest : List Piece) :
    fillAll values (.slot name :: rest) = (fillAll values rest).map (value ++ ·) := by
  rw [fillAll, Piece.fill, h]

/-- A stretch of a template becomes a text, whatever follows the stretch. -/
def Fills (values : List (Text × Text)) (stretch text : Text) : Prop :=
  ∀ rest, render values (stretch ++ rest) = (render values rest).map (text ++ ·)

/-- A literal is copied. -/
lemma Fills.literal {values : List (Text × Text)} {t : Text} (h : isLiteral t = true) :
    Fills values t t := by
  intro rest
  induction t with
  | nil => cases hr : render values rest <;> simp [hr, Except.map]
  | cons c cs ih =>
    have hpieces : pieces (c :: (cs ++ rest)) = .literal [c] :: pieces (cs ++ rest) := by
      refine pieces.eq_2 c _ fun more hc hcs => ?_
      subst hc
      cases cs with
      | nil => cases h
      | cons d ds =>
        obtain ⟨rfl, -⟩ := List.cons.inj hcs
        cases h
    have hcs : isLiteral cs = true := by
      rw [isLiteral.eq_def] at h
      split at h
      · cases h
      · cases h
      · next heq => obtain ⟨-, rfl⟩ := List.cons.inj heq; exact h
      · next heq => cases heq
    rw [render, List.cons_append, hpieces, fillAll_literal]
    have hrest := ih hcs
    rw [render] at hrest
    rw [hrest, render]
    cases fillAll values (pieces rest) <;> rfl

/-- Whether a text has no two of a brace in a row and none at its end. -/
def IsClear (brace : Char) (t : Text) : Prop :=
  ¬[brace, brace] <:+: t ∧ t.getLast? ≠ some brace

lemma isClear_cons {brace c : Char} {t : Text} :
    IsClear brace (c :: t) ↔
      IsClear brace t ∧ (c = brace → ∃ d ds, t = d :: ds ∧ d ≠ brace) := by
  cases t with
  | nil => simp [IsClear, List.infix_cons_iff]
  | cons d ds =>
    constructor
    · rintro ⟨hfound, hlast⟩
      rw [List.getLast?_cons_cons] at hlast
      refine ⟨⟨fun h => hfound (h.trans (List.suffix_cons c _).isInfix), hlast⟩, ?_⟩
      rintro rfl
      exact ⟨d, ds, rfl, fun hd => hfound ⟨[], ds, by simp [hd]⟩⟩
    · rintro ⟨⟨hfound, hlast⟩, hc⟩
      refine ⟨fun h => ?_, by rwa [List.getLast?_cons_cons]⟩
      rcases List.infix_cons_iff.mp h with hprefix | h
      · obtain ⟨hbrace, hprefix⟩ := List.cons_prefix_cons.mp hprefix
        obtain ⟨_, _, heq, hd⟩ := hc hbrace.symm
        obtain ⟨rfl, -⟩ := List.cons.inj heq
        exact hd (List.cons_prefix_cons.mp hprefix).1.symm
      · exact hfound h

lemma isClear_of_notMem {brace : Char} {t : Text} (h : brace ∉ t) : IsClear brace t :=
  ⟨fun hfound => h (hfound.subset List.mem_cons_self),
    fun hlast => h (List.mem_of_getLast? hlast)⟩

/-- A name that the closing braces after it do not cut short is read up to them. -/
lemma slotPieces_append (reversed : Text) {name : Text} (h : IsClear '}' name) (rest : Text) :
    slotPieces reversed (name ++ '}' :: '}' :: rest) =
      .ofName (reversed.reverse ++ name) :: pieces rest := by
  induction name generalizing reversed with
  | nil => rw [List.nil_append, slotPieces, List.append_nil]
  | cons c cs ih =>
    obtain ⟨hcs, hc⟩ := isClear_cons.mp h
    have hstep : slotPieces reversed (c :: (cs ++ '}' :: '}' :: rest)) =
        slotPieces (c :: reversed) (cs ++ '}' :: '}' :: rest) := by
      refine slotPieces.eq_2 _ _ _ fun more heq hmore => ?_
      obtain ⟨d, ds, rfl, hd⟩ := hc heq
      exact hd (List.cons.inj hmore).1
    rw [List.cons_append, hstep, ih _ hcs]
    simp

/-- A slot is filled with the first value for its name. -/
lemma Fills.slot_of_isClear {values : List (Text × Text)} {name value : Text} (hname : name ≠ [])
    (hclear : IsClear '}' name) (h : values.lookup name = some value) :
    Fills values (Variant.slot name) value := by
  intro rest
  have hslot : Variant.slot name ++ rest = '{' :: '{' :: (name ++ '}' :: '}' :: rest) := by
    simp [Variant.slot]
  rw [render, hslot, pieces, slotPieces_append [] hclear, List.reverse_nil, List.nil_append,
    Piece.ofName, if_neg hname, fillAll_slot h, render]

lemma Fills.slot {values : List (Text × Text)} {name value : Text} (hname : name ≠ [])
    (hbrace : '}' ∉ name) (h : values.lookup name = some value) :
    Fills values (Variant.slot name) value :=
  .slot_of_isClear hname (isClear_of_notMem hbrace) h

lemma Fills.append {values : List (Text × Text)} {s t x y : Text} (hs : Fills values s x)
    (ht : Fills values t y) : Fills values (s ++ t) (x ++ y) := by
  intro rest
  rw [List.append_assoc, hs, ht]
  cases render values rest <;> simp [Except.map]

lemma Fills.render_eq {values : List (Text × Text)} {template text : Text}
    (h : Fills values template text) : render values template = .ok text := by
  have hnil := h []
  rw [List.append_nil, render, render, pieces, fillAll] at hnil
  simpa [Except.map, render] using hnil

end Template

end Companion
