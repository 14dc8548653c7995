import Companion.Proofs.Entries
import Companion.Proofs.Template

/-!
# One substitution from left to right

A template is a sequence of slots with literal text between them, in which the slots can be told: no
literal has two opening braces in a row, and no name runs into the braces that close its slot. Every
text is such a sequence. Rendering puts the first value given for its name in the place of each slot,
as it is, and leaves everything else alone; what stops it is the first slot without a value.
-/

namespace Companion.Template

/-- A part of a template. -/
inductive Part where
  | literal (t : Text)
  | slot (name : Text)
  | emptySlot
  | unclosed (t : Text)

namespace Part

/-- The part as it is written. -/
def text : Part → Text
  | literal t => t
  | slot name => "\x7b\x7b" ++ name ++ "\x7d\x7d"
  | emptySlot => "\x7b\x7b\x7d\x7d"
  | unclosed t => "\x7b\x7b" ++ t

/-- The part with the first value for its name, if it is a slot. -/
def filled (values : List (Text × Text)) : Part → Text
  | slot name => (values.lookup name).getD []
  | part => part.text

end Part

/-- The text of a sequence of parts. -/
def textOf (parts : List Part) : Text :=
  parts.flatMap Part.text

/-- Whether the parts of a template can be told where they meet. A literal may end in an opening
brace only where no slot follows, and a slot may stay open only at the end. -/
inductive IsParted : List Part → Prop where
  | nil : IsParted []
  | literal {t : Text} {rest : List Part} (pair : ¬['{', '{'] <:+: t)
      (last : t.getLast? = some '{' → rest = [] ∨ ∃ u, rest = [.unclosed u]) (h : IsParted rest) :
      IsParted (.literal t :: rest)
  | slot {name : Text} {rest : List Part} (ne_nil : name ≠ []) (pair : ¬['}', '}'] <:+: name)
      (last : name.getLast? ≠ some '}') (h : IsParted rest) : IsParted (.slot name :: rest)
  | emptySlot {rest : List Part} (h : IsParted rest) : IsParted (.emptySlot :: rest)
  | unclosed {t : Text} (pair : ¬['}', '}'] <:+: t) : IsParted [.unclosed t]

variable {values : List (Text × Text)}

/-- A text without two of a brace in a row may still end in one. -/
lemma isClear_or_append {brace : Char} {t : Text} (h : ¬[brace, brace] <:+: t) :
    IsClear brace t ∨ ∃ u, t = u ++ [brace] ∧ IsClear brace u := by
  by_cases hlast : t.getLast? = some brace
  · obtain ⟨u, rfl⟩ := List.getLast?_eq_some_iff.mp hlast
    refine Or.inr ⟨u, rfl, fun hu => h (hu.trans (List.prefix_append u _).isInfix), ?_⟩
    intro hu
    obtain ⟨v, rfl⟩ := List.getLast?_eq_some_iff.mp hu
    exact h ⟨v, [], by simp⟩
  · exact Or.inl ⟨h, hlast⟩

/-- The first two of a brace in a row, with what stands before them. -/
lemma exists_clear_append {brace : Char} {t : Text} (h : [brace, brace] <:+: t) :
    ∃ before after, t = before ++ brace :: brace :: after ∧ IsClear brace before := by
  induction t with
  | nil => cases List.infix_nil.mp h
  | cons c cs ih =>
    by_cases hpair : [brace, brace] <+: c :: cs
    · obtain ⟨after, hafter⟩ := hpair
      exact ⟨[], after, hafter.symm, isClear_of_notMem List.not_mem_nil⟩
    · obtain ⟨before, after, rfl, hbefore⟩ :=
        ih ((List.infix_cons_iff.mp h).resolve_left hpair)
      refine ⟨c :: before, after, rfl, isClear_cons.mpr ⟨hbefore, ?_⟩⟩
      -- a brace directly before the rest would begin an earlier pair
      rintro rfl
      cases before with
      | nil => exact absurd ⟨c :: after, rfl⟩ hpair
      | cons d ds =>
        refine ⟨d, ds, rfl, ?_⟩
        rintro rfl
        exact hpair ⟨ds ++ d :: d :: after, rfl⟩

lemma isLiteral_of_isClear {t : Text} (h : IsClear '{' t) : isLiteral t = true := by
  induction t with
  | nil => rfl
  | cons c cs ih =>
    obtain ⟨hcs, hc⟩ := isClear_cons.mp h
    rw [isLiteral.eq_3]
    · exact ih hcs
    · intro more heq hmore
      obtain ⟨d, ds, rfl, hd⟩ := hc heq
      exact hd (List.cons.inj hmore).1
    · intro heq hnil
      obtain ⟨d, ds, rfl, -⟩ := hc heq
      cases hnil

lemma Fills.clear {t : Text} (h : IsClear '{' t) : Fills values t t :=
  .literal (isLiteral_of_isClear h)

lemma Fills.emptySlot : Fills values Part.emptySlot.text Part.emptySlot.text := by
  intro rest
  have hpieces : pieces (Part.emptySlot.text ++ rest) =
      .literal Part.emptySlot.text :: pieces rest :=
    slotPieces_append [] (isClear_of_notMem List.not_mem_nil) rest
  rw [render, hpieces, fillAll_literal, render]

lemma slotPieces_of_unclosed (reversed : Text) {t : Text} (h : ¬['}', '}'] <:+: t) :
    slotPieces reversed t = [.literal ("\x7b\x7b" ++ (reversed.reverse ++ t))] := by
  induction t generalizing reversed with
  | nil => rw [slotPieces, List.append_nil]
  | cons c cs ih =>
    have hstep : slotPieces reversed (c :: cs) = slotPieces (c :: reversed) cs := by
      refine slotPieces.eq_2 _ _ _ fun more heq hmore => h ⟨[], more, ?_⟩
      simp [heq, hmore]
    rw [hstep, ih _ fun hcs => h (hcs.trans (List.suffix_cons c cs).isInfix), List.reverse_cons,
      List.append_assoc, List.singleton_append]

/-- A slot that is never closed is ordinary text. -/
lemma render_unclosed {t : Text} (h : ¬['}', '}'] <:+: t) :
    render values (Part.unclosed t).text = .ok (Part.unclosed t).text := by
  have hpieces : pieces (Part.unclosed t).text = [.literal (Part.unclosed t).text] :=
    slotPieces_of_unclosed [] h
  rw [render, hpieces, fillAll_literal, fillAll, Except.map, List.append_nil]

/-- Where no slot begins, all is ordinary text. -/
lemma render_of_not_infix {t : Text} (h : ¬['{', '{'] <:+: t) : render values t = .ok t := by
  rcases isClear_or_append h with hclear | ⟨u, rfl, hclear⟩
  · exact (Fills.clear hclear).render_eq
  · have hlast : render values ['{'] = .ok ['{'] := rfl
    rw [Fills.clear hclear, hlast]
    rfl

/-- A brace at the end of a literal goes into a slot that stays open after it. -/
lemma render_append_unclosed {t u : Text} (ht : ¬['{', '{'] <:+: t) (hu : ¬['}', '}'] <:+: u) :
    render values (t ++ (Part.unclosed u).text) = .ok (t ++ (Part.unclosed u).text) := by
  rcases isClear_or_append ht with hclear | ⟨v, rfl, hclear⟩
  · rw [Fills.clear hclear, render_unclosed hu]
    rfl
  · have hopen : ¬['}', '}'] <:+: '{' :: u := by
      intro h
      rcases List.infix_cons_iff.mp h with hprefix | hfound
      · exact absurd (List.cons_prefix_cons.mp hprefix).1 (by decide)
      · exact hu hfound
    have htext : v ++ ['{'] ++ (Part.unclosed u).text = v ++ (Part.unclosed ('{' :: u)).text := by
      simp [Part.text]
    rw [htext, Fills.clear hclear, render_unclosed hopen]
    rfl

lemma textOf_cons (part : Part) (parts : List Part) :
    textOf (part :: parts) = part.text ++ textOf parts :=
  List.flatMap_cons

lemma textOf_singleton (part : Part) : textOf [part] = part.text :=
  List.flatMap_singleton Part.text part

lemma exists_lookup_eq {name : Text} (h : name ∈ values.map Prod.fst) :
    ∃ value, values.lookup name = some value := by
  cases hv : values.lookup name with
  | some value => exact ⟨value, rfl⟩
  | none => exact absurd h (Entries.lookup_eq_none_iff.mp hv)

/-- The first part of a template is filled by itself, or else there is no slot in the template. -/
lemma IsParted.cons_cases {part : Part} {rest : List Part} (h : IsParted (part :: rest))
    (hvalue : ∀ name, part = .slot name → name ∈ values.map Prod.fst) :
    Fills values part.text (part.filled values) ∧ IsParted rest ∨
      (∀ name, Part.slot name ∉ part :: rest) ∧
        render values (textOf (part :: rest)) = .ok (textOf (part :: rest)) := by
  cases h with
  | @literal t _ pair last h =>
    by_cases hlast : t.getLast? = some '{'
    · refine Or.inr ?_
      rcases last hlast with rfl | ⟨u, rfl⟩
      · rw [textOf_singleton]
        exact ⟨by simp, render_of_not_infix pair⟩
      · cases h with
        | unclosed hu =>
          rw [textOf_cons, textOf_singleton]
          exact ⟨by simp, render_append_unclosed pair hu⟩
    · exact Or.inl ⟨Fills.clear ⟨pair, hlast⟩, h⟩
  | @slot name _ ne_nil pair last h =>
    obtain ⟨value, hlookup⟩ := exists_lookup_eq (hvalue name rfl)
    rw [Part.filled, hlookup]
    exact Or.inl ⟨Fills.slot_of_isClear ne_nil ⟨pair, last⟩ hlookup, h⟩
  | emptySlot h => exact Or.inl ⟨Fills.emptySlot, h⟩
  | unclosed hu =>
    rw [textOf_singleton]
    exact Or.inr ⟨by simp, render_unclosed hu⟩

/-- Without slots there is nothing to fill. -/
lemma flatMap_filled_eq {parts : List Part} (h : ∀ name, Part.slot name ∉ parts) :
    parts.flatMap (Part.filled values) = textOf parts := by
  refine List.flatMap_congr fun part hpart => ?_
  cases part with
  | slot name => exact absurd hpart (h name)
  | literal t => rfl
  | emptySlot => rfl
  | unclosed t => rfl

/-- Where every slot has a value, each is filled and the rest is as it was. -/
lemma IsParted.render_eq_ok {parts : List Part} (h : IsParted parts)
    (hvalues : ∀ name, Part.slot name ∈ parts → name ∈ values.map Prod.fst) :
    render values (textOf parts) = .ok (parts.flatMap (Part.filled values)) := by
  induction parts with
  | nil => rfl
  | cons part rest ih =>
    have hpart : ∀ name, part = .slot name → name ∈ values.map Prod.fst :=
      fun name heq => hvalues name (heq ▸ List.mem_cons_self)
    rcases h.cons_cases hpart with ⟨hfills, hrest⟩ | ⟨hnone, hrender⟩
    · have hfilled := ih hrest fun name hname => hvalues name (List.mem_cons_of_mem part hname)
      rw [textOf_cons, hfills, hfilled, List.flatMap_cons]
      rfl
    · rw [hrender, flatMap_filled_eq hnone]

/-- The first slot without a value is the error. -/
lemma IsParted.render_eq_error {before after : List Part} {name : Text}
    (h : IsParted (before ++ .slot name :: after))
    (hbefore : ∀ n, Part.slot n ∈ before → n ∈ values.map Prod.fst)
    (hname : name ∉ values.map Prod.fst) :
    render values (textOf (before ++ .slot name :: after)) = .error (.missingValue name) := by
  induction before with
  | nil =>
    cases h with
    | slot ne_nil pair last h =>
      have hpieces : pieces (textOf ([] ++ .slot name :: after)) =
          .slot name :: pieces (textOf after) := by
        have hslot := slotPieces_append [] ⟨pair, last⟩ (textOf after)
        rw [List.reverse_nil, List.nil_append, Piece.ofName, if_neg ne_nil] at hslot
        rw [← hslot, List.nil_append, textOf_cons, ← pieces.eq_1]
        simp [Part.text]
      rw [render, hpieces, fillAll, Piece.fill, Entries.lookup_eq_none_iff.mpr hname]
  | cons part rest ih =>
    have hpart : ∀ n, part = .slot n → n ∈ values.map Prod.fst :=
      fun n heq => hbefore n (heq ▸ List.mem_cons_self)
    rw [List.cons_append] at h
    rcases h.cons_cases hpart with ⟨hfills, hrest⟩ | ⟨hnone, -⟩
    · have herror := ih hrest fun n hn => hbefore n (List.mem_cons_of_mem part hn)
      rw [List.cons_append, textOf_cons, hfills, herror]
      rfl
    · exact absurd (by simp) (hnone name)

/-- Every text has parts: what stands before the first two opening braces, the slot up to the first
two closing braces after them, and the parts of what follows. -/
lemma exists_isParted (template : Text) : ∃ parts, IsParted parts ∧ textOf parts = template := by
  induction hk : template.length using Nat.strongRecOn generalizing template with
  | ind k ih =>
    by_cases hopen : ['{', '{'] <:+: template
    · obtain ⟨before, after, rfl, hbefore⟩ := exists_clear_append hopen
      have hlast {P : Prop} (h : before.getLast? = some '{') : P := absurd h hbefore.2
      by_cases hclose : ['}', '}'] <:+: after
      · obtain ⟨name, rest, rfl, hname⟩ := exists_clear_append hclose
        have hlt : rest.length < k := by
          rw [← hk]
          simp only [List.length_append, List.length_cons]
          omega
        obtain ⟨parts, hparts, rfl⟩ := ih _ hlt rest rfl
        by_cases hnil : name = []
        · refine ⟨.literal before :: .emptySlot :: parts,
            .literal hbefore.1 hlast (.emptySlot hparts), ?_⟩
          simp [textOf_cons, Part.text, hnil]
        · refine ⟨.literal before :: .slot name :: parts,
            .literal hbefore.1 hlast (.slot hnil hname.1 hname.2 hparts), ?_⟩
          simp [textOf_cons, Part.text]
      · refine ⟨[.literal before, .unclosed after],
          .literal hbefore.1 hlast (.unclosed hclose), ?_⟩
        rw [textOf_cons, textOf_singleton]
        simp [Part.text]
    · exact ⟨[.literal template], .literal hopen (fun _ => Or.inl rfl) .nil, textOf_singleton _⟩

/-- Rendering substitutes once, from left to right. Where every slot of a template has a value, the
result is the template with the first value for its name in the place of each slot; otherwise the
first slot without a value is the error. Every text is a template, and one in which no two closing
braces follow two opening ones is left as it is. -/
theorem render_substitutes_once (values : List (Text × Text)) :
    (∀ parts, IsParted parts →
      ((∀ name, Part.slot name ∈ parts → name ∈ values.map Prod.fst) →
          render values (textOf parts) = .ok (parts.flatMap (Part.filled values))) ∧
        ∀ before name after, parts = before ++ .slot name :: after →
          (∀ n, Part.slot n ∈ before → n ∈ values.map Prod.fst) → name ∉ values.map Prod.fst →
            render values (textOf parts) = .error (.missingValue name)) ∧
      (∀ template, ∃ parts, IsParted parts ∧ textOf parts = template) ∧
      ∀ template : Text,
        (¬∃ a b c, template = a ++ '{' :: '{' :: (b ++ '}' :: '}' :: c)) →
          render values template = .ok template := by
  refine ⟨?_, exists_isParted, ?_⟩
  · intro parts h
    refine ⟨h.render_eq_ok, ?_⟩
    rintro before name after rfl hbefore hname
    exact h.render_eq_error hbefore hname
  · intro template hnone
    obtain ⟨parts, hparts, rfl⟩ := exists_isParted template
    have hslots : ∀ name, Part.slot name ∉ parts := by
      intro name hmem
      obtain ⟨before, after, rfl⟩ := List.append_of_mem hmem
      refine hnone ⟨textOf before, name, textOf after, ?_⟩
      simp [textOf, Part.text]
    rw [hparts.render_eq_ok fun name hmem => absurd hmem (hslots name), flatMap_filled_eq hslots]

/-- A template with a part of every kind. -/
def sampleParts : List Part :=
  [.literal "if \x7bx\x7d ", .slot "x", .emptySlot, .slot "\x7dy", .literal "\x7b", .unclosed "z\x7d"]

lemma sampleParts_isParted : IsParted sampleParts := by
  refine .literal (by decide +kernel) (fun h => absurd h (by decide +kernel)) ?_
  refine .slot (by decide +kernel) (by decide +kernel) (by decide +kernel) (.emptySlot ?_)
  refine .slot (by decide +kernel) (by decide +kernel) (by decide +kernel) ?_
  refine .literal (by decide +kernel) (fun _ => Or.inr ⟨"z\x7d", rfl⟩) ?_
  exact .unclosed (by decide +kernel)

/-- A value that looks like a slot is copied, and the first value for a name counts. With a value for
the first slot alone, the second one is the error. -/
theorem sampleParts_substituted :
    render [("x", "\x7b\x7b\x7dy\x7d\x7d"), ("\x7dy", "1"), ("x", "2")] (textOf sampleParts) =
        .ok "if \x7bx\x7d \x7b\x7b\x7dy\x7d\x7d\x7b\x7b\x7d\x7d1\x7b\x7b\x7bz\x7d" ∧
      render [("x", "1")] (textOf sampleParts) = .error (.missingValue "\x7dy") := by
  obtain ⟨hfilled, -⟩ := (render_substitutes_once
    [("x", "\x7b\x7b\x7dy\x7d\x7d"), ("\x7dy", "1"), ("x", "2")]).1 _ sampleParts_isParted
  obtain ⟨-, hmissing⟩ := (render_substitutes_once [("x", "1")]).1 _ sampleParts_isParted
  constructor
  · exact hfilled (by simp [sampleParts])
  · refine hmissing (sampleParts.take 3) "\x7dy" (sampleParts.drop 4) rfl ?_ (by decide)
    simp [sampleParts]

end Companion.Template
