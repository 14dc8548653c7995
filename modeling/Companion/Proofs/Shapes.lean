import Companion.Proofs.Denotation
import Companion.Proofs.ShapeTable
import Mathlib.Data.List.Infix

/-!
# Shapes and types

The shape of a table entry is to be the text of a type. It is checked character by character once
the words of bounds are taken out with the space around them, so the check knows nothing of the
grammar: it accepts texts that denote no type at all. An accepted text that denotes a type is the
type's own text unless two spaces stand next to each other in it, which can only be where a second
word is taken out together with a space that the first one has left.
-/

namespace Companion

namespace Text

/-- The second text is the first one with a replacement for some occurrences of a pattern. -/
inductive Replaced (pattern replacement : Text) : Text → Text → Prop where
  | nil : Replaced pattern replacement [] []
  | hit {s u : Text} (h : Replaced pattern replacement s u) :
      Replaced pattern replacement (pattern ++ s) (replacement ++ u)
  | miss {s u : Text} (c : Char) (h : Replaced pattern replacement s u) :
      Replaced pattern replacement (c :: s) (c :: u)

variable {pattern replacement : Text}

lemma replaceAfter_append (t s : Text) :
    replaceAfter pattern replacement t.length (t ++ s) = replaceAfter pattern replacement 0 s := by
  induction t with
  | nil => rfl
  | cons c cs ih => exact ih

lemma replaced_replaceAll (hne : pattern ≠ []) (s : Text) :
    Replaced pattern replacement s (s.replaceAll pattern replacement) := by
  induction hk : s.length using Nat.strongRecOn generalizing s with
  | ind k ih =>
    cases s with
    | nil => exact .nil
    | cons c cs =>
      rw [replaceAll, replaceAfter]
      by_cases hprefix : pattern.isPrefixOf (c :: cs) = true
      · rw [if_pos hprefix]
        obtain ⟨rest, hrest⟩ := List.isPrefixOf_iff_prefix.mp hprefix
        obtain ⟨d, ds, rfl⟩ := List.exists_cons_of_ne_nil hne
        obtain ⟨rfl, hcs⟩ := List.cons.inj hrest
        obtain rfl : ds ++ rest = cs := hcs
        have hlt : rest.length < k := by
          rw [← hk, List.length_cons, List.length_append]
          omega
        rw [List.length_cons, Nat.add_sub_cancel, replaceAfter_append]
        exact .hit (ih _ hlt rest rfl)
      · rw [if_neg hprefix]
        exact .miss c (ih _ (by rw [← hk]; exact Nat.lt_succ_self _) cs rfl)

namespace Replaced

/-- A text begins with the pattern or with its own first character. -/
lemma of_cons {c : Char} {s u : Text} (h : Replaced pattern replacement (c :: s) u) :
    (∃ s' u', c :: s = pattern ++ s' ∧ u = replacement ++ u' ∧
      Replaced pattern replacement s' u') ∨
    ∃ u', u = c :: u' ∧ Replaced pattern replacement s u' := by
  generalize hs : c :: s = t at h
  cases h with
  | nil => cases hs
  | hit h => exact Or.inl ⟨_, _, rfl, rfl, h⟩
  | miss d h =>
    obtain ⟨rfl, rfl⟩ := List.cons.inj hs
    exact Or.inr ⟨_, rfl, h⟩

/-- What stands after a replacement of one character and has none of it was there before. -/
lemma exists_append {c : Char} {w s u : Text} (hw : c ∉ w)
    (h : Replaced pattern [c] s (w ++ u)) : ∃ s', s = w ++ s' ∧ Replaced pattern [c] s' u := by
  induction w generalizing s with
  | nil => exact ⟨s, rfl, h⟩
  | cons d w ih =>
    rw [List.mem_cons, not_or] at hw
    generalize ht : d :: w ++ u = t at h
    cases h with
    | nil => cases ht
    | hit h => exact absurd (List.cons.inj ht).1.symm hw.1
    | miss e h =>
      obtain ⟨rfl, rfl⟩ := List.cons.inj ht
      obtain ⟨s', rfl, h'⟩ := ih hw.2 h
      exact ⟨s', rfl, h'⟩

end Replaced

/-- White space may stand before and after what is left without it. -/
lemma exists_trim (t : Text) : ∃ before after : Text, (∀ c ∈ before, isBlank c = true) ∧
    (∀ c ∈ after, isBlank c = true) ∧ t = before ++ (t.trim ++ after) := by
  refine ⟨t.takeWhile isBlank, ((t.dropWhile isBlank).reverse.takeWhile isBlank).reverse,
    fun c hc => List.mem_takeWhile_imp hc,
    fun c hc => List.mem_takeWhile_imp (List.mem_reverse.mp hc), ?_⟩
  rw [trim, ← List.reverse_append, List.takeWhile_append_dropWhile, List.reverse_reverse,
    List.takeWhile_append_dropWhile]

end Text

namespace TypeExpr

open Text

/-- A text with a space on both sides of words that open bounds, and no other white space. -/
inductive IsTight : Text → Prop where
  | nil : IsTight []
  | upper {s : Text} (h : IsTight s) : IsTight ("? extends ".toList ++ s)
  | lower {s : Text} (h : IsTight s) : IsTight ("? super ".toList ++ s)
  | cons {c : Char} {s : Text} (hc : isBlank c = false) (h : IsTight s) : IsTight (c :: s)

/-- Whether two spaces stand next to each other in a text. -/
def HasWideGap (s : Text) : Prop :=
  [' ', ' '] <:+: s

instance (s : Text) : Decidable (HasWideGap s) :=
  inferInstanceAs (Decidable ([' ', ' '] <:+: s))

lemma HasWideGap.append {s : Text} (h : HasWideGap s) (t : Text) : HasWideGap (t ++ s) :=
  h.trans (List.suffix_append t s).isInfix

/-- Where the words are taken out one after the other and no white space is left, the text was
tight or had a wide gap. -/
lemma isTight_of_replaced {s u v : Text} (hgap : ¬HasWideGap s)
    (h : Replaced "? extends " ['?'] s u) (h' : Replaced "? super " ['?'] u v)
    (hv : ∀ c ∈ v, isBlank c = false) : IsTight s := by
  induction hk : s.length using Nat.strongRecOn generalizing s u v with
  | ind k ih =>
    cases h with
    | nil => exact .nil
    | @hit s u h =>
      have hlt : s.length < k := by
        rw [← hk, List.length_append]
        exact Nat.lt_add_of_pos_left (by decide)
      rcases h'.of_cons with ⟨u', v', hu, rfl, hrest⟩ | ⟨v', rfl, hrest⟩
      · -- The space that the second word needs before it comes after that of the first one.
        obtain rfl : u = " super ".toList ++ u' := (List.cons.inj hu).2
        obtain ⟨s', rfl, -⟩ := h.exists_append (by decide)
        exact absurd ⟨"? extends".toList, "super ".toList ++ s', by simp⟩ hgap
      · exact .upper (ih _ hlt (fun hs => hgap (hs.append _)) h hrest
          (fun c hc => hv c (List.mem_cons_of_mem _ hc)) rfl)
    | @miss s u c h =>
      rcases h'.of_cons with ⟨u', v', hu, rfl, hrest⟩ | ⟨v', rfl, hrest⟩
      · have hword : c :: u = '?' :: (" super ".toList ++ u') := hu
        obtain ⟨rfl, rfl⟩ := List.cons.inj hword
        obtain ⟨s', rfl, hbefore⟩ := h.exists_append (by decide)
        have hlt : s'.length < k := by
          rw [← hk, List.length_cons, List.length_append]
          omega
        exact .lower (ih _ hlt (fun hs => hgap (hs.append ("? super ".toList))) hbefore hrest
          (fun c hc => hv c (List.mem_cons_of_mem _ hc)) rfl)
      · have hlt : s.length < k := by
          rw [← hk]
          exact Nat.lt_succ_self _
        exact .cons (hv c List.mem_cons_self) (ih _ hlt (fun hs => hgap (hs.append [c])) h hrest
          (fun c hc => hv c (List.mem_cons_of_mem _ hc)) rfl)

namespace IsTight

lemma head? {s : Text} (h : IsTight s) : ∀ c ∈ s.head?, isBlank c = false := by
  intro c hc
  cases h with
  | nil => cases hc
  | upper h =>
    obtain rfl : '?' = c := Option.some.inj hc
    decide
  | lower h =>
    obtain rfl : '?' = c := Option.some.inj hc
    decide
  | cons hblank h =>
    obtain rfl := Option.some.inj hc
    exact hblank

lemma not_hasWideGap {s : Text} (h : IsTight s) : ¬HasWideGap s := by
  induction h with
  | nil => simp [HasWideGap]
  | @upper s h ih =>
    have hhead : ¬[' '] <+: s := by
      rintro ⟨rest, rfl⟩
      exact absurd (h.head? ' ' rfl) (by decide)
    simpa [HasWideGap, List.infix_cons_iff, hhead] using ih
  | @lower s h ih =>
    have hhead : ¬[' '] <+: s := by
      rintro ⟨rest, rfl⟩
      exact absurd (h.head? ' ' rfl) (by decide)
    simpa [HasWideGap, List.infix_cons_iff, hhead] using ih
  | @cons c s hc h ih =>
    have hne : ' ' ≠ c := by
      rintro rfl
      exact absurd hc (by decide)
    simpa [HasWideGap, List.infix_cons_iff, hne] using ih

end IsTight

/-- Putting space around the words of bounds where there is none at all leaves a tight text. -/
lemma isTight_respaceAfter {skip : Nat} {s : Text} (h : ∀ c ∈ s, isBlank c = false) :
    IsTight (respaceAfter skip s) := by
  fun_induction respaceAfter skip s with
  | case1 => exact .nil
  | case2 skip c s ih => exact ih fun d hd => h d (List.mem_cons_of_mem c hd)
  | case3 c s hupper ih => exact .upper (ih fun d hd => h d (List.mem_cons_of_mem c hd))
  | case4 c s hupper hlower ih => exact .lower (ih fun d hd => h d (List.mem_cons_of_mem c hd))
  | case5 c s hupper hlower ih =>
    exact .cons (h c List.mem_cons_self) (ih fun d hd => h d (List.mem_cons_of_mem c hd))

/-- Whether every `?` is parted from a word that opens a bound. -/
def IsParted : Text → Prop
  | [] => True
  | c :: s => (c = '?' → OpensNoBound s) ∧ IsParted s

lemma isParted_append_iff {w : Text} (hw : '?' ∉ w) (s : Text) :
    IsParted (w ++ s) ↔ IsParted s := by
  induction w with
  | nil => exact Iff.rfl
  | cons c w ih =>
    rw [List.mem_cons, not_or] at hw
    rw [List.cons_append, IsParted, ih hw.2, and_iff_right fun hc => absurd hc.symm hw.1]

lemma IsParted.of_append {w s : Text} (h : IsParted (w ++ s)) : IsParted s := by
  induction w with
  | nil => exact h
  | cons c w ih => exact ih h.2

lemma IsSpacing.question_notMem {w : Text} (hw : IsSpacing w) : '?' ∉ w :=
  fun hmem => absurd (hw '?' hmem) (by decide)

lemma isParted_spacing_iff {w : Text} (hw : IsSpacing w) (s : Text) :
    IsParted (w ++ s) ↔ IsParted s :=
  isParted_append_iff hw.question_notMem s

lemma isParted_name_iff {name : Text} (h : IsName name) (s : Text) :
    IsParted (name ++ s) ↔ IsParted s :=
  isParted_append_iff h.question_notMem s

lemma isParted_cons_iff {c : Char} (hc : c ≠ '?') (s : Text) : IsParted (c :: s) ↔ IsParted s :=
  and_iff_right fun heq => absurd heq hc

lemma opensNoBound_of_isSpace {c : Char} (hc : isSpace c = true) (s : Text) :
    OpensNoBound (c :: s) := by
  intro d hd
  obtain rfl : c = d := Option.some.inj hd
  constructor
  · rintro rfl
    cases hc
  · rintro rfl
    cases hc

lemma opensNoBound_spacing {w : Text} (hw : IsSpacing w) {s : Text} (hs : OpensNoBound s) :
    OpensNoBound (w ++ s) := by
  cases w with
  | nil => exact hs
  | cons c w => exact opensNoBound_of_isSpace hw.head _

lemma opensNoBound_gap {w : Text} (hw : IsGap w) (s : Text) : OpensNoBound (w ++ s) := by
  obtain ⟨c, w, rfl⟩ := List.exists_cons_of_ne_nil hw.1
  exact opensNoBound_of_isSpace hw.2.head _

lemma opensNoBound_cons {c : Char} (hc : c ≠ 'e' ∧ c ≠ 's') (s : Text) : OpensNoBound (c :: s) := by
  intro d hd
  obtain rfl : c = d := Option.some.inj hd
  exact hc

lemma IsBrackets.isParted_append {n : Nat} {b r : Text} (h : IsBrackets n b) (ho : OpensNoBound r)
    (hr : IsParted r) : OpensNoBound (b ++ r) ∧ IsParted (b ++ r) := by
  induction h with
  | none => exact ⟨ho, hr⟩
  | pair hw hs ih =>
    rw [List.append_assoc, isParted_spacing_iff hw, List.cons_append, List.cons_append,
      isParted_cons_iff (by decide), isParted_cons_iff (by decide)]
    exact ⟨opensNoBound_spacing hw (opensNoBound_cons (by decide) _), ih.2⟩

lemma isParted_bound {w w' word s : Text} (hw : IsGap w) (hw' : IsGap w') (hword : '?' ∉ word)
    (hs : IsParted s) : IsParted ('?' :: (w ++ (word ++ (w' ++ s)))) := by
  refine ⟨fun _ => opensNoBound_gap hw _, ?_⟩
  rwa [isParted_spacing_iff hw.2, isParted_append_iff hword, isParted_spacing_iff hw'.2]

lemma IsMore.opensNoBound_append {ts : List TypeExpr} {s : Text} (h : IsMore ts s) (r : Text) :
    OpensNoBound (s ++ r) := by
  cases h with
  | close hw =>
    rw [List.append_assoc]
    exact opensNoBound_spacing hw (opensNoBound_cons (by decide) _)
  | comma hw hw' hs hs' =>
    rw [List.append_assoc]
    exact opensNoBound_spacing hw (opensNoBound_cons (by decide) _)

mutual

/-- What is written as a type has its wildcards parted from the words of bounds. -/
theorem isParted_of_isWritten {t : TypeExpr} {s : Text} (h : IsWritten t s) {r : Text}
    (ho : OpensNoBound r) (hr : IsParted r) : IsParted (s ++ r) := by
  cases h with
  | upperBounded hw hw' hs =>
    have hword : '?' ∉ "extends".toList := by decide
    have hbound := isParted_bound hw hw' hword (isParted_of_isWritten hs ho hr)
    simpa only [List.cons_append, List.append_assoc] using hbound
  | lowerBounded hw hw' hs =>
    have hword : '?' ∉ "super".toList := by decide
    have hbound := isParted_bound hw hw' hword (isParted_of_isWritten hs ho hr)
    simpa only [List.cons_append, List.append_assoc] using hbound
  | arrayOf hs hb =>
    obtain ⟨hob, hrb⟩ := hb.isParted_append ho hr
    rw [List.append_assoc]
    exact isParted_of_isBase hs hob hrb
  termination_by 2 * s.length + 1
  decreasing_by all_goals (simp only [List.length_cons, List.length_append]; omega)

theorem isParted_of_isBase {t : TypeExpr} {s : Text} (h : IsBase t s) {r : Text}
    (ho : OpensNoBound r) (hr : IsParted r) : IsParted (s ++ r) := by
  cases h with
  | wildcard => exact ⟨fun _ => ho, hr⟩
  | primitive p => exact (isParted_name_iff (all_isValid_keyword p) r).mpr hr
  | plain hname hword => exact (isParted_name_iff hname r).mpr hr
  | generic hname hw hw' harg hargs =>
    have hmore := isParted_of_isMore hargs hr
    have hread := isParted_of_isWritten harg (hargs.opensNoBound_append r) hmore
    rw [List.append_assoc, isParted_name_iff hname, List.append_assoc, isParted_spacing_iff hw,
      List.cons_append, isParted_cons_iff (by decide), List.append_assoc,
      isParted_spacing_iff hw', List.append_assoc]
    exact hread
  termination_by 2 * s.length
  decreasing_by all_goals (simp only [List.length_cons, List.length_append]; omega)

theorem isParted_of_isMore {ts : List TypeExpr} {s : Text} (h : IsMore ts s) {r : Text}
    (hr : IsParted r) : IsParted (s ++ r) := by
  cases h with
  | close hw =>
    rw [List.append_assoc, isParted_spacing_iff hw, List.singleton_append,
      isParted_cons_iff (by decide)]
    exact hr
  | comma hw hw' harg hargs =>
    have hmore := isParted_of_isMore hargs hr
    have hread := isParted_of_isWritten harg (hargs.opensNoBound_append r) hmore
    rw [List.append_assoc, isParted_spacing_iff hw, List.cons_append,
      isParted_cons_iff (by decide), List.append_assoc, isParted_spacing_iff hw',
      List.append_assoc]
    exact hread
  termination_by 2 * s.length
  decreasing_by all_goals (simp only [List.length_cons, List.length_append]; omega)

end

lemma isParted_of_parse {text : Text} {t : TypeExpr} (h : parse text = .ok t) :
    IsParted text := by
  obtain ⟨before, after, hbefore, hafter, htrim⟩ := exists_trim text
  have hquestion : ∀ {w : Text}, (∀ c ∈ w, isBlank c = true) → '?' ∉ w := fun hw hmem =>
    absurd (hw '?' hmem) (by decide)
  have ho : OpensNoBound after := by
    intro c hc
    have hblank := hafter c (List.mem_of_head? hc)
    constructor
    · rintro rfl
      exact absurd hblank (by decide)
    · rintro rfl
      exact absurd hblank (by decide)
  have hr : IsParted after := by
    have hnil := (isParted_append_iff (hquestion hafter) []).mpr trivial
    rwa [List.append_nil] at hnil
  rw [htrim, isParted_append_iff (hquestion hbefore)]
  exact isParted_of_isWritten (parse_eq_ok_iff.mp h) ho hr

lemma head?_withoutBlanks {s : Text} (h : ∀ c ∈ s.head?, isBlank c = false) :
    (withoutBlanks s).head? = s.head? := by
  cases s with
  | nil => rfl
  | cons c s => rw [withoutBlanks_cons (h c rfl), List.head?_cons, List.head?_cons]

/-- A tight text gets its white space back, where no wildcard stands right before a word that opens
a bound. -/
lemma IsTight.respace_withoutBlanks {s : Text} (h : IsTight s) (hp : IsParted s) :
    respace (withoutBlanks s) = s := by
  induction h with
  | nil => rfl
  | @upper s h ih =>
    have hword : withoutBlanks "? extends ".toList = "?extends".toList := by decide
    rw [withoutBlanks_append, hword, respace_upper, ih hp.of_append]
  | @lower s h ih =>
    have hword : withoutBlanks "? super ".toList = "?super".toList := by decide
    rw [withoutBlanks_append, hword, respace_lower, ih hp.of_append]
  | @cons c s hc h ih =>
    rw [withoutBlanks_cons hc]
    by_cases hq : c = '?'
    · subst hq
      have hopens : OpensNoBound (withoutBlanks s) := by
        rw [OpensNoBound, head?_withoutBlanks h.head?]
        exact hp.1 rfl
      rw [respace_question hopens, ih hp.2]
    · rw [respace_cons hq, ih hp.2]

end TypeExpr

namespace ShapeTable

open TypeExpr

/-- What is left of an accepted shape has no white space. -/
lemma isBlank_of_scan {depth : Nat} {previous : Char} {s : Text}
    (h : scan depth previous s = none) : ∀ c ∈ s, Text.isBlank c = false := by
  induction s generalizing depth previous with
  | nil => exact fun c hc => absurd hc List.not_mem_nil
  | cons c s ih =>
    rw [scan] at h
    split at h
    · cases h
    split at h
    · cases h
    split at h
    · cases h
    next hblank =>
    split at h
    · cases h
    split at h
    · cases h
    exact List.forall_mem_cons.mpr ⟨by simpa using hblank, ih h⟩

/-- An accepted shape is tight or has a wide gap. -/
lemma isTight_of_shapeFault?_eq_none {shape : Text} (h : shapeFault? shape = none)
    (hgap : ¬HasWideGap shape) : IsTight shape := by
  rw [shapeFault?] at h
  split at h
  · cases h
  · exact isTight_of_replaced hgap (Text.replaced_replaceAll (by decide) _)
      (Text.replaced_replaceAll (by decide) _) (isBlank_of_scan h)

/-- An accepted shape is the text of a type exactly if it denotes one and has no wide gap. -/
lemma exists_print_eq_iff {shape : Text} (h : shapeFault? shape = none) :
    (∃ t, parse shape = .ok t ∧ t.print = shape) ↔
      (∃ t, parse shape = .ok t) ∧ ¬HasWideGap shape := by
  constructor
  · rintro ⟨t, ht, hprint⟩
    refine ⟨⟨t, ht⟩, ?_⟩
    have htight : IsTight (respace (Text.withoutBlanks shape)) := by
      refine isTight_respaceAfter fun c hc => ?_
      simpa using (List.mem_filter.mp hc).2
    rw [respace_withoutBlanks ht, hprint] at htight
    exact htight.not_hasWideGap
  · rintro ⟨⟨t, ht⟩, hgap⟩
    have htight := isTight_of_shapeFault?_eq_none h hgap
    refine ⟨t, ht, ?_⟩
    rw [← respace_withoutBlanks ht, htight.respace_withoutBlanks (isParted_of_parse ht)]

/-- An enumeration with a table has no rejected variant. -/
lemma isTableOf_of_derive {vs : List VariantDecl} {table : ShapeTable}
    (names : (vs.map (·.name)).Nodup) (h : derive (.enum vs) = .ok table) :
    table.IsTableOf vs ∧ ∀ i, ¬IsRejected vs i := by
  have tracks := foldl_tracks vs
  rw [derive] at h
  split at h
  next hnil =>
    obtain rfl := Except.ok.inj h
    obtain ⟨rejected, -, hmem, hexplains⟩ := tracks.faults
    rw [hnil] at hexplains
    obtain rfl := List.forall₂_nil_right_iff.mp hexplains
    have accepted : ∀ i, ¬IsRejected vs i := fun i hi =>
      absurd ((hmem i).mpr ⟨lt_length_of_isRejected hi, hi⟩) List.not_mem_nil
    have htable := tracks.table hnil
    rw [List.take_length] at htable
    rw [htable]
    exact ⟨isTableOf names accepted, accepted⟩
  next => cases h

/-- The shapes of a table are accepted. -/
lemma shapeFault?_eq_none_of_mem {vs : List VariantDecl} {table : ShapeTable}
    (names : (vs.map (·.name)).Nodup) (h : derive (.enum vs) = .ok table) {shape variant : Text}
    (hmem : (shape, variant) ∈ table.entries) : shapeFault? shape = none := by
  obtain ⟨isTable, accepted⟩ := isTableOf_of_derive names h
  rw [isTable.entries, List.mem_filterMap] at hmem
  obtain ⟨v, hv, hentry⟩ := hmem
  obtain ⟨own, hown, heq⟩ := Option.map_eq_some_iff.mp hentry
  obtain ⟨rfl, -⟩ := Prod.mk.inj heq
  obtain ⟨i, hi⟩ := List.mem_iff_getElem?.mp hv
  by_contra hfault
  refine accepted i ?_
  rw [IsRejected]
  exact ⟨v, hi, Or.inr (Or.inr ⟨own, hown, Or.inl hfault⟩)⟩

/-- An accepted shape is the text of a type exactly if it denotes a type and has no two spaces next
to each other, and just the entries with such a shape are found for a type that a text denotes. -/
theorem reachable_iff (shape : Text) :
    (shapeFault? shape = none →
      ((∃ t, parse shape = .ok t ∧ t.print = shape) ↔
        (∃ t, parse shape = .ok t) ∧ ¬HasWideGap shape)) ∧
    ∀ vs table, (vs.map (·.name)).Nodup → derive (.enum vs) = .ok table →
      ∀ variant, (shape, variant) ∈ table.entries →
        ((∃ text t, parse text = .ok t ∧ table.variantOf? t.print = some variant) ↔
          (∃ t, parse shape = .ok t) ∧ ¬HasWideGap shape) := by
  refine ⟨exists_print_eq_iff, ?_⟩
  intro vs table names h variant hmem
  obtain ⟨isTable, -⟩ := isTableOf_of_derive names h
  rw [← exists_print_eq_iff (shapeFault?_eq_none_of_mem names h hmem)]
  constructor
  · rintro ⟨text, t, ht, hfound⟩
    -- A variant has one shape, so the text of the type that finds it is this one.
    have hprint := (isTable.shapeOf _ _).mpr ((isTable.variantOf _ _).mp hfound)
    rw [(isTable.shapeOf _ _).mpr hmem] at hprint
    obtain rfl : shape = t.print := Option.some.inj hprint
    exact ⟨t, parse_print t (isCanonical_of_parse ht), rfl⟩
  · rintro ⟨t, ht, hprint⟩
    exact ⟨shape, t, ht, hprint ▸ (isTable.variantOf _ _).mpr hmem⟩

/-- A class with no type between the brackets of its arguments. -/
def bareShape : Text :=
  "java.util.List<>"

/-- A bound whose type is called `super`, after two spaces. -/
def wideShape : Text :=
  "? extends  super <b>"

/-- A variant with the shape of a type, and two that are for no type. -/
def strayVariants : List VariantDecl :=
  [⟨"Int", [shapeAttribute "int"], true⟩, ⟨"Bare", [shapeAttribute bareShape], true⟩,
    ⟨"Wide", [shapeAttribute wideShape], true⟩]

def strayTable : ShapeTable where
  entries := [("int", "Int"), (bareShape, "Bare"), (wideShape, "Wide")]
  cases := [("int", "Int"), (bareShape, "Bare"), (wideShape, "Wide")]
  shapes := [("Int", some "int"), ("Bare", some bareShape), ("Wide", some wideShape)]
  operations := [("Int", "Int"), ("Bare", "Bare"), ("Wide", "Wide")]

theorem strayTable_reachable :
    derive (.enum strayVariants) = .ok strayTable ∧
      (∃ text t, parse text = .ok t ∧ strayTable.variantOf? t.print = some ("Int" : Text)) ∧
      (¬∃ text t, parse text = .ok t ∧ strayTable.variantOf? t.print = some ("Bare" : Text)) ∧
      (¬∃ text t, parse text = .ok t ∧ strayTable.variantOf? t.print = some ("Wide" : Text)) ∧
      (∃ t, parse wideShape = .ok t) ∧ ¬∃ t, parse wideShape = .ok t ∧ t.print = wideShape := by
  have derived : derive (.enum strayVariants) = .ok strayTable := by decide +kernel
  have distinct : (strayVariants.map (·.name)).Nodup := by decide +kernel
  have reachable (shape : Text) := (reachable_iff shape).2 strayVariants strayTable distinct derived
  have hint : parse "int" = .ok (.primitive .int) := by decide +kernel
  have hbare : parse bareShape = .error (.unexpectedText bareShape "<>") := by decide +kernel
  have hwide : parse wideShape = .ok (.upperBounded (.declared "super" [.declared "b" []])) := by
    decide +kernel
  refine ⟨derived, (reachable "int" "Int" (by decide +kernel)).mpr ⟨⟨_, hint⟩, by decide⟩, ?_, ?_,
    ⟨_, hwide⟩, ?_⟩
  · rw [reachable bareShape "Bare" (by decide +kernel), hbare]
    rintro ⟨⟨t, ht⟩, -⟩
    cases ht
  · rw [reachable wideShape "Wide" (by decide +kernel)]
    exact fun hwide => hwide.2 (by decide)
  · rw [(reachable_iff wideShape).1 (by decide +kernel)]
    exact fun hwide => hwide.2 (by decide)

/-- An accepted shape need not denote a type. -/
theorem accepted_not_printed :
    ¬∀ shape, shapeFault? shape = none → ∃ t, parse shape = .ok t ∧ t.print = shape := by
  intro printed
  obtain ⟨t, ht, -⟩ := printed bareShape (by decide +kernel)
  have hbare : parse bareShape = .error (.unexpectedText bareShape "<>") := by decide +kernel
  rw [hbare] at ht
  cases ht

end ShapeTable

end Companion
