import Companion.Proofs.TypeGrammar

/-!
# The longest type

Reading takes the longest type at the start of a text. What is written as a type is read as that
type where it ends, and whatever follows it, no less than it is read. So a text denotes a type
exactly when it is written as one, and what is left of any other text is what follows the longest
type at its start.
-/

namespace Companion.TypeExpr

open Identifier

lemma skipSpace_append {w : Text} (hw : IsSpacing w) (s : Text) :
    skipSpace (w ++ s) = skipSpace s := by
  induction w with
  | nil => rfl
  | cons c w ih =>
    rw [List.cons_append, skipSpace, List.dropWhile_cons, if_pos hw.head]
    exact ih hw.tail

lemma isPart_of_isSpace {c : Char} (h : isSpace c = true) : c ≠ '.' ∧ isPart c = false := by
  simp only [isSpace, Bool.or_eq_true, decide_eq_true_eq] at h
  rcases h with ((rfl | rfl) | rfl) | rfl <;> decide

/-- After space, and then a character that no name has, no name goes on. -/
lemma stopsName_of_spacing {w : Text} (hw : IsSpacing w) {c : Char}
    (hc : c ≠ '.' ∧ isPart c = false) (s : Text) : StopsName (w ++ c :: s) := by
  intro d hd
  cases w with
  | nil =>
    obtain rfl : c = d := Option.some.inj hd
    exact hc
  | cons e w =>
    obtain rfl : e = d := Option.some.inj hd
    exact isPart_of_isSpace hw.head

/-- A type begins with a wildcard or with a name. -/
lemma IsBase.exists_head {t : TypeExpr} {s : Text} (h : IsBase t s) :
    ∃ c cs, s = c :: cs ∧ (c = '?' ∨ isStart c = true) := by
  cases h with
  | wildcard => exact ⟨'?', [], rfl, .inl rfl⟩
  | primitive p =>
    obtain ⟨c, cs, hs, hc, -⟩ := exists_isStart_of_all_isValid (all_isValid_keyword p)
    exact ⟨c, cs, hs, .inr hc⟩
  | plain hname hword =>
    obtain ⟨c, cs, hs, hc, -⟩ := exists_isStart_of_all_isValid hname
    exact ⟨c, cs, hs, .inr hc⟩
  | generic hname hw hw' hs hs' =>
    obtain ⟨c, cs, rfl, hc, -⟩ := exists_isStart_of_all_isValid hname
    exact ⟨c, _, rfl, .inr hc⟩

lemma IsWritten.exists_head {t : TypeExpr} {s : Text} (h : IsWritten t s) :
    ∃ c cs, s = c :: cs ∧ (c = '?' ∨ isStart c = true) := by
  cases h with
  | upperBounded hw hw' hs => exact ⟨'?', _, rfl, .inl rfl⟩
  | lowerBounded hw hw' hs => exact ⟨'?', _, rfl, .inl rfl⟩
  | arrayOf hs hs' =>
    obtain ⟨c, cs, rfl, hc⟩ := hs.exists_head
    exact ⟨c, _, rfl, hc⟩

lemma IsWritten.skipSpace {t : TypeExpr} {s : Text} (h : IsWritten t s) (rest : Text) :
    skipSpace (s ++ rest) = s ++ rest := by
  obtain ⟨c, cs, rfl, rfl | hc⟩ := h.exists_head
  · exact skipSpace_cons (by decide) _
  · have hblank := Text.isBlank_of_isPart (isPart_of_isStart hc)
    exact skipSpace_cons (isSpace_of_isBlank hblank) _

lemma IsMore.length_pos {ts : List TypeExpr} {s : Text} (h : IsMore ts s) : 0 < s.length := by
  cases h with
  | close hw => simp
  | comma hw hw' hs hs' =>
    rw [List.length_append, List.length_cons]
    omega

/-- Whether a text goes on, after space, with a bracket pair or where a type argument ends. -/
def Halts (s : Text) : Prop :=
  ∀ c ∈ (skipSpace s).head?, c = '[' ∨ c = ',' ∨ c = '>'

/-- Whether a text ends, after space, where a type argument does. -/
def Ends (s : Text) : Prop :=
  ∀ c ∈ (skipSpace s).head?, c = ',' ∨ c = '>'

lemma Ends.halts {s : Text} (h : Ends s) : Halts s :=
  fun c hc => .inr (h c hc)

lemma ends_nil : Ends [] :=
  fun _ hc => nomatch hc

lemma IsMore.ends {ts : List TypeExpr} {s : Text} (h : IsMore ts s) (rest : Text) :
    Ends (s ++ rest) := by
  intro c hc
  cases h with
  | close hw =>
    rw [List.append_assoc, skipSpace_append hw, List.cons_append, skipSpace_cons (by decide)] at hc
    exact .inr (Option.some.inj hc).symm
  | comma hw hw' hs hs' =>
    rw [List.append_assoc, skipSpace_append hw, List.cons_append, skipSpace_cons (by decide)] at hc
    exact .inl (Option.some.inj hc).symm

lemma IsBrackets.halts {n : Nat} {b : Text} (h : IsBrackets (n + 1) b) (rest : Text) :
    Halts (b ++ rest) := by
  cases h with
  | pair hw hs =>
    intro c hc
    rw [List.append_assoc, skipSpace_append hw, List.cons_append, skipSpace_cons (by decide)] at hc
    exact .inl (Option.some.inj hc).symm

lemma IsBrackets.halts_of_ends {n : Nat} {b rest : Text} (h : IsBrackets n b) (hrest : Ends rest) :
    Halts (b ++ rest) := by
  cases n with
  | zero =>
    cases h
    exact hrest.halts
  | succ n => exact h.halts rest

namespace Halts

variable {s : Text} (h : Halts s)
include h

lemma stopsName : StopsName s := by
  intro c hc
  cases s with
  | nil => cases hc
  | cons d ds =>
    obtain rfl : d = c := Option.some.inj hc
    by_cases hspace : isSpace d = true
    · exact isPart_of_isSpace hspace
    · rw [Halts, skipSpace_cons (by simpa using hspace)] at h
      rcases h d rfl with rfl | rfl | rfl <;> decide

lemma head?_ne : (skipSpace s).head? ≠ some '<' := by
  intro hs
  rcases h '<' hs with hc | hc | hc <;> cases hc

lemma readBoundWord_eq_none : readBoundWord s = none := by
  cases s with
  | nil => rfl
  | cons c cs =>
    rw [readBoundWord]
    split
    next hspace =>
      rw [Halts, skipSpace, List.dropWhile_cons, if_pos hspace] at h
      split
      next d r hskip =>
        rcases h 'e' (congrArg List.head? hskip) with hc | hc | hc <;> cases hc
      next d r hskip =>
        rcases h 's' (congrArg List.head? hskip) with hc | hc | hc <;> cases hc
      next => rfl
    next => rfl

end Halts

/-- Space before a text counts if a bracket pair follows it. -/
lemma readDimensions_space {c : Char} (hc : isSpace c = true) (s : Text) :
    readDimensions (c :: s) =
      if (readDimensions s).1 = 0 then (0, c :: s) else readDimensions s := by
  have hbracket : c ≠ '[' := by
    rintro rfl
    cases hc
  rw [readDimensions, if_pos hc]
  · rcases readDimensions s with ⟨_ | n, rest⟩
    · rfl
    · rw [if_neg (Nat.succ_ne_zero n)]
      rfl
  · intro cs heq
    exact absurd heq hbracket

/-- Bracket pairs are counted before whatever follows them. -/
lemma readDimensions_append {n : Nat} {b : Text} (h : IsBrackets n b) (rest : Text) :
    readDimensions (b ++ rest) = (n + (readDimensions rest).1, (readDimensions rest).2) := by
  induction h with
  | none => simp
  | @pair n w s hw hs ih =>
    rw [List.append_assoc]
    induction w with
    | nil =>
      rw [List.nil_append, List.cons_append, List.cons_append, readDimensions, ih]
      exact Prod.ext (by simp only; omega) rfl
    | cons c w ihw =>
      have hpair := ihw hw.tail
      rw [List.cons_append, readDimensions_space hw.head, hpair]
      exact if_neg (by simp only; omega)

/-- Where a type argument ends there are no bracket pairs. -/
lemma Ends.readDimensions {rest : Text} (h : Ends rest) : readDimensions rest = (0, rest) := by
  induction rest with
  | nil => rfl
  | cons c cs ih =>
    by_cases hspace : isSpace c = true
    · have hcs : Ends cs := by
        rwa [Ends, TypeExpr.skipSpace, List.dropWhile_cons, if_pos hspace] at h
      rw [readDimensions_space hspace, ih hcs, if_pos rfl]
    · rw [Ends, skipSpace_cons (by simpa using hspace)] at h
      rcases h c rfl with rfl | rfl <;> rfl

/-- A wildcard or a name without arguments is read with the bracket pairs after it. -/
lemma readType_ofName {name : Text} (hname : IsName name) {r : Text} (hr : Halts r) (fuel : Nat) :
    readType (fuel + 1) (name ++ r) = some (withDimensions (ofName name) r) :=
  readType_of_noArgs (readName_append hname hr.stopsName) hr.head?_ne fuel

lemma ofName_of_plain {name : Text} (h : ∀ p : Primitive, p.keyword ≠ name) :
    ofName name = .declared ⟨name⟩ [] := by
  rw [ofName]
  cases hp : Primitive.ofKeyword? name with
  | none => rfl
  | some p => exact absurd (Primitive.keyword_of_ofKeyword? hp) (h p)

/-- The space before the word that opens a bound may be any. -/
lemma readBoundWord_append {w : Text} (hw : IsGap w) (s : Text) :
    readBoundWord (w ++ s) = readBoundWord (' ' :: s) := by
  obtain ⟨hne, hspacing⟩ := hw
  cases w with
  | nil => exact absurd rfl hne
  | cons d w =>
    have hskip : skipSpace (w ++ s) = skipSpace s := skipSpace_append hspacing.tail s
    rw [List.cons_append, readBoundWord, if_pos hspacing.head, hskip, readBoundWord,
      if_pos (by decide)]

lemma readBoundWord_upper {w w' s : Text} (hw : IsGap w) (hw' : IsGap w')
    (hs : skipSpace s = s) :
    readBoundWord (w ++ ("extends".toList ++ (w' ++ s))) = some (.upperBounded, s) := by
  obtain ⟨hne, hspacing⟩ := hw'
  cases w' with
  | nil => exact absurd rfl hne
  | cons d w' =>
    have hrest : skipSpace (w' ++ s) = s := by rw [skipSpace_append hspacing.tail, hs]
    rw [readBoundWord_append hw, readBoundWord, if_pos (by decide)]
    change (if isSpace d = true then some (upperBounded, skipSpace (w' ++ s)) else none) = _
    rw [if_pos hspacing.head, hrest]

lemma readBoundWord_lower {w w' s : Text} (hw : IsGap w) (hw' : IsGap w')
    (hs : skipSpace s = s) :
    readBoundWord (w ++ ("super".toList ++ (w' ++ s))) = some (.lowerBounded, s) := by
  obtain ⟨hne, hspacing⟩ := hw'
  cases w' with
  | nil => exact absurd rfl hne
  | cons d w' =>
    have hrest : skipSpace (w' ++ s) = s := by rw [skipSpace_append hspacing.tail, hs]
    rw [readBoundWord_append hw, readBoundWord, if_pos (by decide)]
    change (if isSpace d = true then some (lowerBounded, skipSpace (w' ++ s)) else none) = _
    rw [if_pos hspacing.head, hrest]

lemma withDimensions_append (t : TypeExpr) {n : Nat} {b rest : Text} (hb : IsBrackets n b)
    (hrest : Ends rest) : withDimensions t (b ++ rest) = (arrayOf t n, rest) := by
  rw [withDimensions, readDimensions_append hb, hrest.readDimensions]
  rfl

lemma withDimensions_of_ends (t : TypeExpr) {rest : Text} (hrest : Ends rest) :
    withDimensions t rest = (t, rest) :=
  withDimensions_append t .none hrest

/-- A name with arguments is read with them. -/
lemma readType_generic {name w w' s u rest : Text} {arg : TypeExpr} {args : List TypeExpr}
    {fuel : Nat} (hname : IsName name) (hw : IsSpacing w) (hw' : IsSpacing w')
    (hs : IsWritten arg s) (harg : readType fuel (s ++ u) = some (arg, u))
    (hargs : readMore fuel u = some (args, rest)) :
    readType (fuel + 1) (name ++ (w ++ '<' :: (w' ++ (s ++ u)))) =
      some (withDimensions (.declared ⟨name⟩ (arg :: args)) rest) := by
  have hread := readName_append hname
    (stopsName_of_spacing hw (c := '<') (by decide) (w' ++ (s ++ u)))
  have hopen : skipSpace (w ++ '<' :: (w' ++ (s ++ u))) = '<' :: (w' ++ (s ++ u)) := by
    rw [skipSpace_append hw, skipSpace_cons (by decide)]
  have hskip : skipSpace (w' ++ (s ++ u)) = s ++ u := by
    rw [skipSpace_append hw', hs.skipSpace]
  exact readType_of_args hread hopen (by rw [hskip, harg]) hargs

mutual

/-- What is written as a type is read as that type where it ends. -/
theorem readType_of_isWritten (fuel : Nat) {t : TypeExpr} {s rest : Text} (h : IsWritten t s)
    (hfuel : s.length < fuel) (hrest : Ends rest) :
    readType fuel (s ++ rest) = some (t, rest) := by
  cases fuel with
  | zero => omega
  | succ fuel =>
    cases h with
    | upperBounded hw hw' hs =>
      simp only [List.length_cons, List.length_append] at hfuel
      have hbound := readType_of_isWritten fuel hs (by omega) hrest
      have hword := readBoundWord_upper hw hw' (hs.skipSpace rest)
      simp only [List.cons_append, List.append_assoc]
      rw [readType_of_bound hword hbound, withDimensions_of_ends _ hrest]
    | lowerBounded hw hw' hs =>
      simp only [List.length_cons, List.length_append] at hfuel
      have hbound := readType_of_isWritten fuel hs (by omega) hrest
      have hword := readBoundWord_lower hw hw' (hs.skipSpace rest)
      simp only [List.cons_append, List.append_assoc]
      rw [readType_of_bound hword hbound, withDimensions_of_ends _ hrest]
    | @arrayOf base n s b hs hs' =>
      have hhalts := hs'.halts_of_ends hrest
      rw [List.append_assoc, ← withDimensions_append _ hs' hrest]
      cases hs with
      | wildcard => exact readType_of_noBound hhalts.readBoundWord_eq_none fuel
      | primitive p =>
        rw [← ofName_keyword p]
        exact readType_ofName (all_isValid_keyword p) hhalts fuel
      | plain hname hword =>
        rw [← ofName_of_plain hword]
        exact readType_ofName hname hhalts fuel
      | generic hname hw hw' harg hargs =>
        simp only [List.length_cons, List.length_append] at hfuel
        have hlength := hargs.length_pos
        have hread := readType_of_isWritten fuel harg (by omega) (hargs.ends (b ++ rest))
        have hmore : readMore fuel _ = some (_, b ++ rest) :=
          readMore_of_isMore fuel hargs (by omega)
        simp only [List.cons_append, List.append_assoc]
        exact readType_generic hname hw hw' harg hread hmore

/-- What is written as further arguments is read as these. -/
theorem readMore_of_isMore (fuel : Nat) {ts : List TypeExpr} {s rest : Text} (h : IsMore ts s)
    (hfuel : s.length ≤ fuel) : readMore fuel (s ++ rest) = some (ts, rest) := by
  have hlength := h.length_pos
  cases fuel with
  | zero => omega
  | succ fuel =>
    rw [readMore]
    cases h with
    | close hw =>
      rw [List.append_assoc, skipSpace_append hw, List.cons_append, skipSpace_cons (by decide)]
      rfl
    | comma hw hw' hs hs' =>
      simp only [List.length_cons, List.length_append] at hfuel
      have hpos := hs'.length_pos
      have harg := readType_of_isWritten fuel hs (by omega) (hs'.ends rest)
      have hargs : readMore fuel _ = some (_, rest) := readMore_of_isMore fuel hs' (by omega)
      simp only [List.append_assoc, List.cons_append]
      rw [skipSpace_append hw, skipSpace_cons (by decide)]
      simp only [skipSpace_append hw', hs.skipSpace, harg, hargs]

end

/-- Whether a text begins as a type does. -/
def BeginsType (s : Text) : Prop :=
  ∃ c ∈ s.head?, c = '?' ∨ isStart c = true

lemma IsWritten.beginsType {t : TypeExpr} {s : Text} (h : IsWritten t s) (rest : Text) :
    BeginsType (s ++ rest) := by
  obtain ⟨c, cs, rfl, hc⟩ := h.exists_head
  exact ⟨c, rfl, hc⟩

/-- Where a text begins as a type does, a type is read. -/
lemma exists_readType_of_beginsType {s : Text} (h : BeginsType s) (fuel : Nat) :
    ∃ t rest, readType (fuel + 1) s = some (t, rest) := by
  obtain ⟨c, hc, h⟩ := h
  cases s with
  | nil => cases hc
  | cons d cs =>
    obtain rfl : d = c := Option.some.inj hc
    by_cases hquestion : d = '?'
    · subst hquestion
      rw [readType]
      split
      · exact ⟨_, _, rfl⟩
      · split <;> exact ⟨_, _, rfl⟩
    · have hname : readName (d :: cs) = some (d :: (readNameTail cs).1, (readNameTail cs).2) := by
        rw [readName, if_pos (h.resolve_left hquestion)]
      rw [readType, hname]
      · dsimp only
        split
        · split
          · exact ⟨_, _, rfl⟩
          · split <;> exact ⟨_, _, rfl⟩
        · exact ⟨_, _, rfl⟩
      · exact ne_question_of_readName hname

lemma length_readDimensions_le (s : Text) : (readDimensions s).2.length ≤ s.length := by
  obtain ⟨b, -, hs⟩ := exists_brackets s
  have hlength := congrArg List.length hs
  rw [List.length_append] at hlength
  omega

lemma length_le_of_withDimensions {base t : TypeExpr} {s rest : Text}
    (h : withDimensions base s = (t, rest)) : rest.length ≤ s.length := by
  obtain ⟨-, rfl⟩ := Prod.mk.inj h
  exact length_readDimensions_le s

lemma length_skipSpace_le (s : Text) : (skipSpace s).length ≤ s.length :=
  (List.dropWhile_sublist isSpace).length_le

lemma length_le_of_readType {fuel : Nat} {s rest : Text} {t : TypeExpr}
    (h : readType fuel s = some (t, rest)) : rest.length ≤ s.length := by
  obtain ⟨p, -, rfl⟩ := exists_isWritten_of_readType fuel h
  rw [List.length_append]
  omega

lemma length_le_of_readMore {fuel : Nat} {s rest : Text} {ts : List TypeExpr}
    (h : readMore fuel s = some (ts, rest)) : rest.length ≤ s.length := by
  obtain ⟨p, -, rfl⟩ := exists_isMore_of_readMore fuel h
  rw [List.length_append]
  omega

/-- A type that begins with a name leaves no more than its name does. -/
lemma length_le_of_readName {fuel : Nat} {s name r rest : Text} {t : TypeExpr}
    (hname : readName s = some (name, r)) (h : readType (fuel + 1) s = some (t, rest)) :
    rest.length ≤ r.length := by
  rcases readType_cases h with ⟨r', rfl, -⟩ | ⟨r', r'', after, bounded, bound, rfl, -⟩ |
    ⟨name', r', hname', hr⟩ |
    ⟨name', r', r'', after, arg, args, close, hname', hopen, harg, hargs, hr⟩
  · exact absurd rfl (ne_question_of_readName hname r')
  · exact absurd rfl (ne_question_of_readName hname r')
  · rw [hname] at hname'
    obtain ⟨-, rfl⟩ := Prod.mk.inj (Option.some.inj hname')
    exact length_le_of_withDimensions hr
  · rw [hname] at hname'
    obtain ⟨-, rfl⟩ := Prod.mk.inj (Option.some.inj hname')
    have hclose := length_le_of_withDimensions hr
    have hafter := length_le_of_readMore hargs
    have hargument := length_le_of_readType harg
    have hspace := length_skipSpace_le r''
    have hbracket := congrArg List.length hopen
    have hspace' := length_skipSpace_le r
    rw [List.length_cons] at hbracket
    omega

/-- What begins with a name is read no less far than the name goes with bracket pairs after it. -/
lemma length_le_of_isName {fuel n : Nat} {name b rest r : Text} {t : TypeExpr}
    (hname : IsName name) (hb : IsBrackets n b)
    (h : readType (fuel + 1) (name ++ (b ++ rest)) = some (t, r)) : r.length ≤ rest.length := by
  cases n with
  | zero =>
    -- The name itself may go on into what follows it.
    cases hb
    obtain ⟨c, cs, rfl, hc, htail⟩ := exists_isStart_of_all_isValid hname
    have hread : readName (c :: (cs ++ rest)) =
        some (c :: (cs ++ (readNameTail rest).1), (readNameTail rest).2) := by
      rw [readName, if_pos hc, readNameTail_append htail]
    have hlength := congrArg List.length (append_readNameTail rest)
    have hle := length_le_of_readName hread h
    rw [List.length_append] at hlength
    omega
  | succ n =>
    rw [readType_ofName hname (hb.halts rest), withDimensions, readDimensions_append hb] at h
    obtain ⟨-, rfl⟩ := Prod.mk.inj (Option.some.inj h)
    exact length_readDimensions_le rest

/-- What is written as a base with bracket pairs is read no less far than it goes. -/
lemma length_le_of_isBase {fuel n : Nat} {base t : TypeExpr} {s b rest r : Text}
    (hs : IsBase base s) (hb : IsBrackets n b) (hfuel : s.length ≤ fuel)
    (h : readType (fuel + 1) (s ++ (b ++ rest)) = some (t, r)) : r.length ≤ rest.length := by
  cases hs with
  | primitive p => exact length_le_of_isName (all_isValid_keyword p) hb h
  | plain hname hword => exact length_le_of_isName hname hb h
  | generic hname hw hw' harg hargs =>
    simp only [List.length_cons, List.length_append] at hfuel
    have hlength := hargs.length_pos
    have hread := readType_of_isWritten fuel harg (by omega) (hargs.ends (b ++ rest))
    have hmore : readMore fuel _ = some (_, b ++ rest) := readMore_of_isMore fuel hargs (by omega)
    simp only [List.cons_append, List.append_assoc] at h
    rw [readType_generic hname hw hw' harg hread hmore, withDimensions,
      readDimensions_append hb] at h
    obtain ⟨-, rfl⟩ := Prod.mk.inj (Option.some.inj h)
    exact length_readDimensions_le rest
  | wildcard =>
    cases n with
    | zero =>
      cases hb
      obtain ⟨p, hp, hsplit⟩ := exists_isWritten_of_readType (fuel + 1) h
      obtain ⟨c, cs, rfl, -⟩ := hp.exists_head
      have hlength := congrArg List.length hsplit
      simp only [List.length_cons, List.length_append, List.length_nil] at hlength
      omega
    | succ n =>
      have hnone := (hb.halts rest).readBoundWord_eq_none
      rw [List.singleton_append, readType_of_noBound hnone, withDimensions,
        readDimensions_append hb] at h
      obtain ⟨-, rfl⟩ := Prod.mk.inj (Option.some.inj h)
      exact length_readDimensions_le rest

/-- What is written as a type is read no less far than it goes, whatever follows it. -/
theorem length_le_of_isWritten (fuel : Nat) {t u : TypeExpr} {s rest r : Text}
    (hs : IsWritten t s) (hfuel : s.length < fuel)
    (h : readType fuel (s ++ rest) = some (u, r)) : r.length ≤ rest.length := by
  induction fuel generalizing t u s r with
  | zero => omega
  | succ fuel ih =>
    cases hs with
    | upperBounded hw hw' hs =>
      simp only [List.length_cons, List.length_append] at hfuel
      obtain ⟨k, rfl⟩ := Nat.exists_eq_succ_of_ne_zero (show fuel ≠ 0 by omega)
      obtain ⟨v, after, hbound⟩ := exists_readType_of_beginsType (hs.beginsType rest) k
      have hword := readBoundWord_upper hw hw' (hs.skipSpace rest)
      simp only [List.cons_append, List.append_assoc] at h
      rw [readType_of_bound hword hbound] at h
      have hbase : r.length ≤ after.length := length_le_of_withDimensions (Option.some.inj h)
      have hrest : after.length ≤ rest.length := ih hs (by omega) hbound
      omega
    | lowerBounded hw hw' hs =>
      simp only [List.length_cons, List.length_append] at hfuel
      obtain ⟨k, rfl⟩ := Nat.exists_eq_succ_of_ne_zero (show fuel ≠ 0 by omega)
      obtain ⟨v, after, hbound⟩ := exists_readType_of_beginsType (hs.beginsType rest) k
      have hword := readBoundWord_lower hw hw' (hs.skipSpace rest)
      simp only [List.cons_append, List.append_assoc] at h
      rw [readType_of_bound hword hbound] at h
      have hbase : r.length ≤ after.length := length_le_of_withDimensions (Option.some.inj h)
      have hrest : after.length ≤ rest.length := ih hs (by omega) hbound
      omega
    | arrayOf hs hs' =>
      rw [List.length_append] at hfuel
      rw [List.append_assoc] at h
      exact length_le_of_isBase hs hs' (by omega) h

end Companion.TypeExpr
