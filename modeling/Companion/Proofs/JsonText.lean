import Companion.Json.Printer
import Companion.Json.Reader
import Mathlib.Tactic.IntervalCases
import Mathlib.Tactic.Lemma

/-!
# JSON that is read as it was written

White space may stand around the items of an array and around the keys and values of an object.
What is written so is read as its value where it ends, whatever follows. Both ways of printing put
nothing but such space between the parts, so a value without numbers that does not nest too deep is
read from each of them.
-/

namespace Companion.Json

/-- The characters that may stand between the parts of a value. -/
def isSpace (c : Char) : Bool :=
  c = ' ' || c = '\t' || c = '\n' || c = '\r'

/-- Space that may stand between the parts of a value. -/
def IsSpacing (w : Text) : Prop :=
  ∀ c ∈ w, isSpace c = true

mutual

/-- How a value without numbers is written, if it nests at most so deep. -/
inductive IsWritten : Nat → Json → Text → Prop where
  | null {depth : Nat} : IsWritten depth .null "null"
  | bool {depth : Nat} (b : Bool) : IsWritten depth (.bool b) (bool b).printLeaf
  | string {depth : Nat} (t : Text) : IsWritten depth (.string t) (printText t)
  | emptyArray {depth : Nat} {w : Text} (hw : IsSpacing w) :
      IsWritten (depth + 1) (.array []) ('[' :: (w ++ [']']))
  | array {depth : Nat} {items : List Json} {w s : Text} (hw : IsSpacing w)
      (hs : IsItems depth items s) : IsWritten (depth + 1) (.array items) ('[' :: (w ++ s))
  | emptyObject {depth : Nat} {w : Text} (hw : IsSpacing w) :
      IsWritten (depth + 1) (.object []) ('\x7b' :: (w ++ ['\x7d']))
  | object {depth : Nat} {members : List (Text × Json)} {w s : Text} (hw : IsSpacing w)
      (hs : IsMembers depth members s) :
      IsWritten (depth + 1) (.object members) ('\x7b' :: (w ++ s))

/-- How the items of an array are written, with the closing bracket. -/
inductive IsItems : Nat → List Json → Text → Prop where
  | last {depth : Nat} {item : Json} {s w : Text} (hs : IsWritten depth item s)
      (hw : IsSpacing w) : IsItems depth [item] (s ++ (w ++ [']']))
  | comma {depth : Nat} {item : Json} {items : List Json} {s w w' s' : Text}
      (hs : IsWritten depth item s) (hw : IsSpacing w) (hw' : IsSpacing w')
      (hs' : IsItems depth items s') :
      IsItems depth (item :: items) (s ++ (w ++ ',' :: (w' ++ s')))

/-- How the members of an object are written, with the closing brace. -/
inductive IsMembers : Nat → List (Text × Json) → Text → Prop where
  | last {depth : Nat} {key : Text} {value : Json} {u v s w : Text} (hu : IsSpacing u)
      (hv : IsSpacing v) (hs : IsWritten depth value s) (hw : IsSpacing w) :
      IsMembers depth [(key, value)]
        (printText key ++ (u ++ ':' :: (v ++ (s ++ (w ++ ['\x7d'])))))
  | comma {depth : Nat} {key : Text} {value : Json} {members : List (Text × Json)}
      {u v s w w' s' : Text} (hu : IsSpacing u) (hv : IsSpacing v) (hs : IsWritten depth value s)
      (hw : IsSpacing w) (hw' : IsSpacing w') (hs' : IsMembers depth members s') :
      IsMembers depth ((key, value) :: members)
        (printText key ++ (u ++ ':' :: (v ++ (s ++ (w ++ ',' :: (w' ++ s'))))))

end

lemma isSpacing_nil : IsSpacing [] := by
  intro c hc
  cases hc

lemma isSpacing_space : IsSpacing [' '] := by
  intro c hc
  cases List.mem_singleton.mp hc
  rfl

lemma isSpacing_newLine (level : Nat) : IsSpacing (newLine level) := by
  intro c hc
  rcases List.mem_cons.mp hc with rfl | hc
  · rfl
  · cases List.eq_of_mem_replicate hc
    rfl

lemma skipSpace_cons {c : Char} (hc : isSpace c = false) (s : Text) :
    skipSpace (c :: s) = c :: s :=
  List.dropWhile_cons_of_neg (by simpa [isSpace] using hc)

/-- Space is skipped up to what stands after it. -/
lemma skipSpace_append {w : Text} (hw : IsSpacing w) {c : Char} (hc : isSpace c = false)
    (s : Text) : skipSpace (w ++ c :: s) = c :: s := by
  have hdrop : skipSpace (w ++ c :: s) = skipSpace (c :: s) := by
    apply List.dropWhile_append_of_pos
    intro d hd
    simpa [isSpace] using hw d hd
  rw [hdrop, skipSpace_cons hc]

section Strings

/-- A character stands between quotes as a letter after a backslash, as its number, or as itself. -/
lemma escaped_cases (c : Char) :
    (∃ e, escaped c = ['\\', e] ∧ unescape? e = some c) ∨
    (∃ a b x y, escaped c = ['\\', 'u', a, b, x, y] ∧ ofHex? [a, b, x, y] = some c.toNat ∧
      c.toNat < 0x20) ∨
    (escaped c = [c] ∧ 0x20 ≤ c.toNat ∧ c ≠ '"' ∧ c ≠ '\\') := by
  by_cases hcontrol : c.toNat < 0x20
  · have hall : ∀ n < 0x20, (∃ e, escaped (.ofNat n) = ['\\', e] ∧
        unescape? e = some (.ofNat n)) ∨
        ∃ a b x y, escaped (.ofNat n) = ['\\', 'u', a, b, x, y] ∧
          ofHex? [a, b, x, y] = some n := by
      -- Some have a letter of their own, the others are written by number.
      intro n hn
      interval_cases n <;>
        first
        | exact .inl ⟨_, rfl, rfl⟩
        | exact .inr ⟨_, _, _, _, rfl, rfl⟩
    have hc := hall c.toNat hcontrol
    rw [Char.ofNat_toNat] at hc
    rcases hc with hletter | ⟨a, b, x, y, hc, hhex⟩
    · exact .inl hletter
    · exact .inr (.inl ⟨a, b, x, y, hc, hhex, hcontrol⟩)
  by_cases hquote : c = '"'
  · subst hquote
    exact .inl ⟨'"', rfl, rfl⟩
  by_cases hslash : c = '\\'
  · subst hslash
    exact .inl ⟨'\\', rfl, rfl⟩
  have hne : ∀ d : Char, d.toNat < 0x20 → c ≠ d := by
    rintro d hd rfl
    exact hcontrol hd
  refine .inr (.inr ⟨?_, by omega, hquote, hslash⟩)
  unfold escaped
  rw [if_neg hquote, if_neg hslash, if_neg (hne _ (by decide)), if_neg (hne _ (by decide)),
    if_neg (hne _ (by decide)), if_neg (hne _ (by decide)), if_neg (hne _ (by decide)),
    if_neg (by omega), if_neg hcontrol]

/-- A character between quotes is read as itself. -/
lemma readText_escaped (c : Char) (s : Text) :
    readText (escaped c ++ s) = consChar c (readText s) := by
  rcases escaped_cases c with ⟨e, hc, hletter⟩ | ⟨a, b, x, y, hc, hhex, hcontrol⟩ |
    ⟨hc, hbound, hquote, hslash⟩
  · rw [hc, List.cons_append, List.singleton_append, readText, hletter]
    rintro a b x y cs rfl rfl
    cases hletter
  · rw [hc]
    simp only [List.cons_append, List.nil_append]
    rw [readText, hhex]
    dsimp only
    rw [if_neg (by omega), if_neg (by omega), Char.ofNat_toNat]
  · rw [hc, List.singleton_append, readText]
    · rw [if_neg (by simpa [hslash] using hbound)]
    · exact hquote
    · rintro a b x y cs rfl
      exact absurd rfl hslash
    · rintro e cs rfl
      exact absurd rfl hslash

/-- A text is read up to its closing quote. -/
lemma readText_quoted (t rest : Text) :
    readText (t.flatMap escaped ++ '"' :: rest) = some (t, rest) := by
  induction t with
  | nil => rfl
  | cons c t ih =>
    rw [List.flatMap_cons, List.append_assoc, readText_escaped, ih]
    rfl

lemma printText_append (t rest : Text) :
    printText t ++ rest = '"' :: (t.flatMap escaped ++ '"' :: rest) := by
  simp [printText]

end Strings

section Reading

variable {fuel depth : Nat} {t cs rest : Text}

lemma readValue_null (h : skipSpace t = "null".toList ++ rest) :
    readValue (fuel + 1) depth t = some (.null, rest) := by
  rw [readValue, h]
  rfl

lemma readValue_bool {b : Bool} (h : skipSpace t = (bool b).printLeaf ++ rest) :
    readValue (fuel + 1) depth t = some (.bool b, rest) := by
  rw [readValue, h]
  cases b <;> rfl

lemma readValue_string (h : skipSpace t = '"' :: cs) {s : Text}
    (hs : readText cs = some (s, rest)) :
    readValue (fuel + 1) depth t = some (.string s, rest) := by
  rw [readValue, h]
  simp only [hs, Option.map_some]

lemma readValue_emptyArray (h : skipSpace t = '[' :: cs) (hcs : skipSpace cs = ']' :: rest) :
    readValue (fuel + 1) (depth + 1) t = some (.array [], rest) := by
  rw [readValue, h]
  simp only [hcs]

lemma readValue_array (h : skipSpace t = '[' :: cs) {c : Char} {cs' : Text}
    (hcs : skipSpace cs = c :: cs') (hc : c ≠ ']') {items : List Json}
    (hitems : readItems fuel depth (c :: cs') = some (items, rest)) :
    readValue (fuel + 1) (depth + 1) t = some (.array items, rest) := by
  rw [readValue, h]
  simp only [hcs]
  split
  next heq => exact absurd (List.cons.inj heq).1 hc
  next => rw [hitems, Option.map_some]

lemma readValue_emptyObject (h : skipSpace t = '\x7b' :: cs) (hcs : skipSpace cs = '\x7d' :: rest) :
    readValue (fuel + 1) (depth + 1) t = some (.object [], rest) := by
  rw [readValue, h]
  simp only [hcs]

lemma readValue_object (h : skipSpace t = '\x7b' :: cs) {cs' : Text}
    (hcs : skipSpace cs = '"' :: cs') {members : List (Text × Json)}
    (hmembers : readMembers fuel depth ('"' :: cs') = some (members, rest)) :
    readValue (fuel + 1) (depth + 1) t = some (.object members, rest) := by
  rw [readValue, h]
  simp only [hcs]
  split
  next heq => cases heq
  next => rw [hmembers, Option.map_some]

variable {item : Json} {r r' : Text}

lemma readItems_last (hitem : readValue fuel depth t = some (item, r))
    (hr : skipSpace r = ']' :: rest) :
    readItems (fuel + 1) depth t = some ([item], rest) := by
  rw [readItems, hitem]
  simp only [hr]

lemma readItems_comma (hitem : readValue fuel depth t = some (item, r))
    (hr : skipSpace r = ',' :: r') {items : List Json}
    (hitems : readItems fuel depth r' = some (items, rest)) :
    readItems (fuel + 1) depth t = some (item :: items, rest) := by
  rw [readItems, hitem]
  simp only [hr, hitems, Option.map_some]

variable {key : Text} {value : Json} {u u' : Text}

lemma readMembers_last (h : skipSpace t = '"' :: cs) (hkey : readText cs = some (key, u))
    (hu : skipSpace u = ':' :: u') (hvalue : readValue fuel depth u' = some (value, r))
    (hr : skipSpace r = '\x7d' :: rest) :
    readMembers (fuel + 1) depth t = some ([(key, value)], rest) := by
  rw [readMembers, h]
  simp only [hkey, hu, hvalue, hr]

lemma readMembers_comma (h : skipSpace t = '"' :: cs) (hkey : readText cs = some (key, u))
    (hu : skipSpace u = ':' :: u') (hvalue : readValue fuel depth u' = some (value, r))
    (hr : skipSpace r = ',' :: r') {members : List (Text × Json)}
    (hmembers : readMembers fuel depth r' = some (members, rest)) :
    readMembers (fuel + 1) depth t = some ((key, value) :: members, rest) := by
  rw [readMembers, h]
  simp only [hkey, hu, hvalue, hr, hmembers, Option.map_some]

end Reading

/-- A value begins with neither space nor a closing bracket. -/
lemma IsWritten.exists_head {depth : Nat} {j : Json} {s : Text} (h : IsWritten depth j s) :
    ∃ c cs, s = c :: cs ∧ isSpace c = false ∧ c ≠ ']' := by
  cases h with
  | bool b => cases b <;> exact ⟨_, _, rfl, by decide, by decide⟩
  | null | string | emptyArray | array | emptyObject | object =>
    exact ⟨_, _, rfl, by decide, by decide⟩

lemma IsItems.exists_head {depth : Nat} {items : List Json} {s : Text} (h : IsItems depth items s) :
    ∃ c cs, s = c :: cs ∧ isSpace c = false ∧ c ≠ ']' := by
  cases h with
  | last hs hw =>
    obtain ⟨c, cs, rfl, hc⟩ := hs.exists_head
    exact ⟨c, _, rfl, hc⟩
  | comma hs hw hw' hs' =>
    obtain ⟨c, cs, rfl, hc⟩ := hs.exists_head
    exact ⟨c, _, rfl, hc⟩

lemma IsMembers.exists_head {depth : Nat} {members : List (Text × Json)} {s : Text}
    (h : IsMembers depth members s) : ∃ cs, s = '"' :: cs := by
  cases h with
  | last | comma => exact ⟨_, printText_append _ _⟩

-- Each of the three spends one unit of fuel on a step that takes at least one character, so the
-- length of what is written is fuel enough.
mutual

/-- What is written as a value is read as that value where it ends. -/
theorem readValue_of_isWritten (fuel : Nat) {depth : Nat} {j : Json} {w s : Text}
    (hw : IsSpacing w) (h : IsWritten depth j s) (hfuel : s.length ≤ fuel) (rest : Text) :
    readValue fuel depth (w ++ (s ++ rest)) = some (j, rest) := by
  cases fuel with
  | zero =>
    obtain ⟨c, cs, rfl, -⟩ := h.exists_head
    cases hfuel
  | succ fuel =>
    cases h with
    | null => exact readValue_null (skipSpace_append hw (by decide) _)
    | bool b =>
      apply readValue_bool
      cases b <;> exact skipSpace_append hw (by decide) _
    | string t =>
      rw [printText_append]
      exact readValue_string (skipSpace_append hw (by decide) _) (readText_quoted t rest)
    | emptyArray hw' =>
      rw [List.cons_append, List.append_assoc]
      exact readValue_emptyArray (skipSpace_append hw (by decide) _)
        (skipSpace_append hw' (by decide) rest)
    | array hw' hs =>
      rw [List.length_cons, List.length_append] at hfuel
      -- The reader has skipped the space by the time it looks for items.
      have hitems := readItems_of_isItems fuel isSpacing_nil hs (by omega) rest
      obtain ⟨c, cs, rfl, hspace, hc⟩ := hs.exists_head
      rw [List.cons_append, List.append_assoc]
      exact readValue_array (skipSpace_append hw (by decide) _)
        (skipSpace_append hw' hspace _) hc hitems
    | emptyObject hw' =>
      rw [List.cons_append, List.append_assoc]
      exact readValue_emptyObject (skipSpace_append hw (by decide) _)
        (skipSpace_append hw' (by decide) rest)
    | object hw' hs =>
      rw [List.length_cons, List.length_append] at hfuel
      have hmembers := readMembers_of_isMembers fuel isSpacing_nil hs (by omega) rest
      obtain ⟨cs, rfl⟩ := hs.exists_head
      rw [List.cons_append, List.append_assoc]
      exact readValue_object (skipSpace_append hw (by decide) _)
        (skipSpace_append hw' (by decide) _) hmembers

/-- What is written as the items of an array is read as these. -/
theorem readItems_of_isItems (fuel : Nat) {depth : Nat} {items : List Json} {w s : Text}
    (hw : IsSpacing w) (h : IsItems depth items s) (hfuel : s.length ≤ fuel) (rest : Text) :
    readItems fuel depth (w ++ (s ++ rest)) = some (items, rest) := by
  cases fuel with
  | zero =>
    obtain ⟨c, cs, rfl, -⟩ := h.exists_head
    cases hfuel
  | succ fuel =>
    cases h with
    | last hs hw' =>
      simp only [List.length_append, List.length_singleton] at hfuel
      simp only [List.append_assoc]
      exact readItems_last (readValue_of_isWritten fuel hw hs (by omega) _)
        (skipSpace_append hw' (by decide) rest)
    | comma hs hw' hw'' hs' =>
      simp only [List.length_append, List.length_cons] at hfuel
      simp only [List.append_assoc, List.cons_append]
      exact readItems_comma (readValue_of_isWritten fuel hw hs (by omega) _)
        (skipSpace_append hw' (by decide) _)
        (readItems_of_isItems fuel hw'' hs' (by omega) rest)

/-- What is written as the members of an object is read as these. -/
theorem readMembers_of_isMembers (fuel : Nat) {depth : Nat} {members : List (Text × Json)}
    {w s : Text} (hw : IsSpacing w) (h : IsMembers depth members s)
    (hfuel : s.length ≤ fuel) (rest : Text) :
    readMembers fuel depth (w ++ (s ++ rest)) = some (members, rest) := by
  cases fuel with
  | zero =>
    obtain ⟨cs, rfl⟩ := h.exists_head
    cases hfuel
  | succ fuel =>
    cases h with
    | last hu hv hs hw' =>
      simp only [List.length_append, List.length_cons] at hfuel
      simp only [List.append_assoc, List.cons_append]
      rw [printText_append]
      exact readMembers_last (skipSpace_append hw (by decide) _) (readText_quoted _ _)
        (skipSpace_append hu (by decide) _) (readValue_of_isWritten fuel hv hs (by omega) _)
        (skipSpace_append hw' (by decide) rest)
    | comma hu hv hs hw' hw'' hs' =>
      simp only [List.length_append, List.length_cons] at hfuel
      simp only [List.append_assoc, List.cons_append]
      rw [printText_append]
      exact readMembers_comma (skipSpace_append hw (by decide) _) (readText_quoted _ _)
        (skipSpace_append hu (by decide) _) (readValue_of_isWritten fuel hv hs (by omega) _)
        (skipSpace_append hw' (by decide) _)
        (readMembers_of_isMembers fuel hw'' hs' (by omega) rest)

end

/-- A text that writes a value, with space around it, is read as that value. -/
theorem parse_of_isWritten {j : Json} {s : Text} (h : IsWritten maxDepth j s) :
    parse s = some j := by
  have hread := readValue_of_isWritten (2 * s.length + 2) isSpacing_nil h (by omega) []
  rw [List.nil_append, List.append_nil] at hread
  rw [parse, hread]
  rfl

/-- Whether a value has no numbers and nests at most so deep. -/
inductive Fits : Nat → Json → Prop where
  | null {depth : Nat} : Fits depth .null
  | bool {depth : Nat} (b : Bool) : Fits depth (.bool b)
  | string {depth : Nat} (t : Text) : Fits depth (.string t)
  | array {depth : Nat} {items : List Json} (h : ∀ item ∈ items, Fits depth item) :
      Fits (depth + 1) (.array items)
  | object {depth : Nat} {members : List (Text × Json)}
      (h : ∀ member ∈ members, Fits depth member.2) : Fits (depth + 1) (.object members)

section Printing

variable {depth : Nat} {item : Json} {items : List Json} {m : Text × Json}
  {members : List (Text × Json)}

lemma isItems_printItems (h : ∀ j ∈ item :: items, IsWritten depth j j.print) :
    IsItems depth (item :: items) (printItems (item :: items) ++ "]") := by
  induction items generalizing item with
  | nil => exact .last (h item List.mem_cons_self) isSpacing_nil
  | cons next items ih =>
    have hitems := ih fun j hj => h j (List.mem_cons_of_mem item hj)
    have hcomma := IsItems.comma (h item List.mem_cons_self) isSpacing_nil isSpacing_nil hitems
    simpa [printItems] using hcomma

lemma isMembers_printMembers (h : ∀ m' ∈ m :: members, IsWritten depth m'.2 m'.2.print) :
    IsMembers depth (m :: members) (printMembers (m :: members) ++ "\x7d") := by
  induction members generalizing m with
  | nil =>
    have hlast : IsMembers depth [(m.1, m.2)] _ :=
      .last isSpacing_nil isSpacing_nil (h m List.mem_cons_self) isSpacing_nil
    simpa [printMembers] using hlast
  | cons next members ih =>
    have hmembers := ih fun m' hm => h m' (List.mem_cons_of_mem m hm)
    have hcomma : IsMembers depth ((m.1, m.2) :: next :: members) _ :=
      .comma isSpacing_nil isSpacing_nil (h m List.mem_cons_self) isSpacing_nil isSpacing_nil
        hmembers
    simpa [printMembers] using hcomma

/-- Printing in one line writes the value. -/
theorem isWritten_print {j : Json} (h : Fits depth j) : IsWritten depth j j.print := by
  induction h with
  | null => exact .null
  | bool b => cases b <;> exact .bool _
  | string t => exact .string t
  | @array depth items h ih =>
    cases items with
    | nil => exact .emptyArray isSpacing_nil
    | cons item items =>
      have harray := IsWritten.array isSpacing_nil (isItems_printItems ih)
      simpa [print] using harray
  | @object depth members h ih =>
    cases members with
    | nil => exact .emptyObject isSpacing_nil
    | cons m members =>
      have hobject := IsWritten.object isSpacing_nil (isMembers_printMembers ih)
      simpa [print] using hobject

/-- The line on which the first item starts belongs to the array. -/
lemma isItems_prettyItems (level close : Nat)
    (h : ∀ j ∈ item :: items, IsWritten depth j (j.prettyAt level)) :
    ∃ s, prettyItems level (item :: items) ++ newLine close ++ "]" = newLine level ++ s ∧
      IsItems depth (item :: items) s := by
  induction items generalizing item with
  | nil =>
    refine ⟨_, ?_, .last (h item List.mem_cons_self) (isSpacing_newLine close)⟩
    simp [prettyItems]
  | cons next items ih =>
    obtain ⟨s, hs, hitems⟩ := ih fun j hj => h j (List.mem_cons_of_mem item hj)
    refine ⟨_, ?_, .comma (h item List.mem_cons_self) isSpacing_nil (isSpacing_newLine level)
      hitems⟩
    simp [prettyItems, ← hs]

lemma isMembers_prettyMembers (level close : Nat)
    (h : ∀ m' ∈ m :: members, IsWritten depth m'.2 (m'.2.prettyAt level)) :
    ∃ s, prettyMembers level (m :: members) ++ newLine close ++ "\x7d" = newLine level ++ s ∧
      IsMembers depth (m :: members) s := by
  induction members generalizing m with
  | nil =>
    refine ⟨_, ?_, .last isSpacing_nil isSpacing_space (h m List.mem_cons_self)
      (isSpacing_newLine close)⟩
    simp [prettyMembers]
  | cons next members ih =>
    obtain ⟨s, hs, hmembers⟩ := ih fun m' hm => h m' (List.mem_cons_of_mem m hm)
    refine ⟨_, ?_, .comma isSpacing_nil isSpacing_space (h m List.mem_cons_self) isSpacing_nil
      (isSpacing_newLine level) hmembers⟩
    simp [prettyMembers, ← hs]

/-- Printing over several lines writes the value, however deep it starts. -/
theorem isWritten_prettyAt {j : Json} (h : Fits depth j) (level : Nat) :
    IsWritten depth j (j.prettyAt level) := by
  induction h generalizing level with
  | null => exact .null
  | bool b => cases b <;> exact .bool _
  | string t => exact .string t
  | @array depth items h ih =>
    cases items with
    | nil => exact .emptyArray isSpacing_nil
    | cons item items =>
      obtain ⟨s, hs, hitems⟩ :=
        isItems_prettyItems (level + 1) level fun j hj => ih j hj (level + 1)
      have harray := IsWritten.array (isSpacing_newLine (level + 1)) hitems
      rw [← hs] at harray
      simpa [prettyAt] using harray
  | @object depth members h ih =>
    cases members with
    | nil => exact .emptyObject isSpacing_nil
    | cons m members =>
      obtain ⟨s, hs, hmembers⟩ :=
        isMembers_prettyMembers (level + 1) level fun m' hm => ih m' hm (level + 1)
      have hobject := IsWritten.object (isSpacing_newLine (level + 1)) hmembers
      rw [← hs] at hobject
      simpa [prettyAt] using hobject

end Printing

/-- What is printed in one line is read again. -/
theorem parse_print {j : Json} (h : Fits maxDepth j) : parse j.print = some j :=
  parse_of_isWritten (isWritten_print h)

/-- What is printed over several lines is read again. -/
theorem parse_pretty {j : Json} (h : Fits maxDepth j) : parse j.pretty = some j :=
  parse_of_isWritten (isWritten_prettyAt h 0)

end Companion.Json
