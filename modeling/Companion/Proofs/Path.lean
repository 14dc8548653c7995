import Companion.Path
import Companion.Proofs.DottedName
import Companion.Proofs.QName
import Mathlib.Data.List.DropRight

/-!
# Paths and their directories

A path is told by the pieces between its slashes. Pushing a name puts a piece at the end, and the
directory of a path has the pieces before the last one, without those at its end that stay in place.
So the directory of what was pushed leads to where the path led before.
-/

namespace Companion

namespace Text

lemma split_eq_splitOn (sep : Char) (t : Text) : t.split sep = t.splitOn sep := by
  induction t with
  | nil => rfl
  | cons c cs ih =>
    rw [split, List.splitOn_cons_eq_if_modifyHead, ih]
    by_cases hc : c = sep
    · rw [if_pos hc, if_pos (by simpa using hc)]
    · rw [if_neg hc, if_neg (by simpa using hc)]
      cases hcs : cs.splitOn sep with
      | nil => exact absurd hcs (List.splitOn_ne_nil sep cs)
      | cons piece pieces => rfl

lemma split_append (sep : Char) (t u : Text) :
    (t ++ sep :: u).split sep = t.split sep ++ u.split sep := by
  simp only [split_eq_splitOn, List.splitOn_append_cons_self]

lemma split_of_notMem {sep : Char} {t : Text} (h : sep ∉ t) : t.split sep = [t] := by
  rw [split_eq_splitOn, List.splitOn_eq_singleton h]

lemma split_intercalate {sep : Char} {pieces : List Text} (h : ∀ piece ∈ pieces, sep ∉ piece)
    (hne : pieces ≠ []) : Text.split sep (List.intercalate [sep] pieces) = pieces := by
  rw [split_eq_splitOn, List.splitOn_intercalate sep h hne]

lemma intercalate_split (sep : Char) (t : Text) : List.intercalate [sep] (t.split sep) = t := by
  rw [split_eq_splitOn, List.intercalate_splitOn]

lemma notMem_of_mem_split {sep : Char} {t piece : Text} (h : piece ∈ t.split sep) :
    sep ∉ piece := by
  induction t generalizing piece with
  | nil => simp_all [split]
  | cons c cs ih =>
    rw [split] at h
    by_cases hc : c = sep
    · rw [if_pos hc] at h
      rcases List.mem_cons.mp h with rfl | h
      · simp
      · exact ih h
    · rw [if_neg hc] at h
      obtain ⟨first, rest, hsplit⟩ := split_eq_cons sep cs
      rw [hsplit] at h ih
      rcases List.mem_cons.mp h with rfl | h
      · simpa [Ne.symm hc] using ih List.mem_cons_self
      · exact ih (List.mem_cons_of_mem first h)

/-- Joined pieces begin with the join of the first of them. -/
lemma intercalate_prefix (sep : Char) {pieces : List Text} (h : pieces ≠ []) (more : List Text) :
    List.intercalate [sep] pieces <+: List.intercalate [sep] (pieces ++ more) := by
  induction more using List.reverseRecOn with
  | nil => simp
  | append_singleton more piece ih =>
    rw [← List.append_assoc, intercalate_append_singleton sep piece (by simp [h])]
    exact ih.trans (List.prefix_append _ _)

end Text

namespace Path

variable {p : Path} {segment : Text}

/-- The names of a path without those that stay in place. -/
def steps (p : Path) : List Text :=
  (Text.split '/' p.text).filter fun piece => !isIdle piece

lemma names_filter (p : Path) : (p.names.filter fun name => name ≠ ['.']) = p.steps := by
  rw [names, steps, List.filter_filter]
  congr 1
  funext piece
  rw [isIdle, Bool.decide_or, Bool.not_or, Bool.and_comm]
  exact congrArg₂ (· && ·) (decide_not) (decide_not)

lemma components_filter (p : Path) :
    (p.components.filter fun name => name ≠ ['.']) = p.steps := by
  rw [components]
  split
  · rw [List.filter_append, names_filter]
    exact List.append_nil _
  · exact names_filter p

/-- A path is absolute if something follows an empty first piece. -/
lemma isAbsolute_iff : p.isAbsolute = true ↔
    ∃ piece pieces, Text.split '/' p.text = [] :: piece :: pieces := by
  rw [isAbsolute, decide_eq_true_iff]
  rcases p with ⟨_ | ⟨c, cs⟩⟩
  · simp [Text.split]
  obtain ⟨first, rest, hsplit⟩ := Text.split_eq_cons '/' cs
  by_cases hc : c = '/' <;> simp [Text.split, hc, hsplit]

/-- What may be put at the end of a path to go one name further. -/
structure IsSegment (segment : Text) : Prop where
  ne_nil : segment ≠ []
  slash : '/' ∉ segment

lemma IsSegment.head? (h : IsSegment segment) : segment.head? ≠ some '/' :=
  fun hhead => h.slash (List.mem_of_head? hhead)

section Push

variable (h : IsSegment segment)
include h

/-- What is pushed is the last piece, and those before it are those that were there. -/
lemma split_push (p : Path) : ∃ pieces,
    Text.split '/' (p.push segment).text = pieces ++ [segment] ∧
      (p.text ≠ [] → pieces ≠ []) ∧
      ∀ f : Text → Bool, f [] = false → pieces.filter f = (Text.split '/' p.text).filter f := by
  have hsplit (t : Text) : Text.split '/' t ≠ [] := by
    obtain ⟨first, rest, heq⟩ := Text.split_eq_cons '/' t
    simp [heq]
  rw [push, if_neg h.head?]
  by_cases hnil : p.text = []
  · refine ⟨[], ?_, fun hne => absurd hnil hne, ?_⟩
    · rw [if_pos (.inl hnil), hnil]
      exact Text.split_of_notMem h.slash
    · intro f hf
      rw [hnil, Text.split, List.filter_cons_of_neg (by simp [hf])]
  by_cases hslash : p.text.getLast? = some '/'
  · obtain ⟨before, hbefore⟩ := List.getLast?_eq_some_iff.mp hslash
    refine ⟨Text.split '/' before, ?_, fun _ => hsplit before, ?_⟩
    · rw [if_pos (.inr hslash), hbefore, List.append_assoc, List.singleton_append,
        Text.split_append, Text.split_of_notMem h.slash]
    · intro f hf
      rw [hbefore, Text.split_append, List.filter_append, Text.split,
        List.filter_cons_of_neg (by simp [hf])]
      exact (List.append_nil _).symm
  · refine ⟨Text.split '/' p.text, ?_, fun _ => hsplit p.text, fun f _ => rfl⟩
    rw [if_neg (by simp [hnil, hslash]), Text.split_append, Text.split_of_notMem h.slash]

lemma names_push (p : Path) : (p.push segment).names = p.names ++ [segment] := by
  obtain ⟨pieces, hsplit, -, hfilter⟩ := split_push h p
  rw [names, hsplit, List.filter_append, hfilter _ (by simp), names,
    List.filter_cons_of_pos (by simpa using h.ne_nil)]
  rfl

lemma exists_text_push (p : Path) : ∃ before, (p.push segment).text = before ++ segment ∧
    ∀ c ∈ before, c = '/' ∨ c ∈ p.text := by
  rw [push, if_neg h.head?]
  split
  · exact ⟨p.text, rfl, fun c hc => .inr hc⟩
  · refine ⟨p.text ++ ['/'], by simp, ?_⟩
    intro c hc
    simpa [or_comm] using hc

lemma isAbsolute_push (p : Path) : (p.push segment).isAbsolute = p.isAbsolute := by
  rw [push, if_neg h.head?, isAbsolute, isAbsolute]
  have hhead := h.head?
  cases hp : p.text with
  | nil => simpa using hhead
  | cons c cs => split <;> rfl

end Push

lemma filter_rdropWhile (pieces : List Text) :
    ((pieces.rdropWhile isIdle).filter fun piece => !isIdle piece) =
      pieces.filter fun piece => !isIdle piece := by
  induction pieces using List.reverseRecOn with
  | nil => rfl
  | append_singleton pieces piece ih =>
    rw [List.rdropWhile_concat]
    cases hidle : isIdle piece with
    | true => simpa [hidle] using ih
    | false => simp

/-- The path of pieces; a single empty one is what stands before the first slash. -/
def ofPieces : List Text → Path
  | [] => ⟨[]⟩
  | [[]] => "/"
  | pieces => ⟨List.intercalate ['/'] pieces⟩

section Pieces

variable {first last : Text} {pieces rest : List Text}

lemma ofPieces_cons (h : first :: rest ≠ [[]]) :
    ofPieces (first :: rest) = ⟨List.intercalate ['/'] (first :: rest)⟩ := by
  cases first <;> cases rest <;> first | rfl | exact absurd rfl h

lemma split_ofPieces (h : first :: rest ≠ [[]]) (hslash : ∀ piece ∈ first :: rest, '/' ∉ piece) :
    Text.split '/' (ofPieces (first :: rest)).text = first :: rest := by
  rw [ofPieces_cons h, Text.split_intercalate hslash (by simp)]

lemma steps_ofPieces (hslash : ∀ piece ∈ first :: rest, '/' ∉ piece) :
    (ofPieces (first :: rest)).steps = (first :: rest).filter fun piece => !isIdle piece := by
  by_cases h : first :: rest = [[]]
  · rw [h]
    rfl
  · rw [steps, split_ofPieces h hslash]

lemma isAbsolute_ofPieces (hslash : ∀ piece ∈ first :: rest, '/' ∉ piece) :
    (ofPieces (first :: rest)).isAbsolute = true ↔ first = [] := by
  by_cases h : first :: rest = [[]]
  · obtain ⟨rfl, rfl⟩ := List.cons.inj h
    simp [ofPieces, isAbsolute]
  · rw [isAbsolute_iff, split_ofPieces h hslash]
    cases rest <;> simp_all

lemma text_ofPieces_prefix (first : Text) (rest : List Text) {more : List Text} (hmore : more ≠ []) :
    (ofPieces (first :: rest)).text <+: List.intercalate ['/'] (first :: rest ++ more) := by
  by_cases h : first :: rest = [[]]
  · obtain ⟨rfl, rfl⟩ := List.cons.inj h
    rw [List.singleton_append, List.intercalate_cons_of_ne_nil hmore]
    exact List.prefix_append _ _
  · rw [ofPieces_cons h]
    exact Text.intercalate_prefix '/' (by simp) more

lemma text_ofPieces_ne_nil (first : Text) (rest : List Text) :
    (ofPieces (first :: rest)).text ≠ [] := by
  cases first with
  | nil => cases rest <;> simp [ofPieces]
  | cons c cs => cases rest <;> simp [ofPieces]

lemma tail_dropWhile (pieces : List Text) (hlast : isIdle last = false) :
    ((pieces ++ [last]).reverse.dropWhile isIdle).tail.reverse = pieces := by
  rw [List.reverse_append, List.reverse_singleton, List.singleton_append,
    List.dropWhile_cons_of_neg (by simp [hlast]), List.tail_cons, List.reverse_reverse]

lemma parent_of_split_nil (h : Text.split '/' p.text = [last]) (hlast : isIdle last = false) :
    p.parent = ⟨[]⟩ := by
  have hbefore := tail_dropWhile [] hlast
  rw [List.nil_append] at hbefore
  rw [parent, h, hbefore]

lemma parent_of_split_cons (h : Text.split '/' p.text = first :: rest ++ [last])
    (hlast : isIdle last = false) : p.parent = ofPieces (first :: rest.rdropWhile isIdle) := by
  rw [parent, h, tail_dropWhile (first :: rest) hlast, List.rdropWhile]
  dsimp only
  generalize (rest.reverse.dropWhile isIdle).reverse = kept
  cases first <;> cases kept <;> rfl

/-- The directory of a path leads to where the names before the last one lead. -/
lemma parent_of_split (h : Text.split '/' p.text = pieces ++ [last]) (hlast : isIdle last = false) :
    p.parent.steps = (pieces.filter fun piece => !isIdle piece) ∧
      p.parent.isAbsolute = p.isAbsolute ∧ p.parent.text <+: p.text ∧
      (pieces ≠ [] → p.parent.text ≠ []) := by
  cases pieces with
  | nil =>
    rw [parent_of_split_nil h hlast]
    have hnot : ¬p.isAbsolute = true := by
      rw [isAbsolute_iff, h]
      simp
    exact ⟨rfl, by simpa [isAbsolute] using hnot, List.nil_prefix, fun hne => absurd rfl hne⟩
  | cons first rest =>
    rw [parent_of_split_cons h hlast]
    have hbegins := List.rdropWhile_prefix isIdle rest
    have hslash : ∀ piece ∈ first :: rest.rdropWhile isIdle, '/' ∉ piece := by
      intro piece hpiece
      have hmem : piece ∈ first :: rest ++ [last] := by
        rcases List.mem_cons.mp hpiece with rfl | hpiece
        · exact List.mem_cons_self
        · exact List.mem_cons_of_mem _ (List.mem_append_left _ (hbegins.subset hpiece))
      exact Text.notMem_of_mem_split (h ▸ hmem)
    have habsolute : p.isAbsolute = true ↔ first = [] := by
      rw [isAbsolute_iff, h]
      cases rest <;> simp
    refine ⟨?_, ?_, ?_, fun _ => text_ofPieces_ne_nil first _⟩
    · rw [steps_ofPieces hslash, List.filter_cons, List.filter_cons, filter_rdropWhile]
    · rw [Bool.eq_iff_iff, isAbsolute_ofPieces hslash, habsolute]
    · obtain ⟨more, hmore⟩ := hbegins
      have htext : p.text = List.intercalate ['/'] (first :: rest ++ [last]) := by
        rw [← h, Text.intercalate_split]
      have hall : first :: rest ++ [last] =
          first :: rest.rdropWhile isIdle ++ (more ++ [last]) := by
        simp only [List.cons_append, ← List.append_assoc, hmore]
      rw [htext, hall]
      exact text_ofPieces_prefix first _ (by simp)

end Pieces

/-- A path with one more name, from the directory that the path led to. -/
structure IsBelow (p q : Path) : Prop where
  steps : p.parent.steps = q.steps
  absolute : p.parent.isAbsolute = q.isAbsolute
  text : p.parent.text <+: p.text
  ne_nil : q.text ≠ [] → p.parent.text ≠ []

lemma push_isBelow (h : IsSegment segment) (hdot : segment ≠ ['.']) (p : Path) :
    (p.push segment).IsBelow p := by
  have hidle : isIdle segment = false := by
    simpa [isIdle] using ⟨h.ne_nil, hdot⟩
  obtain ⟨pieces, hsplit, hne, hfilter⟩ := split_push h p
  obtain ⟨hsteps, habsolute, hbegins, hparent⟩ := parent_of_split hsplit hidle
  exact ⟨hsteps.trans (hfilter _ rfl), habsolute.trans (isAbsolute_push h p), hbegins,
    fun h => hparent (hne h)⟩

section Segments

variable {segments : List Text} (h : ∀ segment ∈ segments, IsSegment segment)
include h

lemma names_foldl_push (p : Path) : (segments.foldl push p).names = p.names ++ segments := by
  induction segments generalizing p with
  | nil => exact (List.append_nil _).symm
  | cons segment segments ih =>
    rw [List.forall_mem_cons] at h
    rw [List.foldl_cons, ih h.2, names_push h.1, List.append_assoc]
    rfl

lemma isAbsolute_foldl_push (p : Path) : (segments.foldl push p).isAbsolute = p.isAbsolute := by
  induction segments generalizing p with
  | nil => rfl
  | cons segment segments ih =>
    rw [List.forall_mem_cons] at h
    rw [List.foldl_cons, ih h.2, isAbsolute_push h.1]

lemma text_foldl_push_ne_nil {p : Path} (hne : p.text ≠ []) :
    (segments.foldl push p).text ≠ [] := by
  induction segments generalizing p with
  | nil => exact hne
  | cons segment segments ih =>
    rw [List.forall_mem_cons] at h
    obtain ⟨before, htext, -⟩ := exists_text_push h.1 p
    refine ih h.2 ?_
    simp [htext, h.1.ne_nil]

lemma mem_foldl_push {p : Path} {c : Char} (hc : c ∈ (segments.foldl push p).text) :
    c = '/' ∨ c ∈ p.text ∨ ∃ segment ∈ segments, c ∈ segment := by
  induction segments generalizing p with
  | nil => exact .inr (.inl hc)
  | cons segment segments ih =>
    rw [List.forall_mem_cons] at h
    rcases ih h.2 hc with rfl | hpush | ⟨found, hfound, hmem⟩
    · exact .inl rfl
    · obtain ⟨before, htext, hbefore⟩ := exists_text_push h.1 p
      rw [htext] at hpush
      rcases List.mem_append.mp hpush with hmem | hmem
      · exact (hbefore c hmem).imp_right .inl
      · exact .inr (.inr ⟨segment, List.mem_cons_self, hmem⟩)
    · exact .inr (.inr ⟨found, List.mem_cons_of_mem segment hfound, hmem⟩)

end Segments

end Path

end Companion
