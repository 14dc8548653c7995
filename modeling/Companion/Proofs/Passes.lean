import Companion.Proofs.Inspections

/-!
# Passes of walks

Superclasses and enclosing types may run in circles, and a memo may know anything at all. Walks
still end: each pass of a walk leaves a type that is linked to another one and comes to it no more,
so a walk takes no more passes than there are such types. Here both walks are given as loops that
may run out of passes. A resolution asks for superclasses along the path from its type, and the
name of an artifact is made of the one line of enclosing types that ends where a type is met again
or stands in no other that is known.
-/

namespace Companion

namespace Graph.Links

variable {α : Type} {l : Links α} {a b : α} {line : List α}

/-- The places from `a` on, each linked to the next and each once, up to one that is linked to none
or only to one of them. -/
structure IsLine (l : Links α) (a : α) (line : List α) : Prop where
  head : line.head? = some a
  linked : line.IsChain l.Leads
  nodup : line.Nodup
  ends : ∀ last ∈ line.getLast?, ∀ b, l.next last = some b → b ∈ line

variable [DecidableEq α]

/-- A walk comes to no place twice. -/
lemma nodup_walk (seen : List α) (a : α) : (l.walk seen a).1.Nodup := by
  fun_induction walk l seen a with
  | case1 seen a ha => exact List.nodup_nil
  | case2 seen a ha hn => exact List.nodup_singleton a
  | case3 seen a ha b hn path repeated heq ih =>
    rw [heq] at ih
    refine List.nodup_cons.mpr ⟨fun hmem => ?_, ih⟩
    have hwalk : a ∈ (l.walk (a :: seen) b).1 := by rwa [heq]
    exact notMem_of_mem_walk hwalk List.mem_cons_self

/-- Where a walk stops, a link leads only to what was seen before it or what it has come to. -/
lemma mem_of_next_getLast? {seen : List α} {last : α}
    (hlast : last ∈ (l.walk seen a).1.getLast?) (hn : l.next last = some b) :
    b ∈ seen ∨ b ∈ (l.walk seen a).1 := by
  fun_induction walk l seen a with
  | case1 seen a ha => cases hlast
  | case2 seen a ha hnone =>
    obtain rfl : a = last := by simpa using hlast
    rw [hnone] at hn
    cases hn
  | case3 seen a ha c hc path repeated heq ih =>
    rw [heq] at ih
    by_cases hmem : c ∈ a :: seen
    · rw [l.walk_of_mem hmem] at heq
      obtain rfl : [] = path := (Prod.mk.inj heq).1
      obtain rfl : a = last := by simpa using hlast
      obtain rfl : c = b := Option.some.inj (hc.symm.trans hn)
      rcases List.mem_cons.mp hmem with rfl | hmem
      · exact Or.inr List.mem_cons_self
      · exact Or.inl hmem
    · obtain ⟨rest, hrest⟩ := walk_eq_cons (l := l) hmem
      obtain rfl : c :: rest = path := by rw [← hrest, heq]
      rcases ih hlast with hseen | hpath
      · rcases List.mem_cons.mp hseen with rfl | hseen
        · exact Or.inr List.mem_cons_self
        · exact Or.inl hseen
      · exact Or.inr (List.mem_cons_of_mem a hpath)

/-- The path from a place is a line. -/
lemma isLine_path (a : α) : l.IsLine a (l.path a) where
  head := by rw [path_eq_cons_beyond, List.head?_cons]
  linked := by
    obtain ⟨rest, hrest, chain⟩ := l.isChain_walk [] a
    rw [← hrest] at chain
    exact chain.left_of_append
  nodup := nodup_walk [] a
  ends _ hlast _ hn := (mem_of_next_getLast? hlast hn).resolve_left List.not_mem_nil

/-- A walk has no choice but to go along a line. -/
lemma walk_eq_of_isChain {seen rest : List α} (chain : (a :: rest).IsChain l.Leads)
    (nodup : (a :: rest).Nodup) (fresh : ∀ c ∈ a :: rest, c ∉ seen)
    (ends : ∀ last ∈ (a :: rest).getLast?, ∀ b, l.next last = some b →
      b ∈ seen ∨ b ∈ a :: rest) : (l.walk seen a).1 = a :: rest := by
  have ha := fresh a List.mem_cons_self
  induction rest generalizing a seen with
  | nil =>
    cases hn : l.next a with
    | none => rw [l.walk_of_next_none ha hn]
    | some b =>
      have hmem : b ∈ a :: seen := by
        rcases ends a rfl b hn with hseen | hself
        · exact List.mem_cons_of_mem a hseen
        · exact List.mem_singleton.mp hself ▸ List.mem_cons_self
      rw [l.walk_of_next_some ha hn, l.walk_of_mem hmem]
  | cons b rest ih =>
    obtain ⟨hab, chain⟩ := List.isChain_cons_cons.mp chain
    obtain ⟨hnot, nodup⟩ := List.nodup_cons.mp nodup
    have hfresh : ∀ c ∈ b :: rest, c ∉ a :: seen := by
      intro c hc hmem
      rcases List.mem_cons.mp hmem with rfl | hmem
      · exact hnot hc
      · exact fresh c (List.mem_cons_of_mem a hc) hmem
    have hends : ∀ last ∈ (b :: rest).getLast?, ∀ c, l.next last = some c →
        c ∈ a :: seen ∨ c ∈ b :: rest := by
      intro last hlast c hc
      rcases ends last (by rwa [List.getLast?_cons_cons]) c hc with hseen | hmem
      · exact Or.inl (List.mem_cons_of_mem a hseen)
      · rcases List.mem_cons.mp hmem with rfl | hmem
        · exact Or.inl List.mem_cons_self
        · exact Or.inr hmem
    rw [l.walk_of_next_some ha hab, ih chain nodup hfresh hends (hfresh b List.mem_cons_self)]

lemma IsLine.eq_path (h : l.IsLine a line) : line = l.path a := by
  obtain ⟨rest, rfl⟩ : ∃ rest, line = a :: rest := by
    cases line with
    | nil => cases h.head
    | cons b rest => exact ⟨rest, by rw [Option.some.inj h.head]⟩
  refine (walk_eq_of_isChain h.linked h.nodup (fun _ _ => List.not_mem_nil) ?_).symm
  exact fun last hlast b hb => Or.inr (h.ends last hlast b hb)

end Graph.Links

/-- Where one source has been seen, fewer are left than there are. -/
lemma Graph.unseen_singleton_lt {α : Type} [DecidableEq α] {sources : List α} {a : α}
    (ha : a ∈ sources) : unseen sources [a] < sources.length := by
  have hlt := unseen_cons_lt ha (List.not_mem_nil (a := a))
  have hle : unseen sources [] ≤ sources.length := List.length_filter_le _ _
  omega

namespace Query

/-- The type whose superclass is asked for. -/
def superclass? : Query → Option QName
  | .superclass n => some n
  | _ => none

/-- The types whose superclasses are asked for, in their order. -/
def ascents (queries : List Query) : List QName :=
  queries.filterMap superclass?

lemma superclass?_eq_some_iff {q : Query} {n : QName} :
    q.superclass? = some n ↔ q = .superclass n := by
  cases q <;> simp [superclass?]

lemma count_ascents (queries : List Query) (n : QName) :
    (ascents queries).count n = queries.count (.superclass n) :=
  count_filterMap (fun _ => superclass?_eq_some_iff) queries

end Query

namespace Ancestry

/-- A climb in so many passes, each of which visits the type that is above the last one. -/
def climbWithin (m : TypeModel) (config : Config) :
    Nat → List QName → Memo → Option QName → Option (Inquiry (Option QName × Memo))
  | _, _, memo, none => some ⟨(none, memo), []⟩
  | 0, _, _, some _ => none
  | passes + 1, seen, memo, some n =>
    if n ∈ seen then some ⟨(none, memo), []⟩
    else if config.isExcluded n then some ⟨(none, memo), []⟩
    else
      match memo.markedArtifact? n with
      | some artifact => some ⟨(some artifact, memo), []⟩
      | none =>
        if memo.isUnmarked n then
          match memo.ancestor? n with
          | some resolved => some ⟨(resolved, memo), []⟩
          | none =>
            (climbWithin m config passes (n :: seen) memo (m.superclass n)).map
              (·.after [.superclass n])
        else if m.declaresMarked n then
          some
            ⟨(some (artifactName m config n), memo.addMarked n (artifactName m config n)),
              [.marked n]⟩
        else
          (climbWithin m config passes (n :: seen) (memo.addUnmarked n) (m.superclass n)).map
            (·.after [.marked n, .superclass n])

/-- A resolution whose climb has so many passes. -/
def resolveWithin (m : TypeModel) (config : Config) (passes : Nat) (memo : Memo) (n : QName) :
    Option (Inquiry (Option QName × Memo)) :=
  match memo.ancestor? n with
  | some resolved => some ⟨(resolved, memo), []⟩
  | none =>
    (climbWithin m config passes [n] memo (m.superclass n)).map fun found =>
      ⟨(found.answer.1, found.answer.2.addAncestor n found.answer.1),
        .superclass n :: found.queries⟩

variable {m : TypeModel} {config : Config} {memo : Memo} {seen : List QName} {n : QName}

lemma climbWithin_none (passes : Nat) (seen : List QName) (memo : Memo) :
    climbWithin m config passes seen memo none = some ⟨(none, memo), []⟩ := by
  cases passes <;> rfl

/-- With more passes than there are linked types to see, a climb comes to its end. -/
lemma climbWithin_eq {passes : Nat} (h : Graph.unseen m.linked seen < passes) :
    climbWithin m config passes seen memo (some n) = some (climb m config seen memo n) := by
  induction passes generalizing seen memo n with
  | zero => exact absurd h (Nat.not_lt_zero _)
  | succ passes ih =>
    have goesOn (memo : Memo) {above : QName} (hn : n ∉ seen) (hs : m.superclass n = some above) :
        climbWithin m config passes (n :: seen) memo (m.superclass n) =
          some (climb m config (n :: seen) memo above) := by
      have hlt := Graph.unseen_cons_lt (m.linked_of_superclass n (by simp [hs])) hn
      rw [hs]
      exact ih (by omega)
    fun_cases climb m config seen memo n with
    | case1 hn => simp [climbWithin, hn]
    | case2 hn hx => simp [climbWithin, hn, hx]
    | case3 hn hx artifact ha => simp [climbWithin, hn, hx, ha]
    | case4 hn hx ha hu found hf => simp [climbWithin, hn, hx, ha, hu, hf]
    | case5 hn hx ha hu hf hs =>
      simp [climbWithin, climbWithin_none, hn, hx, ha, hu, hf, hs, Inquiry.after]
    | case6 hn hx ha hu hf above hs => simp [climbWithin, hn, hx, ha, hu, hf, goesOn memo hn hs]
    | case7 hn hx ha hu hm => simp [climbWithin, hn, hx, ha, hu, hm]
    | case8 hn hx ha hu hm hs =>
      simp [climbWithin, climbWithin_none, hn, hx, ha, hu, hm, hs, Inquiry.after]
    | case9 hn hx ha hu hm above hs =>
      simp [climbWithin, hn, hx, ha, hu, hm, goesOn (memo.addUnmarked n) hn hs]

/-- A resolution takes no more passes than there are linked types. -/
lemma resolveWithin_eq {passes : Nat} (h : m.linked.length ≤ passes) :
    resolveWithin m config passes memo n = some (resolve m config memo n) := by
  rw [resolveWithin, resolve]
  cases ha : memo.ancestor? n with
  | some found => rfl
  | none =>
    cases hs : m.superclass n with
    | none => rw [climbWithin_none]; rfl
    | some above =>
      have hlt := Graph.unseen_singleton_lt (m.linked_of_superclass n (by simp [hs]))
      rw [climbWithin_eq (hlt.trans_le h)]
      rfl

/-- A climb asks for superclasses along its walk, from the first place of it on. -/
lemma ascents_climb (seen : List QName) (memo : Memo) (n : QName) :
    Query.ascents (climb m config seen memo n).queries <+: (m.superclassLinks.walk seen n).1 := by
  fun_induction climb m config seen memo n with
  | case1 seen memo n hn => exact List.nil_prefix
  | case2 seen memo n hn hx => exact List.nil_prefix
  | case3 seen memo n hn hx artifact ha => exact List.nil_prefix
  | case4 seen memo n hn hx ha hu found hf => exact List.nil_prefix
  | case5 seen memo n hn hx ha hu hf hs =>
    rw [m.superclassLinks.walk_of_next_none hn hs]
    exact List.prefix_refl _
  | case6 seen memo n hn hx ha hu hf above hs ih =>
    rw [m.superclassLinks.walk_of_next_some hn hs]
    exact List.cons_prefix_cons.mpr ⟨rfl, ih⟩
  | case7 seen memo n hn hx ha hu hm => exact List.nil_prefix
  | case8 seen memo n hn hx ha hu hm hs =>
    rw [m.superclassLinks.walk_of_next_none hn hs]
    exact List.prefix_refl _
  | case9 seen memo n hn hx ha hu hm above hs ih =>
    rw [m.superclassLinks.walk_of_next_some hn hs]
    exact List.cons_prefix_cons.mpr ⟨rfl, ih⟩

lemma ascents_resolve (m : TypeModel) (config : Config) (memo : Memo) (n : QName) :
    Query.ascents (resolve m config memo n).queries <+: m.superclassLinks.path n := by
  rw [resolve]
  cases ha : memo.ancestor? n with
  | some found => exact List.nil_prefix
  | none =>
    cases hs : m.superclass n with
    | none =>
      rw [Graph.Links.path_of_next_none hs]
      exact List.prefix_refl _
    | some above =>
      rw [Graph.Links.path, m.superclassLinks.walk_of_next_some List.not_mem_nil hs]
      exact List.cons_prefix_cons.mpr ⟨rfl, ascents_climb [n] memo above⟩

/-- No type is asked twice for its superclass in one resolution. -/
lemma count_superclass_resolve_le (m : TypeModel) (config : Config) (memo : Memo) (n s : QName) :
    (resolve m config memo n).queries.count (.superclass s) ≤ 1 := by
  have nodup : (m.superclassLinks.path n).Nodup := Graph.Links.nodup_walk [] n
  rw [← Query.count_ascents]
  exact ((ascents_resolve m config memo n).sublist.count_le s).trans
    (List.nodup_iff_count_le_one.mp nodup s)

end Ancestry

namespace Identity

/-- The names of a type and of those around it after so many passes, each of which comes to the type
around the last one. -/
def segmentsWithin (m : TypeModel) :
    Nat → List QName → List Text → Option QName → Option (List Text)
  | _, _, segments, none => some segments
  | 0, _, _, some _ => none
  | passes + 1, visited, segments, some outer =>
    if outer ∈ visited then some segments
    else
      match m.element outer with
      | some e =>
        segmentsWithin m passes (outer :: visited) (segments ++ [e.simpleName]) e.enclosing
      | none => segmentsWithin m passes (outer :: visited) (segments ++ [outer.simpleName]) none

/-- The flattened name of a type, for which enclosing types are gone through in so many passes. -/
def flattenedWithin (m : TypeModel) (passes : Nat) (n : QName) : Option Text :=
  match m.element n with
  | none => some n.simpleName
  | some e =>
    (segmentsWithin m passes [n] [e.simpleName] e.enclosing).map fun segments =>
      List.intercalate ['$'] segments.reverse

variable {m : TypeModel} {visited : List QName} {n outer : QName} {e : TypeElement}

lemma segmentsWithin_none (passes : Nat) (visited : List QName) (segments : List Text) :
    segmentsWithin m passes visited segments none = some segments := by
  cases passes <;> rfl

/-- With more passes than there are linked types to see, all names of the walk are gathered. -/
lemma segmentsWithin_eq {passes : Nat} (h : Graph.unseen m.linked visited < passes)
    (segments : List Text) :
    segmentsWithin m passes visited segments (some outer) =
      some (segments ++ (m.enclosingLinks.walk visited outer).1.map (segmentOf m)) := by
  induction passes generalizing visited segments outer with
  | zero => exact absurd h (Nat.not_lt_zero _)
  | succ passes ih =>
    rw [segmentsWithin]
    by_cases hmem : outer ∈ visited
    · rw [if_pos hmem, m.enclosingLinks.walk_of_mem hmem, List.map_nil, List.append_nil]
    rw [if_neg hmem]
    cases he : m.element outer with
    | none =>
      have hnext : m.enclosingLinks.next outer = none := by
        simp [TypeModel.enclosingLinks, he]
      rw [m.enclosingLinks.walk_of_next_none hmem hnext]
      simp [segmentsWithin_none, segmentOf, he]
    | some e =>
      have hsegment : segmentOf m outer = e.simpleName := by simp [segmentOf, he]
      have hnext : m.enclosingLinks.next outer = e.enclosing := by
        simp [TypeModel.enclosingLinks, he]
      cases ho : e.enclosing with
      | none =>
        rw [m.enclosingLinks.walk_of_next_none hmem (hnext.trans ho)]
        simp [ho, segmentsWithin_none, hsegment]
      | some next =>
        have hlt := Graph.unseen_cons_lt (m.linked_of_enclosing outer (by simp [he, ho])) hmem
        have hrest : segmentsWithin m passes (outer :: visited) (segments ++ [e.simpleName])
            (some next) = _ := ih (by omega) _
        rw [m.enclosingLinks.walk_of_next_some hmem (hnext.trans ho), List.map_cons, hsegment]
        simp [ho, hrest]

/-- A flattened name takes no more passes than there are linked types. -/
lemma flattenedWithin_eq {passes : Nat} (h : m.linked.length ≤ passes) :
    flattenedWithin m passes n = some (of m n).flattenedName := by
  rw [flattenedWithin, of]
  cases he : m.element n with
  | none => rfl
  | some e =>
    have hsegment : segmentOf m n = e.simpleName := by simp [segmentOf, he]
    have hnext : m.enclosingLinks.next n = e.enclosing := by
      simp [TypeModel.enclosingLinks, he]
    cases ho : e.enclosing with
    | none =>
      rw [Graph.Links.path_of_next_none (hnext.trans ho)]
      simp [ho, segmentsWithin_none, hsegment]
    | some outer =>
      have hlt := Graph.unseen_singleton_lt (m.linked_of_enclosing n (by simp [he, ho]))
      rw [Graph.Links.path, m.enclosingLinks.walk_of_next_some List.not_mem_nil (hnext.trans ho)]
      simp [ho, segmentsWithin_eq (hlt.trans_le h), hsegment]

end Identity

namespace TypeModel

/-- In every model, whatever runs in circles and whatever a memo holds, a resolution and a flattened
name are found in no more passes than the model lists linked types. A resolution asks for
superclasses along the path from its type, and so for each at most once. The flattened name of a
known type joins the names of the one line of types that leads outward from it until a type is met
again or stands in no other that is known. -/
theorem walks_end (m : TypeModel) (config : Config) (memo : Memo) (n : QName) :
    (∀ passes ≥ m.linked.length,
      Ancestry.resolveWithin m config passes memo n = some (Ancestry.resolve m config memo n) ∧
        Identity.flattenedWithin m passes n = some (Identity.of m n).flattenedName) ∧
    Query.ascents (Ancestry.resolve m config memo n).queries <+: m.superclassLinks.path n ∧
    (∀ s, (Ancestry.resolve m config memo n).queries.count (.superclass s) ≤ 1) ∧
    ∀ e, m.element n = some e → ∃ line, m.enclosingLinks.IsLine n line ∧
      (∀ line', m.enclosingLinks.IsLine n line' → line' = line) ∧
      (Identity.of m n).flattenedName =
        List.intercalate ['$'] (line.map (Identity.segmentOf m)).reverse := by
  refine ⟨fun passes h => ⟨Ancestry.resolveWithin_eq h, Identity.flattenedWithin_eq h⟩,
    Ancestry.ascents_resolve m config memo n,
    Ancestry.count_superclass_resolve_le m config memo n, fun e he => ?_⟩
  refine ⟨m.enclosingLinks.path n, Graph.Links.isLine_path n, fun _ h => h.eq_path, ?_⟩
  rw [Identity.of, he]

/-- What a model knows of a type that stands in another one and extends another one. -/
def linkedFacts (name outer above : QName) : TypeFacts where
  name := name
  element := some
    { name := name, simpleName := name.simpleName, enclosing := some outer, modifiers := .empty }
  package := name.qualifier
  superclass := some above
  marked := false
  assignable := []

/-- Two types in one another that extend one another, and one in a type that is not known. -/
def circularFacts : List TypeFacts :=
  [linkedFacts "a.A" "a.B" "a.B", linkedFacts "a.B" "a.A" "a.A", linkedFacts "a.C" "z.Gone" "a.A"]

def circularModel : TypeModel :=
  TypeFacts.model circularFacts []

/-- A memo that knows one of the types without having finished its resolution. -/
def partialMemo : Memo :=
  Memo.addUnmarked {} "a.A"

theorem circularFacts_walks_end :
    (∃ found, Ancestry.resolveWithin circularModel {} 3 partialMemo "a.C" = some found ∧
      found.queries =
        [.superclass "a.C", .superclass "a.A", .marked "a.B", .superclass "a.B"]) ∧
      circularModel.enclosingLinks.IsLine "a.A" ["a.A", "a.B"] ∧
      (Identity.of circularModel "a.A").flattenedName = "B$A" ∧
      circularModel.enclosingLinks.IsLine "a.C" ["a.C", "z.Gone"] ∧
      (Identity.of circularModel "a.C").flattenedName = "Gone$C" := by
  obtain ⟨passes, -, -, name⟩ := walks_end circularModel {} partialMemo "a.C"
  obtain ⟨-, -, -, name'⟩ := walks_end circularModel {} partialMemo "a.A"
  obtain ⟨line, isLine, -, hname⟩ := name _ rfl
  obtain ⟨line', isLine', -, hname'⟩ := name' _ rfl
  obtain rfl : line = ["a.C", "z.Gone"] := isLine.eq_path.trans (by decide +kernel)
  obtain rfl : line' = ["a.A", "a.B"] := isLine'.eq_path.trans (by decide +kernel)
  refine ⟨⟨_, (passes 3 (by decide)).1, by decide +kernel⟩, isLine', ?_, isLine, ?_⟩
  · rw [hname']
    decide +kernel
  · rw [hname]
    decide +kernel

end TypeModel

end Companion
