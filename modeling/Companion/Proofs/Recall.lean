import Companion.Proofs.Circles
import Companion.TypeModel.Facts
import Mathlib.Tactic.ByContra

/-!
# Earlier questions

What was found for a type of a circle was found from another start than that of the marked type of
the circle, and the climb of the marked type may take it over: then the type is resolved to its own
artifact. This is the only way in which earlier questions can change an answer. It can happen if and
only if another type extends one of the unmarked types that the marked one runs back past.
-/

namespace Companion

/-- A finished resolution found the nearest marked ancestor, or else the first marked type above. -/
structure Memo.Grounded (m : TypeModel) (config : Config) (memo : Memo) : Prop extends
    Memo.Faithful m config memo where
  ancestors : ∀ n found, memo.ancestor? n = some found →
    found = Ancestry.nearest m config n ∨ found = Ancestry.firstAbove m config n

namespace Memo.Grounded

variable {m : TypeModel} {config : Config} {memo : Memo}

lemma empty : Grounded m config {} where
  toFaithful := .empty
  ancestors _ _ h := by cases h

lemma addAncestor (h : memo.Grounded m config) {n : QName} {found : Option QName}
    (hf : found = Ancestry.nearest m config n ∨ found = Ancestry.firstAbove m config n) :
    (memo.addAncestor n found).Grounded m config where
  marked := h.marked
  unmarked := h.unmarked
  ancestors a known ha := by
    rw [ancestor?_addAncestor] at ha
    split at ha
    · next han =>
      subst han
      exact Option.some.inj ha ▸ hf
    · exact h.ancestors a known ha

lemma noteUnmarked (h : memo.Grounded m config) {n : QName} (hp : Ancestry.Passed m config n) :
    (memo.noteUnmarked n).Grounded m config where
  toFaithful := h.toFaithful.noteUnmarked hp.1 hp.2
  ancestors a found ha := by
    rw [ancestor?, ancestors_noteUnmarked] at ha
    exact h.ancestors a found ha

lemma addInfo (h : memo.Grounded m config) (info : TypeInfo) :
    (memo.addInfo info).Grounded m config where
  marked := h.marked
  unmarked := h.unmarked
  ancestors := h.ancestors

end Memo.Grounded

namespace Ancestry

variable {m : TypeModel} {config : Config} {seen : List QName} {memo : Memo} {n : QName}
  {result : Option QName × Memo}

lemma Climb.grounded (h : Climb m config seen memo n result) (hg : memo.Grounded m config) :
    result.2.Grounded m config where
  toFaithful := h.faithful hg.toFaithful
  ancestors a found ha := by
    rw [Memo.ancestor?, h.ancestors_eq] at ha
    exact hg.ancestors a found ha

/-- A climb finds the first marked type of its walk. Only if it takes over a finished resolution may
it find one that it has been to. -/
lemma Climb.found (h : Climb m config seen memo n result) (hg : memo.Grounded m config) :
    result.1 = firstMarked m config (m.superclassLinks.walk seen n).1 ∨
      memo.ancestors ≠ [] ∧ result.1 = firstFrom m config n := by
  induction h with
  | @stopped seen memo n h =>
    left
    by_cases hn : n ∈ seen
    · rw [Graph.Links.walk_of_mem _ hn]
      rfl
    · obtain ⟨rest, hrest⟩ := m.superclassLinks.walk_eq_cons hn
      rw [hrest, firstMarked_of_excluded (h.resolve_left hn)]
  | marked hn hx hm =>
    obtain ⟨rest, hrest⟩ := m.superclassLinks.walk_eq_cons hn
    exact Or.inl (by rw [hrest, firstMarked_of_marked hx hm])
  | @resolved seen memo n found hn hp hu ha =>
    refine Or.inr ⟨fun hnil => ?_, ?_⟩
    · rw [Memo.ancestor?, hnil] at ha
      cases ha
    · rw [firstFrom_of_passed hp]
      rcases hg.ancestors n found ha with hf | hf
      · exact hf.trans (firstAbove_of_passed hp).symm
      · exact hf
  | top hn hp _ hs =>
    left
    rw [Graph.Links.walk_of_next_none _ hn hs, firstMarked_of_unmarked hp.1 hp.2]
    rfl
  | past hn hp _ hs _ ih =>
    rcases ih (hg.noteUnmarked hp) with heq | ⟨hne, heq⟩
    · left
      rw [heq, Graph.Links.walk_of_next_some _ hn hs, firstMarked_of_unmarked hp.1 hp.2]
    · right
      rw [Memo.ancestors_noteUnmarked] at hne
      exact ⟨hne, heq.trans (firstFrom_of_past hp hs).symm⟩

/-- A climb past unmarked types that comes to one with a finished resolution finds the first marked
type ahead, even if it is one that it has been to. -/
lemma Climb.found_of_resolved (h : Climb m config seen memo n result)
    (hg : memo.Grounded m config)
    (passed : ∀ a ∈ (m.superclassLinks.walk seen n).1, Passed m config a) {s : QName}
    (hs : s ∈ (m.superclassLinks.walk seen n).1) (hu : memo.isUnmarked s = true)
    (ha : memo.ancestor? s ≠ none) : result.1 = firstFrom m config n := by
  induction h with
  | @stopped seen memo n h =>
    by_cases hn : n ∈ seen
    · rw [Graph.Links.walk_of_mem _ hn] at hs
      cases hs
    · obtain ⟨rest, hrest⟩ := m.superclassLinks.walk_eq_cons hn
      rw [hrest] at passed
      have hx := (passed _ List.mem_cons_self).1
      rw [h.resolve_left hn] at hx
      cases hx
  | marked hn _ hm =>
    obtain ⟨rest, hrest⟩ := m.superclassLinks.walk_eq_cons hn
    rw [hrest] at passed
    have hm' := (passed _ List.mem_cons_self).2
    rw [hm] at hm'
    cases hm'
  | @resolved seen memo n found hn hp _ hf =>
    rw [firstFrom_of_passed hp]
    rcases hg.ancestors n found hf with hf | hf
    · exact hf.trans (firstAbove_of_passed hp).symm
    · exact hf
  | top hn _ hr hlast =>
    rw [Graph.Links.walk_of_next_none _ hn hlast] at hs
    rw [List.mem_singleton.mp hs] at hu ha
    exact absurd (hr hu) ha
  | @past seen memo n above result hn hp hr habove _ ih =>
    rw [Graph.Links.walk_of_next_some _ hn habove] at hs passed
    rcases List.mem_cons.mp hs with rfl | hs
    · exact absurd (hr hu) ha
    · have hu' := (Memo.isUnmarked_noteUnmarked_iff memo n s).mpr (Or.inr hu)
      have ha' : (memo.noteUnmarked n).ancestor? s ≠ none := by
        rwa [Memo.ancestor?, Memo.ancestors_noteUnmarked]
      rw [ih (hg.noteUnmarked hp) (List.forall_mem_cons.mp passed).2 hs hu' ha',
        firstFrom_of_past hp habove]

/-- A climb finds types to be unmarked only along the links that it follows. -/
lemma Climb.isUnmarked_of_closed (h : Climb m config seen memo n result) {line : List QName}
    (closed : ∀ p s, Passed m config p → m.superclass p = some s → s ∈ line → p ∈ line)
    (hn : n ∉ line) (hu : ∀ s ∈ line, memo.isUnmarked s = false) :
    ∀ s ∈ line, result.2.isUnmarked s = false := by
  have note : ∀ {memo : Memo} {n : QName}, n ∉ line → (∀ s ∈ line, memo.isUnmarked s = false) →
      ∀ s ∈ line, (memo.noteUnmarked n).isUnmarked s = false := by
    intro memo n hn hu s hs
    refine Bool.eq_false_iff.mpr fun hmem => ?_
    rcases (Memo.isUnmarked_noteUnmarked_iff memo n s).mp hmem with rfl | hmem
    · exact hn hs
    · rw [hu s hs] at hmem
      cases hmem
  induction h with
  | stopped _ => exact hu
  | marked _ _ _ => simpa [Memo.isUnmarked] using hu
  | resolved _ _ _ _ => exact hu
  | top _ _ _ _ => exact note hn hu
  | past _ hp _ habove _ ih =>
    exact ih (fun hmem => hn (closed _ _ hp habove hmem)) (note hn hu)

/-- What is known after requests that share a memo. -/
def memoAfter (m : TypeModel) (config : Config) (rs : List Request) : Memo :=
  rs.foldl (fun memo r => (serve m config memo r).2) {}

/-- What every resolution keeps holds after all requests. -/
lemma memoAfter_induction {P : Memo → Prop} (empty : P {})
    (resolve : ∀ memo n, P memo → P (resolve m config memo n).answer.2)
    (addInfo : ∀ memo info, P memo → P (memo.addInfo info)) (rs : List Request) :
    P (memoAfter m config rs) := by
  have step : ∀ memo r, P memo → P (serve m config memo r).2 := by
    intro memo r h
    cases r with
    | ancestor n => exact resolve memo n h
    | info n =>
      rw [serve, typeInfo]
      split
      · exact h
      · exact addInfo _ _ (resolve memo n h)
  have steps : ∀ memo, P memo →
      P (rs.foldl (fun memo r => (serve m config memo r).2) memo) := by
    induction rs with
    | nil => exact fun memo h => h
    | cons r rs ih => exact fun memo h => ih _ (step memo r h)
  exact steps {} empty

/-- A resolution finds the nearest marked ancestor or, with finished resolutions to take over, the
type itself. -/
lemma resolve_grounded (hg : memo.Grounded m config) (n : QName) :
    ((resolve m config memo n).answer.1 = nearest m config n ∨
        memo.ancestors ≠ [] ∧ (resolve m config memo n).answer.1 = firstAbove m config n) ∧
      (resolve m config memo n).answer.2.Grounded m config := by
  cases ha : memo.ancestor? n with
  | some found =>
    rw [resolve_of_known ha]
    refine ⟨(hg.ancestors n found ha).imp id fun hf => ⟨fun hnil => ?_, hf⟩, hg⟩
    rw [Memo.ancestor?, hnil] at ha
    cases ha
  | none =>
    cases hs : m.superclass n with
    | none =>
      have hnearest : nearest m config n = none := by
        rw [nearest, Graph.Links.beyond_of_next_none hs]
        rfl
      rw [resolve_of_top ha hs]
      exact ⟨Or.inl hnearest.symm, hg.addAncestor (Or.inl hnearest.symm)⟩
    | some above =>
      have climbs := climb_climbs hg.toFaithful [n] above
      have hfound := climbs.found hg
      rw [← Graph.Links.beyond_eq_walk hs] at hfound
      have habove : firstAbove m config n = firstFrom m config above := by
        rw [firstAbove, hs]
        rfl
      rw [← habove] at hfound
      rw [resolve_of_above ha hs]
      exact ⟨hfound, (climbs.grounded hg).addAncestor (hfound.imp id And.right)⟩

lemma memoAfter_grounded (rs : List Request) : (memoAfter m config rs).Grounded m config :=
  memoAfter_induction (P := Memo.Grounded m config) .empty
    (fun _ n hg => (resolve_grounded hg n).2) (fun _ info hg => hg.addInfo info) rs

/-- Without earlier questions a resolution finds the nearest marked ancestor. -/
lemma resolve_empty (m : TypeModel) (config : Config) (n : QName) :
    (resolve m config {} n).answer.1 = nearest m config n := by
  rcases (resolve_grounded (.empty : Memo.Grounded m config {}) n).1 with heq | ⟨hne, -⟩
  · exact heq
  · exact absurd rfl hne

lemma isUnmarked_resolve_mono (hf : memo.Faithful m config) (n : QName) {a : QName}
    (hu : memo.isUnmarked a = true) :
    (resolve m config memo n).answer.2.isUnmarked a = true := by
  cases ha : memo.ancestor? n with
  | some found => rwa [resolve_of_known ha]
  | none =>
    cases hs : m.superclass n with
    | none =>
      rw [resolve_of_top ha hs]
      exact hu
    | some above =>
      rw [resolve_of_above ha hs]
      exact (climb_climbs hf [n] above).isUnmarked_mono hu

namespace RunsBack

variable (h : RunsBack m config n)
include h

/-- Once a type of the circle is known to be unmarked and resolved, the marked one is resolved to
itself. -/
lemma resolve_eq_self (hg : memo.Grounded m config) (hn : memo.ancestor? n = none) {s : QName}
    (hs : s ∈ m.superclassLinks.beyond n) (hu : memo.isUnmarked s = true)
    (ha : memo.ancestor? s ≠ none) :
    (resolve m config memo n).answer.1 = some (artifactName m config n) := by
  obtain ⟨above, habove⟩ := h.exists_superclass
  have hwalk := Graph.Links.beyond_eq_walk (l := m.superclassLinks) habove
  have passed := h.passed
  rw [hwalk] at hs passed
  have heq := h.firstAbove_eq_self
  rw [firstAbove, habove] at heq
  rw [resolve_of_above hn habove]
  exact ((climb_climbs hg.toFaithful [n] above).found_of_resolved hg passed hs hu ha).trans heq

/-- A type of the circle does not extend itself. -/
lemma superclass_ne_self {s : QName} (hs : s ∈ m.superclassLinks.beyond n) :
    m.superclass s ≠ some s := by
  intro hself
  have hlink : m.superclassLinks.next s = some s := hself
  have hpath : m.superclassLinks.path s = [s] := by
    rw [Graph.Links.path, Graph.Links.walk_of_next_some _ List.not_mem_nil hlink,
      Graph.Links.walk_of_mem _ List.mem_cons_self]
  have heq := h.firstFrom_eq_self hs
  rw [firstFrom, hpath, firstMarked_of_passed (by simpa using h.passed s hs)] at heq
  cases heq

/-- Where another type extends one of the circle, two requests make the marked type its own
ancestor. -/
lemma resolve_after_two {p s : QName} (hne : p ≠ n) (hp : m.superclass p = some s)
    (hs : s ∈ m.superclassLinks.beyond n) :
    (resolve m config (memoAfter m config [.ancestor p, .ancestor s]) n).answer.1 =
      some (artifactName m config n) := by
  have hsp : s ≠ p := by
    rintro rfl
    exact h.superclass_ne_self hs hp
  have hsn : s ≠ n := by
    rintro rfl
    exact Graph.Links.notMem_beyond s hs
  have hempty := (.empty : Memo.Grounded m config {})
  have hfirst := (resolve_grounded hempty p).2
  have hu : (resolve m config {} p).answer.2.isUnmarked s = true := by
    rw [resolve_of_above rfl hp]
    exact (climb_climbs .empty [p] s).isUnmarked_self (by simpa using hsp) (h.passed s hs)
  have hsecond := (resolve_grounded hfirst s).2
  have hafter : memoAfter m config [.ancestor p, .ancestor s] =
      (resolve m config (resolve m config {} p).answer.2 s).answer.2 := rfl
  rw [hafter]
  refine h.resolve_eq_self hsecond ?_ hs (isUnmarked_resolve_mono hfirst.toFaithful s hu) ?_
  · rw [ancestor?_resolve hfirst.toFaithful, if_neg (Ne.symm hsn),
      ancestor?_resolve hempty.toFaithful, if_neg (Ne.symm hne)]
    rfl
  · rw [ancestor?_resolve hfirst.toFaithful, if_pos rfl]
    exact Option.some_ne_none _

/-- What is known as long as the circle can only be entered at the marked type: its resolution has
found nothing, and before it no type of the circle is known to be unmarked. -/
structure Untouched (m : TypeModel) (config : Config) (n : QName) (memo : Memo) : Prop where
  grounded : memo.Grounded m config
  ancestor : ∀ found, memo.ancestor? n = some found → found = none
  unmarked : memo.ancestor? n = none →
    ∀ s ∈ m.superclassLinks.beyond n, memo.isUnmarked s = false

variable (alone : ∀ p s, m.superclass p = some s → s ∈ m.superclassLinks.beyond n → p = n)
include alone

lemma resolve_of_untouched (hm : Untouched m config n memo) :
    (resolve m config memo n).answer.1 = none := by
  cases ha : memo.ancestor? n with
  | some found =>
    rw [resolve_of_known ha]
    exact hm.ancestor found ha
  | none =>
    obtain ⟨above, habove⟩ := h.exists_superclass
    have hwalk := Graph.Links.beyond_eq_walk (l := m.superclassLinks) habove
    rw [resolve_of_above ha habove]
    have climbs := climb_climbs hm.grounded.toFaithful [n] above
    -- The circle has one type besides the marked one at most: it would be the other's superclass.
    generalize (climb m config [n] memo above).answer = result at climbs
    cases climbs with
    | stopped _ => rfl
    | marked hn _ hmarked =>
      obtain ⟨rest, hrest⟩ := m.superclassLinks.walk_eq_cons hn
      have hpassed := h.passed above (by rw [hwalk, hrest]; exact List.mem_cons_self)
      rw [hpassed.2] at hmarked
      cases hmarked
    | resolved hn _ hu _ =>
      obtain ⟨rest, hrest⟩ := m.superclassLinks.walk_eq_cons hn
      have hu' := hm.unmarked ha above (by rw [hwalk, hrest]; exact List.mem_cons_self)
      rw [hu'] at hu
      cases hu
    | top _ _ _ _ => rfl
    | @past _ _ _ next _ hn hp _ hs hclimb =>
      have hne : above ≠ n := by simpa using hn
      have hseen : next ∈ [above, n] := by
        by_contra hnext
        obtain ⟨rest, hrest⟩ := m.superclassLinks.walk_eq_cons hnext
        have hmem : next ∈ m.superclassLinks.beyond n := by
          rw [hwalk, Graph.Links.walk_of_next_some _ hn hs, hrest]
          exact List.mem_cons_of_mem above List.mem_cons_self
        exact hne (alone above next hs hmem)
      cases hclimb with
      | stopped _ => rfl
      | marked hnext _ _ => exact absurd hseen hnext
      | resolved hnext _ _ _ => exact absurd hseen hnext
      | top _ _ _ _ => rfl
      | past hnext _ _ _ _ => exact absurd hseen hnext

lemma untouched_resolve (hm : Untouched m config n memo) (p : QName) :
    Untouched m config n (resolve m config memo p).answer.2 := by
  have hf := hm.grounded.toFaithful
  refine ⟨(resolve_grounded hm.grounded p).2, fun found hfound => ?_, fun hnone => ?_⟩
  · rw [ancestor?_resolve hf] at hfound
    split at hfound
    · next hnp =>
      subst hnp
      exact (Option.some.inj hfound).symm.trans (h.resolve_of_untouched alone hm)
    · exact hm.ancestor found hfound
  · rw [ancestor?_resolve hf] at hnone
    split at hnone
    · cases hnone
    · next hnp =>
      cases ha : memo.ancestor? p with
      | some found =>
        rw [resolve_of_known ha]
        exact hm.unmarked hnone
      | none =>
        cases hs : m.superclass p with
        | none =>
          rw [resolve_of_top ha hs]
          exact hm.unmarked hnone
        | some above =>
          have closed : ∀ q s, Passed m config q → m.superclass q = some s →
              s ∈ m.superclassLinks.beyond n → q ∈ m.superclassLinks.beyond n := by
            intro q s hq hqs hmem
            have hmarked := h.marked
            rw [← alone q s hqs hmem, hq.2] at hmarked
            cases hmarked
          rw [resolve_of_above ha hs]
          exact (climb_climbs hf [p] above).isUnmarked_of_closed closed
            (fun hmem => hnp (alone p above hs hmem).symm) (hm.unmarked hnone)

lemma memoAfter_untouched (rs : List Request) :
    Untouched m config n (memoAfter m config rs) :=
  memoAfter_induction (P := Untouched m config n)
    ⟨.empty, fun _ hfound => (Option.some_ne_none _ hfound.symm).elim, fun _ _ _ => rfl⟩
    (fun _ p hm => h.untouched_resolve alone hm p)
    (fun _ info hm => ⟨hm.grounded.addInfo info, hm.ancestor, hm.unmarked⟩) rs

end RunsBack

/-- A request is answered as if nothing had been asked before, except for a marked type that its
superclasses run back to: once its circle has been climbed from another type, it may be resolved to
its own artifact. Without such a circle no type is. -/
theorem resolve_after_requests (m : TypeModel) (config : Config) (n : QName) :
    (resolve m config {} n).answer.1 = nearest m config n ∧
      (∀ rs, (resolve m config (memoAfter m config rs) n).answer.1 = nearest m config n ∨
        RunsBack m config n ∧ (resolve m config (memoAfter m config rs) n).answer.1 =
          some (artifactName m config n)) ∧
      ((∃ rs, (resolve m config (memoAfter m config rs) n).answer.1 ≠
          (resolve m config {} n).answer.1) ↔
        RunsBack m config n ∧ ∃ p s, p ≠ n ∧ m.superclass p = some s ∧
          s ∈ m.superclassLinks.beyond n) ∧
      ((∀ s ∈ m.superclassLinks.beyond n, artifactName m config s ≠ artifactName m config n) →
        (resolve m config {} n).answer.1 ≠ some (artifactName m config n) ∧
          ∀ rs, (resolve m config (memoAfter m config rs) n).answer.1 =
            some (artifactName m config n) → RunsBack m config n) := by
  have answers : ∀ rs, (resolve m config (memoAfter m config rs) n).answer.1 =
      nearest m config n ∨ RunsBack m config n ∧
        (resolve m config (memoAfter m config rs) n).answer.1 =
          some (artifactName m config n) := by
    intro rs
    rcases (resolve_grounded (memoAfter_grounded rs) n).1 with heq | ⟨-, heq⟩
    · exact Or.inl heq
    · rw [heq]
      exact firstAbove_eq n
  refine ⟨resolve_empty m config n, answers, ⟨?_, ?_⟩, fun distinct => ⟨?_, fun rs hself => ?_⟩⟩
  · rintro ⟨rs, hne⟩
    rw [resolve_empty] at hne
    obtain ⟨hback, -⟩ := (answers rs).resolve_left hne
    refine ⟨hback, ?_⟩
    by_contra hnone
    have alone : ∀ p s, m.superclass p = some s → s ∈ m.superclassLinks.beyond n → p = n := by
      intro p s hp hs
      by_contra hpn
      exact hnone ⟨p, s, hpn, hp, hs⟩
    have hanswer := hback.resolve_of_untouched alone (hback.memoAfter_untouched alone rs)
    rw [hanswer, hback.nearest_eq_none] at hne
    exact hne rfl
  · rintro ⟨hback, p, s, hpn, hp, hs⟩
    refine ⟨[.ancestor p, .ancestor s], ?_⟩
    rw [hback.resolve_after_two hpn hp hs, resolve_empty, hback.nearest_eq_none]
    exact Option.some_ne_none _
  · rw [resolve_empty]
    exact nearest_ne_self distinct
  · refine ((answers rs).resolve_left fun heq => ?_).1
    exact nearest_ne_self distinct (heq.symm.trans hself)

/-- A marked class and an unmarked one that extend each other, and a class below them. -/
def circleModel : TypeModel :=
  TypeFacts.model
    [{ name := "a.A", element := none, package := [], superclass := some "a.B", marked := true,
       assignable := [] },
      { name := "a.B", element := none, package := [], superclass := some "a.A", marked := false,
        assignable := [] },
      { name := "a.C", element := none, package := [], superclass := some "a.B", marked := false,
        assignable := [] }] []

lemma circleModel_artifacts_distinct : ∀ s ∈ circleModel.superclassLinks.beyond "a.A",
    artifactName circleModel {} s ≠ artifactName circleModel {} "a.A" := by
  decide +kernel

lemma circleModel_answers :
    (resolve circleModel {} {} "a.A").answer.1 = none ∧
      (resolve circleModel {} (memoAfter circleModel {} [.ancestor "a.C", .ancestor "a.B"])
        "a.A").answer.1 = some (artifactName circleModel {} "a.A") := by
  decide +kernel

/-- The marked class is not its own ancestor at first. Since it is later, its superclasses run back
to it. -/
theorem circleModel_runsBack :
    (∀ s ∈ circleModel.superclassLinks.beyond "a.A",
        artifactName circleModel {} s ≠ artifactName circleModel {} "a.A") ∧
      (resolve circleModel {} {} "a.A").answer.1 ≠ some (artifactName circleModel {} "a.A") ∧
      RunsBack circleModel {} "a.A" := by
  obtain ⟨hfirst, hruns⟩ :=
    (resolve_after_requests circleModel {} "a.A").2.2.2 circleModel_artifacts_distinct
  exact ⟨circleModel_artifacts_distinct, hfirst, hruns _ circleModel_answers.2⟩

/-- Two requests for other classes change the answer for the marked class: it is resolved to its own
artifact. -/
theorem resolve_depends_on_requests :
    (¬∀ (m : TypeModel) (config : Config) (rs : List Request) (n : QName),
        (resolve m config (memoAfter m config rs) n).answer.1 =
          (resolve m config {} n).answer.1) ∧
      ¬∀ (m : TypeModel) (config : Config) (rs : List Request) (n : QName),
        (∀ s ∈ m.superclassLinks.beyond n,
            artifactName m config s ≠ artifactName m config n) →
          (resolve m config (memoAfter m config rs) n).answer.1 ≠
            some (artifactName m config n) := by
  constructor
  · intro independent
    have heq := independent circleModel {} [.ancestor "a.C", .ancestor "a.B"] "a.A"
    rw [circleModel_answers.1, circleModel_answers.2] at heq
    cases heq
  · intro never
    exact never circleModel {} [.ancestor "a.C", .ancestor "a.B"] "a.A"
      circleModel_artifacts_distinct circleModel_answers.2

end Ancestry

end Companion
