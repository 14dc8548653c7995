import Companion.Proofs.Climb

/-!
# Superclasses in circles

A model may have superclasses that run in circles. A climb ends where it comes back to its start, so
a marked type is not its own ancestor, while from any other type of its circle the climb comes to it.
The two ways of looking for the first marked type differ for such a type only: for one that is marked
and that its superclasses come back to past unmarked types.
-/

namespace Companion

namespace Ancestry

variable (m : TypeModel) (config : Config)

/-- The artifact of the first marked type from a type on. -/
def firstFrom (n : QName) : Option QName :=
  firstMarked m config (m.superclassLinks.path n)

/-- The artifact of the first marked type from the superclass of a type on. This may be the type
itself. -/
def firstAbove (n : QName) : Option QName :=
  (m.superclass n).bind (firstFrom m config)

/-- The superclasses of a marked type come back to it, past types that are not marked. -/
structure RunsBack (n : QName) : Prop where
  kept : config.isExcluded n = false
  marked : m.declaresMarked n = true
  back : m.superclassLinks.repeated? n = some n
  passed : ∀ s ∈ m.superclassLinks.beyond n, Passed m config s

variable {m config}

lemma firstMarked_append_of_passed {line : List QName} (h : ∀ s ∈ line, Passed m config s)
    (rest : List QName) : firstMarked m config (line ++ rest) = firstMarked m config rest := by
  induction line with
  | nil => rfl
  | cons s line ih =>
    obtain ⟨hs, hline⟩ := List.forall_mem_cons.mp h
    rw [List.cons_append, firstMarked_of_unmarked hs.1 hs.2, ih hline]

/-- What comes after a type that ends the climb does not matter. -/
lemma firstMarked_append_of_not_passed {line : List QName} (h : ¬∀ s ∈ line, Passed m config s)
    (rest : List QName) : firstMarked m config (line ++ rest) = firstMarked m config line := by
  induction line with
  | nil => exact absurd (fun s hs => absurd hs List.not_mem_nil) h
  | cons s line ih =>
    rw [List.cons_append]
    cases hx : config.isExcluded s with
    | true => rw [firstMarked_of_excluded hx, firstMarked_of_excluded hx]
    | false =>
      cases hm : m.declaresMarked s with
      | true => rw [firstMarked_of_marked hx hm, firstMarked_of_marked hx hm]
      | false =>
        rw [firstMarked_of_unmarked hx hm, firstMarked_of_unmarked hx hm]
        exact ih fun hline => h (List.forall_mem_cons.mpr ⟨⟨hx, hm⟩, hline⟩)

lemma firstMarked_of_passed {line : List QName} (h : ∀ s ∈ line, Passed m config s) :
    firstMarked m config line = none := by
  have happend := firstMarked_append_of_passed h []
  rwa [List.append_nil] at happend

/-- The first marked type above is the nearest marked ancestor, if it is not the type itself. -/
lemma firstAbove_eq (n : QName) :
    firstAbove m config n = nearest m config n ∨
      RunsBack m config n ∧ firstAbove m config n = some (artifactName m config n) := by
  cases hs : m.superclass n with
  | none =>
    left
    rw [firstAbove, hs, nearest, Graph.Links.beyond_of_next_none hs]
    rfl
  | some above =>
    have hlink : m.superclassLinks.next n = some above := hs
    have habove : firstAbove m config n = firstMarked m config (m.superclassLinks.path above) := by
      rw [firstAbove, hs]
      rfl
    rw [habove, Graph.Links.path_of_next_some hlink]
    split
    · next hback =>
      by_cases passed : ∀ s ∈ m.superclassLinks.beyond n, Passed m config s
      · rw [firstMarked_append_of_passed passed, nearest, firstMarked_of_passed passed]
        cases hx : config.isExcluded n with
        | true => exact Or.inl (firstMarked_of_excluded hx)
        | false =>
          cases hm : m.declaresMarked n with
          | true => exact Or.inr ⟨⟨hx, hm, hback, passed⟩, firstMarked_of_marked hx hm⟩
          | false => exact Or.inl (firstMarked_of_unmarked hx hm)
      · exact Or.inl (firstMarked_append_of_not_passed passed _)
    · rw [List.append_nil]
      exact Or.inl rfl

lemma firstAbove_of_passed {n : QName} (h : Passed m config n) :
    firstAbove m config n = nearest m config n := by
  rcases firstAbove_eq n with heq | ⟨hback, -⟩
  · exact heq
  · have hm := hback.marked
    rw [h.2] at hm
    cases hm

lemma firstFrom_of_passed {n : QName} (h : Passed m config n) :
    firstFrom m config n = firstAbove m config n := by
  rw [firstFrom, Graph.Links.path_eq_cons_beyond, firstMarked_of_unmarked h.1 h.2,
    firstAbove_of_passed h, nearest]

lemma firstFrom_of_past {n above : QName} (h : Passed m config n)
    (hs : m.superclass n = some above) : firstFrom m config n = firstFrom m config above := by
  rw [firstFrom_of_passed h, firstAbove, hs]
  rfl

/-- Along a walk past unmarked types the first marked type ahead stays the same. -/
lemma firstFrom_of_mem_walk {seen : List QName} {n s : QName}
    (passed : ∀ a ∈ (m.superclassLinks.walk seen n).1, Passed m config a)
    (hs : s ∈ (m.superclassLinks.walk seen n).1) :
    firstFrom m config s = firstFrom m config n := by
  induction hk : Graph.unseen m.superclassLinks.sources seen using Nat.strongRecOn
    generalizing seen n with
  | ind k ih =>
    by_cases hn : n ∈ seen
    · rw [Graph.Links.walk_of_mem _ hn] at hs
      cases hs
    · cases habove : m.superclassLinks.next n with
      | none =>
        rw [Graph.Links.walk_of_next_none _ hn habove] at hs
        rw [List.mem_singleton.mp hs]
      | some above =>
        rw [Graph.Links.walk_of_next_some _ hn habove] at hs passed
        obtain ⟨hp, hrest⟩ := List.forall_mem_cons.mp passed
        rcases List.mem_cons.mp hs with rfl | hs
        · rfl
        · have hlt := Graph.unseen_cons_lt
            (m.superclassLinks.mem_sources n (by simp [habove])) hn
          rw [ih _ (hk ▸ hlt) hrest hs rfl, firstFrom_of_past hp habove]

namespace RunsBack

variable {n : QName} (h : RunsBack m config n)
include h

lemma nearest_eq_none : nearest m config n = none :=
  firstMarked_of_passed h.passed

lemma firstAbove_eq_self : firstAbove m config n = some (artifactName m config n) := by
  cases hs : m.superclass n with
  | none =>
    have hback := h.back
    rw [Graph.Links.repeated?, Graph.Links.walk_of_next_none _ List.not_mem_nil hs] at hback
    cases hback
  | some above =>
    have hlink : m.superclassLinks.next n = some above := hs
    have habove : firstAbove m config n = firstMarked m config (m.superclassLinks.path above) := by
      rw [firstAbove, hs]
      rfl
    rw [habove, Graph.Links.path_of_next_some hlink, if_pos h.back,
      firstMarked_append_of_passed h.passed, firstMarked_of_marked h.kept h.marked]

lemma exists_superclass : ∃ above, m.superclass n = some above := by
  cases hs : m.superclass n with
  | some above => exact ⟨above, rfl⟩
  | none =>
    have heq := h.firstAbove_eq_self
    rw [firstAbove, hs] at heq
    cases heq

/-- From any type of the circle the climb comes to the marked one. -/
lemma firstFrom_eq_self {s : QName} (hs : s ∈ m.superclassLinks.beyond n) :
    firstFrom m config s = some (artifactName m config n) := by
  obtain ⟨above, habove⟩ := h.exists_superclass
  have hwalk := Graph.Links.beyond_eq_walk (l := m.superclassLinks) habove
  have passed := h.passed
  rw [hwalk] at hs passed
  have heq := h.firstAbove_eq_self
  rw [firstAbove, habove] at heq
  exact (firstFrom_of_mem_walk passed hs).trans heq

end RunsBack

/-- No type is its own nearest marked ancestor, where its artifact is told from those of the types
above it. -/
lemma nearest_ne_self {n : QName} (distinct : ∀ s ∈ m.superclassLinks.beyond n,
    artifactName m config s ≠ artifactName m config n) :
    nearest m config n ≠ some (artifactName m config n) := by
  intro h
  obtain ⟨s, hs, -, heq⟩ := exists_of_nearest_eq_some h
  exact distinct s hs heq

end Ancestry

end Companion
