import Companion.Proofs.Ancestry

/-!
# Climbs, case by case

With a memo that is true of the model a climb does one of five things at a type: it ends there, it
takes the type's own artifact, it takes over what was found for the type, it comes to the top, or it
goes on. The relation says so without the order in which the memo and the model are asked.
-/

namespace Companion

namespace Memo

/-- The memo in which a type is known to be unmarked. -/
def noteUnmarked (memo : Memo) (n : QName) : Memo :=
  if memo.isUnmarked n then memo else memo.addUnmarked n

/-- The memo in which a type is known to be marked. -/
def noteMarked (memo : Memo) (n artifact : QName) : Memo :=
  if (memo.markedArtifact? n).isSome then memo else memo.addMarked n artifact

variable (memo : Memo) (n a : QName)

lemma isUnmarked_addUnmarked_iff :
    (memo.addUnmarked n).isUnmarked a = true ↔ a = n ∨ memo.isUnmarked a = true := by
  simp [isUnmarked, addUnmarked]

lemma isUnmarked_noteUnmarked_iff :
    (memo.noteUnmarked n).isUnmarked a = true ↔ a = n ∨ memo.isUnmarked a = true := by
  rw [noteUnmarked]
  split
  · next hn => exact ⟨Or.inr, fun h => h.elim (fun han => han ▸ hn) id⟩
  · exact isUnmarked_addUnmarked_iff memo n a

@[simp] lemma ancestors_noteUnmarked : (memo.noteUnmarked n).ancestors = memo.ancestors := by
  rw [noteUnmarked]
  split <;> rfl

@[simp] lemma ancestors_noteMarked (artifact : QName) :
    (memo.noteMarked n artifact).ancestors = memo.ancestors := by
  rw [noteMarked]
  split <;> rfl

@[simp] lemma infos_noteUnmarked : (memo.noteUnmarked n).infos = memo.infos := by
  rw [noteUnmarked]
  split <;> rfl

@[simp] lemma infos_noteMarked (artifact : QName) :
    (memo.noteMarked n artifact).infos = memo.infos := by
  rw [noteMarked]
  split <;> rfl

@[simp] lemma marked_noteUnmarked : (memo.noteUnmarked n).marked = memo.marked := by
  rw [noteUnmarked]
  split <;> rfl

@[simp] lemma unmarked_noteMarked (artifact : QName) :
    (memo.noteMarked n artifact).unmarked = memo.unmarked := by
  rw [noteMarked]
  split <;> rfl

lemma ancestor?_addAncestor (found : Option QName) :
    (memo.addAncestor n found).ancestor? a = if a = n then some found else memo.ancestor? a :=
  Entries.lookup_cons n found memo.ancestors a

lemma markedArtifact?_addMarked (artifact : QName) :
    (memo.addMarked n artifact).markedArtifact? a =
      if a = n then some artifact else memo.markedArtifact? a :=
  Entries.lookup_cons n artifact memo.marked a

variable {memo n}

lemma noteUnmarked_of_isUnmarked (h : memo.isUnmarked n = true) : memo.noteUnmarked n = memo :=
  if_pos h

lemma noteMarked_of_markedArtifact? {artifact : QName} (h : memo.markedArtifact? n = some a) :
    memo.noteMarked n artifact = memo :=
  if_pos (by rw [h]; rfl)

end Memo

/-- A memo takes no type for marked or unmarked that the model does not, and none that is left
alone. -/
structure Memo.Faithful (m : TypeModel) (config : Config) (memo : Memo) : Prop where
  marked : ∀ n artifact, memo.markedArtifact? n = some artifact →
    config.isExcluded n = false ∧ m.declaresMarked n = true ∧
      artifact = Ancestry.artifactName m config n
  unmarked : ∀ n, memo.isUnmarked n = true →
    config.isExcluded n = false ∧ m.declaresMarked n = false

namespace Memo.Faithful

variable {m : TypeModel} {config : Config} {memo : Memo}

lemma empty : Faithful m config {} where
  marked _ _ h := by cases h
  unmarked _ h := by cases h

lemma noteMarked (h : memo.Faithful m config) {n : QName} (hx : config.isExcluded n = false)
    (hn : m.declaresMarked n = true) :
    (memo.noteMarked n (Ancestry.artifactName m config n)).Faithful m config := by
  rw [Memo.noteMarked]
  split
  · exact h
  · refine ⟨fun a artifact ha => ?_, h.unmarked⟩
    rw [markedArtifact?_addMarked] at ha
    split at ha
    · next han =>
      subst han
      exact ⟨hx, hn, (Option.some.inj ha).symm⟩
    · exact h.marked a artifact ha

lemma noteUnmarked (h : memo.Faithful m config) {n : QName} (hx : config.isExcluded n = false)
    (hn : m.declaresMarked n = false) : (memo.noteUnmarked n).Faithful m config where
  marked a artifact ha := by
    rw [markedArtifact?, marked_noteUnmarked] at ha
    exact h.marked a artifact ha
  unmarked a ha := by
    rcases (isUnmarked_noteUnmarked_iff memo n a).mp ha with rfl | ha
    · exact ⟨hx, hn⟩
    · exact h.unmarked a ha

end Memo.Faithful

lemma Memo.Sound.faithful {m : TypeModel} {config : Config} {memo : Memo}
    (h : memo.Sound m config) : memo.Faithful m config :=
  ⟨h.marked, h.unmarked⟩

namespace Ancestry

/-- A climb goes past a type that is neither left alone nor marked. -/
def Passed (m : TypeModel) (config : Config) (n : QName) : Prop :=
  config.isExcluded n = false ∧ m.declaresMarked n = false

/-- A climb at a type, past the types that were seen: what it finds, and the memo that it leaves. -/
inductive Climb (m : TypeModel) (config : Config) :
    List QName → Memo → QName → Option QName × Memo → Prop where
  | stopped {seen : List QName} {memo : Memo} {n : QName}
      (h : n ∈ seen ∨ config.isExcluded n = true) : Climb m config seen memo n (none, memo)
  | marked {seen : List QName} {memo : Memo} {n : QName} (hn : n ∉ seen)
      (hx : config.isExcluded n = false) (hm : m.declaresMarked n = true) :
      Climb m config seen memo n
        (some (artifactName m config n), memo.noteMarked n (artifactName m config n))
  | resolved {seen : List QName} {memo : Memo} {n : QName} {found : Option QName} (hn : n ∉ seen)
      (hp : Passed m config n) (hu : memo.isUnmarked n = true) (ha : memo.ancestor? n = some found) :
      Climb m config seen memo n (found, memo)
  | top {seen : List QName} {memo : Memo} {n : QName} (hn : n ∉ seen) (hp : Passed m config n)
      (hu : memo.isUnmarked n = true → memo.ancestor? n = none) (hs : m.superclass n = none) :
      Climb m config seen memo n (none, memo.noteUnmarked n)
  | past {seen : List QName} {memo : Memo} {n above : QName} {result : Option QName × Memo}
      (hn : n ∉ seen) (hp : Passed m config n)
      (hu : memo.isUnmarked n = true → memo.ancestor? n = none)
      (hs : m.superclass n = some above)
      (h : Climb m config (n :: seen) (memo.noteUnmarked n) above result) :
      Climb m config seen memo n result

variable {m : TypeModel} {config : Config}

lemma climb_climbs {memo : Memo} (h : memo.Faithful m config) (seen : List QName) (n : QName) :
    Climb m config seen memo n (climb m config seen memo n).answer := by
  fun_induction climb m config seen memo n with
  | case1 seen memo n hn => exact .stopped (Or.inl hn)
  | case2 seen memo n hn hx => exact .stopped (Or.inr hx)
  | case3 seen memo n hn hx artifact ha =>
    obtain ⟨hx, hm, rfl⟩ := h.marked n artifact ha
    have climbs : Climb m config seen memo n _ := .marked hn hx hm
    rwa [Memo.noteMarked_of_markedArtifact? _ ha] at climbs
  | case4 seen memo n hn hx ha hu found hf => exact .resolved hn (h.unmarked n hu) hu hf
  | case5 seen memo n hn hx ha hu hf hs =>
    have climbs : Climb m config seen memo n _ := .top hn (h.unmarked n hu) (fun _ => hf) hs
    rwa [Memo.noteUnmarked_of_isUnmarked hu] at climbs
  | case6 seen memo n hn hx ha hu hf above hs ih =>
    refine .past hn (h.unmarked n hu) (fun _ => hf) hs ?_
    rw [Memo.noteUnmarked_of_isUnmarked hu]
    exact ih h
  | case7 seen memo n hn hx ha hu hm =>
    have climbs : Climb m config seen memo n _ := .marked hn (by simpa using hx) hm
    rwa [Memo.noteMarked, if_neg (by rw [ha]; exact Bool.false_ne_true)] at climbs
  | case8 seen memo n hn hx ha hu hm hs =>
    have hp : Passed m config n := ⟨by simpa using hx, by simpa using hm⟩
    have climbs : Climb m config seen memo n _ := .top hn hp (fun hmem => absurd hmem hu) hs
    rwa [Memo.noteUnmarked, if_neg hu] at climbs
  | case9 seen memo n hn hx ha hu hm above hs ih =>
    have hp : Passed m config n := ⟨by simpa using hx, by simpa using hm⟩
    have hnote : memo.noteUnmarked n = memo.addUnmarked n := if_neg hu
    refine .past hn hp (fun hmem => absurd hmem hu) hs ?_
    rw [hnote]
    exact ih (hnote ▸ h.noteUnmarked hp.1 hp.2)

namespace Climb

variable {seen : List QName} {memo : Memo} {n : QName} {result : Option QName × Memo}

lemma faithful (h : Climb m config seen memo n result) (hf : memo.Faithful m config) :
    result.2.Faithful m config := by
  induction h with
  | stopped _ => exact hf
  | marked _ hx hm => exact hf.noteMarked hx hm
  | resolved _ _ _ _ => exact hf
  | top _ hp _ _ => exact hf.noteUnmarked hp.1 hp.2
  | past _ hp _ _ _ ih => exact ih (hf.noteUnmarked hp.1 hp.2)

/-- A climb finishes no resolution. -/
lemma ancestors_eq (h : Climb m config seen memo n result) :
    result.2.ancestors = memo.ancestors := by
  induction h with
  | stopped _ => rfl
  | marked _ _ _ => exact Memo.ancestors_noteMarked _ _ _
  | resolved _ _ _ _ => rfl
  | top _ _ _ _ => exact Memo.ancestors_noteUnmarked _ _
  | past _ _ _ _ _ ih => exact ih.trans (Memo.ancestors_noteUnmarked _ _)

/-- A climb describes no type. -/
lemma infos_eq (h : Climb m config seen memo n result) : result.2.infos = memo.infos := by
  induction h with
  | stopped _ => rfl
  | marked _ _ _ => exact Memo.infos_noteMarked _ _ _
  | resolved _ _ _ _ => rfl
  | top _ _ _ _ => exact Memo.infos_noteUnmarked _ _
  | past _ _ _ _ _ ih => exact ih.trans (Memo.infos_noteUnmarked _ _)

/-- What is known to be unmarked stays so. -/
lemma isUnmarked_mono (h : Climb m config seen memo n result) {a : QName}
    (ha : memo.isUnmarked a = true) : result.2.isUnmarked a = true := by
  induction h with
  | stopped _ => exact ha
  | marked _ _ _ => simpa [Memo.isUnmarked] using ha
  | resolved _ _ _ _ => exact ha
  | top _ _ _ _ => exact (Memo.isUnmarked_noteUnmarked_iff _ _ _).mpr (Or.inr ha)
  | past _ _ _ _ _ ih => exact ih ((Memo.isUnmarked_noteUnmarked_iff _ _ _).mpr (Or.inr ha))

/-- A type that a climb goes past is known to be unmarked afterwards. -/
lemma isUnmarked_self (h : Climb m config seen memo n result) (hn : n ∉ seen)
    (hp : Passed m config n) : result.2.isUnmarked n = true := by
  cases h with
  | stopped h =>
    have hx := h.resolve_left hn
    rw [hp.1] at hx
    cases hx
  | marked _ _ hm =>
    rw [hp.2] at hm
    cases hm
  | resolved _ _ hu _ => exact hu
  | top _ _ _ _ => exact (Memo.isUnmarked_noteUnmarked_iff memo n n).mpr (Or.inl rfl)
  | past _ _ _ _ h =>
    exact h.isUnmarked_mono ((Memo.isUnmarked_noteUnmarked_iff memo n n).mpr (Or.inl rfl))

end Climb

variable {memo : Memo} {n : QName}

lemma resolve_of_known {found : Option QName} (ha : memo.ancestor? n = some found) :
    (resolve m config memo n).answer = (found, memo) := by
  simp [resolve, ha]

/-- A resolution finishes itself and no other. -/
lemma ancestor?_resolve (hf : memo.Faithful m config) (n a : QName) :
    (resolve m config memo n).answer.2.ancestor? a =
      if a = n then some (resolve m config memo n).answer.1 else memo.ancestor? a := by
  cases ha : memo.ancestor? n with
  | some found =>
    rw [resolve_of_known ha]
    split
    · next han => rw [han, ha]
    · rfl
  | none =>
    cases hs : m.superclass n with
    | none => rw [resolve_of_top ha hs, Memo.ancestor?_addAncestor]
    | some above =>
      have hancestors := (climb_climbs hf [n] above).ancestors_eq
      rw [resolve_of_above ha hs, Memo.ancestor?_addAncestor, Memo.ancestor?, Memo.ancestor?,
        hancestors]

lemma infos_resolve (hf : memo.Faithful m config) (n : QName) :
    (resolve m config memo n).answer.2.infos = memo.infos := by
  cases ha : memo.ancestor? n with
  | some found => rw [resolve_of_known ha]
  | none =>
    cases hs : m.superclass n with
    | none => rw [resolve_of_top ha hs]; rfl
    | some above =>
      rw [resolve_of_above ha hs]
      exact (climb_climbs hf [n] above).infos_eq

end Ancestry

end Companion
