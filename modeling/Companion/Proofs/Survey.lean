import Companion.Proofs.Climb
import Companion.Proofs.Collection
import Mathlib.Data.List.Dedup

/-!
# Types that were inspected

A climb asks the types of a line for marked fields, up to the first that has some and before any
that is left alone. Those that the memo knows are not asked again, and a climb that stops at a
finished one leaves nothing unasked. So a round asks each type once, and which ones it asks depends
on the types that declare marked fields, not on the order in which they are taken.
-/

namespace Companion

namespace Memo

/-- The types of which it is known whether they are marked. -/
def recorded (memo : Memo) : List QName :=
  memo.marked.map Prod.fst ++ memo.unmarked

lemma length_recorded (memo : Memo) : memo.recorded.length = memo.inspected := by
  rw [recorded, inspected, List.length_append, List.length_map]

lemma mem_recorded {memo : Memo} {n : QName} :
    n ∈ memo.recorded ↔ memo.markedArtifact? n ≠ none ∨ memo.isUnmarked n = true := by
  rw [recorded, List.mem_append, markedArtifact?, Ne, Entries.lookup_eq_none_iff, not_not,
    isUnmarked, decide_eq_true_eq]

lemma info?_addInfo (memo : Memo) (info : TypeInfo) (a : QName) :
    (memo.addInfo info).info? a = if info.name = a then some info else memo.info? a := by
  by_cases ha : info.name = a <;> simp [info?, addInfo, ha]

/-- Of the types in a line, and of no other, the second memo knows more than the first whether they
are marked, and it notes none twice. -/
structure Extends (memo memo' : Memo) (line : List QName) : Prop where
  nodup : memo.recorded.Nodup → memo'.recorded.Nodup
  mem : ∀ s, s ∈ memo'.recorded ↔ s ∈ memo.recorded ∨ s ∈ line

namespace Extends

variable {memo memo' memo'' : Memo} {line line' : List QName}

lemma refl (h : ∀ s ∈ line, s ∈ memo.recorded) : memo.Extends memo line where
  nodup hn := hn
  mem s := ⟨Or.inl, fun hs => hs.elim id (h s)⟩

lemma trans (h : memo.Extends memo' line) (h' : memo'.Extends memo'' line') :
    memo.Extends memo'' (line ++ line') where
  nodup hn := h'.nodup (h.nodup hn)
  mem s := by rw [h'.mem, h.mem, List.mem_append, or_assoc]

lemma addAncestor (h : memo.Extends memo' line) (n : QName) (found : Option QName) :
    memo.Extends (memo'.addAncestor n found) line :=
  ⟨h.nodup, h.mem⟩

lemma addInfo (h : memo.Extends memo' line) (info : TypeInfo) :
    memo.Extends (memo'.addInfo info) line :=
  ⟨h.nodup, h.mem⟩

lemma mono (h : memo.Extends memo' line) {s : QName} (hs : s ∈ memo.recorded) :
    s ∈ memo'.recorded :=
  (h.mem s).mpr (Or.inl hs)

end Extends

variable {m : TypeModel} {config : Config} {memo : Memo}

lemma Faithful.extends_noteMarked (h : memo.Faithful m config) {n : QName}
    (hm : m.declaresMarked n = true) (artifact : QName) :
    memo.Extends (memo.noteMarked n artifact) [n] := by
  rw [Memo.noteMarked]
  split
  next hknown =>
    refine .refl fun s hs => ?_
    rw [List.mem_singleton.mp hs]
    exact mem_recorded.mpr (Or.inl (Option.isSome_iff_ne_none.mp hknown))
  next hnew =>
    have hn : n ∉ memo.recorded := by
      intro hmem
      rcases mem_recorded.mp hmem with hknown | hunmarked
      · exact hnew (Option.isSome_iff_ne_none.mpr hknown)
      · have hm' := (h.unmarked n hunmarked).2
        rw [hm] at hm'
        cases hm'
    have hcons : (memo.addMarked n artifact).recorded = n :: memo.recorded := rfl
    refine ⟨fun hnodup => ?_, fun s => ?_⟩
    · rw [hcons]
      exact List.nodup_cons.mpr ⟨hn, hnodup⟩
    · rw [hcons, List.mem_cons, List.mem_singleton, or_comm]

lemma Faithful.extends_noteUnmarked (h : memo.Faithful m config) {n : QName}
    (hm : m.declaresMarked n = false) : memo.Extends (memo.noteUnmarked n) [n] := by
  rw [Memo.noteUnmarked]
  split
  next hknown =>
    refine .refl fun s hs => ?_
    rw [List.mem_singleton.mp hs]
    exact mem_recorded.mpr (Or.inr hknown)
  next hnew =>
    have hn : n ∉ memo.recorded := by
      intro hmem
      rcases mem_recorded.mp hmem with hmarked | hunmarked
      · obtain ⟨artifact, hartifact⟩ := Option.ne_none_iff_exists'.mp hmarked
        have hm' := (h.marked n artifact hartifact).2.1
        rw [hm] at hm'
        cases hm'
      · exact hnew hunmarked
    have hperm : (memo.addUnmarked n).recorded.Perm (n :: memo.recorded) := List.perm_middle
    refine ⟨fun hnodup => ?_, fun s => ?_⟩
    · exact hperm.nodup_iff.mpr (List.nodup_cons.mpr ⟨hn, hnodup⟩)
    · rw [hperm.mem_iff, List.mem_cons, List.mem_singleton, or_comm]

end Memo

namespace Ancestry

/-- The types of a line that are asked for marked fields. -/
def asked (m : TypeModel) (config : Config) : List QName → List QName
  | [] => []
  | n :: line =>
    if config.isExcluded n then []
    else if m.declaresMarked n then [n]
    else n :: asked m config line

variable {m : TypeModel} {config : Config} {memo : Memo}

lemma asked_of_excluded {n : QName} (h : config.isExcluded n = true) (line : List QName) :
    asked m config (n :: line) = [] := by
  rw [asked, if_pos h]

lemma asked_of_marked {n : QName} (h : config.isExcluded n = false)
    (hn : m.declaresMarked n = true) (line : List QName) : asked m config (n :: line) = [n] := by
  rw [asked, if_neg (by simp [h]), if_pos hn]

lemma asked_of_passed {n : QName} (h : Passed m config n) (line : List QName) :
    asked m config (n :: line) = n :: asked m config line := by
  rw [asked, if_neg (by simp [h.1]), if_neg (by simp [h.2])]

end Ancestry

/-- Of a type that a memo has an answer for, all superclasses were asked that are to be. -/
structure Memo.Closed (m : TypeModel) (config : Config) (memo : Memo) : Prop where
  ancestors : ∀ n, memo.ancestor? n ≠ none →
    ∀ s ∈ Ancestry.asked m config (m.superclassLinks.beyond n), s ∈ memo.recorded
  infos : ∀ n, memo.info? n ≠ none →
    ∀ s ∈ Ancestry.asked m config (m.superclassLinks.beyond n), s ∈ memo.recorded

namespace Ancestry

variable {m : TypeModel} {config : Config} {memo : Memo}

/-- A climb asks all that is ahead. -/
lemma Climb.extends {seen : List QName} {n : QName} {result : Option QName × Memo}
    (h : Climb m config seen memo n result) (acyclic : m.superclassLinks.IsAcyclic)
    (faithful : memo.Faithful m config) (fresh : ∀ a ∈ m.superclassLinks.path n, a ∉ seen)
    (closed : ∀ a, memo.ancestor? a ≠ none →
      ∀ s ∈ asked m config (m.superclassLinks.beyond a), s ∈ memo.recorded) :
    memo.Extends result.2 (asked m config (m.superclassLinks.path n)) := by
  induction h with
  | @stopped seen memo n h =>
    have hn : n ∉ seen := fresh n (Graph.Links.path_eq_cons_beyond n ▸ List.mem_cons_self)
    rw [Graph.Links.path_eq_cons_beyond, asked_of_excluded (h.resolve_left hn)]
    exact .refl fun s hs => absurd hs List.not_mem_nil
  | marked _ hx hm =>
    rw [Graph.Links.path_eq_cons_beyond, asked_of_marked hx hm]
    exact faithful.extends_noteMarked hm _
  | @resolved seen memo n found _ hp hu ha =>
    rw [Graph.Links.path_eq_cons_beyond, asked_of_passed hp]
    refine .refl fun s hs => ?_
    rcases List.mem_cons.mp hs with rfl | hs
    · exact Memo.mem_recorded.mpr (Or.inr hu)
    · exact closed n (by simp [ha]) s hs
  | top _ hp _ hs =>
    rw [Graph.Links.path_of_next_none hs, asked_of_passed hp]
    exact faithful.extends_noteUnmarked hp.2
  | @past seen memo n above result _ hp _ hs _ ih =>
    have hnote := faithful.extends_noteUnmarked hp.2
    have habove := ih (faithful.noteUnmarked hp.1 hp.2) (acyclic.notMem_of_next_some hs fresh)
      (fun a ha s hmem => hnote.mono (closed a (by simpa [Memo.ancestor?] using ha) s hmem))
    rw [acyclic.path_of_next_some hs, asked_of_passed hp]
    exact hnote.trans habove

/-- A resolution asks all strict superclasses that are to be asked. -/
lemma resolve_extends (acyclic : m.superclassLinks.IsAcyclic) (faithful : memo.Faithful m config)
    (closed : memo.Closed m config) (n : QName) :
    memo.Extends (resolve m config memo n).answer.2
      (asked m config (m.superclassLinks.beyond n)) := by
  cases ha : memo.ancestor? n with
  | some found =>
    have hresolve : (resolve m config memo n).answer.2 = memo := by simp [resolve, ha]
    rw [hresolve]
    exact .refl (closed.ancestors n (by simp [ha]))
  | none =>
    cases hs : m.superclass n with
    | none =>
      have hrefl : memo.Extends memo [] := .refl fun s hmem => absurd hmem List.not_mem_nil
      rw [resolve_of_top ha hs, Graph.Links.beyond_of_next_none hs]
      exact hrefl.addAncestor n none
    | some above =>
      have hpath : m.superclassLinks.beyond n = m.superclassLinks.path above := by
        rw [acyclic.beyond_of_next_some hs, ← Graph.Links.path_eq_cons_beyond]
      have fresh : ∀ a ∈ m.superclassLinks.path above, a ∉ [n] :=
        acyclic.notMem_of_next_some hs fun _ _ => List.not_mem_nil
      have hclimb :=
        (climb_climbs faithful [n] above).extends acyclic faithful fresh closed.ancestors
      rw [resolve_of_above ha hs, hpath]
      exact hclimb.addAncestor n _

/-- After a resolution, all is asked of the types that were resolved or described. -/
lemma resolve_closed (acyclic : m.superclassLinks.IsAcyclic) (faithful : memo.Faithful m config)
    (closed : memo.Closed m config) (n : QName) :
    (resolve m config memo n).answer.2.Closed m config := by
  have hextends := resolve_extends acyclic faithful closed n
  refine ⟨fun a ha s hs => ?_, fun a ha s hs => ?_⟩
  · rw [ancestor?_resolve faithful] at ha
    split at ha
    next han => exact (hextends.mem s).mpr (Or.inr (han ▸ hs))
    next => exact hextends.mono (closed.ancestors a ha s hs)
  · rw [Memo.info?, infos_resolve faithful] at ha
    exact hextends.mono (closed.infos a ha s hs)

/-- Describing a type asks what a resolution of it asks. -/
lemma typeInfo_extends (acyclic : m.superclassLinks.IsAcyclic) (faithful : memo.Faithful m config)
    (closed : memo.Closed m config) (n : QName) :
    memo.Extends (typeInfo m config memo n).answer.2
        (asked m config (m.superclassLinks.beyond n)) ∧
      (typeInfo m config memo n).answer.2.Closed m config := by
  rw [typeInfo]
  cases hi : memo.info? n with
  | some info => exact ⟨.refl (closed.infos n (by simp [hi])), closed⟩
  | none =>
    have hextends := resolve_extends acyclic faithful closed n
    have hclosed := resolve_closed acyclic faithful closed n
    refine ⟨hextends.addInfo _, hclosed.ancestors, fun a ha s hs => ?_⟩
    rw [Memo.info?_addInfo] at ha
    split at ha
    next hna =>
      have hna : n = a := hna
      exact (hextends.mem s).mpr (Or.inr (hna ▸ hs))
    next => exact hclosed.infos a ha s hs

end Ancestry

namespace Collection

variable {m : TypeModel} {config : Config}

/-- Collecting fields asks what resolutions of the types that declare them ask. -/
lemma collectFrom_extends (acyclic : m.superclassLinks.IsAcyclic) (checked : List QName)
    {memo : Memo} (sound : memo.Sound m config) (closed : memo.Closed m config)
    (fs : List MarkedField) :
    memo.Extends (collectFrom m config checked memo fs).answer.memo
      (fs.flatMap fun f => Ancestry.asked m config (m.superclassLinks.beyond f.enclosing)) := by
  induction fs generalizing checked memo with
  | nil => exact .refl fun s hs => absurd hs List.not_mem_nil
  | cons f fs ih =>
    obtain ⟨hextends, hclosed⟩ :=
      Ancestry.typeInfo_extends acyclic sound.faithful closed f.enclosing
    have hsound := (collectField_sound acyclic sound f).2
    rw [List.flatMap_cons]
    exact hextends.trans (ih (f.enclosing :: checked) hsound hclosed)

/-- A round inspects each type that is to be asked, once. -/
lemma inspected_ofModel (acyclic : m.superclassLinks.IsAcyclic) :
    (ofModel m config {}).answer.memo.inspected =
      (m.markedFields.flatMap fun f =>
        Ancestry.asked m config (m.superclassLinks.beyond f.enclosing)).dedup.length := by
  have hclosed : Memo.Closed m config {} :=
    ⟨fun _ h => absurd rfl h, fun _ h => absurd rfl h⟩
  have hextends := collectFrom_extends acyclic [] .empty hclosed m.markedFields
  have hnodup := hextends.nodup List.nodup_nil
  rw [← Memo.length_recorded]
  refine ((List.perm_ext_iff_of_nodup hnodup (List.nodup_dedup _)).mpr fun s => ?_).length_eq
  rw [List.mem_dedup]
  exact (hextends.mem s).trans ⟨fun hs => hs.resolve_left List.not_mem_nil, Or.inr⟩

end Collection

end Companion
