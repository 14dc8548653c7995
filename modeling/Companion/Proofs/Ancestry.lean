import Companion.Ancestry
import Companion.Proofs.Catalog
import Companion.Proofs.Entries

/-!
# Nearest marked ancestors

What a resolution is to find, said without a memo: the first marked type on the line of superclasses
before any type that is left alone. Where superclasses do not run in circles, a memo that was filled
by earlier questions knows nothing else, so the answers do not depend on what was asked before.
-/

namespace Companion

/-- The links from classes to the classes that they extend. -/
def TypeModel.superclassLinks (m : TypeModel) : Graph.Links QName where
  next := m.superclass
  sources := m.linked
  mem_sources := m.linked_of_superclass

namespace Ancestry

variable (m : TypeModel) (config : Config)

/-- The artifact of the first marked type of a line, if no type before it nor itself is left
alone. -/
def firstMarked (line : List QName) : Option QName :=
  ((line.takeWhile fun s => !config.isExcluded s).find? m.declaresMarked).map
    (artifactName m config)

/-- The artifact of the nearest marked strict superclass of a type. -/
def nearest (n : QName) : Option QName :=
  firstMarked m config (m.superclassLinks.beyond n)

/-- What the model says of a type, with the artifact of its nearest marked ancestor. -/
def describe (n : QName) : TypeInfo where
  name := n
  package := (Identity.of m n).package
  simpleName := (Identity.of m n).simpleName
  flattenedName := (Identity.of m n).flattenedName
  sourceName := (Identity.of m n).sourceName
  renderable := m.isAssignable (.declared n []) config.renderableType
  parentArtifact := nearest m config n
  artifact := artifactName m config n
  modifiers := ((m.element n).map (·.modifiers)).getD .empty

variable {m config}

lemma firstMarked_of_excluded {n : QName} {line : List QName} (h : config.isExcluded n = true) :
    firstMarked m config (n :: line) = none := by
  simp [firstMarked, h]

lemma firstMarked_of_marked {n : QName} {line : List QName} (h : config.isExcluded n = false)
    (hn : m.declaresMarked n = true) :
    firstMarked m config (n :: line) = some (artifactName m config n) := by
  simp [firstMarked, h, hn]

lemma firstMarked_of_unmarked {n : QName} {line : List QName} (h : config.isExcluded n = false)
    (hn : m.declaresMarked n = false) :
    firstMarked m config (n :: line) = firstMarked m config line := by
  simp [firstMarked, h, hn]

/-- The artifact that is found belongs to a marked strict superclass. -/
lemma exists_of_nearest_eq_some {n artifact : QName} (h : nearest m config n = some artifact) :
    ∃ s ∈ m.superclassLinks.beyond n,
      m.declaresMarked s = true ∧ artifactName m config s = artifact := by
  obtain ⟨s, hs, rfl⟩ := Option.map_eq_some_iff.mp h
  exact ⟨s, (List.takeWhile_prefix _).subset (List.mem_of_find?_eq_some hs),
    List.find?_some hs, rfl⟩

end Ancestry

/-- What a memo knows is true of the model. -/
structure Memo.Sound (m : TypeModel) (config : Config) (memo : Memo) : Prop where
  marked : ∀ n artifact, memo.markedArtifact? n = some artifact →
    config.isExcluded n = false ∧ m.declaresMarked n = true ∧
      artifact = Ancestry.artifactName m config n
  unmarked : ∀ n, memo.isUnmarked n = true →
    config.isExcluded n = false ∧ m.declaresMarked n = false
  ancestors : ∀ n found, memo.ancestor? n = some found → found = Ancestry.nearest m config n
  infos : ∀ n info, memo.info? n = some info → info = Ancestry.describe m config n

namespace Memo.Sound

variable {m : TypeModel} {config : Config} {memo : Memo}

lemma empty : Sound m config {} where
  marked _ _ h := by cases h
  unmarked _ h := by cases h
  ancestors _ _ h := by cases h
  infos _ _ h := by cases h

lemma addMarked (h : memo.Sound m config) {n : QName} (hx : config.isExcluded n = false)
    (hn : m.declaresMarked n = true) :
    (memo.addMarked n (Ancestry.artifactName m config n)).Sound m config where
  marked a artifact ha := by
    rw [markedArtifact?, Memo.addMarked, Entries.lookup_cons] at ha
    split at ha
    · next han =>
      subst han
      exact ⟨hx, hn, (Option.some.inj ha).symm⟩
    · exact h.marked a artifact ha
  unmarked := h.unmarked
  ancestors := h.ancestors
  infos := h.infos

lemma addUnmarked (h : memo.Sound m config) {n : QName} (hx : config.isExcluded n = false)
    (hn : m.declaresMarked n = false) : (memo.addUnmarked n).Sound m config where
  marked := h.marked
  unmarked a ha := by
    rcases List.mem_cons.mp (by simpa [isUnmarked, Memo.addUnmarked] using ha) with rfl | ha
    · exact ⟨hx, hn⟩
    · exact h.unmarked a (by simpa [isUnmarked] using ha)
  ancestors := h.ancestors
  infos := h.infos

lemma addAncestor (h : memo.Sound m config) (n : QName) :
    (memo.addAncestor n (Ancestry.nearest m config n)).Sound m config where
  marked := h.marked
  unmarked := h.unmarked
  ancestors a found ha := by
    rw [ancestor?, Memo.addAncestor, Entries.lookup_cons] at ha
    split at ha
    · next han =>
      subst han
      exact (Option.some.inj ha).symm
    · exact h.ancestors a found ha
  infos := h.infos

lemma addInfo (h : memo.Sound m config) (n : QName) :
    (memo.addInfo (Ancestry.describe m config n)).Sound m config where
  marked := h.marked
  unmarked := h.unmarked
  ancestors := h.ancestors
  infos a info ha := by
    rw [info?, Memo.addInfo, List.find?_cons] at ha
    split at ha
    · next hb =>
      obtain rfl : n = a := of_decide_eq_true hb
      exact (Option.some.inj ha).symm
    · exact h.infos a info ha

end Memo.Sound

namespace Ancestry

variable {m : TypeModel} {config : Config}

/-- A climb that has been to none of the types ahead of it finds the first marked one of them. -/
lemma climb_sound (acyclic : m.superclassLinks.IsAcyclic) {seen : List QName} {memo : Memo}
    {n : QName} (h : memo.Sound m config) (fresh : ∀ a ∈ m.superclassLinks.path n, a ∉ seen) :
    (climb m config seen memo n).answer.1 =
        firstMarked m config (m.superclassLinks.path n) ∧
      (climb m config seen memo n).answer.2.Sound m config := by
  -- What was seen lies behind the path, so the test for it never ends the climb.
  fun_induction climb m config seen memo n with
  | case1 seen memo n hn =>
    exact absurd hn (fresh n (Graph.Links.path_eq_cons_beyond n ▸ List.mem_cons_self))
  | case2 seen memo n hn hx =>
    rw [Graph.Links.path_eq_cons_beyond, firstMarked_of_excluded hx]
    exact ⟨rfl, h⟩
  | case3 seen memo n hn hx artifact ha =>
    obtain ⟨hx, hmarked, rfl⟩ := h.marked n artifact ha
    rw [Graph.Links.path_eq_cons_beyond, firstMarked_of_marked hx hmarked]
    exact ⟨rfl, h⟩
  | case4 seen memo n hn hx ha hu found hf =>
    obtain ⟨hx, hunmarked⟩ := h.unmarked n hu
    rw [Graph.Links.path_eq_cons_beyond, firstMarked_of_unmarked hx hunmarked]
    exact ⟨h.ancestors n found hf, h⟩
  | case5 seen memo n hn hx ha hu hf hs =>
    obtain ⟨hx, hunmarked⟩ := h.unmarked n hu
    rw [Graph.Links.path_of_next_none hs, firstMarked_of_unmarked hx hunmarked]
    exact ⟨rfl, h⟩
  | case6 seen memo n hn hx ha hu hf above hs ih =>
    obtain ⟨hx, hunmarked⟩ := h.unmarked n hu
    rw [acyclic.path_of_next_some hs, firstMarked_of_unmarked hx hunmarked]
    exact ih h (acyclic.notMem_of_next_some hs fresh)
  | case7 seen memo n hn hx ha hu hmarked =>
    have hx : config.isExcluded n = false := by simpa using hx
    rw [Graph.Links.path_eq_cons_beyond, firstMarked_of_marked hx hmarked]
    exact ⟨rfl, h.addMarked hx hmarked⟩
  | case8 seen memo n hn hx ha hu hmarked hs =>
    have hx : config.isExcluded n = false := by simpa using hx
    have hunmarked : m.declaresMarked n = false := by simpa using hmarked
    rw [Graph.Links.path_of_next_none hs, firstMarked_of_unmarked hx hunmarked]
    exact ⟨rfl, h.addUnmarked hx hunmarked⟩
  | case9 seen memo n hn hx ha hu hmarked above hs ih =>
    have hx : config.isExcluded n = false := by simpa using hx
    have hunmarked : m.declaresMarked n = false := by simpa using hmarked
    rw [acyclic.path_of_next_some hs, firstMarked_of_unmarked hx hunmarked]
    exact ih (h.addUnmarked hx hunmarked) (acyclic.notMem_of_next_some hs fresh)

lemma resolve_of_top {memo : Memo} {n : QName} (ha : memo.ancestor? n = none)
    (hs : m.superclass n = none) :
    (resolve m config memo n).answer = (none, memo.addAncestor n none) := by
  simp [resolve, ha, hs]

lemma resolve_of_above {memo : Memo} {n above : QName} (ha : memo.ancestor? n = none)
    (hs : m.superclass n = some above) :
    (resolve m config memo n).answer =
      ((climb m config [n] memo above).answer.1,
        (climb m config [n] memo above).answer.2.addAncestor n
          (climb m config [n] memo above).answer.1) := by
  simp [resolve, ha, hs]

/-- A resolution finds the nearest marked strict superclass, whatever is known beforehand. -/
lemma resolve_sound (acyclic : m.superclassLinks.IsAcyclic) {memo : Memo}
    (h : memo.Sound m config) (n : QName) :
    (resolve m config memo n).answer.1 = nearest m config n ∧
      (resolve m config memo n).answer.2.Sound m config := by
  cases ha : memo.ancestor? n with
  | some found =>
    have hresolve : (resolve m config memo n).answer = (found, memo) := by simp [resolve, ha]
    rw [hresolve]
    exact ⟨h.ancestors n found ha, h⟩
  | none =>
    cases hs : m.superclass n with
    | none =>
      have hnearest : nearest m config n = none := by
        rw [nearest, Graph.Links.beyond_of_next_none hs]
        rfl
      rw [resolve_of_top ha hs, ← hnearest]
      exact ⟨rfl, h.addAncestor n⟩
    | some above =>
      have hpath : m.superclassLinks.beyond n = m.superclassLinks.path above := by
        rw [acyclic.beyond_of_next_some hs, ← Graph.Links.path_eq_cons_beyond]
      have fresh : ∀ a ∈ m.superclassLinks.path above, a ∉ [n] :=
        acyclic.notMem_of_next_some hs fun _ _ => List.not_mem_nil
      obtain ⟨hfound, hsound⟩ := climb_sound acyclic h fresh
      have hnearest : (climb m config [n] memo above).answer.1 = nearest m config n := by
        rw [hfound, nearest, hpath]
      rw [resolve_of_above ha hs, hnearest]
      exact ⟨rfl, hsound.addAncestor n⟩

/-- What is found out about a type is what the model says of it. -/
lemma typeInfo_sound (acyclic : m.superclassLinks.IsAcyclic) {memo : Memo}
    (h : memo.Sound m config) (n : QName) :
    (typeInfo m config memo n).answer.1 = describe m config n ∧
      (typeInfo m config memo n).answer.2.Sound m config := by
  cases hi : memo.info? n with
  | some info =>
    have hinfo : (typeInfo m config memo n).answer = (info, memo) := by simp [typeInfo, hi]
    rw [hinfo]
    exact ⟨h.infos n info hi, h⟩
  | none =>
    obtain ⟨hfound, hsound⟩ := resolve_sound acyclic h n
    have hinfo : (typeInfo m config memo n).answer = (describe m config n,
        (resolve m config memo n).answer.2.addInfo (describe m config n)) := by
      simp [typeInfo, hi, describe, TypeModel.askAssignable, hfound, artifactName]
    rw [hinfo]
    exact ⟨rfl, hsound.addInfo n⟩

/-- A question about a type that a round may ask. -/
inductive Request where
  | ancestor (n : QName)
  | info (n : QName)

/-- What is found for a request. -/
inductive Finding where
  | ancestor (artifact : Option QName)
  | info (info : TypeInfo)
deriving DecidableEq

/-- The finding for a request, and what is known after it. -/
def serve (m : TypeModel) (config : Config) (memo : Memo) : Request → Finding × Memo
  | .ancestor n =>
    let found := (resolve m config memo n).answer
    (.ancestor found.1, found.2)
  | .info n =>
    let found := (typeInfo m config memo n).answer
    (.info found.1, found.2)

/-- The findings for requests that share a memo. -/
def serveAll (m : TypeModel) (config : Config) (memo : Memo) : List Request → List Finding
  | [] => []
  | r :: rs => (serve m config memo r).1 :: serveAll m config (serve m config memo r).2 rs

/-- What is to be found for a request, whatever was asked before. -/
def Request.finding (m : TypeModel) (config : Config) : Request → Finding
  | .ancestor n => .ancestor (nearest m config n)
  | .info n => .info (describe m config n)

lemma serve_sound (acyclic : m.superclassLinks.IsAcyclic) {memo : Memo}
    (h : memo.Sound m config) (r : Request) :
    (serve m config memo r).1 = r.finding m config ∧
      (serve m config memo r).2.Sound m config := by
  cases r with
  | ancestor n =>
    obtain ⟨hfound, hsound⟩ := resolve_sound acyclic h n
    exact ⟨congrArg Finding.ancestor hfound, hsound⟩
  | info n =>
    obtain ⟨hfound, hsound⟩ := typeInfo_sound acyclic h n
    exact ⟨congrArg Finding.info hfound, hsound⟩

lemma serveAll_sound (acyclic : m.superclassLinks.IsAcyclic) {memo : Memo}
    (h : memo.Sound m config) (rs : List Request) :
    serveAll m config memo rs = rs.map (Request.finding m config) := by
  induction rs generalizing memo with
  | nil => rfl
  | cons r rs ih =>
    obtain ⟨hfound, hsound⟩ := serve_sound acyclic h r
    rw [serveAll, List.map_cons, hfound, ih hsound]

end Ancestry

lemma Catalog.WellFormed.acyclic {c : Catalog} (h : c.WellFormed) :
    c.model.superclassLinks.IsAcyclic :=
  h.superclasses

namespace Ancestry

/-- In an accepted manifest the strict superclasses of a type are the class that it extends and the
strict superclasses of that one, and no answer depends on what was asked before it. -/
theorem serveAll_eq_map_finding {manifest : Manifest} {c : Catalog}
    (hc : Catalog.ofManifest manifest = .ok c) (config : Config) :
    (∀ n, c.model.superclassLinks.beyond n =
      match c.model.superclass n with
      | none => []
      | some s => s :: c.model.superclassLinks.beyond s) ∧
    ∀ rs : List Request,
      serveAll c.model config {} rs = rs.map (Request.finding c.model config) := by
  have acyclic := (Catalog.wellFormed_of_ofManifest hc).2.acyclic
  refine ⟨fun n => ?_, serveAll_sound acyclic Memo.Sound.empty⟩
  cases hs : c.model.superclass n with
  | none => exact Graph.Links.beyond_of_next_none hs
  | some s => exact acyclic.beyond_of_next_some hs

/-- A class of the package `p`, with marked fields of type `int`. -/
def sampleClass (name : Text) (superclass : Option QName) (fields : List Text) : TypeDecl where
  package := "p"
  name := name
  enclosing := none
  superclass := superclass.map (.declared · [])
  interfaces := []
  modifiers := .empty
  fields := fields.map fun f =>
    { name := f, type := .primitive .int, modifiers := .empty, marked := true }

/-- Two lines of classes: activities, one of them without a marked field, and views. -/
def sampleManifest : Manifest where
  usesPlatform := true
  types :=
    [sampleClass "Leaf" (some "p.Middle") ["x", "y"],
      sampleClass "Middle" (some "p.Base") [],
      sampleClass "Base" (some "android.app.Activity") ["x"],
      sampleClass "Gauge" (some "android.view.View") ["level"],
      sampleClass "Dial" (some "p.Gauge") ["level", "angle"]]

lemma sampleManifest_accepted :
    Catalog.ofManifest sampleManifest = .ok (Catalog.unchecked sampleManifest) :=
  Catalog.ofManifest_of_fault?_eq_none (by decide +kernel)

/-- The middle class is found to be unmarked by the first request and resolved by the second. -/
theorem serveAll_sampleManifest :
    Catalog.ofManifest sampleManifest = .ok (Catalog.unchecked sampleManifest) ∧
      serveAll (Catalog.unchecked sampleManifest).model {} {}
          [.info "p.Leaf", .ancestor "p.Middle", .ancestor "p.Leaf", .ancestor "p.Base"] =
        [.info (describe (Catalog.unchecked sampleManifest).model {} "p.Leaf"),
          .ancestor (some "p.Base$$Stash"), .ancestor (some "p.Base$$Stash"), .ancestor none] := by
  refine ⟨sampleManifest_accepted, ?_⟩
  rw [(serveAll_eq_map_finding sampleManifest_accepted {}).2]
  decide +kernel

end Ancestry

end Companion
