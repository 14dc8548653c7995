import Companion.Proofs.Acceptance
import Companion.Proofs.Reachability

/-!
# What a type can be assigned to

A declared type can be assigned to itself and to all that it extends or implements, directly or
through other types. A manifest says by its declarations alone what these are. They may run in
circles, for only chains of superclasses are checked, and they may name types that nobody declares,
from which nothing leads on. The search needs no more than that: it finds the same by layers or by a
queue, in which a place may wait several times and is expanded once.
-/

namespace Companion

namespace Graph.Arrows

variable {α : Type} [DecidableEq α] {g : Arrows α} {target : α} {seen queue : List α}

/-- Whether `target` comes up when places are taken from the front of a queue. The arrows from a
place put what they lead to at the end of the queue; a place that was seen is passed over. -/
def drain (g : Arrows α) (target : α) (seen : List α) : List α → Bool
  | [] => false
  | a :: queue =>
    if a = target then true
    else if _ha : a ∈ seen then drain g target seen queue
    else drain g target (a :: seen) (queue ++ g.next a)
termination_by queue => (unseen g.sources seen, queue.length)
decreasing_by
  · exact Prod.Lex.right _ (Nat.lt_succ_self _)
  · by_cases hnext : g.next a = []
    · -- A place without arrows may be no source, but then the queue gets shorter.
      rw [hnext, List.append_nil]
      rcases Nat.lt_or_eq_of_le (unseen_cons_le g.sources seen a) with hlt | heq
      · exact Prod.Lex.left _ _ hlt
      · rw [heq]
        exact Prod.Lex.right _ (Nat.lt_succ_self _)
    · exact Prod.Lex.left _ _ (unseen_cons_lt (g.mem_sources a hnext) _ha)

/-- What comes up is reached from the queue. -/
lemma exists_reaches_of_drain (h : g.drain target seen queue = true) :
    ∃ a ∈ queue, Relation.ReflTransGen g.Leads a target := by
  fun_induction drain g target seen queue with
  | case1 seen => cases h
  | case2 seen queue => exact ⟨target, List.mem_cons_self, .refl⟩
  | case3 seen a queue hne hseen ih =>
    obtain ⟨b, hb, hreach⟩ := ih h
    exact ⟨b, List.mem_cons_of_mem a hb, hreach⟩
  | case4 seen a queue hne hnew ih =>
    obtain ⟨b, hb, hreach⟩ := ih h
    rcases List.mem_append.mp hb with hqueue | hnext
    · exact ⟨b, List.mem_cons_of_mem a hqueue, hreach⟩
    · exact ⟨a, List.mem_cons_self, .head hnext hreach⟩

omit [DecidableEq α] in
/-- Passing over a place that was seen leaves everything that was seen expanded. -/
lemma Expanded.pass {a : α} (h : Expanded g target seen (a :: queue)) (ha : a ∈ seen) :
    Expanded g target seen queue := by
  intro b hb
  obtain ⟨hne, hleads⟩ := h b hb
  refine ⟨hne, ?_⟩
  intro c hc
  rcases hleads c hc with hseen | hqueue
  · exact .inl hseen
  · rcases List.mem_cons.mp hqueue with rfl | hqueue
    · exact .inl ha
    · exact .inr hqueue

omit [DecidableEq α] in
/-- Expanding a place other than the target leaves everything that was seen expanded. -/
lemma Expanded.take {a : α} (h : Expanded g target seen (a :: queue)) (hne : a ≠ target) :
    Expanded g target (a :: seen) (queue ++ g.next a) := by
  intro b hb
  rcases List.mem_cons.mp hb with rfl | hb
  · refine ⟨hne, ?_⟩
    intro c hc
    exact .inr (List.mem_append_right queue hc)
  · obtain ⟨hb, hleads⟩ := h b hb
    refine ⟨hb, ?_⟩
    intro c hc
    rcases hleads c hc with hseen | hqueue
    · exact .inl (List.mem_cons_of_mem a hseen)
    · rcases List.mem_cons.mp hqueue with rfl | hqueue
      · exact .inl List.mem_cons_self
      · exact .inr (List.mem_append_left _ hqueue)

/-- What is reached from the queue or from what was expanded comes up. -/
lemma Expanded.drain_eq_true (h : Expanded g target seen queue) {a : α}
    (ha : a ∈ seen ∨ a ∈ queue) (hreach : Relation.ReflTransGen g.Leads a target) :
    g.drain target seen queue = true := by
  fun_induction drain g target seen queue with
  | case1 seen =>
    rcases ha with hseen | hqueue
    · exact absurd hreach (h.not_reaches hseen)
    · cases hqueue
  | case2 seen queue => rfl
  | case3 seen b queue hne hseen ih =>
    apply ih (h.pass hseen)
    rcases ha with ha | hqueue
    · exact .inl ha
    · rcases List.mem_cons.mp hqueue with rfl | hqueue
      · exact .inl hseen
      · exact .inr hqueue
  | case4 seen b queue hne hnew ih =>
    apply ih (h.take hne)
    rcases ha with hseen | hqueue
    · exact .inl (List.mem_cons_of_mem b hseen)
    · rcases List.mem_cons.mp hqueue with rfl | hqueue
      · exact .inl List.mem_cons_self
      · exact .inr (List.mem_append_left _ hqueue)

/-- A search by a queue finds what a search by layers finds. -/
lemma drain_eq_reaches (a : α) : g.drain target [] [a] = g.reaches a target := by
  rw [Bool.eq_iff_iff, reaches_iff]
  constructor
  · intro h
    obtain ⟨b, hb, hreach⟩ := exists_reaches_of_drain h
    exact List.mem_singleton.mp hb ▸ hreach
  · intro h
    have hstart : Expanded g target [] [a] := fun b hb => absurd hb List.not_mem_nil
    exact hstart.drain_eq_true (Or.inr List.mem_cons_self) h

end Graph.Arrows

/-- A type extends or implements another, by its declaration or, where none hides it, by the
platform. -/
inductive Manifest.HasSupertype (m : Manifest) : QName → QName → Prop where
  | declared {d : TypeDecl} {s : QName} {args : List TypeExpr} (hd : d ∈ m.types)
      (hs : d.superclass = some (.declared s args) ∨ .declared s args ∈ d.interfaces) :
      HasSupertype m d.qualifiedName s
  | platform {d : TypeDecl} {s : QName} {args : List TypeExpr} (hp : m.usesPlatform = true)
      (hd : d ∈ Platform.types) (hidden : ∀ e ∈ m.types, e.qualifiedName ≠ d.qualifiedName)
      (hs : d.superclass = some (.declared s args) ∨ .declared s args ∈ d.interfaces) :
      HasSupertype m d.qualifiedName s

namespace Catalog

lemma mem_supertypes_iff_declared {d : TypeDecl} {s : QName} :
    s ∈ d.supertypes ↔
      ∃ args, d.superclass = some (.declared s args) ∨ .declared s args ∈ d.interfaces := by
  rw [TypeDecl.supertypes, List.mem_filterMap]
  constructor
  · rintro ⟨t, ht, hs⟩
    obtain ⟨args, rfl⟩ := erasure_eq_some_iff.mp hs
    rw [List.mem_append, Option.mem_toList] at ht
    exact ⟨args, ht⟩
  · rintro ⟨args, h⟩
    refine ⟨.declared s args, ?_, rfl⟩
    rw [List.mem_append, Option.mem_toList]
    exact h

/-- Where no name is declared twice, the arrows of the catalog are what the manifest says. -/
lemma leads_iff_hasSupertype {m : Manifest} {n s : QName}
    (nodup : (m.types.map (·.qualifiedName)).Nodup) :
    (unchecked m).supertypeArrows.Leads n s ↔ m.HasSupertype n s := by
  change s ∈ (((unchecked m).lookup n).map (·.supertypes)).getD [] ↔ _
  constructor
  · intro h
    cases hd : (unchecked m).lookup n with
    | none =>
      rw [hd] at h
      cases h
    | some d =>
      rw [hd] at h
      obtain ⟨args, hs⟩ := mem_supertypes_iff_declared.mp h
      obtain ⟨rfl, hd | ⟨hp, hd, hidden⟩⟩ := (lookup_unchecked_iff nodup).mp hd
      · exact .declared hd hs
      · exact .platform hp hd hidden hs
  · rintro (⟨hd, hs⟩ | ⟨hp, hd, hidden, hs⟩)
    · rw [(lookup_unchecked_iff nodup).mpr ⟨rfl, Or.inl hd⟩]
      exact mem_supertypes_iff_declared.mpr ⟨_, hs⟩
    · rw [(lookup_unchecked_iff nodup).mpr ⟨rfl, Or.inr ⟨hp, hd, hidden⟩⟩]
      exact mem_supertypes_iff_declared.mpr ⟨_, hs⟩

/-- A declared type can be assigned to a target if and only if the target is reached from its
erasure over supertypes, in any number of steps. A queue that is worked off finds the same. -/
theorem isAssignable_iff_reaches {m : Manifest} {c : Catalog} (accepted : ofManifest m = .ok c)
    (n : QName) (args : List TypeExpr) (target : QName) :
    (c.isAssignable (.declared n args) target = true ↔
      Relation.ReflTransGen m.HasSupertype n target) ∧
    c.isAssignable (.declared n args) target = c.supertypeArrows.drain target [] [n] := by
  obtain ⟨rfl, hfault⟩ := ofManifest_ok accepted
  have distinct := (fault?_eq_none_iff_isConsistent.mp hfault).distinct
  have hleads : (unchecked m).supertypeArrows.Leads = m.HasSupertype :=
    funext₂ fun n s => propext (leads_iff_hasSupertype distinct)
  constructor
  · rw [isAssignable, Graph.Arrows.reaches_iff, hleads]
  · rw [isAssignable, Graph.Arrows.drain_eq_reaches]

/-- A class that implements what is given. -/
def implementing (package name : Text) (interfaces : List QName) : TypeDecl where
  package := package
  name := name
  enclosing := none
  superclass := none
  interfaces := interfaces.map (.declared · [])
  modifiers := .empty
  fields := []

/-- Two interfaces that lead to each other, one of them to a type that nobody declares, and a
platform type that is hidden by one that leads to them. -/
def ringManifest : Manifest where
  usesPlatform := true
  types :=
    [implementing "p" "A" ["p.B"], implementing "p" "B" ["p.A", "x.Gone"],
      implementing "java.io" "Serializable" ["p.A"]]

/-- What the platform says of strings leads through the hidden type into the ring and out of it, and
nothing leads from the ring to a string. -/
theorem ringManifest_assignable :
    ofManifest ringManifest = .ok (unchecked ringManifest) ∧
    Relation.ReflTransGen ringManifest.HasSupertype "java.lang.String" "x.Gone" ∧
    ¬Relation.ReflTransGen ringManifest.HasSupertype "p.A" "java.lang.String" := by
  have accepted : ofManifest ringManifest = .ok (unchecked ringManifest) :=
    ofManifest_of_fault?_eq_none (by decide +kernel)
  refine ⟨accepted, ?_, ?_⟩
  · apply (isAssignable_iff_reaches accepted "java.lang.String" [] "x.Gone").1.mp
    decide +kernel
  · intro h
    have found := (isAssignable_iff_reaches accepted "p.A" [] "java.lang.String").1.mpr h
    have missed : (unchecked ringManifest).isAssignable (.declared "p.A" []) "java.lang.String" =
        false := by decide +kernel
    rw [missed] at found
    cases found

end Catalog

end Companion
