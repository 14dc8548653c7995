import Companion.Proofs.Problems
import Companion.Proofs.Round
import Companion.Proofs.Survey

/-!
# Models with the same answers

Two models may answer alike and still list their marked fields in different orders, as long as the
fields of each type keep theirs. Where superclasses do not run in circles, a round cannot tell such
models apart but by the order of what it reports: its groups are ordered by name, and which types it
inspects does not depend on the order in which it comes to them.
-/

namespace Companion

namespace Graph.Links

variable {α : Type} [DecidableEq α] {l l' : Links α}

/-- A walk among places that no link leads out of stays there, and the links of these places alone
count. -/
lemma walk_congr_on {S : α → Prop} (same : ∀ a, S a → l.next a = l'.next a)
    (closed : ∀ a b, S a → l.next a = some b → S b) (seen : List α) {a : α} (ha : S a) :
    l.walk seen a = l'.walk seen a ∧ ∀ b ∈ (l.walk seen a).1, S b := by
  induction hk : unseen l.sources seen using Nat.strongRecOn generalizing seen a with
  | ind k ih =>
    by_cases hmem : a ∈ seen
    · rw [l.walk_of_mem hmem, l'.walk_of_mem hmem]
      exact ⟨rfl, fun b hb => absurd hb List.not_mem_nil⟩
    · cases hn : l.next a with
      | none =>
        rw [l.walk_of_next_none hmem hn, l'.walk_of_next_none hmem (same a ha ▸ hn)]
        exact ⟨rfl, fun b hb => List.mem_singleton.mp hb ▸ ha⟩
      | some b =>
        have hlt := unseen_cons_lt (l.mem_sources a (by simp [hn])) hmem
        obtain ⟨heq, hrest⟩ := ih _ (hk ▸ hlt) (a :: seen) (closed a b ha hn) rfl
        rw [l.walk_of_next_some hmem hn, l'.walk_of_next_some hmem (same a ha ▸ hn), heq]
        rw [heq] at hrest
        exact ⟨rfl, List.forall_mem_cons.mpr ⟨ha, hrest⟩⟩

lemma path_congr_on {S : α → Prop} (same : ∀ a, S a → l.next a = l'.next a)
    (closed : ∀ a b, S a → l.next a = some b → S b) {a : α} (ha : S a) :
    l.path a = l'.path a ∧ ∀ b ∈ l.path a, S b := by
  obtain ⟨heq, hmem⟩ := walk_congr_on same closed [] ha
  exact ⟨congrArg Prod.fst heq, hmem⟩

/-- A walk depends on where the links lead alone. -/
lemma walk_congr_next (h : l.next = l'.next) (seen : List α) (a : α) :
    l.walk seen a = l'.walk seen a :=
  (walk_congr_on (S := fun _ => True) (fun a _ => congrFun h a) (fun _ _ _ _ => trivial) seen
    trivial).1

lemma path_congr_next (h : l.next = l'.next) (a : α) : l.path a = l'.path a := by
  rw [path, path, walk_congr_next h]

omit [DecidableEq α] in
lemma IsAcyclic.congr_next (hl : l.IsAcyclic) (h : l.next = l'.next) : l'.IsAcyclic := by
  have hleads : l.Leads = l'.Leads := by
    funext a b
    rw [Leads, Leads, h]
  rw [IsAcyclic, ← hleads]
  exact hl

end Graph.Links

/-- What a round has under a name is made of the marked fields of the type of that name. -/
lemma Round.ofName?_groups {m : TypeModel} {config : Config}
    (acyclic : m.superclassLinks.IsAcyclic) (n : QName) :
    Group.ofName? (groups m config) n =
      Group.gather ((m.markedFields.filter fun f => f.enclosing = n).map
        (Collection.collected m config)) n := by
  have hfields := Collection.collectFrom_sound acyclic [] (.empty : Memo.Sound m config {})
    m.markedFields
  have hfilter : (m.markedFields.map (Collection.collected m config)).filter
      (fun f => f.owner.name = n) =
        (m.markedFields.filter fun f => f.enclosing = n).map (Collection.collected m config) :=
    List.filter_map
  rw [groups, Group.ofName?_ofFields, Collection.ofModel, hfields, Group.gather, Group.gather,
    ← hfilter, List.filter_filter]
  simp only [Bool.and_self]

namespace TypeExpr

mutual

/-- The names of the declared types that occur in a type. -/
def names : TypeExpr → List QName
  | .primitive _ | .wildcard => []
  | .declared name args => name :: argNames args
  | .array component => component.names
  | .upperBounded bound | .lowerBounded bound => bound.names

/-- The names that occur in type arguments. -/
def argNames : List TypeExpr → List QName
  | [] => []
  | t :: ts => t.names ++ argNames ts

end

end TypeExpr

/-- Two models have the same answers to all questions about some types, and these do not lead out to
other types. -/
structure TypeModel.AgreesOn (S : QName → Prop) (m m' : TypeModel) : Prop where
  element : ∀ n, S n → m.element n = m'.element n
  package : ∀ n, S n → m.package n = m'.package n
  superclass : ∀ n, S n → m.superclass n = m'.superclass n
  declaresMarked : ∀ n, S n → m.declaresMarked n = m'.declaresMarked n
  isAssignable : ∀ t target, (∀ n ∈ t.names, S n) →
    m.isAssignable t target = m'.isAssignable t target
  enclosing_closed : ∀ n outer, S n → m.enclosingLinks.next n = some outer → S outer
  superclass_closed : ∀ n above, S n → m.superclass n = some above → S above

/-- All that a marked field names is among some types. -/
structure MarkedField.Within (S : QName → Prop) (f : MarkedField) : Prop where
  enclosing : S f.enclosing
  type : ∀ n ∈ f.type.names, S n

namespace TypeModel.AgreesOn

variable {S : QName → Prop} {m m' : TypeModel} (h : m.AgreesOn S m') {n : QName} (hn : S n)
include h

section

include hn

lemma enclosing_path :
    m.enclosingLinks.path n = m'.enclosingLinks.path n ∧ ∀ a ∈ m.enclosingLinks.path n, S a :=
  Graph.Links.path_congr_on
    (fun a ha => congrArg (Option.bind · (·.enclosing)) (h.element a ha)) h.enclosing_closed hn

lemma superclass_beyond :
    m.superclassLinks.beyond n = m'.superclassLinks.beyond n ∧
      ∀ a ∈ m.superclassLinks.beyond n, S a := by
  have hpath : m.superclassLinks.path n = m'.superclassLinks.path n ∧
      ∀ a ∈ m.superclassLinks.path n, S a :=
    Graph.Links.path_congr_on h.superclass h.superclass_closed hn
  exact ⟨congrArg List.tail hpath.1, fun a ha => hpath.2 a (List.mem_of_mem_tail ha)⟩

lemma identity : Identity.of m n = Identity.of m' n := by
  obtain ⟨hpath, hmem⟩ := h.enclosing_path hn
  have hsegments : (m.enclosingLinks.path n).map (Identity.segmentOf m) =
      (m'.enclosingLinks.path n).map (Identity.segmentOf m') := by
    rw [← hpath]
    refine List.map_congr_left fun a ha => ?_
    rw [Identity.segmentOf, Identity.segmentOf, h.element a (hmem a ha)]
  rw [Identity.of, Identity.of, h.element n hn, h.package n hn, hsegments]

lemma artifactName (config : Config) :
    Ancestry.artifactName m config n = Ancestry.artifactName m' config n := by
  rw [Ancestry.artifactName, Ancestry.artifactName, h.identity hn]

end

variable (config : Config)

lemma firstMarked {line : List QName} (hline : ∀ a ∈ line, S a) :
    Ancestry.firstMarked m config line = Ancestry.firstMarked m' config line := by
  induction line with
  | nil => rfl
  | cons a line ih =>
    obtain ⟨ha, hline⟩ := List.forall_mem_cons.mp hline
    cases hx : config.isExcluded a with
    | true => rw [Ancestry.firstMarked_of_excluded hx, Ancestry.firstMarked_of_excluded hx]
    | false =>
      cases hm : m.declaresMarked a with
      | true =>
        rw [Ancestry.firstMarked_of_marked hx hm,
          Ancestry.firstMarked_of_marked hx (h.declaresMarked a ha ▸ hm), h.artifactName ha]
      | false =>
        rw [Ancestry.firstMarked_of_unmarked hx hm,
          Ancestry.firstMarked_of_unmarked hx (h.declaresMarked a ha ▸ hm), ih hline]

lemma describe (hn : S n) : Ancestry.describe m config n = Ancestry.describe m' config n := by
  have hassignable : m.isAssignable (.declared n []) config.renderableType =
      m'.isAssignable (.declared n []) config.renderableType :=
    h.isAssignable _ _ (by simpa [TypeExpr.names, TypeExpr.argNames] using hn)
  obtain ⟨hbeyond, hmem⟩ := h.superclass_beyond hn
  rw [Ancestry.describe, Ancestry.describe, Ancestry.nearest, Ancestry.nearest, ← hbeyond,
    h.firstMarked config hmem, h.identity hn, hassignable, h.artifactName hn, h.element n hn]

lemma askAssignable {t : TypeExpr} (ht : ∀ a ∈ t.names, S a) (target : QName) :
    m.askAssignable t target = m'.askAssignable t target := by
  rw [TypeModel.askAssignable, TypeModel.askAssignable, h.isAssignable t target ht]

lemma classify {t : TypeExpr} (ht : ∀ a ∈ t.names, S a) :
    Classification.classify m config t = Classification.classify m' config t := by
  have hstructured : Classification.isStructured m config t =
      Classification.isStructured m' config t := h.askAssignable ht _
  have hserializable : Classification.isSerializable m config t =
      Classification.isSerializable m' config t := h.askAssignable ht _
  have hmap : Classification.isStructuredMap m config t =
      Classification.isStructuredMap m' config t := by
    unfold Classification.isStructuredMap
    split
    · next map element args =>
      have helement : ∀ a ∈ (TypeExpr.declared element args).names, S a := fun a ha =>
        ht a (by simp [TypeExpr.names, TypeExpr.argNames] at ha ⊢; tauto)
      rw [h.askAssignable helement]
    · rfl
  simp only [Classification.classify, Classification.rules, Classification.firstRule, hstructured,
    hmap, hserializable]

lemma collected {f : MarkedField} (hf : f.Within S) :
    Collection.collected m config f = Collection.collected m' config f := by
  rw [Collection.collected, Collection.collected, h.classify config hf.type,
    h.describe config hf.enclosing]

lemma fieldProblems {f : MarkedField} (hf : f.Within S) :
    Collection.fieldProblems m config f = Collection.fieldProblems m' config f := by
  rw [Collection.fieldProblems, Collection.fieldProblems, h.classify config hf.type]

lemma typeProblems (hn : S n) : Collection.typeProblems m n = Collection.typeProblems m' n := by
  rw [Collection.typeProblems, Collection.typeProblems, h.element n hn]

end TypeModel.AgreesOn

/-- Two models have the same answers, and the same marked fields of each type in the same order. -/
structure TypeModel.Agrees (m m' : TypeModel) : Prop where
  fields : ∀ n, m.markedFields.filter (fun f => f.enclosing = n) =
    m'.markedFields.filter (fun f => f.enclosing = n)
  element : m.element = m'.element
  package : m.package = m'.package
  superclass : m.superclass = m'.superclass
  isAssignable : m.isAssignable = m'.isAssignable
  declaresMarked : m.declaresMarked = m'.declaresMarked

namespace TypeModel.Agrees

variable {m m' : TypeModel} (h : m.Agrees m')
include h

lemma markedFields_perm : m.markedFields.Perm m'.markedFields := by
  refine List.perm_iff_count.mpr fun f => ?_
  have hcount : ∀ fs : List MarkedField,
      fs.count f = (fs.filter fun g => g.enclosing = f.enclosing).count f := fun fs =>
    (List.count_filter (by simp)).symm
  rw [hcount m.markedFields, hcount m'.markedFields, h.fields]

lemma agreesOn : m.AgreesOn (fun _ => True) m' where
  element n _ := congrFun h.element n
  package n _ := congrFun h.package n
  superclass n _ := congrFun h.superclass n
  declaresMarked n _ := congrFun h.declaresMarked n
  isAssignable t target _ := congrFun (congrFun h.isAssignable t) target
  enclosing_closed _ _ _ _ := trivial
  superclass_closed _ _ _ _ := trivial

variable (config : Config)

omit h in
lemma within (f : MarkedField) : f.Within fun _ => True :=
  ⟨trivial, fun _ _ => trivial⟩

lemma collected (f : MarkedField) :
    Collection.collected m config f = Collection.collected m' config f :=
  h.agreesOn.collected config (within f)

lemma fieldProblems (f : MarkedField) :
    Collection.fieldProblems m config f = Collection.fieldProblems m' config f :=
  h.agreesOn.fieldProblems config (within f)

lemma typeProblems (n : QName) : Collection.typeProblems m n = Collection.typeProblems m' n :=
  h.agreesOn.typeProblems trivial

lemma asked (line : List QName) :
    Ancestry.asked m config line = Ancestry.asked m' config line := by
  induction line with
  | nil => rfl
  | cons n line ih => rw [Ancestry.asked, Ancestry.asked, h.declaresMarked, ih]

lemma diagnostics :
    (Collection.ofModel m config {}).answer.diagnostics.Perm
      (Collection.ofModel m' config {}).answer.diagnostics := by
  have htypes : (Collection.unchecked [] m.markedFields).Perm
      (Collection.unchecked [] m'.markedFields) :=
    ((h.markedFields_perm.map _).dedup).filter _
  have hproblems : ((Collection.unchecked [] m.markedFields).flatMap (Collection.typeProblems m) ++
      m.markedFields.flatMap (Collection.fieldProblems m config)).Perm
      ((Collection.unchecked [] m'.markedFields).flatMap (Collection.typeProblems m') ++
        m'.markedFields.flatMap (Collection.fieldProblems m' config)) := by
    rw [funext h.typeProblems, funext (h.fieldProblems config)]
    exact (htypes.flatMap_right _).append (h.markedFields_perm.flatMap_right _)
  exact (Collection.diagnostics_ofModel m config).trans
    (hproblems.trans (Collection.diagnostics_ofModel m' config).symm)

variable (acyclic : m.superclassLinks.IsAcyclic)
include acyclic

lemma groups : Round.groups m config = Round.groups m' config := by
  have acyclic' : m'.superclassLinks.IsAcyclic := acyclic.congr_next h.superclass
  refine (Round.groups_ordered m config).eq_of_ofName? (Round.groups_ordered m' config) fun n => ?_
  rw [Round.ofName?_groups acyclic, Round.ofName?_groups acyclic', h.fields,
    funext (h.collected config)]

lemma inspected :
    (Collection.ofModel m config {}).answer.memo.inspected =
      (Collection.ofModel m' config {}).answer.memo.inspected := by
  have acyclic' : m'.superclassLinks.IsAcyclic := acyclic.congr_next h.superclass
  have hasked : (fun f : MarkedField =>
      Ancestry.asked m config (m.superclassLinks.beyond f.enclosing)) =
      fun f => Ancestry.asked m' config (m'.superclassLinks.beyond f.enclosing) := by
    funext f
    rw [(h.agreesOn.superclass_beyond trivial).1, h.asked config]
  rw [Collection.inspected_ofModel acyclic, Collection.inspected_ofModel acyclic', hasked]
  exact (h.markedFields_perm.flatMap_right _).dedup.length_eq

/-- Rounds over models that agree leave the same report and the same store, and report the same
problems. -/
theorem intoStore :
    (Round.intoStore m config).1.result = (Round.intoStore m' config).1.result ∧
      (Round.intoStore m config).2 = (Round.intoStore m' config).2 ∧
      (Round.intoStore m config).1.diagnostics.Perm (Round.intoStore m' config).1.diagnostics := by
  obtain ⟨hresult, hstore⟩ := Round.intoStore_eq m config
  obtain ⟨hresult', hstore'⟩ := Round.intoStore_eq m' config
  have hdiagnostics := h.diagnostics config
  refine ⟨?_, ?_, hdiagnostics⟩
  · rw [hresult, hresult', h.groups config acyclic, h.inspected config acyclic,
      hdiagnostics.length_eq]
  · rw [hstore, hstore', h.groups config acyclic]

end TypeModel.Agrees

end Companion
