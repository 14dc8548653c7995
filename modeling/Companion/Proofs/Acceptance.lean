import Companion.Ancestry
import Companion.Proofs.Catalog
import Companion.Proofs.Path

/-!
# What is accepted

A manifest says by its declarations alone which class extends which: a declared class what its
declaration names, and a class of the platform what the platform names unless a declaration hides
it. A manifest becomes a catalog exactly if its names are well-formed and no chain of such classes
that begins at a declared type comes to a class twice. Then no chain at all does, so a climb to the
nearest marked ancestor never stands where it has been.
-/

namespace Companion

/-- Identifiers with dots between them. -/
def IsDotted (t : Text) : Prop :=
  ∃ parts : List Text, parts ≠ [] ∧ (∀ part ∈ parts, Identifier.isValid part = true) ∧
    t = List.intercalate ['.'] parts

lemma isDotted_iff {t : Text} :
    IsDotted t ↔ (Text.split '.' t).all Identifier.isValid = true := by
  rw [List.all_eq_true]
  constructor
  · rintro ⟨parts, hne, valid, rfl⟩
    rwa [Text.split_intercalate
      (fun part hpart => Identifier.dot_notMem_of_isValid (valid part hpart)) hne]
  · intro valid
    obtain ⟨first, rest, hsplit⟩ := Text.split_eq_cons '.' t
    exact ⟨Text.split '.' t, by simp [hsplit], valid, (Text.intercalate_split '.' t).symm⟩

namespace Manifest

variable (m : Manifest)

/-- A class extends another, by its declaration or, where none hides it, by the platform. -/
inductive Extends : QName → QName → Prop where
  | declared {d : TypeDecl} {s : QName} {args : List TypeExpr} (hd : d ∈ m.types)
      (hs : d.superclass = some (.declared s args)) : Extends d.qualifiedName s
  | platform {d : TypeDecl} {s : QName} {args : List TypeExpr} (hp : m.usesPlatform = true)
      (hd : d ∈ Platform.types) (hidden : ∀ e ∈ m.types, e.qualifiedName ≠ d.qualifiedName)
      (hs : d.superclass = some (.declared s args)) : Extends d.qualifiedName s

/-- A type, what it extends, what that extends, and so on to the top. -/
inductive Line : QName → List QName → Prop where
  | top {n : QName} (hn : ∀ s, ¬m.Extends n s) : Line n [n]
  | above {n s : QName} {line : List QName} (hs : m.Extends n s) (h : Line s line) :
      Line n (n :: line)

/-- A type of the manifest or of the platform beneath it. -/
def Declares (n : QName) : Prop :=
  (∃ e ∈ m.types, e.qualifiedName = n) ∨
    m.usesPlatform = true ∧ ∃ e ∈ Platform.types, e.qualifiedName = n

/-- A manifest without faults. -/
structure IsConsistent : Prop where
  packages : ∀ d ∈ m.types, d.package = [] ∨ IsDotted d.package
  names : ∀ d ∈ m.types, Identifier.isValid d.name = true
  fields : ∀ d ∈ m.types, ∀ f ∈ d.fields, Identifier.isValid f.name = true
  distinct : (m.types.map (·.qualifiedName)).Nodup
  superclasses : ∀ d ∈ m.types, ∀ t, d.superclass = some t → ∃ s args, t = .declared s args
  enclosing : ∀ d ∈ m.types, ∀ outer, d.enclosing = some outer → m.Declares outer
  chains : ∀ d ∈ m.types, ∀ above : List QName,
    (d.qualifiedName :: above).IsChain m.Extends → (d.qualifiedName :: above).Nodup

end Manifest

namespace Catalog

lemma nameFault?_eq_none_iff {d : TypeDecl} :
    nameFault? d = none ↔
      (d.package = [] ∨ IsDotted d.package) ∧ Identifier.isValid d.name = true ∧
        ∀ f ∈ d.fields, Identifier.isValid f.name = true := by
  constructor
  · intro h
    refine ⟨?_, nameFault?_eq_none h⟩
    by_contra hpackage
    rw [not_or, isDotted_iff] at hpackage
    rw [nameFault?, if_pos hpackage] at h
    cases h
  · rintro ⟨hpackage, hname, hfields⟩
    rw [isDotted_iff] at hpackage
    rw [nameFault?, if_neg (by tauto), if_neg (by simpa using hname), Option.map_eq_none_iff,
      List.find?_eq_none]
    exact fun f hf => by simpa using hfields f hf

lemma erasure_eq_some_iff {t : TypeExpr} {s : QName} :
    t.erasure = some s ↔ ∃ args, t = .declared s args := by
  cases t <;> simp [TypeExpr.erasure]

lemma supertypeFault?_eq_none_iff {d : TypeDecl} :
    supertypeFault? d = none ↔ ∀ t, d.superclass = some t → ∃ s args, t = .declared s args := by
  rw [supertypeFault?]
  cases d.superclass with
  | none => simp
  | some t => cases t <;> simp [TypeExpr.erasure]

lemma superclassName_eq_some_iff {d : TypeDecl} {s : QName} :
    d.superclassName = some s ↔ ∃ args, d.superclass = some (.declared s args) := by
  rw [TypeDecl.superclassName, Option.bind_eq_some_iff]
  constructor
  · rintro ⟨t, ht, hs⟩
    obtain ⟨args, rfl⟩ := erasure_eq_some_iff.mp hs
    exact ⟨args, ht⟩
  · rintro ⟨args, h⟩
    exact ⟨_, h, rfl⟩

/-- No two types of the platform share a name. -/
lemma platform_nodup : (Platform.types.map (·.qualifiedName)).Nodup := by
  decide +kernel

section Unchecked

variable {m : Manifest} {n s : QName}

lemma mem_platform_unchecked {d : TypeDecl} :
    d ∈ (unchecked m).platform ↔ m.usesPlatform = true ∧ d ∈ Platform.types := by
  cases hp : m.usesPlatform <;> simp [unchecked, ofTypes, hp]

lemma isSome_lookup_iff : ((unchecked m).lookup n).isSome = true ↔ m.Declares n := by
  simp only [lookup_eq_find?, List.find?_isSome, types, List.mem_append, mem_platform_unchecked,
    decide_eq_true_eq, or_and_right, exists_or, and_assoc, exists_and_left]
  rfl

/-- A type of the platform is found if no declared type has its name. -/
lemma lookup_unchecked_iff (nodup : (m.types.map (·.qualifiedName)).Nodup) {d : TypeDecl} :
    (unchecked m).lookup n = some d ↔
      d.qualifiedName = n ∧ (d ∈ m.types ∨ m.usesPlatform = true ∧ d ∈ Platform.types ∧
        ∀ e ∈ m.types, e.qualifiedName ≠ d.qualifiedName) := by
  by_cases hn : n ∈ m.types.map (·.qualifiedName)
  · obtain ⟨e, he, rfl⟩ := List.mem_map.mp hn
    have hlookup : (unchecked m).lookup e.qualifiedName = some e :=
      lookup_of_nodup (c := unchecked m) nodup he
    rw [hlookup, Option.some.injEq]
    constructor
    · rintro rfl
      exact ⟨rfl, Or.inl he⟩
    · rintro ⟨hname, hd | ⟨-, -, hidden⟩⟩
      · have hd' : (unchecked m).lookup d.qualifiedName = some d :=
          lookup_of_nodup (c := unchecked m) nodup hd
        rw [hname, hlookup] at hd'
        exact Option.some.inj hd'
      · exact absurd hname.symm (hidden e he)
  · rw [lookup_undeclared (c := unchecked m) hn]
    constructor
    · intro h
      have hname : d.qualifiedName = n := by simpa using List.find?_some h
      obtain ⟨hp, hd⟩ := mem_platform_unchecked.mp (List.mem_of_find?_eq_some h)
      refine ⟨hname, Or.inr ⟨hp, hd, fun e he heq => hn ?_⟩⟩
      exact List.mem_map.mpr ⟨e, he, heq.trans hname⟩
    · rintro ⟨rfl, hd | ⟨hp, hd, -⟩⟩
      · exact absurd (List.mem_map.mpr ⟨d, hd, rfl⟩) hn
      · have hplatform : (unchecked m).platform = Platform.types := by
          simp [unchecked, ofTypes, hp]
        rw [hplatform]
        exact find?_qualifiedName platform_nodup hd

/-- Where no name is declared twice, the links of the catalog are what the manifest says. -/
lemma leads_iff_extends (nodup : (m.types.map (·.qualifiedName)).Nodup) :
    (unchecked m).superclassLinks.Leads n s ↔ m.Extends n s := by
  change ((unchecked m).lookup n).bind (·.superclassName) = some s ↔ _
  rw [Option.bind_eq_some_iff]
  constructor
  · rintro ⟨d, hd, hs⟩
    obtain ⟨args, hs⟩ := superclassName_eq_some_iff.mp hs
    obtain ⟨rfl, hd | ⟨hp, hd, hidden⟩⟩ := (lookup_unchecked_iff nodup).mp hd
    · exact .declared hd hs
    · exact .platform hp hd hidden hs
  · rintro (⟨hd, hs⟩ | ⟨hp, hd, hidden, hs⟩)
    · exact ⟨_, (lookup_unchecked_iff nodup).mpr ⟨rfl, Or.inl hd⟩,
        superclassName_eq_some_iff.mpr ⟨_, hs⟩⟩
    · exact ⟨_, (lookup_unchecked_iff nodup).mpr ⟨rfl, Or.inr ⟨hp, hd, hidden⟩⟩,
        superclassName_eq_some_iff.mpr ⟨_, hs⟩⟩

lemma enclosingFault?_eq_none_iff {d : TypeDecl} :
    (unchecked m).enclosingFault? d = none ↔
      ∀ outer, d.enclosing = some outer → m.Declares outer := by
  rw [enclosingFault?]
  cases d.enclosing with
  | none => simp
  | some outer =>
    simp only [Option.some.injEq, forall_eq', ← isSome_lookup_iff]
    cases ((unchecked m).lookup outer).isSome <;> simp

lemma cycleFault?_eq_none_iff (nodup : (m.types.map (·.qualifiedName)).Nodup) {d : TypeDecl} :
    (unchecked m).cycleFault? d = none ↔ ∀ above : List QName,
      (d.qualifiedName :: above).IsChain m.Extends → (d.qualifiedName :: above).Nodup := by
  have hleads : (unchecked m).superclassLinks.Leads = m.Extends :=
    funext₂ fun n s => propext (leads_iff_extends nodup)
  rw [cycleFault?, Option.map_eq_none_iff, Graph.Links.repeated?_eq_none_iff, hleads]

/-- The three passes over the declarations find nothing exactly in a manifest without faults. -/
lemma fault?_eq_none_iff_isConsistent : fault? m = none ↔ m.IsConsistent := by
  rw [fault?_eq_none_iff, declarationsFault?_eq_none_iff, linkFault?_eq_none_iff]
  constructor
  · rintro ⟨⟨faults, -, nodup⟩, enclosing, cycles⟩
    have names := fun d hd => nameFault?_eq_none_iff.mp (faults d hd).1
    exact
      { packages := fun d hd => (names d hd).1
        names := fun d hd => (names d hd).2.1
        fields := fun d hd => (names d hd).2.2
        distinct := nodup
        superclasses := fun d hd => supertypeFault?_eq_none_iff.mp (faults d hd).2
        enclosing := fun d hd => enclosingFault?_eq_none_iff.mp (enclosing d hd)
        chains := fun d hd => (cycleFault?_eq_none_iff nodup).mp (cycles d hd) }
  · intro h
    refine ⟨⟨fun d hd => ⟨?_, ?_⟩, by simp, h.distinct⟩, fun d hd => ?_, fun d hd => ?_⟩
    · exact nameFault?_eq_none_iff.mpr ⟨h.packages d hd, h.names d hd, h.fields d hd⟩
    · exact supertypeFault?_eq_none_iff.mpr (h.superclasses d hd)
    · exact enclosingFault?_eq_none_iff.mpr (h.enclosing d hd)
    · exact (cycleFault?_eq_none_iff h.distinct).mpr (h.chains d hd)

/-- The path of an acyclic catalog is a whole line of superclasses. -/
lemma line_path (nodup : (m.types.map (·.qualifiedName)).Nodup)
    (acyclic : (unchecked m).superclassLinks.IsAcyclic) (n : QName) :
    m.Line n ((unchecked m).superclassLinks.path n) := by
  induction n using acyclic.induction with
  | _ n ih =>
    cases hn : (unchecked m).superclassLinks.next n with
    | none =>
      rw [Graph.Links.path_of_next_none hn]
      refine .top fun s hs => ?_
      have hleads : (unchecked m).superclassLinks.next n = some s :=
        (leads_iff_extends nodup).mpr hs
      rw [hn] at hleads
      cases hleads
    | some s =>
      rw [acyclic.path_of_next_some hn]
      exact .above ((leads_iff_extends nodup).mp hn) (ih s hn)

end Unchecked

end Catalog

namespace Ancestry

/-- Where a climb stands: the types it has been to, what is known by then, and the type it is at. -/
structure Stop where
  seen : List QName
  memo : Memo
  place : QName

/-- The climb from a stop. -/
def Stop.climb (m : TypeModel) (config : Config) (stop : Stop) : Inquiry (Option QName × Memo) :=
  Ancestry.climb m config stop.seen stop.memo stop.place

/-- A climb goes on to the superclass of a type that is not marked, whether that was known before
or is found out at the stop. -/
inductive GoesOn (m : TypeModel) (config : Config) : Stop → Stop → Prop where
  | known {seen : List QName} {memo : Memo} {n above : QName} (hn : n ∉ seen)
      (hx : config.isExcluded n = false) (ha : memo.markedArtifact? n = none)
      (hu : memo.isUnmarked n = true) (hr : memo.ancestor? n = none)
      (hs : m.superclass n = some above) :
      GoesOn m config ⟨seen, memo, n⟩ ⟨n :: seen, memo, above⟩
  | inspected {seen : List QName} {memo : Memo} {n above : QName} (hn : n ∉ seen)
      (hx : config.isExcluded n = false) (ha : memo.markedArtifact? n = none)
      (hu : memo.isUnmarked n = false) (hm : m.declaresMarked n = false)
      (hs : m.superclass n = some above) :
      GoesOn m config ⟨seen, memo, n⟩ ⟨n :: seen, memo.addUnmarked n, above⟩

variable {m : TypeModel} {config : Config}

/-- What a climb does at a type where it has not been: it goes on with the same answer, or it ends
because the type is left alone, because its answer is known or found at once, or at the top. -/
def Stop.Proceeds (m : TypeModel) (config : Config) (stop : Stop) : Prop :=
  (∃ next queries, GoesOn m config stop next ∧
    stop.climb m config = (next.climb m config).after queries) ∨
  config.isExcluded stop.place = true ∨ (stop.memo.markedArtifact? stop.place).isSome ∨
  (stop.memo.ancestor? stop.place).isSome ∨ m.declaresMarked stop.place = true ∨
  m.superclass stop.place = none

lemma Stop.proceeds {stop : Stop} (h : stop.place ∉ stop.seen) : stop.Proceeds m config := by
  obtain ⟨seen, memo, n⟩ := stop
  rw [Proceeds, Stop.climb]
  fun_cases Ancestry.climb m config seen memo n with
  | case1 hn => exact absurd hn h
  | case2 hn hx => exact Or.inr (Or.inl hx)
  | case3 hn hx artifact ha => simp [ha]
  | case4 hn hx ha hu found hf => simp [hf]
  | case5 hn hx ha hu hf hs => simp [hs]
  | case6 hn hx ha hu hf above hs =>
    exact Or.inl ⟨_, _, .known hn (by simpa using hx) ha hu hf hs, rfl⟩
  | case7 hn hx ha hu hm => simp [hm]
  | case8 hn hx ha hu hm hs => simp [hs]
  | case9 hn hx ha hu hm above hs =>
    exact Or.inl ⟨_, _, .inspected hn (by simpa using hx) ha (by simpa using hu)
      (by simpa using hm) hs, rfl⟩

/-- A stop ahead of which lies nothing that was seen. -/
def Stop.IsFresh (l : Graph.Links QName) (stop : Stop) : Prop :=
  ∀ n ∈ l.path stop.place, n ∉ stop.seen

/-- Where superclasses run in no circles, a climb goes from fresh stops to fresh stops. -/
lemma isFresh_of_goesOn {l : Graph.Links QName} (acyclic : l.IsAcyclic)
    (hl : ∀ n, l.next n = m.superclass n) {stop next : Stop} (h : GoesOn m config stop next)
    (fresh : stop.IsFresh l) : next.IsFresh l := by
  cases h with
  | known _ _ _ _ _ hs => exact acyclic.notMem_of_next_some ((hl _).trans hs) fresh
  | inspected _ _ _ _ _ hs => exact acyclic.notMem_of_next_some ((hl _).trans hs) fresh

lemma isFresh_of_reaches {l : Graph.Links QName} (acyclic : l.IsAcyclic)
    (hl : ∀ n, l.next n = m.superclass n) {stop last : Stop}
    (h : Relation.ReflTransGen (GoesOn m config) stop last) (fresh : stop.IsFresh l) :
    last.IsFresh l := by
  induction h with
  | refl => exact fresh
  | tail _ hnext ih => exact isFresh_of_goesOn acyclic hl hnext ih

lemma Stop.IsFresh.place_notMem {l : Graph.Links QName} {stop : Stop} (h : stop.IsFresh l) :
    stop.place ∉ stop.seen := by
  obtain ⟨rest, hpath⟩ := l.path_eq_cons stop.place
  exact h stop.place (hpath ▸ List.mem_cons_self)

end Ancestry

namespace Catalog

/-- A manifest is accepted exactly if it is consistent. Then every type has a line of superclasses,
which comes to no type twice, and no climb stands at a type where it has been. -/
theorem accepts_iff_isConsistent (m : Manifest) :
    ((∃ c, ofManifest m = .ok c) ↔ m.IsConsistent) ∧
    ∀ c, ofManifest m = .ok c →
      (∀ n s, c.model.superclass n = some s ↔ m.Extends n s) ∧
      (∀ n, ∃ line, m.Line n line ∧ line.Nodup) ∧
      ∀ (config : Config) (memo : Memo) (n above : QName), c.model.superclass n = some above →
        ∀ stop, Relation.ReflTransGen (Ancestry.GoesOn c.model config) ⟨[n], memo, above⟩ stop →
          stop.place ∉ stop.seen ∧ stop.Proceeds c.model config := by
  constructor
  · rw [← fault?_eq_none_iff_isConsistent]
    constructor
    · rintro ⟨c, hc⟩
      exact (ofManifest_ok hc).2
    · exact fun h => ⟨unchecked m, ofManifest_of_fault?_eq_none h⟩
  · intro c hc
    obtain ⟨-, wellFormed⟩ := wellFormed_of_ofManifest hc
    obtain ⟨rfl, hfault⟩ := ofManifest_ok hc
    have distinct := (fault?_eq_none_iff_isConsistent.mp hfault).distinct
    have acyclic := wellFormed.superclasses
    refine ⟨fun n s => leads_iff_extends distinct, fun n => ?_, ?_⟩
    · exact ⟨_, line_path distinct acyclic n, acyclic.path_nodup n⟩
    · intro config memo n above hs stop hreach
      have fresh : Ancestry.Stop.IsFresh (unchecked m).superclassLinks ⟨[n], memo, above⟩ :=
        acyclic.notMem_of_next_some hs fun _ _ => List.not_mem_nil
      have hplace := (Ancestry.isFresh_of_reaches acyclic (fun _ => rfl) hreach fresh).place_notMem
      exact ⟨hplace, Ancestry.Stop.proceeds hplace⟩

/-- A class of the platform replaced by a declared one that extends `p.Root`, and below it a screen
that extends another class of the platform; `p.Root` extends what is given. -/
def viewManifest (above : QName) : Manifest where
  usesPlatform := true
  types :=
    [{ package := "p", name := "Screen", enclosing := none,
       superclass := some (.declared "android.widget.TextView" []), interfaces := [],
       modifiers := .empty, fields := [] },
      { package := "android.view", name := "View", enclosing := none,
        superclass := some (.declared "p.Root" []), interfaces := [], modifiers := .empty,
        fields := [] },
      { package := "p", name := "Root", enclosing := none,
        superclass := some (.declared above []), interfaces := [], modifiers := .empty,
        fields := [] }]

/-- The platform's `TextView` leads into the declared types, and from there to the top or back. -/
theorem viewManifest_accepted :
    ofManifest (viewManifest Platform.object) =
      .ok (unchecked (viewManifest Platform.object)) ∧
    (viewManifest Platform.object).IsConsistent ∧
    (viewManifest Platform.object).Extends "android.widget.TextView" "android.view.View" ∧
    (viewManifest Platform.object).Extends "android.view.View" "p.Root" ∧
    ¬(viewManifest "android.widget.TextView").IsConsistent := by
  obtain ⟨hiff, hsuper⟩ := accepts_iff_isConsistent (viewManifest Platform.object)
  have accepted : ofManifest (viewManifest Platform.object) =
      .ok (unchecked (viewManifest Platform.object)) :=
    ofManifest_of_fault?_eq_none (by decide +kernel)
  refine ⟨accepted, hiff.mp ⟨_, accepted⟩, ((hsuper _ accepted).1 _ _).mp (by decide +kernel),
    ((hsuper _ accepted).1 _ _).mp (by decide +kernel), fun h => ?_⟩
  obtain ⟨c, hc⟩ := (accepts_iff_isConsistent (viewManifest "android.widget.TextView")).1.mpr h
  have refused : fault? (viewManifest "android.widget.TextView") ≠ none := by decide +kernel
  exact refused (ofManifest_ok hc).2

end Catalog

end Companion
