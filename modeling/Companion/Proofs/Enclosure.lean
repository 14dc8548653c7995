import Companion.Proofs.Naming

/-!
# Types around types

Nothing is asked of the types around a type but that they are there. Since a nested type is named
below the type around it, this is enough for the types around a type to form a line without
repetition that ends at a type in no other. The two walks outward, to a package and to the name of
an artifact, keep what they have visited in sets of their own, and neither of them ever needs it.
-/

namespace Companion.Catalog

/-- The declarations of a type and of the types around it, from the inside out, up to one that
stands in no other. -/
inductive Enclosure (c : Catalog) : QName → List TypeDecl → Prop where
  | top {n : QName} {d : TypeDecl} (hl : c.lookup n = some d) (ho : d.enclosing = none) :
      Enclosure c n [d]
  | nested {n outer : QName} {d : TypeDecl} {chain : List TypeDecl} (hl : c.lookup n = some d)
      (ho : d.enclosing = some outer) (h : Enclosure c outer chain) : Enclosure c n (d :: chain)

/-- Why a walk outward ends. -/
inductive Ending where
  /-- It has found what it looks for. -/
  | found
  /-- The type stands in no other. -/
  | outermost
  /-- The type around it was visited before. -/
  | revisited (n : QName)
  /-- The type around it is not known. -/
  | unknown (n : QName)
deriving DecidableEq

namespace Ending

/-- The type that a walk would have come to again. -/
def revisited? : Ending → Option QName
  | .revisited n => some n
  | _ => none

/-- The type that a walk would have come to if it were known. -/
def unknown? : Ending → Option QName
  | .unknown n => some n
  | _ => none

end Ending

/-- A walk from a declaration outward until it finds what it looks for, past the names that were
visited: the declarations that it comes to, and why it ends. -/
def outward (c : Catalog) (found : TypeDecl → Bool) (visited : List QName) (d : TypeDecl) :
    List TypeDecl × Ending :=
  if found d then ([d], .found)
  else
    match d.enclosing with
    | none => ([d], .outermost)
    | some outer =>
      if _hv : outer ∈ visited then ([d], .revisited outer)
      else
        match _hl : c.lookup outer with
        | none => ([d], .unknown outer)
        | some e =>
          let (ds, ending) := outward c found (outer :: visited) e
          (d :: ds, ending)
termination_by Graph.unseen c.names visited
decreasing_by exact Graph.unseen_cons_lt (mem_names_of_lookup _hl) _hv

/-- The walk that looks for a declaration with a package. -/
def packageWalk (c : Catalog) (d : TypeDecl) : List TypeDecl × Ending :=
  c.outward (fun e => e.package ≠ []) [] d

/-- The walk that collects the names of all types around a type. -/
def nameWalk (c : Catalog) (n : QName) (d : TypeDecl) : List TypeDecl × Ending :=
  c.outward (fun _ => false) [n] d

variable {c : Catalog} {n outer : QName} {d : TypeDecl} {chain : List TypeDecl}

namespace Enclosure

lemma exists_cons (h : c.Enclosure n chain) : ∃ d ds, chain = d :: ds ∧ c.lookup n = some d := by
  cases h with
  | top hl ho => exact ⟨_, [], rfl, hl⟩
  | nested hl ho h => exact ⟨_, _, rfl, hl⟩

lemma unique {chain' : List TypeDecl} (h : c.Enclosure n chain) (h' : c.Enclosure n chain') :
    chain = chain' := by
  induction h generalizing chain' with
  | top hl ho =>
    cases h' with
    | top hl' _ => rw [Option.some.inj (hl.symm.trans hl')]
    | nested hl' ho' _ =>
      obtain rfl := Option.some.inj (hl.symm.trans hl')
      rw [ho] at ho'
      cases ho'
  | nested hl ho _ ih =>
    cases h' with
    | top hl' ho' =>
      obtain rfl := Option.some.inj (hl.symm.trans hl')
      rw [ho] at ho'
      cases ho'
    | nested hl' ho' h' =>
      obtain rfl := Option.some.inj (hl.symm.trans hl')
      obtain rfl := Option.some.inj (ho.symm.trans ho')
      rw [ih h']

/-- All types of the line are known under their names. -/
lemma lookup_mem (h : c.Enclosure n chain) : ∀ e ∈ chain, c.lookup e.qualifiedName = some e := by
  induction h with
  | top hl ho =>
    intro e he
    obtain rfl := List.mem_singleton.mp he
    rw [(lookup_some hl).1, hl]
  | nested hl ho _ ih =>
    refine List.forall_mem_cons.mpr ⟨?_, ih⟩
    rw [(lookup_some hl).1, hl]

end Enclosure

namespace WellFormed

variable (h : c.WellFormed)
include h

/-- The types around a known type form a line. -/
lemma exists_enclosure (hl : c.lookup n = some d) : ∃ chain, c.Enclosure n chain := by
  refine h.induction_on_enclosing (P := fun n _ => ∃ chain, c.Enclosure n chain) ?_ ?_ hl
  · exact fun n d hl ho => ⟨[d], .top hl ho⟩
  · rintro n d outer e hl ho - ⟨chain, hchain⟩
    exact ⟨d :: chain, .nested hl ho hchain⟩

/-- A type of the line is one of the program, unless it stands in no other. -/
lemma declared_of_mem (hchain : c.Enclosure n chain) {e : TypeDecl} (he : e ∈ chain) :
    e ∈ c.declared ∨ e ∈ Platform.types ∧ e.enclosing = none := by
  refine (lookup_some (hchain.lookup_mem e he)).2.imp_right fun hp => ?_
  have hplatform := h.platform e hp
  exact ⟨hplatform, (platform_plain e hplatform).2.1⟩

/-- The line has the names of the path along the links from a type to the one around it. -/
lemma path_eq_map (hchain : c.Enclosure n chain) :
    c.enclosingLinks.path n = chain.map (·.qualifiedName) := by
  induction hchain with
  | top hl ho => rw [path_of_top hl ho, List.map_singleton, (lookup_some hl).1]
  | nested hl ho _ ih => rw [h.path_of_nested hl ho, List.map_cons, (lookup_some hl).1, ih]

lemma nodup_enclosure (hchain : c.Enclosure n chain) : (chain.map (·.qualifiedName)).Nodup := by
  rw [← h.path_eq_map hchain]
  exact h.enclosingLinks_isAcyclic.path_nodup n

lemma nestedNames_eq_map (hchain : c.Enclosure n chain) :
    c.nestedNames n = (chain.map (·.name)).reverse := by
  induction hchain with
  | top hl ho => rw [nestedNames_of_top hl ho, List.map_singleton, List.reverse_singleton]
  | nested hl ho _ ih => rw [h.nestedNames_of_nested hl ho, ih, List.map_cons, List.reverse_cons]

end WellFormed

section

variable {found : TypeDecl → Bool} {visited : List QName}

lemma outward_of_found (hf : found d = true) : c.outward found visited d = ([d], .found) := by
  rw [outward, if_pos hf]

variable (hf : found d = false)
include hf

lemma outward_of_top (ho : d.enclosing = none) :
    c.outward found visited d = ([d], .outermost) := by
  rw [outward, if_neg (by simp [hf])]
  split
  · rfl
  · next hn => rw [ho] at hn; cases hn

/-- A walk goes on to a known type that was not visited. -/
lemma outward_of_nested {e : TypeDecl} (ho : d.enclosing = some outer) (hv : outer ∉ visited)
    (he : c.lookup outer = some e) :
    c.outward found visited d =
      (d :: (c.outward found (outer :: visited) e).1,
        (c.outward found (outer :: visited) e).2) := by
  rw [outward, if_neg (by simp [hf])]
  split
  · next hn => rw [ho] at hn; cases hn
  · next a hn =>
    obtain rfl := Option.some.inj (ho.symm.trans hn)
    rw [dif_neg hv]
    split
    · next hnone => rw [he] at hnone; cases hnone
    · next b hb =>
      obtain rfl := Option.some.inj (he.symm.trans hb)
      rfl

end

/-- The walk that collects names is the walk along the links that flattened names are made from. -/
lemma walk_eq_outward {visited seen : List QName} (hl : c.lookup n = some d)
    (hv : visited = n :: seen) (hn : n ∉ seen) :
    c.enclosingLinks.walk seen n =
      ((c.outward (fun _ => false) visited d).1.map (·.qualifiedName) ++
          (c.outward (fun _ => false) visited d).2.unknown?.toList,
        (c.outward (fun _ => false) visited d).2.revisited?) := by
  generalize hf : (fun _ : TypeDecl => false) = found
  fun_induction outward c found visited d generalizing n seen with
  | case1 visited d hfound => simp [← hf] at hfound
  | case2 visited d hfound ho =>
    rw [c.enclosingLinks.walk_of_next_none hn ((enclosingLinks_next hl).trans ho)]
    simp [(lookup_some hl).1, Ending.unknown?, Ending.revisited?]
  | case3 visited d hfound outer ho hmem =>
    rw [c.enclosingLinks.walk_of_next_some hn ((enclosingLinks_next hl).trans ho), ← hv,
      c.enclosingLinks.walk_of_mem hmem]
    simp [(lookup_some hl).1, Ending.unknown?, Ending.revisited?]
  | case4 visited d hfound outer ho hmem hnone =>
    have hnext : c.enclosingLinks.next outer = none := by simp [enclosingLinks, hnone]
    rw [c.enclosingLinks.walk_of_next_some hn ((enclosingLinks_next hl).trans ho), ← hv,
      c.enclosingLinks.walk_of_next_none hmem hnext]
    simp [(lookup_some hl).1, Ending.unknown?, Ending.revisited?]
  | case5 visited d hfound outer ho hmem e he ds ending heq ih =>
    rw [heq] at ih
    rw [c.enclosingLinks.walk_of_next_some hn ((enclosingLinks_next hl).trans ho), ← hv,
      ih he rfl hmem]
    simp [(lookup_some hl).1]

lemma exists_outward (found : TypeDecl → Bool) (visited : List QName) (d : TypeDecl) :
    ∃ ds, (c.outward found visited d).1 = d :: ds := by
  rw [outward]
  repeat' split
  all_goals exact ⟨_, rfl⟩

/-- A walk to a package comes to the one that a search of the types around finds. -/
lemma package_outward (visited : List QName) (hp : d.package = []) :
    (c.outward (fun e => e.package ≠ []) visited d).1.getLast?.map (·.package) =
      some ((d.enclosing.bind fun outer =>
        (c.enclosingLinks.walk visited outer).1.findSome? c.ownPackage?).getD []) := by
  generalize hf : (fun e : TypeDecl => decide (e.package ≠ [])) = found
  fun_induction outward c found visited d with
  | case1 visited d hfound => simp [← hf, hp] at hfound
  | case2 visited d hfound ho => simp [ho, hp]
  | case3 visited d hfound outer ho hmem => simp [ho, c.enclosingLinks.walk_of_mem hmem, hp]
  | case4 visited d hfound outer ho hmem hnone =>
    have hnext : c.enclosingLinks.next outer = none := by simp [enclosingLinks, hnone]
    simp [ho, c.enclosingLinks.walk_of_next_none hmem hnext, hp, ownPackage?, hnone]
  | case5 visited d hfound outer ho hmem e he ds ending heq ih =>
    obtain ⟨es, hes⟩ := c.exists_outward found (outer :: visited) e
    rw [heq] at hes ih
    obtain rfl : ds = e :: es := hes
    rw [List.getLast?_cons_cons, ho, Option.bind_some]
    by_cases hpe : e.package = []
    · rw [ih hpe]
      cases hoe : e.enclosing with
      | none =>
        rw [c.enclosingLinks.walk_of_next_none hmem ((enclosingLinks_next he).trans hoe)]
        simp [ownPackage?_eq he, hpe]
      | some next =>
        rw [c.enclosingLinks.walk_of_next_some hmem ((enclosingLinks_next he).trans hoe)]
        simp [ownPackage?_eq he, hpe]
    · obtain ⟨rest, hrest⟩ := Graph.Links.walk_eq_cons (l := c.enclosingLinks) hmem
      have hsingle : c.outward found (outer :: visited) e = ([e], .found) :=
        outward_of_found (by simp [← hf, hpe])
      rw [hsingle] at heq
      obtain ⟨heq, -⟩ := Prod.mk.inj heq
      obtain rfl := (List.cons.inj heq).2
      simp [hrest, ownPackage?_eq he, hpe]

/-- The package walk comes to the package of the type, in every catalog. -/
lemma packageOf_eq_packageWalk (hl : c.lookup n = some d) :
    (c.packageWalk d).1.getLast?.map (·.package) = some (c.packageOf n) := by
  by_cases hp : d.package = []
  · rw [packageWalk, package_outward [] hp, packageOf, Graph.Links.findFrom_nil]
    cases ho : d.enclosing with
    | none =>
      rw [Graph.Links.path_of_next_none ((enclosingLinks_next hl).trans ho)]
      simp [ownPackage?_eq hl, hp]
    | some outer =>
      have hpath := Graph.Links.path_of_next_some ((enclosingLinks_next hl).trans ho)
      rw [Graph.Links.path] at hpath
      rw [Option.bind_some, hpath, Graph.Links.path_eq_cons_beyond, List.findSome?_append]
      split <;> simp [ownPackage?_eq hl, hp]
  · have hwalk : c.packageWalk d = ([d], .found) := outward_of_found (by simpa using hp)
    rw [hwalk, packageOf, Graph.Links.findFrom_nil, Graph.Links.path_eq_cons_beyond]
    simp [ownPackage?_eq hl, hp]

/-- A walk that has visited none of the types around its start comes to the first type that it looks
for or, without one, to the outermost type. -/
lemma Enclosure.outward_cases (hchain : c.Enclosure n chain)
    (nodup : (chain.map (·.qualifiedName)).Nodup) (hl : c.lookup n = some d)
    (found : TypeDecl → Bool) (visited : List QName)
    (fresh : ∀ e ∈ chain.tail, e.qualifiedName ∉ visited) :
    (∃ before e rest, chain = before ++ e :: rest ∧ (∀ a ∈ before, found a = false) ∧
        found e = true ∧ c.outward found visited d = (before ++ [e], .found)) ∨
      (∀ a ∈ chain, found a = false) ∧ c.outward found visited d = (chain, .outermost) := by
  induction hchain generalizing d visited with
  | @top n d' hl' ho =>
    obtain rfl := Option.some.inj (hl.symm.trans hl')
    cases hf : found d with
    | true =>
      exact Or.inl ⟨[], d, [], rfl, List.forall_mem_nil _, hf, outward_of_found hf⟩
    | false => exact Or.inr ⟨by simpa using hf, outward_of_top hf ho⟩
  | @nested n outer d' chain hl' ho hchain ih =>
    obtain rfl := Option.some.inj (hl.symm.trans hl')
    cases hf : found d with
    | true =>
      exact Or.inl ⟨[], d, chain, rfl, List.forall_mem_nil _, hf, outward_of_found hf⟩
    | false =>
      obtain ⟨e, ds, rfl, he⟩ := hchain.exists_cons
      have hname := (lookup_some he).1
      have hv : outer ∉ visited := hname ▸ fresh e List.mem_cons_self
      have hnodup := (List.nodup_cons.mp nodup).2
      have hfresh : ∀ a ∈ ds, a.qualifiedName ∉ outer :: visited := by
        intro a ha hmem
        rcases List.mem_cons.mp hmem with heq | hmem
        · exact (List.nodup_cons.mp hnodup).1 (List.mem_map.mpr ⟨a, ha, heq.trans hname.symm⟩)
        · exact fresh a (List.mem_cons_of_mem e ha) hmem
      rw [outward_of_nested hf ho hv he]
      rcases ih hnodup he (outer :: visited) hfresh with
        ⟨before, a, rest, heq, hbefore, ha, hwalk⟩ | ⟨hall, hwalk⟩
      · refine Or.inl ⟨d :: before, a, rest, ?_, ?_, ha, ?_⟩
        · rw [heq, List.cons_append]
        · exact List.forall_mem_cons.mpr ⟨hf, hbefore⟩
        · rw [hwalk, List.cons_append]
      · refine Or.inr ⟨List.forall_mem_cons.mpr ⟨hf, hall⟩, ?_⟩
        rw [hwalk]

namespace WellFormed

variable (h : c.WellFormed)
include h

/-- The walk to a package ends at the first type of the line that has one, whose package is that of
the type, or at the outermost type. -/
lemma packageWalk_cases (hchain : c.Enclosure n chain) (hl : c.lookup n = some d) :
    (∃ before e rest, chain = before ++ e :: rest ∧ (∀ a ∈ before, a.package = []) ∧
        e.package ≠ [] ∧ c.packageWalk d = (before ++ [e], .found) ∧
        c.packageOf n = e.package) ∨
      (∀ a ∈ chain, a.package = []) ∧ c.packageWalk d = (chain, .outermost) ∧
        c.packageOf n = [] := by
  have hpackage := packageOf_eq_packageWalk hl
  rcases hchain.outward_cases (h.nodup_enclosure hchain) hl (fun e => e.package ≠ []) []
    (fun _ _ => List.not_mem_nil) with ⟨before, e, rest, rfl, hbefore, he, hwalk⟩ | ⟨hall, hwalk⟩
  · have hwalk : c.packageWalk d = (before ++ [e], .found) := hwalk
    rw [hwalk, List.getLast?_concat] at hpackage
    exact Or.inl ⟨before, e, rest, rfl, by simpa using hbefore, by simpa using he, hwalk,
      (Option.some.inj hpackage).symm⟩
  · have hwalk : c.packageWalk d = (chain, .outermost) := hwalk
    have hall : ∀ a ∈ chain, a.package = [] := by simpa using hall
    rw [hwalk] at hpackage
    obtain ⟨last, hlast, hp⟩ := Option.map_eq_some_iff.mp hpackage
    exact Or.inr ⟨hall, hwalk, hp ▸ hall last (List.mem_of_getLast? hlast)⟩

/-- The walk that collects names follows the whole line. -/
lemma nameWalk_eq (hchain : c.Enclosure n chain) (hl : c.lookup n = some d) :
    c.nameWalk n d = (chain, .outermost) := by
  have nodup := h.nodup_enclosure hchain
  have fresh : ∀ a ∈ chain.tail, a.qualifiedName ∉ [n] := by
    obtain ⟨e, ds, rfl, he⟩ := hchain.exists_cons
    intro a ha hmem
    refine (List.nodup_cons.mp nodup).1 (List.mem_map.mpr ⟨a, ha, ?_⟩)
    exact (List.mem_singleton.mp hmem).trans (lookup_some he).1.symm
  rcases hchain.outward_cases nodup hl (fun _ => false) [n] fresh with
    ⟨_, _, _, -, -, hf, -⟩ | ⟨-, hwalk⟩
  · cases hf
  · exact hwalk

/-- The walk along the links comes to no type again. -/
lemma walk_eq_map (hchain : c.Enclosure n chain) (hl : c.lookup n = some d) :
    c.enclosingLinks.walk [] n = (chain.map (·.qualifiedName), none) := by
  have hwalk : c.outward (fun _ => false) [n] d = (chain, .outermost) := h.nameWalk_eq hchain hl
  rw [walk_eq_outward hl rfl List.not_mem_nil, hwalk]
  simp [Ending.unknown?, Ending.revisited?]

end WellFormed

/-- In an accepted manifest the types around a type form one line without repetition, all of whose
types are known, and only its last one may belong to the platform. Both walks outward follow it and
end at what they look for or at its last type. The package of the type is the first one that is
given on the line, and the name of its artifact joins the simple names of the line. -/
theorem enclosure_decides {m : Manifest} {c : Catalog} (hm : ofManifest m = .ok c) {n : QName}
    {d : TypeDecl} (hl : c.lookup n = some d) :
    ∃ chain, c.Enclosure n chain ∧ (∀ chain', c.Enclosure n chain' → chain' = chain) ∧
      (chain.map (·.qualifiedName)).Nodup ∧
      (∀ e ∈ chain, c.lookup e.qualifiedName = some e ∧
        (e ∈ m.types ∨ e ∈ Platform.types ∧ e.enclosing = none)) ∧
      ((∃ before e rest, chain = before ++ e :: rest ∧ (∀ a ∈ before, a.package = []) ∧
          e.package ≠ [] ∧ c.packageWalk d = (before ++ [e], .found) ∧
          c.packageOf n = e.package) ∨
        (∀ a ∈ chain, a.package = []) ∧ c.packageWalk d = (chain, .outermost) ∧
          c.packageOf n = []) ∧
      c.nameWalk n d = (chain, .outermost) ∧
      c.enclosingLinks.walk [] n = (chain.map (·.qualifiedName), none) ∧
      (Identity.of c.model n).flattenedName =
        List.intercalate ['$'] (chain.map (·.name)).reverse := by
  obtain ⟨hdeclared, h⟩ := wellFormed_of_ofManifest hm
  obtain ⟨chain, hchain⟩ := h.exists_enclosure hl
  refine ⟨chain, hchain, fun _ h' => h'.unique hchain, h.nodup_enclosure hchain, fun e he => ?_,
    h.packageWalk_cases hchain hl, h.nameWalk_eq hchain hl, h.walk_eq_map hchain hl, ?_⟩
  · exact ⟨hchain.lookup_mem e he, hdeclared ▸ h.declared_of_mem hchain he⟩
  · rw [h.flattenedName_eq hl, h.nestedNames_eq_map hchain]

/-- A declaration without supertypes and fields. -/
def bareType (package name : Text) (enclosing : Option QName) : TypeDecl where
  package := package
  name := name
  enclosing := enclosing
  superclass := none
  interfaces := []
  modifiers := .empty
  fields := []

/-- A type in a type in a type, of which the one in the middle has a package of its own. -/
def layeredManifest : Manifest where
  usesPlatform := true
  types :=
    [bareType [] "Inner" (some "p.Outer.Middle"), bareType "q" "Middle" (some "p.Outer"),
      bareType "p" "Outer" none]

theorem layeredManifest_enclosure :
    ofManifest layeredManifest = .ok (unchecked layeredManifest) ∧
      (unchecked layeredManifest).Enclosure "p.Outer.Middle.Inner"
        [bareType [] "Inner" (some "p.Outer.Middle"), bareType "q" "Middle" (some "p.Outer"),
          bareType "p" "Outer" none] ∧
      (unchecked layeredManifest).packageOf "p.Outer.Middle.Inner" = "q" ∧
      (Identity.of (unchecked layeredManifest).model "p.Outer.Middle.Inner").flattenedName =
        "Outer$Middle$Inner" := by
  have accepted : ofManifest layeredManifest = .ok (unchecked layeredManifest) :=
    ofManifest_of_fault?_eq_none (by decide +kernel)
  have hinner : (unchecked layeredManifest).lookup "p.Outer.Middle.Inner" =
      some (bareType [] "Inner" (some "p.Outer.Middle")) := by decide +kernel
  obtain ⟨chain, -, unique, -, -, -, -, -, hflattened⟩ := enclosure_decides accepted hinner
  have hline : (unchecked layeredManifest).Enclosure "p.Outer.Middle.Inner"
      [bareType [] "Inner" (some "p.Outer.Middle"), bareType "q" "Middle" (some "p.Outer"),
        bareType "p" "Outer" none] :=
    .nested hinner rfl (.nested (by decide +kernel) rfl (.top (by decide +kernel) rfl))
  obtain rfl := unique _ hline
  exact ⟨accepted, hline, by decide +kernel, hflattened⟩

end Companion.Catalog
