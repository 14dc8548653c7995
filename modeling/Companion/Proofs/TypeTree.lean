import Companion.Identifier
import Companion.TypeExpr.Basic
import Mathlib.Tactic.Lemma

/-!
# Type trees

A type expression has no primitives but those that exist. In a type tree any word may stand for one,
any text for a name, and anything under an array. The canonical trees are those whose written form
says what they are.
-/

namespace Companion

/-- A tree like that of a type, whatever its words are. -/
inductive TypeTree where
  | primitive (word : Text)
  | declared (name : QName) (args : List TypeTree)
  | array (component : TypeTree)
  | wildcard
  | upperBounded (bound : TypeTree)
  | lowerBounded (bound : TypeTree)

namespace TypeTree

mutual

/-- The written form, without optional space. -/
def print : TypeTree → Text
  | .primitive word => word
  | .declared name args => name.text ++ printArgs args
  | .array component => component.print ++ "[]"
  | .wildcard => "?"
  | .upperBounded bound => "? extends " ++ bound.print
  | .lowerBounded bound => "? super " ++ bound.print

/-- Type arguments between angle brackets; nothing if there are none. -/
def printArgs : List TypeTree → Text
  | [] => []
  | arg :: args => '<' :: arg.print ++ printMore args

/-- The arguments after the first, and the closing bracket. -/
def printMore : List TypeTree → Text
  | [] => ">"
  | arg :: args => ',' :: arg.print ++ printMore args

end

@[simp] lemma print_primitive (word : Text) : (primitive word).print = word := rfl

@[simp] lemma print_declared (name : QName) (args : List TypeTree) :
    (declared name args).print = name.text ++ printArgs args := rfl

@[simp] lemma print_array (component : TypeTree) :
    (array component).print = component.print ++ "[]" := rfl

@[simp] lemma print_wildcard : wildcard.print = "?" := rfl

@[simp] lemma print_upperBounded (bound : TypeTree) :
    (upperBounded bound).print = "? extends " ++ bound.print := rfl

@[simp] lemma print_lowerBounded (bound : TypeTree) :
    (lowerBounded bound).print = "? super " ++ bound.print := rfl

@[simp] lemma printArgs_nil : printArgs [] = [] := rfl

@[simp] lemma printArgs_cons (arg : TypeTree) (args : List TypeTree) :
    printArgs (arg :: args) = '<' :: arg.print ++ printMore args := rfl

@[simp] lemma printMore_nil : printMore [] = ">" := rfl

@[simp] lemma printMore_cons (arg : TypeTree) (args : List TypeTree) :
    printMore (arg :: args) = ',' :: arg.print ++ printMore args := rfl

/-- Whether the tree is a wildcard with a bound, which takes the brackets after it for its bound's. -/
def isBounded : TypeTree → Bool
  | .upperBounded _ | .lowerBounded _ => true
  | _ => false

mutual

/-- Whether the primitives of a tree exist, its names are dot-separated identifiers, those without
arguments are no primitives, and no component of an array is a wildcard with a bound. -/
def isCanonical : TypeTree → Bool
  | .primitive word => (Primitive.ofKeyword? word).isSome
  | .declared name args =>
    name.segments.all Identifier.isValid &&
      (!args.isEmpty || (Primitive.ofKeyword? name.text).isNone) && allCanonical args
  | .array component => !component.isBounded && component.isCanonical
  | .wildcard => true
  | .upperBounded bound => bound.isCanonical
  | .lowerBounded bound => bound.isCanonical

/-- Whether all trees are canonical. -/
def allCanonical : List TypeTree → Bool
  | [] => true
  | t :: ts => t.isCanonical && allCanonical ts

end

end TypeTree

namespace Primitive

lemma ofKeyword?_keyword (p : Primitive) : ofKeyword? p.keyword = some p := by
  cases p <;> decide

lemma keyword_inj {p q : Primitive} (h : p.keyword = q.keyword) : p = q := by
  rw [← Option.some_inj, ← ofKeyword?_keyword p, h, ofKeyword?_keyword]

lemma keyword_of_ofKeyword? {t : Text} {p : Primitive} (h : ofKeyword? t = some p) :
    p.keyword = t := by
  simpa using List.find?_some h

end Primitive

namespace TypeExpr

mutual

/-- The tree of a type. -/
def tree : TypeExpr → TypeTree
  | .primitive p => .primitive p.keyword
  | .declared name args => .declared name (trees args)
  | .array component => .array component.tree
  | .wildcard => .wildcard
  | .upperBounded bound => .upperBounded bound.tree
  | .lowerBounded bound => .lowerBounded bound.tree

/-- The trees of types. -/
def trees : List TypeExpr → List TypeTree
  | [] => []
  | t :: ts => t.tree :: trees ts

end

attribute [local simp] tree trees

mutual

/-- A type is written as its tree is. -/
theorem print_tree (t : TypeExpr) : t.tree.print = t.print := by
  cases t with
  | primitive p => simp
  | declared name args => simp [printArgs_trees args]
  | array component => simp [print_tree component]
  | wildcard => simp
  | upperBounded bound => simp [print_tree bound]
  | lowerBounded bound => simp [print_tree bound]

theorem printArgs_trees (ts : List TypeExpr) :
    TypeTree.printArgs (trees ts) = printArgs ts := by
  cases ts with
  | nil => simp
  | cons t ts => simp [print_tree t, printMore_trees ts]

theorem printMore_trees (ts : List TypeExpr) :
    TypeTree.printMore (trees ts) = printMore ts := by
  cases ts with
  | nil => simp
  | cons t ts => simp [print_tree t, printMore_trees ts]

end

mutual

/-- Types with the same tree are the same. -/
theorem tree_inj (t u : TypeExpr) (h : t.tree = u.tree) : t = u := by
  cases t with
  | primitive p =>
    cases u <;> simp only [tree, reduceCtorEq, TypeTree.primitive.injEq] at h
    rw [Primitive.keyword_inj h]
  | declared name args =>
    cases u <;> simp only [tree, reduceCtorEq, TypeTree.declared.injEq] at h
    rw [h.1, trees_inj args _ h.2]
  | array component =>
    cases u <;> simp only [tree, reduceCtorEq, TypeTree.array.injEq] at h
    rw [tree_inj component _ h]
  | wildcard =>
    cases u <;> simp only [tree, reduceCtorEq] at h
    rfl
  | upperBounded bound =>
    cases u <;> simp only [tree, reduceCtorEq, TypeTree.upperBounded.injEq] at h
    rw [tree_inj bound _ h]
  | lowerBounded bound =>
    cases u <;> simp only [tree, reduceCtorEq, TypeTree.lowerBounded.injEq] at h
    rw [tree_inj bound _ h]

theorem trees_inj (ts us : List TypeExpr) (h : trees ts = trees us) : ts = us := by
  cases ts with
  | nil =>
    cases us <;> simp only [trees, reduceCtorEq] at h
    rfl
  | cons t ts =>
    cases us <;> simp only [trees, reduceCtorEq, List.cons.injEq] at h
    rw [tree_inj t _ h.1, trees_inj ts _ h.2]

end

/-- Whether the tree of a type is canonical. -/
def isCanonical (t : TypeExpr) : Bool :=
  t.tree.isCanonical

/-- Whether the trees of all types are canonical. -/
def allCanonical (ts : List TypeExpr) : Bool :=
  TypeTree.allCanonical (trees ts)

/-- Whether the type is a wildcard with a bound. -/
def isBounded (t : TypeExpr) : Bool :=
  t.tree.isBounded

attribute [local simp] isCanonical allCanonical isBounded TypeTree.isCanonical
  TypeTree.allCanonical

@[simp] lemma isCanonical_primitive (p : Primitive) : (primitive p).isCanonical = true := by
  simp [Primitive.ofKeyword?_keyword]

lemma isCanonical_declared_iff {name : QName} {args : List TypeExpr} :
    (declared name args).isCanonical = true ↔ name.segments.all Identifier.isValid = true ∧
      (args = [] → Primitive.ofKeyword? name.text = none) ∧ allCanonical args = true := by
  cases args <;> simp

lemma isCanonical_array_iff {component : TypeExpr} : (array component).isCanonical = true ↔
    component.isBounded = false ∧ component.isCanonical = true := by
  simp

@[simp] lemma isCanonical_wildcard : wildcard.isCanonical = true := by
  simp

@[simp] lemma isCanonical_upperBounded (bound : TypeExpr) :
    (upperBounded bound).isCanonical = bound.isCanonical := by
  simp

@[simp] lemma isCanonical_lowerBounded (bound : TypeExpr) :
    (lowerBounded bound).isCanonical = bound.isCanonical := by
  simp

@[simp] lemma allCanonical_nil : allCanonical [] = true := by
  simp

@[simp] lemma allCanonical_cons (t : TypeExpr) (ts : List TypeExpr) :
    allCanonical (t :: ts) = (t.isCanonical && allCanonical ts) := by
  simp

end TypeExpr

namespace TypeTree

mutual

/-- A canonical tree is the tree of a type. -/
theorem exists_tree_eq (u : TypeTree) (h : u.isCanonical = true) : ∃ t : TypeExpr, t.tree = u := by
  cases u with
  | primitive word =>
    rw [isCanonical] at h
    obtain ⟨p, hp⟩ := Option.isSome_iff_exists.mp h
    exact ⟨.primitive p, by rw [TypeExpr.tree, Primitive.keyword_of_ofKeyword? hp]⟩
  | declared name args =>
    rw [isCanonical, Bool.and_eq_true] at h
    obtain ⟨ts, hts⟩ := exists_trees_eq args h.2
    exact ⟨.declared name ts, by rw [TypeExpr.tree, hts]⟩
  | array component =>
    rw [isCanonical, Bool.and_eq_true] at h
    obtain ⟨t, ht⟩ := exists_tree_eq component h.2
    exact ⟨.array t, by rw [TypeExpr.tree, ht]⟩
  | wildcard => exact ⟨.wildcard, by rw [TypeExpr.tree]⟩
  | upperBounded bound =>
    rw [isCanonical] at h
    obtain ⟨t, ht⟩ := exists_tree_eq bound h
    exact ⟨.upperBounded t, by rw [TypeExpr.tree, ht]⟩
  | lowerBounded bound =>
    rw [isCanonical] at h
    obtain ⟨t, ht⟩ := exists_tree_eq bound h
    exact ⟨.lowerBounded t, by rw [TypeExpr.tree, ht]⟩

theorem exists_trees_eq (us : List TypeTree) (h : allCanonical us = true) :
    ∃ ts : List TypeExpr, TypeExpr.trees ts = us := by
  cases us with
  | nil => exact ⟨[], by rw [TypeExpr.trees]⟩
  | cons u us =>
    rw [allCanonical, Bool.and_eq_true] at h
    obtain ⟨t, ht⟩ := exists_tree_eq u h.1
    obtain ⟨ts, hts⟩ := exists_trees_eq us h.2
    exact ⟨t :: ts, by rw [TypeExpr.trees, ht, hts]⟩

end

end TypeTree

end Companion
