import Companion.QName

/-!
# Type expressions

The declared type of a field: a primitive, a class or interface with arguments, an array, or a
wildcard with or without a bound. The printed form has no optional space, so that it can serve as
a key.
-/

namespace Companion

/-- The primitive types. -/
inductive Primitive where
  | boolean
  | byte
  | char
  | double
  | float
  | int
  | long
  | short
deriving DecidableEq

namespace Primitive

/-- Every primitive type. -/
def all : List Primitive :=
  [.boolean, .byte, .char, .double, .float, .int, .long, .short]

/-- The primitive as written in source. -/
def keyword : Primitive → Text
  | .boolean => "boolean"
  | .byte => "byte"
  | .char => "char"
  | .double => "double"
  | .float => "float"
  | .int => "int"
  | .long => "long"
  | .short => "short"

/-- The primitive written as `t`. -/
def ofKeyword? (t : Text) : Option Primitive :=
  all.find? fun p => p.keyword = t

end Primitive

/-- A declared type. -/
inductive TypeExpr where
  | primitive (p : Primitive)
  | declared (name : QName) (args : List TypeExpr)
  | array (component : TypeExpr)
  | wildcard
  | upperBounded (bound : TypeExpr)
  | lowerBounded (bound : TypeExpr)
deriving Inhabited

namespace TypeExpr

mutual

/-- Whether two types are the same. -/
def same : TypeExpr → TypeExpr → Bool
  | .primitive p, .primitive q => p = q
  | .declared name args, .declared name' args' => name = name' && sameArgs args args'
  | .array component, .array component' => component.same component'
  | .wildcard, .wildcard => true
  | .upperBounded bound, .upperBounded bound' => bound.same bound'
  | .lowerBounded bound, .lowerBounded bound' => bound.same bound'
  | _, _ => false

/-- Whether two lists of types are the same. -/
def sameArgs : List TypeExpr → List TypeExpr → Bool
  | [], [] => true
  | t :: ts, u :: us => t.same u && sameArgs ts us
  | _, _ => false

end

mutual

theorem same_iff (t u : TypeExpr) : t.same u = true ↔ t = u := by
  cases t with
  | primitive p => cases u <;> simp [same]
  | declared name args => cases u <;> simp [same, sameArgs_iff args]
  | array component => cases u <;> simp [same, same_iff component]
  | wildcard => cases u <;> simp [same]
  | upperBounded bound => cases u <;> simp [same, same_iff bound]
  | lowerBounded bound => cases u <;> simp [same, same_iff bound]

theorem sameArgs_iff (ts us : List TypeExpr) : sameArgs ts us = true ↔ ts = us := by
  cases ts with
  | nil => cases us <;> simp [sameArgs]
  | cons t ts => cases us <;> simp [sameArgs, same_iff t, sameArgs_iff ts]

end

instance : DecidableEq TypeExpr := fun t u =>
  decidable_of_iff (t.same u = true) (same_iff t u)

/-- The class or interface that a type is an instance of. -/
def erasure : TypeExpr → Option QName
  | .declared name _ => some name
  | _ => none

/-- The type arguments. -/
def args : TypeExpr → List TypeExpr
  | .declared _ args => args
  | _ => []

/-- Whether the type is a wildcard, which only makes sense as an argument. -/
def isWildcard : TypeExpr → Bool
  | .wildcard | .upperBounded _ | .lowerBounded _ => true
  | _ => false

mutual

/-- The written form, without optional space. -/
def print : TypeExpr → Text
  | .primitive p => p.keyword
  | .declared name args => name.text ++ printArgs args
  | .array component => component.print ++ "[]"
  | .wildcard => "?"
  | .upperBounded bound => "? extends " ++ bound.print
  | .lowerBounded bound => "? super " ++ bound.print

/-- Type arguments between angle brackets; nothing if there are none. -/
def printArgs : List TypeExpr → Text
  | [] => []
  | arg :: args => '<' :: arg.print ++ printMore args

/-- The arguments after the first, and the closing bracket. -/
def printMore : List TypeExpr → Text
  | [] => ">"
  | arg :: args => ',' :: arg.print ++ printMore args

end

@[simp] theorem print_primitive (p : Primitive) : (primitive p).print = p.keyword := rfl

@[simp] theorem print_declared (name : QName) (args : List TypeExpr) :
    (declared name args).print = name.text ++ printArgs args := rfl

@[simp] theorem print_array (component : TypeExpr) :
    (array component).print = component.print ++ "[]" := rfl

@[simp] theorem print_wildcard : wildcard.print = "?" := rfl

@[simp] theorem print_upperBounded (bound : TypeExpr) :
    (upperBounded bound).print = "? extends " ++ bound.print := rfl

@[simp] theorem print_lowerBounded (bound : TypeExpr) :
    (lowerBounded bound).print = "? super " ++ bound.print := rfl

@[simp] theorem printArgs_nil : printArgs [] = [] := rfl

@[simp] theorem printArgs_cons (arg : TypeExpr) (args : List TypeExpr) :
    printArgs (arg :: args) = '<' :: arg.print ++ printMore args := rfl

@[simp] theorem printMore_nil : printMore [] = ">" := rfl

@[simp] theorem printMore_cons (arg : TypeExpr) (args : List TypeExpr) :
    printMore (arg :: args) = ',' :: arg.print ++ printMore args := rfl

mutual

/-- Whether a wildcard occurs as an argument or a component, at any depth. -/
def hasWildcard : TypeExpr → Bool
  | .primitive _ => false
  | .declared _ args => anyWildcard args
  | .array component => component.hasWildcard
  | .wildcard | .upperBounded _ | .lowerBounded _ => true

/-- Whether a wildcard occurs in one of the types. -/
def anyWildcard : List TypeExpr → Bool
  | [] => false
  | t :: ts => t.hasWildcard || anyWildcard ts

end

end TypeExpr

end Companion
