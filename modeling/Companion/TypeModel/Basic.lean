import Companion.Graph.Walk
import Companion.Modifier
import Companion.TypeExpr.Basic

/-!
# Type models

All that generation knows about a program it learns from a type model: the marked fields, and the
answers to questions about types by name. Only finitely many types extend a class or stand in
another type. Superclasses and enclosing types may still run in circles.
-/

namespace Companion

/-- A type declaration as a model knows it. -/
structure TypeElement where
  name : QName
  simpleName : Text
  enclosing : Option QName
  modifiers : Modifiers
deriving DecidableEq

/-- A field that is marked for transfer. -/
structure MarkedField where
  name : Text
  type : TypeExpr
  modifiers : Modifiers
  enclosing : QName
deriving DecidableEq

/-- What is known of the types of a program. -/
structure TypeModel where
  /-- The marked fields, in declaration order. -/
  markedFields : List MarkedField
  /-- The declaration of a type. -/
  element : QName → Option TypeElement
  /-- The package of a type that has a declaration. -/
  package : QName → Text
  /-- The class that a type extends. -/
  superclass : QName → Option QName
  /-- Whether values of a type can be assigned to a target. -/
  isAssignable : TypeExpr → QName → Bool
  /-- Whether a type itself declares a marked field. -/
  declaresMarked : QName → Bool
  /-- The types that extend a class or stand in another type, and maybe others. -/
  linked : List QName
  linked_of_enclosing : ∀ n, ((element n).bind (·.enclosing)).isSome → n ∈ linked
  linked_of_superclass : ∀ n, (superclass n).isSome → n ∈ linked

namespace TypeModel

/-- The links from types to the types around them. -/
def enclosingLinks (m : TypeModel) : Graph.Links QName where
  next n := (m.element n).bind (·.enclosing)
  sources := m.linked
  mem_sources := m.linked_of_enclosing

end TypeModel

/-- A question to a type model whose asking is counted. -/
inductive Query where
  | superclass (name : QName)
  | assignable (type : TypeExpr) (target : QName)
  | marked (name : QName)
deriving DecidableEq

namespace Query

/-- Whether the question is for a superclass. -/
def isSuperclass : Query → Bool
  | .superclass _ => true
  | _ => false

/-- Whether the question is for assignability. -/
def isAssignable : Query → Bool
  | .assignable .. => true
  | _ => false

/-- Whether the question is for marked fields. -/
def isMarked : Query → Bool
  | .marked _ => true
  | _ => false

end Query

/-- An answer, with the questions that were asked of the model to find it. -/
structure Inquiry (α : Type) where
  answer : α
  queries : List Query

namespace Inquiry

instance : Monad Inquiry where
  pure a := ⟨a, []⟩
  bind x f := ⟨(f x.answer).answer, x.queries ++ (f x.answer).queries⟩

/-- The same answer after earlier questions. -/
def after {α : Type} (queries : List Query) (x : Inquiry α) : Inquiry α :=
  ⟨x.answer, queries ++ x.queries⟩

end Inquiry

namespace TypeModel

/-- Ask for the class that a type extends. -/
def askSuperclass (m : TypeModel) (n : QName) : Inquiry (Option QName) :=
  ⟨m.superclass n, [.superclass n]⟩

/-- Ask whether values of a type can be assigned to a target. -/
def askAssignable (m : TypeModel) (t : TypeExpr) (target : QName) : Inquiry Bool :=
  ⟨m.isAssignable t target, [.assignable t target]⟩

/-- Ask whether a type itself declares a marked field. -/
def askMarked (m : TypeModel) (n : QName) : Inquiry Bool :=
  ⟨m.declaresMarked n, [.marked n]⟩

end TypeModel

end Companion
