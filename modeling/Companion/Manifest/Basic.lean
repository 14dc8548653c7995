import Companion.Modifier
import Companion.TypeExpr.Basic

/-!
# Manifests

A manifest declares the types of a program with their supertypes, modifiers and fields, and says
which fields are marked for transfer.
-/

namespace Companion

/-- A declared field. -/
structure FieldDecl where
  name : Text
  type : TypeExpr
  modifiers : Modifiers
  marked : Bool
deriving DecidableEq

/-- A declared type. A nested type may leave its package out. -/
structure TypeDecl where
  package : Text
  name : Text
  enclosing : Option QName
  superclass : Option TypeExpr
  interfaces : List TypeExpr
  modifiers : Modifiers
  fields : List FieldDecl
deriving DecidableEq

namespace TypeDecl

/-- The name of the type below its enclosing type or, at the top, below its package. -/
def qualifiedName (d : TypeDecl) : QName :=
  match d.enclosing with
  | some outer => outer.child d.name
  | none => QName.child ⟨d.package⟩ d.name

/-- Whether the type itself declares a marked field. -/
def isMarked (d : TypeDecl) : Bool :=
  d.fields.any (·.marked)

/-- The class that the type extends. -/
def superclassName (d : TypeDecl) : Option QName :=
  d.superclass.bind (·.erasure)

/-- The class that the type extends, then the interfaces that it implements. -/
def supertypes (d : TypeDecl) : List QName :=
  (d.superclass.toList ++ d.interfaces).filterMap (·.erasure)

end TypeDecl

/-- The types of a program. -/
structure Manifest where
  /-- Whether the platform's own types lie beneath the declared ones. -/
  usesPlatform : Bool
  types : List TypeDecl
deriving DecidableEq

end Companion
