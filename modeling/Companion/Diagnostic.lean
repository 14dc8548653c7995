import Companion.Modifier
import Companion.TypeExpr.Basic

/-!
# Diagnostics

Problems with marked fields and the types that hold them. Each is reported against one element of
the program, and generation goes on.
-/

namespace Companion

/-- What a problem is reported against. -/
inductive Element where
  | field (owner : QName) (name : Text)
  | type (name : QName)
deriving DecidableEq

namespace Element

/-- The name of an element. -/
def label : Element → Text
  | .field owner name => owner.text ++ '.' :: name
  | .type name => name.text

end Element

/-- A reported problem. -/
inductive Diagnostic where
  | invalidModifier (field : Text) (owner : QName) (modifier : Modifier)
  | inaccessibleType (name : QName)
  | unrecognizedType (field : Text) (owner : QName) (type : TypeExpr)
deriving DecidableEq

namespace Diagnostic

/-- What the problem is reported against. -/
def element : Diagnostic → Element
  | .invalidModifier field owner _ => .field owner field
  | .inaccessibleType name => .type name
  | .unrecognizedType field owner _ => .field owner field

/-- Whether the problem is one of a field. -/
def ofField : Diagnostic → Bool
  | .inaccessibleType _ => false
  | _ => true

/-- The problem in words. -/
def detail : Diagnostic → Text
  | .invalidModifier field owner modifier =>
    "field '" ++ field ++ "' in '" ++ owner.text ++ "' must not be " ++ modifier.keyword
  | .inaccessibleType name =>
    "type '" ++ name.text ++ "' holds marked fields and must not be private"
  | .unrecognizedType field owner type =>
    "field '" ++ field ++ "' in '" ++ owner.text ++ "' has type '" ++ type.print ++
      "' which cannot be stored in the container"

/-- What the user reads. -/
def message (d : Diagnostic) : Text :=
  "error: " ++ d.element.label ++ ": " ++ d.detail

end Diagnostic

end Companion
