import Companion.TypeModel.Basic

/-!
# Identities

An artifact belongs to the package of its type. Its simple name joins the simple names of the type
and of the types around it with `$`, outermost first, and ends in the configured suffix.
-/

namespace Companion

/-- The package of a type and its name within the package. -/
structure Identity where
  package : Text
  simpleName : Text
  flattenedName : Text
deriving DecidableEq

namespace Identity

/-- The name that a type adds to the names of the types in it: its declared simple name or, where
the model does not know it, the last part of its qualified name. -/
def segmentOf (m : TypeModel) (n : QName) : Text :=
  match m.element n with
  | some e => e.simpleName
  | none => n.simpleName

/-- The identity of a type. One that the model does not know is told by its name alone. -/
def of (m : TypeModel) (n : QName) : Identity :=
  match m.element n with
  | none =>
    { package := n.qualifier, simpleName := n.simpleName, flattenedName := n.simpleName }
  | some e =>
    { package := m.package n
      simpleName := e.simpleName
      flattenedName :=
        List.intercalate ['$'] ((m.enclosingLinks.path n).map (segmentOf m)).reverse }

/-- The name of the artifact. -/
def artifactName (i : Identity) (suffix : Text) : QName :=
  QName.child ⟨i.package⟩ (i.flattenedName ++ suffix)

/-- The name of the type as written in source, with dots between nested names. -/
def sourceName (i : Identity) : Text :=
  let nested := i.flattenedName.map fun c => if c = '$' then '.' else c
  if i.package = [] then nested else i.package ++ '.' :: nested

end Identity

end Companion
