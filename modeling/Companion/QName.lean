import Companion.Text.Basic

/-!
# Qualified names

A qualified name is text with dots, such as `com.example.Outer.Inner`: the name of a type, of a
package or of a generated artifact. The last dot parts the simple name from its qualifier.
-/

namespace Companion

/-- A dot-separated name. -/
structure QName where
  text : Text
deriving Inhabited

instance : DecidableEq QName := fun m n =>
  decidable_of_iff (m.text.same n.text = true) (by
    cases m
    cases n
    simp [Text.same_iff])

instance : Coe String QName := ⟨fun s => ⟨s⟩⟩

namespace QName

/-- The parts between the dots. -/
def segments (n : QName) : List Text :=
  n.text.split '.'

/-- What follows the last dot. -/
def simpleName (n : QName) : Text :=
  match n.text.splitLast '.' with
  | some (_, simple) => simple
  | none => n.text

/-- What stands before the last dot, empty if there is none. -/
def qualifier (n : QName) : Text :=
  match n.text.splitLast '.' with
  | some (before, _) => before
  | none => []

/-- The name of a member: the empty name has its members at the top. -/
def child (n : QName) (segment : Text) : QName :=
  if n.text = [] then ⟨segment⟩ else ⟨n.text ++ '.' :: segment⟩

end QName

end Companion
