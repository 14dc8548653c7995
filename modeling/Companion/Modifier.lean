import Companion.Text.Basic

/-!
# Modifiers

The modifiers that a type or a field may be declared with. A set of modifiers is kept as the list
of its members in alphabetical order, so two sets with the same members are equal.
-/

namespace Companion

/-- A declaration modifier. -/
inductive Modifier where
  | abstract
  | final
  | privateAccess
  | protectedAccess
  | publicAccess
  | static
  | transient
  | volatile
deriving DecidableEq

namespace Modifier

/-- Every modifier, in alphabetical order. -/
def all : List Modifier :=
  [.abstract, .final, .privateAccess, .protectedAccess, .publicAccess, .static, .transient,
    .volatile]

/-- The modifier as written in source. -/
def keyword : Modifier → Text
  | .abstract => "abstract"
  | .final => "final"
  | .privateAccess => "private"
  | .protectedAccess => "protected"
  | .publicAccess => "public"
  | .static => "static"
  | .transient => "transient"
  | .volatile => "volatile"

/-- The modifier written as `t`. -/
def ofKeyword? (t : Text) : Option Modifier :=
  all.find? fun m => m.keyword = t

end Modifier

/-- A set of modifiers. -/
structure Modifiers where
  toList : List Modifier
  canonical : toList = Modifier.all.filter (· ∈ toList)
deriving DecidableEq

namespace Modifiers

/-- The set of the modifiers in a list. -/
def ofList (ms : List Modifier) : Modifiers where
  toList := Modifier.all.filter (· ∈ ms)
  canonical := by
    refine List.filter_congr fun m hm => ?_
    simp [hm]

/-- The set without members. -/
def empty : Modifiers :=
  ofList []

/-- Whether a modifier is in the set. -/
def contains (ms : Modifiers) (m : Modifier) : Bool :=
  m ∈ ms.toList

end Modifiers

end Companion
