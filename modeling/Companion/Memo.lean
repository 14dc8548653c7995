import Companion.Modifier
import Companion.QName

/-!
# The memo of a round

What was found out about types during a round. Entries are only ever added, so an answer holds for
the rest of the round.
-/

namespace Companion

/-- What generation needs to know of a type. -/
structure TypeInfo where
  name : QName
  package : Text
  simpleName : Text
  flattenedName : Text
  sourceName : Text
  /-- Whether the type has the renderable capability. -/
  renderable : Bool
  /-- The artifact of the nearest marked ancestor. -/
  parentArtifact : Option QName
  /-- The artifact of the type itself. -/
  artifact : QName
  modifiers : Modifiers
deriving DecidableEq

/-- What is known in a round. -/
structure Memo where
  /-- Types that declare marked fields, with their artifacts. -/
  marked : List (QName × QName) := []
  /-- Types that declare none. -/
  unmarked : List QName := []
  /-- Types with the artifact of their nearest marked ancestor, if they have one. -/
  ancestors : List (QName × Option QName) := []
  infos : List TypeInfo := []
deriving DecidableEq

namespace Memo

/-- The artifact of a type that is known to be marked. -/
def markedArtifact? (memo : Memo) (n : QName) : Option QName :=
  memo.marked.lookup n

/-- Whether a type is known to declare no marked field. -/
def isUnmarked (memo : Memo) (n : QName) : Bool :=
  n ∈ memo.unmarked

/-- The nearest marked ancestor of a type, if it was resolved. -/
def ancestor? (memo : Memo) (n : QName) : Option (Option QName) :=
  memo.ancestors.lookup n

/-- What was found out about a type. -/
def info? (memo : Memo) (n : QName) : Option TypeInfo :=
  memo.infos.find? fun info => info.name = n

/-- The number of types of which it is known whether they are marked. -/
def inspected (memo : Memo) : Nat :=
  memo.marked.length + memo.unmarked.length

/-- Note that a type is marked. -/
def addMarked (memo : Memo) (n artifact : QName) : Memo :=
  { memo with marked := (n, artifact) :: memo.marked }

/-- Note that a type is not marked. -/
def addUnmarked (memo : Memo) (n : QName) : Memo :=
  { memo with unmarked := n :: memo.unmarked }

/-- Note the nearest marked ancestor of a type. -/
def addAncestor (memo : Memo) (n : QName) (ancestor : Option QName) : Memo :=
  { memo with ancestors := (n, ancestor) :: memo.ancestors }

/-- Note what was found out about a type. -/
def addInfo (memo : Memo) (info : TypeInfo) : Memo :=
  { memo with infos := info :: memo.infos }

end Memo

end Companion
