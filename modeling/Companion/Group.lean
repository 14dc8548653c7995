import Companion.Collection

/-!
# Groups

The collected fields of one type make a group, and a group makes an artifact. Groups are ordered by
the qualified names of their types; within a group the fields keep their order.
-/

namespace Companion

/-- The fields of one type. -/
structure Group where
  info : TypeInfo
  /-- Every field of the type, those that may not be transferred included. -/
  fields : List CollectedField
deriving DecidableEq

namespace Group

/-- The fields that are saved and restored. -/
def emitted (g : Group) : List CollectedField :=
  g.fields.filter (·.isValid)

/-- The fields that are left out. -/
def skipped (g : Group) : List CollectedField :=
  g.fields.filter fun f => !f.isValid

/-- Put a field at the end of the group of its type, in groups ordered by name. -/
def insert (f : CollectedField) : List Group → List Group
  | [] => [⟨f.owner, [f]⟩]
  | g :: gs =>
    if f.owner.name = g.info.name then { g with fields := g.fields ++ [f] } :: gs
    else if f.owner.name.text < g.info.name.text then ⟨f.owner, [f]⟩ :: g :: gs
    else g :: insert f gs

/-- The groups of a list of fields. -/
def ofFields (fields : List CollectedField) : List Group :=
  fields.foldl (fun groups f => insert f groups) []

end Group

end Companion
