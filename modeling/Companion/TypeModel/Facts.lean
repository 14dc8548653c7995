import Companion.TypeModel.Basic

/-!
# Models listed fact by fact

A model may be given by what it answers for each of a list of types. Nothing is derived, so such a
model can be as inconsistent as one likes: superclasses in circles, marks without fields.
-/

namespace Companion

/-- What a model answers for one type. -/
structure TypeFacts where
  name : QName
  element : Option TypeElement
  /-- The package that goes with the declaration. -/
  package : Text
  superclass : Option QName
  marked : Bool
  assignable : List QName
deriving DecidableEq

namespace TypeFacts

/-- The facts about a type, the first ones in the list. -/
def find? (facts : List TypeFacts) (n : QName) : Option TypeFacts :=
  List.find? (fun f => f.name = n) facts

theorem mem_names_of_find? {facts : List TypeFacts} {n : QName} {f : TypeFacts}
    (h : find? facts n = some f) : n ∈ facts.map (·.name) := by
  have hn : f.name = n := by simpa using List.find?_some h
  exact List.mem_map.2 ⟨f, List.mem_of_find?_eq_some h, hn⟩

/-- The model that answers with these facts and has these marked fields. -/
def model (facts : List TypeFacts) (fields : List MarkedField) : TypeModel where
  markedFields := fields
  element n := (find? facts n).bind (·.element)
  package n :=
    match find? facts n with
    | some f => f.package
    | none => []
  superclass n := (find? facts n).bind (·.superclass)
  isAssignable t target :=
    match t.erasure.bind (find? facts) with
    | some f => target ∈ f.assignable
    | none => false
  declaresMarked n :=
    match find? facts n with
    | some f => f.marked
    | none => false
  linked := facts.map (·.name)
  linked_of_enclosing n h := by
    cases hf : find? facts n with
    | none => simp [hf] at h
    | some f => exact mem_names_of_find? hf
  linked_of_superclass n h := by
    cases hf : find? facts n with
    | none => simp [hf] at h
    | some f => exact mem_names_of_find? hf

end TypeFacts

end Companion
