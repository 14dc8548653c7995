import Companion.Json.Basic

/-!
# Records in JSON

A record is written as an object, with no key twice and no key that the record does not have, or as
an array of its values in the order of the record's keys, where the last values may be left out.
-/

namespace Companion.Json

/-- The members that give values to a record with these keys. -/
def members? (keys : List Text) : Json → Option (List (Text × Json))
  | .object members =>
    if (members.all fun m => m.1 ∈ keys) ∧ (members.map (·.1)).Nodup then some members else none
  | .array items => if items.length ≤ keys.length then some (keys.zip items) else none
  | _ => none

/-- The value of a key that may not be left out. -/
def required? {α : Type} (decode : Json → Option α) (key : Text)
    (members : List (Text × Json)) : Option α :=
  (members.lookup key).bind decode

/-- The value of a key, or what stands for it where it is left out. -/
def optional? {α : Type} (decode : Json → Option α) (absent : α) (key : Text)
    (members : List (Text × Json)) : Option α :=
  match members.lookup key with
  | some j => decode j
  | none => some absent

/-- A value that may be null. -/
def nullable? {α : Type} (decode : Json → Option α) : Json → Option (Option α)
  | .null => some none
  | j => (decode j).map some

/-- The items of an array. -/
def list? {α : Type} (decode : Json → Option α) (j : Json) : Option (List α) :=
  j.items?.bind fun items => items.mapM decode

end Companion.Json
