import Companion.Text.Basic

/-!
# JSON values

The members of an object are a list of pairs, in the order and with the repetitions of the text, so
that whoever decodes a value can refuse a key given twice. A number is kept as it is written.
-/

namespace Companion

/-- A JSON value. -/
inductive Json where
  | null
  | bool (b : Bool)
  | number (literal : Text)
  | string (t : Text)
  | array (items : List Json)
  | object (members : List (Text × Json))
deriving Inhabited

namespace Json

/-- The number `n`. -/
def ofNat (n : Nat) : Json :=
  .number (Text.ofNat n)

/-- The value, or null if there is none. -/
def ofOption : Option Json → Json
  | some j => j
  | none => .null

/-- The texts of an array. -/
def ofTexts (ts : List Text) : Json :=
  .array (ts.map .string)

/-- The text of a string. -/
def text? : Json → Option Text
  | .string t => some t
  | _ => none

/-- The truth value of a boolean. -/
def bool? : Json → Option Bool
  | .bool b => some b
  | _ => none

/-- The items of an array. -/
def items? : Json → Option (List Json)
  | .array items => some items
  | _ => none

end Json

end Companion
