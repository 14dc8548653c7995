import Companion.Json.Basic

/-!
# Writing JSON

A value in one line without space, and a value over several lines with two spaces for each level.
-/

namespace Companion.Json

/-- A character between quotes. -/
def escaped (c : Char) : Text :=
  if c = '"' then "\\\""
  else if c = '\\' then "\\\\"
  else if c = '\x08' then "\\b"
  else if c = '\x0c' then "\\f"
  else if c = '\n' then "\\n"
  else if c = '\r' then "\\r"
  else if c = '\t' then "\\t"
  else if c.toNat < 0x10 then "\\u000" ++ Nat.toDigits 16 c.toNat
  else if c.toNat < 0x20 then "\\u00" ++ Nat.toDigits 16 c.toNat
  else [c]

/-- A text between quotes. -/
def printText (t : Text) : Text :=
  "\"" ++ t.flatMap escaped ++ "\""

/-- A value without parts. -/
def printLeaf : Json → Text
  | .null => "null"
  | .bool true => "true"
  | .bool false => "false"
  | .number literal => literal
  | .string t => printText t
  | .array _ => "[]"
  | .object _ => "\x7b\x7d"

mutual

/-- The value in one line. -/
def print : Json → Text
  | .array items => "[" ++ printItems items ++ "]"
  | .object members => "\x7b" ++ printMembers members ++ "\x7d"
  | leaf => leaf.printLeaf

/-- The items with commas between them. -/
def printItems : List Json → Text
  | [] => []
  | [item] => item.print
  | item :: items => item.print ++ "," ++ printItems items

/-- The members with commas between them. -/
def printMembers : List (Text × Json) → Text
  | [] => []
  | [(key, value)] => printText key ++ ":" ++ value.print
  | (key, value) :: members => printText key ++ ":" ++ value.print ++ "," ++ printMembers members

end

/-- The start of a line, `level` levels deep. -/
def newLine (level : Nat) : Text :=
  '\n' :: List.replicate (2 * level) ' '

mutual

/-- The value over several lines, `level` levels deep. An empty array or object takes no line. -/
def prettyAt (level : Nat) : Json → Text
  | .array (item :: items) => "[" ++ prettyItems (level + 1) (item :: items) ++ newLine level ++ "]"
  | .object (m :: ms) => "\x7b" ++ prettyMembers (level + 1) (m :: ms) ++ newLine level ++ "\x7d"
  | leaf => leaf.printLeaf

/-- The items, each on a line of its own. -/
def prettyItems (level : Nat) : List Json → Text
  | [] => []
  | [item] => newLine level ++ item.prettyAt level
  | item :: items => newLine level ++ item.prettyAt level ++ "," ++ prettyItems level items

/-- The members, each on a line of its own. -/
def prettyMembers (level : Nat) : List (Text × Json) → Text
  | [] => []
  | [(key, value)] => newLine level ++ printText key ++ ": " ++ value.prettyAt level
  | (key, value) :: members =>
    newLine level ++ printText key ++ ": " ++ value.prettyAt level ++ "," ++
      prettyMembers level members

end

/-- The value over several lines. -/
def pretty (j : Json) : Text :=
  j.prettyAt 0

end Companion.Json
