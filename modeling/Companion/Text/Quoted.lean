import Companion.Text.Basic
import Companion.Text.Combining
import Companion.Text.Invisible

/-!
# Quoted text

Text between double quotes, for messages that show a text to a person. Quotes and backslashes take
a backslash, the usual controls have a letter, and whatever could not be seen on its own is written
as its code point.
-/

namespace Companion.Text

/-- One character between quotes. -/
def escaped (c : Char) : Text :=
  if c = '\x00' then "\\0"
  else if c = '\t' then "\\t"
  else if c = '\r' then "\\r"
  else if c = '\n' then "\\n"
  else if c = '\\' then "\\\\"
  else if c = '"' then "\\\""
  else if isCombining c || isInvisible c then "\\u\x7b" ++ Nat.toDigits 16 c.toNat ++ "\x7d"
  else [c]

/-- The text between quotes. -/
def quoted (t : Text) : Text :=
  "\"" ++ t.flatMap escaped ++ "\""

end Companion.Text
