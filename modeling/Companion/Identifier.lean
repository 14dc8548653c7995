import Companion.Text.Alphabetic
import Companion.Text.Numeric
import Companion.Text.Basic

/-!
# Identifiers

The names that may stand in generated source: a letter, `_` or `$`, then letters, numbers, `_` and
`$`, with Unicode's letters and numbers.
-/

namespace Companion.Identifier

/-- Whether an identifier may begin with `c`. -/
def isStart (c : Char) : Bool :=
  Text.isAlphabetic c || c = '_' || c = '$'

/-- Whether an identifier may go on with `c`. -/
def isPart (c : Char) : Bool :=
  Text.isAlphabetic c || Text.isNumeric c || c = '_' || c = '$'

/-- Whether a text is an identifier. -/
def isValid : Text → Bool
  | [] => false
  | c :: cs => isStart c && cs.all isPart

end Companion.Identifier
