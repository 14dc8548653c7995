/-!
# Tables of code point ranges

A property of characters is a list of inclusive ranges in increasing order, so that a look-up may
stop at the first range that starts above the character.
-/

namespace Companion.Text

/-- Whether `n` lies in one of the ranges, which are given in increasing order. -/
def inRanges : List (Nat × Nat) → Nat → Bool
  | [], _ => false
  | (lo, hi) :: rest, n => if n < lo then false else n ≤ hi || inRanges rest n

end Companion.Text
