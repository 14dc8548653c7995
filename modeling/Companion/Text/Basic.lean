/-!
# Text

Text is a list of characters, so that everything said about it is said by recursion. Here are the
ways of comparing it and of taking it apart: at every separator, at the last separator, at its line
ends, and at occurrences of a pattern.
-/

namespace Companion

/-- Text as the list of its characters. -/
abbrev Text := List Char

instance : Coe String Text := ⟨String.toList⟩

namespace Text

/-- Whether two texts are the same, character by character. -/
def same : Text → Text → Bool
  | [], [] => true
  | c :: cs, d :: ds => c = d && same cs ds
  | _, _ => false

theorem same_iff (t u : Text) : same t u = true ↔ t = u := by
  induction t generalizing u with
  | nil => cases u <;> simp [same]
  | cons c cs ih => cases u <;> simp [same, ih]

/-- The pieces between the separators; text without a separator is one piece. -/
def split (sep : Char) : Text → List Text
  | [] => [[]]
  | c :: cs =>
    if c = sep then [] :: split sep cs
    else
      match split sep cs with
      | [] => [[c]]
      | piece :: pieces => (c :: piece) :: pieces

/-- What stands before and what stands after the last separator. -/
def splitLast (sep : Char) : Text → Option (Text × Text)
  | [] => none
  | c :: cs =>
    match splitLast sep cs with
    | some (before, after) => some (c :: before, after)
    | none => if c = sep then some ([], cs) else none

/-- The text with line feeds alone where carriage returns and line feeds end its lines. -/
def plainLineEnds : Text → Text
  | '\r' :: '\n' :: cs => '\n' :: plainLineEnds cs
  | c :: cs => c :: plainLineEnds cs
  | [] => []

/-- Replace what follows after `skip` more characters. -/
def replaceAfter (pattern replacement : Text) : Nat → Text → Text
  | _, [] => []
  | skip + 1, _ :: cs => replaceAfter pattern replacement skip cs
  | 0, c :: cs =>
    if pattern.isPrefixOf (c :: cs) then
      replacement ++ replaceAfter pattern replacement (pattern.length - 1) cs
    else c :: replaceAfter pattern replacement 0 cs

/-- Put `replacement` for every occurrence of a nonempty pattern, from left to right; what was put
in is not looked at again. -/
def replaceAll (t pattern replacement : Text) : Text :=
  replaceAfter pattern replacement 0 t

/-- A number in decimal digits. -/
def ofNat (n : Nat) : Text :=
  Nat.toDigits 10 n

end Text

end Companion
