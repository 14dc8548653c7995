import Companion.Error
import Companion.Identifier

/-!
# Reading type expressions

A type is `?` with an optional bound, or a dot-separated name with optional arguments, and then any
number of bracket pairs. Space may stand around arguments and before bracket pairs. An optional part
that cannot be read to its end is left to what follows, so each reader takes the longest type there
is at the start of the text.
-/

namespace Companion.TypeExpr

/-- The characters that may stand between the words of a type. -/
def isSpace (c : Char) : Bool :=
  c = ' ' || c = '\t' || c = '\r' || c = '\n'

/-- The text after its leading space. -/
def skipSpace (t : Text) : Text :=
  t.dropWhile isSpace

/-- What belongs to a dot-separated name after its first character, and what follows. A dot belongs
to the name if an identifier starts after it. -/
def readNameTail : Text → Text × Text
  | '.' :: c :: cs =>
    if Identifier.isStart c then
      let (tail, rest) := readNameTail cs
      ('.' :: c :: tail, rest)
    else ([], '.' :: c :: cs)
  | c :: cs =>
    if Identifier.isPart c then
      let (tail, rest) := readNameTail cs
      (c :: tail, rest)
    else ([], c :: cs)
  | [] => ([], [])

/-- A dot-separated name, and what follows. -/
def readName : Text → Option (Text × Text)
  | [] => none
  | c :: cs =>
    if Identifier.isStart c then
      let (tail, rest) := readNameTail cs
      some (c :: tail, rest)
    else none

/-- The number of bracket pairs, each after optional space, and what follows. -/
def readDimensions : Text → Nat × Text
  | [] => (0, [])
  | '[' :: ']' :: cs =>
    let (n, rest) := readDimensions cs
    (n + 1, rest)
  | c :: cs =>
    if isSpace c then
      match readDimensions cs with
      | (0, _) => (0, c :: cs)
      | found => found
    else (0, c :: cs)

/-- The array type over `t` with `n` dimensions. -/
def arrayOf (t : TypeExpr) : Nat → TypeExpr
  | 0 => t
  | n + 1 => .array (arrayOf t n)

/-- The type `t`, made an array by the bracket pairs that follow. -/
def withDimensions (t : TypeExpr) (s : Text) : TypeExpr × Text :=
  let (n, rest) := readDimensions s
  (arrayOf t n, rest)

/-- The type that a name without arguments denotes. -/
def ofName (name : Text) : TypeExpr :=
  match Primitive.ofKeyword? name with
  | some p => .primitive p
  | none => .declared ⟨name⟩ []

/-- The word that opens a bound, after space and before more space: which bound it opens, and what
follows that space. -/
def readBoundWord (s : Text) : Option ((TypeExpr → TypeExpr) × Text) :=
  match s with
  | [] => none
  | c :: cs =>
    if isSpace c then
      match skipSpace cs with
      | 'e' :: 'x' :: 't' :: 'e' :: 'n' :: 'd' :: 's' :: d :: r =>
        if isSpace d then some (.upperBounded, skipSpace r) else none
      | 's' :: 'u' :: 'p' :: 'e' :: 'r' :: d :: r =>
        if isSpace d then some (.lowerBounded, skipSpace r) else none
      | _ => none
    else none

mutual

/-- The longest type at the start of the text, and what follows, for texts shorter than `fuel`. -/
def readType : (fuel : Nat) → Text → Option (TypeExpr × Text)
  | 0, _ => none
  | fuel + 1, '?' :: s =>
    match readBoundWord s with
    | none => some (withDimensions .wildcard s)
    | some (bounded, r) =>
      match readType fuel r with
      | none => some (withDimensions .wildcard s)
      | some (bound, r') => some (withDimensions (bounded bound) r')
  | fuel + 1, s =>
    match readName s with
    | none => none
    | some (name, r) =>
      match skipSpace r with
      | '<' :: r' =>
        match readType fuel (skipSpace r') with
        | none => some (withDimensions (ofName name) r)
        | some (arg, r'') =>
          match readMore fuel r'' with
          | none => some (withDimensions (ofName name) r)
          | some (args, rest) => some (withDimensions (.declared ⟨name⟩ (arg :: args)) rest)
      | _ => some (withDimensions (ofName name) r)

/-- The type arguments after the first, up to the closing bracket, and what follows it. -/
def readMore : (fuel : Nat) → Text → Option (List TypeExpr × Text)
  | 0, _ => none
  | fuel + 1, s =>
    match skipSpace s with
    | '>' :: r => some ([], r)
    | ',' :: r =>
      match readType fuel (skipSpace r) with
      | none => none
      | some (arg, r') =>
        match readMore fuel r' with
        | none => none
        | some (args, rest) => some (arg :: args, rest)
    | _ => none

end

/-- The longest type at the start of the text, and what follows. -/
def read (s : Text) : Option (TypeExpr × Text) :=
  readType (s.length + 1) s

/-- The type that a text denotes, white space at its ends aside. -/
def parse (text : Text) : Except Error TypeExpr :=
  match read text.trim with
  | none => .error (.noType text)
  | some (t, []) => .ok t
  | some (_, rest) => .error (.unexpectedText text rest)

end Companion.TypeExpr
