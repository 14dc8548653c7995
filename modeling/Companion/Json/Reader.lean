import Companion.Json.Basic

/-!
# Reading JSON

The strict format of RFC 8259: no byte order mark, no lone surrogate, nothing but white space around
the value, and a limit on how deep arrays and objects may nest.
-/

namespace Companion.Json

/-- The text after its leading white space. -/
def skipSpace (t : Text) : Text :=
  t.dropWhile fun c => c = ' ' || c = '\t' || c = '\n' || c = '\r'

/-- The value of a hexadecimal digit. -/
def hexDigit? (c : Char) : Option Nat :=
  if '0' ≤ c ∧ c ≤ '9' then some (c.toNat - '0'.toNat)
  else if 'a' ≤ c ∧ c ≤ 'f' then some (c.toNat - 'a'.toNat + 10)
  else if 'A' ≤ c ∧ c ≤ 'F' then some (c.toNat - 'A'.toNat + 10)
  else none

/-- The number that hexadecimal digits write. -/
def ofHex? (digits : Text) : Option Nat :=
  digits.foldlM (fun n c => (hexDigit? c).map (n * 16 + ·)) 0

/-- The character that a letter after a backslash stands for. -/
def unescape? : Char → Option Char
  | '"' => some '"'
  | '\\' => some '\\'
  | '/' => some '/'
  | 'b' => some '\x08'
  | 'f' => some '\x0c'
  | 'n' => some '\n'
  | 'r' => some '\r'
  | 't' => some '\t'
  | _ => none

/-- Put a character before a text that was read. -/
def consChar (c : Char) (found : Option (Text × Text)) : Option (Text × Text) :=
  found.map fun (t, rest) => (c :: t, rest)

/-- The text up to the closing quote, and what follows the quote. -/
def readText : Text → Option (Text × Text)
  | [] => none
  | '"' :: cs => some ([], cs)
  | '\\' :: 'u' :: a :: b :: c :: d :: cs =>
    match ofHex? [a, b, c, d] with
    | none => none
    | some n =>
      if 0xD800 ≤ n ∧ n < 0xDC00 then
        match cs with
        | '\\' :: 'u' :: e :: f :: g :: h :: cs' =>
          match ofHex? [e, f, g, h] with
          | none => none
          | some m =>
            if 0xDC00 ≤ m ∧ m < 0xE000 then
              consChar (.ofNat (0x10000 + (n - 0xD800) * 0x400 + (m - 0xDC00))) (readText cs')
            else none
        | _ => none
      else if 0xDC00 ≤ n ∧ n < 0xE000 then none
      else consChar (.ofNat n) (readText cs)
  | '\\' :: e :: cs =>
    match unescape? e with
    | some c => consChar c (readText cs)
    | none => none
  | c :: cs => if c.toNat < 0x20 || c = '\\' then none else consChar c (readText cs)

/-- At least one decimal digit, and what follows. -/
def readDigits (t : Text) : Option (Text × Text) :=
  match t.takeWhile Char.isDigit with
  | [] => none
  | digits => some (digits, t.dropWhile Char.isDigit)

/-- The whole part of a number, without needless zeros, and what follows. -/
def readWhole : Text → Option (Text × Text)
  | '0' :: cs => some ("0", cs)
  | cs => readDigits cs

/-- The fraction of a number, if there is one, and what follows. -/
def readFraction : Text → Option (Text × Text)
  | '.' :: cs => consChar '.' (readDigits cs)
  | cs => some ([], cs)

/-- The exponent of a number, if there is one, and what follows. -/
def readExponent : Text → Option (Text × Text)
  | e :: cs =>
    if e = 'e' || e = 'E' then
      consChar e <|
        match cs with
        | '+' :: cs' => consChar '+' (readDigits cs')
        | '-' :: cs' => consChar '-' (readDigits cs')
        | _ => readDigits cs
    else some ([], e :: cs)
  | [] => some ([], [])

/-- A number, and what follows. -/
def readNumber (t : Text) : Option (Text × Text) := do
  let (sign, t) := match t with
    | '-' :: cs => (['-'], cs)
    | _ => ([], t)
  let (whole, t) ← readWhole t
  let (fraction, t) ← readFraction t
  let (exponent, t) ← readExponent t
  return (sign ++ whole ++ fraction ++ exponent, t)

mutual

/-- A value at the start of the text that nests at most `depth` deep, and what follows, for texts
shorter than `fuel`. -/
def readValue : (fuel depth : Nat) → Text → Option (Json × Text)
  | 0, _, _ => none
  | fuel + 1, depth, t =>
    match skipSpace t with
    | 'n' :: 'u' :: 'l' :: 'l' :: cs => some (.null, cs)
    | 't' :: 'r' :: 'u' :: 'e' :: cs => some (.bool true, cs)
    | 'f' :: 'a' :: 'l' :: 's' :: 'e' :: cs => some (.bool false, cs)
    | '"' :: cs => (readText cs).map fun (s, rest) => (.string s, rest)
    | '[' :: cs =>
      match depth with
      | 0 => none
      | depth + 1 =>
        match skipSpace cs with
        | ']' :: rest => some (.array [], rest)
        | cs' => (readItems fuel depth cs').map fun (items, rest) => (.array items, rest)
    | '{' :: cs =>
      match depth with
      | 0 => none
      | depth + 1 =>
        match skipSpace cs with
        | '}' :: rest => some (.object [], rest)
        | cs' => (readMembers fuel depth cs').map fun (ms, rest) => (.object ms, rest)
    | cs => (readNumber cs).map fun (literal, rest) => (.number literal, rest)

/-- The items of an array up to the closing bracket, and what follows it. -/
def readItems : (fuel depth : Nat) → Text → Option (List Json × Text)
  | 0, _, _ => none
  | fuel + 1, depth, t =>
    match readValue fuel depth t with
    | none => none
    | some (item, rest) =>
      match skipSpace rest with
      | ']' :: cs => some ([item], cs)
      | ',' :: cs => (readItems fuel depth cs).map fun (items, cs') => (item :: items, cs')
      | _ => none

/-- The members of an object up to the closing brace, and what follows it. -/
def readMembers : (fuel depth : Nat) → Text → Option (List (Text × Json) × Text)
  | 0, _, _ => none
  | fuel + 1, depth, t =>
    match skipSpace t with
    | '"' :: cs =>
      match readText cs with
      | none => none
      | some (key, rest) =>
        match skipSpace rest with
        | ':' :: cs' =>
          match readValue fuel depth cs' with
          | none => none
          | some (value, rest') =>
            match skipSpace rest' with
            | '}' :: cs'' => some ([(key, value)], cs'')
            | ',' :: cs'' =>
              (readMembers fuel depth cs'').map fun (ms, r) => ((key, value) :: ms, r)
            | _ => none
        | _ => none
    | _ => none

end

/-- How deep arrays and objects may nest. -/
def maxDepth : Nat := 127

/-- The value that a text writes. -/
def parse (t : Text) : Option Json :=
  match readValue (2 * t.length + 2) maxDepth t with
  | some (j, rest) => if skipSpace rest = [] then some j else none
  | none => none

end Companion.Json
