import Companion.Error

/-!
# Templates

A template is text with slots, each a name between double braces. An empty name and a slot that is
never closed are ordinary text. The slots are found once, before anything is filled in, so a value
is copied as it is whatever it contains.
-/

namespace Companion.Template

/-- A part of a template. -/
inductive Piece where
  | literal (t : Text)
  | slot (name : Text)
deriving DecidableEq

/-- The piece that a name between double braces stands for. -/
def Piece.ofName (name : Text) : Piece :=
  if name = [] then .literal "\x7b\x7b\x7d\x7d" else .slot name

mutual

/-- The pieces of a template. -/
def pieces : Text → List Piece
  | '{' :: '{' :: cs => slotPieces [] cs
  | c :: cs => .literal [c] :: pieces cs
  | [] => []

/-- The pieces of what follows two opening braces, after the characters of the name that were read,
the last one first. -/
def slotPieces (reversed : Text) : Text → List Piece
  | '}' :: '}' :: cs => .ofName reversed.reverse :: pieces cs
  | c :: cs => slotPieces (c :: reversed) cs
  | [] => [.literal ("\x7b\x7b" ++ reversed.reverse)]

end

/-- The text of a piece, with the first value given for its name. -/
def Piece.fill (values : List (Text × Text)) : Piece → Except Error Text
  | .literal t => .ok t
  | .slot name =>
    match values.lookup name with
    | some value => .ok value
    | none => .error (.missingValue name)

/-- The text of the pieces, or the error of the first slot without a value. -/
def fillAll (values : List (Text × Text)) : List Piece → Except Error Text
  | [] => .ok []
  | piece :: rest =>
    match piece.fill values with
    | .error e => .error e
    | .ok t => (fillAll values rest).map (t ++ ·)

/-- The template with a value in every slot. -/
def render (values : List (Text × Text)) (template : Text) : Except Error Text :=
  fillAll values (pieces template)

end Companion.Template
