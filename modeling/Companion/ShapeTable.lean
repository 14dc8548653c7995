import Companion.Text.Blank

/-!
# Shape tables

A table of shapes is derived from a list of variants with attributes: each variant may be for one
shape and may name its operation. A shape has to be written as a type is printed, and no two
variants may have the same. The derived table looks shapes up in both directions; a list of variants
with faults has no table, and each faulty variant is reported once.
-/

namespace Companion

/-- What stands after a key in an attribute. -/
inductive Literal where
  | text (t : Text)
  | integer (literal : Text)
  /-- Nothing that can be read as a text, for the reason that the reader of attributes gives. -/
  | unreadable (reason : Text)
deriving DecidableEq

/-- What is read in an attribute. -/
inductive AttributeItem where
  | value (key : Text) (literal : Literal)
  /-- Neither a key with a literal nor the end of the attribute. -/
  | malformed (reason : Text)
deriving DecidableEq

/-- A variant as it is declared. -/
structure VariantDecl where
  name : Text
  attributes : List (List AttributeItem)
  /-- Whether the variant carries nothing. -/
  isUnit : Bool
deriving DecidableEq

/-- What a table may be asked for: only an enumeration has variants. -/
inductive Item where
  | enum (variants : List VariantDecl)
  | struct
  | union
deriving DecidableEq

/-- Why a text is not written as a type is printed. -/
inductive ShapeFault where
  | empty
  | unopenedBracket
  | unclosedBracket
  | filledBracket
  | unopenedArguments
  | unclosedArguments
  | space
  | unexpected (c : Char)
deriving DecidableEq

namespace ShapeFault

/-- The fault in words. -/
def message : ShapeFault → Text
  | .empty => "shape is empty"
  | .unopenedBracket => "'[' without matching ']'"
  | .unclosedBracket => "unterminated '['"
  | .filledBracket => "array brackets must be empty"
  | .unopenedArguments => "unbalanced '>'"
  | .unclosedArguments => "unbalanced '<'"
  | .space => "whitespace outside a wildcard bound"
  | .unexpected c => "unexpected character '" ++ [c] ++ "'"

end ShapeFault

/-- Why a table could not be derived. -/
inductive TableFault where
  | notEnum
  | notUnit
  | unsupportedAttribute
  | notText
  | unreadable (reason : Text)
  | malformedShape (shape : Text) (fault : ShapeFault)
  | repeatedShape (shape first : Text)
deriving DecidableEq

namespace TableFault

/-- The fault in words. -/
def message : TableFault → Text
  | .notEnum => "StrategyTable can only be derived for enums"
  | .notUnit => "StrategyTable can only be derived for enums with unit variants"
  | .unsupportedAttribute => "unsupported strategy attribute"
  | .notText => "expected string literal"
  | .unreadable reason => reason
  | .malformedShape shape fault => "malformed shape \"" ++ shape ++ "\": " ++ fault.message
  | .repeatedShape shape first =>
    "shape \"" ++ shape ++ "\" is already mapped to \x60" ++ first ++ "\x60"

end TableFault

/-- A table of variants, their shapes and their operations. -/
structure ShapeTable where
  /-- The variants with a shape, in declaration order. -/
  entries : List (Text × Text) := []
  /-- The cases of the look-up by shape. -/
  cases : List (Text × Text) := []
  /-- The shape of each variant, if it has one. -/
  shapes : List (Text × Option Text) := []
  /-- The operation of each variant. -/
  operations : List (Text × Text) := []
deriving DecidableEq

namespace ShapeTable

/-- The variant for a shape. -/
def variantOf? (t : ShapeTable) (shape : Text) : Option Text :=
  t.cases.lookup shape

/-- The shape that a variant is for. -/
def shapeOf? (t : ShapeTable) (variant : Text) : Option Text :=
  (t.shapes.lookup variant).join

/-- Whether a variant is for a shape. -/
def isExact (t : ShapeTable) (variant : Text) : Bool :=
  (t.shapeOf? variant).isSome

/-- The operation of a variant. -/
def operationOf? (t : ShapeTable) (variant : Text) : Option Text :=
  t.operations.lookup variant

/-- The fault of the rest of a shape, after `previous` and inside `depth` argument lists. -/
def scan (depth : Nat) (previous : Char) : Text → Option ShapeFault
  | [] =>
    if depth ≠ 0 then some .unclosedArguments
    else if previous = '[' then some .unclosedBracket
    else none
  | c :: cs =>
    if c = '>' ∧ depth = 0 then some .unopenedArguments
    else if c = ']' ∧ previous ≠ '[' then some .unopenedBracket
    else if Text.isBlank c then some .space
    else if ¬(c.isAlphanum ∨ c ∈ ['<', '>', '[', ']', '.', ',', '_', '$', '?']) then
      some (.unexpected c)
    else if previous = '[' ∧ c ≠ ']' then some .filledBracket
    else
      scan (if c = '<' then depth + 1 else if c = '>' then depth - 1 else depth) c cs

/-- The fault of a shape that is not written as a type is printed. Space is right only around the
word of a bound, so the words of bounds are taken out first. -/
def shapeFault? (shape : Text) : Option ShapeFault :=
  if shape = [] then some .empty
  else scan 0 ' ' ((shape.replaceAll "? extends " "?").replaceAll "? super " "?")

/-- What the attributes of a variant say: its shape and its operation. -/
structure Attributes where
  shape : Option Text := none
  operation : Option Text := none
deriving DecidableEq

/-- The text that a literal has to be. -/
def readText : Literal → Except TableFault Text
  | .text t => .ok t
  | .integer _ => .error .notText
  | .unreadable reason => .error (.unreadable reason)

/-- The attributes after one more item. The last value of a key counts. -/
def Attributes.set (a : Attributes) : AttributeItem → Except TableFault Attributes
  | .value key literal =>
    if key = "shape" then
      match readText literal with
      | .error fault => .error fault
      | .ok t => .ok { a with shape := some t }
    else if key = "op" then
      match readText literal with
      | .error fault => .error fault
      | .ok t => .ok { a with operation := some t }
    else .error .unsupportedAttribute
  | .malformed reason => .error (.unreadable reason)

/-- The attributes after more items, up to the first that is at fault. -/
def Attributes.setAll (a : Attributes) : List AttributeItem → Except TableFault Attributes
  | [] => .ok a
  | item :: rest =>
    match a.set item with
    | .error fault => .error fault
    | .ok a' => a'.setAll rest

/-- What all attributes of a variant say together. -/
def attributesOf (v : VariantDecl) : Except TableFault Attributes :=
  Attributes.setAll {} v.attributes.flatten

/-- A table while the variants are gone through. -/
structure Draft where
  /-- The shapes that are taken, with the variants that have them. -/
  seen : List (Text × Text) := []
  table : ShapeTable := {}
  faults : List TableFault := []

namespace Draft

/-- The draft with one more fault. -/
def fail (d : Draft) (fault : TableFault) : Draft :=
  { d with faults := d.faults ++ [fault] }

/-- The draft with the operation of a variant. -/
def addOperation (d : Draft) (variant operation : Text) : Draft :=
  { d with table := { d.table with operations := d.table.operations ++ [(variant, operation)] } }

/-- The draft with a variant that is for no shape. -/
def addShapeless (d : Draft) (variant : Text) : Draft :=
  { d with table := { d.table with shapes := d.table.shapes ++ [(variant, none)] } }

/-- The draft with a variant and its shape. -/
def addShape (d : Draft) (shape variant : Text) : Draft :=
  { d with
    seen := (shape, variant) :: d.seen
    table :=
      { d.table with
        entries := d.table.entries ++ [(shape, variant)]
        cases := d.table.cases ++ [(shape, variant)]
        shapes := d.table.shapes ++ [(variant, some shape)] } }

/-- The draft after one more variant, which is at fault by itself or because its shape is taken, or
has its place in the table. -/
def addVariant (d : Draft) (v : VariantDecl) : Draft :=
  if ¬v.isUnit then d.fail .notUnit
  else
    match attributesOf v with
    | .error fault => d.fail fault
    | .ok a =>
      let d := d.addOperation v.name (a.operation.getD v.name)
      match a.shape with
      | none => d.addShapeless v.name
      | some shape =>
        match shapeFault? shape with
        | some fault => d.fail (.malformedShape shape fault)
        | none =>
          match d.seen.lookup shape with
          | some first => d.fail (.repeatedShape shape first)
          | none => d.addShape shape v.name

end Draft

/-- The table of an enumeration, or the faults of its variants in their order. -/
def derive : Item → Except (List TableFault) ShapeTable
  | .enum variants =>
    let d := variants.foldl Draft.addVariant {}
    if d.faults = [] then .ok d.table else .error d.faults
  | .struct | .union => .error [.notEnum]

end ShapeTable

end Companion
