import Companion.Text.Basic

/-!
# Strategies

A strategy names the pair of operations that moves one field into the container and out of it
again. Most strategies are for one exact shape of type; the last four are for types with a
capability. The shapes are pairwise distinct, so a shape selects its strategy.
-/

namespace Companion

/-- How a field is moved into the container and out of it. -/
inductive Strategy where
  | boolean
  | booleanArray
  | boxedBoolean
  | byte
  | byteArray
  | boxedByte
  | char
  | charArray
  | boxedChar
  | double
  | doubleArray
  | boxedDouble
  | float
  | floatArray
  | boxedFloat
  | int
  | intArray
  | boxedInt
  | long
  | longArray
  | boxedLong
  | short
  | shortArray
  | boxedShort
  | charSequence
  | charSequenceArray
  | string
  | stringArray
  | charSequenceArrayList
  | integerArrayList
  | stringArrayList
  | bundle
  | parcelableArray
  | structuredTransferable
  | structuredTransferableList
  | sparseStructuredTransferableMap
  | serializable
deriving DecidableEq

namespace Strategy

/-- Every strategy: those of an exact shape, then those of a capability by precedence. -/
def all : List Strategy :=
  [.boolean, .booleanArray, .boxedBoolean, .byte, .byteArray, .boxedByte, .char, .charArray,
    .boxedChar, .double, .doubleArray, .boxedDouble, .float, .floatArray, .boxedFloat, .int,
    .intArray, .boxedInt, .long, .longArray, .boxedLong, .short, .shortArray, .boxedShort,
    .charSequence, .charSequenceArray, .string, .stringArray, .charSequenceArrayList,
    .integerArrayList, .stringArrayList, .bundle, .parcelableArray, .structuredTransferable,
    .structuredTransferableList, .sparseStructuredTransferableMap, .serializable]

/-- The name of a strategy. -/
def name : Strategy → Text
  | .boolean => "Boolean"
  | .booleanArray => "BooleanArray"
  | .boxedBoolean => "BoxedBoolean"
  | .byte => "Byte"
  | .byteArray => "ByteArray"
  | .boxedByte => "BoxedByte"
  | .char => "Char"
  | .charArray => "CharArray"
  | .boxedChar => "BoxedChar"
  | .double => "Double"
  | .doubleArray => "DoubleArray"
  | .boxedDouble => "BoxedDouble"
  | .float => "Float"
  | .floatArray => "FloatArray"
  | .boxedFloat => "BoxedFloat"
  | .int => "Int"
  | .intArray => "IntArray"
  | .boxedInt => "BoxedInt"
  | .long => "Long"
  | .longArray => "LongArray"
  | .boxedLong => "BoxedLong"
  | .short => "Short"
  | .shortArray => "ShortArray"
  | .boxedShort => "BoxedShort"
  | .charSequence => "CharSequence"
  | .charSequenceArray => "CharSequenceArray"
  | .string => "String"
  | .stringArray => "StringArray"
  | .charSequenceArrayList => "CharSequenceArrayList"
  | .integerArrayList => "IntegerArrayList"
  | .stringArrayList => "StringArrayList"
  | .bundle => "Bundle"
  | .parcelableArray => "ParcelableArray"
  | .structuredTransferable => "StructuredTransferable"
  | .structuredTransferableList => "StructuredTransferableList"
  | .sparseStructuredTransferableMap => "SparseStructuredTransferableMap"
  | .serializable => "Serializable"

/-- The printed type that a strategy is for, if it is for one type only. -/
def shape : Strategy → Option Text
  | .boolean => some "boolean"
  | .booleanArray => some "boolean[]"
  | .boxedBoolean => some "java.lang.Boolean"
  | .byte => some "byte"
  | .byteArray => some "byte[]"
  | .boxedByte => some "java.lang.Byte"
  | .char => some "char"
  | .charArray => some "char[]"
  | .boxedChar => some "java.lang.Character"
  | .double => some "double"
  | .doubleArray => some "double[]"
  | .boxedDouble => some "java.lang.Double"
  | .float => some "float"
  | .floatArray => some "float[]"
  | .boxedFloat => some "java.lang.Float"
  | .int => some "int"
  | .intArray => some "int[]"
  | .boxedInt => some "java.lang.Integer"
  | .long => some "long"
  | .longArray => some "long[]"
  | .boxedLong => some "java.lang.Long"
  | .short => some "short"
  | .shortArray => some "short[]"
  | .boxedShort => some "java.lang.Short"
  | .charSequence => some "java.lang.CharSequence"
  | .charSequenceArray => some "java.lang.CharSequence[]"
  | .string => some "java.lang.String"
  | .stringArray => some "java.lang.String[]"
  | .charSequenceArrayList => some "java.util.ArrayList<java.lang.CharSequence>"
  | .integerArrayList => some "java.util.ArrayList<java.lang.Integer>"
  | .stringArrayList => some "java.util.ArrayList<java.lang.String>"
  | .bundle => some "android.os.Bundle"
  | .parcelableArray => some "android.os.Parcelable[]"
  | .structuredTransferable | .structuredTransferableList | .sparseStructuredTransferableMap
  | .serializable => none

/-- What the two operations of a strategy have in common in their names. -/
def operation : Strategy → Text
  | .structuredTransferable => "Parcelable"
  | .structuredTransferableList => "ParcelableArrayList"
  | .sparseStructuredTransferableMap => "SparseParcelableArray"
  | s => s.name

/-- Whether a strategy is for one type only. -/
def isExact (s : Strategy) : Bool :=
  s.shape.isSome

/-- The operation that reads a field. -/
def retrieve (s : Strategy) : Text :=
  "get" ++ s.operation

/-- The operation that writes a field. -/
def store (s : Strategy) : Text :=
  "put" ++ s.operation

/-- The strategy for a printed type. -/
def ofShape? (t : Text) : Option Strategy :=
  all.find? fun s => s.shape = some t

/-- The strategy with a name. -/
def ofName? (t : Text) : Option Strategy :=
  all.find? fun s => s.name = t

/-- The shapes with their strategies. -/
def table : List (Text × Strategy) :=
  all.filterMap fun s => s.shape.map (·, s)

end Strategy

end Companion
