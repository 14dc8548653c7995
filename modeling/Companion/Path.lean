import Companion.QName

/-!
# Paths

A path is text with slashes. Pushing a segment puts one slash between, unless there is one already;
a segment that begins with a slash starts over. The source of an artifact lies below the directories
of its qualifier.
-/

namespace Companion

/-- A path in a file tree, as written. -/
structure Path where
  text : Text
deriving DecidableEq

instance : Coe String Path := ⟨fun s => ⟨s⟩⟩

namespace Path

/-- The path one segment further. -/
def push (p : Path) (segment : Text) : Path :=
  if segment.head? = some '/' then ⟨segment⟩
  else if p.text = [] ∨ p.text.getLast? = some '/' then ⟨p.text ++ segment⟩
  else ⟨p.text ++ '/' :: segment⟩

/-- Whether the path starts at the root of the tree. -/
def isAbsolute (p : Path) : Bool :=
  p.text.head? = some '/'

/-- Whether the path contains the character that paths end with on a machine. -/
def hasNul (p : Path) : Bool :=
  '\x00' ∈ p.text

/-- The names along the path. -/
def names (p : Path) : List Text :=
  (Text.split '/' p.text).filter (· ≠ [])

/-- Whether the path ends in a slash, so that it can only lead to a directory. -/
def endsInSlash (p : Path) : Bool :=
  p.text.getLast? = some '/'

/-- The names that are looked up on the way to what is there already. A slash at the end is looked
up as a final dot is. -/
def components (p : Path) : List Text :=
  if p.endsInSlash then p.names ++ [['.']] else p.names

/-- Whether a piece of a path stays in place. -/
def isIdle (piece : Text) : Bool :=
  piece = [] ∨ piece = "."

/-- The directory that the last name of a path is looked up in, without idle pieces at its end. -/
def parent (p : Path) : Path :=
  match ((Text.split '/' p.text).reverse.dropWhile isIdle).tail.reverse with
  | [] => ⟨[]⟩
  | first :: pieces =>
    match first :: (pieces.reverse.dropWhile isIdle).reverse with
    | [[]] => ⟨"/"⟩
    | kept => ⟨List.intercalate ['/'] kept⟩

/-- The file of the artifact `n` below `root`. -/
def source (root : Path) (n : QName) : Path :=
  (((Text.split '.' n.qualifier).filter (· ≠ [])).foldl push root).push
    (n.simpleName ++ ".java")

end Path

namespace QName

/-- The file of an artifact relative to the root of the output. -/
def sourcePath (n : QName) : Path :=
  Path.source ⟨[]⟩ n

end QName

end Companion
