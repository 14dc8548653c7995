import Companion.FileSystem
import Companion.Trie

/-!
# File trees

A file system as a value: what lies where, and where drafts are open. Looking a path up goes through
directories only, one name at a time, from the root or from the home directory.
-/

namespace Companion

/-- A place in a tree, as the names that lead there from the root. -/
abbrev Location := List Text

/-- What lies at a place. -/
inductive Node where
  | directory
  | file (content : Bytes)
deriving DecidableEq

/-- The files and directories of a file system. -/
structure FileTree where
  /-- The directory that relative paths start from. -/
  home : Location
  nodes : Trie Text Node
  /-- The directories in which drafts are open. -/
  drafts : List Location := []

namespace FileTree

/-- A draft: the directory it lies in, and what was written to it. -/
structure Draft where
  directory : Location
  content : Bytes

/-- The tree that has nothing but its home directory. -/
def empty : FileTree where
  home := ["home"]
  nodes := .empty

/-- What lies at a place. The directories down to the home directory are always there. -/
def node? (t : FileTree) (place : Location) : Option Node :=
  if place.isPrefixOf t.home then some .directory else t.nodes.find? place

/-- The tree with a node at a place, instead of what was there. -/
def put (t : FileTree) (place : Location) (node : Node) : FileTree :=
  { t with nodes := t.nodes.insert place node }

/-- The number of bytes that a name may have. -/
def maxNameLength : Nat := 255

/-- The number of bytes that a path may have. -/
def maxPathLength : Nat := 4095

/-- Whether a name has more bytes than a name may have. -/
def isLongName (name : Text) : Bool :=
  (Utf8.encode name).length > maxNameLength

/-- Whether a path has more bytes than a path may have. -/
def isLongPath (p : Path) : Bool :=
  (Utf8.encode p.text).length > maxPathLength

/-- The place that names lead to from another place. -/
def locateFrom (t : FileTree) (place : Location) : List Text → Except FileFault Location
  | [] => .ok place
  | name :: names =>
    match t.node? place with
    | none => .error .noEntry
    | some (.file _) => .error .notDirectory
    | some .directory =>
      if name = "." then locateFrom t place names
      else if name = ".." then locateFrom t place.dropLast names
      else if isLongName name then .error .nameTooLong
      else locateFrom t (place ++ [name]) names

/-- Where the names of a path start from. -/
def start (t : FileTree) (p : Path) : Location :=
  if p.isAbsolute then [] else t.home

/-- The place that names lead to from where a path starts. The empty path starts nowhere. -/
def follow (t : FileTree) (p : Path) (names : List Text) : Except FileFault Location :=
  if p.text = [] then .error .noEntry
  else if isLongPath p then .error .nameTooLong
  else t.locateFrom (t.start p) names

/-- The place that a path leads to, whether or not anything lies there. -/
def locate (t : FileTree) (p : Path) : Except FileFault Location :=
  t.follow p p.components

/-- The content of the file at a path. -/
def read (t : FileTree) (p : Path) : Except FileFault Bytes :=
  match t.locate p with
  | .error fault => .error fault
  | .ok place =>
    match t.node? place with
    | none => .error .noEntry
    | some .directory => .error .isDirectory
    | some (.file content) => .ok content

/-- The tree with a file at a path. Once the way to its last name is found, a path that ends in a
slash is refused, for it is the path of no file. -/
def write (t : FileTree) (p : Path) (content : Bytes) : Except FileFault FileTree :=
  if p.endsInSlash then
    match t.follow p (p.names.dropLast ++ [['.']]) with
    | .error fault => .error fault
    | .ok _ => .error .isDirectory
  else
    match t.follow p p.names with
    | .error fault => .error fault
    | .ok place =>
      match t.node? place with
      | some .directory => .error .isDirectory
      | _ => .ok (t.put place (.file content))

/-- Make the directories that names lead through from a place, as far as they are missing. A file on
the way is no directory to go through. At the last name, and once something had to be made, a file
stands where a directory should be made, and exists already. -/
def makeDirectoriesFrom (t : FileTree) (place : Location) (made : Bool) :
    List Text → Except FileFault Unit × FileTree
  | [] => (.ok (), t)
  | name :: names =>
    if name = "." then makeDirectoriesFrom t place made names
    else if name = ".." then makeDirectoriesFrom t place.dropLast made names
    else if isLongName name then (.error .nameTooLong, t)
    else
      match t.node? (place ++ [name]) with
      | none =>
        makeDirectoriesFrom (t.put (place ++ [name]) .directory) (place ++ [name]) true names
      | some .directory => makeDirectoriesFrom t (place ++ [name]) made names
      | some (.file _) =>
        (.error (if made ∨ names = [] then .alreadyExists else .notDirectory), t)

/-- Make the directory at a path, and those it lies in as far as they are missing. -/
def makeDirectories (t : FileTree) (p : Path) : Except FileFault Unit × FileTree :=
  if isLongPath p then (.error .nameTooLong, t)
  else t.makeDirectoriesFrom (t.start p) false p.components

/-- Open a draft in the directory at a path. -/
def openDraft (t : FileTree) (p : Path) : Except FileFault (Draft × FileTree) :=
  match t.locate p with
  | .error fault => .error fault
  | .ok place =>
    match t.node? place with
    | none => .error .noEntry
    | some (.file _) => .error .notDirectory
    | some .directory => .ok (⟨place, []⟩, { t with drafts := place :: t.drafts })

/-- The tree without a draft. -/
def discard (t : FileTree) (d : Draft) : FileTree :=
  { t with drafts := t.drafts.erase d.directory }

/-- The file at a path is a draft; the draft is gone in any case. -/
def publish (t : FileTree) (d : Draft) (p : Path) : Except FileFault Unit × FileTree :=
  match (t.discard d).write p d.content with
  | .ok t' => (.ok (), t')
  | .error fault => (.error fault, t.discard d)

/-- The text of a place relative to another. -/
def relativeText (base place : Location) : Text :=
  List.intercalate ['/'] (place.drop base.length)

/-- The number of drafts that are open below a place. -/
def draftsBelow (t : FileTree) (base : Location) : Nat :=
  (t.drafts.filter base.isPrefixOf).length

/-- The files below a place, with their relative paths. -/
def filesBelow (t : FileTree) (base : Location) : List (Text × Bytes) :=
  t.nodes.toList.filterMap fun (place, node) =>
    match node with
    | .directory => none
    | .file content =>
      if base.isPrefixOf place then some (relativeText base place, content) else none

/-- The operations on a tree, for paths without NUL. -/
def operations : FileSystem (StateM FileTree) Draft where
  read p := fun t => (t.read p, t)
  write p content := fun t =>
    match t.write p content with
    | .ok t' => (.ok (), t')
    | .error fault => (.error fault, t)
  makeDirectories p := fun t => t.makeDirectories p
  openDraft p := fun t =>
    match t.openDraft p with
    | .ok (d, t') => (.ok d, t')
    | .error fault => (.error fault, t)
  append d content := fun t => (.ok { d with content := d.content ++ content }, t)
  publish d p := fun t => t.publish d p
  discard d := fun t => ((), t.discard d)

/-- The operations on a tree as the operations of a file system. -/
def system : FileSystem (StateM FileTree) Draft :=
  operations.guarded

end FileTree

end Companion
