import Companion.CommandLine.Run

/-!
# The program

The files of the machine as a file system, and the program on top of it.
-/

namespace Companion.Program

/-- The number of a fault, which some operations give negated. -/
def faultNumber (code : UInt32) : UInt32 :=
  if code < 0x80000000 then code else 0 - code

/-- The fault that the machine reports. -/
def faultOf : IO.Error → FileFault
  | .noFileOrDirectory .. => .noEntry
  | .alreadyExists .. => .alreadyExists
  | .inappropriateType _ code details =>
    if faultNumber code = 20 then .notDirectory
    else if faultNumber code = 21 then .isDirectory
    else .other details
  | .invalidArgument _ code details =>
    if faultNumber code = 36 then .nameTooLong
    else if faultNumber code = 22 then .invalidArgument
    else .other details
  | e => .other e.toString

/-- What an action gives, or the fault that the machine reports. -/
def attempt {α : Type} (action : IO α) : IO (Except FileFault α) := do
  match ← action.toBaseIO with
  | .ok a => return .ok a
  | .error e => return .error (faultOf e)

/-- The text of a path for the machine. -/
def native (p : Path) : String :=
  String.ofList p.text

/-- Whether a path leads to a directory. -/
def isDirectory (p : Path) : IO Bool := do
  try (← IO.FS.realPath (native p)).isDir
  catch _ => return false

/-- Make a directory; where the one it lies in is missing, that one is made first. -/
partial def makeDirectories (p : Path) : IO Unit := do
  if p.text = [] then return
  try IO.FS.createDir (native p)
  catch e =>
    if ← isDirectory p then return
    match faultOf e with
    | .noEntry =>
      makeDirectories p.parent
      IO.FS.createDir (native p)
    | _ => throw e

/-- A new file with a name of its own in a directory. -/
def openDraft (directory : Path) : IO String := do
  let name := "draft" ++ toString (← IO.rand 0 999999999)
  let file := native (directory.push name.toList)
  let _ ← IO.FS.Handle.mk file .writeNew
  return file

/-- Write to the end of a file. -/
def append (file : String) (content : Bytes) : IO String := do
  let handle ← IO.FS.Handle.mk file .append
  handle.write ⟨content.toArray⟩
  handle.flush
  return file

/-- Give a draft its place, or remove it. -/
def publish (draft : String) (p : Path) : IO Unit := do
  try IO.FS.rename draft (native p)
  catch e =>
    IO.FS.removeFile draft
    throw e

/-- The operations of the machine, for paths without NUL. -/
def operations : FileSystem IO String where
  read p := attempt do return (← IO.FS.readBinFile (native p)).toList
  write p content := attempt (IO.FS.writeBinFile (native p) ⟨content.toArray⟩)
  makeDirectories p := attempt (makeDirectories p)
  openDraft p := attempt (openDraft p)
  append draft content := attempt (append draft content)
  publish draft p := attempt (publish draft p)
  discard draft := do
    let _ ← attempt (IO.FS.removeFile draft)

/-- The files of the machine. -/
def files : FileSystem IO String :=
  operations.guarded

end Companion.Program

/-- Read the arguments, do what they ask for, and print what there is to see. -/
def main (arguments : List String) : IO UInt32 := do
  let outcome ←
    Companion.CommandLine.execute Companion.Program.files (arguments.map String.toList)
  IO.print (String.ofList outcome.stdout)
  IO.eprint (String.ofList outcome.stderr)
  return outcome.status.toUInt32
