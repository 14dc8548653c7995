import Companion.FileSystem
import Companion.Publisher.Basic

/-!
# Publishing into a directory

Each artifact becomes a file below the directory of its package. It is written as a draft in that
directory and takes its place when its sink is committed, whatever file was there before.
-/

namespace Companion.Directory

/-- An artifact on its way to its file. -/
structure Sink (Draft : Type) where
  path : Path
  draft : Draft

variable {m : Type → Type} [Monad m] {Draft : Type}

/-- Open the draft of an artifact, in a directory that is made where it is missing. -/
def openSink (fs : FileSystem m Draft) (root : Path) (artifact : QName) :
    m (Except Error (Sink Draft)) := do
  let path := Path.source root artifact
  match ← fs.makeDirectories path.parent with
  | .error fault => return .error (.fileRefused .createDirectory path.parent fault)
  | .ok () =>
    match ← fs.openDraft path.parent with
    | .error fault => return .error (.fileRefused .createDraft path.parent fault)
    | .ok draft => return .ok ⟨path, draft⟩

/-- The publisher into files below `root`. -/
def publisher (fs : FileSystem m Draft) (root : Path) : Publisher m (Sink Draft) where
  create artifact _ := openSink fs root artifact
  write sink content := do
    match ← fs.append sink.draft content with
    | .ok draft => return some { sink with draft }
    | .error _ => return none
  commit sink := do
    match ← fs.publish sink.draft sink.path with
    | .ok () => return .ok ()
    | .error fault => return .error (.fileRefused .publish sink.path fault)
  discard sink := fs.discard sink.draft

end Companion.Directory
