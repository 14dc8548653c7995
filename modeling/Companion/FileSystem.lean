import Companion.FileFault
import Companion.Path
import Companion.Utf8

/-!
# File systems

The file operations that generation needs, in any monad that can carry them out. A draft is a file
without a place of its own yet: it is written to, and then it is published under a path or thrown
away.
-/

namespace Companion

/-- The operations of a file system. -/
structure FileSystem (m : Type → Type) (Draft : Type) where
  /-- The content of a file. -/
  read : Path → m (Except FileFault Bytes)
  /-- Create a file, or replace its content. -/
  write : Path → Bytes → m (Except FileFault Unit)
  /-- Create a directory and the directories it lies in, as far as they are missing. -/
  makeDirectories : Path → m (Except FileFault Unit)
  /-- Open an empty draft that lies in a directory. -/
  openDraft : Path → m (Except FileFault Draft)
  /-- Write to the end of a draft. -/
  append : Draft → Bytes → m (Except FileFault Draft)
  /-- Make a draft the file under a path. If that fails the draft is gone. -/
  publish : Draft → Path → m (Except FileFault Unit)
  /-- Throw a draft away. -/
  discard : Draft → m Unit

namespace FileSystem

variable {m : Type → Type} [Monad m] {Draft : Type}

/-- The operations for paths that may contain NUL: no such path is looked up. -/
def guarded (fs : FileSystem m Draft) : FileSystem m Draft where
  read p := if p.hasNul then return .error .nulInPath else fs.read p
  write p content := if p.hasNul then return .error .nulInPath else fs.write p content
  makeDirectories p := if p.hasNul then return .error .nulInPath else fs.makeDirectories p
  openDraft p := if p.hasNul then return .error .nulInPath else fs.openDraft p
  append := fs.append
  publish d p := do
    if p.hasNul then
      fs.discard d
      return .error .invalidArgument
    else fs.publish d p
  discard := fs.discard

end FileSystem

end Companion
