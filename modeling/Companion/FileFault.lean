import Companion.Text.Basic

/-!
# File faults

The ways in which a file operation can be refused.
-/

namespace Companion

/-- Why a file operation was refused. -/
inductive FileFault where
  | noEntry
  | alreadyExists
  | notDirectory
  | isDirectory
  | nameTooLong
  | nulInPath
  | invalidArgument
  | notText
  | other (description : Text)
deriving DecidableEq

namespace FileFault

/-- The fault in words. -/
def message : FileFault → Text
  | .noEntry => "No such file or directory (os error 2)"
  | .alreadyExists => "File exists (os error 17)"
  | .notDirectory => "Not a directory (os error 20)"
  | .isDirectory => "Is a directory (os error 21)"
  | .nameTooLong => "File name too long (os error 36)"
  | .nulInPath => "file name contained an unexpected NUL byte"
  | .invalidArgument => "Invalid argument (os error 22)"
  | .notText => "stream did not contain valid UTF-8"
  | .other description => description

end FileFault

end Companion
