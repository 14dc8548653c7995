import Companion.FileFault
import Companion.Path
import Companion.Text.Blank
import Companion.Text.Quoted
import Companion.TypeExpr.Basic
import Companion.Utf8

/-!
# Errors

The causes for which generation stops. Problems with marked fields are not among them: those are
diagnostics, and generation goes on. Each cause belongs to a kind, and the kind opens its message.
-/

namespace Companion

/-- What a file was used for. -/
inductive FileAction where
  | readConfig
  | readManifest
  | createDirectory
  | createDraft
  | publish
  | writeReport
deriving DecidableEq

namespace FileAction

/-- The action in words. -/
def phrase : FileAction → Text
  | .readConfig => "read config"
  | .readManifest => "read manifest"
  | .createDirectory => "create directory"
  | .createDraft => "create temporary file in"
  | .publish => "persist"
  | .writeReport => "write report"

end FileAction

/-- A name in a manifest that has to be an identifier. -/
inductive NameRole where
  | package
  | typeName
  | fieldName
deriving DecidableEq

namespace NameRole

/-- The role in words. -/
def phrase : NameRole → Text
  | .package => "package"
  | .typeName => "type name"
  | .fieldName => "field name"

end NameRole

/-- Why generation stopped. -/
inductive Error where
  | malformedConfig (file : Path)
  | emptySetting (key : Text)
  | unendedExclusion (start : Text)
  | fileRefused (action : FileAction) (path : Path) (fault : FileFault)
  | sinkRefused (artifact : QName)
  | writeRefused (artifact : QName)
  | alreadyEmitted (artifact : QName)
  | notUtf8 (artifact : QName) (fault : Utf8.Fault)
  | sinkClosed
  | malformedManifest (file : Path)
  | notIdentifier (role : NameRole) (text : Text)
  | duplicateType (name : QName)
  | undeclaredSupertype (supertype : TypeExpr) (name : QName)
  | unknownEnclosing (enclosing name : QName)
  | cyclicSuperclass (name repeated : QName)
  | missingValue (slot : Text)
  | unexpectedText (text rest : Text)
  | noType (text : Text)
deriving DecidableEq

namespace Error

/-- The kinds of errors. -/
inductive Kind where
  | configuration
  | fileOperation
  | general
  | invalidState
  | manifest
  | template
  | typeText
deriving DecidableEq

/-- The words that open the messages of a kind. -/
def Kind.opening : Kind → Text
  | .configuration => "Configuration error: "
  | .fileOperation => "File operation failed: "
  | .general => ""
  | .invalidState => "Invalid state: "
  | .manifest => "Manifest error: "
  | .template => "Template rendering failed: "
  | .typeText => "Type parse error: "

/-- The kind that a cause belongs to. -/
def kind : Error → Kind
  | .malformedConfig _ | .emptySetting _ | .unendedExclusion _ => .configuration
  | .fileRefused .. => .fileOperation
  | .sinkRefused _ | .writeRefused _ => .general
  | .alreadyEmitted _ | .notUtf8 .. | .sinkClosed => .invalidState
  | .malformedManifest _ | .notIdentifier .. | .duplicateType _ | .undeclaredSupertype ..
  | .unknownEnclosing .. | .cyclicSuperclass .. => .manifest
  | .missingValue _ => .template
  | .unexpectedText .. | .noType _ => .typeText

/-- A text between single quotes, as it is. -/
def cited (t : Text) : Text :=
  "'" ++ t ++ "'"

/-- The cause in words. -/
def detail : Error → Text
  | .malformedConfig file => "Invalid config file: " ++ file.text
  | .emptySetting key => "Invalid " ++ key ++ ": must not be empty"
  | .unendedExclusion start =>
    "Invalid excluded_prefixes: " ++ cited start ++ " must end with '.'"
  | .fileRefused action path fault =>
    "Failed to " ++ action.phrase ++ " " ++ path.text ++ ": " ++ fault.message
  | .sinkRefused artifact => "Failed to open sink: " ++ artifact.text
  | .writeRefused artifact => "Failed to write artifact: " ++ artifact.text
  | .alreadyEmitted artifact => "artifact " ++ cited artifact.text ++ " was already emitted"
  | .notUtf8 artifact fault =>
    "artifact " ++ cited artifact.text ++ " is not valid UTF-8: " ++ fault.message
  | .sinkClosed => "sink was closed"
  | .malformedManifest file => "malformed manifest " ++ file.text
  | .notIdentifier role text => role.phrase ++ " " ++ cited text ++ " is not a valid identifier"
  | .duplicateType name => "type " ++ cited name.text ++ " is declared more than once"
  | .undeclaredSupertype supertype name =>
    "supertype " ++ cited supertype.print ++ " of " ++ cited name.text ++ " is not a declared type"
  | .unknownEnclosing enclosing name =>
    "enclosing type " ++ cited enclosing.text ++ " of " ++ cited name.text ++ " is not declared"
  | .cyclicSuperclass name repeated =>
    "superclass chain of " ++ cited name.text ++ " is cyclic at " ++ cited repeated.text
  | .missingValue slot => "Missing value for placeholder " ++ cited slot
  | .unexpectedText text rest =>
    "Unexpected characters after type " ++ cited text ++ ": " ++ rest
  | .noType text =>
    "Failed to parse type " ++ cited text ++ ": Error(Error \x7b input: " ++ text.trim.quoted ++
      ", code: TakeWhileMN \x7d)"

/-- What the user reads. -/
def message (e : Error) : Text :=
  e.kind.opening ++ e.detail

end Error

end Companion
