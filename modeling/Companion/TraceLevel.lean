import Companion.Text.Basic

/-!
# Trace levels

How much is written to the trace. A level is named without regard to case; no letter outside ASCII
has one of the letters of these names as its lower case, so only ASCII letters are folded.
-/

namespace Companion

/-- How much is written to the trace, each level including those before it. -/
inductive TraceLevel where
  | error
  | warn
  | info
  | debug
  | trace
deriving DecidableEq

namespace TraceLevel

/-- Every level, the quietest first. -/
def all : List TraceLevel :=
  [.error, .warn, .info, .debug, .trace]

/-- The name of a level. -/
def name : TraceLevel → Text
  | .error => "error"
  | .warn => "warn"
  | .info => "info"
  | .debug => "debug"
  | .trace => "trace"

/-- The level that a text names. -/
def ofName? (t : Text) : Option TraceLevel :=
  all.find? fun level => level.name = t.map Char.toLower

/-- What is said of a text that names no level. -/
def refusal (t : Text) : Text :=
  "Invalid tracing level '" ++ t ++ "'. Valid levels are: error, warn, info, debug, trace"

end TraceLevel

end Companion
