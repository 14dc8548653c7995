import Companion.Path
import Companion.TraceLevel

/-!
# Command line arguments

The arguments are read from left to right. Each option is given at most once, its value after an
equals sign or as the next argument, which must not look like an option itself. Asking for the
version or for help ends the reading; so does the first mistake.
-/

namespace Companion.CommandLine

/-- What a run was asked to do. -/
structure Arguments where
  manifest : Path
  out : Path
  config : Option Path
  report : Option Path
  logLevel : TraceLevel
  dryRun : Bool
deriving DecidableEq

/-- The arguments read so far. -/
structure Given where
  manifest : Option Path := none
  out : Option Path := none
  config : Option Path := none
  report : Option Path := none
  logLevel : Option TraceLevel := none
  dryRun : Bool := false
deriving DecidableEq

/-- What the arguments ask for. -/
inductive Request where
  | run (arguments : Arguments)
  | version
  | help
  | mistake
deriving DecidableEq

namespace Given

/-- What is asked for when all arguments are read: a run, if there is a manifest. -/
def finish (g : Given) : Request :=
  match g.manifest with
  | none => .mistake
  | some manifest =>
    .run
      { manifest
        out := g.out.getD "generated"
        config := g.config
        report := g.report
        logLevel := g.logLevel.getD .warn
        dryRun := g.dryRun }

/-- The value for an option that takes a path and was not given yet. -/
def path? (given : Option Path) (value : Text) : Option Path :=
  if given.isSome ∨ value = [] then none else some ⟨value⟩

/-- The value for the level, if it was not given yet. -/
def level? (given : Option TraceLevel) (value : Text) : Option TraceLevel :=
  if given.isSome then none else TraceLevel.ofName? value

/-- The arguments with the value of one more option. -/
def set (g : Given) (name value : Text) : Option Given :=
  if name = "manifest" then (path? g.manifest value).map ({ g with manifest := some · })
  else if name = "out" then (path? g.out value).map ({ g with out := some · })
  else if name = "config" then (path? g.config value).map ({ g with config := some · })
  else if name = "report" then (path? g.report value).map ({ g with report := some · })
  else if name = "log-level" then (level? g.logLevel value).map ({ g with logLevel := some · })
  else none

end Given

/-- Whether an argument can be the value of the option before it. -/
def isValue (argument : Text) : Bool :=
  argument.head? ≠ some '-' ∨ argument = "-"

/-- Read the arguments after those already read. -/
def readFrom (g : Given) : List Text → Request
  | [] => g.finish
  | argument :: rest =>
    match argument with
    | '-' :: '-' :: name =>
      if name = [] then
        match rest with
        | [] => g.finish
        | _ => .mistake
      else if name = "version" then .version
      else if name = "help" then .help
      else if name = "dry-run" then
        if g.dryRun then .mistake else readFrom { g with dryRun := true } rest
      else if '=' ∈ name then
        match g.set (name.takeWhile (· ≠ '=')) ((name.dropWhile (· ≠ '=')).drop 1) with
        | some g' => readFrom g' rest
        | none => .mistake
      else
        match rest with
        | [] => .mistake
        | value :: rest' =>
          if isValue value then
            match g.set name value with
            | some g' => readFrom g' rest'
            | none => .mistake
          else .mistake
    | '-' :: 'V' :: _ => .version
    | '-' :: 'h' :: _ => .help
    | _ => .mistake

/-- What the arguments ask for. -/
def read (arguments : List Text) : Request :=
  readFrom {} arguments

end Companion.CommandLine
