import Companion.Catalog.Basic
import Companion.CommandLine.Arguments
import Companion.Config.Json
import Companion.Json.Printer
import Companion.Manifest.Json
import Companion.Publisher.Directory
import Companion.Publisher.Memory
import Companion.Round.Json

/-!
# Runs

A run loads a configuration and a manifest, performs one round and writes its report. A dry run
publishes into memory and prints the sources instead of writing them. Problems with fields are
printed before the reason for which a run may have stopped; either makes the run fail.
-/

namespace Companion.CommandLine

/-- What a run leaves to be seen, files aside. -/
structure Outcome where
  status : Nat
  stdout : Text
  stderr : Text
deriving DecidableEq

/-- What is printed for the version. -/
def versionText : Text :=
  "stashgen 0.1.0\n"

/-- What is printed for help and after a mistake. -/
def usageText : Text :=
  "Usage: stashgen [OPTIONS] --manifest <FILE>\n"

/-- An error as it is printed, with plain line ends. -/
def errorLine (e : Error) : Text :=
  "error: " ++ e.message.plainLineEnds ++ "\n"

/-- The diagnostics as they are printed, a line each. -/
def diagnosticLines (ds : List Diagnostic) : Text :=
  ds.flatMap fun d => d.message ++ "\n"

/-- The sources as a dry run prints them. -/
def sourceText (s : Store) : Text :=
  s.sources.flatMap fun (name, source) =>
    "// " ++ name.sourcePath.text ++ "\n" ++ source ++ "\n"

/-- The outcome of a run that an error stopped before its round. -/
def stopped (e : Error) : Outcome :=
  ⟨1, [], errorLine e⟩

/-- A round into memory, with what it prints. -/
def dryRound (catalog : Catalog) (config : Config) : Round × Text :=
  let (round, store) := Round.run Store.publisher catalog.model config |>.run {}
  match round.result with
  | .ok _ => (round, sourceText store)
  | .error _ => (round, [])

variable {m : Type → Type} [Monad m] {Draft : Type}

/-- The configuration at a path, or the default one. -/
def loadConfig (fs : FileSystem m Draft) : Option Path → m (Except Error Config)
  | none => return .ok {}
  | some file => return Config.load file (← fs.read file)

/-- The catalog of the manifest at a path. -/
def loadCatalog (fs : FileSystem m Draft) (file : Path) : m (Except Error Catalog) :=
  return (Manifest.load file (← fs.read file)).bind Catalog.ofManifest

/-- Write the report of a round, if it was asked for. -/
def writeReport (fs : FileSystem m Draft) (report : Report) : Option Path → m (Except Error Unit)
  | none => return .ok ()
  | some file => do
    match ← fs.write file (Utf8.encode report.toJson.pretty) with
    | .ok () => return .ok ()
    | .error fault => return .error (.fileRefused .writeReport file fault)

/-- The outcome of a round that printed `stdout`, after its report is written. -/
def conclude (fs : FileSystem m Draft) (reportFile : Option Path) (round : Round)
    (stdout : Text) : m Outcome := do
  let problems := diagnosticLines round.diagnostics
  match round.result with
  | .error e => return ⟨1, stdout, problems ++ errorLine e⟩
  | .ok report =>
    match ← writeReport fs report reportFile with
    | .error e => return ⟨1, stdout, problems ++ errorLine e⟩
    | .ok () => return ⟨if report.hasErrors then 1 else 0, stdout, problems⟩

/-- Perform a run. -/
def perform (fs : FileSystem m Draft) (a : Arguments) : m Outcome := do
  match ← loadConfig fs a.config with
  | .error e => return stopped e
  | .ok config =>
    match ← loadCatalog fs a.manifest with
    | .error e => return stopped e
    | .ok catalog =>
      if a.dryRun then
        let (round, stdout) := dryRound catalog config
        conclude fs a.report round stdout
      else
        let round ← Round.run (Directory.publisher fs a.out) catalog.model config
        conclude fs a.report round []

/-- Do what the arguments ask for. -/
def execute (fs : FileSystem m Draft) (arguments : List Text) : m Outcome :=
  match read arguments with
  | .run a => perform fs a
  | .version => return ⟨0, versionText, []⟩
  | .help => return ⟨0, usageText, []⟩
  | .mistake => return ⟨2, [], usageText⟩

end Companion.CommandLine
