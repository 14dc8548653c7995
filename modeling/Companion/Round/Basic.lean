import Companion.Artifact
import Companion.Publisher.Basic

/-!
# Rounds

A round collects the marked fields of a program, groups them by type and publishes an artifact for
each group. Problems with fields are reported and do not stop the round; the first artifact that
cannot be published does, and what was published before it stays.
-/

namespace Companion

/-- A published artifact. -/
structure Summary where
  name : QName
  /-- The type that the artifact belongs to. -/
  origin : QName
  variant : Variant
  parent : QName
  fields : List Text
  skippedFields : List Text
deriving DecidableEq

/-- What a round has produced. -/
structure Report where
  /-- The artifacts, ordered by the names of their types. -/
  artifacts : List Summary
  /-- The number of problems that were reported. -/
  errorCount : Nat
  /-- The number of types that were asked for marked fields. -/
  inspectedTypes : Nat
deriving DecidableEq

namespace Report

/-- Whether a problem was reported. -/
def hasErrors (r : Report) : Bool :=
  r.errorCount > 0

end Report

namespace Group

/-- What a report says of the artifact of a group. -/
def summary (config : Config) (g : Group) : Summary where
  name := g.info.artifact
  origin := g.info.name
  variant := Variant.of g.info
  parent := (Variant.of g.info).parent config g.info
  fields := g.emitted.map (·.name)
  skippedFields := g.skipped.map (·.name)

variable {m : Type → Type} [Monad m] {Sink : Type}

/-- Publish the artifact of a group. The source is complete before a sink is opened. -/
def emit (p : Publisher m Sink) (config : Config) (g : Group) : m (Except Error Variant) :=
  match (Variant.of g.info).render config g with
  | .error e => return .error e
  | .ok source => do
    match ← p.create g.info.artifact g.info.name with
    | .error e => return .error e
    | .ok sink =>
      match ← p.write sink (Utf8.encode source) with
      | none =>
        p.discard sink
        return .error (.writeRefused g.info.artifact)
      | some sink =>
        match ← p.commit sink with
        | .error e => return .error e
        | .ok () => return .ok (Variant.of g.info)

/-- Publish the artifacts of groups, up to the first that cannot be published. -/
def emitAll (p : Publisher m Sink) (config : Config) : List Group → m (Except Error (List Summary))
  | [] => return .ok []
  | g :: gs => do
    match ← g.emit p config with
    | .error e => return .error e
    | .ok _ =>
      match ← emitAll p config gs with
      | .error e => return .error e
      | .ok summaries => return .ok (g.summary config :: summaries)

end Group

/-- How a round went: the report or the reason why it stopped, the problems with fields, and the
questions that were asked of the model. -/
structure Round where
  result : Except Error Report
  diagnostics : List Diagnostic
  queries : List Query

namespace Round

variable {m : Type → Type} [Monad m] {Sink : Type}

/-- One round over a program, with a memo of its own. -/
def run (p : Publisher m Sink) (model : TypeModel) (config : Config) : m Round := do
  let found := Collection.ofModel model config {}
  let emitted ← Group.emitAll p config (Group.ofFields found.answer.fields)
  return {
    result := emitted.map fun artifacts =>
      { artifacts
        errorCount := found.answer.diagnostics.length
        inspectedTypes := found.answer.memo.inspected }
    diagnostics := found.answer.diagnostics
    queries := found.queries }

end Round

end Companion
