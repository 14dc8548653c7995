import Companion.Publisher.Basic

/-!
# Sessions

A session takes one sink from its opening to its end: it is written to piece by piece, and then
committed or given up. A sink that cannot be written to is given up at once. Sessions with the same
publisher follow one another, since a sink is done with before the next one is opened.
-/

namespace Companion.Publisher

/-- How a session ends that gets so far. -/
inductive Ending where
  | commit
  | discard
deriving DecidableEq

/-- What is to be done with one sink. -/
structure Session where
  artifact : QName
  origin : QName
  chunks : List Bytes
  ending : Ending
deriving DecidableEq

/-- What became of a session. -/
inductive Outcome where
  /-- No sink was opened. -/
  | refused (e : Error)
  /-- The sink could not be written to, and was given up. -/
  | unwritten
  /-- What was written could not be published. -/
  | uncommitted (e : Error)
  | committed
  | discarded
deriving DecidableEq

variable {m : Type → Type} [Monad m] {Sink : Type}

/-- Write pieces to a sink, one after the other. -/
def writeAll (p : Publisher m Sink) (sink : Sink) : List Bytes → m (Option Sink)
  | [] => return some sink
  | chunk :: chunks => do
    match ← p.write sink chunk with
    | some sink' => p.writeAll sink' chunks
    | none =>
      p.discard sink
      return none

/-- Open a sink and write pieces to it, or say why the session is over. -/
def openWith (p : Publisher m Sink) (artifact origin : QName) (chunks : List Bytes) :
    m (Except Outcome Sink) := do
  match ← p.create artifact origin with
  | .error e => return .error (.refused e)
  | .ok sink =>
    match ← p.writeAll sink chunks with
    | some sink' => return .ok sink'
    | none => return .error .unwritten

/-- Bring a session with an open sink to its end. -/
def close (p : Publisher m Sink) (sink : Sink) : Ending → m Outcome
  | .commit => do
    match ← p.commit sink with
    | .ok () => return .committed
    | .error e => return .uncommitted e
  | .discard => do
    p.discard sink
    return .discarded

/-- One session from its beginning to its end. -/
def session (p : Publisher m Sink) (s : Session) : m Outcome := do
  match ← p.openWith s.artifact s.origin s.chunks with
  | .error outcome => return outcome
  | .ok sink => p.close sink s.ending

/-- Sessions one after the other. -/
def sessions (p : Publisher m Sink) : List Session → m (List Outcome)
  | [] => return []
  | s :: rest => do
    let outcome ← p.session s
    let outcomes ← p.sessions rest
    return outcome :: outcomes

end Companion.Publisher
