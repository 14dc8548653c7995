import Companion.Publisher.Basic

/-!
# Publishing into memory

A store keeps the text of each artifact under its name, ordered by name. An artifact is published
once: no sink is opened for a name that the store has. Bytes that are not text are refused when
their sink is committed.
-/

namespace Companion

/-- The sources published so far, ordered by name. -/
structure Store where
  sources : List (QName × Text) := []
deriving DecidableEq

namespace Store

/-- The source of an artifact. -/
def source? (s : Store) (n : QName) : Option Text :=
  s.sources.lookup n

/-- Put a source into sources that are ordered by name, instead of one of the same name. -/
def insertInto (n : QName) (source : Text) : List (QName × Text) → List (QName × Text)
  | [] => [(n, source)]
  | entry :: entries =>
    if n = entry.1 then (n, source) :: entries
    else if n.text < entry.1.text then (n, source) :: entry :: entries
    else entry :: insertInto n source entries

/-- The store with the source of an artifact. -/
def insert (s : Store) (n : QName) (source : Text) : Store :=
  ⟨insertInto n source s.sources⟩

/-- An artifact on its way into a store. -/
structure Sink where
  artifact : QName
  content : Bytes
deriving DecidableEq

/-- Open a sink for a name that the store does not have. -/
def openSink (s : Store) (artifact : QName) : Except Error Sink :=
  if (s.source? artifact).isSome then .error (.alreadyEmitted artifact) else .ok ⟨artifact, []⟩

/-- The store with the text that was written to a sink. -/
def commit (s : Store) (sink : Sink) : Except Error Store :=
  match Utf8.decode sink.content with
  | .ok text => .ok (s.insert sink.artifact text)
  | .error fault => .error (.notUtf8 sink.artifact fault)

/-- The publisher into a store. -/
def publisher : Publisher (StateM Store) Sink where
  create artifact _ := fun s => (s.openSink artifact, s)
  write sink content := fun s => (some { sink with content := sink.content ++ content }, s)
  commit sink := fun s =>
    match s.commit sink with
    | .ok s' => (.ok (), s')
    | .error e => (.error e, s)
  discard _ := fun s => ((), s)

end Store

end Companion
