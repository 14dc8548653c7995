import Companion.Publisher.Memory

/-!
# Publishers that fail

A publisher into a store that breaks down at some of the sinks it is asked for, in one of three
ways. Nothing that goes through a broken sink reaches the store.
-/

namespace Companion

/-- How a sink breaks down. -/
inductive Breakdown where
  | create
  | write
  | commit
deriving DecidableEq

/-- A store, and the number of sinks that were asked for. -/
structure FaultyStore where
  asked : Nat := 0
  store : Store := {}

namespace FaultyStore

/-- A sink that works, or one that breaks down. -/
inductive Sink where
  | sound (sink : Store.Sink)
  | broken (breakdown : Breakdown)

/-- The publisher whose sinks break down as planned for their numbers. -/
def publisher (plan : Nat → Option Breakdown) : Publisher (StateM FaultyStore) Sink where
  create artifact _ := fun s =>
    match plan s.asked with
    | none => ((s.store.openSink artifact).map .sound, { s with asked := s.asked + 1 })
    | some .create => (.error (.sinkRefused artifact), { s with asked := s.asked + 1 })
    | some breakdown => (.ok (.broken breakdown), { s with asked := s.asked + 1 })
  write sink content := fun s =>
    match sink with
    | .sound sink => (some (.sound { sink with content := sink.content ++ content }), s)
    | .broken .write => (none, s)
    | .broken breakdown => (some (.broken breakdown), s)
  commit sink := fun s =>
    match sink with
    | .sound sink =>
      match s.store.commit sink with
      | .ok store => (.ok (), { s with store })
      | .error e => (.error e, s)
    | .broken _ => (.error .sinkClosed, s)
  discard _ := fun s => ((), s)

end FaultyStore

end Companion
