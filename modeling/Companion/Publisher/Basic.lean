import Companion.Error

/-!
# Publishers

A publisher opens one sink for each artifact. What is written to a sink is seen by nobody until the
sink is committed; a sink that is discarded leaves nothing behind.
-/

namespace Companion

/-- A way of publishing artifacts. -/
structure Publisher (m : Type → Type) (Sink : Type) where
  /-- Open a sink for an artifact that belongs to a type. -/
  create : (artifact origin : QName) → m (Except Error Sink)
  /-- Write to the end of a sink; nothing comes back if that fails. -/
  write : Sink → Bytes → m (Option Sink)
  /-- Publish what was written. -/
  commit : Sink → m (Except Error Unit)
  /-- Give a sink up. -/
  discard : Sink → m Unit

end Companion
