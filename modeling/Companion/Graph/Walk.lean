import Companion.Graph.Unseen

/-!
# Walks along single links

Links lead from each of finitely many places to at most one other. A walk follows them from a place
until it stands where no link leads on, or where a link leads back to a place it has been to.
-/

namespace Companion.Graph

/-- Links from finitely many places. -/
structure Links (α : Type) where
  next : α → Option α
  sources : List α
  mem_sources : ∀ a, (next a).isSome → a ∈ sources

namespace Links

variable {α : Type} [DecidableEq α]

/-- The places from `a` on that have not been seen, and the first that is met again. -/
def walk (l : Links α) (seen : List α) (a : α) : List α × Option α :=
  if _ha : a ∈ seen then ([], some a)
  else
    match _h : l.next a with
    | none => ([a], none)
    | some b =>
      let (path, repeated) := walk l (a :: seen) b
      (a :: path, repeated)
termination_by unseen l.sources seen
decreasing_by exact unseen_cons_lt (l.mem_sources a (by simp [_h])) _ha

/-- What `f` gives for the first place of the walk from `a` for which it gives anything; the walk
goes no further. -/
def findFrom {β : Type} (l : Links α) (f : α → Option β) (seen : List α) (a : α) : Option β :=
  if _ha : a ∈ seen then none
  else
    match f a with
    | some b => some b
    | none =>
      match _h : l.next a with
      | none => none
      | some b => findFrom l f (a :: seen) b
termination_by unseen l.sources seen
decreasing_by exact unseen_cons_lt (l.mem_sources a (by simp [_h])) _ha

theorem findFrom_eq_findSome? {β : Type} (l : Links α) (f : α → Option β) (seen : List α) (a : α) :
    l.findFrom f seen a = (l.walk seen a).1.findSome? f := by
  fun_induction l.findFrom f seen a with
  | case1 seen a ha => rw [walk]; simp [ha]
  | case2 seen a ha b hb => rw [walk]; simp [ha]; split <;> simp [hb]
  | case3 seen a ha hf hn => rw [walk]; simp [ha]; split <;> simp_all
  | case4 seen a ha hf b hn ih => rw [walk]; simp [ha]; split <;> simp_all

/-- The places that a walk from `a` comes to, each once. -/
def path (l : Links α) (a : α) : List α :=
  (l.walk [] a).1

/-- The place that a walk from `a` comes to twice. -/
def repeated? (l : Links α) (a : α) : Option α :=
  (l.walk [] a).2

end Links

end Companion.Graph
