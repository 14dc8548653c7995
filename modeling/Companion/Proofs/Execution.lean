import Companion.Proofs.Source

/-!
# Running generated methods

The helper, the container and the parent state belong to a runtime of which only a few laws are
known: what is put under a key is got under it, and a wrapped parent state is there to be unwrapped.
Statements act on the variables of a method. A method runs on a line of artifacts, where each one's
parent is the rest of the line and a base, which moves no field, is at the end.
-/

namespace Companion

/-- What generated methods are run with. -/
structure Runtime where
  Value : Type
  Container : Type
  /-- The parent state that renderable methods hand around. -/
  State : Type
  /-- Put a value under a key, by the operation that ends in a suffix. -/
  put : (key suffix : Text) → Value → Container → Container
  /-- Get a value from under a key, by the operation that ends in a suffix. -/
  get : (key suffix : Text) → Container → Value
  /-- The new container into which the helper with a key prefix puts the state of the parent. -/
  wrap : (keyPrefix : Text) → State → Container
  /-- The state of the parent that the helper with a key prefix gets from a container. -/
  unwrap : (keyPrefix : Text) → Container → State
  /-- A container is a parent state. -/
  up : Container → State
  /-- The container that a parent state is, if it is one. -/
  down : State → Option Container
  /-- What the methods of the renderable base give back. -/
  base : State → State

/-- What is relied on. Nothing is said of a value that is got by another operation than it was put
by. -/
structure Runtime.Lawful (R : Runtime) : Prop where
  get_put_self : ∀ key suffix v c, R.get key suffix (R.put key suffix v c) = v
  get_put_of_ne : ∀ key key' suffix suffix' v c, key ≠ key' →
    R.get key suffix (R.put key' suffix' v c) = R.get key suffix c
  unwrap_wrap : ∀ keyPrefix s, R.unwrap keyPrefix (R.wrap keyPrefix s) = s
  unwrap_put : ∀ keyPrefix key suffix v c,
    R.unwrap keyPrefix (R.put key suffix v c) = R.unwrap keyPrefix c
  down_up : ∀ c, R.down (R.up c) = some c

/-- A field of an object: the type that declares it, and its name. -/
abbrev Place :=
  QName × Text

/-- The values of all fields of an object. -/
abbrev Runtime.Object (R : Runtime) :=
  Place → R.Value

/-- The variables of a method, and the fields that were moved so far. -/
structure Frame (R : Runtime) where
  target : R.Object
  moved : List Place := []
  /-- The parameter of a renderable method. -/
  given : Option R.State := none
  state : Option R.Container := none
  parent : Option R.State := none
  /-- What a renderable method gives back. -/
  result : Option R.State := none

namespace Group

/-- The key of a field of the artifact's type. -/
def key (g : Group) (t : Transfer) : Text :=
  g.keyPrefix ++ t.field

/-- The field that a statement of the artifact moves. -/
def place (g : Group) (t : Transfer) : Place :=
  (g.info.name, t.field)

/-- The fields that are saved and restored, in their order. -/
def places (g : Group) : List Place :=
  g.emitted.map fun f => (g.info.name, f.name)

/-- The keys that the artifact uses. -/
def keys (g : Group) : List Text :=
  g.transfers.map g.key

lemma map_field_transfers (g : Group) :
    g.transfers.map (·.field) = g.emitted.map (·.name) := by
  have valid : ∀ f ∈ g.emitted, f.isValid = true := fun f hf => (List.mem_filter.mp hf).2
  rw [transfers]
  generalize g.emitted = fs at valid ⊢
  induction fs with
  | nil => rfl
  | cons f fs ih =>
    obtain ⟨s, hs⟩ := Option.isSome_iff_exists.mp (valid f List.mem_cons_self)
    rw [List.filterMap_cons_some (by rw [hs]; rfl), List.map_cons, List.map_cons,
      ih fun f hf => valid f (List.mem_cons_of_mem _ hf)]

/-- The statements move all fields that are saved and restored. -/
lemma map_place_transfers (g : Group) : g.transfers.map g.place = g.places := by
  have h := congrArg (List.map fun name => ((g.info.name, name) : Place)) g.map_field_transfers
  rw [List.map_map, List.map_map] at h
  exact h

end Group

namespace Runtime

variable (R : Runtime)

/-- Run statements of an artifact's method, with a way of calling the methods of the parent. A
cast leaves a value as it is. -/
def exec (g : Group) (call : Method → Frame R → Option (Frame R)) :
    List Statement → Frame R → Option (Frame R)
  | [], x => some x
  | .returnIfNull :: rest, x => if x.state.isNone then some x else exec g call rest x
  | .castState :: rest, x => do
    let s ← x.given
    let c ← R.down s
    exec g call rest { x with state := some c }
  | .getParent :: rest, x => do
    let c ← x.state
    exec g call rest { x with parent := some (R.unwrap g.keyPrefix c) }
  | .put t :: rest, x => do
    let c ← x.state
    exec g call rest
      { x with
        state := some (R.put (g.key t) t.suffix (x.target (g.place t)) c)
        moved := x.moved ++ [g.place t] }
  | .get t :: rest, x => do
    let c ← x.state
    exec g call rest
      { x with
        target := fun a => if a = g.place t then R.get (g.key t) t.suffix c else x.target a
        moved := x.moved ++ [g.place t] }
  | .superSave :: rest, x => do
    let y ← call .save { target := x.target, moved := x.moved, state := x.state }
    exec g call rest { x with target := y.target, moved := y.moved, state := y.state }
  | .superRestore :: rest, x => do
    let y ← call .restore { target := x.target, moved := x.moved, state := x.state }
    exec g call rest { x with target := y.target, moved := y.moved, state := y.state }
  | .wrapSuperSave :: rest, x => do
    let y ← call .save { target := x.target, moved := x.moved, given := x.given }
    let s ← y.result
    exec g call rest
      { x with target := y.target, moved := y.moved, state := some (R.wrap g.keyPrefix s) }
  | .returnSuperRestore :: _, x => do
    let s ← x.parent
    let y ← call .restore { target := x.target, moved := x.moved, given := some s }
    some { x with target := y.target, moved := y.moved, result := y.result }
  | .returnState :: _, x => do
    let c ← x.state
    some { x with result := some (R.up c) }

section Steps

variable {R} {g : Group} {call : Method → Frame R → Option (Frame R)} {rest : List Statement}
  {x y : Frame R} {c : R.Container} {s : R.State}

attribute [local simp] exec

lemma exec_returnIfNull (hc : x.state = some c) :
    R.exec g call (.returnIfNull :: rest) x = R.exec g call rest x := by
  simp [hc]

lemma exec_castState (hs : x.given = some s) (hc : R.down s = some c) :
    R.exec g call (.castState :: rest) x = R.exec g call rest { x with state := some c } := by
  simp [hs, hc]

lemma exec_getParent (hc : x.state = some c) :
    R.exec g call (.getParent :: rest) x =
      R.exec g call rest { x with parent := some (R.unwrap g.keyPrefix c) } := by
  simp [hc]

lemma exec_put (hc : x.state = some c) (t : Transfer) :
    R.exec g call (.put t :: rest) x =
      R.exec g call rest
        { x with
          state := some (R.put (g.key t) t.suffix (x.target (g.place t)) c)
          moved := x.moved ++ [g.place t] } := by
  simp [hc]

lemma exec_get (hc : x.state = some c) (t : Transfer) :
    R.exec g call (.get t :: rest) x =
      R.exec g call rest
        { x with
          target := fun a => if a = g.place t then R.get (g.key t) t.suffix c else x.target a
          moved := x.moved ++ [g.place t] } := by
  simp [hc]

lemma exec_superSave
    (hy : call .save { target := x.target, moved := x.moved, state := x.state } = some y) :
    R.exec g call (.superSave :: rest) x =
      R.exec g call rest
        { x with target := y.target, moved := y.moved, state := y.state } := by
  simp [hy]

lemma exec_superRestore
    (hy : call .restore { target := x.target, moved := x.moved, state := x.state } = some y) :
    R.exec g call (.superRestore :: rest) x =
      R.exec g call rest
        { x with target := y.target, moved := y.moved, state := y.state } := by
  simp [hy]

lemma exec_wrapSuperSave
    (hy : call .save { target := x.target, moved := x.moved, given := x.given } = some y)
    (hs : y.result = some s) :
    R.exec g call (.wrapSuperSave :: rest) x =
      R.exec g call rest
        { x with
          target := y.target
          moved := y.moved
          state := some (R.wrap g.keyPrefix s) } := by
  simp [hy, hs]

lemma exec_returnSuperRestore (hs : x.parent = some s)
    (hy : call .restore { target := x.target, moved := x.moved, given := some s } = some y) :
    R.exec g call (.returnSuperRestore :: rest) x =
      some { x with target := y.target, moved := y.moved, result := y.result } := by
  simp [hs, hy]

lemma exec_returnState (hc : x.state = some c) :
    R.exec g call (.returnState :: rest) x = some { x with result := some (R.up c) } := by
  simp [hc]

end Steps

/-- Run a method of the first artifact of a line. A line goes from an artifact to its parent, and
so on to the base of a variant, which moves no field. -/
def run (v : Variant) : List Group → Method → Frame R → Option (Frame R)
  | [], _, x =>
    match v with
    | .plain => some x
    | .renderable => some { x with result := x.given.map R.base }
  | g :: line, method, x =>
    if Variant.of g.info = v then R.exec g (run v line) (g.body method) x else none

variable {R} in
lemma run_cons {v : Variant} {g : Group} (hg : Variant.of g.info = v) (line : List Group)
    (method : Method) (x : Frame R) :
    R.run v (g :: line) method x = R.exec g (R.run v line) (g.body method) x := by
  rw [run, if_pos hg]

/-- What a method of a variant is called with. -/
def Argument : Variant → Type
  | .plain => R.Container
  | .renderable => R.State

/-- The variables when a method is called. -/
def enter (target : R.Object) : (v : Variant) → R.Argument v → Frame R
  | .plain, c => { target, state := some c }
  | .renderable, s => { target, given := some s }

/-- What a save leaves to be restored from: the container that it was called with, or the state that
it gives back. -/
def outcome : (v : Variant) → Frame R → Option (R.Argument v)
  | .plain, x => x.state
  | .renderable, x => x.result

end Runtime

end Companion
