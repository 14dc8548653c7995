/-!
# Tries

A trie keeps values under lists: each edge has a label, and a value lies where the labels of its key
lead. A look-up takes as many steps as its key is long, however many keys there are. The main
statement is that a trie made from a list finds what the list has first.
-/

namespace Companion

/-- Values under lists of labels. -/
inductive Trie (κ β : Type) where
  | node (value : Option β) (edges : List (κ × Trie κ β))

namespace Trie

variable {κ β : Type}

/-- The trie without values. -/
def empty : Trie κ β :=
  .node none []

/-- The value under the empty key. -/
def value? : Trie κ β → Option β
  | .node value _ => value

/-- The edges from the root. -/
def edges : Trie κ β → List (κ × Trie κ β)
  | .node _ edges => edges

mutual

/-- The values with their keys, each key after those of `above`. -/
def entriesBelow (above : List κ) : Trie κ β → List (List κ × β)
  | .node value edges => (value.map (above, ·)).toList ++ entriesAlong above edges

/-- The values behind edges with their keys, each key after those of `above`. -/
def entriesAlong (above : List κ) : List (κ × Trie κ β) → List (List κ × β)
  | [] => []
  | (k, t) :: edges => entriesBelow (above ++ [k]) t ++ entriesAlong above edges

end

/-- The values with their keys. -/
def toList (t : Trie κ β) : List (List κ × β) :=
  t.entriesBelow []

variable [DecidableEq κ]

/-- The trie behind the edge with a label. -/
def child (t : Trie κ β) (k : κ) : Trie κ β :=
  (t.edges.lookup k).getD empty

/-- The trie with another one behind the edge with a label. -/
def setChild (t : Trie κ β) (k : κ) (u : Trie κ β) : Trie κ β :=
  .node t.value? ((k, u) :: t.edges.filter fun edge => edge.1 ≠ k)

/-- The value under a key. -/
def find? : Trie κ β → List κ → Option β
  | t, [] => t.value?
  | t, k :: ks =>
    match t.edges.lookup k with
    | some u => u.find? ks
    | none => none

/-- The trie with a value under a key, instead of the one that was there. -/
def insert (t : Trie κ β) : List κ → β → Trie κ β
  | [], b => .node (some b) t.edges
  | k :: ks, b => t.setChild k ((t.child k).insert ks b)

/-- The trie of keys with values. The first value of a key counts. -/
def ofList (entries : List (List κ × β)) : Trie κ β :=
  entries.foldr (fun entry t => t.insert entry.1 entry.2) empty

@[simp] theorem find?_nil (t : Trie κ β) : t.find? [] = t.value? := by
  rw [find?]

@[simp] theorem find?_empty (key : List κ) : (empty : Trie κ β).find? key = none := by
  cases key <;> simp [find?, empty, value?, edges]

theorem find?_cons (t : Trie κ β) (k : κ) (ks : List κ) :
    t.find? (k :: ks) = (t.child k).find? ks := by
  rw [find?, child]
  cases t.edges.lookup k <;> simp

theorem lookup_filter_ne (edges : List (κ × Trie κ β)) {k l : κ} (h : l ≠ k) :
    (edges.filter fun edge => edge.1 ≠ k).lookup l = edges.lookup l := by
  induction edges with
  | nil => rfl
  | cons edge edges ih =>
    obtain ⟨j, u⟩ := edge
    by_cases hj : j = k
    · subst hj
      have hl : (l == j) = false := by simpa using h
      simpa [List.lookup_cons, hl] using ih
    · rw [List.filter_cons_of_pos (by simpa using hj), List.lookup_cons, List.lookup_cons, ih]

theorem child_setChild (t : Trie κ β) (k l : κ) (u : Trie κ β) :
    (t.setChild k u).child l = if l = k then u else t.child l := by
  by_cases h : l = k
  · simp [child, setChild, edges, h]
  · have hb : (l == k) = false := by simpa using h
    have hl := lookup_filter_ne t.edges h
    simp only [child, setChild, edges, List.lookup_cons, hb, h, if_false]
    exact congrArg (·.getD empty) hl

/-- After an insertion the key has the new value, and every other key what it had. -/
theorem find?_insert (t : Trie κ β) (key other : List κ) (b : β) :
    (t.insert key b).find? other = if other = key then some b else t.find? other := by
  induction key generalizing t other with
  | nil =>
    cases other with
    | nil => simp [insert, value?]
    | cons k ks => simp [insert, find?_cons, child, edges]
  | cons k ks ih =>
    cases other with
    | nil => simp [insert, setChild, value?]
    | cons l ls =>
      rw [insert, find?_cons, child_setChild, find?_cons]
      by_cases h : l = k
      · simp [h, ih]
      · simp [h]

/-- A trie made from a list finds what the list has first. -/
theorem find?_ofList (entries : List (List κ × β)) (key : List κ) :
    (ofList entries).find? key = entries.lookup key := by
  induction entries with
  | nil => simp [ofList]
  | cons entry entries ih =>
    obtain ⟨k, b⟩ := entry
    have hi : (ofList ((k, b) :: entries)).find? key =
        if key = k then some b else (ofList entries).find? key := find?_insert _ k key b
    rw [hi, ih, List.lookup_cons]
    by_cases h : key = k
    · simp [h]
    · have hk : (key == k) = false := by simpa using h
      simp [h, hk]

end Trie

end Companion
