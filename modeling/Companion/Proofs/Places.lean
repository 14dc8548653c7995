import Companion.FileTree.Basic
import Companion.Proofs.Path

/-!
# Places in a tree

Names lead from a place to others, and in the end to one. Directories can be made along the way if
no file stands on it, and then all that lies there is directories; nothing else changes. Where the
way is made of directories, it can be followed.
-/

namespace Companion.FileTree

/-- The content of the file at a place. -/
def file? (t : FileTree) (place : Location) : Option Bytes :=
  match t.node? place with
  | some (.file content) => some content
  | _ => none

/-- The place that names lead to, whatever lies on the way. -/
def placeFrom (place : Location) : List Text → Location
  | [] => place
  | name :: names =>
    if name = "." then placeFrom place names
    else if name = ".." then placeFrom place.dropLast names
    else placeFrom (place ++ [name]) names

/-- The places that names come to on their way down. -/
def way (place : Location) : List Text → List Location
  | [] => []
  | name :: names =>
    if name = "." then way place names
    else if name = ".." then way place.dropLast names
    else (place ++ [name]) :: way (place ++ [name]) names

/-- Whether a name is one of something: `.` stays and `..` goes up. -/
def IsPlain (name : Text) : Prop :=
  name ≠ "." ∧ name ≠ ".."

lemma placeFrom_dot (place : Location) (names : List Text) :
    placeFrom place (['.'] :: names) = placeFrom place names :=
  if_pos rfl

lemma placeFrom_dots (place : Location) (names : List Text) :
    placeFrom place (['.', '.'] :: names) = placeFrom place.dropLast names :=
  rfl

lemma placeFrom_cons {name : Text} (h : IsPlain name) (place : Location) (names : List Text) :
    placeFrom place (name :: names) = placeFrom (place ++ [name]) names := by
  rw [placeFrom, if_neg h.1, if_neg h.2]

lemma way_dot (place : Location) (names : List Text) :
    way place (['.'] :: names) = way place names :=
  if_pos rfl

lemma way_dots (place : Location) (names : List Text) :
    way place (['.', '.'] :: names) = way place.dropLast names :=
  rfl

lemma way_cons {name : Text} (h : IsPlain name) (place : Location) (names : List Text) :
    way place (name :: names) = (place ++ [name]) :: way (place ++ [name]) names := by
  rw [way, if_neg h.1, if_neg h.2]

/-- What holds at the end of names, and before a name if it holds after it, holds of all names. -/
lemma names_induction {P : Location → List Text → Prop} (nil : ∀ place, P place [])
    (dot : ∀ place names, P place names → P place (['.'] :: names))
    (dots : ∀ place names, P place.dropLast names → P place (['.', '.'] :: names))
    (cons : ∀ place name names, IsPlain name → P (place ++ [name]) names →
      P place (name :: names)) (place : Location) (names : List Text) : P place names := by
  induction names generalizing place with
  | nil => exact nil place
  | cons name names ih =>
    by_cases hdot : name = "."
    · subst hdot
      exact dot place names (ih place)
    by_cases hdots : name = ".."
    · subst hdots
      exact dots place names (ih place.dropLast)
    exact cons place name names ⟨hdot, hdots⟩ (ih (place ++ [name]))

lemma placeFrom_append (place : Location) (names names' : List Text) :
    placeFrom place (names ++ names') = placeFrom (placeFrom place names) names' := by
  induction place, names using names_induction with
  | nil place => rfl
  | dot place names ih => simpa only [List.cons_append, placeFrom_dot] using ih
  | dots place names ih => simpa only [List.cons_append, placeFrom_dots] using ih
  | cons place name names hname ih =>
    simpa only [List.cons_append, placeFrom_cons hname] using ih

lemma way_append (place : Location) (names names' : List Text) :
    way place (names ++ names') = way place names ++ way (placeFrom place names) names' := by
  induction place, names using names_induction with
  | nil place => rfl
  | dot place names ih => simpa only [List.cons_append, placeFrom_dot, way_dot] using ih
  | dots place names ih => simpa only [List.cons_append, placeFrom_dots, way_dots] using ih
  | cons place name names hname ih =>
    simp only [List.cons_append, placeFrom_cons hname, way_cons hname, ih]

/-- Names that stay lead nowhere. -/
lemma placeFrom_filter (place : Location) (names : List Text) :
    placeFrom place (names.filter fun name => name ≠ ['.']) = placeFrom place names := by
  induction place, names using names_induction with
  | nil place => rfl
  | dot place names ih => simpa [placeFrom_dot] using ih
  | dots place names ih => simpa [placeFrom_dots] using ih
  | cons place name names hname ih =>
    have hdot : name ≠ ['.'] := hname.1
    rw [List.filter_cons_of_pos (by simpa using hdot), placeFrom_cons hname, placeFrom_cons hname, ih]

lemma way_filter (place : Location) (names : List Text) :
    way place (names.filter fun name => name ≠ ['.']) = way place names := by
  induction place, names using names_induction with
  | nil place => rfl
  | dot place names ih => simpa [way_dot] using ih
  | dots place names ih => simpa [way_dots] using ih
  | cons place name names hname ih =>
    have hdot : name ≠ ['.'] := hname.1
    rw [List.filter_cons_of_pos (by simpa using hdot), way_cons hname, way_cons hname, ih]

/-- Names of something lead down. -/
lemma placeFrom_of_plain {names : List Text} (h : ∀ name ∈ names, IsPlain name)
    (place : Location) : placeFrom place names = place ++ names := by
  induction names generalizing place with
  | nil => exact (List.append_nil place).symm
  | cons name names ih =>
    rw [List.forall_mem_cons] at h
    rw [placeFrom_cons h.1, ih h.2, List.append_assoc]
    rfl

lemma mem_way_of_plain {names : List Text} (h : ∀ name ∈ names, IsPlain name)
    {place x : Location} (hx : x ∈ way place names) :
    ∃ rel, rel ≠ [] ∧ rel <+: names ∧ x = place ++ rel := by
  induction names generalizing place with
  | nil => cases hx
  | cons name names ih =>
    rw [List.forall_mem_cons] at h
    rw [way_cons h.1] at hx
    rcases List.mem_cons.mp hx with rfl | hx
    · exact ⟨[name], by simp, ⟨names, rfl⟩, rfl⟩
    · obtain ⟨rel, -, hrel, rfl⟩ := ih h.2 hx
      refine ⟨name :: rel, by simp, ?_, by simp⟩
      exact List.prefix_cons_inj name |>.mpr hrel

section Nodes

variable {t : FileTree} {place : Location}

lemma node?_of_prefix_home (h : place <+: t.home) : t.node? place = some .directory := by
  rw [node?, if_pos (List.isPrefixOf_iff_prefix.mpr h)]

/-- A node takes the place of anything but a directory. -/
lemma node?_put (h : t.node? place ≠ some .directory) (node : Node) (x : Location) :
    (t.put place node).node? x = if x = place then some node else t.node? x := by
  have hhome : place.isPrefixOf t.home = false := by
    cases hp : place.isPrefixOf t.home with
    | false => rfl
    | true => exact absurd (by rw [node?, if_pos hp]) h
  change (if x.isPrefixOf t.home then some Node.directory else
    (t.nodes.insert place node).find? x) = _
  rw [Trie.find?_insert]
  by_cases hx : x = place
  · subst hx
    simp [hhome]
  · rw [if_neg hx, if_neg hx, node?]

lemma file?_eq_some_iff {content : Bytes} :
    t.file? place = some content ↔ t.node? place = some (.file content) := by
  rw [file?]
  cases t.node? place with
  | none => simp
  | some node => cases node <;> simp

lemma file?_eq_none_iff :
    t.file? place = none ↔ t.node? place = none ∨ t.node? place = some .directory := by
  rw [file?]
  cases t.node? place with
  | none => simp
  | some node => cases node <;> simp

lemma file?_congr {t' : FileTree} (h : t'.node? place = t.node? place) :
    t'.file? place = t.file? place := by
  rw [file?, h, file?]

end Nodes

lemma file?_put_directory {t : FileTree} {place : Location} (h : t.node? place = none)
    (x : Location) : (t.put place .directory).file? x = t.file? x := by
  have hput := node?_put (t := t) (by rw [h]; simp) .directory x
  by_cases hx : x = place
  · subst hx
    rw [if_pos rfl] at hput
    rw [file?, hput, file?, h]
  · rw [if_neg hx] at hput
    exact file?_congr hput

/-- A file takes the place of anything but a directory. -/
lemma file?_put {t : FileTree} {place : Location} (h : t.node? place ≠ some .directory)
    (content : Bytes) (x : Location) :
    (t.put place (.file content)).file? x = if x = place then some content else t.file? x := by
  have hput := node?_put h (.file content) x
  by_cases hx : x = place
  · rw [if_pos hx] at hput ⊢
    exact file?_eq_some_iff.mpr hput
  · rw [if_neg hx] at hput ⊢
    exact file?_congr hput

/-- The second tree has this content in the file at a place, and otherwise the files of the first
one. -/
structure Filed (t t' : FileTree) (place : Location) (content : Bytes) : Prop where
  home : t'.home = t.home
  files : ∀ x, t'.file? x = if x = place then some content else t.file? x

/-- Whether directories can be made along the way. -/
structure IsOpen (t : FileTree) (place : Location) (names : List Text) : Prop where
  short : ∀ name ∈ names, isLongName name = false
  free : ∀ x ∈ way place names, t.file? x = none

/-- The second tree has directories at all of these places, and otherwise what the first one has. -/
structure Paved (t t' : FileTree) (places : List Location) : Prop where
  home : t'.home = t.home
  nodes : ∀ x, t'.node? x = if x ∈ places then some .directory else t.node? x

lemma Paved.nil (t : FileTree) : Paved t t [] where
  home := rfl
  nodes x := by simp

lemma Paved.cons {t t₁ t' : FileTree} {x : Location} {places : List Location}
    (home : t₁.home = t.home)
    (nodes : ∀ y, t₁.node? y = if y = x then some .directory else t.node? y)
    (h : Paved t₁ t' places) : Paved t t' (x :: places) where
  home := h.home.trans home
  nodes y := by
    rw [h.nodes, nodes]
    by_cases hy : y = x <;> simp [hy]

lemma isLongName_dot : isLongName ['.'] = false := by
  decide

lemma isLongName_dots : isLongName ['.', '.'] = false := by
  decide

section Making

variable {t : FileTree} {place : Location} {names : List Text}

lemma isOpen_dot : t.IsOpen place (['.'] :: names) ↔ t.IsOpen place names := by
  constructor
  · intro h
    exact ⟨(List.forall_mem_cons.mp h.short).2, way_dot place names ▸ h.free⟩
  · intro h
    exact ⟨List.forall_mem_cons.mpr ⟨isLongName_dot, h.short⟩, way_dot place names ▸ h.free⟩

lemma isOpen_dots : t.IsOpen place (['.', '.'] :: names) ↔ t.IsOpen place.dropLast names := by
  constructor
  · intro h
    exact ⟨(List.forall_mem_cons.mp h.short).2, way_dots place names ▸ h.free⟩
  · intro h
    exact ⟨List.forall_mem_cons.mpr ⟨isLongName_dots, h.short⟩, way_dots place names ▸ h.free⟩

lemma isOpen_cons {name : Text} (hname : IsPlain name) :
    t.IsOpen place (name :: names) ↔ isLongName name = false ∧
      t.file? (place ++ [name]) = none ∧ t.IsOpen (place ++ [name]) names := by
  constructor
  · rintro ⟨hshort, hfree⟩
    rw [way_cons hname, List.forall_mem_cons] at hfree
    rw [List.forall_mem_cons] at hshort
    exact ⟨hshort.1, hfree.1, hshort.2, hfree.2⟩
  · rintro ⟨hlong, hfile, hshort, hfree⟩
    refine ⟨List.forall_mem_cons.mpr ⟨hlong, hshort⟩, ?_⟩
    rw [way_cons hname]
    exact List.forall_mem_cons.mpr ⟨hfile, hfree⟩

lemma isOpen_congr {t' : FileTree} (h : ∀ x ∈ way place names, t'.file? x = t.file? x) :
    t'.IsOpen place names ↔ t.IsOpen place names := by
  constructor
  · intro hopen
    exact ⟨hopen.short, fun x hx => (h x hx).symm.trans (hopen.free x hx)⟩
  · intro hopen
    exact ⟨hopen.short, fun x hx => (h x hx).trans (hopen.free x hx)⟩

/-- Making directories succeeds if the way is open, and then paves it. -/
lemma makeDirectoriesFrom_of_isOpen (made : Bool) (h : t.IsOpen place names) :
    ∃ t', t.makeDirectoriesFrom place made names = (.ok (), t') ∧
      Paved t t' (way place names) := by
  induction place, names using names_induction generalizing t made with
  | nil place => exact ⟨t, rfl, .nil t⟩
  | dot place names ih =>
    rw [way_dot]
    exact ih made (isOpen_dot.mp h)
  | dots place names ih =>
    rw [way_dots]
    exact ih made (isOpen_dots.mp h)
  | cons place name names hname ih =>
    obtain ⟨hlong, hfile, hopen⟩ := (isOpen_cons hname).mp h
    rw [way_cons hname, makeDirectoriesFrom, if_neg hname.1, if_neg hname.2, if_neg (by simp [hlong])]
    rcases file?_eq_none_iff.mp hfile with hnode | hnode
    · -- a directory that is made is no file, so the rest of the way is as open as before
      have hopen' := (isOpen_congr fun x _ => file?_put_directory hnode x).mpr hopen
      obtain ⟨t', hmake, hpaved⟩ := ih true hopen'
      refine ⟨t', ?_, Paved.cons ?_ (node?_put (by rw [hnode]; simp) .directory) hpaved⟩
      · simp only [hnode, hmake]
      · rfl
    · obtain ⟨t', hmake, hpaved⟩ := ih made hopen
      refine ⟨t', ?_, Paved.cons rfl ?_ hpaved⟩
      · simp only [hnode, hmake]
      · intro y
        split
        next hy => rw [hy, hnode]
        next => rfl

/-- Where making directories succeeds, the way was open. -/
lemma isOpen_of_makeDirectoriesFrom {made : Bool}
    (h : (t.makeDirectoriesFrom place made names).1 = .ok ()) : t.IsOpen place names := by
  induction place, names using names_induction generalizing t made with
  | nil place => exact ⟨by simp, by simp [way]⟩
  | dot place names ih => exact isOpen_dot.mpr (ih h)
  | dots place names ih => exact isOpen_dots.mpr (ih h)
  | cons place name names hname ih =>
    rw [makeDirectoriesFrom, if_neg hname.1, if_neg hname.2] at h
    rw [isOpen_cons hname]
    split at h
    · cases h
    next hlong =>
      split at h
      next hnode =>
        refine ⟨by simpa using hlong, file?_eq_none_iff.mpr (.inl hnode), ?_⟩
        exact (isOpen_congr fun x _ => file?_put_directory hnode x).mp (ih h)
      next hnode => exact ⟨by simpa using hlong, file?_eq_none_iff.mpr (.inr hnode), ih h⟩
      next => cases h

/-- Names that stay take no directory. -/
lemma isOpen_filter :
    t.IsOpen place (names.filter fun name => name ≠ ['.']) ↔ t.IsOpen place names := by
  constructor
  · rintro ⟨hshort, hfree⟩
    refine ⟨?_, way_filter place names ▸ hfree⟩
    intro name hname
    by_cases hdot : name = ['.']
    · rw [hdot]
      exact isLongName_dot
    · exact hshort name (List.mem_filter.mpr ⟨hname, by simpa using hdot⟩)
  · rintro ⟨hshort, hfree⟩
    refine ⟨?_, (way_filter place names).symm ▸ hfree⟩
    intro name hname
    exact hshort name (List.mem_filter.mp hname).1

lemma Paved.file?_eq {t' : FileTree} {places : List Location} (h : Paved t t' places)
    (hfree : ∀ x ∈ places, t.file? x = none) (x : Location) : t'.file? x = t.file? x := by
  have hnode := h.nodes x
  split at hnode
  next hx => rw [hfree x hx, file?, hnode]
  next => exact file?_congr hnode

end Making

section Looking

variable {t : FileTree} {place : Location} {names : List Text}

lemma node?_of_locateFrom {name : Text} {found : Location}
    (h : t.locateFrom place (name :: names) = .ok found) : t.node? place = some .directory := by
  rw [locateFrom] at h
  split at h
  · cases h
  · cases h
  next hnode => exact hnode

section Steps

variable (h : t.node? place = some .directory)
include h

lemma locateFrom_dot (names : List Text) :
    t.locateFrom place (['.'] :: names) = t.locateFrom place names := by
  rw [locateFrom, h]
  rfl

lemma locateFrom_dots (names : List Text) :
    t.locateFrom place (['.', '.'] :: names) = t.locateFrom place.dropLast names := by
  rw [locateFrom, h]
  rfl

lemma locateFrom_cons {name : Text} (hname : IsPlain name) (names : List Text) :
    t.locateFrom place (name :: names) =
      if isLongName name then .error .nameTooLong else t.locateFrom (place ++ [name]) names := by
  rw [locateFrom, h]
  dsimp only
  rw [if_neg hname.1, if_neg hname.2]

end Steps

/-- Looking names up leads to where they lead. -/
lemma placeFrom_of_locateFrom {found : Location} (h : t.locateFrom place names = .ok found) :
    placeFrom place names = found := by
  induction place, names using names_induction with
  | nil place => exact Except.ok.inj h
  | dot place names ih =>
    rw [locateFrom_dot (node?_of_locateFrom h)] at h
    exact placeFrom_dot place names ▸ ih h
  | dots place names ih =>
    rw [locateFrom_dots (node?_of_locateFrom h)] at h
    exact ih h
  | cons place name names hname ih =>
    rw [locateFrom_cons (node?_of_locateFrom h) hname] at h
    split at h
    · cases h
    · rw [placeFrom_cons hname]
      exact ih h

lemma locateFrom_append {found : Location} (h : t.locateFrom place names = .ok found)
    (more : List Text) : t.locateFrom place (names ++ more) = t.locateFrom found more := by
  induction place, names using names_induction with
  | nil place => rw [Except.ok.inj h, List.nil_append]
  | dot place names ih =>
    have hnode := node?_of_locateFrom h
    rw [locateFrom_dot hnode] at h
    rw [List.cons_append, locateFrom_dot hnode, ih h]
  | dots place names ih =>
    have hnode := node?_of_locateFrom h
    rw [locateFrom_dots hnode] at h
    rw [List.cons_append, locateFrom_dots hnode, ih h]
  | cons place name names hname ih =>
    have hnode := node?_of_locateFrom h
    rw [locateFrom_cons hnode hname] at h
    rw [List.cons_append, locateFrom_cons hnode hname]
    split at h
    · cases h
    next hlong =>
      rw [if_neg hlong]
      exact ih h

/-- Whether all places down to this one are directories. -/
def IsRooted (t : FileTree) (place : Location) : Prop :=
  ∀ x, x <+: place → t.node? x = some .directory

lemma isRooted_start (t : FileTree) (p : Path) : t.IsRooted (t.start p) := by
  intro x hx
  rw [start] at hx
  split at hx
  · rw [List.prefix_nil.mp hx]
    exact node?_of_prefix_home List.nil_prefix
  · exact node?_of_prefix_home hx

lemma IsRooted.dropLast (h : t.IsRooted place) : t.IsRooted place.dropLast :=
  fun x hx => h x (hx.trans (List.dropLast_prefix place))

lemma IsRooted.append {name : Text} (h : t.IsRooted place)
    (hnode : t.node? (place ++ [name]) = some .directory) : t.IsRooted (place ++ [name]) := by
  intro x hx
  rcases List.prefix_concat_iff.mp hx with rfl | hx
  · exact hnode
  · exact h x hx

/-- Names can be looked up along directories. -/
lemma locateFrom_of_isRooted (h : t.IsRooted place)
    (hshort : ∀ name ∈ names, isLongName name = false)
    (hway : ∀ x ∈ way place names, t.node? x = some .directory) :
    t.locateFrom place names = .ok (placeFrom place names) ∧
      t.IsRooted (placeFrom place names) := by
  induction place, names using names_induction with
  | nil place => exact ⟨rfl, h⟩
  | dot place names ih =>
    rw [way_dot] at hway
    rw [placeFrom_dot, locateFrom_dot (h place List.prefix_rfl)]
    exact ih h (List.forall_mem_cons.mp hshort).2 hway
  | dots place names ih =>
    rw [way_dots] at hway
    rw [placeFrom_dots, locateFrom_dots (h place List.prefix_rfl)]
    exact ih h.dropLast (List.forall_mem_cons.mp hshort).2 hway
  | cons place name names hname ih =>
    rw [List.forall_mem_cons] at hshort
    rw [way_cons hname, List.forall_mem_cons] at hway
    rw [placeFrom_cons hname, locateFrom_cons (h place List.prefix_rfl) hname,
      if_neg (by simp [hshort.1])]
    exact ih (h.append hway.1) hshort.2 hway.2

end Looking

/-- The place that a path leads to, whatever lies on the way. -/
def placeOf (t : FileTree) (p : Path) : Location :=
  placeFrom (t.start p) p.names

section Operations

variable {t t' : FileTree} {p : Path} {content : Bytes}

lemma placeOf_eq_steps (t : FileTree) (p : Path) :
    t.placeOf p = placeFrom (t.start p) p.steps := by
  rw [placeOf, ← Path.names_filter, placeFrom_filter]

lemma isLongPath_of_prefix {q : Path} (h : q.text <+: p.text) (hp : isLongPath p = false) :
    isLongPath q = false := by
  obtain ⟨more, hmore⟩ := h
  rw [isLongPath, decide_eq_false_iff_not] at hp ⊢
  rw [← hmore, Utf8.encode, List.flatMap_append, List.length_append] at hp
  rw [Utf8.encode]
  omega

lemma start_congr (h : t'.home = t.home) (p : Path) : t'.start p = t.start p := by
  rw [start, start, h]

lemma start_of_isAbsolute {q : Path} (h : q.isAbsolute = p.isAbsolute) (t : FileTree) :
    t.start q = t.start p := by
  rw [start, start, h]

lemma placeOf_congr (h : t'.home = t.home) (p : Path) : t'.placeOf p = t.placeOf p := by
  rw [placeOf, placeOf, start_congr h]

/-- Making the directory at a path succeeds if the way is open, and then paves it. -/
lemma makeDirectories_of_isOpen (hshort : isLongPath p = false)
    (h : t.IsOpen (t.start p) p.steps) :
    ∃ t', t.makeDirectories p = (.ok (), t') ∧ Paved t t' (way (t.start p) p.steps) := by
  rw [← Path.components_filter, isOpen_filter] at h
  rw [← Path.components_filter, way_filter, makeDirectories, if_neg (by simp [hshort])]
  exact makeDirectoriesFrom_of_isOpen false h

/-- Where making the directory at a path succeeds, the way was open. -/
lemma makeDirectories_ok (h : t.makeDirectories p = (.ok (), t')) :
    isLongPath p = false ∧ t.IsOpen (t.start p) p.steps ∧
      Paved t t' (way (t.start p) p.steps) := by
  have hshort : isLongPath p = false := by
    rw [makeDirectories] at h
    split at h
    · cases (Prod.mk.inj h).1
    next hlong => simpa using hlong
  have hopen : t.IsOpen (t.start p) p.steps := by
    rw [makeDirectories, if_neg (by simp [hshort])] at h
    rw [← Path.components_filter, isOpen_filter]
    exact isOpen_of_makeDirectoriesFrom (congrArg Prod.fst h)
  obtain ⟨t₁, hmake, hpaved⟩ := makeDirectories_of_isOpen hshort hopen
  rw [hmake] at h
  obtain ⟨-, rfl⟩ := Prod.mk.inj h
  exact ⟨hshort, hopen, hpaved⟩

lemma follow_eq_ok_iff {names : List Text} {place : Location} :
    t.follow p names = .ok place ↔
      p.text ≠ [] ∧ isLongPath p = false ∧ t.locateFrom (t.start p) names = .ok place := by
  rw [follow]
  split
  next hnil => simp [hnil]
  next hnil =>
    split
    next hlong => simp [hlong]
    next hlong => simp [hnil, hlong]

/-- A path can be written to if it leads to anything but a directory. -/
lemma write_eq_ok_iff :
    t.write p content = .ok t' ↔ p.endsInSlash = false ∧ ∃ place,
      t.follow p p.names = .ok place ∧ t.node? place ≠ some .directory ∧
        t' = t.put place (.file content) := by
  rw [write]
  split
  next hend =>
    refine iff_of_false ?_ (by simp [hend])
    split <;> exact fun h => nomatch h
  next hend =>
    rw [and_iff_right (by simpa using hend)]
    cases hfollow : t.follow p p.names with
    | error fault => simp
    | ok place =>
      dsimp only
      split
      next hnode => simp [hnode]
      next hnode =>
        constructor
        · intro h
          exact ⟨place, rfl, hnode, (Except.ok.inj h).symm⟩
        · rintro ⟨_, hplace, -, rfl⟩
          rw [Except.ok.inj hplace]

lemma write_ok (h : t.write p content = .ok t') :
    t.node? (t.placeOf p) ≠ some .directory ∧ t' = t.put (t.placeOf p) (.file content) := by
  obtain ⟨-, place, hfollow, hnode, rfl⟩ := write_eq_ok_iff.mp h
  have hplace : t.placeOf p = place :=
    placeFrom_of_locateFrom (follow_eq_ok_iff.mp hfollow).2.2
  rw [hplace]
  exact ⟨hnode, rfl⟩

/-- Where directories were made along the way, it can be followed. -/
lemma locateFrom_of_paved {names : List Text} (hopen : t.IsOpen (t.start p) p.steps)
    (hpaved : Paved t t' (way (t.start p) p.steps))
    (hnames : (names.filter fun name => name ≠ ['.']) = p.steps) :
    t'.locateFrom (t'.start p) names = .ok (t.placeOf p) ∧
      t'.node? (t.placeOf p) = some .directory := by
  rw [← hnames, isOpen_filter] at hopen
  have hway : ∀ x ∈ way (t.start p) names, t'.node? x = some .directory := by
    intro x hx
    rw [hpaved.nodes, ← hnames, way_filter, if_pos hx]
  have hrooted := isRooted_start t' p
  rw [start_congr hpaved.home] at hrooted ⊢
  obtain ⟨hlocate, hfound⟩ := locateFrom_of_isRooted hrooted hopen.short hway
  have hplace : placeFrom (t.start p) names = t.placeOf p := by
    rw [placeOf_eq_steps, ← hnames, placeFrom_filter]
  rw [hplace] at hlocate hfound
  exact ⟨hlocate, hfound _ List.prefix_rfl⟩

/-- A draft can be opened in a directory that is found. -/
lemma openDraft_eq_ok_iff {d : Draft} :
    t.openDraft p = .ok (d, t') ↔ ∃ place, t.locate p = .ok place ∧
      t.node? place = some .directory ∧ d = ⟨place, []⟩ ∧
        t' = { t with drafts := place :: t.drafts } := by
  rw [openDraft]
  cases t.locate p with
  | error fault => simp
  | ok place =>
    cases hnode : t.node? place with
    | none => simp [hnode]
    | some node =>
      cases node with
      | file content => simp [hnode]
      | directory => simp [hnode, eq_comm]

lemma openDraft_of_locateFrom {place : Location} (hne : p.text ≠ []) (hpath : isLongPath p = false)
    (hlocate : t.locateFrom (t.start p) p.components = .ok place)
    (hdirectory : t.node? place = some .directory) :
    t.openDraft p = .ok (⟨place, []⟩, { t with drafts := place :: t.drafts }) :=
  openDraft_eq_ok_iff.mpr
    ⟨place, follow_eq_ok_iff.mpr ⟨hne, hpath, hlocate⟩, hdirectory, rfl, rfl⟩

/-- A file can be written into a directory that is found, if no directory has its name. -/
lemma write_of_locateFrom {names : List Text} {last : Text} {place : Location}
    (hend : p.endsInSlash = false) (hne : p.text ≠ []) (hpath : isLongPath p = false)
    (hnames : p.names = names ++ [last]) (hplain : IsPlain last)
    (hname : isLongName last = false) (hlocate : t.locateFrom (t.start p) names = .ok place)
    (hdirectory : t.node? place = some .directory)
    (hnode : t.node? (place ++ [last]) ≠ some .directory) (content : Bytes) :
    t.write p content = .ok (t.put (place ++ [last]) (.file content)) := by
  have hfollow : t.follow p p.names = .ok (place ++ [last]) := by
    refine follow_eq_ok_iff.mpr ⟨hne, hpath, ?_⟩
    rw [hnames, locateFrom_append hlocate, locateFrom_cons hdirectory hplain,
      if_neg (by simp [hname])]
    rfl
  exact write_eq_ok_iff.mpr ⟨hend, _, hfollow, hnode, rfl⟩

lemma filed_of_write (h : t.write p content = .ok t') : Filed t t' (t.placeOf p) content := by
  obtain ⟨hnode, rfl⟩ := write_ok h
  exact ⟨rfl, file?_put hnode content⟩

/-- Reading leaves the tree as it is. -/
lemma read_run (p : Path) (t : FileTree) :
    (system.read p).run t = (if p.hasNul then .error .nulInPath else t.read p, t) := by
  rw [system, FileSystem.guarded]
  cases hnul : p.hasNul <;> simp [hnul] <;> rfl

lemma filed_of_write_run (h : (system.write p content).run t = (.ok (), t')) :
    Filed t t' (t.placeOf p) content := by
  rw [system, FileSystem.guarded] at h
  dsimp only at h
  split at h
  · cases (Prod.mk.inj h).1
  · rw [operations] at h
    dsimp only [StateT.run] at h
    split at h
    next t₁ hwrite =>
      obtain ⟨-, rfl⟩ := Prod.mk.inj h
      exact filed_of_write hwrite
    next => cases (Prod.mk.inj h).1

end Operations

end Companion.FileTree
