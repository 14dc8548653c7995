import Companion.Catalog.Platform
import Companion.Error
import Companion.Graph.Search
import Companion.Identifier
import Companion.Trie
import Companion.TypeModel.Basic

/-!
# Catalogs

A catalog looks types up by their qualified names: the types of a manifest, and beneath them the
types of the platform, so a declared type hides a platform type of the same name. A manifest becomes
a catalog only if its names are identifiers, no type is declared twice, what types extend are
classes, the types around nested ones are there, and superclasses do not run in circles.
-/

namespace Companion

/-- The types that can be looked up. -/
structure Catalog where
  /-- The types of the program, in declaration order. -/
  declared : List TypeDecl
  /-- The types that lie beneath. -/
  platform : List TypeDecl
  /-- The names of all types, those that hide others first. -/
  names : List QName
  /-- The types under their names. -/
  index : Trie Char TypeDecl
  names_eq : names = (declared ++ platform).map (·.qualifiedName)
  index_eq : index = .ofList ((declared ++ platform).map fun d => (d.qualifiedName.text, d))

namespace Catalog

/-- The catalog of types over those that lie beneath. -/
def ofTypes (declared platform : List TypeDecl) : Catalog where
  declared
  platform
  names := (declared ++ platform).map (·.qualifiedName)
  index := .ofList ((declared ++ platform).map fun d => (d.qualifiedName.text, d))
  names_eq := rfl
  index_eq := rfl

/-- All types, those that hide others first. -/
def types (c : Catalog) : List TypeDecl :=
  c.declared ++ c.platform

/-- The type with a name. -/
def lookup (c : Catalog) (n : QName) : Option TypeDecl :=
  c.index.find? n.text

theorem lookup_map_qualifiedName (ds : List TypeDecl) (n : QName) :
    (ds.map fun d => (d.qualifiedName.text, d)).lookup n.text =
      ds.find? fun d => d.qualifiedName = n := by
  induction ds with
  | nil => rfl
  | cons d ds ih =>
    rw [List.map_cons, List.lookup_cons, List.find?_cons, ih]
    by_cases h : d.qualifiedName = n
    · simp [h]
    · have hb : (n.text == d.qualifiedName.text) = false := by
        simpa using fun he => h (congrArg QName.mk he.symm)
      simp [h, hb]

/-- The type with a name is the first one of that name. -/
theorem lookup_eq_find? (c : Catalog) (n : QName) :
    c.lookup n = c.types.find? fun d => d.qualifiedName = n := by
  rw [lookup, c.index_eq, Trie.find?_ofList, types, lookup_map_qualifiedName]

theorem mem_names_of_lookup {c : Catalog} {n : QName} {d : TypeDecl} (h : c.lookup n = some d) :
    n ∈ c.names := by
  rw [lookup_eq_find?] at h
  have hn : d.qualifiedName = n := by simpa using List.find?_some h
  rw [c.names_eq]
  exact List.mem_map.2 ⟨d, List.mem_of_find?_eq_some h, hn⟩

theorem mem_names_of_bind {α : Type} {c : Catalog} {n : QName} {f : TypeDecl → Option α}
    (h : ((c.lookup n).bind f).isSome) : n ∈ c.names := by
  cases hd : c.lookup n with
  | none => simp [hd] at h
  | some d => exact mem_names_of_lookup hd

/-- The links from types to the types around them. -/
def enclosingLinks (c : Catalog) : Graph.Links QName where
  next n := (c.lookup n).bind (·.enclosing)
  sources := c.names
  mem_sources _ := mem_names_of_bind

/-- The links from classes to the classes that they extend. -/
def superclassLinks (c : Catalog) : Graph.Links QName where
  next n := (c.lookup n).bind (·.superclassName)
  sources := c.names
  mem_sources _ := mem_names_of_bind

/-- The arrows from types to all that they extend or implement. -/
def supertypeArrows (c : Catalog) : Graph.Arrows QName where
  next n := ((c.lookup n).map (·.supertypes)).getD []
  sources := c.names
  mem_sources n h := by
    cases hd : c.lookup n with
    | none => simp [hd] at h
    | some d => exact mem_names_of_lookup hd

/-- The package that a type gives itself. -/
def ownPackage? (c : Catalog) (n : QName) : Option Text :=
  match c.lookup n with
  | some d => if d.package = [] then none else some d.package
  | none => none

/-- The package of a type: the first one that is given by the type or by the types around it. -/
def packageOf (c : Catalog) (n : QName) : Text :=
  (c.enclosingLinks.findFrom c.ownPackage? [] n).getD []

/-- The declaration of a type. -/
def element (c : Catalog) (n : QName) : Option TypeElement :=
  (c.lookup n).map fun d =>
    { name := n, simpleName := d.name, enclosing := d.enclosing, modifiers := d.modifiers }

/-- Whether values of a type can be assigned to a target. An array is assignable to what every array
is, a declared type to whatever its erasure reaches through supertypes, and nothing else to
anything. -/
def isAssignable (c : Catalog) (t : TypeExpr) (target : QName) : Bool :=
  match t with
  | .array _ => target ∈ Platform.arraySupertypes
  | .declared n _ => c.supertypeArrows.reaches n target
  | _ => false

/-- The marked fields of one type. -/
def markedFieldsOf (d : TypeDecl) : List MarkedField :=
  (d.fields.filter (·.marked)).map fun f =>
    { name := f.name, type := f.type, modifiers := f.modifiers, enclosing := d.qualifiedName }

/-- What the catalog answers about its types. -/
def model (c : Catalog) : TypeModel where
  markedFields := c.declared.flatMap markedFieldsOf
  element := c.element
  package := c.packageOf
  superclass n := (c.lookup n).bind (·.superclassName)
  isAssignable := c.isAssignable
  declaresMarked n := ((c.lookup n).map (·.isMarked)).getD false
  linked := c.names
  linked_of_enclosing n h := by
    cases hd : c.lookup n with
    | none => simp [element, hd] at h
    | some d => exact mem_names_of_lookup hd
  linked_of_superclass _ := mem_names_of_bind

/-- The first name of a declaration that is no identifier. An empty package is no package. -/
def nameFault? (d : TypeDecl) : Option Error :=
  if d.package ≠ [] ∧ ¬(Text.split '.' d.package).all Identifier.isValid then
    some (.notIdentifier .package d.package)
  else if ¬Identifier.isValid d.name then some (.notIdentifier .typeName d.name)
  else
    (d.fields.find? fun f => ¬Identifier.isValid f.name).map fun f =>
      .notIdentifier .fieldName f.name

/-- The fault of a type that extends what is not a class. -/
def supertypeFault? (d : TypeDecl) : Option Error :=
  match d.superclass with
  | some t =>
    match t.erasure with
    | some _ => none
    | none => some (.undeclaredSupertype t d.qualifiedName)
  | none => none

/-- The first fault of a declaration by itself and after the declarations of other names. -/
def declarationFault? (earlier : List QName) (d : TypeDecl) : Option Error :=
  match nameFault? d with
  | some e => some e
  | none =>
    if d.qualifiedName ∈ earlier then some (.duplicateType d.qualifiedName) else supertypeFault? d

/-- The first fault of declarations that follow those of other names. -/
def declarationsFault? (earlier : List QName) : List TypeDecl → Option Error
  | [] => none
  | d :: ds =>
    match declarationFault? earlier d with
    | some e => some e
    | none => declarationsFault? (d.qualifiedName :: earlier) ds

/-- The fault of a nested type without the type around it. -/
def enclosingFault? (c : Catalog) (d : TypeDecl) : Option Error :=
  match d.enclosing with
  | some outer =>
    if (c.lookup outer).isSome then none else some (.unknownEnclosing outer d.qualifiedName)
  | none => none

/-- The fault of a type whose superclasses run in a circle. -/
def cycleFault? (c : Catalog) (d : TypeDecl) : Option Error :=
  (c.superclassLinks.repeated? d.qualifiedName).map fun repeated =>
    .cyclicSuperclass d.qualifiedName repeated

/-- The first fault in the links between the types of a catalog. -/
def linkFault? (c : Catalog) : Option Error :=
  match c.declared.findSome? c.enclosingFault? with
  | some e => some e
  | none => c.declared.findSome? c.cycleFault?

/-- The types of a manifest over those of the platform, unless the manifest does without. -/
def unchecked (m : Manifest) : Catalog :=
  ofTypes m.types (if m.usesPlatform then Platform.types else [])

/-- The first reason for which a manifest cannot become a catalog. -/
def fault? (m : Manifest) : Option Error :=
  match declarationsFault? [] m.types with
  | some e => some e
  | none => (unchecked m).linkFault?

/-- The catalog of a manifest. -/
def ofManifest (m : Manifest) : Except Error Catalog :=
  match fault? m with
  | some e => .error e
  | none => .ok (unchecked m)

end Catalog

end Companion
