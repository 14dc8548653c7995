import Companion.Json.Reader
import Companion.Json.Record
import Companion.Manifest.Basic
import Companion.TypeExpr.Reader

/-!
# Manifest files

A manifest is written as a JSON record that holds records of types and of fields. Types are written
as text. A modifier is its keyword, or an object with the keyword as its only key and null as the
value.
-/

namespace Companion

namespace Modifiers

/-- The modifier that a JSON value writes. -/
def modifierOf? : Json → Option Modifier
  | .string t => Modifier.ofKeyword? t
  | .object [(key, .null)] => Modifier.ofKeyword? key
  | _ => none

/-- The set that a JSON list of modifiers writes. -/
def ofJson? (j : Json) : Option Modifiers :=
  (Json.list? modifierOf? j).map ofList

/-- The modifiers as a JSON list. -/
def toJson (ms : Modifiers) : Json :=
  Json.ofTexts (ms.toList.map (·.keyword))

end Modifiers

namespace TypeExpr

/-- The type that a JSON text writes. -/
def ofJson? (j : Json) : Option TypeExpr :=
  j.text?.bind fun t => (parse t).toOption

/-- The type as a JSON text. -/
def toJson (t : TypeExpr) : Json :=
  .string t.print

end TypeExpr

namespace FieldDecl

/-- The keys of a field, in their order. -/
def keys : List Text :=
  ["name", "type", "modifiers", "marked"]

/-- The field that a JSON value writes. -/
def ofJson? (j : Json) : Option FieldDecl := do
  let ms ← j.members? keys
  let name ← Json.required? Json.text? "name" ms
  let type ← Json.required? TypeExpr.ofJson? "type" ms
  let modifiers ← Json.optional? Modifiers.ofJson? .empty "modifiers" ms
  let marked ← Json.optional? Json.bool? false "marked" ms
  return { name, type, modifiers, marked }

/-- The field with every key written out. -/
def toJson (f : FieldDecl) : Json :=
  .object
    [("name", .string f.name),
      ("type", f.type.toJson),
      ("modifiers", f.modifiers.toJson),
      ("marked", .bool f.marked)]

end FieldDecl

namespace TypeDecl

/-- The keys of a type, in their order. -/
def keys : List Text :=
  ["package", "name", "enclosing", "superclass", "interfaces", "modifiers", "fields"]

/-- The type that a JSON value writes. -/
def ofJson? (j : Json) : Option TypeDecl := do
  let ms ← j.members? keys
  let package ← Json.optional? Json.text? [] "package" ms
  let name ← Json.required? Json.text? "name" ms
  let enclosing ← Json.optional? (Json.nullable? Json.text?) none "enclosing" ms
  let superclass ← Json.optional? (Json.nullable? TypeExpr.ofJson?) none "superclass" ms
  let interfaces ← Json.optional? (Json.list? TypeExpr.ofJson?) [] "interfaces" ms
  let modifiers ← Json.optional? Modifiers.ofJson? .empty "modifiers" ms
  let fields ← Json.optional? (Json.list? FieldDecl.ofJson?) [] "fields" ms
  return { package, name, enclosing := enclosing.map (⟨·⟩), superclass, interfaces, modifiers,
           fields }

/-- The type with every key written out. -/
def toJson (d : TypeDecl) : Json :=
  .object
    [("package", .string d.package),
      ("name", .string d.name),
      ("enclosing", Json.ofOption (d.enclosing.map fun n => .string n.text)),
      ("superclass", Json.ofOption (d.superclass.map (·.toJson))),
      ("interfaces", .array (d.interfaces.map (·.toJson))),
      ("modifiers", d.modifiers.toJson),
      ("fields", .array (d.fields.map (·.toJson)))]

end TypeDecl

namespace Manifest

/-- The keys of a manifest, in their order. -/
def keys : List Text :=
  ["prelude", "types"]

/-- The manifest that a JSON value writes. -/
def ofJson? (j : Json) : Option Manifest := do
  let ms ← j.members? keys
  let usesPlatform ← Json.optional? Json.bool? true "prelude" ms
  let types ← Json.optional? (Json.list? TypeDecl.ofJson?) [] "types" ms
  return { usesPlatform, types }

/-- The manifest with every key written out. -/
def toJson (m : Manifest) : Json :=
  .object [("prelude", .bool m.usesPlatform), ("types", .array (m.types.map (·.toJson)))]

/-- The manifest in a file, from what reading the file gave. -/
def load (file : Path) (content : Except FileFault Bytes) : Except Error Manifest :=
  match content with
  | .error fault => .error (.fileRefused .readManifest file fault)
  | .ok bytes =>
    match Utf8.decode bytes with
    | .error _ => .error (.fileRefused .readManifest file .notText)
    | .ok text =>
      match (Json.parse text).bind ofJson? with
      | none => .error (.malformedManifest file)
      | some m => .ok m

end Manifest

end Companion
