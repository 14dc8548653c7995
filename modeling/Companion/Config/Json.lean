import Companion.Config.Basic
import Companion.Json.Reader
import Companion.Json.Record

/-!
# Configuration files

A configuration is written as a JSON record of its settings. A setting that is left out has its
default.
-/

namespace Companion.Config

/-- The keys of the settings, in their order. -/
def keys : List Text :=
  ["artifact_suffix", "container_type", "parent_state_type", "structured_transferable",
    "serializable", "renderable_type", "list_type", "sparse_map_type", "plain_base",
    "renderable_base", "helper_type", "excluded_prefixes"]

/-- A name as JSON. -/
def nameOf? (j : Json) : Option QName :=
  j.text?.map (⟨·⟩)

/-- The configuration that a JSON value writes. -/
def ofJson? (j : Json) : Option Config := do
  let d : Config := {}
  let ms ← j.members? keys
  let artifactSuffix ← Json.optional? Json.text? d.artifactSuffix "artifact_suffix" ms
  let containerType ← Json.optional? nameOf? d.containerType "container_type" ms
  let parentStateType ← Json.optional? nameOf? d.parentStateType "parent_state_type" ms
  let structuredTransferable ←
    Json.optional? nameOf? d.structuredTransferable "structured_transferable" ms
  let serializable ← Json.optional? nameOf? d.serializable "serializable" ms
  let renderableType ← Json.optional? nameOf? d.renderableType "renderable_type" ms
  let listType ← Json.optional? nameOf? d.listType "list_type" ms
  let sparseMapType ← Json.optional? nameOf? d.sparseMapType "sparse_map_type" ms
  let plainBase ← Json.optional? nameOf? d.plainBase "plain_base" ms
  let renderableBase ← Json.optional? nameOf? d.renderableBase "renderable_base" ms
  let helperType ← Json.optional? nameOf? d.helperType "helper_type" ms
  let excludedPrefixes ←
    Json.optional? (Json.list? Json.text?) d.excludedPrefixes "excluded_prefixes" ms
  return { artifactSuffix, containerType, parentStateType, structuredTransferable, serializable,
           renderableType, listType, sparseMapType, plainBase, renderableBase, helperType,
           excludedPrefixes }

/-- The configuration with every setting written out. -/
def toJson (c : Config) : Json :=
  .object
    [("artifact_suffix", .string c.artifactSuffix),
      ("container_type", .string c.containerType.text),
      ("parent_state_type", .string c.parentStateType.text),
      ("structured_transferable", .string c.structuredTransferable.text),
      ("serializable", .string c.serializable.text),
      ("renderable_type", .string c.renderableType.text),
      ("list_type", .string c.listType.text),
      ("sparse_map_type", .string c.sparseMapType.text),
      ("plain_base", .string c.plainBase.text),
      ("renderable_base", .string c.renderableBase.text),
      ("helper_type", .string c.helperType.text),
      ("excluded_prefixes", Json.ofTexts c.excludedPrefixes)]

/-- The configuration in a file, from what reading the file gave. -/
def load (file : Path) (content : Except FileFault Bytes) : Except Error Config :=
  match content with
  | .error fault => .error (.fileRefused .readConfig file fault)
  | .ok bytes =>
    match Utf8.decode bytes with
    | .error _ => .error (.fileRefused .readConfig file .notText)
    | .ok text =>
      match (Json.parse text).bind ofJson? with
      | none => .error (.malformedConfig file)
      | some c => c.validate

end Companion.Config
