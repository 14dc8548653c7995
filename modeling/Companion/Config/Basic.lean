import Companion.Error

/-!
# Configuration

Every name of the platform that generated source relies on is a setting, and so are the suffix of
artifact names and the namespaces that are left alone. The settings have defaults.
-/

namespace Companion

/-- The settings of a generation. -/
structure Config where
  /-- What an artifact's name has after the name of its type. -/
  artifactSuffix : Text := "$$Stash"
  /-- The container that state is saved in. -/
  containerType : QName := "android.os.Bundle"
  /-- The parent state that renderable types hand around. -/
  parentStateType : QName := "android.os.Parcelable"
  /-- The capability of structured types that can be transferred. -/
  structuredTransferable : QName := "android.os.Parcelable"
  /-- The capability of types that can be serialized. -/
  serializable : QName := "java.io.Serializable"
  /-- The capability that makes an artifact renderable. -/
  renderableType : QName := "android.view.View"
  /-- The list type whose arguments are looked at. -/
  listType : QName := "java.util.ArrayList"
  /-- The sparse map type whose arguments are looked at. -/
  sparseMapType : QName := "android.util.SparseArray"
  /-- What a plain artifact without a parent extends. -/
  plainBase : QName := "stash.Stash.Object"
  /-- What a renderable artifact without a parent extends. -/
  renderableBase : QName := "stash.Stash.View"
  /-- The helper that holds the operations. -/
  helperType : QName := "stash.Stash.Helper"
  /-- How the names of types begin that are never asked for marked fields. -/
  excludedPrefixes : List Text := ["android.", "androidx.", "java.", "javax.", "kotlin."]
deriving DecidableEq

namespace Config

/-- The settings that name a type, with their keys. -/
def typeNames (c : Config) : List (Text × QName) :=
  [("container_type", c.containerType),
    ("parent_state_type", c.parentStateType),
    ("structured_transferable", c.structuredTransferable),
    ("serializable", c.serializable),
    ("renderable_type", c.renderableType),
    ("list_type", c.listType),
    ("sparse_map_type", c.sparseMapType),
    ("plain_base", c.plainBase),
    ("renderable_base", c.renderableBase),
    ("helper_type", c.helperType)]

/-- The first reason for which well-formed artifacts could not be generated. -/
def fault? (c : Config) : Option Error :=
  if c.artifactSuffix = [] then some (.emptySetting "artifact_suffix")
  else
    match c.typeNames.find? fun setting => setting.2.text = [] with
    | some (key, _) => some (.emptySetting key)
    | none =>
      (c.excludedPrefixes.find? fun start => start.getLast? ≠ some '.').map .unendedExclusion

/-- The configuration, unless it has a fault. -/
def validate (c : Config) : Except Error Config :=
  match c.fault? with
  | some e => .error e
  | none => .ok c

/-- Whether a type is in a namespace that is left alone. -/
def isExcluded (c : Config) (n : QName) : Bool :=
  c.excludedPrefixes.any fun start => start.isPrefixOf n.text

end Config

end Companion
