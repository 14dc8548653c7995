import Companion.Manifest.Basic

/-!
# The platform's types

The well-known types of the platform that may lie beneath a manifest, so that questions about
strings, boxed primitives, collections, containers and views have answers. All of them are public.
-/

namespace Companion.Platform

/-- The top of the classes. -/
def object : QName := "java.lang.Object"

/-- What everything serializable implements. -/
def serializable : QName := "java.io.Serializable"

/-- What everything that can be cloned implements. -/
def cloneable : QName := "java.lang.Cloneable"

/-- What arrays can be assigned to, whatever their component. -/
def arraySupertypes : List QName :=
  [object, serializable, cloneable]

/-- A public type of the platform. -/
def type (package name : Text) (superclass : Option QName) (interfaces : List QName) :
    TypeDecl where
  package := package
  name := name
  enclosing := none
  superclass := superclass.map (.declared · [])
  interfaces := interfaces.map (.declared · [])
  modifiers := .ofList [.publicAccess]
  fields := []

/-- The types of the platform. -/
def types : List TypeDecl :=
  [ type "java.lang" "Object" none [],
    type "java.io" "Serializable" none [],
    type "java.lang" "Cloneable" none [],
    type "java.lang" "CharSequence" none [],
    type "java.lang" "String" (some object) [serializable, "java.lang.CharSequence"],
    type "java.lang" "Number" (some object) [serializable],
    type "java.lang" "Boolean" (some object) [serializable],
    type "java.lang" "Character" (some object) [serializable],
    type "java.lang" "Enum" (some object) [serializable],
    type "java.util" "List" none [],
    type "java.util" "ArrayList" (some object) ["java.util.List", serializable, cloneable],
    type "java.util" "LinkedList" (some object) ["java.util.List", serializable, cloneable],
    type "java.util" "HashMap" (some object) [serializable, cloneable],
    type "java.util" "Date" (some object) [serializable, cloneable],
    type "android.os" "Parcelable" none [],
    type "android.os" "Bundle" (some object) ["android.os.Parcelable", cloneable],
    type "android.util" "SparseArray" (some object) [cloneable],
    type "android.content" "Context" (some object) [],
    type "android.app" "Activity" (some "android.content.Context") [],
    type "android.app" "Fragment" (some object) [],
    type "androidx.fragment.app" "Fragment" (some object) [],
    type "android.view" "View" (some object) [],
    type "android.view" "ViewGroup" (some "android.view.View") [],
    type "android.widget" "FrameLayout" (some "android.view.ViewGroup") [],
    type "android.widget" "TextView" (some "android.view.View") [],
    type "java.lang" "Byte" (some "java.lang.Number") [],
    type "java.lang" "Short" (some "java.lang.Number") [],
    type "java.lang" "Integer" (some "java.lang.Number") [],
    type "java.lang" "Long" (some "java.lang.Number") [],
    type "java.lang" "Float" (some "java.lang.Number") [],
    type "java.lang" "Double" (some "java.lang.Number") []]

end Companion.Platform
