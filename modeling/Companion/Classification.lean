import Companion.Config.Basic
import Companion.Strategy
import Companion.TypeModel.Basic

/-!
# Classification

The strategy for a field's type. A type whose printed form is the shape of a strategy has that
strategy. Any other type is tried on four capabilities in turn, unless a wildcard occurs in it.
-/

namespace Companion.Classification

/-- Whether a type has the capability of structured transfer. -/
def isStructured (m : TypeModel) (config : Config) (t : TypeExpr) : Inquiry Bool :=
  m.askAssignable t config.structuredTransferable

/-- Whether a type is the list type with just the bare capability of structured transfer as its
argument. -/
def isStructuredList (config : Config) (t : TypeExpr) : Inquiry Bool :=
  match t with
  | .declared list [.declared element []] =>
    pure (list = config.listType ∧ element = config.structuredTransferable)
  | _ => pure false

/-- Whether a type is the sparse map type with just a declared type of the capability as its
argument. -/
def isStructuredMap (m : TypeModel) (config : Config) (t : TypeExpr) : Inquiry Bool :=
  match t with
  | .declared map [.declared element args] =>
    if map = config.sparseMapType then
      m.askAssignable (.declared element args) config.structuredTransferable
    else pure false
  | _ => pure false

/-- Whether a type has the capability of serialization. -/
def isSerializable (m : TypeModel) (config : Config) (t : TypeExpr) : Inquiry Bool :=
  m.askAssignable t config.serializable

/-- The capabilities with their strategies, by precedence. -/
def rules (m : TypeModel) (config : Config) : List (Strategy × (TypeExpr → Inquiry Bool)) :=
  [(.structuredTransferable, isStructured m config),
    (.structuredTransferableList, isStructuredList config),
    (.sparseStructuredTransferableMap, isStructuredMap m config),
    (.serializable, isSerializable m config)]

/-- The strategy of the first rule that holds; later rules are not tried. -/
def firstRule (t : TypeExpr) :
    List (Strategy × (TypeExpr → Inquiry Bool)) → Inquiry (Option Strategy)
  | [] => pure none
  | (s, rule) :: rest => do
    if ← rule t then pure (some s) else firstRule t rest

/-- The strategy for a type, if it can be transferred. -/
def classify (m : TypeModel) (config : Config) (t : TypeExpr) : Inquiry (Option Strategy) :=
  match Strategy.ofShape? t.print with
  | some s => pure (some s)
  | none => if t.hasWildcard then pure none else firstRule t (rules m config)

end Companion.Classification
