import Companion.Ancestry
import Companion.Classification
import Companion.Diagnostic

/-!
# Collection

The marked fields of a program, each with its strategy and its type's information. A field that may
not be transferred is reported and kept, so that its type has an artifact, but it takes no part in
saving and restoring.
-/

namespace Companion

/-- A marked field that has been looked at. -/
structure CollectedField where
  name : Text
  type : TypeExpr
  strategy : Option Strategy
  owner : TypeInfo
  /-- Whether the field has none of the forbidden modifiers. -/
  modifiersValid : Bool
deriving DecidableEq

namespace CollectedField

/-- The strategy to save and restore the field with, if it may be transferred. -/
def transfer? (f : CollectedField) : Option Strategy :=
  if f.modifiersValid then f.strategy else none

/-- Whether the field may be transferred. -/
def isValid (f : CollectedField) : Bool :=
  f.transfer?.isSome

end CollectedField

/-- The fields that were collected, the problems found on the way, and what is known afterwards. -/
structure Collection where
  fields : List CollectedField
  diagnostics : List Diagnostic
  memo : Memo
deriving DecidableEq

namespace Collection

/-- The modifiers that a marked field must not have. -/
def forbiddenModifiers : List Modifier :=
  [.privateAccess, .static, .final]

/-- The problems with the modifiers of a field. -/
def modifierProblems (f : MarkedField) : List Diagnostic :=
  (forbiddenModifiers.filter f.modifiers.contains).map (.invalidModifier f.name f.enclosing)

/-- The problem with the type of a field that no strategy is for. -/
def strategyProblems (f : MarkedField) (strategy : Option Strategy) : List Diagnostic :=
  match strategy with
  | some _ => []
  | none => [.unrecognizedType f.name f.enclosing f.type]

/-- The problem with a type that an artifact could not name. -/
def typeProblems (m : TypeModel) (n : QName) : List Diagnostic :=
  match m.element n with
  | some e => if e.modifiers.contains .privateAccess then [.inaccessibleType n] else []
  | none => []

/-- One field, looked at with what is known. -/
def collectField (m : TypeModel) (config : Config) (memo : Memo) (f : MarkedField) :
    Inquiry (CollectedField × List Diagnostic × Memo) :=
  let strategy := Classification.classify m config f.type
  let owner := Ancestry.typeInfo m config memo f.enclosing
  let field : CollectedField :=
    { name := f.name
      type := f.type
      strategy := strategy.answer
      owner := owner.answer.1
      modifiersValid := (modifierProblems f).isEmpty }
  ⟨(field, modifierProblems f ++ strategyProblems f strategy.answer, owner.answer.2),
    strategy.queries ++ owner.queries⟩

/-- The fields in a list, after those of the types already checked. -/
def collectFrom (m : TypeModel) (config : Config) (checked : List QName) (memo : Memo) :
    List MarkedField → Inquiry Collection
  | [] => ⟨⟨[], [], memo⟩, []⟩
  | f :: fs =>
    let problems := if f.enclosing ∈ checked then [] else typeProblems m f.enclosing
    let ⟨(field, found, memo), queries⟩ := collectField m config memo f
    let ⟨rest, queries'⟩ := collectFrom m config (f.enclosing :: checked) memo fs
    ⟨⟨field :: rest.fields, problems ++ found ++ rest.diagnostics, rest.memo⟩,
      queries ++ queries'⟩

/-- The marked fields of a program, in declaration order. -/
def ofModel (m : TypeModel) (config : Config) (memo : Memo) : Inquiry Collection :=
  collectFrom m config [] memo m.markedFields

end Collection

end Companion
