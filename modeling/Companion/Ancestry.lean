import Companion.Config.Basic
import Companion.Identity
import Companion.Memo

/-!
# Ancestry

The parent of an artifact is the artifact of the nearest superclass that declares marked fields. The
climb to it ends at the top, at a type that is left alone, and at a type it has been to. On its way
it asks for the marked fields of a type only if the memo has no answer, and it stops at a type whose
own climb is finished.
-/

namespace Companion.Ancestry

/-- The name of the artifact of a type. -/
def artifactName (m : TypeModel) (config : Config) (n : QName) : QName :=
  (Identity.of m n).artifactName config.artifactSuffix

/-- The artifact of the first marked type from `n` upward, past the types that were seen. -/
def climb (m : TypeModel) (config : Config) (seen : List QName) (memo : Memo) (n : QName) :
    Inquiry (Option QName × Memo) :=
  if _hn : n ∈ seen then ⟨(none, memo), []⟩
  else if config.isExcluded n then ⟨(none, memo), []⟩
  else
    match memo.markedArtifact? n with
    | some artifact => ⟨(some artifact, memo), []⟩
    | none =>
      if memo.isUnmarked n then
        match memo.ancestor? n with
        | some resolved => ⟨(resolved, memo), []⟩
        | none =>
          match _h : m.superclass n with
          | none => ⟨(none, memo), [.superclass n]⟩
          | some above => (climb m config (n :: seen) memo above).after [.superclass n]
      else if m.declaresMarked n then
        ⟨(some (artifactName m config n), memo.addMarked n (artifactName m config n)), [.marked n]⟩
      else
        match _h : m.superclass n with
        | none => ⟨(none, memo.addUnmarked n), [.marked n, .superclass n]⟩
        | some above =>
          (climb m config (n :: seen) (memo.addUnmarked n) above).after
            [.marked n, .superclass n]
termination_by Graph.unseen m.linked seen
decreasing_by
  all_goals exact Graph.unseen_cons_lt (m.linked_of_superclass n (by simp [_h])) _hn

/-- The artifact of the nearest marked strict ancestor of a type. -/
def resolve (m : TypeModel) (config : Config) (memo : Memo) (n : QName) :
    Inquiry (Option QName × Memo) :=
  match memo.ancestor? n with
  | some resolved => ⟨(resolved, memo), []⟩
  | none =>
    match m.superclass n with
    | none => ⟨(none, memo.addAncestor n none), [.superclass n]⟩
    | some above =>
      let found := climb m config [n] memo above
      ⟨(found.answer.1, found.answer.2.addAncestor n found.answer.1),
        .superclass n :: found.queries⟩

/-- What generation needs to know of a type, found out at most once. -/
def typeInfo (m : TypeModel) (config : Config) (memo : Memo) (n : QName) :
    Inquiry (TypeInfo × Memo) :=
  match memo.info? n with
  | some info => ⟨(info, memo), []⟩
  | none =>
    let identity := Identity.of m n
    let renderable := m.askAssignable (.declared n []) config.renderableType
    let parent := resolve m config memo n
    let info : TypeInfo :=
      { name := n
        package := identity.package
        simpleName := identity.simpleName
        flattenedName := identity.flattenedName
        sourceName := identity.sourceName
        renderable := renderable.answer
        parentArtifact := parent.answer.1
        artifact := identity.artifactName config.artifactSuffix
        modifiers := ((m.element n).map (·.modifiers)).getD .empty }
    ⟨(info, parent.answer.2.addInfo info), renderable.queries ++ parent.queries⟩

end Companion.Ancestry
