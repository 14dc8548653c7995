import Companion.Group
import Companion.Template

/-!
# Artifacts

The source generated for a group. A plain artifact saves into and restores from the container
itself; a renderable one wraps the state of its parent into the container and takes it out again.
Either way a restore sets the fields of the type before it goes on to the parent, and a save lets
the parent go first.
-/

namespace Companion

/-- The two protocols that an artifact may follow. -/
inductive Variant where
  | plain
  | renderable
deriving DecidableEq

namespace Variant

/-- The name of a variant. -/
def name : Variant → Text
  | .plain => "plain"
  | .renderable => "renderable"

/-- The variant with a name. -/
def ofName? (t : Text) : Option Variant :=
  [plain, renderable].find? fun v => v.name = t

/-- The variant for a type. -/
def of (info : TypeInfo) : Variant :=
  if info.renderable then .renderable else .plain

/-- A slot of a template. -/
def slot (name : Text) : Text :=
  "\x7b\x7b" ++ name ++ "\x7d\x7d"

/-- What the artifacts of both variants begin with: the class and its helper. -/
def opening : Text :=
  slot "package" ++ "public class " ++ slot "artifact" ++ "<T extends " ++ slot "target" ++
    "> extends " ++ slot "parent" ++ "<T> \x7b\n" ++
  "    private static final " ++ slot "helper" ++ " H = new " ++ slot "helper" ++ "(\"" ++
    slot "key_prefix" ++ "\");\n" ++
  "\n"

/-- The template of plain artifacts. -/
def plainTemplate : Text :=
  opening ++
  "    @Override\n" ++
  "    public void restore(T target, " ++ slot "container" ++ " state) \x7b\n" ++
  "        if (state == null) \x7b\n" ++
  "            return;\n" ++
  "        \x7d\n" ++
  slot "restore_fields" ++ "        super.restore(target, state);\n" ++
  "    \x7d\n" ++
  "\n" ++
  "    @Override\n" ++
  "    public void save(T target, " ++ slot "container" ++ " state) \x7b\n" ++
  "        super.save(target, state);\n" ++
  slot "save_fields" ++ "    \x7d\n" ++
  "\x7d\n"

/-- The template of renderable artifacts. -/
def renderableTemplate : Text :=
  opening ++
  "    @Override\n" ++
  "    public " ++ slot "parent_state" ++ " restore(T target, " ++ slot "parent_state" ++
    " p) \x7b\n" ++
  "        " ++ slot "container" ++ " state = (" ++ slot "container" ++ ") p;\n" ++
  "        " ++ slot "parent_state" ++ " parent = H.getParent(state);\n" ++
  slot "restore_fields" ++ "        return super.restore(target, parent);\n" ++
  "    \x7d\n" ++
  "\n" ++
  "    @Override\n" ++
  "    public " ++ slot "parent_state" ++ " save(T target, " ++ slot "parent_state" ++
    " p) \x7b\n" ++
  "        " ++ slot "container" ++ " state = H.putParent(super.save(target, p));\n" ++
  slot "save_fields" ++ "        return state;\n" ++
  "    \x7d\n" ++
  "\x7d\n"

/-- The template of a variant. -/
def template : Variant → Text
  | .plain => plainTemplate
  | .renderable => renderableTemplate

/-- What an artifact of this variant extends: its parent or, without one, the base. -/
def parent (v : Variant) (config : Config) (info : TypeInfo) : QName :=
  match info.parentArtifact, v with
  | some artifact, _ => artifact
  | none, .plain => config.plainBase
  | none, .renderable => config.renderableBase

/-- The cast that a restored field needs: what a capability's operation gives back does not have
the type of the field. -/
def castTo (t : TypeExpr) (s : Strategy) : Text :=
  if s.isExact then [] else "(" ++ t.print ++ ") "

/-- The statement that restores a field. -/
def restoreStatement (f : CollectedField) (s : Strategy) : Text :=
  "target." ++ f.name ++ " = " ++ castTo f.type s ++ "H." ++ s.retrieve ++ "(state, \"" ++
    f.name ++ "\");"

/-- The statement that saves a field. -/
def saveStatement (f : CollectedField) (s : Strategy) : Text :=
  "H." ++ s.store ++ "(state, \"" ++ f.name ++ "\", target." ++ f.name ++ ");"

/-- The statements for the fields that may be transferred, a line each. -/
def statements (statement : CollectedField → Strategy → Text) (g : Group) : Text :=
  g.emitted.flatMap fun f =>
    match f.transfer? with
    | some s => "        " ++ statement f s ++ "\n"
    | none => []

/-- What is filled into the template of a variant. -/
def values (v : Variant) (config : Config) (g : Group) : List (Text × Text) :=
  [("package", if g.info.package = [] then [] else "package " ++ g.info.package ++ ";\n\n"),
    ("artifact", g.info.artifact.simpleName),
    ("target", g.info.sourceName),
    ("parent", (v.parent config g.info).text),
    ("helper", config.helperType.text),
    ("key_prefix", g.info.artifact.text ++ "."),
    ("container", config.containerType.text),
    ("parent_state", config.parentStateType.text),
    ("restore_fields", statements restoreStatement g),
    ("save_fields", statements saveStatement g)]

/-- The source of an artifact. -/
def render (v : Variant) (config : Config) (g : Group) : Except Error Text :=
  Template.render (v.values config g) v.template

end Variant

end Companion
