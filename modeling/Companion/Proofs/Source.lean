import Companion.Artifact
import Companion.Proofs.Template

/-!
# Generated methods

The source of an artifact, said without its template: a class with two methods whose bodies are
lists of statements. A statement goes to the parent, or it moves one field by an operation of the
helper; the others only pass the container on. What is rendered for a group is the print of this
class.
-/

namespace Companion

/-- A field that may be transferred: its name, what the names of its operations end in, and the
cast of what is read. -/
structure Transfer where
  field : Text
  suffix : Text
  cast : Text
deriving DecidableEq

/-- A statement of a generated method. -/
inductive Statement where
  /-- Do nothing more if there is no container. -/
  | returnIfNull
  /-- Take the parameter for the container. -/
  | castState
  /-- Take the parent's state out of the container. -/
  | getParent
  | put (t : Transfer)
  | get (t : Transfer)
  /-- Let the parent save into the same container. -/
  | superSave
  /-- Let the parent restore from the same container. -/
  | superRestore
  /-- Wrap what the parent gives back into a container. -/
  | wrapSuperSave
  /-- Let the parent restore from its state. -/
  | returnSuperRestore
  | returnState
deriving DecidableEq

namespace Statement

/-- A statement as source. -/
def print (config : Config) : Statement → Text
  | .returnIfNull =>
    "        if (state == null) \x7b\n" ++
    "            return;\n" ++
    "        \x7d\n"
  | .castState =>
    "        " ++ config.containerType.text ++ " state = (" ++ config.containerType.text ++ ") p;\n"
  | .getParent =>
    "        " ++ config.parentStateType.text ++ " parent = H.getParent(state);\n"
  | .put t =>
    "        " ++ ("H." ++ ("put" ++ t.suffix) ++ "(state, \"" ++ t.field ++ "\", target." ++
      t.field ++ ");") ++ "\n"
  | .get t =>
    "        " ++ ("target." ++ t.field ++ " = " ++ t.cast ++ "H." ++ ("get" ++ t.suffix) ++
      "(state, \"" ++ t.field ++ "\");") ++ "\n"
  | .superSave => "        super.save(target, state);\n"
  | .superRestore => "        super.restore(target, state);\n"
  | .wrapSuperSave =>
    "        " ++ config.containerType.text ++ " state = H.putParent(super.save(target, p));\n"
  | .returnSuperRestore => "        return super.restore(target, parent);\n"
  | .returnState => "        return state;\n"

/-- Statements as source, one after the other. -/
def printAll (config : Config) (body : List Statement) : Text :=
  body.flatMap (print config)

lemma printAll_cons (config : Config) (s : Statement) (body : List Statement) :
    printAll config (s :: body) = s.print config ++ printAll config body :=
  List.flatMap_cons

lemma printAll_nil (config : Config) : printAll config [] = [] :=
  rfl

lemma printAll_append (config : Config) (body body' : List Statement) :
    printAll config (body ++ body') = printAll config body ++ printAll config body' :=
  List.flatMap_append

end Statement

/-- The two methods of an artifact. -/
inductive Method where
  | save
  | restore
deriving DecidableEq

namespace Group

/-- The fields that are saved and restored, in their order. -/
def transfers (g : Group) : List Transfer :=
  g.emitted.filterMap fun f =>
    f.transfer?.map fun s => ⟨f.name, s.operation, Variant.castTo f.type s⟩

/-- The statements of a method. -/
def body (g : Group) : Method → List Statement
  | .save =>
    match Variant.of g.info with
    | .plain => .superSave :: g.transfers.map .put
    | .renderable => .wrapSuperSave :: (g.transfers.map .put ++ [.returnState])
  | .restore =>
    match Variant.of g.info with
    | .plain => .returnIfNull :: (g.transfers.map .get ++ [.superRestore])
    | .renderable =>
      .castState :: .getParent :: (g.transfers.map .get ++ [.returnSuperRestore])

lemma body_of_plain {g : Group} (h : Variant.of g.info = .plain) :
    g.body .save = .superSave :: g.transfers.map .put ∧
      g.body .restore = .returnIfNull :: (g.transfers.map .get ++ [.superRestore]) := by
  simp [body, h]

lemma body_of_renderable {g : Group} (h : Variant.of g.info = .renderable) :
    g.body .save = .wrapSuperSave :: (g.transfers.map .put ++ [.returnState]) ∧
      g.body .restore =
        .castState :: .getParent :: (g.transfers.map .get ++ [.returnSuperRestore]) := by
  simp [body, h]

/-- What the helper of an artifact puts before the names of fields. -/
def keyPrefix (g : Group) : Text :=
  g.info.artifact.text ++ "."

/-- The line of a method with its name and parameters. -/
def signature (config : Config) (g : Group) (method : Method) : Text :=
  match Variant.of g.info, method with
  | .plain, .restore =>
    "    public void restore(T target, " ++ config.containerType.text ++ " state) \x7b\n"
  | .plain, .save =>
    "    public void save(T target, " ++ config.containerType.text ++ " state) \x7b\n"
  | .renderable, .restore =>
    "    public " ++ config.parentStateType.text ++ " restore(T target, " ++
      config.parentStateType.text ++ " p) \x7b\n"
  | .renderable, .save =>
    "    public " ++ config.parentStateType.text ++ " save(T target, " ++
      config.parentStateType.text ++ " p) \x7b\n"

/-- A method as source. -/
def printMethod (config : Config) (g : Group) (method : Method) : Text :=
  "    @Override\n" ++ g.signature config method ++
    Statement.printAll config (g.body method) ++ "    \x7d\n"

/-- The line that names the package, if there is one. -/
def packageLine (g : Group) : Text :=
  if g.info.package = [] then [] else "package " ++ g.info.package ++ ";\n\n"

/-- What a class begins with: its package, its name and parent, and its helper. -/
def header (config : Config) (g : Group) : Text :=
  g.packageLine ++ "public class " ++ g.info.artifact.simpleName ++ "<T extends " ++
    g.info.sourceName ++ "> extends " ++ ((Variant.of g.info).parent config g.info).text ++
    "<T> \x7b\n" ++
    "    private static final " ++ config.helperType.text ++ " H = new " ++
    config.helperType.text ++ "(\"" ++ g.keyPrefix ++ "\");\n" ++ "\n"

/-- The class of a group as source. -/
def source (config : Config) (g : Group) : Text :=
  g.header config ++ g.printMethod config .restore ++ "\n" ++ g.printMethod config .save ++
    "\x7d\n"

/-- The lines for the fields are the print of their statements. -/
lemma statements_eq (config : Config) (statement : CollectedField → Strategy → Text)
    (move : Transfer → Statement)
    (h : ∀ f s, (move ⟨f.name, s.operation, Variant.castTo f.type s⟩).print config =
      "        " ++ statement f s ++ "\n") (g : Group) :
    Variant.statements statement g = Statement.printAll config (g.transfers.map move) := by
  rw [Variant.statements, transfers]
  induction g.emitted with
  | nil => rfl
  | cons f fs ih =>
    rw [List.flatMap_cons, ih]
    cases hs : f.transfer? with
    | none => simp [hs]
    | some s =>
      rw [List.filterMap_cons_some (by rw [hs]; rfl), List.map_cons, Statement.printAll_cons, h]

variable (config : Config) (g : Group)

lemma fills_opening :
    Template.Fills ((Variant.of g.info).values config g) Variant.opening (g.header config) := by
  unfold Variant.opening header
  -- A slot is a concatenation itself; reducible unfolding leaves it in one piece.
  repeat' with_reducible refine .append ?_ ?_
  all_goals
    first
    | with_reducible refine .slot ?_ ?_ ?_
    | with_reducible refine .literal ?_
  all_goals
    first
    | rfl
    | decide +kernel

lemma lookup_restoreFields :
    ((Variant.of g.info).values config g).lookup ("restore_fields" : Text) =
      some (Statement.printAll config (g.transfers.map .get)) := by
  rw [← statements_eq config Variant.restoreStatement .get fun _ _ => rfl]
  rfl

lemma lookup_saveFields :
    ((Variant.of g.info).values config g).lookup ("save_fields" : Text) =
      some (Statement.printAll config (g.transfers.map .put)) := by
  rw [← statements_eq config Variant.saveStatement .put fun _ _ => rfl]
  rfl

/-- What is rendered for a group is the source of its class. -/
lemma render_eq_source : (Variant.of g.info).render config g = .ok (g.source config) := by
  have hopening := fills_opening config g
  have hrestore := lookup_restoreFields config g
  have hsave := lookup_saveFields config g
  refine Template.Fills.render_eq ?_
  unfold source printMethod signature body
  cases hv : Variant.of g.info
  all_goals
    rw [hv] at hopening hrestore hsave
    simp only [Statement.printAll_cons, Statement.printAll_append, Statement.printAll_nil]
    unfold Variant.template Statement.print
    dsimp only
    first
    | unfold Variant.plainTemplate
    | unfold Variant.renderableTemplate
    simp only [List.append_assoc, List.append_nil]
    -- Both sides are now chains of the same stretches, slots on the left and values on the right.
    repeat' with_reducible refine .append ?_ ?_
  all_goals
    first
    | with_reducible exact hopening
    | with_reducible refine .slot ?_ ?_ hrestore
    | with_reducible refine .slot ?_ ?_ hsave
    | with_reducible refine .slot ?_ ?_ ?_
    | with_reducible refine .literal ?_
  all_goals
    first
    | rfl
    | decide +kernel

end Group

end Companion
