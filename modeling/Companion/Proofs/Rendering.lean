import Companion.Proofs.Source

/-!
# Rendered text

A template is a fixed text with slots. What is rendered is the same text with the values in the
places of the slots, each copied as it is: nothing in a value is taken for a slot. It does not
matter which of the two variants is rendered for a group, nor what the names and types in the group
are. Read as a class, the text restores and saves the valid fields, a line for each in both methods,
and the lines for one field use the same name and the same operation.
-/

namespace Companion

/-- The fixed text of a variant, with what `value` gives for each name in its places. -/
def Variant.fixedText (v : Variant) (value : Text → Text) : Text :=
  value "package" ++ "public class " ++ value "artifact" ++ "<T extends " ++ value "target" ++
    "> extends " ++ value "parent" ++ "<T> \x7b\n" ++
  "    private static final " ++ value "helper" ++ " H = new " ++ value "helper" ++ "(\"" ++
    value "key_prefix" ++ "\");\n" ++
  "\n" ++
  match v with
  | .plain =>
    "    @Override\n" ++
    "    public void restore(T target, " ++ value "container" ++ " state) \x7b\n" ++
    "        if (state == null) \x7b\n" ++
    "            return;\n" ++
    "        \x7d\n" ++
    value "restore_fields" ++ "        super.restore(target, state);\n" ++
    "    \x7d\n" ++
    "\n" ++
    "    @Override\n" ++
    "    public void save(T target, " ++ value "container" ++ " state) \x7b\n" ++
    "        super.save(target, state);\n" ++
    value "save_fields" ++ "    \x7d\n" ++
    "\x7d\n"
  | .renderable =>
    "    @Override\n" ++
    "    public " ++ value "parent_state" ++ " restore(T target, " ++ value "parent_state" ++
      " p) \x7b\n" ++
    "        " ++ value "container" ++ " state = (" ++ value "container" ++ ") p;\n" ++
    "        " ++ value "parent_state" ++ " parent = H.getParent(state);\n" ++
    value "restore_fields" ++ "        return super.restore(target, parent);\n" ++
    "    \x7d\n" ++
    "\n" ++
    "    @Override\n" ++
    "    public " ++ value "parent_state" ++ " save(T target, " ++ value "parent_state" ++
      " p) \x7b\n" ++
    "        " ++ value "container" ++ " state = H.putParent(super.save(target, p));\n" ++
    value "save_fields" ++ "        return state;\n" ++
    "    \x7d\n" ++
    "\x7d\n"

/-- The value of a group for a name of the template. -/
def Variant.valueOf (v : Variant) (config : Config) (g : Group) (name : Text) : Text :=
  ((v.values config g).lookup name).getD []

/-- A template is the fixed text of its variant with slots in the places of the values. -/
lemma Variant.template_eq (v : Variant) : v.template = v.fixedText Variant.slot := by
  cases v with
  | plain =>
    unfold Variant.template Variant.plainTemplate Variant.opening Variant.fixedText
    simp only [List.append_assoc]
  | renderable =>
    unfold Variant.template Variant.renderableTemplate Variant.opening Variant.fixedText
    simp only [List.append_assoc]

namespace Group

/-- The group, with a type that follows the given variant. -/
def under (v : Variant) (g : Group) : Group :=
  { g with info := { g.info with renderable := v = .renderable } }

lemma of_under (v : Variant) (g : Group) : Variant.of (g.under v).info = v := by
  cases v with
  | plain => rfl
  | renderable => rfl

/-- The values for a template do not depend on what the type itself would follow. -/
lemma render_under (v : Variant) (config : Config) (g : Group) :
    (Variant.of (g.under v).info).render config (g.under v) = v.render config g := by
  rw [of_under]
  rfl

/-- The fields that may be transferred, each with its strategy, in declaration order: those without
forbidden modifiers that there is a strategy for. -/
def valid (g : Group) : List (CollectedField × Strategy) :=
  g.fields.filterMap fun f => if f.modifiersValid then f.strategy.map (f, ·) else none

end Group

/-- How a field is transferred with a strategy. What a strategy outside the table of exact shapes
gives back is cast to the declared type. -/
def Transfer.of (f : CollectedField) (s : Strategy) : Transfer where
  field := f.name
  suffix := s.operation
  cast := if s ∈ Strategy.table.map (·.2) then [] else "(" ++ f.type.print ++ ") "

lemma Transfer.of_eq (f : CollectedField) (s : Strategy) :
    Transfer.of f s = ⟨f.name, s.operation, Variant.castTo f.type s⟩ := by
  have hexact : s ∈ Strategy.table.map (·.2) ↔ s.isExact = true := by
    cases s <;> decide
  rw [Transfer.of, Variant.castTo]
  by_cases h : s.isExact = true
  · rw [if_pos (hexact.mpr h), if_pos h]
  · rw [if_neg (fun hmem => h (hexact.mp hmem)), if_neg h]

namespace Group

/-- The two filters on the way to the statements leave exactly the valid fields. -/
lemma transfers_eq (g : Group) : g.transfers = g.valid.map fun p => Transfer.of p.1 p.2 := by
  rw [transfers, emitted, valid, List.filterMap_filter, List.map_filterMap]
  refine congrArg (fun transfer? => g.fields.filterMap transfer?) (funext fun f => ?_)
  rw [CollectedField.isValid, CollectedField.transfer?]
  cases hm : f.modifiersValid with
  | false => simp
  | true =>
    cases hs : f.strategy with
    | none => simp
    | some s => simp [Transfer.of_eq]

lemma valueOf_restoreFields (v : Variant) (config : Config) (g : Group) :
    v.valueOf config g "restore_fields" = Statement.printAll config (g.transfers.map .get) :=
  statements_eq config Variant.restoreStatement .get (fun _ _ => rfl) g

lemma valueOf_saveFields (v : Variant) (config : Config) (g : Group) :
    v.valueOf config g "save_fields" = Statement.printAll config (g.transfers.map .put) :=
  statements_eq config Variant.saveStatement .put (fun _ _ => rfl) g

/-- The fixed text with the values of a group is the class of the group. -/
lemma fixedText_eq_source (v : Variant) (config : Config) (g : Group) :
    v.fixedText (v.valueOf config g) = (g.under v).source config := by
  have hof := of_under v g
  have htransfers : (g.under v).transfers = g.transfers := rfl
  have hpackage : v.valueOf config g "package" = (g.under v).packageLine := rfl
  have hartifact : v.valueOf config g "artifact" = (g.under v).info.artifact.simpleName := rfl
  have htarget : v.valueOf config g "target" = (g.under v).info.sourceName := rfl
  have hparent : v.valueOf config g "parent" = (v.parent config (g.under v).info).text := rfl
  have hhelper : v.valueOf config g "helper" = config.helperType.text := rfl
  have hprefix : v.valueOf config g "key_prefix" = (g.under v).keyPrefix := rfl
  have hcontainer : v.valueOf config g "container" = config.containerType.text := rfl
  have hstate : v.valueOf config g "parent_state" = config.parentStateType.text := rfl
  unfold source printMethod header signature body Variant.fixedText
  rw [hof, htransfers, hpackage, hartifact, htarget, hparent, hhelper, hprefix, hcontainer, hstate,
    valueOf_restoreFields, valueOf_saveFields]
  cases v with
  | plain =>
    dsimp only
    simp only [Statement.printAll_cons, Statement.printAll_append, Statement.printAll_nil]
    unfold Statement.print
    simp only [List.append_assoc, List.append_nil]
  | renderable =>
    dsimp only
    simp only [Statement.printAll_cons, Statement.printAll_append, Statement.printAll_nil]
    unfold Statement.print
    simp only [List.append_assoc, List.append_nil]

end Group

namespace Variant

/-- Rendering succeeds for every group and either variant. The template is the fixed text of the
variant with slots, what is rendered is the fixed text with the values of the group. This is a class
that restores the valid fields in declaration order before it goes to the parent, and saves them in
the same order after it went to the parent. A field is read and written under its name in quotes,
by operations that end alike, and what is read is cast unless the strategy is of the table. -/
theorem render_inserts_values (v : Variant) (config : Config) (g : Group) :
    v.template = v.fixedText slot ∧
    v.render config g = .ok (v.fixedText (v.valueOf config g)) ∧
    v.fixedText (v.valueOf config g) = (g.under v).source config ∧
    (match v with
      | .plain =>
        (g.under v).body .restore =
          .returnIfNull :: (g.valid.map (fun p => .get (.of p.1 p.2)) ++ [.superRestore]) ∧
        (g.under v).body .save = .superSave :: g.valid.map fun p => .put (.of p.1 p.2)
      | .renderable =>
        (g.under v).body .restore =
          .castState :: .getParent ::
            (g.valid.map (fun p => .get (.of p.1 p.2)) ++ [.returnSuperRestore]) ∧
        (g.under v).body .save =
          .wrapSuperSave :: (g.valid.map (fun p => .put (.of p.1 p.2)) ++ [.returnState])) ∧
    ∀ (f : CollectedField) (s : Strategy),
      (Statement.get (.of f s)).print config =
        "        " ++ ("target." ++ f.name ++ " = " ++
          (if s ∈ Strategy.table.map (·.2) then ([] : Text) else "(" ++ f.type.print ++ ") ") ++
          "H." ++ ("get" ++ s.operation) ++ "(state, \"" ++ f.name ++ "\");") ++ "\n" ∧
      (Statement.put (.of f s)).print config =
        "        " ++ ("H." ++ ("put" ++ s.operation) ++ "(state, \"" ++ f.name ++
          "\", target." ++ f.name ++ ");") ++ "\n" := by
  have htransfers : (g.under v).transfers = g.valid.map fun p => .of p.1 p.2 := g.transfers_eq
  have hof := g.of_under v
  refine ⟨v.template_eq, ?_, g.fixedText_eq_source v config, ?_, fun f s => ⟨rfl, rfl⟩⟩
  · rw [← g.render_under v config, Group.render_eq_source, g.fixedText_eq_source]
  · cases v with
    | plain =>
      obtain ⟨hsave, hrestore⟩ := Group.body_of_plain hof
      rw [htransfers, List.map_map] at hsave hrestore
      exact ⟨hrestore, hsave⟩
    | renderable =>
      obtain ⟨hsave, hrestore⟩ := Group.body_of_renderable hof
      rw [htransfers, List.map_map] at hsave hrestore
      exact ⟨hrestore, hsave⟩

/-- A group without fields whose package looks like a slot. -/
def slottedGroup : Group where
  info :=
    { name := "p.A", package := slot "artifact", simpleName := "A", flattenedName := "A",
      sourceName := "p.A", renderable := false, parentArtifact := none,
      artifact := "p.A$$Stash", modifiers := .empty }
  fields := []

example : (renderable.render {} slottedGroup).toOption.map (·.take 37) =
    some ("package " ++ slot "artifact" ++ ";\n\npublic class A") := by
  decide +kernel

end Variant

end Companion
