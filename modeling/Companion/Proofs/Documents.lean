import Companion.Config.Json
import Companion.Manifest.Json
import Companion.Proofs.JsonText
import Companion.Proofs.TypeText

/-!
# Manifests and configurations that are written out

A reader of documents takes more than the writer makes: values in an array in place of an object,
keys left out, modifiers in any order and more than once, types with space in them. What is read is
the same however it was given, and writing it out and reading that gives it back. Types are where
this is not plain: they are written by the printer and read by the parser, and what was read is
canonical.
-/

namespace Companion

namespace Json

/-- Whether everything that is read is read again from what is written for it. -/
def Rereads {α : Type} (decode : Json → Option α) (encode : α → Json) : Prop :=
  ∀ j a, decode j = some a → decode (encode a) = some a

/-- What was read survives if it is read again from what is written for it, be this handed on as a
value, in one line or over several, and if writing that gives the same value. -/
structure Survives {α : Type} (decode : Json → Option α) (encode : α → Json) (a : α) : Prop where
  value : decode (encode a) = some a
  line : (parse (encode a).print).bind decode = some a
  lines : (parse (encode a).pretty).bind decode = some a
  again : (decode (encode a)).map encode = some (encode a)

section Rereads

variable {α : Type} {decode : Json → Option α} {encode : α → Json}

lemma survives_of_rereads (h : Rereads decode encode) (hfits : ∀ a, Fits maxDepth (encode a))
    {j : Json} {a : α} (ha : decode j = some a) : Survives decode encode a := by
  have hvalue := h j a ha
  constructor
  · exact hvalue
  · rw [parse_print (hfits a), Option.bind_some, hvalue]
  · rw [parse_pretty (hfits a), Option.bind_some, hvalue]
  · rw [hvalue, Option.map_some]

lemma mapM_map_eq_some {l : List α} (h : ∀ a ∈ l, decode (encode a) = some a) :
    (l.map encode).mapM decode = some l := by
  induction l with
  | nil => rfl
  | cons a l ih =>
    have ha := h a List.mem_cons_self
    have hl := ih fun b hb => h b (List.mem_cons_of_mem a hb)
    rw [List.map_cons, List.mapM_cons, ha, hl]
    rfl

lemma exists_of_mapM {items : List Json} {l : List α} (h : items.mapM decode = some l) :
    ∀ a ∈ l, ∃ j, decode j = some a := by
  induction items generalizing l with
  | nil =>
    cases h
    intro a ha
    cases ha
  | cons item items ih =>
    rw [List.mapM_cons] at h
    obtain ⟨b, hb, h⟩ := Option.bind_eq_some_iff.mp h
    obtain ⟨bs, hbs, h⟩ := Option.bind_eq_some_iff.mp h
    cases h
    intro a ha
    rcases List.mem_cons.mp ha with rfl | ha
    · exact ⟨item, hb⟩
    · exact ih hbs a ha

lemma Rereads.list (h : Rereads decode encode) :
    Rereads (list? decode) fun l => .array (l.map encode) := by
  intro j l hl
  obtain ⟨items, -, hitems⟩ := Option.bind_eq_some_iff.mp hl
  apply mapM_map_eq_some
  intro a ha
  obtain ⟨item, hitem⟩ := exists_of_mapM hitems a ha
  exact h item a hitem

lemma Rereads.nullable (h : Rereads decode encode) (hnull : ∀ a, encode a ≠ .null) :
    Rereads (nullable? decode) fun o => ofOption (o.map encode) := by
  intro j o ho
  cases o with
  | none => rfl
  | some a =>
    have ha : (decode j).map some = some (some a) := by
      unfold nullable? at ho
      split at ho
      · cases ho
      · exact ho
    obtain ⟨b, hb, hba⟩ := Option.map_eq_some_iff.mp ha
    cases hba
    -- What is written for a value must not be taken for the lack of one.
    change nullable? decode (encode a) = _
    unfold nullable?
    split
    next heq => exact absurd heq (hnull a)
    next => rw [h j a hb, Option.map_some]

variable {key : Text} {members : List (Text × Json)} {a : α}

lemma Rereads.required (h : Rereads decode encode) (ha : required? decode key members = some a) :
    decode (encode a) = some a := by
  obtain ⟨j, -, hj⟩ := Option.bind_eq_some_iff.mp ha
  exact h j a hj

/-- Where a key was left out, what stands for it is to be read again too. -/
lemma Rereads.optional (h : Rereads decode encode) {absent : α}
    (habsent : decode (encode absent) = some absent)
    (ha : optional? decode absent key members = some a) : decode (encode a) = some a := by
  unfold optional? at ha
  split at ha
  next j hj => exact h j a ha
  next => cases ha; exact habsent

end Rereads

section Parts

variable {α : Type} {encode : α → Json} {depth : Nat}

lemma Fits.map (h : ∀ a, Fits depth (encode a)) (l : List α) :
    Fits (depth + 1) (.array (l.map encode)) := by
  apply Fits.array
  intro item hitem
  obtain ⟨a, -, rfl⟩ := List.mem_map.mp hitem
  exact h a

lemma Fits.ofOption (h : ∀ a, Fits depth (encode a)) (o : Option α) :
    Fits depth (ofOption (o.map encode)) := by
  cases o with
  | none => exact .null
  | some a => exact h a

end Parts

end Json

open Json

lemma Modifier.ofKeyword?_keyword (m : Modifier) : ofKeyword? m.keyword = some m := by
  cases m <;> decide

/-- A set of modifiers is read again from the list of its members. -/
lemma Modifiers.ofJson?_toJson (ms : Modifiers) : ofJson? ms.toJson = some ms := by
  have hread : list? modifierOf? ms.toJson = some ms.toList := by
    have hmap : ms.toJson = .array (ms.toList.map fun m => .string m.keyword) := by
      simp [toJson, ofTexts]
    rw [hmap]
    exact mapM_map_eq_some fun m _ => m.ofKeyword?_keyword
  rw [ofJson?, hread, Option.map_some]
  -- The members are in the order in which `ofList` would put them.
  congr 1
  obtain ⟨members, hmembers⟩ := ms
  simp only [ofList, ← hmembers]

lemma Modifiers.fits (ms : Modifiers) (depth : Nat) : Fits (depth + 1) ms.toJson :=
  Fits.map .string _

/-- A type that was read is canonical, and so the parser takes what is printed of it. -/
lemma TypeExpr.rereads : Rereads ofJson? toJson := by
  intro j t h
  obtain ⟨text, -, hparse⟩ := Option.bind_eq_some_iff.mp h
  have hcanonical := isCanonical_of_parse (toOption_parse_iff.mp hparse)
  exact toOption_parse_iff.mpr (parse_print t hcanonical)

namespace FieldDecl

lemma ofJson?_toJson {f : FieldDecl} (htype : TypeExpr.ofJson? f.type.toJson = some f.type) :
    ofJson? f.toJson = some f := by
  simp only [ofJson?, Option.bind_eq_bind, Option.bind_eq_some_iff]
  exact ⟨_, rfl, f.name, rfl, f.type, htype, f.modifiers, f.modifiers.ofJson?_toJson, f.marked, rfl,
    rfl⟩

lemma rereads : Rereads ofJson? toJson := by
  intro j f h
  simp only [ofJson?, Option.bind_eq_bind, Option.bind_eq_some_iff] at h
  obtain ⟨ms, -, name, -, type, htype, modifiers, -, marked, -, h⟩ := h
  cases h
  exact ofJson?_toJson (TypeExpr.rereads.required htype)

lemma fits (f : FieldDecl) (depth : Nat) : Fits (depth + 2) f.toJson := by
  apply Fits.object
  simp only [List.forall_mem_cons]
  exact ⟨.string _, .string _, f.modifiers.fits depth, .bool _, List.forall_mem_nil _⟩

end FieldDecl

namespace TypeDecl

lemma ofJson?_toJson {d : TypeDecl}
    (hsuperclass : nullable? TypeExpr.ofJson? (ofOption (d.superclass.map (·.toJson))) =
      some d.superclass)
    (hinterfaces : list? TypeExpr.ofJson? (.array (d.interfaces.map (·.toJson))) =
      some d.interfaces)
    (hfields : list? FieldDecl.ofJson? (.array (d.fields.map (·.toJson))) = some d.fields) :
    ofJson? d.toJson = some d := by
  have henclosing : nullable? text? (ofOption (d.enclosing.map fun n => .string n.text)) =
      some (d.enclosing.map (·.text)) := by
    cases d.enclosing <;> rfl
  simp only [ofJson?, Option.bind_eq_bind, Option.bind_eq_some_iff]
  refine ⟨_, rfl, d.package, rfl, d.name, rfl, _, henclosing, d.superclass, hsuperclass,
    d.interfaces, hinterfaces, d.modifiers, d.modifiers.ofJson?_toJson, d.fields, hfields, ?_⟩
  have hback : (d.enclosing.map (·.text)).map (⟨·⟩) = d.enclosing := by
    cases d.enclosing <;> rfl
  rw [hback]
  rfl

lemma rereads : Rereads ofJson? toJson := by
  intro j d h
  simp only [ofJson?, Option.bind_eq_bind, Option.bind_eq_some_iff] at h
  obtain ⟨ms, -, package, -, name, -, enclosing, -, superclass, hsuperclass, interfaces,
    hinterfaces, modifiers, -, fields, hfields, h⟩ := h
  cases h
  have hnull : ∀ t : TypeExpr, t.toJson ≠ .null := by
    intro t ht
    cases ht
  apply ofJson?_toJson
  · exact (TypeExpr.rereads.nullable hnull).optional rfl hsuperclass
  · exact TypeExpr.rereads.list.optional rfl hinterfaces
  · exact FieldDecl.rereads.list.optional rfl hfields

lemma fits (d : TypeDecl) (depth : Nat) : Fits (depth + 4) d.toJson := by
  apply Fits.object
  simp only [List.forall_mem_cons]
  exact ⟨.string _, .string _, .ofOption (fun _ => .string _) _, .ofOption (fun _ => .string _) _,
    Fits.map (fun _ => .string _) _, d.modifiers.fits _, Fits.map (fun f => f.fits depth) _,
    List.forall_mem_nil _⟩

end TypeDecl

namespace Manifest

lemma rereads : Rereads ofJson? toJson := by
  intro j m h
  simp only [ofJson?, Option.bind_eq_bind, Option.bind_eq_some_iff] at h
  obtain ⟨ms, -, usesPlatform, -, types, htypes, h⟩ := h
  cases h
  simp only [ofJson?, Option.bind_eq_bind, Option.bind_eq_some_iff]
  exact ⟨_, rfl, usesPlatform, rfl, types, TypeDecl.rereads.list.optional rfl htypes, rfl⟩

/-- A manifest nests six deep: its types, their fields and the modifiers of these. -/
lemma fits (m : Manifest) (depth : Nat) : Fits (depth + 6) m.toJson := by
  apply Fits.object
  simp only [List.forall_mem_cons]
  exact ⟨.bool _, Fits.map (fun d => d.fits depth) m.types, List.forall_mem_nil _⟩

end Manifest

namespace Config

/-- Every configuration is read again, whether or not it could be used. -/
lemma ofJson?_toJson (c : Config) : ofJson? c.toJson = some c := by
  have hparts : ofJson? c.toJson = (list? text? (ofTexts c.excludedPrefixes)).bind fun ts =>
      some { c with excludedPrefixes := ts } := rfl
  have hprefixes : list? text? (ofTexts c.excludedPrefixes) = some c.excludedPrefixes :=
    mapM_map_eq_some fun t _ => rfl
  rw [hparts, hprefixes, Option.bind_some]

lemma fits (c : Config) (depth : Nat) : Fits (depth + 2) c.toJson := by
  apply Fits.object
  simp only [List.forall_mem_cons]
  exact ⟨.string _, .string _, .string _, .string _, .string _, .string _, .string _, .string _,
    .string _, .string _, .string _, Fits.map .string _, List.forall_mem_nil _⟩

end Config

/-- Whatever is read as a manifest or as a configuration survives being written out: every part of
it is read again, from the value, from one line and from several, and it is written the same the
second time. -/
theorem documents_survive :
    (∀ j m, Manifest.ofJson? j = some m → Survives Manifest.ofJson? Manifest.toJson m) ∧
    ∀ j c, Config.ofJson? j = some c → Survives Config.ofJson? Config.toJson c := by
  constructor
  · intro j m hm
    exact survives_of_rereads Manifest.rereads (fun m => m.fits 121) hm
  · intro j c hc
    have hrereads : Rereads Config.ofJson? Config.toJson := fun _ c _ => c.ofJson?_toJson
    exact survives_of_rereads hrereads (fun c => c.fits 125) hc

/-- Records in arrays and in objects, with keys left out and in another order, modifiers repeated
and written as objects, and types with space in them. -/
def looseManifest : Json :=
  .array [.bool false, .array [
    .object [("superclass", .string " a.Base < b.K ,? extends int [] > "),
      ("fields", .array [.array [.string "shown", .string "a.List < ? > []\t"],
        .object [("marked", .bool true), ("type", .string "long"), ("name", .string "\"id\"")]]),
      ("modifiers", .array [.string "static", .object [("final", .null)], .string "static"]),
      ("name", .string "Outer")],
    .array [.string [], .string "Inner", .string "Outer", .null, .array [.string "a.Base"]]]]

/-- What `looseManifest` writes. -/
def readManifest : Manifest where
  usesPlatform := false
  types := [
    { package := [], name := "Outer", enclosing := none,
      superclass := some (.declared "a.Base"
        [.declared "b.K" [], .upperBounded (.array (.primitive .int))]),
      interfaces := [], modifiers := .ofList [.final, .static],
      fields := [
        { name := "shown", type := .array (.declared "a.List" [.wildcard]), modifiers := .empty,
          marked := false },
        { name := "\"id\"", type := .primitive .long, modifiers := .empty, marked := true }] },
    { package := [], name := "Inner", enclosing := some "Outer", superclass := none,
      interfaces := [.declared "a.Base" []], modifiers := .empty, fields := [] }]

theorem looseManifest_survives :
    Manifest.ofJson? looseManifest = some readManifest ∧
    Survives Manifest.ofJson? Manifest.toJson readManifest ∧
    Config.ofJson? (.object [("list_type", .string "x.L")]) = some { listType := "x.L" } ∧
    Survives Config.ofJson? Config.toJson { listType := "x.L" } := by
  have hmanifest : Manifest.ofJson? looseManifest = some readManifest := by decide +kernel
  have hconfig : Config.ofJson? (.object [("list_type", .string "x.L")]) =
      some { listType := "x.L" } := by decide +kernel
  exact ⟨hmanifest, documents_survive.1 _ _ hmanifest, hconfig, documents_survive.2 _ _ hconfig⟩

end Companion
