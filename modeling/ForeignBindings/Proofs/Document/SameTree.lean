import Mathlib
import ForeignBindings.Proofs.Document.Edits
import ForeignBindings.Proofs.Document.KeyOrder

/-!
# Documents that hold the same tree

A declaration tree comes from a value of a data format or from the text of a declaration file.
Neither the order of keys nor keys that no field is called after nor whether defaults are written
out makes a difference to it (`tree_of_edits`). What is added is a value that the formats can spell,
so a whole number in it fits in 64 bits.
-/

namespace ForeignBindings
open Document Declaration

/-- A document with a declaration tree. -/
inductive TreeDocument
  | ofValue (v : Value)
  | ofText (text : String)

def TreeDocument.tree : TreeDocument → Except DocumentError (List Declaration)
  | ofValue v => decodeTree false v
  | ofText text => parseFile text

/-- Differences between two documents: edits of the values that they hold, or another order of the
keys in a text. -/
inductive TreeDocument.Edit : TreeDocument → TreeDocument → Prop
  | inValue {v v' : Value} (edits : Edits (.listOf (.declaration false)) v v') :
      Edit (.ofValue v) (.ofValue v')
  | inText {text text' : String} {v v' : Value} (read : Toml.read text = .ok v)
      (read' : Toml.read text' = .ok v') (edits : Edits .file v v') :
      Edit (.ofText text) (.ofText text')
  | inOrder {text text' : String} {lines lines' : List Toml.Line}
      (outline : Toml.outline? text = some lines) (outline' : Toml.outline? text' = some lines')
      (reordered : Toml.Reordered lines lines') : Edit (.ofText text) (.ofText text')

/-- A document is read as its value is, but for the fault when there is one. -/
theorem readAs_eq_ok {α : Type} {decode : Value → Except DocumentError α} {text : String} {a : α} :
    Toml.readAs decode text = .ok a ↔ ∃ v, Toml.read text = .ok v ∧ decode v = .ok a := by
  rw [Toml.readAs, bind_eq_ok]
  refine exists_congr fun v => and_congr_right fun _ => ?_
  cases decode v with
  | error e => exact iff_of_false nofun nofun
  | ok a' => exact Iff.rfl

theorem TreeDocument.Edit.tree {document document' : TreeDocument}
    (edit : Edit document document') : SucceedsAs document.tree document'.tree := by
  cases edit with
  | inValue edits => exact edits.reads
  | inText read read' edits =>
      intro tree decoded
      obtain ⟨v, same, decoded⟩ := readAs_eq_ok.mp decoded
      cases read.symm.trans same
      exact readAs_eq_ok.mpr ⟨_, read', edits.reads tree decoded⟩
  | inOrder outline outline' reordered =>
      intro tree decoded
      obtain ⟨v, read, decoded⟩ := readAs_eq_ok.mp decoded
      rw [Toml.read_eq, outline] at read
      refine readAs_eq_ok.mpr ⟨v, ?_, decoded⟩
      rw [Toml.read_eq, outline']
      exact reordered.readLines v read

theorem tree_of_edits {document document' : TreeDocument}
    (edits : Relation.ReflTransGen TreeDocument.Edit document document') {tree : List Declaration}
    (read : document.tree = .ok tree) : document'.tree = .ok tree := by
  induction edits with
  | refl => exact read
  | tail _ edit ih => exact edit.tree tree ih

/-- A method gets a note and a default, in front of its other keys. -/
theorem edits_method :
    let method : List (String × Value) := [("kind", .string "Function"), ("name", .string "f")]
    let added : List (String × Value) := [("is_static", .bool false), ("note", .integer 5)]
    let tree (method : List (String × Value)) : Value := .list [.table [("kind", .string "Class"),
      ("methods", .list [.table method]), ("name", .string "C")]]
    Edits (.listOf (.declaration false)) (tree method) (tree (added ++ method)) := by
  intro method added tree
  let classSpecs := (kindFormat false).specs ++ (bodyFormat .classType).specs
  let methods : FieldSpec := ⟨"methods", .listOf (.declaration true), some (.list [])⟩
  have inMethod {entries entries' : List (String × Value)}
      (fields : (Slot.declaration false).specs? [("kind", .string "Class"),
        ("methods", .list [.table entries]), ("name", .string "C")] = some classSpecs)
      (edit : Edit (.declaration true) (.table entries) (.table entries')) :
      Edit (.listOf (.declaration false)) (tree entries) (tree entries') := by
    have isField : methods ∈ classSpecs := @List.mem_of_getElem? _ _ 2 _ rfl
    have item : Edit methods.slot (.list [.table entries]) (.list [.table entries']) :=
      @Edit.inItem _ _ [] [] _ _ rfl edit
    have field := @Edit.inField _ _ [("kind", .string "Class")] [("name", .string "C")] methods _ _
      fields isField item
    exact @Edit.inItem _ _ [] [] _ _ rfl field
  have noted : Edit (.declaration true) (.table method) (.table (("note", .integer 5) :: method)) :=
    .add rfl (by decide) (by decide) fun _ => rfl
  let isStatic : FieldSpec := ⟨"is_static", .flag, some (.bool false)⟩
  have writtenOut : Edit (.declaration true) (.table (("note", .integer 5) :: method))
      (.table (added ++ method)) := by
    have isField : isStatic ∈ (kindFormat true).specs ++ (bodyFormat .function).specs :=
      @List.mem_of_getElem? _ _ 6 _ rfl
    exact @Edit.writeOut _ _ _ isStatic _ rfl isField rfl (by decide)
  exact .head (inMethod rfl noted) (.single (inMethod rfl writtenOut))

/-- A name is given before the kind. -/
theorem edit_order :
    TreeDocument.Edit (.ofText "[[declarations]]\nkind = 'Namespace'\nname = 'N'")
      (.ofText "[[declarations]]\nname = 'N'\nkind = 'Namespace'") := by
  let opened : Toml.Line := .header true ["declarations".toList]
  let kind : Toml.Parts × Toml.Sketch := (["kind".toList], .text "'Namespace'".toList)
  let name : Toml.Parts × Toml.Sketch := (["name".toList], .text "'N'".toList)
  have outline : Toml.outline? "[[declarations]]\nkind = 'Namespace'\nname = 'N'" =
      some [opened, Toml.entryLine kind, Toml.entryLine name] := by cbv
  have outline' : Toml.outline? "[[declarations]]\nname = 'N'\nkind = 'Namespace'" =
      some [opened, Toml.entryLine name, Toml.entryLine kind] := by cbv
  exact .inOrder outline outline' (@Toml.Reordered.swap [opened] [] kind name)

theorem parseFile_scope :
    parseFile "[[declarations]]\nkind = 'Namespace'\nname = 'N'" = .ok [.scope "N" []] := by
  cbv

theorem tree_of_edits_method_order :
    (TreeDocument.ofValue (.list [.table [("kind", .string "Class"),
        ("methods", .list [.table [("is_static", .bool false), ("note", .integer 5),
          ("kind", .string "Function"), ("name", .string "f")]]), ("name", .string "C")]])).tree =
      .ok [.classType "C" [.function ⟨"f", "void", [], none, false, false⟩] [] none false] ∧
    (TreeDocument.ofText "[[declarations]]\nname = 'N'\nkind = 'Namespace'").tree =
      .ok [.scope "N" []] :=
  ⟨tree_of_edits (.single (.inValue edits_method)) rfl,
    tree_of_edits (.single edit_order) parseFile_scope⟩

end ForeignBindings
