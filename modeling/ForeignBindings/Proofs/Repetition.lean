import ForeignBindings.Proofs.DepthFirst
import ForeignBindings.Proofs.FirstOccurrence

/-!
# Seeing a declaration twice

A declaration that a tree reaches already may follow it once more: the traversal then repeats some
of its leaves, their faults come after the faults of the tree, and every kind finds their names
taken. So the deduplicated set is the same (`deduplicated_ofTree_append`), and with it the sections
(`code_generate_append_of_reaches`). What is reported is not: the repetitions are dropped with a
warning.
-/

namespace ForeignBindings

namespace DeclarationSet

theorem deduplicated_append_of_subset {a b : DeclarationSet} (functions : b.functions ⊆ a.functions)
    (structs : b.structs ⊆ a.structs) (enums : b.enums ⊆ a.enums)
    (typedefs : b.typedefs ⊆ a.typedefs) (classes : b.classes ⊆ a.classes) :
    (a ++ b).deduplicated = a.deduplicated := by
  have names {α : Type} {name : α → String} {xs ys : List α} (sub : ys ⊆ xs) (n : String) :
      n ∈ (xs ++ ys).map name ↔ n ∈ xs.map name := by
    rw [List.map_append, List.mem_append, or_iff_left_iff_imp]
    exact fun member => List.map_subset name sub member
  have beforeEnums (n : String) : n ∈ (a ++ b).namesBeforeEnums ↔ n ∈ a.namesBeforeEnums :=
    names structs n
  have beforeClasses (n : String) : n ∈ (a ++ b).namesBeforeClasses ↔ n ∈ a.namesBeforeClasses := by
    rw [namesBeforeClasses, namesBeforeClasses, List.mem_append, List.mem_append]
    exact or_congr (beforeEnums n) (names enums n)
  have beforeTypedefs (n : String) :
      n ∈ (a ++ b).namesBeforeTypedefs ↔ n ∈ a.namesBeforeTypedefs := by
    rw [namesBeforeTypedefs, namesBeforeTypedefs, List.mem_append, List.mem_append]
    exact or_congr (beforeClasses n) (names classes n)
  have own : (a ++ b).ownTypedefs = a.ownTypedefs ++ b.ownTypedefs := List.filter_append ..
  rw [deduplicated, deduplicated, own]
  congr 1
  · exact firstBy_append_of_subset (fun _ => Iff.rfl) functions
  · exact firstBy_append_of_subset (fun _ => Iff.rfl) structs
  · exact firstBy_append_of_subset beforeEnums enums
  · exact firstBy_append_of_subset beforeTypedefs (List.filter_subset _ typedefs)
  · exact firstBy_append_of_subset beforeClasses classes

theorem deduplicated_byKind_append {decls again : List Declaration} (repeated : again ⊆ decls) :
    (byKind (decls ++ again)).deduplicated = (byKind decls).deduplicated := by
  have functions : (byKind again).functions ⊆ (byKind decls).functions := by
    intro f member
    obtain ⟨decl, inAgain, ofDecl⟩ := List.mem_flatMap.mp member
    exact List.mem_flatMap.mpr ⟨decl, repeated inAgain, ofDecl⟩
  rw [byKind_append]
  exact deduplicated_append_of_subset functions (List.filterMap_subset _ repeated)
    (List.filterMap_subset _ repeated) (List.filterMap_subset _ repeated)
    (List.filterMap_subset _ repeated)

/-- What is left of a tree when every name is declared once does not change. -/
theorem deduplicated_ofTree_append {tree again : List Declaration}
    (seen : ∀ decl ∈ again, Reaches tree decl) :
    (ofTree (tree ++ again)).map deduplicated = (ofTree tree).map deduplicated := by
  have repeated : depthFirst again ⊆ depthFirst tree := by
    rw [depthFirst_eq_flatMap again]
    intro leaf member
    obtain ⟨decl, inAgain, inLeaves⟩ := List.mem_flatMap.mp member
    exact leaves_subset_of_reaches (seen decl inAgain) inLeaves
  rw [ofTree_eq, ofTree_eq, depthFirst_append, List.flatMap_append]
  cases faults : (depthFirst tree).flatMap (·.misplaced) with
  | cons e _ => rfl
  | nil =>
      have noFaults : (depthFirst again).flatMap (·.misplaced) = [] := by
        rw [List.flatMap_eq_nil_iff] at faults ⊢
        exact fun decl member => faults decl (repeated member)
      rw [noFaults]
      exact congrArg Except.ok (deduplicated_byKind_append repeated)

end DeclarationSet

theorem code_generate (tree : List Declaration) (options : Options) :
    (generate tree options).map (·.code) =
      ((DeclarationSet.ofTree tree).map (·.deduplicated)).map (generateFrom · options |>.code) := by
  rw [generate]
  cases DeclarationSet.ofTree tree <;> rfl

/-- Declarations that a tree holds already, at the top or inside namespaces, change no section when
they follow once more. -/
theorem code_generate_append_of_reaches {tree again : List Declaration} (options : Options)
    (seen : ∀ decl ∈ again, Reaches tree decl) :
    (generate (tree ++ again) options).map (·.code) = (generate tree options).map (·.code) := by
  rw [code_generate, code_generate, DeclarationSet.deduplicated_ofTree_append seen]

/-- A struct and an enum of one name, the struct inside a namespace, and both once more with the
namespace. -/
theorem code_generate_append_of_reaches_mode :
    let struct : Declaration := .struct ⟨"Mode", [⟨"bits", "int"⟩], none⟩
    let enum : Declaration := .enum ⟨"Mode", [⟨"On", 1⟩], none⟩
    let tree : List Declaration := [enum, .scope "detail" [struct]]
    let again : List Declaration := [struct, .scope "detail" [struct], enum]
    let options : Options := ⟨"Ui", "ui", .cdecl⟩
    (∀ decl ∈ again, Reaches tree decl) ∧
      (generate (tree ++ again) options).map (·.code) = (generate tree options).map (·.code) := by
  intro struct enum tree again options
  have scopeMem : Declaration.scope "detail" [struct] ∈ tree := by simp [tree]
  have inside : Reaches tree struct := .inside scopeMem (.here List.mem_cons_self)
  have seen : ∀ decl ∈ again, Reaches tree decl := by
    simp only [again, List.forall_mem_cons, List.not_mem_nil, false_imp_iff, implies_true, and_true]
    exact ⟨inside, .here (by simp [tree]), .here (by simp [tree])⟩
  exact ⟨seen, code_generate_append_of_reaches options seen⟩

end ForeignBindings
