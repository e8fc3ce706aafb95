import ForeignBindings.Generate

/-!
# Flattening goes through a tree depth first

The reference traversal `depthFirst` lists the declarations of a tree in source order, with the
contents of a namespace in the place of the namespace. Flattening a tree is sorting that list by
kind, unless some class of it lists a method that is no function (`ofTree_eq`, and
`flattensDepthFirst` for what may be read off). So a namespace may give way to its contents
wherever it stands, except where it is a method itself (`ofTree_dissolves`).
-/

namespace ForeignBindings

/-! ## The reference traversal -/

mutual

/-- What a declaration contributes to the traversal: a namespace its contents, any other itself. -/
def Declaration.leaves : Declaration → List Declaration
  | .scope _ members => depthFirst members
  | .function f => [.function f]
  | .struct s => [.struct s]
  | .enum e => [.enum e]
  | .typedef t => [.typedef t]
  | .classType name methods fields documentation isAbstract =>
    [.classType name methods fields documentation isAbstract]

/-- The declarations of a tree that are no namespaces, in depth-first order. -/
def depthFirst : List Declaration → List Declaration
  | [] => []
  | decl :: rest => decl.leaves ++ depthFirst rest

end

/-- A declaration stands at the top of a tree or inside namespaces of it. -/
inductive Reaches : List Declaration → Declaration → Prop
  | here {tree decl} : decl ∈ tree → Reaches tree decl
  | inside {tree name members decl} : .scope name members ∈ tree → Reaches members decl →
      Reaches tree decl

namespace Declaration

def function? : Declaration → Option FunctionDecl
  | .function f => some f
  | _ => none

def struct? : Declaration → Option StructDecl
  | .struct s => some s
  | _ => none

def enum? : Declaration → Option EnumDecl
  | .enum e => some e
  | _ => none

def typedef? : Declaration → Option TypedefDecl
  | .typedef t => some t
  | _ => none

/-- A class, with those of its methods that are functions. -/
def class? : Declaration → Option ClassDecl
  | .classType name methods fields documentation isAbstract =>
    some ⟨name, methods.filterMap function?, fields, documentation, isAbstract⟩
  | _ => none

/-- The functions that a declaration contributes: itself, or the methods that a class owns. -/
def boundFunctions (decl : Declaration) : List BoundFunction :=
  match decl.function?, decl.class? with
  | some f, _ => [⟨none, f⟩]
  | _, some owner => owner.methods.map (⟨some owner, ·⟩)
  | _, _ => []

/-- What a class lists as methods. -/
def methods : Declaration → List Declaration
  | .classType _ methods .. => methods
  | _ => []

/-- Of some methods of a class those that are no functions, as they are reported. -/
def misplacedAmong (className : String) (methods : List Declaration) : List MisplacedMethod :=
  (methods.filter (·.kind ≠ .function)).map fun m => ⟨className, m.kind, m.name⟩

/-- The misplaced methods of a declaration; only a class has any. -/
def misplaced (decl : Declaration) : List MisplacedMethod := misplacedAmong decl.name decl.methods

end Declaration

/-- The declarations of a list by kind, each kind in the order of the list. -/
def DeclarationSet.byKind (decls : List Declaration) : DeclarationSet where
  functions := decls.flatMap (·.boundFunctions)
  structs := decls.filterMap (·.struct?)
  enums := decls.filterMap (·.enum?)
  typedefs := decls.filterMap (·.typedef?)
  classes := decls.filterMap (·.class?)

/-- Flattening a tree gives its declarations in depth-first order, or the first misplaced method. -/
structure FlattensDepthFirst (tree : List Declaration) : Prop where
  fails : (∃ e, DeclarationSet.ofTree tree = .error e) ↔
    ∃ decl, Reaches tree decl ∧ ∃ m ∈ decl.methods, m.kind ≠ .function
  firstFault : ∀ e, DeclarationSet.ofTree tree = .error e ↔
    ((depthFirst tree).flatMap (·.misplaced)).head? = some e
  buckets : ∀ set, DeclarationSet.ofTree tree = .ok set ↔
    (depthFirst tree).flatMap (·.misplaced) = [] ∧ set = .byKind (depthFirst tree)

/-! ## Flattening is sorting by kind -/

theorem depthFirst_append (as bs : List Declaration) :
    depthFirst (as ++ bs) = depthFirst as ++ depthFirst bs := by
  induction as with
  | nil => rfl
  | cons a as ih => simp only [List.cons_append, depthFirst, ih, List.append_assoc]

/-- A value, unless something is wrong; then the first thing that is wrong. -/
def unlessFault {ε α : Type} (faults : List ε) (value : α) : Except ε α :=
  match faults with
  | [] => .ok value
  | fault :: _ => .error fault

theorem unlessFault_append {ε α β γ : Type} (as bs : List ε) (x : α) (y : β) (f : α → β → γ) :
    unlessFault (as ++ bs) (f x y) = (do return f (← unlessFault as x) (← unlessFault bs y)) := by
  cases as with
  | cons a as => rfl
  | nil => cases bs <;> rfl

namespace DeclarationSet

theorem byKind_append (as bs : List Declaration) : byKind (as ++ bs) = byKind as ++ byKind bs := by
  simp only [byKind, List.flatMap_append, List.filterMap_append]
  rfl

theorem methodsOf_eq (name : String) (methods : List Declaration) :
    methodsOf name methods =
      unlessFault (Declaration.misplacedAmong name methods) (methods.filterMap (·.function?)) := by
  induction methods with
  | nil => rfl
  | cons m rest ih =>
      cases m with
      | function f =>
          have skipped : Declaration.misplacedAmong name (.function f :: rest) =
              [] ++ Declaration.misplacedAmong name rest := rfl
          have kept : (Declaration.function f :: rest).filterMap (·.function?) =
              f :: rest.filterMap (·.function?) := rfl
          rw [methodsOf, ih, skipped, kept, unlessFault_append [] _ f _ List.cons]
          rfl
      | struct | enum | typedef | scope | classType => rfl

mutual

theorem ofDeclaration_eq (decl : Declaration) :
    ofDeclaration decl = unlessFault (decl.leaves.flatMap (·.misplaced)) (byKind decl.leaves) := by
  cases decl with
  | scope name members => exact ofTree_eq members
  | classType name methods fields documentation isAbstract =>
      rw [ofDeclaration, methodsOf_eq, Declaration.leaves, List.flatMap_singleton]
      have faults : (Declaration.classType name methods fields documentation isAbstract).misplaced =
          Declaration.misplacedAmong name methods := rfl
      rw [faults, byKind, List.flatMap_singleton]
      cases Declaration.misplacedAmong name methods <;> rfl
  | function | struct | enum | typedef => rfl

theorem ofTree_eq (tree : List Declaration) :
    ofTree tree =
      unlessFault ((depthFirst tree).flatMap (·.misplaced)) (byKind (depthFirst tree)) := by
  cases tree with
  | nil => rfl
  | cons decl rest =>
      rw [ofTree, depthFirst, List.flatMap_append, byKind_append,
        unlessFault_append _ _ _ _ (· ++ ·), ofDeclaration_eq decl, ofTree_eq rest]

end

end DeclarationSet

/-! ## Which declarations the traversal meets -/

theorem depthFirst_eq_flatMap (tree : List Declaration) :
    depthFirst tree = tree.flatMap (·.leaves) := by
  induction tree with
  | nil => rfl
  | cons decl rest ih => rw [depthFirst, ih, List.flatMap_cons]

theorem Reaches.mono {tree larger : List Declaration} {decl : Declaration}
    (reaches : Reaches tree decl) (sub : tree ⊆ larger) : Reaches larger decl := by
  cases reaches with
  | here member => exact .here (sub member)
  | inside member inner => exact .inside (sub member) inner

mutual

theorem reaches_of_mem_leaves {decl leaf : Declaration} (member : leaf ∈ decl.leaves) :
    Reaches [decl] leaf := by
  cases decl with
  | scope name members =>
      have inner : Reaches members leaf := reaches_of_mem_depthFirst member
      exact .inside List.mem_cons_self inner
  | function | struct | enum | typedef | classType => exact .here member

theorem reaches_of_mem_depthFirst {tree : List Declaration} {leaf : Declaration}
    (member : leaf ∈ depthFirst tree) : Reaches tree leaf := by
  cases tree with
  | nil => cases member
  | cons decl rest =>
      rcases List.mem_append.mp member with inFirst | inRest
      · exact (reaches_of_mem_leaves inFirst).mono (by simp)
      · exact (reaches_of_mem_depthFirst inRest).mono (List.subset_cons_self decl rest)

end

theorem leaves_subset_of_reaches {tree : List Declaration} {decl : Declaration}
    (reaches : Reaches tree decl) : decl.leaves ⊆ depthFirst tree := by
  have ofMember {tree : List Declaration} {decl : Declaration} (member : decl ∈ tree) :
      decl.leaves ⊆ depthFirst tree := by
    rw [depthFirst_eq_flatMap]
    exact fun leaf inLeaves => List.mem_flatMap.mpr ⟨decl, member, inLeaves⟩
  induction reaches with
  | here member => exact ofMember member
  | inside member _ ih => exact List.Subset.trans ih (ofMember member)

theorem mem_depthFirst_of_reaches {tree : List Declaration} {decl : Declaration}
    (reaches : Reaches tree decl) (leaf : decl.kind ≠ .scope) : decl ∈ depthFirst tree := by
  apply leaves_subset_of_reaches reaches
  cases decl with
  | scope name members => exact absurd rfl leaf
  | function | struct | enum | typedef | classType => exact List.mem_singleton_self _

theorem misplacedAmong_ne_nil {className : String} {methods : List Declaration} :
    Declaration.misplacedAmong className methods ≠ [] ↔ ∃ m ∈ methods, m.kind ≠ .function := by
  simp [Declaration.misplacedAmong, List.filter_eq_nil_iff]

theorem misplaced_depthFirst_ne_nil (tree : List Declaration) :
    (depthFirst tree).flatMap (·.misplaced) ≠ [] ↔
      ∃ decl, Reaches tree decl ∧ ∃ m ∈ decl.methods, m.kind ≠ .function := by
  constructor
  · intro faulty
    obtain ⟨e, member⟩ := List.exists_mem_of_ne_nil _ faulty
    obtain ⟨decl, inTree, ofDecl⟩ := List.mem_flatMap.mp member
    exact ⟨decl, reaches_of_mem_depthFirst inTree,
      misplacedAmong_ne_nil.mp (List.ne_nil_of_mem ofDecl)⟩
  · rintro ⟨decl, reaches, methods⟩
    have leaf : decl.kind ≠ .scope := by
      obtain ⟨m, inMethods, -⟩ := methods
      cases decl with
      | scope => exact absurd inMethods List.not_mem_nil
      | function | struct | enum | typedef | classType => exact nofun
    obtain ⟨e, ofDecl⟩ := List.exists_mem_of_ne_nil _ (misplacedAmong_ne_nil.mpr methods)
    exact List.ne_nil_of_mem
      (List.mem_flatMap.mpr ⟨decl, mem_depthFirst_of_reaches reaches leaf, ofDecl⟩)

theorem flattensDepthFirst (tree : List Declaration) : FlattensDepthFirst tree := by
  have flattening := DeclarationSet.ofTree_eq tree
  have faults := misplaced_depthFirst_ne_nil tree
  cases found : (depthFirst tree).flatMap (·.misplaced) with
  | nil =>
      rw [found] at flattening faults
      exact
        { fails := by simp [flattening, unlessFault, ← faults]
          firstFault := by simp [flattening, unlessFault, found]
          buckets := by simp [flattening, unlessFault, found, eq_comm] }
  | cons fault _ =>
      rw [found] at flattening faults
      exact
        { fails := by simp [flattening, unlessFault, ← faults]
          firstFault := by simp [flattening, unlessFault, found]
          buckets := by simp [flattening, unlessFault, found] }

/-! ## Namespaces that give way to their contents -/

/-- Which namespaces of a tree may give way to their contents: any at any depth, those inside the
declarations at the top, or all but the methods of the classes that namespaces alone lead to. -/
inductive ScopeChoice
  | any | nested | exceptMethods

namespace ScopeChoice

/-- The choice among the members of a namespace. -/
def inScope : ScopeChoice → ScopeChoice
  | exceptMethods => exceptMethods
  | any | nested => any

/-- The choice among the methods of a class. -/
def inClass : ScopeChoice → ScopeChoice
  | exceptMethods => nested
  | any | nested => any

end ScopeChoice

/-- One namespace of a tree, as far as the choice goes, gives way to its contents. -/
inductive Dissolves : ScopeChoice → List Declaration → List Declaration → Prop
  | here {choice name members rest} : choice ≠ .nested →
      Dissolves choice (.scope name members :: rest) (members ++ rest)
  | inScope {choice : ScopeChoice} {name members members' rest} :
      Dissolves choice.inScope members members' →
      Dissolves choice (.scope name members :: rest) (.scope name members' :: rest)
  | inClass {choice : ScopeChoice} {name methods methods' fields documentation isAbstract rest} :
      Dissolves choice.inClass methods methods' →
      Dissolves choice (.classType name methods fields documentation isAbstract :: rest)
        (.classType name methods' fields documentation isAbstract :: rest)
  | later {choice decl rest rest'} : Dissolves choice rest rest' →
      Dissolves choice (decl :: rest) (decl :: rest')

theorem Dissolves.any {choice : ScopeChoice} {tree tree' : List Declaration}
    (dissolves : Dissolves choice tree tree') : Dissolves .any tree tree' := by
  induction dissolves with
  | here _ => exact .here nofun
  | inScope _ ih => exact .inScope ih
  | inClass _ ih => exact .inClass ih
  | later _ ih => exact .later ih

namespace DeclarationSet

/-- What is reported about a method that is no function does not depend on its contents. -/
theorem methodsOf_dissolves {methods methods' : List Declaration}
    (dissolves : Dissolves .nested methods methods') (name : String) :
    methodsOf name methods' = methodsOf name methods := by
  generalize choice : ScopeChoice.nested = chosen at dissolves
  induction dissolves with
  | here outside => exact absurd choice.symm outside
  | inScope | inClass => rfl
  | @later _ decl rest rest' _ ih =>
      cases decl with
      | function f => rw [methodsOf, methodsOf, ih choice]
      | struct | enum | typedef | scope | classType => rfl

theorem ofTree_dissolves {tree tree' : List Declaration}
    (dissolves : Dissolves .exceptMethods tree tree') : ofTree tree' = ofTree tree := by
  generalize choice : ScopeChoice.exceptMethods = chosen at dissolves
  induction dissolves with
  | @here _ name members rest _ =>
      have same : depthFirst (members ++ rest) = depthFirst (.scope name members :: rest) :=
        depthFirst_append members rest
      rw [ofTree_eq, ofTree_eq, same]
  | inScope _ ih =>
      subst choice
      rw [ofTree, ofTree, ofDeclaration, ofDeclaration, ih rfl]
  | inClass inMethods =>
      subst choice
      rw [ofTree, ofTree, ofDeclaration, ofDeclaration, methodsOf_dissolves inMethods]
  | later _ ih => rw [ofTree, ofTree, ih choice]

end DeclarationSet

/-! ## The statement -/

/-- Flattening goes through a tree depth first, and generation does not see where a namespace that
is no method gives way to its contents. -/
theorem flattensDepthFirst_and_generate_dissolves (tree tree' : List Declaration)
    (options : Options) :
    FlattensDepthFirst tree ∧
      (Dissolves .exceptMethods tree tree' →
        Dissolves .any tree tree' ∧ generate tree' options = generate tree options) := by
  refine ⟨flattensDepthFirst tree, fun dissolves => ⟨dissolves.any, ?_⟩⟩
  rw [generate, generate, DeclarationSet.ofTree_dissolves dissolves]

/-- A namespace two levels down, among the namespaces of a tree. -/
theorem flattensDepthFirst_and_generate_dissolves_nested :
    let point : Declaration := .struct ⟨"Point", [], none⟩
    let mode : Declaration := .enum ⟨"Mode", [], none⟩
    let tree : List Declaration := [mode, .scope "outer" [.scope "inner" [point], mode]]
    let tree' : List Declaration := [mode, .scope "outer" [point, mode]]
    let options : Options := ⟨"Ui", "ui", .cdecl⟩
    Dissolves .exceptMethods tree tree' ∧ FlattensDepthFirst tree ∧
      generate tree' options = generate tree options := by
  intro point mode tree tree' options
  have dissolves : Dissolves .exceptMethods tree tree' := .later (.inScope (.here nofun))
  obtain ⟨flattens, same⟩ := flattensDepthFirst_and_generate_dissolves tree tree' options
  exact ⟨dissolves, flattens, (same dissolves).2⟩

/-- A namespace that a class lists as a method is reported, and its contents may be methods. -/
theorem generate_dissolves_method :
    let close : Declaration := .function ⟨"close", "void", [], none, false, false⟩
    let tree : List Declaration := [.classType "Pool" [.scope "detail" [close]] [] none false]
    let tree' : List Declaration := [.classType "Pool" [close] [] none false]
    let options : Options := ⟨"NS", "lib", .cdecl⟩
    Dissolves .any tree tree' ∧ generate tree options = .error ⟨"Pool", .scope, "detail"⟩ ∧
      ∃ generation, generate tree' options = .ok generation :=
  ⟨.inClass (.here nofun), rfl, _, rfl⟩

end ForeignBindings
