import ForeignBindings.Proofs.Deduplication
import ForeignBindings.Proofs.DepthFirst

/-!
# Which declaration of a type name is kept

Four kinds of declarations claim type names. They are looked at one kind after the other, as in one
walk over the declarations sorted by kind (`types_deduplicated`, `types_byKind`). So the declaration
that is kept is the first one of the foremost kind that declares its name
(`filter_types_deduplicated`), which is not always the first one of the tree; `kept_eq_first_iff`
says when it is.
-/

namespace ForeignBindings

/-- A declaration that claims a type name. -/
inductive TypeDeclaration
  | struct (decl : StructDecl)
  | enum (decl : EnumDecl)
  | classType (decl : ClassDecl)
  | typedef (decl : TypedefDecl)
deriving Repr, DecidableEq

namespace TypeDeclaration

def name : TypeDeclaration → String
  | .struct decl => decl.name
  | .enum decl => decl.name
  | .classType decl => decl.name
  | .typedef decl => decl.name

/-- The place of the kind in the order in which the kinds are looked at. -/
def rank : TypeDeclaration → Nat
  | .struct _ => 0
  | .enum _ => 1
  | .classType _ => 2
  | .typedef _ => 3

/-- All ranks, the foremost first. -/
def ranks : List Nat := [0, 1, 2, 3]

theorem rank_mem_ranks (decl : TypeDeclaration) : decl.rank ∈ ranks := by
  cases decl <;> simp [rank, ranks]

end TypeDeclaration

/-- A declaration as one that claims a type name; a typedef that only repeats a tag claims none. -/
def Declaration.type? : Declaration → Option TypeDeclaration
  | .struct s => some (.struct s)
  | .enum e => some (.enum e)
  | .typedef t => if t.isTagPassthrough then none else some (.typedef t)
  | .classType name methods fields documentation isAbstract =>
    (Declaration.class? (.classType name methods fields documentation isAbstract)).map .classType
  | _ => none

/-- The declarations of a tree that claim type names, in depth-first order. -/
def typeDeclarations (tree : List Declaration) : List TypeDeclaration :=
  (depthFirst tree).filterMap (·.type?)

/-- `kept` is the first declaration of `name` of its kind, and no kind before its own declares
`name`. -/
structure FirstOfForemostKind (decls : List TypeDeclaration) (name : String)
    (kept : TypeDeclaration) : Prop where
  first : decls.find? (fun decl => decl.rank == kept.rank && decl.name == name) = some kept
  foremost : ∀ decl ∈ decls, decl.name = name → kept.rank ≤ decl.rank

namespace DeclarationSet

/-- The declarations of a set that claim type names, in the order in which they are looked at. -/
def types (set : DeclarationSet) : List TypeDeclaration :=
  set.structs.map .struct ++ set.enums.map .enum ++ set.classes.map .classType ++
    set.typedefs.map fun t => .typedef t

/-! ## One walk over all kinds -/

theorem types_deduplicated (set : DeclarationSet) :
    set.deduplicated.types =
      firstBy (·.name) [] { set with typedefs := set.ownTypedefs }.types := by
  simp only [types, firstBy_append, firstBy_map, List.nil_append, List.map_append, List.map_map]
  rfl

theorem filter_type? (decl : Declaration) :
    decl.type?.filter (·.rank == 0) = decl.struct?.map .struct ∧
      decl.type?.filter (·.rank == 1) = decl.enum?.map .enum ∧
      decl.type?.filter (·.rank == 2) = decl.class?.map .classType ∧
      decl.type?.filter (·.rank == 3) =
        (decl.typedef?.filter (!·.isTagPassthrough)).map .typedef := by
  cases decl with
  | typedef t =>
      cases own : t.isTagPassthrough <;>
        simp [own, Declaration.type?, Declaration.struct?, Declaration.enum?, Declaration.class?,
          Declaration.typedef?, TypeDeclaration.rank, Option.filter]
  | struct | enum | classType | function | scope => exact ⟨rfl, rfl, rfl, rfl⟩

/-- The declarations of a list that claim type names, kind by kind. -/
theorem types_byKind (decls : List Declaration) :
    { byKind decls with typedefs := (byKind decls).ownTypedefs }.types =
      TypeDeclaration.ranks.flatMap fun rank =>
        (decls.filterMap (·.type?)).filter (·.rank == rank) := by
  simp only [types, byKind, ownTypedefs, TypeDeclaration.ranks, List.flatMap_cons,
    List.flatMap_nil, List.append_nil, List.filter_filterMap, List.map_filterMap, filter_type?,
    List.append_assoc]

end DeclarationSet

/-! ## The foremost kind -/

namespace TypeDeclaration

variable {decls : List TypeDeclaration} {name : String} {kept first : TypeDeclaration}

/-- The first declaration of a name of the foremost kind that declares it. -/
def foremost? (decls : List TypeDeclaration) (name : String) : Option TypeDeclaration :=
  ranks.findSome? fun rank => decls.find? fun decl => decl.rank == rank && decl.name == name

theorem firstOfForemostKind_of_foremost? (found : foremost? decls name = some kept) :
    FirstOfForemostKind decls name kept := by
  have sorted : ranks.Pairwise (· < ·) := by decide
  obtain ⟨before, rank, after, split, found, earlier⟩ := List.findSome?_eq_some_iff.mp found
  have ofRank : kept.rank = rank := by
    have holds := List.find?_some found
    simp only [Bool.and_eq_true, beq_iff_eq] at holds
    exact holds.1
  subst ofRank
  refine ⟨found, fun decl member named => ?_⟩
  have known := split ▸ decl.rank_mem_ranks
  rw [split, List.pairwise_append] at sorted
  rcases List.mem_append.mp known with front | back
  · -- A declaration of a kind before would have been found.
    have nothing := List.find?_eq_none.mp (earlier decl.rank front) decl member
    simp [named] at nothing
  · rcases List.mem_cons.mp back with same | later
    · exact Nat.le_of_eq same.symm
    · exact Nat.le_of_lt (List.rel_of_pairwise_cons sorted.2.1 later)

theorem exists_foremost? (declared : decls.find? (·.name == name) = some first) :
    ∃ kept, foremost? decls name = some kept := by
  rw [← Option.isSome_iff_exists, foremost?, List.findSome?_isSome_iff]
  refine ⟨first.rank, first.rank_mem_ranks, ?_⟩
  rw [List.find?_isSome]
  exact ⟨first, List.mem_of_find?_eq_some declared, by simpa using List.find?_some declared⟩

end TypeDeclaration

theorem FirstOfForemostKind.unique {decls : List TypeDeclaration} {name : String}
    {a b : TypeDeclaration} (foremost : FirstOfForemostKind decls name a)
    (foremost' : FirstOfForemostKind decls name b) : a = b := by
  have named := List.find?_some foremost.first
  have named' := List.find?_some foremost'.first
  simp only [Bool.and_eq_true, beq_self_eq_true, true_and, beq_iff_eq] at named named'
  have sameRank : a.rank = b.rank := Nat.le_antisymm
    (foremost.foremost b (List.mem_of_find?_eq_some foremost'.first) named')
    (foremost'.foremost a (List.mem_of_find?_eq_some foremost.first) named)
  have first := foremost.first
  rw [sameRank, foremost'.first] at first
  exact (Option.some.inj first).symm

theorem FirstOfForemostKind.eq_iff {decls : List TypeDeclaration} {name : String}
    {kept first : TypeDeclaration} (foremost : FirstOfForemostKind decls name kept)
    (declared : decls.find? (·.name == name) = some first) :
    kept = first ↔ ∀ decl ∈ decls, decl.name = name → first.rank ≤ decl.rank := by
  constructor
  · rintro rfl
    exact foremost.foremost
  · intro least
    obtain ⟨named, before, after, split, earlier⟩ := List.find?_eq_some_iff_append.mp declared
    have firstOfRank :
        decls.find? (fun decl => decl.rank == first.rank && decl.name == name) = some first := by
      refine List.find?_eq_some_iff_append.mpr ⟨?_, before, after, split, fun decl member => ?_⟩
      · rw [named, beq_self_eq_true, Bool.and_self]
      · have unnamed : (decl.name == name) = false := by simpa using earlier decl member
        rw [unnamed, Bool.and_false, Bool.not_false]
    exact foremost.unique ⟨firstOfRank, least⟩

namespace DeclarationSet

theorem filter_types_deduplicated (decls : List Declaration) (name : String) :
    (byKind decls).deduplicated.types.filter (·.name == name) =
      (TypeDeclaration.foremost? (decls.filterMap (·.type?)) name).toList := by
  simp only [types_deduplicated, filter_firstBy, types_byKind, List.find?_flatMap,
    List.find?_filter, Bool.decide_and, Bool.decide_eq_true, TypeDeclaration.foremost?]

theorem mem_types_deduplicated_iff {decls : List Declaration} {decl : TypeDeclaration} :
    decl ∈ (byKind decls).deduplicated.types ↔
      FirstOfForemostKind (decls.filterMap (·.type?)) decl.name decl := by
  have filtered : decl ∈ (byKind decls).deduplicated.types ↔
      decl ∈ (byKind decls).deduplicated.types.filter (·.name == decl.name) := by
    rw [List.mem_filter, beq_self_eq_true, and_iff_left rfl]
  rw [filtered, filter_types_deduplicated, Option.mem_toList]
  constructor
  · exact TypeDeclaration.firstOfForemostKind_of_foremost?
  · intro foremost
    obtain ⟨first, declared⟩ : ∃ first,
        (decls.filterMap (·.type?)).find? (·.name == decl.name) = some first := by
      rw [← Option.isSome_iff_exists, List.find?_isSome]
      exact ⟨decl, List.mem_of_find?_eq_some foremost.first, beq_self_eq_true _⟩
    obtain ⟨kept, found⟩ := TypeDeclaration.exists_foremost? declared
    rw [found, (TypeDeclaration.firstOfForemostKind_of_foremost? found).unique foremost]

/-! ## The statement -/

/-- Of the declarations of a type name in a tree, the one that is kept is the first of the foremost
kind. It is the first of all exactly when no kind before its own declares the name, too. -/
theorem kept_eq_first_iff {tree : List Declaration} {set : DeclarationSet}
    (flat : ofTree tree = .ok set) {name : String} {first : TypeDeclaration}
    (declared : (typeDeclarations tree).find? (·.name == name) = some first) :
    ∃ kept, set.deduplicated.types.filter (·.name == name) = [kept] ∧
      FirstOfForemostKind (typeDeclarations tree) name kept ∧
      (kept = first ↔
        ∀ decl ∈ typeDeclarations tree, decl.name = name → first.rank ≤ decl.rank) := by
  obtain ⟨kept, found⟩ := TypeDeclaration.exists_foremost? declared
  have foremost := TypeDeclaration.firstOfForemostKind_of_foremost? found
  obtain ⟨-, rfl⟩ := ((flattensDepthFirst tree).buckets set).mp flat
  refine ⟨kept, ?_, foremost, foremost.eq_iff declared⟩
  rw [filter_types_deduplicated, ← typeDeclarations, found, Option.toList_some]

/-- A typedef before an enum before a class, all of one name. -/
theorem kept_eq_first_iff_mode :
    let number : TypedefDecl := ⟨"Mode", "int", none⟩
    let enum : EnumDecl := ⟨"Mode", [], none⟩
    let tree : List Declaration := [.typedef number, .scope "detail" [.enum enum],
      .classType "Mode" [] [] none false]
    ∃ set kept, ofTree tree = .ok set ∧
      (typeDeclarations tree).find? (·.name == "Mode") = some (.typedef number) ∧
      set.deduplicated.types.filter (·.name == "Mode") = [kept] ∧
      FirstOfForemostKind (typeDeclarations tree) "Mode" kept ∧
      (kept = .typedef number ↔ ∀ decl ∈ typeDeclarations tree, decl.name = "Mode" →
        (TypeDeclaration.typedef number).rank ≤ decl.rank) := by
  intro number enum tree
  have declared : (typeDeclarations tree).find? (·.name == "Mode") = some (.typedef number) := by
    decide
  have flat : ofTree tree = .ok (byKind (depthFirst tree)) := rfl
  obtain ⟨kept, statement⟩ := kept_eq_first_iff flat declared
  exact ⟨_, kept, flat, declared, statement⟩

/-- Of an enum and a struct after it, both called `Mode`, the struct is kept. -/
theorem deduplicated_mode_keeps_later :
    let enum : EnumDecl := ⟨"Mode", [], none⟩
    let struct : StructDecl := ⟨"Mode", [], none⟩
    let tree : List Declaration := [.enum enum, .struct struct]
    ∃ set, ofTree tree = .ok set ∧ typeDeclarations tree = [.enum enum, .struct struct] ∧
      set.deduplicated.types = [.struct struct] :=
  ⟨_, rfl, rfl, by decide⟩

end DeclarationSet

end ForeignBindings
