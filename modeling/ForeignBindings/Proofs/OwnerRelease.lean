import ForeignBindings.Proofs.Deduplication
import ForeignBindings.Proofs.Generation
import ForeignBindings.Proofs.SharedIdentifier
import ForeignBindings.Proofs.Text.Blank

/-!
# Functions that release owned objects

The `release` of an owning type calls the raw binding of the native destructor when the tree declares
one. Otherwise it calls an external function of the section, which the first owning type with that
destructor declares: `OwnerItem.Resolves` for one type behind the types before it, and
`externs_owners` for all of them.
-/

namespace ForeignBindings
open Identifier Layout Text

/-! ## One owning type -/

namespace OwnerItem

/-- The declaration of the releasing function as an external function of the section. -/
def localExtern (o : OwnerItem) : List String :=
  linkAttribute o.library ::
    block (externHead o.abi) [s!"fn {o.destroyName}(handle: NativeHandle);"] ++ [""]

/-- The type has a `release` that calls the function at `path`, and starts with its external
function, if any. -/
def Releases (o : OwnerItem) (path : String) : Prop :=
  o.externLines <+: o.lines ∧ ∃ methods, block s!"impl {o.owner}" methods <:+: o.lines ∧
    block "pub fn release(&mut self)"
      (block "if !self.raw.is_null()"
        [s!"unsafe \x7b {path}(self.raw) \x7d;", "self.raw = NativeHandle::NULL;"]) <:+ methods

/-- The function that releases the objects of `o` is the binding of the only function of `set` with
its symbol, or an external function that `o` declares unless one of the types `before` does. -/
structure Resolves (o : OwnerItem) (set : DeclarationSet) (options : Options)
    (before : List OwnerItem) : Prop where
  symbol : o.destroy = lowerCase o.nativeName ++ "_destroy"
  calls : o.Releases o.releasePath
  declared : o.destroy ∈ set.symbols → o.externLines = [] ∧
    ∃ f ∈ set.functions, f.symbol = o.destroy ∧
      (∀ g ∈ set.functions, g.symbol = o.destroy → g = f) ∧
      o.releasePath = "bindings::" ++ (f.binding mapType options).symbol
  undeclared : o.destroy ∉ set.symbols → o.releasePath = o.destroyName ∧
    o.externLines = if ∃ p ∈ before, p.destroy = o.destroy then [] else o.localExtern

theorem releases_releasePath (o : OwnerItem) : o.Releases o.releasePath := by
  unfold Releases lines
  constructor
  · simp only [List.append_assoc]
    exact List.prefix_append _ _
  · exact ⟨_, ((List.suffix_cons "" _).trans (List.suffix_append _ _)).isInfix.trans
      (List.prefix_append _ _).isInfix,
      ((List.suffix_cons _ _).trans (List.suffix_cons _ _)).trans (List.suffix_append _ _)⟩

end OwnerItem

theorem Identifier.spelling_destroySymbol (name : String) : spelling (destroySymbol name) ≠ [] := by
  have last : 'y' ∈ (destroySymbol name).toList := by simp [destroySymbol]
  rw [spelling, Ne, List.map_eq_nil_iff]
  exact trim_ne_nil last (by decide)

/-! ## All owning types -/

/-- A struct of a set, or a class that is not abstract, has the name. -/
def DeclarationSet.Owns (set : DeclarationSet) (name : String) : Prop :=
  (∃ s ∈ set.structs, s.name = name) ∨ ∃ c ∈ set.classes, c.isAbstract = false ∧ c.name = name

theorem DeclarationSet.mem_ownedTypes_iff {set : DeclarationSet} {name : String} :
    name ∈ set.ownedTypes ↔ set.Owns name := by
  simp only [ownedTypes, Owns, List.mem_append, List.mem_map, List.mem_filter,
    Bool.not_eq_eq_eq_not, Bool.not_true, and_assoc]

namespace WrappersSection

theorem nativeName_owners (options : Options) (set : DeclarationSet) :
    (owners options set).map (·.nativeName) = set.ownedTypes := by
  rw [owners, List.map_map]
  exact map_fst_markFirst destroySymbol [] set.ownedTypes

theorem destroy_owners (options : Options) (set : DeclarationSet) :
    (owners options set).map (·.destroy) = set.ownedTypes.map destroySymbol := by
  rw [← nativeName_owners options set, owners, List.map_map, List.map_map, List.map_map]
  rfl

theorem release_of_declared {symbols : List String} {name : String}
    (declared : destroySymbol name ∈ symbols) (options : Options) (isFirst : Bool) :
    (ownerItem options symbols name isFirst).release = .binding :=
  if_pos (List.contains_iff_mem.mpr declared)

theorem release_of_undeclared {symbols : List String} {name : String}
    (undeclared : destroySymbol name ∉ symbols) (options : Options) (isFirst : Bool) :
    (ownerItem options symbols name isFirst).release = .sectionExtern isFirst :=
  if_neg fun declared => undeclared (List.contains_iff_mem.mp declared)

theorem release_eq_binding_iff {options : Options} {set : DeclarationSet} {o : OwnerItem}
    (member : o ∈ owners options set) : o.release = .binding ↔ o.destroy ∈ set.symbols := by
  obtain ⟨⟨name, isFirst⟩, -, rfl⟩ := List.mem_map.mp member
  by_cases declared : destroySymbol name ∈ set.symbols
  · exact iff_of_true (release_of_declared declared options isFirst) declared
  · have release := release_of_undeclared declared options isFirst
    exact iff_of_false (fun binding => nomatch release.symm.trans binding) declared

theorem ownerItem_resolves {set : DeclarationSet} {options : Options} {name : String}
    {isFirst : Bool} {before : List OwnerItem} (distinct : set.symbols.Nodup)
    (first : isFirst = true ↔ ∀ p ∈ before, p.destroy ≠ destroySymbol name) :
    (ownerItem options set.symbols name isFirst).Resolves set options before where
  symbol := rfl
  calls := OwnerItem.releases_releasePath _
  declared member := by
    have exists_function : ∃ f ∈ set.functions, f.symbol = destroySymbol name :=
      List.mem_map.mp member
    obtain ⟨f, inFunctions, same⟩ := exists_function
    have release := release_of_declared member options isFirst
    have unique : ∀ g ∈ set.functions, g.symbol = destroySymbol name → g = f := fun g known other =>
      List.inj_on_of_nodup_map distinct known inFunctions (other.trans same.symm)
    have identifier : ident (destroySymbol name) "destroy" = ident f.symbol "unnamed" := by
      have nonblank := spelling_destroySymbol name
      rw [same, ident_of_spelling nonblank, ident_of_spelling nonblank]
    refine ⟨?_, f, inFunctions, same, unique, ?_⟩
    · rw [OwnerItem.externLines, release]
    · rw [OwnerItem.releasePath, release]
      exact congrArg ("bindings::" ++ ·) identifier
  undeclared absent := by
    have release := release_of_undeclared absent options isFirst
    refine ⟨by rw [OwnerItem.releasePath, release], ?_⟩
    rw [OwnerItem.externLines, release]
    cases isFirst with
    | true =>
        have fresh : ¬∃ p ∈ before, p.destroy = destroySymbol name := by simpa using first
        exact (if_neg fresh).symm
    | false =>
        have used : ∃ p ∈ before, p.destroy = destroySymbol name := by simpa using first
        exact (if_pos used).symm

theorem owners_resolve {set : DeclarationSet} {options : Options} (distinct : set.symbols.Nodup)
    {before after : List OwnerItem} {o : OwnerItem}
    (whole : owners options set = before ++ o :: after) : o.Resolves set options before := by
  obtain ⟨front, back, marks, rfl, rest⟩ := List.map_eq_append_iff.mp whole
  obtain ⟨⟨name, isFirst⟩, behind, rfl, rfl, rfl⟩ := List.map_eq_cons_iff.mp rest
  refine ownerItem_resolves distinct ?_
  rw [mark_eq_true_iff marks, and_iff_right List.not_mem_nil, List.forall_mem_map]
  rfl

theorem externLines_eq_nil_iff {o : OwnerItem} :
    o.externLines = [] ↔ o.release ≠ .sectionExtern true := by
  unfold OwnerItem.externLines
  cases release : o.release with
  | binding => simp
  | sectionExtern declares => cases declares <;> simp

/-- The destructors that the section declares, in the order of their first users. -/
theorem externs_owners (options : Options) (set : DeclarationSet) :
    ((owners options set).filter (·.externLines ≠ [])).map (·.destroy) =
      ((firstBy destroySymbol [] set.ownedTypes).map destroySymbol).filter (· ∉ set.symbols) := by
  have declares (entry : String × Bool) :
      (ownerItem options set.symbols entry.1 entry.2).externLines ≠ [] ↔
        destroySymbol entry.1 ∉ set.symbols ∧ entry.2 = true := by
    rw [Ne, externLines_eq_nil_iff, not_not]
    by_cases declared : destroySymbol entry.1 ∈ set.symbols
    · simp [release_of_declared declared, declared]
    · simp [release_of_undeclared declared, declared]
  rw [owners, firstBy, List.filter_map, List.map_map, List.map_map, List.filter_map,
    List.filter_filter]
  refine congrArg (List.map _) (List.filter_congr fun entry _ => ?_)
  rw [Bool.eq_iff_iff, Bool.and_eq_true]
  simp only [Function.comp_apply, decide_eq_true_eq]
  exact declares entry

theorem nodup_externs (options : Options) (set : DeclarationSet) :
    (((owners options set).filter (·.externLines ≠ [])).map (·.destroy)).Nodup := by
  rw [externs_owners]
  exact (keys_nodup_firstBy ..).filter _

theorem mem_externs_iff {options : Options} {set : DeclarationSet} {symbol : String} :
    symbol ∈ ((owners options set).filter (·.externLines ≠ [])).map (·.destroy) ↔
      (∃ name, set.Owns name ∧ destroySymbol name = symbol) ∧ symbol ∉ set.symbols := by
  rw [externs_owners, List.mem_filter, mem_map_firstBy, and_iff_left List.not_mem_nil,
    decide_eq_true_eq, List.mem_map]
  simp only [DeclarationSet.mem_ownedTypes_iff]

end WrappersSection

/-! ## The statement -/

/-- The owning types of the wrappers section of a tree: there is one for each struct and for each
class that is not abstract, each reaches the function that releases its objects, and the section
declares every destructor once that the tree does not declare. -/
structure ResolvesReleases (set : DeclarationSet) (options : Options) (code : GeneratedCode)
    (owners : List OwnerItem) : Prop where
  wrappers : code.content? .wrappers = some (unlines (SectionKind.wrappers.header options ++
    (WrappersSection.preamble ++
      spaced ((WrappersSection.callThroughs mapType set.deduplicated).map (·.lines)) ++
      spaced (owners.map (·.lines)))))
  bindings : code.content? .bindings = some (unlines (SectionKind.bindings.header options ++
    "use super::types::*;" ::
      spaced (set.deduplicated.functions.map fun f => (f.binding mapType options).lines)))
  types : owners.map (·.nativeName) = set.deduplicated.structs.map (·.name) ++
    (set.deduplicated.classes.filter (!·.isAbstract)).map (·.name)
  symbols : ∀ symbol, symbol ∈ set.deduplicated.symbols ↔ symbol ∈ set.symbols
  resolves : ∀ before o after, owners = before ++ o :: after →
    o.Resolves set.deduplicated options before
  once : ((owners.filter (·.externLines ≠ [])).map (·.destroy)).Nodup
  externs : ∀ symbol, symbol ∈ (owners.filter (·.externLines ≠ [])).map (·.destroy) ↔
    (∃ name, set.deduplicated.Owns name ∧ destroySymbol name = symbol) ∧ symbol ∉ set.symbols

theorem resolvesReleases {set : DeclarationSet} {options : Options} {code : GeneratedCode}
    (content : ∀ kind, code.content? kind =
      some (unlines (sectionText options set.deduplicated kind))) :
    ResolvesReleases set options code (WrappersSection.owners options set.deduplicated) where
  wrappers := content .wrappers
  bindings := by
    rw [content .bindings, sectionText, BindingsSection.lines, BindingsSection.items, List.map_map]
    rfl
  types := WrappersSection.nativeName_owners options set.deduplicated
  symbols _ := set.mem_symbols_deduplicated
  resolves _ _ _ := WrappersSection.owners_resolve set.nodup_symbols_deduplicated
  once := WrappersSection.nodup_externs options set.deduplicated
  externs symbol := by rw [WrappersSection.mem_externs_iff, set.mem_symbols_deduplicated]

theorem generate_resolvesReleases {tree : List Declaration} {options : Options}
    {generation : Generation} (h : generate tree options = .ok generation) :
    ∃ set owners, DeclarationSet.ofTree tree = .ok set ∧
      ResolvesReleases set options generation.code owners := by
  obtain ⟨set, flat, content⟩ := content_generate h
  exact ⟨set, _, flat, resolvesReleases content⟩

theorem generate_resolvesReleases_shared :
    let tree : List Declaration :=
      [.struct ⟨"Foo", [], none⟩, .struct ⟨"FOO", [], none⟩, .struct ⟨"Bar", [], none⟩,
        .function ⟨"bar_destroy", "void", [⟨"bar", "Bar*"⟩], none, false, false⟩]
    let options : Options := ⟨"Demo", "demo", .cdecl⟩
    ∃ generation, generate tree options = .ok generation ∧
      ∃ set owners, DeclarationSet.ofTree tree = .ok set ∧
        ResolvesReleases set options generation.code owners :=
  ⟨_, rfl, generate_resolvesReleases rfl⟩

end ForeignBindings
