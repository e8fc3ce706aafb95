import ForeignBindings.Callback.Site
import ForeignBindings.Declaration.Unique
import ForeignBindings.Section.Bindings
import ForeignBindings.Section.Callbacks
import ForeignBindings.Section.Extensions
import ForeignBindings.Section.Memory
import ForeignBindings.Section.Types
import ForeignBindings.Section.Wrappers
import ForeignBindings.TypeMapping.Mapper
import ForeignBindings.Unresolved

/-!
# Generating the sections

`generate` flattens a declaration tree, keeps one declaration for each name, finds the callbacks
and emits the six sections. It fails only on a tree that does not flatten; whatever else is odd
about a tree is reported as an event.
-/

namespace ForeignBindings

/-- The sections for a tree and what generating them reported. -/
structure Generation where
  code : GeneratedCode
  events : List Event
deriving Repr, DecidableEq

def synthesize (tree : List Declaration) : Except MisplacedMethod (List Callback) := do
  let set ← DeclarationSet.ofTree tree
  return (CallbackTable.ofSet set.deduplicated).1.definitions

/-- The types that emitting a set asks the mapper for. -/
def consultedTypes (set : DeclarationSet) (callbacks : List Callback) : List String :=
  (TypeUse.ofSet set).map (·.type) ++
    (if set.functions.any (·.takesSelf) then [BoundFunction.selfType] else []) ++
    callbacks.flatMap (·.spelledTypes)

/-- The body of a section, after its header. -/
def sectionLines (mapper : TypeMapper) (options : Options) (set : DeclarationSet)
    (callbacks : List Callback) : SectionKind → List String
  | .types => TypesSection.lines mapper.lookup set
  | .bindings => BindingsSection.lines mapper.lookup options set
  | .memory => MemorySection.lines set.plainDataTypes
  | .callbacks => CallbacksSection.lines mapper.lookup options.convention callbacks
  | .wrappers => WrappersSection.lines mapper.lookup options set
  | .extensions => ExtensionsSection.lines

/-- A section. The extensions carry a header of their own. -/
def emitSection (mapper : TypeMapper) (options : Options) (set : DeclarationSet)
    (callbacks : List Callback) (kind : SectionKind) : Section where
  fileName := s!"{Identifier.moduleName options.scope}/{kind.stem}.rs"
  content :=
    Text.unlines
      ((if kind = .extensions then [] else kind.header options) ++
        sectionLines mapper options set callbacks kind)
  order := kind.order

/-- What emitting the sections reports, in the order of the sections. -/
def emissionEvents (mapper : TypeMapper) (options : Options) (set : DeclarationSet)
    (callbacks : List Callback) : List Event :=
  TypesSection.events mapper.lookup set ++ BindingsSection.events mapper.lookup set ++
    MemorySection.events set.plainDataTypes ++ CallbacksSection.events callbacks ++
    WrappersSection.events mapper.lookup options set

def totals (mapper : TypeMapper) (set : DeclarationSet) (callbacks : List Callback) : Totals where
  functions := set.functions.length
  structs := set.structs.length
  enums := set.enums.length
  typedefs := set.typedefs.length
  classes := set.classes.length
  callbacks := callbacks.length
  mappedTypes := mapper.size

/-- Generates the sections for a declaration set in which every name is declared once. -/
def generateFrom (set : DeclarationSet) (options : Options) : Generation :=
  let (table, synthesisEvents) := CallbackTable.ofSet set
  let callbacks := table.definitions
  let mapper := TypeMapper.empty.noteAll (consultedTypes set callbacks)
  { code := ⟨SectionKind.all.map (emitSection mapper options set callbacks)⟩
    events :=
      (if set.isEmpty then [.emptyTree options.scope] else []) ++ synthesisEvents ++
        unresolvedEvents mapper.lookup set ++ emissionEvents mapper options set callbacks ++
        [.generated options.scope (totals mapper set callbacks)] }

/-- Generates the sections for a declaration tree. -/
def generate (tree : List Declaration) (options : Options) : Except MisplacedMethod Generation := do
  let set ← DeclarationSet.ofTree tree
  let generation := generateFrom set.deduplicated options
  return { generation with events := set.duplicateEvents ++ generation.events }

end ForeignBindings
