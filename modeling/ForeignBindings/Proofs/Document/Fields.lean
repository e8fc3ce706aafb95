import ForeignBindings.Proofs.Document.Format

/-!
# The fields of declarations

The format of each record of a declaration tree. What is read from a value is what its format reads
from the entries that the value gives.
-/

namespace ForeignBindings
open Document

namespace RecordFormat

variable {Given α : Type}

/-- What is read from a value is what the format reads from the entries that it gives. -/
structure Decodes (format : RecordFormat Given α) (shape : RecordShape)
    (decode : Value → Except DocumentError α) : Prop extends format.Lawful where
  ignores : format.inDeclaration = false
  inOrder : shape.fields = format.fields.map (·.key)
  decode_iff : ∀ v a, decode v = .ok a ↔ ∃ entries, shape.entries v = .ok entries ∧
    format.Reads entries a ∧ shape.checkLength v = .ok ()

theorem Decodes.table_iff {format : RecordFormat Given α} {shape : RecordShape}
    {decode : Value → Except DocumentError α} (decodes : format.Decodes shape decode)
    {entries : List (String × Value)} {a : α} :
    decode (.table entries) = .ok a ↔ format.Reads entries a := by
  simp [decodes.decode_iff, RecordShape.entries, RecordShape.checkLength]

theorem Decodes.list_iff {format : RecordFormat Given α} {shape : RecordShape}
    {decode : Value → Except DocumentError α} (decodes : format.Decodes shape decode)
    {items : List Value} {a : α} :
    decode (.list items) = .ok a ↔ format.Reads ((format.fields.map (·.key)).zip items) a ∧
      shape.checkLength (.list items) = .ok () := by
  simp [decodes.decode_iff, RecordShape.entries, decodes.inOrder]

/-- A function that reads the value of each field where the format has it takes the steps of the
format. -/
theorem step_eq_read {format : RecordFormat Given α} (lawful : format.Lawful)
    {read : Given → String × Value → Except DocumentError Given}
    (known : ∀ f ∈ format.fields, ∀ given v,
      read given (f.key, v) = do return f.set (← f.slot.read v) given)
    (unknown : ∀ key ∉ format.fields.map (·.key), ∀ given v,
      read given (key, v) = do (Slot.unread format.inDeclaration).read v; return given) :
    format.step = read := by
  funext given ⟨key, v⟩
  by_cases member : key ∈ format.fields.map (·.key)
  · obtain ⟨f, isField, rfl⟩ := List.mem_map.mp member
    rw [step, change_of_mem lawful isField, known f isField, Functor.map_map, map_eq_pure_bind]
  · rw [step, change_of_notMem member, unknown key member, Functor.map_map, map_eq_pure_bind]
    rfl

/-- A function that reads entries follows a format: what it does to the key of each field is what the
format has there, and it skips other keys. -/
structure Follows (format : RecordFormat Given α)
    (read : Given → String × Value → Except DocumentError Given) : Prop extends format.Lawful where
  ignores : format.inDeclaration = false
  known : format.fields.Forall fun f => ∀ given v,
    read given (f.key, v) = do return f.set (← f.slot.read v) given
  unknown : ∀ key ∉ format.fields.map (·.key), ∀ given v, read given (key, v) = .ok given

theorem Follows.step_eq {format : RecordFormat Given α}
    {read : Given → String × Value → Except DocumentError Given} (follows : format.Follows read) :
    format.step = read := by
  refine step_eq_read follows.toLawful (List.forall_iff_forall_mem.mp follows.known)
    fun key absent given v => ?_
  rw [follows.ignores]
  exact follows.unknown key absent given v

/-- What is left to do when all entries are read: it succeeds where all required fields are given and
a list is not too long. -/
def Finishes (shape : RecordShape) (finish : Value → Except DocumentError α) (result : Option α) :
    Prop :=
  ∀ v a, finish v = .ok a ↔ result = some a ∧ shape.checkLength v = .ok ()

namespace Finishes

variable {shape : RecordShape}

theorem done (a : α) : Finishes shape (fun v => do shape.checkLength v; return a) (some a) := by
  intro v b
  rw [bind_eq_ok]
  constructor
  · rintro ⟨_, fits, same⟩
    cases same
    exact ⟨rfl, fits⟩
  · rintro ⟨same, fits⟩
    cases same
    exact ⟨(), fits, rfl⟩

theorem require {β : Type} {key : String} {given : Option β}
    {finish : β → Value → Except DocumentError α} {result : β → Option α}
    (rest : ∀ b, Finishes shape (finish b) (result b)) :
    Finishes shape (fun v => shape.require v key given >>= (finish · v)) (given >>= result) := by
  intro v a
  cases given with
  | none => exact iff_of_false nofun fun found => nomatch found.1
  | some b => exact rest b v a

end Finishes

/-- A record is decoded by reading its entries and finishing. The steps may be taken on states of
another kind, through which the format looks. -/
theorem decodes_of_view {σ : Type} {format : RecordFormat Given α} {shape : RecordShape}
    {decode : Value → Except DocumentError α} (lawful : format.Lawful)
    (ignores : format.inDeclaration = false) (inOrder : shape.fields = format.fields.map (·.key))
    (view : σ → Given) {read : σ → String × Value → Except DocumentError σ}
    (steps : ∀ s entry, view <$> read s entry = format.step (view s) entry) {start : σ}
    (begins : format.start = view start) {finish : σ → Value → Except DocumentError α}
    (decode_eq : ∀ v, decode v = do finish (← (← shape.entries v).foldlM read start) v)
    (finishes : ∀ s, Finishes shape (finish s) (format.result (view s))) :
    format.Decodes shape decode where
  toLawful := lawful
  ignores
  inOrder
  decode_iff v a := by
    simp only [decode_eq, bind_eq_ok, (finishes _) v a, Reads, begins, ← map_foldlM steps,
      map_eq_ok]
    constructor
    · rintro ⟨entries, members, s, run, result, fits⟩
      exact ⟨entries, members, ⟨view s, ⟨s, run, rfl⟩, result⟩, fits⟩
    · rintro ⟨entries, members, ⟨-, ⟨s, run, rfl⟩, result⟩, fits⟩
      exact ⟨entries, members, s, run, result, fits⟩

theorem Follows.decodes {format : RecordFormat Given α} {shape : RecordShape}
    {decode : Value → Except DocumentError α}
    {read : Given → String × Value → Except DocumentError Given} (follows : format.Follows read)
    (inOrder : shape.fields = format.fields.map (·.key))
    {finish : Given → Value → Except DocumentError α}
    (decode_eq : ∀ v, decode v = do finish (← (← shape.entries v).foldlM read format.start) v)
    (finishes : ∀ given, Finishes shape (finish given) (format.result given)) :
    format.Decodes shape decode :=
  decodes_of_view follows.toLawful follows.ignores inOrder id
    (fun given entry => by rw [id_map, follows.step_eq, id]) rfl decode_eq finishes

/-- A format of one case of a type. -/
def map {β : Type} (f : α → β) (format : RecordFormat Given α) : RecordFormat Given β where
  start := format.start
  fields := format.fields
  inDeclaration := format.inDeclaration
  result given := f <$> format.result given

theorem Decodes.map {β : Type} {format : RecordFormat Given α} {shape : RecordShape}
    {decode : Value → Except DocumentError α} (decodes : format.Decodes shape decode)
    (f : α → β) : (format.map f).Decodes shape (f <$> decode ·) where
  distinct := decodes.distinct
  apart := decodes.apart
  idle := decodes.idle
  ignores := decodes.ignores
  inOrder := decodes.inOrder
  decode_iff v b := by
    have result {given : Given} : (format.map f).result given = some b ↔
        ∃ a, format.result given = some a ∧ f a = b := Option.map_eq_some_iff
    simp only [map_eq_ok, decodes.decode_iff, Reads, result]
    constructor
    · rintro ⟨a, ⟨entries, members, ⟨given, run, found⟩, fits⟩, same⟩
      exact ⟨entries, members, ⟨given, run, a, found, same⟩, fits⟩
    · rintro ⟨entries, members, ⟨given, run, a, found, same⟩, fits⟩
      exact ⟨a, ⟨entries, members, ⟨given, run, found⟩, fits⟩, same⟩

end RecordFormat

open RecordFormat

/-! ## Parts of declarations -/

def Parameter.format : RecordFormat GivenMember Parameter where
  start := { name := some "" }
  fields := [
    .defaulted "name" .text (.string "") fun name given => { given with name := some name },
    .required "type" .text fun type given => { given with type := some type }]
  inDeclaration := false
  result given := do return ⟨← given.name, ← given.type⟩

def Field.format : RecordFormat GivenMember Field where
  start := {}
  fields := [
    .required "name" .text fun name given => { given with name := some name },
    .required "type" .text fun type given => { given with type := some type }]
  inDeclaration := false
  result given := do return ⟨← given.name, ← given.type⟩

def Enumerator.format : RecordFormat Enumerator.Given Enumerator where
  start := {}
  fields := [
    .required "name" .text fun name given => { given with name := some name },
    .required "value" .pattern fun value given => { given with value := some value }]
  inDeclaration := false
  result given := do return ⟨← given.name, ← given.value⟩

theorem Field.follows_format : format.Follows GivenMember.read where
  distinct := by decide
  apart := by simp [format, FieldFormat.Apart]
  idle := by simp [format]
  ignores := rfl
  known := ⟨fun _ _ => rfl, fun _ _ => rfl⟩
  unknown key absent given v := by
    unfold GivenMember.read
    split <;> simp_all [format]

theorem Field.decodes_format : format.Decodes shape decode :=
  follows_format.decodes rfl (fun _ => rfl) fun _ => .require fun _ => .require fun _ => .done _

theorem Enumerator.follows_format : format.Follows Given.read where
  distinct := by decide
  apart := by simp [format, FieldFormat.Apart]
  idle := by simp [format]
  ignores := rfl
  known := ⟨fun _ _ => rfl, fun _ _ => rfl⟩
  unknown key absent given v := by
    unfold Given.read
    split <;> simp_all [format]

theorem Enumerator.decodes_format : format.Decodes shape decode :=
  follows_format.decodes rfl (fun _ => rfl) fun _ => .require fun _ => .require fun _ => .done _

/-- A name that is not given counts as an empty one. -/
def GivenMember.named (given : GivenMember) : GivenMember :=
  { given with name := some (given.name.getD "") }

namespace Parameter

theorem follows_format : format.Follows GivenMember.read where
  distinct := by decide
  apart := by simp [format, FieldFormat.Apart]
  idle := by simp [format]
  ignores := rfl
  known := ⟨fun _ _ => rfl, fun _ _ => rfl⟩
  unknown := Field.follows_format.unknown

theorem named_read (given : GivenMember) (entry : String × Value) :
    GivenMember.named <$> given.read entry = given.named.read entry := by
  unfold GivenMember.read
  split
  · rename_i v
    cases v.text <;> rfl
  · rename_i v
    cases v.text <;> rfl
  · rfl

-- A parameter starts without a name and gets an empty one at last; its format starts with that.
theorem decodes_format : format.Decodes shape decode :=
  decodes_of_view follows_format.toLawful rfl rfl GivenMember.named
    (fun given entry => (named_read given entry).trans (by rw [follows_format.step_eq])) rfl
    (fun _ => rfl) fun _ => .require fun _ => .done _

end Parameter

/-! ## Declarations without parts that are declarations -/

namespace FunctionDecl

def format : RecordFormat Given FunctionDecl where
  start := {}
  fields := [
    .required "name" .text fun name given => { given with name := some name },
    .defaulted "return_type" .text (.string "void") fun type given =>
      { given with returnType := type },
    .defaulted "parameters" (.listOf .parameter) (.list []) fun parameters given =>
      { given with parameters },
    .defaulted "documentation" .optionalText .null fun documentation given =>
      { given with documentation },
    .defaulted "is_virtual" .flag (.bool false) fun isVirtual given => { given with isVirtual },
    .defaulted "is_static" .flag (.bool false) fun isStatic given => { given with isStatic }]
  inDeclaration := false
  result given := do return ⟨← given.name, given.returnType, given.parameters, given.documentation,
    given.isVirtual, given.isStatic⟩

theorem follows_format : format.Follows Given.read where
  distinct := by decide
  apart := by simp [format, FieldFormat.Apart]
  idle := by simp [format]
  ignores := rfl
  known := ⟨fun _ _ => rfl, fun _ _ => rfl, fun _ _ => rfl, fun _ _ => rfl, fun _ _ => rfl,
    fun _ _ => rfl⟩
  unknown key absent given v := by
    unfold Given.read
    split <;> simp_all [format]

theorem decodes_format : format.Decodes shape decode :=
  follows_format.decodes rfl (fun _ => rfl) fun _ => .require fun _ => .done _

end FunctionDecl

namespace StructDecl

def format : RecordFormat Given StructDecl where
  start := {}
  fields := [
    .required "name" .text fun name given => { given with name := some name },
    .defaulted "fields" (.listOf .field) (.list []) fun fields given => { given with fields },
    .defaulted "documentation" .optionalText .null fun documentation given =>
      { given with documentation }]
  inDeclaration := false
  result given := do return ⟨← given.name, given.fields, given.documentation⟩

theorem follows_format : format.Follows Given.read where
  distinct := by decide
  apart := by simp [format, FieldFormat.Apart]
  idle := by simp [format]
  ignores := rfl
  known := ⟨fun _ _ => rfl, fun _ _ => rfl, fun _ _ => rfl⟩
  unknown key absent given v := by
    unfold Given.read
    split <;> simp_all [format]

theorem decodes_format : format.Decodes shape decode :=
  follows_format.decodes rfl (fun _ => rfl) fun _ => .require fun _ => .done _

end StructDecl

namespace EnumDecl

def format : RecordFormat Given EnumDecl where
  start := {}
  fields := [
    .required "name" .text fun name given => { given with name := some name },
    .defaulted "values" (.listOf .enumerator) (.list []) fun values given => { given with values },
    .defaulted "documentation" .optionalText .null fun documentation given =>
      { given with documentation }]
  inDeclaration := false
  result given := do return ⟨← given.name, given.values, given.documentation⟩

theorem follows_format : format.Follows Given.read where
  distinct := by decide
  apart := by simp [format, FieldFormat.Apart]
  idle := by simp [format]
  ignores := rfl
  known := ⟨fun _ _ => rfl, fun _ _ => rfl, fun _ _ => rfl⟩
  unknown key absent given v := by
    unfold Given.read
    split <;> simp_all [format]

theorem decodes_format : format.Decodes shape decode :=
  follows_format.decodes rfl (fun _ => rfl) fun _ => .require fun _ => .done _

end EnumDecl

namespace TypedefDecl

def format : RecordFormat Given TypedefDecl where
  start := {}
  fields := [
    .required "name" .text fun name given => { given with name := some name },
    .required "underlying_type" .text fun type given => { given with underlyingType := some type },
    .defaulted "documentation" .optionalText .null fun documentation given =>
      { given with documentation }]
  inDeclaration := false
  result given := do return ⟨← given.name, ← given.underlyingType, given.documentation⟩

theorem follows_format : format.Follows Given.read where
  distinct := by decide
  apart := by simp [format, FieldFormat.Apart]
  idle := by simp [format]
  ignores := rfl
  known := ⟨fun _ _ => rfl, fun _ _ => rfl, fun _ _ => rfl⟩
  unknown key absent given v := by
    unfold Given.read
    split <;> simp_all [format]

theorem decodes_format : format.Decodes shape decode :=
  follows_format.decodes rfl (fun _ => rfl) fun _ => .require fun _ => .require fun _ => .done _

end TypedefDecl

/-! ## Declarations -/

namespace Declaration

def kindFormat (mayBeNumber : Bool) : RecordFormat (Option Kind) Kind where
  start := none
  fields := [.required "kind" (.kind mayBeNumber) fun kind _ => some kind]
  inDeclaration := true
  result := id

def scopeFormat : RecordFormat GivenScope Declaration where
  start := {}
  fields := [
    .required "name" .text fun name given => { given with name := some name },
    .defaulted "declarations" (.listOf (.declaration true)) (.list []) fun members given =>
      { given with members }]
  inDeclaration := false
  result given := do return .scope (← given.name) given.members

def classFormat : RecordFormat GivenClass Declaration where
  start := {}
  fields := [
    .required "name" .text fun name given => { given with name := some name },
    .defaulted "methods" (.listOf (.declaration true)) (.list []) fun methods given =>
      { given with methods },
    .defaulted "fields" (.listOf .field) (.list []) fun fields given => { given with fields },
    .defaulted "documentation" .optionalText .null fun documentation given =>
      { given with documentation },
    .defaulted "is_abstract" .flag (.bool false) fun isAbstract given =>
      { given with isAbstract }]
  inDeclaration := false
  result given := do
    return .classType (← given.name) given.methods given.fields given.documentation
      given.isAbstract

theorem lawful_kindFormat (mayBeNumber : Bool) : (kindFormat mayBeNumber).Lawful where
  distinct := by simp [kindFormat]
  apart := by simp [kindFormat]
  idle := by simp [kindFormat]

theorem step_kindFormat (mayBeNumber : Bool) :
    (kindFormat mayBeNumber).step = readKind mayBeNumber := by
  refine step_eq_read (lawful_kindFormat mayBeNumber) ?_ fun key unknown given v => ?_
  · simp only [kindFormat, List.forall_mem_cons]
    exact ⟨fun _ _ => (map_eq_pure_bind ..), nofun⟩
  · unfold readKind
    split <;> simp_all [kindFormat]
    rfl

theorem kindOfEntries_eq_ok {mayBeNumber : Bool} {entries : List (String × Value)} {kind : Kind} :
    kindOfEntries mayBeNumber entries = .ok kind ↔ (kindFormat mayBeNumber).Reads entries kind := by
  simp only [kindOfEntries, Reads, step_kindFormat, bind_eq_ok]
  refine exists_congr fun found => and_congr_right fun _ => ?_
  cases found with
  | none => simp [kindFormat]
  | some other => simp [kindFormat, pure, Except.pure]

theorem decodeMembers_eq (v : Value) :
    decodeMembers v = (Slot.listOf (.declaration true)).read v := by
  have each (items : List Value) : decodeItems items = items.mapM (decode · true) := by
    induction items with
    | nil => rfl
    | cons item items ih => rw [decodeItems, List.mapM_cons, ih]
  cases v with
  | list items => exact (decodeMembers.eq_1 items).trans (each items)
  | _ => rfl

/-- Reads one entry of a namespace. -/
def GivenScope.read (given : GivenScope) (entry : String × Value) :
    Except DocumentError GivenScope :=
  if entry.1 = "name" then do return { given with name := some (← entry.2.text) }
  else if entry.1 = "declarations" then do
    return { given with members := ← decodeMembers entry.2 }
  else .ok given

/-- Reads one entry of a class. -/
def GivenClass.readAny (given : GivenClass) (entry : String × Value) :
    Except DocumentError GivenClass :=
  if entry.1 = "methods" then do return { given with methods := ← decodeMembers entry.2 }
  else given.read entry

theorem readScope_eq (entries : List (String × Value)) (given : GivenScope) :
    readScope entries given = entries.foldlM GivenScope.read given := by
  induction entries generalizing given with
  | nil => rfl
  | cons entry entries ih =>
      obtain ⟨key, v⟩ := entry
      rw [readScope, List.foldlM_cons, GivenScope.read]
      simp only [ih]
      split_ifs
      · rw [bind_assoc]
        rfl
      · rw [bind_assoc]
        rfl
      · rfl

theorem readClass_eq (entries : List (String × Value)) (given : GivenClass) :
    readClass entries given = entries.foldlM GivenClass.readAny given := by
  induction entries generalizing given with
  | nil => rfl
  | cons entry entries ih =>
      obtain ⟨key, v⟩ := entry
      rw [readClass, List.foldlM_cons, GivenClass.readAny]
      simp only [ih]
      split_ifs
      · rw [bind_assoc]
        rfl
      · rfl

theorem readScopeParts_eq (parts : List Value) :
    readScopeParts parts = (scopeShape.fields.zip parts).foldlM GivenScope.read {} := by
  rcases parts with _ | ⟨name, _ | ⟨members, rest⟩⟩
  · rfl
  · simp [readScopeParts, scopeShape, GivenScope.read]
  · simp [readScopeParts, scopeShape, GivenScope.read]

theorem foldlM_readAny {entries : List (String × Value)}
    (others : ∀ entry ∈ entries, entry.1 ≠ "methods") (given : GivenClass) :
    entries.foldlM GivenClass.readAny given = entries.foldlM GivenClass.read given := by
  induction entries generalizing given with
  | nil => rfl
  | cons entry entries ih =>
      rw [List.forall_mem_cons] at others
      rw [List.foldlM_cons, List.foldlM_cons, GivenClass.readAny, if_neg others.1]
      exact congrArg _ (funext (ih others.2))

theorem readClassParts_eq (parts : List Value) :
    readClassParts parts = (classShape.fields.zip parts).foldlM GivenClass.readAny {} := by
  rcases parts with _ | ⟨name, _ | ⟨methods, rest⟩⟩
  · rfl
  · simp [readClassParts, classShape, GivenClass.readAny, GivenClass.read]
  · have others : ∀ entry ∈ ["fields", "documentation", "is_abstract"].zip rest,
        entry.1 ≠ "methods" := by
      intro entry member
      have known : ∀ key ∈ ["fields", "documentation", "is_abstract"], key ≠ "methods" := by decide
      exact known entry.1 (List.of_mem_zip member).1
    simp only [readClassParts, ← foldlM_readAny others]
    simp [classShape, GivenClass.readAny, GivenClass.read]

theorem follows_scopeFormat : scopeFormat.Follows GivenScope.read where
  distinct := by decide
  apart := by simp [scopeFormat, FieldFormat.Apart]
  idle := by simp [scopeFormat]
  ignores := rfl
  known := ⟨fun _ _ => rfl, fun _ v => congrArg (· >>= _) (decodeMembers_eq v)⟩
  unknown key absent given v := by
    unfold GivenScope.read
    simp_all [scopeFormat]

theorem follows_classFormat : classFormat.Follows GivenClass.readAny where
  distinct := by decide
  apart := by simp [classFormat, FieldFormat.Apart]
  idle := by simp [classFormat]
  ignores := rfl
  known := ⟨fun _ _ => rfl, fun _ v => congrArg (· >>= _) (decodeMembers_eq v), fun _ _ => rfl,
    fun _ _ => rfl, fun _ _ => rfl⟩
  unknown key absent given v := by
    unfold GivenClass.readAny GivenClass.read
    split <;> simp_all [classFormat]

/-- The fields of a declaration of some kind, as far as they are given. -/
def GivenBody : Kind → Type
  | .function => FunctionDecl.Given
  | .struct => StructDecl.Given
  | .enum => EnumDecl.Given
  | .typedef => TypedefDecl.Given
  | .scope => GivenScope
  | .classType => GivenClass

/-- The format of the declarations of a kind. -/
def bodyFormat : (kind : Kind) → RecordFormat (GivenBody kind) Declaration
  | .function => FunctionDecl.format.map .function
  | .struct => StructDecl.format.map .struct
  | .enum => EnumDecl.format.map .enum
  | .typedef => TypedefDecl.format.map .typedef
  | .scope => scopeFormat
  | .classType => classFormat

def bodyShape : Kind → RecordShape
  | .function => FunctionDecl.shape
  | .struct => StructDecl.shape
  | .enum => EnumDecl.shape
  | .typedef => TypedefDecl.shape
  | .scope => scopeShape
  | .classType => classShape

/-- Reads a declaration whose kind is known. -/
def decodeBody : Kind → Value → Except DocumentError Declaration
  | .function, v => .function <$> FunctionDecl.decode v
  | .struct, v => .struct <$> StructDecl.decode v
  | .enum, v => .enum <$> EnumDecl.decode v
  | .typedef, v => .typedef <$> TypedefDecl.decode v
  | .scope, v => do
    let given ← (← scopeShape.entries v).foldlM GivenScope.read {}
    given.finish v
  | .classType, v => do
    let given ← (← classShape.entries v).foldlM GivenClass.readAny {}
    given.finish v

theorem decodes_scopeFormat : scopeFormat.Decodes scopeShape (decodeBody .scope) :=
  follows_scopeFormat.decodes rfl (fun _ => rfl) fun _ => .require fun _ => .done _

theorem decodes_classFormat : classFormat.Decodes classShape (decodeBody .classType) :=
  follows_classFormat.decodes rfl (fun _ => rfl) fun _ => .require fun _ => .done _

theorem decodes_bodyFormat (kind : Kind) :
    (bodyFormat kind).Decodes (bodyShape kind) (decodeBody kind) := by
  cases kind with
  | function => exact FunctionDecl.decodes_format.map Declaration.function
  | struct => exact StructDecl.decodes_format.map Declaration.struct
  | enum => exact EnumDecl.decodes_format.map Declaration.enum
  | typedef => exact TypedefDecl.decodes_format.map Declaration.typedef
  | scope => exact decodes_scopeFormat
  | classType => exact decodes_classFormat

/-! ## Kind first, fields second -/

theorem decode_table (mayBeNumber : Bool) (entries : List (String × Value)) :
    decode (.table entries) mayBeNumber =
      kindOfEntries mayBeNumber entries >>= (decodeBody · (.table entries)) := by
  rw [decode]
  refine congrArg _ (funext fun kind => ?_)
  cases kind with
  | scope => exact congrArg (· >>= _) (readScope_eq entries {})
  | classType => exact congrArg (· >>= _) (readClass_eq entries {})
  | _ => rfl

theorem decode_list (mayBeNumber : Bool) (tag : Value) (parts : List Value) :
    decode (.list (tag :: parts)) mayBeNumber =
      decodeKind mayBeNumber tag >>= fun kind =>
        refuseWide (.list parts) >>= fun _ => decodeBody kind (.list parts) := by
  rw [decode]
  refine congrArg _ (funext fun kind => congrArg _ (funext fun _ => ?_))
  cases kind with
  | scope => exact congrArg (· >>= _) (readScopeParts_eq parts)
  | classType => exact congrArg (· >>= _) (readClassParts_eq parts)
  | _ => rfl

end Declaration

end ForeignBindings
