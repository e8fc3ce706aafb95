import ForeignBindings.Proofs.SharedIdentifier

/-!
# Names that share a scope

The parameters of a function, the fields of a record and the items of an enum's `impl` block share a
scope each. Distinct identifiers of the foreign language become distinct names, unless one is what
the position of an unnamed one spells or what a reserved word is escaped to (`NamesClash`), or meets
a name that emission puts into the scope itself.
-/

namespace ForeignBindings
open Identifier Layout Text

/-! ## Identifiers of the foreign language -/

/-- A nonempty word that no digit starts. -/
structure IsForeignIdentifier (name : String) : Prop where
  nonempty : name ≠ ""
  word : IsWord name
  first : startsWithDigit name.toList = false

/-- Names that are identifiers, and distinct ones, where they are not empty. -/
structure DistinctIdentifiers (names : List String) : Prop where
  valid : ∀ name ∈ names, name ≠ "" → IsForeignIdentifier name
  distinct : (names.filter (· ≠ "")).Nodup

instance (name : String) : Decidable (IsForeignIdentifier name) :=
  decidable_of_iff (name ≠ "" ∧ name.toList.all isWordChar = true ∧
      startsWithDigit name.toList = false)
    ⟨fun ⟨nonempty, word, first⟩ => ⟨nonempty, List.all_eq_true.mp word, first⟩,
      fun h => ⟨h.nonempty, List.all_eq_true.mpr h.word, h.first⟩⟩

instance (names : List String) : Decidable (DistinctIdentifiers names) :=
  decidable_of_iff ((∀ name ∈ names, name ≠ "" → IsForeignIdentifier name) ∧
      (names.filter (· ≠ "")).Nodup)
    ⟨fun ⟨valid, distinct⟩ => ⟨valid, distinct⟩, fun h => ⟨h.valid, h.distinct⟩⟩

/-- Names of which two become one, where an empty name becomes the stem with its position. -/
inductive NamesClash (stem : String) (names : List String) : Prop
  | position {i : Nat} : names[i]? = some "" → stem ++ toString i ∈ names → NamesClash stem names
  | reserved {word : String} : word ∈ reservedWords → word ∈ names → word ++ "_" ∈ names →
      NamesClash stem names

theorem ident_empty (fallback : String) : ident "" fallback = fallback := by
  have blank : spelling "" = [] := by decide
  exact ident_of_blank blank fallback

theorem IsForeignIdentifier.ident_eq {name : String} (valid : IsForeignIdentifier name)
    (fallback : String) : ident name fallback = guardKeyword name := by
  have spelled := spelling_of_isWord valid.word
  have nonblank : spelling name ≠ [] := by
    rw [spelled]
    exact fun empty => valid.nonempty (String.toList_eq_nil_iff.mp empty)
  have guarded : guardDigit name.toList = name.toList := by
    rw [guardDigit, valid.first]
    rfl
  rw [ident_of_spelling nonblank, spelled, guarded, String.ofList_toList]

theorem DistinctIdentifiers.position_unique {names : List String} (h : DistinctIdentifiers names)
    {i j : Nat} {name : String} (nonempty : name ≠ "") (atI : names[i]? = some name)
    (atJ : names[j]? = some name) : i = j := by
  have apart := List.pairwise_iff_getElem.mp (List.pairwise_filter.mp h.distinct)
  obtain ⟨boundI, foundI⟩ := List.getElem?_eq_some_iff.mp atI
  obtain ⟨boundJ, foundJ⟩ := List.getElem?_eq_some_iff.mp atJ
  rcases Nat.lt_trichotomy i j with less | same | greater
  · exact absurd (foundI.trans foundJ.symm)
      (apart i j boundI boundJ less (by simp [foundI, nonempty]) (by simp [foundJ, nonempty]))
  · exact same
  · exact absurd (foundJ.trans foundI.symm)
      (apart j i boundJ boundI greater (by simp [foundJ, nonempty]) (by simp [foundI, nonempty]))

/-! ## Names by position -/

theorem numbered_inj {stem : String} {i j : Nat} (same : stem ++ toString i = stem ++ toString j) :
    i = j := by
  have digits := String.append_right_inj stem |>.mp same
  have numbers := congrArg (fun s : String => Nat.ofDigitChars 10 s.toList 0) digits
  simpa [Nat.toString_eq_ofList_toDigits] using numbers

/-- A stem of names by position that no keyword starts with. -/
structure IsStem (stem : String) : Prop where
  nonempty : stem ≠ ""
  word : IsWord stem
  reserved : ∀ word ∈ reservedWords, ¬stem.toList <+: (word ++ "_").toList
  keyword : ∀ word ∈ keywords, ¬stem.toList <+: word.toList

namespace IsStem

variable {stem : String} (h : IsStem stem) (i : Nat)
include h

omit h in
theorem prefix_numbered : stem.toList <+: (stem ++ toString i).toList := by
  rw [String.toList_append]
  exact List.prefix_append _ _

theorem isWord_numbered : IsWord (stem ++ toString i) := h.word.append (isWord_toString i)

theorem numbered_ne_empty : stem ++ toString i ≠ "" := by
  intro empty
  exact h.nonempty (String.append_eq_empty_iff.mp empty).1

theorem numbered_unreserved : stem ++ toString i ∉ reservedWords := by
  intro reserved
  apply h.reserved _ reserved
  rw [String.toList_append]
  exact (prefix_numbered i).trans (List.prefix_append _ _)

theorem guardKeyword_numbered : guardKeyword (stem ++ toString i) = stem ++ toString i :=
  guardKeyword_eq_self (h.numbered_unreserved i)
    fun keyword => h.keyword _ keyword (prefix_numbered i)

theorem guardKeyword_eq_numbered_iff {name : String} (word : IsWord name) :
    guardKeyword name = stem ++ toString i ↔ name = stem ++ toString i := by
  constructor
  · intro same
    rw [← h.guardKeyword_numbered i] at same
    rcases eq_or_reserved_of_guardKeyword_eq word (h.isWord_numbered i) same with
      same | ⟨reserved, same⟩ | ⟨reserved, -⟩
    · exact same
    · exact absurd (same ▸ prefix_numbered i) (h.reserved name reserved)
    · exact absurd reserved (h.numbered_unreserved i)
  · rintro rfl
    exact h.guardKeyword_numbered i

end IsStem

theorem isStem_arg : IsStem "arg" where
  nonempty := by decide
  word := isWord_ofList rfl
  reserved := by decide
  keyword := by decide

theorem isStem_field : IsStem "field" where
  nonempty := by decide
  word := isWord_ofList rfl
  reserved := by decide
  keyword := by decide

/-! ## Names of one scope -/

theorem guardKeyword_eq_of_reserved {word : String} (reserved : word ∈ reservedWords) :
    guardKeyword (word ++ "_") = guardKeyword word := by
  have checked : ∀ word ∈ reservedWords, guardKeyword (word ++ "_") = guardKeyword word := by decide
  exact checked word reserved

theorem nodup_mapIdx_iff {α β : Type} {f : Nat → α → β} {xs : List α} :
    (xs.mapIdx f).Nodup ↔
      ∀ i j a b, xs[i]? = some a → xs[j]? = some b → f i a = f j b → i = j := by
  rw [List.nodup_iff_injective_getElem]
  constructor
  · intro injective i j a b atI atJ same
    obtain ⟨boundI, rfl⟩ := List.getElem?_eq_some_iff.mp atI
    obtain ⟨boundJ, rfl⟩ := List.getElem?_eq_some_iff.mp atJ
    have positions := @injective ⟨i, by simpa using boundI⟩ ⟨j, by simpa using boundJ⟩
      (by simpa using same)
    exact congrArg Fin.val positions
  · intro apart i j same
    have boundI : i.val < xs.length := by simpa using i.isLt
    have boundJ : j.val < xs.length := by simpa using j.isLt
    exact Fin.ext (apart i j _ _ (List.getElem?_eq_getElem boundI) (List.getElem?_eq_getElem boundJ)
      (by simpa using same))

theorem map_mapIdx_eq {α β γ δ : Type} {f : Nat → α → β} {g : β → γ} {k : α → δ} {f' : Nat → δ → γ}
    (each : ∀ i a, g (f i a) = f' i (k a)) (xs : List α) :
    (xs.mapIdx f).map g = (xs.map k).mapIdx f' := by
  apply List.ext_getElem?
  intro i
  simp only [List.getElem?_map, List.getElem?_mapIdx, Option.map_map]
  cases xs[i]? with
  | none => rfl
  | some a => exact congrArg some (each i a)

/-- The names in a scope, with positions for those that are empty. -/
def scopeNames (stem : String) (names : List String) : List String :=
  names.mapIdx fun i name => ident name (stem ++ toString i)

namespace DistinctIdentifiers

variable {stem : String} {names : List String} (h : DistinctIdentifiers names)
include h

theorem isWord {name : String} (nonempty : name ≠ "") {i : Nat} (found : names[i]? = some name) :
    IsWord name :=
  (h.valid name (List.mem_of_getElem? found) nonempty).word

theorem ident_eq {name : String} (nonempty : name ≠ "") {i : Nat}
    (found : names[i]? = some name) (fallback : String) : ident name fallback = guardKeyword name :=
  (h.valid name (List.mem_of_getElem? found) nonempty).ident_eq fallback

/-- Names that become one stand at one position or clash. -/
theorem positions_eq_or_clash (ofStem : IsStem stem) {i j : Nat} {a b : String}
    (atI : names[i]? = some a) (atJ : names[j]? = some b)
    (same : ident a (stem ++ toString i) = ident b (stem ++ toString j)) :
    i = j ∨ NamesClash stem names := by
  by_cases emptyA : a = ""
  · subst emptyA
    rw [ident_empty] at same
    by_cases emptyB : b = ""
    · subst emptyB
      rw [ident_empty] at same
      exact .inl (numbered_inj same)
    · rw [h.ident_eq emptyB atJ] at same
      have taken := (ofStem.guardKeyword_eq_numbered_iff i (h.isWord emptyB atJ)).mp same.symm
      exact .inr (.position atI (taken ▸ List.mem_of_getElem? atJ))
  · rw [h.ident_eq emptyA atI] at same
    by_cases emptyB : b = ""
    · subst emptyB
      rw [ident_empty] at same
      have taken := (ofStem.guardKeyword_eq_numbered_iff j (h.isWord emptyA atI)).mp same
      exact .inr (.position atJ (taken ▸ List.mem_of_getElem? atI))
    · rw [h.ident_eq emptyB atJ] at same
      have inNames := List.mem_of_getElem? atI
      have inNames' := List.mem_of_getElem? atJ
      rcases eq_or_reserved_of_guardKeyword_eq (h.isWord emptyA atI) (h.isWord emptyB atJ) same with
        rfl | ⟨reserved, rfl⟩ | ⟨reserved, rfl⟩
      · exact .inl (h.position_unique emptyA atI atJ)
      · exact .inr (.reserved reserved inNames inNames')
      · exact .inr (.reserved reserved inNames' inNames)

/-- Names that clash become one at two positions. -/
theorem exists_positions_of_clash (ofStem : IsStem stem) (clash : NamesClash stem names) :
    ∃ (i j : Nat) (a b : String), i ≠ j ∧ names[i]? = some a ∧ names[j]? = some b ∧
      ident a (stem ++ toString i) = ident b (stem ++ toString j) := by
  cases clash with
  | @position i unnamed taken =>
      obtain ⟨j, named⟩ := List.mem_iff_getElem?.mp taken
      have nonempty := ofStem.numbered_ne_empty i
      refine ⟨i, j, _, _, ?_, unnamed, named, ?_⟩
      · rintro rfl
        rw [unnamed] at named
        exact nonempty (Option.some.inj named).symm
      · rw [ident_empty, h.ident_eq nonempty named, ofStem.guardKeyword_numbered]
  | @reserved word known plain escaped =>
      have nonempty : word ≠ "" := by
        rintro rfl
        exact absurd known (by decide)
      have longer : word ++ "_" ≠ word := by
        intro same
        have lengths := congrArg String.length same
        simp at lengths
      obtain ⟨i, atI⟩ := List.mem_iff_getElem?.mp plain
      obtain ⟨j, atJ⟩ := List.mem_iff_getElem?.mp escaped
      refine ⟨i, j, _, _, ?_, atI, atJ, ?_⟩
      · rintro rfl
        rw [atI] at atJ
        exact longer (Option.some.inj atJ).symm
      · have nonempty' : word ++ "_" ≠ "" := by simp
        rw [h.ident_eq nonempty atI, h.ident_eq nonempty' atJ, guardKeyword_eq_of_reserved known]

theorem nodup_scopeNames_iff (ofStem : IsStem stem) :
    (scopeNames stem names).Nodup ↔ ¬NamesClash stem names := by
  rw [scopeNames, nodup_mapIdx_iff]
  constructor
  · intro apart clash
    obtain ⟨i, j, a, b, different, atI, atJ, same⟩ := h.exists_positions_of_clash ofStem clash
    exact different (apart i j a b atI atJ same)
  · intro noClash i j a b atI atJ same
    exact (h.positions_eq_or_clash ofStem atI atJ same).resolve_right noClash

end DistinctIdentifiers

/-! ## Parameters and fields -/

theorem guardKeyword_eq_receiver_iff {name : String} (word : IsWord name) :
    guardKeyword name = "self_" ↔ name = "self" ∨ name = "self_" := by
  have receiver : guardKeyword "self" = "self_" := by decide
  have plain : IsWord "self" := isWord_ofList rfl
  constructor
  · intro same
    rw [← receiver] at same
    rcases eq_or_reserved_of_guardKeyword_eq word plain same with
      same | ⟨reserved, same⟩ | ⟨-, same⟩
    · exact .inl same
    · have absent : ∀ word ∈ reservedWords, "self" ≠ word ++ "_" := by decide
      exact absurd same (absent name reserved)
    · exact .inr same
  · rintro (rfl | rfl)
    · exact receiver
    · decide

theorem receiver_mem_scopeNames_iff {names : List String} (h : DistinctIdentifiers names) :
    "self_" ∈ scopeNames "arg" names ↔ "self" ∈ names ∨ "self_" ∈ names := by
  have rendered {name : String} (member : name ∈ names) (nonempty : name ≠ "") (i : Nat) :
      ident name ("arg" ++ toString i) = "self_" ↔ name = "self" ∨ name = "self_" := by
    have valid := h.valid name member nonempty
    rw [valid.ident_eq, guardKeyword_eq_receiver_iff valid.word]
  rw [scopeNames, List.mem_mapIdx]
  constructor
  · rintro ⟨i, bound, same⟩
    have member := List.getElem_mem bound
    by_cases empty : names[i] = ""
    · rw [empty, ident_empty] at same
      have front : "arg".toList <+: "self_".toList := same ▸ IsStem.prefix_numbered i
      exact absurd front (by decide)
    · rcases (rendered member empty i).mp same with named | named
      · exact .inl (named ▸ member)
      · exact .inr (named ▸ member)
  · intro named
    have found : ∃ name ∈ names, name = "self" ∨ name = "self_" := by
      rcases named with member | member
      · exact ⟨_, member, .inl rfl⟩
      · exact ⟨_, member, .inr rfl⟩
    obtain ⟨name, member, named⟩ := found
    have nonempty : name ≠ "" := by rcases named with rfl | rfl <;> decide
    obtain ⟨i, bound, rfl⟩ := List.getElem_of_mem member
    exact ⟨i, bound, (rendered member nonempty i).mpr named⟩

/-- Two parameters of a function become one, or one becomes the receiver that a method takes. -/
def BoundFunction.ParamsClash (f : BoundFunction) : Prop :=
  NamesClash "arg" (f.decl.parameters.map (·.name)) ∨ f.takesSelf = true ∧
    ("self" ∈ f.decl.parameters.map (·.name) ∨ "self_" ∈ f.decl.parameters.map (·.name))

theorem nativeParams_names (map : String → TypeMapping) (f : BoundFunction) :
    (f.nativeParams map).map (·.1) =
      (if f.takesSelf then ["self_"] else []) ++
        scopeNames "arg" (f.decl.parameters.map (·.name)) := by
  have declared : (f.declaredParams map).map (·.1) =
      scopeNames "arg" (f.decl.parameters.map (·.name)) := by
    unfold BoundFunction.declaredParams scopeNames
    apply map_mapIdx_eq
    exact fun _ _ => rfl
  rw [BoundFunction.nativeParams, List.map_append, declared]
  split <;> rfl

theorem binding_names (map : String → TypeMapping) (options : Options) (f : BoundFunction) :
    (f.binding map options).params.map (·.name) = (f.nativeParams map).map (·.1) := by
  rw [BoundFunction.binding, List.map_map]
  rfl

theorem callThrough_names (map : String → TypeMapping) (f : BoundFunction) :
    (f.callThrough map).params.map (·.name) = (f.nativeParams map).map (·.1) := by
  rw [BoundFunction.callThrough, List.map_map]
  refine List.map_congr_left fun param _ => ?_
  cases copied : param.2.isCopied <;> simp [BoundFunction.wrapperParam, copied]

theorem nodup_nativeParams_iff (map : String → TypeMapping) {f : BoundFunction}
    (h : DistinctIdentifiers (f.decl.parameters.map (·.name))) :
    ((f.nativeParams map).map (·.1)).Nodup ↔ ¬f.ParamsClash := by
  rw [nativeParams_names, BoundFunction.ParamsClash, not_or]
  have declared := h.nodup_scopeNames_iff isStem_arg
  cases takes : f.takesSelf with
  | false => simp [declared]
  | true => simp [declared, receiver_mem_scopeNames_iff h, and_comm]

theorem recordFields_names (map : String → TypeMapping) (fields : List Field) :
    (recordFields map fields).map (·.name) = scopeNames "field" (fields.map (·.name)) := by
  unfold recordFields scopeNames
  apply map_mapIdx_eq
  exact fun _ _ => rfl

/-! ## The items of an enum -/

theorem spelling_eq_iff {raw s : String} (alphanumeric : IsAlphanumeric s) :
    spelling raw = s.toList ↔ trim raw.toList = s.toList := by
  constructor
  · intro same
    have word : ∀ c ∈ trim raw.toList, isWordChar c = true := by
      intro c member
      have plain : (if isWordChar c then c else '_') ∈ s.toList := same ▸ List.mem_map_of_mem member
      split at plain
      · assumption
      · cases alphanumeric '_' plain
    rwa [spelling, map_wordChars word] at same
  · intro same
    rw [spelling, same, map_wordChars alphanumeric.isWord]

/-- A plain word is the identifier of its own name only, up to blank characters at the ends. -/
theorem ident_eq_plain_iff {raw fallback s : String} (alphanumeric : IsAlphanumeric s)
    (fixed : ident s "" = s) (nonempty : s ≠ "") (unescaped : ∀ t, ¬EscapesTo s.toList t)
    (other : fallback ≠ s) : ident raw fallback = s ↔ trim raw.toList = s.toList := by
  have spelled := spelling_of_isWord alphanumeric.isWord
  have nonblank : spelling s ≠ [] := by
    rw [spelled]
    exact fun empty => nonempty (String.toList_eq_nil_iff.mp empty)
  rw [← spelling_eq_iff alphanumeric, ← spelled]
  constructor
  · intro same
    have named : spelling raw ≠ [] := by
      intro blank
      rw [ident_of_blank blank] at same
      exact other same
    have shared : SharesIdent raw s := by
      rw [← ident_eq_ident_iff named nonblank fallback "", same, fixed]
    rcases shared with same | escapes | escapes
    · exact same
    · exact absurd escapes.underscore_mem (underscore_not_mem_spelling alphanumeric)
    · exact absurd (spelled ▸ escapes) (unescaped _)
  · intro same
    rw [ident_of_spelling (same ▸ nonblank), same, ← ident_of_spelling nonblank, fixed]

theorem ident_eq_bits_iff (raw : String) (i : Nat) :
    ident raw ("VALUE_" ++ toString i) = "bits" ↔ trim raw.toList = "bits".toList := by
  have alphanumeric : IsAlphanumeric "bits" := List.all_eq_true.mp (by decide)
  have unescaped : ∀ t, ¬EscapesTo "bits".toList t := by
    intro t escapes
    generalize same : "bits".toList = s at escapes
    cases escapes with
    | digit starts =>
        rw [← same] at starts
        exact absurd starts (by decide)
    | @reserved word known =>
        have foreign : ∀ word ∈ reservedWords, "bits".toList ≠ word.toList := by decide
        exact foreign word known same
  refine ident_eq_plain_iff alphanumeric (by decide) (by decide) unescaped ?_
  intro same
  have front : "VALUE_".toList <+: "bits".toList := same ▸ IsStem.prefix_numbered i
  exact absurd front (by decide)

namespace EnumItem

/-- The names of the items in the `impl` block of an emitted enum. -/
def implNames (item : EnumItem) : List String := item.constants.map (·.1) ++ ["bits"]

/-- The `impl` block of an emitted enum. -/
def implBlock (item : EnumItem) : List String :=
  block s!"impl {item.name}"
    ((item.constants.map fun (name, bits) => s!"pub const {name}: Self = Self({bits});") ++
      "" :: block s!"pub const fn bits(self) -> {item.storage.name}" ["self.0"])

theorem implBlock_infix_lines (item : EnumItem) : item.implBlock <:+: item.lines := by
  have opening : item.implBlock <:+ docLines item.documentation ++
      ["#[repr(transparent)]",
        "#[derive(Clone, Copy, Debug, Default, PartialEq, Eq, Hash)]",
        s!"pub struct {item.name}(pub {item.storage.name});",
        ""] ++ item.implBlock := List.suffix_append _ _
  -- The three operators stand behind the block.
  refine opening.isInfix.trans (List.IsPrefix.isInfix ?_)
  exact ((List.prefix_append _ _).trans (List.prefix_append _ _)).trans (List.prefix_append _ _)

end EnumItem

namespace EnumDecl

variable (e : EnumDecl)

theorem constants_names :
    e.item.constants.map (·.1) = (firstBy (·.1) [] e.constants).map (·.1) := by
  rw [item, List.map_map]
  rfl

theorem bits_mem_constants_iff :
    "bits" ∈ e.item.constants.map (·.1) ↔ ∃ v ∈ e.values, trim v.name.toList = "bits".toList := by
  have named : "bits" ∈ e.constants.map (·.1) ↔
      ∃ v ∈ e.values, trim v.name.toList = "bits".toList := by
    simp only [constants, List.mem_map, List.mem_mapIdx]
    constructor
    · rintro ⟨-, ⟨i, bound, rfl⟩, same⟩
      exact ⟨e.values[i], List.getElem_mem bound, (ident_eq_bits_iff _ i).mp same⟩
    · rintro ⟨v, member, trimmed⟩
      obtain ⟨i, bound, rfl⟩ := List.getElem_of_mem member
      exact ⟨_, ⟨i, bound, rfl⟩, (ident_eq_bits_iff _ i).mpr trimmed⟩
  rw [constants_names, mem_map_firstBy, named]
  exact and_iff_left List.not_mem_nil

theorem nodup_implNames_iff :
    e.item.implNames.Nodup ↔ ∀ v ∈ e.values, trim v.name.toList ≠ "bits".toList := by
  have constants : (e.item.constants.map (·.1)).Nodup := by
    rw [constants_names]
    exact keys_nodup_firstBy _ _ _
  have absent := e.bits_mem_constants_iff.not
  push Not at absent
  rw [EnumItem.implNames, ← List.concat_eq_append, List.nodup_concat, ← absent]
  exact and_iff_left constants

end EnumDecl

/-! ## The statement -/

/-- When the names of a scope are distinct: the parameters of a function in its binding and in its
wrapper, the fields of a record, and the items of an enum. -/
structure DistinguishesScopes (options : Options) : Prop where
  functions : ∀ f : BoundFunction, DistinctIdentifiers (f.decl.parameters.map (·.name)) →
    (f.callThrough mapType).params.map (·.name) = (f.binding mapType options).params.map (·.name) ∧
    (((f.binding mapType options).params.map (·.name)).Nodup ↔ ¬f.ParamsClash)
  structs : ∀ s : StructDecl, DistinctIdentifiers (s.fields.map (·.name)) →
    (((s.item mapType).fields.map (·.name)).Nodup ↔ ¬NamesClash "field" (s.fields.map (·.name)))
  classes : ∀ c : ClassDecl, DistinctIdentifiers (c.fields.map (·.name)) →
    (((c.item mapType).fields.map (·.name)).Nodup ↔ ¬NamesClash "field" (c.fields.map (·.name)))
  enums : ∀ e : EnumDecl, e.item.implBlock <:+: e.item.lines ∧
    (e.item.implNames.Nodup ↔ ∀ v ∈ e.values, trim v.name.toList ≠ "bits".toList)

theorem distinguishesScopes (options : Options) : DistinguishesScopes options where
  functions f h := by
    rw [callThrough_names, binding_names]
    exact ⟨rfl, nodup_nativeParams_iff mapType h⟩
  structs s h := by
    rw [StructDecl.item, recordFields_names]
    exact h.nodup_scopeNames_iff isStem_field
  classes c h := by
    rw [ClassDecl.item, recordFields_names]
    exact h.nodup_scopeNames_iff isStem_field
  enums e := ⟨e.item.implBlock_infix_lines, e.nodup_implNames_iff⟩

/-- A method with an unnamed parameter between named ones. -/
theorem distinguishesScopes_drag :
    let pool : ClassDecl := ⟨"Pool", [], [], none, false⟩
    let drag : BoundFunction := ⟨some pool, ⟨"drag", "void",
      [⟨"type", "int"⟩, ⟨"", "int"⟩, ⟨"arg2", "int"⟩], none, false, false⟩⟩
    DistinctIdentifiers (drag.decl.parameters.map (·.name)) ∧
      ((drag.binding mapType ⟨"NS", "lib", .cdecl⟩).params.map (·.name)).Nodup ∧
      ¬drag.ParamsClash := by
  intro pool drag
  have given : DistinctIdentifiers (drag.decl.parameters.map (·.name)) := by decide
  have distinct : ((drag.binding mapType ⟨"NS", "lib", .cdecl⟩).params.map (·.name)).Nodup := by
    decide
  exact ⟨given, distinct, ((distinguishesScopes _).functions drag given).2.mp distinct⟩

/-- A value called like the method of its enum, a parameter like the receiver and one like the
position of another, and two fields that escaping merges. -/
theorem scopes_bits_not_nodup :
    let options : Options := ⟨"NS", "lib", .cdecl⟩
    let mask : EnumDecl := ⟨"Mask", [⟨"bits", 1⟩], none⟩
    let pool : ClassDecl := ⟨"Pool", [], [⟨"super", "int"⟩, ⟨"super_", "int"⟩], none, false⟩
    let drag : BoundFunction := ⟨some pool, ⟨"drag", "void", [⟨"self", "int"⟩], none, false, false⟩⟩
    let turn : BoundFunction :=
      ⟨none, ⟨"turn", "void", [⟨"", "int"⟩, ⟨"arg0", "int"⟩], none, false, false⟩⟩
    ¬mask.item.implNames.Nodup ∧
      DistinctIdentifiers (pool.fields.map (·.name)) ∧
      ¬((pool.item mapType).fields.map (·.name)).Nodup ∧
      DistinctIdentifiers (drag.decl.parameters.map (·.name)) ∧
      ¬((drag.binding mapType options).params.map (·.name)).Nodup ∧
      DistinctIdentifiers (turn.decl.parameters.map (·.name)) ∧
      ¬((turn.binding mapType options).params.map (·.name)).Nodup := by
  decide

end ForeignBindings
