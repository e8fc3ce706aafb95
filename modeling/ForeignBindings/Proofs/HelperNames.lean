import ForeignBindings.Declaration.Unique
import ForeignBindings.Proofs.DefinedFunctions
import ForeignBindings.Proofs.FirstOccurrence
import ForeignBindings.Proofs.Identifier
import ForeignBindings.Section.Memory
import Mathlib.Data.List.Nodup
import Mathlib.Data.List.Pairwise
import Mathlib.Tactic.Common

/-!
# Names of the marshaling helpers

The groups of the memory section are told apart by their stems, and every group builds six names
from its stem. Two stems that differ may still build one name, by putting a word in front of the one
and an ending behind the other. `StemsClash` lists the ways, and `nodup_definedFunctions_iff` says
that the functions of the section have distinct names exactly when no two types clash.
-/

namespace ForeignBindings
open Identifier Layout Text

/-! ## Stems that build one name -/

namespace HelperGroup

/-- The words in front of a stem. -/
def verbs : List String := ["alloc", "free"]

/-- The words behind a stem. -/
def endings : List String := ["to_native", "from_native", "array_to_native"]

/-- Groups with these stems define a function of one name: the release of an array of the first is
the release of a value of the second, or a copy of the first is named like an allocation or a
release of the second. -/
inductive StemsClash : String → String → Prop
  | array {stem} : StemsClash stem (stem ++ "_array")
  | words {verb ending} : verb ∈ verbs → ending ∈ endings → StemsClash verb ending
  | shared {verb middle ending} : verb ∈ verbs → ending ∈ endings →
      StemsClash (verb ++ "_" ++ middle) (middle ++ "_" ++ ending)

theorem StemsClash.ne {s t : String} (clash : StemsClash s t) : s ≠ t := by
  intro same
  have lengths := congrArg String.length same
  cases clash with
  | array => simp [← String.length_toList] at lengths
  | words front back =>
      subst same
      simp only [verbs, endings, List.mem_cons, List.not_mem_nil, or_false] at front back
      rcases front with rfl | rfl <;> simp at back
  | shared front back =>
      simp only [verbs, endings, List.mem_cons, List.not_mem_nil, or_false] at front back
      rcases front with rfl | rfl <;> rcases back with rfl | rfl | rfl <;>
        simp [← String.length_toList] at lengths

/-- Where a word is put in front of one text and an ending behind another, the two sides meet at the
underscore or run past each other. -/
theorem word_append_eq {verb ending s t : String} (word : '_' ∉ verb.toList)
    (same : verb ++ "_" ++ s = t ++ "_" ++ ending) :
    t = verb ∧ s = ending ∨ ∃ middle, t = verb ++ "_" ++ middle ∧ s = middle ++ "_" ++ ending := by
  have texts : verb.toList ++ '_' :: s.toList = t.toList ++ '_' :: ending.toList := by
    simpa using congrArg String.toList same
  rcases List.append_eq_append_iff.mp texts with ⟨u, left, right⟩ | ⟨u, left, right⟩
  · cases u with
    | nil =>
        simp only [List.append_nil, List.nil_append, List.cons.injEq, true_and] at left right
        exact .inl ⟨String.toList_injective left, String.toList_injective right⟩
    | cons c middle =>
        obtain ⟨rfl, rest⟩ := List.cons.inj right
        refine .inr ⟨String.ofList middle, String.toList_injective ?_, String.toList_injective ?_⟩
        · simp [left]
        · simp [rest]
  · cases u with
    | nil =>
        simp only [List.append_nil, List.nil_append, List.cons.injEq, true_and] at left right
        exact .inl ⟨String.toList_injective left.symm, String.toList_injective right.symm⟩
    | cons c middle =>
        obtain ⟨rfl, rest⟩ := List.cons.inj right
        exact absurd (left ▸ by simp) word

theorem mem_functionNames {g : HelperGroup} {name : String} :
    name ∈ g.functionNames ↔ (∃ verb ∈ verbs, name = verb ++ "_" ++ g.stem) ∨
      (∃ ending ∈ endings, name = g.stem ++ "_" ++ ending) ∨
      name = "free" ++ "_" ++ (g.stem ++ "_array") := by
  have alloc : "alloc_" = "alloc" ++ "_" := rfl
  have free : "free_" = "free" ++ "_" := rfl
  have toNative : "_to_native" = "_" ++ "to_native" := rfl
  have fromNative : "_from_native" = "_" ++ "from_native" := rfl
  have arrayToNative : "_array_to_native" = "_" ++ "array_to_native" := rfl
  rw [functionNames, alloc, free, toNative, fromNative, arrayToNative]
  simp only [verbs, endings, List.mem_cons, List.not_mem_nil, or_false, exists_eq_or_imp,
    exists_eq_left, String.append_assoc]
  tauto

theorem functionNames_nodup (g : HelperGroup) : g.functionNames.Nodup := by
  have lengths : (g.functionNames.map String.length).Nodup := by
    simp [functionNames, ← String.length_toList]
  exact lengths.of_map

theorem verb_word {verb : String} (known : verb ∈ verbs) : '_' ∉ verb.toList := by
  simp only [verbs, List.mem_cons, List.not_mem_nil, or_false] at known
  rcases known with rfl | rfl <;> decide

theorem verb_append_inj {verb verb' s t : String} (known : verb ∈ verbs) (known' : verb' ∈ verbs)
    (same : verb ++ "_" ++ s = verb' ++ "_" ++ t) : s = t := by
  rcases word_append_eq (verb_word known) same with ⟨-, rest⟩ | ⟨middle, longer, -⟩
  · exact rest
  · exact absurd (longer ▸ by simp) (verb_word known')

theorem append_ending_eq {ending ending' s t : String} (known : ending ∈ endings)
    (known' : ending' ∈ endings) (same : s ++ "_" ++ ending = t ++ "_" ++ ending') :
    s = t ∨ s = t ++ "_array" ∨ t = s ++ "_array" := by
  simp only [endings, List.mem_cons, List.not_mem_nil, or_false] at known known'
  have backwards := congrArg (fun name : String => name.toList.reverse) same
  rcases known with rfl | rfl | rfl <;> rcases known' with rfl | rfl | rfl <;> simp at backwards
  -- Five pairs of endings agree on their last letters.
  · exact .inl (String.toList_injective backwards)
  · exact .inr (.inl (String.toList_injective (by simp [backwards])))
  · exact .inl (String.toList_injective backwards)
  · exact .inr (.inr (String.toList_injective (List.reverse_injective (by simp [← backwards]))))
  · exact .inl (String.toList_injective backwards)

theorem append_ending_ne {ending s t : String} (known : ending ∈ endings) :
    s ++ "_" ++ ending ≠ "free" ++ "_" ++ (t ++ "_array") := by
  intro same
  have backwards := congrArg (fun name : String => name.toList.reverse) same
  simp only [endings, List.mem_cons, List.not_mem_nil, or_false] at known
  rcases known with rfl | rfl | rfl <;> simp at backwards

theorem clash_of_verb_ending {verb ending s t : String} (front : verb ∈ verbs)
    (back : ending ∈ endings) (same : verb ++ "_" ++ s = t ++ "_" ++ ending) : StemsClash t s := by
  rcases word_append_eq (verb_word front) same with ⟨rfl, rfl⟩ | ⟨middle, rfl, rfl⟩
  · exact .words front back
  · exact .shared front back

theorem clash_of_mem {g h : HelperGroup} {name : String} (inG : name ∈ g.functionNames)
    (inH : name ∈ h.functionNames) :
    g.stem = h.stem ∨ StemsClash g.stem h.stem ∨ StemsClash h.stem g.stem := by
  have free : "free" ∈ verbs := by simp [verbs]
  rcases mem_functionNames.mp inG with ⟨verb, known, rfl⟩ | ⟨ending, known, rfl⟩ | rfl
  · rcases mem_functionNames.mp inH with ⟨verb', known', same⟩ | ⟨ending, known', same⟩ | same
    · exact .inl (verb_append_inj known known' same)
    · exact .inr (.inr (clash_of_verb_ending known known' same))
    · rw [verb_append_inj known free same]
      exact .inr (.inr .array)
  · rcases mem_functionNames.mp inH with ⟨verb, known', same⟩ | ⟨ending', known', same⟩ | same
    · exact .inr (.inl (clash_of_verb_ending known' known same.symm))
    · rcases append_ending_eq known known' same with same | longer | longer
      · exact .inl same
      · exact .inr (.inr (longer ▸ .array))
      · exact .inr (.inl (longer ▸ .array))
    · exact absurd same (append_ending_ne known)
  · rcases mem_functionNames.mp inH with ⟨verb, known', same⟩ | ⟨ending, known', same⟩ | same
    · rw [← verb_append_inj free known' same]
      exact .inr (.inl .array)
    · exact absurd same.symm (append_ending_ne known')
    · exact .inl (by simpa using same)

theorem exists_mem_of_clash {g h : HelperGroup} (clash : StemsClash g.stem h.stem) :
    ∃ name, name ∈ g.functionNames ∧ name ∈ h.functionNames := by
  simp only [mem_functionNames]
  generalize g.stem = s at clash
  generalize h.stem = t at clash
  cases clash with
  | array => exact ⟨_, .inr (.inr rfl), .inl ⟨"free", by simp [verbs], rfl⟩⟩
  | words front back => exact ⟨_, .inr (.inl ⟨_, back, rfl⟩), .inl ⟨_, front, rfl⟩⟩
  | shared front back =>
      refine ⟨_, .inr (.inl ⟨_, back, rfl⟩), .inl ⟨_, front, ?_⟩⟩
      simp only [String.append_assoc]

end HelperGroup

/-! ## Reading the section -/

namespace HelperGroup

variable {g : HelperGroup}

theorem isWord_of_mem_functionNames (word : IsWord g.stem) :
    ∀ name ∈ g.functionNames, IsWord name := by
  have array : IsWord "_array" := isWord_ofList rfl
  simp only [functionNames, List.forall_mem_cons, List.not_mem_nil, false_imp_iff, implies_true]
  refine ⟨.append ?_ word, .append ?_ word, word.append ?_, word.append ?_, word.append ?_,
    .append (.append ?_ word) array, trivial⟩
  all_goals exact isWord_ofList rfl

theorem definedFunction?_of_mem {line name : String} (marks rest : String) (word : IsWord g.stem)
    (known : marks ∈ ["", "unsafe ", "pub ", "pub unsafe "]) (member : name ∈ g.functionNames)
    (spelled : line = marks ++ "fn " ++ name ++ "(" ++ rest) :
    definedFunction? line = some name := by
  rw [spelled]
  exact definedFunction?_head rest known (isWord_of_mem_functionNames word name member)

theorem definedFunction?_alloc (word : IsWord g.stem) :
    definedFunction? ("pub fn alloc_" ++ g.stem ++ "() -> NativeHandle" ++ " \x7b") =
      some ("alloc_" ++ g.stem) := by
  have front : "pub fn alloc_" = "pub " ++ "fn " ++ "alloc_" := rfl
  have back : "() -> NativeHandle" = "(" ++ ") -> NativeHandle" := rfl
  refine definedFunction?_of_mem "pub " (") -> NativeHandle" ++ " \x7b") word (by simp)
    (by simp [functionNames]) ?_
  simp only [front, back, String.append_assoc]

theorem definedFunction?_free (word : IsWord g.stem) :
    definedFunction? ("pub unsafe fn free_" ++ g.stem ++ "(handle: NativeHandle)" ++ " \x7b") =
      some ("free_" ++ g.stem) := by
  have front : "pub unsafe fn free_" = "pub unsafe " ++ "fn " ++ "free_" := rfl
  have back : "(handle: NativeHandle)" = "(" ++ "handle: NativeHandle)" := rfl
  refine definedFunction?_of_mem "pub unsafe " ("handle: NativeHandle)" ++ " \x7b") word (by simp)
    (by simp [functionNames]) ?_
  simp only [front, back, String.append_assoc]

theorem definedFunction?_toNative (word : IsWord g.stem) :
    definedFunction? ("pub fn " ++ g.stem ++ "_to_native(value: &" ++ g.type ++
      ") -> NativeHandle" ++ " \x7b") = some (g.stem ++ "_to_native") := by
  have front : "pub fn " = "pub " ++ "fn " := rfl
  have back : "_to_native(value: &" = "_to_native" ++ "(" ++ "value: &" := rfl
  refine definedFunction?_of_mem "pub " ("value: &" ++ g.type ++ ") -> NativeHandle" ++ " \x7b")
    word (by simp) (by simp [functionNames]) ?_
  simp only [front, back, String.append_assoc]

theorem definedFunction?_fromNative (word : IsWord g.stem) :
    definedFunction? ("pub unsafe fn " ++ g.stem ++ "_from_native(handle: NativeHandle) -> " ++
      g.type ++ " \x7b") = some (g.stem ++ "_from_native") := by
  have front : "pub unsafe fn " = "pub unsafe " ++ "fn " := rfl
  have back : "_from_native(handle: NativeHandle) -> " =
      "_from_native" ++ "(" ++ "handle: NativeHandle) -> " := rfl
  refine definedFunction?_of_mem "pub unsafe " ("handle: NativeHandle) -> " ++ g.type ++ " \x7b")
    word (by simp) (by simp [functionNames]) ?_
  simp only [front, back, String.append_assoc]

theorem definedFunction?_arrayToNative (word : IsWord g.stem) :
    definedFunction? ("pub fn " ++ g.stem ++ "_array_to_native(values: &[" ++ g.type ++
      "]) -> NativeHandle" ++ " \x7b") = some (g.stem ++ "_array_to_native") := by
  have front : "pub fn " = "pub " ++ "fn " := rfl
  have back : "_array_to_native(values: &[" = "_array_to_native" ++ "(" ++ "values: &[" := rfl
  refine definedFunction?_of_mem "pub " ("values: &[" ++ g.type ++ "]) -> NativeHandle" ++ " \x7b")
    word (by simp) (by simp [functionNames]) ?_
  simp only [front, back, String.append_assoc]

theorem definedFunction?_freeArray (word : IsWord g.stem) :
    definedFunction? ("pub unsafe fn free_" ++ g.stem ++
      "_array(handle: NativeHandle, len: usize)" ++ " \x7b") =
      some ("free_" ++ g.stem ++ "_array") := by
  have front : "pub unsafe fn free_" = "pub unsafe " ++ "fn " ++ "free_" := rfl
  have back : "_array(handle: NativeHandle, len: usize)" =
      "_array" ++ "(" ++ "handle: NativeHandle, len: usize)" := rfl
  refine definedFunction?_of_mem "pub unsafe " ("handle: NativeHandle, len: usize)" ++ " \x7b")
    word (by simp) (by simp [functionNames]) ?_
  simp only [front, back, String.append_assoc]

theorem filterMap_lines (word : IsWord g.stem) :
    g.lines.filterMap definedFunction? = g.functionNames := by
  simp only [lines, toString_string, List.filterMap_append, filterMap_block]
  -- What is left are the heads of the blocks and the comments between them.
  simp (disch := repeat' first
    | with_reducible apply IsComment.append
    | exact isComment_ofList _) only
    [functionNames, filterMap_comment, filterMap_blank, List.filterMap_nil,
      definedFunction?_alloc word, definedFunction?_free word, definedFunction?_toNative word,
      definedFunction?_fromNative word, definedFunction?_arrayToNative word,
      definedFunction?_freeArray word, Option.toList_some, List.nil_append, List.cons_append]

theorem unbroken_lines (type : Unbroken g.type) (stem : Unbroken g.stem) :
    ∀ l ∈ g.lines, Unbroken l := by
  simp only [lines, toString_string, List.forall_mem_append, List.forall_mem_cons,
    List.not_mem_nil, false_imp_iff, implies_true, unbroken_block_iff, unbroken_append_iff, type,
    stem, and_true]
  and_intros <;> exact unbroken_ofList rfl

end HelperGroup

namespace MemorySection

variable {names : List String}

theorem filterMap_preamble : preamble.filterMap definedFunction? = preambleNames := by
  have imports : definedFunction?
      "use ::std::alloc::\x7bLayout, alloc_zeroed, dealloc, handle_alloc_error\x7d;" = none :=
    definedFunction?_ofList rfl
  have types : definedFunction? "use super::types::*;" = none := definedFunction?_ofList rfl
  have allocate : definedFunction? ("fn allocate(layout: Layout) -> NativeHandle" ++ " \x7b") =
      some "allocate" := by
    have whole : "fn allocate(layout: Layout) -> NativeHandle" ++ " \x7b" =
        "fn allocate(layout: Layout) -> NativeHandle \x7b" := rfl
    rw [whole]
    exact definedFunction?_ofList rfl
  have release : definedFunction?
      ("unsafe fn release(handle: NativeHandle, layout: Layout)" ++ " \x7b") = some "release" := by
    have whole : "unsafe fn release(handle: NativeHandle, layout: Layout)" ++ " \x7b" =
        "unsafe fn release(handle: NativeHandle, layout: Layout) \x7b" := rfl
    rw [whole]
    exact definedFunction?_ofList rfl
  simp only [preamble, preambleNames, List.filterMap_append, filterMap_block, filterMap_blank,
    List.filterMap_cons_none imports, List.filterMap_cons_none types,
    filterMap_comment (isComment_ofList _), List.filterMap_nil, allocate, release,
    Option.toList_some, List.nil_append, List.cons_append]

theorem unbroken_preamble : ∀ l ∈ preamble, Unbroken l := by
  simp only [preamble, List.forall_mem_append, List.forall_mem_cons, List.not_mem_nil,
    false_imp_iff, implies_true, unbroken_block_iff, and_true]
  and_intros <;> exact unbroken_ofList rfl

theorem isWord_stem {g : HelperGroup} (member : g ∈ items names) : IsWord g.stem := by
  obtain ⟨name, -, rfl⟩ := List.mem_map.mp member
  exact isWord_snakeCase name

theorem isIdentChar_type {g : HelperGroup} (member : g ∈ items names) :
    ∀ c ∈ g.type.toList, IsIdentChar c := by
  obtain ⟨name, -, rfl⟩ := List.mem_map.mp member
  have fallback : IsWord "Unnamed" := isWord_ofList rfl
  exact fun c => mem_ident fallback.isIdentChar

theorem unbroken_lines : ∀ l ∈ lines names, Unbroken l := by
  intro l member
  rw [lines, List.mem_append] at member
  rcases member with member | member
  · exact unbroken_preamble l member
  · simp only [spaced, List.mem_flatMap, List.mem_map, exists_exists_and_eq_and,
      List.mem_cons] at member
    obtain ⟨g, inItems, rfl | member⟩ := member
    · exact unbroken_ofList rfl
    · have type := unbroken_of_isIdentChar (isIdentChar_type inItems)
      have stem := unbroken_of_isIdentChar (isWord_stem inItems).isIdentChar
      exact HelperGroup.unbroken_lines type stem l member

theorem definedFunctions_lines :
    definedFunctions (unlines (lines names)) = functionNames names := by
  have groups : (spaced ((items names).map (·.lines))).filterMap definedFunction? =
      (items names).flatMap (·.functionNames) := by
    rw [spaced, List.flatMap_map, List.filterMap_flatMap]
    refine List.flatMap_congr fun g member => ?_
    rw [filterMap_blank, HelperGroup.filterMap_lines (isWord_stem member)]
  rw [definedFunctions_unlines unbroken_lines, lines, List.filterMap_append, filterMap_preamble,
    groups, functionNames]

/-! ## Distinct names -/

theorem stems_distinct (names : List String) :
    (items names).Pairwise fun g h => g.stem ≠ h.stem := by
  have distinct := keys_nodup_firstBy snakeCase [] names
  rw [List.Nodup, List.pairwise_map] at distinct
  rw [items, List.pairwise_map]
  exact distinct

/-- Every stem has its group, although only the first type with a stem gets one. -/
theorem exists_group {name : String} (member : name ∈ names) :
    ∃ g ∈ items names, g.stem = snakeCase name := by
  have kept : snakeCase name ∈ (firstBy snakeCase [] names).map snakeCase :=
    mem_map_firstBy.mpr ⟨List.mem_map_of_mem member, List.not_mem_nil⟩
  obtain ⟨first, isKept, same⟩ := List.mem_map.mp kept
  exact ⟨.ofName first, List.mem_map_of_mem isKept, same⟩

theorem nodup_groups_iff : ((items names).flatMap (·.functionNames)).Nodup ↔
    ∀ name ∈ names, ∀ other ∈ names,
      ¬HelperGroup.StemsClash (snakeCase name) (snakeCase other) := by
  rw [List.nodup_flatMap]
  constructor
  · rintro ⟨-, disjoint⟩ name member other member' clash
    obtain ⟨g, inItems, stem⟩ := exists_group member
    obtain ⟨h, inItems', stem'⟩ := exists_group member'
    rw [← stem, ← stem'] at clash
    have different : g ≠ h := fun same => clash.ne (congrArg HelperGroup.stem same)
    obtain ⟨shared, inG, inH⟩ := HelperGroup.exists_mem_of_clash clash
    have symmetric : Std.Symm (Function.onFun List.Disjoint HelperGroup.functionNames) :=
      ⟨fun _ _ apart _ inFirst inSecond => apart inSecond inFirst⟩
    exact disjoint.forall inItems inItems' different inG inH
  · intro free
    refine ⟨fun g _ => g.functionNames_nodup, (stems_distinct names).imp_of_mem ?_⟩
    intro g h inItems inItems' different shared inG inH
    obtain ⟨name, kept, rfl⟩ := List.mem_map.mp inItems
    obtain ⟨other, kept', rfl⟩ := List.mem_map.mp inItems'
    have member := (firstBy_sublist _ _ _).subset kept
    have member' := (firstBy_sublist _ _ _).subset kept'
    rcases HelperGroup.clash_of_mem inG inH with same | clash | clash
    · exact different same
    · exact free name member other member' clash
    · exact free other member' name member clash

theorem disjoint_preambleNames :
    List.Disjoint preambleNames ((items names).flatMap (·.functionNames)) := by
  intro name inPreamble inGroups
  obtain ⟨g, -, member⟩ := List.mem_flatMap.mp inGroups
  have underscore : '_' ∈ name.toList := by
    rcases HelperGroup.mem_functionNames.mp member with ⟨_, -, rfl⟩ | ⟨_, -, rfl⟩ | rfl <;> simp
  revert underscore
  rcases List.mem_pair.mp inPreamble with rfl | rfl <;> decide

/-- The section defines the functions of its preamble and six for every stem, and no two of one name
exactly when no two types have clashing stems. -/
theorem nodup_definedFunctions_iff (names : List String) :
    definedFunctions (unlines (lines names)) = functionNames names ∧
      ((definedFunctions (unlines (lines names))).Nodup ↔
        ∀ name ∈ names, ∀ other ∈ names,
          ¬HelperGroup.StemsClash (snakeCase name) (snakeCase other)) := by
  refine ⟨definedFunctions_lines, ?_⟩
  rw [definedFunctions_lines, functionNames, List.nodup_append', nodup_groups_iff]
  have preamble : preambleNames.Nodup := by decide
  exact ⟨fun h => h.2.1, fun free => ⟨preamble, free, disjoint_preambleNames⟩⟩

/-- The release of an array of `Foo` has the name of the release of a `FooArray`. -/
theorem definedFunctions_fooArray_not_nodup :
    let tree : List Declaration := [.struct ⟨"Foo", [], none⟩, .struct ⟨"FooArray", [], none⟩]
    ∃ set, DeclarationSet.ofTree tree = .ok set ∧
      set.deduplicated.plainDataTypes = ["Foo", "FooArray"] ∧
      ¬(definedFunctions (unlines (lines set.deduplicated.plainDataTypes))).Nodup := by
  refine ⟨_, rfl, by decide, ?_⟩
  rw [definedFunctions_lines]
  decide

end MemorySection

end ForeignBindings
