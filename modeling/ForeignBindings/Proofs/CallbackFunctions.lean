import ForeignBindings.Proofs.CallbackSection

/-!
# Names of the functions for callbacks

The two functions of a callback are named in snake case, which writes every letter small and an
underscore where a capital starts a word. So two names of letters and digits are written alike
exactly when they have the same letters up to case and the same word starts
(`snakeCase_eq_snakeCase_iff`), and the functions of two callbacks with such names are defined
twice.
-/

namespace ForeignBindings
open CType Identifier Layout Text

namespace Identifier

/-! ## Names that are alike in snake case -/

/-- The characters that start a word with a capital letter, after the character `prev`. -/
def wordStarts (prev : Option Char) : List Char → List Bool
  | [] => []
  | c :: cs => (c.isUpper && startsWord prev cs.head?) :: wordStarts (some c) cs

/-- Two names with the same letters up to case and the same word starts. -/
def SameWords (a b : String) : Prop :=
  a.toList.map Char.toLower = b.toList.map Char.toLower ∧
    wordStarts none a.toList = wordStarts none b.toList

instance (a b : String) : Decidable (SameWords a b) := inferInstanceAs (Decidable (_ ∧ _))

theorem snakeAfter_cons {prev : Option Char} {c : Char} {cs : List Char}
    (alphanumeric : c.isAlphanum = true) :
    snakeAfter prev true (c :: cs) =
      (if c.isUpper && startsWord prev cs.head? then ['_'] else []) ++
        c.toLower :: snakeAfter (some c) true cs := by
  rw [snakeAfter, alphanumeric, Bool.and_true]
  rfl

theorem snakeAfter_eq_iff {cs ds : List Char} (plain : ∀ c ∈ cs, c.isAlphanum = true)
    (plain' : ∀ d ∈ ds, d.isAlphanum = true) (prev prev' : Option Char) :
    snakeAfter prev true cs = snakeAfter prev' true ds ↔
      cs.map Char.toLower = ds.map Char.toLower ∧ wordStarts prev cs = wordStarts prev' ds := by
  induction cs generalizing ds prev prev' with
  | nil =>
      cases ds with
      | nil => exact iff_of_true rfl ⟨rfl, rfl⟩
      | cons d ds =>
          rw [snakeAfter_cons (plain' d List.mem_cons_self)]
          simp [snakeAfter]
  | cons c cs ih =>
      rw [List.forall_mem_cons] at plain
      cases ds with
      | nil =>
          rw [snakeAfter_cons plain.1]
          simp [snakeAfter]
      | cons d ds =>
          rw [List.forall_mem_cons] at plain'
          have rest := ih plain.2 plain'.2 (some c) (some d)
          have left := toLower_ne_underscore plain.1
          have right := (toLower_ne_underscore plain'.1).symm
          rw [snakeAfter_cons plain.1, snakeAfter_cons plain'.1, wordStarts, wordStarts]
          -- An underscore on one side only would stand for a letter on the other.
          cases c.isUpper && startsWord prev cs.head? <;>
            cases d.isUpper && startsWord prev' ds.head? <;>
            simp [rest, left, right, and_assoc]

theorem snakeAfter_eq_of_none (cs : List Char) (plain : ∀ c ∈ cs, c.isAlphanum = true) :
    snakeAfter none false cs = snakeAfter none true cs := by
  cases cs with
  | nil => rfl
  | cons c cs => simp [snakeAfter, startsWord, plain c List.mem_cons_self]

theorem getLast?_snakeAfter {cs : List Char} (plain : ∀ c ∈ cs, c.isAlphanum = true)
    (prev : Option Char) : (snakeAfter prev true cs).getLast? ≠ some '_' := by
  induction cs generalizing prev with
  | nil => simp [snakeAfter]
  | cons c cs ih =>
      rw [List.forall_mem_cons] at plain
      have last := ih plain.2 (some c)
      rw [snakeAfter_cons plain.1, List.getLast?_append, List.getLast?_cons]
      cases found : (snakeAfter (some c) true cs).getLast? with
      | none => simpa using toLower_ne_underscore plain.1
      | some d => simpa [found] using last

theorem toList_snakeCase {s : String} (alphanumeric : IsAlphanumeric s) :
    (snakeCase s).toList = snakeAfter none true s.toList := by
  rw [snakeCase, String.toList_ofList, snakeAfter_eq_of_none _ alphanumeric]
  refine dropWhileEnd_eq_self fun c last => beq_eq_false_iff_ne.mpr ?_
  rintro rfl
  exact getLast?_snakeAfter alphanumeric none last

theorem snakeCase_eq_snakeCase_iff {a b : String} (first : IsAlphanumeric a)
    (second : IsAlphanumeric b) : snakeCase a = snakeCase b ↔ SameWords a b := by
  rw [← String.toList_inj, toList_snakeCase first, toList_snakeCase second]
  exact snakeAfter_eq_iff first second none none

end Identifier

/-! ## Functions of the section -/

/-- The names of the functions that wrap and unwrap a callback. -/
def Callback.functionNames (c : Callback) : List String :=
  ["wrap_" ++ snakeCase c.name, "unwrap_" ++ snakeCase c.name]

theorem wrap_ne_unwrap (s t : String) : "wrap_" ++ s ≠ "unwrap_" ++ t := by
  intro same
  have chars := congrArg String.toList same
  simp at chars

theorem disjoint_functionNames_iff {c d : Callback} :
    List.Disjoint c.functionNames d.functionNames ↔ snakeCase c.name ≠ snakeCase d.name := by
  simp [Callback.functionNames, List.disjoint_left, wrap_ne_unwrap, (wrap_ne_unwrap _ _).symm]

theorem nodup_functionNames_iff {callbacks : List Callback} :
    (callbacks.flatMap (·.functionNames)).Nodup ↔
      callbacks.Pairwise fun c d => snakeCase c.name ≠ snakeCase d.name := by
  rw [List.nodup_flatMap]
  have each : ∀ c ∈ callbacks, c.functionNames.Nodup := fun c _ => by
    simp [Callback.functionNames]
  rw [and_iff_right each]
  exact List.Pairwise.iff fun c d => disjoint_functionNames_iff

theorem RendersFirstCallbacks.definedFunctions {set : DeclarationSet} {options : Options}
    {code : GeneratedCode} {callbacks : List Callback}
    (renders : RendersFirstCallbacks set options code callbacks) :
    definedFunctions (unlines (CallbacksSection.lines mapType options.convention callbacks)) =
      callbacks.flatMap (·.functionNames) := by
  rw [definedFunctions_eq, renders.definitions, List.filterMap_flatMap]
  rfl

theorem RendersFirstCallbacks.definesOnce_iff {set : DeclarationSet} {options : Options}
    {code : GeneratedCode} {callbacks : List Callback}
    (renders : RendersFirstCallbacks set options code callbacks) :
    (Layout.definedFunctions (unlines
      (CallbacksSection.lines mapType options.convention callbacks))).Nodup ↔
      callbacks.Pairwise fun c d => ¬SameWords c.name d.name := by
  rw [renders.definedFunctions, nodup_functionNames_iff]
  refine List.Pairwise.iff_of_mem fun {c d} inCallbacks inCallbacks' => ?_
  obtain ⟨owner, part, name⟩ := renders.first.exists_callbackName inCallbacks
  obtain ⟨owner', part', name'⟩ := renders.first.exists_callbackName inCallbacks'
  rw [name, name']
  exact not_congr (snakeCase_eq_snakeCase_iff (isAlphanumeric_callbackName owner part)
    (isAlphanumeric_callbackName owner' part'))

/-! ## The statement -/

/-- The callbacks section of a tree defines every function once exactly when no two callbacks have
names that are alike up to case and start words at the same letters. -/
theorem generate_definesFunctionsOnce_iff {tree : List Declaration} {callbacks : List Callback}
    (h : synthesize tree = .ok callbacks) (options : Options) :
    ∃ generation, generate tree options = .ok generation ∧
      generation.code.content? .callbacks = some (unlines (SectionKind.callbacks.header options ++
        CallbacksSection.lines mapType options.convention callbacks)) ∧
      ((definedFunctions (unlines
        (CallbacksSection.lines mapType options.convention callbacks))).Nodup ↔
          callbacks.Pairwise fun c d => ¬SameWords c.name d.name) := by
  unfold synthesize at h
  unfold generate
  cases flat : DeclarationSet.ofTree tree with
  | error e =>
      rw [flat] at h
      cases h
  | ok set =>
      rw [flat] at h
      cases h
      have renders := rendersFirstCallbacks set.deduplicated options
      exact ⟨_, rfl, renders.content, renders.definesOnce_iff⟩

/-- Two functions that give out callbacks. -/
theorem generate_definesFunctionsOnce_opener :
    let opener : FunctionDecl := ⟨"opener", "int (*)(void)", [], none, false, false⟩
    let closer : FunctionDecl := ⟨"closer", "void (*)(int)", [], none, false, false⟩
    let options : Options := ⟨"NS", "lib", .cdecl⟩
    ∃ callbacks, synthesize [.function opener, .function closer] = .ok callbacks ∧
      ∃ generation, generate [.function opener, .function closer] options = .ok generation ∧
      generation.code.content? .callbacks = some (unlines (SectionKind.callbacks.header options ++
        CallbacksSection.lines mapType options.convention callbacks)) ∧
      ((definedFunctions (unlines
        (CallbacksSection.lines mapType options.convention callbacks))).Nodup ↔
          callbacks.Pairwise fun c d => ¬SameWords c.name d.name) :=
  ⟨_, rfl, generate_definesFunctionsOnce_iff rfl _⟩

/-- Callbacks whose names differ in the case of two letters share their functions. -/
theorem definedFunctions_getUrl_not_nodup :
    let older : FunctionDecl := ⟨"getURL", "void (*)(int)", [], none, false, false⟩
    let newer : FunctionDecl := ⟨"getUrl", "void (*)(int)", [], none, false, false⟩
    let options : Options := ⟨"NS", "lib", .cdecl⟩
    ∃ callbacks generation, synthesize [.function older, .function newer] = .ok callbacks ∧
      callbacks.map (·.name) = ["GetURLCallback", "GetUrlCallback"] ∧
      generate [.function older, .function newer] options = .ok generation ∧
      generation.code.content? .callbacks = some (unlines (SectionKind.callbacks.header options ++
        CallbacksSection.lines mapType options.convention callbacks)) ∧
      ¬(definedFunctions (unlines
        (CallbacksSection.lines mapType options.convention callbacks))).Nodup := by
  intro older newer options
  let set : DeclarationSet := ⟨[⟨none, older⟩, ⟨none, newer⟩], [], [], [], []⟩
  have renders := rendersFirstCallbacks set.deduplicated options
  have names : (CallbackTable.ofSet set.deduplicated).1.definitions.map (·.name) =
      ["GetURLCallback", "GetUrlCallback"] := by decide
  have flat : DeclarationSet.ofTree [.function older, .function newer] = .ok set := rfl
  unfold synthesize generate
  rw [flat]
  refine ⟨_, _, rfl, names, rfl, renders.content, ?_⟩
  rw [renders.definesOnce_iff]
  decide

end ForeignBindings
