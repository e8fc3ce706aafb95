import ForeignBindings.Proofs.ArrayRows
import ForeignBindings.Proofs.OriginalSpelling

/-!
# Mapping one extent at a time

Mapping takes all extents of a type off at once. One can also be taken off at a time: the others
are written down again behind what stands before the brackets, perhaps with a star behind them, and
the text that this gives is mapped in its turn (`mapWithin`). Whatever the brackets of the type hold,
fewer extents are read from that text (`fewer_extents`). So mapping ends after as many texts as the
type has extents, and two more, and comes to what mapping all at once gives
(`descendsThroughExtents`).

The extents of one text are read in rounds, a pair of brackets in each (`extentsFrom_eq_rounds`), and
every round takes two characters or more off the text (`exists_taken`).
-/

namespace ForeignBindings
open CType Text

namespace CType

/-! ## Rounds of reading -/

/-- A round of reading extents: what the pair of brackets at the front holds, and what stands behind
the pair and the blank characters after it. -/
def bracketRound? : List Char → Option (Extent × List Char)
  | '[' :: inner =>
    match inner.dropWhile (· != ']') with
    | [] => none
    | _ :: behind => some (readExtent (inner.takeWhile (· != ']')), trimStart behind)
  | _ => none

theorem bracketRound?_bracketed {inner : List Char} (closed : ']' ∉ inner) (behind : List Char) :
    bracketRound? ('[' :: (inner ++ ']' :: behind)) = some (readExtent inner, trimStart behind) := by
  rw [bracketRound?, dropWhile_bne_append_cons closed, takeWhile_bne_append_cons closed]

theorem bracketRound?_unclosed {inner : List Char} (unclosed : ']' ∉ inner) :
    bracketRound? ('[' :: inner) = none := by
  have plain : ∀ c ∈ inner, (c != ']') = true := fun c member =>
    bne_iff_ne.mpr (ne_of_mem_of_not_mem member unclosed)
  rw [bracketRound?, List.dropWhile_eq_nil_iff.mpr plain]

theorem exists_bracketed_of_bracketRound? {cs rest : List Char} {extent : Extent}
    (round : bracketRound? cs = some (extent, rest)) :
    ∃ inner behind, ']' ∉ inner ∧ cs = '[' :: (inner ++ ']' :: behind) ∧
      extent = readExtent inner ∧ rest = trimStart behind := by
  unfold bracketRound? at round
  split at round
  · rename_i text
    by_cases closing : ']' ∈ text
    · obtain ⟨inner, behind, rfl, closed⟩ := List.eq_append_cons_of_mem closing
      obtain ⟨rfl, rfl⟩ :=
        Prod.mk.inj (Option.some.inj (round.symm.trans (bracketRound?_bracketed closed behind)))
      exact ⟨inner, behind, closed, rfl, rfl, rfl⟩
    · cases round.symm.trans (bracketRound?_unclosed closing)
  · cases round

theorem exists_taken {cs rest : List Char} {extent : Extent}
    (round : bracketRound? cs = some (extent, rest)) :
    ∃ taken, cs = taken ++ rest ∧ 2 ≤ taken.length := by
  obtain ⟨inner, behind, -, rfl, -, rfl⟩ := exists_bracketed_of_bracketRound? round
  refine ⟨'[' :: (inner ++ ']' :: behind.takeWhile isBlank), ?_, ?_⟩
  · simp [trimStart, List.takeWhile_append_dropWhile]
  · rw [List.length_cons, List.length_append, List.length_cons]
    omega

/-- Reads extents round by round, until there is no pair of brackets at the front. -/
def bracketRounds (cs : List Char) : List Extent :=
  match _ : bracketRound? cs with
  | none => []
  | some (extent, rest) => extent :: bracketRounds rest
termination_by cs.length
decreasing_by
  rename_i round
  obtain ⟨taken, rfl, two⟩ := exists_taken round
  rw [List.length_append]
  omega

theorem extentsFrom_trimStart (cs : List Char) :
    extentsFrom none (trimStart cs) = extentsFrom none cs := by
  have blank : ∀ c ∈ cs.takeWhile isBlank, isBlank c = true := fun _ => List.mem_takeWhile_imp
  rw [← extentsFrom_blank_append blank, trimStart, List.takeWhile_append_dropWhile]

theorem extentsFrom_unclosed {cs : List Char} (unclosed : ']' ∉ cs) (opened : List Char) :
    extentsFrom (some opened) cs = [] := by
  induction cs generalizing opened with
  | nil => rfl
  | cons c cs ih =>
      rw [List.mem_cons, not_or] at unclosed
      rw [extentsFrom, if_neg (Ne.symm unclosed.1), ih unclosed.2]

theorem extentsFrom_of_bracketRound?_none {cs : List Char}
    (visible : ∀ c, cs.head? = some c → isBlank c = false) (stops : bracketRound? cs = none) :
    extentsFrom none cs = [] := by
  cases cs with
  | nil => rfl
  | cons c rest =>
      by_cases opening : c = '['
      · subst opening
        have unclosed : ']' ∉ rest := fun closing => by
          obtain ⟨inner, behind, rfl, closed⟩ := List.eq_append_cons_of_mem closing
          cases stops.symm.trans (bracketRound?_bracketed closed behind)
        rw [extentsFrom, if_pos rfl, extentsFrom_unclosed unclosed]
      · rw [extentsFrom, if_neg opening, if_neg (by simp [visible c rfl])]

theorem extentsFrom_eq_rounds {cs : List Char}
    (visible : ∀ c, cs.head? = some c → isBlank c = false) :
    extentsFrom none cs = bracketRounds cs := by
  fun_induction bracketRounds cs with
  | case1 cs stops => exact extentsFrom_of_bracketRound?_none visible stops
  | case2 cs extent rest round ih =>
      obtain ⟨inner, behind, closed, rfl, rfl, rfl⟩ := exists_bracketed_of_bracketRound? round
      rw [extentsFrom, if_pos rfl, extentsFrom_inner closed, ← extentsFrom_trimStart behind,
        ih fun _ => not_of_head?_dropWhile, List.reverse_nil, List.nil_append]

theorem extents_splitExtents (cs : List Char) :
    (splitExtents cs).2 = bracketRounds (cs.dropWhile (· != '[')) := by
  have visible : ∀ c, (cs.dropWhile (· != '[')).head? = some c → isBlank c = false := by
    intro c first
    have opening : (c != '[') = false := not_of_head?_dropWhile (p := (· != '[')) first
    obtain rfl : c = '[' := by simpa using opening
    decide
  rw [← extentsFrom_eq_rounds visible, splitExtents]
  cases cs.dropWhile (· != '[') <;> rfl

theorem exists_base_of_splitExtents {cs front : List Char} {extents : List Extent}
    (nonempty : extents ≠ []) (split : splitExtents (trim cs) = (front, extents)) :
    ∃ base : String, '[' ∉ base.toList ∧ front = trim base.toList := by
  have plain : '[' ∉ (trim cs).takeWhile (· != '[') := fun member => by
    simpa using List.mem_takeWhile_imp member
  -- Trimming takes nothing off the front, as the text itself starts with a visible character.
  have start : trimStart ((trim cs).takeWhile (· != '[')) = (trim cs).takeWhile (· != '[') := by
    cases whole : (trim cs).takeWhile (· != '[') with
    | nil => rfl
    | cons c rest =>
        obtain ⟨later, kept⟩ := whole ▸ List.takeWhile_prefix (p := (· != '[')) (l := trim cs)
        have first : (trim cs).head? = some c := by rw [← kept, List.cons_append, List.head?_cons]
        exact List.dropWhile_cons_of_neg (by simp [visible_head?_trim first])
  refine ⟨String.ofList ((trim cs).takeWhile (· != '[')), ?_, ?_⟩
  · rwa [String.toList_ofList]
  · unfold splitExtents at split
    dsimp only at split
    rw [String.toList_ofList, trim, start]
    split at split
    · exact absurd (Prod.mk.inj split).2.symm nonempty
    · exact (Prod.mk.inj split).1.symm

end CType

/-! ## The types that mapping goes on with -/

/-- The extents that are read from a type. -/
def typeExtents (type : String) : List Extent := (splitExtents (trim type.toList)).2

section

variable {base : String} (plain : '[' ∉ base.toList)
include plain

/-- What is written behind a type is read back, and a star behind it starts no other extent. -/
theorem splitExtents_rendered {extents : List Extent} (nonempty : extents ≠ []) {rest : List Char}
    (stops : rest = [] ∨ rest = ['*']) :
    splitExtents (trim (trim base.toList ++ (renderExtents extents).toList ++ rest)) =
      (trim base.toList, extents) := by
  have unopened : '[' ∉ trim base.toList := fun member => plain (mem_of_mem_trim member)
  have groups : extentGroups extents ≠ [] := List.map_eq_nil_iff.not.mpr nonempty
  have visible : ∀ c, (trim base.toList ++ (renderExtents extents).toList ++ rest).getLast? =
      some c → isBlank c = false := by
    rcases stops with rfl | rfl
    · rw [List.append_nil, toList_renderExtents]
      exact visible_of_getLast? (getLast?_append_spacedBrackets groups _) (by decide)
    · exact visible_of_getLast? List.getLast?_concat (by decide)
  have noExtent : extentsFrom none rest = [] := by rcases stops with rfl | rfl <;> rfl
  rw [trim_eq_trimStart visible, toList_renderExtents,
    splitExtents_spacedBrackets unopened (blank_extentGroups extents) (closed_extentGroups extents)
      groups noExtent,
    trim_trim, readExtents_extentGroups]

theorem typeExtents_rendered (extents : List Extent) {rest : String}
    (stops : rest = "" ∨ rest = "*") :
    typeExtents (String.ofList (trim base.toList) ++ renderExtents extents ++ rest) = extents := by
  rw [typeExtents, String.toList_append, String.toList_append, String.toList_ofList]
  by_cases nonempty : extents = []
  · have noBracket : '[' ∉ rest.toList := by rcases stops with rfl | rfl <;> decide
    have unopened : '[' ∉ trim (trim base.toList ++ rest.toList) := fun member =>
      (List.mem_append.mp (mem_of_mem_trim member)).elim
        (fun inBase => plain (mem_of_mem_trim inBase)) noBracket
    have nothing : (renderExtents []).toList = [] := by decide
    rw [nonempty, nothing, List.append_nil, splitExtents_of_plain unopened]
  · have stopsChars : rest.toList = [] ∨ rest.toList = ['*'] := by
      rcases stops with rfl | rfl
      · exact .inl rfl
      · exact .inr rfl
    rw [splitExtents_rendered plain nonempty stopsChars]

/-- A star behind the other extents makes up for the extent that is left out. -/
theorem mapType_starred (extents : List Extent) (spelling : String) :
    (mapType (String.ofList (trim base.toList) ++ renderExtents extents ++ "*")).withSpelling
        spelling =
      (TypeMapping.ofExtents (trim base.toList) (none :: extents)).withSpelling spelling := by
  have written : (String.ofList (trim base.toList) ++ renderExtents extents ++ "*").toList =
      trim base.toList ++ (renderExtents extents).toList ++ ['*'] := by simp
  have noFunction : FunctionPointer.read?
      (trim (trim base.toList ++ (renderExtents extents).toList ++ ['*'])) = none := by
    refine read?_eq_none fun closing => ?_
    rw [trim_trim, getLast?_trim List.getLast?_concat (by decide)] at closing
    cases closing
  -- Behind other extents the star is not read; with none left it is part of the shape.
  by_cases nonempty : extents = []
  · subst nonempty
    have nothing : (renderExtents []).toList = [] := by decide
    rw [nothing, List.append_nil] at written noFunction
    have unopened : '[' ∉ (String.ofList (trim base.toList) ++ renderExtents [] ++ "*").toList := by
      rw [written]
      intro member
      rcases List.mem_append.mp member with inBase | inStar
      · exact plain (mem_of_mem_trim inBase)
      · exact absurd inStar (by decide)
    have trimmed : trim (trim base.toList ++ ['*']) = trim base.toList ++ ['*'] := by
      rw [trim_eq_trimStart (visible_of_getLast? List.getLast?_concat (by decide)),
        trimStart_append_cons _ (by decide), trimStart_trim]
    rw [mapType_eq_ofShape unopened (by rw [written, noFunction]), typeShape, written, trimmed,
      TypeMapping.ofExtents, TypeMapping.withSpelling_withSpelling]
    exact TypeMapping.withSpelling_ofShape _ _ _ _
  · have split := splitExtents_rendered plain nonempty (.inr rfl)
    rw [mapType_eq_ofExtents (by rw [written, noFunction]) (by rw [written, split]) nonempty,
      TypeMapping.ofExtents_cons_none nonempty, TypeMapping.withSpelling_withSpelling,
      TypeMapping.withSpelling_withSpelling]

end

/-! ## Mapping step by step -/

/-- What mapping does with a type: it ends, or it goes on with another type. -/
inductive MappingStep
  | ends (mapping : TypeMapping)
  /-- The type is an array of this length, and its elements are mapped. -/
  | elements (length : UInt64) (element : String)
  /-- The first extent is unknown, and a pointer in its place is mapped. -/
  | decays (pointer : String)
  /-- Nothing is left to name, and `void` is mapped. -/
  | nameless
deriving Repr, DecidableEq

namespace MappingStep

/-- The type that mapping goes on with. -/
def next? : MappingStep → Option String
  | ends _ => none
  | elements _ element => some element
  | decays pointer => some pointer
  | nameless => some "void"

/-- The mapping of a type with this spelling, where `map` maps the type that mapping goes on with. -/
def finish? (map : String → Option TypeMapping) (spelling : String) :
    MappingStep → Option TypeMapping
  | ends mapping => some mapping
  | elements length element => (map element).map (.array spelling length ·)
  | decays pointer => (map pointer).map (·.withSpelling spelling)
  | nameless => map "void"

theorem finish?_congr {step : MappingStep} {map other : String → Option TypeMapping}
    (same : ∀ next, step.next? = some next → map next = other next) (spelling : String) :
    step.finish? map spelling = step.finish? other spelling := by
  cases step with
  | ends => rfl
  | elements length element => rw [finish?, finish?, same element rfl]
  | decays pointer => rw [finish?, finish?, same pointer rfl]
  | nameless => exact same "void" rfl

end MappingStep

/-- A type without the blank characters around it. -/
def trimmed (type : String) : String := String.ofList (trim type.toList)

/-- What mapping does with a type. The extents behind the first one are written down again. -/
def mappingStep (type : String) : MappingStep :=
  if (FunctionPointer.read? (trim type.toList)).isSome then
    .ends (.plain (trimmed type) false .handle)
  else
    match splitExtents (trim type.toList) with
    | (base, some length :: extents) =>
      .elements length (String.ofList base ++ renderExtents extents)
    | (base, none :: extents) => .decays (String.ofList base ++ renderExtents extents ++ "*")
    | (base, []) =>
      if (shapeOf base).base = "" ∧ (shapeOf base).indirection = 0 then .nameless
      else .ends (TypeMapping.ofShape (trimmed type) (shapeOf base))

/-- Mapping that goes from type to type, through so many types at most. -/
def mapWithin : Nat → String → Option TypeMapping
  | 0, _ => none
  | depth + 1, type => (mappingStep type).finish? (mapWithin depth) (trimmed type)

/-- What a step says about the extents of a type and about its mapping. -/
inductive StepOf (type : String) : MappingStep → Prop
  | ends : StepOf type (.ends (mapType type))
  | elements {base : String} {length : UInt64} {extents : List Extent}
      (plain : '[' ∉ base.toList) (whole : typeExtents type = some length :: extents)
      (mapped : mapType type =
        .array (trimmed type) length (TypeMapping.ofExtents (trim base.toList) extents)) :
      StepOf type (.elements length (String.ofList (trim base.toList) ++ renderExtents extents))
  | decays {base : String} {extents : List Extent}
      (plain : '[' ∉ base.toList) (whole : typeExtents type = none :: extents)
      (mapped : mapType type =
        (TypeMapping.ofExtents (trim base.toList) (none :: extents)).withSpelling (trimmed type)) :
      StepOf type (.decays (String.ofList (trim base.toList) ++ renderExtents extents ++ "*"))
  | nameless (mapped : mapType type = mapType "void") : StepOf type .nameless

theorem stepOf_mappingStep (type : String) : StepOf type (mappingStep type) := by
  by_cases function : (FunctionPointer.read? (trim type.toList)).isSome
  · have mapped : mapType type = .plain (trimmed type) false .handle := by
      rw [mapType, TypeMapping.ofText, if_pos function, trimmed]
    rw [mappingStep, if_pos function, ← mapped]
    exact .ends
  · have noFunction : FunctionPointer.read? (trim type.toList) = none := by simpa using function
    rw [mappingStep, if_neg function]
    cases split : splitExtents (trim type.toList) with
    | mk front extents =>
        have whole : typeExtents type = extents := by rw [typeExtents, split]
        cases extents with
        | nil =>
            have mapped : mapType type = TypeMapping.ofShape (trimmed type) (shapeOf front) := by
              rw [mapType, TypeMapping.ofText, if_neg function, split, trimmed]
            dsimp only
            split
            · rename_i nothing
              refine .nameless ?_
              rw [mapped, TypeMapping.ofShape_of_isNameless ⟨nothing.1, nothing.2⟩]
              decide
            · rw [← mapped]
              exact .ends
        | cons first rest =>
            have nonempty := List.cons_ne_nil first rest
            have mapped := mapType_eq_ofExtents noFunction split nonempty
            obtain ⟨base, plain, rfl⟩ := exists_base_of_splitExtents nonempty split
            cases first with
            | some length =>
                rw [TypeMapping.ofExtents] at mapped
                exact .elements plain whole mapped
            | none => exact .decays plain whole mapped

/-- Every type that mapping goes on with has fewer extents, or is `void`. -/
theorem fewer_extents {type next : String} (goesOn : (mappingStep type).next? = some next) :
    next = "void" ∨ (typeExtents next).length < (typeExtents type).length := by
  have step := stepOf_mappingStep type
  generalize mappingStep type = taken at step goesOn
  cases step with
  | ends => cases goesOn
  | @elements base length extents plain whole =>
      obtain rfl := Option.some.inj goesOn
      have read := typeExtents_rendered plain extents (.inl rfl)
      rw [String.append_empty] at read
      rw [read, whole, List.length_cons]
      exact .inr (Nat.lt_succ_self _)
  | @decays base extents plain whole =>
      obtain rfl := Option.some.inj goesOn
      rw [typeExtents_rendered plain extents (.inr rfl), whole, List.length_cons]
      exact .inr (Nat.lt_succ_self _)
  | nameless => exact .inl (Option.some.inj goesOn).symm

/-- The base may hold a function pointer, and the extents may be too large, no numbers, nested or not
closed. -/
example : (mappingStep "int (*)(int) [[2] [99999999999999999999][+7][N][ 3").next? =
    some "int (*)(int)[][7][]*" := by
  decide

theorem finish_mapType (type : String) :
    (mappingStep type).finish? (fun next => some (mapType next)) (trimmed type) =
      some (mapType type) := by
  have step := stepOf_mappingStep type
  generalize mappingStep type = taken at step
  cases step with
  | ends => rfl
  | elements plain whole mapped =>
      rw [mapped, MappingStep.finish?, mapType_rendered plain, Option.map_some]
  | decays plain whole mapped =>
      rw [mapped, MappingStep.finish?, Option.map_some, mapType_starred plain]
  | nameless mapped => rw [mapped, MappingStep.finish?]

theorem mapWithin_eq {type : String} {depth : Nat}
    (deep : (typeExtents type).length + 2 ≤ depth) :
    mapWithin depth type = some (mapType type) := by
  -- One type is for what stands before the extents, and one for `void`, which needs no other.
  induction depth generalizing type with
  | zero => omega
  | succ depth ih =>
      have mapped : ∀ next, (mappingStep type).next? = some next →
          mapWithin depth next = some (mapType next) := by
        intro next goesOn
        rcases fewer_extents goesOn with rfl | fewer
        · have ends : mappingStep "void" = .ends (mapType "void") := by decide
          obtain ⟨depth, rfl⟩ : ∃ d, depth = d + 1 := Nat.exists_eq_add_of_le' (by omega)
          rw [mapWithin, ends, MappingStep.finish?]
        · exact ih (by omega)
      rw [mapWithin, MappingStep.finish?_congr mapped, finish_mapType]

/-! ## The statement -/

/-- How mapping goes from a type to another. The type that it goes on with has fewer extents or is
`void`, so that it ends, and then with the mapping of the type. The extents are read in rounds, and
each round takes two characters or more off the text. -/
structure DescendsThroughExtents (type : String) : Prop where
  fewer : ∀ next, (mappingStep type).next? = some next →
    next = "void" ∨ (typeExtents next).length < (typeExtents type).length
  stepwise : (mappingStep type).finish? (fun next => some (mapType next)) (trimmed type) =
    some (mapType type)
  ends : ∀ depth, (typeExtents type).length + 2 ≤ depth →
    mapWithin depth type = some (mapType type)
  rounds : typeExtents type = bracketRounds ((trim type.toList).dropWhile (· != '['))
  takesTwo : ∀ cs extent rest, bracketRound? cs = some (extent, rest) →
    ∃ taken, cs = taken ++ rest ∧ 2 ≤ taken.length

theorem descendsThroughExtents (type : String) : DescendsThroughExtents type where
  fewer _ := fewer_extents
  stepwise := finish_mapType type
  ends _ := mapWithin_eq
  rounds := extents_splitExtents _
  takesTwo _ _ _ := exists_taken

end ForeignBindings
