import ForeignBindings.Callback.Site
import ForeignBindings.Proofs.Identifier

/-!
# Camel case and the names of callbacks

Camel case puts the words of a name together. A separator between two texts disappears
(`upperCamelCase_append`), and a text without separators only has its first letter made a capital
(`upperCamelCase_of_isAlphanumeric`). The texts that it leaves alone are the ones that it gives
(`upperCamelCase_eq_self_iff`).

A method is bound under the name of its class and its own with an underscore between them, so that
the callback of a member of a method is named by all three (`callbackName_method`). Where one of the
names ends and the next starts is lost, which is why callbacks of different members can have one
name (`joinsWords_http`).
-/

namespace ForeignBindings
open Identifier Text

namespace Identifier

/-! ## Separators -/

theorem toList_upperCamelCase (raw : String) : (upperCamelCase raw).toList =
    (raw.toList.splitOnP (!·.isAlphanum)).flatMap capitalize := by
  rw [upperCamelCase, String.toList_ofList]

theorem upperCamelCase_append (front back : String) {c : Char} (separator : c.isAlphanum = false) :
    upperCamelCase (front ++ String.singleton c ++ back) =
      upperCamelCase front ++ upperCamelCase back := by
  have chars : (front ++ String.singleton c ++ back).toList =
      front.toList ++ c :: back.toList := by simp
  have marked : (!c.isAlphanum) = true := by rw [separator, Bool.not_false]
  rw [← String.toList_inj, toList_upperCamelCase, chars,
    List.splitOnP_append_cons front.toList back.toList marked, List.flatMap_append,
    String.toList_append, toList_upperCamelCase, toList_upperCamelCase]

theorem upperCamelCase_of_isAlphanumeric {word : String} (alphanumeric : IsAlphanumeric word) :
    upperCamelCase word = String.ofList (capitalize word.toList) := by
  have whole : word.toList.splitOnP (!·.isAlphanum) = [word.toList] :=
    List.splitOnP_eq_singleton fun c member => by rw [alphanumeric c member, Bool.not_true]
  rw [upperCamelCase, whole, List.flatMap_singleton]

/-! ## Texts in camel case -/

/-- Letters and digits of which no small letter stands first. -/
structure IsCamel (s : String) : Prop where
  chars : IsAlphanumeric s
  first : ∀ c, s.toList.head? = some c → c.isLower = false

/-- The pieces of a name in capitals start with the first letter or digit of the name. -/
theorem head?_flatMap_capitalize (cs : List Char) :
    ((cs.splitOnP (!·.isAlphanum)).flatMap capitalize).head? =
      (cs.find? (·.isAlphanum)).map Char.toUpper := by
  induction cs with
  | nil => rfl
  | cons c cs ih =>
      rw [List.splitOnP_cons_eq_if_modifyHead, List.find?_cons]
      cases c.isAlphanum with
      | false => exact ih
      | true =>
          obtain ⟨piece, rest, whole⟩ :=
            List.exists_cons_of_ne_nil (List.splitOnP_ne_nil (!·.isAlphanum) cs)
          rw [whole]
          rfl

theorem head?_upperCamelCase (raw : String) : (upperCamelCase raw).toList.head? =
    (raw.toList.find? (·.isAlphanum)).map Char.toUpper := by
  rw [toList_upperCamelCase, head?_flatMap_capitalize]

theorem isLower_toUpper {c : Char} (alphanumeric : c.isAlphanum = true) :
    c.toUpper.isLower = false :=
  forall_isWordChar (P := fun c => c.isAlphanum = true → c.toUpper.isLower = false) (by decide)
    (isWordChar_of_isAlphanum alphanumeric) alphanumeric

theorem toUpper_eq_self {c : Char} (alphanumeric : c.isAlphanum = true)
    (large : c.isLower = false) : c.toUpper = c :=
  forall_isWordChar (P := fun c => c.isAlphanum = true → c.isLower = false → c.toUpper = c)
    (by decide) (isWordChar_of_isAlphanum alphanumeric) alphanumeric large

theorem isCamel_upperCamelCase (raw : String) : IsCamel (upperCamelCase raw) where
  chars := isAlphanumeric_upperCamelCase raw
  first c starts := by
    rw [head?_upperCamelCase, Option.map_eq_some_iff] at starts
    obtain ⟨d, found, rfl⟩ := starts
    exact isLower_toUpper (List.find?_some found)

/-- Camel case leaves a text alone exactly when it has the form that camel case gives. -/
theorem upperCamelCase_eq_self_iff {s : String} : upperCamelCase s = s ↔ IsCamel s := by
  constructor
  · intro same
    rw [← same]
    exact isCamel_upperCamelCase s
  · intro camel
    have capital : capitalize s.toList = s.toList := by
      cases whole : s.toList with
      | nil => rfl
      | cons c rest =>
          have alphanumeric : c.isAlphanum = true :=
            camel.chars c (whole ▸ List.mem_cons_self)
          have large : c.isLower = false := camel.first c (by rw [whole, List.head?_cons])
          rw [capitalize, toUpper_eq_self alphanumeric large]
    rw [upperCamelCase_of_isAlphanumeric camel.chars, capital, String.ofList_toList]

/-- The camel cases of some names, one behind the other. -/
def joinedWords (names : List String) : String := String.join (names.map upperCamelCase)

end Identifier

/-! ## Members of methods -/

/-- The members of a function: its result, which has no name, and its parameters. -/
def FunctionDecl.memberNames (f : FunctionDecl) : List String :=
  "" :: f.parameters.mapIdx fun i p => Site.memberName p i

/-- The callback of a member of a method is named by the class, the method and the member. -/
theorem callbackName_method (owner : ClassDecl) (method : FunctionDecl) (member : String) :
    callbackName (BoundFunction.symbol ⟨some owner, method⟩) member =
      joinedWords [owner.name, method.name, member] ++ "Callback" := by
  have symbol : upperCamelCase (owner.name ++ String.singleton '_' ++ method.name) =
      upperCamelCase owner.name ++ upperCamelCase method.name :=
    upperCamelCase_append owner.name method.name (by decide)
  calc callbackName (BoundFunction.symbol ⟨some owner, method⟩) member
      = upperCamelCase (owner.name ++ String.singleton '_' ++ method.name) ++
          upperCamelCase member ++ "Callback" := rfl
    _ = joinedWords [owner.name, method.name, member] ++ "Callback" := by
        rw [symbol]
        simp [joinedWords, String.append_assoc]

theorem callbackNames_method (owner : ClassDecl) (method : FunctionDecl) :
    (Site.ofFunction ⟨some owner, method⟩).map (·.callbackName) =
      method.memberNames.map fun member =>
        joinedWords [owner.name, method.name, member] ++ "Callback" := by
  simp only [← callbackName_method]
  rw [Site.ofFunction, FunctionDecl.memberNames, List.map_cons, List.map_cons,
    List.mapIdx_eq_zipIdx_map, List.mapIdx_eq_zipIdx_map, List.map_map, List.map_map]
  rfl

/-! ## The statement -/

/-- What camel case makes of names that are put together. A separator between two texts is lost and a
word is capitalised, which gives letters and digits that camel case leaves alone. So the callbacks of
a method are named by the class, the method and the member, and two of them have one name exactly
when the three words joined are the same. -/
structure JoinsWords : Prop where
  separated : ∀ (front back : String) (c : Char), c.isAlphanum = false →
    upperCamelCase (front ++ String.singleton c ++ back) =
      upperCamelCase front ++ upperCamelCase back
  word : ∀ word, IsAlphanumeric word →
    upperCamelCase word = String.ofList (capitalize word.toList)
  alphanumeric : ∀ raw, IsAlphanumeric (upperCamelCase raw)
  again : ∀ raw, upperCamelCase (upperCamelCase raw) = upperCamelCase raw
  methods : ∀ (owner : ClassDecl) (method : FunctionDecl),
    (Site.ofFunction ⟨some owner, method⟩).map (·.callbackName) =
      method.memberNames.map fun member =>
        joinedWords [owner.name, method.name, member] ++ "Callback"
  coincide : ∀ (owner owner' : ClassDecl) (method method' : FunctionDecl) (member member' : String),
    callbackName (BoundFunction.symbol ⟨some owner, method⟩) member =
        callbackName (BoundFunction.symbol ⟨some owner', method'⟩) member' ↔
      joinedWords [owner.name, method.name, member] =
        joinedWords [owner'.name, method'.name, member']

theorem joinsWords : JoinsWords where
  separated front back _ separator := upperCamelCase_append front back separator
  word _ alphanumeric := upperCamelCase_of_isAlphanumeric alphanumeric
  alphanumeric := isAlphanumeric_upperCamelCase
  again raw := upperCamelCase_eq_self_iff.mpr (isCamel_upperCamelCase raw)
  methods := callbackNames_method
  coincide owner owner' method method' member member' := by
    rw [callbackName_method, callbackName_method, String.append_left_inj]

/-- Members of two classes whose callbacks have one name, for another cut of the same words. -/
theorem joinsWords_http :
    let http : ClassDecl := ⟨"HTTP", [], [], none, false⟩
    let client : ClassDecl := ⟨"HTTP::client", [], [], none, false⟩
    let clientOn : FunctionDecl :=
      ⟨"client_on", "void", [⟨"get-url", "void (*)(int)"⟩], none, false, false⟩
    let onGet : FunctionDecl := ⟨"on_get", "void", [⟨"url", "int (*)()"⟩], none, false, false⟩
    joinedWords ["HTTP", "client_on", "get-url"] = "HTTPClientOnGetUrl" ∧
      callbackName (BoundFunction.symbol ⟨some http, clientOn⟩) "get-url" =
        callbackName (BoundFunction.symbol ⟨some client, onGet⟩) "url" :=
  ⟨by decide, (joinsWords.coincide _ _ _ _ _ _).mpr (by decide)⟩

end ForeignBindings
