import Mathlib.Data.List.DropRight
import ForeignBindings.FileTree
import ForeignBindings.Proofs.Text.Lines

/-!
# Names in paths

A path is read as the names between its slashes, and every name leads on from a location: a dot
stays, two dots go up, and any other name goes down (`locate`). Joining paths appends their names
(`names_join`), and the parent of a path has a part of its names, without the last one
(`names_parent?`). Names that lead down are the end of the location that a path of them leads to
(`locate_join_intercalate`).
-/

namespace ForeignBindings

/-- Where a name leads from a location, if nothing on the way is a link. -/
def Location.follow (location : Location) (name : String) : Location :=
  if name = "." then location else if name = ".." then location.dropLast else location ++ [name]

/-- A single name that leads down. -/
structure IsSingleName (name : String) : Prop where
  nonempty : name ≠ ""
  noSlash : '/' ∉ name.toList
  notDot : name ≠ "."
  notUp : name ≠ ".."

namespace Path

/-- The pieces of a text between slashes that are not empty. -/
def namesOf (cs : List Char) : List (List Char) := (pieces cs).filter (· != [])

/-- The names in a path. -/
def names (path : Path) : List String := (namesOf path.toList).map String.ofList

/-- The location that names lead to, from the root or from the working directory `home`. -/
def locateNames (home : Location) (isAbsolute : Bool) (names : List String) : Location :=
  names.foldl Location.follow (if isAbsolute then [] else home)

/-- The location that a path leads to. -/
def locate (home : Location) (path : Path) : Location :=
  locateNames home path.isAbsolute path.names

/-! ## Pieces -/

theorem namesOf_append_slash (front back : List Char) :
    namesOf (front ++ '/' :: back) = namesOf front ++ namesOf back := by
  rw [namesOf, pieces, List.splitOnP_append_cons front back (by decide), List.filter_append]
  rfl

theorem namesOf_slash (cs : List Char) : namesOf ('/' :: cs) = namesOf cs := by
  have split := namesOf_append_slash [] cs
  simpa [namesOf, pieces] using split

theorem namesOf_of_noSlash {piece : List Char} (plain : '/' ∉ piece) :
    namesOf piece = [piece].filter (· != []) := by
  have whole : pieces piece = [piece] := by
    refine List.splitOnP_eq_singleton fun c member => ?_
    rw [beq_eq_false_iff_ne]
    exact fun same => plain (same ▸ member)
  rw [namesOf, whole]

theorem ofPieces_cons {piece : List Char} {ps : List (List Char)} (nonempty : ps ≠ []) :
    ofPieces (piece :: ps) = piece ++ '/' :: ofPieces ps := by
  cases ps with
  | nil => exact absurd rfl nonempty
  | cons next rest => simp [ofPieces, List.intercalate]

theorem namesOf_ofPieces {ps : List (List Char)} (plain : ∀ piece ∈ ps, '/' ∉ piece) :
    namesOf (ofPieces ps) = ps.filter (· != []) := by
  induction ps with
  | nil => rfl
  | cons piece ps ih =>
      obtain ⟨first, rest⟩ := List.forall_mem_cons.mp plain
      cases ps with
      | nil =>
          have single : ofPieces [piece] = piece := by simp [ofPieces, List.intercalate]
          rw [single, namesOf_of_noSlash first]
      | cons next others =>
          rw [ofPieces_cons (List.cons_ne_nil next others), namesOf_append_slash, ih rest,
            namesOf_of_noSlash first, ← List.filter_append]
          rfl

theorem ofPieces_singleton (piece : List Char) : ofPieces [piece] = piece := by
  simp [ofPieces, List.intercalate]

theorem ofPieces_prefix {qs ps : List (List Char)} (front : qs <+: ps) :
    ofPieces qs <+: ofPieces ps := by
  obtain ⟨rest, rfl⟩ := front
  induction qs with
  | nil => exact List.nil_prefix
  | cons q qs ih =>
      cases qs with
      | nil =>
          rw [ofPieces_singleton, List.singleton_append]
          cases rest with
          | nil => simp [ofPieces_singleton]
          | cons next others =>
              rw [ofPieces_cons (List.cons_ne_nil next others)]
              exact List.prefix_append _ _
      | cons next others =>
          have nonempty : next :: others ++ rest ≠ [] := List.cons_ne_nil next _
          rw [List.cons_append, ofPieces_cons (List.cons_ne_nil next others),
            ofPieces_cons nonempty]
          exact (List.prefix_append_right_inj q).mpr (List.cons_prefix_cons.mpr ⟨rfl, ih⟩)

theorem noSlash_of_mem_pieces {cs piece : List Char} (member : piece ∈ pieces cs) :
    '/' ∉ piece := by
  intro slash
  have foreign := Text.eq_false_of_mem_splitOnP member '/' slash
  cases foreign

theorem ofPieces_pieces (cs : List Char) : ofPieces (pieces cs) = cs :=
  List.intercalate_splitOn '/'

/-! ## Joined paths -/

theorem isAbsolute_append {front : Path} (nonempty : front ≠ "") (back : String) :
    isAbsolute (front ++ back) = isAbsolute front := by
  have chars : front.toList ≠ [] := fun empty => nonempty (String.toList_eq_nil_iff.mp empty)
  obtain ⟨c, cs, whole⟩ := List.exists_cons_of_ne_nil chars
  simp [isAbsolute, String.toList_append, whole]

theorem isAbsolute_join {path : Path} (relative : path.isAbsolute = false) (dir : Path) :
    (dir.join path).isAbsolute = dir.isAbsolute := by
  rw [join, relative, if_neg Bool.false_ne_true]
  by_cases empty : dir = ""
  · rw [if_pos (.inl empty), empty, String.empty_append, relative]
    rfl
  · split
    · exact isAbsolute_append empty path
    · rw [String.append_assoc]
      exact isAbsolute_append empty _

theorem names_join {path : Path} (relative : path.isAbsolute = false) (dir : Path) :
    (dir.join path).names = dir.names ++ path.names := by
  have chars : namesOf (dir.join path).toList = namesOf dir.toList ++ namesOf path.toList := by
    rw [join, relative, if_neg Bool.false_ne_true]
    split
    · rename_i closed
      rcases closed with rfl | slash
      · rfl
      · obtain ⟨front, whole⟩ := List.getLast?_eq_some_iff.mp slash
        have base : namesOf (front ++ ['/']) = namesOf front := by
          rw [namesOf_append_slash]
          exact List.append_nil _
        rw [String.toList_append, whole, base, List.append_assoc, List.singleton_append,
          namesOf_append_slash]
    · rw [String.toList_append, String.toList_append, List.append_assoc]
      exact namesOf_append_slash dir.toList path.toList
  rw [names, chars, List.map_append]
  rfl

/-! ## Parents -/

/-- The start of a path stands before its body, and its body does not start anew. -/
theorem splitStart_cases (cs : List Char) :
    (∃ body, cs = '/' :: body ∧ splitStart cs = (['/'], body)) ∨
      (cs = ['.'] ∧ splitStart cs = (['.'], [])) ∨
      (∃ body, cs = '.' :: '/' :: body ∧ splitStart cs = (['.'], '/' :: body)) ∨
      (cs.head? ≠ some '/' ∧ splitStart cs = ([], cs)) := by
  unfold splitStart
  split
  · exact .inl ⟨_, rfl, rfl⟩
  · exact .inr (.inl ⟨rfl, rfl⟩)
  · exact .inr (.inr (.inl ⟨_, rfl, rfl⟩))
  · rename_i noRoot _ _
    refine .inr (.inr (.inr ⟨?_, rfl⟩))
    cases cs with
    | nil => exact fun root => nomatch root
    | cons c cs =>
        rintro ⟨rfl⟩
        exact noRoot cs rfl

theorem dropLast_prefix_dropLast {α : Type} {xs ys : List α} (front : xs <+: ys) :
    xs.dropLast <+: ys.dropLast := by
  obtain ⟨rest, rfl⟩ := front
  cases rest with
  | nil => simp
  | cons y rest =>
      rw [List.dropLast_append_of_ne_nil (List.cons_ne_nil y rest)]
      exact (List.dropLast_prefix xs).trans (List.prefix_append _ _)

theorem trimPieces_isPrefix (ps : List (List Char)) : trimPieces ps <+: ps :=
  List.rdropWhile_prefix isIdle ps

/-- The last of some trimmed pieces is a name. -/
theorem exists_last_trimPieces {ps : List (List Char)} (nonempty : trimPieces ps ≠ []) :
    ∃ kept last, trimPieces ps = kept ++ [last] ∧ last ≠ [] := by
  have names := List.rdropWhile_last_not isIdle ps nonempty
  refine ⟨_, _, (List.dropLast_append_getLast nonempty).symm, fun empty => names ?_⟩
  have idle : isIdle [] = true := rfl
  rwa [← empty] at idle

section Start

variable {cs start body : List Char} (split : splitStart cs = (start, body))
include split

theorem start_append_body : start ++ body = cs := by
  rcases splitStart_cases cs with ⟨_, rfl, same⟩ | ⟨rfl, same⟩ | ⟨_, rfl, same⟩ | ⟨-, same⟩ <;>
    · cases same.symm.trans split
      rfl

theorem namesOf_start {qs : List (List Char)} (front : qs <+: pieces body) :
    namesOf (start ++ ofPieces qs) = namesOf start ++ qs.filter (· != []) := by
  have plain : namesOf (ofPieces qs) = qs.filter (· != []) :=
    namesOf_ofPieces fun _ member => noSlash_of_mem_pieces (front.subset member)
  rcases splitStart_cases cs with ⟨_, -, same⟩ | ⟨-, same⟩ | ⟨rest, -, same⟩ | ⟨-, same⟩ <;>
    cases same.symm.trans split
  · rw [List.singleton_append, namesOf_slash, plain]
    rfl
  · have empty : pieces [] = [[]] := rfl
    rw [empty] at front
    cases qs with
    | nil => rfl
    | cons q others =>
        obtain ⟨rfl, last⟩ := List.cons_prefix_cons.mp front
        rw [List.prefix_nil.mp last]
        rfl
  · -- A slash follows the dot, so the first piece of the body is empty.
    have body : pieces ('/' :: rest) = [] :: pieces rest :=
      List.splitOnP_append_cons [] rest (by decide)
    rw [body] at front
    cases qs with
    | nil => rfl
    | cons q others =>
        obtain ⟨rfl, back⟩ := List.cons_prefix_cons.mp front
        cases others with
        | nil => rfl
        | cons next others =>
            have nonempty : next :: others ≠ [] := List.cons_ne_nil next others
            have dot := namesOf_append_slash ['.'] (ofPieces (next :: others))
            rw [ofPieces_cons nonempty, List.nil_append, namesOf_slash] at plain
            rw [ofPieces_cons nonempty, List.nil_append, dot, plain]
  · rw [List.nil_append, plain]
    rfl

theorem isAbsolute_start {qs : List (List Char)} (front : qs <+: pieces body) :
    isAbsolute (String.ofList (start ++ ofPieces qs)) = isAbsolute (String.ofList cs) := by
  simp only [isAbsolute, String.toList_ofList]
  rcases splitStart_cases cs with ⟨_, rfl, same⟩ | ⟨rfl, same⟩ | ⟨_, rfl, same⟩ | ⟨root, same⟩ <;>
    cases same.symm.trans split
  · rfl
  · rfl
  · rfl
  · have prefixed : ofPieces qs <+: cs := ofPieces_pieces cs ▸ ofPieces_prefix front
    have relative : (ofPieces qs).head? ≠ some '/' := by
      intro slash
      obtain ⟨rest, whole⟩ := prefixed
      apply root
      rw [← whole, List.head?_append, slash, Option.some_or]
    rw [List.nil_append, beq_eq_false_iff_ne.mpr relative, beq_eq_false_iff_ne.mpr root]

/-- Trimming the pieces before a name leaves no name but those before it. -/
theorem namesOf_before {kept : List (List Char)} {last : List Char}
    (inBody : kept ++ [last] <+: pieces body) (named : last ≠ []) :
    namesOf (start ++ ofPieces (trimPieces kept)) <+: (namesOf cs).dropLast := by
  have all : namesOf cs = namesOf start ++ (pieces body).filter (· != []) := by
    rw [← namesOf_start split (List.prefix_refl _), ofPieces_pieces, start_append_body split]
  have upToLast : namesOf start ++ kept.filter (· != []) ++ [last] <+: namesOf cs := by
    have single : [last].filter (· != []) = [last] := by simp [named]
    have filtered := inBody.filter (· != [])
    rw [List.filter_append, single] at filtered
    rw [all, List.append_assoc]
    exact (List.prefix_append_right_inj _).mpr filtered
  have dropped := dropLast_prefix_dropLast upToLast
  rw [List.dropLast_concat] at dropped
  have front : trimPieces kept <+: pieces body :=
    (trimPieces_isPrefix kept).trans ((List.prefix_append kept [last]).trans inBody)
  have shorter := (trimPieces_isPrefix kept).filter (· != [])
  rw [namesOf_start split front]
  exact ((List.prefix_append_right_inj _).mpr shorter).trans dropped

end Start

/-- The parent of a path starts where the path does and has none but names before the last one. -/
theorem names_parent? {path parent : Path} (found : path.parent? = some parent) :
    parent.names <+: path.names.dropLast ∧ parent.isAbsolute = path.isAbsolute := by
  obtain ⟨start, body, split⟩ : ∃ start body, splitStart path.toList = (start, body) :=
    ⟨_, _, rfl⟩
  have whole := start_append_body split
  rw [parent?, split] at found
  dsimp only at found
  cases trimmed : trimPieces (pieces body) with
  | nil =>
      rw [trimmed] at found
      dsimp only at found
      split at found
      · rename_i dot
        cases found
        refine ⟨List.nil_prefix, ?_⟩
        rw [isAbsolute, isAbsolute, ← whole, dot]
        rfl
      · cases found
  | cons piece rest =>
      rw [trimmed] at found
      cases found
      have nonempty : trimPieces (pieces body) ≠ [] := by
        rw [trimmed]
        exact List.cons_ne_nil piece rest
      obtain ⟨kept, last, ends, named⟩ := exists_last_trimPieces nonempty
      have before : (piece :: rest).dropLast = kept := by
        rw [← trimmed, ends, List.dropLast_concat]
      have inBody : kept ++ [last] <+: pieces body := ends ▸ trimPieces_isPrefix (pieces body)
      have front : trimPieces kept <+: pieces body :=
        (trimPieces_isPrefix kept).trans ((List.prefix_append kept [last]).trans inBody)
      rw [before]
      refine ⟨?_, ?_⟩
      · rw [names, names, ← List.map_dropLast, String.toList_ofList]
        exact (namesOf_before split inBody named).map _
      · rw [isAbsolute_start split front, String.ofList_toList]

theorem names_ancestors {path : Path} {fuel : Nat} {ancestor : Path}
    (member : ancestor ∈ FileSystem.ancestors path fuel) :
    ancestor.names <+: path.names ∧ ancestor.isAbsolute = path.isAbsolute := by
  induction fuel generalizing path with
  | zero => cases member
  | succ fuel ih =>
      unfold FileSystem.ancestors at member
      split at member
      · cases member
      · rcases List.mem_cons.mp member with rfl | member
        · exact ⟨List.prefix_refl _, rfl⟩
        · split at member
          · rename_i parent found
            obtain ⟨front, start⟩ := names_parent? found
            obtain ⟨above, same⟩ := ih member
            exact ⟨above.trans (front.trans (List.dropLast_prefix _)), same.trans start⟩
          · cases member

/-! ## Locations -/

theorem locateNames_append (home : Location) (isAbsolute : Bool) (front back : List String) :
    locateNames home isAbsolute (front ++ back) =
      back.foldl Location.follow (locateNames home isAbsolute front) :=
  List.foldl_append

theorem follow_of_ne {name : String} (location : Location) (notDot : name ≠ ".")
    (notUp : name ≠ "..") : location.follow name = location ++ [name] := by
  rw [Location.follow, if_neg notDot, if_neg notUp]

theorem locate_join {path : Path} (relative : path.isAbsolute = false) (home : Location)
    (dir : Path) :
    locate home (dir.join path) = path.names.foldl Location.follow (locate home dir) := by
  rw [locate, isAbsolute_join relative, names_join relative, locateNames_append]
  rfl

/-! ## Single names -/

theorem isAbsolute_of_noSlash {front : String} (single : IsSingleName front) (back : String) :
    isAbsolute (front ++ back) = false := by
  rw [isAbsolute_append single.nonempty, isAbsolute, beq_eq_false_iff_ne]
  exact fun first => single.noSlash (List.mem_of_head? first)

section Intercalate

variable {parts : List String} (single : ∀ part ∈ parts, IsSingleName part)
include single

theorem names_intercalate : names ("/".intercalate parts) = parts := by
  have plain : ∀ piece ∈ parts.map String.toList, '/' ∉ piece :=
    List.forall_mem_map.mpr fun part member => (single part member).noSlash
  have named : (parts.map String.toList).filter (· != []) = parts.map String.toList := by
    refine List.filter_eq_self.mpr (List.forall_mem_map.mpr fun part member => ?_)
    simpa using (single part member).nonempty
  have slash : "/".toList = ['/'] := rfl
  rw [names, String.toList_intercalate, slash, ← ofPieces, namesOf_ofPieces plain, named,
    List.map_map]
  simp

theorem isAbsolute_intercalate (nonempty : parts ≠ []) :
    isAbsolute ("/".intercalate parts) = false := by
  obtain ⟨part, rest, rfl⟩ := List.exists_cons_of_ne_nil nonempty
  have first := single part List.mem_cons_self
  cases rest with
  | nil => simpa using isAbsolute_of_noSlash first ""
  | cons next rest =>
      have whole : "/".intercalate (part :: next :: rest) =
          part ++ ("/" ++ "/".intercalate (next :: rest)) := by
        simp [String.intercalate_cons_cons, String.append_assoc]
      rw [whole]
      exact isAbsolute_of_noSlash first _

theorem foldl_follow (location : Location) :
    parts.foldl Location.follow location = location ++ parts := by
  induction parts generalizing location with
  | nil => exact (List.append_nil location).symm
  | cons part parts ih =>
      obtain ⟨first, rest⟩ := List.forall_mem_cons.mp single
      rw [List.foldl_cons, follow_of_ne _ first.notDot first.notUp, ih rest, List.append_assoc,
        List.singleton_append]

/-- Single names with slashes between them lead down from a directory. -/
theorem locate_join_intercalate (nonempty : parts ≠ []) (home : Location) (dir : Path) :
    locate home (dir.join ("/".intercalate parts)) = locate home dir ++ parts := by
  rw [locate_join (isAbsolute_intercalate single nonempty), names_intercalate single,
    foldl_follow single]

end Intercalate

end Path

end ForeignBindings
