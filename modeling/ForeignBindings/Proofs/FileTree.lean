import ForeignBindings.Proofs.FileChanges
import ForeignBindings.Proofs.Outcome

/-!
# A tree of files changes in place

A walk through a tree remembers the directories that it came through, and putting a node where it
ends rebuilds these directories. So the tree is the same everywhere else (`stand_put`), and since
there are no links, the walk ends at the location that the names of its path lead to (`walk_ok`).
-/

namespace ForeignBindings

/-- What a node is, seen from outside. -/
def FileNode.stand : FileNode → Stand
  | file content => .file content
  | directory _ => .directory

namespace FileNode

theorem lookup_setEntry_self (name : String) (node : FileNode)
    (entries : List (String × FileNode)) :
    (setEntry name node entries).lookup name = some node := by
  induction entries with
  | nil => simp [setEntry]
  | cons entry entries ih =>
      rw [setEntry]
      split
      · simp
      · rename_i free
        have test : (name == entry.1) = false := beq_eq_false_iff_ne.mpr (Ne.symm free)
        rw [List.lookup_cons, test]
        exact ih

theorem lookup_setEntry_of_ne {name other : String} (different : other ≠ name) (node : FileNode)
    (entries : List (String × FileNode)) :
    (setEntry name node entries).lookup other = entries.lookup other := by
  have test : (other == name) = false := beq_eq_false_iff_ne.mpr different
  induction entries with
  | nil => rw [setEntry, List.lookup_cons, test]
  | cons entry entries ih =>
      rw [setEntry]
      split
      · rename_i taken
        rw [List.lookup_cons, List.lookup_cons, taken, test]
      · rw [List.lookup_cons, List.lookup_cons, ih]

section Leaf

variable {node? : Option FileNode} (noDirectory : ∀ entries, node? ≠ some (.directory entries))
include noDirectory

theorem map_stand_ne : node?.map stand ≠ some .directory := by
  rcases node? with _ | content | entries
  · nofun
  · nofun
  · exact absurd rfl (noDirectory entries)

theorem bind_get?_cons (name : String) (rest : Location) :
    node?.bind (·.get? (name :: rest)) = none := by
  rcases node? with _ | content | entries
  · rfl
  · rfl
  · exact absurd rfl (noDirectory entries)

end Leaf

theorem get?_append (node : FileNode) (front back : Location) :
    node.get? (front ++ back) = (node.get? front).bind (·.get? back) := by
  induction front generalizing node with
  | nil => rfl
  | cons name front ih =>
      rw [List.cons_append, get?, get?, Option.bind_assoc]
      exact congrArg _ (funext ih)

end FileNode

namespace Place

/-- A place that was reached from the root by taking names. -/
inductive IsIn (root : FileNode) : Place → Prop
  | root : IsIn root ⟨[], some root⟩
  | entry {taken : List (String × List (String × FileNode))} {entries : List (String × FileNode)}
      {name : String} : IsIn root ⟨taken, some (.directory entries)⟩ →
        IsIn root ⟨(name, entries) :: taken, entries.lookup name⟩

variable {root : FileNode} {place next : Place} {name : String}

theorem location_cons (name : String) (entries : List (String × FileNode))
    (taken : List (String × List (String × FileNode))) (node node' : Option FileNode) :
    location ⟨(name, entries) :: taken, node⟩ = location ⟨taken, node'⟩ ++ [name] := by
  simp [location]

theorem IsIn.up (within : place.IsIn root) : place.up.IsIn root := by
  cases within with
  | root => exact .root
  | entry within => exact within

theorem location_up (place : Place) : place.up.location = place.location.dropLast := by
  cases place with
  | mk taken node =>
      cases taken with
      | nil => rfl
      | cons entry taken =>
          rw [location_cons entry.1 entry.2 taken node none, List.dropLast_concat]
          rfl

theorem IsIn.step (within : place.IsIn root) (stepped : place.step name = .ok next) :
    next.IsIn root ∧ next.location = place.location.follow name := by
  unfold Place.step at stepped
  cases found : place.node with
  | none =>
      rw [found] at stepped
      cases stepped
  | some node =>
      cases node with
      | file content =>
          rw [found] at stepped
          cases stepped
      | directory entries =>
          rw [found] at stepped
          dsimp only at stepped
          unfold Location.follow
          split at stepped
          · rename_i dot
            cases stepped
            exact ⟨within, (if_pos dot).symm⟩
          · rename_i notDot
            split at stepped
            · rename_i up
              cases stepped
              refine ⟨within.up, ?_⟩
              rw [if_neg notDot, if_pos up, location_up]
            · rename_i notUp
              split at stepped
              · cases stepped
              · cases stepped
                have here : IsIn root ⟨place.taken, some (.directory entries)⟩ := found ▸ within
                rw [if_neg notDot, if_neg notUp]
                exact ⟨.entry here, location_cons _ _ _ _ _⟩

theorem IsIn.walk {names : List String} (within : place.IsIn root)
    (walked : place.walk names = .ok next) :
    next.IsIn root ∧ next.location = names.foldl Location.follow place.location := by
  unfold Place.walk at walked
  induction names generalizing place with
  | nil =>
      cases walked
      exact ⟨within, rfl⟩
  | cons name names ih =>
      rw [List.foldlM_cons] at walked
      cases stepped : place.step name with
      | error e =>
          rw [stepped] at walked
          cases walked
      | ok middle =>
          rw [stepped] at walked
          obtain ⟨within', same⟩ := within.step stepped
          rw [List.foldl_cons, ← same]
          exact ih within' walked

/-- Filling a place changes what stands at its location and below, and nothing else. -/
theorem IsIn.stand_fill (within : place.IsIn root) (node : FileNode) (location : Location) :
    ((place.fill node).get? location).map FileNode.stand =
        (root.get? location).map FileNode.stand ∨
      ∃ rest, location = place.location ++ rest ∧
        (place.fill node).get? location = node.get? rest ∧
        root.get? location = place.node.bind (·.get? rest) := by
  induction within generalizing node with
  | root => exact .inr ⟨location, rfl, rfl, rfl⟩
  | @entry taken entries name within ih =>
      rcases ih (.directory (FileNode.setEntry name node entries)) with
        same | ⟨rest, rfl, after, before⟩
      · exact .inl same
      · have filled : (fill ⟨(name, entries) :: taken, entries.lookup name⟩ node).get?
            (location ⟨taken, some (.directory entries)⟩ ++ rest) = _ := after
        rw [filled, before]
        cases rest with
        | nil => exact .inl rfl
        | cons other rest =>
            by_cases same : other = name
            · refine .inr ⟨rest, ?_, ?_, ?_⟩
              · rw [location_cons name entries taken _ (some (.directory entries)), same,
                  List.append_assoc, List.singleton_append]
              · rw [FileNode.get?, FileNode.entry?, same, FileNode.lookup_setEntry_self]
                rfl
              · rw [Option.bind_some, FileNode.get?, FileNode.entry?, same]
            · refine .inl ?_
              rw [Option.bind_some, FileNode.get?, FileNode.get?, FileNode.entry?, FileNode.entry?,
                FileNode.lookup_setEntry_of_ne same]

/-- A node that fills a place stands there. -/
theorem IsIn.get?_fill (within : place.IsIn root) (node : FileNode) :
    (place.fill node).get? place.location = some node := by
  induction within generalizing node with
  | root => rfl
  | @entry taken entries name within ih =>
      have outer : (fill ⟨(name, entries) :: taken, entries.lookup name⟩ node).get?
          (location ⟨taken, some (.directory entries)⟩) = _ :=
        ih (.directory (FileNode.setEntry name node entries))
      rw [location_cons name entries taken _ (some (.directory entries)), FileNode.get?_append, outer,
        Option.bind_some, FileNode.get?, FileNode.entry?, FileNode.lookup_setEntry_self]
      rfl

end Place

namespace FileTree

/-- What can be seen of a tree. -/
def view : FileView FileTree where
  stand? tree location := (tree.get? location).map FileNode.stand
  home tree := tree.workingDir.foldl Location.follow []

variable {tree : FileTree} {path : Path} {place : Place}

theorem walk_ok {start : Location} {names : List String}
    (walked : tree.walk start names = .ok place) :
    place.IsIn tree.root ∧
      place.location = names.foldl Location.follow (start.foldl Location.follow []) := by
  obtain ⟨middle, first, rest⟩ := bind_eq_ok.mp walked
  obtain ⟨within, same⟩ := Place.IsIn.walk .root first
  obtain ⟨within', same'⟩ := within.walk rest
  rw [same', same]
  exact ⟨within', rfl⟩

theorem route_ok {r : Route} (routed : tree.route path = .ok r) :
    r.names = path.names ∧ r.start.foldl Location.follow [] =
      if path.isAbsolute then [] else tree.workingDir.foldl Location.follow [] := by
  unfold route at routed
  split at routed
  · cases routed
  · split at routed
    · cases routed
    · split at routed
      · cases routed
      · cases routed
        refine ⟨rfl, ?_⟩
        cases path.isAbsolute <;> rfl

theorem parentOf_ok {r : Route} {name : String} (found : tree.parentOf r = .ok (place, some name)) :
    place.IsIn tree.root ∧ place.location.follow name =
      r.names.foldl Location.follow (r.start.foldl Location.follow []) := by
  obtain ⟨parent, walked, rest⟩ := bind_eq_ok.mp found
  split at rest
  · cases rest
  · cases rest
  · obtain ⟨rfl, last⟩ := Prod.mk.inj (Except.ok.inj rest)
    obtain ⟨within, same⟩ := walk_ok walked
    obtain ⟨front, whole⟩ := List.getLast?_eq_some_iff.mp (Option.eq_some_of_filter_eq_some last)
    refine ⟨within, ?_⟩
    rw [same, whole, List.dropLast_concat, List.foldl_append]
    rfl

/-- The place that a path names is at the location of the path. -/
theorem location_named {r : Route} {parent : Place} {name : String}
    (routed : tree.route path = .ok r) (found : tree.parentOf r = .ok (parent, some name))
    (stepped : parent.step name = .ok place) :
    place.IsIn tree.root ∧ place.location = Path.locate (view.home tree) path := by
  obtain ⟨within, named⟩ := parentOf_ok found
  obtain ⟨names, start⟩ := route_ok routed
  obtain ⟨within', same⟩ := within.step stepped
  refine ⟨within', ?_⟩
  rw [same, named, names, start]
  rfl

theorem makeDirectory_ok {next : FileTree} (made : tree.makeDirectory path = .ok next) :
    ∃ place : Place, place.IsIn tree.root ∧ place.location = Path.locate (view.home tree) path ∧
      place.node = none ∧ next = tree.put place (.directory []) := by
  obtain ⟨r, routed, made⟩ := bind_eq_ok.mp made
  obtain ⟨⟨parent, name?⟩, found, made⟩ := bind_eq_ok.mp made
  cases name? with
  | none => cases made
  | some name =>
      obtain ⟨place, stepped, made⟩ := bind_eq_ok.mp made
      obtain ⟨within, here⟩ := location_named routed found stepped
      cases standing : place.node with
      | some node =>
          rw [standing] at made
          cases made
      | none =>
          rw [standing] at made
          cases made
          exact ⟨place, within, here, standing, rfl⟩

theorem openToWrite_ok {opened : FileTree} (ran : tree.openToWrite path = .ok (opened, place)) :
    place.IsIn tree.root ∧ place.location = Path.locate (view.home tree) path ∧
      (∀ entries, place.node ≠ some (.directory entries)) ∧
      opened = tree.put place (.file .empty) := by
  obtain ⟨r, routed, ran⟩ := bind_eq_ok.mp ran
  obtain ⟨⟨parent, name?⟩, found, ran⟩ := bind_eq_ok.mp ran
  cases name? with
  | none => cases ran
  | some name =>
      dsimp only at ran
      split at ran
      · cases ran
      · obtain ⟨place, stepped, ran⟩ := bind_eq_ok.mp ran
        obtain ⟨within, here⟩ := location_named routed found stepped
        split at ran
        · cases ran
        · rename_i noDirectory
          cases ran
          exact ⟨within, here, noDirectory, rfl⟩

theorem writeBytes_ok {content : ByteArray} {next : FileTree}
    (written : tree.writeBytes path content = .ok next) :
    ∃ place : Place, place.IsIn tree.root ∧ place.location = Path.locate (view.home tree) path ∧
      (∀ entries, place.node ≠ some (.directory entries)) ∧
      next = tree.put place (.file content) := by
  obtain ⟨⟨opened, place⟩, ran, written⟩ := bind_eq_ok.mp written
  obtain ⟨within, here, noDirectory, rfl⟩ := openToWrite_ok ran
  cases written
  exact ⟨place, within, here, noDirectory, rfl⟩

/-- Writing fails where the file cannot be opened, and only there. -/
theorem writeBytes_eq_error {content : ByteArray} {e : FileError} :
    tree.writeBytes path content = .error e ↔ tree.openToWrite path = .error e := by
  rw [writeBytes]
  cases tree.openToWrite path with
  | error e' => simp [bind, Except.bind]
  | ok opened => exact iff_of_false nofun nofun

/-! ## The operations -/

theorem readText_of_find {text : String} (found : tree.find path = .ok (.file text.toUTF8)) :
    tree.readText path = .ok text := by
  have decoded : String.fromUTF8? text.toUTF8 = some text := by
    rw [String.fromUTF8?, String.toUTF8_eq_toByteArray, dif_pos text.isValidUTF8]
    rfl
  rw [readText, found]
  simp only [bind, Except.bind, decoded]
  rfl

/-- Putting a node without entries, where no directory stands, changes one location only. -/
theorem stand_put {node : FileNode} (within : place.IsIn tree.root)
    (leaf : ∀ name, node.entry? name = none)
    (noDirectory : ∀ entries, place.node ≠ some (.directory entries)) (location : Location) :
    view.stand? (tree.put place node) location = view.stand? tree location ∨
      location = place.location ∧ view.stand? (tree.put place node) location = some node.stand ∧
        view.stand? tree location = place.node.map FileNode.stand := by
  rcases within.stand_fill node location with same | ⟨rest, rfl, after, before⟩
  · exact .inl same
  · have standsAfter : view.stand? (tree.put place node) (place.location ++ rest) =
        (node.get? rest).map FileNode.stand := congrArg (Option.map FileNode.stand) after
    have standsBefore : view.stand? tree (place.location ++ rest) =
        (place.node.bind (·.get? rest)).map FileNode.stand :=
      congrArg (Option.map FileNode.stand) before
    cases rest with
    | nil =>
        refine .inr ⟨List.append_nil _, standsAfter, ?_⟩
        rw [standsBefore]
        cases place.node <;> rfl
    | cons name rest =>
        rw [FileNode.get?, leaf] at standsAfter
        rw [FileNode.bind_get?_cons noDirectory] at standsBefore
        exact .inl (standsAfter.trans standsBefore.symm)

theorem attempt_ok {change : FileTree → Except FileError FileTree} {tree next : FileTree}
    (changed : (attempt change).run tree = (.ok (), next)) : change tree = .ok next := by
  cases result : change tree with
  | error e =>
      simp only [attempt, StateT.run, result] at changed
      cases changed
  | ok next' =>
      simp only [attempt, StateT.run, result] at changed
      cases changed
      rfl

theorem attempt_error {change : FileTree → Except FileError FileTree} {tree next : FileTree}
    {e : FileError} (failed : (attempt change).run tree = (.error e, next)) :
    change tree = .error e ∧ next = tree := by
  cases result : change tree with
  | error e' =>
      simp only [attempt, StateT.run, result] at failed
      cases failed
      exact ⟨rfl, rfl⟩
  | ok next' =>
      simp only [attempt, StateT.run, result] at failed
      cases failed

theorem attempt_touches {files dirs : Location → Prop}
    {change : FileTree → Except FileError FileTree}
    (changed : ∀ next, change tree = .ok next → view.Touches files dirs tree next) :
    view.Touches files dirs tree ((attempt change).run tree).2 := by
  rcases ran : (attempt change).run tree with ⟨e | _, next⟩
  · rw [(attempt_error ran).2]
    exact .refl tree
  · exact changed next (attempt_ok ran)

/-- A tree changes as a file system without links does. -/
theorem changesInPlace : fileSystem.ChangesInPlace view where
  readText _ s := .refl s
  isDirectory _ s := .refl s
  makeDirectory path s := by
    refine attempt_touches fun next made => ?_
    obtain ⟨place, within, here, absent, rfl⟩ := makeDirectory_ok made
    have leaf : ∀ name, FileNode.entry? (.directory []) name = none := fun _ => rfl
    have noDirectory : ∀ entries, place.node ≠ some (.directory entries) := by simp [absent]
    refine ⟨rfl, fun location => ?_⟩
    rcases stand_put within leaf noDirectory location with same | ⟨rfl, after, before⟩
    · exact .inl same
    · rw [absent] at before
      exact .inr (.inr ⟨here, before, after⟩)
  writeText path text s := by
    refine attempt_touches fun next written => ?_
    obtain ⟨place, within, here, noDirectory, rfl⟩ := writeBytes_ok written
    have leaf : ∀ name, FileNode.entry? (.file text.toUTF8) name = none := fun _ => rfl
    refine ⟨rfl, fun location => ?_⟩
    rcases stand_put within leaf noDirectory location with same | ⟨rfl, after, before⟩
    · exact .inl same
    · refine .inr (.inl ⟨here, ?_, text.toUTF8, after⟩)
      rw [before]
      exact FileNode.map_stand_ne noDirectory

end FileTree

end ForeignBindings
