import Mathlib.Data.Option.Basic
import ForeignBindings.CType.FunctionPointer
import ForeignBindings.Proofs.Text.Bytes
import ForeignBindings.Proofs.Text.Pieces

/-!
# Reading function pointers

The reader looks for the marker among the bytes of a text. The bytes of a marker are seven-bit
characters, so what it finds is a marker of the text (`afterMarker?_utf8_iff`) and the text can be
cut around it (`CutOffset.exists_cut`). What is read are the texts of a `PointerSpelling`, each of
which has its parts in one way only (`readsSpellings`).

The first marker of a text is the only one that counts. A spelling has no parenthesis before its
marker, so a text with a marker further on is no spelling either.
-/

namespace ForeignBindings
open CType Text

namespace CType

/-! ## Reading bytes of a text -/

theorem utf8Size_of_isAsciiBlank {c : Char} (blank : isAsciiBlank c = true) : c.utf8Size = 1 := by
  simp only [isAsciiBlank, Bool.or_eq_true, beq_iff_eq] at blank
  rcases blank with (((rfl | rfl) | rfl) | rfl) | rfl <;> decide

theorem afterByte?_utf8_iff {c : Char} (narrow : c.utf8Size = 1) {cs : List Char}
    {rest : List UInt8} :
    afterByte? c (utf8 cs) = some rest ↔ ∃ after, cs = c :: after ∧ rest = utf8 after := by
  cases cs with
  | nil => exact iff_of_false nofun nofun
  | cons d cs =>
      by_cases width : d.utf8Size = 1
      · rw [utf8_cons_of_sevenBit width, afterByte?]
        by_cases same : d = c
        · subst same
          simp [eq_comm]
        · rw [if_neg (mt (toUInt8_inj width narrow).mp same)]
          exact iff_of_false nofun fun ⟨_, whole, _⟩ => same (List.cons.inj whole).1
      · obtain ⟨b, bytes, encoded⟩ := exists_utf8EncodeChar d
        have other : b ≠ c.toUInt8 :=
          ne_toUInt8_of_wide width narrow (encoded ▸ List.mem_cons_self)
        rw [utf8_cons, encoded, List.cons_append, afterByte?, if_neg other]
        refine iff_of_false nofun ?_
        rintro ⟨after, same, -⟩
        exact width ((List.cons.inj same).1 ▸ narrow)

theorem skipBlanks_utf8 (cs : List Char) :
    skipBlanks (utf8 cs) = utf8 (cs.dropWhile isAsciiBlank) := by
  induction cs with
  | nil => rfl
  | cons c cs ih =>
      by_cases width : c.utf8Size = 1
      · rw [utf8_cons_of_sevenBit width, skipBlanks, List.dropWhile_cons, ofUInt8_toUInt8 width,
          List.dropWhile_cons]
        split
        · exact ih
        · rw [utf8_cons_of_sevenBit width]
      · obtain ⟨b, bytes, encoded⟩ := exists_utf8EncodeChar c
        have large := isWide_of_mem width (encoded ▸ List.mem_cons_self : b ∈ _)
        have visibleByte : isAsciiBlank (Char.ofUInt8 b) = false := by
          rw [← Bool.not_eq_true]
          intro blank
          have small := toNat_le_of_sevenBit (utf8Size_of_isAsciiBlank blank)
          exact absurd (Nat.le_trans large small) (by decide)
        have visible : ¬isAsciiBlank c = true := fun blank => width (utf8Size_of_isAsciiBlank blank)
        rw [List.dropWhile_cons_of_neg visible, utf8_cons, encoded, List.cons_append, skipBlanks,
          List.dropWhile_cons_of_neg (by rw [visibleByte]; exact Bool.false_ne_true)]

/-! ## Markers -/

/-- A marker `(*)`, with the blanks before and behind its star. -/
structure Marker where
  beforeStar : List Char
  afterStar : List Char
  beforeStar_blank : ∀ c ∈ beforeStar, isAsciiBlank c = true
  afterStar_blank : ∀ c ∈ afterStar, isAsciiBlank c = true

def Marker.text (m : Marker) : List Char := '(' :: m.beforeStar ++ '*' :: m.afterStar ++ [')']

theorem Marker.text_append (m : Marker) (after : List Char) :
    m.text ++ after = '(' :: (m.beforeStar ++ '*' :: (m.afterStar ++ ')' :: after)) := by
  simp [text]

theorem afterMarker?_utf8_iff {cs : List Char} {rest : List UInt8} :
    afterMarker? (utf8 cs) = some rest ↔
      ∃ (m : Marker) (after : List Char), cs = m.text ++ after ∧ rest = utf8 after := by
  have opening : ('(' : Char).utf8Size = 1 := by decide
  have star : ('*' : Char).utf8Size = 1 := by decide
  have closing : (')' : Char).utf8Size = 1 := by decide
  unfold afterMarker?
  constructor
  · intro found
    obtain ⟨inside, first, found⟩ := Option.bind_eq_some_iff.mp found
    obtain ⟨text, rfl, rfl⟩ := (afterByte?_utf8_iff opening).mp first
    obtain ⟨behindStar, second, found⟩ := Option.bind_eq_some_iff.mp found
    rw [skipBlanks_utf8] at second
    obtain ⟨tail, starts, rfl⟩ := (afterByte?_utf8_iff star).mp second
    rw [skipBlanks_utf8] at found
    obtain ⟨after, ends, rfl⟩ := (afterByte?_utf8_iff closing).mp found
    refine ⟨⟨text.takeWhile isAsciiBlank, tail.takeWhile isAsciiBlank,
      fun _ => List.mem_takeWhile_imp, fun _ => List.mem_takeWhile_imp⟩, after, ?_, rfl⟩
    rw [Marker.text_append, ← ends, List.takeWhile_append_dropWhile, ← starts,
      List.takeWhile_append_dropWhile]
  · rintro ⟨m, after, rfl, rfl⟩
    have noBlank : ¬isAsciiBlank '*' = true ∧ ¬isAsciiBlank ')' = true := by decide
    have starts : skipBlanks (utf8 (m.beforeStar ++ '*' :: (m.afterStar ++ ')' :: after))) =
        utf8 ('*' :: (m.afterStar ++ ')' :: after)) := by
      rw [skipBlanks_utf8, List.dropWhile_append_of_pos m.beforeStar_blank,
        List.dropWhile_cons_of_neg noBlank.1]
    have ends : skipBlanks (utf8 (m.afterStar ++ ')' :: after)) = utf8 (')' :: after) := by
      rw [skipBlanks_utf8, List.dropWhile_append_of_pos m.afterStar_blank,
        List.dropWhile_cons_of_neg noBlank.2]
    rw [m.text_append, (afterByte?_utf8_iff opening).mpr ⟨_, rfl, rfl⟩, Option.bind_eq_bind,
      Option.bind_some, starts, (afterByte?_utf8_iff star).mpr ⟨_, rfl, rfl⟩, Option.bind_some,
      ends, (afterByte?_utf8_iff closing).mpr ⟨_, rfl, rfl⟩]

/-! ## The first marker -/

theorem markerFrom?_skip {front : List UInt8} (skipped : ∀ b ∈ front, b ≠ ('(' : Char).toUInt8)
    (offset : Nat) (bytes : List UInt8) :
    markerFrom? offset (front ++ bytes) = markerFrom? (offset + front.length) bytes := by
  induction front generalizing offset with
  | nil => rfl
  | cons b front ih =>
      obtain ⟨other, skipped⟩ := List.forall_mem_cons.mp skipped
      have noMarker : afterMarker? (b :: (front ++ bytes)) = none := by
        rw [afterMarker?, afterByte?, if_neg other]
        rfl
      rw [List.cons_append, markerFrom?, noMarker, List.length_cons, Nat.add_comm front.length,
        ← Nat.add_assoc]
      exact ih skipped (offset + 1)

theorem markerFrom?_of_afterMarker? {bytes rest : List UInt8}
    (found : afterMarker? bytes = some rest) (offset : Nat) :
    markerFrom? offset bytes = some (offset, offset + bytes.length - rest.length) := by
  cases bytes with
  | nil => cases found
  | cons b bytes =>
      rw [markerFrom?, found, List.length_cons, Nat.add_comm bytes.length, ← Nat.add_assoc]

theorem markerFrom?_utf8_cons {c : Char} {cs : List Char}
    (noMarker : afterMarker? (utf8 (c :: cs)) = none) (offset : Nat) :
    markerFrom? offset (utf8 (c :: cs)) = markerFrom? (offset + c.utf8Size) (utf8 cs) := by
  by_cases width : c.utf8Size = 1
  · rw [utf8_cons_of_sevenBit width] at noMarker ⊢
    rw [markerFrom?, noMarker, width]
  · have skipped : ∀ b ∈ String.utf8EncodeChar c, b ≠ ('(' : Char).toUInt8 := fun b member =>
      ne_toUInt8_of_wide width (by decide) member
    rw [utf8_cons, markerFrom?_skip skipped, String.length_utf8EncodeChar]

/-- What the search finds is a marker, and the offsets are where that marker starts and ends. -/
theorem exists_marker_of_markerFrom? {cs : List Char} {offset start stop : Nat}
    (found : markerFrom? offset (utf8 cs) = some (start, stop)) :
    ∃ (before : List Char) (m : Marker) (after : List Char), cs = before ++ (m.text ++ after) ∧
      start = offset + (utf8 before).length ∧ stop = offset + (utf8 (before ++ m.text)).length := by
  induction cs generalizing offset with
  | nil => cases found
  | cons c cs ih =>
      cases here : afterMarker? (utf8 (c :: cs)) with
      | some rest =>
          rw [markerFrom?_of_afterMarker? here] at found
          obtain ⟨rfl, rfl⟩ := Prod.mk.inj (Option.some.inj found)
          obtain ⟨m, after, whole, rfl⟩ := afterMarker?_utf8_iff.mp here
          refine ⟨[], m, after, whole, rfl, ?_⟩
          rw [whole, utf8_append, List.length_append, List.nil_append]
          omega
      | none =>
          rw [markerFrom?_utf8_cons here] at found
          obtain ⟨before, m, after, rfl, rfl, rfl⟩ := ih found
          refine ⟨c :: before, m, after, rfl, ?_, ?_⟩
          · rw [length_utf8_cons, Nat.add_assoc]
          · rw [List.cons_append, length_utf8_cons, Nat.add_assoc]

/-- A marker behind a text without parentheses is the first. -/
theorem markerFrom?_marker {before : List Char} (absent : '(' ∉ before) (m : Marker)
    (after : List Char) : markerFrom? 0 (utf8 (before ++ (m.text ++ after))) =
      some ((utf8 before).length, (utf8 (before ++ m.text)).length) := by
  have skipped : ∀ b ∈ utf8 before, b ≠ ('(' : Char).toUInt8 := fun b member =>
    ne_toUInt8_of_mem_utf8 (by decide) absent member
  have here : afterMarker? (utf8 (m.text ++ after)) = some (utf8 after) :=
    afterMarker?_utf8_iff.mpr ⟨m, after, rfl, rfl⟩
  rw [utf8_append, markerFrom?_skip skipped, markerFrom?_of_afterMarker? here, utf8_append,
    utf8_append, List.length_append, List.length_append, Nat.zero_add, ← Nat.add_assoc,
    Nat.add_sub_cancel]

theorem exists_marker_of_splitMarker? {cs before after : List Char}
    (split : splitMarker? cs = some (before, after)) :
    ∃ m : Marker, cs = before ++ (m.text ++ after) := by
  unfold splitMarker? at split
  obtain ⟨⟨start, stop⟩, found, split⟩ := Option.bind_eq_some_iff.mp split
  obtain ⟨front, m, back, rfl, starts, stops⟩ := exists_marker_of_markerFrom? found
  rw [Nat.zero_add] at starts stops
  subst starts stops
  dsimp only at split
  rw [cutAt?_length_append, ← List.append_assoc, cutAt?_length_append] at split
  obtain ⟨rfl, rfl⟩ := Prod.mk.inj (Option.some.inj split)
  exact ⟨m, rfl⟩

theorem splitMarker?_marker {before : List Char} (absent : '(' ∉ before) (m : Marker)
    (after : List Char) : splitMarker? (before ++ (m.text ++ after)) = some (before, after) := by
  rw [splitMarker?, markerFrom?_marker absent, Option.bind_eq_bind, Option.bind_some]
  dsimp only
  rw [cutAt?_length_append, ← List.append_assoc, cutAt?_length_append]
  rfl

/-! ## Parameter lists -/

/-- The items of a parameter list, as written. A blank list and `void` have none. -/
inductive ListsItems : List Char → List (List Char) → Prop
  | blank {list : List Char} (blank : trim list = []) : ListsItems list []
  | void {list : List Char} (void : trim list = "void".toList) : ListsItems list []
  | items {list : List Char} {items : List (List Char)} (whole : [','].intercalate items = list)
      (nonempty : items ≠ []) (separate : ∀ item ∈ items, ',' ∉ item)
      (visible : ∀ item ∈ items, trim item ≠ []) (notVoid : trim list ≠ "void".toList) :
      ListsItems list items

theorem map_trim_splitOn_comma (cs : List Char) :
    ((trim cs).splitOn ',').map trim = (cs.splitOn ',').map trim := by
  refine map_trim_splitOnP_trim (fun c blank => beq_eq_false_iff_ne.mpr ?_) cs
  rintro rfl
  exact absurd blank (by decide)

theorem parameterTypes?_eq (cs : List Char) :
    parameterTypes? cs =
      if trim cs = [] ∨ trim cs = "void".toList then some []
      else if [] ∈ (cs.splitOn ',').map trim then none else some ((cs.splitOn ',').map trim) := by
  rw [← map_trim_splitOn_comma cs]
  unfold parameterTypes?
  simp only [Bool.or_eq_true, decide_eq_true_eq]
  rfl

theorem parameterTypes?_of_listsItems {list : List Char} {items : List (List Char)}
    (lists : ListsItems list items) : parameterTypes? list = some (items.map trim) := by
  rw [parameterTypes?_eq]
  cases lists with
  | blank blank => rw [if_pos (.inl blank)]; rfl
  | void void => rw [if_pos (.inr void)]; rfl
  | items whole nonempty separate visible notVoid =>
      have pieces : list.splitOn ',' = items :=
        whole ▸ List.splitOn_intercalate ',' separate nonempty
      have allVisible : [] ∉ items.map trim := by
        intro member
        obtain ⟨item, there, nothing⟩ := List.mem_map.mp member
        exact visible item there nothing
      have notBlank : trim list ≠ [] := by
        intro blank
        refine allVisible ?_
        rw [← pieces, ← map_trim_splitOn_comma, blank]
        exact List.mem_cons_self
      rw [if_neg (not_or_intro notBlank notVoid), pieces, if_neg allVisible]

theorem listsItems_of_parameterTypes? {list : List Char} {types : List (List Char)}
    (read : parameterTypes? list = some types) :
    ∃ items, ListsItems list items ∧ types = items.map trim := by
  rw [parameterTypes?_eq] at read
  split at read
  · rename_i absent
    obtain rfl := Option.some.inj read
    rcases absent with blank | void
    · exact ⟨[], .blank blank, rfl⟩
    · exact ⟨[], .void void, rfl⟩
  · rename_i present
    split at read
    · cases read
    · rename_i allVisible
      obtain rfl := Option.some.inj read
      have whole : [','].intercalate (list.splitOn ',') = list := List.intercalate_splitOn ','
      have separate : ∀ item ∈ list.splitOn ',', ',' ∉ item := fun item member comma =>
        beq_eq_false_iff_ne.mp (eq_false_of_mem_splitOnP member ',' comma) rfl
      have visible : ∀ item ∈ list.splitOn ',', trim item ≠ [] := fun item member nothing =>
        allVisible (List.mem_map.mpr ⟨item, member, nothing⟩)
      exact ⟨list.splitOn ',', .items (List.intercalate_splitOn ',') (List.splitOnP_ne_nil _ _)
        separate visible (not_or.mp present).2, rfl⟩

/-- A parameter list has its items in one way only. -/
theorem ListsItems.unique {list : List Char} {items others : List (List Char)}
    (lists : ListsItems list items) (listsOthers : ListsItems list others) : items = others := by
  have same : items.map trim = others.map trim := Option.some.inj
    ((parameterTypes?_of_listsItems lists).symm.trans (parameterTypes?_of_listsItems listsOthers))
  cases lists with
  | blank => exact (List.map_eq_nil_iff.mp same.symm).symm
  | void => exact (List.map_eq_nil_iff.mp same.symm).symm
  | items whole nonempty separate =>
      cases listsOthers with
      | blank => exact List.map_eq_nil_iff.mp same
      | void => exact List.map_eq_nil_iff.mp same
      | items wholeOthers nonemptyOthers separateOthers =>
          rw [← List.splitOn_intercalate ',' separate nonempty, whole, ← wholeOthers,
            List.splitOn_intercalate ',' separateOthers nonemptyOthers]

/-! ## Spellings -/

/-- The parts of a function pointer, as written. -/
structure PointerSpelling where
  result : List Char
  marker : Marker
  gap : List Char
  list : List Char
  items : List (List Char)
  result_visible : trim result ≠ []
  result_plain : ∀ c ∈ result, isParenthesis c = false
  gap_blank : ∀ c ∈ gap, isBlank c = true
  list_plain : ∀ c ∈ list, isParenthesis c = false
  lists : ListsItems list items

namespace PointerSpelling

/-- What is written. -/
def text (s : PointerSpelling) : List Char :=
  s.result ++ (s.marker.text ++ (s.gap ++ '(' :: (s.list ++ [')'])))

/-- The function pointer that is written. -/
def pointer (s : PointerSpelling) : FunctionPointer :=
  ⟨String.ofList (trim s.result), s.items.map fun item => String.ofList (trim item)⟩

/-- A text has its parts in one way only. -/
theorem ext_of_text {s t : PointerSpelling} (same : s.text = t.text) : s = t := by
  have absent : ∀ u : PointerSpelling, '(' ∉ u.result ∧ '*' ∉ u.marker.beforeStar ∧
      ')' ∉ u.marker.afterStar ∧ '(' ∉ u.gap := fun u =>
    ⟨fun member => absurd (u.result_plain _ member) (by decide),
      fun member => absurd (u.marker.beforeStar_blank _ member) (by decide),
      fun member => absurd (u.marker.afterStar_blank _ member) (by decide),
      fun member => absurd (u.gap_blank _ member) (by decide)⟩
  rw [text, text, Marker.text_append, Marker.text_append] at same
  obtain ⟨result, same⟩ := append_cons_inj (absent s).1 (absent t).1 same
  obtain ⟨beforeStar, same⟩ := append_cons_inj (absent s).2.1 (absent t).2.1 same
  obtain ⟨afterStar, same⟩ := append_cons_inj (absent s).2.2.1 (absent t).2.2.1 same
  obtain ⟨gap, same⟩ := append_cons_inj (absent s).2.2.2 (absent t).2.2.2 same
  have list : s.list = t.list := List.append_cancel_right same
  have items : s.items = t.items := s.lists.unique (list ▸ t.lists)
  obtain ⟨_, ⟨_, _, _, _⟩, _⟩ := s
  obtain ⟨_, ⟨_, _, _, _⟩, _⟩ := t
  simp_all

end PointerSpelling

theorem insideParentheses?_eq_some_iff {cs list : List Char} :
    insideParentheses? cs = some list ↔ cs = '(' :: (list ++ [')']) := by
  constructor
  · intro inside
    unfold insideParentheses? at inside
    split at inside
    · split at inside
      · rename_i cs closed
        obtain rfl := Option.some.inj inside
        rw [List.dropLast_append_getLast? ')' closed]
      · cases inside
    · cases inside
  · rintro rfl
    rw [insideParentheses?, List.getLast?_concat, if_pos rfl, List.dropLast_concat]

theorem trim_parenthesized (list : List Char) :
    trim ('(' :: (list ++ [')'])) = '(' :: (list ++ [')']) := by
  refine trim_eq_self (fun c first => ?_) fun c last => ?_
  · obtain rfl := Option.some.inj first
    decide
  · rw [← List.cons_append, List.getLast?_concat] at last
    obtain rfl := Option.some.inj last
    decide

theorem all_plain_iff {cs : List Char} :
    (cs.all (!isParenthesis ·)) = true ↔ ∀ c ∈ cs, isParenthesis c = false := by
  simp

theorem all_plain_trim_iff {cs : List Char} :
    ((trim cs).all (!isParenthesis ·)) = true ↔ ∀ c ∈ cs, isParenthesis c = false := by
  rw [all_plain_iff]
  refine ⟨fun plain c member => ?_, fun plain c member => plain c (mem_of_mem_trim member)⟩
  by_contra parenthesis
  have visible : isBlank c = false := by
    rw [Bool.not_eq_false, isParenthesis, Bool.or_eq_true, beq_iff_eq, beq_iff_eq] at parenthesis
    rcases parenthesis with rfl | rfl <;> decide
  exact parenthesis (plain c ((mem_trim_iff visible).mpr member))

namespace FunctionPointer

theorem read?_of_text {cs : List Char} {s : PointerSpelling} (spelled : trim cs = s.text) :
    read? cs = some s.pointer := by
  have absent : '(' ∉ s.result := fun member => absurd (s.result_plain _ member) (by decide)
  have result := And.intro s.result_visible (all_plain_trim_iff.mpr s.result_plain)
  have behind : trim (s.gap ++ '(' :: (s.list ++ [')'])) = '(' :: (s.list ++ [')']) := by
    rw [trim_blank_append s.gap_blank, trim_parenthesized]
  rw [read?, spelled, PointerSpelling.text, splitMarker?_marker absent]
  simp only [Option.bind_eq_bind, Option.bind_some]
  rw [(Option.guard_eq_some' ()).mpr result, behind, insideParentheses?_eq_some_iff.mpr rfl]
  simp only [Option.bind_some]
  rw [(Option.guard_eq_some' ()).mpr (all_plain_iff.mpr s.list_plain),
    parameterTypes?_of_listsItems s.lists]
  simp [PointerSpelling.pointer]

theorem exists_spelling_of_read? {cs : List Char} {pointer : FunctionPointer}
    (read : read? cs = some pointer) :
    ∃ s : PointerSpelling, trim cs = s.text ∧ pointer = s.pointer := by
  obtain ⟨⟨before, after⟩, split, rest⟩ := Option.bind_eq_some_iff.mp read
  obtain ⟨_, result, rest⟩ := Option.bind_eq_some_iff.mp rest
  obtain ⟨visible, plain⟩ := (Option.guard_eq_some' _).mp result
  obtain ⟨list, inside, rest⟩ := Option.bind_eq_some_iff.mp rest
  obtain ⟨_, unnested, rest⟩ := Option.bind_eq_some_iff.mp rest
  have listPlain := all_plain_iff.mp ((Option.guard_eq_some' _).mp unnested)
  obtain ⟨types, parameters, -⟩ := Option.bind_eq_some_iff.mp rest
  obtain ⟨items, lists, rfl⟩ := listsItems_of_parameterTypes? parameters
  obtain ⟨m, whole⟩ := exists_marker_of_splitMarker? split
  have visibleEnd : ∀ c, after.getLast? = some c → isBlank c = false := by
    intro c last
    refine @visible_getLast?_trim cs c ?_
    rw [whole, List.getLast?_append, List.getLast?_append, last, Option.some_or, Option.some_or]
  have behind : after = after.takeWhile isBlank ++ '(' :: (list ++ [')']) := by
    rw [← insideParentheses?_eq_some_iff.mp inside, trim_eq_trimStart visibleEnd, trimStart,
      List.takeWhile_append_dropWhile]
  let s : PointerSpelling :=
    { result := before, marker := m, gap := after.takeWhile isBlank, list, items
      result_visible := visible
      result_plain := all_plain_trim_iff.mp plain
      gap_blank := fun _ => List.mem_takeWhile_imp
      list_plain := listPlain
      lists }
  have spelled : trim cs = s.text := by rw [whole, behind]; rfl
  exact ⟨s, spelled, Option.some.inj (read.symm.trans (read?_of_text spelled))⟩

end FunctionPointer

/-! ## Cuts -/

/-- The byte offsets at which a text is cut while a marker is looked for and when one is found. The
search begins at the front and goes on behind an opening parenthesis. -/
inductive CutOffset (cs : List Char) : Nat → Prop
  | front : CutOffset cs 0
  | behindOpening {i : Nat} (opening : (utf8 cs)[i]? = some ('(' : Char).toUInt8) :
      CutOffset cs (i + 1)
  | markerStart {start stop : Nat} (found : markerFrom? 0 (utf8 cs) = some (start, stop)) :
      CutOffset cs start
  | markerStop {start stop : Nat} (found : markerFrom? 0 (utf8 cs) = some (start, stop)) :
      CutOffset cs stop

theorem CutOffset.exists_cut {cs : List Char} {offset : Nat} (cut : CutOffset cs offset) :
    ∃ before after, cs = before ++ after ∧ offset = (utf8 before).length := by
  cases cut with
  | front => exact ⟨[], cs, rfl, rfl⟩
  | behindOpening opening =>
      obtain ⟨before, c, after, rfl, rfl, narrow, -⟩ := exists_split_of_sevenBit opening (by decide)
      refine ⟨before ++ [c], after, by rw [List.append_assoc, List.singleton_append], ?_⟩
      rw [utf8_append, List.length_append, utf8_cons_of_sevenBit narrow]
      rfl
  | markerStart found =>
      obtain ⟨before, m, after, whole, starts, -⟩ := exists_marker_of_markerFrom? found
      exact ⟨before, _, whole, starts.trans (Nat.zero_add _)⟩
  | markerStop found =>
      obtain ⟨before, m, after, whole, -, stops⟩ := exists_marker_of_markerFrom? found
      exact ⟨_, after, whole.trans (List.append_assoc ..).symm, stops.trans (Nat.zero_add _)⟩

theorem CutOffset.isSome_cutAt? {cs : List Char} {offset : Nat} (cut : CutOffset cs offset) :
    (cutAt? offset cs).isSome := by
  obtain ⟨before, after, whole, width⟩ := cut.exists_cut
  rw [cutAt?_eq_some_iff.mpr ⟨whole, width⟩, Option.isSome_some]

/-- A text is split wherever a marker is found, so neither cut fails. -/
theorem isSome_splitMarker? (cs : List Char) :
    (splitMarker? cs).isSome = (markerFrom? 0 (utf8 cs)).isSome := by
  rw [splitMarker?]
  cases found : markerFrom? 0 (utf8 cs) with
  | none => rfl
  | some offsets =>
      obtain ⟨front, starts⟩ :=
        Option.isSome_iff_exists.mp (CutOffset.markerStart found).isSome_cutAt?
      obtain ⟨back, stops⟩ :=
        Option.isSome_iff_exists.mp (CutOffset.markerStop found).isSome_cutAt?
      simp only [Option.bind_eq_bind, Option.bind_some, starts, stops]
      rfl

namespace FunctionPointer

/-- How a text is read as a function pointer: it is accepted where it is spelled as one between
blank characters, and then with the parts of that spelling, of which there is one at most. All cuts
are made between two characters. -/
structure ReadsSpellings (type : String) : Prop where
  accepts : ∀ pointer, parse? type = some pointer ↔
    ∃ s : PointerSpelling, trim type.toList = s.text ∧ pointer = s.pointer
  unique : ∀ s t : PointerSpelling, trim type.toList = s.text → trim type.toList = t.text → s = t
  cuts : ∀ offset, CutOffset (trim type.toList) offset →
    (String.Pos.Raw.mk offset).IsValid (String.ofList (trim type.toList))
  splits : (splitMarker? (trim type.toList)).isSome =
    (markerFrom? 0 (utf8 (trim type.toList))).isSome

theorem readsSpellings (type : String) : ReadsSpellings type where
  accepts _ := ⟨exists_spelling_of_read?, fun ⟨_, spelled, same⟩ => same ▸ read?_of_text spelled⟩
  unique _ _ spelled respelled := PointerSpelling.ext_of_text (spelled.symm.trans respelled)
  cuts _ cut := isValid_iff.mpr cut.isSome_cutAt?
  splits := isSome_splitMarker? _

example : parse? "Größe (\t* )  ( void, (*)(int) )" = none := by decide

example : parse? " Größe (\t* )  ( const void * ,日 ) " = some ⟨"Größe", ["const void *", "日"]⟩ := by
  decide

end FunctionPointer

end CType

end ForeignBindings
