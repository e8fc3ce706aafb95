import ForeignBindings.Document.Toml.Text

/-!
# The outline of a configuration document

A document is a sequence of headers and of keys with values, a line for each; lists and tables may
also be written inline, inside one another up to a limit. The outline is what brackets, commas, dots,
equals signs, comments and line endings make of a document. It keeps words, texts and the parts of
keys as they stand, without asking what they spell, and they may be missing altogether. A document
with a fault in its outline is refused before anything else about it is looked at.
-/

namespace ForeignBindings.Document.Toml

/-- The parts of a key as they stand in the document. -/
abbrev Parts := List (List Char)

/-- A value as it stands in the document. -/
inductive Sketch
  /-- A word without quotation marks. -/
  | word (cs : List Char)
  /-- A text with its marks, the last of which may be missing. -/
  | text (cs : List Char)
  | list (items : List Sketch)
  | table (entries : List (Parts × Sketch))

/-- A line of a document. -/
inductive Line
  /-- Opens a table, or adds one to several under the same key. -/
  | header (isRepeated : Bool) (key : Parts)
  | entry (key : Parts) (value : Sketch)

/-! ## Between lines -/

/-- Skips blank characters, comments and line endings, from the inside of a comment or from the
outside. -/
def skipLinesFrom? (inComment : Bool) : List Char → Option (List Char)
  | [] => some []
  | '\r' :: '\n' :: cs => skipLinesFrom? false cs
  | c :: cs =>
    if c = '\n' then skipLinesFrom? false cs
    else if inComment then if isPlain c then skipLinesFrom? true cs else none
    else if c = '#' then skipLinesFrom? true cs
    else if isSpace c then skipLinesFrom? false cs
    else some (c :: cs)

/-- Skips blank characters, comments and line endings. -/
def skipLines? (cs : List Char) : Option (List Char) := skipLinesFrom? false cs

/-- What follows a comment at the front, if there is one. -/
def afterComment : List Char → List Char
  | '#' :: cs => cs.dropWhile isPlain
  | cs => cs

/-- What follows the end of a line. -/
def afterLine? (cs : List Char) : Option (List Char) :=
  match afterComment (skipSpace cs) with
  | [] => some []
  | rest => afterNewline? rest

/-! ## Texts, words and keys -/

/-- Splits off the rest of a text up to its quotation mark, or up to the end of the line. -/
def splitBasic (read : List Char) : List Char → List Char × List Char
  | [] => (read.reverse, [])
  | '\\' :: '\\' :: cs => splitBasic ('\\' :: '\\' :: read) cs
  | '\\' :: '"' :: cs => splitBasic ('"' :: '\\' :: read) cs
  | c :: cs =>
    if c = '"' then ((c :: read).reverse, cs)
    else if c = '\n' then (read.reverse, c :: cs)
    else splitBasic (c :: read) cs

/-- Splits off the rest of a text up to its apostrophe, or up to the end of the line. -/
def splitLiteral (read : List Char) : List Char → List Char × List Char
  | [] => (read.reverse, [])
  | c :: cs =>
    if c = '\'' then ((c :: read).reverse, cs)
    else if c = '\n' then (read.reverse, c :: cs)
    else splitLiteral (c :: read) cs

/-- Splits off the rest of a text that may span lines, up to its three marks or up to the end. -/
def splitLong (mark : Char) (escapes : Bool) (read : List Char) :
    List Char → List Char × List Char
  | [] => (read.reverse, [])
  | '\\' :: c :: cs =>
    if escapes && (c == '\\' || c == '"') then splitLong mark escapes (c :: '\\' :: read) cs
    else splitLong mark escapes ('\\' :: read) (c :: cs)
  | c :: cs =>
    match closing mark (c :: cs) with
    | some (last, rest) => (read.reverse ++ last ++ List.replicate 3 mark, rest)
    | none => splitLong mark escapes (c :: read) cs

def splitText : List Char → List Char × List Char
  | '"' :: '"' :: '"' :: cs => splitLong '"' true (List.replicate 3 '"') cs
  | '\'' :: '\'' :: '\'' :: cs => splitLong '\'' false (List.replicate 3 '\'') cs
  | '"' :: cs => splitBasic ['"'] cs
  | '\'' :: cs => splitLiteral ['\''] cs
  | cs => ([], cs)

/-- Whether a character is a mark that opens a text. -/
def isMark (c : Char) : Bool := c == '"' || c == '\''

/-- The characters of words. -/
def isWordChar (c : Char) : Bool :=
  !(isSpace c || c == '=' || c == ',' || c == '[' || c == ']' || c == '\x7b' || c == '\x7d' ||
    c == '#' || c == '\n' || c == '\r')

/-- Splits off the rest of a word. Blank characters belong to it if it goes on after them, as a date
does with the time of day. -/
def splitWord (word gap : List Char) : List Char → List Char × List Char
  | [] => (word.reverse, gap.reverse)
  | c :: cs =>
    if isSpace c && !word.isEmpty then splitWord word (c :: gap) cs
    else if isWordChar c && (gap.isEmpty || !isMark c) then splitWord (c :: gap ++ word) [] cs
    else (word.reverse, gap.reverse ++ c :: cs)

def splitPart (cs : List Char) : List Char × List Char :=
  let isPartChar := fun c => isWordChar c && c != '.'
  if cs.head?.any isMark then splitText cs
  else (cs.takeWhile isPartChar, cs.dropWhile isPartChar)

/-- Splits off a key: parts with dots between them. -/
def splitKey : Nat → List Char → Parts × List Char
  | 0, cs => ([], cs)
  | fuel + 1, cs =>
    let (part, rest) := splitPart (skipSpace cs)
    match skipSpace rest with
    | '.' :: rest =>
      let (parts, rest) := splitKey fuel rest
      (part :: parts, rest)
    | rest => ([part], rest)

/-! ## Values -/

/-- How many lists and inline tables may stand inside one another. -/
def mostNested : Nat := 80

mutual

/-- Splits off a value, inside `depth` lists and inline tables. -/
def sketchValue? (depth : Nat) : Nat → List Char → Option (Sketch × List Char)
  | 0, _ => none
  | fuel + 1, cs =>
    match cs with
    | '[' :: rest => do
      guard (depth < mostNested)
      let (items, rest) ← sketchItems? (depth + 1) fuel (← skipLines? rest)
      return (.list items, rest)
    | '\x7b' :: rest => do
      guard (depth < mostNested)
      let (entries, rest) ← sketchInline? (depth + 1) fuel (← skipLines? rest)
      return (.table entries, rest)
    | _ =>
      if cs.head?.any isMark then
        let (text, rest) := splitText cs
        some (.text text, rest)
      else
        let (word, rest) := splitWord [] [] cs
        some (.word word, rest)
termination_by structural fuel => fuel

/-- Splits off the rest of a list. A comma may stand after the last item. -/
def sketchItems? (depth : Nat) : Nat → List Char → Option (List Sketch × List Char)
  | 0, _ => none
  | fuel + 1, cs =>
    match cs with
    | ']' :: rest => some ([], rest)
    | ',' :: _ => none
    | _ => do
      let (item, rest) ← sketchValue? depth fuel cs
      match ← skipLines? rest with
      | ',' :: rest => do
        let (items, rest) ← sketchItems? depth fuel (← skipLines? rest)
        return (item :: items, rest)
      | ']' :: rest => return ([item], rest)
      | _ => none
termination_by structural fuel => fuel

/-- Splits off the rest of an inline table. A comma may stand after the last entry. -/
def sketchInline? (depth : Nat) : Nat → List Char → Option (List (Parts × Sketch) × List Char)
  | 0, _ => none
  | fuel + 1, cs =>
    match cs with
    | '\x7d' :: rest => some ([], rest)
    | _ => do
      let (entry, rest) ← sketchAssignment? depth fuel cs
      match ← skipLines? rest with
      | ',' :: rest => do
        let (entries, rest) ← sketchInline? depth fuel (← skipLines? rest)
        return (entry :: entries, rest)
      | '\x7d' :: rest => return ([entry], rest)
      | _ => none
termination_by structural fuel => fuel

/-- Splits off a key and its value in an inline table. Lines may end on both sides of the equals
sign. -/
def sketchAssignment? (depth : Nat) : Nat → List Char → Option ((Parts × Sketch) × List Char)
  | 0, _ => none
  | fuel + 1, cs => do
    let (key, rest) := splitKey (fuel + 1) cs
    let rest ← ['='].isPrefixOf? (← skipLines? rest)
    let (value, rest) ← sketchValue? depth fuel (← skipLines? rest)
    return ((key, value), rest)
termination_by structural fuel => fuel

end

/-! ## Lines -/

/-- Splits off a header or a key with its value. -/
def sketchLine? (fuel : Nat) : List Char → Option (Line × List Char)
  | '[' :: '[' :: cs => do
    let (key, rest) := splitKey fuel cs
    return (.header true key, ← [']', ']'].isPrefixOf? rest)
  | '[' :: cs => do
    let (key, rest) := splitKey fuel cs
    return (.header false key, ← [']'].isPrefixOf? rest)
  | cs => do
    let (key, rest) := splitKey fuel cs
    let rest ← ['='].isPrefixOf? rest
    let (value, rest) ← sketchValue? 0 fuel (skipSpace rest)
    return (.entry key value, rest)

/-- The lines of a document, or nothing if its outline has a fault. -/
def sketchLines? : Nat → List Char → Option (List Line)
  | 0, _ => none
  | fuel + 1, cs => do
    match ← skipLines? cs with
    | [] => return []
    | start => do
      let (line, rest) ← sketchLine? fuel start
      return line :: (← sketchLines? fuel (← afterLine? rest))

/-- Drops a byte order mark. -/
def dropMark : List Char → List Char
  | '\ufeff' :: cs => cs
  | cs => cs

def outline? (text : String) : Option (List Line) :=
  let cs := dropMark text.toList
  sketchLines? (2 * cs.length + 3) cs

end ForeignBindings.Document.Toml
