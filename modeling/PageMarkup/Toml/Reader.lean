import PageMarkup.Toml.Scalar
import PageMarkup.Toml.Text

/-!
# Reading TOML

A document is a sequence of lines.  A line begins a table, or gives a key a value in the table that
was begun last, or is blank; a comment may follow.  Only arrays, tables in braces and long strings
go over several lines.
-/

namespace PageMarkup

namespace Toml

open Text

/-! ### Blanks -/

/-- A space or a tab. -/
def isSpace (c : Char) : Bool :=
  c == ' ' || c == '\t'

/-- The text without the spaces at its start. -/
def skipSpaces (cs : List Char) : List Char :=
  cs.dropWhile isSpace

/-- The text without a comment at its start. -/
def skipComment : List Char → List Char
  | '#' :: cs => cs.dropWhile isPlain
  | cs => cs

/-- What follows the end of a line, where nothing but a comment stands before it. -/
def afterLine? (cs : List Char) : Option (List Char) :=
  match skipComment (skipSpaces cs) with
  | [] => some []
  | cs => afterLineEnd? cs

/-- The text without spaces, comments and line ends at its start. -/
def skipGap (cs : List Char) : List Char :=
  (readMany readGapPart cs).2
where
  readGapPart : Reader Unit
    | [] => none
    | '#' :: cs => (afterLineEnd? (cs.dropWhile isPlain)).map fun rest => ((), rest)
    | c :: cs =>
      if isSpace c then some ((), cs) else (afterLineEnd? (c :: cs)).map fun rest => ((), rest)

/-! ### Keys -/

/-- A character of a key without quotes. -/
def isBare (c : Char) : Bool :=
  c.isAlphanum || c == '-' || c == '_'

/-- One part of a key. -/
def readName : Reader String := fun cs =>
  let (bare, rest) := spanWhile isBare cs
  if bare.isEmpty then readLine cs else some (String.ofList bare, rest)

/-- A further part of a key. -/
def readDotted : Reader String := fun cs =>
  match skipSpaces cs with
  | '.' :: cs => readName (skipSpaces cs)
  | _ => none

/-- The depth to which keys, arrays and tables in braces may lead. -/
def greatestNesting : Nat := 80

/-- A key; its parts are separated by points. -/
def readKey : Reader (List String) := fun cs => do
  let (name, cs) ← readName (skipSpaces cs)
  let (names, cs) := readMany readDotted cs
  if names.length < greatestNesting then some (name :: names, skipSpaces cs) else none

/-! ### Values -/

/-- The character ends a value that is written without quotes. -/
def isDelimiter (c : Char) : Bool :=
  isSpace c || c == '\n' || c == '\r' || c == '#' || c == ',' || c == ']' || c == '}'
    || c == '[' || c == '\x7b' || c == '=' || c == '"' || c == '\x27'

/-- What is written up to a delimiter.  A space does not end it where a date stands before it and a
time after it. -/
def splitScalar (cs : List Char) : List Char × List Char :=
  let (source, rest) := spanWhile (!isDelimiter ·) cs
  match rest with
  | ' ' :: more =>
    if afterDate? source = some [] && (readNumber 2 99 more).isSome then
      let (time, rest) := spanWhile (!isDelimiter ·) more
      (source ++ ' ' :: time, rest)
    else (source, rest)
  | _ => (source, rest)

/-- A value that holds no others. -/
def readLeaf : Reader Toml := fun cs =>
  if cs.head? = some '"' || cs.head? = some '\x27' then
    (readText cs).map fun (value, rest) => (text value, rest)
  else
    let (source, rest) := splitScalar cs
    (scalar? source).map fun value => (value, rest)

/-- Items with commas between them and perhaps one at the end, up to a closing mark; there are at
most `most` of them. -/
def readItems {α : Type} (read : Reader α) (close : Char) : (most : Nat) → Reader (List α)
  | 0, _ => none
  | most + 1, cs =>
    match skipGap cs with
    | [] => none
    | c :: cs =>
      if c = close then some ([], cs)
      else do
        let (item, cs) ← read (c :: cs)
        match skipGap cs with
        | [] => none
        | d :: cs =>
          if d = close then some ([item], cs)
          else if d = ',' then do
            let (items, cs) ← readItems read close most cs
            some (item :: items, cs)
          else none

/-- A key and its value, which `read` reads; `skip` passes what may stand around the equals sign. -/
def readPair {α : Type} (skip : List Char → List Char) (read : Reader α) :
    Reader (List String × α) := fun cs => do
  let (key, cs) ← readKey cs
  match skip cs with
  | '=' :: cs => do
    let (value, cs) ← read (skip cs)
    some ((key, value), cs)
  | _ => none

/-- A value in which arrays and tables in braces nest at most `room` deep. -/
def readValue : (room : Nat) → Reader Toml
  | 0, cs => readLeaf cs
  | room + 1, cs =>
    match cs with
    | '[' :: cs =>
      (readItems (readValue room) ']' cs.length cs).map fun (items, rest) => (array items, rest)
    | '\x7b' :: cs => do
      let (pairs, rest) ← readItems (readPair skipGap (readValue room)) '\x7d' cs.length cs
      some (← ofAssignments pairs, rest)
    | cs => readLeaf cs

/-! ### Documents -/

/-- What has been read of a document. -/
structure Draft where
  fields : Fields := []
  /-- The header of the table that was begun last. -/
  header : List String := []
  deriving Repr, Inhabited

/-- What a line says, up to the blanks at its end. -/
def readStatement (draft : Draft) (cs : List Char) : Option (Draft × List Char) :=
  match cs with
  | [] => some (draft, [])
  | '[' :: '[' :: cs => do
    let (key, cs) ← readKey cs
    match cs with
    | ']' :: ']' :: cs => some (⟨← openRepeated key draft.fields, key⟩, cs)
    | _ => none
  | '[' :: cs => do
    let (key, cs) ← readKey cs
    match cs with
    | ']' :: cs => some (⟨← openTable key draft.fields, key⟩, cs)
    | _ => none
  | c :: _ =>
    if c = '#' || c = '\n' || c = '\r' then some (draft, cs)
    else do
      let ((key, value), cs) ← readPair skipSpaces (readValue greatestNesting) cs
      some ({ draft with fields := ← assignAt draft.header key value draft.fields }, cs)

/-- Read at most `most` lines, which have to be all. -/
def readLines : (most : Nat) → Draft → List Char → Option Fields
  | 0, draft, cs => if cs.isEmpty then some draft.fields else none
  | most + 1, draft, cs =>
    if cs.isEmpty then some draft.fields
    else do
      let (draft, cs) ← readStatement draft (skipSpaces cs)
      readLines most draft (← afterLine? cs)

/-- The table that a text spells; a byte order mark may come first. -/
def read? (source : String) : Option Fields :=
  let cs := match source.toList with
    | '\uFEFF' :: cs => cs
    | cs => cs
  readLines cs.length {} cs

end Toml

end PageMarkup
