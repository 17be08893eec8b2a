import PageMarkup.Entity
import PageMarkup.Text.WordChar

/-!
# Tags of HTML

A tag is an opening or closing one with a name and whatever stands between the name and the next
`>`.  Attributes are read from that text; only those with a quoted value count.  Names are compared
without regard to case.
-/

namespace PageMarkup

namespace Html

open Text

/-- A tag. -/
structure Tag where
  closing : Bool
  name : List Char
  /-- What stands between the name and the end of the tag. -/
  attributes : List Char
  deriving DecidableEq, Repr, Inhabited

/-- A character that continues the name of a tag. -/
def isNameChar (c : Char) : Bool :=
  isLetter c || isAsciiDigit c

/-- The text up to the next `>` and what follows it. -/
def untilTagEnd? (cs : List Char) : Option (List Char × List Char) :=
  match cs.dropWhile (· != '>') with
  | _ :: rest => some (cs.takeWhile (· != '>'), rest)
  | [] => none

/-- The name of a tag with the text after it; the name ends where a word ends. -/
def readName : Reader (List Char)
  | [] => none
  | c :: cs =>
    let (more, rest) := spanWhile isNameChar cs
    if isLetter c && atWordEnd rest then some (c :: more, rest) else none

/-- A tag of either sort. -/
def readTag : Reader Tag
  | '<' :: '/' :: cs => do
    let (name, rest) ← readName cs
    let (attributes, rest) ← untilTagEnd? rest
    some (⟨true, name, attributes⟩, rest)
  | '<' :: cs => do
    let (name, rest) ← readName cs
    let (attributes, rest) ← untilTagEnd? rest
    some (⟨false, name, attributes⟩, rest)
  | _ => none

/-- An opening tag. -/
def readOpening (cs : List Char) : Option (Tag × List Char) :=
  (readTag cs).filter fun (tag, _) => !tag.closing

/-- The attributes of an opening tag with this name, which is written in small letters. -/
def readNamed (name : String) : Reader (List Char)
  | '<' :: cs => do
    let rest ← afterFolded? name.toList cs
    if !atWordEnd rest then none
    untilTagEnd? rest
  | _ => none

/-- What follows a closing tag with this name. -/
def afterClosing? (name : String) (cs : List Char) : Option (List Char) := do
  let rest ← afterFolded? ("</" ++ name).toList cs
  after? ['>'] (trimStart rest)

/-! ### Attributes -/

/-- The first character of the name of an attribute. -/
def isAttributeStart (c : Char) : Bool :=
  isLetter c || c == '_' || c == ':'

/-- A further character of the name of an attribute. -/
def isAttributeChar (c : Char) : Bool :=
  isAttributeStart c || isAsciiDigit c || c == '.' || c == '-'

/-- A value between quotes of one sort, and what follows it. -/
def readQuoted : Reader (List Char)
  | [] => none
  | quote :: cs =>
    if quote == '"' || quote == '\x27' then
      match cs.dropWhile (· != quote) with
      | _ :: rest => some (cs.takeWhile (· != quote), rest)
      | [] => none
    else none

/-- An attribute: its name, and its value as it is written. -/
def readAttribute : Reader (List Char × List Char)
  | [] => none
  | c :: cs => do
    let (more, rest) := spanWhile isAttributeChar cs
    if !isAttributeStart c then none
    let rest ← after? ['='] (trimStart rest)
    let (value, rest) ← readQuoted (trimStart rest)
    some ((c :: more, value), rest)

/-- The value of the first attribute with a name in small letters. -/
def attribute? (name : String) (attributes : List Char) : Option (List Char) :=
  ((findAll readAttribute attributes).find? fun (found, _) => lower found == name.toList).map
    fun (_, value) => Entity.decode value

/-- The words of the class attribute, in small letters. -/
def classWords (attributes : List Char) : List (List Char) :=
  (words ((attribute? "class" attributes).getD [])).map lower

end Html

end PageMarkup
