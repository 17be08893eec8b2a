import PageMarkup.Binary64.Decimal
import PageMarkup.Json
import PageMarkup.Text.Quoted

/-!
# Printing JSON

Two layouts: compact, without any blank, and indented by two spaces a level with every item and
field on a line of its own.
-/

namespace PageMarkup

namespace Json

/-- Numbers are plain from 10⁻⁵ up to below 10¹⁶; whole numbers keep a fraction and positive
exponents a sign. -/
def numberLayout : Binary64.Layout where
  leastPlain := -5
  greatestPlain := 15
  wholeFraction := true
  plusSign := true

/-- A number of `width` digits in base sixteen. -/
def hexPadded (width n : Nat) : List Char :=
  let digits := Text.hex n
  List.replicate (width - digits.length) '0' ++ digits

/-- How a character is written in a JSON string. -/
def stringChar (c : Char) : List Char :=
  if c = '"' then ['\\', '"']
  else if c = '\\' then ['\\', '\\']
  else if c = '\n' then ['\\', 'n']
  else if c = '\r' then ['\\', 'r']
  else if c = '\t' then ['\\', 't']
  else if c.toNat = 8 then ['\\', 'b']
  else if c.toNat = 12 then ['\\', 'f']
  else if c.toNat < 0x20 then ['\\', 'u'] ++ hexPadded 4 c.toNat
  else [c]

/-- A text as a JSON string. -/
def string (s : String) : List Char :=
  ['"'] ++ s.toList.flatMap stringChar ++ ['"']

/-- An integer in decimal digits. -/
def integer (n : Int) : List Char :=
  (if n < 0 then ['-'] else []) ++ Nat.toDigits 10 n.natAbs

/-- The text of a value that holds no others. -/
def scalar : Json → List Char
  | bool true => "true".toList
  | bool false => "false".toList
  | int n => integer n
  | float x => numberLayout.text x
  | text s => string s
  | _ => "null".toList

mutual

/-- A value without any blank. -/
def compact : Json → List Char
  | array items => ['['] ++ compactItems items ++ [']']
  | object fields => ['\x7b'] ++ compactFields fields ++ ['\x7d']
  | value => scalar value

/-- Items with commas between them. -/
def compactItems : List Json → List Char
  | [] => []
  | [item] => compact item
  | item :: items => compact item ++ [','] ++ compactItems items

/-- Fields with commas between them. -/
def compactFields : List (String × Json) → List Char
  | [] => []
  | [(name, value)] => string name ++ [':'] ++ compact value
  | (name, value) :: fields =>
    string name ++ [':'] ++ compact value ++ [','] ++ compactFields fields

end

/-- The start of a line at a level of nesting. -/
def lineStart (level : Nat) : List Char :=
  '\n' :: List.replicate (2 * level) ' '

mutual

/-- A value whose first line stands at a level of nesting. -/
def indented (level : Nat) : Json → List Char
  | array [] => ['[', ']']
  | array (item :: items) =>
    ['['] ++ indentedItems (level + 1) (item :: items) ++ lineStart level ++ [']']
  | object [] => ['\x7b', '\x7d']
  | object (field :: fields) =>
    ['\x7b'] ++ indentedFields (level + 1) (field :: fields) ++ lineStart level ++ ['\x7d']
  | value => scalar value

/-- Items on lines of their own. -/
def indentedItems (level : Nat) : List Json → List Char
  | [] => []
  | [item] => lineStart level ++ indented level item
  | item :: items => lineStart level ++ indented level item ++ [','] ++ indentedItems level items

/-- Fields on lines of their own. -/
def indentedFields (level : Nat) : List (String × Json) → List Char
  | [] => []
  | [(name, value)] => lineStart level ++ string name ++ [':', ' '] ++ indented level value
  | (name, value) :: fields =>
    lineStart level ++ string name ++ [':', ' '] ++ indented level value ++ [',']
      ++ indentedFields level fields

end

/-- The compact text of a value. -/
def print (value : Json) : String :=
  String.ofList (compact value)

/-- The indented text of a value. -/
def pretty (value : Json) : String :=
  String.ofList (indented 0 value)

end Json

end PageMarkup
