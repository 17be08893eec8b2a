import PageMarkup.Json.Literal
import PageMarkup.Text.Scan

/-!
# Reading JSON

Reading goes in three steps: characters to tokens, tokens to a tree, and the tree to a value.  The
tree is everything that has the form of JSON.  A value asks for more: numbers within range, no
half of a surrogate pair on its own, and bounded nesting; parts of a tree that are never looked at
need no value.
-/

namespace PageMarkup

namespace Json

/-- What has the form of JSON.  A text or a name is missing where it holds half of a surrogate
pair. -/
inductive Tree where
  | null
  | bool (value : Bool)
  | number (literal : Literal)
  | text (value : Option String)
  | array (items : List Tree)
  | object (fields : List (Option String × Tree))
  deriving Repr, Inhabited

/-- A punctuation mark, or a value that holds no others. -/
inductive Token where
  | mark (c : Char)
  | scalar (tree : Tree)
  deriving Repr, Inhabited

/-! ### Strings -/

/-- The value of four digits in base sixteen. -/
def unit? (a b c d : Char) : Option Nat := do
  let digit (c : Char) : Option Nat :=
    if '0' ≤ c && c ≤ '9' then some (c.toNat - '0'.toNat)
    else if 'a' ≤ c && c ≤ 'f' then some (c.toNat - 'a'.toNat + 10)
    else if 'A' ≤ c && c ≤ 'F' then some (c.toNat - 'A'.toNat + 10)
    else none
  some ((((← digit a) * 16 + (← digit b)) * 16 + (← digit c)) * 16 + (← digit d))

/-- The character that an escape of two characters stands for. -/
def escaped? (c : Char) : Option Nat :=
  if c = '"' || c = '\\' || c = '/' then some c.toNat
  else if c = 'b' then some 8
  else if c = 'f' then some 12
  else if c = 'n' then some 10
  else if c = 'r' then some 13
  else if c = 't' then some 9
  else none

/-- The code points of a string up to its closing quote, halves of surrogate pairs apart, and what
follows the quote. -/
def readString : Text.Reader (List Nat)
  | [] => none
  | '"' :: cs => some ([], cs)
  | '\\' :: 'u' :: a :: b :: c :: d :: cs => do
    let unit ← unit? a b c d
    let (units, rest) ← readString cs
    some (unit :: units, rest)
  | '\\' :: c :: cs => do
    let unit ← escaped? c
    let (units, rest) ← readString cs
    some (unit :: units, rest)
  | c :: cs => do
    if c = '\\' || c.toNat < 0x20 then none
    let (units, rest) ← readString cs
    some (c.toNat :: units, rest)

/-- Join the halves of surrogate pairs; a half on its own is refused. -/
def joinPairs : List Nat → Option (List Char)
  | [] => some []
  | high :: low :: units =>
    if 0xD800 ≤ high && high < 0xDC00 then
      if 0xDC00 ≤ low && low < 0xE000 then
        (joinPairs units).map
          (Char.ofNat (0x10000 + (high - 0xD800) * 0x400 + (low - 0xDC00)) :: ·)
      else none
    else if 0xDC00 ≤ high && high < 0xE000 then none
    else (joinPairs (low :: units)).map (Char.ofNat high :: ·)
  | [unit] => if 0xD800 ≤ unit && unit < 0xE000 then none else some [Char.ofNat unit]

/-! ### Numbers -/

/-- The digits after a point, if there is one; then at least one digit is required. -/
def readFraction : List Char → Option (Option (List Char) × List Char)
  | '.' :: cs =>
    let (digits, rest) := Text.spanWhile Text.isAsciiDigit cs
    if digits.isEmpty then none else some (some digits, rest)
  | cs => some (none, cs)

/-- The exponent, if there is one; then at least one digit is required. -/
def readExponent : List Char → Option (Option Int × List Char)
  | [] => some (none, [])
  | c :: cs =>
    if c = 'e' || c = 'E' then
      let (negative, cs) := Binary64.readSign cs
      let (digits, rest) := Text.spanWhile Text.isAsciiDigit cs
      let value : Int := Binary64.digitsValue digits
      if digits.isEmpty then none else some (some (if negative then -value else value), rest)
    else some (none, c :: cs)

/-- A number at the start of the text: the whole part is `0` or does not begin with it. -/
def readLiteral (cs : List Char) : Option (Literal × List Char) := do
  let (negative, cs) := match cs with
    | '-' :: cs => (true, cs)
    | cs => (false, cs)
  let (whole, cs) ← match cs with
    | '0' :: cs => some (['0'], cs)
    | cs =>
      let (digits, rest) := Text.spanWhile Text.isAsciiDigit cs
      if digits.isEmpty then none else some (digits, rest)
  let (fraction, cs) ← readFraction cs
  let (exponent, cs) ← readExponent cs
  some (⟨negative, whole, fraction, exponent⟩, cs)

/-! ### Tokens -/

/-- The characters that may stand between tokens. -/
def isSpace (c : Char) : Bool :=
  c == ' ' || c == '\t' || c == '\n' || c == '\r'

/-- The characters that are tokens of their own. -/
def isMark (c : Char) : Bool :=
  c == '[' || c == ']' || c == '\x7b' || c == '\x7d' || c == ',' || c == ':'

/-- The token at the start of a text, and what follows it. -/
def readToken : Text.Reader Token
  | [] => none
  | '"' :: cs => (readString cs).map fun (units, rest) =>
    (.scalar (.text ((joinPairs units).map String.ofList)), rest)
  | 't' :: 'r' :: 'u' :: 'e' :: cs => some (.scalar (.bool true), cs)
  | 'f' :: 'a' :: 'l' :: 's' :: 'e' :: cs => some (.scalar (.bool false), cs)
  | 'n' :: 'u' :: 'l' :: 'l' :: cs => some (.scalar .null, cs)
  | c :: cs =>
    if isMark c then some (.mark c, cs)
    else (readLiteral (c :: cs)).map fun (literal, rest) => (.scalar (.number literal), rest)

/-- The tokens of a text; nothing but space may stand between them. -/
def tokens (cs : List Char) : Option (List Token) :=
  (Text.scan readToken cs).foldr (fun piece rest =>
    match piece with
    | .found token _ => rest.map (token :: ·)
    | .char c => if isSpace c then rest else none) (some [])

/-! ### Trees -/

/-- An array or object that has been opened, with what it holds so far, the last first. -/
inductive Frame where
  | items (done : List Tree)
  | fields (done : List (Option String × Tree)) (name : Option String)
  deriving Inhabited

/-- What may come next. -/
inductive State where
  /-- A value. -/
  | atValue (outer : List Frame)
  /-- A value or the end of an array that has just been opened. -/
  | firstItem (outer : List Frame)
  /-- A name or the end of an object that has just been opened. -/
  | firstName (outer : List Frame)
  /-- A name, after a comma. -/
  | atName (done : List (Option String × Tree)) (outer : List Frame)
  /-- The colon after a name. -/
  | atColon (done : List (Option String × Tree)) (name : Option String) (outer : List Frame)
  /-- What may follow a value. -/
  | after (tree : Tree) (outer : List Frame)
  deriving Inhabited

/-- The state at the start of a value. -/
def State.startValue (outer : List Frame) : Token → Option State
  | .scalar tree => some (.after tree outer)
  | .mark '[' => some (.firstItem outer)
  | .mark '\x7b' => some (.firstName outer)
  | .mark _ => none

/-- The state after a token. -/
def State.next : State → Token → Option State
  | .atValue outer, token => startValue outer token
  | .firstItem outer, .mark ']' => some (.after (.array []) outer)
  | .firstItem outer, token => startValue (.items [] :: outer) token
  | .firstName outer, .mark '\x7d' => some (.after (.object []) outer)
  | .firstName outer, .scalar (.text name) => some (.atColon [] name outer)
  | .atName done outer, .scalar (.text name) => some (.atColon done name outer)
  | .atColon done name outer, .mark ':' => some (.atValue (.fields done name :: outer))
  | .after tree (.items done :: outer), .mark ',' => some (.atValue (.items (tree :: done) :: outer))
  | .after tree (.items done :: outer), .mark ']' =>
    some (.after (.array (tree :: done).reverse) outer)
  | .after tree (.fields done name :: outer), .mark ',' =>
    some (.atName ((name, tree) :: done) outer)
  | .after tree (.fields done name :: outer), .mark '\x7d' =>
    some (.after (.object ((name, tree) :: done).reverse) outer)
  | _, _ => none

/-- The state after a list of tokens. -/
def State.run (state : State) : List Token → Option State
  | [] => some state
  | token :: rest => (state.next token).bind fun next => next.run rest

/-- The tree that a text spells. -/
def Tree.read? (cs : List Char) : Option Tree := do
  match ← (State.atValue []).run (← tokens cs) with
  | .after tree [] => some tree
  | _ => none

/-! ### Values -/

mutual

/-- The value of a tree in which at most `room` arrays and objects stand inside one another. -/
def Tree.value? (room : Nat) : Tree → Option Json
  | .null => some .null
  | .bool value => some (.bool value)
  | .number literal => literal.value?
  | .text value => value.map .text
  | .array items => if room = 0 then none else (values? (room - 1) items).map .array
  | .object fields => if room = 0 then none else (fieldValues? (room - 1) fields).map ofFields

/-- The values of a list of trees. -/
def Tree.values? (room : Nat) : List Tree → Option (List Json)
  | [] => some []
  | tree :: trees => do some ((← tree.value? room) :: (← values? room trees))

/-- The values of a list of fields. -/
def Tree.fieldValues? (room : Nat) : List (Option String × Tree) → Option (List (String × Json))
  | [] => some []
  | (name, tree) :: fields => do
    some ((← name, ← tree.value? room) :: (← fieldValues? room fields))

end

/-- The number of arrays and objects that may stand inside one another. -/
def greatestNesting : Nat := 127

/-- The value that a text spells. -/
def read? (cs : List Char) : Option Json := do
  (← Tree.read? cs).value? greatestNesting

end Json

end PageMarkup
