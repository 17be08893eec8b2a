import PageMarkup.Entity.Names
import PageMarkup.Text.Basic
import PageMarkup.Text.Scan

/-!
# Character references

Writing a text so that it can stand in markup, and reading it back.  Writing replaces the three
characters that markup gives a meaning to, and inside a quoted attribute the quote as well.
Reading accepts the references `&name;`, `&#65;` and `&#x41;` in exactly these forms and leaves
everything else alone, so reading what was written gives the text back.
-/

namespace PageMarkup

namespace Entity

/-! ### Writing -/

/-- One character of a text between tags. -/
def encodeChar (c : Char) : List Char :=
  match c with
  | '&' => ['&', 'a', 'm', 'p', ';']
  | '<' => ['&', 'l', 't', ';']
  | '>' => ['&', 'g', 't', ';']
  | c => [c]

/-- One character of an attribute value between double quotes. -/
def encodeQuotedChar (c : Char) : List Char :=
  match c with
  | '"' => ['&', 'q', 'u', 'o', 't', ';']
  | c => encodeChar c

/-- A text as it stands between tags. -/
def encode (cs : List Char) : List Char :=
  cs.flatMap encodeChar

/-- A text as it stands in an attribute value between double quotes. -/
def encodeQuoted (cs : List Char) : List Char :=
  cs.flatMap encodeQuotedChar

/-! ### Reading -/

/-- The character with this name. -/
def ofName (name : List Char) : Option Char :=
  match name with
  | ['a', 'm', 'p'] => some '&'
  | ['l', 't'] => some '<'
  | ['g', 't'] => some '>'
  | ['q', 'u', 'o', 't'] => some '"'
  | ['a', 'p', 'o', 's'] => some '\''
  | name => (names.lookup (String.ofList name)).map Char.ofNat

/-- The value of a digit in base sixteen. -/
def hexDigit? (c : Char) : Option Nat :=
  if '0' ≤ c && c ≤ '9' then some (c.toNat - '0'.toNat)
  else if 'a' ≤ c && c ≤ 'f' then some (c.toNat - 'a'.toNat + 10)
  else if 'A' ≤ c && c ≤ 'F' then some (c.toNat - 'A'.toNat + 10)
  else none

/-- The value of a non-empty run of digits below `base`. -/
def digits? (base : Nat) (cs : List Char) : Option Nat :=
  if cs.isEmpty then none
  else
    cs.foldl (fun value c => do
      let digit ← hexDigit? c
      if digit < base then some ((← value) * base + digit) else none) (some 0)

/-- A code point that a reference may stand for: a scalar value that is not a control character
below the space, line breaks, tab and form feed apart. -/
def isReferable (n : Nat) : Bool :=
  n.isValidChar && (0x20 ≤ n || n == 9 || n == 10 || n == 12 || n == 13)

/-- The character that the text between `&` and `;` stands for. -/
def ofBody : List Char → Option Char
  | '#' :: 'x' :: cs => ofCode (digits? 16 cs)
  | '#' :: 'X' :: cs => ofCode (digits? 16 cs)
  | '#' :: cs => ofCode (digits? 10 cs)
  | cs => ofName cs
where
  /-- The character of a code point, where a reference may stand for it. -/
  ofCode (code : Option Nat) : Option Char :=
    (code.filter isReferable).map Char.ofNat

/-- The part of a text before the first `;`, unless an `&` comes earlier or no `;` at all. -/
def body? : List Char → Option (List Char)
  | [] => none
  | c :: cs => if c = ';' then some [] else if c = '&' then none else (body? cs).map (c :: ·)

/-- A reference at the start of a text, as the character it stands for. -/
def reference? : Text.Reader Char
  | '&' :: cs => do
    let body ← body? cs
    let c ← ofBody body
    some (c, cs.drop (body.length + 1))
  | _ => none

/-- The text with each reference replaced by its character. -/
def decode (cs : List Char) : List Char :=
  Text.replaceFound reference? (fun c _ => [c]) cs

/-- A string with each reference replaced by its character. -/
def decoded (s : String) : String :=
  String.ofList (decode s.toList)

end Entity

end PageMarkup
