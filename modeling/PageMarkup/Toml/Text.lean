import PageMarkup.Text.Basic
import PageMarkup.Text.Quoted
import PageMarkup.Text.Scan

/-!
# TOML strings

A string stands between quotes or between apostrophes, one of them or three.  Between quotes a
backslash begins an escape; between apostrophes every character stands for itself.  Only strings
between three marks may go over several lines, and a line end right after the opening marks is not
part of them.
-/

namespace PageMarkup

namespace Toml

open Text

/-! ### Reading -/

/-- A character that stands for itself: everything but controls, and the tab. -/
def isPlain (c : Char) : Bool :=
  c = '\t' || (0x20 ≤ c.toNat && c.toNat ≠ 0x7F)

/-- What follows a line end. -/
def afterLineEnd? : List Char → Option (List Char)
  | '\n' :: cs => some cs
  | '\r' :: '\n' :: cs => some cs
  | _ => none

/-- The value of a digit in base sixteen. -/
def hexDigit? (c : Char) : Option Nat :=
  if '0' ≤ c && c ≤ '9' then some (c.toNat - '0'.toNat)
  else if 'a' ≤ c && c ≤ 'f' then some (c.toNat - 'a'.toNat + 10)
  else if 'A' ≤ c && c ≤ 'F' then some (c.toNat - 'A'.toNat + 10)
  else none

/-- The value of some digits in base sixteen. -/
def hexValue? (digits : List Char) : Option Nat :=
  digits.foldlM (fun value c => (hexDigit? c).map (value * 16 + ·)) 0

/-- The character whose code point is given by `count` digits in base sixteen. -/
def readCodePoint (count : Nat) : Reader (List Char) := fun cs => do
  let digits := cs.take count
  let code ← hexValue? digits
  if digits.length = count ∧ code.isValidChar then some ([Char.ofNat code], cs.drop count) else none

/-- The character for which an escape stands, without its backslash. -/
def readEscape : Reader (List Char)
  | 'b' :: cs => some (['\x08'], cs)
  | 't' :: cs => some (['\t'], cs)
  | 'n' :: cs => some (['\n'], cs)
  | 'f' :: cs => some (['\x0c'], cs)
  | 'r' :: cs => some (['\r'], cs)
  | 'e' :: cs => some (['\x1b'], cs)
  | '"' :: cs => some (['"'], cs)
  | '\\' :: cs => some (['\\'], cs)
  | 'x' :: cs => readCodePoint 2 cs
  | 'u' :: cs => readCodePoint 4 cs
  | 'U' :: cs => readCodePoint 8 cs
  | _ => none

/-- A part of a string between quotes. -/
def readBasicPart : Reader (List Char)
  | '\\' :: cs => readEscape cs
  | '"' :: _ => none
  | c :: cs => if isPlain c then some ([c], cs) else none
  | [] => none

/-- A part of a string between apostrophes. -/
def readLiteralPart : Reader (List Char)
  | c :: cs => if c ≠ '\x27' && isPlain c then some ([c], cs) else none
  | [] => none

/-- Marks that are too few to end a string between three of them. -/
def readFewMarks (mark : Char) : Reader (List Char) := fun cs =>
  let (marks, rest) := spanWhile (· == mark) cs
  if marks.isEmpty || 3 ≤ marks.length then none else some (marks, rest)

/-- A line end within a string, which is kept as it is. -/
def readLineEnd : Reader (List Char)
  | '\n' :: cs => some (['\n'], cs)
  | '\r' :: '\n' :: cs => some (['\r', '\n'], cs)
  | _ => none

/-- The blanks and line ends after a backslash at the end of a line; they stand for nothing. -/
def readJoint : Reader (List Char)
  | '\\' :: cs => do
    let rest ← afterLineEnd? (cs.dropWhile fun c => c = ' ' || c = '\t')
    some ([], (readMany readGap rest).2)
  | _ => none
where
  readGap : Reader Unit
    | ' ' :: cs => some ((), cs)
    | '\t' :: cs => some ((), cs)
    | cs => (afterLineEnd? cs).map fun rest => ((), rest)

/-- A part of a string between three quotes. -/
def readLongBasicPart : Reader (List Char) := fun cs =>
  (readFewMarks '"' cs).or <| (readLineEnd cs).or <| (readJoint cs).or (readBasicPart cs)

/-- A part of a string between three apostrophes. -/
def readLongLiteralPart : Reader (List Char) := fun cs =>
  (readFewMarks '\x27' cs).or <| (readLineEnd cs).or (readLiteralPart cs)

/-- A string after its opening mark. -/
def readShort (mark : Char) (part : Reader (List Char)) : Reader String := fun cs =>
  let (parts, rest) := readMany part cs
  match rest with
  | [] => none
  | c :: rest => if c = mark then some (String.ofList parts.flatten, rest) else none

/-- A string after its three opening marks.  Up to two marks right before the closing ones belong to
the string. -/
def readLong (mark : Char) (part : Reader (List Char)) : Reader String := fun cs =>
  let (parts, rest) := readMany part ((afterLineEnd? cs).getD cs)
  let count := min 5 (rest.takeWhile (· == mark)).length
  if count < 3 then none
  else some (String.ofList (parts.flatten ++ List.replicate (count - 3) mark), rest.drop count)

/-- A string on one line. -/
def readLine : Reader String
  | '"' :: cs => readShort '"' readBasicPart cs
  | '\x27' :: cs => readShort '\x27' readLiteralPart cs
  | _ => none

/-- A string. -/
def readText : Reader String
  | '"' :: '"' :: '"' :: cs => readLong '"' readLongBasicPart cs
  | '\x27' :: '\x27' :: '\x27' :: cs => readLong '\x27' readLongLiteralPart cs
  | cs => readLine cs

/-! ### Writing -/

/-- The length of the longest run of a character. -/
def longestRun (c : Char) (cs : List Char) : Nat :=
  (cs.foldl (fun (here, longest) d =>
    let here := if d = c then here + 1 else 0
    (here, max longest here)) (0, 0)).2

/-- The forms of a string. -/
inductive Form where
  /-- Between quotes. -/
  | basic
  /-- Between apostrophes. -/
  | literal
  /-- Between three quotes. -/
  | longBasic
  /-- Between three apostrophes. -/
  | longLiteral
  deriving DecidableEq, Repr, Inhabited

/-- The form in which a text is written.  Between quotes if it can stand there as it is, or else
between apostrophes, three quotes or three apostrophes; with escapes only where nothing else is
possible. -/
def Form.of (cs : List Char) : Form :=
  let quotes := longestRun '"' cs
  let apostrophes := longestRun '\x27' cs
  let lines := cs.contains '\n'
  let controls := cs.any fun c => c ≠ '\n' && !isPlain c
  let backslash := cs.contains '\\'
  if controls then if lines then .longBasic else .basic
  else if !backslash && quotes = 0 && !lines then .basic
  else if apostrophes = 0 && !lines then .literal
  else if !backslash && quotes ≤ 2 then .longBasic
  else if apostrophes ≤ 2 then .longLiteral
  else if lines then .longBasic
  else .basic

/-- How a character other than a quote is written between quotes. -/
def escaped (long : Bool) (c : Char) : List Char :=
  if c = '\\' then ['\\', '\\']
  else if c = '\t' then ['\\', 't']
  else if c = '\n' then if long then ['\n'] else ['\\', 'n']
  else if c = '\r' then ['\\', 'r']
  else if c.toNat = 8 then ['\\', 'b']
  else if c.toNat = 12 then ['\\', 'f']
  else if isPlain c then [c]
  else
    let digits := (hex c.toNat).map Char.toUpper
    ['\\', 'u'] ++ List.replicate (4 - digits.length) '0' ++ digits

/-- A text as it is written between quotes, of which up to two in a row stand as they are between
three quotes; `seen` of them came before. -/
def escapedFrom (long : Bool) : (seen : Nat) → List Char → List Char
  | _, [] => []
  | seen, '"' :: cs =>
    if long && seen < 2 then '"' :: escapedFrom long (seen + 1) cs
    else '\\' :: '"' :: escapedFrom long 0 cs
  | _, c :: cs => escaped long c ++ escapedFrom long 0 cs

/-- A text between marks. -/
def quotedAs : Form → List Char → List Char
  | .basic, cs => ['"'] ++ escapedFrom false 0 cs ++ ['"']
  | .literal, cs => ['\x27'] ++ cs ++ ['\x27']
  | .longBasic, cs => opening '"' cs ++ escapedFrom true 0 cs ++ List.replicate 3 '"'
  | .longLiteral, cs => opening '\x27' cs ++ cs ++ List.replicate 3 '\x27'
where
  /-- Three marks, and a line end where the text has one. -/
  opening (mark : Char) (cs : List Char) : List Char :=
    List.replicate 3 mark ++ if cs.contains '\n' then ['\n'] else []

/-- A text as a string. -/
def string (s : String) : List Char :=
  quotedAs (Form.of s.toList) s.toList

end Toml

end PageMarkup
