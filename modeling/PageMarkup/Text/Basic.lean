/-!
# Characters and runs of text

Text is scanned as a list of characters.  This module holds what every scanner shares: which
characters are blank, trimming and splitting, the size of a text in UTF-8 bytes, and the two
ways in which letters are compared without regard to case.
-/

namespace PageMarkup

namespace Text

/-! ### Blank characters -/

/-- The characters with the Unicode property `White_Space`. -/
def isBlank (c : Char) : Bool :=
  let n := c.toNat
  (9 ≤ n && n ≤ 13) || n == 0x20 || n == 0x85 || n == 0xA0 || n == 0x1680
    || (0x2000 ≤ n && n ≤ 0x200A) || n == 0x2028 || n == 0x2029 || n == 0x202F || n == 0x205F
    || n == 0x3000

/-- The text without the blank characters at its start. -/
def trimStart (cs : List Char) : List Char :=
  cs.dropWhile isBlank

/-- The text without the characters at its end that satisfy `p`. -/
def dropEndWhile (p : Char → Bool) (cs : List Char) : List Char :=
  (cs.reverse.dropWhile p).reverse

/-- The text without the blank characters at its end. -/
def trimEnd (cs : List Char) : List Char :=
  dropEndWhile isBlank cs

/-- The text without the blank characters at either end. -/
def trim (cs : List Char) : List Char :=
  trimEnd (trimStart cs)

/-- A string without the blank characters at either end. -/
def trimmed (s : String) : String :=
  String.ofList (trim s.toList)

/-- Every character of the text is blank. -/
def allBlank (cs : List Char) : Bool :=
  cs.all isBlank

/-! ### Splitting and joining -/

/-- Cut a text at each character that satisfies `p`; such characters belong to no piece. -/
def splitWhere (p : Char → Bool) : List Char → List (List Char)
  | [] => [[]]
  | c :: cs =>
    if p c then [] :: splitWhere p cs
    else
      match splitWhere p cs with
      | [] => [[c]]
      | piece :: pieces => (c :: piece) :: pieces

/-- The maximal runs of characters that are not blank. -/
def words (cs : List Char) : List (List Char) :=
  (splitWhere isBlank cs).filter fun word => !word.isEmpty

/-- Pieces with a separator between neighbours. -/
def joinWith (separator : List Char) : List (List Char) → List Char
  | [] => []
  | [piece] => piece
  | piece :: pieces => piece ++ separator ++ joinWith separator pieces

/-- The words of a text with one space between neighbours. -/
def unspaced (cs : List Char) : List Char :=
  joinWith [' '] (words cs)

/-! ### Looking for a text inside another -/

/-- What follows `front` in `cs`, when `cs` begins with it. -/
def after? : (front cs : List Char) → Option (List Char)
  | [], cs => some cs
  | _ :: _, [] => none
  | f :: front, c :: cs => if f = c then after? front cs else none

/-- The part before the first place where `read` recognizes something, and what follows what it
recognizes there. -/
def splitFirst? (read : List Char → Option (List Char)) :
    List Char → Option (List Char × List Char)
  | [] => (read []).map fun rest => ([], rest)
  | c :: cs =>
    match read (c :: cs) with
    | some rest => some ([], rest)
    | none => (splitFirst? read cs).map fun (before, rest) => (c :: before, rest)

/-- The part before the first occurrence of `mark` and the part after it. -/
def splitAt? (mark cs : List Char) : Option (List Char × List Char) :=
  splitFirst? (after? mark) cs

/-- The text `part` occurs somewhere in `cs`. -/
def contains (part cs : List Char) : Bool :=
  (splitAt? part cs).isSome

/-- The text without the copies of `mark` at its start. -/
def dropMarks (mark cs : List Char) : List Char :=
  Nat.repeat (fun rest => (after? mark rest).getD rest) cs.length cs

/-- The text without the copies of `mark` at its end. -/
def dropEndMarks (mark cs : List Char) : List Char :=
  (dropMarks mark.reverse cs.reverse).reverse

/-- The text with every occurrence of a non-empty `part`, found from the left, replaced by
`replacement`; `skip` counts the characters of a replaced occurrence that are still to pass. -/
def replaceFrom (part replacement : List Char) : (skip : Nat) → List Char → List Char
  | _, [] => []
  | skip + 1, _ :: cs => replaceFrom part replacement skip cs
  | 0, c :: cs =>
    match after? part (c :: cs) with
    | some _ => replacement ++ replaceFrom part replacement (part.length - 1) cs
    | none => c :: replaceFrom part replacement 0 cs

/-- The text with every occurrence of a non-empty `part` replaced, found from the left. -/
def replaceAll (part replacement cs : List Char) : List Char :=
  replaceFrom part replacement 0 cs

/-! ### Size -/

/-- The number of bytes of the text in UTF-8. -/
def size : List Char → Nat
  | [] => 0
  | c :: cs => c.utf8Size + size cs

@[simp] theorem size_nil : size [] = 0 := rfl

@[simp] theorem size_cons (c : Char) (cs : List Char) : size (c :: cs) = c.utf8Size + size cs :=
  rfl

@[simp] theorem size_append (cs ds : List Char) : size (cs ++ ds) = size cs + size ds := by
  induction cs with
  | nil => rw [List.nil_append, size_nil, Nat.zero_add]
  | cons c cs ih => rw [List.cons_append, size_cons, size_cons, ih, Nat.add_assoc]

/-! ### Letters without regard to case -/

/-- The small letter of an ASCII capital; every other character is kept. -/
def lower (cs : List Char) : List Char :=
  cs.map Char.toLower

/-- A string with its ASCII capitals made small. -/
def lowered (s : String) : String :=
  String.ofList (lower s.toList)

/-- Simple case folding as far as it reaches ASCII letters: besides the capitals, the long s and
the Kelvin sign fold to `s` and `k`. -/
def fold (c : Char) : Char :=
  if c.toNat = 0x17F then 's' else if c.toNat = 0x212A then 'k' else c.toLower

/-- A character that folds to an ASCII letter. -/
def isLetter (c : Char) : Bool :=
  let f := fold c
  'a' ≤ f && f ≤ 'z'

/-- An ASCII digit. -/
def isAsciiDigit (c : Char) : Bool :=
  '0' ≤ c && c ≤ '9'

/-- What follows `front` in `cs`, when `cs` begins with it up to case; `front` is written in small
letters. -/
def afterFolded? : (front cs : List Char) → Option (List Char)
  | [], cs => some cs
  | _ :: _, [] => none
  | f :: front, c :: cs => if f = fold c then afterFolded? front cs else none

/-- The longest part from the start whose characters satisfy `p`, and the rest. -/
def spanWhile (p : Char → Bool) (cs : List Char) : List Char × List Char :=
  (cs.takeWhile p, cs.dropWhile p)

@[simp] theorem spanWhile_append (p : Char → Bool) (cs : List Char) :
    (spanWhile p cs).1 ++ (spanWhile p cs).2 = cs := by
  simp [spanWhile]

end Text

end PageMarkup
