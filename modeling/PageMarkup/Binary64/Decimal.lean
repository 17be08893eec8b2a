import PageMarkup.Binary64
import PageMarkup.Text.Basic

/-!
# Decimal notation of numbers

Reading rounds a decimal to the nearest number.  Writing takes the fewest digits that read back as
the same number, and of those decimals the nearest to it; where the digits go is decided by a
`Layout` record, one for each format that prints numbers.
-/

namespace PageMarkup

namespace Binary64

/-! ### Reading -/

/-- The value of a run of ASCII digits. -/
def digitsValue (cs : List Char) : Nat :=
  cs.foldl (fun value c => value * 10 + (c.toNat - '0'.toNat)) 0

/-- The magnitude nearest to `digits · 10 ^ exponent`.  Exponents that leave no doubt about the
outcome are settled without computing the power. -/
def ofDecimal (digits : Nat) (exponent : Int) : Nat :=
  if digits = 0 then 0
  else if 400 < exponent then infinite
  else if exponent + (Nat.log2 digits : Int) < -1500 then 0
  else if 0 ≤ exponent then nearest (digits * 10 ^ exponent.toNat) 1
  else nearest digits (10 ^ (-exponent).toNat)

/-- The sign in front of a number, if one is written, and the rest. -/
def readSign : List Char → Bool × List Char
  | '-' :: cs => (true, cs)
  | '+' :: cs => (false, cs)
  | cs => (false, cs)

/-- The value of an exponent: a sign, which may be missing, and at least one digit. -/
def readExponent? (cs : List Char) : Option Int :=
  let (negative, digits) := readSign cs
  if digits.isEmpty || !digits.all Text.isAsciiDigit then none
  else some (if negative then -(digitsValue digits : Int) else digitsValue digits)

/-- The exponent written at the end of a number: none, or `e` and an exponent. -/
def readTail? : List Char → Option Int
  | [] => some 0
  | c :: cs => if c = 'e' || c = 'E' then readExponent? cs else none

/-- The magnitude written by digits, which may hold a point and be followed by an exponent. -/
def readMagnitude? (cs : List Char) : Option Nat :=
  let (whole, rest) := Text.spanWhile Text.isAsciiDigit cs
  let (fraction, tail) :=
    match rest with
    | '.' :: rest => Text.spanWhile Text.isAsciiDigit rest
    | rest => ([], rest)
  if whole.isEmpty && fraction.isEmpty then none
  else
    (readTail? tail).map fun exponent =>
      ofDecimal (digitsValue (whole ++ fraction)) (exponent - fraction.length)

/-- The number that a text spells: an optional sign, then digits with an optional point and an
optional exponent, or the word for infinity or for an undefined number in any case. -/
def read? (cs : List Char) : Option Binary64 :=
  let (negative, rest) := readSign cs
  let word := Text.lower rest
  if word = "inf".toList || word = "infinity".toList then some ⟨negative, infinite⟩
  else if word = "nan".toList then some ⟨negative, infinite + fractions / 2⟩
  else (readMagnitude? rest).map fun magnitude => ⟨negative, magnitude⟩

/-! ### The shortest decimal -/

/-- The number of decimal digits of `n`; zero has one. -/
def digitCount (n : Nat) : Nat :=
  (Nat.toDigits 10 n).length

/-- The exponent of the power of ten at or just below a positive quotient. -/
def decimalExponent (numerator denominator : Nat) : Int :=
  if denominator ≤ numerator then digitCount (numerator / denominator) - 1
  else
    let places := digitCount (denominator / numerator) - 1
    if denominator ≤ numerator * 10 ^ places then -(places : Int) else -(places + 1 : Int)

/-- Of the two multiples of `10 ^ exponent` around a quotient, the nearer one that satisfies `ok`,
as its multiplier; of two equally near ones the even one. -/
def nearestMultiple? (ok : Nat → Bool) (numerator denominator : Nat) (exponent : Int) :
    Option Nat :=
  let scaled := numerator * 10 ^ (-exponent).toNat
  let step := denominator * 10 ^ exponent.toNat
  let below := scaled / step
  let first := roundQuotient scaled step
  let second := if first = below then below + 1 else below
  if ok first then some first else if ok second then some second else none

/-- The first of the digit counts `count, count + 1, …` on whose grid a multiple satisfies `ok`,
with that grid's exponent; `left` bounds the search. -/
def firstMultiple? (ok : Nat → Int → Bool) (numerator denominator : Nat) (exponent : Int) :
    (left : Nat) → Option (Nat × Int)
  | 0 => none
  | left + 1 =>
    match nearestMultiple? (ok · exponent) numerator denominator exponent with
    | some multiple => some (multiple, exponent)
    | none => firstMultiple? ok numerator denominator (exponent - 1) left

/-- The decimal `digits · 10 ^ exponent` with the fewest digits that reads back as the magnitude.
Seventeen digits always do; the last alternative, all digits of the magnitude, is there so that
the result reads back by construction. -/
def shortest (magnitude : Nat) : Nat × Int :=
  let value := units magnitude
  let top := decimalExponent value unitsPerOne
  let ok := fun digits exponent => ofDecimal digits exponent == magnitude
  (firstMultiple? ok value unitsPerOne top 17).getD (value * 5 ^ 1074, -1074)

/-! ### Layouts -/

/-- Where the digits of a number go. -/
structure Layout where
  /-- The least decimal exponent written without an exponent part, if exponents are used. -/
  leastPlain : Int
  /-- The greatest decimal exponent written without an exponent part. -/
  greatestPlain : Int
  /-- A whole number in plain notation ends in `.0`. -/
  wholeFraction : Bool
  /-- A positive exponent is written with its sign. -/
  plusSign : Bool

/-- A digit string with a point after `count` digits, where that is inside it. -/
def pointAfter (count : Nat) (digits : List Char) : List Char :=
  if digits.length ≤ count then digits else digits.take count ++ ['.'] ++ digits.drop count

/-- Plain notation of a digit string whose first digit stands for `10 ^ top`. -/
def plain (wholeFraction : Bool) (digits : List Char) (top : Int) : List Char :=
  if top < 0 then ['0', '.'] ++ List.replicate ((-top).toNat - 1) '0' ++ digits
  else
    let count := top.toNat + 1
    if digits.length ≤ count then
      digits ++ List.replicate (count - digits.length) '0'
        ++ (if wholeFraction then ['.', '0'] else [])
    else pointAfter count digits

/-- Exponent notation of a digit string whose first digit stands for `10 ^ top`. -/
def scientific (plusSign : Bool) (digits : List Char) (top : Int) : List Char :=
  let sign := if top < 0 then ['-'] else if plusSign then ['+'] else []
  pointAfter 1 digits ++ ['e'] ++ sign ++ Nat.toDigits 10 top.natAbs

/-- The text of a magnitude. -/
def Layout.magnitude (layout : Layout) (magnitude : Nat) : List Char :=
  if magnitude = 0 then plain layout.wholeFraction ['0'] 0
  else if infinite < magnitude then "NaN".toList
  else if magnitude = infinite then "inf".toList
  else
    let (multiple, exponent) := shortest magnitude
    let written := Nat.toDigits 10 multiple
    let top := exponent + written.length - 1
    let digits := Text.dropEndWhile (· == '0') written
    if layout.leastPlain ≤ top && top ≤ layout.greatestPlain then
      plain layout.wholeFraction digits top
    else scientific layout.plusSign digits top

/-- The text of a number: a minus sign where it is negative, and its magnitude. -/
def Layout.text (layout : Layout) (x : Binary64) : List Char :=
  (if x.negative && !x.isNaN then ['-'] else []) ++ layout.magnitude x.magnitude

end Binary64

end PageMarkup
