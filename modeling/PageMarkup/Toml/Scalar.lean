import PageMarkup.Binary64.Decimal
import PageMarkup.Text.Scan
import PageMarkup.Toml

/-!
# TOML values without quotes

Truth values, integers, floating-point numbers, dates and times.  What is written between two
delimiters is a value only as a whole.
-/

namespace PageMarkup

namespace Toml

open Text

/-! ### Digits -/

/-- A digit in base two, eight, ten or sixteen. -/
def isDigitOf (base : Nat) (c : Char) : Bool :=
  let value := if isAsciiDigit c then c.toNat - '0'.toNat
    else if 'a' ≤ c.toLower && c.toLower ≤ 'f' then c.toLower.toNat - 'a'.toNat + 10
    else 16
  value < base

/-- Digits without the underscores between them; at least one digit stands on either side of each. -/
def digits? (base : Nat) (cs : List Char) : Option (List Char) :=
  let groups := splitWhere (· == '_') cs
  if groups.all fun group => !group.isEmpty && group.all (isDigitOf base) then some groups.flatten
  else none

/-- Decimal digits of which the first is not zero, unless it is the only one. -/
def wholeDigits? (cs : List Char) : Option (List Char) :=
  if cs.head? = some '0' && 1 < cs.length then none else digits? 10 cs

/-- The value of digits. -/
def valueOf (base : Nat) (digits : List Char) : Nat :=
  digits.foldl (fun value c =>
    let c := c.toLower
    value * base + if isAsciiDigit c then c.toNat - '0'.toNat else c.toNat - 'a'.toNat + 10) 0

/-! ### Numbers -/

/-- The value for an integer, which is in reach of 128 bits with or without a sign. -/
def ofInteger (n : Int) : Toml :=
  if -(2 ^ 127) ≤ n ∧ n < 2 ^ 128 then integer n else beyond

/-- The value for a magnitude with a sign; no decimal is infinite. -/
def ofMagnitude (negative : Bool) (magnitude : Nat) : Toml :=
  if magnitude < Binary64.infinite then float ⟨negative, magnitude⟩ else beyond

/-- An integer: decimal with an optional sign, or without one in base sixteen, eight or two. -/
def integer? (cs : List Char) : Option Toml := do
  let value ← match cs with
    | '0' :: 'x' :: cs => (digits? 16 cs).map (valueOf 16 · : List Char → Int)
    | '0' :: 'o' :: cs => (digits? 8 cs).map (valueOf 8 · : List Char → Int)
    | '0' :: 'b' :: cs => (digits? 2 cs).map (valueOf 2 · : List Char → Int)
    | cs => do
      let (negative, cs) := Binary64.readSign cs
      let value : Int := valueOf 10 (← wholeDigits? cs)
      some (if negative then -value else value)
  some (ofInteger value)

/-- The digits after a point, if there is one. -/
def fraction? : List Char → Option (List Char)
  | [] => some []
  | '.' :: cs => digits? 10 cs
  | _ => none

/-- The exponent at the end of a number, if there is one. -/
def exponent? : List Char → Option Int
  | [] => some 0
  | _ :: cs => do
    let (negative, cs) := Binary64.readSign cs
    let value : Int := valueOf 10 (← digits? 10 cs)
    some (if negative then -value else value)

/-- A floating-point number: whole digits with a fraction, an exponent or both, or one of the words
for infinity and for an undefined number. -/
def float? (cs : List Char) : Option Toml := do
  let (negative, body) := Binary64.readSign cs
  if body = "inf".toList || body = "nan".toList then (Binary64.read? cs).map float
  else
    let (mantissa, tail) := spanWhile (fun c => c != 'e' && c != 'E') body
    let (whole, rest) := spanWhile (· != '.') mantissa
    if tail.isEmpty && rest.isEmpty then none
    let whole ← wholeDigits? whole
    let fraction ← fraction? rest
    some <| ofMagnitude negative <| Binary64.ofDecimal (valueOf 10 (whole ++ fraction))
      ((← exponent? tail) - fraction.length)

/-! ### Dates and times -/

/-- A number of `count` decimal digits that is at most `most`. -/
def readNumber (count most : Nat) : Reader Nat := fun cs =>
  let digits := cs.take count
  let value := valueOf 10 digits
  if digits.length = count && digits.all isAsciiDigit && value ≤ most then
    some (value, cs.drop count)
  else none

/-- The number of days of a month. -/
def daysOf (year month : Nat) : Nat :=
  if month = 2 then
    if year % 4 = 0 && (year % 100 != 0 || year % 400 = 0) then 29 else 28
  else if month = 4 || month = 6 || month = 9 || month = 11 then 30
  else 31

/-- A character with a number of two digits after it. -/
def readPart (mark : Char) (most : Nat) : Reader Nat
  | [] => none
  | c :: cs => if c = mark then readNumber 2 most cs else none

/-- What follows a date. -/
def afterDate? (cs : List Char) : Option (List Char) := do
  let (year, cs) ← readNumber 4 9999 cs
  let (month, cs) ← readPart '-' 12 cs
  let (day, cs) ← readPart '-' (daysOf year month) cs
  if month = 0 || day = 0 then none else some cs

/-- What follows a time of day, of which the seconds and their fraction may be missing. -/
def afterTime? (cs : List Char) : Option (List Char) := do
  let (_, cs) ← readNumber 2 23 cs
  let (_, cs) ← readPart ':' 59 cs
  match readPart ':' 60 cs with
  | none => some cs
  | some (_, '.' :: cs) =>
    let (digits, rest) := spanWhile isAsciiDigit cs
    if digits.isEmpty then none else some rest
  | some (_, cs) => some cs

/-- The text is a difference to universal time, or empty. -/
def isZone : List Char → Bool
  | [] => true
  | ['z'] | ['Z'] => true
  | c :: cs =>
    (c == '+' || c == '-') && match readNumber 2 23 cs with
      | none => false
      | some (_, cs) => (readPart ':' 59 cs).any fun (_, rest) => rest.isEmpty

/-- The text is a date, a time of day, or a date and a time, which may have a zone. -/
def isMoment (cs : List Char) : Bool :=
  match afterDate? cs with
  | none => afterTime? cs = some []
  | some [] => true
  | some (delimiter :: cs) =>
    (delimiter == 'T' || delimiter == 't' || delimiter == ' ') && (afterTime? cs).any isZone

/-! ### Values -/

/-- A value that is written without quotes. -/
def scalar? (cs : List Char) : Option Toml :=
  if cs = "true".toList then some (bool true)
  else if cs = "false".toList then some (bool false)
  else if isMoment cs then some (moment cs)
  else (integer? cs).or (float? cs)

end Toml

end PageMarkup
