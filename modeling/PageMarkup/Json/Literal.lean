import PageMarkup.Binary64.Decimal
import PageMarkup.Json

/-!
# Numbers as they are written in JSON

A literal keeps its digits.  Its value is an integer where it has neither fraction nor exponent and
fits 64 bits.  Otherwise the digits that fit 64 bits are taken as a whole number, and that number is
scaled by a power of ten in floating point arithmetic; a literal beyond the finite range has no
value.
-/

namespace PageMarkup

namespace Json

/-- The parts of a number: whole digits, digits after the point, and the exponent. -/
structure Literal where
  negative : Bool
  whole : List Char
  fraction : Option (List Char)
  exponent : Option Int
  deriving DecidableEq, Repr, Inhabited

namespace Literal

/-- The greatest whole number that the digits of a literal are collected in. -/
def greatest : Nat := 2 ^ 64 - 1

/-- One more digit, where the result still fits. -/
def push? (significand : Nat) (digit : Char) : Option Nat :=
  let next := significand * 10 + (digit.toNat - '0'.toNat)
  if next ≤ greatest then some next else none

/-- Collect whole digits while they fit; the others are counted. -/
def collectWhole (significand : Nat) : List Char → Nat × Nat
  | [] => (significand, 0)
  | digit :: digits =>
    match push? significand digit with
    | some next => collectWhole next digits
    | none => (significand, (digit :: digits).length)

/-- Collect digits after the point while they fit, counting those that were taken. -/
def collectFraction (significand taken : Nat) : List Char → Nat × Nat
  | [] => (significand, taken)
  | digit :: digits =>
    match push? significand digit with
    | some next => collectFraction next (taken + 1) digits
    | none => (significand, taken)

/-- Divide a magnitude by a power of ten, in steps of at most 308. -/
def scaleDown (magnitude power : Nat) : Nat :=
  if power ≤ 308 then Binary64.divMagnitude magnitude (Binary64.nearest (10 ^ power) 1)
  else if magnitude = 0 then 0
  else
    scaleDown (Binary64.divMagnitude magnitude (Binary64.nearest (10 ^ 308) 1)) (power - 308)
termination_by power

/-- A whole number times a power of ten, in floating point arithmetic; only finite results
count. -/
def scaled? (significand : Nat) (power : Int) : Option Nat :=
  let magnitude := Binary64.nearest significand 1
  if magnitude = 0 then some 0
  else if power < 0 then some (scaleDown magnitude power.natAbs)
  else if 308 < power then none
  else
    let product := Binary64.mulMagnitude magnitude (Binary64.nearest (10 ^ power.toNat) 1)
    if product < Binary64.infinite then some product else none

/-- The floating point value of a literal. -/
def float? (l : Literal) : Option Json :=
  let (wholePart, dropped) := collectWhole 0 l.whole
  let (significand, taken) := collectFraction wholePart 0 (l.fraction.getD [])
  (scaled? significand ((dropped : Int) - taken + l.exponent.getD 0)).map fun magnitude =>
    .float ⟨l.negative, magnitude⟩

/-- The value of a literal. -/
def value? (l : Literal) : Option Json :=
  let (significand, dropped) := collectWhole 0 l.whole
  if l.fraction.isSome || l.exponent.isSome || dropped != 0 then l.float?
  else if !l.negative then some (.int significand)
  else if significand = 0 || 2 ^ 63 < significand then l.float?
  else some (.int (-significand))

end Literal

end Json

end PageMarkup
