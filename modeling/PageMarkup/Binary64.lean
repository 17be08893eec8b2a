/-!
# Binary floating point numbers of 64 bits

A number is its sign and its magnitude, the lower 63 bits of its encoding.  Magnitudes are ordered
as the numbers they stand for, and every finite one is a whole number of *units* of 2⁻¹⁰⁷⁴, so
rounding, products and quotients are computed exactly on natural numbers and rounded once.
-/

namespace PageMarkup

-- A power of numbers is the built-in one, also where a monoid's power is in scope.
attribute [instance (high), default_instance high + 1] instPowNat

/-- A number by its sign and the lower 63 bits of its encoding. -/
structure Binary64 where
  negative : Bool
  magnitude : Nat
  deriving DecidableEq, Repr, Inhabited

namespace Binary64

/-! ### Magnitudes -/

/-- The number of fraction values, 2⁵². -/
def fractions : Nat := 2 ^ 52

/-- The magnitude of infinity; what lies above is not a number. -/
def infinite : Nat := 0x7FF * fractions

/-- The number of units in one. -/
def unitsPerOne : Nat := 2 ^ 1074

/-- A finite magnitude as a number of units. -/
def units (magnitude : Nat) : Nat :=
  let exponent := magnitude / fractions
  if exponent = 0 then magnitude
  else (fractions + magnitude % fractions) * 2 ^ (exponent - 1)

/-- A quotient rounded to the nearest whole number, a half to the even one. -/
def roundQuotient (numerator denominator : Nat) : Nat :=
  let quotient := numerator / denominator
  let rest := numerator % denominator
  if 2 * rest < denominator then quotient
  else if denominator < 2 * rest then quotient + 1
  else quotient + quotient % 2

/-- The magnitude nearest to a quotient of units, a half to the even one; infinity when no finite
magnitude is near enough. -/
def nearestUnits (numerator denominator : Nat) : Nat :=
  let whole := numerator / denominator
  let shift := Nat.log2 whole - 52
  min (roundQuotient numerator (denominator * 2 ^ shift) + shift * fractions) infinite

/-- The magnitude nearest to a quotient. -/
def nearest (numerator denominator : Nat) : Nat :=
  nearestUnits (numerator * unitsPerOne) denominator

/-! ### Numbers -/

/-- The number is neither infinite nor undefined. -/
def isFinite (x : Binary64) : Bool :=
  x.magnitude < infinite

/-- The number is undefined. -/
def isNaN (x : Binary64) : Bool :=
  infinite < x.magnitude

/-- Zero of either sign. -/
def isZero (x : Binary64) : Bool :=
  x.magnitude == 0

/-- The 64 bits of the number. -/
def bits (x : Binary64) : Nat :=
  (if x.negative then 2 ^ 63 else 0) + x.magnitude

/-- The nearest number to a natural number. -/
def ofNat (n : Nat) : Binary64 :=
  ⟨false, nearest n 1⟩

/-- The nearest number to an integer. -/
def ofInt (n : Int) : Binary64 :=
  ⟨n < 0, nearest n.natAbs 1⟩

/-- A finite number without a fractional part. -/
def isWhole (x : Binary64) : Bool :=
  x.isFinite && units x.magnitude % unitsPerOne == 0

/-- The whole part of a finite magnitude. -/
def wholePart (x : Binary64) : Nat :=
  units x.magnitude / unitsPerOne

/-- The number is one or greater, which holds of infinity. -/
def isAtLeastOne (x : Binary64) : Bool :=
  !x.negative && !x.isNaN && 0x3FF * fractions ≤ x.magnitude

/-- The product of two finite magnitudes, rounded. -/
def mulMagnitude (x y : Nat) : Nat :=
  nearestUnits (units x * units y) unitsPerOne

/-- The quotient of two finite magnitudes, rounded; the divisor is not zero. -/
def divMagnitude (x y : Nat) : Nat :=
  nearest (units x) (units y)

end Binary64

end PageMarkup
