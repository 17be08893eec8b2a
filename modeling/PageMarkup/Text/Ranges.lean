/-!
# Ranges of code points

A character class of the Unicode standard is stored as the increasing list of its maximal ranges.
-/

namespace PageMarkup

namespace Text

/-- The first and the last code point of each range of a character class. -/
abbrev Ranges := List (Nat × Nat)

/-- The code point of `c` lies in one of the ranges. -/
def Ranges.has (ranges : Ranges) (c : Char) : Bool :=
  ranges.any fun (low, high) => low ≤ c.toNat && c.toNat ≤ high

end Text

end PageMarkup
