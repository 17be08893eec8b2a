/-!
# Bytes as text in base 64

Three bytes are written as four characters of an alphabet of 64; one or two bytes at the end are
written as two or three characters, filled up with equals signs.
-/

namespace PageMarkup

namespace Text

namespace Base64

/-- The 64 characters, by their value. -/
def alphabet : List Char :=
  "ABCDEFGHIJKLMNOPQRSTUVWXYZabcdefghijklmnopqrstuvwxyz0123456789+/".toList

/-- The character for the low six bits of a number. -/
def digit (n : Nat) : Char :=
  alphabet.getD (n % 64) '='

/-- The text of some bytes. -/
def ofBytes : List UInt8 → List Char
  | a :: b :: c :: rest =>
    let n := (a.toNat * 256 + b.toNat) * 256 + c.toNat
    digit (n / (64 * 64 * 64)) :: digit (n / (64 * 64)) :: digit (n / 64) :: digit n :: ofBytes rest
  | [a, b] =>
    let n := (a.toNat * 256 + b.toNat) * 4
    [digit (n / (64 * 64)), digit (n / 64), digit n, '=']
  | [a] =>
    let n := a.toNat * 16
    [digit (n / 64), digit n, '=', '=']
  | [] => []

end Base64

/-- The bytes of a text in UTF-8, in base 64. -/
def base64 (s : String) : String :=
  String.ofList (Base64.ofBytes s.toUTF8.toList)

end Text

end PageMarkup
