import PageMarkup.Text.Quoted
import PageMarkup.Text.Scan

/-!
# Web addresses

An address is sent in a uniform spelling: scheme and host in small letters, a slash where there is no
path, and the characters that cannot stand in an address as bytes in base sixteen.
-/

namespace PageMarkup

namespace Url

open Text

/-- The scheme of an address and what follows its colon. -/
def splitScheme? (address : List Char) : Option (List Char × List Char) :=
  let (scheme, rest) := spanWhile (fun c => c.isAlphanum || c == '+' || c == '-' || c == '.') address
  match scheme, rest with
  | c :: _, ':' :: rest => if c.isAlpha then some (lower scheme, rest) else none
  | _, _ => none

/-- A byte in base sixteen after a percent sign. -/
def percent (byte : UInt8) : List Char :=
  let digits := (hex byte.toNat).map Char.toUpper
  '%' :: List.replicate (2 - digits.length) '0' ++ digits

/-- A character as it stands in an address, where those of `marks` cannot. -/
def sentChar (marks : List Char) (c : Char) : List Char :=
  if c.toNat ≤ 0x20 || 0x7F ≤ c.toNat || marks.contains c then
    (String.singleton c).toUTF8.toList.flatMap percent
  else [c]

/-- The path and what follows it. -/
def sentTarget (target : List Char) : List Char :=
  let (path, rest) := spanWhile (fun c => c != '?' && c != '#') target
  let path := path.flatMap (sentChar ['"', '<', '>', '\x60', '\x7b', '\x7d', '^'])
  (if path.isEmpty then ['/'] else path) ++ rest.flatMap (sentChar ['"', '<', '>', '\x27'])

/-- The spelling in which an address is sent; none where it does not lead into the web. -/
def sent? (address : String) : Option String := do
  let (scheme, rest) ← splitScheme? (trim address.toList)
  if scheme != "http".toList && scheme != "https".toList then none
  let rest := rest.dropWhile (· == '/')
  let (host, target) := spanWhile (fun c => c != '/' && c != '?' && c != '#') rest
  if host.isEmpty then none
  some (String.ofList (scheme ++ "://".toList ++ lower host ++ sentTarget target))

end Url

end PageMarkup
