import PageMarkup.Binary64.Decimal
import PageMarkup.Text.Digit

/-!
# Restricted attributes

Some attributes of generated markup take only values of a known form, because their values may come
from pages that nobody vouches for.  For each such attribute this module says which values are
allowed and in which normal form they are written.
-/

namespace PageMarkup

/-- The attributes whose values are restricted. -/
inductive Restricted where
  | bgColor
  | color
  | padding
  | margin
  | height
  | align
  | href
  | src
  | bgImage
  | level
  | style
  deriving DecidableEq, Repr, Inhabited

namespace Restricted

open Text

/-- The name of the attribute in markup. -/
def name : Restricted → String
  | bgColor => "bg_color"
  | color => "color"
  | padding => "padding"
  | margin => "margin"
  | height => "height"
  | align => "align"
  | href => "href"
  | src => "src"
  | bgImage => "bg_image"
  | level => "level"
  | style => "style"

/-- All restricted attributes. -/
def all : List Restricted :=
  [bgColor, color, padding, margin, height, align, href, src, bgImage, level, style]

/-- The restricted attribute with this name. -/
def ofName? (name : String) : Option Restricted :=
  all.find? (·.name == name)

/-! ### Colors -/

/-- The names of colors. -/
def colorNames : List String :=
  ["transparent", "black", "white", "red", "green", "blue", "yellow", "orange", "purple", "pink",
   "gray", "grey", "silver", "navy", "teal", "maroon", "olive", "lime", "aqua", "cyan", "magenta",
   "fuchsia", "brown", "gold", "beige", "ivory", "indigo", "violet", "coral", "salmon", "crimson",
   "khaki", "lavender", "tomato", "skyblue", "whitesmoke"]

/-- A name of a color, in any case. -/
def isNamedColor (cs : List Char) : Bool :=
  colorNames.contains (String.ofList (lower cs))

/-- A digit in base sixteen. -/
def isHexDigit (c : Char) : Bool :=
  isAsciiDigit c || ('a' ≤ c && c ≤ 'f') || ('A' ≤ c && c ≤ 'F')

/-- A color as `#` and three, four, six or eight digits in base sixteen. -/
def isHexColor : List Char → Bool
  | '#' :: cs => [3, 4, 6, 8].contains cs.length && cs.all isHexDigit
  | _ => false

/-- What may follow one to `most` digits. -/
def afterDigits : (most : Nat) → List Char → List (List Char)
  | 0, _ => []
  | _, [] => []
  | most + 1, c :: cs => if isDigit c then cs :: afterDigits most cs else []

/-- What may follow a fraction, which need not be there. -/
def afterFraction (cs : List Char) : List (List Char) :=
  match cs with
  | '.' :: digits => cs :: afterDigits digits.length digits
  | _ => [cs]

/-- What may follow one of some units, none of which need be there. -/
def afterUnit (units : List String) (cs : List Char) : List (List Char) :=
  cs :: units.filterMap fun unit => after? unit.toList cs

/-- What may follow an argument of a color function: an optional sign, one to three digits, and
perhaps a fraction and one of some units. -/
def afterArgument (units : List String) (cs : List Char) : List (List Char) :=
  let unsigned := match cs with
    | '-' :: rest => rest
    | _ => cs
  ((afterDigits 3 unsigned).flatMap afterFraction).flatMap (afterUnit units)

/-- What follows the separator in front of a further argument: blanks with at most one comma or
slash among them.  It may be empty. -/
def afterSeparator (cs : List Char) : List Char :=
  match trimStart cs with
  | ',' :: rest => trimStart rest
  | '/' :: rest => trimStart rest
  | rest => rest

/-- What may follow a further argument. -/
def afterNextArgument (cs : List Char) : List (List Char) :=
  afterArgument ["%"] (afterSeparator cs)

/-- The names of the color functions. -/
def colorFunctions : List String := ["rgba", "rgb", "hsla", "hsl"]

/-- What may follow the name of a color function in any case. -/
def afterColorFunction (cs : List Char) : List (List Char) :=
  colorFunctions.filterMap fun name => afterFolded? (name ++ "(").toList cs

/-- A color function with three or four arguments. -/
def isFunctionalColor (cs : List Char) : Bool :=
  let ends := fun rest : List Char => trimStart rest == [')']
  let three := (((afterColorFunction cs).flatMap (fun rest =>
    afterArgument ["deg", "%"] (trimStart rest))).flatMap afterNextArgument).flatMap
      afterNextArgument
  three.any ends || (three.flatMap afterNextArgument).any ends

/-- A color, without the blanks around it. -/
def allowColor (cs : List Char) : Option (List Char) :=
  let value := trim cs
  if isNamedColor value || isHexColor value || isFunctionalColor value then some value else none

/-! ### Lengths -/

/-- A number without a sign followed by one of some units, or by nothing. -/
def isMeasure (units : List String) (cs : List Char) : Bool :=
  let (whole, rest) := spanWhile isDigit cs
  let isUnit := fun unit : List Char => unit.isEmpty || units.any (·.toList == unit)
  !whole.isEmpty &&
    match rest with
    | '.' :: rest =>
      let (fraction, unit) := spanWhile isDigit rest
      !fraction.isEmpty && isUnit unit
    | unit => isUnit unit

/-- One length of a box, without a sign. -/
def isLength (cs : List Char) : Bool :=
  cs == "auto".toList || isMeasure ["px", "em", "rem", "%", "vh", "vw"] cs

/-- One length of a box, with a sign where that is allowed. -/
def isSignedLength (signed : Bool) : List Char → Bool
  | '-' :: cs => signed && isLength cs
  | cs => isLength cs

/-- One to four lengths, with one space between neighbours. -/
def allowLengths (signed : Bool) (cs : List Char) : Option (List Char) :=
  let tokens := words cs
  if tokens.isEmpty || 4 < tokens.length || !tokens.all (isSignedLength signed) then none
  else some (joinWith [' '] tokens)

/-- One length that can be a height, without the blanks around it. -/
def allowHeight (cs : List Char) : Option (List Char) :=
  let value := trim cs
  if isMeasure ["px", "em", "rem", "vh"] value then some value else none

/-! ### Keywords -/

/-- One of some words in any case, in small letters. -/
def allowKeyword (keywords : List String) (cs : List Char) : Option (List Char) :=
  let value := lower (trim cs)
  if keywords.contains (String.ofList value) then some value else none

/-- A whole number from one to six, after an `h` or without it. -/
def allowLevel (cs : List Char) : Option (List Char) :=
  let value := lower (trim cs)
  let number := match value with
    | 'h' :: rest => rest
    | _ => value
  match Binary64.read? number with
  | none => none
  | some x =>
    if !x.negative && x.isWhole && 1 ≤ x.wholePart && x.wholePart ≤ 6 then
      some (Nat.toDigits 10 x.wholePart)
    else none

/-! ### Links -/

/-- The size of the longest link, in bytes. -/
def greatestLink : Nat := 2048

/-- A control character. -/
def isControl (c : Char) : Bool :=
  let n := c.toNat
  n < 0x20 || (0x7F ≤ n && n < 0xA0)

/-- A character that could end the attribute it stands in, or a part of it. -/
def isBreaking (c : Char) : Bool :=
  isBlank c || isControl c || "\"'<>[]()\\`".toList.contains c

/-- A text that begins with a scheme: a colon comes before any of the marks that end one. -/
def hasScheme (cs : List Char) : Bool :=
  match cs.dropWhile fun c => !(c == ':' || c == '/' || c == '?' || c == '#') with
  | ':' :: _ => true
  | _ => false

/-- The beginnings of links with a scheme. -/
def schemes : List String := ["http://", "https://", "mailto:", "tel:"]

/-- A link to the web, to a mail address or a telephone, within the site or within the page,
without the blanks around it. -/
def allowLink (cs : List Char) : Option (List Char) :=
  let value := trim cs
  if value.isEmpty || greatestLink < size value || value.any isBreaking then none
  else if !hasScheme value then some value
  else if schemes.any fun scheme => (after? scheme.toList (lower value)).isSome then some value
  else none

/-- The text without its first character, if that is a quote. -/
def afterQuote : List Char → List Char
  | c :: cs => if c = '"' || c = '\x27' then cs else c :: cs
  | [] => []

/-- What stands in the parentheses of `url(…)`, without quotes and the blanks around it. -/
def unwrapUrl? (cs : List Char) : Option (List Char) := do
  let rest ← afterFolded? "url(".toList cs
  let body ← match rest.reverse with
    | ')' :: reversed => some reversed.reverse
    | _ => none
  let (inner, tail) := spanWhile (fun c => c != '"' && c != '\x27') (afterQuote (trimStart body))
  if inner.contains ')' || !allBlank (afterQuote tail) then none else some (trim inner)

/-- A link, bare or in `url(…)`. -/
def allowImage (cs : List Char) : Option (List Char) :=
  let value := trim cs
  allowLink ((unwrapUrl? value).getD value)

/-! ### All together -/

/-- The normal form of an allowed value. -/
def allowChars : Restricted → List Char → Option (List Char)
  | bgColor | color => allowColor
  | padding => allowLengths false
  | margin => allowLengths true
  | height => allowHeight
  | align => allowKeyword ["left", "center", "right", "justify"]
  | href | src => allowLink
  | bgImage => allowImage
  | level => allowLevel
  | style => allowKeyword ["primary", "secondary", "outline", "link"]

/-- The normal form of an allowed value. -/
def allow (target : Restricted) (value : String) : Option String :=
  (target.allowChars value.toList).map String.ofList

end Restricted

end PageMarkup
