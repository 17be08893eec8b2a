import PageMarkup.Html.Tag

/-!
# Reading rendered pages

A rendered page is read for what can be built again: sections, and in and between them headings,
paragraphs, images, buttons and rules.  Comments, scripts, styles and the head of the page are
blanked first, by as many spaces as they have bytes, so that every offset is one into the page as
it was given.
-/

namespace PageMarkup

namespace Html

open Text

/-! ### Noise -/

/-- The elements that show nothing. -/
def noiseNames : List String := ["script", "style", "head", "noscript"]

/-- An element from the beginning of its opening tag to the end of the first closing tag. -/
def readWhole (name : String) : Reader Unit
  | '<' :: cs => do
    let rest ← afterFolded? name.toList cs
    if !atWordEnd rest then none
    let (_, rest) ← splitFirst? (afterClosing? name) rest
    some ((), rest)
  | _ => none

/-- A comment or an element that shows nothing. -/
def readNoise (cs : List Char) : Option (Unit × List Char) :=
  match after? "<!--".toList cs with
  | some rest => (splitAt? "-->".toList rest).map fun (_, rest) => ((), rest)
  | none => noiseNames.findSome? (readWhole · cs)

/-- The page with its noise blanked. -/
def withoutNoise (page : List Char) : List Char :=
  replaceFound readNoise (fun _ source => List.replicate (size source) ' ') page

/-! ### Text -/

/-- Anything between `<` and the next `>`. -/
def readAngle : Reader Unit
  | '<' :: cs => (untilTagEnd? cs).map fun (_, rest) => ((), rest)
  | _ => none

/-- The words that a fragment of a page shows. -/
def visibleText (fragment : List Char) : List Char :=
  unspaced (Entity.decode (replaceFound readAngle (fun _ _ => [' ']) fragment))

/-- An alignment, as a declaration or as a class. -/
def readAlignment (cs : List Char) : Option (List Char × List Char) :=
  let declared := do
    let rest ← afterFolded? "text-align".toList cs
    let rest ← after? [':'] (trimStart rest)
    some (spanWhile isLetter (trimStart rest))
  let classed := fun _ : Unit => do
    some (spanWhile isLetter (← afterFolded? "has-text-align-".toList cs))
  let named := fun found : List Char × List Char => !found.1.isEmpty
  (declared.filter named).orElse fun _ => (classed ()).filter named

/-- The alignment that an element asks for in its style or its class. -/
def alignment? (attributes : List Char) : Option String :=
  let style := (attribute? "style" attributes).toList
  let both := joinWith [' '] (style ++ (attribute? "class" attributes).toList)
  (findFirst? readAlignment both).map fun found => String.ofList (lower found)

/-! ### Blocks -/

/-- Something to show. -/
inductive Block where
  | heading (level : Nat) (text : String) (align : Option String)
  | paragraph (text : String) (align : Option String)
  | image (src : String) (alt : Option String)
  | button (href : Option String) (label : String)
  | divider
  deriving DecidableEq, Repr, Inhabited

/-- The digits of the levels of headings. -/
def isLevel (c : Char) : Bool :=
  '1' ≤ c && c ≤ '6'

/-- What follows the closing tag of a heading of any level. -/
def afterHeading? (cs : List Char) : Option (List Char) := do
  match ← afterFolded? "</h".toList cs with
  | level :: rest => if isLevel level then after? ['>'] (trimStart rest) else none
  | [] => none

/-- A text that shows something. -/
def shown? (fragment : List Char) : Option String :=
  match visibleText fragment with
  | [] => none
  | text => some (String.ofList text)

/-- A heading, up to the closing tag of a heading; one without text is passed over. -/
def readHeading : Reader (Option Block)
  | '<' :: h :: level :: cs => do
    if fold h != 'h' || !isLevel level || !atWordEnd cs then none
    let (attributes, rest) ← untilTagEnd? cs
    let (inner, rest) ← splitFirst? afterHeading? rest
    some ((shown? inner).map fun text =>
      .heading (level.toNat - '0'.toNat) text (alignment? attributes), rest)
  | _ => none

/-- A paragraph; one without text is passed over. -/
def readParagraph (cs : List Char) : Option (Option Block × List Char) := do
  let (attributes, rest) ← readNamed "p" cs
  let (inner, rest) ← splitFirst? (afterClosing? "p") rest
  some ((shown? inner).map fun text => .paragraph text (alignment? attributes), rest)

/-- An image; one without a source is passed over. -/
def readImage (cs : List Char) : Option (Option Block × List Char) := do
  let (attributes, rest) ← readNamed "img" cs
  let alt := (attribute? "alt" attributes).filter fun alt => !allBlank alt
  some ((attribute? "src" attributes).map fun src =>
    .image (String.ofList src) (alt.map String.ofList), rest)

/-- The class speaks of a button. -/
def isButton (attributes : List Char) : Bool :=
  (classWords attributes).any fun word => word == "btn".toList || contains "button".toList word

/-- A link; one that is no button or shows no text is passed over. -/
def readLink (cs : List Char) : Option (Option Block × List Char) := do
  let (attributes, rest) ← readNamed "a" cs
  let (inner, rest) ← splitFirst? (afterClosing? "a") rest
  let label := (shown? inner).filter fun _ => isButton attributes
  some (label.map fun label =>
    .button ((attribute? "href" attributes).map String.ofList) label, rest)

/-- A rule across the page. -/
def readRule (cs : List Char) : Option (Option Block × List Char) := do
  let (_, rest) ← readNamed "hr" cs
  some (some .divider, rest)

/-- A block of any sort. -/
def readBlock (cs : List Char) : Option (Option Block × List Char) :=
  [readHeading, readParagraph, readImage, readLink, readRule].findSome? (· cs)

/-- The blocks of a part of a page, in order. -/
def blocks (part : List Char) : List Block :=
  (findAll readBlock part).filterMap id

/-! ### Sections -/

/-- Parts of classes that speak of sections. -/
def sectionMarks : List String := ["section", "hero", "banner"]

/-- The tag opens a section: it is one, or a `div` with a class that speaks of one. -/
def opensSection (tag : Tag) : Bool :=
  let name := lower tag.name
  !tag.closing &&
    (name == "section".toList ||
      (name == "div".toList && (classWords tag.attributes).any fun word =>
        sectionMarks.any fun mark => contains mark.toList word))

/-- A part of a page: what lies between sections, or a section from its opening tag to its closing
tag, which is empty where the page ends first. -/
inductive Segment where
  | between (text : List Char)
  | section (tag : Tag) (opening inner closing : List Char)
  deriving Repr, Inhabited

/-- The part of the page. -/
def Segment.source : Segment → List Char
  | between text => text
  | .section _ opening inner closing => opening ++ inner ++ closing

/-- The tag is written as one that closes itself. -/
def closesItself (tag : Tag) : Bool :=
  (trimEnd tag.attributes).getLast? == some '/'

/-- The section that a walk through a page stands in. -/
structure OpenSection where
  tag : Tag
  opening : List Char
  /-- The number of elements of the same name that are open inside it. -/
  depth : Nat
  deriving Repr, Inhabited

/-- The segments of a page from here on.  The walk stands in `inside`, if in any section, and has
passed `text` since the last segment began, the last character first. -/
def segmentsFrom (inside : Option OpenSection) (text : List Char) :
    List (Piece Tag) → List Segment
  | [] =>
    match inside with
    | none => [.between text.reverse]
    | some s => [.section s.tag s.opening text.reverse [], .between []]
  | .char c :: pieces => segmentsFrom inside (c :: text) pieces
  | .found tag source :: pieces =>
    let passed := source.reverse ++ text
    match inside with
    | none =>
      if opensSection tag then
        .between text.reverse :: segmentsFrom (some ⟨tag, source, 0⟩) [] pieces
      else segmentsFrom none passed pieces
    | some s =>
      if lower tag.name != lower s.tag.name then segmentsFrom inside passed pieces
      else if !tag.closing then
        let depth := if closesItself tag then s.depth else s.depth + 1
        segmentsFrom (some { s with depth := depth }) passed pieces
      else
        match s.depth with
        | 0 => .section s.tag s.opening text.reverse source :: segmentsFrom none [] pieces
        | depth + 1 => segmentsFrom (some { s with depth := depth }) passed pieces

/-- The segments of a page: its outermost sections, and what lies before, between and after
them. -/
def segments (page : List Char) : List Segment :=
  segmentsFrom none [] (scan readTag page)

/-- A section of a page. -/
structure Section where
  id : Option String
  classes : Option String
  style : Option String
  /-- The offset of its beginning. -/
  start : Nat
  /-- The offset of its end. -/
  stop : Nat
  blocks : List Block
  deriving DecidableEq, Repr, Inhabited

/-- A section, or a block outside any section. -/
inductive Item where
  | section (content : Section)
  | block (content : Block)
  deriving DecidableEq, Repr, Inhabited

/-- The items of a segment that begins at an offset. -/
def Segment.items (start : Nat) : Segment → List Item
  | between text => (blocks text).map .block
  | .section tag opening inner closing =>
    let attributes := tag.attributes
    let id := (attribute? "id" attributes).filter fun id => !allBlank id
    [.section {
      id := id.map String.ofList
      classes := (attribute? "class" attributes).map String.ofList
      style := (attribute? "style" attributes).map String.ofList
      start := start
      stop := start + size (opening ++ inner ++ closing)
      blocks := blocks inner }]

/-- The items of segments of which the first begins at an offset. -/
def itemsFrom (start : Nat) : List Segment → List Item
  | [] => []
  | segment :: segments =>
    segment.items start ++ itemsFrom (start + size segment.source) segments

/-- The sections of a page and the blocks between them, in order. -/
def items (page : List Char) : List Item :=
  itemsFrom 0 (segments (withoutNoise page))

end Html

end PageMarkup
