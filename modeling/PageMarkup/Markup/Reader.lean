import PageMarkup.Markup

/-!
# Reading markup

Markup is read without ever failing: what is no tag is text.  Nothing in a tag says whether the
element holds something, so an opening tag opens an element that is closed later only if a closing
tag of its name follows somewhere.  A closing tag closes the innermost open element of its name
together with everything open inside it; one that closes nothing is dropped.  What is still open at
the end is closed there.
-/

namespace PageMarkup

namespace Markup

open Text

/-- The names of elements by which markup is known. -/
def vocabulary : List String :=
  ["section", "row", "column", "row_inner", "column_inner", "heading", "text", "image", "button",
   "divider", "spacer", "box", "blurb", "pricing_tables", "pricing_table", "testimonial", "counter",
   "accordion", "toggle"]

/-! ### Tags -/

/-- A tag as it is read, with its name in small letters. -/
structure TagToken where
  closing : Bool
  tag : Tag
  deriving DecidableEq, Repr, Inhabited

/-- A character that continues the name of an element. -/
def isNameChar (c : Char) : Bool :=
  isLetter c || isAsciiDigit c || c == '_'

/-- The first character of the name of an attribute. -/
def isAttributeStart (c : Char) : Bool :=
  isLetter c || c == '_'

/-- A further character of the name of an attribute. -/
def isAttributeChar (c : Char) : Bool :=
  isAttributeStart c || isAsciiDigit c || c == '-'

/-- The text up to a quote, and what follows the quote. -/
def untilQuote? (cs : List Char) : Option (List Char × List Char) :=
  match cs.dropWhile (· != '"') with
  | _ :: rest => some (cs.takeWhile (· != '"'), rest)
  | [] => none

/-- An attribute with the blanks in front of it; references in its value are decoded. -/
def readAttribute : Reader (String × String)
  | [] => none
  | blank :: cs => do
    if !isBlank blank then none
    match trimStart cs with
    | [] => none
    | c :: cs =>
      if !isAttributeStart c then none
      let (more, rest) := spanWhile isAttributeChar cs
      let rest ← after? ['='] (trimStart rest)
      let rest ← after? ['"'] (trimStart rest)
      let (value, rest) ← untilQuote? rest
      some ((String.ofList (lower (c :: more)), String.ofList (Entity.decode value)), rest)

/-- The end of a tag: blanks, a slash that may be missing, and the bracket. -/
def afterTagEnd? (cs : List Char) : Option (List Char) :=
  match trimStart cs with
  | '/' :: ']' :: rest => some rest
  | ']' :: rest => some rest
  | _ => none

/-- The name, the attributes and the end of a tag. -/
def readTagBody (closing : Bool) : Reader TagToken
  | [] => none
  | c :: cs => do
    if !isLetter c then none
    let (more, rest) := spanWhile isNameChar cs
    let (attributes, rest) := readMany readAttribute rest
    let rest ← afterTagEnd? rest
    some (⟨closing, String.ofList (lower (c :: more)), attributes⟩, rest)

/-- A tag. -/
def readTag : Reader TagToken
  | '[' :: '/' :: cs => readTagBody true cs
  | '[' :: cs => readTagBody false cs
  | _ => none

/-- Some tag has a name of the vocabulary. -/
def isSpokenIn (cs : List Char) : Bool :=
  (findAll readTag cs).any fun token => vocabulary.contains token.tag.name

/-! ### Tokens -/

/-- A run of text or a tag. -/
inductive Token where
  | text (run : String)
  | opening (tag : Tag)
  | closing (name : String)
  deriving DecidableEq, Repr, Inhabited

/-- The token of a run of text, given the last character first; an empty run has none. -/
def Token.ofRun (run : List Char) : List Token :=
  if run.isEmpty then [] else [.text (String.ofList run.reverse)]

/-- The tokens of the parts of a text, after a run of text, the last character first. -/
def Token.ofPieces (run : List Char) : List (Piece TagToken) → List Token
  | [] => Token.ofRun run
  | .char c :: pieces => ofPieces (c :: run) pieces
  | .found token _ :: pieces =>
    Token.ofRun run ++
      (if token.closing then .closing token.tag.name else .opening token.tag) :: ofPieces [] pieces

/-- The tokens of a text. -/
def tokens (cs : List Char) : List Token :=
  Token.ofPieces [] (scan readTag cs)

/-! ### Forests -/

/-- An open element with what it holds so far, the last first. -/
structure OpenElement where
  tag : Tag
  held : List Markup
  deriving Repr, Inhabited

/-- A forest that is being built: the open elements, the innermost first, and what stands before
them, the last first. -/
structure Growth where
  pending : List OpenElement
  roots : List Markup
  deriving Repr, Inhabited

namespace Growth

/-- Nothing yet. -/
def empty : Growth := ⟨[], []⟩

/-- Add an item to the innermost open element. -/
def add (item : Markup) : Growth → Growth
  | ⟨[], roots⟩ => ⟨[], item :: roots⟩
  | ⟨top :: rest, roots⟩ => ⟨⟨top.tag, item :: top.held⟩ :: rest, roots⟩

/-- Open an element. -/
def push (tag : Tag) (growth : Growth) : Growth :=
  ⟨⟨tag, []⟩ :: growth.pending, growth.roots⟩

/-- Close open elements from the innermost on up to the first that satisfies `last`, or all of
them; `items` is the last item of the innermost one, if it was closed just before. -/
def closeThrough (last : Tag → Bool) (roots : List Markup) :
    (items : List Markup) → List OpenElement → Growth
  | items, [] => ⟨[], items ++ roots⟩
  | items, top :: rest =>
    let item := .element top.tag (items ++ top.held).reverse
    if last top.tag then add item ⟨rest, roots⟩ else closeThrough last roots [item] rest

/-- Close the innermost open element with a name, if there is one. -/
def close (name : String) (growth : Growth) : Growth :=
  let named := fun tag : Tag => tag.name == name
  if growth.pending.any (named ·.tag) then closeThrough named growth.roots [] growth.pending
  else growth

/-- Close everything. -/
def finish (growth : Growth) : Forest :=
  (closeThrough (fun _ => false) growth.roots [] growth.pending).roots.reverse

/-- Build on with some tokens. -/
def extend (growth : Growth) : List Token → Growth
  | [] => growth
  | .text run :: rest => (growth.add (.text run)).extend rest
  | .opening tag :: rest =>
    if !isVoid tag.name && rest.contains (.closing tag.name) then (growth.push tag).extend rest
    else (growth.add (.element tag [])).extend rest
  | .closing name :: rest => (growth.close name).extend rest

end Growth

end Markup

/-- The forest that a text spells. -/
def Forest.read (cs : List Char) : Forest :=
  (Markup.Growth.empty.extend (Markup.tokens cs)).finish

end PageMarkup
