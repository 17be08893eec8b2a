import PageMarkup.Proofs.Import.Leaf

/-!
# Cards and heroes are read back

A box holds an image, a heading, a text and a button, as far as they are there, one on each line.
Each of them is found by its name, and the level of the heading tells a hero from a card.
-/

namespace PageMarkup

open Text Template

/-- What a card or a hero shows. -/
structure BoxContent where
  isHero : Bool
  title : Option String
  body : Option String
  label : Option String
  href : Option String
  src : Option String
  color : Option String
  image : Option String
  padding : Option String
  align : Option String

namespace BoxContent

/-! ### Writing a box -/

/-- What a card or a hero with the given properties shows. -/
def ofProps (isHero : Bool) (props : Props) : BoxContent where
  isHero := isHero
  title := props.text? titleNames
  body := props.text? (if isHero then ["subtitle", "description", "text"]
    else ["text", "description", "body"])
  label := props.text? (if isHero then ["ctaLabel", "buttonLabel"]
    else ["buttonLabel", "ctaLabel", "linkLabel"])
  href := allowed? .href (if isHero then ["ctaHref", "buttonHref", "href"]
    else ["buttonHref", "ctaHref", "href", "link"]) props
  src := if isHero then none else allowed? .src ["image", "imageUrl", "src"] props
  color := props.kept? ⟨Kind.bgColorNames, .bgColor⟩
  image := props.kept? ⟨Kind.bgImageNames, .bgImage⟩
  padding := props.kept? ⟨["padding"], .padding⟩
  align := props.kept? ⟨["align", "textAlign"], .align⟩

variable (box : BoxContent)

/-- The kind of node that shows the content. -/
def kind : Kind :=
  if box.isHero then .hero else .card

/-- The attributes of the box. -/
def entries : List (String × Option String) :=
  [("bg_color", box.color), ("bg_image", box.image), ("padding", box.padding),
    ("align", box.align)]

/-- The attributes of the image with some source. -/
def imageEntries (src : String) : List (String × Option String) :=
  [("src", some src), ("alt", box.title)]

/-- The attributes of the button. -/
def buttonEntries : List (String × Option String) :=
  [("href", box.href), ("style", if box.isHero then some "primary" else none)]

/-- The tag of the heading. -/
def headingTag : Tag :=
  ⟨"heading", [("level", if box.isHero then "1" else "3")]⟩

/-- The image, the heading, the text and the button, as far as they are there. -/
def parts : List Markup :=
  (box.src.map fun src => .element ⟨"image", attributesOf (box.imageEntries src)⟩ []).toList
    ++ (box.title.map (plainElement box.headingTag)).toList
    ++ (box.body.map textElement).toList
    ++ (box.label.map (plainElement ⟨"button", attributesOf box.buttonEntries⟩)).toList

/-- The box around the parts. -/
def markup : Markup :=
  .block ⟨"box", attributesOf box.entries⟩ (Forest.lines (box.parts.map fun part => [part]))

/-- The parts of a card. -/
theorem parts_card (props : Props) : (ofProps false props).parts = cardParts props := by
  simp only [cardParts, parts, cardImage?, cardButton?, attributesOf, imageEntries, buttonEntries]
  simp [attribute?, ofProps]
  rfl

/-- The parts of a hero. -/
theorem parts_hero (props : Props) : (ofProps true props).parts = heroParts props := by
  simp only [heroParts, parts, heroButton?, attributesOf, buttonEntries]
  simp [attribute?, ofProps]
  rfl

/-- The markup of a card or a hero is a box, if it has any part. -/
theorem markup?_box {node : Node} {isHero : Bool}
    (hkind : node.kind = if isHero then .hero else .card) :
    node.markup? = if (ofProps isHero node.props).parts.isEmpty then none
      else some [(ofProps isHero node.props).markup] := by
  cases isHero with
  | false =>
    have hnamed := named_kept_eq node.props Kind.card.attributeRules
    rw [Node.markup?, hkind]
    simp only [Bool.false_eq_true, if_false]
    rw [boxMarkup?, ← parts_card, Node.kept, hkind]
    simp only [Bool.false_eq_true, if_false, hnamed]
    rfl
  | true =>
    have hnamed := named_kept_eq node.props Kind.hero.attributeRules
    rw [Node.markup?, hkind]
    simp only [if_true]
    rw [boxMarkup?, ← parts_hero, Node.kept, hkind]
    simp only [if_true, hnamed]
    rfl

end BoxContent

/-! ### Looking for the parts -/

namespace Markup

/-- An element that holds a text is found by its name alone. -/
theorem findInAll?_holding (name : String) (tag : Tag) (content : List Char) :
    findInAll? name [holding tag content] =
      if tag.name == name then some ⟨tag, held content⟩ else none := by
  have hinside := findInAll?_held name content
  rw [held] at hinside
  rw [holding, findInAll?, findIn?, findInAll?, hinside]
  split <;> rfl

/-- An element that holds nothing is found by its name alone. -/
theorem findInAll?_empty (name : String) (tag : Tag) :
    findInAll? name [element tag []] =
      if tag.name == name then some ⟨tag, []⟩ else none := by
  rw [findInAll?, findIn?]
  split <;> rfl

end Markup

namespace BoxContent

variable (box : BoxContent)

/-- The box as an element with its parts. -/
def element : Element :=
  ⟨⟨"box", attributesOf box.entries⟩,
    (Forest.lines (box.parts.map fun part => [part])).ownLines⟩

/-- An element of a box is found in the first part with one. -/
theorem find?_element (name : String) :
    box.element.find? name = box.parts.findSome? fun part => Markup.findInAll? name [part] := by
  rw [Element.find?, element, Markup.findInAll?_ownLines, Markup.findInAll?_lines,
    List.findSome?_map]
  rfl

/-- Each part of a box is looked at in turn. -/
theorem find?_parts (name : String) :
    box.element.find? name =
      (((box.src.bind fun src => if "image" == name then
          some ⟨⟨"image", attributesOf (box.imageEntries src)⟩, []⟩ else none).or
        (box.title.bind fun title => if "heading" == name then
          some ⟨box.headingTag, Markup.held (Escape.text title.toList)⟩ else none)).or
        (box.body.bind fun body => if "text" == name then
          some ⟨⟨"text", []⟩, Markup.held (Escape.rich body.toList)⟩ else none)).or
        (box.label.bind fun label => if "button" == name then
          some ⟨⟨"button", attributesOf box.buttonEntries⟩,
            Markup.held (Escape.text label.toList)⟩ else none) := by
  have hpart {α : Type} (value : Option α) (part : α → Markup) :
      (value.map part).toList.findSome? (fun part => Markup.findInAll? name [part]) =
        value.bind fun a => Markup.findInAll? name [part a] := by
    cases value with
    | none => rfl
    | some a => simp
  rw [find?_element, parts, List.findSome?_append, List.findSome?_append, List.findSome?_append,
    hpart, hpart, hpart, hpart]
  simp only [Markup.findInAll?_empty, Markup.findInAll?_holding, textElement, plainElement,
    richElement]
  rfl

/-- The image of a box is found. -/
theorem find?_image :
    box.element.find? "image" =
      box.src.map fun src => ⟨⟨"image", attributesOf (box.imageEntries src)⟩, []⟩ := by
  rw [find?_parts]
  cases box.src <;> simp

/-- The heading of a box is found. -/
theorem find?_heading :
    box.element.find? "heading" =
      box.title.map fun title => ⟨box.headingTag, Markup.held (Escape.text title.toList)⟩ := by
  rw [find?_parts]
  cases box.title <;> simp

/-- The text of a box is found. -/
theorem find?_text :
    box.element.find? "text" =
      box.body.map fun body => ⟨⟨"text", []⟩, Markup.held (Escape.rich body.toList)⟩ := by
  rw [find?_parts]
  cases box.body <;> simp

/-- The button of a box is found. -/
theorem find?_button :
    box.element.find? "button" =
      box.label.map fun label => ⟨⟨"button", attributesOf box.buttonEntries⟩,
        Markup.held (Escape.text label.toList)⟩ := by
  rw [find?_parts]
  cases box.label <;> simp

/-! ### Reading a box -/

/-- What is found in an element that is read as a box. -/
def found (element : Element) : BoxContent where
  isHero := (element.find? "heading").bind (·.attribute? "level") == some "1"
  title := (element.find? "heading").bind fun heading => Element.nonempty? heading.plainText
  body := (element.find? "text").bind fun text => Element.nonempty? text.richText
  label := (element.find? "button").bind fun button => Element.nonempty? button.plainText
  href := (element.find? "button").bind fun button =>
    (button.attribute? "href").bind Restricted.href.allow
  src := (if (element.find? "heading").bind (·.attribute? "level") == some "1" then none
    else element.find? "image").bind fun image => (image.attribute? "src").bind Restricted.src.allow
  color := (element.attribute? "bg_color").bind Restricted.bgColor.allow
  image := (element.attribute? "bg_image").bind Restricted.bgImage.allow
  padding := (element.attribute? "padding").bind Restricted.padding.allow
  align := (element.attribute? "align").bind Restricted.align.allow

/-- The node that shows the content. -/
def node (made : List Kind) : Node :=
  ((((((((((Node.next made box.kind).withText "title" box.title)
    |>.withText (if box.isHero then "subtitle" else "text") box.body)
    |>.withText (if box.isHero then "ctaLabel" else "buttonLabel") box.label)
    |>.withText (if box.isHero then "ctaHref" else "buttonHref") box.href)
    |>.withText "image" box.src)
    |>.withText "backgroundColor" box.color)
    |>.withText "backgroundImage" box.image)
    |>.withText "padding" box.padding)
    |>.withText "align" box.align)

@[simp] theorem kind_node (made : List Kind) : (box.node made).kind = box.kind := by
  simp [node]

/-- A box is read as the node that shows what is found in it. -/
theorem result_toBox (element : Element) (limit : Nat) (made : List Kind) :
    element.toBox.result limit made =
      ([(found element).node made], (found element).kind :: made) := by
  rw [Element.toBox, found]
  generalize ((element.find? "heading").bind (·.attribute? "level") == some "1") = isHero
  cases element.find? "button" with
  | none =>
    cases (if isHero then none else element.find? "image") with
    | none => simp [node, kind, Node.next, Node.withText]
    | some image => simp [node, kind, Node.next, Node.withText]
  | some button =>
    cases (if isHero then none else element.find? "image") with
    | none => simp [node, kind, Node.next, Node.withText]
    | some image => simp [node, kind, Node.next, Node.withText]

/-- What is shown is not blank, or in normal form where it is restricted; a hero shows no image. -/
structure IsShown : Prop where
  title : nonblank? box.title = box.title
  body : nonblank? box.body = box.body
  label : nonblank? box.label = box.label
  href : IsNormal .href box.href
  src : IsNormal .src box.src
  color : IsNormal .bgColor box.color
  image : IsNormal .bgImage box.image
  padding : IsNormal .padding box.padding
  align : IsNormal .align box.align
  hero : box.isHero = true → box.src = none

/-- What properties show is shown. -/
theorem isShown_ofProps (isHero : Bool) (props : Props) : (ofProps isHero props).IsShown where
  title := nonblank?_text? _ props
  body := nonblank?_text? _ props
  label := nonblank?_text? _ props
  href := isNormal_allowed? .href _ props
  src := by
    cases isHero with
    | true => exact isNormal_none .src
    | false => exact isNormal_allowed? .src _ props
  color := props.isNormal_kept? _
  image := props.isNormal_kept? _
  padding := props.isNormal_kept? _
  align := props.isNormal_kept? _
  hero h := if_pos h

variable {box}

/-- A node that was made to show some content shows it. -/
theorem ofProps_node (h : box.IsShown) (made : List Kind) :
    ofProps box.isHero (box.node made).props = box := by
  obtain ⟨isHero, title, body, label, href, src, color, image, padding, align⟩ := box
  simp only [ofProps, titleNames, Kind.bgColorNames, Kind.bgImageNames, mk.injEq, true_and]
  refine ⟨?_, ?_, ?_, ?_, ?_, ?_, ?_, ?_, ?_⟩
  · have htitle : nonblank? title = title := h.title
    cases isHero <;> rw [Props.text?_of_get? (v := title) (by simp [node]) (by simp [node]), htitle]
  · have hbody : nonblank? body = body := h.body
    cases isHero <;> simp only [Bool.false_eq_true, if_false, if_true] <;>
      rw [Props.text?_of_get? (v := body) (by simp [node]) (by simp [node]), hbody]
  · have hlabel : nonblank? label = label := h.label
    cases isHero <;> simp only [Bool.false_eq_true, if_false, if_true] <;>
      rw [Props.text?_of_get? (v := label) (by simp [node]) (by simp [node]), hlabel]
  · cases isHero <;>
      exact allowed?_of_get? (v := href) (by simp [node]) (by simp [node]) h.href
  · cases isHero with
    | false => exact allowed?_of_get? (v := src) (by simp [node]) (by simp [node]) h.src
    | true => exact (h.hero rfl).symm
  · cases isHero <;>
      exact Props.kept?_of_get? (v := color) (by simp [node]) (by simp [node]) h.color
  · cases isHero <;>
      exact Props.kept?_of_get? (v := image) (by simp [node]) (by simp [node]) h.image
  · cases isHero <;>
      exact Props.kept?_of_get? (v := padding) (by simp [node]) (by simp [node]) h.padding
  · cases isHero <;>
      exact Props.kept?_of_get? (v := align) (by simp [node]) (by simp [node]) h.align

/-- The node that was made to show some content is written as the box of it. -/
theorem markup?_node (h : box.IsShown) (hne : box.parts ≠ []) (made : List Kind) :
    (box.node made).markup? = some [box.markup] := by
  have hsame := ofProps_node h made
  have hkind : (box.node made).kind = if box.isHero then .hero else .card := kind_node box made
  rw [markup?_box hkind, hsame, if_neg]
  simpa using hne

end BoxContent

/-! ### Boxes are stable -/

/-- A text that may be missing has no blanks around it. -/
def IsTrimmedText (text : Option String) : Prop :=
  ∀ content ∈ text, IsTrimmed content.toList

/-- Trimmed plain text of an element that may be missing is read back. -/
theorem bind_plainText_held {text : Option String} (htrim : IsTrimmedText text)
    (hblank : nonblank? text = text) (tag : Tag) :
    ((text.map fun content => Element.mk tag (Markup.held (Escape.text content.toList))).bind
      fun element => Element.nonempty? element.plainText) = text := by
  cases text with
  | none => rfl
  | some content =>
    have hshown := allBlank_of_nonblank? hblank
    rw [Option.map_some, Option.bind_some]
    exact Element.nonempty?_plainText_held (htrim content rfl) hshown tag

/-- Trimmed rich text of an element that may be missing is read back as one that is written in the
same way. -/
theorem exists_bind_richText_held {text : Option String} (htrim : IsTrimmedText text)
    (hblank : nonblank? text = text) (tag : Tag) :
    ∃ read : Option String, nonblank? read = read ∧
      read.map (richElement tag) = text.map (richElement tag) ∧
      ((text.map fun content => Element.mk tag (Markup.held (Escape.rich content.toList))).bind
        fun element => Element.nonempty? element.richText) = read := by
  cases text with
  | none => exact ⟨none, rfl, rfl, rfl⟩
  | some content =>
    have hshown := allBlank_of_nonblank? hblank
    obtain ⟨read, hread, hsame, hback⟩ := Element.exists_richText (htrim content rfl) hshown
    refine ⟨some read, nonblank?_some hread, ?_, ?_⟩
    · rw [Option.map_some, Option.map_some, richElement, richElement, hsame]
    · rw [Option.map_some, Option.bind_some]
      exact hback tag

namespace BoxContent

/-- The texts have no blanks around them, and a hero has a title. -/
structure IsReadable (box : BoxContent) : Prop where
  title : IsTrimmedText box.title
  body : IsTrimmedText box.body
  label : IsTrimmedText box.label
  hero : box.isHero = true → box.title.isSome

variable {box : BoxContent}

/-- The heading tells a hero from a card. -/
theorem level_heading (h : box.IsReadable) :
    ((box.element.find? "heading").bind (·.attribute? "level") == some "1") = box.isHero := by
  have hlevel (title : String) : (Element.mk box.headingTag
      (Markup.held (Escape.text title.toList))).attribute? "level" =
        some (if box.isHero then "1" else "3") := by
    rw [headingTag]
    cases box.isHero <;> rfl
  rw [find?_heading]
  cases htitle : box.title with
  | none =>
    cases hhero : box.isHero with
    | false => rfl
    | true =>
      have hsome := h.hero hhero
      rw [htitle] at hsome
      exact absurd hsome (by decide)
  | some title =>
    rw [Option.map_some, Option.bind_some, hlevel]
    cases box.isHero <;> rfl

/-- The address of a button is read back, if there is a button. -/
theorem href_button (h : box.IsShown) :
    ((box.element.find? "button").bind fun button =>
      (button.attribute? "href").bind Restricted.href.allow) =
        box.label.bind fun _ => box.href := by
  have hnodup : (box.buttonEntries.map Prod.fst).Nodup := by
    simp [buttonEntries]
  rw [find?_button]
  cases box.label with
  | none => rfl
  | some label =>
    rw [Option.map_some, Option.bind_some, Option.bind_some]
    exact Element.bind_attribute?_eq hnodup rfl h.href

/-- The source of an image is read back; a hero has none. -/
theorem src_image (h : box.IsShown) :
    ((if box.isHero then none else box.element.find? "image").bind fun image =>
      (image.attribute? "src").bind Restricted.src.allow) = box.src := by
  cases hhero : box.isHero with
  | true => exact (h.hero hhero).symm
  | false =>
    rw [if_neg Bool.false_ne_true, find?_image]
    cases hsrc : box.src with
    | none => rfl
    | some src =>
      have hnodup : ((box.imageEntries src).map Prod.fst).Nodup := by
        simp [imageEntries]
      rw [Option.map_some, Option.bind_some]
      exact Element.bind_attribute?_eq hnodup rfl (hsrc ▸ h.src)

/-- What is found in a box is what was written, up to a text that is written in the same way and
the address of a button that is missing. -/
theorem exists_found (h : box.IsShown) (hread : box.IsReadable) :
    ∃ body, nonblank? body = body ∧ body.map textElement = box.body.map textElement ∧
      found box.element =
        { box with body := body, href := box.label.bind fun _ => box.href } := by
  obtain ⟨body, hbody, hsame, hback⟩ := exists_bind_richText_held hread.body h.body ⟨"text", []⟩
  have hnodup : (box.entries.map Prod.fst).Nodup := by
    simp [entries]
  have hcolor : (box.element.attribute? "bg_color").bind Restricted.bgColor.allow = box.color :=
    Element.bind_attribute?_eq hnodup rfl h.color
  have himage : (box.element.attribute? "bg_image").bind Restricted.bgImage.allow = box.image :=
    Element.bind_attribute?_eq hnodup rfl h.image
  have hpadding : (box.element.attribute? "padding").bind Restricted.padding.allow = box.padding :=
    Element.bind_attribute?_eq hnodup rfl h.padding
  have halign : (box.element.attribute? "align").bind Restricted.align.allow = box.align :=
    Element.bind_attribute?_eq hnodup rfl h.align
  refine ⟨body, hbody, hsame, ?_⟩
  rw [found, level_heading hread, href_button h, src_image h, hcolor, himage, hpadding, halign,
    find?_heading, find?_text, find?_button, bind_plainText_held hread.title h.title, hback,
    bind_plainText_held hread.label h.label]

/-- A box is read by its name. -/
theorem toNodes_markup (box : BoxContent) : Markup.toNodes box.markup = box.element.toBox := by
  have hnodes (element : Element) (h : element.name = "box") :
      element.toNodes = element.toBox := by
    simp only [Element.toNodes, h]
  rw [markup, Markup.block, Markup.toNodes_element (by decide), hnodes _ rfl]
  rfl

/-- A box with trimmed texts is read as a node that is written in the same way. -/
theorem isStable (h : box.IsShown) (hread : box.IsReadable) (hne : box.parts ≠ []) :
    box.markup.IsStable := by
  obtain ⟨body, hbody, hsame, hfound⟩ := exists_found h hread
  let other : BoxContent := { box with body := body, href := box.label.bind fun _ => box.href }
  have hparts : other.parts = box.parts := by
    simp only [other, parts, hsame]
    cases box.label <;> rfl
  have hmarkup : other.markup = box.markup := by
    rw [markup, hparts]
    rfl
  have hhref : IsNormal .href other.href := by
    simp only [other]
    cases box.label with
    | none => exact isNormal_none .href
    | some label => exact h.href
  have hother : other.IsShown := { h with body := hbody, href := hhref }
  have hkind : box.kind.isStructural = false := by
    rw [kind]
    cases box.isHero <;> rfl
  refine Yields.singleton box.kind hkind fun limit made => ⟨other.node made, ?_, ?_, ?_⟩
  · rw [toNodes_markup, result_toBox, hfound]
    rfl
  · exact kind_node other made
  · rw [markup?_node hother (hparts ▸ hne), hmarkup]

end BoxContent

end PageMarkup
