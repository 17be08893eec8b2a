import PageMarkup.Proofs.Import.Values

/-!
# Single elements are read back

The element of a heading, a text, an image, a button, a divider or a spacer is read as a node whose
template gives the element again.
-/

namespace PageMarkup

open Text Template

namespace Markup

/-- The item is read as one node, and the template of that node gives the item again. -/
def IsStable (item : Markup) : Prop :=
  Yields (toNodes item) [[item]]

/-- An element that does not only arrange is read by its name. -/
theorem toNodes_element {name : String} (h : name ∉ ["section", "row", "column", "column_inner"])
    (attributes : List (String × String)) (children : Forest) :
    toNodes (element ⟨name, attributes⟩ children) =
      (Element.mk ⟨name, attributes⟩ children).toNodes := by
  have hsection : (name == "section") = false := by
    simp_all
  have hlayout : Element.isLayout name = false := by
    simp_all [Element.isLayout]
  rw [toNodes, hsection, hlayout]
  rfl

end Markup

namespace Node

/-- The node of a kind that is drafted when nodes of the kinds `made` have been made. -/
def next (made : List Kind) (kind : Kind) : Node :=
  ⟨kind, Drafting.idOf kind (made.count kind + 1), []⟩

@[simp] theorem kind_next (made : List Kind) (kind : Kind) : (next made kind).kind = kind := rfl

@[simp] theorem get?_next (made : List Kind) (kind : Kind) (key : String) :
    Dict.get? key (next made kind).props = none := rfl

end Node

/-! ### Headings -/

namespace Template

/-- The attributes of a heading. -/
def headingEntries (level align color : Option String) : List (String × Option String) :=
  [("level", level), ("align", align), ("color", color)]

theorem nodup_headingEntries (level align color : Option String) :
    ((headingEntries level align color).map Prod.fst).Nodup := by
  simp [headingEntries]

/-- The tag of a heading, from the attributes that are kept. -/
theorem headingTag_kept {node : Node} (hkind : node.kind = .heading) :
    headingTag node.kept = ⟨"heading", attributesOf (headingEntries
      (some ((node.props.kept? ⟨["level", "size"], .level⟩).getD defaultLevel))
      (node.props.kept? ⟨["align", "textAlign"], .align⟩)
      (node.props.kept? ⟨["color"], .color⟩))⟩ := by
  have hnamed := named_kept_eq node.props Kind.heading.attributeRules
  rw [headingTag, Node.kept, hkind, hnamed, Tag.mk.injEq]
  refine ⟨rfl, ?_⟩
  cases hlevel : node.props.kept? ⟨["level", "size"], .level⟩ with
  | some level =>
    have hvalue : valueOf? .level (node.props.kept Kind.heading.attributeRules) = some level := by
      simp [valueOf?, Props.kept, Kind.attributeRules, hlevel]
    rw [hvalue]
    simp only [Kind.attributeRules, List.map_cons, hlevel]
    rfl
  | none =>
    have hvalue : valueOf? .level (node.props.kept Kind.heading.attributeRules) = none := by
      simp only [valueOf?, Props.kept, Kind.attributeRules, List.flatMap_cons, hlevel]
      cases node.props.kept? ⟨["align", "textAlign"], .align⟩ <;>
        cases node.props.kept? ⟨["color"], .color⟩ <;> rfl
    rw [hvalue]
    simp only [Kind.attributeRules, List.map_cons, hlevel]
    rfl

/-- The markup of a heading whose properties are known. -/
theorem markup?_heading {node : Node} (hkind : node.kind = .heading) {title : String}
    (htitle : node.props.text? headingNames = some title) :
    node.markup? = some [plainElement ⟨"heading", attributesOf (headingEntries
      (some ((node.props.kept? ⟨["level", "size"], .level⟩).getD defaultLevel))
      (node.props.kept? ⟨["align", "textAlign"], .align⟩)
      (node.props.kept? ⟨["color"], .color⟩))⟩ title] := by
  rw [Node.markup?, hkind]
  simp only [headingMarkup?, htitle, Option.map_some, headingTag_kept hkind]

end Template

namespace Element

/-- A heading is read as a node with its text and what is allowed of its attributes. -/
theorem result_toHeading {element : Element} {title : String}
    (h : nonempty? element.plainText = some title) (limit : Nat) (made : List Kind) :
    element.toHeading.result limit made =
      ([((((Node.next made .heading).withProp "title" (.text title)).withText "level"
        ((element.attribute? "level").bind Restricted.level.allow)).withText "align"
        ((element.attribute? "align").bind Restricted.align.allow)).withText "color"
        ((element.attribute? "color").bind Restricted.color.allow)], .heading :: made) := by
  rw [toHeading, h]
  simp [Node.next]

end Element

/-- A heading with a trimmed text is read as a heading that is written in the same way. -/
theorem isStable_heading {title level : String} {align color : Option String}
    (htitle : IsTrimmed title.toList) (hblank : allBlank title.toList = false)
    (hlevel : IsNormal .level (some level)) (halign : IsNormal .align align)
    (hcolor : IsNormal .color color) :
    (plainElement ⟨"heading", attributesOf (headingEntries (some level) align color)⟩
      title).IsStable := by
  have hnodup := nodup_headingEntries (some level) align color
  refine Yields.singleton .heading rfl fun limit made =>
    ⟨((((Node.next made .heading).withProp "title" (.text title)).withText "level"
      (some level)).withText "align" align).withText "color" color, ?_, ?_, ?_⟩
  · have hread := Element.nonempty?_plainText_held htitle hblank
    have hnodes (element : Element) (h : element.name = "heading") :
        element.toNodes = element.toHeading := by
      simp only [Element.toNodes, h]
    rw [plainElement, Markup.holding, ← Markup.held, Markup.toNodes_element (by decide),
      hnodes _ rfl, Element.result_toHeading (hread _),
      Element.bind_attribute?_eq hnodup rfl hlevel, Element.bind_attribute?_eq hnodup rfl halign,
      Element.bind_attribute?_eq hnodup rfl hcolor]
  · simp
  · have htext : Props.text? headingNames (((((Node.next made .heading).withProp "title"
        (.text title)).withText "level" (some level)).withText "align" align).withText "color"
        color).props = some title := by
      rw [headingNames, Props.text?_of_get? (v := some title) (by simp) (by simp),
        nonblank?_some hblank]
    rw [markup?_heading (by simp) htext,
      Props.kept?_of_get? (v := some level) (by simp) (by simp) hlevel,
      Props.kept?_of_get? (v := align) (by simp) (by simp) halign,
      Props.kept?_of_get? (v := color) (by simp) (by simp) hcolor]
    rfl

/-! ### Texts -/

namespace Template

/-- The attributes of a text. -/
def textEntries (align color : Option String) : List (String × Option String) :=
  [("align", align), ("color", color)]

theorem nodup_textEntries (align color : Option String) :
    ((textEntries align color).map Prod.fst).Nodup := by
  simp [textEntries]

/-- The markup of a text whose properties are known. -/
theorem markup?_text {node : Node} (hkind : node.kind = .text) {body : String}
    (hbody : node.props.text? textNames = some body) :
    node.markup? = some [richElement ⟨"text", attributesOf (textEntries
      (node.props.kept? ⟨["align", "textAlign"], .align⟩)
      (node.props.kept? ⟨["color"], .color⟩))⟩ body] := by
  rw [Node.markup?, hkind]
  simp only [textMarkup?, hbody, Option.map_some, Node.kept, hkind, named_kept_eq]
  rfl

end Template

namespace Element

/-- A text is read as a node with its text and what is allowed of its attributes. -/
theorem result_toText {element : Element} {body : String}
    (h : nonempty? element.richText = some body) (limit : Nat) (made : List Kind) :
    element.toText.result limit made =
      ([(((Node.next made .text).withProp "text" (.text body)).withText "align"
        ((element.attribute? "align").bind Restricted.align.allow)).withText "color"
        ((element.attribute? "color").bind Restricted.color.allow)], .text :: made) := by
  rw [toText, h]
  simp [Node.next]

end Element

/-- A trimmed text is read as a text that is written in the same way. -/
theorem isStable_text {body : String} {align color : Option String}
    (hbody : IsTrimmed body.toList) (hblank : allBlank body.toList = false)
    (halign : IsNormal .align align) (hcolor : IsNormal .color color) :
    (richElement ⟨"text", attributesOf (textEntries align color)⟩ body).IsStable := by
  have hnodup := nodup_textEntries align color
  obtain ⟨text, htext, hsame, hread⟩ := Element.exists_richText hbody hblank
  refine Yields.singleton .text rfl fun limit made =>
    ⟨(((Node.next made .text).withProp "text" (.text text)).withText "align" align).withText
      "color" color, ?_, ?_, ?_⟩
  · have hnodes (element : Element) (h : element.name = "text") :
        element.toNodes = element.toText := by
      simp only [Element.toNodes, h]
    rw [richElement, Markup.holding, ← Markup.held, Markup.toNodes_element (by decide),
      hnodes _ rfl, Element.result_toText (hread _), Element.bind_attribute?_eq hnodup rfl halign,
      Element.bind_attribute?_eq hnodup rfl hcolor]
  · simp
  · have hfound : Props.text? textNames ((((Node.next made .text).withProp "text"
        (.text text)).withText "align" align).withText "color" color).props = some text := by
      rw [textNames, Props.text?_of_get? (v := some text) (by simp) (by simp),
        nonblank?_some htext]
    rw [markup?_text (by simp) hfound,
      Props.kept?_of_get? (v := align) (by simp) (by simp) halign,
      Props.kept?_of_get? (v := color) (by simp) (by simp) hcolor, richElement, hsame]
    rfl

/-! ### Images -/

namespace Template

/-- The attributes of an image. -/
def imageEntries (src align alt : Option String) : List (String × Option String) :=
  [("src", src), ("align", align), ("alt", alt)]

theorem nodup_imageEntries (src align alt : Option String) :
    ((imageEntries src align alt).map Prod.fst).Nodup := by
  simp [imageEntries]

/-- An image is shown when it has a source. -/
theorem valueOf?_src {node : Node} (hkind : node.kind = .image) :
    valueOf? .src node.kept = node.props.kept? ⟨["src", "url", "image"], .src⟩ := by
  rw [Node.kept, hkind]
  simp only [valueOf?, Props.kept, Kind.attributeRules, List.flatMap_cons]
  cases node.props.kept? ⟨["src", "url", "image"], .src⟩ <;>
    cases node.props.kept? ⟨["align"], .align⟩ <;> rfl

/-- The markup of an image whose properties are known. -/
theorem markup?_image {node : Node} (hkind : node.kind = .image) {src : String}
    (hsrc : node.props.kept? ⟨["src", "url", "image"], .src⟩ = some src) :
    node.markup? = some [.element ⟨"image", attributesOf (imageEntries (some src)
      (node.props.kept? ⟨["align"], .align⟩) (node.props.text? ["alt", "caption"]))⟩ []] := by
  have hvalue := valueOf?_src hkind
  rw [Node.markup?, hkind]
  simp only [imageMarkup?, hvalue, hsrc, Option.map_some]
  rw [Node.kept, hkind, named_kept_eq]
  simp only [Kind.attributeRules, List.map_cons, List.map_nil, hsrc]
  simp [attributesOf, imageEntries, Restricted.name]

end Template

namespace Element

/-- An image with an allowed source is read as a node with it. -/
theorem result_toImage {element : Element} {src : String}
    (h : (element.attribute? "src").bind Restricted.src.allow = some src) (limit : Nat)
    (made : List Kind) :
    element.toImage.result limit made =
      ([(((Node.next made .image).withText "alt" (element.attribute? "alt")).withText "src"
        (some src)).withText "align"
        ((element.attribute? "align").bind Restricted.align.allow)], .image :: made) := by
  rw [toImage]
  simp [Node.next, h, Dict.has]

/-- An image without an allowed source is made and dropped. -/
theorem result_toImage_of_none {element : Element}
    (h : (element.attribute? "src").bind Restricted.src.allow = none) (limit : Nat)
    (made : List Kind) : element.toImage.result limit made = ([], .image :: made) := by
  rw [toImage]
  cases element.attribute? "alt" <;>
    simp [h, Node.withText, Node.withProp, Dict.has, Dict.insert, Dict.get?, skip]

end Element

/-- An image is read as an image that is written in the same way. -/
theorem isStable_image {src : String} {align alt : Option String}
    (hsrc : IsNormal .src (some src)) (halign : IsNormal .align align)
    (halt : nonblank? alt = alt) :
    (Markup.element ⟨"image", attributesOf (imageEntries (some src) align alt)⟩ []).IsStable := by
  have hnodup := nodup_imageEntries (some src) align alt
  refine Yields.singleton .image rfl fun limit made =>
    ⟨(((Node.next made .image).withText "alt" alt).withText "src" (some src)).withText "align"
      align, ?_, ?_, ?_⟩
  · have hnodes (element : Element) (h : element.name = "image") :
        element.toNodes = element.toImage := by
      simp only [Element.toNodes, h]
    rw [Markup.toNodes_element (by decide), hnodes _ rfl,
      Element.result_toImage (Element.bind_attribute?_eq hnodup rfl hsrc),
      Element.attribute?_eq hnodup rfl halt, Element.bind_attribute?_eq hnodup rfl halign]
  · simp
  · rw [markup?_image (by simp)
        (Props.kept?_of_get? (v := some src) (by simp) (by simp) hsrc),
      Props.kept?_of_get? (v := align) (by simp) (by simp) halign,
      Props.text?_of_get? (v := alt) (by simp) (by simp), halt]

/-! ### Buttons -/

namespace Template

/-- The attributes of a button. -/
def buttonEntries (href style align : Option String) : List (String × Option String) :=
  [("href", href), ("style", style), ("align", align)]

theorem nodup_buttonEntries (href style align : Option String) :
    ((buttonEntries href style align).map Prod.fst).Nodup := by
  simp [buttonEntries]

/-- The markup of a button whose properties are known. -/
theorem markup?_button {node : Node} (hkind : node.kind = .button) {label : String}
    (hlabel : node.props.text? labelNames = some label) :
    node.markup? = some [plainElement ⟨"button", attributesOf (buttonEntries
      (node.props.kept? ⟨["href", "url", "link"], .href⟩)
      (node.props.kept? ⟨["variant", "style"], .style⟩)
      (node.props.kept? ⟨["align"], .align⟩))⟩ label] := by
  rw [Node.markup?, hkind]
  simp only [buttonMarkup?, hlabel, Option.map_some, Node.kept, hkind, named_kept_eq]
  rfl

end Template

namespace Element

/-- A button is read as a node with its label and what is allowed of its attributes. -/
theorem result_toButton {element : Element} {label : String}
    (h : nonempty? element.plainText = some label) (limit : Nat) (made : List Kind) :
    element.toButton.result limit made =
      ([((((Node.next made .button).withProp "label" (.text label)).withText "href"
        ((element.attribute? "href").bind Restricted.href.allow)).withText "variant"
        ((element.attribute? "style").bind Restricted.style.allow)).withText "align"
        ((element.attribute? "align").bind Restricted.align.allow)], .button :: made) := by
  rw [toButton, h]
  simp [Node.next]

end Element

/-- A button with a trimmed label is read as a button that is written in the same way. -/
theorem isStable_button {label : String} {href style align : Option String}
    (hlabel : IsTrimmed label.toList) (hblank : allBlank label.toList = false)
    (hhref : IsNormal .href href) (hstyle : IsNormal .style style)
    (halign : IsNormal .align align) :
    (plainElement ⟨"button", attributesOf (buttonEntries href style align)⟩ label).IsStable := by
  have hnodup := nodup_buttonEntries href style align
  refine Yields.singleton .button rfl fun limit made =>
    ⟨((((Node.next made .button).withProp "label" (.text label)).withText "href" href).withText
      "variant" style).withText "align" align, ?_, ?_, ?_⟩
  · have hread := Element.nonempty?_plainText_held hlabel hblank
    have hnodes (element : Element) (h : element.name = "button") :
        element.toNodes = element.toButton := by
      simp only [Element.toNodes, h]
    rw [plainElement, Markup.holding, ← Markup.held, Markup.toNodes_element (by decide),
      hnodes _ rfl, Element.result_toButton (hread _), Element.bind_attribute?_eq hnodup rfl hhref,
      Element.bind_attribute?_eq hnodup rfl hstyle, Element.bind_attribute?_eq hnodup rfl halign]
  · simp
  · have hfound : Props.text? labelNames (((((Node.next made .button).withProp "label"
        (.text label)).withText "href" href).withText "variant" style).withText "align"
        align).props = some label := by
      rw [labelNames, Props.text?_of_get? (v := some label) (by simp) (by simp),
        nonblank?_some hblank]
    rw [markup?_button (by simp) hfound,
      Props.kept?_of_get? (v := href) (by simp) (by simp) hhref,
      Props.kept?_of_get? (v := style) (by simp) (by simp) hstyle,
      Props.kept?_of_get? (v := align) (by simp) (by simp) halign]

/-! ### Dividers and spacers -/

namespace Template

/-- The attributes of a divider. -/
def dividerEntries (color margin : Option String) : List (String × Option String) :=
  [("color", color), ("margin", margin)]

theorem nodup_dividerEntries (color margin : Option String) :
    ((dividerEntries color margin).map Prod.fst).Nodup := by
  simp [dividerEntries]

/-- The markup of a divider. -/
theorem markup?_divider {node : Node} (hkind : node.kind = .divider) :
    node.markup? = some [.element ⟨"divider", attributesOf (dividerEntries
      (node.props.kept? ⟨["color"], .color⟩)
      (node.props.kept? ⟨["margin", "spacing"], .margin⟩))⟩ []] := by
  rw [Node.markup?, hkind]
  simp only [emptyMarkup, Node.kept, hkind, named_kept_eq]
  rfl

/-- The attributes of a spacer. -/
def spacerEntries (height : Option String) : List (String × Option String) :=
  [("height", height)]

theorem nodup_spacerEntries (height : Option String) :
    ((spacerEntries height).map Prod.fst).Nodup := by
  simp [spacerEntries]

/-- The markup of a spacer. -/
theorem markup?_spacer {node : Node} (hkind : node.kind = .spacer) :
    node.markup? = some [.element ⟨"spacer", attributesOf (spacerEntries
      (node.props.kept? ⟨["height", "size"], .height⟩))⟩ []] := by
  rw [Node.markup?, hkind]
  simp only [emptyMarkup, Node.kept, hkind, named_kept_eq]
  rfl

end Template

namespace Element

/-- A divider is read as a node with what is allowed of its attributes. -/
theorem result_toDivider (element : Element) (limit : Nat) (made : List Kind) :
    element.toDivider.result limit made =
      ([((Node.next made .divider).withText "color"
        ((element.attribute? "color").bind Restricted.color.allow)).withText "margin"
        ((element.attribute? "margin").bind Restricted.margin.allow)], .divider :: made) := by
  rw [toDivider]
  simp [Node.next]

/-- A spacer is read as a node with what is allowed of its height. -/
theorem result_toSpacer (element : Element) (limit : Nat) (made : List Kind) :
    element.toSpacer.result limit made =
      ([(Node.next made .spacer).withText "height"
        ((element.attribute? "height").bind Restricted.height.allow)], .spacer :: made) := by
  rw [toSpacer]
  simp [Node.next]

end Element

/-- A divider is read as a divider that is written in the same way. -/
theorem isStable_divider {color margin : Option String} (hcolor : IsNormal .color color)
    (hmargin : IsNormal .margin margin) :
    (Markup.element ⟨"divider", attributesOf (dividerEntries color margin)⟩ []).IsStable := by
  have hnodup := nodup_dividerEntries color margin
  refine Yields.singleton .divider rfl fun limit made =>
    ⟨((Node.next made .divider).withText "color" color).withText "margin" margin, ?_, ?_, ?_⟩
  · have hnodes (element : Element) (h : element.name = "divider") :
        element.toNodes = element.toDivider := by
      simp only [Element.toNodes, h]
    rw [Markup.toNodes_element (by decide), hnodes _ rfl, Element.result_toDivider,
      Element.bind_attribute?_eq hnodup rfl hcolor, Element.bind_attribute?_eq hnodup rfl hmargin]
  · simp
  · rw [markup?_divider (by simp),
      Props.kept?_of_get? (v := color) (by simp) (by simp) hcolor,
      Props.kept?_of_get? (v := margin) (by simp) (by simp) hmargin]

/-- A spacer is read as a spacer that is written in the same way. -/
theorem isStable_spacer {height : Option String} (hheight : IsNormal .height height) :
    (Markup.element ⟨"spacer", attributesOf (spacerEntries height)⟩ []).IsStable := by
  have hnodup := nodup_spacerEntries height
  refine Yields.singleton .spacer rfl fun limit made =>
    ⟨(Node.next made .spacer).withText "height" height, ?_, ?_, ?_⟩
  · have hnodes (element : Element) (h : element.name = "spacer") :
        element.toNodes = element.toSpacer := by
      simp only [Element.toNodes, h]
    rw [Markup.toNodes_element (by decide), hnodes _ rfl, Element.result_toSpacer,
      Element.bind_attribute?_eq hnodup rfl hheight]
  · simp
  · rw [markup?_spacer (by simp),
      Props.kept?_of_get? (v := height) (by simp) (by simp) hheight]

end PageMarkup
