import PageMarkup.Proofs.Import.Noise
import PageMarkup.Proofs.Import.Placing
import PageMarkup.Proofs.Stylesheet.Grammar

/-!
# Backgrounds of the sections of a rendered page

Each section of a rendered page becomes a section of the document, in order, and gets what is allowed
of the background that is found for it.  A stylesheet and an inline style declare backgrounds in the
same words, but they are not read alike: a rule passes over values that are empty, and an inline
style is taken by its first value, be it empty.
-/

namespace PageMarkup

open Text

/-! ### The value that counts -/

namespace Backgrounds

variable (b : Backgrounds)

/-- The value that counts for a rule is never empty. -/
theorem effective?_ne_empty : b.effective? ≠ some "" := fun h =>
  absurd (List.find?_some h) (by decide)

/-- The first value is the one that counts for a rule unless it is empty. -/
theorem first?_eq_effective?_iff : b.first? = b.effective? ↔ b.first? ≠ some "" := by
  refine ⟨fun h => h ▸ b.effective?_ne_empty, fun h => ?_⟩
  rw [first?] at h ⊢
  rw [effective?]
  cases hvalues : b.values with
  | nil => rfl
  | cons value values =>
    rw [hvalues, List.head?_cons] at h
    have hvalue : value ≠ "" := fun hempty => h (congrArg some hempty)
    rw [List.head?_cons, List.find?_cons_of_pos (by simpa using hvalue)]

end Backgrounds

namespace Stylesheet

/-- A rule with a body and the selector of a section gives the background that counts. -/
theorem filterMap_effective?_rules {selector body : List Char}
    (hrule : (Item.rule selector body).IsProper) (hselector : NamesSection (trim selector))
    (hfree : IsCommentFree (Item.rule selector body).chars) :
    (rules (Item.rule selector body).chars).filterMap (·.backgrounds.effective?) =
      (Backgrounds.read body).effective?.toList := by
  have hblocks := @blocks_charsAll [.rule selector body] ⟨hrule, trivial⟩ []
    (fun c hc => absurd hc List.not_mem_nil)
  rw [Item.charsAll, Item.charsAll, List.append_nil, List.append_nil] at hblocks
  rw [rules_eq, withoutComments_eq_self hfree, hblocks, Option.getD_some]
  show (sectionRules [(trim selector, body)]).filterMap _ = _
  cases heffective : (Backgrounds.read body).effective? with
  | none =>
    have hbody : ¬ HasBackground body := by simp [← isSome_effective?_iff, heffective]
    simp [sectionRules, hbody]
  | some value =>
    have hbody : HasBackground body := by simp [← isSome_effective?_iff, heffective]
    simp [sectionRules, hbody, hselector, heffective]

end Stylesheet

/-! ### Sections of a rendered page -/

namespace Html

/-- The sections among some items. -/
def sections (items : List Item) : List Section :=
  items.filterMap fun
    | .section part => some part
    | .block _ => none

/-- The background that the inline style of a section sets first. -/
def Section.inline? (part : Section) : Option String :=
  part.style.bind fun inline => (Backgrounds.read inline.toList).first?

end Html

namespace Background

/-- What a page defines outside its sections. -/
def defined (page : List Char) : PageStyle where
  rules := Stylesheet.rules (joinWith ['\n'] (styleBlocks page))
  backdrops := Html.Backdrop.findAll page

/-- The background of a section of a page whose inline style sets a background, or none. -/
def ofSection? (page : List Char) (part : Html.Section) (inline : Option String) : Option Found :=
  find? (defined page) (inline.map (Found.mk · .inlineStyle)) part.id part.classes
    (some (part.start, part.stop))

end Background

namespace Node

/-- The background of the node is what is allowed of a background that was found, if any was. -/
structure HasBackground (node : Node) (found : Option Background.Found) : Prop where
  color : Dict.get? "backgroundColor" node.props =
    ((Background.parts found).1.bind Restricted.bgColor.allow).map Value.text
  image : Dict.get? "backgroundImage" node.props =
    ((Background.parts found).2.bind Restricted.bgImage.allow).map Value.text

/-- An empty value is no background: it is taken as a color, and is not allowed as one. -/
theorem HasBackground.of_empty {node : Node} {source : Background.Origin}
    (h : node.HasBackground (some ⟨"", source⟩)) : node.HasBackground none := by
  have hsplit : Background.split "" = (some "", none) := by decide
  have hparts : Background.parts (some ⟨"", source⟩) = (some "", none) := by
    rw [Background.parts, Option.map_some, Option.getD_some, hsplit]
  have hallow : Restricted.bgColor.allow "" = none := by decide
  obtain ⟨hcolor, himage⟩ := h
  rw [hparts, Option.bind_some, hallow] at hcolor
  rw [hparts] at himage
  exact ⟨hcolor, himage⟩

/-- A color that is allowed as it is becomes the color of the node. -/
theorem HasBackground.of_allowed {node : Node} {color : String} {source : Background.Origin}
    (h : node.HasBackground (some ⟨color, source⟩))
    (hcolor : Restricted.bgColor.allow color = some color) :
    Dict.get? "backgroundColor" node.props = some (.text color) := by
  have hparts : Background.parts (some ⟨color, source⟩) = (some color, none) := by
    rw [Background.parts, Option.map_some, Option.getD_some, Background.split_of_allow hcolor]
  rw [h.color, hparts, Option.bind_some, hcolor, Option.map_some]

end Node

namespace Import

variable (limit : Nat)

/-- A section is read as a section with the background that is found for it. -/
theorem exists_result_htmlSectionNode (page : List Char) (part : Html.Section) (made : List Kind) :
    ∃ node, (htmlSectionNode (Background.defined page) part).result limit made =
      (node, .section :: made) ∧ node.kind.isStructural = true ∧
        node.HasBackground (Background.ofSection? page part part.inline?) := by
  have hexplicit : (part.style.bind fun inline =>
      (Backgrounds.read inline.toList).first?.map (Background.Found.mk · .inlineStyle)) =
        part.inline?.map (Background.Found.mk · .inlineStyle) := by
    rw [Html.Section.inline?, Option.map_bind]
    rfl
  simp only [htmlSectionNode, hexplicit, Drafting.result_bind, Drafting.result_node,
    result_withBackground]
  refine ⟨_, rfl, Kind.isStructural_iff.mpr (by simp), ?_, ?_⟩
  · simp [Background.ofSection?, Dict.get?]
  · simp [Background.ofSection?, Dict.get?]

/-- Placing the items of a page adds a section for each section among them, in order. -/
theorem exists_topLevel_placeItems (page : List Char) (items : List Html.Item) (doc : Document)
    (made : List Kind) :
    ∃ nodes, ((placeItems (Background.defined page) items doc).result limit made).1.topLevel =
        doc.topLevel ++ nodes ∧
      List.Forall₂ (fun part node =>
          Node.HasBackground node (Background.ofSection? page part part.inline?))
        (Html.sections items) (nodes.filter (·.kind.isStructural)) := by
  induction items generalizing doc made with
  | nil => exact ⟨[], by simp [placeItems], .nil⟩
  | cons item items ih =>
    cases item with
    | «section» part =>
      obtain ⟨node, hnode, hkind, hfound⟩ := exists_result_htmlSectionNode limit page part made
      let inside := (blockNodes part.blocks).result limit (.section :: made)
      obtain ⟨nodes, htop, hnodes⟩ := ih ({ doc with topLevel := doc.topLevel ++ [node] }.pushAll
        node.contentKey inside.1) inside.2
      refine ⟨node :: nodes, ?_, ?_⟩
      · rw [placeItems]
        simp only [Drafting.result_bind, hnode, result_placeSection]
        rw [htop, Document.topLevel_pushAll, List.append_assoc, List.singleton_append]
      · have hfilter : (node :: nodes).filter (·.kind.isStructural) =
            node :: nodes.filter (·.kind.isStructural) := List.filter_cons_of_pos hkind
        rw [hfilter]
        exact .cons hfound hnodes
    | block block =>
      let node := (blockNode block).result limit made
      have hkind := (drafted_blockNode limit made block).isContent node.1 List.mem_cons_self
      obtain ⟨nodes, htop, hnodes⟩ := ih { doc with topLevel := doc.topLevel ++ [node.1] } node.2
      refine ⟨node.1 :: nodes, ?_, ?_⟩
      · rw [placeItems]
        simp only [Drafting.result_bind, result_place_none]
        rw [htop, List.append_assoc, List.singleton_append]
      · have hfilter : (node.1 :: nodes).filter (·.kind.isStructural) =
            nodes.filter (·.kind.isStructural) := List.filter_cons_of_neg (by simp [hkind])
        rw [hfilter]
        exact hnodes

/-- The sections of an imported page are those of the page, in order, and each has the background
that is found for it. -/
theorem forall₂_sections_pageAs (content : String) :
    List.Forall₂ (fun part node =>
        Node.HasBackground node (Background.ofSection? content.toList part part.inline?))
      (Html.sections (Html.items content.toList))
      (((pageAs false content).result limit).topLevel.filter (·.kind.isStructural)) := by
  obtain ⟨nodes, htop, hnodes⟩ := exists_topLevel_placeItems limit content.toList
    (Html.items content.toList) .empty []
  rw [result_pageAs, Background.result_harvest, drafted, if_neg Bool.false_ne_true,
    Drafting.result_bind, Drafting.result_note]
  show List.Forall₂ _ _ (List.filter _ ((placeItems (Background.defined content.toList) _
    _).result limit []).1.topLevel)
  rw [htop]
  exact hnodes

/-- The first section of a page is imported as the first section. -/
theorem exists_head_of_forall₂ {α : Type} {related : Html.Section → Node → Prop}
    {parts : List Html.Section} {nodes : List Node} {f : Html.Section → α} {a : α}
    (hparts : (parts.map f).head? = some a) (h : List.Forall₂ related parts nodes) :
    ∃ part node, f part = a ∧ nodes.head? = some node ∧ related part node := by
  cases h with
  | nil => exact absurd hparts (by simp)
  | @cons part node _ _ hrelated => exact ⟨part, node, Option.some.inj hparts, rfl, hrelated⟩

/-! ### Inline styles and rules -/

/-- From the same declarations a rule takes the first value that is not empty, an inline style
takes the first value.  The two agree exactly where the first value is not empty; where it is, the
section gets no background, whatever else is declared or found for it. -/
theorem inline_agrees_with_rule_iff (declarations : List Char) :
    (∀ selector, (Stylesheet.Item.rule selector declarations).IsProper →
      Stylesheet.NamesSection (trim selector) →
      Stylesheet.IsCommentFree (Stylesheet.Item.rule selector declarations).chars →
        (Stylesheet.rules (Stylesheet.Item.rule selector declarations).chars).filterMap
            (·.backgrounds.effective?) =
          (Backgrounds.read declarations).effective?.toList) ∧
    (∀ tag : Html.Tag, Html.attribute? "style" tag.attributes = some declarations →
      (Html.Backdrop.inline? tag = (Backgrounds.read declarations).effective? ↔
        (Backgrounds.read declarations).first? ≠ some "")) ∧
    ∀ content limit, List.Forall₂ (fun part node =>
        part.style = some (String.ofList declarations) →
          ((Backgrounds.read declarations).first? ≠ some "" →
            Node.HasBackground node (Background.ofSection? content.toList part
              (Backgrounds.read declarations).effective?)) ∧
          ((Backgrounds.read declarations).first? = some "" → Node.HasBackground node none))
      (Html.sections (Html.items content.toList))
      (((pageAs false content).result limit).topLevel.filter (·.kind.isStructural)) := by
  refine ⟨fun selector hrule hselector hfree =>
    Stylesheet.filterMap_effective?_rules hrule hselector hfree, fun tag htag => ?_,
    fun content limit => ?_⟩
  · have hinline : Html.Backdrop.inline? tag = (Backgrounds.read declarations).first? := by
      rw [Html.Backdrop.inline?, htag]
      rfl
    rw [hinline]
    exact Backgrounds.first?_eq_effective?_iff _
  · refine (forall₂_sections_pageAs limit content).imp fun part node hfound hstyle => ?_
    have hinline : part.inline? = (Backgrounds.read declarations).first? := by
      rw [Html.Section.inline?, hstyle, Option.bind_some, String.toList_ofList]
    rw [hinline] at hfound
    refine ⟨fun hfirst => ?_, fun hfirst => ?_⟩
    · rwa [← (Backgrounds.first?_eq_effective?_iff _).mpr hfirst]
    · rw [hfirst] at hfound
      exact hfound.of_empty

/-- The opening tag of a section with this inline style. -/
def styledTag (declarations : String) : Html.Tag :=
  ⟨false, "section".toList, (" style=\"" ++ declarations ++ "\"").toList⟩

/-- A page with one section, which has this inline style. -/
def styledPage (declarations : String) : String :=
  "<section style=\"" ++ declarations ++ "\"><p>x</p></section>"

/-- Declarations whose first value is empty. -/
def emptyShorthand : String :=
  "background: ; background-color: #123456"

/-- The first section of the page has these declarations. -/
theorem head?_style_emptyShorthand :
    ((Html.sections (Html.items (styledPage emptyShorthand).toList)).map (·.style)).head? =
      some (some emptyShorthand) := by
  decide

/-- The rule sets the color, and the inline styles with the same declarations set nothing; without
the empty value the section has the color. -/
theorem inline_agrees_with_rule_iff_emptyShorthand :
    (Stylesheet.Item.rule ".section".toList emptyShorthand.toList).IsProper ∧
      (Stylesheet.rules (Stylesheet.Item.rule ".section".toList emptyShorthand.toList).chars
        ).filterMap (·.backgrounds.effective?) = ["#123456"] ∧
      Html.attribute? "style" (styledTag emptyShorthand).attributes =
        some emptyShorthand.toList ∧
      Html.Backdrop.inline? (styledTag emptyShorthand) ≠ some "#123456" ∧
      (∃ node, (((pageAs false (styledPage emptyShorthand)).result 0).topLevel.filter
          (·.kind.isStructural)).head? = some node ∧
        Dict.get? "backgroundColor" node.props = none) ∧
      ∃ node, (((pageAs false (styledPage "background: #123456")).result 0).topLevel.filter
          (·.kind.isStructural)).head? = some node ∧
        Dict.get? "backgroundColor" node.props = some (.text "#123456") := by
  obtain ⟨hrules, htags, hsections⟩ := inline_agrees_with_rule_iff emptyShorthand.toList
  have hproper : (Stylesheet.Item.rule ".section".toList emptyShorthand.toList).IsProper := by
    refine ⟨?_, ?_, ?_, ?_⟩ <;> decide +kernel
  have hfree : Stylesheet.IsCommentFree
      (Stylesheet.Item.rule ".section".toList emptyShorthand.toList).chars := by
    rintro ⟨front, inner, back, h⟩
    have hstar : '*' ∈ (Stylesheet.Item.rule ".section".toList emptyShorthand.toList).chars := by
      rw [h]
      simp [Stylesheet.commentStart]
    exact absurd hstar (by decide +kernel)
  have heffective : (Backgrounds.read emptyShorthand.toList).effective? = some "#123456" := by
    decide +kernel
  have hfirst : (Backgrounds.read emptyShorthand.toList).first? = some "" := by decide +kernel
  have hattribute : Html.attribute? "style" (styledTag emptyShorthand).attributes =
      some emptyShorthand.toList := by decide +kernel
  rw [heffective] at hrules htags
  refine ⟨hproper, hrules _ hproper (by decide +kernel) hfree, hattribute,
    fun h => (htags _ hattribute).mp h hfirst, ?_, ?_⟩
  · obtain ⟨part, node, hstyle, hnode, hfound⟩ := exists_head_of_forall₂
      head?_style_emptyShorthand (hsections (styledPage emptyShorthand) 0)
    have hnone := (hfound (hstyle.trans (by rw [String.ofList_toList]))).2 hfirst
    exact ⟨node, hnode, hnone.color⟩
  · have hstyle : ((Html.sections (Html.items (styledPage "background: #123456").toList)).map
        (·.style)).head? = some (some "background: #123456") := by decide +kernel
    obtain ⟨part, node, hstyle, hnode, hfound⟩ := exists_head_of_forall₂ hstyle
      ((inline_agrees_with_rule_iff "background: #123456".toList).2.2
        (styledPage "background: #123456") 0)
    have hcolor := (hfound (hstyle.trans (by rw [String.ofList_toList]))).1 (by decide +kernel)
    have hvalue : (Backgrounds.read "background: #123456".toList).effective? =
        some "#123456" := by decide +kernel
    rw [hvalue] at hcolor
    exact ⟨node, hnode, hcolor.of_allowed (by decide +kernel)⟩

/-- Neither the inline style of an element nor that of a section is read as a rule is. -/
theorem not_inline_agrees_with_rule :
    (¬ ∀ declarations : List Char, '\x7b' ∉ declarations → '\x7d' ∉ declarations →
      ∀ tag : Html.Tag, Html.attribute? "style" tag.attributes = some declarations →
        Html.Backdrop.inline? tag = (Backgrounds.read declarations).effective?) ∧
    ¬ ∀ declarations : List Char, '\x7b' ∉ declarations → '\x7d' ∉ declarations →
      ∀ content limit, List.Forall₂ (fun part node =>
          part.style = some (String.ofList declarations) →
            Node.HasBackground node (Background.ofSection? content.toList part
              (Backgrounds.read declarations).effective?))
        (Html.sections (Html.items content.toList))
        (((pageAs false content).result limit).topLevel.filter (·.kind.isStructural)) := by
  have hbraces : '\x7b' ∉ emptyShorthand.toList ∧ '\x7d' ∉ emptyShorthand.toList := by
    decide +kernel
  refine ⟨fun h => ?_, fun h => ?_⟩
  · have htag := h _ hbraces.1 hbraces.2 (styledTag emptyShorthand) (by decide +kernel)
    exact absurd htag (by decide +kernel)
  · have hlaw := h _ hbraces.1 hbraces.2 (styledPage emptyShorthand) 0
    obtain ⟨part, node, hstyle, hnode, hfound⟩ :=
      exists_head_of_forall₂ head?_style_emptyShorthand hlaw
    obtain ⟨other, _, hother, hsame, hempty⟩ := exists_head_of_forall₂
      head?_style_emptyShorthand (forall₂_sections_pageAs 0 (styledPage emptyShorthand))
    obtain rfl := Option.some.inj (hnode.symm.trans hsame)
    have heffective : (Backgrounds.read emptyShorthand.toList).effective? = some "#123456" := by
      decide +kernel
    have hinline : other.inline? = some "" := by
      rw [Html.Section.inline?, hother]
      decide +kernel
    have hcolor := hfound (hstyle.trans (by rw [String.ofList_toList]))
    rw [heffective] at hcolor
    rw [hinline] at hempty
    have hset := hcolor.of_allowed (by decide +kernel)
    rw [hempty.of_empty.color] at hset
    exact absurd hset (by simp [Background.parts])

end Import

end PageMarkup
