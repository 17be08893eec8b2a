import PageMarkup.Proofs.Compile.Converted
import PageMarkup.Proofs.Import.Rendered
import PageMarkup.Proofs.Import.WellFormed

/-!
# What a node is given to show

A node is given something to show where it has the text that its kind needs, a source, or some part
of a box.  A node with nothing but what an import stores in it is shown as it was given content, or
its texts would have to turn blank.
-/

namespace PageMarkup

open Text Template

/-! ### What a node was given -/

namespace Node

/-- The node has a text under a name, which is not blank. -/
def hasText (node : Node) (name : String) : Bool :=
  (node.props.text? [name]).isSome

/-- The node was given something to show: the text that its kind needs, a source, or some part of a
box. -/
def hasContent (node : Node) : Bool :=
  match node.kind with
  | .heading => node.hasText "title"
  | .image => Dict.has "src" node.props
  | .button => node.hasText "label"
  | .card => node.hasText "title" || node.hasText "text" || node.hasText "buttonLabel" ||
      Dict.has "image" node.props
  | .testimonial => node.hasText "quote"
  | .hero => node.hasText "title" || node.hasText "subtitle" || node.hasText "ctaLabel"
  | _ => true

/-- The node is shown exactly if it was given something to show, and only nodes of the kinds `bare`
were given nothing. -/
structure Agrees (bare : List Kind) (node : Node) : Prop where
  isShown_eq : node.isShown = node.hasContent
  kind_mem : node.hasContent = false → node.kind ∈ bare

variable {node : Node} {bare : List Kind}

/-- A node of one of the kinds that may be bare agrees if it is shown as it was given content. -/
theorem agrees_of_mem (hkind : node.kind ∈ bare) (h : node.isShown = node.hasContent) :
    node.Agrees bare :=
  ⟨h, fun _ => hkind⟩

/-- A node that was given something to show agrees if it is shown. -/
theorem agrees_of_isShown (hcontent : node.hasContent = true) (h : node.isShown = true) :
    node.Agrees bare :=
  ⟨h.trans hcontent.symm, fun hbare => absurd (hcontent.symm.trans hbare) (by decide)⟩

/-- A node that was given something to show agrees if it is shown as it was given content. -/
theorem agrees_of_hasContent (hcontent : node.hasContent = true)
    (h : node.isShown = node.hasContent) : node.Agrees bare :=
  agrees_of_isShown hcontent (h.trans hcontent)

/-- Every section agrees. -/
theorem agrees_section (hkind : node.kind = .section) : node.Agrees bare :=
  agrees_of_isShown (by rw [hasContent, hkind]) (by rw [isShown, hkind]; rfl)

end Node

/-- Names under which nothing is stored do not matter. -/
theorem Props.text?_cons_of_none {props : Props} {name : String} {names : List String}
    (h : ∀ other ∈ names, Dict.get? other props = none) :
    props.text? (name :: names) = props.text? [name] := by
  have hnone : props.text? names = none := by
    rw [text?, candidates, List.filterMap_eq_nil_iff.mpr h]
    rfl
  rw [text?_cons, text?_cons name [], hnone]
  rfl

namespace Node

variable {node : Node} {bare : List Kind}

/-- A text that is not blank is there. -/
theorem hasText_of_get? {name text : String} (h : Dict.get? name node.props = some (.text text))
    (hblank : allBlank text.toList = false) : node.hasText name = true := by
  rw [hasText, Props.text?_of_get? (v := some text) h (List.forall_mem_nil _),
    nonblank?_some hblank]
  rfl

/-! ### When a node is shown -/

theorem isShown_heading (hkind : node.kind = .heading)
    (h : ∀ other ∈ ["text", "content"], Dict.get? other node.props = none) :
    node.isShown = node.hasContent := by
  rw [isShown, hasContent, markup?, hkind]
  simp only [headingMarkup?, Option.isSome_map, headingNames, Props.text?_cons_of_none h]
  rfl

theorem isShown_text (hkind : node.kind = .text) {body : String}
    (hbody : Dict.get? "text" node.props = some (.text body))
    (hblank : allBlank body.toList = false)
    (h : ∀ other ∈ ["content", "body"], Dict.get? other node.props = none) :
    node.isShown = true := by
  have htext : node.props.text? textNames = some body := by
    rw [textNames, Props.text?_of_get? (v := some body) hbody h, nonblank?_some hblank]
  rw [isShown, markup?, hkind]
  simp only [textMarkup?, htext, Option.map_some, Option.isSome_some, Bool.or_true]

theorem isShown_button (hkind : node.kind = .button)
    (h : ∀ other ∈ ["text", "title"], Dict.get? other node.props = none) :
    node.isShown = node.hasContent := by
  rw [isShown, hasContent, markup?, hkind]
  simp only [buttonMarkup?, Option.isSome_map, labelNames, Props.text?_cons_of_none h]
  rfl

theorem isShown_testimonial (hkind : node.kind = .testimonial)
    (h : ∀ other ∈ ["text", "content"], Dict.get? other node.props = none) :
    node.isShown = node.hasContent := by
  rw [isShown, hasContent, markup?, hkind]
  simp only [testimonialMarkup?, Option.isSome_map, Props.text?_cons_of_none h]
  rfl

theorem isShown_image (hkind : node.kind = .image) (src : Option String)
    (hsrc : Dict.get? "src" node.props = src.map Value.text) (hnormal : IsNormal .src src)
    (h : ∀ other ∈ ["url", "image"], Dict.get? other node.props = none) :
    node.isShown = node.hasContent := by
  rw [isShown, hasContent, markup?, hkind]
  simp only [imageMarkup?, Option.isSome_map, valueOf?_src hkind,
    Props.kept?_of_get? hsrc h hnormal, Dict.has, hsrc]
  rfl

end Node

namespace BoxContent

/-- A box has a part if something was found in it. -/
theorem isEmpty_parts (box : BoxContent) :
    (!box.parts.isEmpty) =
      (box.title.isSome || box.body.isSome || box.label.isSome || box.src.isSome) := by
  obtain ⟨isHero, title, body, label, href, src, color, image, padding, align⟩ := box
  simp only [parts]
  cases src <;> cases title <;> cases body <;> cases label <;> rfl

/-- A node that shows a box is shown if it has a part of one. -/
theorem isShown_box {node : Node} (isHero : Bool)
    (hkind : node.kind = if isHero then .hero else .card) :
    node.isShown = ((ofProps isHero node.props).title.isSome ||
      (ofProps isHero node.props).body.isSome || (ofProps isHero node.props).label.isSome ||
        (ofProps isHero node.props).src.isSome) := by
  have hstructural : node.kind.isStructural = false := by
    rw [hkind]
    split <;> rfl
  rw [Node.isShown, hstructural, Bool.false_or, markup?_box hkind, ← isEmpty_parts]
  split <;> simp_all

end BoxContent

namespace Node

variable {node : Node}

theorem isShown_hero (hkind : node.kind = .hero)
    (h : ∀ other ∈ ["heading", "description", "text", "buttonLabel"],
      Dict.get? other node.props = none) : node.isShown = node.hasContent := by
  have htitle : node.props.text? titleNames = node.props.text? ["title"] :=
    Props.text?_cons_of_none (by simp_all)
  have hbody : node.props.text? ["subtitle", "description", "text"] =
      node.props.text? ["subtitle"] :=
    Props.text?_cons_of_none (by simp_all)
  have hlabel : node.props.text? ["ctaLabel", "buttonLabel"] = node.props.text? ["ctaLabel"] :=
    Props.text?_cons_of_none (by simp_all)
  rw [BoxContent.isShown_box true hkind, hasContent, hkind]
  simp only [BoxContent.ofProps, if_true, htitle, hbody, hlabel, Option.isSome_none, Bool.or_false]
  rfl

theorem isShown_card (hkind : node.kind = .card) (src : Option String)
    (hsrc : Dict.get? "image" node.props = src.map Value.text) (hnormal : IsNormal .src src)
    (h : ∀ other ∈ ["heading", "description", "body", "ctaLabel", "linkLabel", "imageUrl", "src"],
      Dict.get? other node.props = none) : node.isShown = node.hasContent := by
  have htitle : node.props.text? titleNames = node.props.text? ["title"] :=
    Props.text?_cons_of_none (by simp_all)
  have hbody : node.props.text? ["text", "description", "body"] = node.props.text? ["text"] :=
    Props.text?_cons_of_none (by simp_all)
  have hlabel : node.props.text? ["buttonLabel", "ctaLabel", "linkLabel"] =
      node.props.text? ["buttonLabel"] :=
    Props.text?_cons_of_none (by simp_all)
  have hsource : allowed? .src ["image", "imageUrl", "src"] node.props = src :=
    allowed?_of_get? hsrc (by simp_all) hnormal
  rw [BoxContent.isShown_box false hkind, hasContent, hkind]
  simp only [BoxContent.ofProps, Bool.false_eq_true, if_false, htitle, hbody, hlabel, hsource,
    Dict.has, hsrc, Option.isSome_map]
  rfl

end Node

/-! ### Texts that are kept -/

namespace Element

/-- Rich text is read as a text that is not blank, unless it is blank itself. -/
theorem allBlank_rich_toList {text : String} (h : allBlank text.toList = false) :
    allBlank (rich text).toList = false := by
  cases htrim : trim text.toList with
  | nil => exact absurd (trim_eq_nil_iff.mp htrim) (by simp [h])
  | cons c cs =>
    have hc : isBlank c = false := (isTrimmed_trim text.toList).1 c (by simp [htrim])
    obtain ⟨first, rest, hopened, hfirst⟩ := exists_replaceAll_cons "&#91;".toList '[' c cs
    obtain ⟨last, more, hclosed, hlast⟩ := exists_replaceAll_cons "&#93;".toList ']' first rest
    rw [toList_rich, Escape.unbracket, htrim, hopened, hclosed, allBlank, List.all_cons]
    rcases hlast with rfl | rfl
    · rfl
    · rcases hfirst with rfl | rfl
      · rfl
      · rw [hc, Bool.false_and]

/-- Rich text that is not empty once it is read is not blank. -/
theorem allBlank_of_nonempty?_rich {text body : String} (h : nonempty? (rich text) = some body) :
    allBlank body.toList = false := by
  rw [nonempty?] at h
  split at h
  · exact absurd h (by simp)
  · rename_i hne
    obtain rfl := Option.some.inj h
    apply allBlank_rich_toList
    rw [← Bool.not_eq_true]
    intro hblank
    refine hne (String.toList_inj.mp ?_)
    rw [toList_rich, trim_eq_nil hblank]
    rfl

end Element

namespace Node

variable {node : Node}

/-- A node that holds a list of records is shown if there is a record in it. -/
theorem isShown_columns (hkind : node.kind = .columns) (records : List Props)
    (h : Dict.get? "columns" node.props = some (.list (records.map Value.record)))
    (hne : records ≠ []) : node.isShown = true := by
  rw [isShown, markup?, hkind]
  simp [columnsMarkup?, columnItems, records_of_get? h hne, hne]

theorem isShown_featureGrid (hkind : node.kind = .featureGrid) (records : List Props)
    (h : Dict.get? "features" node.props = some (.list (records.map Value.record)))
    (hne : records ≠ []) : node.isShown = true := by
  rw [isShown, markup?, hkind]
  simp [featureGridMarkup?, featureItems, records_of_get? h hne, hne]

theorem isShown_statsRow (hkind : node.kind = .statsRow) (records : List Props)
    (h : Dict.get? "stats" node.props = some (.list (records.map Value.record)))
    (hne : records ≠ []) : node.isShown = true := by
  rw [isShown, markup?, hkind]
  simp [statsRowMarkup?, statisticItems, records_of_get? h hne, hne]

theorem isShown_pricingCards (hkind : node.kind = .pricingCards) (records : List Props)
    (h : Dict.get? "plans" node.props = some (.list (records.map Value.record)))
    (hne : records ≠ []) : node.isShown = true := by
  rw [isShown, markup?, hkind]
  simp [pricingMarkup?, planItems, records_of_get? h hne, hne]

theorem isShown_faq (hkind : node.kind = .faq) (records : List Props)
    (h : Dict.get? "items" node.props = some (.list (records.map Value.record)))
    (hne : records ≠ []) : node.isShown = true := by
  rw [isShown, markup?, hkind]
  simp [faqMarkup?, questionItems, records_of_get? h hne, hne]

end Node

end PageMarkup
