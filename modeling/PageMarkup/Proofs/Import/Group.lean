import PageMarkup.Proofs.Import.Leaf

/-!
# Testimonials, plans and questions are read back

A testimonial is an element with a text.  Plans and questions stand in blocks, one on each line;
each is read as a record, from which its template writes it again.
-/

namespace PageMarkup

open Text Template

/-! ### Testimonials -/

namespace Template

/-- The attributes of a testimonial. -/
def testimonialEntries (author job portrait : Option String) : List (String × Option String) :=
  [("author", author), ("job_title", job), ("portrait", portrait)]

theorem nodup_testimonialEntries (author job portrait : Option String) :
    ((testimonialEntries author job portrait).map Prod.fst).Nodup := by
  simp [testimonialEntries]

/-- The markup of a testimonial whose properties are known. -/
theorem markup?_testimonial {node : Node} (hkind : node.kind = .testimonial) {quote : String}
    (hquote : node.props.text? ["quote", "text", "content"] = some quote) :
    node.markup? = some [plainElement ⟨"testimonial", attributesOf (testimonialEntries
      (node.props.text? ["author", "name"])
      (node.props.text? ["role", "jobTitle", "company"])
      (allowed? .src ["avatar", "image", "portrait"] node.props))⟩ quote] := by
  rw [Node.markup?, hkind]
  simp only [testimonialMarkup?, hquote, Option.map_some, testimonialAttributes]
  simp [attributesOf, testimonialEntries]

end Template

namespace Element

/-- A testimonial is read as a node with its quote and its attributes. -/
theorem result_toTestimonial {element : Element} {quote : String}
    (h : nonempty? element.plainText = some quote) (limit : Nat) (made : List Kind) :
    element.toTestimonial.result limit made =
      ([((((Node.next made .testimonial).withProp "quote" (.text quote)).withText "author"
        (element.attribute? "author")).withText "role" (element.attribute? "job_title")).withText
        "avatar" ((element.attribute? "portrait").bind Restricted.src.allow)],
        .testimonial :: made) := by
  rw [toTestimonial, h]
  simp [Node.next]

end Element

/-- A testimonial with a trimmed quote is read as one that is written in the same way. -/
theorem isStable_testimonial {quote : String} {author job portrait : Option String}
    (hquote : IsTrimmed quote.toList) (hblank : allBlank quote.toList = false)
    (hauthor : nonblank? author = author) (hjob : nonblank? job = job)
    (hportrait : IsNormal .src portrait) :
    (plainElement ⟨"testimonial", attributesOf (testimonialEntries author job portrait)⟩
      quote).IsStable := by
  have hnodup := nodup_testimonialEntries author job portrait
  refine Yields.singleton .testimonial rfl fun limit made =>
    ⟨((((Node.next made .testimonial).withProp "quote" (.text quote)).withText "author"
      author).withText "role" job).withText "avatar" portrait, ?_, ?_, ?_⟩
  · have hread := Element.nonempty?_plainText_held hquote hblank
    have hnodes (element : Element) (h : element.name = "testimonial") :
        element.toNodes = element.toTestimonial := by
      simp only [Element.toNodes, h]
    rw [plainElement, Markup.holding, ← Markup.held, Markup.toNodes_element (by decide),
      hnodes _ rfl, Element.result_toTestimonial (hread _),
      Element.attribute?_eq hnodup rfl hauthor, Element.attribute?_eq hnodup rfl hjob,
      Element.bind_attribute?_eq hnodup rfl hportrait]
  · simp
  · have hfound : Props.text? ["quote", "text", "content"] (((((Node.next made
        .testimonial).withProp "quote" (.text quote)).withText "author" author).withText "role"
        job).withText "avatar" portrait).props = some quote := by
      rw [Props.text?_of_get? (v := some quote) (by simp) (by simp), nonblank?_some hblank]
    rw [markup?_testimonial (by simp) hfound,
      Props.text?_of_get? (v := author) (by simp) (by simp),
      Props.text?_of_get? (v := job) (by simp) (by simp),
      allowed?_of_get? (v := portrait) (by simp) (by simp) hportrait, hauthor, hjob]

/-! ### Lists of records -/

/-- A list of records under the first of some names is found. -/
theorem records_of_get? {props : Props} {name : String} {names : List String}
    {items : List Props} (h : Dict.get? name props = some (.list (items.map Value.record)))
    (hitems : items ≠ []) : records (name :: names) props = items := by
  have hblank : (Value.list (items.map Value.record)).isBlank = false := by
    simp [Value.isBlank, hitems]
  rw [records, Props.value?_cons, h, Option.filter_some, hblank]
  simp only [Bool.not_false, if_true, Option.some_or, Option.bind_some, Value.items?,
    Option.getD_some, List.filterMap_map]
  exact List.filterMap_some

/-- Without a title there is no heading above a group. -/
theorem groupTitle_of_get? {props : Props}
    (h : ∀ name ∈ titleNames, Dict.get? name props = none) : groupTitle props = [] := by
  have hnone : props.text? titleNames = none := by
    rw [Props.text?, Props.candidates, List.filterMap_eq_nil_iff.mpr h]
    rfl
  rw [groupTitle, hnone]
  rfl

/-! ### Plans -/

/-- The feature of a plan can be told from its line. -/
structure IsFeature (feature : String) : Prop where
  isTrimmed : IsTrimmed feature.toList
  not_blank : allBlank feature.toList = false
  no_newline : '\n' ∉ feature.toList

instance (feature : String) : Decidable (IsFeature feature) :=
  decidable_of_iff
    (IsTrimmed feature.toList ∧ allBlank feature.toList = false ∧ '\n' ∉ feature.toList)
    ⟨fun ⟨htrim, hblank, hnewline⟩ => ⟨htrim, hblank, hnewline⟩,
      fun h => ⟨h.isTrimmed, h.not_blank, h.no_newline⟩⟩

namespace Template

/-- The attributes of the table of a plan. -/
def planEntries (plan : Props) : List (String × Option String) :=
  [("title", plan.text? ["name", "title"]),
    ("price", plan.text? ["price"]),
    ("period", plan.text? ["period", "interval"]),
    ("featured", if isFeatured plan then some "on" else none),
    ("button_text", plan.text? ["ctaLabel", "buttonLabel"]),
    ("button_url", allowed? .href ["ctaHref", "buttonHref", "href"] plan)]

theorem nodup_planEntries (plan : Props) : ((planEntries plan).map Prod.fst).Nodup := by
  simp [planEntries]

theorem planAttributes_eq (plan : Props) :
    planAttributes plan = attributesOf (planEntries plan) := by
  simp [planAttributes, attributesOf, planEntries]

/-- The line that lists a feature. -/
def featureLine (feature : String) : List Char :=
  ['+', ' '] ++ Escape.text feature.toList

/-- The lines that list features are one for each of them. -/
theorem featureLines_eq (features : List String) :
    featureLines features = joinWith ['\n'] (features.map featureLine) := rfl

end Template

namespace Element

/-- A line that lists a feature is read without its mark. -/
theorem featureOf_featureLine {feature : String} (h : IsFeature feature) :
    featureOf (featureLine feature) = Escape.text feature.toList := by
  have htext : trim (Escape.text feature.toList) = Escape.text feature.toList := by
    rw [Escape.trim_text, h.isTrimmed.trim_eq]
  have hne : Escape.text feature.toList ≠ [] := by
    intro hnil
    have hnone : trim feature.toList = [] := by
      have hdecode := Escape.decode_text feature.toList
      rw [hnil] at hdecode
      rw [← hdecode]
      rfl
    rw [trim_eq_nil_iff, h.not_blank] at hnone
    exact absurd hnone (by decide)
  have hline : IsTrimmed (featureLine feature) := by
    refine ⟨fun c hc => ?_, fun c hc => ?_⟩
    · obtain rfl : '+' = c := by simpa [featureLine] using hc
      decide
    · rw [featureLine, List.getLast?_append_of_ne_nil _ hne] at hc
      exact (trim_eq_self_iff.mp htext).2 c hc
  have hblank : trim (' ' :: Escape.text feature.toList) = trim (Escape.text feature.toList) := by
    have hspace : isBlank ' ' = true := rfl
    rw [trim, trim, trimStart, List.dropWhile_cons_of_pos hspace, trimStart]
  rw [featureOf, hline.trim_eq]
  exact hblank.trans htext

/-- The text of a feature is read back. -/
theorem plain_feature {feature : String} (h : IsFeature feature) :
    plain (String.ofList (Escape.text feature.toList)) = feature := by
  rw [plain_text, h.isTrimmed.trim_eq, String.ofList_toList]

/-- The text of a feature is not empty. -/
theorem isEmpty_feature {feature : String} (h : IsFeature feature) :
    (Escape.text feature.toList).isEmpty = false := by
  rw [Bool.eq_false_iff]
  intro hempty
  have hback := plain_feature h
  rw [List.isEmpty_iff.mp hempty] at hback
  have hblank := h.not_blank
  rw [← hback] at hblank
  exact absurd hblank (by decide)

/-- Lines that list features are read as their texts. -/
theorem filter_map_featureOf {features : List String}
    (h : ∀ feature ∈ features, IsFeature feature) :
    ((features.map featureLine).map featureOf).filter (fun line => !line.isEmpty) =
      features.map fun feature => Escape.text feature.toList := by
  have hmap : (features.map featureLine).map featureOf =
      features.map fun feature => Escape.text feature.toList := by
    rw [List.map_map]
    exact List.map_congr_left fun feature hfeature => featureOf_featureLine (h feature hfeature)
  rw [hmap, List.filter_eq_self]
  intro line hline
  obtain ⟨feature, hfeature, rfl⟩ := List.mem_map.mp hline
  rw [isEmpty_feature (h feature hfeature)]
  rfl

/-- Lines of their own that list features are cut into these lines, with an empty one before and
after them. -/
theorem splitWhere_ownLines_featureLines {features : List String} (hne : features ≠ [])
    (h : ∀ feature ∈ features, IsFeature feature) :
    splitWhere (· == '\n') (ownLines (featureLines features)) =
      [] :: (features.map featureLine ++ [[]]) := by
  have hcut : ∀ line ∈ features.map featureLine, ∀ d ∈ line, (d == '\n') = false := by
    intro line hline d hd
    obtain ⟨feature, hfeature, rfl⟩ := List.mem_map.mp hline
    rw [beq_eq_false_iff_ne]
    rintro rfl
    rcases List.mem_append.mp hd with hd | hd
    · exact absurd hd (by decide)
    · exact (h feature hfeature).no_newline (Escape.newline_of_mem_text hd)
  have hlines : ownLines (featureLines features) =
      '\n' :: (joinWith ['\n'] (features.map featureLine) ++ '\n' :: []) := by
    obtain ⟨first, others, rfl⟩ := List.exists_cons_of_ne_nil hne
    have hsome : (featureLines (first :: others)).isEmpty = false := by
      rw [featureLines_eq]
      cases others <;> rfl
    rw [ownLines, hsome, featureLines_eq]
    rfl
  have hsplit := splitWhere_joinWith_append (p := (· == '\n')) (c := '\n') rfl
    (by simpa using hne) hcut []
  rw [hlines, splitWhere]
  simp only [beq_self_eq_true, if_true, hsplit]
  rfl

/-- The features of a plan are read back from their lines. -/
theorem planFeatures_ownLines {features : List String}
    (h : ∀ feature ∈ features, IsFeature feature) :
    planFeatures (String.ofList (ownLines (featureLines features))) =
      features.map Value.text := by
  by_cases hne : features = []
  · subst hne
    rfl
  · have hnil : featureOf [] = [] := rfl
    rw [planFeatures, String.toList_ofList, splitWhere_ownLines_featureLines hne h, List.map_cons,
      List.map_append, List.map_singleton, hnil, List.filter_cons, List.filter_append,
      filter_map_featureOf h]
    simp only [List.isEmpty_nil, Bool.not_true, Bool.false_eq_true, if_false, List.filter_cons,
      List.filter_nil, List.append_nil, List.map_map]
    refine List.map_congr_left fun feature hfeature => ?_
    exact congrArg Value.text (plain_feature (h feature hfeature))

/-- The fields of a plan, from what its table says. -/
def fieldsOfPlan (name price period label href : Option String) (featured : Bool)
    (features : List Value) : Props :=
  fieldsOf [
    textField "name" name,
    textField "price" price,
    textField "period" period,
    ("highlighted", if featured then some (.bool true) else none),
    textField "ctaLabel" label,
    textField "ctaHref" href,
    ("features", some (.list features))]

/-- The fields of the record that a table is read as. -/
def planFields (table : Element) : Props :=
  fieldsOfPlan (table.attribute? "title") (table.attribute? "price") (table.attribute? "period")
    (table.attribute? "button_text") ((table.attribute? "button_url").bind Restricted.href.allow)
    (table.attribute? "featured" == some "on") (planFeatures table.text)

/-- Tables are read as records. -/
theorem result_planRecords (node : Node) (tables : List Element) (limit : Nat)
    (made : List Kind) :
    (planRecords node tables).result limit made =
      (tables.map fun table => .record (planFields table), made) := by
  induction tables with
  | nil => rfl
  | cons table tables ih =>
    rw [planRecords]
    cases hurl : table.attribute? "button_url" with
    | none =>
      simp only [Drafting.result_bind, Drafting.result_pure, ih, List.map_cons, planFields, hurl]
      rfl
    | some raw =>
      simp only [Drafting.result_bind, Drafting.result_pure, Drafting.result_monadLift,
        Restricted.result_filterText, ih, List.map_cons, planFields, hurl]
      rfl

/-- The table of a plan as an element. -/
def ofPlan (plan : Props) : Element :=
  ⟨⟨"pricing_table", attributesOf (planEntries plan)⟩,
    Markup.held (ownLines (featureLines (Template.planFeatures plan)))⟩

/-- The tables among lines of tables are all of them. -/
theorem collectAll_plans (plans : List Props) :
    Markup.collectAll "pricing_table"
      (Forest.lines (plans.map fun plan => [planMarkup plan])).ownLines = plans.map ofPlan := by
  rw [Markup.collectAll_ownLines, Markup.collectAll_lines, List.flatMap_map, List.map_eq_flatMap]
  congr 1
  funext plan
  rw [planMarkup, planAttributes_eq, ofPlan]
  rfl

/-- The fields that the table of a plan is read as, if each feature can be told from its line. -/
theorem planFields_ofPlan {plan : Props}
    (h : ∀ feature ∈ Template.planFeatures plan, IsFeature feature) :
    planFields (ofPlan plan) =
      fieldsOfPlan (plan.text? ["name", "title"]) (plan.text? ["price"])
        (plan.text? ["period", "interval"]) (plan.text? ["ctaLabel", "buttonLabel"])
        (allowed? .href ["ctaHref", "buttonHref", "href"] plan) (isFeatured plan)
        ((Template.planFeatures plan).map Value.text) := by
  have hnodup := nodup_planEntries plan
  have hfeatured : ((ofPlan plan).attribute? "featured" == some "on") = isFeatured plan := by
    have hon : nonblank? (if isFeatured plan then some "on" else none) =
        if isFeatured plan then some "on" else none := by
      cases isFeatured plan <;> rfl
    rw [ofPlan, attribute?_eq hnodup rfl hon]
    cases isFeatured plan <;> rfl
  have hread : planFeatures (ofPlan plan).text = (Template.planFeatures plan).map Value.text := by
    rw [ofPlan, text, Markup.textOfAll_held, planFeatures_ownLines h]
  rw [planFields, hfeatured, hread, ofPlan]
  rw [attribute?_eq hnodup rfl (nonblank?_text? ["name", "title"] plan),
    attribute?_eq hnodup rfl (nonblank?_text? ["price"] plan),
    attribute?_eq hnodup rfl (nonblank?_text? ["period", "interval"] plan),
    attribute?_eq hnodup rfl (nonblank?_text? ["ctaLabel", "buttonLabel"] plan),
    bind_attribute?_eq hnodup rfl (isNormal_allowed? .href ["ctaHref", "buttonHref", "href"] plan)]

/-- The table of the fields of a plan says what they hold. -/
theorem planMarkup_fieldsOfPlan {name price period label href : Option String}
    (featured : Bool) (features : List String) (hname : nonblank? name = name)
    (hprice : nonblank? price = price) (hperiod : nonblank? period = period)
    (hlabel : nonblank? label = label) (hhref : IsNormal .href href) :
    planMarkup (fieldsOfPlan name price period label href featured
      (features.map Value.text)) =
        Markup.holding ⟨"pricing_table", attributesOf [("title", name), ("price", price),
          ("period", period), ("featured", if featured then some "on" else none),
          ("button_text", label), ("button_url", href)]⟩ (ownLines (featureLines features)) := by
  let fields := [
    textField "name" name,
    textField "price" price,
    textField "period" period,
    ("highlighted", if featured then some (.bool true) else none),
    textField "ctaLabel" label,
    textField "ctaHref" href,
    ("features", some (.list (features.map Value.text)))]
  have hnames : fields.map Prod.fst =
      ["name", "price", "period", "highlighted", "ctaLabel", "ctaHref", "features"] := rfl
  have hfeatured : isFeatured (fieldsOf fields) = featured := by
    rw [isFeatured, value?_fieldsOf hnames rfl (by decide)]
    cases featured <;> rfl
  have hfeatures : Template.planFeatures (fieldsOf fields) = features := by
    rw [Template.planFeatures, value?_fieldsOf hnames rfl (by decide)]
    cases features with
    | nil => rfl
    | cons feature features =>
      show List.filterMap _ (List.map Value.text (feature :: features)) = feature :: features
      rw [List.filterMap_map]
      exact List.filterMap_some
  have haddress : allowed? .href ["ctaHref", "buttonHref", "href"] (fieldsOf fields) = href := by
    rw [allowed?, text?_fieldsOf hnames (v := href) rfl (by decide), hhref.nonblank?_eq]
    exact hhref
  have hplan : fieldsOfPlan name price period label href featured (features.map Value.text) =
      fieldsOf fields := rfl
  rw [hplan, planMarkup, planAttributes_eq, planEntries, hfeatured, hfeatures,
    text?_fieldsOf hnames (v := name) rfl (by decide),
    text?_fieldsOf hnames (v := price) rfl (by decide),
    text?_fieldsOf hnames (v := period) rfl (by decide),
    text?_fieldsOf hnames (v := label) rfl (by decide), haddress, hname, hprice, hperiod, hlabel]

end Element

/-- Plans whose features can be told from their lines are read as plans that are written in the
same way. -/
theorem isStable_plans {plans : List Props} (hne : plans ≠ [])
    (h : ∀ plan ∈ plans, ∀ feature ∈ planFeatures plan, IsFeature feature) :
    (plansElement plans).IsStable := by
  let read := plans.map fun plan => Element.planFields (Element.ofPlan plan)
  have hreadne : read ≠ [] := by simpa [read] using hne
  have hwritten : (read.map fun plan => [planMarkup plan]) =
      plans.map fun plan => [planMarkup plan] := by
    rw [List.map_map]
    refine List.map_congr_left fun plan hplan => ?_
    rw [Function.comp_apply, Element.planFields_ofPlan (h plan hplan),
      Element.planMarkup_fieldsOfPlan _ _ (nonblank?_text? _ plan) (nonblank?_text? _ plan)
        (nonblank?_text? _ plan) (nonblank?_text? _ plan) (isNormal_allowed? _ _ plan),
      planMarkup, planAttributes_eq, planEntries]
  refine Yields.singleton .pricingCards rfl fun limit made =>
    ⟨(Node.next made .pricingCards).withProp "plans" (.list (read.map Value.record)), ?_, rfl, ?_⟩
  · have hnodes (element : Element) (h : element.name = "pricing_tables") :
        element.toNodes = Element.toPricing (element.findAll "pricing_table") := by
      simp only [Element.toNodes, h]
    have hsome : (plans.map Element.ofPlan).isEmpty = false := by
      simpa using hne
    rw [plansElement, Markup.block, Markup.toNodes_element (by decide), hnodes _ rfl,
      Element.findAll, Element.collectAll_plans, Element.toPricing, hsome]
    simp only [Bool.false_eq_true, if_false, Drafting.result_bind, Drafting.result_pure,
      Drafting.result_node, Element.result_planRecords, List.map_map, read]
    rfl
  · have hitems : planItems ((Node.next made .pricingCards).withProp "plans"
        (.list (read.map Value.record))) = read :=
      records_of_get? (by simp) hreadne
    rw [Node.markup?]
    simp only [Node.kind_withProp, Node.kind_next, pricingMarkup?, hitems]
    rw [if_neg (by simpa using hreadne), groupTitle_of_get? (by simp [titleNames]), plansElement,
      hwritten, plansElement]
    rfl

/-! ### Questions -/

namespace Template

/-- The questions of some items with their answers, which may be empty. -/
def askedOf (items : List Props) : List (String × String) :=
  items.filterMap fun item => (item.text? ["question", "title"]).map fun question =>
    (question, (item.text? ["answer", "content", "text"]).getD "")

/-- The markup of a question with its answer. -/
def toggleMarkup (asked : String × String) : Markup :=
  richElement ⟨"toggle", [("title", asked.1)]⟩ asked.2

/-- The toggles of some items are those of their questions. -/
theorem filterMap_toggle? (items : List Props) :
    items.filterMap toggle? = (askedOf items).map toggleMarkup := by
  rw [askedOf, List.map_filterMap]
  congr 1
  funext item
  rw [toggle?]
  cases item.text? ["question", "title"] <;> rfl

/-- A question is not blank, and an answer is empty or not blank. -/
theorem of_mem_askedOf {items : List Props} {asked : String × String}
    (h : asked ∈ askedOf items) :
    allBlank asked.1.toList = false ∧ (asked.2 = "" ∨ allBlank asked.2.toList = false) := by
  obtain ⟨item, -, hitem⟩ := List.mem_filterMap.mp h
  obtain ⟨question, hquestion, rfl⟩ := Option.map_eq_some_iff.mp hitem
  exact ⟨Props.allBlank_of_text? hquestion, item.getD_text? _⟩

end Template

namespace Element

/-- The toggle of a question as an element. -/
def ofAsked (asked : String × String) : Element :=
  ⟨⟨"toggle", [("title", asked.1)]⟩, Markup.held (Escape.rich asked.2.toList)⟩

/-- The toggles among lines of toggles are all of them. -/
theorem collectAll_toggles (asked : List (String × String)) :
    Markup.collectAll "toggle"
      (Forest.lines ((asked.map toggleMarkup).map fun toggle => [toggle])).ownLines =
        asked.map ofAsked := by
  rw [Markup.collectAll_ownLines, Markup.collectAll_lines, List.map_map, List.flatMap_map,
    List.map_eq_flatMap]
  rfl

/-- Questions are read as a node with a record for each of them. -/
theorem result_toQuestions {toggles : List Element} {items : List Props}
    (h : toggles.filterMap questionRecord? = items.map Value.record) (hne : items ≠ [])
    (limit : Nat) (made : List Kind) :
    (toQuestions toggles).result limit made =
      ([(Node.next made .faq).withProp "items" (.list (items.map Value.record))],
        .faq :: made) := by
  obtain ⟨item, items, rfl⟩ := List.exists_cons_of_ne_nil hne
  rw [toQuestions, h]
  simp [Node.next]

/-- The fields of the record that a toggle is read as. -/
def questionFields (asked : String × String) : Props :=
  fieldsOf [textField "question" (some asked.1),
    textField "answer" (nonempty? (ofAsked asked).richText)]

/-- A toggle is read as a record. -/
theorem questionRecord?_ofAsked {asked : String × String}
    (hquestion : allBlank asked.1.toList = false) :
    questionRecord? (ofAsked asked) = some (.record (questionFields asked)) := by
  have hattributes : [("title", asked.1)] = attributesOf [("title", some asked.1)] := rfl
  have htitle : (ofAsked asked).attribute? "title" = some asked.1 := by
    rw [ofAsked, hattributes, attribute?_eq (by simp) rfl (nonblank?_some hquestion)]
  rw [questionRecord?, htitle]
  rfl

/-- The toggle of the record of a question is written as the one that was read, if its answer is
trimmed. -/
theorem toggle?_questionFields {asked : String × String}
    (hquestion : allBlank asked.1.toList = false) (htrim : IsTrimmed asked.2.toList)
    (hanswer : asked.2 = "" ∨ allBlank asked.2.toList = false) :
    toggle? (questionFields asked) = some (toggleMarkup asked) := by
  obtain ⟨answer, hblank, hsame, hread⟩ := exists_richText? htrim hanswer
  let fields := [textField "question" (some asked.1), textField "answer" answer]
  have hnames : fields.map Prod.fst = ["question", "answer"] := rfl
  have hfields : questionFields asked = fieldsOf fields := by
    rw [questionFields, ofAsked, hread]
  have hfound : (questionFields asked).text? ["question", "title"] = some asked.1 := by
    rw [hfields, text?_fieldsOf hnames (v := some asked.1) rfl (by decide),
      nonblank?_some hquestion]
  have hbody : (questionFields asked).text? ["answer", "content", "text"] = answer := by
    rw [hfields, text?_fieldsOf hnames (v := answer) rfl (by decide), hblank]
  rw [toggle?, hfound, hbody]
  simp only [Option.bind_eq_bind, Option.bind_some, toggleMarkup, richElement, hsame]

end Element

/-- Questions with trimmed answers are read as questions that are written in the same way. -/
theorem isStable_questions {items : List Props} (hne : askedOf items ≠ [])
    (htrim : ∀ asked ∈ askedOf items, IsTrimmed asked.2.toList) :
    (questionsElement items).IsStable := by
  have hread : ((askedOf items).map Element.ofAsked).filterMap Element.questionRecord? =
      ((askedOf items).map Element.questionFields).map Value.record := by
    rw [List.filterMap_map, List.map_map, ← List.filterMap_eq_map]
    refine List.filterMap_congr fun asked hasked => ?_
    exact Element.questionRecord?_ofAsked (of_mem_askedOf hasked).1
  have hwritten : ((askedOf items).map Element.questionFields).filterMap toggle? =
      (askedOf items).map toggleMarkup := by
    rw [List.filterMap_map, ← List.filterMap_eq_map]
    refine List.filterMap_congr fun asked hasked => ?_
    have hblank := of_mem_askedOf hasked
    exact Element.toggle?_questionFields hblank.1 (htrim asked hasked) hblank.2
  have hreadne : (askedOf items).map Element.questionFields ≠ [] := by
    simpa using hne
  refine Yields.singleton .faq rfl fun limit made =>
    ⟨(Node.next made .faq).withProp "items"
      (.list (((askedOf items).map Element.questionFields).map Value.record)), ?_, rfl, ?_⟩
  · have hnodes (element : Element) (h : element.name = "accordion") :
        element.toNodes = Element.toQuestions (element.findAll "toggle") := by
      simp only [Element.toNodes, h]
    rw [questionsElement, Markup.block, Markup.toNodes_element (by decide), hnodes _ rfl,
      Element.findAll, filterMap_toggle?, Element.collectAll_toggles,
      Element.result_toQuestions hread hreadne]
  · have hitems : questionItems ((Node.next made .faq).withProp "items"
        (.list (((askedOf items).map Element.questionFields).map Value.record))) =
          (askedOf items).map Element.questionFields :=
      records_of_get? (by simp) hreadne
    rw [Node.markup?]
    simp only [Node.kind_withProp, Node.kind_next, faqMarkup?, hitems]
    rw [if_neg (by simpa using hne), groupTitle_of_get? (by simp [titleNames]), questionsElement,
      hwritten, questionsElement, filterMap_toggle?]
    rfl

end PageMarkup
