import PageMarkup.Proofs.Html.Fragment

/-!
# What the tags of a fragment begin and end

In a well-nested fragment a heading, a paragraph or a link begins at its opening tags only and ends
at its closing tags only; an image begins at its tag, and no other token begins a block.
-/

namespace PageMarkup

namespace Html

open Text

variable {tokens : List Token} {rest : List Char}

/-! ### Closing tags -/

/-- How the closing tags that end the element begin. -/
def Enclosure.mark : Enclosure → List Char
  | heading => ['/', 'h']
  | paragraph => ['/', 'p']
  | link => ['/', 'a']

/-- What follows a closing tag that ends the element. -/
def Enclosure.close : Enclosure → List Char → Option (List Char)
  | heading => afterHeading?
  | paragraph => afterClosing? "p"
  | link => afterClosing? "a"

theorem Enclosure.close_of_mark {enclosure : Enclosure} {cs : List Char}
    (h : afterFolded? ('<' :: enclosure.mark) cs = none) : enclosure.close cs = none := by
  cases enclosure with
  | heading =>
    have hmark : "</h".toList = '<' :: mark .heading := rfl
    simp [close, afterHeading?, hmark, h]
  | paragraph =>
    have hmark : ("</" ++ "p").toList = '<' :: mark .paragraph := rfl
    rw [close, afterClosing?, hmark, h]
    rfl
  | link =>
    have hmark : ("</" ++ "a").toList = '<' :: mark .link := rfl
    rw [close, afterClosing?, hmark, h]
    rfl

theorem Enclosure.close_of_ne (enclosure : Enclosure) {c : Char} (hc : c ≠ '<') (cs : List Char) :
    enclosure.close (c :: cs) = none := by
  apply close_of_mark
  have hfold : '<' ≠ fold c := fun h => hc (eq_of_fold_eq h.symm (by decide))
  rw [afterFolded?, if_neg hfold]

/-- Only the closing tags of an element end it. -/
theorem Token.areApart_mark {token : Token} {key : List Char} (h : token.key? = some key)
    {enclosure : Enclosure} (hcloses : token.closes enclosure = false) :
    AreApart enclosure.mark key := by
  have hopening : ∀ kind ∈ ElementKind.all, ∀ enclosure ∈ Enclosure.all,
      AreApart enclosure.mark kind.name := by
    decide
  have hclosing : ∀ kind ∈ ElementKind.all, ∀ enclosure ∈ Enclosure.all,
      kind.enclosure? ≠ some enclosure → AreApart enclosure.mark ('/' :: kind.name) := by
    decide
  have himage : ∀ enclosure ∈ Enclosure.all, AreApart enclosure.mark "img".toList := by decide
  cases token with
  | char c hc => cases h
  | opening kind tag =>
    obtain rfl := Option.some.inj h
    exact hopening kind kind.mem_all enclosure enclosure.mem_all
  | closing kind tag =>
    obtain rfl := Option.some.inj h
    have hkind : kind.enclosure? ≠ some enclosure := by simpa [Token.closes] using hcloses
    exact hclosing kind kind.mem_all enclosure enclosure.mem_all hkind
  | image image =>
    obtain rfl := Option.some.inj h
    exact himage enclosure enclosure.mem_all

theorem Token.close_eq_none (token : Token) {enclosure : Enclosure}
    (h : token.closes enclosure = false) (rest : List Char) :
    enclosure.close (token.source ++ rest) = none := by
  rcases token.cases_source with ⟨c, hc, hsource⟩ | ⟨key, inside, hkey, hsource, -, hleads⟩
  · rw [hsource]
    exact enclosure.close_of_ne hc rest
  · rw [hsource]
    apply Enclosure.close_of_mark
    exact afterFolded?_closing_of_apart hleads (Token.areApart_mark hkey h) rest

/-- A name of two characters is one of which the second is left alone. -/
theorem exists_of_lower_heading {word : List Char} {level : Fin 6}
    (h : lower word = ElementKind.name (.heading level)) : ∃ c, fold c = 'h' ∧
      word = [c, Nat.digitChar (level + 1)] ∧ isLevel (Nat.digitChar (level + 1)) = true := by
  have hlevels : ∀ level : Fin 6, isLevel (Nat.digitChar (level + 1)) = true ∧
      isSmallLetter (Nat.digitChar (level + 1)) = false := by decide
  obtain ⟨hlevel, hsmall⟩ := hlevels level
  have hlength : word.length = 2 := List.length_map Char.toLower ▸ congrArg List.length h
  rcases word with - | ⟨c, - | ⟨d, - | ⟨e, word⟩⟩⟩
  · cases hlength
  · cases hlength
  · obtain ⟨hc, htail⟩ := List.cons.inj h
    have hd := (List.cons.inj htail).1
    exact ⟨c, fold_eq_of_toLower hc (by decide), by rw [eq_of_toLower_eq hd hsmall], hlevel⟩
  · cases hlength

theorem Token.close_eq_some {token : Token} {enclosure : Enclosure}
    (h : token.closes enclosure = true) (rest : List Char) :
    enclosure.close (token.source ++ rest) = some rest := by
  cases token with
  | closing kind tag =>
    have hkind : kind.enclosure? = some enclosure := by simpa [Token.closes] using h
    have hsource : (Token.closing kind tag).source ++ rest =
        '<' :: '/' :: (tag.word ++ (tag.blanks.text ++ '>' :: rest)) := by
      simp [Token.source, tagSource, ClosingTag.inside]
    have hname : tag.word.map fold = kind.name :=
      map_fold_of_lower tag.isName kind.isPlain_name.2
    rw [hsource]
    cases kind with
    | «section» => cases hkind
    | division => cases hkind
    | paragraph =>
      obtain rfl := Option.some.inj hkind
      exact afterClosing?_eq_some_iff.mpr ⟨_, _, hname, tag.blanks.allBlank, rfl⟩
    | link =>
      obtain rfl := Option.some.inj hkind
      exact afterClosing?_eq_some_iff.mpr ⟨_, _, hname, tag.blanks.allBlank, rfl⟩
    | heading level =>
      obtain rfl := Option.some.inj hkind
      -- headings close each other whatever their levels, so the level is read by itself
      obtain ⟨c, hc, hword, hlevel⟩ := exists_of_lower_heading tag.isName
      have hopen : afterFolded? "</h".toList
          ('<' :: '/' :: (tag.word ++ (tag.blanks.text ++ '>' :: rest))) =
            some (Nat.digitChar (level + 1) :: (tag.blanks.text ++ '>' :: rest)) := by
        refine afterFolded?_eq_some_iff.mpr ⟨['<', '/', c], ?_, by simp [hword]⟩
        rw [List.map_cons, List.map_cons, List.map_cons, hc]
        decide
      have hend : after? ['>'] (trimStart (tag.blanks.text ++ '>' :: rest)) = some rest :=
        afterMark_eq_some_iff.mpr ⟨_, tag.blanks.allBlank, rfl⟩
      simp only [Enclosure.close, afterHeading?, hopen, hlevel, Option.bind_eq_bind,
        Option.bind_some, if_true]
      exact hend
  | _ => cases h

theorem splitFirst?_sources_of_none {enclosure : Enclosure}
    (h : ∀ token ∈ tokens, token.closes enclosure = false) :
    splitFirst? enclosure.close (sources tokens) = none := by
  have hmisses := misses_sources (fun _ hc => enclosure.close_of_ne hc)
    (fun token hmem => token.close_eq_none (h token hmem)) []
  have hsplit := splitFirst?_append_of_misses hmisses
  have hnil : enclosure.close [] = none := by cases enclosure <;> rfl
  rw [List.append_nil] at hsplit
  rw [hsplit, splitFirst?, hnil]
  rfl

/-- An element ends at the first closing tag that ends it. -/
theorem splitFirst?_sources {enclosure : Enclosure} {inner back : List Token} {closing : Token}
    (hinner : ∀ token ∈ inner, token.closes enclosure = false)
    (hclosing : closing.closes enclosure = true) :
    splitFirst? enclosure.close (sources (inner ++ closing :: back)) =
      some (sources inner, sources back) := by
  have hmisses := misses_sources (fun _ hc => enclosure.close_of_ne hc)
    (fun token hmem => token.close_eq_none (hinner token hmem))
    (closing.source ++ sources back)
  have hsplit := splitFirst?_of_some (closing.close_eq_some hclosing (sources back))
  rw [sources_append, sources_cons, splitFirst?_append_of_misses hmisses, hsplit]
  simp

/-! ### Blocks -/

/-- The source of an image. -/
def Block.source? : Block → Option String
  | .image src _ => some src
  | _ => none

/-- How the opening tags of the element begin. -/
def Enclosure.name : Enclosure → List Char
  | heading => ['h']
  | paragraph => ['p']
  | link => ['a']

/-- The reader of the element. -/
def Enclosure.read : Enclosure → Reader (Option Block)
  | heading => readHeading
  | paragraph => readParagraph
  | link => readLink

theorem readBlock_eq (cs : List Char) :
    readBlock cs = (Enclosure.heading.read cs).or ((Enclosure.paragraph.read cs).or
      ((readImage cs).or ((Enclosure.link.read cs).or (readRule cs)))) := by
  simp only [readBlock, List.findSome?_cons, List.findSome?_nil, Enclosure.read]
  cases readHeading cs <;> cases readParagraph cs <;> cases readImage cs <;>
    cases readLink cs <;> cases readRule cs <;> rfl

theorem readHeading_of_none {cs : List Char} (h : readHeadingTag cs = none) :
    readHeading cs = none := by
  rw [readHeading_eq]
  exact readElement_of_none _ _ h

/-- What begins no opening tag of the element is not read as one. -/
theorem Enclosure.read_of_apart (enclosure : Enclosure) {key inside : List Char}
    (h : Leads key inside) (hapart : AreApart enclosure.name key) (rest : List Char) :
    enclosure.read (tagSource inside ++ rest) = none := by
  cases enclosure with
  | heading => exact readHeading_of_none (readHeadingTag_of_apart h hapart rest)
  | paragraph =>
    have hname : AreApart "p".toList key := hapart
    have hnone := readNamed_of_apart h hname rest
    simp [Enclosure.read, readParagraph, hnone]
  | link =>
    have hname : AreApart "a".toList key := hapart
    have hnone := readNamed_of_apart h hname rest
    simp [Enclosure.read, readLink, hnone]

theorem readNamed_of_ne (name : String) {c : Char} (hc : c ≠ '<') (cs : List Char) :
    readNamed name (c :: cs) = none := by
  rw [readNamed]
  simp [hc]

theorem Enclosure.read_of_ne (enclosure : Enclosure) {c : Char} (hc : c ≠ '<') (cs : List Char) :
    enclosure.read (c :: cs) = none := by
  cases enclosure with
  | heading => exact readHeading_of_none (isTagReader_readHeadingTag.of_ne hc cs)
  | paragraph => simp [read, readParagraph, readNamed_of_ne _ hc]
  | link => simp [read, readLink, readNamed_of_ne _ hc]

theorem readBlock_of_ne {c : Char} (hc : c ≠ '<') (cs : List Char) :
    readBlock (c :: cs) = none := by
  simp [readBlock_eq, Enclosure.read_of_ne _ hc, readImage, readRule, readNamed_of_ne _ hc]

/-- Only the opening tags of an element begin it. -/
theorem Token.areApart_name {token : Token} {key : List Char} (h : token.key? = some key)
    {enclosure : Enclosure} (hopens : token.opens? ≠ some enclosure) :
    AreApart enclosure.name key := by
  have hopening : ∀ kind ∈ ElementKind.all, ∀ enclosure ∈ Enclosure.all,
      kind.enclosure? ≠ some enclosure → AreApart enclosure.name kind.name := by
    decide
  have hother : ∀ enclosure ∈ Enclosure.all,
      AreApart enclosure.name "img".toList ∧
        ∀ kind ∈ ElementKind.all, AreApart enclosure.name ('/' :: kind.name) := by
    decide
  cases token with
  | char c hc => cases h
  | opening kind tag =>
    obtain rfl := Option.some.inj h
    exact hopening kind kind.mem_all enclosure enclosure.mem_all hopens
  | closing kind tag =>
    obtain rfl := Option.some.inj h
    exact (hother enclosure enclosure.mem_all).2 kind kind.mem_all
  | image image =>
    obtain rfl := Option.some.inj h
    exact (hother enclosure enclosure.mem_all).1

theorem Token.areApart_image {token : Token} {key : List Char} (h : token.key? = some key) :
    AreApart "hr".toList key ∧ (token.image? = none → AreApart "img".toList key) := by
  have hall : ∀ kind ∈ ElementKind.all, ∀ key ∈ [kind.name, '/' :: kind.name],
      AreApart "hr".toList key ∧ AreApart "img".toList key := by
    decide
  cases token with
  | char c hc => cases h
  | opening kind tag =>
    obtain ⟨hrule, himage⟩ := hall kind kind.mem_all key (by simp [← Option.some.inj h])
    exact ⟨hrule, fun _ => himage⟩
  | closing kind tag =>
    obtain ⟨hrule, himage⟩ := hall kind kind.mem_all key (by simp [← Option.some.inj h])
    exact ⟨hrule, fun _ => himage⟩
  | image image =>
    obtain rfl := Option.some.inj h
    exact ⟨by decide, fun hnone => by cases hnone⟩

section Token

variable (token : Token) (rest : List Char)

theorem Token.read_eq_none {enclosure : Enclosure} (h : token.opens? ≠ some enclosure) :
    enclosure.read (token.source ++ rest) = none := by
  rcases token.cases_source with ⟨c, hc, hsource⟩ | ⟨key, inside, hkey, hsource, -, hleads⟩
  · rw [hsource]
    exact enclosure.read_of_ne hc rest
  · rw [hsource]
    exact enclosure.read_of_apart hleads (Token.areApart_name hkey h) rest

theorem Token.readImage_eq_none (h : token.image? = none) :
    readImage (token.source ++ rest) = none := by
  rcases token.cases_source with ⟨c, hc, hsource⟩ | ⟨key, inside, hkey, hsource, -, hleads⟩
  · simp [hsource, readImage, readNamed_of_ne _ hc]
  · have hnone := readNamed_of_apart hleads ((Token.areApart_image hkey).2 h) rest
    simp [hsource, readImage, hnone]

theorem Token.readRule_eq_none : readRule (token.source ++ rest) = none := by
  rcases token.cases_source with ⟨c, hc, hsource⟩ | ⟨key, inside, hkey, hsource, -, hleads⟩
  · simp [hsource, readRule, readNamed_of_ne _ hc]
  · have hnone := readNamed_of_apart hleads (Token.areApart_image hkey).1 rest
    simp [hsource, readRule, hnone]

/-- A token that opens nothing and is no image begins no block. -/
theorem Token.readBlock_eq_none (hopens : token.opens? = none) (himage : token.image? = none) :
    readBlock (token.source ++ rest) = none := by
  have hread (enclosure : Enclosure) : enclosure.read (token.source ++ rest) = none :=
    token.read_eq_none rest (by simp [hopens])
  simp [readBlock_eq, hread, token.readImage_eq_none rest himage, token.readRule_eq_none rest]

theorem Token.image?_of_opens {token : Token} {enclosure : Enclosure}
    (h : token.opens? = some enclosure) : token.image? = none := by
  cases token with
  | opening kind tag => rfl
  | _ => cases h

/-- A token that opens an element begins nothing else. -/
theorem Token.readBlock_of_opens {enclosure : Enclosure} (h : token.opens? = some enclosure) :
    readBlock (token.source ++ rest) = enclosure.read (token.source ++ rest) := by
  have himage := Token.image?_of_opens h
  have hread (other : Enclosure) (hother : enclosure ≠ other) :
      other.read (token.source ++ rest) = none :=
    token.read_eq_none rest (by simpa [h] using hother)
  rw [readBlock_eq, token.readImage_eq_none rest himage, token.readRule_eq_none rest]
  cases enclosure with
  | heading => simp [hread .paragraph (by decide), hread .link (by decide)]
  | paragraph => simp [hread .heading (by decide), hread .link (by decide)]
  | link => simp [hread .heading (by decide), hread .paragraph (by decide)]

end Token

/-- An opening tag with the name is read with its attributes. -/
theorem readNamed_tagSource {name : String} {word attributes : List Char}
    (hname : word.map fold = name.toList) (hplain : IsPlain attributes)
    (hend : atWordEnd (attributes ++ ['>']) = true) (rest : List Char) :
    readNamed name (tagSource (word ++ attributes) ++ rest) = some (attributes, rest) := by
  have hsource : tagSource (word ++ attributes) ++ rest =
      '<' :: (word ++ (attributes ++ '>' :: rest)) := by simp [tagSource]
  have hafter : afterFolded? name.toList (word ++ (attributes ++ '>' :: rest)) =
      some (attributes ++ '>' :: rest) := afterFolded?_eq_some_iff.mpr ⟨word, hname, rfl⟩
  have huntil := untilTagEnd?_append (fun hmem => (hplain _ hmem).2 rfl) rest
  rw [← atWordEnd_append attributes rest] at hend
  rw [hsource, readNamed, hafter]
  simp [hend, huntil]

/-- An opening tag of a heading is read with its level and its attributes. -/
theorem readHeadingTag_tagSource {h level : Char} {attributes : List Char} (hfold : fold h = 'h')
    (hlevel : isLevel level = true) (hplain : IsPlain attributes)
    (hend : atWordEnd (attributes ++ ['>']) = true) (rest : List Char) :
    readHeadingTag (tagSource ([h, level] ++ attributes) ++ rest) =
      some ((level, attributes), rest) := by
  have hsource : tagSource ([h, level] ++ attributes) ++ rest =
      '<' :: h :: level :: (attributes ++ '>' :: rest) := by simp [tagSource]
  have huntil := untilTagEnd?_append (fun hmem => (hplain _ hmem).2 rfl) rest
  rw [← atWordEnd_append attributes rest] at hend
  rw [hsource]
  simp [readHeadingTag, hfold, hlevel, hend, huntil]

theorem source?_of_map {text? : Option String} {make : String → Block}
    (h : ∀ text, (make text).source? = none) : (text?.map make).bind Block.source? = none := by
  cases text? with
  | none => rfl
  | some text => exact h text

/-- An element is read from its opening tag to the first closing tag that ends it, and what is made
of both is no image. -/
theorem exists_of_readElement {α : Type} {opening : Reader α}
    {close : List Char → Option (List Char)} {make : α → List Char → Option Block}
    {source : List Char} {value : α}
    (hmake : ∀ value inner, (make value inner).bind Block.source? = none)
    (h : ∀ rest, opening (source ++ rest) = some (value, rest)) :
    ∃ made : List Char → Option Block, (∀ inner, (made inner).bind Block.source? = none) ∧
      ∀ rest, readElement opening close make (source ++ rest) =
        (splitFirst? close rest).map fun (inner, rest) => (made inner, rest) :=
  ⟨make value, hmake value, fun rest => readElement_of_some close make (h rest)⟩

theorem Token.read_of_opens {token : Token} {enclosure : Enclosure}
    (h : token.opens? = some enclosure) : ∃ made : List Char → Option Block,
      (∀ inner, (made inner).bind Block.source? = none) ∧ ∀ rest,
        enclosure.read (token.source ++ rest) =
          (splitFirst? enclosure.close rest).map fun (inner, rest) => (made inner, rest) := by
  cases token with
  | opening kind tag =>
    have hname : tag.word.map fold = kind.name :=
      map_fold_of_lower tag.isName kind.isPlain_name.2
    have hend := atWordEnd_attributes tag.isApart
    cases kind with
    | «section» => cases h
    | division => cases h
    | paragraph =>
      obtain rfl := Option.some.inj h
      have hparagraph : tag.word.map fold = "p".toList := hname
      rw [Enclosure.read, readParagraph_eq]
      refine exists_of_readElement (fun attributes inner => ?_)
        (readNamed_tagSource hparagraph tag.isPlain hend)
      exact source?_of_map fun text => rfl
    | link =>
      obtain rfl := Option.some.inj h
      have hlink : tag.word.map fold = "a".toList := hname
      rw [Enclosure.read, readLink_eq]
      refine exists_of_readElement (fun attributes inner => ?_)
        (readNamed_tagSource hlink tag.isPlain hend)
      exact source?_of_map fun text => rfl
    | heading level =>
      obtain rfl := Option.some.inj h
      obtain ⟨c, hc, hword, hlevel⟩ := exists_of_lower_heading tag.isName
      have hsource : (Token.opening (.heading level) tag).source =
          tagSource ([c, Nat.digitChar (level + 1)] ++ tag.attributes) := by
        rw [Token.source, OpeningTag.inside, hword]
      rw [Enclosure.read, readHeading_eq, hsource]
      refine exists_of_readElement (fun value inner => ?_)
        (readHeadingTag_tagSource hc hlevel tag.isPlain hend)
      exact source?_of_map fun text => rfl
  | _ => cases h

/-! ### Images -/

theorem ImageTag.isApart_attributes (tag : ImageTag) :
    ∀ c ∈ tag.attributes.head?, isBlank c = true ∨ c = '/' := by
  intro c hc
  have hgap (gap : Blanks) (hgap : gap.text ≠ []) (more : List Char) :
      ∀ c ∈ (gap.text ++ more).head?, isBlank c = true := by
    intro c hc
    rw [List.head?_append_of_ne_nil _ hgap] at hc
    exact List.all_eq_true.mp gap.allBlank c (List.mem_of_mem_head? hc)
  cases hbefore : tag.before with
  | nil =>
    rw [ImageTag.attributes, hbefore] at hc
    exact .inl (hgap tag.gap tag.isApart _ c hc)
  | cons attr attrs =>
    rw [ImageTag.attributes, hbefore, List.flatMap_cons, Attribute.source, List.append_assoc,
      List.append_assoc] at hc
    exact .inl (hgap attr.gap attr.isApart _ c hc)

/-- An image is read with its source. -/
theorem readBlock_image (image : Image) : ∃ block : Block,
    block.source? = some image.tag.src ∧ ∀ rest,
      readBlock ((Token.image image).source ++ rest) = some (some block, rest) := by
  have hname : image.tag.word.map fold = "img".toList :=
    map_fold_of_lower image.tag.isName (by decide)
  have hplain : IsPlain image.tag.attributes :=
    (isPlain_append_iff.mp image.tag.isPlain_inside).2
  have hsrc : attribute? "src" image.tag.attributes = some (Entity.decode image.tag.value.text) :=
    attribute?_written image.tag.isOther image.tag.gap image.tag.isApart image.tag.isSource
      image.tag.value image.tag.behind
  refine ⟨.image image.tag.src (((attribute? "alt" image.tag.attributes).filter fun alt =>
    !Text.allBlank alt).map String.ofList), rfl, fun rest => ?_⟩
  have hnamed : readNamed "img" ((Token.image image).source ++ rest) =
      some (image.tag.attributes, rest) :=
    readNamed_tagSource hname hplain (atWordEnd_attributes image.tag.isApart_attributes) rest
  have hread (enclosure : Enclosure) :
      enclosure.read ((Token.image image).source ++ rest) = none :=
    Token.read_eq_none _ rest (by simp [Token.opens?])
  rw [readBlock_eq, hread, hread, readImage, hnamed]
  simp [hsrc, ImageTag.src]

end Html

end PageMarkup
