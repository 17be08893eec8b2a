import PageMarkup.Proofs.Html.Slices
import PageMarkup.Proofs.Import.Rendered

/-!
# The images of a well-nested fragment

A heading, a paragraph or a link is read as one block up to the first closing tag that ends it in
its part of the page, and the images in it are not read.  So of a well-nested fragment the images
are read, each once and in document order, that no such block swallows; in particular every image is
read that stands in no heading, paragraph or link.
-/

namespace PageMarkup

namespace Html

open Text

variable {tokens : List Token}

/-! ### The images that a part of a page shows -/

/-- The images that tokens show behind the beginning of a block that is read up to its end. -/
def shownFrom : Option Enclosure → List Token → List Image
  | _, [] => []
  | some enclosure, token :: tokens =>
    shownFrom (if token.closes enclosure then none else some enclosure) tokens
  | none, token :: tokens =>
    token.image?.toList ++ shownFrom
      (token.opens?.filter fun enclosure => tokens.any (·.closes enclosure)) tokens

/-- The images that tokens show: a heading, a paragraph or a link that is closed among them hides
what stands in it, up to the first closing tag that ends it. -/
def shownImages (tokens : List Token) : List Image :=
  shownFrom none tokens

/-- Behind the first closing tag that ends a block, images are shown again. -/
theorem shownFrom_closed {enclosure : Enclosure} {inner back : List Token} {closing : Token}
    (hinner : ∀ token ∈ inner, token.closes enclosure = false)
    (hclosing : closing.closes enclosure = true) :
    shownFrom (some enclosure) (inner ++ closing :: back) = shownImages back := by
  induction inner with
  | nil => simp [shownFrom, hclosing, shownImages]
  | cons token inner ih =>
    rw [List.forall_mem_cons] at hinner
    rw [List.cons_append, shownFrom, hinner.1]
    exact ih hinner.2

/-- A token that begins no block shows its image, if it is one. -/
theorem shownImages_cons_of_none {token : Token} (hopens : token.opens? = none) :
    shownImages (token :: tokens) = token.image?.toList ++ shownImages tokens := by
  simp [shownImages, shownFrom, hopens]

/-- What stands between the tags of a block is not shown. -/
theorem shownImages_closed {token closing : Token} {enclosure : Enclosure}
    {inner back : List Token} (hopens : token.opens? = some enclosure)
    (hinner : ∀ token ∈ inner, token.closes enclosure = false)
    (hclosing : closing.closes enclosure = true) :
    shownImages (token :: (inner ++ closing :: back)) = shownImages back := by
  have hany : (inner ++ closing :: back).any (·.closes enclosure) = true := by simp [hclosing]
  rw [shownImages, shownFrom, Token.image?_of_opens hopens, hopens, Option.filter_some, if_pos hany,
    shownFrom_closed hinner hclosing]
  rfl

/-- Where nothing ends a block, none begins. -/
theorem shownImages_unclosed {token : Token} {enclosure : Enclosure}
    (hopens : token.opens? = some enclosure)
    (hnone : ∀ token ∈ tokens, token.closes enclosure = false) :
    shownImages (token :: tokens) = shownImages tokens := by
  have hany : tokens.any (·.closes enclosure) = false := by simpa using hnone
  rw [shownImages, shownFrom, Token.image?_of_opens hopens, hopens, Option.filter_some, hany]
  rfl

/-- The sources of the images among blocks, in order. -/
def imageSources (blocks : List Block) : List String :=
  blocks.filterMap Block.source?

/-- Where no block begins, nothing is read. -/
theorem blocks_append_of_misses {run rest : List Char} (h : Misses readBlock run rest) :
    blocks (run ++ rest) = blocks rest := by
  rw [blocks, findAll_append_of_misses h, blocks]

theorem imageSources_blocks_append {part rest : List Char} {found : Option Block}
    (hne : part ≠ []) (h : readBlock (part ++ rest) = some (found, rest)) :
    imageSources (blocks (part ++ rest)) =
      (found.bind Block.source?).toList ++ imageSources (blocks rest) := by
  rw [blocks, findAll_append_of_some hne h, blocks]
  cases found with
  | none => simp [imageSources]
  | some block => cases hsource : block.source? <;> simp [imageSources, hsource]

/-- A token at which no block begins is passed. -/
theorem blocks_token {token : Token} {rest : List Char}
    (h : readBlock (token.source ++ rest) = none) :
    blocks (token.source ++ rest) = blocks rest :=
  blocks_append_of_misses (token.misses (fun _ hc => readBlock_of_ne hc) h)

/-- A token that begins no block gives its image, if it is one. -/
theorem imageSources_blocks_cons {token : Token} (hopens : token.opens? = none) :
    imageSources (blocks (token.source ++ sources tokens)) =
      token.image?.toList.map (·.tag.src) ++ imageSources (blocks (sources tokens)) := by
  cases himage : token.image? with
  | none =>
    rw [blocks_token (token.readBlock_eq_none _ hopens himage)]
    rfl
  | some image =>
    obtain ⟨block, hsource, hread⟩ := readBlock_image image
    rw [← Token.eq_of_image? himage] at hread
    rw [imageSources_blocks_append token.source_ne_nil (hread _)]
    simp [hsource]

/-- A block that is closed has no image, and the reading goes on behind it. -/
theorem imageSources_blocks_closed {token closing : Token} {enclosure : Enclosure}
    {inner back : List Token} (hopens : token.opens? = some enclosure)
    (hinner : ∀ token ∈ inner, token.closes enclosure = false)
    (hclosing : closing.closes enclosure = true) :
    imageSources (blocks (token.source ++ sources (inner ++ closing :: back))) =
      imageSources (blocks (sources back)) := by
  have hsources : token.source ++ sources (inner ++ closing :: back) =
      (token.source ++ (sources inner ++ closing.source)) ++ sources back := by simp
  have hread := token.readBlock_of_opens (sources (inner ++ closing :: back)) hopens
  obtain ⟨made, hmade, helement⟩ := Token.read_of_opens hopens
  rw [helement, splitFirst?_sources hinner hclosing, Option.map_some, hsources] at hread
  rw [hsources, imageSources_blocks_append (by simp [token.source_ne_nil]) hread, hmade]
  rfl

/-- The tag of a block that is not closed is passed. -/
theorem blocks_unclosed {token : Token} {enclosure : Enclosure}
    (hopens : token.opens? = some enclosure)
    (hnone : ∀ token ∈ tokens, token.closes enclosure = false) :
    blocks (token.source ++ sources tokens) = blocks (sources tokens) := by
  have hread := token.readBlock_of_opens (sources tokens) hopens
  obtain ⟨made, -, helement⟩ := Token.read_of_opens hopens
  rw [helement, splitFirst?_sources_of_none hnone] at hread
  exact blocks_token hread

/-- The first closing tag that ends an element, if there is one. -/
theorem exists_first_closing {enclosure : Enclosure} (h : tokens.any (·.closes enclosure) = true) :
    ∃ inner closing back, tokens = inner ++ closing :: back ∧
      (∀ token ∈ inner, token.closes enclosure = false) ∧ closing.closes enclosure = true := by
  obtain ⟨closing, hfind⟩ := Option.isSome_iff_exists.mp (List.find?_isSome.mpr (by simpa using h))
  obtain ⟨hclosing, inner, back, htokens, hinner⟩ := List.find?_eq_some_iff_append.mp hfind
  exact ⟨inner, closing, back, htokens, by simpa using hinner, hclosing⟩

/-- Of a sequence of tokens, the images are read that it shows. -/
theorem imageSources_blocks (tokens : List Token) :
    imageSources (blocks (sources tokens)) = (shownImages tokens).map (·.tag.src) := by
  -- behind a block the reading goes on with fewer tokens, but not with the tail
  induction hlength : tokens.length using Nat.strongRecOn generalizing tokens with
  | ind n ih =>
    cases tokens with
    | nil => rfl
    | cons token tokens =>
      have htail := ih tokens.length (by simp [← hlength]) tokens rfl
      rw [sources_cons]
      cases hopens : token.opens? with
      | none =>
        rw [imageSources_blocks_cons hopens, shownImages_cons_of_none hopens, List.map_append,
          htail]
      | some enclosure =>
        cases hany : tokens.any (·.closes enclosure) with
        | true =>
          obtain ⟨inner, closing, back, rfl, hinner, hclosing⟩ := exists_first_closing hany
          rw [imageSources_blocks_closed hopens hinner hclosing,
            shownImages_closed hopens hinner hclosing]
          exact ih back.length (by simp [← hlength]; omega) back rfl
        | false =>
          have hnone : ∀ token ∈ tokens, token.closes enclosure = false := by simpa using hany
          rw [blocks_unclosed hopens hnone, shownImages_unclosed hopens hnone]
          exact htail

/-! ### Which images are shown -/

/-- Images are shown in order, and none that is not there. -/
theorem sublist_shownFrom (block : Option Enclosure) (tokens : List Token) :
    (shownFrom block tokens).Sublist (images tokens) := by
  induction tokens generalizing block with
  | nil => cases block <;> exact List.Sublist.refl []
  | cons token tokens ih =>
    rw [images_cons]
    cases block with
    | none => exact (List.Sublist.refl _).append (ih _)
    | some enclosure => exact (ih _).trans (List.sublist_append_right _ _)

/-- The token is no image outside of headings, paragraphs and links. -/
def Token.IsHidden (token : Token) : Prop :=
  ∀ image ∈ token.image?, image.enclosed = true

theorem Token.isHidden_of_none {token : Token} (h : token.image? = none) : token.IsHidden := by
  intro image himage
  rw [h] at himage
  cases himage

/-- What stands behind the opening tag of a heading, a paragraph or a link, with no closing tag
between that ends it, stands in it. -/
def AreNested (tokens : List Token) : Prop :=
  ∀ front opening inner back enclosure, tokens = front ++ opening :: (inner ++ back) →
    opening.opens? = some enclosure → (∀ token ∈ inner, token.closes enclosure = false) →
      ∀ token ∈ inner, token.IsHidden

theorem AreNested.of_infix (h : AreNested tokens) {part : List Token} (hpart : part <:+: tokens) :
    AreNested part := by
  obtain ⟨before, behind, rfl⟩ := hpart
  intro front opening inner back enclosure hsplit
  refine h (before ++ front) opening inner (back ++ behind) enclosure ?_
  simp [hsplit]

theorem Token.image?_of_closes {token : Token} {enclosure : Enclosure}
    (h : token.closes enclosure = true) : token.image? = none := by
  cases token with
  | closing kind tag => rfl
  | _ => cases h

/-- Outside of blocks, every image is shown that stands in no heading, paragraph or link. -/
theorem filter_shownFrom {block : Option Enclosure} (h : AreNested tokens)
    (hblock : ∀ enclosure ∈ block, ∀ inner back, tokens = inner ++ back →
      (∀ token ∈ inner, token.closes enclosure = false) → ∀ token ∈ inner, token.IsHidden) :
    (shownFrom block tokens).filter (!·.enclosed) = (images tokens).filter (!·.enclosed) := by
  -- `hblock` is the invariant: inside of an open block everything in front of its closing tag is
  -- hidden
  induction tokens generalizing block with
  | nil => cases block <;> rfl
  | cons token tokens ih =>
    have htail : AreNested tokens := h.of_infix (List.suffix_cons token tokens).isInfix
    rw [images_cons, List.filter_append]
    cases block with
    | none =>
      rw [shownFrom, List.filter_append]
      congr 1
      refine ih htail fun enclosure henclosure inner back hsplit => ?_
      have hopens := (Option.mem_filter_iff.mp henclosure).1
      exact h [] token inner back enclosure (by rw [hsplit]; rfl) hopens
    | some enclosure =>
      rw [shownFrom]
      cases hcloses : token.closes enclosure with
      | true =>
        rw [Token.image?_of_closes hcloses, if_pos rfl]
        exact ih htail fun enclosure henclosure => by cases henclosure
      | false =>
        have hhidden : token.IsHidden := hblock enclosure rfl [token] tokens rfl
          (List.forall_mem_singleton.mpr hcloses) token List.mem_cons_self
        -- so passing over the token loses no image that counts
        have hnone : token.image?.toList.filter (!·.enclosed) = [] := by
          rw [List.filter_eq_nil_iff]
          intro image himage
          simpa using hhidden image (Option.mem_toList.mp himage)
        rw [hnone, if_neg (by simp)]
        refine ih htail fun other hother inner back hsplit hinner => ?_
        obtain rfl := Option.some.inj hother
        have hcons := hblock enclosure rfl (token :: inner) back (by rw [hsplit]; rfl)
          (List.forall_mem_cons.mpr ⟨hcloses, hinner⟩)
        exact (List.forall_mem_cons.mp hcons).2

/-! ### Fragments are nested -/

/-- Every heading, every paragraph and every link that is opened is closed, and what stands between
stands in it. -/
def AreClosed (tokens : List Token) : Prop :=
  ∀ front opening behind enclosure, tokens = front ++ opening :: behind →
    opening.opens? = some enclosure → ∃ inner closing back, behind = inner ++ closing :: back ∧
      closing.closes enclosure = true ∧ ∀ token ∈ inner, token.IsHidden

theorem areClosed_nil : AreClosed [] := by
  intro front opening behind enclosure h
  simp at h

theorem AreClosed.cons (h : AreClosed tokens) {token : Token}
    (htoken : ∀ enclosure, token.opens? = some enclosure →
      ∃ inner closing back, tokens = inner ++ closing :: back ∧
        closing.closes enclosure = true ∧ ∀ token ∈ inner, token.IsHidden) :
    AreClosed (token :: tokens) := by
  intro front opening behind enclosure hsplit hopens
  cases front with
  | nil =>
    obtain ⟨rfl, rfl⟩ := List.cons.inj hsplit
    exact htoken enclosure hopens
  | cons first front => exact h front opening behind enclosure (List.cons.inj hsplit).2 hopens

theorem AreClosed.append (h : AreClosed tokens) {more : List Token} (hmore : AreClosed more) :
    AreClosed (tokens ++ more) := by
  intro front opening behind enclosure hsplit hopens
  rcases List.append_eq_append_iff.mp hsplit with ⟨middle, -, hend⟩ | ⟨middle, htokens, hend⟩
  · exact hmore middle opening behind enclosure hend hopens
  · cases middle with
    | nil => exact hmore [] opening behind enclosure hend.symm hopens
    | cons first middle =>
      obtain ⟨rfl, rfl⟩ := List.cons.inj hend
      obtain ⟨inner, closing, back, rfl, hclosing, hinner⟩ :=
        h front opening middle enclosure htokens hopens
      exact ⟨inner, closing, back ++ more, by simp, hclosing, hinner⟩

/-- What is closed is nested. -/
theorem AreClosed.areNested (h : AreClosed tokens) : AreNested tokens := by
  intro front opening part rest enclosure hsplit hopens hpart token htoken
  obtain ⟨inner, closing, back, hbehind, hclosing, hinner⟩ :=
    h front opening (part ++ rest) enclosure hsplit hopens
  rcases List.append_eq_append_iff.mp hbehind with ⟨middle, hmiddle, -⟩ | ⟨middle, hmiddle, hend⟩
  · exact hinner token (by rw [hmiddle]; exact List.mem_append_left middle htoken)
  · cases middle with
    | nil =>
      rw [List.append_nil] at hmiddle
      exact hinner token (hmiddle ▸ htoken)
    | cons first middle =>
      -- the closing tag would stand in a part without one
      obtain ⟨rfl, -⟩ := List.cons.inj hend
      have hmem : closing ∈ part := by
        rw [hmiddle]
        exact List.mem_append_right inner List.mem_cons_self
      rw [hpart closing hmem] at hclosing
      cases hclosing

namespace Fragment

theorem isHidden_tokensIn (fragment : Fragment) :
    ∀ token ∈ fragment.tokensIn true, token.IsHidden := by
  induction fragment with
  | nil => exact List.forall_mem_nil _
  | char c h rest ih => exact List.forall_mem_cons.mpr ⟨Token.isHidden_of_none rfl, ih⟩
  | image tag rest ih =>
    refine List.forall_mem_cons.mpr ⟨fun image himage => ?_, ih⟩
    obtain rfl := Option.some.inj himage
    rfl
  | element kind opening inner closing rest hinner hrest =>
    refine List.forall_mem_cons.mpr ⟨Token.isHidden_of_none rfl, ?_⟩
    refine List.forall_mem_append.mpr ⟨hinner, ?_⟩
    exact List.forall_mem_cons.mpr ⟨Token.isHidden_of_none rfl, hrest⟩

theorem areClosed_tokensIn (enclosed : Bool) (fragment : Fragment) :
    AreClosed (fragment.tokensIn enclosed) := by
  induction fragment generalizing enclosed with
  | nil => exact areClosed_nil
  | char c h rest ih => exact (ih enclosed).cons fun enclosure hopens => by cases hopens
  | image tag rest ih => exact (ih enclosed).cons fun enclosure hopens => by cases hopens
  | element kind opening inner closing rest hinner hrest =>
    have hclosing : AreClosed (.closing kind closing :: rest.tokensIn enclosed) :=
      (hrest enclosed).cons fun enclosure hopens => by cases hopens
    refine ((hinner _).append hclosing).cons fun enclosure hopens => ?_
    have hkind : kind.enclosure? = some enclosure := hopens
    refine ⟨_, .closing kind closing, _, rfl, ?_, ?_⟩
    · simp [Token.closes, hkind]
    · rw [hkind, Option.isSome_some, Bool.or_true]
      exact inner.isHidden_tokensIn

end Fragment

/-! ### The images of a page -/

/-- The text of a segment in which blocks are looked for. -/
def Segment.text : Segment → List Char
  | between text => text
  | .section _ _ inner _ => inner

theorem flatMap_blocks_itemsFrom (start : Nat) (segments : List Segment) :
    (itemsFrom start segments).flatMap Item.blocks =
      segments.flatMap fun segment => blocks segment.text := by
  induction segments generalizing start with
  | nil => rfl
  | cons segment segments ih =>
    rw [itemsFrom, List.flatMap_append, ih, List.flatMap_cons]
    congr 1
    cases segment with
    | between text => simp [Segment.items, Segment.text, List.flatMap_map, Item.blocks]
    | «section» tag opening inner closing => simp [Segment.items, Segment.text, Item.blocks]

/-- The images that a part of a fragment shows. -/
def Slice.shownImages (slice : Slice) : List Image :=
  Html.shownImages slice.inner

theorem Slice.imageSources_blocks (slice : Slice) :
    imageSources (blocks slice.segment.text) = slice.shownImages.map (·.tag.src) := by
  cases slice with
  | between tokens => exact Html.imageSources_blocks tokens
  | «section» tag opening inner closing hopening hclosing => exact Html.imageSources_blocks inner

theorem imageSources_slices (slices : List Slice) :
    imageSources ((slices.map Slice.segment).flatMap fun segment => blocks segment.text) =
      (slices.flatMap Slice.shownImages).map (·.tag.src) := by
  induction slices with
  | nil => rfl
  | cons slice slices ih =>
    rw [List.map_cons, List.flatMap_cons, List.flatMap_cons, List.map_append, ← ih,
      ← slice.imageSources_blocks]
    exact List.filterMap_append

theorem sublist_slices (slices : List Slice) :
    (slices.flatMap Slice.shownImages).Sublist (images (slices.flatMap Slice.tokens)) := by
  induction slices with
  | nil => exact List.Sublist.refl []
  | cons slice slices ih =>
    rw [List.flatMap_cons, List.flatMap_cons, images_append, slice.images_tokens]
    exact (sublist_shownFrom none slice.inner).append ih

/-- Cut into parts, what is nested shows every image that stands in no heading, paragraph or
link. -/
theorem filter_slices {slices : List Slice} (h : AreNested (slices.flatMap Slice.tokens)) :
    (slices.flatMap Slice.shownImages).filter (!·.enclosed) =
      (images (slices.flatMap Slice.tokens)).filter (!·.enclosed) := by
  induction slices with
  | nil => rfl
  | cons slice slices ih =>
    rw [List.flatMap_cons] at h
    have hslice : AreNested slice.inner :=
      h.of_infix (slice.isInfix_inner.trans (List.prefix_append _ _).isInfix)
    have hshown : slice.shownImages.filter (!·.enclosed) =
        (images slice.inner).filter (!·.enclosed) :=
      filter_shownFrom hslice fun enclosure hnone => by cases hnone
    rw [List.flatMap_cons, List.flatMap_cons, images_append, List.filter_append,
      List.filter_append, slice.images_tokens, ih (h.of_infix (List.suffix_append _ _).isInfix),
      hshown]

/-- The images of a well-nested fragment that are read, each with its source: in every part into
which the fragment is cut, those that no heading, paragraph or link closed in that part swallows.
They are images of the fragment, in document order and each once, and every image that stands in no
heading, paragraph or link is one of them. -/
theorem Fragment.images_are_read (fragment : Fragment) : ∃ slices : List Slice,
    segments fragment.source = slices.map Slice.segment ∧
    slices.flatMap Slice.tokens = fragment.tokens ∧
    imageSources ((items fragment.source).flatMap Item.blocks) =
      (slices.flatMap Slice.shownImages).map (·.tag.src) ∧
    (slices.flatMap Slice.shownImages).Sublist fragment.images ∧
    (slices.flatMap Slice.shownImages).filter (!·.enclosed) =
      fragment.images.filter (!·.enclosed) := by
  have hsource : sources fragment.tokens = fragment.source := fragment.sources_tokensIn false
  obtain ⟨slices, hslices, htokens⟩ := exists_slices fragment.tokens none []
  rw [Option.map_none, Option.toList_none, List.nil_append, List.nil_append] at htokens
  have hsegments : segments fragment.source = slices.map Slice.segment := by
    rw [segments, ← hsource]
    exact hslices
  have hnoise : withoutNoise fragment.source = fragment.source := by
    rw [← hsource]
    exact withoutNoise_sources fragment.tokens
  have hnested : AreNested (slices.flatMap Slice.tokens) := by
    rw [htokens]
    exact (fragment.areClosed_tokensIn false).areNested
  refine ⟨slices, hsegments, htokens, ?_, ?_, ?_⟩
  · rw [items, hnoise, flatMap_blocks_itemsFrom, hsegments]
    exact imageSources_slices slices
  · rw [Fragment.images, ← htokens]
    exact sublist_slices slices
  · rw [Fragment.images, ← htokens]
    exact filter_slices hnested

/-- An image in a paragraph is swallowed.  Nor is the source of an image found behind a `>` in
another attribute or behind an attribute whose name ends in its name, and where a `<` stands in an
attribute of another tag, an image may be found that is none. -/
theorem images_are_swallowed :
    (∃ fragment : Fragment, fragment.source = "<p><img src=\"a.png\"></p>".toList ∧
      fragment.images.map (·.tag.src) = ["a.png"]) ∧
    items "<p><img src=\"a.png\"></p>".toList = [] ∧
    items "<img alt=\"a>b\" src=\"a.png\">".toList = [] ∧
    items "<img @src=\"b.png\" src=\"a.png\">".toList = [.block (.image "b.png" none)] ∧
    items "<div title=\"<img src='b.png'\"></div>".toList = [.block (.image "b.png" none)] := by
  refine ⟨?_, by decide +kernel, by decide +kernel, by decide +kernel, by decide +kernel⟩
  let tag : ImageTag :=
    { word := "img".toList, isName := by decide, before := [], isOther := List.forall_mem_nil _
      gap := ⟨[' '], by decide⟩, isApart := by decide
      name := ⟨'s', ['r', 'c'], by decide, List.all_eq_true.mp rfl⟩, isSource := by decide
      value := ⟨⟨[], rfl⟩, ⟨[], rfl⟩, '"', .inl rfl, "a.png".toList, by decide, by decide⟩
      behind := [], isPlain := isPlain_nil }
  let opening : OpeningTag .paragraph := ⟨['p'], by decide, [], isPlain_nil, by simp⟩
  let closing : ClosingTag .paragraph := ⟨['p'], by decide, ⟨[], by decide⟩⟩
  exact ⟨.element .paragraph opening (.image tag .nil) closing .nil, by decide, by decide +kernel⟩

end Html

end PageMarkup
