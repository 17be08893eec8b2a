import PageMarkup.Proofs.Html.Elements
import PageMarkup.Proofs.Html.Spans

/-!
# The parts of a well-nested fragment

A page is cut into its outermost sections and what lies between them at tags that open and close
sections.  So a fragment is cut between tokens, and at no image.
-/

namespace PageMarkup

namespace Html

open Text

/-! ### The parts of a fragment -/

/-- A part of a fragment: tokens between sections, or a section with its tags, of which the closing
one is missing where the fragment ends first. -/
inductive Slice where
  | between (tokens : List Token)
  | «section» (tag : Tag) (opening : Token) (inner : List Token) (closing : Option Token)
      (hopening : opening.image? = none) (hclosing : ∀ token ∈ closing, token.image? = none)

/-- The segment of the page that the part is. -/
def Slice.segment : Slice → Segment
  | between tokens => .between (sources tokens)
  | .section tag opening inner closing _ _ =>
    .section tag opening.source (sources inner) (sources closing.toList)

/-- The tokens of the part. -/
def Slice.tokens : Slice → List Token
  | between tokens => tokens
  | .section _ opening inner closing _ _ => opening :: (inner ++ closing.toList)

/-- The tokens in which blocks are looked for. -/
def Slice.inner : Slice → List Token
  | between tokens => tokens
  | .section _ _ inner _ _ _ => inner

theorem Slice.images_tokens (slice : Slice) : images slice.tokens = images slice.inner := by
  cases slice with
  | between tokens => rfl
  | «section» tag opening inner closing hopening hclosing =>
    have hnone : images closing.toList = [] := by
      rw [images, List.filterMap_eq_nil_iff]
      intro token htoken
      exact hclosing token (Option.mem_toList.mp htoken)
    rw [Slice.tokens, images_cons, images_append, hopening, hnone, List.append_nil]
    rfl

theorem Slice.isInfix_inner (slice : Slice) : slice.inner <:+: slice.tokens := by
  cases slice with
  | between tokens => exact List.infix_refl tokens
  | «section» tag opening inner closing hopening hclosing =>
    exact ⟨[opening], closing.toList, by simp [Slice.tokens, Slice.inner]⟩

/-! ### Tags in a fragment -/

/-- The name of an image begins with a letter, so it does not close anything. -/
theorem ImageTag.exists_word (tag : ImageTag) :
    ∃ c more, tag.word = c :: more ∧ c ≠ '/' ∧ ∀ d ∈ c :: more, isLetter d = true := by
  have hascii : IsAscii "img".toList := by decide
  have hsmall : "img".toList.all isSmallLetter = true := by decide
  have hletter : ∀ d ∈ tag.word, isLetter d = true := by
    intro d hd
    have hlower : d.toLower ∈ "img".toList := tag.isName ▸ List.mem_map_of_mem hd
    exact isLetter_of_fold (fold_eq_of_toLower rfl (hascii _ hlower)).symm
      (List.all_eq_true.mp hsmall _ hlower)
  cases hword : tag.word with
  | nil =>
    have hname := tag.isName
    rw [hword] at hname
    cases hname
  | cons c more =>
    rw [hword] at hletter
    refine ⟨c, more, rfl, ?_, hletter⟩
    rintro rfl
    exact absurd (hletter '/' List.mem_cons_self) (by decide)

/-- The name of an image is read whole. -/
theorem ImageTag.nameOf?_inside (tag : ImageTag) :
    nameOf? tag.inside = some (tag.word, tag.attributes) := by
  have hend := atWordEnd_attributes tag.isApart_attributes
  have hapart : ∀ c ∈ tag.attributes.head?, isNameChar c = false := by
    intro c hc
    rcases tag.isApart_attributes c hc with hblank | rfl
    · have hchar := isAttributeChar_eq_false_of_isBlank hblank
      simp only [isAttributeChar, isAttributeStart, Bool.or_eq_false_iff] at hchar
      simp [isNameChar, hchar]
    · decide
  obtain ⟨c, more, hword, -, hletter⟩ := tag.exists_word
  rw [List.forall_mem_cons] at hletter
  have hspan := spanWhile_append_of_forall
    (fun d hd => by simp [isNameChar, hletter.2 d hd] : ∀ d ∈ more, isNameChar d = true) hapart
  rw [ImageTag.inside, hword, List.cons_append, nameOf?, hspan]
  simp [hletter.1, hend]

theorem ImageTag.readTag_source (tag : ImageTag) (rest : List Char) :
    readTag (tagSource tag.inside ++ rest) = some (⟨false, tag.word, tag.attributes⟩, rest) := by
  have hsource : tagSource tag.inside ++ rest = '<' :: (tag.inside ++ '>' :: rest) := by
    simp [tagSource]
  have hinside : '>' ∉ tag.inside := fun hmem => (tag.isPlain_inside _ hmem).2 rfl
  have hslash : (tag.inside ++ '>' :: rest).head? ≠ some '/' := by
    obtain ⟨c, more, hword, hc, -⟩ := tag.exists_word
    rw [ImageTag.inside, hword]
    exact fun hhead => hc (Option.some.inj hhead)
  have hread := bind_readName_append hinside rest (Tag.mk false)
  rw [tag.nameOf?_inside] at hread
  rw [hsource, readTag_of_ne hslash]
  exact hread

/-- A tag of a fragment is read as one or passed; that of an image opens and ends no section. -/
theorem Token.scan_readTag (token : Token) :
    (∀ rest, scan readTag (token.source ++ rest) =
      token.source.map Piece.char ++ scan readTag rest) ∨
    ∃ tag, (opensSection tag = true ∨ tag.closing = true → token.image? = none) ∧
      ∀ rest, scan readTag (token.source ++ rest) =
        .found tag token.source :: scan readTag rest := by
  cases himage : token.image? with
  | some image =>
    obtain rfl := Token.eq_of_image? himage
    refine .inr ⟨⟨false, image.tag.word, image.tag.attributes⟩, ?_, fun rest =>
      scan_append_of_some (Token.source_ne_nil _) (image.tag.readTag_source rest)⟩
    rintro (hopens | hclosing)
    · have hname : lower image.tag.word = ['i', 'm', 'g'] := image.tag.isName
      simp [opensSection, hname] at hopens
    · cases hclosing
  | none =>
    have hchar : ∀ c, c ≠ '<' → ∀ cs, readTag (c :: cs) = none :=
      fun c hc => isTagReader_readTag.of_ne hc
    rcases token.cases_source with ⟨c, hc, hsource⟩ | ⟨key, inside, -, hsource, hplain, -⟩
    · refine .inl fun rest => scan_append_of_misses (token.misses hchar ?_)
      rw [hsource]
      exact hchar c hc rest
    · -- a tag of another kind is read by its inside alone, so the text behind it does not matter
      obtain ⟨value?, heq, -⟩ := isTagReader_readTag
      have hinside : '>' ∉ inside := fun hmem => (hplain _ hmem).2 rfl
      have hread (rest : List Char) : readTag (token.source ++ rest) =
          (value? inside).map fun tag => (tag, rest) := by
        rw [heq, hsource, ← readInside_append value? hinside rest]
        simp [tagSource]
      cases hvalue : value? inside with
      | none =>
        refine .inl fun rest => scan_append_of_misses (token.misses hchar ?_)
        rw [hread, hvalue]
        rfl
      | some tag =>
        refine .inr ⟨tag, fun _ => rfl, fun rest => scan_append_of_some token.source_ne_nil ?_⟩
        rw [hread, hvalue]
        rfl

/-! ### The walk through the tags -/

/-- A section in which the walk stands, with the token that opened it. -/
structure OpenToken where
  state : OpenSection
  token : Token
  isOpening : state.opening = token.source
  image?_eq_none : token.image? = none

/-- The segments of a fragment from here on.  The walk stands in a section, if in any, and has passed
some tokens since the last segment began. -/
def segmentsOf (inside : Option OpenToken) (passed tokens : List Token) : List Segment :=
  segmentsFrom (inside.map OpenToken.state) (sources passed).reverse (scan readTag (sources tokens))

/-- A token is passed, or it completes a part that consists of the tokens up to it: of those before
it if it opens a section, and with it if it ends one. -/
theorem segmentsOf_cons (inside : Option OpenToken) (passed : List Token) (token : Token) :
    (∃ next : Option OpenToken, next.map OpenToken.token = inside.map OpenToken.token ∧
      ∀ tokens, segmentsOf inside passed (token :: tokens) =
        segmentsOf next (passed ++ [token]) tokens) ∨
    ∃ (slice : Slice) (next : Option OpenToken),
      slice.tokens ++ (next.map OpenToken.token).toList =
        (inside.map OpenToken.token).toList ++ (passed ++ [token]) ∧
      ∀ tokens, segmentsOf inside passed (token :: tokens) =
        slice.segment :: segmentsOf next [] tokens := by
  have hpassed : token.source.reverse ++ (sources passed).reverse =
      (sources (passed ++ [token])).reverse := by simp
  simp only [segmentsOf, sources_cons]
  -- a token that is no tag, like a tag that neither opens nor ends anything, is passed
  rcases token.scan_readTag with hchars | ⟨tag, himage, hfound⟩
  · refine .inl ⟨inside, rfl, fun tokens => ?_⟩
    rw [hchars, segmentsFrom_chars, hpassed]
  simp only [hfound]
  cases inside with
  | none =>
    simp only [Option.map_none, segmentsFrom_none_found]
    by_cases hopens : opensSection tag = true
    · let opened : OpenToken := ⟨⟨tag, token.source, 0⟩, token, rfl, himage (.inl hopens)⟩
      refine .inr ⟨.between passed, some opened, rfl, fun tokens => ?_⟩
      rw [if_pos hopens]
      simp [Slice.segment, opened]
    · refine .inl ⟨none, rfl, fun tokens => ?_⟩
      rw [if_neg hopens, hpassed, Option.map_none]
  | some opened =>
    obtain ⟨s, opening, hopening, hnone⟩ := opened
    rcases segmentsFrom_some_found s tag token.source with
      ⟨depth, -, hpass⟩ | ⟨-, hclosing, -, -, hcomplete⟩
    · refine .inl ⟨some ⟨{ s with depth := depth }, opening, hopening, hnone⟩, rfl,
        fun tokens => ?_⟩
      rw [Option.map_some, hpass, hpassed]
      rfl
    · have hend := himage (.inr hclosing)
      refine .inr ⟨.section s.tag opening passed (some token) hnone (by simpa using hend), none,
        by simp [Slice.tokens], fun tokens => ?_⟩
      rw [Option.map_some, hcomplete]
      simp [Slice.segment, hopening]

/-- The walk through the tags of a fragment cuts it between tokens. -/
theorem exists_slices (tokens : List Token) (inside : Option OpenToken) (passed : List Token) :
    ∃ slices : List Slice, segmentsOf inside passed tokens = slices.map Slice.segment ∧
      slices.flatMap Slice.tokens =
        (inside.map OpenToken.token).toList ++ (passed ++ tokens) := by
  induction tokens generalizing inside passed with
  | nil =>
    cases inside with
    | none =>
      refine ⟨[.between passed], ?_, by simp [Slice.tokens]⟩
      simp [segmentsOf, segmentsFrom, Slice.segment]
    | some opened =>
      obtain ⟨s, opening, hopening, himage⟩ := opened
      -- a section that is not closed ends with the page
      refine ⟨[.section s.tag opening passed none himage (by simp), .between []], ?_, ?_⟩
      · simp [segmentsOf, segmentsFrom, Slice.segment, hopening]
      · simp [Slice.tokens]
  | cons token tokens ih =>
    rcases segmentsOf_cons inside passed token with
      ⟨next, hsame, hpass⟩ | ⟨slice, next, hcompleted, hcut⟩
    · obtain ⟨slices, hslices, htokens⟩ := ih next (passed ++ [token])
      refine ⟨slices, (hpass tokens).trans hslices, ?_⟩
      rw [htokens, hsame]
      simp
    · obtain ⟨slices, hslices, htokens⟩ := ih next []
      refine ⟨slice :: slices, ?_, ?_⟩
      · rw [hcut, hslices, List.map_cons]
      · rw [List.flatMap_cons, htokens, ← List.append_assoc, hcompleted]
        simp

end Html

end PageMarkup
