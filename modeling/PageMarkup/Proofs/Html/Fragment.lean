import PageMarkup.Proofs.Html.Attributes
import PageMarkup.Proofs.Html.Noise

/-!
# Well-nested fragments of pages

A fragment of a page is built to any depth from texts, images, and elements of a few kinds, each
with an opening and a closing tag of its name.  Written out, it is a sequence of tokens: tags, and
characters that begin none.  Whatever is recognized in it begins with a token, and what a token
begins is told from the name in it.
-/

namespace PageMarkup

namespace Html

open Text

/-! ### Elements and their tags -/

/-- What is read as one block up to a closing tag, whatever stands in it. -/
inductive Enclosure where
  | heading
  | paragraph
  | link
  deriving DecidableEq

/-- All of them. -/
def Enclosure.all : List Enclosure :=
  [heading, paragraph, link]

theorem Enclosure.mem_all (enclosure : Enclosure) : enclosure ∈ all := by
  cases enclosure <;> simp [all]

/-- The kinds of elements; a level of a heading is counted from zero. -/
inductive ElementKind where
  | «section»
  | division
  | heading (level : Fin 6)
  | paragraph
  | link
  deriving DecidableEq

/-- The name of the elements of a kind. -/
def ElementKind.name : ElementKind → List Char
  | .section => "section".toList
  | .division => "div".toList
  | .heading level => ['h', Nat.digitChar (level + 1)]
  | .paragraph => ['p']
  | .link => ['a']

/-- All the kinds. -/
def ElementKind.all : List ElementKind :=
  [.section, .division, .paragraph, .link] ++ (List.finRange 6).map .heading

theorem ElementKind.mem_all (kind : ElementKind) : kind ∈ all := by
  cases kind <;> simp [all]

/-- What an element of the kind is read as, if it is read up to its end. -/
def ElementKind.enclosure? : ElementKind → Option Enclosure
  | .heading _ => some .heading
  | .paragraph => some .paragraph
  | .link => some .link
  | _ => none

/-- An opening tag: a name, in letters of either case, and attributes behind it. -/
structure OpeningTag (kind : ElementKind) where
  word : List Char
  isName : lower word = kind.name
  attributes : List Char
  isPlain : IsPlain attributes
  isApart : ∀ c ∈ attributes.head?, isBlank c = true ∨ c = '/'

/-- What stands between the angle brackets. -/
def OpeningTag.inside {kind : ElementKind} (tag : OpeningTag kind) : List Char :=
  tag.word ++ tag.attributes

/-- A closing tag: a slash, a name, in letters of either case, and blanks. -/
structure ClosingTag (kind : ElementKind) where
  word : List Char
  isName : lower word = kind.name
  blanks : Blanks

/-- What stands between the angle brackets. -/
def ClosingTag.inside {kind : ElementKind} (tag : ClosingTag kind) : List Char :=
  '/' :: (tag.word ++ tag.blanks.text)

/-- The tag of an image: other attributes, the quoted source, and anything behind it. -/
structure ImageTag where
  word : List Char
  isName : lower word = "img".toList
  before : List Attribute
  isOther : ∀ attr ∈ before, lower attr.name.text ≠ "src".toList
  gap : Blanks
  isApart : gap.text ≠ []
  name : AttributeName
  isSource : lower name.text = "src".toList
  value : Quotation
  behind : List Char
  isPlain : IsPlain behind

/-- What stands behind the name of the tag. -/
def ImageTag.attributes (tag : ImageTag) : List Char :=
  tag.before.flatMap Attribute.source ++
    (tag.gap.text ++ (tag.name.text ++ (tag.value.source ++ tag.behind)))

/-- What stands between the angle brackets. -/
def ImageTag.inside (tag : ImageTag) : List Char :=
  tag.word ++ tag.attributes

/-- The source that the tag gives. -/
def ImageTag.src (tag : ImageTag) : String :=
  String.ofList (Entity.decode tag.value.text)

/-! ### Fragments -/

/-- An image of a fragment. -/
structure Image where
  tag : ImageTag
  /-- It stands in a heading, a paragraph or a link. -/
  enclosed : Bool

/-- A fragment: something, and what follows it. -/
inductive Fragment where
  | nil
  | char (c : Char) (h : c ≠ '<') (rest : Fragment)
  | image (tag : ImageTag) (rest : Fragment)
  | element (kind : ElementKind) (opening : OpeningTag kind) (inner : Fragment)
      (closing : ClosingTag kind) (rest : Fragment)

/-- A tag, or a character that begins none. -/
inductive Token where
  | char (c : Char) (h : c ≠ '<')
  | opening (kind : ElementKind) (tag : OpeningTag kind)
  | closing (kind : ElementKind) (tag : ClosingTag kind)
  | image (image : Image)

/-- A tag as it is written. -/
def tagSource (inside : List Char) : List Char :=
  '<' :: (inside ++ ['>'])

/-- The token as it is written. -/
def Token.source : Token → List Char
  | char c _ => [c]
  | opening _ tag => tagSource tag.inside
  | closing _ tag => tagSource tag.inside
  | .image found => tagSource found.tag.inside

/-- The image that the token is. -/
def Token.image? : Token → Option Image
  | .image found => some found
  | _ => none

theorem Token.eq_of_image? {token : Token} {image : Image} (h : token.image? = some image) :
    token = .image image := by
  cases token with
  | image found => rw [Option.some.inj h]
  | _ => cases h

/-- What the token opens. -/
def Token.opens? : Token → Option Enclosure
  | opening kind _ => kind.enclosure?
  | _ => none

/-- The token closes a heading, of any level, a paragraph or a link. -/
def Token.closes (token : Token) (enclosure : Enclosure) : Bool :=
  match token with
  | closing kind _ => kind.enclosure? == some enclosure
  | _ => false

/-- Tokens as they are written. -/
def sources (tokens : List Token) : List Char :=
  tokens.flatMap Token.source

@[simp] theorem sources_nil : sources [] = [] := rfl

@[simp] theorem sources_cons (token : Token) (tokens : List Token) :
    sources (token :: tokens) = token.source ++ sources tokens := rfl

@[simp] theorem sources_append (tokens more : List Token) :
    sources (tokens ++ more) = sources tokens ++ sources more :=
  List.flatMap_append

/-- The images among tokens. -/
def images (tokens : List Token) : List Image :=
  tokens.filterMap Token.image?

@[simp] theorem images_nil : images [] = [] := rfl

theorem images_cons (token : Token) (tokens : List Token) :
    images (token :: tokens) = token.image?.toList ++ images tokens := by
  cases himage : token.image? <;> simp [images, himage]

@[simp] theorem images_append (tokens more : List Token) :
    images (tokens ++ more) = images tokens ++ images more :=
  List.filterMap_append

namespace Fragment

/-- The tokens of a fragment that stands in a heading, a paragraph or a link, or does not. -/
def tokensIn (enclosed : Bool) : Fragment → List Token
  | nil => []
  | char c h rest => .char c h :: rest.tokensIn enclosed
  | image tag rest => .image ⟨tag, enclosed⟩ :: rest.tokensIn enclosed
  | element kind opening inner closing rest =>
    .opening kind opening :: (inner.tokensIn (enclosed || kind.enclosure?.isSome) ++
      .closing kind closing :: rest.tokensIn enclosed)

/-- The tokens of a fragment on its own. -/
def tokens (fragment : Fragment) : List Token :=
  fragment.tokensIn false

/-- The fragment as it is written. -/
def source : Fragment → List Char
  | nil => []
  | char c _ rest => c :: rest.source
  | image tag rest => tagSource tag.inside ++ rest.source
  | element _ opening inner closing rest =>
    tagSource opening.inside ++ (inner.source ++ (tagSource closing.inside ++ rest.source))

/-- A fragment is written as its tokens are. -/
theorem sources_tokensIn (enclosed : Bool) (fragment : Fragment) :
    sources (fragment.tokensIn enclosed) = fragment.source := by
  induction fragment generalizing enclosed with
  | nil => rfl
  | char c h rest ih =>
    rw [tokensIn, source, ← ih enclosed]
    rfl
  | image tag rest ih =>
    rw [tokensIn, source, ← ih enclosed]
    rfl
  | element kind opening inner closing rest hinner hrest =>
    rw [tokensIn, source, ← hinner (enclosed || kind.enclosure?.isSome), ← hrest enclosed]
    simp [sources, Token.source]

/-- The images of the fragment, in document order. -/
def images (fragment : Fragment) : List Image :=
  Html.images fragment.tokens

end Fragment

/-! ### Names -/

/-- The text begins with the name, in letters of either case. -/
def Leads (name inside : List Char) : Prop :=
  ∃ word more, word.map fold = name ∧ inside = word ++ more

/-- Neither of two names begins with the other one. -/
def AreApart (name other : List Char) : Prop :=
  ¬ name <+: other ∧ ¬ other <+: name

instance (name other : List Char) : Decidable (AreApart name other) :=
  inferInstanceAs (Decidable (_ ∧ _))

variable {name inside rest : List Char}

/-- A text that begins with one name does not begin with another. -/
theorem Leads.afterFolded?_eq_none (h : Leads name inside) {other : List Char}
    (hapart : AreApart other name) (rest : List Char) :
    afterFolded? other (inside ++ rest) = none := by
  obtain ⟨word, more, rfl, rfl⟩ := h
  refine Option.eq_none_iff_forall_ne_some.mpr fun tail htail => ?_
  obtain ⟨word', rfl, hword'⟩ := afterFolded?_eq_some_iff.mp htail
  have hleads : word <+: word ++ more ++ rest := by simp
  have hleads' : word' <+: word ++ more ++ rest := by
    rw [hword']
    exact List.prefix_append word' tail
  rcases List.prefix_or_prefix_of_prefix hleads hleads' with hle | hle
  · exact hapart.2 (hle.map fold)
  · exact hapart.1 (hle.map fold)

/-! ### Ends of words -/

/-- No blank is a word character: all the ranges of these lie between two blanks. -/
theorem isWordChar_of_isBlank {c : Char} (h : isBlank c = true) : isWordChar c = false := by
  have hapart : wordRanges.all (fun range => (0xA0 < range.1 && range.2 < 0x1680) ||
      (0x1680 < range.1 && range.2 < 0x2000) || (0x200A < range.1 && range.2 < 0x2028) ||
      (0x2029 < range.1 && range.2 < 0x202F) || (0x202F < range.1 && range.2 < 0x205F) ||
      (0x205F < range.1 && range.2 < 0x3000) || 0x3000 < range.1) = true := by decide +kernel
  simp only [isBlank, Bool.or_eq_true, Bool.and_eq_true, decide_eq_true_eq, beq_iff_eq] at h
  rw [isWordChar]
  split
  · have hascii : ∀ n < 33, 9 ≤ n ∧ n ≤ 13 ∨ n = 32 →
        ((Char.ofNat n).isAlphanum || Char.ofNat n == '_') = false := by decide
    have hword := hascii c.toNat (by omega) (by omega)
    rwa [Char.ofNat_toNat] at hword
  · rw [Ranges.has, List.any_eq_false]
    intro range hrange
    have hbetween := List.all_eq_true.mp hapart range hrange
    simp only [Bool.or_eq_true, Bool.and_eq_true, decide_eq_true_eq] at hbetween
    simp only [Bool.and_eq_true, decide_eq_true_eq]
    omega

theorem atWordEnd_attributes {attributes : List Char}
    (h : ∀ c ∈ attributes.head?, isBlank c = true ∨ c = '/') :
    atWordEnd (attributes ++ ['>']) = true := by
  cases attributes with
  | nil => decide
  | cons c attributes =>
    rcases h c rfl with hblank | rfl
    · simp [atWordEnd, isWordChar_of_isBlank hblank]
    · rfl

/-! ### What a name begins -/

theorem readNamed_of_apart {name : String} {key : List Char} (h : Leads key inside)
    (hapart : AreApart name.toList key) (rest : List Char) :
    readNamed name (tagSource inside ++ rest) = none := by
  have hnone := h.afterFolded?_eq_none hapart ('>' :: rest)
  simp [tagSource, readNamed, hnone]

theorem readHeadingTag_of_apart {key : List Char} (h : Leads key inside)
    (hapart : AreApart ['h'] key) (rest : List Char) :
    readHeadingTag (tagSource inside ++ rest) = none := by
  have hnone := h.afterFolded?_eq_none hapart ('>' :: rest)
  have hsource : tagSource inside ++ rest = '<' :: (inside ++ '>' :: rest) := by simp [tagSource]
  rw [hsource]
  cases hcs : inside ++ '>' :: rest with
  | nil => rfl
  | cons c cs =>
    rw [hcs, afterFolded?] at hnone
    have hc : fold c ≠ 'h' := by
      intro hc
      simp [hc, afterFolded?] at hnone
    cases cs with
    | nil => rfl
    | cons level cs => simp [readHeadingTag, hc]

theorem afterFolded?_closing_of_apart {key mark : List Char} (h : Leads key inside)
    (hapart : AreApart mark key) (rest : List Char) :
    afterFolded? ('<' :: mark) (tagSource inside ++ rest) = none := by
  have hnone := h.afterFolded?_eq_none hapart ('>' :: rest)
  have hfold : '<' = fold '<' := by decide
  simp [tagSource, afterFolded?, ← hfold, hnone]

/-- A tag is no noise if its name begins none. -/
theorem readNoise_of_apart {key : List Char} (h : Leads key inside) (hcomment : AreApart ['!'] key)
    (hnames : ∀ name ∈ noiseNames, AreApart name.toList key) (rest : List Char) :
    readNoise (tagSource inside ++ rest) = none := by
  have hsource : tagSource inside ++ rest = '<' :: (inside ++ '>' :: rest) := by simp [tagSource]
  rw [hsource]
  refine Option.eq_none_iff_forall_ne_some.mpr fun found hfound => ?_
  rcases readNoise_eq_some_iff.mp hfound with hread | ⟨name, hname, hread⟩
  · obtain ⟨more, -, hcs, -⟩ := readComment_eq_some_iff.mp hread
    have hnone := h.afterFolded?_eq_none hcomment ('>' :: rest)
    have hbang : '!' = fold '!' := by decide
    have hmark : "<!--".toList ++ more = '<' :: '!' :: ("--".toList ++ more) := rfl
    rw [hmark] at hcs
    rw [(List.cons.inj hcs).2, afterFolded?, if_pos hbang] at hnone
    cases hnone
  · obtain ⟨word, more, -, hword, hcs, -⟩ := readWhole_eq_some_iff.mp hread
    have hnone := h.afterFolded?_eq_none (hnames name hname) ('>' :: rest)
    have hsome := afterFolded?_eq_some_iff.mpr ⟨word, hword, (List.cons.inj hcs).2⟩
    rw [hnone] at hsome
    cases hsome

/-! ### What a token begins -/

/-- The name in a tag, in small letters, with the slash before it in a closing one. -/
def Token.key? : Token → Option (List Char)
  | char _ _ => none
  | opening kind _ => some kind.name
  | closing kind _ => some ('/' :: kind.name)
  | .image _ => some "img".toList

theorem ElementKind.isPlain_name (kind : ElementKind) :
    IsPlain kind.name ∧ IsAscii kind.name := by
  have hall : ∀ kind ∈ all, IsPlain kind.name ∧ IsAscii kind.name := by decide
  exact hall kind kind.mem_all

theorem isPlain_of_lower {word : List Char} (h : lower word = name) (hname : IsPlain name) :
    IsPlain word := by
  intro c hc
  have hlower : c.toLower ∈ name := h ▸ List.mem_map_of_mem hc
  constructor
  · rintro rfl
    exact (hname _ hlower).1 rfl
  · rintro rfl
    exact (hname _ hlower).2 rfl

theorem leads_of_lower {word : List Char} (h : lower word = name)
    (hname : IsAscii name) (more : List Char) : Leads name (word ++ more) :=
  ⟨word, more, map_fold_of_lower h hname, rfl⟩

theorem ImageTag.isPlain_inside (tag : ImageTag) : IsPlain tag.inside := by
  simp only [ImageTag.inside, ImageTag.attributes, isPlain_append_iff]
  exact ⟨isPlain_of_lower tag.isName (by decide), isPlain_flatMap_source tag.before,
    tag.gap.isPlain, tag.name.isPlain, tag.value.isPlain_source, tag.isPlain⟩

/-- A token is a tag with a name or a character that begins none. -/
theorem Token.cases_source (token : Token) :
    (∃ c, c ≠ '<' ∧ token.source = [c]) ∨ ∃ key inside, token.key? = some key ∧
      token.source = tagSource inside ∧ IsPlain inside ∧ Leads key inside := by
  cases token with
  | char c h => exact .inl ⟨c, h, rfl⟩
  | opening kind tag =>
    obtain ⟨hplain, hascii⟩ := kind.isPlain_name
    refine .inr ⟨kind.name, tag.inside, rfl, rfl, ?_, leads_of_lower tag.isName hascii _⟩
    exact isPlain_append_iff.mpr ⟨isPlain_of_lower tag.isName hplain, tag.isPlain⟩
  | closing kind tag =>
    obtain ⟨hplain, hascii⟩ := kind.isPlain_name
    refine .inr ⟨'/' :: kind.name, tag.inside, rfl, rfl, ?_, ?_⟩
    · exact isPlain_cons_iff.mpr ⟨by decide,
        isPlain_append_iff.mpr ⟨isPlain_of_lower tag.isName hplain, tag.blanks.isPlain⟩⟩
    · have hname : lower ('/' :: tag.word) = '/' :: kind.name := congrArg _ tag.isName
      exact leads_of_lower hname (List.forall_mem_cons.mpr ⟨by decide, hascii⟩) tag.blanks.text
  | image image =>
    exact .inr ⟨_, image.tag.inside, rfl, rfl, image.tag.isPlain_inside,
      leads_of_lower image.tag.isName (by decide) _⟩

theorem Token.source_ne_nil (token : Token) : token.source ≠ [] := by
  rcases token.cases_source with ⟨c, -, hsource⟩ | ⟨key, inside, -, hsource, -⟩
  · simp [hsource]
  · simp [hsource, tagSource]

section Missing

variable {α : Type} {read : List Char → Option α}

/-- What begins at `<` only and does not begin with a token does not begin inside it. -/
theorem Token.misses (hchar : ∀ c, c ≠ '<' → ∀ cs, read (c :: cs) = none) (token : Token)
    (h : read (token.source ++ rest) = none) : Misses read token.source rest := by
  rcases token.cases_source with ⟨c, hc, hsource⟩ | ⟨key, inside, -, hsource, hplain, -⟩
  · rw [hsource]
    exact misses_of_forall (List.forall_mem_singleton.mpr (hchar c hc))
  · intro before c after hsplit
    cases before with
    | nil =>
      rw [hsplit] at h
      exact h
    | cons d before =>
      rw [hsource] at hsplit
      have hmem : c ∈ inside ++ ['>'] := by
        rw [(List.cons.inj hsplit).2]
        exact List.mem_append_right before List.mem_cons_self
      refine hchar c ?_ _
      rcases List.mem_append.mp hmem with hinside | hend
      · exact (hplain c hinside).1
      · obtain rfl := List.mem_singleton.mp hend
        decide

theorem misses_sources (hchar : ∀ c, c ≠ '<' → ∀ cs, read (c :: cs) = none) {tokens : List Token}
    (h : ∀ token ∈ tokens, ∀ rest, read (token.source ++ rest) = none) (rest : List Char) :
    Misses read (sources tokens) rest := by
  induction tokens with
  | nil => exact misses_nil rest
  | cons token tokens ih =>
    rw [List.forall_mem_cons] at h
    exact (token.misses hchar (h.1 _)).append (ih h.2)

end Missing

/-! ### No noise -/

theorem readNoise_of_ne {c : Char} (hc : c ≠ '<') (cs : List Char) :
    readNoise (c :: cs) = none := by
  refine Option.eq_none_iff_forall_ne_some.mpr fun found hfound => ?_
  rcases readNoise_eq_some_iff.mp hfound with hread | ⟨name, -, hread⟩
  · obtain ⟨more, -, hcs, -⟩ := readComment_eq_some_iff.mp hread
    exact hc (List.cons.inj hcs).1
  · obtain ⟨word, more, -, -, hcs, -⟩ := readWhole_eq_some_iff.mp hread
    exact hc (List.cons.inj hcs).1

/-- No tag of a fragment has the name of an element that shows nothing. -/
theorem Token.areApart_noise {token : Token} {key : List Char} (h : token.key? = some key) :
    AreApart ['!'] key ∧ ∀ name ∈ noiseNames, AreApart name.toList key := by
  have hall : ∀ kind ∈ ElementKind.all, ∀ key ∈ [kind.name, '/' :: kind.name],
      AreApart ['!'] key ∧ ∀ name ∈ noiseNames, AreApart name.toList key := by decide
  cases token with
  | char c hc => cases h
  | opening kind tag => exact hall kind kind.mem_all key (by simp [← Option.some.inj h])
  | closing kind tag => exact hall kind kind.mem_all key (by simp [← Option.some.inj h])
  | image image =>
    obtain rfl := Option.some.inj h
    decide

theorem Token.readNoise_source (token : Token) (rest : List Char) :
    readNoise (token.source ++ rest) = none := by
  rcases token.cases_source with ⟨c, hc, hsource⟩ | ⟨key, inside, hkey, hsource, -, hleads⟩
  · rw [hsource]
    exact readNoise_of_ne hc rest
  · obtain ⟨hcomment, hnames⟩ := Token.areApart_noise hkey
    rw [hsource]
    exact readNoise_of_apart hleads hcomment hnames rest

/-- A fragment has no noise. -/
theorem withoutNoise_sources (tokens : List Token) :
    withoutNoise (sources tokens) = sources tokens := by
  have hmisses := misses_sources (fun _ hc => readNoise_of_ne hc)
    (fun token (_ : token ∈ tokens) => token.readNoise_source) []
  have hscan := scan_append_of_misses hmisses
  rw [List.append_nil, scan_nil, List.append_nil] at hscan
  rw [withoutNoise_eq, hscan]
  simp [List.flatMap_map, blanked]

end Html

end PageMarkup
