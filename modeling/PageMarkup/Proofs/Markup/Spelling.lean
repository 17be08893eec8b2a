import PageMarkup.Markup.Reader
import PageMarkup.Proofs.Text.Letters
import PageMarkup.Proofs.Text.Replacing
import PageMarkup.Proofs.Text.Scanning

/-!
# How a tag is spelled

A tag is spelled by its brackets, a slash if it closes, its name, its attributes with the blanks in
front of and inside them, and at the end blanks and a slash that may be missing.  The reader of tags
recognizes exactly what is spelled so: no two spellings that begin at one place can end at different
ones.
-/

namespace PageMarkup

open Text

namespace Markup

/-! ### Characters of names -/

/-- A character that is far from the letters. -/
theorem isLetter_eq_false {c : Char} (h : c.toNat < 65 ∨ (90 < c.toNat ∧ c.toNat < 97) ∨
    (122 < c.toNat ∧ c.toNat ≠ 0x17F ∧ c.toNat ≠ 0x212A)) : isLetter c = false := by
  have hfold : fold c = c := by
    unfold fold
    rw [if_neg (by omega), if_neg (by omega), toLower_eq_self (by omega)]
  rw [isLetter, hfold]
  refine Bool.eq_false_iff.mpr fun hsmall => ?_
  have hbounds := isSmallLetter_iff.mp hsmall
  omega

/-- Blanks stand in no name. -/
theorem isAttributeChar_of_isBlank {c : Char} (h : isBlank c = true) :
    isAttributeChar c = false := by
  have hnat : (9 ≤ c.toNat ∧ c.toNat ≤ 13) ∨ c.toNat = 0x20 ∨ c.toNat = 0x85 ∨ c.toNat = 0xA0 ∨
      c.toNat = 0x1680 ∨ (0x2000 ≤ c.toNat ∧ c.toNat ≤ 0x200A) ∨ c.toNat = 0x2028 ∨
      c.toNat = 0x2029 ∨ c.toNat = 0x202F ∨ c.toNat = 0x205F ∨ c.toNat = 0x3000 := by
    simpa [isBlank, or_assoc] using h
  have hletter : isLetter c = false := isLetter_eq_false (by omega)
  have hdigit : isAsciiDigit c = false := by
    refine Bool.eq_false_iff.mpr fun hdigit => ?_
    have hbounds := isAsciiDigit_iff.mp hdigit
    omega
  have hother : c ≠ '_' ∧ c ≠ '-' := by
    constructor
    · rintro rfl
      exact absurd h (by decide)
    · rintro rfl
      exact absurd h (by decide)
  simp [isAttributeChar, isAttributeStart, hletter, hdigit, hother]

theorem isBlank_of_isAttributeStart {c : Char} (h : isAttributeStart c = true) :
    isBlank c = false := by
  refine Bool.eq_false_iff.mpr fun hblank => ?_
  have hchar : isAttributeChar c = true := by simp [isAttributeChar, h]
  rw [isAttributeChar_of_isBlank hblank] at hchar
  cases hchar

/-- Behind blanks, no name goes on. -/
theorem isAttributeChar_of_mem_head? {blanks rest : List Char} (hblanks : allBlank blanks = true)
    (hrest : ∀ c ∈ rest.head?, isAttributeChar c = false) :
    ∀ c ∈ (blanks ++ rest).head?, isAttributeChar c = false := by
  cases blanks with
  | nil => exact hrest
  | cons blank blanks =>
    intro c hc
    obtain rfl : blank = c := Option.some.inj hc
    exact isAttributeChar_of_isBlank (List.all_eq_true.mp hblanks blank List.mem_cons_self)

/-- The characters of the name of an element may stand in the name of an attribute. -/
theorem isAttributeChar_of_isNameChar {c : Char} (h : isNameChar c = true) :
    isAttributeChar c = true := by
  simp only [isNameChar, Bool.or_eq_true] at h
  rcases h with (h | h) | h
  · simp [isAttributeChar, isAttributeStart, h]
  · simp [isAttributeChar, h]
  · simp [isAttributeChar, isAttributeStart, h]

/-- A run of characters with a first one. -/
def IsRun (first more : Char → Bool) : List Char → Prop
  | [] => False
  | c :: cs => first c = true ∧ ∀ d ∈ cs, more d = true

instance (first more : Char → Bool) (cs : List Char) : Decidable (IsRun first more cs) :=
  match cs with
  | [] => inferInstanceAs (Decidable False)
  | c :: cs => inferInstanceAs (Decidable (first c = true ∧ ∀ d ∈ cs, more d = true))

theorem IsRun.exists_cons {first more : Char → Bool} {cs : List Char} (h : IsRun first more cs) :
    ∃ c ds, cs = c :: ds ∧ first c = true ∧ ∀ d ∈ ds, more d = true := by
  cases cs with
  | nil => exact absurd h id
  | cons c ds => exact ⟨c, ds, rfl, h.1, h.2⟩

/-! ### Attributes -/

/-- An attribute as it is spelled: the blanks in front of it, its name, the blanks on either side of
the equals sign, and what stands between the quotes. -/
structure SpelledAttribute where
  gap : List Char
  name : List Char
  before : List Char
  after : List Char
  value : List Char
  deriving DecidableEq, Repr

namespace SpelledAttribute

/-- The characters of the attribute. -/
def chars (spelled : SpelledAttribute) : List Char :=
  spelled.gap ++ (spelled.name ++ (spelled.before ++ ('=' :: (spelled.after ++
    ('"' :: (spelled.value ++ ['"']))))))

/-- What the attribute says: its name in small letters, and its value with every reference
decoded. -/
def entry (spelled : SpelledAttribute) : String × String :=
  (String.ofList (lower spelled.name), String.ofList (Entity.decode spelled.value))

/-- The parts of the attribute are what they should be. -/
structure IsProper (spelled : SpelledAttribute) : Prop where
  gap : spelled.gap ≠ [] ∧ allBlank spelled.gap = true
  name : IsRun isAttributeStart isAttributeChar spelled.name
  before : allBlank spelled.before = true
  after : allBlank spelled.after = true
  value : '"' ∉ spelled.value

end SpelledAttribute

/-- What stands before the first quote. -/
theorem untilQuote?_eq_some_iff {cs value rest : List Char} :
    untilQuote? cs = some (value, rest) ↔ '"' ∉ value ∧ cs = value ++ '"' :: rest := by
  have hspan : untilQuote? cs = some (value, rest) ↔
      ∃ quote, spanWhile (· != '"') cs = (value, quote :: rest) := by
    simp only [untilQuote?, spanWhile]
    split
    · rename_i quote others hdrop
      simp [hdrop]
    · rename_i hdrop
      simp [hdrop]
  simp only [hspan, spanWhile_bne_eq_iff, exists_eq_left]

section

variable {cs rest : List Char}

/-- The equals sign is looked for behind blanks. -/
theorem afterEquals_eq_some_iff : after? ['='] (trimStart cs) = some rest ↔
    ∃ blanks, allBlank blanks = true ∧ cs = blanks ++ '=' :: rest :=
  after?_trimStart_eq_some_iff rfl (by decide)

/-- The first quote is looked for behind blanks. -/
theorem afterQuote_eq_some_iff : after? ['"'] (trimStart cs) = some rest ↔
    ∃ blanks, allBlank blanks = true ∧ cs = blanks ++ '"' :: rest :=
  after?_trimStart_eq_some_iff rfl (by decide)

end

/-- What is read as an attribute is spelled as one. -/
theorem exists_of_readAttribute {cs rest : List Char} {entry : String × String}
    (h : readAttribute cs = some (entry, rest)) :
    ∃ spelled : SpelledAttribute, spelled.IsProper ∧ cs = spelled.chars ++ rest ∧
      entry = spelled.entry := by
  -- the reader goes on in one case of each test only, and what it passed there is what an attribute
  -- is spelled with
  cases cs with
  | nil => cases h
  | cons blank cs =>
    cases hblank : isBlank blank with
    | false => simp [readAttribute, hblank] at h
    | true =>
      cases htrim : trimStart cs with
      | nil => simp [readAttribute, hblank, htrim] at h
      | cons c more =>
        cases hc : isAttributeStart c with
        | false => simp [readAttribute, hblank, htrim, hc] at h
        | true =>
          obtain ⟨-, gap, hgap, rfl⟩ := trimStart_eq_cons_iff.mp htrim
          have hspan : spanWhile isAttributeChar more =
              ((spanWhile isAttributeChar more).1, (spanWhile isAttributeChar more).2) := rfl
          obtain ⟨hmore, hname, -⟩ := spanWhile_eq_iff.mp hspan
          simp only [readAttribute, hblank, htrim, hc, Bool.not_true, Bool.false_eq_true,
            if_false, Option.bind_eq_bind, Option.bind_eq_some_iff, afterEquals_eq_some_iff,
            afterQuote_eq_some_iff] at h
          obtain ⟨_, ⟨before, hbefore, hfirst⟩, _, ⟨after, hafter, rfl⟩, parts, hparts, hsome⟩ := h
          obtain ⟨hvalue, rfl⟩ := untilQuote?_eq_some_iff.mp hparts
          obtain ⟨rfl, rfl⟩ := Prod.mk.inj (Option.some.inj hsome)
          refine ⟨⟨blank :: gap, c :: (spanWhile isAttributeChar more).1, before, after, parts.1⟩,
            ⟨⟨List.cons_ne_nil _ _, ?_⟩, ⟨hc, hname⟩, hbefore, hafter, hvalue⟩, ?_, rfl⟩
          · rw [allBlank, List.all_cons, hblank, Bool.true_and]
            exact hgap
          · rw [hfirst] at hmore
            simpa [SpelledAttribute.chars] using hmore

/-- What is spelled as an attribute is read as one. -/
theorem readAttribute_chars {spelled : SpelledAttribute} (h : spelled.IsProper)
    (rest : List Char) : readAttribute (spelled.chars ++ rest) = some (spelled.entry, rest) := by
  obtain ⟨gap, name, before, after, value⟩ := spelled
  obtain ⟨⟨hne, hgap⟩, hname, hbefore, hafter, hvalue⟩ := h
  obtain ⟨blank, gap, rfl⟩ := List.exists_cons_of_ne_nil hne
  obtain ⟨c, more, rfl, hc, hmore⟩ := hname.exists_cons
  rw [allBlank, List.all_cons, Bool.and_eq_true] at hgap
  obtain ⟨hblank, hgap⟩ := hgap
  let ending := value ++ '"' :: rest
  let behind := before ++ '=' :: (after ++ '"' :: ending)
  have hspan : spanWhile isAttributeChar (more ++ behind) = (more, behind) := by
    refine spanWhile_append_of_forall hmore (isAttributeChar_of_mem_head? hbefore ?_)
    intro d hd
    obtain rfl : '=' = d := Option.some.inj hd
    decide
  have htrim : trimStart (gap ++ c :: (more ++ behind)) = c :: (more ++ behind) :=
    trimStart_eq_cons_iff.mpr ⟨isBlank_of_isAttributeStart hc, gap, hgap, rfl⟩
  have hfirst : after? ['='] (trimStart behind) = some (after ++ '"' :: ending) :=
    afterEquals_eq_some_iff.mpr ⟨before, hbefore, rfl⟩
  have hsecond : after? ['"'] (trimStart (after ++ '"' :: ending)) = some ending :=
    afterQuote_eq_some_iff.mpr ⟨after, hafter, rfl⟩
  have hlast : untilQuote? ending = some (value, rest) :=
    untilQuote?_eq_some_iff.mpr ⟨hvalue, rfl⟩
  have hwritten : (SpelledAttribute.mk (blank :: gap) (c :: more) before after value).chars ++
      rest = blank :: (gap ++ c :: (more ++ behind)) := by
    simp [SpelledAttribute.chars, behind, ending]
  simp only [hwritten, readAttribute, hblank, htrim, hc, hspan, hfirst, hsecond, hlast,
    Bool.not_true, Bool.false_eq_true, if_false, Option.bind_eq_bind, Option.bind_some]
  rfl

namespace SpelledAttribute

variable {spelled : SpelledAttribute}

theorem IsProper.chars_ne_nil (h : spelled.IsProper) : spelled.chars ≠ [] := by
  obtain ⟨blank, gap, hgap⟩ := List.exists_cons_of_ne_nil h.gap.1
  rw [chars, hgap]
  exact List.cons_ne_nil _ _

/-- Behind the blanks in front of it, the attribute begins with its name. -/
theorem IsProper.exists_trimStart (h : spelled.IsProper) (rest : List Char) :
    ∃ c more, isAttributeStart c = true ∧ trimStart (spelled.chars ++ rest) = c :: more := by
  obtain ⟨c, more, hname, hc, -⟩ := h.name.exists_cons
  have hcs : ∃ behind, spelled.chars ++ rest = spelled.gap ++ c :: behind := by
    rw [chars, hname, List.append_assoc, List.cons_append, List.cons_append]
    exact ⟨_, rfl⟩
  obtain ⟨behind, hcs⟩ := hcs
  exact ⟨c, behind, hc, trimStart_eq_cons_iff.mpr
    ⟨isBlank_of_isAttributeStart hc, spelled.gap, h.gap.2, hcs⟩⟩

end SpelledAttribute

/-- An attribute that is read takes some of the text. -/
theorem exists_attribute (cs : List Char) (entry : String × String) (rest : List Char)
    (h : readAttribute cs = some (entry, rest)) :
    ∃ spelled : SpelledAttribute, spelled.IsProper ∧ spelled.chars ≠ [] ∧
      cs = spelled.chars ++ rest ∧ entry = spelled.entry := by
  obtain ⟨spelled, hproper, hcs, hentry⟩ := exists_of_readAttribute h
  exact ⟨spelled, hproper, hproper.chars_ne_nil, hcs, hentry⟩

/-! ### Tags -/

/-- A tag as it is spelled: whether it closes, its name, its attributes, the blanks behind them, and
whether a slash stands at the end. -/
structure SpelledTag where
  closing : Bool
  name : List Char
  attributes : List SpelledAttribute
  gap : List Char
  slash : Bool
  deriving DecidableEq, Repr

namespace SpelledTag

/-- The end of the tag. -/
def ending (spelled : SpelledTag) : List Char :=
  spelled.gap ++ ((if spelled.slash then ['/'] else []) ++ [']'])

/-- The characters of the tag from its name on. -/
def body (spelled : SpelledTag) : List Char :=
  spelled.name ++ (spelled.attributes.flatMap SpelledAttribute.chars ++ spelled.ending)

/-- The characters of the tag. -/
def chars (spelled : SpelledTag) : List Char :=
  '[' :: ((if spelled.closing then ['/'] else []) ++ spelled.body)

/-- What the tag says, with its name in small letters. -/
def token (spelled : SpelledTag) : TagToken :=
  ⟨spelled.closing, String.ofList (lower spelled.name),
    spelled.attributes.map SpelledAttribute.entry⟩

/-- The parts of the tag are what they should be. -/
structure IsProper (spelled : SpelledTag) : Prop where
  name : IsRun isLetter isNameChar spelled.name
  attributes : ∀ item ∈ spelled.attributes, item.IsProper
  gap : allBlank spelled.gap = true

end SpelledTag

/-- The end of a tag is looked for behind blanks. -/
theorem exists_of_afterTagEnd? {cs rest : List Char} (h : afterTagEnd? cs = some rest) :
    ∃ gap slash, allBlank gap = true ∧
      cs = gap ++ ((if slash = true then ['/'] else []) ++ [']']) ++ rest := by
  obtain ⟨gap, hgap, hcs⟩ := exists_append_trimStart cs
  unfold afterTagEnd? at h
  split at h
  · rename_i others hend
    obtain rfl := Option.some.inj h
    exact ⟨gap, true, hgap, by rw [hcs, hend]; simp⟩
  · rename_i others hend
    obtain rfl := Option.some.inj h
    exact ⟨gap, false, hgap, by rw [hcs, hend]; simp⟩
  · cases h

section

variable {spelled : SpelledTag}

theorem afterTagEnd?_ending (h : allBlank spelled.gap = true) (rest : List Char) :
    afterTagEnd? (spelled.ending ++ rest) = some rest := by
  rw [SpelledTag.ending, List.append_assoc, afterTagEnd?, trimStart_append_of_allBlank h]
  cases spelled.slash with
  | true => rfl
  | false => rfl

/-- At the end of a tag no further attribute begins. -/
theorem readAttribute_ending (h : allBlank spelled.gap = true) (rest : List Char) :
    readAttribute (spelled.ending ++ rest) = none := by
  refine Option.eq_none_iff_forall_ne_some.mpr fun found hfound => ?_
  obtain ⟨item, hproper, -, hcs, -⟩ := exists_attribute _ found.1 found.2 hfound
  obtain ⟨c, more, hc, htrim⟩ := hproper.exists_trimStart found.2
  rw [← hcs, SpelledTag.ending, List.append_assoc, trimStart_append_of_allBlank h] at htrim
  cases hslash : spelled.slash with
  | true =>
    rw [hslash] at htrim
    obtain rfl : '/' = c := (List.cons.inj htrim).1
    exact absurd hc (by decide)
  | false =>
    rw [hslash] at htrim
    obtain rfl : ']' = c := (List.cons.inj htrim).1
    exact absurd hc (by decide)

/-- Behind the name of a tag, no name goes on. -/
theorem isNameChar_of_mem_head? (h : spelled.IsProper) (rest : List Char) :
    ∀ c ∈ (spelled.attributes.flatMap SpelledAttribute.chars ++ (spelled.ending ++ rest)).head?,
      isNameChar c = false := by
  have hnot {c : Char} (hc : isAttributeChar c = false) : isNameChar c = false := by
    refine Bool.eq_false_iff.mpr fun hname => ?_
    rw [isAttributeChar_of_isNameChar hname] at hc
    cases hc
  intro c hc
  refine hnot ?_
  -- behind the name stands a blank, a slash or the closing bracket
  cases hattributes : spelled.attributes with
  | nil =>
    rw [hattributes, List.flatMap_nil, List.nil_append, SpelledTag.ending, List.append_assoc] at hc
    refine isAttributeChar_of_mem_head? h.gap ?_ c hc
    intro d hd
    cases hslash : spelled.slash with
    | true =>
      rw [hslash] at hd
      obtain rfl : '/' = d := Option.some.inj hd
      decide
    | false =>
      rw [hslash] at hd
      obtain rfl : ']' = d := Option.some.inj hd
      decide
  | cons item items =>
    have hproper := h.attributes item (by rw [hattributes]; exact List.mem_cons_self)
    obtain ⟨blank, gap, hgap⟩ := List.exists_cons_of_ne_nil hproper.gap.1
    have hblank := hproper.gap.2
    rw [hgap, allBlank, List.all_cons, Bool.and_eq_true] at hblank
    rw [hattributes, List.flatMap_cons, SpelledAttribute.chars, hgap] at hc
    obtain rfl : blank = c := Option.some.inj hc
    exact isAttributeChar_of_isBlank hblank.1

/-- What is spelled as the name, the attributes and the end of a tag is read so. -/
theorem readTagBody_body (h : spelled.IsProper) (rest : List Char) :
    readTagBody spelled.closing (spelled.body ++ rest) = some (spelled.token, rest) := by
  obtain ⟨c, more, hname, hc, hmore⟩ := h.name.exists_cons
  have hspan := spanWhile_append_of_forall hmore (isNameChar_of_mem_head? h rest)
  have hattributes := readMany_flatMap SpelledAttribute.chars SpelledAttribute.entry
    (fun item hitem => (h.attributes item hitem).chars_ne_nil)
    (fun item hitem => readAttribute_chars (h.attributes item hitem))
    (readAttribute_ending h.gap rest)
  have hend := afterTagEnd?_ending h.gap rest
  rw [SpelledTag.body, hname, List.cons_append, List.cons_append, List.append_assoc,
    List.append_assoc, readTagBody]
  simp only [hc, hspan, hattributes, hend, Bool.not_true, Bool.false_eq_true, if_false,
    Option.bind_eq_bind, Option.bind_some, SpelledTag.token, hname]

end

/-- What is read as the name, the attributes and the end of a tag is spelled so. -/
theorem exists_of_readTagBody {closing : Bool} {cs rest : List Char} {token : TagToken}
    (h : readTagBody closing cs = some (token, rest)) :
    ∃ spelled : SpelledTag, spelled.IsProper ∧ spelled.closing = closing ∧
      cs = spelled.body ++ rest ∧ token = spelled.token := by
  cases cs with
  | nil => cases h
  | cons c more =>
    cases hc : isLetter c with
    | false => simp [readTagBody, hc] at h
    | true =>
      have hspan : spanWhile isNameChar more =
          ((spanWhile isNameChar more).1, (spanWhile isNameChar more).2) := rfl
      obtain ⟨hmore, hname, -⟩ := spanWhile_eq_iff.mp hspan
      obtain ⟨attributes, hproper, hentries, hbehind, -⟩ :=
        exists_readMany exists_attribute (spanWhile isNameChar more).2
      simp only [readTagBody, hc, Bool.not_true, Bool.false_eq_true, if_false,
        Option.bind_eq_bind, Option.bind_eq_some_iff] at h
      obtain ⟨_, hend, hsome⟩ := h
      obtain ⟨gap, slash, hgap, hrest⟩ := exists_of_afterTagEnd? hend
      obtain ⟨rfl, rfl⟩ := Prod.mk.inj (Option.some.inj hsome)
      refine ⟨⟨closing, c :: (spanWhile isNameChar more).1, attributes, gap, slash⟩,
        ⟨⟨hc, hname⟩, hproper, hgap⟩, rfl, ?_, ?_⟩
      · rw [hbehind, hrest] at hmore
        simpa [SpelledTag.body, SpelledTag.ending] using hmore
      · rw [SpelledTag.token, hentries]

/-- A tag that begins with a letter opens. -/
theorem readTag_cons_of_isLetter {c : Char} (hc : isLetter c = true) (cs : List Char) :
    readTag ('[' :: c :: cs) = readTagBody false (c :: cs) := by
  have hslash : c ≠ '/' := by
    rintro rfl
    exact absurd hc (by decide)
  simp [readTag, hslash]

/-- Exactly what is spelled as a tag is read as one. -/
theorem readTag_eq_some_iff {cs rest : List Char} {token : TagToken} :
    readTag cs = some (token, rest) ↔
      ∃ spelled : SpelledTag, spelled.IsProper ∧ cs = spelled.chars ++ rest ∧
        token = spelled.token := by
  constructor
  · intro h
    unfold readTag at h
    split at h
    · obtain ⟨spelled, hproper, hclosing, rfl, rfl⟩ := exists_of_readTagBody h
      exact ⟨spelled, hproper, by simp [SpelledTag.chars, hclosing], rfl⟩
    · obtain ⟨spelled, hproper, hclosing, rfl, rfl⟩ := exists_of_readTagBody h
      exact ⟨spelled, hproper, by simp [SpelledTag.chars, hclosing], rfl⟩
    · cases h
  · rintro ⟨spelled, hproper, rfl, rfl⟩
    have hbody := readTagBody_body hproper rest
    cases hclosing : spelled.closing with
    | true =>
      rw [hclosing] at hbody
      rw [SpelledTag.chars, hclosing]
      exact hbody
    | false =>
      rw [hclosing] at hbody
      obtain ⟨c, more, hname, hc, -⟩ := hproper.name.exists_cons
      rw [SpelledTag.chars, hclosing]
      rw [SpelledTag.body, hname] at hbody ⊢
      exact (readTag_cons_of_isLetter hc _).trans hbody

end Markup

end PageMarkup
