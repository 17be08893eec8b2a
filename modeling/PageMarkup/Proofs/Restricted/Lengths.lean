import PageMarkup.Proofs.Restricted.NormalForm
import PageMarkup.Proofs.Text.Apart

/-!
# The grammar of allowed lengths

A length is a number with one of a few units, and the lengths of a box are up to four of them or of
the word `auto`.  The grammar is told here without any reader, for digits of any class: the
allow-lists take the digits of every script, so a text is a length as style sheets know them exactly
if it is allowed and all its digits are those of ASCII.  A margin may be negative, and then even the
word `auto` is taken with a sign.
-/

namespace PageMarkup

open Text

namespace Text

/-- A character that cuts nothing off is in one of the parts. -/
theorem exists_mem_splitWhere {p : Char → Bool} {cs : List Char} {c : Char} (hc : c ∈ cs)
    (hp : p c = false) : ∃ piece ∈ splitWhere p cs, c ∈ piece := by
  induction cs with
  | nil => exact absurd hc List.not_mem_nil
  | cons d cs ih =>
    rw [splitWhere]
    by_cases hd : p d = true
    · rw [if_pos hd]
      have hne : c ≠ d := by
        rintro rfl
        exact absurd hd (by simp [hp])
      obtain ⟨piece, hpiece, hmem⟩ := ih (List.mem_of_ne_of_mem hne hc)
      exact ⟨piece, List.mem_cons_of_mem _ hpiece, hmem⟩
    · rw [if_neg hd]
      obtain ⟨first, others, hsplit⟩ := List.exists_cons_of_ne_nil (splitWhere_ne_nil p cs)
      rw [hsplit] at ih ⊢
      rcases List.mem_cons.mp hc with rfl | hc
      · exact ⟨c :: first, List.mem_cons_self, List.mem_cons_self⟩
      · obtain ⟨piece, hpiece, hmem⟩ := ih hc
        rcases List.mem_cons.mp hpiece with rfl | hpiece
        · exact ⟨d :: piece, List.mem_cons_self, List.mem_cons_of_mem d hmem⟩
        · exact ⟨piece, List.mem_cons_of_mem _ hpiece, hmem⟩

/-- A character that is not blank is in one of the words. -/
theorem exists_mem_words {cs : List Char} {c : Char} (hc : c ∈ cs) (hblank : isBlank c = false) :
    ∃ word ∈ words cs, c ∈ word := by
  obtain ⟨piece, hpiece, hmem⟩ := exists_mem_splitWhere hc hblank
  refine ⟨piece, List.mem_filter.mpr ⟨hpiece, ?_⟩, hmem⟩
  simpa using List.ne_nil_of_mem hmem

/-- A decimal digit is not blank. -/
theorem isBlank_eq_false_of_isDigit {c : Char} (h : isDigit c = true) : isBlank c = false := by
  have hapart : ∀ range ∈ digitRanges,
      (0xA0 < range.1 ∧ range.2 < 0x1680) ∨ (0x1680 < range.1 ∧ range.2 < 0x2000) ∨
        0x3000 < range.1 := by decide
  by_contra hblank
  simp only [Bool.not_eq_false, isBlank, Bool.or_eq_true, Bool.and_eq_true, decide_eq_true_eq,
    beq_iff_eq] at hblank
  simp only [isDigit, Bool.or_eq_true, Bool.and_eq_true, decide_eq_true_eq, Ranges.has,
    List.any_eq_true, isAsciiDigit_iff] at h
  rcases h with h | ⟨-, range, hrange, h⟩
  · omega
  · have := hapart range hrange
    omega

end Text

namespace Restricted

/-! ### Numbers -/

/-- One or more digits. -/
def IsDigits (digit : Char → Bool) (cs : List Char) : Prop :=
  cs ≠ [] ∧ ∀ c ∈ cs, digit c = true

/-- A fraction behind a point, which need not be there. -/
def IsFraction (digit : Char → Bool) (cs : List Char) : Prop :=
  cs = [] ∨ ∃ digits, IsDigits digit digits ∧ cs = '.' :: digits

/-- A unit or no unit. -/
def IsUnitOf (units : List String) (cs : List Char) : Prop :=
  ∃ unit, (unit = "" ∨ unit ∈ units) ∧ cs = unit.toList

/-- What may follow the first digits of a number: perhaps a fraction, and perhaps a unit. -/
def IsNumberEnd (digit : Char → Bool) (units : List String) (cs : List Char) : Prop :=
  ∃ fraction unit, IsFraction digit fraction ∧ IsUnitOf units unit ∧ cs = fraction ++ unit

/-- A number without a sign, with one of some units or without a unit. -/
def IsMeasureOf (digit : Char → Bool) (units : List String) (cs : List Char) : Prop :=
  ∃ whole rest, IsDigits digit whole ∧ IsNumberEnd digit units rest ∧ cs = whole ++ rest

/-- All digits of the text are those of ASCII. -/
def HasAsciiDigits (cs : List Char) : Prop :=
  ∀ c ∈ cs, isDigit c = true → isAsciiDigit c = true

instance (cs : List Char) : Decidable (HasAsciiDigits cs) :=
  List.decidableBAll _ _

theorem hasAsciiDigits_append {cs ds : List Char} :
    HasAsciiDigits (cs ++ ds) ↔ HasAsciiDigits cs ∧ HasAsciiDigits ds :=
  List.forall_mem_append

theorem hasAsciiDigits_cons {c : Char} (hc : isDigit c = false) {cs : List Char} :
    HasAsciiDigits (c :: cs) ↔ HasAsciiDigits cs := by
  simp [HasAsciiDigits, hc]

theorem isDigits_isAsciiDigit_iff {cs : List Char} :
    IsDigits isAsciiDigit cs ↔ IsDigits isDigit cs ∧ HasAsciiDigits cs := by
  constructor
  · rintro ⟨hne, hdigits⟩
    exact ⟨⟨hne, fun c hc => isDigit_of_isAsciiDigit (hdigits c hc)⟩, fun c hc _ => hdigits c hc⟩
  · rintro ⟨⟨hne, hdigits⟩, hascii⟩
    exact ⟨hne, fun c hc => hascii c hc (hdigits c hc)⟩

theorem isFraction_isAsciiDigit_iff {cs : List Char} :
    IsFraction isAsciiDigit cs ↔ IsFraction isDigit cs ∧ HasAsciiDigits cs := by
  have hpoint {digits : List Char} : HasAsciiDigits ('.' :: digits) ↔ HasAsciiDigits digits :=
    hasAsciiDigits_cons (by decide)
  constructor
  · rintro (rfl | ⟨digits, hdigits, rfl⟩)
    · exact ⟨.inl rfl, List.forall_mem_nil _⟩
    · obtain ⟨hdigits, hascii⟩ := isDigits_isAsciiDigit_iff.mp hdigits
      exact ⟨.inr ⟨digits, hdigits, rfl⟩, hpoint.mpr hascii⟩
  · rintro ⟨rfl | ⟨digits, hdigits, rfl⟩, hascii⟩
    · exact .inl rfl
    · exact .inr ⟨digits, isDigits_isAsciiDigit_iff.mpr ⟨hdigits, hpoint.mp hascii⟩, rfl⟩

/-- A unit has neither digits nor points, so no number goes on in it. -/
def IsUnitName (unit : String) : Prop :=
  ∀ c ∈ unit.toList, isDigit c = false ∧ c ≠ '.'

instance (unit : String) : Decidable (IsUnitName unit) :=
  List.decidableBAll _ _

section

variable {units : List String} {cs : List Char}

theorem isUnitOf_iff :
    (cs.isEmpty || units.any (·.toList == cs)) = true ↔ IsUnitOf units cs := by
  simp only [Bool.or_eq_true, List.isEmpty_iff, List.any_eq_true, beq_iff_eq]
  constructor
  · rintro (rfl | ⟨unit, hunit, rfl⟩)
    · exact ⟨"", .inl rfl, rfl⟩
    · exact ⟨unit, .inr hunit, rfl⟩
  · rintro ⟨unit, rfl | hunit, rfl⟩
    · exact .inl rfl
    · exact .inr ⟨unit, hunit, rfl⟩

/-- Units hold neither digits nor points. -/
theorem IsUnitOf.apart (hunits : ∀ unit ∈ units, IsUnitName unit) (h : IsUnitOf units cs) :
    ∀ c ∈ cs, isDigit c = false ∧ c ≠ '.' := by
  obtain ⟨unit, rfl | hunit, rfl⟩ := h
  · exact fun c hc => absurd hc List.not_mem_nil
  · exact hunits unit hunit

theorem isMeasure_of_isMeasureOf (hunits : ∀ unit ∈ units, IsUnitName unit)
    (h : IsMeasureOf isDigit units cs) : isMeasure units cs = true := by
  obtain ⟨whole, rest, hwhole, ⟨fraction, unit, hfraction, hunit, rfl⟩, rfl⟩ := h
  have hnone : ∀ c ∈ unit.head?, isDigit c = false := fun c hc =>
    (hunit.apart hunits c (List.mem_of_mem_head? hc)).1
  rcases hfraction with rfl | ⟨digits, hdigits, rfl⟩
  · have hspan : spanWhile isDigit (whole ++ unit) = (whole, unit) :=
      spanWhile_append_of_forall hwhole.2 hnone
    have hpoint : ∀ rest, unit = '.' :: rest → False := by
      rintro rest rfl
      exact (hunit.apart hunits '.' List.mem_cons_self).2 rfl
    rw [List.nil_append, isMeasure, hspan]
    simp only [List.isEmpty_eq_false_iff.mpr hwhole.1, Bool.not_false, Bool.true_and]
    exact isUnitOf_iff.mpr hunit
  · have hspan : spanWhile isDigit (whole ++ ('.' :: digits ++ unit)) =
        (whole, '.' :: (digits ++ unit)) :=
      spanWhile_append_of_forall hwhole.2 fun c hc => by
        obtain rfl := Option.some.inj hc
        decide
    have hfraction : spanWhile isDigit (digits ++ unit) = (digits, unit) :=
      spanWhile_append_of_forall hdigits.2 hnone
    rw [isMeasure, hspan]
    simp only [hfraction, List.isEmpty_eq_false_iff.mpr hwhole.1,
      List.isEmpty_eq_false_iff.mpr hdigits.1, Bool.not_false, Bool.true_and]
    exact isUnitOf_iff.mpr hunit

/-- The reader of numbers finds the only way to cut a number with a unit. -/
theorem isMeasure_iff (hunits : ∀ unit ∈ units, IsUnitName unit) :
    isMeasure units cs = true ↔ IsMeasureOf isDigit units cs := by
  refine ⟨fun h => ?_, isMeasure_of_isMeasureOf hunits⟩
  obtain ⟨whole, rest, hspan⟩ : ∃ whole rest, spanWhile isDigit cs = (whole, rest) := ⟨_, _, rfl⟩
  obtain ⟨rfl, hwhole, -⟩ := spanWhile_eq_iff.mp hspan
  rw [isMeasure, hspan] at h
  simp only [Bool.and_eq_true, Bool.not_eq_true', List.isEmpty_eq_false_iff] at h
  obtain ⟨hne, hrest⟩ := h
  split at hrest
  · rename_i rest
    obtain ⟨digits, unit, hcut⟩ : ∃ digits unit, spanWhile isDigit rest = (digits, unit) :=
      ⟨_, _, rfl⟩
    obtain ⟨rfl, hdigits, -⟩ := spanWhile_eq_iff.mp hcut
    simp only [hcut, Bool.and_eq_true, Bool.not_eq_true', List.isEmpty_eq_false_iff] at hrest
    exact ⟨whole, _, ⟨hne, hwhole⟩, ⟨'.' :: digits, unit, .inr ⟨digits, ⟨hrest.1, hdigits⟩, rfl⟩,
      isUnitOf_iff.mp hrest.2, rfl⟩, rfl⟩
  · exact ⟨whole, rest, ⟨hne, hwhole⟩, ⟨[], rest, .inl rfl, isUnitOf_iff.mp hrest, rfl⟩, rfl⟩

theorem isNumberEnd_isAsciiDigit_iff (hunits : ∀ unit ∈ units, IsUnitName unit) :
    IsNumberEnd isAsciiDigit units cs ↔ IsNumberEnd isDigit units cs ∧ HasAsciiDigits cs := by
  constructor
  · rintro ⟨fraction, unit, hfraction, hunit, rfl⟩
    obtain ⟨hfraction, hascii⟩ := isFraction_isAsciiDigit_iff.mp hfraction
    refine ⟨⟨fraction, unit, hfraction, hunit, rfl⟩, hasAsciiDigits_append.mpr ⟨hascii, ?_⟩⟩
    intro c hc hdigit
    rw [(hunit.apart hunits c hc).1] at hdigit
    exact absurd hdigit (by decide)
  · rintro ⟨⟨fraction, unit, hfraction, hunit, rfl⟩, hascii⟩
    exact ⟨fraction, unit,
      isFraction_isAsciiDigit_iff.mpr ⟨hfraction, (hasAsciiDigits_append.mp hascii).1⟩, hunit, rfl⟩

/-- A number is one in ASCII exactly if its digits are those of ASCII. -/
theorem isMeasureOf_isAsciiDigit_iff (hunits : ∀ unit ∈ units, IsUnitName unit) :
    IsMeasureOf isAsciiDigit units cs ↔ IsMeasureOf isDigit units cs ∧ HasAsciiDigits cs := by
  constructor
  · rintro ⟨whole, rest, hwhole, hrest, rfl⟩
    obtain ⟨hwhole, hascii⟩ := isDigits_isAsciiDigit_iff.mp hwhole
    obtain ⟨hrest, hmore⟩ := (isNumberEnd_isAsciiDigit_iff hunits).mp hrest
    exact ⟨⟨whole, rest, hwhole, hrest, rfl⟩, hasAsciiDigits_append.mpr ⟨hascii, hmore⟩⟩
  · rintro ⟨⟨whole, rest, hwhole, hrest, rfl⟩, hascii⟩
    obtain ⟨hascii, hmore⟩ := hasAsciiDigits_append.mp hascii
    exact ⟨whole, rest, isDigits_isAsciiDigit_iff.mpr ⟨hwhole, hascii⟩,
      (isNumberEnd_isAsciiDigit_iff hunits).mpr ⟨hrest, hmore⟩, rfl⟩

end

/-! ### Boxes -/

/-- The units of the lengths of a box. -/
def boxUnits : List String := ["px", "em", "rem", "%", "vh", "vw"]

/-- The units of heights. -/
def heightUnits : List String := ["px", "em", "rem", "vh"]

theorem isUnitName_of_mem_boxUnits : ∀ unit ∈ boxUnits, IsUnitName unit := by decide

theorem isUnitName_of_mem_heightUnits : ∀ unit ∈ heightUnits, IsUnitName unit := by decide

/-- A length of a box. -/
def IsBoxLength (digit : Char → Bool) (cs : List Char) : Prop :=
  cs = "0".toList ∨ cs = "auto".toList ∨ IsMeasureOf digit boxUnits cs

/-- A length of a margin, of which a number may have a sign. -/
def IsMarginLength (digit : Char → Bool) (cs : List Char) : Prop :=
  IsBoxLength digit cs ∨ ∃ number, cs = '-' :: number ∧ IsMeasureOf digit boxUnits number

/-- One to four words, all of one form. -/
def IsBox (IsPart : List Char → Prop) (cs : List Char) : Prop :=
  words cs ≠ [] ∧ (words cs).length ≤ 4 ∧ ∀ word ∈ words cs, IsPart word

theorem isBox_congr {IsPart IsOther : List Char → Prop} {cs : List Char}
    (h : ∀ word ∈ words cs, IsPart word ↔ IsOther word) : IsBox IsPart cs ↔ IsBox IsOther cs :=
  and_congr_right fun _ => and_congr_right fun _ => forall₂_congr h

/-- A condition on all words of a box. -/
theorem isBox_and_iff {IsPart IsOther : List Char → Prop} {cs : List Char} :
    IsBox (fun word => IsPart word ∧ IsOther word) cs ↔
      IsBox IsPart cs ∧ ∀ word ∈ words cs, IsOther word := by
  simp only [IsBox, forall₂_and, and_assoc]

/-- Digits are part of words. -/
theorem hasAsciiDigits_iff_words {cs : List Char} :
    HasAsciiDigits cs ↔ ∀ word ∈ words cs, HasAsciiDigits word := by
  constructor
  · intro h word hword c hc
    exact h c (mem_of_mem_splitWhere (List.mem_filter.mp hword).1 hc)
  · intro h c hc hdigit
    obtain ⟨word, hword, hmem⟩ := exists_mem_words hc (isBlank_eq_false_of_isDigit hdigit)
    exact h word hword c hmem hdigit

variable {cs : List Char}

/-- The length `0` is a number. -/
theorem isBoxLength_iff {digit : Char → Bool} (hdigit : digit '0' = true) :
    IsBoxLength digit cs ↔ cs = "auto".toList ∨ IsMeasureOf digit boxUnits cs := by
  refine ⟨?_, .inr⟩
  rintro (rfl | h)
  · exact .inr ⟨['0'], [], ⟨by decide, by simpa using hdigit⟩,
      ⟨[], [], .inl rfl, ⟨"", .inl rfl, rfl⟩, rfl⟩, rfl⟩
  · exact h

theorem isLength_iff :
    isLength cs = true ↔ cs = "auto".toList ∨ IsMeasureOf isDigit boxUnits cs := by
  rw [isLength, Bool.or_eq_true, beq_iff_eq, ← isMeasure_iff isUnitName_of_mem_boxUnits]
  rfl

theorem isBoxLength_isAsciiDigit_iff :
    IsBoxLength isAsciiDigit cs ↔ IsBoxLength isDigit cs ∧ HasAsciiDigits cs := by
  rw [IsBoxLength, IsBoxLength, isMeasureOf_isAsciiDigit_iff isUnitName_of_mem_boxUnits]
  have hzero : HasAsciiDigits "0".toList := by decide
  have hauto : HasAsciiDigits "auto".toList := by decide
  constructor
  · rintro (rfl | rfl | ⟨h, hascii⟩)
    · exact ⟨.inl rfl, hzero⟩
    · exact ⟨.inr (.inl rfl), hauto⟩
    · exact ⟨.inr (.inr h), hascii⟩
  · rintro ⟨h | h | h, hascii⟩
    · exact .inl h
    · exact .inr (.inl h)
    · exact .inr (.inr ⟨h, hascii⟩)

/-- Numbers and words begin without a sign. -/
theorem not_isBoxLength_neg {digit : Char → Bool} (hdigit : digit '-' = false) (rest : List Char) :
    ¬ IsBoxLength digit ('-' :: rest) := by
  rintro (h | h | ⟨whole, rest, hwhole, -, hcs⟩)
  · exact absurd h (by simp)
  · exact absurd h (by simp)
  · obtain ⟨c, more, rfl⟩ := List.exists_cons_of_ne_nil hwhole.1
    obtain rfl : '-' = c := (List.cons.inj hcs).1
    rw [hwhole.2 '-' List.mem_cons_self] at hdigit
    exact absurd hdigit (by decide)

theorem isSignedLength_false_iff : isSignedLength false cs = true ↔ IsBoxLength isDigit cs := by
  unfold isSignedLength
  split
  · simp [not_isBoxLength_neg (show isDigit '-' = false by decide)]
  · rw [isLength_iff, isBoxLength_iff (by decide)]

/-- A margin is a length, perhaps with a sign, and the sign may even stand before `auto`. -/
theorem isSignedLength_true_iff :
    isSignedLength true cs = true ↔ IsMarginLength isDigit cs ∨ cs = "-auto".toList := by
  unfold isSignedLength
  split
  · rename_i rest
    have hauto : '-' :: rest = "-auto".toList ↔ rest = "auto".toList := by simp
    have hneg := not_isBoxLength_neg (show isDigit '-' = false by decide) rest
    rw [Bool.true_and, isLength_iff, IsMarginLength, hauto, or_comm]
    simp only [hneg, false_or, List.cons.injEq, true_and, exists_eq_left']
  · rename_i hsign
    have hnone : ∀ rest, cs ≠ '-' :: rest := hsign
    rw [isLength_iff, ← isBoxLength_iff (by decide), IsMarginLength]
    simp [hnone]

/-- A margin that is no `auto` with a sign is one in ASCII exactly if its digits are. -/
theorem isMarginLength_isAsciiDigit_iff :
    IsMarginLength isAsciiDigit cs ↔
      (IsMarginLength isDigit cs ∨ cs = "-auto".toList) ∧ HasAsciiDigits cs ∧
        cs ≠ "-auto".toList := by
  -- the sign is taken for any length, but the word is none
  have hauto : ¬ IsMarginLength isAsciiDigit "-auto".toList := by
    rintro (h | ⟨number, hnumber, whole, rest, hwhole, -, hcs⟩)
    · exact not_isBoxLength_neg (by decide) "auto".toList h
    · obtain ⟨c, more, rfl⟩ := List.exists_cons_of_ne_nil hwhole.1
      obtain rfl : "auto".toList = number := (List.cons.inj hnumber).2
      obtain rfl : 'a' = c := (List.cons.inj hcs).1
      exact absurd (hwhole.2 'a' List.mem_cons_self) (by decide)
  have hsign {number : List Char} : HasAsciiDigits ('-' :: number) ↔ HasAsciiDigits number :=
    hasAsciiDigits_cons (by decide)
  constructor
  · intro h
    have hne : cs ≠ "-auto".toList := by
      rintro rfl
      exact hauto h
    rcases h with h | ⟨number, rfl, h⟩
    · obtain ⟨hlength, hascii⟩ := isBoxLength_isAsciiDigit_iff.mp h
      exact ⟨.inl (.inl hlength), hascii, hne⟩
    · obtain ⟨hnumber, hascii⟩ := (isMeasureOf_isAsciiDigit_iff isUnitName_of_mem_boxUnits).mp h
      exact ⟨.inl (.inr ⟨number, rfl, hnumber⟩), hsign.mpr hascii, hne⟩
  · rintro ⟨(h | ⟨number, rfl, h⟩) | h, hascii, hne⟩
    · exact .inl (isBoxLength_isAsciiDigit_iff.mpr ⟨h, hascii⟩)
    · exact .inr ⟨number, rfl,
        (isMeasureOf_isAsciiDigit_iff isUnitName_of_mem_boxUnits).mpr ⟨h, hsign.mp hascii⟩⟩
    · exact absurd h hne

/-! ### Allowed lengths -/

theorem allowLengths_eq_some_iff {signed : Bool} {normal : List Char} :
    allowLengths signed cs = some normal ↔
      IsBox (fun word => isSignedLength signed word = true) cs ∧ normal = unspaced cs := by
  have hcheck : ((words cs).isEmpty || decide (4 < (words cs).length) ||
      !(words cs).all (isSignedLength signed)) = true ↔
      ¬ IsBox (fun word => isSignedLength signed word = true) cs := by
    simp only [IsBox, Bool.or_eq_true, List.isEmpty_iff, decide_eq_true_eq, Bool.not_eq_true',
      ← Bool.not_eq_true, List.all_eq_true, not_and_or, not_not, not_le, or_assoc, ne_eq]
  unfold allowLengths
  dsimp only
  split
  · rename_i h
    simp [hcheck.mp h]
  · rename_i h
    rw [hcheck, not_not] at h
    rw [Option.some.injEq, eq_comm, unspaced, and_iff_right h]

theorem allowHeight_eq_some_iff {normal : List Char} :
    allowHeight cs = some normal ↔
      IsMeasureOf isDigit heightUnits (trim cs) ∧ normal = trim cs := by
  rw [← isMeasure_iff isUnitName_of_mem_heightUnits, allowHeight]
  simp only [heightUnits]
  split
  · rename_i h
    rw [Option.some.injEq, eq_comm, and_iff_right h]
  · rename_i h
    simp [h]

/-- The blanks around a text hold no digits. -/
theorem hasAsciiDigits_trim : HasAsciiDigits (trim cs) ↔ HasAsciiDigits cs := by
  rw [hasAsciiDigits_iff_words, trim, words_trimEnd, words_trimStart, ← hasAsciiDigits_iff_words]

/-- What an allow-list gives for a string is what it gives for its characters. -/
theorem allow_eq_some_iff {target : Restricted} {value normal : String} :
    target.allow value = some normal ↔
      ∃ cs, target.allowChars value.toList = some cs ∧ normal = String.ofList cs := by
  rw [allow, Option.map_eq_some_iff]
  exact exists_congr fun cs => and_congr_right fun _ => eq_comm

theorem isSome_allow_iff {target : Restricted} {value : String} :
    (target.allow value).isSome = true ↔
      ∃ cs, target.allowChars value.toList = some cs := by
  rw [allow, Option.isSome_map, Option.isSome_iff_exists]

/-- Exactly one to four lengths are allowed as a padding or a margin, and exactly a number with or
without a unit as a height, with digits of every script; and of these texts exactly those are lengths
as style sheets know them that have no digits but those of ASCII, and no `auto` with a sign. -/
theorem allow_lengths (value : String) :
    (∀ normal, padding.allow value = some normal ↔
      IsBox (IsBoxLength isDigit) value.toList ∧
        normal = String.ofList (unspaced value.toList)) ∧
    (∀ normal, margin.allow value = some normal ↔
      IsBox (fun word => IsMarginLength isDigit word ∨ word = "-auto".toList) value.toList ∧
        normal = String.ofList (unspaced value.toList)) ∧
    (∀ normal, height.allow value = some normal ↔
      IsMeasureOf isDigit heightUnits (trim value.toList) ∧ normal = trimmed value) ∧
    (IsBox (IsBoxLength isAsciiDigit) value.toList ↔
      (padding.allow value).isSome = true ∧ HasAsciiDigits value.toList) ∧
    (IsBox (IsMarginLength isAsciiDigit) value.toList ↔
      (margin.allow value).isSome = true ∧ HasAsciiDigits value.toList ∧
        "-auto".toList ∉ words value.toList) ∧
    (IsMeasureOf isAsciiDigit heightUnits (trim value.toList) ↔
      (height.allow value).isSome = true ∧ HasAsciiDigits value.toList) ∧
    ∀ target : Restricted, (target.allow value).bind target.allow = target.allow value := by
  have hpadding {normal : List Char} : padding.allowChars value.toList = some normal ↔
      IsBox (IsBoxLength isDigit) value.toList ∧ normal = unspaced value.toList := by
    rw [allowChars, allowLengths_eq_some_iff, isBox_congr fun _ _ => isSignedLength_false_iff]
  have hmargin {normal : List Char} : margin.allowChars value.toList = some normal ↔
      IsBox (fun word => IsMarginLength isDigit word ∨ word = "-auto".toList) value.toList ∧
        normal = unspaced value.toList := by
    rw [allowChars, allowLengths_eq_some_iff, isBox_congr fun _ _ => isSignedLength_true_iff]
  have hheight {normal : List Char} : height.allowChars value.toList = some normal ↔
      IsMeasureOf isDigit heightUnits (trim value.toList) ∧ normal = trim value.toList := by
    rw [allowChars, allowHeight_eq_some_iff]
  refine ⟨fun normal => ?_, fun normal => ?_, fun normal => ?_, ?_, ?_, ?_, fun target => ?_⟩
  · simp only [allow_eq_some_iff, hpadding, and_assoc, exists_and_left, exists_eq_left]
  · simp only [allow_eq_some_iff, hmargin, and_assoc, exists_and_left, exists_eq_left]
  · simp only [allow_eq_some_iff, hheight, and_assoc, exists_and_left, exists_eq_left, trimmed]
  · simp only [isSome_allow_iff, hpadding, exists_and_left, exists_eq, and_true]
    rw [hasAsciiDigits_iff_words, ← isBox_and_iff]
    exact isBox_congr fun _ _ => isBoxLength_isAsciiDigit_iff
  · simp only [isSome_allow_iff, hmargin, exists_and_left, exists_eq, and_true]
    have hnone : "-auto".toList ∉ words value.toList ↔
        ∀ word ∈ words value.toList, word ≠ "-auto".toList :=
      List.forall_mem_ne'.symm
    rw [hasAsciiDigits_iff_words, hnone, ← forall₂_and, ← isBox_and_iff]
    exact isBox_congr fun _ _ => isMarginLength_isAsciiDigit_iff
  · simp only [isSome_allow_iff, hheight, exists_and_left, exists_eq, and_true]
    rw [← hasAsciiDigits_trim]
    exact isMeasureOf_isAsciiDigit_iff isUnitName_of_mem_heightUnits
  · cases hallow : target.allow value with
    | none => rfl
    | some normal => exact allow_allow hallow

/-- A digit of another script is taken as a length, and so is `auto` with a sign. -/
theorem not_allow_lengths_ascii :
    ¬ ∀ value : String,
      ((padding.allow value).isSome = true ↔ IsBox (IsBoxLength isAsciiDigit) value.toList) ∧
      ((margin.allow value).isSome = true ↔ IsBox (IsMarginLength isAsciiDigit) value.toList) ∧
      ((height.allow value).isSome = true ↔
        IsMeasureOf isAsciiDigit heightUnits (trim value.toList)) := by
  intro h
  have hauto := ((h "-auto").2.1.mp (by decide)).2.2 "-auto".toList (by decide)
  exact (isMarginLength_isAsciiDigit_iff.mp hauto).2.2 rfl

end Restricted

end PageMarkup
