import PageMarkup.Proofs.Dict
import PageMarkup.Proofs.Json.Numbers
import PageMarkup.Proofs.Text.Letters
import PageMarkup.Proofs.Text.Trimming
import PageMarkup.Proofs.Toml.Strings
import PageMarkup.Toml.Reader

/-!
# Lines that were written

A line that gives a key a value is read as just that, if its value is a string or a number as they
are written; a blank line says nothing, and a header begins its table.  A text of such lines is read
line by line.
-/

namespace PageMarkup

open Text

namespace Toml

/-! ### Numbers -/

variable {cs rest : List Char}

/-- There are ten digits. -/
theorem mem_of_isAsciiDigit {c : Char} (h : isAsciiDigit c = true) : c ∈ "0123456789".toList := by
  have hcode := isAsciiDigit_iff.mp h
  have hall : ∀ n ≤ 57, 48 ≤ n → Char.ofNat n ∈ "0123456789".toList := by decide
  have hmem := hall c.toNat hcode.2 hcode.1
  rwa [Char.ofNat_toNat] at hmem

/-- Digits that stand alone. -/
def AreDigits (cs : List Char) : Prop :=
  cs ≠ [] ∧ ∀ c ∈ cs, isAsciiDigit c = true

theorem areDigits_toDigits (n : Nat) : AreDigits (Nat.toDigits 10 n) :=
  ⟨Nat.toDigits_ne_nil, fun _ => Json.isAsciiDigit_of_mem_toDigits⟩

/-- A number among digits leaves digits. -/
theorem mem_of_readNumber {count most value : Nat}
    (h : readNumber count most cs = some (value, rest))
    {c : Char} (hc : c ∈ rest) : c ∈ cs := by
  rw [readNumber] at h
  split_ifs at h with hvalid
  obtain ⟨-, rfl⟩ := Prod.mk.inj (Option.some.inj h)
  exact List.mem_of_mem_drop hc

/-- Among digits there is no mark with a number. -/
theorem readPart_eq_none (mark : Char) (most : Nat) (hmark : isAsciiDigit mark = false)
    (h : ∀ c ∈ cs, isAsciiDigit c = true) : readPart mark most cs = none := by
  cases cs with
  | nil => rfl
  | cons c cs =>
    have hc : c ≠ mark := by
      rintro rfl
      simp [h c List.mem_cons_self] at hmark
    rw [readPart, if_neg hc]

theorem afterDate?_eq_none (h : ∀ c ∈ cs, isAsciiDigit c = true) : afterDate? cs = none := by
  rw [afterDate?]
  cases hyear : readNumber 4 9999 cs with
  | none => rfl
  | some year =>
    obtain ⟨year, rest⟩ := year
    have hpart := readPart_eq_none '-' 12 rfl
      fun c hc => h c (mem_of_readNumber hyear hc)
    simp [hpart]

theorem afterTime?_eq_none (h : ∀ c ∈ cs, isAsciiDigit c = true) : afterTime? cs = none := by
  rw [afterTime?]
  cases hhour : readNumber 2 23 cs with
  | none => rfl
  | some hour =>
    obtain ⟨hour, rest⟩ := hour
    have hpart := readPart_eq_none ':' 59 rfl
      fun c hc => h c (mem_of_readNumber hhour hc)
    simp [hpart]

/-- Digits are no date and no time. -/
theorem isMoment_eq_false (h : ∀ c ∈ cs, isAsciiDigit c = true) : isMoment cs = false := by
  simp [isMoment, afterDate?_eq_none h, afterTime?_eq_none h]

/-- Digits without underscores are digits. -/
theorem digits?_of_areDigits (h : AreDigits cs) : digits? 10 cs = some cs := by
  have hbare : ∀ c ∈ cs, (c == '_') = false := by
    intro c hc
    rw [beq_eq_false_iff_ne]
    rintro rfl
    exact absurd (h.2 _ hc) (by decide)
  have hten : ∀ c ∈ "0123456789".toList, isDigitOf 10 c = true := List.all_eq_true.mp rfl
  have hall : cs.all (isDigitOf 10) = true :=
    List.all_eq_true.mpr fun c hc => hten c (mem_of_isAsciiDigit (h.2 c hc))
  rw [digits?, splitWhere_of_forall hbare]
  simp [h.1, hall]

/-- The value of digits is the number they are the digits of. -/
theorem valueOf_toDigits (n : Nat) : valueOf 10 (Nat.toDigits 10 n) = n := by
  have hten : ∀ c ∈ "0123456789".toList, (c.toLower == c) = true := List.all_eq_true.mp rfl
  have hfold : valueOf 10 (Nat.toDigits 10 n) = Nat.ofDigitChars 10 (Nat.toDigits 10 n) 0 := by
    rw [valueOf, Nat.ofDigitChars]
    refine List.foldl_ext _ _ _ fun value c hc => ?_
    have hdigit := Json.isAsciiDigit_of_mem_toDigits hc
    rw [beq_iff_eq.mp (hten c (mem_of_isAsciiDigit hdigit))]
    simp [hdigit, Nat.mul_comm]
  rw [hfold, Nat.ofDigitChars_ten_toDigits]

/-- The digits of a number have no needless zero. -/
theorem wholeDigits?_toDigits (n : Nat) :
    wholeDigits? (Nat.toDigits 10 n) = some (Nat.toDigits 10 n) := by
  rw [wholeDigits?, digits?_of_areDigits (areDigits_toDigits n)]
  rcases Nat.eq_zero_or_pos n with rfl | hpos
  · rfl
  · obtain ⟨first, digits, hdigits, hfirst⟩ := Json.exists_toDigits hpos
    simp [hdigits, hfirst]

/-- The digits of a number are read as this number. -/
theorem integer?_toDigits {n : Nat} (h : n < 2 ^ 128) :
    integer? (Nat.toDigits 10 n) = some (integer n) := by
  obtain ⟨hne, hdigits⟩ := areDigits_toDigits n
  have hvalue := valueOf_toDigits n
  have hwhole := wholeDigits?_toDigits n
  generalize Nat.toDigits 10 n = cs at *
  have hbase : ∀ mark ∈ ['x', 'o', 'b'], ∀ tail, cs ≠ '0' :: mark :: tail := by
    rintro mark hmark tail rfl
    have hmarks : ∀ mark ∈ ['x', 'o', 'b'], (!isAsciiDigit mark) = true := List.all_eq_true.mp rfl
    simpa [hdigits mark (by simp)] using hmarks mark hmark
  have hsign : Binary64.readSign cs = (false, cs) := by
    obtain ⟨c, tail, rfl⟩ := List.exists_cons_of_ne_nil hne
    exact Json.readSign_digit (hdigits c List.mem_cons_self) tail
  have hreach : ofInteger n = integer n := if_pos (by omega)
  rw [integer?]
  · simp [hsign, hwhole, hvalue, hreach]
  · exact hbase 'x' (by simp)
  · exact hbase 'o' (by simp)
  · exact hbase 'b' (by simp)

/-- The digits of a number are this number as a value. -/
theorem scalar?_toDigits {n : Nat} (h : n < 2 ^ 128) :
    scalar? (Nat.toDigits 10 n) = some (integer n) := by
  have hdigits := (areDigits_toDigits n).2
  have hword : ∀ word : List Char, (∃ c ∈ word, isAsciiDigit c = false) →
      Nat.toDigits 10 n ≠ word := by
    rintro word ⟨c, hc, hnone⟩ rfl
    simp [hdigits c hc] at hnone
  rw [scalar?, if_neg (hword _ ⟨'t', by decide, by decide⟩),
    if_neg (hword _ ⟨'f', by decide, by decide⟩), isMoment_eq_false hdigits, integer?_toDigits h]
  rfl

/-! ### Values on a line -/

/-- A value stands at the end of a line and is read as what it is. -/
structure IsLineValue (source : List Char) (value : Toml) : Prop where
  /-- It begins with no blank. -/
  skipSpaces : ∀ rest, skipSpaces (source ++ '\n' :: rest) = source ++ '\n' :: rest
  read : ∀ rest, readValue greatestNesting (source ++ '\n' :: rest) = some (value, '\n' :: rest)

/-- A value that opens no array and no table holds no others. -/
theorem readValue_of_ne {c : Char} (harray : c ≠ '[') (htable : c ≠ '\x7b') (room : Nat) :
    readValue room (c :: cs) = readLeaf (c :: cs) := by
  cases room with
  | zero => rfl
  | succ room =>
    rw [readValue]
    · simp [harray]
    · simp [htable]

theorem skipSpaces_of_ne {c : Char} (h : isSpace c = false) : skipSpaces (c :: cs) = c :: cs := by
  rw [skipSpaces, List.dropWhile_cons_of_neg (by simp [h])]

/-- A value that is a string. -/
theorem isLineValue_string (s : String) : IsLineValue (string s) (text s) := by
  obtain ⟨mark, tail, hshape, hmark⟩ : ∃ mark tail, string s = mark :: tail ∧
      (mark = '"' ∨ mark = '\x27') := by
    rw [string]
    cases Form.of s.toList with
    | basic => exact ⟨'"', _, rfl, .inl rfl⟩
    | literal => exact ⟨'\x27', _, rfl, .inr rfl⟩
    | longBasic => exact ⟨'"', _, rfl, .inl rfl⟩
    | longLiteral => exact ⟨'\x27', _, rfl, .inr rfl⟩
  constructor
  · intro rest
    rw [hshape]
    rcases hmark with rfl | rfl <;> exact skipSpaces_of_ne (by decide)
  · intro rest
    have hends : EndsText ('\n' :: rest) := by
      rintro c ⟨⟩
      decide
    have hread := readText_string s hends
    rw [hshape, List.cons_append] at hread ⊢
    have hleaf : readLeaf (mark :: (tail ++ '\n' :: rest)) = some (text s, '\n' :: rest) := by
      rw [readLeaf, if_pos (by simpa using hmark), hread]
      rfl
    rcases hmark with rfl | rfl <;>
      rw [readValue_of_ne (by decide) (by decide), hleaf]

/-- A value that is a number. -/
theorem isLineValue_toDigits {n : Nat} (h : n < 2 ^ 128) :
    IsLineValue (Nat.toDigits 10 n) (integer n) := by
  have hscalar := scalar?_toDigits h
  obtain ⟨hne, hdigits⟩ := areDigits_toDigits n
  -- from here on only what kind of characters the digits are counts
  generalize Nat.toDigits 10 n = cs at *
  have hten : ∀ c ∈ "0123456789".toList, decide (isDelimiter c = false ∧ c ≠ '[' ∧ c ≠ '\x7b' ∧
      c ≠ '"' ∧ c ≠ '\x27' ∧ isSpace c = false) = true := List.all_eq_true.mp rfl
  obtain ⟨c, tail, rfl⟩ := List.exists_cons_of_ne_nil hne
  obtain ⟨-, harray, htable, hquote, happos, hspace⟩ :=
    of_decide_eq_true (hten c (mem_of_isAsciiDigit (hdigits c List.mem_cons_self)))
  constructor
  · intro rest
    exact skipSpaces_of_ne hspace
  · intro rest
    have hspan : splitScalar (c :: tail ++ '\n' :: rest) = (c :: tail, '\n' :: rest) := by
      have hrun : spanWhile (!isDelimiter ·) (c :: tail ++ '\n' :: rest) =
          (c :: tail, '\n' :: rest) := by
        refine spanWhile_append_of_forall (fun d hd => ?_) ?_
        · have hdigit := of_decide_eq_true (hten d (mem_of_isAsciiDigit (hdigits d hd)))
          simp [hdigit.1]
        · rintro d ⟨⟩
          decide
      rw [splitScalar, hrun]
      rfl
    rw [List.cons_append, readValue_of_ne harray htable, readLeaf,
      if_neg (by simp [hquote, happos]), ← List.cons_append, hspan]
    simp [hscalar]

/-! ### Fields -/

section Fields

variable {fields inner : Fields} {name header : String} {value : Toml}

/-- A field without a value is given one before the first header. -/
theorem assignAt_nil (value : Toml) (h : Dict.get? name fields = none) :
    assignAt [] [name] value fields = some (Dict.insert name value fields) := by
  simp [assignAt, assign, within, Dict.has, h]

/-- A field without a value is given one in the table of a header. -/
theorem assignAt_singleton (value : Toml)
    (htable : Dict.get? header fields = some (table .header inner))
    (h : Dict.get? name inner = none) :
    assignAt [header] [name] value fields =
      some (Dict.insert header (table .header (Dict.insert name value inner)) fields) := by
  simp [assignAt, assign, within, enter, Dict.has, htable, h]

/-- The table of a header is begun without fields. -/
theorem openTable_singleton (h : Dict.get? name fields = none) :
    openTable [name] fields = some (Dict.insert name (table .header []) fields) := by
  simp [openTable, within, h]

/-- A number that is in reach stays so beside others that are. -/
theorem fieldsInReach_insert (hvalue : isInReach value = true) (h : fieldsInReach fields = true) :
    fieldsInReach (Dict.insert name value fields) = true := by
  induction fields with
  | nil => simp [Dict.insert, fieldsInReach, hvalue]
  | cons field fields ih =>
    obtain ⟨key, other⟩ := field
    rw [fieldsInReach, Bool.and_eq_true] at h
    rw [Dict.insert]
    split_ifs
    · simp [fieldsInReach, hvalue, h.2]
    · simp [fieldsInReach, hvalue, h.1, h.2]
    · simp [fieldsInReach, h.1, ih h.2]

end Fields

/-! ### Lines -/

/-- The text that remains spells, after what has been read, these fields. -/
def Spells (draft : Draft) (cs : List Char) (fields : Fields) : Prop :=
  ∀ most, cs.length ≤ most → readLines most draft cs = some fields

theorem spells_nil (draft : Draft) : Spells draft [] draft.fields := by
  intro most _
  cases most <;> rfl

variable {draft next : Draft} {fields : Fields}

/-- A statement on a line of its own is read before the lines that follow. -/
theorem Spells.line (statement : List Char)
    (hread : readStatement draft (skipSpaces (statement ++ '\n' :: rest)) =
      some (next, '\n' :: rest))
    (h : Spells next rest fields) : Spells draft (statement ++ '\n' :: rest) fields := by
  intro most hmost
  obtain ⟨most, rfl⟩ : ∃ less, most = less + 1 := by
    refine ⟨most - 1, ?_⟩
    rw [List.length_append, List.length_cons] at hmost
    omega
  have hrest := h most (by
    rw [List.length_append, List.length_cons] at hmost
    omega)
  have hfull : (statement ++ '\n' :: rest).isEmpty = false := by simp
  have hend : afterLine? ('\n' :: rest) = some rest := rfl
  rw [readLines, hfull, hread]
  simp [hend, hrest]

/-- A blank line says nothing. -/
theorem Spells.blank (h : Spells draft rest fields) : Spells draft ('\n' :: rest) fields :=
  Spells.line [] rfl h

/-- A key of one part that needs no quotes. -/
def IsBareName (name : String) : Prop :=
  name.toList ≠ [] ∧ ∀ c ∈ name.toList, isBare c = true

instance (name : String) : Decidable (IsBareName name) :=
  decidable_of_iff (name.toList ≠ [] ∧ name.toList.all isBare = true)
    (and_congr_right fun _ => List.all_eq_true)

/-- The first character of a key without quotes begins no header, no comment and no line end. -/
theorem IsBareName.exists_cons {name : String} (h : IsBareName name) :
    ∃ c tail, name.toList = c :: tail ∧ isSpace c = false ∧ c ≠ '[' ∧
      (c = '#' || c = '\n' || c = '\r') = false := by
  obtain ⟨c, tail, hname⟩ := List.exists_cons_of_ne_nil h.1
  have hbare : isBare c = true := h.2 c (by simp [hname])
  refine ⟨c, tail, hname, ?_, ?_, ?_⟩
  · rw [isSpace, Bool.or_eq_false_iff, beq_eq_false_iff_ne, beq_eq_false_iff_ne]
    constructor <;> rintro rfl <;> exact absurd hbare (by decide)
  · rintro rfl
    exact absurd hbare (by decide)
  · simp only [Bool.or_eq_false_iff, decide_eq_false_iff_not]
    refine ⟨⟨?_, ?_⟩, ?_⟩ <;> rintro rfl <;> exact absurd hbare (by decide)

/-- A key is read up to a character that belongs to no key; blanks after it are passed. -/
theorem readKey_bareName {name : String} (h : IsBareName name)
    (hrest : ∀ c ∈ rest.head?, isBare c = false) (hdot : (skipSpaces rest).head? ≠ some '.') :
    readKey (name.toList ++ rest) = some ([name], skipSpaces rest) := by
  obtain ⟨c, tail, hname, hspace, -⟩ := h.exists_cons
  have hskip : skipSpaces (name.toList ++ rest) = name.toList ++ rest := by
    rw [hname]
    exact skipSpaces_of_ne hspace
  have hread : readName (name.toList ++ rest) = some (name, rest) := by
    have hempty : name.toList.isEmpty = false := by simp [hname]
    rw [readName, spanWhile_append_of_forall h.2 hrest]
    simp [hempty]
  have hdotted : readDotted rest = none := by
    rw [readDotted]
    cases hmore : skipSpaces rest with
    | nil => rfl
    | cons d more =>
      rw [hmore] at hdot
      split
      · rename_i heq
        exact absurd (congrArg List.head? heq) hdot
      · rfl
  rw [readKey, hskip, hread]
  simp [readMany_of_none hdotted, greatestNesting]

/-- A line that gives a key a value. -/
theorem Spells.field {name : String} {source : List Char} {value : Toml} {assigned : Fields}
    (hname : IsBareName name) (hvalue : IsLineValue source value)
    (hassign : assignAt draft.header [name] value draft.fields = some assigned)
    (h : Spells { draft with fields := assigned } rest fields) :
    Spells draft (name.toList ++ " = ".toList ++ source ++ '\n' :: rest) fields := by
  refine Spells.line _ ?_ h
  have hshape : name.toList ++ " = ".toList ++ source ++ '\n' :: rest =
      name.toList ++ (" = ".toList ++ (source ++ '\n' :: rest)) := by
    simp
  have hkey : readKey (name.toList ++ (" = ".toList ++ (source ++ '\n' :: rest))) =
      some ([name], '=' :: ' ' :: (source ++ '\n' :: rest)) :=
    readKey_bareName hname (by rintro d ⟨⟩; decide) (by simp [skipSpaces, isSpace])
  have hequals : skipSpaces ('=' :: ' ' :: (source ++ '\n' :: rest)) =
      '=' :: ' ' :: (source ++ '\n' :: rest) := skipSpaces_of_ne (by decide)
  have hblank : skipSpaces (' ' :: (source ++ '\n' :: rest)) = source ++ '\n' :: rest := by
    exact hvalue.skipSpaces rest
  have hpair : readPair skipSpaces (readValue greatestNesting)
      (name.toList ++ (" = ".toList ++ (source ++ '\n' :: rest))) =
      some (([name], value), '\n' :: rest) := by
    rw [readPair, hkey]
    simp [hequals, hblank, hvalue.read rest]
  obtain ⟨c, tail, hcons, hspace, hbracket, hother⟩ := hname.exists_cons
  obtain ⟨more, hbegin⟩ : ∃ more, name.toList ++ (" = ".toList ++ (source ++ '\n' :: rest)) =
      c :: more := ⟨_, by rw [hcons, List.cons_append]⟩
  rw [hbegin] at hpair
  rw [hshape, hbegin, skipSpaces_of_ne hspace, readStatement]
  · simp [hother, hpair, hassign]
  · simp [hbracket]
  · simp [hbracket]

/-- A line that gives a key a value in the table of a header. -/
theorem Spells.innerField {header name : String} {source : List Char} {value : Toml}
    {inner spelt : Fields} (hname : IsBareName name)
    (hvalue : IsLineValue source value) (hnone : Dict.get? name inner = none)
    (h : Spells ⟨Dict.insert header (table .header (Dict.insert name value inner)) fields, [header]⟩
      rest spelt) :
    Spells ⟨Dict.insert header (table .header inner) fields, [header]⟩
      (name.toList ++ " = ".toList ++ source ++ '\n' :: rest) spelt := by
  have hassign := assignAt_singleton value
    (Dict.get?_insert_self header (table .header inner) fields) hnone
  rw [Dict.insert_insert] at hassign
  exact Spells.field hname hvalue hassign h

/-- A line that begins a table. -/
theorem Spells.opened {name : String} {opened : Fields} (hname : IsBareName name)
    (hopen : openTable [name] draft.fields = some opened)
    (h : Spells ⟨opened, [name]⟩ rest fields) :
    Spells draft ('[' :: name.toList ++ [']'] ++ '\n' :: rest) fields := by
  refine Spells.line _ ?_ h
  obtain ⟨c, tail, hcons, -, hbracket, -⟩ := hname.exists_cons
  have hkey : readKey (name.toList ++ ']' :: '\n' :: rest) =
      some ([name], ']' :: '\n' :: rest) :=
    readKey_bareName hname (by rintro d ⟨⟩; decide) (by simp [skipSpaces, isSpace])
  have hshape : '[' :: name.toList ++ [']'] ++ '\n' :: rest =
      '[' :: (name.toList ++ ']' :: '\n' :: rest) := by
    simp
  rw [hshape, skipSpaces_of_ne (by decide), readStatement]
  · simp [hkey, hopen]
  · simp [hcons, hbracket]

/-- A text that begins with no byte order mark is read from its first line. -/
theorem Spells.read? {source : String} (h : Spells {} source.toList fields)
    (hmark : source.toList.head? ≠ some '\uFEFF') : read? source = some fields := by
  have hread := h source.toList.length le_rfl
  rw [Toml.read?]
  split
  · rename_i cs hcs
    rw [hcs] at hmark
    exact absurd rfl hmark
  · exact hread

end Toml

end PageMarkup
