import Mathlib.Data.List.Basic
import PageMarkup.Proofs.Text.Scanning
import PageMarkup.Toml.Text

/-!
# Strings that were written

However a text is written as a string, it is read as what it is.  A string on one line is read
character by character.  Between three marks, up to two of the marks may stand in a row, and those
right before the closing ones are only told from them by their number, so the parts are followed
with the number of marks that came before.
-/

namespace PageMarkup

open Text

namespace Toml

/-! ### Characters between quotes -/

/-- The digits of an escape. -/
def escapeDigits (n : Nat) : List Char :=
  let digits := (hex n).map Char.toUpper
  List.replicate (4 - digits.length) '0' ++ digits

/-- The digits of an escape stand for their character. -/
theorem readEscape_digits {c : Char} (h : isPlain c = false) (rest : List Char) :
    readEscape ('u' :: (escapeDigits c.toNat ++ rest)) = some ([c], rest) := by
  have hcontrol : c.toNat < 0x80 := by
    simp only [isPlain, Bool.or_eq_false_iff, Bool.and_eq_false_iff, decide_eq_false_iff_not] at h
    omega
  have hall : ∀ n < 0x80, (escapeDigits n).length = 4 ∧ hexValue? (escapeDigits n) = some n := by
    decide
  obtain ⟨hlength, hvalue⟩ := hall c.toNat hcontrol
  have hvalid : c.toNat.isValidChar := c.valid
  simp only [readEscape, readCodePoint]
  rw [List.take_left' hlength, List.drop_left' hlength, hvalue]
  simp [hlength, hvalid, Char.ofNat_toNat]

/-- A character that is neither a quote nor a line end is read however it is written. -/
theorem readBasicPart_escaped (long : Bool) {c : Char} (hquote : c ≠ '"')
    (hline : long = true → c ≠ '\n') (rest : List Char) :
    readBasicPart (escaped long c ++ rest) = some ([c], rest) := by
  -- one case for each escape in the order they are tried, then the plain characters and the ones
  -- written by number
  rw [escaped]
  split
  · rename_i hc
    rw [hc]
    rfl
  rename_i hslash
  split
  · rename_i hc
    rw [hc]
    rfl
  split
  · rename_i hc
    have hshort : long = false := by simpa using fun hlong => hline hlong hc
    rw [hc, hshort]
    rfl
  split
  · rename_i hc
    rw [hc]
    rfl
  split
  · rename_i hc
    obtain rfl : c = Char.ofNat 8 := by rw [← hc, Char.ofNat_toNat]
    rfl
  split
  · rename_i hc
    obtain rfl : c = Char.ofNat 12 := by rw [← hc, Char.ofNat_toNat]
    rfl
  split
  · rename_i hplain
    rw [List.singleton_append, readBasicPart]
    · simp [hplain]
    · exact hslash
    · exact hquote
  · rename_i hplain
    exact readEscape_digits (by simpa using hplain) rest

/-- How a character is written on one line. -/
def written (c : Char) : List Char :=
  if c = '"' then ['\\', '"'] else escaped false c

theorem escapedFrom_false (seen : Nat) (cs : List Char) :
    escapedFrom false seen cs = cs.flatMap written := by
  induction cs generalizing seen with
  | nil => rfl
  | cons c cs ih =>
    by_cases hc : c = '"'
    · simp [hc, escapedFrom, written, ih]
    · simp [hc, escapedFrom, written, ih]

theorem readBasicPart_written (c : Char) (rest : List Char) :
    readBasicPart (written c ++ rest) = some ([c], rest) := by
  by_cases hc : c = '"'
  · rw [hc]
    rfl
  · rw [written, if_neg hc]
    exact readBasicPart_escaped false hc (by simp) rest

/-! ### Strings on one line -/

/-- What follows a string does not belong to it. -/
def EndsText (rest : List Char) : Prop :=
  ∀ c ∈ rest.head?, c ≠ '"' ∧ c ≠ '\x27'

/-- The parts of a string on one line are read up to its closing mark. -/
theorem readShort_flatMap (mark : Char) {part : Reader (List Char)} (write : Char → List Char)
    {cs : List Char} (hne : ∀ c ∈ cs, write c ≠ [])
    (h : ∀ c ∈ cs, ∀ rest, part (write c ++ rest) = some ([c], rest))
    (hmark : ∀ rest, part (mark :: rest) = none) (rest : List Char) :
    readShort mark part (cs.flatMap write ++ mark :: rest) = some (String.ofList cs, rest) := by
  have hparts := readMany_flatMap write (fun c => [c]) hne h (hmark rest)
  have hflatten : (cs.map fun c => [c]).flatten = cs := by
    simp [← List.flatMap_def]
  rw [readShort, hparts]
  simp [hflatten]

theorem written_ne_nil (c : Char) : written c ≠ [] := by
  intro hnil
  have hread := readBasicPart_written c []
  rw [hnil] at hread
  exact absurd hread (by simp [readBasicPart])

/-- The written form of a character begins with no quote. -/
theorem head?_written (c : Char) : (written c).head? ≠ some '"' := by
  intro hhead
  obtain ⟨d, ds, hds⟩ := List.exists_cons_of_ne_nil (written_ne_nil c)
  have hread := readBasicPart_written c []
  rw [hds, List.head?_cons, Option.some.injEq] at hhead
  rw [hds, hhead] at hread
  exact absurd hread (by simp [readBasicPart])

/-- A string on one line does not begin with three marks. -/
theorem ne_threeMarks {mark : Char} {body rest : List Char} (hbody : body.head? ≠ some mark)
    (hrest : rest.head? ≠ some mark) (tail : List Char) :
    mark :: (body ++ mark :: rest) ≠ mark :: mark :: mark :: tail := by
  intro htail
  cases body with
  | nil =>
    have hhead := congrArg List.head? (List.cons.inj (List.cons.inj htail).2).2
    exact hrest (by simpa using hhead)
  | cons c body =>
    have hhead := congrArg List.head? (List.cons.inj htail).2
    exact hbody (by simpa using hhead)

variable {cs rest : List Char}

theorem EndsText.head?_ne (h : EndsText rest) :
    rest.head? ≠ some '"' ∧ rest.head? ≠ some '\x27' :=
  ⟨fun hhead => (h _ hhead).1 rfl, fun hhead => (h _ hhead).2 rfl⟩

theorem readText_basic (cs : List Char) (hrest : EndsText rest) :
    readText (quotedAs .basic cs ++ rest) = some (String.ofList cs, rest) := by
  have hshort := readShort_flatMap '"' written (fun c (_ : c ∈ cs) => written_ne_nil c)
    (fun c _ => readBasicPart_written c) (fun _ => rfl) rest
  have hshape : quotedAs .basic cs ++ rest = '"' :: (cs.flatMap written ++ '"' :: rest) := by
    simp [quotedAs, escapedFrom_false]
  have hbody : (cs.flatMap written).head? ≠ some '"' := by
    cases cs with
    | nil => simp
    | cons c cs =>
      rw [List.flatMap_cons, List.head?_append_of_ne_nil _ (written_ne_nil c)]
      exact head?_written c
  rw [hshape, readText, readLine]
  · exact hshort
  · exact ne_threeMarks hbody hrest.head?_ne.1
  · simp

theorem readText_literal (h : ∀ c ∈ cs, c ≠ '\x27' ∧ isPlain c = true) (hrest : EndsText rest) :
    readText (quotedAs .literal cs ++ rest) = some (String.ofList cs, rest) := by
  have hpart : ∀ c ∈ cs, ∀ rest, readLiteralPart ([c] ++ rest) = some ([c], rest) := by
    intro c hc rest
    simp [readLiteralPart, h c hc]
  have hshort := readShort_flatMap '\x27' (fun c => [c]) (by simp) hpart (fun _ => rfl)
    rest
  have hshape : quotedAs .literal cs ++ rest =
      '\x27' :: (cs.flatMap (fun c => [c]) ++ '\x27' :: rest) := by
    simp [quotedAs]
  have hbody : (cs.flatMap fun c => [c]).head? ≠ some '\x27' := by
    cases cs with
    | nil => simp
    | cons c cs => simpa using (h c List.mem_cons_self).1
  rw [hshape, readText, readLine]
  · exact hshort
  · simp
  · exact ne_threeMarks hbody hrest.head?_ne.2

/-! ### Strings between three marks -/

/-- A text and how it is written between three marks, where `seen` marks came right before.  Up to
two marks in a row are written as they are, and everything else as a part that begins with no mark.
-/
inductive IsLong (part : Reader (List Char)) (mark : Char) :
    (seen : Nat) → (source value : List Char) → Prop
  | nil (seen : Nat) : IsLong part mark seen [] []
  | mark {seen : Nat} {source value : List Char} (hseen : seen < 2)
      (h : IsLong part mark (seen + 1) source value) :
      IsLong part mark seen (mark :: source) (mark :: value)
  | part {seen : Nat} {source value first : List Char} {c : Char} (hfirst : first.head? ≠ some mark)
      (hne : first ≠ []) (hread : ∀ rest, part (first ++ rest) = some ([c], rest))
      (h : IsLong part mark 0 source value) : IsLong part mark seen (first ++ source) (c :: value)

/-- A reader of the parts between three marks. -/
structure IsLongReader (part : Reader (List Char)) (mark : Char) : Prop where
  /-- It reads one mark or two. -/
  few : ∀ {seen rest}, seen ≠ 0 → seen < 3 → rest.head? ≠ some mark →
    part (List.replicate seen mark ++ rest) = some (List.replicate seen mark, rest)
  /-- It reads no more of them. -/
  many : ∀ {count rest}, 3 ≤ count → rest.head? ≠ some mark →
    part (List.replicate count mark ++ rest) = none

variable {part : Reader (List Char)} {mark : Char}

theorem replicate_span (seen : Nat) (hrest : rest.head? ≠ some mark) :
    spanWhile (· == mark) (List.replicate seen mark ++ rest) =
      (List.replicate seen mark, rest) := by
  refine spanWhile_append_of_forall (fun c hc => ?_) fun c hc => ?_
  · simpa using List.eq_of_mem_replicate hc
  · have hne : c ≠ mark := by
      rintro rfl
      exact hrest hc
    simpa using hne

/-- The parts between three marks are read up to the closing ones; of the marks before these the
last ones are left to them. -/
theorem IsLong.readMany (hpart : IsLongReader part mark) {seen : Nat} {source value : List Char}
    (h : IsLong part mark seen source value) (hseen : seen < 3) (hrest : rest.head? ≠ some mark) :
    ∃ parts left, left < 3 ∧ parts.flatten ++ List.replicate left mark =
        List.replicate seen mark ++ value ∧
      readMany part (List.replicate seen mark ++ (source ++ (List.replicate 3 mark ++ rest))) =
        (parts, List.replicate (3 + left) mark ++ rest) := by
  induction h with
  | nil seen =>
    refine ⟨[], seen, hseen, by simp, ?_⟩
    have hnone := hpart.many (show 3 ≤ 3 + seen by omega) hrest
    rw [List.nil_append, ← List.append_assoc, List.replicate_append_replicate, Nat.add_comm]
    exact readMany_of_none hnone
  | mark hless h ih =>
    rename_i seen source value
    obtain ⟨parts, left, hleft, hvalue, hread⟩ := ih (by omega)
    refine ⟨parts, left, hleft, ?_, ?_⟩
    · rw [hvalue, List.replicate_succ', List.append_assoc]
      rfl
    · rw [List.replicate_succ', List.append_assoc] at hread
      exact hread
  | part hfirst hne hone h ih =>
    rename_i seen source value first c
    obtain ⟨parts, left, hleft, hvalue, hread⟩ := ih (by omega)
    have hnext := readMany_append_of_some hne
      (hone (source ++ (List.replicate 3 mark ++ rest)))
    rw [List.replicate_zero, List.nil_append] at hvalue hread
    rw [hread] at hnext
    rw [List.append_assoc]
    -- the marks before a part are read as a part of their own, if there are any
    by_cases hzero : seen = 0
    · subst hzero
      exact ⟨[c] :: parts, left, hleft, by simp [hvalue], hnext⟩
    · have hhead : (first ++ (source ++ (List.replicate 3 mark ++ rest))).head? ≠ some mark := by
        rwa [List.head?_append_of_ne_nil _ hne]
      have hmarks := readMany_append_of_some (by simp [hzero]) (hpart.few hzero hseen hhead)
      rw [hnext] at hmarks
      exact ⟨List.replicate seen mark :: [c] :: parts, left, hleft, by simp [hvalue], hmarks⟩

theorem readFewMarks_replicate (seen : Nat) (hrest : rest.head? ≠ some mark) :
    readFewMarks mark (List.replicate seen mark ++ rest) =
      if seen = 0 ∨ 3 ≤ seen then none else some (List.replicate seen mark, rest) := by
  rw [readFewMarks, replicate_span seen hrest]
  simp

theorem readFewMarks_of_ne {c : Char} (h : c ≠ mark) : readFewMarks mark (c :: rest) = none := by
  have hhead : (c :: rest).head? ≠ some mark := by simpa using h
  simpa using readFewMarks_replicate 0 hhead

/-- A reader of parts that tries marks first, and to which three marks are no part, reads the parts
between three marks. -/
theorem isLongReader_of_or {other : Reader (List Char)}
    (hpart : ∀ cs, part cs = (readFewMarks mark cs).or (other cs))
    (hother : ∀ cs, other (mark :: cs) = none) : IsLongReader part mark := by
  constructor
  · intro seen rest hzero hfew hrest
    have hmany : ¬3 ≤ seen := by omega
    rw [hpart, readFewMarks_replicate _ hrest]
    simp [hzero, hmany]
  · intro count rest hmany hrest
    rw [hpart, readFewMarks_replicate _ hrest, if_pos (.inr hmany), Option.none_or]
    obtain ⟨more, rfl⟩ := Nat.exists_eq_add_of_le' hmany
    exact hother _

theorem isLongReader_basic : IsLongReader readLongBasicPart '"' :=
  isLongReader_of_or (fun _ => rfl) fun _ => rfl

theorem isLongReader_literal : IsLongReader readLongLiteralPart '\x27' :=
  isLongReader_of_or (fun _ => rfl) fun _ => rfl

theorem readLineEnd_of_ne {c : Char} (hline : c ≠ '\n') (hreturn : c ≠ '\r') :
    readLineEnd (c :: rest) = none := by
  rw [readLineEnd]
  · simpa using fun h => absurd h hline
  · simp [hreturn]

/-- A backslash only joins lines where nothing but blanks stands behind it. -/
theorem readJoint_of_ne {c : Char} (h : c ∉ [' ', '\t', '\n', '\r']) :
    readJoint ('\\' :: c :: rest) = none := by
  simp only [List.mem_cons, List.not_mem_nil, or_false, not_or] at h
  obtain ⟨hspace, htab, hline, hreturn⟩ := h
  have hend : afterLineEnd? (c :: rest) = none := by
    rw [afterLineEnd?]
    · simpa using fun h => absurd h hline
    · simp [hreturn]
  simp [readJoint, hspace, htab, hend]

/-- A character that is not a line end is written as itself or as an escape. -/
theorem escaped_eq (long : Bool) {c : Char} (hline : c ≠ '\n') :
    (∃ d more, escaped long c = '\\' :: d :: more ∧ d ∉ [' ', '\t', '\n', '\r']) ∨
      (escaped long c = [c] ∧ c ≠ '\\' ∧ isPlain c = true) := by
  rw [escaped]
  split
  · exact .inl ⟨_, _, rfl, by decide⟩
  rename_i hslash
  split
  · exact .inl ⟨_, _, rfl, by decide⟩
  split
  · exact .inl ⟨_, _, rfl, by decide⟩
  split
  · exact .inl ⟨_, _, rfl, by decide⟩
  split
  · exact .inl ⟨_, _, rfl, by decide⟩
  split
  · rename_i hplain
    exact .inr ⟨rfl, hslash, hplain⟩
  · exact .inl ⟨_, _, rfl, by decide⟩

/-- What is written between quotes for a character is a part between three quotes. -/
theorem readLongBasicPart_escaped {c : Char} (hquote : c ≠ '"') :
    (escaped true c).head? ≠ some '"' ∧ escaped true c ≠ [] ∧
      ∀ rest, readLongBasicPart (escaped true c ++ rest) = some ([c], rest) := by
  by_cases hline : c = '\n'
  · subst hline
    exact ⟨by decide, by decide, fun rest => rfl⟩
  have hbasic := readBasicPart_escaped true hquote fun _ => hline
  rcases escaped_eq true hline with ⟨d, more, heq, hd⟩ | ⟨heq, hslash, hplain⟩
  · rw [heq] at hbasic ⊢
    refine ⟨by simp, by simp, fun rest => ?_⟩
    simp only [List.cons_append, readLongBasicPart] at hbasic ⊢
    rw [readFewMarks_of_ne (by decide), readLineEnd_of_ne (by decide) (by decide),
      readJoint_of_ne hd, hbasic rest]
    rfl
  · rw [heq] at hbasic ⊢
    refine ⟨by simpa using hquote, by simp, fun rest => ?_⟩
    have hreturn : c ≠ '\r' := by
      rintro rfl
      exact absurd hplain (by decide)
    have hjoint : readJoint (c :: rest) = none := by
      rw [readJoint]
      simp [hslash]
    simp only [List.singleton_append, readLongBasicPart] at hbasic ⊢
    rw [readFewMarks_of_ne hquote, readLineEnd_of_ne hline hreturn, hjoint, hbasic rest]
    rfl

/-- Between three quotes every text is written in parts that are read again. -/
theorem isLong_escapedFrom (seen : Nat) (cs : List Char) :
    IsLong readLongBasicPart '"' seen (escapedFrom true seen cs) cs := by
  induction cs generalizing seen with
  | nil => exact .nil seen
  | cons c cs ih =>
    by_cases hc : c = '"'
    · subst hc
      by_cases hseen : seen < 2
      · simpa [escapedFrom, hseen] using IsLong.mark hseen (ih (seen + 1))
      · have hquote : ∀ rest, readLongBasicPart (['\\', '"'] ++ rest) = some (['"'], rest) :=
          fun rest => rfl
        simpa [escapedFrom, hseen] using IsLong.part (by decide) (by decide) hquote (ih 0)
    · obtain ⟨hhead, hne, hread⟩ := readLongBasicPart_escaped hc
      simpa [escapedFrom, hc] using IsLong.part hhead hne hread (ih 0)

/-! ### Runs of marks -/

/-- The length of the run that a text ends with and of the longest run, after one more character. -/
def runStep (c : Char) (runs : Nat × Nat) (d : Char) : Nat × Nat :=
  let here := if d = c then runs.1 + 1 else 0
  (here, max runs.2 here)

theorem longestRun_eq (c : Char) (cs : List Char) :
    longestRun c cs = (cs.foldl (runStep c) (0, 0)).2 :=
  rfl

theorem le_foldl_runStep (c : Char) (runs : Nat × Nat) (cs : List Char) :
    runs.2 ≤ (cs.foldl (runStep c) runs).2 := by
  induction cs generalizing runs with
  | nil => exact Nat.le_refl _
  | cons d cs ih => exact Nat.le_trans (Nat.le_max_left _ _) (ih (runStep c runs d))

/-- A text in which no run of a character has a length does not have this character. -/
theorem not_mem_of_longestRun {c : Char} (h : longestRun c cs = 0) : c ∉ cs := by
  rw [longestRun_eq] at h
  generalize (0, 0) = runs at h
  induction cs generalizing runs with
  | nil => simp
  | cons d cs ih =>
    rintro hmem
    rcases List.mem_cons.mp hmem with rfl | hmem
    · have hle := le_foldl_runStep c (runStep c runs c) cs
      have hpos : 0 < (runStep c runs c).2 := by
        simp only [runStep, if_true]
        omega
      rw [List.foldl_cons] at h
      omega
    · exact ih (runStep c runs d) h hmem

/-- A text with at most two marks in a row, and no controls but line ends, is written between three
marks as it is. -/
theorem isLong_self (runs : Nat × Nat) (hruns : (cs.foldl (runStep '\x27') runs).2 ≤ 2)
    (h : ∀ c ∈ cs, c = '\n' ∨ isPlain c = true) :
    IsLong readLongLiteralPart '\x27' runs.1 cs cs := by
  induction cs generalizing runs with
  | nil => exact .nil _
  | cons c cs ih =>
    have htail := ih (runStep '\x27' runs c) hruns fun d hd => h d (List.mem_cons_of_mem c hd)
    by_cases hc : c = '\x27'
    · subst hc
      have hle := le_foldl_runStep '\x27' (runStep '\x27' runs '\x27') cs
      rw [List.foldl_cons] at hruns
      refine .mark ?_ (by simpa [runStep] using htail)
      have hhere : runs.1 + 1 ≤ (runStep '\x27' runs '\x27').2 := Nat.le_max_right _ _
      omega
    · have hread : ∀ rest, readLongLiteralPart ([c] ++ rest) = some ([c], rest) := by
        intro rest
        rw [List.singleton_append, readLongLiteralPart, readFewMarks_of_ne hc]
        rcases h c List.mem_cons_self with rfl | hplain
        · rfl
        have hline : c ≠ '\n' ∧ c ≠ '\r' := by
          constructor <;> rintro rfl <;> exact absurd hplain (by decide)
        rw [readLineEnd_of_ne hline.1 hline.2]
        simp [readLiteralPart, hc, hplain]
      have hzero : (runStep '\x27' runs c).1 = 0 := by simp [runStep, hc]
      rw [hzero] at htail
      exact .part (by simpa using hc) (by simp) hread htail

/-! ### All forms -/

/-- What stands between the opening marks and a text. -/
def opening (cs : List Char) : List Char :=
  if cs.contains '\n' then ['\n'] else []

/-- A line end right after the opening marks is dropped, which is why one is written where the text
has another. -/
theorem getD_afterLineEnd? (cs : List Char) {body : List Char}
    (h : '\n' ∉ cs → afterLineEnd? body = none) :
    (afterLineEnd? (opening cs ++ body)).getD (opening cs ++ body) = body := by
  by_cases hline : '\n' ∈ cs
  · have hopening : opening cs = ['\n'] := if_pos (by simpa using hline)
    rw [hopening]
    rfl
  · have hopening : opening cs = [] := if_neg (by simpa using hline)
    rw [hopening, List.nil_append, h hline]
    rfl

/-- A text between three marks is read as what it is. -/
theorem readLong_opening (hpart : IsLongReader part mark) {source : List Char}
    (h : IsLong part mark 0 source cs) (hrest : rest.head? ≠ some mark)
    (hends : ∀ c ∈ (source ++ [mark]).head?, '\n' ∉ cs → c ≠ '\n' ∧ c ≠ '\r') :
    readLong mark part (opening cs ++ (source ++ (List.replicate 3 mark ++ rest))) =
      some (String.ofList cs, rest) := by
  obtain ⟨parts, left, hleft, hvalue, hread⟩ := h.readMany hpart (by omega) hrest
  -- where no line end is written behind the opening marks, none may stand there
  have hnone : '\n' ∉ cs → afterLineEnd? (source ++ (List.replicate 3 mark ++ rest)) = none := by
    intro hline
    cases source with
    | nil =>
      obtain ⟨hn, hr⟩ := hends mark rfl hline
      rw [List.nil_append, List.replicate_succ, List.cons_append, afterLineEnd?]
      · simp [hn]
      · simp [hr]
    | cons c source =>
      obtain ⟨hn, hr⟩ := hends c rfl hline
      rw [List.cons_append, afterLineEnd?]
      · simp [hn]
      · simp [hr]
  have hopening := getD_afterLineEnd? cs hnone
  have htake : (List.replicate (3 + left) mark ++ rest).takeWhile (· == mark) =
      List.replicate (3 + left) mark :=
    congrArg Prod.fst (replicate_span (3 + left) hrest)
  have hcount : min 5 (3 + left) = 3 + left := by omega
  rw [List.replicate_zero, List.nil_append] at hread hvalue
  rw [readLong, hopening, hread]
  simp [htake, hcount, hvalue]

theorem readText_longBasic (cs : List Char) (hrest : EndsText rest) :
    readText (quotedAs .longBasic cs ++ rest) = some (String.ofList cs, rest) := by
  have hends : ∀ c ∈ (escapedFrom true 0 cs ++ ['"']).head?, '\n' ∉ cs → c ≠ '\n' ∧ c ≠ '\r' := by
    intro c hc hline
    cases cs with
    | nil =>
      obtain rfl : '"' = c := Option.some.inj hc
      decide
    | cons d cs =>
      have hd : d ≠ '\n' := fun hd => hline (hd ▸ List.mem_cons_self)
      by_cases hquote : d = '"'
      · subst hquote
        obtain rfl : '"' = c := Option.some.inj hc
        decide
      · have hshape : escapedFrom true 0 (d :: cs) = escaped true d ++ escapedFrom true 0 cs := by
          simp [escapedFrom]
        rw [hshape] at hc
        rcases escaped_eq true hd with ⟨e, more, heq, -⟩ | ⟨heq, -, hplain⟩
        · rw [heq] at hc
          obtain rfl : '\\' = c := Option.some.inj hc
          decide
        · rw [heq] at hc
          obtain rfl : d = c := Option.some.inj hc
          refine ⟨hd, ?_⟩
          rintro rfl
          exact absurd hplain (by decide)
  have hlong := readLong_opening isLongReader_basic (isLong_escapedFrom 0 cs) hrest.head?_ne.1 hends
  simpa [quotedAs, quotedAs.opening, opening, readText] using hlong

theorem readText_longLiteral (hruns : longestRun '\x27' cs ≤ 2)
    (h : ∀ c ∈ cs, c = '\n' ∨ isPlain c = true) (hrest : EndsText rest) :
    readText (quotedAs .longLiteral cs ++ rest) = some (String.ofList cs, rest) := by
  have hends : ∀ c ∈ (cs ++ ['\x27']).head?, '\n' ∉ cs → c ≠ '\n' ∧ c ≠ '\r' := by
    intro c hc hline
    cases cs with
    | nil =>
      obtain rfl : '\x27' = c := Option.some.inj hc
      decide
    | cons d cs =>
      obtain rfl : d = c := Option.some.inj hc
      have hd : d ≠ '\n' := fun hd => hline (hd ▸ List.mem_cons_self)
      have hplain := (h d List.mem_cons_self).resolve_left hd
      refine ⟨hd, ?_⟩
      rintro rfl
      exact absurd hplain (by decide)
  have hlong := readLong_opening isLongReader_literal (isLong_self (0, 0) hruns h)
    hrest.head?_ne.2 hends
  simpa [quotedAs, quotedAs.opening, opening, readText] using hlong

/-- Between apostrophes a text is only written where it has no character that would need an escape
and no marks that would end it. -/
theorem Form.of_spec (cs : List Char) :
    match Form.of cs with
    | .literal => ∀ c ∈ cs, c ≠ '\x27' ∧ isPlain c = true
    | .longLiteral => longestRun '\x27' cs ≤ 2 ∧ ∀ c ∈ cs, c = '\n' ∨ isPlain c = true
    | _ => True := by
  by_cases hcontrols : (cs.any fun c => c ≠ '\n' && !isPlain c) = true
  · simp only [Form.of, hcontrols, if_true]
    cases cs.contains '\n' with
    | false => trivial
    | true => trivial
  have hplain : ∀ c ∈ cs, c = '\n' ∨ isPlain c = true := by
    intro c hc
    rw [Bool.not_eq_true, List.any_eq_false] at hcontrols
    by_cases hline : c = '\n'
    · exact .inl hline
    · exact .inr (by simpa [hline] using hcontrols c hc)
  cases hform : Form.of cs with
  | basic => trivial
  | longBasic => trivial
  | literal =>
    simp only [Form.of, hcontrols, Bool.false_eq_true, if_false] at hform
    split_ifs at hform with _ hliteral
    simp only [Bool.and_eq_true, decide_eq_true_eq, Bool.not_eq_true'] at hliteral
    obtain ⟨hruns, hlines⟩ := hliteral
    refine fun c hc => ⟨?_, (hplain c hc).resolve_left ?_⟩
    · rintro rfl
      exact not_mem_of_longestRun hruns hc
    · rintro rfl
      simp [hc] at hlines
  | longLiteral =>
    simp only [Form.of, hcontrols, Bool.false_eq_true, if_false] at hform
    split_ifs at hform with _ _ _ hruns
    exact ⟨hruns, hplain⟩

/-- Whatever form is chosen for a text, it is read as what it is. -/
theorem readText_string (s : String) (hrest : EndsText rest) :
    readText (string s ++ rest) = some (s, rest) := by
  have hform := Form.of_spec s.toList
  have hread : readText (string s ++ rest) = some (String.ofList s.toList, rest) := by
    rw [string]
    cases h : Form.of s.toList with
    | basic => exact readText_basic _ hrest
    | longBasic => exact readText_longBasic _ hrest
    | literal =>
      rw [h] at hform
      exact readText_literal hform hrest
    | longLiteral =>
      rw [h] at hform
      exact readText_longLiteral hform.1 hform.2 hrest
  rwa [String.ofList_toList] at hread

end Toml

end PageMarkup
