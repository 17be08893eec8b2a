import PageMarkup.Proofs.Restricted.Colors
import PageMarkup.Proofs.Restricted.Lengths

/-!
# The grammar of color functions

A color function is a name and a list of three or four arguments in parentheses.  The reader of such
colors follows every way to cut the list, and nothing need stand between two arguments, so `rgb(123)`
is read as three of them.  The grammar is told here by the parts of the text.  A color that is allowed
is one as style sheets know them exactly if its digits and its name are those of ASCII and each part
of the list between blanks, commas and slashes is an argument.
-/

namespace PageMarkup

open Text

namespace Text

variable {p : Char → Bool} {run front : List Char}

/-- The maximal runs of characters that do not satisfy `p`. -/
def runs (p : Char → Bool) (cs : List Char) : List (List Char) :=
  (splitWhere p cs).filter fun run => !run.isEmpty

theorem runs_append_cons {c : Char} (hc : p c = true) (front rest : List Char) :
    runs p (front ++ c :: rest) = runs p front ++ runs p rest := by
  rw [runs, splitWhere_append_of_cut hc, List.filter_append]
  rfl

theorem runs_of_forall_not (hne : run ≠ []) (hrun : ∀ c ∈ run, p c = false) :
    runs p run = [run] := by
  rw [runs, splitWhere_of_forall hrun]
  simp [hne]

/-- Characters that cut make no runs. -/
theorem runs_append_of_forall (hfront : ∀ c ∈ front, p c = true) (rest : List Char) :
    runs p (front ++ rest) = runs p rest := by
  induction front with
  | nil => rfl
  | cons c front ih =>
    have hcut := runs_append_cons (hfront c List.mem_cons_self) [] (front ++ rest)
    rw [List.nil_append] at hcut
    rw [List.cons_append, hcut, ih fun d hd => hfront d (List.mem_cons_of_mem c hd)]
    rfl

/-- A run ends where characters follow that cut. -/
theorem runs_run_append (hne : run ≠ []) (hrun : ∀ c ∈ run, p c = false) {cut : List Char}
    (hcut : ∀ c ∈ cut, p c = true) (hcutNe : cut ≠ []) (rest : List Char) :
    runs p (run ++ (cut ++ rest)) = run :: runs p rest := by
  obtain ⟨c, more, rfl⟩ := List.exists_cons_of_ne_nil hcutNe
  obtain ⟨hc, hmore⟩ := List.forall_mem_cons.mp hcut
  rw [List.cons_append, runs_append_cons hc, runs_of_forall_not hne hrun,
    runs_append_of_forall hmore, List.singleton_append]

end Text

namespace Restricted

variable {cs rest : List Char} {units : List String}

/-! ### Arguments -/

/-- An argument of a color function: perhaps a sign, one to three digits, and perhaps a fraction and
one of some units. -/
def IsArgument (digit : Char → Bool) (units : List String) (cs : List Char) : Prop :=
  ∃ sign whole rest, (sign = [] ∨ sign = ['-']) ∧ IsDigits digit whole ∧ whole.length ≤ 3 ∧
    IsNumberEnd digit units rest ∧ cs = sign ++ (whole ++ rest)

theorem mem_afterDigits_iff {most : Nat} : rest ∈ afterDigits most cs ↔
    ∃ digits, IsDigits isDigit digits ∧ digits.length ≤ most ∧ cs = digits ++ rest := by
  induction most generalizing cs with
  | zero =>
    simp only [afterDigits, List.not_mem_nil, Nat.le_zero, List.length_eq_zero_iff, false_iff]
    rintro ⟨digits, ⟨hne, -⟩, rfl, -⟩
    exact hne rfl
  | succ most ih =>
    cases cs with
    | nil =>
      simp only [afterDigits, List.not_mem_nil, false_iff]
      rintro ⟨digits, ⟨hne, -⟩, -, hcs⟩
      exact hne (List.append_eq_nil_iff.mp hcs.symm).1
    | cons c cs =>
      rw [afterDigits]
      constructor
      · intro h
        split at h
        · rename_i hc
          rcases List.mem_cons.mp h with rfl | h
          · exact ⟨[c], ⟨by simp, by simpa using hc⟩, by simp, rfl⟩
          · obtain ⟨digits, ⟨-, hdigits⟩, hlength, rfl⟩ := ih.mp h
            exact ⟨c :: digits, ⟨by simp, List.forall_mem_cons.mpr ⟨hc, hdigits⟩⟩,
              by simpa using hlength, rfl⟩
        · exact absurd h List.not_mem_nil
      · rintro ⟨digits, ⟨hne, hdigits⟩, hlength, hcs⟩
        obtain ⟨d, more, rfl⟩ := List.exists_cons_of_ne_nil hne
        obtain ⟨rfl, rfl⟩ := List.cons.inj hcs
        obtain ⟨hc, hmore⟩ := List.forall_mem_cons.mp hdigits
        rw [if_pos hc]
        by_cases hnil : more = []
        · subst hnil
          exact List.mem_cons_self
        · exact List.mem_cons_of_mem _ (ih.mpr ⟨more, ⟨hnil, hmore⟩, by simpa using hlength, rfl⟩)

theorem mem_afterFraction_iff : rest ∈ afterFraction cs ↔
    ∃ fraction, IsFraction isDigit fraction ∧ cs = fraction ++ rest := by
  constructor
  · intro h
    unfold afterFraction at h
    split at h
    · rcases List.mem_cons.mp h with rfl | h
      · exact ⟨[], .inl rfl, rfl⟩
      · obtain ⟨digits, hdigits, -, rfl⟩ := mem_afterDigits_iff.mp h
        exact ⟨'.' :: digits, .inr ⟨digits, hdigits, rfl⟩, rfl⟩
    · obtain rfl := List.mem_singleton.mp h
      exact ⟨[], .inl rfl, rfl⟩
  · rintro ⟨fraction, rfl | ⟨digits, hdigits, rfl⟩, rfl⟩
    · unfold afterFraction
      split
      · exact List.mem_cons_self
      · exact List.mem_singleton.mpr rfl
    · rw [List.cons_append, afterFraction]
      exact List.mem_cons_of_mem _ (mem_afterDigits_iff.mpr ⟨digits, hdigits, by simp, rfl⟩)

theorem mem_afterUnit_iff : rest ∈ afterUnit units cs ↔
    ∃ unit, IsUnitOf units unit ∧ cs = unit ++ rest := by
  rw [afterUnit, List.mem_cons, List.mem_filterMap]
  simp only [after?_eq_some_iff]
  constructor
  · rintro (rfl | ⟨unit, hunit, rfl⟩)
    · exact ⟨[], ⟨"", .inl rfl, rfl⟩, rfl⟩
    · exact ⟨unit.toList, ⟨unit, .inr hunit, rfl⟩, rfl⟩
  · rintro ⟨unit, ⟨name, rfl | hname, rfl⟩, rfl⟩
    · exact .inl rfl
    · exact .inr ⟨name, hname, rfl⟩

/-- The reader of arguments finds every argument at the beginning of a text. -/
theorem mem_afterArgument_iff : rest ∈ afterArgument units cs ↔
    ∃ argument, IsArgument isDigit units argument ∧ cs = argument ++ rest := by
  have hnumber {unsigned : List Char} :
      rest ∈ ((afterDigits 3 unsigned).flatMap afterFraction).flatMap (afterUnit units) ↔
        ∃ whole more, IsDigits isDigit whole ∧ whole.length ≤ 3 ∧
          IsNumberEnd isDigit units more ∧ unsigned = whole ++ (more ++ rest) := by
    simp only [List.mem_flatMap, mem_afterDigits_iff, mem_afterFraction_iff, mem_afterUnit_iff]
    constructor
    · rintro ⟨_, ⟨_, ⟨whole, hwhole, hlength, rfl⟩, fraction, hfraction, rfl⟩, unit, hunit, rfl⟩
      exact ⟨whole, fraction ++ unit, hwhole, hlength, ⟨fraction, unit, hfraction, hunit, rfl⟩,
        by simp⟩
    · rintro ⟨whole, _, hwhole, hlength, ⟨fraction, unit, hfraction, hunit, rfl⟩, rfl⟩
      exact ⟨unit ++ rest, ⟨fraction ++ (unit ++ rest), ⟨whole, hwhole, hlength, by simp⟩, fraction,
        hfraction, rfl⟩, unit, hunit, rfl⟩
  unfold afterArgument
  dsimp only
  split
  · rename_i more
    rw [hnumber]
    constructor
    · rintro ⟨whole, tail, hwhole, hlength, htail, rfl⟩
      exact ⟨_, ⟨['-'], whole, tail, .inr rfl, hwhole, hlength, htail, rfl⟩, by simp⟩
    · rintro ⟨_, ⟨sign, whole, tail, rfl | rfl, hwhole, hlength, htail, rfl⟩, hcs⟩
      · -- a number without a sign begins with a digit
        obtain ⟨c, digits, rfl⟩ := List.exists_cons_of_ne_nil hwhole.1
        obtain rfl : '-' = c := (List.cons.inj hcs).1
        exact absurd (hwhole.2 '-' List.mem_cons_self) (by decide)
      · exact ⟨whole, tail, hwhole, hlength, htail, by simpa using hcs⟩
  · rename_i hsign
    rw [hnumber]
    constructor
    · rintro ⟨whole, tail, hwhole, hlength, htail, rfl⟩
      exact ⟨_, ⟨[], whole, tail, .inl rfl, hwhole, hlength, htail, rfl⟩, by simp⟩
    · rintro ⟨_, ⟨sign, whole, tail, rfl | rfl, hwhole, hlength, htail, rfl⟩, rfl⟩
      · exact ⟨whole, tail, hwhole, hlength, htail, by simp⟩
      · exact absurd rfl (hsign _)

/-- A character that begins or continues no argument. -/
def isCut (c : Char) : Bool :=
  isBlank c || "(),/".toList.contains c

theorem isCut_eq_false_of_isDigit {c : Char} (hc : isDigit c = true) : isCut c = false := by
  have hmarks : "(),/".toList.all (fun mark => !isDigit mark) = true := by decide
  rw [isCut, isBlank_eq_false_of_isDigit hc, Bool.false_or, Bool.eq_false_iff]
  intro hmem
  have hmark := List.all_eq_true.mp hmarks c (List.contains_iff_mem.mp hmem)
  rw [hc] at hmark
  exact absurd hmark (by decide)

/-- Arguments are written without characters that cut. -/
theorem IsArgument.isCut_eq_false (hunits : (units.all fun unit => !unit.toList.any isCut) = true)
    {argument : List Char} (h : IsArgument isDigit units argument) :
    ∀ c ∈ argument, isCut c = false := by
  obtain ⟨sign, whole, rest, hsign, hwhole, -, ⟨fraction, unit, hfraction, hunit, rfl⟩, rfl⟩ := h
  simp only [List.forall_mem_append]
  refine ⟨?_, fun c hc => isCut_eq_false_of_isDigit (hwhole.2 c hc), ?_, ?_⟩
  · rcases hsign with rfl | rfl
    · exact List.forall_mem_nil _
    · exact List.forall_mem_singleton.mpr (by decide)
  · rcases hfraction with rfl | ⟨digits, hdigits, rfl⟩
    · exact List.forall_mem_nil _
    · exact List.forall_mem_cons.mpr
        ⟨by decide, fun c hc => isCut_eq_false_of_isDigit (hdigits.2 c hc)⟩
  · obtain ⟨name, rfl | hname, rfl⟩ := hunit
    · exact List.forall_mem_nil _
    · intro c hc
      have hnone := List.all_eq_true.mp hunits name hname
      simp only [Bool.not_eq_true', List.any_eq_false] at hnone
      simpa using hnone c hc

theorem IsArgument.ne_nil {digit : Char → Bool} {argument : List Char}
    (h : IsArgument digit units argument) : argument ≠ [] := by
  obtain ⟨sign, whole, rest, -, hwhole, -, -, rfl⟩ := h
  simp [hwhole.1]

/-! ### Separators -/

/-- What may stand between two arguments: blanks with at most one comma or slash among them. -/
def IsSeparator (cs : List Char) : Prop :=
  ∃ before mark after, allBlank before = true ∧ (mark = [] ∨ mark = [','] ∨ mark = ['/']) ∧
    allBlank after = true ∧ cs = before ++ (mark ++ after)

theorem IsSeparator.isCut_eq_true (h : IsSeparator cs) : ∀ c ∈ cs, isCut c = true := by
  have hblank {blanks : List Char} (h : allBlank blanks = true) :
      ∀ c ∈ blanks, isCut c = true := by
    intro c hc
    have hc : isBlank c = true := List.all_eq_true.mp h c hc
    simp [isCut, hc]
  obtain ⟨before, mark, after, hbefore, hmark, hafter, rfl⟩ := h
  simp only [List.forall_mem_append]
  refine ⟨hblank hbefore, ?_, hblank hafter⟩
  rcases hmark with rfl | rfl | rfl
  · exact List.forall_mem_nil _
  · exact List.forall_mem_singleton.mpr (by decide)
  · exact List.forall_mem_singleton.mpr (by decide)

/-- The separator that is read is the one that stands there. -/
theorem exists_afterSeparator (cs : List Char) :
    ∃ separator, IsSeparator separator ∧ cs = separator ++ afterSeparator cs := by
  obtain ⟨before, hbefore, hcs⟩ := exists_append_trimStart cs
  have hmark {mark : Char} {rest : List Char} (hmark : [mark] = [','] ∨ [mark] = ['/'])
      (htrim : trimStart cs = mark :: rest) :
      ∃ separator, IsSeparator separator ∧ cs = separator ++ trimStart rest := by
    obtain ⟨after, hafter, hrest⟩ := exists_append_trimStart rest
    refine ⟨before ++ ([mark] ++ after), ⟨before, [mark], after, hbefore, .inr hmark, hafter, rfl⟩,
      ?_⟩
    rw [List.append_assoc, List.append_assoc, ← hrest, List.singleton_append, ← htrim, ← hcs]
  unfold afterSeparator
  split
  · rename_i rest htrim
    exact hmark (.inl rfl) htrim
  · rename_i rest htrim
    exact hmark (.inr rfl) htrim
  · exact ⟨before, ⟨before, [], [], hbefore, .inl rfl, rfl, by simp⟩, hcs⟩

/-- A separator is read as a whole in front of what begins with neither a blank nor a mark. -/
theorem afterSeparator_append {separator : List Char} (h : IsSeparator separator)
    (hrest : ∀ c ∈ rest.head?, isCut c = false) : afterSeparator (separator ++ rest) = rest := by
  obtain ⟨before, mark, after, hbefore, hmark, hafter, rfl⟩ := h
  have hblank : ∀ c ∈ rest.head?, isBlank c = false := fun c hc =>
    (Bool.or_eq_false_iff.mp (hrest c hc)).1
  have hbehind : trimStart (after ++ rest) = rest := by
    rw [trimStart_append_of_allBlank hafter, trimStart_eq_self hblank]
  rw [List.append_assoc, afterSeparator, trimStart_append_of_allBlank hbefore]
  rcases hmark with rfl | rfl | rfl
  · rw [List.append_assoc, List.nil_append, hbehind]
    split
    · exact absurd (hrest ',' rfl) (by decide)
    · exact absurd (hrest '/' rfl) (by decide)
    · rfl
  · exact hbehind
  · exact hbehind

theorem mem_afterNextArgument_iff : rest ∈ afterNextArgument cs ↔
    ∃ separator argument, IsSeparator separator ∧ IsArgument isDigit ["%"] argument ∧
      cs = separator ++ (argument ++ rest) := by
  rw [afterNextArgument, mem_afterArgument_iff]
  constructor
  · rintro ⟨argument, hargument, hcs⟩
    obtain ⟨separator, hseparator, hsplit⟩ := exists_afterSeparator cs
    rw [hcs] at hsplit
    exact ⟨separator, argument, hseparator, hargument, hsplit⟩
  · rintro ⟨separator, argument, hseparator, hargument, rfl⟩
    refine ⟨argument, hargument, afterSeparator_append hseparator fun c hc => ?_⟩
    obtain ⟨d, more, rfl⟩ := List.exists_cons_of_ne_nil hargument.ne_nil
    obtain rfl : d = c := Option.some.inj hc
    exact hargument.isCut_eq_false (by decide) d List.mem_cons_self

/-! ### Calls -/

/-- The name of a color function, with its letters compared in some way. -/
def IsFunctionName (letter : Char → Char) (word : List Char) : Prop :=
  ∃ name ∈ colorFunctions, word.map letter = name.toList

theorem mem_afterColorFunction_iff : rest ∈ afterColorFunction cs ↔
    ∃ word, IsFunctionName fold word ∧ cs = word ++ '(' :: rest := by
  have hparen (name : String) : (name ++ "(").toList = name.toList ++ ['('] := String.toList_append
  rw [afterColorFunction, List.mem_filterMap]
  simp only [hparen]
  constructor
  · rintro ⟨name, hname, hopen⟩
    obtain ⟨mark, hmark, rfl⟩ := Html.afterFolded?_eq_some_iff.mp hopen
    obtain ⟨word, paren, rfl, hword, hparen⟩ := List.map_eq_append_iff.mp hmark
    obtain ⟨c, rfl, hc⟩ := List.map_eq_singleton_iff.mp hparen
    obtain rfl := eq_of_fold_eq hc (by decide)
    exact ⟨word, ⟨name, hname, hword⟩, by simp⟩
  · rintro ⟨word, ⟨name, hname, hword⟩, rfl⟩
    refine ⟨name, hname, Html.afterFolded?_eq_some_iff.mpr ⟨word ++ ['('], ?_, by simp⟩⟩
    rw [List.map_append, hword]
    rfl

/-- A color function by its parts: its name, and its arguments with what stands around them. -/
structure Call where
  name : List Char
  before : List Char
  first : List Char
  /-- The further arguments, each behind what separates it from the one before. -/
  further : List (List Char × List Char)
  after : List Char

namespace Call

/-- The further arguments with their separators. -/
def furtherText (further : List (List Char × List Char)) : List Char :=
  further.flatMap fun part => part.1 ++ part.2

/-- The color function as it is written. -/
def text (call : Call) : List Char :=
  call.name ++ '(' :: (call.before ++ (call.first ++
    (furtherText call.further ++ (call.after ++ [')']))))

/-- The call has the name of a color function and three or four arguments, and the text between two
arguments separates them if it is there. -/
structure IsValid (digit : Char → Bool) (letter : Char → Char) (call : Call) : Prop where
  name : IsFunctionName letter call.name
  before : allBlank call.before = true
  first : IsArgument digit ["deg", "%"] call.first
  further : ∀ part ∈ call.further, IsSeparator part.1 ∧ IsArgument digit ["%"] part.2
  count : call.further.length = 2 ∨ call.further.length = 3
  after : allBlank call.after = true

/-- Something stands between any two arguments. -/
def IsSeparated (call : Call) : Prop :=
  ∀ part ∈ call.further, part.1 ≠ []

end Call

/-- Some further arguments one after another. -/
def FollowsFurther : (count : Nat) → (cs rest : List Char) → Prop
  | 0, cs, rest => cs = rest
  | count + 1, cs, rest => ∃ middle ∈ afterNextArgument cs, FollowsFurther count middle rest

theorem followsFurther_iff {count : Nat} : FollowsFurther count cs rest ↔
    ∃ further : List (List Char × List Char), further.length = count ∧
      (∀ part ∈ further, IsSeparator part.1 ∧ IsArgument isDigit ["%"] part.2) ∧
      cs = Call.furtherText further ++ rest := by
  induction count generalizing cs with
  | zero =>
    simp only [FollowsFurther, List.length_eq_zero_iff]
    constructor
    · rintro rfl
      exact ⟨[], rfl, List.forall_mem_nil _, rfl⟩
    · rintro ⟨_, rfl, -, rfl⟩
      rfl
  | succ count ih =>
    simp only [FollowsFurther, ih, mem_afterNextArgument_iff]
    constructor
    · rintro ⟨_, ⟨separator, argument, hseparator, hargument, rfl⟩, further, rfl, hfurther, rfl⟩
      exact ⟨(separator, argument) :: further, rfl,
        List.forall_mem_cons.mpr ⟨⟨hseparator, hargument⟩, hfurther⟩, by simp [Call.furtherText]⟩
    · rintro ⟨further, hcount, hfurther, rfl⟩
      obtain ⟨⟨separator, argument⟩, more, rfl⟩ := List.exists_cons_of_length_eq_add_one hcount
      obtain ⟨⟨hseparator, hargument⟩, hmore⟩ := List.forall_mem_cons.mp hfurther
      exact ⟨_, ⟨separator, argument, hseparator, hargument, by simp [Call.furtherText]⟩, more,
        by simpa using hcount, hmore, rfl⟩

theorem trimStart_eq_closing_iff : trimStart cs = [')'] ↔
    ∃ blanks, allBlank blanks = true ∧ cs = blanks ++ [')'] := by
  rw [trimStart_eq_cons_iff]
  exact and_iff_right (by decide)

/-- One more argument. -/
theorem followsFurther_succ_iff {count : Nat} : FollowsFurther (count + 1) cs rest ↔
    ∃ middle, FollowsFurther count cs middle ∧ rest ∈ afterNextArgument middle := by
  induction count generalizing cs with
  | zero => simp [FollowsFurther]
  | succ count ih =>
    constructor
    · rintro ⟨next, hnext, hmore⟩
      obtain ⟨middle, hmiddle, hrest⟩ := ih.mp hmore
      exact ⟨middle, ⟨next, hnext, hmiddle⟩, hrest⟩
    · rintro ⟨middle, ⟨next, hnext, hmiddle⟩, hrest⟩
      exact ⟨next, hnext, ih.mpr ⟨middle, hmiddle, hrest⟩⟩

/-- What may follow an opened call with its first argument and some further ones. -/
def afterCall (count : Nat) (cs : List Char) : List (List Char) :=
  Nat.repeat (fun rests => rests.flatMap afterNextArgument) count
    ((afterColorFunction cs).flatMap fun rest => afterArgument ["deg", "%"] (trimStart rest))

theorem mem_afterCall_iff {count : Nat} : rest ∈ afterCall count cs ↔
    ∃ opened ∈ afterColorFunction cs, ∃ middle ∈ afterArgument ["deg", "%"] (trimStart opened),
      FollowsFurther count middle rest := by
  induction count generalizing rest with
  | zero => simp [afterCall, Nat.repeat, FollowsFurther]
  | succ count ih =>
    have hnext : rest ∈ afterCall (count + 1) cs ↔
        ∃ middle ∈ afterCall count cs, rest ∈ afterNextArgument middle := List.mem_flatMap
    rw [hnext]
    simp only [ih, followsFurther_succ_iff]
    constructor
    · rintro ⟨next, ⟨opened, hopened, middle, hmiddle, hmore⟩, hrest⟩
      exact ⟨opened, hopened, middle, hmiddle, next, hmore, hrest⟩
    · rintro ⟨opened, hopened, middle, hmiddle, next, hmore, hrest⟩
      exact ⟨next, ⟨opened, hopened, middle, hmiddle, hmore⟩, hrest⟩

theorem isFunctionalColor_iff_afterCall : isFunctionalColor cs = true ↔
    ∃ count, (count = 2 ∨ count = 3) ∧ ∃ rest ∈ afterCall count cs, trimStart rest = [')'] := by
  have hcases : isFunctionalColor cs = ((afterCall 2 cs).any (trimStart · == [')']) ||
      (afterCall 3 cs).any (trimStart · == [')'])) := rfl
  simp only [hcases, Bool.or_eq_true, List.any_eq_true, beq_iff_eq, or_and_right, exists_or,
    exists_eq_left]

/-- The reader of color functions takes exactly the calls, in whatever way their arguments are cut. -/
theorem isFunctionalColor_iff :
    isFunctionalColor cs = true ↔ ∃ call : Call, call.IsValid isDigit fold ∧ cs = call.text := by
  simp only [isFunctionalColor_iff_afterCall, mem_afterCall_iff]
  constructor
  · rintro ⟨_, hcount, rest, ⟨opened, hopened, middle, hmiddle, hfurther⟩, hend⟩
    obtain ⟨word, hword, rfl⟩ := mem_afterColorFunction_iff.mp hopened
    obtain ⟨before, hbefore, hopened⟩ := exists_append_trimStart opened
    obtain ⟨first, hfirst, htrim⟩ := mem_afterArgument_iff.mp hmiddle
    obtain ⟨after, hafter, rfl⟩ := trimStart_eq_closing_iff.mp hend
    obtain ⟨further, rfl, hparts, rfl⟩ := followsFurther_iff.mp hfurther
    refine ⟨⟨word, before, first, further, after⟩,
      ⟨hword, hbefore, hfirst, hparts, hcount, hafter⟩, ?_⟩
    rw [hopened, htrim]
    rfl
  · rintro ⟨call, hcall, rfl⟩
    -- the first argument begins with no blank, so all blanks before it are passed
    have hstart : trimStart (call.before ++ (call.first ++
        (Call.furtherText call.further ++ (call.after ++ [')'])))) =
          call.first ++ (Call.furtherText call.further ++ (call.after ++ [')'])) := by
      rw [trimStart_append_of_allBlank hcall.before, trimStart_eq_self]
      intro c hc
      obtain ⟨d, more, hfirst⟩ := List.exists_cons_of_ne_nil hcall.first.ne_nil
      rw [hfirst] at hc
      obtain rfl : d = c := Option.some.inj hc
      have hcut := hcall.first.isCut_eq_false (by decide) d (hfirst ▸ List.mem_cons_self)
      exact (Bool.or_eq_false_iff.mp hcut).1
    refine ⟨_, hcall.count, call.after ++ [')'], ⟨_, mem_afterColorFunction_iff.mpr
      ⟨call.name, hcall.name, rfl⟩, Call.furtherText call.further ++ (call.after ++ [')']),
      mem_afterArgument_iff.mpr ⟨call.first, hcall.first, hstart⟩,
      followsFurther_iff.mpr ⟨call.further, rfl, hcall.further, rfl⟩⟩,
      trimStart_eq_closing_iff.mpr ⟨call.after, hcall.after, rfl⟩⟩

/-! ### Calls in ASCII -/

theorem isArgument_isAsciiDigit_iff (hunits : ∀ unit ∈ units, IsUnitName unit) :
    IsArgument isAsciiDigit units cs ↔ IsArgument isDigit units cs ∧ HasAsciiDigits cs := by
  constructor
  · rintro ⟨sign, whole, rest, hsign, hwhole, hlength, hrest, rfl⟩
    obtain ⟨hwhole, hascii⟩ := isDigits_isAsciiDigit_iff.mp hwhole
    obtain ⟨hrest, hmore⟩ := (isNumberEnd_isAsciiDigit_iff hunits).mp hrest
    refine ⟨⟨sign, whole, rest, hsign, hwhole, hlength, hrest, rfl⟩,
      hasAsciiDigits_append.mpr ⟨?_, hasAsciiDigits_append.mpr ⟨hascii, hmore⟩⟩⟩
    rcases hsign with rfl | rfl <;> decide
  · rintro ⟨⟨sign, whole, rest, hsign, hwhole, hlength, hrest, rfl⟩, hascii⟩
    obtain ⟨hascii, hmore⟩ := hasAsciiDigits_append.mp (hasAsciiDigits_append.mp hascii).2
    exact ⟨sign, whole, rest, hsign, isDigits_isAsciiDigit_iff.mpr ⟨hwhole, hascii⟩, hlength,
      (isNumberEnd_isAsciiDigit_iff hunits).mpr ⟨hrest, hmore⟩, rfl⟩

/-- Of the letters of the names only the `s` is folded from a letter that is no ASCII letter. -/
theorem toLower_eq_iff {c d : Char} (hd : isSmallLetter d = true) (hk : d ≠ 'k') :
    c.toLower = d ↔ fold c = d ∧ c ≠ 'ſ' := by
  have hbounds := isSmallLetter_iff.mp hd
  have hlong : c = 'ſ' ↔ c.toNat = 0x17F :=
    ⟨fun h => h ▸ rfl, fun h => Char.toNat_inj.mp h⟩
  have hother (hc : 90 < c.toNat) (hne : c.toNat < 97 ∨ 122 < c.toNat) : c.toLower ≠ d := by
    rw [toLower_eq_self (.inr hc)]
    rintro rfl
    omega
  rw [fold, Ne, hlong]
  split
  · rename_i hs
    simp [hother (by omega) (by omega), hs]
  · split
    · rename_i hs hkelvin
      simp [hother (by omega) (by omega), Ne.symm hk]
    · rename_i hs hkelvin
      simp [hs]

theorem isFunctionName_toLower_iff {word : List Char} :
    IsFunctionName Char.toLower word ↔ IsFunctionName fold word ∧ 'ſ' ∉ word := by
  have hall : ∀ name ∈ colorFunctions,
      name.toList.all (fun d => isSmallLetter d && d != 'k') = true := by decide
  have hnames : ∀ name ∈ colorFunctions, ∀ d ∈ name.toList, isSmallLetter d = true ∧ d ≠ 'k' :=
    fun name hname d hd => by simpa using List.all_eq_true.mp (hall name hname) d hd
  have hmap {letters word : List Char} (hletters : ∀ d ∈ letters, isSmallLetter d = true ∧ d ≠ 'k') :
      word.map Char.toLower = letters ↔ word.map fold = letters ∧ 'ſ' ∉ word := by
    induction letters generalizing word with
    | nil => simp +contextual
    | cons d letters ih =>
      obtain ⟨⟨hd, hk⟩, hmore⟩ := List.forall_mem_cons.mp hletters
      cases word with
      | nil => simp
      | cons c word =>
        rw [List.map_cons, List.map_cons, List.cons.injEq, List.cons.injEq, toLower_eq_iff hd hk,
          ih hmore, List.mem_cons, not_or, and_and_and_comm, ne_comm]
  rw [IsFunctionName, IsFunctionName]
  constructor
  · rintro ⟨name, hname, hword⟩
    obtain ⟨hword, hlong⟩ := (hmap (hnames name hname)).mp hword
    exact ⟨⟨name, hname, hword⟩, hlong⟩
  · rintro ⟨⟨name, hname, hword⟩, hlong⟩
    exact ⟨name, hname, (hmap (hnames name hname)).mpr ⟨hword, hlong⟩⟩

/-- The letters and the characters that fold to one. -/
theorem toNat_of_isSmallLetter_fold {c : Char} (h : isSmallLetter (fold c) = true) :
    (65 ≤ c.toNat ∧ c.toNat ≤ 90) ∨ (97 ≤ c.toNat ∧ c.toNat ≤ 122) ∨ c.toNat = 0x17F ∨
      c.toNat = 0x212A := by
  by_cases hcapital : 65 ≤ c.toNat ∧ c.toNat ≤ 90
  · exact .inl hcapital
  · rw [fold] at h
    split at h
    · rename_i hlong
      exact .inr (.inr (.inl hlong))
    · split at h
      · rename_i hkelvin
        exact .inr (.inr (.inr hkelvin))
      · rw [toLower_eq_self (by omega), isSmallLetter_iff] at h
        exact .inr (.inl h)

/-- A letter is no digit and cuts nothing. -/
theorem apart_of_isSmallLetter_fold {c : Char} (h : isSmallLetter (fold c) = true) :
    isCut c = false ∧ isDigit c = false := by
  have hletter := toNat_of_isSmallLetter_fold h
  have hranges : ∀ range ∈ digitRanges, 122 < range.1 ∧
      (range.2 < 0x17F ∨ 0x17F < range.1) ∧ (range.2 < 0x212A ∨ 0x212A < range.1) := by decide
  have hmarks : "(),/".toList.all (fun mark => decide (mark.toNat < 65)) = true := by decide
  refine ⟨Bool.eq_false_iff.mpr fun hcut => ?_, Bool.eq_false_iff.mpr fun hdigit => ?_⟩
  · simp only [isCut, isBlank, Bool.or_eq_true, Bool.and_eq_true, decide_eq_true_eq, beq_iff_eq,
      List.contains_iff_mem] at hcut
    rcases hcut with hblank | hmark
    · omega
    · have := of_decide_eq_true (List.all_eq_true.mp hmarks c hmark)
      omega
  · simp only [isDigit, Bool.or_eq_true, Bool.and_eq_true, decide_eq_true_eq, Ranges.has,
      List.any_eq_true, isAsciiDigit_iff] at hdigit
    rcases hdigit with hdigit | ⟨-, range, hrange, hdigit⟩
    · omega
    · have := hranges range hrange
      omega

/-- Names are written with letters. -/
theorem IsFunctionName.isSmallLetter_fold {word : List Char} (h : IsFunctionName fold word) :
    ∀ c ∈ word, isSmallLetter (fold c) = true := by
  have hnames : ∀ name ∈ colorFunctions, name.toList.all isSmallLetter = true := by decide
  obtain ⟨name, hname, hword⟩ := h
  exact fun c hc => List.all_eq_true.mp (hnames name hname) _ (hword ▸ List.mem_map_of_mem hc)

theorem IsFunctionName.ne_nil {letter : Char → Char} {word : List Char}
    (h : IsFunctionName letter word) : word ≠ [] := by
  have hnames : ∀ name ∈ colorFunctions, name.toList ≠ [] := by decide
  obtain ⟨name, hname, hword⟩ := h
  rintro rfl
  exact hnames name hname hword.symm

/-- An argument holds no long s. -/
theorem IsArgument.longS_notMem (hunits : ∀ unit ∈ units, 'ſ' ∉ unit.toList) {argument : List Char}
    (h : IsArgument isDigit units argument) : 'ſ' ∉ argument := by
  have hdigits {digits : List Char} (h : ∀ c ∈ digits, isDigit c = true) : 'ſ' ∉ digits :=
    fun hmem => absurd (h _ hmem) (by decide)
  obtain ⟨sign, whole, rest, hsign, hwhole, -, ⟨fraction, unit, hfraction, hunit, rfl⟩, rfl⟩ := h
  simp only [List.mem_append, not_or]
  refine ⟨?_, hdigits hwhole.2, ?_, ?_⟩
  · rcases hsign with rfl | rfl <;> decide
  · rcases hfraction with rfl | ⟨digits, hfraction, rfl⟩
    · exact List.not_mem_nil
    · exact List.not_mem_cons_of_ne_of_not_mem (by decide) (hdigits hfraction.2)
  · obtain ⟨name, rfl | hname, rfl⟩ := hunit
    · exact List.not_mem_nil
    · exact hunits name hname

/-- A text of characters that cut has no digits and no letters. -/
theorem apart_of_forall_isCut (h : ∀ c ∈ cs, isCut c = true) :
    HasAsciiDigits cs ∧ 'ſ' ∉ cs := by
  refine ⟨fun c hc hdigit => ?_, fun hmem => absurd (h _ hmem) (by decide)⟩
  have hcut := h c hc
  rw [isCut_eq_false_of_isDigit hdigit] at hcut
  exact absurd hcut (by decide)

theorem isCut_of_allBlank (h : allBlank cs = true) : ∀ c ∈ cs, isCut c = true :=
  (show IsSeparator cs from ⟨cs, [], [], h, .inl rfl, rfl, by simp⟩).isCut_eq_true

namespace Call

variable {call : Call}

/-- What holds of every part of a call holds of the call. -/
theorem forall_mem_text_iff {P : Char → Prop} : (∀ c ∈ call.text, P c) ↔
    (∀ c ∈ call.name, P c) ∧ (∀ c ∈ '(' :: call.before, P c) ∧ (∀ c ∈ call.first, P c) ∧
      (∀ part ∈ call.further, (∀ c ∈ part.1, P c) ∧ ∀ c ∈ part.2, P c) ∧
      ∀ c ∈ call.after ++ [')'], P c := by
  have hfurther : (∀ c ∈ furtherText call.further, P c) ↔
      ∀ part ∈ call.further, (∀ c ∈ part.1, P c) ∧ ∀ c ∈ part.2, P c := by
    simp only [furtherText, List.forall_mem_flatMap, List.forall_mem_append]
  have htext : call.text = call.name ++ (('(' :: call.before) ++ (call.first ++
      (furtherText call.further ++ (call.after ++ [')'])))) := by simp [text]
  rw [htext, List.forall_mem_append, List.forall_mem_append, List.forall_mem_append,
    List.forall_mem_append, hfurther]

/-- A call is one in ASCII exactly if its digits and the letters of its name are those of ASCII. -/
theorem isValid_isAsciiDigit_iff : call.IsValid isAsciiDigit Char.toLower ↔
    call.IsValid isDigit fold ∧ HasAsciiDigits call.text ∧ 'ſ' ∉ call.text := by
  have hdeg : ∀ unit ∈ ["deg", "%"], IsUnitName unit := by decide
  have hpercent : ∀ unit ∈ ["%"], IsUnitName unit := by decide
  rw [← List.forall_mem_ne', HasAsciiDigits, forall_mem_text_iff, forall_mem_text_iff]
  constructor
  · rintro ⟨hname, hbefore, hfirst, hfurther, hcount, hafter⟩
    obtain ⟨hname, hlong⟩ := isFunctionName_toLower_iff.mp hname
    obtain ⟨hfirst, hfirstDigits⟩ := (isArgument_isAsciiDigit_iff hdeg).mp hfirst
    have hparts : ∀ part ∈ call.further, IsSeparator part.1 ∧ IsArgument isDigit ["%"] part.2 ∧
        HasAsciiDigits part.2 := fun part hpart =>
      ⟨(hfurther part hpart).1, (isArgument_isAsciiDigit_iff hpercent).mp (hfurther part hpart).2⟩
    have hopening : ∀ c ∈ '(' :: call.before, isCut c = true :=
      List.forall_mem_cons.mpr ⟨by decide, isCut_of_allBlank hbefore⟩
    have hclosing : ∀ c ∈ call.after ++ [')'], isCut c = true :=
      List.forall_mem_append.mpr
        ⟨isCut_of_allBlank hafter, List.forall_mem_singleton.mpr (by decide)⟩
    replace hopening := apart_of_forall_isCut hopening
    replace hclosing := apart_of_forall_isCut hclosing
    refine ⟨⟨hname, hbefore, hfirst, fun part hpart => ⟨(hparts part hpart).1,
      (hparts part hpart).2.1⟩, hcount, hafter⟩, ⟨fun c hc hdigit => ?_, hopening.1, hfirstDigits,
      fun part hpart => ⟨?_, (hparts part hpart).2.2⟩, hclosing.1⟩,
      List.forall_mem_ne'.mpr hlong, List.forall_mem_ne'.mpr hopening.2,
      List.forall_mem_ne'.mpr (hfirst.longS_notMem (by decide)),
      fun part hpart => ⟨?_, ?_⟩, List.forall_mem_ne'.mpr hclosing.2⟩
    · rw [(apart_of_isSmallLetter_fold (hname.isSmallLetter_fold c hc)).2] at hdigit
      exact absurd hdigit (by decide)
    · exact (apart_of_forall_isCut (hparts part hpart).1.isCut_eq_true).1
    · exact List.forall_mem_ne'.mpr
        (apart_of_forall_isCut (hparts part hpart).1.isCut_eq_true).2
    · exact List.forall_mem_ne'.mpr ((hparts part hpart).2.1.longS_notMem (by decide))
  · rintro ⟨⟨hname, hbefore, hfirst, hfurther, hcount, hafter⟩,
      ⟨-, -, hfirstDigits, hparts, -⟩, hlong, -⟩
    exact ⟨isFunctionName_toLower_iff.mpr ⟨hname, List.forall_mem_ne'.mp hlong⟩, hbefore,
      (isArgument_isAsciiDigit_iff hdeg).mpr ⟨hfirst, hfirstDigits⟩,
      fun part hpart => ⟨(hfurther part hpart).1, (isArgument_isAsciiDigit_iff hpercent).mpr
        ⟨(hfurther part hpart).2, (hparts part hpart).2⟩⟩, hcount, hafter⟩

/-! ### Separated arguments -/

/-- A text without characters that cut. -/
def IsPiece (cs : List Char) : Prop :=
  cs ≠ [] ∧ ∀ c ∈ cs, isCut c = false

/-- Pieces between which nothing stands are put together. -/
theorem exists_separated {first : List Char} {further : List (List Char × List Char)}
    (hfirst : IsPiece first)
    (hfurther : ∀ part ∈ further, IsSeparator part.1 ∧ IsPiece part.2) :
    ∃ whole others, whole ++ furtherText others = first ++ furtherText further ∧ IsPiece whole ∧
      (∀ part ∈ others, IsSeparator part.1 ∧ part.1 ≠ [] ∧ IsPiece part.2) ∧
      others.length ≤ further.length := by
  induction further generalizing first with
  | nil => exact ⟨first, [], rfl, hfirst, List.forall_mem_nil _, Nat.le_refl _⟩
  | cons part further ih =>
    obtain ⟨⟨hseparator, hpart⟩, hmore⟩ := List.forall_mem_cons.mp hfurther
    obtain ⟨whole, others, htext, hwhole, hothers, hcount⟩ := ih hpart hmore
    have hcons : furtherText (part :: further) = part.1 ++ (whole ++ furtherText others) := by
      rw [htext]
      simp [furtherText]
    by_cases hnil : part.1 = []
    · refine ⟨first ++ whole, others, ?_, ⟨by simp [hfirst.1], ?_⟩, hothers, ?_⟩
      · rw [hcons, hnil, List.append_assoc, List.nil_append]
      · exact List.forall_mem_append.mpr ⟨hfirst.2, hwhole.2⟩
      · exact Nat.le_succ_of_le hcount
    · refine ⟨first, (part.1, whole) :: others, ?_, hfirst,
        List.forall_mem_cons.mpr ⟨⟨hseparator, hnil, hwhole⟩, hothers⟩,
        Nat.succ_le_succ hcount⟩
      rw [hcons]
      simp [furtherText]

/-- The pieces of a list are its runs of characters that do not cut. -/
theorem runs_furtherText {first : List Char} {further : List (List Char × List Char)}
    (hfirst : IsPiece first)
    (hfurther : ∀ part ∈ further, IsSeparator part.1 ∧ part.1 ≠ [] ∧ IsPiece part.2)
    {after : List Char} (hafter : allBlank after = true) :
    runs isCut (first ++ (furtherText further ++ (after ++ [')']))) =
      first :: further.map Prod.snd := by
  induction further generalizing first with
  | nil =>
    have hclosing : ∀ c ∈ after ++ [')'], isCut c = true :=
      List.forall_mem_append.mpr
        ⟨isCut_of_allBlank hafter, List.forall_mem_singleton.mpr (by decide)⟩
    have hrun := runs_run_append hfirst.1 hfirst.2 hclosing (by simp) []
    rw [List.append_nil] at hrun
    exact hrun
  | cons part further ih =>
    obtain ⟨⟨hseparator, hne, hpart⟩, hmore⟩ := List.forall_mem_cons.mp hfurther
    have hcons : furtherText (part :: further) ++ (after ++ [')']) =
        part.1 ++ (part.2 ++ (furtherText further ++ (after ++ [')']))) := by simp [furtherText]
    rw [hcons, runs_run_append hfirst.1 hfirst.2 hseparator.isCut_eq_true hne, ih hpart hmore]
    rfl

/-- The pieces of a call are its name and the pieces of its list. -/
theorem runs_text {name before : List Char} (hname : IsPiece name)
    (hbefore : allBlank before = true) (list : List Char) :
    runs isCut (name ++ '(' :: (before ++ list)) = name :: runs isCut list := by
  have hcut : ∀ c ∈ '(' :: before, isCut c = true :=
    List.forall_mem_cons.mpr ⟨by decide, isCut_of_allBlank hbefore⟩
  exact runs_run_append hname.1 hname.2 hcut (List.cons_ne_nil _ _) list

theorem IsValid.isPiece_name (h : call.IsValid isDigit fold) : IsPiece call.name :=
  ⟨h.name.ne_nil, fun c hc => (apart_of_isSmallLetter_fold (h.name.isSmallLetter_fold c hc)).1⟩

end Call

/-- Each part of the list between blanks, commas and slashes is an argument, and there are three of
them or more. -/
def ReadsApart (cs : List Char) : Prop :=
  ∃ name first further, runs isCut cs = name :: first :: further ∧ 2 ≤ further.length ∧
    IsArgument isDigit ["deg", "%"] first ∧ ∀ argument ∈ further, IsArgument isDigit ["%"] argument

theorem IsArgument.isPiece (hunits : (units.all fun unit => !unit.toList.any isCut) = true)
    {argument : List Char} (h : IsArgument isDigit units argument) : Call.IsPiece argument :=
  ⟨h.ne_nil, h.isCut_eq_false hunits⟩

/-- A color function can be cut into separated arguments exactly if the parts of its list are
arguments. -/
theorem exists_isSeparated_iff :
    (∃ call : Call, call.IsValid isDigit fold ∧ call.IsSeparated ∧ cs = call.text) ↔
      (∃ call : Call, call.IsValid isDigit fold ∧ cs = call.text) ∧ ReadsApart cs := by
  constructor
  · rintro ⟨call, hcall, hseparated, rfl⟩
    refine ⟨⟨call, hcall, rfl⟩, call.name, call.first, call.further.map Prod.snd, ?_, ?_,
      hcall.first, ?_⟩
    · rw [Call.text, Call.runs_text hcall.isPiece_name hcall.before,
        Call.runs_furtherText (hcall.first.isPiece (by decide)) (fun part hpart => ?_) hcall.after]
      exact ⟨(hcall.further part hpart).1, hseparated part hpart,
        (hcall.further part hpart).2.isPiece (by decide)⟩
    · rw [List.length_map]
      rcases hcall.count with hcount | hcount <;> omega
    · exact List.forall_mem_map.mpr fun part hpart => (hcall.further part hpart).2
  · rintro ⟨⟨call, hcall, rfl⟩, name, first, further, hruns, hcount, hfirst, hfurther⟩
    -- arguments that touch are read as one piece, and the pieces are what the runs show
    obtain ⟨whole, others, htext, hwhole, hothers, hlength⟩ :=
      Call.exists_separated (hcall.first.isPiece (by decide)) fun part hpart =>
        ⟨(hcall.further part hpart).1, (hcall.further part hpart).2.isPiece (by decide)⟩
    have hcs : call.text = Call.text ⟨call.name, call.before, whole, others, call.after⟩ := by
      rw [Call.text, Call.text, ← List.append_assoc call.first, ← htext, List.append_assoc]
    have hpieces : runs isCut call.text = call.name :: whole :: others.map Prod.snd := by
      rw [hcs, Call.text, Call.runs_text hcall.isPiece_name hcall.before,
        Call.runs_furtherText hwhole hothers hcall.after]
    rw [hruns] at hpieces
    obtain ⟨-, hpieces⟩ := List.cons.inj hpieces
    obtain ⟨rfl, rfl⟩ := List.cons.inj hpieces
    rw [List.length_map] at hcount
    have hcount' : others.length = 2 ∨ others.length = 3 := by
      have := hcall.count
      omega
    exact ⟨⟨call.name, call.before, first, others, call.after⟩,
      ⟨hcall.name, hcall.before, hfirst, fun part hpart => ⟨(hothers part hpart).1,
        hfurther _ (List.mem_map_of_mem hpart)⟩, hcount', hcall.after⟩,
      fun part hpart => (hothers part hpart).2.1, hcs⟩

/-! ### Allowed colors -/

/-- A name of a color, a `#` with three, four, six or eight digits in base sixteen, or a color
function of some form. -/
def IsColor (IsCallText : List Char → Prop) (cs : List Char) : Prop :=
  (∃ name ∈ colorNames, lower cs = name.toList) ∨
    (∃ digits, cs = '#' :: digits ∧ digits.length ∈ [3, 4, 6, 8] ∧
      ∀ c ∈ digits, isHexDigit c = true) ∨
    IsCallText cs

/-- A color function that the reader takes. -/
def IsReadCall (cs : List Char) : Prop :=
  ∃ call : Call, call.IsValid isDigit fold ∧ cs = call.text

/-- A color function as style sheets know them: in ASCII, with something between any two
arguments. -/
def IsStandardCall (cs : List Char) : Prop :=
  ∃ call : Call, call.IsValid isAsciiDigit Char.toLower ∧ call.IsSeparated ∧ cs = call.text

theorem isStandardCall_iff : IsStandardCall cs ↔
    IsReadCall cs ∧ ReadsApart cs ∧ HasAsciiDigits cs ∧ 'ſ' ∉ cs := by
  rw [← and_assoc, IsReadCall, ← exists_isSeparated_iff]
  constructor
  · rintro ⟨call, hcall, hseparated, rfl⟩
    obtain ⟨hvalid, hascii⟩ := Call.isValid_isAsciiDigit_iff.mp hcall
    exact ⟨⟨call, hvalid, hseparated, rfl⟩, hascii⟩
  · rintro ⟨⟨call, hvalid, hseparated, rfl⟩, hascii⟩
    exact ⟨call, Call.isValid_isAsciiDigit_iff.mpr ⟨hvalid, hascii⟩, hseparated, rfl⟩

theorem isNamedColor_iff : isNamedColor cs = true ↔ ∃ name ∈ colorNames, lower cs = name.toList := by
  rw [isNamedColor, List.contains_iff_mem]
  constructor
  · intro h
    exact ⟨_, h, String.toList_ofList.symm⟩
  · rintro ⟨name, hname, hcs⟩
    rwa [hcs, String.ofList_toList]

theorem isHexColor_iff : isHexColor cs = true ↔ ∃ digits, cs = '#' :: digits ∧
    digits.length ∈ [3, 4, 6, 8] ∧ ∀ c ∈ digits, isHexDigit c = true := by
  unfold isHexColor
  split
  · simp [List.all_eq_true]
  · rename_i hsign
    simp only [Bool.false_eq_true, false_iff, not_exists, not_and]
    rintro digits rfl
    exact absurd rfl (hsign digits)

theorem allowColor_eq_some_iff {normal : List Char} :
    allowColor cs = some normal ↔ IsColor IsReadCall (trim cs) ∧ normal = trim cs := by
  rw [IsColor, ← isNamedColor_iff, ← isHexColor_iff, IsReadCall, ← isFunctionalColor_iff,
    ← or_assoc, ← Bool.or_eq_true, ← Bool.or_eq_true, allowColor]
  split
  · rename_i h
    rw [Option.some.injEq, eq_comm, and_iff_right h]
  · rename_i h
    simp [h]

/-- A color function has a parenthesis, and no other color has one. -/
theorem IsReadCall.mem_paren (h : IsReadCall cs) : '(' ∈ cs := by
  obtain ⟨call, -, rfl⟩ := h
  simp [Call.text]

theorem notMem_paren_of_plain (h : (∃ name ∈ colorNames, lower cs = name.toList) ∨
    ∃ digits, cs = '#' :: digits ∧ digits.length ∈ [3, 4, 6, 8] ∧
      ∀ c ∈ digits, isHexDigit c = true) : '(' ∉ cs := by
  rcases h with hname | hhex
  · exact (isPlainColor_of_isNamedColor (isNamedColor_iff.mpr hname)).opening
  · exact (isPlainColor_of_isHexColor (isHexColor_iff.mpr hhex)).opening

theorem isColor_isStandardCall_iff : IsColor IsStandardCall cs ↔ IsColor IsReadCall cs ∧
    ('(' ∈ cs → ReadsApart cs ∧ HasAsciiDigits cs ∧ 'ſ' ∉ cs) := by
  rw [IsColor, IsColor, ← or_assoc, ← or_assoc, isStandardCall_iff]
  constructor
  · rintro (hplain | ⟨hcall, hstandard⟩)
    · exact ⟨.inl hplain, fun hparen => absurd hparen (notMem_paren_of_plain hplain)⟩
    · exact ⟨.inr hcall, fun _ => hstandard⟩
  · rintro ⟨hplain | hcall, hstandard⟩
    · exact .inl hplain
    · exact .inr ⟨hcall, hstandard hcall.mem_paren⟩

/-- A text is allowed as a color exactly if, trimmed, it is a name, digits in base sixteen, or a
color function in which digits of every script, a long s and arguments with nothing between them are
taken too; and of these colors exactly those are as style sheets know them that have nothing of
this. -/
theorem allow_colors (value : String) :
    (∀ normal, bgColor.allow value = some normal ↔
      IsColor IsReadCall (trim value.toList) ∧ normal = trimmed value) ∧
    color.allow value = bgColor.allow value ∧
    (IsColor IsStandardCall (trim value.toList) ↔ (bgColor.allow value).isSome = true ∧
      ('(' ∈ trim value.toList → ReadsApart (trim value.toList) ∧
        HasAsciiDigits (trim value.toList) ∧ 'ſ' ∉ trim value.toList)) ∧
    (bgColor.allow value).bind bgColor.allow = bgColor.allow value := by
  have hallow {normal : List Char} : bgColor.allowChars value.toList = some normal ↔
      IsColor IsReadCall (trim value.toList) ∧ normal = trim value.toList := by
    rw [allowChars, allowColor_eq_some_iff]
  refine ⟨fun normal => ?_, rfl, ?_, ?_⟩
  · simp only [allow_eq_some_iff, hallow, and_assoc, exists_and_left, exists_eq_left, trimmed]
  · simp only [isSome_allow_iff, hallow, exists_and_left, exists_eq, and_true]
    exact isColor_isStandardCall_iff
  · cases hvalue : bgColor.allow value with
    | none => rfl
    | some normal => exact allow_allow hvalue

/-- One number is taken as three arguments. -/
theorem not_allow_colors_standard :
    ¬ ∀ value : String,
      ((bgColor.allow value).isSome = true ↔ IsColor IsStandardCall (trim value.toList)) ∧
      ((color.allow value).isSome = true ↔ IsColor IsStandardCall (trim value.toList)) := by
  intro h
  have hstandard := (h "rgb(123)").1.mp (by decide +kernel)
  have hparen : '(' ∈ trim "rgb(123)".toList := by decide
  obtain ⟨name, first, further, hruns, hcount, -⟩ :=
    ((isColor_isStandardCall_iff.mp hstandard).2 hparen).1
  have hparts : runs isCut (trim "rgb(123)".toList) = ["rgb".toList, "123".toList] := by
    decide +kernel
  rw [hparts] at hruns
  obtain ⟨-, hruns⟩ := List.cons.inj hruns
  obtain ⟨-, rfl⟩ := List.cons.inj hruns
  exact absurd hcount (by decide)

end Restricted

end PageMarkup
