import Mathlib.Tactic.Common
import PageMarkup.Json.Printer
import PageMarkup.Json.Tree
import PageMarkup.Proofs.Binary64.Rounding
import PageMarkup.Proofs.Text.Scanning

/-!
# Numbers that were printed

An integer and a finite number are printed as literals: a sign, whole digits of which the first is
no zero unless it is the only one, a fraction and an exponent.  A literal is read as such up to the
first character that cannot belong to it.
-/

namespace PageMarkup

open Text
open Binary64 (pointAfter plain scientific shortest)

namespace Json

/-! ### Literals -/

/-- The whole digits of a literal. -/
def IsWhole (cs : List Char) : Prop :=
  cs = ['0'] ∨ ∃ first digits, cs = first :: digits ∧ first ≠ '0' ∧
    ∀ c ∈ cs, isAsciiDigit c = true

/-- The digits after a point, with the point, or nothing. -/
def IsFraction (cs : List Char) : Prop :=
  cs = [] ∨ ∃ digits, cs = '.' :: digits ∧ digits ≠ [] ∧ ∀ c ∈ digits, isAsciiDigit c = true

/-- An exponent, or nothing. -/
def IsExponent (cs : List Char) : Prop :=
  cs = [] ∨ ∃ sign digits, cs = 'e' :: (sign ++ digits) ∧
    (sign = [] ∨ sign = ['-'] ∨ sign = ['+']) ∧ digits ≠ [] ∧ ∀ c ∈ digits, isAsciiDigit c = true

/-- A literal. -/
def IsNumber (cs : List Char) : Prop :=
  ∃ sign whole fraction exponent, cs = sign ++ (whole ++ (fraction ++ exponent)) ∧
    (sign = [] ∨ sign = ['-']) ∧ IsWhole whole ∧ IsFraction fraction ∧ IsExponent exponent

/-- What follows does not belong to a literal. -/
def EndsNumber (rest : List Char) : Prop :=
  ∀ c ∈ rest.head?, isAsciiDigit c = false ∧ c ≠ '.' ∧ c ≠ 'e' ∧ c ≠ 'E'

theorem endsNumber_nil : EndsNumber [] := by
  rintro c ⟨⟩

variable {rest : List Char}

/-- Digits have no sign. -/
theorem readSign_digit {c : Char} (h : isAsciiDigit c = true) (cs : List Char) :
    Binary64.readSign (c :: cs) = (false, c :: cs) := by
  rw [Binary64.readSign]
  · intro _ hcs
    rw [(List.cons.inj hcs).1] at h
    exact absurd h (by decide)
  · intro _ hcs
    rw [(List.cons.inj hcs).1] at h
    exact absurd h (by decide)

/-- An exponent is read as such. -/
theorem exists_readExponent {exponent : List Char} (h : IsExponent exponent) :
    ∃ value, ∀ rest, EndsNumber rest → readExponent (exponent ++ rest) = some (value, rest) := by
  rcases h with rfl | ⟨sign, digits, rfl, hsign, hne, hdigits⟩
  · refine ⟨none, fun rest hrest => ?_⟩
    cases rest with
    | nil => rfl
    | cons c rest =>
      have hc := hrest c rfl
      simp [readExponent, hc.2.2]
  · obtain ⟨negative, hread⟩ : ∃ negative, ∀ rest,
        Binary64.readSign (sign ++ (digits ++ rest)) = (negative, digits ++ rest) := by
      rcases hsign with rfl | rfl | rfl
      · obtain ⟨c, cs, rfl⟩ := List.exists_cons_of_ne_nil hne
        exact ⟨false, fun rest => readSign_digit (hdigits c List.mem_cons_self) _⟩
      · exact ⟨true, fun rest => rfl⟩
      · exact ⟨false, fun rest => rfl⟩
    refine ⟨some (if negative then -(Binary64.digitsValue digits : Int)
      else Binary64.digitsValue digits), fun rest hrest => ?_⟩
    have hspan := spanWhile_append_of_forall hdigits fun c hc => (hrest c hc).1
    rw [List.cons_append, List.append_assoc, readExponent]
    simp only [hread, hspan, hne, List.isEmpty_iff, decide_true, Bool.true_or, if_true, if_false]

/-- A fraction is read as such. -/
theorem exists_readFraction {fraction : List Char} (h : IsFraction fraction) :
    ∃ value, ∀ rest, (∀ c ∈ rest.head?, isAsciiDigit c = false ∧ c ≠ '.') →
      readFraction (fraction ++ rest) = some (value, rest) := by
  rcases h with rfl | ⟨digits, rfl, hne, hdigits⟩
  · refine ⟨none, fun rest hrest => ?_⟩
    cases rest with
    | nil => rfl
    | cons c rest =>
      have hc := hrest c rfl
      simp [readFraction, hc.2]
  · refine ⟨some digits, fun rest hrest => ?_⟩
    have hspan := spanWhile_append_of_forall hdigits fun c hc => (hrest c hc).1
    simp [readFraction, hspan, hne]

/-- What follows a fraction begins with no digit and no point. -/
theorem head?_exponent {exponent rest : List Char} (h : IsExponent exponent)
    (hrest : EndsNumber rest) :
    ∀ c ∈ (exponent ++ rest).head?, isAsciiDigit c = false ∧ c ≠ '.' := by
  rcases h with rfl | ⟨sign, digits, rfl, -⟩
  · exact fun c hc => ⟨(hrest c hc).1, (hrest c hc).2.1⟩
  · rintro c ⟨⟩
    exact ⟨by decide, by decide⟩

/-- What follows whole digits begins with no digit. -/
theorem head?_fraction {fraction rest : List Char} (h : IsFraction fraction)
    (hrest : ∀ c ∈ rest.head?, isAsciiDigit c = false ∧ c ≠ '.') :
    ∀ c ∈ (fraction ++ rest).head?, isAsciiDigit c = false := by
  rcases h with rfl | ⟨digits, rfl, -⟩
  · exact fun c hc => (hrest c hc).1
  · rintro c ⟨⟩
    decide

/-- A literal is read up to what does not belong to it. -/
theorem IsNumber.exists_readLiteral {cs : List Char} (h : IsNumber cs) :
    ∃ l, ∀ rest, EndsNumber rest → readLiteral (cs ++ rest) = some (l, rest) := by
  obtain ⟨sign, whole, fraction, exponent, rfl, hsign, hwhole, hfraction, hexponent⟩ := h
  obtain ⟨digits, hdigits⟩ := exists_readFraction hfraction
  obtain ⟨power, hpower⟩ := exists_readExponent hexponent
  refine ⟨⟨!sign.isEmpty, whole, digits, power⟩, fun rest hrest => ?_⟩
  have hafter := head?_exponent hexponent hrest
  have hread := hdigits _ hafter
  rcases hwhole with rfl | ⟨first, more, rfl, hfirst, hall⟩
  · rcases hsign with rfl | rfl <;> simp [readLiteral, hread, hpower rest hrest]
  · have hspan := spanWhile_append_of_forall hall (head?_fraction hfraction hafter)
    have hminus : first ≠ '-' := by
      rintro rfl
      exact absurd (hall '-' List.mem_cons_self) (by decide)
    rw [List.cons_append] at hspan
    rcases hsign with rfl | rfl <;>
      simp [readLiteral, hminus, hfirst, hspan, hread, hpower rest hrest]

/-! ### Digits -/

theorem isAsciiDigit_of_mem_toDigits {n : Nat} {c : Char} (h : c ∈ Nat.toDigits 10 n) :
    isAsciiDigit c = true := by
  have hdigit := Nat.isDigit_of_mem_toDigits (by decide) (by decide) h
  simp only [isAsciiDigit, Char.isDigit, Bool.and_eq_true, decide_eq_true_eq] at hdigit ⊢
  exact hdigit

/-- The first digit of a positive number is no zero. -/
theorem exists_toDigits {n : Nat} (h : 0 < n) :
    ∃ first digits, Nat.toDigits 10 n = first :: digits ∧ first ≠ '0' := by
  induction n using Nat.strongRecOn with
  | ind n ih =>
    by_cases hn : n < 10
    · refine ⟨n.digitChar, [], Nat.toDigits_of_lt_base hn, ?_⟩
      have hall : ∀ n < 10, 0 < n → n.digitChar ≠ '0' := by decide
      exact hall n hn h
    · obtain ⟨first, digits, hdigits, hfirst⟩ := ih (n / 10) (by omega) (by omega)
      refine ⟨first, digits ++ [(n % 10).digitChar], ?_, hfirst⟩
      rw [Nat.toDigits_of_base_le (by decide) (by omega), hdigits, List.cons_append]

/-- The digits of a number are whole digits. -/
theorem isWhole_toDigits (n : Nat) : IsWhole (Nat.toDigits 10 n) := by
  rcases Nat.eq_zero_or_pos n with rfl | hn
  · exact .inl rfl
  · obtain ⟨first, digits, hdigits, hfirst⟩ := exists_toDigits hn
    exact .inr ⟨first, digits, hdigits, hfirst, fun c hc => isAsciiDigit_of_mem_toDigits hc⟩

/-- An integer is printed as a literal. -/
theorem isNumber_integer (n : Int) : IsNumber (integer n) := by
  refine ⟨if n < 0 then ['-'] else [], _, [], [], ?_, ?_, isWhole_toDigits n.natAbs, .inl rfl,
    .inl rfl⟩
  · rw [integer, List.append_nil, List.append_nil]
  · split
    · exact .inr rfl
    · exact .inl rfl

/-! ### Layouts -/

/-- Digits of which the first is no zero. -/
def IsSignificant (cs : List Char) : Prop :=
  ∃ first digits, cs = first :: digits ∧ first ≠ '0' ∧ ∀ c ∈ cs, isAsciiDigit c = true

/-- Significant digits, of which some are whole and the others follow a point. -/
theorem IsSignificant.exists_pointAfter {digits : List Char} (h : IsSignificant digits)
    (count : Nat) : ∃ whole fraction, pointAfter (count + 1) digits = whole ++ fraction ∧
      IsWhole whole ∧ IsFraction fraction := by
  obtain ⟨first, digits, rfl, hfirst, hall⟩ := h
  rw [pointAfter]
  split
  · exact ⟨first :: digits, [], (List.append_nil _).symm, .inr ⟨first, digits, rfl, hfirst, hall⟩,
      .inl rfl⟩
  · rename_i hlength
    refine ⟨first :: digits.take count, '.' :: digits.drop count, by simp, .inr ?_, .inr ?_⟩
    · refine ⟨first, digits.take count, rfl, hfirst, fun c hc => hall c ?_⟩
      exact List.mem_of_mem_take (i := count + 1) hc
    · refine ⟨digits.drop count, rfl, ?_, fun c hc => hall c ?_⟩
      · simpa using hlength
      · exact List.mem_cons_of_mem _ (List.mem_of_mem_drop hc)

/-- Plain notation is a literal. -/
theorem isNumber_plain {digits : List Char} (h : IsSignificant digits) (top : Int) :
    ∃ whole fraction, plain true digits top = whole ++ fraction ∧ IsWhole whole ∧
      IsFraction fraction := by
  have hall : ∀ zeros, ∀ c ∈ List.replicate zeros '0', isAsciiDigit c = true := by
    intro zeros c hc
    rw [List.eq_of_mem_replicate hc]
    decide
  obtain ⟨first, more, rfl, hfirst, hdigits⟩ := h
  rw [plain]
  split
  · refine ⟨['0'], '.' :: (List.replicate ((-top).toNat - 1) '0' ++ first :: more), by simp,
      .inl rfl, .inr ⟨_, rfl, by simp, fun c hc => ?_⟩⟩
    exact (List.mem_append.mp hc).elim (hall _ c) (hdigits c)
  · dsimp only
    split
    · refine ⟨first :: (more ++ List.replicate (top.toNat + 1 - (first :: more).length) '0'),
        ['.', '0'], by simp, .inr ⟨first, _, rfl, hfirst, fun c hc => ?_⟩,
        .inr ⟨['0'], rfl, by simp, List.forall_mem_singleton.mpr rfl⟩⟩
      rw [← List.cons_append] at hc
      exact (List.mem_append.mp hc).elim (hdigits c) (hall _ c)
    · exact IsSignificant.exists_pointAfter ⟨first, more, rfl, hfirst, hdigits⟩ _

/-- Exponent notation is a literal. -/
theorem isNumber_scientific {digits : List Char} (h : IsSignificant digits) (plusSign : Bool)
    (top : Int) :
    ∃ whole fraction exponent, scientific plusSign digits top = whole ++ (fraction ++ exponent) ∧
      IsWhole whole ∧ IsFraction fraction ∧ IsExponent exponent := by
  obtain ⟨whole, fraction, hpoint, hwhole, hfraction⟩ := h.exists_pointAfter 0
  let sign := if top < 0 then ['-'] else if plusSign then ['+'] else []
  have hsign : sign = [] ∨ sign = ['-'] ∨ sign = ['+'] := by
    dsimp only [sign]
    split_ifs <;> simp
  refine ⟨whole, fraction, 'e' :: (sign ++ Nat.toDigits 10 top.natAbs), ?_, hwhole, hfraction,
    .inr ⟨sign, _, rfl, hsign, Nat.toDigits_ne_nil, fun c => isAsciiDigit_of_mem_toDigits⟩⟩
  rw [scientific, hpoint]
  simp [sign]

/-- A magnitude other than zero has units. -/
theorem units_pos {magnitude : Nat} (h : magnitude ≠ 0) : 0 < Binary64.units magnitude := by
  rw [Binary64.units]
  split
  · omega
  · refine Nat.mul_pos ?_ (Nat.two_pow_pos _)
    have hfractions : 0 < Binary64.fractions := by decide
    omega

/-- A multiple that is found satisfies what is asked of it. -/
theorem ok_of_nearestMultiple? {ok : Nat → Bool} {numerator denominator multiple : Nat}
    {exponent : Int}
    (h : Binary64.nearestMultiple? ok numerator denominator exponent = some multiple) :
    ok multiple = true := by
  simp only [Binary64.nearestMultiple?] at h
  split_ifs at h with h1 h2 h3 <;> obtain rfl := Option.some.inj h <;> assumption

theorem ok_of_firstMultiple? {ok : Nat → Int → Bool} {numerator denominator left : Nat}
    {exponent : Int} {found : Nat × Int}
    (h : Binary64.firstMultiple? ok numerator denominator exponent left = some found) :
    ok found.1 found.2 = true := by
  induction left generalizing exponent with
  | zero => exact absurd h (by simp [Binary64.firstMultiple?])
  | succ left ih =>
    rw [Binary64.firstMultiple?] at h
    split at h
    · rename_i multiple hmultiple
      obtain rfl := Option.some.inj h
      exact ok_of_nearestMultiple? hmultiple
    · exact ih h

/-- The shortest digits of a magnitude other than zero are not zero. -/
theorem shortest_pos {magnitude : Nat} (h : magnitude ≠ 0) : 0 < (shortest magnitude).1 := by
  simp only [shortest]
  cases hfound : Binary64.firstMultiple? _ _ _ _ 17 with
  | none =>
    have hpower (n : Nat) : 0 < 5 ^ n := Nat.pow_pos (by decide)
    exact Nat.mul_pos (units_pos h) (hpower 1074)
  | some found =>
    have hok := ok_of_firstMultiple? hfound
    rw [Option.getD_some, Nat.pos_iff_ne_zero]
    intro hzero
    rw [hzero, Binary64.ofDecimal, if_pos rfl] at hok
    exact h (beq_iff_eq.mp hok).symm

/-- Digits without the zeros at their end are significant if the first is no zero. -/
theorem isSignificant_dropEndWhile {n : Nat} (h : 0 < n) :
    IsSignificant (dropEndWhile (· == '0') (Nat.toDigits 10 n)) := by
  obtain ⟨first, digits, hdigits, hfirst⟩ := exists_toDigits h
  have hall : ∀ c ∈ dropEndWhile (· == '0') (Nat.toDigits 10 n), isAsciiDigit c = true := by
    intro c hc
    rw [dropEndWhile, List.mem_reverse] at hc
    exact isAsciiDigit_of_mem_toDigits (List.mem_reverse.mp ((List.dropWhile_sublist _).mem hc))
  have hfront : dropEndWhile (· == '0') (first :: digits) =
      first :: dropEndWhile (· == '0') digits := by
    rw [dropEndWhile, List.reverse_cons, List.dropWhile_append]
    split
    · rename_i hempty
      rw [dropEndWhile, List.isEmpty_iff.mp hempty]
      simp [hfirst]
    · rw [List.reverse_append]
      rfl
  rw [hdigits, hfront] at hall ⊢
  exact ⟨first, _, rfl, hfirst, hall⟩

/-- A finite number is printed as a literal. -/
theorem isNumber_text {x : Binary64} (h : x.isFinite = true) : IsNumber (numberLayout.text x) := by
  have hfinite : x.magnitude < Binary64.infinite := of_decide_eq_true h
  have hmagnitude : ∃ whole fraction exponent, numberLayout.magnitude x.magnitude =
      whole ++ (fraction ++ exponent) ∧ IsWhole whole ∧ IsFraction fraction ∧
        IsExponent exponent := by
    rw [Binary64.Layout.magnitude]
    split_ifs with hzero hnan hinfinite
    · exact ⟨['0'], ['.', '0'], [], rfl, .inl rfl,
        .inr ⟨['0'], rfl, by simp, List.forall_mem_singleton.mpr rfl⟩, .inl rfl⟩
    · omega
    · omega
    · have hdigits := isSignificant_dropEndWhile (shortest_pos hzero)
      dsimp only
      split_ifs
      · obtain ⟨whole, fraction, hplain, hwhole, hfraction⟩ := isNumber_plain hdigits _
        exact ⟨whole, fraction, [], by rw [List.append_nil]; exact hplain, hwhole, hfraction,
          .inl rfl⟩
      · exact isNumber_scientific hdigits _ _
  obtain ⟨whole, fraction, exponent, htext, hparts⟩ := hmagnitude
  refine ⟨if x.negative && !x.isNaN then ['-'] else [], whole, fraction, exponent, ?_, ?_, hparts⟩
  · rw [Binary64.Layout.text, htext]
  · split_ifs
    · exact .inr rfl
    · exact .inl rfl

/-! ### Tokens -/

/-- The literal that a text begins with. -/
def literalOf (cs : List Char) : Literal :=
  ((readLiteral cs).map Prod.fst).getD default

/-- A literal begins with a sign or a digit. -/
theorem IsNumber.exists_cons {cs : List Char} (h : IsNumber cs) :
    ∃ first rest, cs = first :: rest ∧ (first = '-' ∨ isAsciiDigit first = true) := by
  obtain ⟨sign, whole, fraction, exponent, rfl, hsign, hwhole, -⟩ := h
  rcases hsign with rfl | rfl
  · rcases hwhole with rfl | ⟨first, digits, rfl, -, hall⟩
    · exact ⟨'0', _, rfl, .inr (by decide)⟩
    · exact ⟨first, _, rfl, .inr (hall first List.mem_cons_self)⟩
  · exact ⟨'-', _, rfl, .inl rfl⟩

/-- Where a sign or a digit stands, a literal is read. -/
theorem readToken_cons {c : Char} (h : c = '-' ∨ isAsciiDigit c = true) (cs : List Char) :
    readToken (c :: cs) = (readLiteral (c :: cs)).map fun (literal, rest) =>
      (.scalar (.number literal), rest) := by
  have hne : c ∉ ['"', 't', 'f', 'n', '[', ']', '\x7b', '\x7d', ',', ':'] := by
    intro hc
    have hall : ['"', 't', 'f', 'n', '[', ']', '\x7b', '\x7d', ',', ':'].all
        (fun c => c != '-' && !isAsciiDigit c) = true := by decide
    have hother := List.all_eq_true.mp hall c hc
    rcases h with rfl | hdigit
    · exact absurd hother (by decide)
    · exact absurd hother (by simp [hdigit])
  simp only [List.mem_cons, List.not_mem_nil, or_false, not_or] at hne
  simp [readToken, isMark, hne]

/-- A literal is read as what it is. -/
theorem IsNumber.readToken {cs rest : List Char} (h : IsNumber cs) (hrest : EndsNumber rest) :
    readToken (cs ++ rest) = some (.scalar (.number (literalOf cs)), rest) := by
  obtain ⟨l, hread⟩ := h.exists_readLiteral
  have hl : literalOf cs = l := by
    have hself := hread [] endsNumber_nil
    rw [List.append_nil] at hself
    rw [literalOf, hself]
    rfl
  have hcs := hread rest hrest
  obtain ⟨first, more, rfl, hfirst⟩ := h.exists_cons
  rw [List.cons_append] at hcs ⊢
  rw [readToken_cons hfirst, hcs, hl]
  rfl

/-! ### Values

A value is computed from at most 64 bits of digits, and what is beyond the finite range has none.
So every value of a literal is finite.
-/

namespace Literal

open Binary64 (ofPower divMagnitude)

/-- The digits that are collected fit. -/
theorem push?_le {significand next : Nat} {digit : Char} (h : push? significand digit = some next) :
    next ≤ greatest := by
  rw [push?] at h
  split_ifs at h with hfits
  obtain rfl := Option.some.inj h
  exact hfits

-- Unfolding the difference of characters in `push?` would not end.
seal push? in
theorem collectWhole_cons (significand : Nat) (digit : Char) (digits : List Char) :
    collectWhole significand (digit :: digits) =
      match push? significand digit with
      | some next => collectWhole next digits
      | none => (significand, (digit :: digits).length) := rfl

seal push? in
theorem collectFraction_cons (significand taken : Nat) (digit : Char) (digits : List Char) :
    collectFraction significand taken (digit :: digits) =
      match push? significand digit with
      | some next => collectFraction next (taken + 1) digits
      | none => (significand, taken) := rfl

theorem collectWhole_le {significand : Nat} (h : significand ≤ greatest) (digits : List Char) :
    (collectWhole significand digits).1 ≤ greatest := by
  induction digits generalizing significand with
  | nil => exact h
  | cons digit digits ih =>
    rw [collectWhole_cons]
    split
    · rename_i next hnext
      exact ih (push?_le hnext)
    · exact h

theorem collectFraction_le {significand : Nat} (h : significand ≤ greatest) (taken : Nat)
    (digits : List Char) : (collectFraction significand taken digits).1 ≤ greatest := by
  induction digits generalizing significand taken with
  | nil => exact h
  | cons digit digits ih =>
    rw [collectFraction_cons]
    split
    · rename_i next hnext
      exact ih (push?_le hnext) (taken + 1)
    · exact h

/-- A division by powers of ten does not lead beyond a power of two. -/
theorem scaleDown_le {magnitude bits : Nat} (hbits : 52 ≤ bits) (h : magnitude ≤ ofPower bits)
    (power : Nat) : scaleDown magnitude power ≤ ofPower bits := by
  have hstep {magnitude : Nat} (h : magnitude ≤ ofPower bits) (places : Nat) :
      divMagnitude magnitude (Binary64.nearest (10 ^ places) 1) ≤ ofPower bits :=
    Binary64.divMagnitude_le hbits h
      (Binary64.unitsPerOne_le_units_nearest (Nat.pow_pos (by decide)))
  induction power using Nat.strong_induction_on generalizing magnitude with
  | h power ih =>
    rw [scaleDown]
    split_ifs with hpower hzero
    · exact hstep h power
    · exact Nat.zero_le _
    · exact ih (power - 308) (by omega) (hstep h 308)

/-- What is scaled is finite. -/
theorem scaled?_lt {significand magnitude : Nat} {power : Int} (hfits : significand ≤ greatest)
    (h : scaled? significand power = some magnitude) : magnitude < Binary64.infinite := by
  have hbound : Binary64.nearest significand 1 ≤ ofPower (64 + 1074) :=
    Binary64.nearest_le (hfits.trans (by decide))
  have hfinite : ofPower (64 + 1074) < Binary64.infinite := Binary64.ofPower_lt_infinite (by decide)
  rw [scaled?] at h
  dsimp only at h
  split_ifs at h with hzero hnegative hrange hproduct
  · obtain rfl := Option.some.inj h
    decide
  · obtain rfl := Option.some.inj h
    exact (scaleDown_le (by decide) hbound _).trans_lt hfinite
  · obtain rfl := Option.some.inj h
    exact hproduct

/-- The floating point value of a literal is finite. -/
theorem exists_isFinite_of_float? {l : Literal} {v : Json} (h : l.float? = some v) :
    ∃ x, v = .float x ∧ x.isFinite = true := by
  obtain ⟨magnitude, hscaled, rfl⟩ := Option.map_eq_some_iff.mp h
  have hwhole := collectWhole_le (Nat.zero_le greatest) l.whole
  have hdigits := collectFraction_le hwhole 0 (l.fraction.getD [])
  exact ⟨_, rfl, decide_eq_true (scaled?_lt hdigits hscaled)⟩

/-- The value of a literal is an integer of at most 64 bits or a finite number. -/
theorem isInt_or_isFinite_of_value? {l : Literal} {v : Json} (h : l.value? = some v) :
    (∃ n : Int, v = .int n ∧ n.natAbs ≤ 2 ^ 64) ∨ ∃ x, v = .float x ∧ x.isFinite = true := by
  have hwhole : (collectWhole 0 l.whole).1 ≤ 2 ^ 64 :=
    (collectWhole_le (Nat.zero_le greatest) l.whole).trans (by decide)
  rw [value?] at h
  dsimp only at h
  split_ifs at h with hplain hpositive hrange
  · exact .inr (exists_isFinite_of_float? h)
  · obtain rfl := Option.some.inj h
    exact .inl ⟨_, rfl, hwhole⟩
  · exact .inr (exists_isFinite_of_float? h)
  · obtain rfl := Option.some.inj h
    exact .inl ⟨_, rfl, by rwa [Int.natAbs_neg]⟩

end Literal

end Json

end PageMarkup
