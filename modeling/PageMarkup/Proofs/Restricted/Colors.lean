import Mathlib.Data.List.Infix
import PageMarkup.Proofs.Html.Noise
import PageMarkup.Proofs.Restricted.NormalForm
import PageMarkup.Proofs.Text.Apart

/-!
# The shape of allowed colors

A color function is the name of the function, the arguments in parentheses and nothing else, and its
arguments are written with few characters.  From this follows what a color can be made of: it has
both parentheses or neither, it never holds a link, and where blanks cut it, no part of it is a
color.
-/

namespace PageMarkup

open Text

namespace Restricted

variable {cs rest : List Char}

/-! ### Arguments -/

/-- A character that the arguments of a color function can be written with. -/
def isArgumentChar (c : Char) : Bool :=
  isDigit c || isBlank c || "-.%,/deg".toList.contains c

/-- What follows some characters that arguments can be written with. -/
def FollowsArguments (cs rest : List Char) : Prop :=
  ∃ part, cs = part ++ rest ∧ ∀ c ∈ part, isArgumentChar c = true

theorem FollowsArguments.refl (cs : List Char) : FollowsArguments cs cs :=
  ⟨[], rfl, fun _ hc => absurd hc List.not_mem_nil⟩

theorem FollowsArguments.trans {more : List Char} (h : FollowsArguments cs more)
    (hmore : FollowsArguments more rest) : FollowsArguments cs rest := by
  obtain ⟨part, rfl, hpart⟩ := h
  obtain ⟨next, rfl, hnext⟩ := hmore
  refine ⟨part ++ next, (List.append_assoc part next rest).symm, fun c hc => ?_⟩
  rcases List.mem_append.mp hc with hc | hc
  · exact hpart c hc
  · exact hnext c hc

theorem FollowsArguments.cons {c : Char} (hc : isArgumentChar c = true)
    (h : FollowsArguments cs rest) : FollowsArguments (c :: cs) rest :=
  FollowsArguments.trans ⟨[c], rfl, by simpa using hc⟩ h

theorem followsArguments_trimStart (cs : List Char) : FollowsArguments cs (trimStart cs) := by
  obtain ⟨blanks, hblanks, hcs⟩ := exists_append_trimStart cs
  refine ⟨blanks, hcs, fun c hc => ?_⟩
  have hblank : isBlank c = true := List.all_eq_true.mp hblanks c hc
  simp [isArgumentChar, hblank]

theorem followsArguments_of_mem_afterDigits {most : Nat} (h : rest ∈ afterDigits most cs) :
    FollowsArguments cs rest := by
  induction most generalizing cs with
  | zero => exact absurd h List.not_mem_nil
  | succ most ih =>
    cases cs with
    | nil => exact absurd h List.not_mem_nil
    | cons c cs =>
      rw [afterDigits] at h
      split at h
      · rename_i hdigit
        have hc : isArgumentChar c = true := by simp [isArgumentChar, hdigit]
        rcases List.mem_cons.mp h with rfl | h
        · exact (FollowsArguments.refl rest).cons hc
        · exact (ih h).cons hc
      · exact absurd h List.not_mem_nil

theorem followsArguments_of_mem_afterFraction (h : rest ∈ afterFraction cs) :
    FollowsArguments cs rest := by
  unfold afterFraction at h
  split at h
  · rename_i digits
    rcases List.mem_cons.mp h with rfl | h
    · exact .refl _
    · exact (followsArguments_of_mem_afterDigits h).cons (by decide)
  · obtain rfl := List.mem_singleton.mp h
    exact .refl _

section

variable {units : List String}

theorem followsArguments_of_mem_afterUnit
    (hunits : (units.all fun unit => unit.toList.all isArgumentChar) = true)
    (h : rest ∈ afterUnit units cs) : FollowsArguments cs rest := by
  rcases List.mem_cons.mp h with rfl | h
  · exact .refl _
  · obtain ⟨unit, hunit, hrest⟩ := List.mem_filterMap.mp h
    exact ⟨unit.toList, after?_eq_some_iff.mp hrest,
      List.all_eq_true.mp (List.all_eq_true.mp hunits unit hunit)⟩

theorem followsArguments_of_mem_afterArgument
    (hunits : (units.all fun unit => unit.toList.all isArgumentChar) = true)
    (h : rest ∈ afterArgument units cs) : FollowsArguments cs rest := by
  simp only [afterArgument, List.mem_flatMap] at h
  obtain ⟨number, ⟨whole, hwhole, hnumber⟩, hrest⟩ := h
  have hdigits := ((followsArguments_of_mem_afterDigits hwhole).trans
    (followsArguments_of_mem_afterFraction hnumber)).trans
      (followsArguments_of_mem_afterUnit hunits hrest)
  split at hdigits
  · exact hdigits.cons (by decide)
  · exact hdigits

end

theorem followsArguments_afterSeparator (cs : List Char) :
    FollowsArguments cs (afterSeparator cs) := by
  have hblanks := followsArguments_trimStart cs
  unfold afterSeparator
  split
  · rename_i rest hcomma
    rw [hcomma] at hblanks
    exact hblanks.trans ((followsArguments_trimStart rest).cons (by decide))
  · rename_i rest hslash
    rw [hslash] at hblanks
    exact hblanks.trans ((followsArguments_trimStart rest).cons (by decide))
  · exact hblanks

theorem followsArguments_of_mem_afterNextArgument (h : rest ∈ afterNextArgument cs) :
    FollowsArguments cs rest :=
  (followsArguments_afterSeparator cs).trans
    (followsArguments_of_mem_afterArgument (by decide) h)

/-! ### Color functions -/

/-- The text is the name of a color function, in any case, with arguments in parentheses. -/
structure IsCall (cs word inner : List Char) : Prop where
  name : ∃ name ∈ colorFunctions, word.map fold = name.toList
  spelled : cs = word ++ '(' :: (inner ++ [')'])
  arguments : ∀ c ∈ inner, isArgumentChar c = true

/-- A color function is a call. -/
theorem exists_isCall (h : isFunctionalColor cs = true) : ∃ word inner, IsCall cs word inner := by
  simp only [isFunctionalColor, Bool.or_eq_true, List.any_eq_true, beq_iff_eq] at h
  have hthree : ∀ rest, rest ∈ (((afterColorFunction cs).flatMap (fun rest =>
      afterArgument ["deg", "%"] (trimStart rest))).flatMap afterNextArgument).flatMap
        afterNextArgument →
      ∃ opened ∈ afterColorFunction cs, FollowsArguments opened rest := by
    intro rest hrest
    simp only [List.mem_flatMap] at hrest
    obtain ⟨second, ⟨first, ⟨opened, hopened, hfirst⟩, hsecond⟩, hthird⟩ := hrest
    exact ⟨opened, hopened, (((followsArguments_trimStart opened).trans
      (followsArguments_of_mem_afterArgument (by decide) hfirst)).trans
        (followsArguments_of_mem_afterNextArgument hsecond)).trans
          (followsArguments_of_mem_afterNextArgument hthird)⟩
  -- a fourth argument may follow the three
  obtain ⟨opened, hopened, rest, hrest, hend⟩ : ∃ opened ∈ afterColorFunction cs,
      ∃ rest, FollowsArguments opened rest ∧ trimStart rest = [')'] := by
    rcases h with ⟨rest, hrest, hend⟩ | ⟨rest, hrest, hend⟩
    · obtain ⟨opened, hopened, hfollows⟩ := hthree rest hrest
      exact ⟨opened, hopened, rest, hfollows, hend⟩
    · obtain ⟨third, hthird, hfourth⟩ := List.mem_flatMap.mp hrest
      obtain ⟨opened, hopened, hfollows⟩ := hthree third hthird
      exact ⟨opened, hopened, rest,
        hfollows.trans (followsArguments_of_mem_afterNextArgument hfourth), hend⟩
  obtain ⟨inner, rfl, hinner⟩ := hrest.trans (hend ▸ followsArguments_trimStart rest)
  obtain ⟨name, hname, hopen⟩ := List.mem_filterMap.mp hopened
  obtain ⟨mark, hmark, hcs⟩ := Html.afterFolded?_eq_some_iff.mp hopen
  have hparens : (name ++ "(").toList = name.toList ++ ['('] := String.toList_append
  rw [hparens] at hmark
  obtain ⟨word, paren, rfl, hword, hparen⟩ := List.map_eq_append_iff.mp hmark
  obtain ⟨c, rfl, hc⟩ := List.map_eq_singleton_iff.mp hparen
  obtain rfl := eq_of_fold_eq hc (by decide)
  exact ⟨word, inner, ⟨name, hname, hword⟩, by rw [hcs]; simp, hinner⟩

namespace IsCall

variable {word inner : List Char}

/-- The name is written with letters. -/
theorem isSmallLetter_fold (h : IsCall cs word inner) {c : Char} (hc : c ∈ word) :
    isSmallLetter (fold c) = true := by
  have hnames : ∀ name ∈ colorFunctions, name.toList.all isSmallLetter = true := by decide
  obtain ⟨name, hname, hword⟩ := h.name
  exact List.all_eq_true.mp (hnames name hname) _ (hword ▸ List.mem_map_of_mem hc)

/-- What does not fold to a letter is not in the name. -/
theorem notMem_word (h : IsCall cs word inner) {c : Char} (hc : isSmallLetter (fold c) = false) :
    c ∉ word := by
  intro hmem
  rw [h.isSmallLetter_fold hmem] at hc
  exact absurd hc (by decide)

/-- The name has no blanks. -/
theorem isBlank_eq_false (h : IsCall cs word inner) {c : Char} (hc : c ∈ word) :
    isBlank c = false := by
  by_contra hblank
  have hblank : isBlank c = true := by simpa using hblank
  have hletter := isSmallLetter_iff.mp (h.isSmallLetter_fold hc)
  rw [fold_eq_self_of_isBlank hblank] at hletter
  simp only [isBlank, Bool.or_eq_true, Bool.and_eq_true, decide_eq_true_eq, beq_iff_eq] at hblank
  omega

/-- The closing parenthesis is no argument. -/
theorem notMem_inner {paren : Char} (h : IsCall cs word inner)
    (hparen : isArgumentChar paren = false) : paren ∉ inner := by
  intro hmem
  rw [h.arguments paren hmem] at hparen
  exact absurd hparen (by decide)

/-- The name does not end as the mark of a link. -/
theorem not_url_suffix (h : IsCall cs word inner) : ¬ "url".toList <:+ word.map fold := by
  have hnames : ∀ name ∈ colorFunctions, ¬ "url".toList <:+ name.toList := by decide
  obtain ⟨name, hname, hword⟩ := h.name
  rw [hword]
  exact hnames name hname

end IsCall

/-! ### What colors are made of -/

/-- What arguments are written with, apart from digits and blanks. -/
theorem mem_or_of_isArgumentChar {c : Char} (h : isArgumentChar c = true) :
    (c.toNat < 65 ∨ 122 < c.toNat) ∨ c ∈ "-.%,/deg".toList := by
  simp only [isArgumentChar, Bool.or_eq_true, isDigit, isBlank, Bool.and_eq_true,
    decide_eq_true_eq, beq_iff_eq, List.contains_iff_mem, isAsciiDigit_iff] at h
  rcases h with (h | h) | h
  · exact .inl (by omega)
  · exact .inl (by omega)
  · exact .inr h

/-- Arguments are written without capitals. -/
theorem isArgumentChar_bounds {c : Char} (h : isArgumentChar c = true) :
    c.toNat < 65 ∨ 90 < c.toNat := by
  have hletters : ("-.%,/deg".toList.all fun c =>
      decide (c.toNat < 65 ∨ 90 < c.toNat)) = true := by
    decide
  rcases mem_or_of_isArgumentChar h with h | h
  · omega
  · exact of_decide_eq_true (List.all_eq_true.mp hletters c h)

/-- Of the small letters arguments are written with those of `deg` only. -/
theorem mem_of_isArgumentChar {c : Char} (h : isArgumentChar c = true)
    (hletter : isSmallLetter c = true) : c ∈ ['d', 'e', 'g'] := by
  have hbounds := isSmallLetter_iff.mp hletter
  have hletters : ("-.%,/deg".toList.all fun c =>
      !isSmallLetter c || ['d', 'e', 'g'].contains c) = true := by
    decide
  rcases mem_or_of_isArgumentChar h with h | h
  · omega
  · simpa [hletter] using List.all_eq_true.mp hletters c h

/-- A digit in base sixteen as a number. -/
theorem isHexDigit_iff {c : Char} : isHexDigit c = true ↔ (48 ≤ c.toNat ∧ c.toNat ≤ 57) ∨
    (97 ≤ c.toNat ∧ c.toNat ≤ 102) ∨ (65 ≤ c.toNat ∧ c.toNat ≤ 70) := by
  simp only [isHexDigit, Bool.or_eq_true, Bool.and_eq_true, decide_eq_true_eq, isAsciiDigit_iff,
    or_assoc]
  rfl

/-- The text is written without parentheses and blanks, and not with the characters of arguments
alone. -/
structure IsPlainColor (cs : List Char) : Prop where
  opening : '(' ∉ cs
  closing : ')' ∉ cs
  unblank : ∀ c ∈ cs, isBlank c = false
  distinct : ∃ c ∈ cs, isArgumentChar c = false

theorem isPlainColor_of_isNamedColor (h : isNamedColor cs = true) : IsPlainColor cs := by
  have hnames : ∀ name ∈ colorNames, '(' ∉ name.toList ∧ ')' ∉ name.toList ∧
      name.toList.any isBlank = false ∧ (name.toList.any fun c =>
        isSmallLetter c && !(['d', 'e', 'g'].contains c)) = true := by decide
  obtain ⟨hopen, hclose, hblank, hdistinct⟩ := hnames _ (List.contains_iff_mem.mp h)
  obtain ⟨c, hc, hfree⟩ := List.any_eq_true.mp hdistinct
  obtain ⟨hletter, hother⟩ := Bool.and_eq_true_iff.mp hfree
  rw [String.toList_ofList] at hopen hclose hblank hc
  have hlower {c : Char} (hc : c ∈ cs) : c.toLower ∈ lower cs := List.mem_map_of_mem hc
  refine ⟨fun hmem => hopen (hlower hmem), fun hmem => hclose (hlower hmem), fun d hd => ?_, ?_⟩
  · by_contra hne
    have hd' := List.any_eq_false.mp hblank _ (hlower hd)
    have hbounds : d.toNat < 65 ∨ 90 < d.toNat := by
      simp only [Bool.not_eq_false, isBlank, Bool.or_eq_true, Bool.and_eq_true,
        decide_eq_true_eq, beq_iff_eq] at hne
      omega
    rw [toLower_eq_self hbounds] at hd'
    exact hne (Bool.eq_false_iff.mpr hd')
  · obtain ⟨d, hd, rfl⟩ := List.mem_map.mp hc
    refine ⟨d, hd, ?_⟩
    by_contra harg
    have harg : isArgumentChar d = true := by simpa using harg
    rw [toLower_eq_self (isArgumentChar_bounds harg)] at hletter hother
    rw [List.contains_iff_mem.mpr (mem_of_isArgumentChar harg hletter)] at hother
    exact absurd hother (by decide)

theorem isPlainColor_of_isHexColor (h : isHexColor cs = true) : IsPlainColor cs := by
  unfold isHexColor at h
  split at h
  · rename_i digits
    have hdigits : ∀ c ∈ digits, isHexDigit c = true :=
      List.all_eq_true.mp (Bool.and_eq_true_iff.mp h).2
    have hnone {c : Char} (hsign : c ≠ '#') (hc : isHexDigit c = false) : c ∉ '#' :: digits := by
      intro hmem
      rw [hdigits c (List.mem_of_ne_of_mem hsign hmem)] at hc
      exact absurd hc (by decide)
    refine ⟨hnone (by decide) (by decide), hnone (by decide) (by decide), fun c hc => ?_,
      '#', List.mem_cons_self, by decide⟩
    rcases List.mem_cons.mp hc with rfl | hc
    · decide
    · have hdigit := isHexDigit_iff.mp (hdigits c hc)
      simp only [isBlank, Bool.or_eq_false_iff, Bool.and_eq_false_iff, decide_eq_false_iff_not,
        beq_eq_false_iff_ne]
      omega
  · exact absurd h (by decide)

/-- What is allowed unchanged as a color is a color function, or a name or digits. -/
theorem call_or_isPlainColor (h : allowColor cs = some cs) :
    (∃ word inner, IsCall cs word inner) ∨ IsPlainColor cs := by
  obtain ⟨-, hcheck⟩ := trimmed_check
    (fun value => isNamedColor value || isHexColor value || isFunctionalColor value) h
  simp only [Bool.or_eq_true] at hcheck
  rcases hcheck with (hnamed | hhex) | hfunctional
  · exact .inr (isPlainColor_of_isNamedColor hnamed)
  · exact .inr (isPlainColor_of_isHexColor hhex)
  · exact .inl (exists_isCall hfunctional)

/-! ### Colors and links -/

/-- A link begins somewhere in the text. -/
def HoldsUrl (cs : List Char) : Prop :=
  ∃ back ∈ cs.tails, (afterFolded? "url(".toList back).isSome = true

instance (cs : List Char) : Decidable (HoldsUrl cs) :=
  List.decidableBEx _ cs.tails

theorem holdsUrl_iff : HoldsUrl cs ↔
    ∃ front mark back, cs = front ++ (mark ++ '(' :: back) ∧ mark.map fold = "url".toList := by
  have hurl : "url(".toList = "url".toList ++ ['('] := rfl
  constructor
  · rintro ⟨tail, htail, hmark⟩
    obtain ⟨front, rfl⟩ := (List.mem_tails _ _).mp htail
    obtain ⟨back, hback⟩ := Option.isSome_iff_exists.mp hmark
    obtain ⟨word, hword, rfl⟩ := Html.afterFolded?_eq_some_iff.mp hback
    rw [hurl] at hword
    obtain ⟨mark, paren, rfl, hname, hparen⟩ := List.map_eq_append_iff.mp hword
    obtain ⟨c, rfl, hc⟩ := List.map_eq_singleton_iff.mp hparen
    obtain rfl := eq_of_fold_eq hc (by decide)
    exact ⟨front, mark, back, by simp, hname⟩
  · rintro ⟨front, mark, back, rfl, hmark⟩
    refine ⟨mark ++ '(' :: back, (List.mem_tails _ _).mpr (List.suffix_append _ _), ?_⟩
    refine Option.isSome_iff_exists.mpr ⟨back, Html.afterFolded?_eq_some_iff.mpr
      ⟨mark ++ ['('], ?_, by simp⟩⟩
    rw [List.map_append, hmark]
    rfl

/-- No link begins in a color. -/
theorem not_holdsUrl_of_allowColor (h : allowColor cs = some cs) : ¬ HoldsUrl cs := by
  rw [holdsUrl_iff]
  rintro ⟨front, mark, back, hcs, hmark⟩
  have hopen : '(' ∈ cs := by
    rw [hcs]
    simp
  rcases call_or_isPlainColor h with ⟨word, inner, hcall⟩ | hplain
  · have hinner : '(' ∉ inner ++ [')'] := by
      intro hmem
      rcases List.mem_append.mp hmem with hmem | hmem
      · exact hcall.notMem_inner (by decide) hmem
      · exact absurd hmem (by decide)
    have hsame : word ++ '(' :: (inner ++ [')']) = (front ++ mark) ++ '(' :: back := by
      rw [← hcall.spelled, hcs, List.append_assoc]
    obtain ⟨rfl, -, -⟩ := (List.append_cons_inj_of_notMem (hcall.notMem_word (by decide))
      hinner).mp hsame
    refine hcall.not_url_suffix ⟨front.map fold, ?_⟩
    rw [List.map_append, hmark]
  · exact hplain.opening hopen

/-- Where no link begins, none begins either with more behind a blank. -/
theorem misses_of_not_holdsUrl {front rest : List Char} (h : ¬ HoldsUrl front)
    (hborder : EndsApart front ∨ BeginsApart rest) :
    Misses (afterFolded? "url(".toList) front rest := by
  refine misses_afterFolded?_of_border (by decide) hborder fun before c after hfront => ?_
  by_contra hsome
  rw [List.append_nil] at hsome
  exact h ⟨c :: after, (List.mem_tails _ _).mpr ⟨before, hfront.symm⟩,
    Option.isSome_iff_ne_none.mpr hsome⟩

/-- Nothing that is put together at blanks holds a link if its parts hold none. -/
theorem not_holdsUrl_append {front rest : List Char} (hfront : ¬ HoldsUrl front)
    (hrest : ¬ HoldsUrl rest) (hborder : EndsApart front ∨ BeginsApart rest) :
    ¬ HoldsUrl (front ++ rest) := by
  have hmisses : Misses (afterFolded? "url(".toList) (front ++ rest) [] := by
    refine Misses.append ?_ (misses_of_not_holdsUrl hrest (.inr fun c hc => absurd hc (by simp)))
    rw [List.append_nil]
    exact misses_of_not_holdsUrl hfront hborder
  rintro ⟨back, hback, hsome⟩
  obtain ⟨before, hwhole⟩ := (List.mem_tails _ _).mp hback
  cases back with
  | nil => exact absurd hsome (by decide)
  | cons c after =>
    have hnone := hmisses before c after hwhole.symm
    rw [List.append_nil] at hnone
    rw [hnone] at hsome
    exact absurd hsome (by decide)

/-- A part at the end of a text holds a link only if the text holds one. -/
theorem HoldsUrl.of_suffix {part : List Char} (h : HoldsUrl part) (hpart : part <:+ cs) :
    HoldsUrl cs := by
  obtain ⟨back, hback, hsome⟩ := h
  exact ⟨back, (List.mem_tails _ _).mpr (((List.mem_tails _ _).mp hback).trans hpart), hsome⟩

/-- A part at the beginning of a text holds a link only if the text holds one. -/
theorem HoldsUrl.of_prefix {part : List Char} (h : HoldsUrl part) (hpart : part <+: cs) :
    HoldsUrl cs := by
  obtain ⟨rest, rfl⟩ := hpart
  obtain ⟨front, mark, back, rfl, hmark⟩ := holdsUrl_iff.mp h
  exact holdsUrl_iff.mpr ⟨front, mark, back ++ rest, by simp, hmark⟩

/-! ### Colors and blanks -/

/-- Where blanks stand among the arguments, each word of a call has the first parenthesis without
the second one, or is written with the characters of arguments up to it. -/
theorem IsCall.forall_words {word inner : List Char} (h : IsCall cs word inner)
    (hblank : ∃ c ∈ inner, isBlank c = true) : ∀ part ∈ words cs,
      ('(' ∈ part ∧ ')' ∉ part) ∨ ∀ c ∈ part, c = ')' ∨ isArgumentChar c = true := by
  obtain ⟨c, hfind⟩ := Option.isSome_iff_exists.mp (List.find?_isSome.mpr hblank)
  obtain ⟨hc, first, more, rfl, hfirst⟩ := List.find?_eq_some_iff_append.mp hfind
  have hcs : cs = (word ++ '(' :: first) ++ c :: (more ++ [')']) := by simp [h.spelled]
  have hopened : ∀ d ∈ word ++ '(' :: first, isBlank d = false := by
    intro d hd
    rcases List.mem_append.mp hd with hd | hd
    · exact h.isBlank_eq_false hd
    · rcases List.mem_cons.mp hd with rfl | hd
      · decide
      · simpa using hfirst d hd
  intro part hpart
  have hpiece := (List.mem_filter.mp hpart).1
  rw [hcs, splitWhere_append_cons hopened hc] at hpiece
  rcases List.mem_cons.mp hpiece with rfl | hpiece
  · have hname := h.notMem_word (c := ')') (by decide)
    have hinner : ')' ∉ first ++ c :: more := h.notMem_inner (by decide)
    have hfirst : ')' ∉ first := fun hmem => hinner (List.mem_append_left _ hmem)
    exact .inl ⟨by simp, by simp [hname, hfirst]⟩
  · refine .inr fun d hd => ?_
    rcases List.mem_append.mp (mem_of_mem_splitWhere hpiece hd) with hd | hd
    · exact .inr (h.arguments d (by simp [hd]))
    · exact .inl (List.mem_singleton.mp hd)

/-- What is allowed as a color is the text without the blanks around it. -/
theorem trim_eq_of_allowColor {value : List Char} (h : allowColor cs = some value) :
    trim cs = value := by
  simp only [allowColor] at h
  split at h
  · exact Option.some.inj h
  · exact absurd h (by simp)

/-- No word of a color with blanks is a color. -/
theorem allowColor_eq_none_of_mem_words (h : allowColor cs = some cs)
    (hblank : ∃ c ∈ cs, isBlank c = true) {part : List Char} (hpart : part ∈ words cs) :
    allowColor part = none := by
  obtain ⟨c, hc, hblank⟩ := hblank
  rcases call_or_isPlainColor h with ⟨word, inner, hcall⟩ | hplain
  · have hinner : c ∈ inner := by
      rw [hcall.spelled, List.mem_append, List.mem_cons, List.mem_append, List.mem_singleton] at hc
      rcases hc with hc | rfl | hc | rfl
      · rw [hcall.isBlank_eq_false hc] at hblank
        exact absurd hblank (by decide)
      · exact absurd hblank (by decide)
      · exact hc
      · exact absurd hblank (by decide)
    by_contra hne
    obtain ⟨value, hvalue⟩ := Option.ne_none_iff_exists'.mp hne
    obtain rfl : part = value := by
      have hword := (isWord_of_mem_words hpart).2
      have htrimmed : IsTrimmed part := ⟨fun d hd => hword d (List.mem_of_mem_head? hd),
        fun d hd => hword d (List.mem_of_getLast? hd)⟩
      rw [← trim_eq_of_allowColor hvalue, htrimmed.trim_eq]
    -- A color has both parentheses or neither, a word of the call at most one of them.
    rcases hcall.forall_words ⟨c, hinner, hblank⟩ part hpart with ⟨hopen, hclose⟩ | harguments
    · rcases call_or_isPlainColor hvalue with ⟨name, more, hinside⟩ | hplain
      · exact hclose (by simp [hinside.spelled])
      · exact hplain.opening hopen
    · rcases call_or_isPlainColor hvalue with ⟨name, more, hinside⟩ | hplain
      · exact absurd (harguments '(' (by simp [hinside.spelled])) (by decide)
      · obtain ⟨d, hd, hother⟩ := hplain.distinct
        rcases harguments d hd with rfl | harg
        · exact hplain.closing hd
        · rw [harg] at hother
          exact absurd hother (by decide)
  · rw [hplain.unblank c hc] at hblank
    exact absurd hblank (by decide)

end Restricted

end PageMarkup
