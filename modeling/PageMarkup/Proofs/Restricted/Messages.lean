import Mathlib.Data.Nat.Digits.Defs
import PageMarkup.Proofs.Clip
import PageMarkup.Proofs.Filter
import PageMarkup.Proofs.Markup.Size
import PageMarkup.Proofs.Text.Apart

/-!
# How long the messages about values are

The message about a value that is changed shows the value that was given, cut at the limit of the
journal, and in full the form in which it is kept.  So it is short as long as that form is: always
for keywords and levels, up to the size of the longest link for links, but lengths and colors may
have any number of digits and blanks, and then the message has them too.
-/

namespace PageMarkup

open Text

namespace Clip

/-- Digits take one byte each. -/
theorem size_toString_le {n e : Nat} (he : 0 < e) (h : n < 10 ^ e) :
    size (toString n).toList ≤ e := by
  have hsize (cs : List Char) (hcs : ∀ c ∈ cs, c.isDigit = true) : size cs = cs.length := by
    induction cs with
    | nil => rfl
    | cons c cs ih =>
      have hrest := ih fun d hd => hcs d (List.mem_cons_of_mem c hd)
      have hdigit := hcs c List.mem_cons_self
      have hone : c.utf8Size = 1 := by
        rw [Char.isDigit, Bool.and_eq_true, decide_eq_true_eq, decide_eq_true_eq] at hdigit
        exact Char.utf8Size_eq_one_iff.mpr (UInt32.le_trans hdigit.2 (by decide))
      rw [size_cons, hone, hrest, List.length_cons, Nat.add_comm]
  have htext : (toString n).toList = Nat.toDigits 10 n := Nat.toList_repr
  rw [htext, hsize _ fun c hc => Nat.isDigit_of_mem_toDigits (by decide) (by decide) hc]
  exact Nat.toDigits_length 10 n e he h

/-- A text that is cut takes little more than the limit. -/
theorem size_text_le (limit : Nat) {s : String} (h : size s.toList < 2 ^ 64) :
    size (text limit s).toList ≤ limit + 41 := by
  rw [text]
  dsimp only
  split
  · omega
  · have hkept := (isLongest_fit limit s.toList).fits
    have hgone : size (toString (size s.toList - size (fit limit s.toList))).toList ≤ 20 :=
      size_toString_le (by decide) (by omega)
    have hfront : size "…[truncated ".toList = 14 := by decide
    have hback : size " bytes]".toList = 7 := by decide
    simp only [String.toList_append, size_append, String.toList_ofList, hfront, hback]
    omega

end Clip

namespace Restricted

variable {target : Restricted}

/-! ### How long the forms are in which values are kept -/

/-- The greatest size of the forms in which values are kept, if there is one. -/
def greatestForm? : Restricted → Option Nat
  | align | level | style => some 9
  | href | src | bgImage => some greatestLink
  | bgColor | color | padding | margin | height => none

/-- A keyword that is kept is one of the list. -/
theorem mem_of_allowKeyword {keywords : List String} {cs value : List Char}
    (h : allowKeyword keywords cs = some value) : String.ofList value ∈ keywords := by
  simp only [allowKeyword] at h
  split at h
  · rename_i hmem
    obtain rfl := Option.some.inj h
    exact List.contains_iff_mem.mp hmem
  · exact absurd h (by simp)

/-- A keyword that is kept is no longer than those of the list. -/
theorem size_le_of_allowKeyword {keywords : List String} {cs value : List Char} {greatest : Nat}
    (hkeywords : ∀ keyword ∈ keywords, size keyword.toList ≤ greatest)
    (h : allowKeyword keywords cs = some value) : size value ≤ greatest := by
  have hvalue := hkeywords _ (mem_of_allowKeyword h)
  rwa [String.toList_ofList] at hvalue

theorem size_le_of_allowChars {greatest : Nat} (hgreatest : target.greatestForm? = some greatest)
    {cs value : List Char} (h : target.allowChars cs = some value) : size value ≤ greatest := by
  have hlink {cs : List Char} (hcs : allowLink cs = some value) : size value ≤ greatestLink :=
    (allowLink_eq_some hcs).2.2.1
  cases target with
  | align =>
    obtain rfl := Option.some.inj hgreatest
    exact size_le_of_allowKeyword (by decide) h
  | style =>
    obtain rfl := Option.some.inj hgreatest
    exact size_le_of_allowKeyword (by decide) h
  | level =>
    obtain rfl := Option.some.inj hgreatest
    obtain ⟨n, hlow, hhigh, rfl⟩ := exists_of_allowLevel h
    have hcases : n = 1 ∨ n = 2 ∨ n = 3 ∨ n = 4 ∨ n = 5 ∨ n = 6 := by omega
    rcases hcases with rfl | rfl | rfl | rfl | rfl | rfl <;> decide
  | href => obtain rfl := Option.some.inj hgreatest; exact hlink h
  | src => obtain rfl := Option.some.inj hgreatest; exact hlink h
  | bgImage => obtain rfl := Option.some.inj hgreatest; exact hlink h
  | bgColor | color | padding | margin | height => exact absurd hgreatest (by simp [greatestForm?])

/-- A value with a greatest form is kept in a form that is no longer. -/
theorem size_le_of_allow {greatest : Nat} (hgreatest : target.greatestForm? = some greatest)
    {raw value : String} (h : target.allow raw = some value) : size value.toList ≤ greatest := by
  obtain ⟨cs, hcs, rfl⟩ := Option.map_eq_some_iff.mp h
  rw [String.toList_ofList]
  exact size_le_of_allowChars hgreatest hcs

/-- A blank in front of a value makes no difference to its form. -/
theorem allowChars_cons_space (target : Restricted) (cs : List Char) :
    target.allowChars (' ' :: cs) = target.allowChars cs := by
  have htrim : trim (' ' :: cs) = trim cs := by
    have hblank : allBlank [' '] = true := rfl
    exact trim_append_of_allBlank hblank cs
  have hwords : words (' ' :: cs) = words cs := words_append_space [] cs
  cases target <;>
    simp only [allowChars, allowColor, allowLengths, allowHeight, allowKeyword, allowLevel,
      allowLink, allowImage, htrim, hwords]

/-! #### Forms without a bound -/

theorem isMeasure_replicate (units : List String) (n : Nat) :
    isMeasure units (List.replicate (n + 1) '1') = true := by
  have hdigits : ∀ c ∈ List.replicate (n + 1) '1', isDigit c = true := by
    intro c hc
    obtain rfl := List.eq_of_mem_replicate hc
    decide
  have hspan : spanWhile isDigit (List.replicate (n + 1) '1' ++ []) =
      (List.replicate (n + 1) '1', []) := spanWhile_append_of_forall hdigits (by simp)
  rw [List.append_nil] at hspan
  rw [isMeasure, hspan]
  rfl

/-- Some digits are a length. -/
theorem allowLengths_replicate (signed : Bool) (n : Nat) :
    allowLengths signed (List.replicate (n + 1) '1') = some (List.replicate (n + 1) '1') := by
  have hword : IsWord (List.replicate (n + 1) '1') := by
    refine ⟨by simp, fun c hc => ?_⟩
    obtain rfl := List.eq_of_mem_replicate hc
    decide
  have hlength : isSignedLength signed (List.replicate (n + 1) '1') = true := by
    rw [List.replicate_succ, isSignedLength, isLength, ← List.replicate_succ, isMeasure_replicate,
      Bool.or_true]
    rintro rest ⟨⟩
  rw [allowLengths, words_of_isWord hword]
  simp [hlength, joinWith]

theorem allowHeight_replicate (n : Nat) :
    allowHeight (List.replicate (n + 1) '1') = some (List.replicate (n + 1) '1') := by
  have htrim : trim (List.replicate (n + 1) '1') = List.replicate (n + 1) '1' := by
    refine trim_eq_self_iff.mpr ⟨fun c hc => ?_, fun c hc => ?_⟩
    · obtain rfl := List.eq_of_mem_replicate (List.mem_of_mem_head? hc)
      decide
    · obtain rfl := List.eq_of_mem_replicate (List.mem_of_getLast? hc)
      decide
  simp [allowHeight, htrim, isMeasure_replicate]

/-- A color function may have any number of blanks before its first argument. -/
theorem allowColor_blanks (n : Nat) :
    allowColor ("rgb(".toList ++ List.replicate n ' ' ++ "1,1,1)".toList) =
      some ("rgb(".toList ++ List.replicate n ' ' ++ "1,1,1)".toList) := by
  have htrim : trim ("rgb(".toList ++ List.replicate n ' ' ++ "1,1,1)".toList) =
      "rgb(".toList ++ List.replicate n ' ' ++ "1,1,1)".toList := by
    refine trim_eq_self_iff.mpr ⟨?_, ?_⟩
    · intro c hc
      obtain rfl : 'r' = c := Option.some.inj hc
      decide
    · intro c hc
      rw [List.getLast?_append_of_ne_nil _ (by decide)] at hc
      obtain rfl : ')' = c := Option.some.inj hc
      decide
  have hfunction : afterColorFunction ("rgb(".toList ++ List.replicate n ' ' ++ "1,1,1)".toList) =
      [List.replicate n ' ' ++ "1,1,1)".toList] := rfl
  have hblank : allBlank (List.replicate n ' ') = true := by
    refine List.all_eq_true.mpr fun c hc => ?_
    obtain rfl := List.eq_of_mem_replicate hc
    decide
  have hstart : trimStart (List.replicate n ' ' ++ "1,1,1)".toList) = "1,1,1)".toList := by
    rw [trimStart_append_of_allBlank hblank]
    decide
  have hcolor : isFunctionalColor ("rgb(".toList ++ List.replicate n ' ' ++ "1,1,1)".toList) =
      true := by
    rw [isFunctionalColor, hfunction]
    simp only [List.flatMap_cons, List.flatMap_nil, hstart]
    decide
  simp only [allowColor, htrim, hcolor, Bool.or_true, if_true]
/-- A value without a greatest form may be kept in a form of any size. -/
theorem exists_allowChars (h : target.greatestForm? = none) (n : Nat) :
    ∃ value, target.allowChars value = some value ∧ n < size value := by
  have hdigits : n < size (List.replicate (n + 1) '1') := by
    have hlength := length_le_size (List.replicate (n + 1) '1')
    rw [List.length_replicate] at hlength
    omega
  have hblanks : n < size ("rgb(".toList ++ List.replicate n ' ' ++ "1,1,1)".toList) := by
    have hlength := length_le_size (List.replicate n ' ')
    have hname : size "rgb(".toList = 4 := by decide
    rw [List.length_replicate] at hlength
    rw [size_append, size_append, hname]
    omega
  cases target with
  | bgColor | color => exact ⟨_, allowColor_blanks n, hblanks⟩
  | padding => exact ⟨_, allowLengths_replicate false n, hdigits⟩
  | margin => exact ⟨_, allowLengths_replicate true n, hdigits⟩
  | height => exact ⟨_, allowHeight_replicate n, hdigits⟩
  | align | href | src | bgImage | level | style => exact absurd h (by simp [greatestForm?])

/-! ### The messages -/

/-- The size up to which a message about a value is short. -/
def shortMessage (limit : Nat) : Nat := 2 * (limit + 64) + 64

/-- What is said of a text is one message, if it is changed. -/
theorem exists_offer_of_mem {limit : Nat} {raw : String} {node : Option String} {entry : Entry}
    (h : entry ∈ (target.filterText raw node).entries limit) :
    ∃ offer : Offer, offer.target = target ∧ offer.value = .text raw ∧
      entry = offer.entry limit := by
  by_cases hblank : allBlank raw.toList = true
  · rw [filterText, if_pos hblank] at h
    exact absurd h List.not_mem_nil
  · have hpresent : (Value.text raw).isBlank = false := by simpa [Value.isBlank] using hblank
    have hentries := entries_filterValue limit ⟨node, target, .text raw, hpresent⟩
    change (target.filterText raw node).entries limit = _ at hentries
    rw [hentries, Offer.trail] at h
    obtain ⟨offer, hoffer, rfl⟩ := List.mem_map.mp h
    obtain rfl := List.mem_singleton.mp (List.mem_of_mem_filter hoffer)
    exact ⟨_, rfl, rfl, rfl⟩

theorem size_name_le (target : Restricted) : size target.name.toList ≤ 8 := by
  cases target <;> decide

/-- A message about a text that is changed holds the name of the attribute, the text as far as the
limit allows, and the whole form in which it is kept. -/
theorem message_of_mem {limit : Nat} {raw : String} {node : Option String} {entry : Entry}
    (h : entry ∈ (target.filterText raw node).entries limit) :
    entry.phase = .filter ∧
      (target.allow raw = none → size entry.message.toList = size target.name.toList + 15) ∧
      ∀ value, target.allow raw = some value → size entry.message.toList =
        size target.name.toList + 21 + size (Clip.text limit raw).toList + size value.toList := by
  obtain ⟨offer, rfl, hvalue, rfl⟩ := exists_offer_of_mem h
  have hparts : size ": '".toList = 3 ∧ size "' normalized to '".toList = 17 ∧
      size "'".toList = 1 ∧ size ": value blocked".toList = 15 := by decide
  rw [Offer.entry, Offer.message, Offer.allowed, Offer.original, hvalue]
  refine ⟨rfl, fun hallow => ?_, fun value hallow => ?_⟩
  · simp only [Value.text?, Option.bind_some, hallow, String.toList_append, size_append, hparts]
  · simp only [Value.text?, Option.bind_some, Option.getD_some, hallow, String.toList_append,
      size_append, hparts]
    omega

/-- A text that is allowed in another form leaves an entry. -/
theorem exists_mem_of_allow (limit : Nat) {raw value : String} (node : Option String)
    (h : target.allow raw = some value) (hne : value ≠ raw) :
    ∃ entry, entry ∈ (target.filterText raw node).entries limit := by
  have hblank : allBlank raw.toList = false := by
    by_contra hblank
    rw [allow, allowChars_eq_none (by simpa using hblank)] at h
    exact absurd h (by simp)
  have hentries := entries_filterValue limit ⟨node, target, .text raw, hblank⟩
  change (target.filterText raw node).entries limit = _ at hentries
  have hchanged : Offer.isChanged ⟨node, target, .text raw, hblank⟩ = true := by
    simp [Offer.isChanged, Value.text?, h, hne]
  rw [hentries, Offer.trail, List.filter_cons_of_pos hchanged]
  exact ⟨_, List.mem_cons_self⟩

/-- The message about a text is short unless the form in which the text is kept is long.  For
keywords and levels this cannot be, for links only under a small limit; lengths and colors may be
kept in forms of any size. -/
theorem size_message_filterText (target : Restricted) :
    (∀ (limit : Nat) (raw : String) (node : Option String), size raw.toList < 2 ^ 64 →
      ∀ entry ∈ (target.filterText raw node).entries limit,
        entry.phase = .filter ∧
        size entry.message.toList ≤ shortMessage limit +
          (size ((target.allow raw).getD "").toList - (limit + 64)) ∧
        ∀ greatest, target.greatestForm? = some greatest → greatest ≤ limit + 64 →
          size entry.message.toList ≤ shortMessage limit) ∧
    (target.greatestForm? = none → ∀ (limit : Nat) (node : Option String) (bound : Nat),
      ∃ raw, ∃ entry ∈ (target.filterText raw node).entries limit,
        bound < size entry.message.toList) := by
  constructor
  · intro limit raw node hraw entry hentry
    have hname := size_name_le target
    have hclip := Clip.size_text_le limit hraw
    obtain ⟨hphase, hblocked, hkept⟩ := message_of_mem hentry
    refine ⟨hphase, ?_⟩
    rw [shortMessage]
    cases hallow : target.allow raw with
    | none =>
      have hsize := hblocked hallow
      exact ⟨by omega, fun _ _ _ => by omega⟩
    | some value =>
      have hsize := hkept value hallow
      rw [Option.getD_some]
      refine ⟨by omega, fun greatest hgreatest hlimit => ?_⟩
      have hvalue := size_le_of_allow hgreatest hallow
      omega
  · intro hnone limit node bound
    -- a blank in front makes another value of it, so the change is reported with the long one in it
    obtain ⟨value, hvalue, hlong⟩ := exists_allowChars hnone bound
    have hallow : target.allow (String.ofList (' ' :: value)) = some (String.ofList value) := by
      rw [allow, String.toList_ofList, allowChars_cons_space, hvalue, Option.map_some]
    have hne : String.ofList value ≠ String.ofList (' ' :: value) := by
      intro hsame
      have hlength := congrArg (fun text : String => text.toList.length) hsame
      simp at hlength
    obtain ⟨entry, hentry⟩ := exists_mem_of_allow limit node hallow hne
    obtain ⟨-, -, hkept⟩ := message_of_mem hentry
    have hsize := hkept _ hallow
    rw [String.toList_ofList] at hsize
    exact ⟨_, entry, hentry, by omega⟩

/-! #### A padding of many digits -/

/-- A padding of `n + 1` digits with a blank in front of it. -/
def longPadding (n : Nat) : String := String.ofList (' ' :: List.replicate (n + 1) '1')

theorem size_replicate (n : Nat) : size (List.replicate n '1') = n := by
  induction n with
  | zero => rfl
  | succ n ih =>
    rw [List.replicate_succ, size_cons, ih, Nat.add_comm]
    rfl

theorem size_longPadding (n : Nat) : size (longPadding n).toList = n + 2 := by
  rw [longPadding, String.toList_ofList, size_cons, size_replicate, Nat.add_comm]
  rfl

/-- The padding is kept without the blank. -/
theorem allow_longPadding (n : Nat) :
    padding.allow (longPadding n) = some (String.ofList (List.replicate (n + 1) '1')) := by
  rw [allow, longPadding, String.toList_ofList, allowChars_cons_space, allowChars,
    allowLengths_replicate, Option.map_some]

/-- The message about the padding is longer than a short one by no more than what is kept of the
padding is longer than the limit. -/
theorem size_message_longPadding :
    size (longPadding 399).toList < 2 ^ 64 ∧
      ∀ entry ∈ (padding.filterText (longPadding 399) (some "s1")).entries 64,
        size entry.message.toList ≤ shortMessage 64 +
          (size ((padding.allow (longPadding 399)).getD "").toList - (64 + 64)) := by
  have hsize : size (longPadding 399).toList < 2 ^ 64 := by
    rw [size_longPadding]
    decide
  refine ⟨hsize, fun entry hentry => ?_⟩
  exact ((size_message_filterText padding).1 64 (longPadding 399) (some "s1") hsize entry
    hentry).2.1

/-- All digits of the padding stand in the message, which is not short. -/
theorem not_short_longPadding :
    ¬∀ entry ∈ (padding.filterText (longPadding 399) (some "s1")).entries 64,
      size entry.message.toList ≤ 2 * (64 + 64) + 64 := by
  have hne : String.ofList (List.replicate (399 + 1) '1') ≠ longPadding 399 := by
    intro hsame
    have hsizes := congrArg (fun text : String => size text.toList) hsame
    rw [size_longPadding, String.toList_ofList, size_replicate] at hsizes
    omega
  intro hshort
  obtain ⟨entry, hentry⟩ := exists_mem_of_allow 64 (some "s1")
    (allow_longPadding 399) hne
  have hsize := (message_of_mem hentry).2.2 _ (allow_longPadding 399)
  have hbound := hshort entry hentry
  rw [String.toList_ofList, size_replicate] at hsize
  omega

end Restricted

end PageMarkup
