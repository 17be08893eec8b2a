import PageMarkup.Html
import PageMarkup.Proofs.Text.Letters
import PageMarkup.Proofs.Text.Spacing

/-!
# Readers of tags

Whatever reads a tag looks at the text between `<` and the next `>` and at nothing else, and
recognizes nothing in it unless it begins with a letter or a slash.  So where every tag that begins
in a text also ends in it, what a reader recognizes in this text does not depend on what follows it.
-/

namespace PageMarkup

variable {α : Type}

open Text

namespace Html

/-! ### Up to the end of a tag -/

theorem untilTagEnd?_eq_some_iff {cs inside rest : List Char} :
    untilTagEnd? cs = some (inside, rest) ↔ '>' ∉ inside ∧ cs = inside ++ '>' :: rest := by
  have hspan : untilTagEnd? cs = some (inside, rest) ↔
      ∃ bracket, spanWhile (· != '>') cs = (inside, bracket :: rest) := by
    simp only [untilTagEnd?, spanWhile]
    split
    · rename_i bracket others hdrop
      simp [hdrop]
    · rename_i hdrop
      simp [hdrop]
  simp only [hspan, spanWhile_bne_eq_iff, exists_eq_left]

theorem untilTagEnd?_append {inside : List Char} (h : '>' ∉ inside) (rest : List Char) :
    untilTagEnd? (inside ++ '>' :: rest) = some (inside, rest) :=
  untilTagEnd?_eq_some_iff.mpr ⟨h, rfl⟩

theorem untilTagEnd?_eq_none_iff {cs : List Char} : untilTagEnd? cs = none ↔ '>' ∉ cs := by
  constructor
  · intro h hmem
    obtain ⟨inside, rest, rfl, hinside⟩ := List.eq_append_cons_of_mem hmem
    rw [untilTagEnd?_append hinside] at h
    cases h
  · intro h
    cases hread : untilTagEnd? cs with
    | none => rfl
    | some read =>
      obtain ⟨-, rfl⟩ := untilTagEnd?_eq_some_iff.mp hread
      simp at h

/-! ### Readers of tags -/

/-- The text begins the inside of a tag. -/
def StartsTag (inside : List Char) : Prop :=
  ∃ c tail, inside = c :: tail ∧ (isLetter c = true ∨ c = '/')

/-- A reader of what stands between `<` and the next `>`. -/
def readInside (value? : List Char → Option α) : Reader α
  | '<' :: cs => do
    let (inside, rest) ← untilTagEnd? cs
    (value? inside).map fun value => (value, rest)
  | _ => none

/-- A reader that looks at the inside of a tag only. -/
def IsTagReader (read : Reader α) : Prop :=
  ∃ value? : List Char → Option α, read = readInside value? ∧
    ∀ inside value, value? inside = some value → StartsTag inside

/-- Every tag that begins in a text ends in it. -/
def ClosesTags (cs : List Char) : Prop :=
  ∀ front inside, cs = front ++ '<' :: inside → StartsTag inside → '>' ∈ inside

theorem isInherited_closesTags : IsInherited ClosesTags := by
  intro front back h before inside hback
  refine h (front ++ before) inside ?_
  rw [hback, List.append_assoc]

theorem closesTags_nil : ClosesTags [] := by
  intro front inside h
  simp at h

/-- Character by character. -/
theorem closesTags_cons_iff {c : Char} {cs : List Char} :
    ClosesTags (c :: cs) ↔ (c = '<' → StartsTag cs → '>' ∈ cs) ∧ ClosesTags cs := by
  constructor
  · intro h
    refine ⟨?_, isInherited_closesTags [c] cs h⟩
    rintro rfl
    exact h [] cs rfl
  · rintro ⟨hhere, hmore⟩ front inside hcs
    cases front with
    | nil =>
      obtain ⟨rfl, rfl⟩ := List.cons.inj hcs
      exact hhere rfl
    | cons d front =>
      obtain ⟨-, rfl⟩ := List.cons.inj hcs
      exact hmore front inside rfl

theorem readInside_of_ne {value? : List Char → Option α} {c : Char} (hc : c ≠ '<')
    (cs : List Char) :
    readInside value? (c :: cs) = none := by
  rw [readInside]
  simp [hc]

theorem readInside_append (value? : List Char → Option α) {inside : List Char} (h : '>' ∉ inside)
    (rest : List Char) :
    readInside value? ('<' :: (inside ++ '>' :: rest)) =
      (value? inside).map fun value => (value, rest) := by
  simp [readInside, untilTagEnd?_append h]

section Reading

variable {read : Reader α} {front : List Char}

/-- What is read stands between `<` and the next `>`. -/
theorem IsTagReader.exists_inside (h : IsTagReader read) {cs rest : List Char} {value : α}
    (hread : read cs = some (value, rest)) :
    ∃ inside, '>' ∉ inside ∧ cs = '<' :: (inside ++ '>' :: rest) := by
  obtain ⟨value?, rfl, -⟩ := h
  unfold readInside at hread
  split at hread
  · rename_i cs
    simp only [Option.bind_eq_bind, Option.bind_eq_some_iff, Option.map_eq_some_iff,
      Prod.mk.injEq] at hread
    obtain ⟨⟨inside, rest⟩, huntil, value, -, rfl, rfl⟩ := hread
    obtain ⟨hinside, rfl⟩ := untilTagEnd?_eq_some_iff.mp huntil
    exact ⟨inside, hinside, rfl⟩
  · cases hread

theorem IsTagReader.progresses (h : IsTagReader read) : Progresses read := by
  intro cs value rest hread
  obtain ⟨inside, -, rfl⟩ := h.exists_inside hread
  exact ⟨'<' :: (inside ++ ['>']), by simp, by simp⟩

theorem IsTagReader.of_ne (h : IsTagReader read) {c : Char} (hc : c ≠ '<') (cs : List Char) :
    read (c :: cs) = none := by
  obtain ⟨value?, rfl, -⟩ := h
  exact readInside_of_ne hc cs

/-- Where every tag ends that begins in a text, what follows the text does not matter, if it begins
no tag itself. -/
theorem IsTagReader.append (h : IsTagReader read) {c : Char} (hfront : ClosesTags (c :: front))
    (back : List Char) :
    read (c :: front ++ ' ' :: back) =
      (read (c :: front)).map fun (value, rest) => (value, rest ++ ' ' :: back) := by
  obtain ⟨value?, rfl, hstarts⟩ := h
  by_cases hc : c = '<'
  · subst hc
    by_cases hend : '>' ∈ front
    · obtain ⟨inside, rest, rfl, hinside⟩ := List.eq_append_cons_of_mem hend
      have hleft := readInside_append value? hinside (rest ++ ' ' :: back)
      rw [readInside_append value? hinside]
      rw [List.cons_append, List.append_assoc, List.cons_append, hleft]
      cases value? inside <;> rfl
    · -- the tag is not one, for what it begins with is neither a letter nor a slash
      have hnone : ∀ inside rest, front ++ ' ' :: back = inside ++ '>' :: rest →
          value? inside = none := by
        intro inside rest hshape
        refine Option.eq_none_iff_forall_ne_some.mpr fun value hvalue => ?_
        obtain ⟨d, tail, rfl, hd⟩ := hstarts inside value hvalue
        cases front with
        | nil =>
          obtain ⟨rfl, -⟩ := List.cons.inj hshape
          exact absurd hd (by decide)
        | cons e front =>
          obtain ⟨rfl, -⟩ := List.cons.inj hshape
          exact hend (hfront [] (e :: front) rfl ⟨e, front, rfl, hd⟩)
      have hfrontNone : readInside value? ('<' :: front) = none := by
        simp [readInside, untilTagEnd?_eq_none_iff.mpr hend]
      rw [hfrontNone, List.cons_append, readInside]
      cases huntil : untilTagEnd? (front ++ ' ' :: back) with
      | none => rfl
      | some read =>
        obtain ⟨-, hshape⟩ := untilTagEnd?_eq_some_iff.mp huntil
        simp [hnone _ _ hshape]
  · rw [readInside_of_ne hc, List.cons_append, readInside_of_ne hc]
    rfl

/-- So a reader of tags recognizes the same before runs of spaces of different length. -/
theorem IsTagReader.readsAlike (h : IsTagReader read) {c : Char} (hfront : ClosesTags (c :: front))
    (n m : Nat) (back : List Char) :
    ReadsAlike ClosesTags read (c :: front ++ (List.replicate (n + 1) ' ' ++ back))
      (c :: front ++ (List.replicate (m + 1) ' ' ++ back)) := by
  have hleft := h.append hfront (List.replicate n ' ' ++ back)
  have hright := h.append hfront (List.replicate m ' ' ++ back)
  cases hread : read (c :: front) with
  | none =>
    rw [hread] at hleft hright
    exact .none hleft hright
  | some found =>
    obtain ⟨value, rest⟩ := found
    rw [hread] at hleft hright
    obtain ⟨part, -, hpart⟩ := h.progresses _ _ _ hread
    have hrest : ClosesTags rest := isInherited_closesTags part rest (hpart ▸ hfront)
    exact .some hleft hright (.run hrest n m back)

end Reading

/-! ### Names of tags -/

/-- A name is not read over a character that cannot be part of it. -/
theorem afterFolded?_append {stop : Char} {name inside : List Char} (hname : fold stop ∉ name)
    (rest : List Char) :
    afterFolded? name (inside ++ stop :: rest) =
      (afterFolded? name inside).map fun more => more ++ stop :: rest := by
  induction name generalizing inside with
  | nil => rfl
  | cons d name ih =>
    rw [List.mem_cons, not_or] at hname
    cases inside with
    | nil =>
      have hfold : d ≠ fold stop := Ne.symm hname.1
      simp [afterFolded?, hfold]
    | cons c inside =>
      rw [List.cons_append, afterFolded?, afterFolded?]
      split_ifs
      · exact ih hname.2
      · rfl

/-- What is found behind a name is an end of the text. -/
theorem suffix_of_afterFolded? {name cs rest : List Char} (h : afterFolded? name cs = some rest) :
    rest <:+ cs := by
  induction name generalizing cs with
  | nil =>
    obtain rfl : cs = rest := Option.some.inj h
    exact List.suffix_refl cs
  | cons d name ih =>
    cases cs with
    | nil => cases h
    | cons c cs =>
      rw [afterFolded?] at h
      split_ifs at h
      exact (ih h).trans (List.suffix_cons c cs)

/-- A character that folds to a small letter is a letter. -/
theorem isLetter_of_fold {c d : Char} (h : d = fold c) (hd : isSmallLetter d = true) :
    isLetter c = true := by
  rw [isLetter]
  rw [h] at hd
  exact hd

/-- A name is found only where its first letter is. -/
theorem startsTag_of_afterFolded? {d : Char} {name inside rest : List Char}
    (hd : isSmallLetter d = true ∨ d = '/') (h : afterFolded? (d :: name) inside = some rest) :
    StartsTag inside := by
  cases inside with
  | nil => cases h
  | cons c inside =>
    rw [afterFolded?] at h
    split_ifs at h with hfold
    refine ⟨c, inside, rfl, ?_⟩
    rcases hd with hd | rfl
    · exact .inl (isLetter_of_fold hfold hd)
    · exact .inr (eq_of_fold_eq hfold.symm (by decide))

theorem atWordEnd_append (inside rest : List Char) :
    atWordEnd (inside ++ '>' :: rest) = atWordEnd (inside ++ ['>']) := by
  cases inside <;> rfl

/-- The text before which a name has been read is not part of the name. -/
theorem not_mem_of_suffix {inside rest : List Char} (hsuffix : rest <:+ inside) (h : '>' ∉ inside) :
    '>' ∉ rest :=
  fun hmem => h (hsuffix.mem hmem)

/-- A reader of one sort of tags that reads what stands up to the next `>` looks at that only. -/
theorem isTagReader_of {read : Reader α} (value? : List Char → Option α)
    (hne : ∀ c cs, c ≠ '<' → read (c :: cs) = none) (hnil : read [] = none)
    (hopen : ∀ inside, '>' ∉ inside → read ('<' :: inside) = none)
    (hread : ∀ inside rest, '>' ∉ inside →
      read ('<' :: (inside ++ '>' :: rest)) = (value? inside).map fun value => (value, rest))
    (hstarts : ∀ inside value, value? inside = some value → StartsTag inside) :
    IsTagReader read := by
  refine ⟨value?, funext fun cs => ?_, hstarts⟩
  cases cs with
  | nil => exact hnil
  | cons c cs =>
    by_cases hc : c = '<'
    · subst hc
      by_cases hend : '>' ∈ cs
      · obtain ⟨inside, rest, rfl, hinside⟩ := List.eq_append_cons_of_mem hend
        rw [hread inside rest hinside, readInside_append value? hinside]
      · rw [hopen cs hend, readInside]
        simp [untilTagEnd?_eq_none_iff.mpr hend]
    · rw [hne c cs hc, readInside_of_ne hc]

/-- Opening tags with a name are read by looking at them only. -/
theorem isTagReader_readNamed {name : String}
    (hname : ∀ d ∈ name.toList, isSmallLetter d = true) (hne : name.toList ≠ []) :
    IsTagReader (readNamed name) := by
  have hmark : '>' ∉ name.toList := fun hmem => absurd (hname _ hmem) (by decide)
  refine isTagReader_of (fun inside => (afterFolded? name.toList inside).filter fun rest =>
    atWordEnd (rest ++ ['>'])) ?_ rfl ?_ ?_ ?_
  · intro c cs hc
    rw [readNamed]
    simp [hc]
  · intro inside hinside
    rw [readNamed]
    cases hafter : afterFolded? name.toList inside with
    | none => rfl
    | some rest =>
      have hrest := not_mem_of_suffix (suffix_of_afterFolded? hafter) hinside
      simp [untilTagEnd?_eq_none_iff.mpr hrest]
  · intro inside rest hinside
    rw [readNamed, afterFolded?_append hmark]
    cases hafter : afterFolded? name.toList inside with
    | none => rfl
    | some more =>
      have hmore := not_mem_of_suffix (suffix_of_afterFolded? hafter) hinside
      have huntil := untilTagEnd?_append hmore rest
      cases hend : atWordEnd (more ++ ['>']) <;>
        simp [atWordEnd_append more rest, hend, huntil, Option.filter]
  · intro inside value hvalue
    obtain ⟨hafter, -⟩ := Option.filter_eq_some_iff.mp hvalue
    obtain ⟨d, more, hcons⟩ := List.exists_cons_of_ne_nil hne
    rw [hcons] at hafter
    exact startsTag_of_afterFolded? (.inl (hname d (by simp [hcons]))) hafter

/-! ### Closing tags -/

/-- What follows a part, as a reader that gives no value. -/
def asReader (close : List Char → Option (List Char)) : Reader Unit :=
  fun cs => (close cs).map fun rest => ((), rest)

theorem asReader_eq_some_iff {close : List Char → Option (List Char)} {cs rest : List Char} :
    asReader close cs = some ((), rest) ↔ close cs = some rest := by
  simp [asReader]

theorem asReader_eq_none_iff {close : List Char → Option (List Char)} {cs : List Char} :
    asReader close cs = none ↔ close cs = none := by
  simp [asReader]

theorem afterMark_of_not_mem {cs : List Char} (h : '>' ∉ cs) :
    after? ['>'] (trimStart cs) = none := by
  cases htrim : trimStart cs with
  | nil => rfl
  | cons c rest =>
    have hc : '>' ≠ c := by
      rintro rfl
      exact h ((List.dropWhile_sublist _).mem (htrim ▸ List.mem_cons_self))
    simp [after?, hc]

/-- The mark of the end is found behind blanks only. -/
theorem afterMark_append {inside : List Char} (h : '>' ∉ inside) (rest : List Char) :
    after? ['>'] (trimStart (inside ++ '>' :: rest)) =
      if allBlank inside then some rest else none := by
  induction inside with
  | nil => simp [trimStart, isBlank, after?, allBlank]
  | cons c inside ih =>
    rw [List.mem_cons, not_or] at h
    by_cases hc : isBlank c = true
    · have htrim : trimStart (c :: inside ++ '>' :: rest) = trimStart (inside ++ '>' :: rest) :=
        List.dropWhile_cons_of_pos hc
      have hall : allBlank (c :: inside) = allBlank inside := by simp [allBlank, hc]
      rw [htrim, ih h.2, hall]
    · have htrim : trimStart (c :: inside ++ '>' :: rest) = c :: inside ++ '>' :: rest :=
        List.dropWhile_cons_of_neg hc
      rw [htrim, List.cons_append, after?, if_neg h.1]
      simp [allBlank, hc]

theorem isTagReader_afterClosing {name : String} (hname : '>' ∉ name.toList) :
    IsTagReader (asReader (afterClosing? name)) := by
  have hmark : ("</" ++ name).toList = '<' :: '/' :: name.toList := by simp
  have hslash : '>' ∉ '/' :: name.toList := by simpa using hname
  have hfold : '<' = fold '<' := by decide
  have hclosing : ∀ cs, afterClosing? name ('<' :: cs) =
      (afterFolded? ('/' :: name.toList) cs).bind fun rest => after? ['>'] (trimStart rest) := by
    intro cs
    rw [afterClosing?, hmark, afterFolded?, if_pos hfold]
    rfl
  refine isTagReader_of (fun inside => (afterFolded? ('/' :: name.toList) inside).bind fun rest =>
    if allBlank rest then some () else none) ?_ ?_ ?_ ?_ ?_
  · intro c cs hc
    have hne : '<' ≠ fold c := fun heq => hc (eq_of_fold_eq heq.symm (by decide))
    rw [asReader_eq_none_iff, afterClosing?, hmark, afterFolded?, if_neg hne]
    rfl
  · rw [asReader_eq_none_iff, afterClosing?, hmark]
    rfl
  · intro inside hinside
    rw [asReader_eq_none_iff, hclosing]
    cases hafter : afterFolded? ('/' :: name.toList) inside with
    | none => rfl
    | some rest =>
      exact afterMark_of_not_mem (not_mem_of_suffix (suffix_of_afterFolded? hafter) hinside)
  · intro inside rest hinside
    rw [asReader, hclosing, afterFolded?_append hslash]
    cases hafter : afterFolded? ('/' :: name.toList) inside with
    | none => rfl
    | some more =>
      have hmore := not_mem_of_suffix (suffix_of_afterFolded? hafter) hinside
      have hend := afterMark_append hmore rest
      cases hblank : allBlank more <;> simp [hend, hblank]
  · intro inside value hvalue
    obtain ⟨rest, hafter, -⟩ := Option.bind_eq_some_iff.mp hvalue
    exact startsTag_of_afterFolded? (.inr rfl) hafter

/-- What follows the closing tag of a heading, from its level on. -/
def afterLevel? : List Char → Option (List Char)
  | level :: rest => if isLevel level then after? ['>'] (trimStart rest) else none
  | [] => none

/-- The inside of the closing tag of a heading, from its level on. -/
def endsAtLevel? : List Char → Option Unit
  | level :: rest => if isLevel level && allBlank rest then some () else none
  | [] => none

theorem isTagReader_afterHeading : IsTagReader (asReader afterHeading?) := by
  have hslash : '>' ∉ ['/', 'h'] := by decide
  have hfold : '<' = fold '<' := by decide
  have hclosing : ∀ cs, afterHeading? ('<' :: cs) =
      (afterFolded? ['/', 'h'] cs).bind afterLevel? := by
    intro cs
    have hmark : "</h".toList = '<' :: ['/', 'h'] := by decide
    rw [afterHeading?, hmark, afterFolded?, if_pos hfold]
    rfl
  refine isTagReader_of (fun inside => (afterFolded? ['/', 'h'] inside).bind endsAtLevel?) ?_ rfl
    ?_ ?_ ?_
  · intro c cs hc
    have hne : '<' ≠ fold c := fun heq => hc (eq_of_fold_eq heq.symm (by decide))
    have hmark : "</h".toList = '<' :: ['/', 'h'] := by decide
    rw [asReader_eq_none_iff, afterHeading?, hmark, afterFolded?, if_neg hne]
    rfl
  · intro inside hinside
    rw [asReader_eq_none_iff, hclosing]
    cases hafter : afterFolded? ['/', 'h'] inside with
    | none => rfl
    | some rest =>
      have hrest := not_mem_of_suffix (suffix_of_afterFolded? hafter) hinside
      cases rest with
      | nil => rfl
      | cons level rest =>
        rw [List.mem_cons, not_or] at hrest
        simp [afterLevel?, afterMark_of_not_mem hrest.2]
  · intro inside rest hinside
    rw [asReader, hclosing, afterFolded?_append hslash]
    cases hafter : afterFolded? ['/', 'h'] inside with
    | none => rfl
    | some more =>
      have hmore := not_mem_of_suffix (suffix_of_afterFolded? hafter) hinside
      cases more with
      | nil => simp [afterLevel?, endsAtLevel?, isLevel]
      -- any level closes the heading, and blanks may stand behind it
      | cons level more =>
        rw [List.mem_cons, not_or] at hmore
        have hend := afterMark_append hmore.2 rest
        cases hlevel : isLevel level <;> cases hblank : allBlank more <;>
          simp [afterLevel?, endsAtLevel?, hend, hlevel, hblank]
  · intro inside value hvalue
    obtain ⟨rest, hafter, -⟩ := Option.bind_eq_some_iff.mp hvalue
    exact startsTag_of_afterFolded? (.inr rfl) hafter

/-! ### Tags of either sort -/

/-- The name at the beginning of the inside of a tag, and what follows it. -/
def nameOf? : List Char → Option (List Char × List Char)
  | [] => none
  | c :: cs =>
    let (more, rest) := spanWhile isNameChar cs
    if isLetter c && atWordEnd (rest ++ ['>']) then some (c :: more, rest) else none

/-- A run that ends somewhere ends there also if more follows. -/
theorem spanWhile_append_of_not {p : Char → Bool} {c : Char} (hc : p c = false)
    (inside rest : List Char) :
    spanWhile p (inside ++ c :: rest) =
      ((spanWhile p inside).1, (spanWhile p inside).2 ++ c :: rest) := by
  induction inside with
  | nil => simp [spanWhile, hc]
  | cons d inside ih =>
    by_cases hd : p d = true
    · simpa [spanWhile, hd] using ih
    · simp [spanWhile, hd]

theorem readName_append (inside rest : List Char) :
    readName (inside ++ '>' :: rest) =
      (nameOf? inside).map fun (name, attributes) => (name, attributes ++ '>' :: rest) := by
  cases inside with
  | nil => simp [readName, nameOf?, isLetter, fold]
  | cons c inside =>
    have hspan := spanWhile_append_of_not (show isNameChar '>' = false by decide) inside rest
    rw [List.cons_append, readName, nameOf?, hspan]
    simp only [atWordEnd_append _ rest]
    split_ifs <;> rfl

theorem nameOf?_eq_some {inside name attributes : List Char}
    (h : nameOf? inside = some (name, attributes)) :
    ∃ c tail, inside = c :: tail ∧ isLetter c = true ∧ attributes <:+ tail := by
  cases inside with
  | nil => cases h
  | cons c inside =>
    rw [nameOf?] at h
    obtain ⟨hc, hfound⟩ := Option.ite_none_right_eq_some.mp h
    obtain ⟨-, rfl⟩ := Prod.mk.inj (Option.some.inj hfound)
    exact ⟨c, inside, rfl, (Bool.and_eq_true_iff.mp hc).1, List.dropWhile_suffix _⟩

/-- A name is read with the tag around it. -/
theorem bind_readName_append {β : Type} {inside : List Char} (h : '>' ∉ inside) (rest : List Char)
    (f : List Char → List Char → β) :
    ((readName (inside ++ '>' :: rest)).bind fun (name, more) =>
        (untilTagEnd? more).bind fun (attributes, rest) => some (f name attributes, rest)) =
      (nameOf? inside).map fun (name, attributes) => (f name attributes, rest) := by
  rw [readName_append]
  cases hname : nameOf? inside with
  | none => rfl
  | some found =>
    obtain ⟨name, attributes⟩ := found
    obtain ⟨c, tail, rfl, -, hsuffix⟩ := nameOf?_eq_some hname
    have hattributes := not_mem_of_suffix hsuffix fun hmem => h (List.mem_cons_of_mem c hmem)
    simp [untilTagEnd?_append hattributes]

theorem bind_readName_of_not_mem {β : Type} {inside : List Char} (h : '>' ∉ inside)
    (f : List Char → List Char → β) :
    ((readName inside).bind fun (name, more) =>
      (untilTagEnd? more).bind fun (attributes, rest) =>
        some (f name attributes, rest)) = none := by
  cases inside with
  | nil => rfl
  | cons c inside =>
    have hrest : '>' ∉ inside.dropWhile isNameChar :=
      fun hmem => h (List.mem_cons_of_mem c ((List.dropWhile_sublist _).mem hmem))
    by_cases hc : (isLetter c && atWordEnd (inside.dropWhile isNameChar)) = true
    · simp [readName, spanWhile, hc, untilTagEnd?_eq_none_iff.mpr hrest]
    · simp [readName, spanWhile, hc]

theorem readTag_slash (cs : List Char) :
    readTag ('<' :: '/' :: cs) = (readName cs).bind fun (name, more) =>
      (untilTagEnd? more).bind fun (attributes, rest) => some (⟨true, name, attributes⟩, rest) := by
  rw [readTag]
  rfl

theorem readTag_of_ne {cs : List Char} (h : cs.head? ≠ some '/') :
    readTag ('<' :: cs) = (readName cs).bind fun (name, more) =>
      (untilTagEnd? more).bind fun (attributes, rest) =>
        some (⟨false, name, attributes⟩, rest) := by
  rw [readTag]
  · rfl
  · rintro rest rfl
    exact h rfl

/-- The tag between `<` and `>`. -/
def tagOf? : List Char → Option Tag
  | '/' :: inside => (nameOf? inside).map fun (name, attributes) => ⟨true, name, attributes⟩
  | inside => (nameOf? inside).map fun (name, attributes) => ⟨false, name, attributes⟩

/-- Tags are read by looking at them only. -/
theorem isTagReader_readTag : IsTagReader readTag := by
  have hcases : ∀ inside : List Char, (∃ more, inside = '/' :: more) ∨ inside.head? ≠ some '/' := by
    intro inside
    cases inside with
    | nil => exact .inr (by simp)
    | cons c inside =>
      by_cases hc : c = '/'
      · exact .inl ⟨inside, by rw [hc]⟩
      · exact .inr (by simpa using hc)
  -- a closing tag is read as an opening one is, only behind its slash
  refine isTagReader_of tagOf? ?_ rfl ?_ ?_ ?_
  · intro c cs hc
    rw [readTag]
    · simp [hc]
    · simp [hc]
  · intro inside hinside
    rcases hcases inside with ⟨more, rfl⟩ | hslash
    · rw [readTag_slash]
      rw [List.mem_cons, not_or] at hinside
      exact bind_readName_of_not_mem hinside.2 (Tag.mk true)
    · rw [readTag_of_ne hslash]
      exact bind_readName_of_not_mem hinside (Tag.mk false)
  · intro inside rest hinside
    rcases hcases inside with ⟨more, rfl⟩ | hslash
    · rw [List.cons_append, readTag_slash, tagOf?]
      rw [List.mem_cons, not_or] at hinside
      simpa [Function.comp_def] using bind_readName_append hinside.2 rest (Tag.mk true)
    · have hhead : (inside ++ '>' :: rest).head? ≠ some '/' := by
        cases inside with
        | nil => simp
        | cons c inside => simpa using hslash
      rw [readTag_of_ne hhead, tagOf?]
      · simpa [Function.comp_def] using bind_readName_append hinside rest (Tag.mk false)
      · rintro more rfl
        exact hslash rfl
  · intro inside tag htag
    unfold tagOf? at htag
    split at htag
    · exact ⟨'/', _, rfl, .inr rfl⟩
    · obtain ⟨⟨name, attributes⟩, hname, -⟩ := Option.map_eq_some_iff.mp htag
      obtain ⟨c, tail, rfl, hc, -⟩ := nameOf?_eq_some hname
      exact ⟨c, tail, rfl, .inl hc⟩

end Html

end PageMarkup
