import PageMarkup.Proofs.Entity
import PageMarkup.Proofs.Html.Tags

/-!
# Pages that differ in the length of a run of spaces

Where a page has a run of spaces outside of tags, it makes no difference how long the run is: the
same words are shown, the same blocks are found, and the same sections, of which only the offsets
move.
-/

namespace PageMarkup

open Text

namespace Html

/-! ### Words -/

theorem readAngle_append {inside : List Char} (hinside : '>' ∉ inside) (rest : List Char) :
    readAngle ('<' :: (inside ++ '>' :: rest)) = some ((), rest) := by
  rw [readAngle, untilTagEnd?_append hinside]
  rfl

theorem readAngle_eq_none {cs : List Char} (h : '>' ∉ cs) : readAngle ('<' :: cs) = none := by
  rw [readAngle, untilTagEnd?_eq_none_iff.mpr h]
  rfl

theorem readAngle_cons_of_ne {c : Char} (hc : c ≠ '<') (cs : List Char) :
    readAngle (c :: cs) = none := by
  rw [readAngle]
  simp [hc]

/-- What stands between `<` and the next `>` is passed over, spaces or not. -/
theorem readsAlike_readAngle (c : Char) (front : List Char) (n m : Nat) (back : List Char) :
    ReadsAlike (fun _ => True) readAngle (c :: front ++ (List.replicate (n + 1) ' ' ++ back))
      (c :: front ++ (List.replicate (m + 1) ' ' ++ back)) := by
  by_cases hc : c = '<'
  · subst hc
    have hspaces : ∀ n, '>' ∉ List.replicate n ' ' := by
      intro n hmem
      exact absurd (List.eq_of_mem_replicate hmem) (by decide)
    -- the `>` stands before the spaces, or behind them, or nowhere
    by_cases hfront : '>' ∈ front
    · obtain ⟨inside, rest, rfl, hinside⟩ := List.eq_append_cons_of_mem hfront
      have hread : ∀ n, readAngle ('<' :: (inside ++ '>' :: rest) ++
          (List.replicate (n + 1) ' ' ++ back)) =
            some ((), rest ++ (List.replicate (n + 1) ' ' ++ back)) := by
        intro n
        have happend := readAngle_append hinside (rest ++ (List.replicate (n + 1) ' ' ++ back))
        simpa only [List.cons_append, List.append_assoc] using happend
      exact .some (hread n) (hread m) (spaced_run rest n m back)
    · by_cases hback : '>' ∈ back
      · obtain ⟨inside, rest, rfl, hinside⟩ := List.eq_append_cons_of_mem hback
        have hread : ∀ n, readAngle ('<' :: front ++
            (List.replicate (n + 1) ' ' ++ (inside ++ '>' :: rest))) = some ((), rest) := by
          intro n
          have hnone : '>' ∉ front ++ (List.replicate (n + 1) ' ' ++ inside) := by
            simp only [List.mem_append, not_or]
            exact ⟨hfront, hspaces _, hinside⟩
          have happend := readAngle_append hnone rest
          rwa [List.append_assoc, List.append_assoc] at happend
        exact .some (hread n) (hread m) (.refl rest)
      · have hread : ∀ n, readAngle ('<' :: front ++ (List.replicate (n + 1) ' ' ++ back)) =
          none := by
          intro n
          have hnone : '>' ∉ front ++ (List.replicate (n + 1) ' ' ++ back) := by
            simp only [List.mem_append, not_or]
            exact ⟨hfront, hspaces _, hback⟩
          exact readAngle_eq_none hnone
        exact .none (hread n) (hread m)
  · exact .none (readAngle_cons_of_ne hc _) (readAngle_cons_of_ne hc _)

theorem progresses_readAngle : Progresses readAngle := by
  intro cs value rest h
  unfold readAngle at h
  split at h
  · rename_i cs
    obtain ⟨⟨inside, rest⟩, huntil, heq⟩ := Option.map_eq_some_iff.mp h
    obtain ⟨-, rfl⟩ := Prod.mk.inj heq
    obtain ⟨-, rfl⟩ := untilTagEnd?_eq_some_iff.mp huntil
    exact ⟨'<' :: (inside ++ ['>']), by simp, by simp⟩
  · cases h

/-- The words that two fragments show are the same, if these differ in a run of spaces at most. -/
theorem visibleText_eq {fragment other : List Char} (h : Spaced (fun _ => True) fragment other) :
    visibleText fragment = visibleText other := by
  have hscan : Aligned (scan readAngle fragment) (scan readAngle other) :=
    aligned_scan isInherited_true progresses_readAngle (fun _ => rfl)
      (fun c front n m back _ => readsAlike_readAngle c front n m back) h
  have hreplaced := hscan.replaced fun _ => [' ']
  have hwords := (Entity.spaced_decode hreplaced).words_eq
  rw [visibleText, visibleText, unspaced, unspaced, replaceFound_eq, replaceFound_eq, hwords]

theorem shown?_eq {fragment other : List Char} (h : Spaced (fun _ => True) fragment other) :
    shown? fragment = shown? other := by
  rw [shown?, shown?, visibleText_eq h]

/-! ### Elements -/

/-- Two parts that stand before the same closing tag, and what follows it. -/
inductive SplitsAlike (close : List Char → Option (List Char)) (cs ds : List Char) : Prop
  | none (hleft : splitFirst? close cs = none) (hright : splitFirst? close ds = none)
  | some {inner inner' rest rest' : List Char} (hleft : splitFirst? close cs = some (inner, rest))
      (hright : splitFirst? close ds = some (inner', rest'))
      (hinner : Spaced (fun _ => True) inner inner') (hrest : Spaced ClosesTags rest rest')

theorem splitFirst?_spaces {close : List Char → Option (List Char)}
    (hspace : ∀ cs, close (' ' :: cs) = none) (n : Nat) (back : List Char) :
    splitFirst? close (List.replicate n ' ' ++ back) =
      (splitFirst? close back).map fun (inner, rest) => (List.replicate n ' ' ++ inner, rest) := by
  induction n with
  | zero => simp
  | succ n ih =>
    rw [List.replicate_succ, List.cons_append, splitFirst?, hspace, ih]
    simp [Function.comp_def]

theorem splitsAlike {close : List Char → Option (List Char)} (h : IsTagReader (asReader close))
    {front : List Char} (hfront : ClosesTags front) (n m : Nat) (back : List Char) :
    SplitsAlike close (front ++ (List.replicate (n + 1) ' ' ++ back))
      (front ++ (List.replicate (m + 1) ' ' ++ back)) := by
  induction front with
  | nil =>
    have hspace : ∀ cs, close (' ' :: cs) = none := fun cs =>
      asReader_eq_none_iff.mp (h.of_ne (by decide) cs)
    have hleft := splitFirst?_spaces hspace (n + 1) back
    have hright := splitFirst?_spaces hspace (m + 1) back
    cases hsplit : splitFirst? close back with
    | none =>
      rw [hsplit] at hleft hright
      exact .none hleft hright
    | some found =>
      obtain ⟨inner, rest⟩ := found
      rw [hsplit] at hleft hright
      exact .some hleft hright (spaced_run [] n m inner) (.refl rest)
  | cons c front ih =>
    have htail : ClosesTags front := isInherited_closesTags [c] front hfront
    rcases h.readsAlike hfront n m back with ⟨hleft, hright⟩ | ⟨hleft, hright, hrest⟩
    · rw [asReader_eq_none_iff, List.cons_append] at hleft hright
      rw [List.cons_append, List.cons_append]
      rcases ih htail with ⟨hnone, hnone'⟩ | ⟨hsome, hsome', hinner, hrest⟩
      · refine .none ?_ ?_
        · rw [splitFirst?, hleft, hnone]
          rfl
        · rw [splitFirst?, hright, hnone']
          rfl
      · refine .some ?_ ?_ (hinner.append_left [c]) hrest
        · rw [splitFirst?, hleft, hsome]
          rfl
        · rw [splitFirst?, hright, hsome']
          rfl
    · rw [asReader_eq_some_iff, List.cons_append] at hleft hright
      rw [List.cons_append, List.cons_append]
      refine .some ?_ ?_ (.refl []) hrest
      · rw [splitFirst?, hleft]
      · rw [splitFirst?, hright]

theorem Spaced.splitsAlike {close : List Char → Option (List Char)}
    (h : IsTagReader (asReader close)) {cs ds : List Char} (hcs : Spaced ClosesTags cs ds) :
    SplitsAlike close cs ds := by
  cases hcs with
  | refl =>
    cases hsplit : splitFirst? close cs with
    | none => exact .none hsplit hsplit
    | some found => exact .some hsplit hsplit (.refl _) (.refl _)
  | run hfront n m back => exact Html.splitsAlike h hfront n m back

variable {α β : Type}

/-- A reader of an element: an opening tag, a part up to a closing tag, and what is made of both. -/
def readElement (opening : Reader α) (close : List Char → Option (List Char))
    (make : α → List Char → β) : Reader β := fun cs => do
  let (value, rest) ← opening cs
  let (inner, rest) ← splitFirst? close rest
  some (make value inner, rest)

/-- A reader of one thing in a page. -/
structure IsPageReader (read : Reader α) : Prop where
  progresses : Progresses read
  /-- Nothing begins with a space. -/
  space : ∀ cs, read (' ' :: cs) = none
  /-- It recognizes the same before runs of spaces of different length. -/
  alike : ∀ c front n m back, ClosesTags (c :: front) → ReadsAlike ClosesTags read
    (c :: front ++ (List.replicate (n + 1) ' ' ++ back))
    (c :: front ++ (List.replicate (m + 1) ' ' ++ back))

theorem IsTagReader.isPageReader {read : Reader α} (h : IsTagReader read) : IsPageReader read where
  progresses := h.progresses
  space := h.of_ne (by decide)
  alike _ _ n m back hfront := h.readsAlike hfront n m back

/-- In two pages that differ in a run of spaces outside of tags the same is found. -/
theorem IsPageReader.findAll_eq {read : Reader α} (h : IsPageReader read) {page other : List Char}
    (hpages : Spaced ClosesTags page other) : findAll read page = findAll read other :=
  (aligned_scan isInherited_closesTags h.progresses h.space h.alike hpages).filterMap_value?

theorem IsPageReader.map {read : Reader α} (h : IsPageReader read) (f : α → β) :
    IsPageReader fun cs => (read cs).map fun (value, rest) => (f value, rest) where
  progresses cs made rest hread := by
    obtain ⟨⟨value, more⟩, hfound, heq⟩ := Option.map_eq_some_iff.mp hread
    obtain ⟨-, rfl⟩ := Prod.mk.inj heq
    exact h.progresses _ _ _ hfound
  space cs := by rw [h.space]; rfl
  alike c front n m back hfront := by
    rcases h.alike c front n m back hfront with ⟨hleft, hright⟩ | ⟨hleft, hright, hrest⟩
    · exact .none (by rw [hleft]; rfl) (by rw [hright]; rfl)
    · exact .some (by rw [hleft]; rfl) (by rw [hright]; rfl) hrest

/-- Of several things the first that is recognized counts. -/
theorem isPageReader_findSome? {reads : List (Reader α)} (h : ∀ read ∈ reads, IsPageReader read) :
    IsPageReader fun cs => reads.findSome? (· cs) where
  progresses cs value rest hread := by
    obtain ⟨read, hmem, hfound⟩ := List.exists_of_findSome?_eq_some hread
    exact (h read hmem).progresses _ _ _ hfound
  space cs := by
    rw [List.findSome?_eq_none_iff]
    exact fun read hmem => (h read hmem).space cs
  alike c front n m back hfront := by
    induction reads with
    | nil => exact .none rfl rfl
    | cons read reads ih =>
      have htail := ih fun other hother => h other (List.mem_cons_of_mem read hother)
      rcases (h read List.mem_cons_self).alike c front n m back hfront with
        ⟨hleft, hright⟩ | ⟨hleft, hright, hrest⟩
      · have hskip : ∀ cs, read cs = none →
            (read :: reads).findSome? (· cs) = reads.findSome? (· cs) := by
          intro cs hnone
          simp only [List.findSome?_cons, hnone]
        rcases htail with ⟨hnone, hnone'⟩ | ⟨hsome, hsome', hrest⟩
        · exact .none ((hskip _ hleft).trans hnone) ((hskip _ hright).trans hnone')
        · exact .some ((hskip _ hleft).trans hsome) ((hskip _ hright).trans hsome') hrest
      · have htake : ∀ cs found, read cs = some found →
            (read :: reads).findSome? (· cs) = some found := by
          intro cs found hfound
          simp only [List.findSome?_cons, hfound]
        exact .some (htake _ _ hleft) (htake _ _ hright) hrest

theorem readElement_of_none {opening : Reader α} (close : List Char → Option (List Char))
    (make : α → List Char → β) {cs : List Char} (h : opening cs = none) :
    readElement opening close make cs = none := by
  rw [readElement, h]
  rfl

theorem readElement_of_some {opening : Reader α} (close : List Char → Option (List Char))
    (make : α → List Char → β) {cs rest : List Char} {value : α}
    (h : opening cs = some (value, rest)) :
    readElement opening close make cs =
      (splitFirst? close rest).map fun (inner, rest) => (make value inner, rest) := by
  rw [readElement, h]
  cases hsplit : splitFirst? close rest <;> simp [hsplit]

/-- What stands before a closing tag, the tag and what follows it make up the text. -/
theorem exists_of_splitFirst? {close : List Char → Option (List Char)}
    (hclose : Progresses (asReader close)) {cs inner rest : List Char}
    (h : splitFirst? close cs = some (inner, rest)) :
    ∃ part, part ≠ [] ∧ cs = inner ++ (part ++ rest) ∧ close (part ++ rest) = some rest := by
  induction cs generalizing inner with
  | nil =>
    obtain ⟨rest, hread, heq⟩ := Option.map_eq_some_iff.mp h
    obtain ⟨part, hne, hpart⟩ := hclose _ _ _ (asReader_eq_some_iff.mpr hread)
    simp [hne] at hpart
  | cons c cs ih =>
    rw [splitFirst?] at h
    cases hread : close (c :: cs) with
    | some more =>
      rw [hread] at h
      obtain ⟨rfl, rfl⟩ := Prod.mk.inj (Option.some.inj h)
      obtain ⟨part, hne, hpart⟩ := hclose _ _ _ (asReader_eq_some_iff.mpr hread)
      exact ⟨part, hne, hpart, hpart ▸ hread⟩
    | none =>
      rw [hread] at h
      obtain ⟨⟨before, rest⟩, hsplit, heq⟩ := Option.map_eq_some_iff.mp h
      obtain ⟨rfl, rfl⟩ := Prod.mk.inj heq
      obtain ⟨part, hne, rfl, hpart⟩ := ih hsplit
      exact ⟨part, hne, rfl, hpart⟩

theorem progresses_readElement {opening : Reader α} {close : List Char → Option (List Char)}
    {make : α → List Char → β} (hopening : Progresses opening)
      (hclose : Progresses (asReader close)) :
    Progresses (readElement opening close make) := by
  intro cs made rest h
  cases hread : opening cs with
  | none =>
    rw [readElement_of_none close make hread] at h
    cases h
  | some found =>
    obtain ⟨value, more⟩ := found
    rw [readElement_of_some close make hread] at h
    obtain ⟨⟨inner, rest⟩, hsplit, heq⟩ := Option.map_eq_some_iff.mp h
    obtain ⟨-, rfl⟩ := Prod.mk.inj heq
    obtain ⟨front, hne, rfl⟩ := hopening _ _ _ hread
    obtain ⟨part, -, rfl, -⟩ := exists_of_splitFirst? hclose hsplit
    exact ⟨front ++ (inner ++ part), by simp [hne], by simp⟩

/-- What is made of an element may depend on the words in it. -/
theorem isPageReader_readElement {opening : Reader α} {close : List Char → Option (List Char)}
    {make : α → List Char → β} (hopening : IsTagReader opening)
    (hclose : IsTagReader (asReader close))
    (hmake : ∀ value inner inner', Spaced (fun _ => True) inner inner' →
      make value inner = make value inner') : IsPageReader (readElement opening close make) where
  progresses := progresses_readElement hopening.progresses hclose.progresses
  space cs := readElement_of_none close make (hopening.of_ne (by decide) cs)
  alike c front n m back hfront := by
    rcases hopening.readsAlike hfront n m back with ⟨hleft, hright⟩ | ⟨hleft, hright, hrest⟩
    · exact .none (readElement_of_none close make hleft) (readElement_of_none close make hright)
    · rename_i value rest rest'
      have hleft := readElement_of_some close make hleft
      have hright := readElement_of_some close make hright
      rcases Spaced.splitsAlike hclose hrest with ⟨hnone, hnone'⟩ | ⟨hsome, hsome', hinner, hafter⟩
      · rw [hnone] at hleft
        rw [hnone'] at hright
        exact .none hleft hright
      · rw [hsome, Option.map_some] at hleft
        rw [hsome', Option.map_some] at hright
        dsimp only at hleft hright
        rw [← hmake value _ _ hinner] at hright
        exact .some hleft hright hafter

/-! ### Blocks -/

/-- The opening tag of a heading: its level and its attributes. -/
def readHeadingTag : Reader (Char × List Char)
  | '<' :: h :: level :: cs =>
    if fold h != 'h' || !isLevel level || !atWordEnd cs then none
    else (untilTagEnd? cs).map fun (attributes, rest) => ((level, attributes), rest)
  | _ => none

theorem readHeading_eq : readHeading = readElement readHeadingTag afterHeading?
    fun (level, attributes) inner => (shown? inner).map fun text =>
      .heading (level.toNat - '0'.toNat) text (alignment? attributes) := by
  funext cs
  unfold readHeading
  split
  · rename_i h level cs
    rw [readElement, readHeadingTag]
    by_cases hc : (fold h != 'h' || !isLevel level || !atWordEnd cs) = true
    · simp only [hc, if_true]
      rfl
    · simp only [hc, if_false, Bool.false_eq_true]
      cases untilTagEnd? cs with
      | none => rfl
      | some found => rfl
  · rename_i hne
    rw [readElement, readHeadingTag]
    · rfl
    · exact hne

/-- The level and the attributes of a heading. -/
def headingOf? : List Char → Option (Char × List Char)
  | h :: level :: attributes =>
    if fold h != 'h' || !isLevel level || !atWordEnd (attributes ++ ['>']) then none
    else some (level, attributes)
  | _ => none

theorem isTagReader_readHeadingTag : IsTagReader readHeadingTag := by
  refine isTagReader_of headingOf? ?_ rfl ?_ ?_ ?_
  · intro c cs hc
    rw [readHeadingTag]
    simp [hc]
  · intro inside hinside
    rcases inside with - | ⟨h, - | ⟨level, attributes⟩⟩
    · rfl
    · rfl
    · have hattributes : '>' ∉ attributes := fun hmem =>
        hinside (List.mem_cons_of_mem h (List.mem_cons_of_mem level hmem))
      rw [readHeadingTag, untilTagEnd?_eq_none_iff.mpr hattributes]
      split_ifs <;> rfl
  · intro inside rest hinside
    rcases inside with - | ⟨h, - | ⟨level, attributes⟩⟩
    · cases rest with
      | nil => rfl
      | cons c rest => simp [readHeadingTag, headingOf?, fold]
    · simp [readHeadingTag, headingOf?, isLevel]
    · have hattributes : '>' ∉ attributes := fun hmem =>
        hinside (List.mem_cons_of_mem h (List.mem_cons_of_mem level hmem))
      rw [List.cons_append, List.cons_append, readHeadingTag, headingOf?,
        atWordEnd_append attributes rest, untilTagEnd?_append hattributes]
      split_ifs <;> rfl
  · intro inside value hvalue
    rcases inside with - | ⟨h, - | ⟨level, attributes⟩⟩
    · cases hvalue
    · cases hvalue
    · refine ⟨h, _, rfl, .inl ?_⟩
      rw [headingOf?] at hvalue
      split_ifs at hvalue with hc
      have hh : 'h' = fold h := by
        by_contra hne
        exact hc (by simp [Ne.symm hne])
      exact isLetter_of_fold hh (by decide)

theorem isPageReader_readHeading : IsPageReader readHeading := by
  rw [readHeading_eq]
  refine isPageReader_readElement isTagReader_readHeadingTag isTagReader_afterHeading ?_
  rintro ⟨level, attributes⟩ inner inner' hinner
  simp only [shown?_eq hinner]

theorem readParagraph_eq : readParagraph = readElement (readNamed "p") (afterClosing? "p")
    fun attributes inner => (shown? inner).map fun text =>
      .paragraph text (alignment? attributes) := rfl

theorem isPageReader_readParagraph : IsPageReader readParagraph := by
  rw [readParagraph_eq]
  refine isPageReader_readElement (isTagReader_readNamed (List.all_eq_true.mp rfl) (by decide))
    (isTagReader_afterClosing (by decide)) ?_
  intro attributes inner inner' hinner
  rw [shown?_eq hinner]

theorem readLink_eq : readLink = readElement (readNamed "a") (afterClosing? "a")
    fun attributes inner => ((shown? inner).filter fun _ => isButton attributes).map fun label =>
      .button ((attribute? "href" attributes).map String.ofList) label := rfl

theorem isPageReader_readLink : IsPageReader readLink := by
  rw [readLink_eq]
  refine isPageReader_readElement (isTagReader_readNamed (List.all_eq_true.mp rfl) (by decide))
    (isTagReader_afterClosing (by decide)) ?_
  intro attributes inner inner' hinner
  rw [shown?_eq hinner]

theorem isPageReader_readImage : IsPageReader readImage := by
  have hnamed : IsTagReader (readNamed "img") :=
    isTagReader_readNamed (List.all_eq_true.mp rfl) (by decide)
  have hmap := hnamed.isPageReader.map fun attributes =>
    (attribute? "src" attributes).map fun src => Block.image (String.ofList src)
      (((attribute? "alt" attributes).filter fun alt => !allBlank alt).map String.ofList)
  have heq : readImage = fun cs => (readNamed "img" cs).map fun (attributes, rest) =>
      ((attribute? "src" attributes).map fun src => Block.image (String.ofList src)
        (((attribute? "alt" attributes).filter fun alt => !allBlank alt).map String.ofList),
        rest) := by
    funext cs
    rw [readImage]
    cases readNamed "img" cs with
    | none => rfl
    | some found => rfl
  rw [heq]
  exact hmap

theorem isPageReader_readRule : IsPageReader readRule := by
  have hnamed : IsTagReader (readNamed "hr") :=
    isTagReader_readNamed (List.all_eq_true.mp rfl) (by decide)
  have heq : readRule =
      fun cs => (readNamed "hr" cs).map fun (_, rest) => (some .divider, rest) := by
    funext cs
    rw [readRule]
    cases readNamed "hr" cs with
    | none => rfl
    | some found => rfl
  rw [heq]
  exact hnamed.isPageReader.map fun _ => some Block.divider

/-- The blocks of two parts are the same, if the parts differ in a run of spaces outside of tags. -/
theorem blocks_eq {part other : List Char} (h : Spaced ClosesTags part other) :
    blocks part = blocks other := by
  have hblock : IsPageReader readBlock := by
    refine isPageReader_findSome? fun read hread => ?_
    simp only [List.mem_cons, List.not_mem_nil, or_false] at hread
    rcases hread with rfl | rfl | rfl | rfl | rfl
    · exact isPageReader_readHeading
    · exact isPageReader_readParagraph
    · exact isPageReader_readImage
    · exact isPageReader_readLink
    · exact isPageReader_readRule
  rw [blocks, blocks, hblock.findAll_eq h]

end Html

end PageMarkup
