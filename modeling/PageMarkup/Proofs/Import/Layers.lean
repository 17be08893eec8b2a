import PageMarkup.Import.Background
import PageMarkup.Proofs.Restricted.Colors

/-!
# Backgrounds with a color and an image

A background that names an image is taken apart in two steps: the image is cut out of the text, and
of the words that are left the first that is a color counts.  So a color and an image are both found
wherever they stand, as long as the color is one word; a color function with blanks among its
arguments is not, and is lost when it stands next to an image.
-/

namespace PageMarkup

open Text Restricted

namespace Text

variable {α : Type} {read : Reader α} {front rest : List Char}

/-- What is recognized first is recognized behind a text in which nothing begins. -/
theorem findFirst?_append_of_misses (h : Misses read front rest) :
    findFirst? read (front ++ rest) = findFirst? read rest := by
  induction front with
  | nil => rfl
  | cons c front ih =>
    rw [List.cons_append, findFirst?, h.head]
    exact ih h.tail

theorem findFirst?_of_some {part : List Char} {value : α} (hne : part ≠ [])
    (h : read (part ++ rest) = some (value, rest)) :
    findFirst? read (part ++ rest) = some value := by
  obtain ⟨c, cs, rfl⟩ := List.exists_cons_of_ne_nil hne
  rw [List.cons_append] at h ⊢
  rw [findFirst?, h]

/-- A text in which nothing begins is kept. -/
theorem replaceFound_append_of_misses {replacement : α → List Char → List Char}
    (h : Misses read front rest) :
    replaceFound read replacement (front ++ rest) =
      front ++ replaceFound read replacement rest := by
  induction front with
  | nil => rfl
  | cons c front ih =>
    rw [List.cons_append, replaceFound_cons_of_none h.head, ih h.tail, List.cons_append]

end Text

namespace Background

section

variable {before after source : List Char}

/-! ### One image among other words -/

/-- The image with this source. -/
def imageOf (source : List Char) : List Char :=
  "url(".toList ++ (source ++ [')'])

theorem isTrimmed_imageOf (source : List Char) : IsTrimmed (imageOf source) := by
  refine ⟨fun c hc => ?_, fun c hc => ?_⟩
  · obtain rfl : 'u' = c := Option.some.inj hc
    decide
  · rw [imageOf, ← List.append_assoc, List.getLast?_concat] at hc
    obtain rfl := Option.some.inj hc
    decide

theorem readUrl_imageOf (hsource : ')' ∉ source) (rest : List Char) :
    readUrl (imageOf source ++ rest) = some (imageOf source, rest) := by
  have hmark : afterFolded? "url(".toList (imageOf source ++ rest) =
      some (source ++ ')' :: rest) :=
    Html.afterFolded?_eq_some_iff.mpr ⟨"url(".toList, rfl, by simp [imageOf]⟩
  have hclose : (source ++ ')' :: rest).dropWhile (· != ')') = ')' :: rest := by
    have hspan : spanWhile (· != ')') (source ++ ')' :: rest) = (source, ')' :: rest) :=
      spanWhile_append_of_forall
        (fun c hc => by simpa using ne_of_mem_of_not_mem hc hsource) (by simp)
    exact congrArg Prod.snd hspan
  have hlength : (imageOf source ++ rest).length - rest.length = (imageOf source).length := by
    simp
  simp only [readUrl, hmark, Option.bind_eq_bind, Option.bind_some, hclose, hlength,
    List.take_left]

/-- Where no link begins, no image is read. -/
theorem misses_readUrl {front rest : List Char} (h : ¬ HoldsUrl front)
    (hborder : EndsApart front ∨ BeginsApart rest) : Misses readUrl front rest := by
  intro before c after hfront
  have hnone := misses_of_not_holdsUrl h hborder before c after hfront
  rw [readUrl, hnone]
  rfl

/-- From a background with one image the image is cut out, and the color is the first word of the
rest that is one. -/
theorem split_imageOf (hbefore : EndsApart before) (hurlBefore : ¬ HoldsUrl before)
    (hurlAfter : ¬ HoldsUrl after) (hsource : ')' ∉ source) :
    split (String.ofList (before ++ (imageOf source ++ after))) =
      (((words before ++ words after).find? fun word => (allowColor word).isSome).map
        String.ofList, some (String.ofList (imageOf source))) := by
  have htrim := trim_around (isTrimmed_imageOf source) (List.cons_ne_nil _ _) before after
  have hmissed : Misses readUrl (trimStart before) (imageOf source ++ trimEnd after) :=
    misses_readUrl (fun h => hurlBefore (h.of_suffix (List.dropWhile_suffix _)))
      (.inl hbefore.trimStart)
  have hrest : Misses readUrl (trimEnd after) [] :=
    misses_readUrl (fun h => hurlAfter (h.of_prefix (List.rdropWhile_prefix _ _)))
      (.inr fun c hc => absurd hc (by simp))
  have hread := readUrl_imageOf hsource (trimEnd after)
  have hne : imageOf source ≠ [] := List.cons_ne_nil _ _
  -- a color holds no link, so the whole is none
  have hcolor : allowColor (trim (before ++ (imageOf source ++ after))) = none := by
    by_contra hsome
    obtain ⟨value, hvalue⟩ := Option.ne_none_iff_exists'.mp hsome
    obtain rfl := trim_eq_of_allowColor hvalue
    rw [trim_trim] at hvalue
    refine not_holdsUrl_of_allowColor hvalue (holdsUrl_iff.mpr
      ⟨trimStart before, "url".toList, source ++ ')' :: trimEnd after, ?_, rfl⟩)
    rw [htrim]
    simp [imageOf]
  have hfirst : findFirst? readUrl (trim (before ++ (imageOf source ++ after))) =
      some (imageOf source) := by
    rw [htrim, findFirst?_append_of_misses hmissed, findFirst?_of_some hne hread]
  have hreplaced : replaceFound readUrl (fun _ _ => [' '])
      (trim (before ++ (imageOf source ++ after))) = trimStart before ++ ' ' :: trimEnd after := by
    rw [htrim, replaceFound_append_of_misses hmissed, replaceFound_append_of_some hne hread]
    rw [← List.append_nil (trimEnd after), replaceFound_append_of_misses hrest]
    rfl
  have hwords : words (trimStart before ++ ' ' :: trimEnd after) = words before ++ words after := by
    rw [words_append_space, words_trimStart, words_trimEnd]
  simp only [split, String.toList_ofList, hcolor, hfirst, hreplaced, hwords, Option.isSome_none,
    Bool.false_eq_true, if_false]
  cases (words before ++ words after).find? _ with
  | none => rfl
  | some color => rfl

end

/-! ### A color and an image among other words -/

/-- A text in which no word is a color and no image begins. -/
def IsFiller (cs : List Char) : Prop :=
  (∀ word ∈ words cs, allowColor word = none) ∧ ¬ HoldsUrl cs

instance (cs : List Char) : Decidable (IsFiller cs) :=
  inferInstanceAs (Decidable (_ ∧ _))

/-- A color and an image with what stands around them. -/
structure Layers where
  color : List Char
  source : List Char
  colorFirst : Bool
  front : List Char
  middle : List Char
  back : List Char

namespace Layers

variable (layers : Layers)

/-- What stands in front of the image. -/
def before : List Char :=
  if layers.colorFirst then layers.front ++ (layers.color ++ layers.middle) else layers.front

/-- What stands behind the image. -/
def after : List Char :=
  if layers.colorFirst then layers.back else layers.middle ++ (layers.color ++ layers.back)

/-- The whole background. -/
def value : String :=
  String.ofList (layers.before ++ (imageOf layers.source ++ layers.after))

/-- The color is allowed as it is, the image ends where its source does, and the words around them
are set apart and add neither colors nor images. -/
structure IsProper : Prop where
  color : allowColor layers.color = some layers.color
  source : ')' ∉ layers.source
  front : IsFiller layers.front ∧ EndsApart layers.front
  middle : IsFiller layers.middle ∧ BeginsApart layers.middle ∧ EndsApart layers.middle ∧
    layers.middle ≠ []
  back : IsFiller layers.back ∧ BeginsApart layers.back

instance : Decidable layers.IsProper :=
  decidable_of_iff (_ ∧ _ ∧ _ ∧ _ ∧ _)
    ⟨fun h => ⟨h.1, h.2.1, h.2.2.1, h.2.2.2.1, h.2.2.2.2⟩,
      fun h => ⟨h.color, h.source, h.front, h.middle, h.back⟩⟩

end Layers

/-- A search that fails among some words goes on behind them. -/
theorem find?_color_append {front rest : List (List Char)}
    (h : ∀ word ∈ front, allowColor word = none) :
    (front ++ rest).find? (fun word => (allowColor word).isSome) =
      rest.find? fun word => (allowColor word).isSome := by
  have hnone : front.find? (fun word => (allowColor word).isSome) = none :=
    List.find?_eq_none.mpr fun word hword => by rw [h word hword]; decide
  rw [List.find?_append, hnone, Option.none_or]

variable {layers : Layers}

/-- The words around the image are those of the color and others that are no colors. -/
theorem Layers.IsProper.exists_words (h : layers.IsProper) :
    ∃ front back, words layers.before ++ words layers.after =
        front ++ (words layers.color ++ back) ∧
      (∀ word ∈ front, allowColor word = none) ∧ ∀ word ∈ back, allowColor word = none := by
  have hboth {left right : List Char} (hleft : IsFiller left) (hright : IsFiller right) :
      ∀ word ∈ words left ++ words right, allowColor word = none := by
    intro word hword
    rcases List.mem_append.mp hword with hword | hword
    · exact hleft.1 word hword
    · exact hright.1 word hword
  rw [Layers.before, Layers.after]
  split
  · refine ⟨words layers.front, words layers.middle ++ words layers.back, ?_, h.front.1.1,
      hboth h.middle.1 h.back.1⟩
    rw [words_append (.inl h.front.2), words_append (.inr h.middle.2.1)]
    simp
  · refine ⟨words layers.front ++ words layers.middle, words layers.back, ?_,
      hboth h.front.1 h.middle.1, h.back.1.1⟩
    rw [words_append (.inl h.middle.2.2.1), words_append (.inr h.back.2)]
    simp

/-- Of the words of a background the color counts if it is one of them. -/
theorem Layers.IsProper.find?_color (h : layers.IsProper) :
    (words layers.before ++ words layers.after).find? (fun word => (allowColor word).isSome) =
      if layers.color.any isBlank then none else some layers.color := by
  obtain ⟨front, back, hwords, hfront, hback⟩ := h.exists_words
  rw [hwords, find?_color_append hfront]
  by_cases hblank : layers.color.any isBlank = true
  · have hcolor : ∀ word ∈ words layers.color, allowColor word = none := fun word hword =>
      allowColor_eq_none_of_mem_words h.color (List.any_eq_true.mp hblank) hword
    rw [if_pos hblank, find?_color_append hcolor]
    exact List.find?_eq_none.mpr fun word hword => by rw [hback word hword]; decide
  · have hword : IsWord layers.color := by
      refine ⟨fun hnil => ?_, by simpa using hblank⟩
      have hcolor := h.color
      rw [hnil] at hcolor
      exact absurd hcolor (by decide)
    rw [if_neg hblank, words_of_isWord hword, List.singleton_append, List.find?_cons_of_pos]
    rw [h.color]
    rfl

/-- The text in front of the image ends apart and holds no further image. -/
theorem Layers.IsProper.before (h : layers.IsProper) :
    EndsApart layers.before ∧ ¬ HoldsUrl layers.before := by
  rw [Layers.before]
  split
  · refine ⟨fun c hc => ?_, ?_⟩
    · rw [← List.append_assoc, List.getLast?_append_of_ne_nil _ h.middle.2.2.2] at hc
      exact h.middle.2.2.1 c hc
    · exact not_holdsUrl_append h.front.1.2 (not_holdsUrl_append
        (not_holdsUrl_of_allowColor h.color) h.middle.1.2 (.inr h.middle.2.1)) (.inl h.front.2)
  · exact ⟨h.front.2, h.front.1.2⟩

/-- The text behind the image holds no further image. -/
theorem Layers.IsProper.after (h : layers.IsProper) : ¬ HoldsUrl layers.after := by
  rw [Layers.after]
  split
  · exact h.back.1.2
  · exact not_holdsUrl_append h.middle.1.2 (not_holdsUrl_append
      (not_holdsUrl_of_allowColor h.color) h.back.1.2 (.inr h.back.2)) (.inl h.middle.2.2.1)

/-- The image is always kept, and the color exactly if no blank stands in it. -/
theorem split_layers (h : layers.IsProper) :
    split layers.value =
      (if layers.color.any isBlank then none else some (String.ofList layers.color),
        some (String.ofList (imageOf layers.source))) ∧
    (split layers.value =
        (some (String.ofList layers.color), some (String.ofList (imageOf layers.source))) ↔
      ∀ c ∈ layers.color, isBlank c = false) := by
  have hsplit : split layers.value =
      (if layers.color.any isBlank then none else some (String.ofList layers.color),
        some (String.ofList (imageOf layers.source))) := by
    rw [Layers.value, split_imageOf h.before.1 h.before.2 h.after h.source, h.find?_color]
    split <;> rfl
  refine ⟨hsplit, ?_⟩
  rw [hsplit, Prod.mk.injEq, and_iff_left rfl]
  simp

/-- A color function in front of an image, with a space behind each of its commas. -/
def spacedColor : Layers where
  color := "rgb(255, 0, 0)".toList
  source := "/a.png".toList
  colorFirst := true
  front := "fixed ".toList
  middle := " ".toList
  back := " no-repeat".toList

/-- Written with spaces, the color is lost; written without them, behind the image, it is kept. -/
theorem split_layers_spacedColor :
    spacedColor.IsProper ∧
      split "fixed rgb(255, 0, 0) url(/a.png) no-repeat" = (none, some "url(/a.png)") ∧
      split "fixed url(/a.png) rgb(255,0,0) no-repeat" =
        (some "rgb(255,0,0)", some "url(/a.png)") := by
  have hproper : spacedColor.IsProper := by decide +kernel
  have htight : Layers.IsProper { spacedColor with
      color := "rgb(255,0,0)".toList, colorFirst := false } := by decide +kernel
  exact ⟨hproper, (split_layers hproper).1, (split_layers htight).1⟩

/-- Not every allowed color is kept next to an image. -/
theorem not_split_layers :
    ¬ ∀ layers : Layers, layers.IsProper → split layers.value =
      (some (String.ofList layers.color), some (String.ofList (imageOf layers.source))) := by
  intro h
  have hkept := h spacedColor (by decide +kernel)
  exact absurd hkept (by decide +kernel)

end Background

end PageMarkup
