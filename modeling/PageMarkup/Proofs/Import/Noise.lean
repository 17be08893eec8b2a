import PageMarkup.Proofs.Html.Noise
import PageMarkup.Proofs.Import.Page

/-!
# What a comment or a script does to an import

The items of a page are read from the page without its noise.  Three other scans read the page as it
is: the one for elements of the theme, which decides how the page is read at all, the one for style
elements and the one for backgrounds in the structure of the page.  Where none of the three can tell
two versions of a comment or of a script apart, the pages are imported as the same document.
-/

namespace PageMarkup

open Text

namespace Html

variable {base n m : Nat}

/-! ### Offsets that move -/

/-- Offsets before and behind a run that is not empty keep their order when the run gets longer or
shorter. -/
theorem Moves.le_iff {a a' b b' : Nat} (hn : 0 < n) (hm : 0 < m) (ha : Moves base n m a a')
    (hb : Moves base n m b b') : a ≤ b ↔ a' ≤ b' := by
  rcases ha with ⟨rfl, ha⟩ | ⟨behind, rfl, rfl⟩ <;> rcases hb with ⟨rfl, hb⟩ | ⟨more, rfl, rfl⟩ <;>
    omega

theorem Moves.lt_iff {a a' b b' : Nat} (hn : 0 < n) (hm : 0 < m) (ha : Moves base n m a a')
    (hb : Moves base n m b b') : a < b ↔ a' < b' := by
  rw [← Nat.not_le, ← Nat.not_le, Moves.le_iff hn hm hb ha]

/-- Two backgrounds in the structure of a page that are the same but for their offsets, and but for
keys that no section has as its id. -/
structure Backdrop.MovesTo (ids : List (Option String)) (base n m : Nat)
    (b other : Backdrop) : Prop where
  background : b.background = other.background
  offset : Moves base n m b.offset other.offset
  key : ∀ id ∈ ids, id = some b.key ↔ id = some other.key

/-- The ids of the sections among the items of a page. -/
def sectionIds (items : List Item) : List (Option String) :=
  items.filterMap fun
    | .section part => some part.id
    | .block _ => none

end Html

namespace Background

open Html

variable {base n m : Nat} {ids : List (Option String)}

/-- Two styles that no section with one of the ids can tell apart. -/
structure PageStyle.MovesTo (ids : List (Option String)) (base n m : Nat)
    (style other : PageStyle) : Prop where
  rules : style.rules = other.rules
  backdrops : List.Forall₂ (Backdrop.MovesTo ids base n m) style.backdrops other.backdrops

/-- A background is about a section wherever the two have moved. -/
theorem isAbout_movesTo (hn : 0 < n) (hm : 0 < m) {part other : Html.Section}
    (hpart : part.MovesTo base n m other) (hid : part.id ∈ ids) {b b' : Backdrop}
    (hb : b.MovesTo ids base n m b') :
    isAbout part.id (some (part.start, part.stop)) b =
      isAbout other.id (some (other.start, other.stop)) b' := by
  have hkey : (part.id == some b.key) = (other.id == some b'.key) := by
    rw [← hpart.id, Bool.eq_iff_iff, beq_iff_eq, beq_iff_eq]
    exact hb.key _ hid
  have hstart : decide (part.start ≤ b.offset) = decide (other.start ≤ b'.offset) :=
    decide_eq_decide.mpr (Moves.le_iff hn hm hpart.start hb.offset)
  have hstop : decide (b.offset < part.stop) = decide (b'.offset < other.stop) :=
    decide_eq_decide.mpr (Moves.lt_iff hn hm hb.offset hpart.stop)
  unfold isAbout
  rw [hkey, Option.any_some, Option.any_some]
  dsimp only
  rw [hstart, hstop]

/-- So the structure of the page gives the section the same background. -/
theorem find?_isAbout_movesTo (hn : 0 < n) (hm : 0 < m) {part other : Html.Section}
    (hpart : part.MovesTo base n m other) (hid : part.id ∈ ids) {backdrops others : List Backdrop}
    (h : List.Forall₂ (Backdrop.MovesTo ids base n m) backdrops others) :
    (backdrops.find? (isAbout part.id (some (part.start, part.stop)))).map Backdrop.background =
      (others.find? (isAbout other.id (some (other.start, other.stop)))).map
        Backdrop.background := by
  induction h with
  | nil => rfl
  | cons hb _ ih =>
    rw [List.find?_cons, List.find?_cons, isAbout_movesTo hn hm hpart hid hb]
    split
    · rw [Option.map_some, Option.map_some, hb.background]
    · exact ih

theorem find?_movesTo (hn : 0 < n) (hm : 0 < m) {style style' : PageStyle}
    (hstyle : style.MovesTo ids base n m style') {part other : Html.Section}
    (hpart : part.MovesTo base n m other) (hid : part.id ∈ ids) (explicit : Option Found) :
    find? style explicit part.id part.classes (some (part.start, part.stop)) =
      find? style' explicit other.id other.classes (some (other.start, other.stop)) := by
  have hfound := congrArg (Option.map fun background => Found.mk background .backdrop)
    (find?_isAbout_movesTo hn hm hpart hid hstyle.backdrops)
  rw [Option.map_map, Option.map_map] at hfound
  have hrules : (fun _ : Unit => (Stylesheet.background? part.id part.classes style.rules).map
      (Found.mk · .stylesheet)) = fun _ =>
        (Stylesheet.background? other.id other.classes style'.rules).map
          (Found.mk · .stylesheet) := by
    rw [hstyle.rules, hpart.id, hpart.classes]
  unfold find?
  dsimp only
  rw [hrules]
  exact congrArg _ (funext fun _ => hfound)

/-- What a page defines, entries apart. -/
theorem result_harvest (page : List Char) (limit : Nat) :
    (harvest page).result limit =
      ⟨Stylesheet.rules (joinWith ['\n'] (styleBlocks page)), Backdrop.findAll page⟩ := by
  rw [harvest]
  dsimp only
  split <;> split <;> rfl

end Background

namespace Import

open Html

variable {base n m : Nat} {ids : List (Option String)}

/-- The node of a section is the same wherever the section has moved. -/
theorem htmlSectionNode_movesTo (hn : 0 < n) (hm : 0 < m) {style style' : Background.PageStyle}
    (hstyle : style.MovesTo ids base n m style') {part other : Html.Section}
    (hpart : part.MovesTo base n m other) (hid : part.id ∈ ids) :
    htmlSectionNode style part = htmlSectionNode style' other := by
  rw [htmlSectionNode, htmlSectionNode, ← hpart.style]
  simp only [Background.find?_movesTo hn hm hstyle hpart hid]

theorem placeItems_movesTo (hn : 0 < n) (hm : 0 < m) {style style' : Background.PageStyle}
    (hstyle : style.MovesTo ids base n m style') {items others : List Html.Item}
    (h : List.Forall₂ (Item.MovesTo base n m) items others) (hids : sectionIds items ⊆ ids) :
    placeItems style items = placeItems style' others := by
  induction h with
  | nil => rfl
  | @cons item item' items others hitem _ ih =>
    have htail : placeItems style items = placeItems style' others :=
      ih fun _ hid => hids (((List.sublist_cons_self item items).filterMap _).subset hid)
    funext doc
    unfold placeItems
    rw [htail]
    cases hitem with
    | block content => rfl
    | «section» hpart =>
      have hid := hids List.mem_cons_self
      dsimp only
      rw [htmlSectionNode_movesTo hn hm hstyle hpart hid, hpart.blocks]

/-! ### Two versions of a page -/

/-- The scans that do not leave out noise find the same in two rendered pages, where the second has
`m` bytes at the offset `base` for `n` bytes of the first. -/
structure AgreesInNoise (base n m : Nat) (page other : List Char) : Prop where
  /-- Neither page has an element of the theme in it. -/
  isSpokenIn : Markup.isSpokenIn page = false ∧ Markup.isSpokenIn other = false
  rules : Stylesheet.rules (joinWith ['\n'] (Background.styleBlocks page)) =
    Stylesheet.rules (joinWith ['\n'] (Background.styleBlocks other))
  backdrops : List.Forall₂ (Backdrop.MovesTo (sectionIds (items page)) base n m)
    (Backdrop.findAll page) (Backdrop.findAll other)

/-- A page without elements of the theme is imported by placing the items of the rendered page. -/
theorem result_page_of_not_isSpokenIn {cs : List Char} (h : Markup.isSpokenIn cs = false)
    (limit : Nat) :
    (page (String.ofList cs)).result limit =
      ((placeItems ((Background.harvest cs).result limit) (items cs)
        .empty).result limit []).1 := by
  rw [page, result_pageAs, String.toList_ofList, h, drafted, if_neg Bool.false_ne_true,
    Drafting.result_bind, Drafting.result_note]

/-- A page is imported as the same document with either version of a comment or a script that
neither noise nor a tag before it reaches into, where the scans that do not leave out noise cannot
tell the versions apart. -/
theorem result_page_of_areVersions {before noise other after : List Char}
    (hversions : AreVersions noise other) (hapart : ScansApart readNoise before (noise ++ after))
    (hapart' : ScansApart readNoise before (other ++ after))
    (htags : ClosesTags (withoutNoise before))
    (hagrees : AgreesInNoise (size before) (size noise) (size other) (before ++ (noise ++ after))
      (before ++ (other ++ after))) (limit : Nat) :
    (page (String.ofList (before ++ (noise ++ after)))).result limit =
      (page (String.ofList (before ++ (other ++ after)))).result limit := by
  have hn : 0 < size noise := size_pos hversions.isNoise.1
  have hm : 0 < size other := size_pos hversions.symm.isNoise.1
  have hitems := items_movesTo hversions.isNoise hversions.symm.isNoise hapart hapart' htags
  have hstyle : ((Background.harvest (before ++ (noise ++ after))).result limit).MovesTo
      (sectionIds (items (before ++ (noise ++ after)))) (size before) (size noise) (size other)
      ((Background.harvest (before ++ (other ++ after))).result limit) := by
    rw [Background.result_harvest, Background.result_harvest]
    exact ⟨hagrees.rules, hagrees.backdrops⟩
  have hplaced := placeItems_movesTo hn hm hstyle hitems (List.Subset.refl _)
  rw [result_page_of_not_isSpokenIn hagrees.isSpokenIn.1,
    result_page_of_not_isSpokenIn hagrees.isSpokenIn.2, hplaced]

/-- A longer comment in front of a section and of a background inside it. -/
theorem result_page_of_areVersions_comment :
    (page (String.ofList ([] ++ ("<!--T-->".toList ++
      "<section><div class=\"section-bg\" data-bg=\"#123456\"></div></section>".toList)))).result
        64 =
    (page (String.ofList ([] ++ ("<!--longer-->".toList ++
      "<section><div class=\"section-bg\" data-bg=\"#123456\"></div></section>".toList)))).result
        64 := by
  have hversions : AreVersions "<!--T-->".toList "<!--longer-->".toList :=
    @AreVersions.comment "T".toList "longer".toList (by decide) (by decide)
  have htags : ClosesTags (withoutNoise []) := closesTags_nil
  have hfound : Backdrop.findAll ([] ++ ("<!--T-->".toList ++
      "<section><div class=\"section-bg\" data-bg=\"#123456\"></div></section>".toList)) =
      [⟨"section-17", "#123456", 17, .wrapper⟩] := by decide +kernel
  have hfound' : Backdrop.findAll ([] ++ ("<!--longer-->".toList ++
      "<section><div class=\"section-bg\" data-bg=\"#123456\"></div></section>".toList)) =
      [⟨"section-22", "#123456", 22, .wrapper⟩] := by decide +kernel
  refine result_page_of_areVersions hversions ⟨[], rfl⟩ ⟨[], rfl⟩ htags ?_ 64
  refine ⟨by decide +kernel, by decide +kernel, ?_⟩
  rw [hfound, hfound']
  exact .cons ⟨rfl, .inr ⟨9, by decide +kernel, by decide +kernel⟩, by decide +kernel⟩ .nil

/-- An opening tag in a comment colors the section around the comment. -/
theorem not_result_page_of_areVersions :
    ¬ ∀ before noise other after : List Char, AreVersions noise other →
      ScansApart readNoise before (noise ++ after) → ScansApart readNoise before (other ++ after) →
      ClosesTags (withoutNoise before) → ∀ limit,
      (page (String.ofList (before ++ (noise ++ after)))).result limit =
        (page (String.ofList (before ++ (other ++ after)))).result limit := by
  intro h
  -- both versions are comments, and the second one spells a section with a color
  have hversions : AreVersions "<!-- T -->".toList
      "<!-- <div class=\"section\" style=\"background:#123456\"> -->".toList := by
    have hcomment := @AreVersions.comment " T ".toList
      " <div class=\"section\" style=\"background:#123456\"> ".toList (by decide) (by decide)
    simpa using hcomment
  have hblank : withoutNoise "<section>".toList = "<section>".toList := by rfl
  have htags : ClosesTags (withoutNoise "<section>".toList) := by
    rw [hblank]
    simp [closesTags_cons_iff, closesTags_nil]
  have hsame := h "<section>".toList _ _ "<p>x</p></section>".toList hversions
    ⟨"<section>".toList.map .char, by rfl⟩ ⟨"<section>".toList.map .char, by rfl⟩ htags 64
  let colors (doc : Document) := doc.topLevel.map fun node =>
    (Dict.get? "backgroundColor" node.props).isSome
  have hplain : colors ((page (String.ofList ("<section>".toList ++
      ("<!-- T -->".toList ++ "<p>x</p></section>".toList)))).result 64) = [false] := by
    decide +kernel
  have hcolored : colors ((page (String.ofList ("<section>".toList ++
      ("<!-- <div class=\"section\" style=\"background:#123456\"> -->".toList ++
        "<p>x</p></section>".toList)))).result 64) = [true] := by
    decide +kernel
  rw [hsame, hcolored] at hplain
  exact absurd hplain (by decide)

end Import

end PageMarkup
