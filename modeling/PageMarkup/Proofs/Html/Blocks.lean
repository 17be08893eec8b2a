import PageMarkup.Proofs.Import.Rendered

/-!
# What the blocks of a rendered page show

A block of a rendered page is made of what a fragment of the page shows.  A fragment that shows
nothing makes no block, so no text of a block is blank.
-/

namespace PageMarkup

open Text

namespace Html

/-- The texts that a block shows. -/
def Block.texts : Block → List String
  | .heading _ text _ => [text]
  | .paragraph text _ => [text]
  | .image _ _ => []
  | .button _ label => [label]
  | .divider => []

/-- What a fragment of a page shows is not blank. -/
theorem allBlank_of_shown? {fragment : List Char} {text : String}
    (h : shown? fragment = some text) : allBlank text.toList = false := by
  rw [shown?] at h
  split at h
  · exact absurd h (by simp)
  · rename_i hne
    obtain rfl := Option.some.inj h
    rw [String.toList_ofList, visibleText, unspaced]
    cases hwords : words (Entity.decode (replaceFound readAngle (fun _ _ => [' ']) fragment)) with
    | nil => exact absurd (by rw [visibleText, unspaced, hwords]; rfl) hne
    | cons word others =>
      have hword : IsWord word := isWord_of_mem_words (hwords ▸ List.mem_cons_self)
      obtain ⟨c, hc⟩ := List.exists_mem_of_ne_nil word hword.1
      have hshown := hword.2 c hc
      have hspace : c ∉ [' '] := by
        intro hmem
        obtain rfl := List.mem_singleton.mp hmem
        exact absurd hshown (by decide)
      rw [allBlank, List.all_eq_false]
      refine ⟨c, (mem_joinWith_iff hspace).mpr ⟨word, List.mem_cons_self, hc⟩, ?_⟩
      simp [hshown]

/-- The texts of the block are not blank. -/
def Block.IsVisible (block : Block) : Prop :=
  ∀ text ∈ block.texts, allBlank text.toList = false

/-- A block that is made of a text that a fragment shows is visible. -/
theorem isVisible_of_map {fragment : List Char} {make : String → Block} {block : Block}
    (hmake : ∀ text, (make text).texts = [text]) (h : (shown? fragment).map make = some block) :
    block.IsVisible := by
  obtain ⟨text, htext, rfl⟩ := Option.map_eq_some_iff.mp h
  intro shown hshown
  rw [hmake, List.mem_singleton] at hshown
  subst hshown
  exact allBlank_of_shown? htext

theorem isVisible_of_readHeading {cs rest : List Char} {block : Block}
    (h : readHeading cs = some (some block, rest)) : block.IsVisible := by
  unfold readHeading at h
  split at h
  · split at h
    · exact absurd h (by simp)
    · simp only [Option.bind_eq_bind, Option.bind_eq_some_iff] at h
      obtain ⟨⟨attributes, after⟩, -, ⟨inner, more⟩, -, h⟩ := h
      exact isVisible_of_map (fun _ => rfl) (Prod.mk.inj (Option.some.inj h)).1
  · exact absurd h (by simp)

theorem isVisible_of_readParagraph {cs rest : List Char} {block : Block}
    (h : readParagraph cs = some (some block, rest)) : block.IsVisible := by
  simp only [readParagraph, Option.bind_eq_bind, Option.bind_eq_some_iff] at h
  obtain ⟨⟨attributes, after⟩, -, ⟨inner, more⟩, -, h⟩ := h
  exact isVisible_of_map (fun _ => rfl) (Prod.mk.inj (Option.some.inj h)).1

theorem isVisible_of_readLink {cs rest : List Char} {block : Block}
    (h : readLink cs = some (some block, rest)) : block.IsVisible := by
  simp only [readLink, Option.bind_eq_bind, Option.bind_eq_some_iff] at h
  obtain ⟨⟨attributes, after⟩, -, ⟨inner, more⟩, -, h⟩ := h
  obtain ⟨label, hlabel, rfl⟩ := Option.map_eq_some_iff.mp (Prod.mk.inj (Option.some.inj h)).1
  exact List.forall_mem_singleton.mpr (allBlank_of_shown? (Option.mem_filter_iff.mp hlabel).1)

theorem isVisible_of_readImage {cs rest : List Char} {block : Block}
    (h : readImage cs = some (some block, rest)) : block.IsVisible := by
  simp only [readImage, Option.bind_eq_bind, Option.bind_eq_some_iff] at h
  obtain ⟨⟨attributes, after⟩, -, h⟩ := h
  obtain ⟨src, -, rfl⟩ := Option.map_eq_some_iff.mp (Prod.mk.inj (Option.some.inj h)).1
  exact List.forall_mem_nil _

theorem isVisible_of_readRule {cs rest : List Char} {block : Block}
    (h : readRule cs = some (some block, rest)) : block.IsVisible := by
  simp only [readRule, Option.bind_eq_bind, Option.bind_eq_some_iff] at h
  obtain ⟨⟨attributes, after⟩, -, h⟩ := h
  obtain rfl : Block.divider = block := Option.some.inj (Prod.mk.inj (Option.some.inj h)).1
  exact List.forall_mem_nil _

/-- Every block of a part of a page is visible. -/
theorem isVisible_of_mem_blocks {part : List Char} {block : Block} (h : block ∈ blocks part) :
    block.IsVisible := by
  obtain ⟨found, hfound, rfl⟩ := List.mem_filterMap.mp h
  obtain ⟨start, rest, hread⟩ := exists_of_mem_findAll hfound
  obtain ⟨reader, hreader, hblock⟩ := List.exists_of_findSome?_eq_some hread
  simp only [List.mem_cons, List.not_mem_nil, or_false] at hreader
  rcases hreader with rfl | rfl | rfl | rfl | rfl
  · exact isVisible_of_readHeading hblock
  · exact isVisible_of_readParagraph hblock
  · exact isVisible_of_readImage hblock
  · exact isVisible_of_readLink hblock
  · exact isVisible_of_readRule hblock

/-- Every block of the items of a page is visible. -/
theorem isVisible_of_mem_items {page : List Char} {item : Item} (h : item ∈ items page) :
    ∀ block ∈ item.blocks, block.IsVisible := by
  have hfrom {start : Nat} {parts : List Segment} (h : item ∈ itemsFrom start parts) :
      ∀ block ∈ item.blocks, block.IsVisible := by
    induction parts generalizing start with
    | nil => exact absurd h List.not_mem_nil
    | cons part parts ih =>
      rcases List.mem_append.mp h with hpart | hparts
      · cases part with
        | between text =>
          obtain ⟨block, hblock, rfl⟩ := List.mem_map.mp hpart
          exact List.forall_mem_singleton.mpr (isVisible_of_mem_blocks hblock)
        | «section» tag opening inner closing =>
          obtain rfl := List.mem_singleton.mp hpart
          exact fun block hblock => isVisible_of_mem_blocks hblock
      · exact ih hparts
  exact hfrom h

end Html

end PageMarkup
