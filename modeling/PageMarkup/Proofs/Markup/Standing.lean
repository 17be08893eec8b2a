import PageMarkup.Markup.Query
import PageMarkup.Markup.Reader
import PageMarkup.Proofs.Markup.Shape

/-!
# Where a run of text stands

A run of text stands inside some elements, with text before it and behind it.  What an element reads
of its text is read of every run inside it, and of two elements with a name that a run stands in,
the outer one is collected.  A forest that was read has no run inside an element that never holds
anything.
-/

namespace PageMarkup

namespace Markup

/-- The run stands among some items: inside the elements of the path, the outermost first, with one
text before it and another behind it. -/
inductive Stands :
    (items : List Markup) → (path : List Element) → (front run back : List Char) → Prop
  | here (content : String) (items : List Markup) :
      Stands (.text content :: items) [] [] content.toList (textOfAll items).toList
  | inside {tag : Tag} {children : List Markup} {path : List Element} {front run back : List Char}
      (items : List Markup) (h : Stands children path front run back) :
      Stands (.element tag children :: items) (⟨tag, children⟩ :: path) front run
        (back ++ (textOfAll items).toList)
  | later (item : Markup) {items : List Markup} {path : List Element} {front run back : List Char}
      (h : Stands items path front run back) :
      Stands (item :: items) path ((textOf item).toList ++ front) run back

variable {items : List Markup} {path : List Element} {front run back : List Char}

/-- The run stands in the text of the items. -/
theorem Stands.toList_textOfAll (h : Stands items path front run back) :
    (textOfAll items).toList = front ++ (run ++ back) := by
  induction h with
  | here content items => simp [textOfAll, textOf]
  | inside items _ ih => simp [textOfAll, textOf, ih]
  | later item _ ih => simp [textOfAll, ih]

/-- Around a run that stands in an element, the text of the element is some of the text. -/
theorem Stands.toList_text {element : Element} (h : Stands items path front run back)
    (helement : element ∈ path) :
    ∃ before after, before <:+ front ∧ after <+: back ∧
      element.text.toList = before ++ (run ++ after) := by
  induction h with
  | here => exact absurd helement List.not_mem_nil
  | @inside tag children path front run back items hinside ih =>
    have hback : back <+: back ++ (textOfAll items).toList := List.prefix_append _ _
    rcases List.mem_cons.mp helement with rfl | helement
    · exact ⟨front, back, List.suffix_refl front, hback, hinside.toList_textOfAll⟩
    · obtain ⟨before, after, hbefore, hafter, htext⟩ := ih helement
      exact ⟨before, after, hbefore, hafter.trans hback, htext⟩
  | @later item _ _ front _ _ _ ih =>
    obtain ⟨before, after, hbefore, hafter, htext⟩ := ih helement
    exact ⟨before, after, hbefore.trans (List.suffix_append _ _), hafter, htext⟩

/-- The outermost element with a name that the run stands in is collected. -/
theorem Stands.mem_collectAll {element : Element} {name : String}
    (h : Stands items path front run back)
    (helement : path.find? (·.name == name) = some element) : element ∈ collectAll name items := by
  induction h with
  | here => cases helement
  | @inside tag children path _ _ _ items hinside ih =>
    rw [collectAll, collect]
    rw [List.find?_cons] at helement
    refine List.mem_append_left _ ?_
    cases hname : tag.name == name with
    | true =>
      have hself : (Element.mk tag children).name == name := hname
      rw [hself] at helement
      obtain rfl := Option.some.inj helement
      exact List.mem_cons_self
    | false =>
      have hself : ((Element.mk tag children).name == name) = false := hname
      rw [hself] at helement
      exact ih helement
  | later item _ ih => exact List.mem_append_right _ (ih helement)

mutual

/-- Every text of an item stands somewhere among the items that begin with it. -/
theorem exists_stands_of_mem_texts {content : String} (items : List Markup) :
    (item : Markup) → content ∈ texts item →
      ∃ path front back, Stands (item :: items) path front content.toList back
  | .text other, h => by
    obtain rfl := List.mem_singleton.mp h
    exact ⟨[], [], _, .here content items⟩
  | .element tag children, h => by
    obtain ⟨path, front, back, hstands⟩ := exists_stands_of_mem_textsAll children h
    exact ⟨⟨tag, children⟩ :: path, front, _, .inside items hstands⟩

/-- Every text of some items stands somewhere. -/
theorem exists_stands_of_mem_textsAll {content : String} :
    (items : List Markup) → content ∈ textsAll items →
      ∃ path front back, Stands items path front content.toList back
  | [], h => absurd h List.not_mem_nil
  | item :: items, h => by
    rcases List.mem_append.mp h with h | h
    · exact exists_stands_of_mem_texts items item h
    · obtain ⟨path, front, back, hstands⟩ := exists_stands_of_mem_textsAll items h
      exact ⟨path, _, back, .later item hstands⟩

end

/-! ### Elements that never hold anything -/

mutual

/-- No element of the item that never holds anything holds something. -/
def KeepsVoids : Markup → Prop
  | text _ => True
  | element tag children => (isVoid tag.name = true → children = []) ∧ KeepVoids children

/-- No element of the items that never holds anything holds something. -/
def KeepVoids : List Markup → Prop
  | [] => True
  | item :: items => KeepsVoids item ∧ KeepVoids items

end

theorem keepVoids_nil : KeepVoids [] := trivial

theorem keepVoids_iff : KeepVoids items ↔ ∀ item ∈ items, KeepsVoids item := by
  induction items with
  | nil => simp [KeepVoids]
  | cons item items ih => rw [KeepVoids, ih, List.forall_mem_cons]

/-- Then no run stands in such an element. -/
theorem Stands.isVoid_eq_false (h : Stands items path front run back) (hvoids : KeepVoids items) :
    ∀ element ∈ path, isVoid element.name = false := by
  induction h with
  | here => exact List.forall_mem_nil _
  | @inside tag children path _ _ _ items hinside ih =>
    obtain ⟨⟨hempty, hchildren⟩, -⟩ := hvoids
    refine List.forall_mem_cons.mpr ⟨?_, ih hchildren⟩
    rw [← Bool.not_eq_true]
    intro hvoid
    rw [hempty hvoid] at hinside
    cases hinside
  | later item _ ih => exact ih hvoids.2

/-! ### Reading a forest -/

namespace Growth

/-- What has been built, and what is open, keeps voids. -/
structure IsSound (growth : Growth) : Prop where
  pending : ∀ top ∈ growth.pending, isVoid top.tag.name = false ∧ KeepVoids top.held
  roots : KeepVoids growth.roots

variable {growth : Growth}

theorem isSound_empty : empty.IsSound :=
  ⟨List.forall_mem_nil _, trivial⟩

theorem IsSound.add (h : growth.IsSound) {item : Markup} (hitem : KeepsVoids item) :
    (growth.add item).IsSound := by
  obtain ⟨pending, roots⟩ := growth
  cases pending with
  | nil => exact ⟨List.forall_mem_nil _, hitem, h.roots⟩
  | cons top rest =>
    obtain ⟨⟨htag, hheld⟩, hrest⟩ := List.forall_mem_cons.mp h.pending
    exact ⟨List.forall_mem_cons.mpr ⟨⟨htag, hitem, hheld⟩, hrest⟩, h.roots⟩

theorem IsSound.push (h : growth.IsSound) {tag : Tag} (htag : isVoid tag.name = false) :
    (growth.push tag).IsSound :=
  ⟨List.forall_mem_cons.mpr ⟨⟨htag, trivial⟩, h.pending⟩, h.roots⟩

/-- Closing open elements keeps what they hold. -/
theorem isSound_closeThrough (last : Tag → Bool) {roots : List Markup} (hroots : KeepVoids roots)
    {closed : List Markup} (hclosed : KeepVoids closed) {pending : List OpenElement}
    (hpending : ∀ top ∈ pending, isVoid top.tag.name = false ∧ KeepVoids top.held) :
    (closeThrough last roots closed pending).IsSound := by
  induction pending generalizing closed with
  | nil =>
    rw [closeThrough]
    refine ⟨List.forall_mem_nil _, ?_⟩
    rw [keepVoids_iff] at hclosed hroots ⊢
    exact List.forall_mem_append.mpr ⟨hclosed, hroots⟩
  | cons top rest ih =>
    obtain ⟨⟨htag, hheld⟩, hrest⟩ := List.forall_mem_cons.mp hpending
    have hitem : KeepsVoids (.element top.tag (closed ++ top.held).reverse) := by
      refine ⟨fun hvoid => absurd (htag.symm.trans hvoid) (by decide), ?_⟩
      rw [keepVoids_iff] at hclosed hheld ⊢
      intro item hmem
      rcases List.mem_append.mp (List.mem_reverse.mp hmem) with hmem | hmem
      · exact hclosed item hmem
      · exact hheld item hmem
    rw [closeThrough]
    split
    · exact IsSound.add ⟨hrest, hroots⟩ hitem
    · exact ih ⟨hitem, trivial⟩ hrest

theorem IsSound.close (h : growth.IsSound) (name : String) : (growth.close name).IsSound := by
  rw [Growth.close]
  split
  · exact isSound_closeThrough _ h.roots keepVoids_nil h.pending
  · exact h

/-- One more token keeps the growth sound. -/
theorem IsSound.extend (h : growth.IsSound) (tokens : List Token) :
    (growth.extend tokens).IsSound := by
  induction tokens generalizing growth with
  | nil => exact h
  | cons token tokens ih =>
    cases token with
    | text run => exact ih (h.add trivial)
    | closing name => exact ih (h.close name)
    | opening tag =>
      rw [Growth.extend]
      split
      · rename_i hopen
        exact ih (h.push (by simpa using (Bool.and_eq_true_iff.mp hopen).1))
      · exact ih (h.add ⟨fun _ => rfl, trivial⟩)

end Growth

/-- A forest that was read holds nothing in elements that never hold anything. -/
theorem keepVoids_read (cs : List Char) : KeepVoids (Forest.read cs) := by
  have hgrowth := Growth.isSound_empty.extend (tokens cs)
  have hclosed := Growth.isSound_closeThrough (fun _ => false) hgrowth.roots keepVoids_nil
    hgrowth.pending
  have hroots := hclosed.roots
  rw [Forest.read, Growth.finish]
  rw [keepVoids_iff] at hroots ⊢
  exact fun item hitem => hroots item (List.mem_reverse.mp hitem)

end Markup

end PageMarkup
