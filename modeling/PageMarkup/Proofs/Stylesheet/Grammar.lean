import PageMarkup.Proofs.Stylesheet.Braces
import PageMarkup.Proofs.Stylesheet.Comments

/-!
# The grammar of a stylesheet

A stylesheet consists of rules, groups that hold such items again, other blocks, and statements.
The walk through the braces of a stylesheet that is written so finds exactly its rules, in order:
between two items nothing is left of what stood before, and inside a group the walk is the same as
outside.
-/

namespace PageMarkup

open Text

namespace Stylesheet

/-! ### Items -/

/-- An item of a stylesheet: a rule with its selector and body, a group with what stands before its
brace, its items and what stands behind them, another block, or a statement without its
semicolon. -/
inductive Item where
  | rule (selector body : List Char)
  | group (prelude : List Char) (items : List Item) (tail : List Char)
  | block (prelude body : List Char)
  | statement (text : List Char)

namespace Item

mutual

/-- The characters of an item. -/
def chars : Item → List Char
  | rule selector body => selector ++ '\x7b' :: (body ++ ['\x7d'])
  | group prelude items tail => prelude ++ '\x7b' :: (charsAll items ++ (tail ++ ['\x7d']))
  | block prelude body => prelude ++ '\x7b' :: (body ++ ['\x7d'])
  | statement text => text ++ [';']

/-- The characters of some items. -/
def charsAll : List Item → List Char
  | [] => []
  | item :: items => chars item ++ charsAll items

end

mutual

/-- The rules of an item: a selector without the blanks around it, and a body. -/
def rules : Item → List (List Char × List Char)
  | rule selector body => [(trim selector, body)]
  | group _ items _ => rulesAll items
  | block _ _ => []
  | statement _ => []

/-- The rules of some items, in order. -/
def rulesAll : List Item → List (List Char × List Char)
  | [] => []
  | item :: items => rules item ++ rulesAll items

end

/-- The text has no brace and no semicolon. -/
def IsPlain (text : List Char) : Prop :=
  ∀ c ∈ text, c ≠ '\x7b' ∧ c ≠ '\x7d' ∧ c ≠ ';'

/-- The text begins with the name of a group, blanks apart. -/
def BeginsGroup (prelude : List Char) : Prop :=
  ∃ mark ∈ groupMarks, mark.toList <+: trim prelude

mutual

/-- The parts of an item are what they should be. -/
def IsProper : Item → Prop
  | rule selector body =>
    IsPlain selector ∧ (trim selector).head? ≠ some '@' ∧ '\x7b' ∉ body ∧ '\x7d' ∉ body
  | group prelude items tail =>
    IsPlain prelude ∧ BeginsGroup prelude ∧ AreProper items ∧ IsPlain tail
  | block prelude body =>
    IsPlain prelude ∧ (trim prelude).head? = some '@' ∧ ¬ BeginsGroup prelude ∧ IsBalanced 0 body
  | statement text => IsPlain text

/-- The parts of some items are what they should be. -/
def AreProper : List Item → Prop
  | [] => True
  | item :: items => IsProper item ∧ AreProper items

end

instance (text : List Char) : Decidable (IsPlain text) :=
  List.decidableBAll _ text

instance (prelude : List Char) : Decidable (BeginsGroup prelude) :=
  inferInstanceAs (Decidable (∃ mark ∈ groupMarks, mark.toList <+: trim prelude))

mutual

/-- The parts of an item are what they should be or not. -/
def decidableIsProper : (item : Item) → Decidable item.IsProper
  | rule selector body => inferInstanceAs (Decidable (IsPlain selector ∧
      (trim selector).head? ≠ some '@' ∧ '\x7b' ∉ body ∧ '\x7d' ∉ body))
  | group prelude items tail =>
    have := decidableAreProper items
    inferInstanceAs (Decidable
      (IsPlain prelude ∧ BeginsGroup prelude ∧ AreProper items ∧ IsPlain tail))
  | block prelude body => inferInstanceAs (Decidable (IsPlain prelude ∧
      (trim prelude).head? = some '@' ∧ ¬ BeginsGroup prelude ∧ IsBalanced 0 body))
  | statement text => inferInstanceAs (Decidable (IsPlain text))

/-- The parts of some items are what they should be or not. -/
def decidableAreProper : (items : List Item) → Decidable (AreProper items)
  | [] => .isTrue trivial
  | item :: items =>
    have := decidableIsProper item
    have := decidableAreProper items
    inferInstanceAs (Decidable (IsProper item ∧ AreProper items))

end

instance (items : List Item) : Decidable (AreProper items) :=
  decidableAreProper items

end Item

/-! ### Walking through an item -/

variable {text prelude : List Char}

theorem isGroup_iff : isGroup (trim prelude) = true ↔ Item.BeginsGroup prelude := by
  simp only [isGroup, List.any_eq_true, isSome_after?_iff, Item.BeginsGroup]

/-- A group begins with the sign that a rule does not begin with. -/
theorem isGroup_eq_false (h : (trim prelude).head? ≠ some '@') :
    isGroup (trim prelude) = false := by
  refine Bool.eq_false_iff.mpr fun hgroup => h ?_
  obtain ⟨mark, hmark, rest, hrest⟩ := isGroup_iff.mp hgroup
  have hsign : ∀ mark ∈ groupMarks, mark.toList.head? = some '@' := by decide
  rw [← hrest, List.head?_append, hsign mark hmark]
  rfl

/-- A plain text in front of a brace is what the block is opened with. -/
theorem blocksFrom_prelude (hplain : Item.IsPlain prelude) (hgroup : isGroup (trim prelude) = false)
    (groups : Nat) {body : List Char} (hbody : IsBalanced 0 body) (rest : List Char) :
    blocksFrom groups (.between []) (prelude ++ '\x7b' :: (body ++ '\x7d' :: rest)) =
      (blocksFrom groups (.between []) rest).map fun found =>
        if isAtRule (trim prelude) then found else (trim prelude, body) :: found := by
  have hback : (prelude.reverse ++ []).reverse = prelude := by simp
  rw [blocksFrom_between_append hplain, blocksFrom_between_body (by rwa [hback]), hback]
  have hskip := blocksFrom_body_append hbody groups (trim prelude) 0 [] ('\x7d' :: rest)
  rw [Nat.add_zero] at hskip
  rw [hskip, blocksFrom_body_last]
  simp

mutual

/-- The walk finds the rules of an item and goes on behind it. -/
theorem blocksFrom_chars : (item : Item) → item.IsProper → (groups : Nat) → (rest : List Char) →
    blocksFrom groups (.between []) (item.chars ++ rest) =
      (blocksFrom groups (.between []) rest).map (item.rules ++ ·)
  | .rule selector body, ⟨hplain, hsign, hopen, hclose⟩, groups, rest => by
    have hrule : isAtRule (trim selector) = false := by simpa [isAtRule] using hsign
    have hwalk := blocksFrom_prelude hplain (isGroup_eq_false hsign) groups
      (isBalanced_of_not_mem hopen hclose) rest
    rw [hrule] at hwalk
    simpa [Item.chars, Item.rules] using hwalk
  | .group prelude items tail, ⟨hplain, hgroup, hitems, htail⟩, groups, rest => by
    have hback : (prelude.reverse ++ []).reverse = prelude := by simp
    have hopen : isGroup (trim (prelude.reverse ++ []).reverse) = true := by
      rw [hback]
      exact isGroup_iff.mpr hgroup
    have hchars : (Item.group prelude items tail).chars ++ rest =
        prelude ++ '\x7b' :: (Item.charsAll items ++ (tail ++ '\x7d' :: rest)) := by
      simp [Item.chars]
    rw [hchars, blocksFrom_between_append hplain, blocksFrom_between_group hopen,
      blocksFrom_charsAll items hitems, blocksFrom_between_append htail, blocksFrom_between_close,
      Item.rules]
  | .block prelude body, ⟨hplain, hsign, hgroup, hbody⟩, groups, rest => by
    have hrule : isAtRule (trim prelude) = true := by simpa [isAtRule] using hsign
    have hnone : isGroup (trim prelude) = false :=
      Bool.eq_false_iff.mpr fun h => hgroup (isGroup_iff.mp h)
    have hwalk := blocksFrom_prelude hplain hnone groups hbody rest
    rw [hrule] at hwalk
    simpa [Item.chars, Item.rules] using hwalk
  | .statement text, hplain, groups, rest => by
    have hchars : (Item.statement text).chars ++ rest = text ++ ';' :: rest := by
      simp [Item.chars]
    rw [hchars, blocksFrom_between_append hplain, blocksFrom_between_semicolon]
    simp [Item.rules]

/-- The walk finds the rules of some items and goes on behind them. -/
theorem blocksFrom_charsAll : (items : List Item) → Item.AreProper items → (groups : Nat) →
    (rest : List Char) →
    blocksFrom groups (.between []) (Item.charsAll items ++ rest) =
      (blocksFrom groups (.between []) rest).map (Item.rulesAll items ++ ·)
  | [], _, groups, rest => by simp [Item.charsAll, Item.rulesAll]
  | item :: items, ⟨hitem, hitems⟩, groups, rest => by
    rw [Item.charsAll, List.append_assoc, blocksFrom_chars item hitem,
      blocksFrom_charsAll items hitems, Option.map_map, Item.rulesAll]
    refine congrArg (Option.map · _) (funext fun found => ?_)
    exact (List.append_assoc _ _ _).symm

end

/-- The rules of a stylesheet that is written from items are those of its items. -/
theorem blocks_charsAll {items : List Item} (hitems : Item.AreProper items) {tail : List Char}
    (htail : Item.IsPlain tail) :
    blocks (Item.charsAll items ++ tail) = some (Item.rulesAll items) := by
  have hend := blocksFrom_between_append htail 0 [] []
  rw [List.append_nil] at hend
  rw [blocks, blocksFrom_charsAll items hitems, hend, blocksFrom, if_pos rfl, Option.map_some,
    List.append_nil]

/-! ### Rules that give a section a background -/

/-- The selector holds one of the marks of sections, be it in capital letters. -/
def NamesSection (selector : List Char) : Prop :=
  ∃ mark ∈ sectionMarks, mark.toList <:+: lower selector

/-- The body declares a background that is not empty. -/
def HasBackground (body : List Char) : Prop :=
  ∃ value ∈ (Backgrounds.read body).values, value ≠ ""

instance (selector : List Char) : Decidable (NamesSection selector) :=
  inferInstanceAs (Decidable (∃ mark ∈ sectionMarks, mark.toList <:+: lower selector))

instance (body : List Char) : Decidable (HasBackground body) :=
  inferInstanceAs (Decidable (∃ value ∈ (Backgrounds.read body).values, value ≠ ""))

/-- The rules among some that give a section a background. -/
def sectionRules (found : List (List Char × List Char)) : List StyleRule :=
  (found.filter fun rule => NamesSection rule.1 ∧ HasBackground rule.2).map fun rule =>
    ⟨String.ofList rule.1, Backgrounds.read rule.2⟩

theorem isSectionSelector_iff {selector : List Char} :
    isSectionSelector selector = true ↔ NamesSection selector := by
  simp only [isSectionSelector, List.any_eq_true, contains_iff, NamesSection]

theorem isSome_effective?_iff {body : List Char} :
    (Backgrounds.read body).effective?.isSome = true ↔ HasBackground body := by
  simp only [Backgrounds.effective?, List.find?_isSome, bne_iff_ne, HasBackground]

/-- The rules of a stylesheet are those that give a section a background. -/
theorem rules_eq (css : List Char) :
    rules css = sectionRules ((blocks (withoutComments css)).getD []) := by
  rw [rules, sectionRules, List.filter_map, List.filter_filter]
  refine congrArg (List.map _) (List.filter_congr fun rule _ => ?_)
  obtain ⟨selector, body⟩ := rule
  rw [Bool.eq_iff_iff, Bool.and_eq_true, decide_eq_true_iff, and_comm]
  exact and_congr isSectionSelector_iff isSome_effective?_iff

/-- There is no answer exactly where the braces do not balance, and of a stylesheet that is written
from items without comments the answer is exactly its rules, in order; those of them are kept whose
selector names a section and whose body has a background. -/
theorem blocks_and_rules :
    (∀ css, blocks css = none ↔
      (∃ front, front <+: css ∧ front.count '\x7b' < front.count '\x7d') ∨
        css.count '\x7b' ≠ css.count '\x7d') ∧
    ∀ items tail, Item.AreProper items → Item.IsPlain tail →
      IsCommentFree (Item.charsAll items ++ tail) →
        blocks (Item.charsAll items ++ tail) = some (Item.rulesAll items) ∧
        rules (Item.charsAll items ++ tail) = sectionRules (Item.rulesAll items) := by
  refine ⟨fun css => blocks_eq_none_iff, fun items tail hitems htail hfree => ?_⟩
  have hblocks := blocks_charsAll hitems htail
  refine ⟨hblocks, ?_⟩
  rw [rules_eq, withoutComments_eq_self hfree, hblocks, Option.getD_some]

/-- A statement, a group inside a group, a block with braces that is no group, and a rule that has
no background. -/
def nestedItems : List Item :=
  [.statement "@import url(a.css)".toList,
   .group "\n@media print ".toList
     [.group "@supports (x: y)".toList [.rule " .Hero-1 ".toList "background: red".toList] [],
      .rule ".card".toList "background: blue".toList] " ".toList,
   .block "@keyframes a".toList "from \x7b\x7d".toList,
   .rule "\n.row".toList "color: red".toList]

/-- Only the rule inside both groups is kept, with its selector trimmed. -/
theorem blocks_and_rules_nested :
    Item.AreProper nestedItems ∧ Item.IsPlain ['\n'] ∧
      IsCommentFree (Item.charsAll nestedItems ++ ['\n']) ∧
      blocks (Item.charsAll nestedItems ++ ['\n']) =
        some [(".Hero-1".toList, "background: red".toList),
          (".card".toList, "background: blue".toList), (".row".toList, "color: red".toList)] ∧
      rules (Item.charsAll nestedItems ++ ['\n']) = [⟨".Hero-1", ⟨some "red", none, none⟩⟩] := by
  have hproper : Item.AreProper nestedItems := by decide +kernel
  have hplain : Item.IsPlain ['\n'] := by decide
  have hfree : IsCommentFree (Item.charsAll nestedItems ++ ['\n']) := by
    rintro ⟨front, inner, back, h⟩
    have hstar : '*' ∈ Item.charsAll nestedItems ++ ['\n'] := by
      rw [h]
      simp [commentStart]
    exact absurd hstar (by decide +kernel)
  obtain ⟨hblocks, hrules⟩ := blocks_and_rules.2 nestedItems ['\n'] hproper hplain hfree
  have hkept : sectionRules (Item.rulesAll nestedItems) =
      [⟨".Hero-1", ⟨some "red", none, none⟩⟩] := by decide +kernel
  exact ⟨hproper, hplain, hfree, hblocks, hrules.trans hkept⟩

end Stylesheet

end PageMarkup
