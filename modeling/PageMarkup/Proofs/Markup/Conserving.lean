import Mathlib.Data.List.Forall2
import PageMarkup.Proofs.Markup.Parts
import PageMarkup.Proofs.Markup.Shape
import PageMarkup.Proofs.Markup.Stack

/-!
# What is read is kept

Every run of a text and every opening tag becomes an item of the forest, in the order of the text,
and nothing else does.  The invariant of the run relates what stands on the stack, read from the
outside in and from the front to the back, to the parts that have been read: closing an element
changes neither what stands there nor its order.  An element is opened only if it can hold
something and a closing tag of its name is still to come, so no other element holds anything.
-/

namespace PageMarkup

open Text

namespace Markup

/-! ### The items of a forest in order -/

/-- A text or an element, and whether it holds something. -/
structure Entry where
  token : Token
  holds : Bool
  deriving DecidableEq, Repr

mutual

/-- An item, and behind it what it holds. -/
def entries : Markup → List Entry
  | text content => [⟨.text content, false⟩]
  | element tag children => ⟨.opening tag, !children.isEmpty⟩ :: entriesAll children

/-- The items of a forest with what they hold, an element before its children. -/
def entriesAll : List Markup → List Entry
  | [] => []
  | item :: items => entries item ++ entriesAll items

end

@[simp] theorem entriesAll_append (items others : List Markup) :
    entriesAll (items ++ others) = entriesAll items ++ entriesAll others := by
  induction items with
  | nil => rfl
  | cons item items ih => simp [entriesAll, ih]

/-- One more item at the end, where the last stands first. -/
theorem entriesAll_reverse_cons (item : Markup) (items : List Markup) :
    entriesAll (item :: items).reverse = entriesAll items.reverse ++ entries item := by
  simp [entriesAll]

namespace Stack

/-- What stands on a stack: that of an element behind the element itself, and in front of both what
stands below.  An open element may be about to hold something. -/
def entries : Stack → List Entry
  | [] => []
  | [root] => entriesAll root.held.reverse
  | top :: below :: rest =>
    entries (below :: rest) ++ ⟨.opening top.tag, true⟩ :: entriesAll top.held.reverse

variable {stack : Stack}

/-- What is added comes last. -/
theorem entries_attach (h : stack ≠ []) (item : Markup) :
    entries (attach item stack) = entries stack ++ Markup.entries item := by
  match stack with
  | [root] => exact entriesAll_reverse_cons item root.held
  | top :: below :: rest =>
    rw [attach, entries, entries, entriesAll_reverse_cons, List.append_assoc, List.cons_append]

/-- An element that is opened comes last. -/
theorem entries_cons (h : stack ≠ []) (tag : Tag) :
    entries (⟨tag, []⟩ :: stack) = entries stack ++ [⟨.opening tag, true⟩] := by
  match stack with
  | below :: rest => rfl

end Stack

/-! ### What has been read -/

/-- The parts of a text that are found in its forest, each with the parts behind it. -/
def kept : List Part → List (Part × List Part)
  | [] => []
  | part :: parts => if part.isClosing then kept parts else (part, parts) :: kept parts

/-- An item comes from a part.  If it holds something, it is not one of the elements that never do,
and a closing tag of its name is behind the part. -/
structure ComesFrom (entry : Entry) (place : Part × List Part) : Prop where
  token : entry.token = place.1.token
  closed : entry.holds = true → ∃ tag, entry.token = .opening tag ∧ isVoid tag.name = false ∧
    .closing tag.name ∈ place.2.map Part.token

/-- What stands on the stack comes from the parts that have been read, in their order. -/
def Conserves (parts : List Part) (config : Config) : Prop :=
  ∃ read rest, kept parts = read ++ kept rest ∧ rest.map Part.token = config.rest ∧
    List.Forall₂ ComesFrom config.stack.entries read

theorem Part.isClosing_eq_false_of_text {part : Part} {content : String}
    (h : part.token = .text content) : part.isClosing = false := by
  cases part with
  | run chars => rfl
  | tag token source =>
    rw [Part.token] at h
    split at h <;> cases h

theorem Part.isClosing_eq_false_of_opening {part : Part} {tag : Tag}
    (h : part.token = .opening tag) : part.isClosing = false := by
  cases part with
  | run chars => rfl
  | tag token source =>
    rw [Part.token] at h
    split at h
    · cases h
    · rename_i hclosing
      exact Bool.eq_false_iff.mpr hclosing

theorem Part.isClosing_of_closing {part : Part} {name : String}
    (h : part.token = .closing name) : part.isClosing = true := by
  cases part with
  | run chars => cases h
  | tag token source =>
    rw [Part.token] at h
    split at h
    · rename_i hclosing
      exact hclosing
    · cases h

/-- The entry of an element that is closed may hold less than it could have held. -/
theorem forall₂_append_cons {entry entry' : Entry} (h : ∀ place, ComesFrom entry place →
    ComesFrom entry' place) {front back : List Entry} {read : List (Part × List Part)}
    (hread : List.Forall₂ ComesFrom (front ++ entry :: back) read) :
    List.Forall₂ ComesFrom (front ++ entry' :: back) read := by
  induction front generalizing read with
  | nil =>
    cases hread with
    | cons hfirst hrest => exact .cons (h _ hfirst) hrest
  | cons first front ih =>
    cases hread with
    | cons hfirst hrest => exact .cons hfirst (ih hrest)

/-- Closing the innermost element leaves everything where it is. -/
theorem forall₂_entries_closeTop {stack : Stack} {read : List (Part × List Part)}
    (h : List.Forall₂ ComesFrom stack.entries read) :
    List.Forall₂ ComesFrom stack.closeTop.entries read := by
  match stack with
  | [] => exact h
  | [root] => exact h
  | top :: below :: rest =>
    rw [Stack.closeTop, Stack.entries_attach (List.cons_ne_nil _ _)]
    refine forall₂_append_cons (fun place hplace => ?_) h
    exact ⟨hplace.token, fun _ => hplace.closed rfl⟩

/-- A part that is no closing tag becomes the last entry. -/
theorem conserves_reading {parts behind : List Part} {read : List (Part × List Part)} {part : Part}
    {stack stack' : Stack} {entry : Entry} (hparts : kept parts = read ++ kept (part :: behind))
    (hentries : List.Forall₂ ComesFrom stack.entries read) (hclosing : part.isClosing = false)
    (hentry : ComesFrom entry (part, behind)) (hstack : stack'.entries = stack.entries ++ [entry]) :
    Conserves parts (.reading stack' (behind.map Part.token)) := by
  refine ⟨read ++ [(part, behind)], behind, ?_, rfl, ?_⟩
  · rw [hparts, kept, hclosing]
    simp
  · rw [Config.stack, hstack]
    exact List.rel_append hentries (.cons hentry .nil)

/-- Every step conserves what has been read. -/
theorem Conserves.next {parts : List Part} {config : Config} (h : Conserves parts config)
    (hne : config.stack ≠ []) : Conserves parts config.next := by
  obtain ⟨read, behind, hparts, hbehind, hentries⟩ := h
  cases config with
  | closing height stack rest =>
    rw [Config.next]
    split
    · exact ⟨read, behind, hparts, hbehind, forall₂_entries_closeTop hentries⟩
    · exact ⟨read, behind, hparts, hbehind, hentries⟩
  | ending stack =>
    rw [Config.next]
    split
    · exact ⟨read, behind, hparts, hbehind, forall₂_entries_closeTop hentries⟩
    · exact ⟨read, behind, hparts, hbehind, hentries⟩
  | reading stack rest =>
    cases rest with
    | nil => exact ⟨read, behind, hparts, hbehind, hentries⟩
    | cons token rest =>
      obtain ⟨part, behind, rfl, htoken, rfl⟩ := List.map_eq_cons_iff.mp hbehind
      have hstack : stack ≠ [] := hne
      cases token with
      | text run =>
        have hclosing := Part.isClosing_eq_false_of_text htoken
        refine conserves_reading hparts hentries hclosing ⟨htoken.symm, ?_⟩
          (Stack.entries_attach hstack _)
        exact fun hholds => absurd hholds Bool.false_ne_true
      | closing name =>
        -- a closing tag is no part that is kept, whatever it closes
        have hkept : kept (part :: behind) = kept behind := by
          rw [kept, if_pos (Part.isClosing_of_closing htoken)]
        rw [hkept] at hparts
        rw [Config.next]
        split
        · exact ⟨read, behind, hparts, rfl, hentries⟩
        · exact ⟨read, behind, hparts, rfl, hentries⟩
      | opening tag =>
        have hclosing := Part.isClosing_eq_false_of_opening htoken
        rw [Config.next]
        split
        · rename_i hopen
          rw [Bool.and_eq_true, Bool.not_eq_true', List.contains_iff_mem] at hopen
          exact conserves_reading hparts hentries hclosing
            ⟨htoken.symm, fun _ => ⟨tag, rfl, hopen.1, hopen.2⟩⟩ (Stack.entries_cons hstack tag)
        · refine conserves_reading hparts hentries hclosing ⟨htoken.symm, ?_⟩
            (Stack.entries_attach hstack _)
          exact fun hholds => absurd hholds Bool.false_ne_true

/-- At every time of a run, what stands on the stack comes from what has been read. -/
theorem conserves_after (steps : Nat) (cs : List Char) :
    Conserves (parts cs) (Config.after steps cs) := by
  induction steps with
  | zero => exact ⟨[], parts cs, rfl, map_token_parts cs, .nil⟩
  | succ steps ih =>
    rw [Config.after_succ]
    exact ih.next (Config.stack_after_ne_nil steps cs)

/-- The items of a forest that was read come from the parts of the text. -/
theorem forall₂_entriesAll_read (cs : List Char) :
    List.Forall₂ ComesFrom (entriesAll (Forest.read cs)) (kept (parts cs)) := by
  obtain ⟨steps, hsteps⟩ := Config.exists_after_eq cs
  have hconserves := conserves_after steps cs
  rw [hsteps] at hconserves
  obtain ⟨read, rest, hparts, hrest, hentries⟩ := hconserves
  obtain rfl : rest = [] := List.map_eq_nil_iff.mp hrest
  rw [kept, List.append_nil] at hparts
  rw [hparts]
  rwa [Config.stack, Stack.entries, List.reverse_reverse] at hentries

/-! ### The texts -/

/-- The text of an entry. -/
def Entry.text? (entry : Entry) : Option String :=
  match entry.token with
  | .text content => some content
  | _ => none

/-- The text of a part. -/
def Part.text? : Part → Option String
  | run chars => some (String.ofList chars)
  | tag _ _ => none

mutual

theorem filterMap_entries : (item : Markup) → (entries item).filterMap Entry.text? = texts item
  | text _ => rfl
  | element tag children => by
    rw [entries, List.filterMap_cons_none rfl, filterMap_entriesAll children, texts]

/-- The texts of a forest are those of its entries. -/
theorem filterMap_entriesAll :
    (items : List Markup) → (entriesAll items).filterMap Entry.text? = textsAll items
  | [] => rfl
  | item :: items => by
    rw [entriesAll, List.filterMap_append, filterMap_entries item, filterMap_entriesAll items,
      textsAll]

end

theorem ComesFrom.text?_eq {entry : Entry} {place : Part × List Part} (h : ComesFrom entry place) :
    entry.text? = place.1.text? := by
  obtain ⟨part, behind⟩ := place
  rw [Entry.text?, h.token]
  cases part with
  | run chars => rfl
  | tag token source =>
    rw [Part.token]
    cases token.closing <;> rfl

theorem filterMap_kept (parts : List Part) :
    (kept parts).filterMap (fun place => place.1.text?) = parts.filterMap Part.text? := by
  induction parts with
  | nil => rfl
  | cons part parts ih =>
    rw [kept]
    cases part with
    | run chars =>
      rw [if_neg (by simp [Part.isClosing]), List.filterMap_cons, List.filterMap_cons, ih]
    | tag token source =>
      rw [List.filterMap_cons_none rfl]
      split
      · exact ih
      · rw [List.filterMap_cons_none rfl, ih]

/-- The texts of a forest that was read are the runs of the text. -/
theorem textsAll_read (cs : List Char) :
    textsAll (Forest.read cs) = (parts cs).filterMap Part.text? := by
  have hread := forall₂_entriesAll_read cs
  rw [← filterMap_entriesAll, ← filterMap_kept]
  generalize entriesAll (Forest.read cs) = entries at hread
  generalize kept (parts cs) = places at hread
  induction hread with
  | nil => rfl
  | cons hfirst _ ih => rw [List.filterMap_cons, List.filterMap_cons, hfirst.text?_eq, ih]

/-- The runs make up the text without its tags. -/
theorem flatMap_toList_filterMap (parts : List Part) :
    (parts.filterMap Part.text?).flatMap String.toList = parts.flatMap Part.outside := by
  induction parts with
  | nil => rfl
  | cons part parts ih =>
    cases part with
    | run chars =>
      have hrun : Part.text? (.run chars) = some (String.ofList chars) := rfl
      rw [List.filterMap_cons_some hrun, List.flatMap_cons, ih, String.toList_ofList,
        List.flatMap_cons, Part.outside]
    | tag token source => rw [List.filterMap_cons_none rfl, ih, List.flatMap_cons]; rfl

/-- No run of a text is empty. -/
theorem IsCut.empty_not_mem {cs : List Char} {parts : List Part} (h : IsCut cs parts) :
    "" ∉ parts.filterMap Part.text? := by
  induction h with
  | nil => exact List.not_mem_nil
  | @run run _ _ hne _ _ _ ih =>
    have hrun : Part.text? (.run run) = some (String.ofList run) := rfl
    rw [List.filterMap_cons_some hrun, List.mem_cons, not_or]
    refine ⟨fun hempty => hne ?_, ih⟩
    have hchars := congrArg String.toList hempty
    rw [String.toList_ofList (l := run)] at hchars
    exact hchars.symm
  | tag _ _ ih =>
    rw [List.filterMap_cons_none rfl]
    exact ih

/-- Reading conserves the text: it can be cut in exactly one way, and the items of the forest come
one by one from the parts that are no closing tags, in their order.  The parts make up the text, the
texts make up the text without its tags, and none of them is empty.  The stack is never empty, and
the run ends with the forest. -/
theorem read_conserves (cs : List Char) :
    ∃ parts, (∀ others, IsCut cs others ↔ others = parts) ∧
      List.Forall₂ ComesFrom (entriesAll (Forest.read cs)) (kept parts) ∧
      parts.flatMap Part.source = cs ∧
      (textsAll (Forest.read cs)).flatMap String.toList = parts.flatMap Part.outside ∧
      "" ∉ textsAll (Forest.read cs) ∧
      (∀ steps, (Config.after steps cs).stack ≠ []) ∧
      ∃ steps, Config.after steps cs =
        .ending [⟨Stack.root.tag, (Forest.read cs).reverse⟩] := by
  refine ⟨parts cs, fun others => ?_, forall₂_entriesAll_read cs,
    (isCut_parts cs).flatMap_source, ?_, ?_, fun steps => Config.stack_after_ne_nil steps cs,
    Config.exists_after_eq cs⟩
  · constructor
    · exact IsCut.eq_parts
    · rintro rfl
      exact isCut_parts cs
  · rw [textsAll_read, flatMap_toList_filterMap]
  · rw [textsAll_read]
    exact (isCut_parts cs).empty_not_mem

/-- A closing tag of what is not open is dropped, and one of what is open closes what is inside. -/
example : entriesAll (Forest.read "[/row][box][text]a[/box]b[/text]".toList) =
    [⟨.opening ⟨"box", []⟩, true⟩, ⟨.opening ⟨"text", []⟩, true⟩, ⟨.text "a", false⟩,
     ⟨.text "b", false⟩] := by
  decide +kernel

end Markup

end PageMarkup
