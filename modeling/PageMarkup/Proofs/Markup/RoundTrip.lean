import PageMarkup.Proofs.Markup.Parts
import PageMarkup.Proofs.Markup.Tags

/-!
# Markup that is written is read back

A forest is well formed when its names are identifiers in small letters, its void elements hold
nothing, and its texts are neither empty nor neighbours and hold no opening bracket.  Reading the
markup of such a forest gives the forest, with every attribute value restored.

The proof follows the three passes of the reader.  The scan of the markup finds the tags of the
forest and passes the characters of its texts (`scan_render`).  The runs between tags are then its
texts (`ofPieces_piecesAll`), since no two texts are neighbours.  At last the growing forest gets
the items of the forest one by one (`extend_tokensOfAll`): the closing tag of an element follows
its children, and when it comes everything opened since is closed.
-/

namespace PageMarkup

open Text

namespace Markup

/-! ### Well-formed forests -/

/-- The item is a text. -/
def isText : Markup → Bool
  | text _ => true
  | element _ _ => false

/-- The first item is a text. -/
def beginsWithText (items : List Markup) : Bool :=
  items.head?.any isText

/-- The last item is a text. -/
def endsWithText (items : List Markup) : Bool :=
  items.getLast?.any isText

mutual

/-- The item can be told from its markup. -/
def IsWellFormed : Markup → Prop
  | text content => content ≠ "" ∧ '[' ∉ content.toList
  | element tag children =>
    tag.IsProper ∧ (isVoid tag.name = true → children = []) ∧ AreWellFormed children

/-- The items can be told from their markup; in particular no two texts are neighbours. -/
def AreWellFormed : List Markup → Prop
  | [] => True
  | item :: items =>
    IsWellFormed item ∧ ¬ (isText item = true ∧ beginsWithText items = true) ∧ AreWellFormed items

end

/-- Two well-formed forests make up a well-formed one unless two texts meet. -/
theorem areWellFormed_append {items others : List Markup} (hitems : AreWellFormed items)
    (hothers : AreWellFormed others)
    (hseam : ¬ (endsWithText items = true ∧ beginsWithText others = true)) :
    AreWellFormed (items ++ others) := by
  induction items with
  | nil => exact hothers
  | cons item items ih =>
    obtain ⟨hitem, hnext, hrest⟩ := hitems
    refine ⟨hitem, ?_, ?_⟩
    · cases items with
      | nil =>
        intro h
        exact hseam ⟨by simpa [endsWithText] using h.1, h.2⟩
      | cons next items => exact hnext
    · refine ih hrest fun h => hseam ⟨?_, h.2⟩
      cases items with
      | nil => simp [endsWithText] at h
      | cons next items => simpa [endsWithText] using h.1

/-! ### Deciding whether a forest is well formed -/

instance (tag : Tag) : Decidable tag.IsProper :=
  decidable_of_iff (isElementName tag.name = true ∧
      (∀ entry ∈ tag.attributes, isAttributeName entry.1 = true) ∧
      (tag.attributes.map Prod.fst).Nodup)
    ⟨fun ⟨hname, hnames, hnodup⟩ => ⟨hname, hnames, hnodup⟩,
      fun h => ⟨h.isElementName, h.isAttributeName, h.nodup⟩⟩

mutual

/-- An item can be told from its markup or not. -/
def decidableIsWellFormed : (item : Markup) → Decidable (IsWellFormed item)
  | text content => inferInstanceAs (Decidable (content ≠ "" ∧ '[' ∉ content.toList))
  | element tag children =>
    have := decidableAreWellFormed children
    inferInstanceAs (Decidable
      (tag.IsProper ∧ (isVoid tag.name = true → children = []) ∧ AreWellFormed children))

/-- The items can be told from their markup or not. -/
def decidableAreWellFormed : (items : List Markup) → Decidable (AreWellFormed items)
  | [] => .isTrue trivial
  | item :: items =>
    have := decidableIsWellFormed item
    have := decidableAreWellFormed items
    inferInstanceAs (Decidable (IsWellFormed item ∧
      ¬ (isText item = true ∧ beginsWithText items = true) ∧ AreWellFormed items))

end

/-! ### The scan of the markup -/

mutual

/-- The parts that a scan for tags finds in the markup of an item. -/
def pieces : Markup → List (Piece TagToken)
  | text content => content.toList.map .char
  | element tag children =>
    if isVoid tag.name then [.found ⟨false, tag⟩ tag.opening]
    else
      .found ⟨false, tag⟩ tag.opening ::
        (piecesAll children ++ [.found ⟨true, ⟨tag.name, []⟩⟩ tag.closing])

/-- The parts that a scan for tags finds in the markup of some items. -/
def piecesAll : List Markup → List (Piece TagToken)
  | [] => []
  | item :: items => pieces item ++ piecesAll items

end

theorem opening_ne_nil (tag : Tag) : tag.opening ≠ [] := by
  simp [Tag.opening]

theorem closing_ne_nil (tag : Tag) : tag.closing ≠ [] := by
  simp [Tag.closing]

mutual

/-- The scan of a well-formed item finds its parts. -/
theorem scan_render : (item : Markup) → IsWellFormed item → (rest : List Char) →
    scan readTag (render item ++ rest) = pieces item ++ scan readTag rest
  | text content, h, rest => by
    refine scan_append_of_forall (fun c hc cs => readTag_cons_of_ne ?_ cs) rest
    rintro rfl
    exact h.2 hc
  | element tag children, ⟨hproper, hvoid, hchildren⟩, rest => by
    rw [render, pieces]
    split
    · exact scan_append_of_some (opening_ne_nil tag) (readTag_opening hproper rest)
    · have hopening := scan_append_of_some (opening_ne_nil tag)
        (readTag_opening hproper (renderAll children ++ (tag.closing ++ rest)))
      have hclosing := scan_append_of_some (closing_ne_nil tag) (readTag_closing hproper rest)
      rw [Tag.around, List.append_assoc, List.append_assoc, hopening,
        scan_renderAll children hchildren, hclosing]
      simp

/-- The scan of a well-formed forest finds its parts. -/
theorem scan_renderAll : (items : List Markup) → AreWellFormed items → (rest : List Char) →
    scan readTag (renderAll items ++ rest) = piecesAll items ++ scan readTag rest
  | [], _, rest => rfl
  | item :: items, ⟨hitem, _, hitems⟩, rest => by
    rw [renderAll, piecesAll, List.append_assoc, scan_render item hitem,
      scan_renderAll items hitems, List.append_assoc]

end

/-- The scan of the markup of a well-formed forest finds the parts of the forest. -/
theorem scan_renderAll_eq {items : List Markup} (h : AreWellFormed items) :
    scan readTag (renderAll items) = piecesAll items := by
  have hscan := scan_renderAll items h []
  rwa [List.append_nil, scan_nil, List.append_nil] at hscan

/-! ### Tokens -/

mutual

/-- The tokens of an item. -/
def tokensOf : Markup → List Token
  | text content => [.text content]
  | element tag children =>
    if isVoid tag.name then [.opening tag]
    else .opening tag :: (tokensOfAll children ++ [.closing tag.name])

/-- The tokens of some items. -/
def tokensOfAll : List Markup → List Token
  | [] => []
  | item :: items => tokensOf item ++ tokensOfAll items

end

/-- The parts end a run of text: they begin with a tag, or there are none. -/
def EndsRun (parts : List (Piece TagToken)) : Prop :=
  ∀ run, Token.ofPieces run parts = Token.ofRun run ++ Token.ofPieces [] parts

theorem endsRun_nil : EndsRun [] := by
  intro run
  simp [Token.ofPieces, Token.ofRun]

theorem endsRun_found (token : TagToken) (source : List Char) (parts : List (Piece TagToken)) :
    EndsRun (.found token source :: parts) := by
  intro run
  simp [Token.ofPieces, Token.ofRun]

/-- Passed characters make the run of text longer. -/
theorem ofPieces_map_char (run cs : List Char) (parts : List (Piece TagToken)) :
    Token.ofPieces run (cs.map .char ++ parts) = Token.ofPieces (cs.reverse ++ run) parts := by
  rw [← Part.map_token_ofPieces, Part.ofPieces_map_char, Part.map_token_ofPieces]

/-- A forest that does not begin with a text ends a run of text, if what follows it does. -/
theorem endsRun_piecesAll {items : List Markup} (h : beginsWithText items = false)
    {parts : List (Piece TagToken)} (hparts : EndsRun parts) :
    EndsRun (piecesAll items ++ parts) := by
  cases items with
  | nil => exact hparts
  | cons item items =>
    cases item with
    | text content => simp [beginsWithText, isText] at h
    | element tag children =>
      rw [piecesAll, pieces]
      split
      · exact endsRun_found _ _ _
      · exact endsRun_found _ _ _

/-- The run of a text that is not empty is the text. -/
theorem ofRun_reverse {content : String} (h : content ≠ "") :
    Token.ofRun (content.toList.reverse ++ []) = [.text content] := by
  have hne : content.toList ≠ [] := by simpa using h
  simp [Token.ofRun, hne]

mutual

/-- The parts of a well-formed item give its tokens. -/
theorem ofPieces_pieces : (item : Markup) → IsWellFormed item →
    (parts : List (Piece TagToken)) → (isText item = true → EndsRun parts) →
    Token.ofPieces [] (pieces item ++ parts) = tokensOf item ++ Token.ofPieces [] parts
  | text content, h, parts, hparts => by
    rw [pieces, ofPieces_map_char, hparts rfl, ofRun_reverse h.1, tokensOf]
  | element tag children, ⟨_, _, hchildren⟩, parts, _ => by
    rw [pieces, tokensOf]
    split
    · simp [Token.ofPieces, Token.ofRun]
    · have hrest := ofPieces_piecesAll children hchildren
        (.found ⟨true, ⟨tag.name, []⟩⟩ tag.closing :: parts) (endsRun_found _ _ _)
      simp only [List.cons_append, List.append_assoc, List.nil_append] at hrest ⊢
      simp [Token.ofPieces, Token.ofRun, hrest]

/-- The parts of a well-formed forest give its tokens. -/
theorem ofPieces_piecesAll : (items : List Markup) → AreWellFormed items →
    (parts : List (Piece TagToken)) → EndsRun parts →
    Token.ofPieces [] (piecesAll items ++ parts) = tokensOfAll items ++ Token.ofPieces [] parts
  | [], _, parts, _ => rfl
  | item :: items, ⟨hitem, hnext, hitems⟩, parts, hparts => by
    have hend : isText item = true → EndsRun (piecesAll items ++ parts) := by
      intro htext
      refine endsRun_piecesAll ?_ hparts
      rw [Bool.eq_false_iff]
      exact fun hbegins => hnext ⟨htext, hbegins⟩
    rw [piecesAll, tokensOfAll, List.append_assoc, ofPieces_pieces item hitem _ hend,
      ofPieces_piecesAll items hitems parts hparts, List.append_assoc]

end

/-- The tokens of the markup of a well-formed forest are the tokens of the forest. -/
theorem tokens_renderAll {items : List Markup} (h : AreWellFormed items) :
    tokens (renderAll items) = tokensOfAll items := by
  have htokens := ofPieces_piecesAll items h [] endsRun_nil
  rw [List.append_nil] at htokens
  rw [tokens, scan_renderAll_eq h, htokens]
  simp [Token.ofPieces, Token.ofRun]

/-! ### The growing forest -/

namespace Growth

/-- Add items one by one. -/
def addAll : List Markup → Growth → Growth
  | [], growth => growth
  | item :: items, growth => addAll items (growth.add item)

/-- Added items stand inside the innermost open element, the last first. -/
theorem addAll_cons (items : List Markup) (tag : Tag) (held : List Markup)
    (pending : List OpenElement) (roots : List Markup) :
    addAll items ⟨⟨tag, held⟩ :: pending, roots⟩ =
      ⟨⟨tag, items.reverse ++ held⟩ :: pending, roots⟩ := by
  induction items generalizing held with
  | nil => rfl
  | cons item items ih =>
    rw [addAll, add, ih]
    simp

/-- Added items stand at the end, the last first, where nothing is open. -/
theorem addAll_nil (items roots : List Markup) :
    addAll items ⟨[], roots⟩ = ⟨[], items.reverse ++ roots⟩ := by
  induction items generalizing roots with
  | nil => rfl
  | cons item items ih =>
    rw [addAll, add, ih]
    simp

/-- Closing the element that was opened last gives the element with what was added since. -/
theorem close_addAll_push (growth : Growth) (tag : Tag) (children : List Markup) :
    (addAll children (growth.push tag)).close tag.name = growth.add (.element tag children) := by
  rw [push, addAll_cons, close]
  simp [closeThrough]

mutual

/-- The tokens of a well-formed item add the item. -/
theorem extend_tokensOf : (item : Markup) → IsWellFormed item → (growth : Growth) →
    (rest : List Token) →
    growth.extend (tokensOf item ++ rest) = (growth.add item).extend rest
  | text content, _, growth, rest => rfl
  | element tag children, ⟨_, hvoid, hchildren⟩, growth, rest => by
    rw [tokensOf]
    split
    · rename_i hname
      rw [hvoid hname]
      simp [extend, hname]
    · rename_i hname
      have hinside := extend_tokensOfAll children hchildren (growth.push tag)
        (.closing tag.name :: rest)
      simp only [List.cons_append, List.append_assoc, List.nil_append]
      rw [extend]
      simp only [hname, List.contains_eq_mem, List.mem_append, List.mem_cons, true_or, or_true,
        decide_true, Bool.not_false, Bool.and_self, if_true]
      rw [hinside, extend, close_addAll_push]

/-- The tokens of a well-formed forest add its items one by one. -/
theorem extend_tokensOfAll : (items : List Markup) → AreWellFormed items → (growth : Growth) →
    (rest : List Token) →
    growth.extend (tokensOfAll items ++ rest) =
      (addAll items growth).extend rest
  | [], _, growth, rest => rfl
  | item :: items, ⟨hitem, _, hitems⟩, growth, rest => by
    rw [tokensOfAll, List.append_assoc, extend_tokensOf item hitem,
      extend_tokensOfAll items hitems, addAll]

end

/-- A forest that has grown from nothing by the tokens of a well-formed forest is that forest. -/
theorem finish_extend_tokensOfAll {items : List Markup} (h : AreWellFormed items) :
    (empty.extend (tokensOfAll items)).finish = items := by
  have hextend := extend_tokensOfAll items h empty []
  rw [List.append_nil, empty, addAll_nil] at hextend
  rw [empty, hextend, extend]
  simp [finish, closeThrough]

end Growth

end Markup

/-! ### The round trip -/

namespace Forest

/-- The forest can be told from its markup: its names are identifiers in small letters, no
attribute occurs twice in a tag, void elements hold nothing, and texts are neither empty nor
neighbours and hold no opening bracket. -/
def IsWellFormed (forest : Forest) : Prop :=
  Markup.AreWellFormed forest

instance (forest : Forest) : Decidable forest.IsWellFormed :=
  Markup.decidableAreWellFormed forest

/-- Reading the markup of a well-formed forest gives the forest: every element with its name, its
attributes and what it holds, every attribute value restored character for character, and every
text. -/
theorem read_render {forest : Forest} (h : forest.IsWellFormed) : read forest.render = forest := by
  rw [read, render, Markup.tokens_renderAll h, Markup.Growth.finish_extend_tokensOfAll h]

/-- Boxes inside and after boxes of the same name, elements that never hold anything, and values
that hold quotes, brackets, line ends and references. -/
def boxes : Forest :=
  [.element ⟨"box", [("title", "a \"b\" [c]\n&amp;"), ("_x-1", "")]⟩
    [.text "\n", .element ⟨"box", []⟩ [], .element ⟨"image", [("src", "[/box]")]⟩ [], .text "]"],
   .element ⟨"box", []⟩ [.element ⟨"box", [("id", "&#91;'<>")]⟩ [.text "&amp; \""]],
   .text " end "]

/-- The boxes are well formed, so they are read back. -/
theorem read_render_boxes : boxes.IsWellFormed ∧ read boxes.render = boxes :=
  ⟨by decide +kernel, read_render (by decide +kernel)⟩

end Forest

end PageMarkup
