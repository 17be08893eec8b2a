import PageMarkup.Markup.Query
import PageMarkup.Proofs.Markup.RoundTrip
import PageMarkup.Proofs.Markup.Shape
import PageMarkup.Proofs.Text.Borders

/-!
# Markup inside other markup

A bracket inside a tag stands in a value, which ends at a quote.  So no tag reaches over a line end
behind which another tag begins, unless a quote follows; and markup that is written into an element
on lines of its own is read there as it is alone, as long as none of its tags closes what stands
around it.
-/

namespace PageMarkup

open Text

namespace Markup

/-! ### Tags at the end of a line -/

/-- Every opening bracket has a quote behind it. -/
def QuotesFollow (cs : List Char) : Prop :=
  ∀ before after, cs = before ++ '[' :: after → '"' ∈ after

theorem quotesFollow_of_notMem {cs : List Char} (h : '[' ∉ cs) : QuotesFollow cs := by
  rintro before after rfl
  exact absurd (List.mem_append_right before List.mem_cons_self) h

theorem quotesFollow_concat (cs : List Char) : QuotesFollow (cs ++ ['"']) := by
  intro before after h
  rcases List.eq_nil_or_concat after with rfl | ⟨inner, last, rfl⟩
  · have hlast := congrArg List.getLast? h
    rw [List.getLast?_concat, List.getLast?_concat] at hlast
    exact absurd (Option.some.inj hlast) (by decide)
  · rw [List.concat_eq_append, ← List.cons_append, ← List.append_assoc] at h
    rw [List.concat_eq_append, List.singleton_inj.mp (List.append_inj_right' h rfl)]
    simp

theorem QuotesFollow.append {front back : List Char} (hfront : QuotesFollow front)
    (hback : QuotesFollow back) : QuotesFollow (front ++ back) := by
  intro before after h
  rcases List.append_eq_append_iff.mp h with ⟨more, rfl, hmore⟩ | ⟨more, rfl, hmore⟩
  · exact hback more after hmore
  · cases more with
    | nil => exact hback [] after hmore.symm
    | cons c more =>
      obtain ⟨rfl, rfl⟩ := List.cons.inj hmore
      exact List.mem_append_left back (hfront before more rfl)

theorem quotesFollow_flatMap_chars (items : List SpelledAttribute) :
    QuotesFollow (items.flatMap SpelledAttribute.chars) := by
  induction items with
  | nil => exact quotesFollow_of_notMem List.not_mem_nil
  | cons item items ih =>
    have hchars : item.chars = item.gap ++ (item.name ++ (item.before ++ ('=' :: (item.after ++
        ('"' :: item.value))))) ++ ['"'] := by simp [SpelledAttribute.chars]
    rw [List.flatMap_cons, hchars]
    exact (quotesFollow_concat _).append ih

/-- In a tag every opening bracket but the first has a quote behind it. -/
theorem Spells.quotesFollow {source : List Char} {token : TagToken} (h : Spells source token) :
    ∃ inside, source = '[' :: (inside ++ [']']) ∧ QuotesFollow (inside ++ [']']) := by
  obtain ⟨spelled, hproper, rfl, -⟩ := h
  let front := if spelled.closing then ['/'] else []
  let slash := if spelled.slash then ['/'] else []
  have hname : '[' ∉ spelled.name := by
    obtain ⟨c, more, hname, hc, hmore⟩ := hproper.name.exists_cons
    rw [hname, List.mem_cons, not_or]
    refine ⟨?_, fun hmem => absurd (hmore _ hmem) (by decide)⟩
    rintro rfl
    exact absurd hc (by decide)
  have hgap : '[' ∉ spelled.gap := fun hmem =>
    absurd (List.all_eq_true.mp hproper.gap _ hmem) (by decide)
  have hbracket (sign : Bool) : '[' ∉ if sign then ['/'] else [] := by
    cases sign <;> decide
  let attributes := spelled.attributes.flatMap SpelledAttribute.chars
  have hbody : spelled.chars =
      '[' :: ((front ++ (spelled.name ++ (attributes ++ (spelled.gap ++ slash)))) ++ [']']) := by
    simp [SpelledTag.chars, SpelledTag.body, SpelledTag.ending, front, slash, attributes]
  refine ⟨_, hbody, ?_⟩
  refine QuotesFollow.append ?_ (quotesFollow_of_notMem (by decide))
  refine (quotesFollow_of_notMem (hbracket _)).append ?_
  refine (quotesFollow_of_notMem hname).append ?_
  refine (quotesFollow_flatMap_chars _).append ?_
  exact (quotesFollow_of_notMem hgap).append (quotesFollow_of_notMem (hbracket _))

theorem isDecided_readTag : IsDecided readTag := by
  intro part rest value other h
  obtain ⟨source, hspells, hpart⟩ := readTag_eq_some_iff_spells.mp h
  exact readTag_eq_some_iff_spells.mpr ⟨source, hspells, by rw [List.append_cancel_right hpart]⟩

/-- No tag reaches over the end of a line that is the last one, or behind which a bracket and no
quote follows. -/
theorem scan_append_newline {back : List Char} (hback : ∀ c ∈ back.head?, c = '[')
    (hquote : '"' ∉ back) (front : List Char) :
    scan readTag (front ++ '\n' :: back) =
      scan readTag front ++ .char '\n' :: scan readTag back := by
  have hborder : CutsNo (IsRecognized readTag) front ('\n' :: back) := by
    intro left right hleft hright hmark
    by_contra hboth
    rw [not_or] at hboth
    obtain ⟨token, htoken⟩ := hmark
    obtain ⟨source, hspells, hsource⟩ := readTag_eq_some_iff_spells.mp htoken
    -- a bracket inside a tag has a quote behind it, and there is none
    obtain ⟨inside, rfl, hquotes⟩ := hspells.quotesFollow
    rw [List.append_nil] at hsource
    obtain ⟨c, left, rfl⟩ := List.exists_cons_of_ne_nil hboth.1
    obtain ⟨d, right, rfl⟩ := List.exists_cons_of_ne_nil hboth.2
    obtain ⟨rfl, hbehind⟩ := List.cons_prefix_cons.mp hright
    rw [List.cons_append] at hsource
    obtain ⟨rfl, htail⟩ := List.cons.inj hsource
    cases right with
    | nil =>
      have hlast := congrArg List.getLast? htail
      rw [List.getLast?_concat, List.getLast?_concat] at hlast
      exact absurd (Option.some.inj hlast) (by decide)
    | cons e right =>
      obtain ⟨more, hmore⟩ := hbehind
      obtain rfl : e = '[' := hback e (by rw [← hmore]; rfl)
      have hmem := hquotes (left ++ ['\n']) right (by rw [← htail]; simp)
      exact hquote (hmore ▸ List.mem_append_left more (List.mem_cons_of_mem _ hmem))
  rw [hborder.scan_append isDecided_readTag progresses_readTag,
    scan_cons_of_none (readTag_cons_of_ne (by decide) back)]

/-! ### Tokens one after another -/

/-- The tokens of parts that end a run of text stand behind the tokens of what is before them. -/
theorem ofPieces_append {parts : List (Piece TagToken)} (hparts : EndsRun parts) (run : List Char)
    (pieces : List (Piece TagToken)) :
    Token.ofPieces run (pieces ++ parts) =
      Token.ofPieces run pieces ++ Token.ofPieces [] parts := by
  induction pieces generalizing run with
  | nil => exact hparts run
  | cons piece pieces ih =>
    cases piece with
    | char c => exact ih (c :: run)
    | found token source =>
      rw [List.cons_append, Token.ofPieces, Token.ofPieces, ih, List.append_assoc]
      rfl

namespace Growth

/-- Tokens that close nothing that is opened before them leave the reading of the others alone. -/
theorem extend_append {front more : List Token}
    (h : ∀ tag, .opening tag ∈ front → Token.closing tag.name ∉ more) (growth : Growth) :
    growth.extend (front ++ more) = (growth.extend front).extend more := by
  induction front generalizing growth with
  | nil => rfl
  | cons token front ih =>
    have hrest := ih fun tag htag => h tag (List.mem_cons_of_mem token htag)
    cases token with
    | text run => exact hrest _
    | closing name => exact hrest _
    | opening tag =>
      have hnone := h tag List.mem_cons_self
      have hcontains : (front ++ more).contains (.closing tag.name) =
          front.contains (.closing tag.name) := by
        simp [hnone]
      rw [List.cons_append, extend, extend, hcontains]
      split
      · exact hrest _
      · exact hrest _

/-- An element that is closed later is opened. -/
theorem extend_opening {tag : Tag} (hvoid : isVoid tag.name = false) {rest : List Token}
    (h : .closing tag.name ∈ rest) (growth : Growth) :
    growth.extend (.opening tag :: rest) = (growth.push tag).extend rest := by
  rw [extend, hvoid, List.contains_iff_mem.mpr h]
  rfl

/-! ### Growing inside an open element -/

variable (tag : Tag) (below : List OpenElement) (outer : List Markup)

/-- The growing forest inside an element that is open above some others. -/
def within (growth : Growth) : Growth :=
  ⟨growth.pending ++ ⟨tag, growth.roots⟩ :: below, outer⟩

theorem add_within (item : Markup) (growth : Growth) :
    (growth.within tag below outer).add item = (growth.add item).within tag below outer := by
  obtain ⟨pending, roots⟩ := growth
  cases pending <;> rfl

theorem push_within (inner : Tag) (growth : Growth) :
    (growth.within tag below outer).push inner = (growth.push inner).within tag below outer := rfl

theorem closeThrough_within {last : Tag → Bool} {pending : List OpenElement}
    (h : pending.any (last ·.tag) = true) (roots items : List Markup) :
    closeThrough last outer items (pending ++ ⟨tag, roots⟩ :: below) =
      (closeThrough last roots items pending).within tag below outer := by
  induction pending generalizing items with
  | nil => exact absurd h (by simp)
  | cons top rest ih =>
    rw [List.cons_append, closeThrough, closeThrough]
    split
    · exact add_within tag below outer _ ⟨rest, roots⟩
    · rename_i htop
      rw [List.any_cons, Bool.or_eq_true] at h
      exact ih (h.resolve_left htop) _

/-- A closing tag that closes nothing around the forest acts inside it. -/
theorem close_within {name : String} (htag : tag.name ≠ name)
    (hbelow : ∀ top ∈ below, top.tag.name ≠ name) (growth : Growth) :
    (growth.within tag below outer).close name =
      (growth.close name).within tag below outer := by
  have hany : (growth.within tag below outer).pending.any (·.tag.name == name) =
      growth.pending.any (·.tag.name == name) := by
    have hnone : below.any (·.tag.name == name) = false :=
      List.any_eq_false.mpr fun top htop => by simpa using hbelow top htop
    rw [within, List.any_append, List.any_cons, hnone, beq_eq_false_iff_ne.mpr htag, Bool.or_self,
      Bool.or_false]
  rw [close, close, hany]
  split
  · rename_i hpending
    exact closeThrough_within tag below outer hpending growth.roots []
  · rfl

/-- Tokens that close nothing around the forest are read inside it as they are alone. -/
theorem extend_within {tokens : List Token}
    (h : ∀ name, .closing name ∈ tokens →
      tag.name ≠ name ∧ ∀ top ∈ below, top.tag.name ≠ name) (growth : Growth) :
    (growth.within tag below outer).extend tokens =
      (growth.extend tokens).within tag below outer := by
  induction tokens generalizing growth with
  | nil => rfl
  | cons token rest ih =>
    have hrest := ih fun name hname => h name (List.mem_cons_of_mem token hname)
    cases token with
    | text run => rw [extend, extend, add_within, hrest]
    | closing name =>
      obtain ⟨htag, hbelow⟩ := h name List.mem_cons_self
      rw [extend, extend, close_within tag below outer htag hbelow, hrest]
    | opening inner =>
      rw [extend, extend]
      split
      · rw [push_within, hrest]
      · rw [add_within, hrest]

/-- The closing tag of the element around a forest closes everything in the forest. -/
theorem closeThrough_around {last : Tag → Bool} (htag : last tag = true)
    {pending : List OpenElement} (h : ∀ top ∈ pending, last top.tag = false)
    (roots items : List Markup) :
    closeThrough last outer items (pending ++ ⟨tag, roots⟩ :: below) =
      add (.element tag (closeThrough (fun _ => false) roots items pending).roots.reverse)
        ⟨below, outer⟩ := by
  induction pending generalizing items with
  | nil =>
    rw [List.nil_append]
    exact if_pos htag
  | cons top rest ih =>
    rw [List.cons_append, closeThrough, closeThrough, h top List.mem_cons_self]
    exact ih (fun other hother => h other (List.mem_cons_of_mem top hother)) _

/-- So the element holds the finished forest. -/
theorem close_around {growth : Growth} (h : ∀ top ∈ growth.pending, top.tag.name ≠ tag.name) :
    (growth.within tag below outer).close tag.name =
      add (.element tag growth.finish) ⟨below, outer⟩ := by
  have hany : (growth.within tag below outer).pending.any (·.tag.name == tag.name) = true := by
    simp [within]
  have hself : (fun inner : Tag => inner.name == tag.name) tag = true := beq_self_eq_true _
  rw [close, hany]
  exact closeThrough_around tag below outer hself
    (fun top htop => by simpa using h top htop) growth.roots []

/-! ### Names in a growing forest -/

/-- The open elements and the outermost elements have tags with a property. -/
structure HasTags (P : Tag → Prop) (growth : Growth) : Prop where
  pending : ∀ top ∈ growth.pending, P top.tag
  roots : ∀ item ∈ growth.roots, ∀ element ∈ item.element?, P element.tag

namespace HasTags

variable {P : Tag → Prop} {growth : Growth}

theorem empty : HasTags P empty where
  pending := List.forall_mem_nil _
  roots := List.forall_mem_nil _

theorem add (h : HasTags P growth) {item : Markup}
    (hitem : ∀ element ∈ item.element?, P element.tag) : HasTags P (growth.add item) := by
  obtain ⟨pending, roots⟩ := growth
  cases pending with
  | nil => exact ⟨h.pending, List.forall_mem_cons.mpr ⟨hitem, h.roots⟩⟩
  | cons top rest =>
    obtain ⟨htop, hrest⟩ := List.forall_mem_cons.mp h.pending
    exact ⟨List.forall_mem_cons.mpr ⟨htop, hrest⟩, h.roots⟩

theorem push (h : HasTags P growth) {tag : Tag} (htag : P tag) : HasTags P (growth.push tag) where
  pending := List.forall_mem_cons.mpr ⟨htag, h.pending⟩
  roots := h.roots

theorem closeThrough (last : Tag → Bool) {roots items : List Markup} {pending : List OpenElement}
    (hpending : ∀ top ∈ pending, P top.tag)
    (hitems : ∀ item ∈ items ++ roots, ∀ element ∈ item.element?, P element.tag) :
    HasTags P (closeThrough last roots items pending) := by
  induction pending generalizing items with
  | nil => exact ⟨List.forall_mem_nil _, hitems⟩
  | cons top rest ih =>
    obtain ⟨htop, hrest⟩ := List.forall_mem_cons.mp hpending
    have hroots : ∀ item ∈ roots, ∀ element ∈ item.element?, P element.tag :=
      fun item hitem => hitems item (List.mem_append_right items hitem)
    have hclosed (children : List Markup) :
        ∀ element ∈ (Markup.element top.tag children).element?, P element.tag := by
      intro element helement
      obtain rfl := Option.some.inj helement
      exact htop
    rw [Growth.closeThrough]
    split
    · exact HasTags.add ⟨hrest, hroots⟩ (hclosed _)
    · exact ih hrest (List.forall_mem_cons.mpr ⟨hclosed _, hroots⟩)

theorem close (h : HasTags P growth) (name : String) : HasTags P (growth.close name) := by
  rw [Growth.close]
  split
  · exact closeThrough _ h.pending h.roots
  · exact h

/-- The tags of the open and of the outermost elements are among those that are read. -/
theorem extend (h : HasTags P growth) {tokens : List Token}
    (htokens : ∀ tag, .opening tag ∈ tokens → P tag) : HasTags P (growth.extend tokens) := by
  induction tokens generalizing growth with
  | nil => exact h
  | cons token rest ih =>
    have hrest := fun tag htag => htokens tag (List.mem_cons_of_mem token htag)
    cases token with
    | text run =>
      exact ih (h.add fun element helement => absurd helement (by simp [element?])) hrest
    | closing name => exact ih (h.close name) hrest
    | opening tag =>
      have htag := htokens tag List.mem_cons_self
      rw [Growth.extend]
      split
      · exact ih (h.push htag) hrest
      · refine ih (h.add fun element helement => ?_) hrest
        obtain rfl := Option.some.inj helement
        exact htag

/-- The outermost elements of a finished forest. -/
theorem finish (h : HasTags P growth) :
    ∀ item ∈ growth.finish, ∀ element ∈ item.element?, P element.tag := by
  intro item hitem
  exact (closeThrough (fun _ => false) h.pending h.roots).roots item (List.mem_reverse.mp hitem)

end HasTags

end Growth

/-! ### The names of tokens -/

/-- The name in a tag. -/
def Token.name? : Token → Option String
  | text _ => none
  | opening tag => some tag.name
  | closing name => some name

theorem filterMap_name?_ofPieces (run : List Char) (pieces : List (Piece TagToken)) :
    (Token.ofPieces run pieces).filterMap Token.name? =
      (pieces.filterMap Piece.value?).map (·.tag.name) := by
  have hrun (run : List Char) : (Token.ofRun run).filterMap Token.name? = [] := by
    rw [Token.ofRun]
    split <;> rfl
  induction pieces generalizing run with
  | nil => exact hrun run
  | cons piece pieces ih =>
    cases piece with
    | char c => exact ih (c :: run)
    | found token source =>
      have hname : (if token.closing then Token.closing token.tag.name
          else .opening token.tag).name? = some token.tag.name := by
        split <;> rfl
      rw [Token.ofPieces, List.filterMap_append, hrun, List.nil_append,
        List.filterMap_cons_some hname, ih]
      rfl

/-- The names of the tokens of a text are those of its tags. -/
theorem filterMap_name?_tokens (cs : List Char) :
    (tokens cs).filterMap Token.name? = (findAll readTag cs).map (·.tag.name) :=
  filterMap_name?_ofPieces [] (scan readTag cs)

/-- A text on lines of its own has no other tags. -/
theorem findAll_readTag_lines (cs : List Char) :
    findAll readTag ('\n' :: cs ++ ['\n']) = findAll readTag cs := by
  have hfirst := scan_cons_of_none (readTag_cons_of_ne (c := '\n') (by decide) cs)
  have hscan : scan readTag ('\n' :: cs ++ ['\n']) = scan readTag ('\n' :: cs) ++ [.char '\n'] :=
    scan_append_newline (by simp) List.not_mem_nil _
  rw [findAll, hscan, hfirst, List.cons_append, List.filterMap_cons_none rfl,
    List.filterMap_append]
  exact List.append_nil _

/-! ### Markup in the skeleton of a section -/

/-- What stands behind the content of a section. -/
def frameEnd : List Char :=
  fullColumn.closing ++ (fullRow.closing ++ Tag.closing ⟨"section", []⟩)

/-- A closing tag is found where it stands. -/
theorem scan_closing {tag : Tag} (h : tag.IsProper) (rest : List Char) :
    scan readTag (tag.closing ++ rest) =
      .found ⟨true, ⟨tag.name, []⟩⟩ tag.closing :: scan readTag rest :=
  scan_append_of_some (closing_ne_nil tag) (readTag_closing h rest)

/-- An opening tag is found where it stands. -/
theorem scan_opening {tag : Tag} (h : tag.IsProper) (rest : List Char) :
    scan readTag (tag.opening ++ rest) = .found ⟨false, tag⟩ tag.opening :: scan readTag rest :=
  scan_append_of_some (opening_ne_nil tag) (readTag_opening h rest)

/-- The skeleton of a section has three tags in front of its content and three behind it. -/
theorem tokens_sectionAround {cs : List Char} (hne : cs ≠ []) :
    tokens (sectionAround [] cs) =
      .opening ⟨"section", []⟩ :: .opening fullRow :: .opening fullColumn ::
        (tokens ('\n' :: cs ++ ['\n']) ++
          [.closing "column", .closing "row", .closing "section"]) := by
  have hcs : sectionAround [] cs = Tag.opening ⟨"section", []⟩ ++ (fullRow.opening ++
      (fullColumn.opening ++ ('\n' :: cs ++ '\n' :: frameEnd))) := by
    have hlines : ownLines cs = ['\n'] ++ cs ++ ['\n'] := if_neg (by simpa using hne)
    simp [sectionAround, Tag.around, hlines, frameEnd]
  have hsection : Tag.IsProper ⟨"section", []⟩ := by decide
  have hrow : fullRow.IsProper := by decide
  have hcolumn : fullColumn.IsProper := by decide
  have hend : scan readTag frameEnd = [.found ⟨true, ⟨"column", []⟩⟩ fullColumn.closing,
      .found ⟨true, ⟨"row", []⟩⟩ fullRow.closing,
      .found ⟨true, ⟨"section", []⟩⟩ (Tag.closing ⟨"section", []⟩)] := by
    have hlast := scan_closing hsection []
    rw [List.append_nil] at hlast
    rw [frameEnd, scan_closing hcolumn, scan_closing hrow, hlast]
    rfl
  have hlines : scan readTag ('\n' :: cs ++ ['\n']) =
      scan readTag ('\n' :: cs) ++ [.char '\n'] :=
    scan_append_newline (by simp) List.not_mem_nil _
  have hinside : scan readTag ('\n' :: cs ++ '\n' :: frameEnd) =
      scan readTag ('\n' :: cs ++ ['\n']) ++ scan readTag frameEnd := by
    have hhead : ∀ c ∈ frameEnd.head?, c = '[' := fun c hc => (Option.some.inj hc).symm
    rw [scan_append_newline hhead (by decide), hlines, List.append_assoc,
      List.singleton_append]
  -- the frame begins with a tag, so it adds nothing to a run of text before it
  have hruns : EndsRun (scan readTag frameEnd) := by
    rw [hend]
    exact endsRun_found _ _ _
  have htokens : Token.ofPieces [] (scan readTag frameEnd) =
      [.closing "column", .closing "row", .closing "section"] := by
    rw [hend]
    rfl
  rw [tokens, hcs, scan_opening hsection, scan_opening hrow, scan_opening hcolumn, hinside]
  show _ :: _ :: _ :: Token.ofPieces [] _ = _
  rw [ofPieces_append hruns, htokens]
  rfl

end Markup

namespace Forest

open Markup

/-- No tag of the text has the name of an element of the skeleton of sections. -/
def IsFrameless (cs : List Char) : Prop :=
  ∀ token ∈ findAll readTag cs, token.tag.name ∉ frameNames

instance (cs : List Char) : Decidable (IsFrameless cs) :=
  inferInstanceAs (Decidable (∀ token ∈ findAll readTag cs, token.tag.name ∉ frameNames))

/-- The names of a text without tags of the skeleton are other names. -/
theorem IsFrameless.notMem {cs : List Char} (h : IsFrameless cs) {token : Token} {name : String}
    (htoken : token ∈ tokens cs) (hname : token.name? = some name) : name ∉ frameNames := by
  have hmem : name ∈ (findAll readTag cs).map (·.tag.name) := by
    rw [← filterMap_name?_tokens]
    exact List.mem_filterMap.mpr ⟨token, htoken, hname⟩
  obtain ⟨tag, htag, rfl⟩ := List.mem_map.mp hmem
  exact h tag htag

theorem IsFrameless.lines {cs : List Char} (h : IsFrameless cs) :
    IsFrameless ('\n' :: cs ++ ['\n']) := by
  rw [IsFrameless, findAll_readTag_lines]
  exact h

/-- A tag of the skeleton has another name than every tag of the text. -/
theorem IsFrameless.ne {cs : List Char} (h : IsFrameless cs) {token : Token} {frame name : String}
    (htoken : token ∈ tokens cs) (hname : token.name? = some name) (hframe : frame ∈ frameNames) :
    frame ≠ name := by
  rintro rfl
  exact h.notMem htoken hname hframe

/-- The elements that the text leaves open are none of the skeleton. -/
theorem IsFrameless.pending {cs : List Char} (h : IsFrameless cs) :
    ∀ top ∈ (Growth.empty.extend (tokens cs)).pending, top.tag.name ∉ frameNames := by
  have htags : Growth.HasTags (fun tag => tag.name ∉ frameNames)
      (Growth.empty.extend (tokens cs)) :=
    Growth.HasTags.empty.extend fun tag htag => h.notMem htag rfl
  exact fun top htop => htags.pending top htop

/-- Markup without tags of the skeleton is read in a skeleton as it is read on lines of its own. -/
theorem read_sectionAround {cs : List Char} (hne : cs ≠ []) (hfree : IsFrameless cs) :
    read (sectionAround [] cs) =
      [.element ⟨"section", []⟩ [.element fullRow [.element fullColumn
        (read ('\n' :: cs ++ ['\n']))]]] := by
  let inside := tokens ('\n' :: cs ++ ['\n'])
  let ends : List Token := [.closing "column", .closing "row", .closing "section"]
  let below : List OpenElement := [⟨fullRow, []⟩, ⟨⟨"section", []⟩, []⟩]
  -- nothing of the text is closed behind it, and it closes nothing of the skeleton
  have hends : ∀ tag, .opening tag ∈ inside → Token.closing tag.name ∉ ends := by
    intro tag htag hmem
    simp only [ends, List.mem_cons, Token.closing.injEq, List.not_mem_nil, or_false] at hmem
    rcases hmem with hname | hname | hname <;>
    · exact hfree.lines.ne htag rfl (by decide) hname.symm
  have hclosings : ∀ name, .closing name ∈ inside →
      fullColumn.name ≠ name ∧ ∀ top ∈ below, top.tag.name ≠ name := by
    intro name hname
    refine ⟨hfree.lines.ne hname rfl (by decide), fun top htop => hfree.lines.ne hname rfl ?_⟩
    simp only [below, List.mem_cons, List.not_mem_nil, or_false] at htop
    rcases htop with rfl | rfl <;> decide
  have hopened : Growth.empty.extend (.opening ⟨"section", []⟩ :: .opening fullRow ::
      .opening fullColumn :: (inside ++ ends)) =
        (Growth.empty.within fullColumn below []).extend (inside ++ ends) := by
    have hlater {token : Token} (htoken : token ∈ ends) : token ∈ inside ++ ends :=
      List.mem_append_right inside htoken
    rw [Growth.extend_opening (by decide) (List.mem_cons_of_mem _ (List.mem_cons_of_mem _
        (hlater (by decide)))),
      Growth.extend_opening (by decide) (List.mem_cons_of_mem _ (hlater (by decide))),
      Growth.extend_opening (by decide) (hlater (by decide))]
    rfl
  have hpending : ∀ top ∈ (Growth.empty.extend inside).pending,
      top.tag.name ≠ fullColumn.name := by
    intro top htop hname
    exact hfree.lines.pending top htop (by rw [hname]; decide)
  rw [read, tokens_sectionAround hne, hopened, Growth.extend_append hends,
    Growth.extend_within fullColumn below [] hclosings]
  show Growth.finish ((((_ : Growth).close fullColumn.name).close "row").close "section") = _
  rw [Growth.close_around fullColumn below [] hpending]
  rfl

end Forest

end PageMarkup
