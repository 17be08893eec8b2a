import PageMarkup.Proofs.Markup.Wrapping

/-!
# Line ends around markup

A line end in front of some markup stands in the first text of its forest, or in a new one.  A line
end behind it goes to where the reader is when the markup ends: it stands at the end of the forest,
or of an element that is still open there, next to a text or alone.
-/

namespace PageMarkup

open Text Markup

namespace Forest

/-! ### Forests that differ in a line end -/

/-- The second forest has one line end more, at its beginning. -/
inductive Leads : Forest → Forest → Prop
  | own (forest : Forest) : Leads forest (newline :: forest)
  | text (content : String) (items : Forest) :
      Leads (.text content :: items) (.text ("\n" ++ content) :: items)

/-- The second forest has one line end more, at its end or at the end of its last element. -/
inductive Trails : Forest → Forest → Prop
  | own : Trails [] [newline]
  | text (content : String) : Trails [.text content] [.text (content ++ "\n")]
  | inside (tag : Tag) {children children' : Forest} (h : Trails children children') :
      Trails [.element tag children] [.element tag children']
  | cons (item : Markup) {items items' : Forest} (h : Trails items items') :
      Trails (item :: items) (item :: items')

theorem Trails.append_left {forest forest' : Forest} (h : Trails forest forest')
    (front : Forest) : Trails (front ++ forest) (front ++ forest') := by
  induction front with
  | nil => exact h
  | cons item front ih => exact .cons item ih

end Forest

namespace Markup

open Forest

/-! ### Line ends among tokens -/

/-- A line end in front of a text is the beginning of its first token, or a token of its own. -/
theorem ofPieces_newline (run : List Char) (pieces : List (Piece TagToken)) :
    Token.ofPieces (run ++ ['\n']) pieces = .text "\n" :: Token.ofPieces run pieces ∨
      ∃ content rest, Token.ofPieces run pieces = .text content :: rest ∧
        Token.ofPieces (run ++ ['\n']) pieces = .text ("\n" ++ content) :: rest := by
  have hrun (run : List Char) : Token.ofRun (run ++ ['\n']) = .text "\n" :: Token.ofRun run ∨
      ∃ content, Token.ofRun run = [.text content] ∧
        Token.ofRun (run ++ ['\n']) = [.text ("\n" ++ content)] := by
    cases run with
    | nil => exact .inl rfl
    | cons c run =>
      refine .inr ⟨String.ofList (c :: run).reverse, rfl, ?_⟩
      have hchars : (c :: run ++ ['\n']).reverse = "\n".toList ++ (c :: run).reverse := by simp
      rw [Token.ofRun, if_neg (by simp), hchars, String.ofList_append, String.ofList_toList]
  induction pieces generalizing run with
  | nil =>
    refine (hrun run).imp_right ?_
    rintro ⟨content, hcontent, hmore⟩
    exact ⟨content, [], hcontent, hmore⟩
  | cons piece pieces ih =>
    cases piece with
    | char c => exact ih (c :: run)
    | found token source =>
      rw [Token.ofPieces, Token.ofPieces]
      rcases hrun run with hown | ⟨content, hcontent, hmore⟩
      · exact .inl (by rw [hown, List.cons_append])
      · exact .inr ⟨content, _, by rw [hcontent]; rfl, by rw [hmore]; rfl⟩

/-- A line end behind a text is the end of its last token, or a token of its own. -/
theorem ofPieces_append_newline (run : List Char) (pieces : List (Piece TagToken)) :
    Token.ofPieces run (pieces ++ [.char '\n']) = Token.ofPieces run pieces ++ [.text "\n"] ∨
      ∃ front content, Token.ofPieces run pieces = front ++ [.text content] ∧
        Token.ofPieces run (pieces ++ [.char '\n']) = front ++ [.text (content ++ "\n")] := by
  induction pieces generalizing run with
  | nil =>
    cases run with
    | nil => exact .inl rfl
    | cons c run =>
      refine .inr ⟨[], String.ofList (c :: run).reverse, rfl, ?_⟩
      have hchars : ('\n' :: c :: run).reverse = (c :: run).reverse ++ "\n".toList := by simp
      show Token.ofRun ('\n' :: c :: run) = _
      rw [Token.ofRun, if_neg (by simp), hchars, String.ofList_append, String.ofList_toList]
      rfl
  | cons piece pieces ih =>
    cases piece with
    | char c => exact ih (c :: run)
    | found token source =>
      rw [List.cons_append, Token.ofPieces, Token.ofPieces]
      rcases ih [] with hown | ⟨front, content, hcontent, hmore⟩
      · exact .inl (by rw [hown]; simp)
      · let tag := if token.closing then Token.closing token.tag.name else .opening token.tag
        refine .inr ⟨Token.ofRun run ++ tag :: front, content, ?_, ?_⟩
        · rw [hcontent, List.append_assoc, List.cons_append]
        · rw [hmore, List.append_assoc, List.cons_append]

namespace Growth

/-! ### Growing behind other items -/

/-- The growing forest with some items in front, the last of them first. -/
def behind (front : List Markup) (growth : Growth) : Growth :=
  ⟨growth.pending, growth.roots ++ front⟩

variable (front : List Markup)

theorem add_behind (item : Markup) (growth : Growth) :
    (growth.behind front).add item = (growth.add item).behind front := by
  obtain ⟨pending, roots⟩ := growth
  cases pending <;> rfl

theorem closeThrough_behind (last : Tag → Bool) (roots items : List Markup)
    (pending : List OpenElement) :
    closeThrough last (roots ++ front) items pending =
      (closeThrough last roots items pending).behind front := by
  induction pending generalizing items with
  | nil => rw [closeThrough, closeThrough, behind, List.append_assoc]
  | cons top rest ih =>
    rw [closeThrough, closeThrough]
    split
    · exact add_behind front _ ⟨rest, roots⟩
    · exact ih _

theorem extend_behind (tokens : List Token) (growth : Growth) :
    (growth.behind front).extend tokens = (growth.extend tokens).behind front := by
  induction tokens generalizing growth with
  | nil => rfl
  | cons token rest ih =>
    cases token with
    | text run => rw [extend, extend, add_behind, ih]
    | closing name =>
      have hclose : (growth.behind front).close name = (growth.close name).behind front := by
        rw [close, close, behind]
        split
        · exact closeThrough_behind front _ growth.roots [] growth.pending
        · rfl
      rw [extend, extend, hclose, ih]
    | opening tag =>
      rw [extend, extend]
      split
      · exact ih (growth.push tag)
      · rw [add_behind, ih]

/-- The items in front stand in front of the finished forest. -/
theorem finish_behind (growth : Growth) :
    (growth.behind front).finish = front.reverse ++ growth.finish := by
  rw [finish, behind, closeThrough_behind, behind, List.reverse_append, finish]

/-- A text that is read first stands in front of what is read behind it. -/
theorem finish_extend_text (content : String) (tokens : List Token) :
    (empty.extend (.text content :: tokens)).finish =
      .text content :: (empty.extend tokens).finish := by
  have hfirst : empty.extend (.text content :: tokens) =
      (empty.behind [.text content]).extend tokens := rfl
  rw [hfirst, extend_behind, finish_behind]
  rfl

/-! ### The last item -/

/-- Finishing keeps a line end at the end of the last item. -/
theorem trails_closeThrough {item item' : Markup} (h : Trails [item] [item'])
    (roots : List Markup) (pending : List OpenElement) :
    Trails (closeThrough (fun _ => false) roots [item] pending).roots.reverse
      (closeThrough (fun _ => false) roots [item'] pending).roots.reverse := by
  induction pending generalizing item item' with
  | nil =>
    show Trails (item :: roots).reverse (item' :: roots).reverse
    rw [List.reverse_cons, List.reverse_cons]
    exact h.append_left _
  | cons top rest ih =>
    refine ih (.inside top.tag ?_)
    show Trails (item :: top.held).reverse (item' :: top.held).reverse
    rw [List.reverse_cons, List.reverse_cons]
    exact h.append_left _

/-- A text that ends with a line end more is added. -/
theorem trails_finish_add {item item' : Markup} (h : Trails [item] [item']) (growth : Growth) :
    Trails (growth.add item).finish (growth.add item').finish := by
  obtain ⟨pending, roots⟩ := growth
  cases pending with
  | nil =>
    show Trails (item :: roots).reverse (item' :: roots).reverse
    rw [List.reverse_cons, List.reverse_cons]
    exact h.append_left _
  | cons top rest =>
    refine trails_closeThrough (.inside top.tag ?_) roots rest
    show Trails (item :: top.held).reverse (item' :: top.held).reverse
    rw [List.reverse_cons, List.reverse_cons]
    exact h.append_left _

/-- A line end is added. -/
theorem trails_finish_newline (growth : Growth) :
    Trails growth.finish (growth.add newline).finish := by
  have hown (held : List Markup) : Trails held.reverse (newline :: held).reverse := by
    have hlast := Trails.own.append_left held.reverse
    rwa [List.append_nil, ← List.reverse_cons] at hlast
  obtain ⟨pending, roots⟩ := growth
  cases pending with
  | nil => exact hown roots
  | cons top rest => exact trails_closeThrough (.inside top.tag (hown top.held)) roots rest

end Growth

end Markup

namespace Forest

/-! ### Line ends around a text -/

/-- A line end in front of markup. -/
theorem leads_read (cs : List Char) : Leads (read cs) (read ('\n' :: cs)) := by
  have htokens : tokens ('\n' :: cs) = Token.ofPieces ([] ++ ['\n']) (scan readTag cs) := by
    rw [tokens, scan_cons_of_none (readTag_cons_of_ne (by decide) cs)]
    rfl
  rw [read, read, htokens]
  rcases ofPieces_newline [] (scan readTag cs) with hown | ⟨content, rest, hcontent, hmore⟩
  · rw [hown, Growth.finish_extend_text]
    exact .own _
  · rw [tokens, hcontent, hmore, Growth.finish_extend_text, Growth.finish_extend_text]
    exact .text content _

/-- A line end behind markup. -/
theorem trails_read (cs : List Char) : Trails (read cs) (read (cs ++ ['\n'])) := by
  have hscan : scan readTag (cs ++ ['\n']) = scan readTag cs ++ [.char '\n'] :=
    scan_append_newline (by simp) List.not_mem_nil _
  have hlast (front : List Token) (content : String) :
      Growth.empty.extend (front ++ [.text content]) =
        (Growth.empty.extend front).add (.text content) :=
    Growth.extend_append (fun tag _ hmem => absurd hmem (by simp)) _
  rw [read, read, tokens, tokens, hscan]
  rcases ofPieces_append_newline [] (scan readTag cs) with hown | ⟨front, content, htext, hmore⟩
  · rw [hown, hlast]
    exact Growth.trails_finish_newline _
  · rw [htext, hmore, hlast, hlast]
    exact Growth.trails_finish_add (.text content) _

end Forest

end PageMarkup
