import PageMarkup.Proofs.Json.Numbers
import PageMarkup.Proofs.Markup.Escaping
import PageMarkup.Proofs.Text.Borders
import PageMarkup.Proofs.Text.Occurrences
import PageMarkup.XmlRpc

/-!
# What is asked and what is answered

A call and an answer consist of tags with text in front of them.  The texts of a call are written so
that no tag begins in them, so every call has the same tags, and its texts are read back.  An answer
that has the content of a post in one of its members, the value marked as a string, is read as
exactly that content: no other member is taken for it and nothing in the content ends the value.
-/

namespace PageMarkup

namespace XmlRpc

open Text

/-! ### Tags and the text in front of them -/

/-- A tag, without its angle brackets, and the text in front of it. -/
structure Mark where
  front : List Char
  tag : List Char
  deriving DecidableEq, Repr

/-- The text and the tag as they are written. -/
def Mark.chars (mark : Mark) : List Char :=
  mark.front ++ '<' :: (mark.tag ++ ['>'])

/-- Tags with their texts, one after the other. -/
def written (marks : List Mark) : List Char :=
  marks.flatMap Mark.chars

@[simp] theorem written_nil : written [] = [] := rfl

@[simp] theorem written_cons (mark : Mark) (marks : List Mark) :
    written (mark :: marks) = mark.chars ++ written marks := rfl

@[simp] theorem written_append (marks others : List Mark) :
    written (marks ++ others) = written marks ++ written others := by
  simp [written]

/-- The tags of a document from here on, each with the text in front of it: `front` has been read of
a text, or after it `tag?` of a tag, the last character first.  A text behind the last tag is left
out. -/
def marksFrom (front : List Char) : (tag? : Option (List Char)) → List Char → List Mark
  | _, [] => []
  | none, c :: cs =>
    if c = '<' then marksFrom front (some []) cs else marksFrom (c :: front) none cs
  | some tag, c :: cs =>
    if c = '>' then ⟨front.reverse, tag.reverse⟩ :: marksFrom [] none cs
    else marksFrom front (some (c :: tag)) cs

/-- The tags of a document, each with the text in front of it. -/
def marks (cs : List Char) : List Mark :=
  marksFrom [] none cs

/-- No bracket makes the text or the tag end earlier. -/
structure Mark.IsProper (mark : Mark) : Prop where
  front : '<' ∉ mark.front
  tag : '<' ∉ mark.tag ∧ '>' ∉ mark.tag

instance (mark : Mark) : Decidable mark.IsProper :=
  decidable_of_iff ('<' ∉ mark.front ∧ '<' ∉ mark.tag ∧ '>' ∉ mark.tag)
    ⟨fun h => ⟨h.1, h.2⟩, fun h => ⟨h.front, h.tag⟩⟩

theorem marksFrom_front {text : List Char} (htext : '<' ∉ text) (front rest : List Char) :
    marksFrom front none (text ++ rest) = marksFrom (text.reverse ++ front) none rest := by
  induction text generalizing front with
  | nil => rfl
  | cons c text ih =>
    rw [List.mem_cons, not_or] at htext
    rw [List.cons_append, marksFrom, if_neg (Ne.symm htext.1), ih htext.2]
    simp

theorem marksFrom_tag {text : List Char} (htext : '>' ∉ text) (front tag rest : List Char) :
    marksFrom front (some tag) (text ++ '>' :: rest) =
      ⟨front.reverse, tag.reverse ++ text⟩ :: marksFrom [] none rest := by
  induction text generalizing tag with
  | nil => simp [marksFrom]
  | cons c text ih =>
    rw [List.mem_cons, not_or] at htext
    rw [List.cons_append, marksFrom, if_neg (Ne.symm htext.1), ih htext.2]
    simp

/-- Tags that were written are found again, with the texts in front of them. -/
theorem marks_written {marks : List Mark} (h : ∀ mark ∈ marks, mark.IsProper) :
    XmlRpc.marks (written marks) = marks := by
  induction marks with
  | nil => rfl
  | cons mark marks ih =>
    obtain ⟨hmark, hmarks⟩ := List.forall_mem_cons.mp h
    have hrest := ih hmarks
    rw [XmlRpc.marks] at hrest ⊢
    rw [written_cons, Mark.chars, List.append_assoc, marksFrom_front hmark.front, List.cons_append,
      marksFrom, if_pos rfl, List.append_assoc]
    have htag := marksFrom_tag hmark.tag.2 (mark.front.reverse ++ []) [] (written marks)
    rw [List.singleton_append, htag, hrest]
    simp

/-! ### Searches that look for one tag -/

/-- Only a text that begins with a tag is recognized. -/
def LooksFor {α : Type} (tag : List Char) (read : List Char → Option α) : Prop :=
  ∀ cs value, read cs = some value → ∃ rest, cs = '<' :: (tag ++ '>' :: rest)

section

variable {α : Type} {read : List Char → Option α} {tag text rest : List Char}

/-- A text without angle brackets holds no tag. -/
theorem LooksFor.misses (h : LooksFor tag read) (htext : '<' ∉ text) (rest : List Char) :
    Misses read text rest := by
  intro before c after hcs
  refine Option.eq_none_iff_forall_ne_some.mpr fun value hvalue => ?_
  obtain ⟨more, hmore⟩ := h _ _ hvalue
  obtain rfl : c = '<' := (List.cons.inj hmore).1
  exact htext (by simp [hcs])

/-- A tag at which nothing is recognized is missed with the text in front of it. -/
theorem LooksFor.misses_chars (h : LooksFor tag read) {mark : Mark} (hmark : mark.IsProper)
    (hnone : read ('<' :: (mark.tag ++ '>' :: rest)) = none) : Misses read mark.chars rest := by
  refine (h.misses hmark.front _).append ?_
  have hinside : '<' ∉ mark.tag ++ ['>'] := by
    rw [List.mem_append, not_or]
    exact ⟨hmark.tag.1, by decide⟩
  intro before c after hcs
  cases before with
  | nil =>
    obtain ⟨rfl, rfl⟩ := List.cons.inj hcs
    simpa using hnone
  | cons d before => exact h.misses hinside rest before c after (List.cons.inj hcs).2

/-- At another tag nothing is recognized. -/
theorem LooksFor.eq_none (h : LooksFor tag read) (htag : '>' ∉ tag) {other : List Char}
    (hother : '>' ∉ other) (hne : other ≠ tag) (rest : List Char) :
    read ('<' :: (other ++ '>' :: rest)) = none := by
  refine Option.eq_none_iff_forall_ne_some.mpr fun value hvalue => ?_
  obtain ⟨more, hmore⟩ := h _ _ hvalue
  exact hne (eq_and_eq_of_append_cons (List.cons.inj hmore).2 hother htag).1

/-- A search for one tag misses all others. -/
theorem LooksFor.misses_written (h : LooksFor tag read) (htag : '>' ∉ tag) {marks : List Mark}
    (hmarks : ∀ mark ∈ marks, mark.IsProper ∧ mark.tag ≠ tag) (rest : List Char) :
    Misses read (written marks) rest := by
  induction marks with
  | nil => exact misses_nil rest
  | cons mark marks ih =>
    obtain ⟨⟨hproper, hne⟩, hmarks⟩ := List.forall_mem_cons.mp hmarks
    exact (h.misses_chars hproper (h.eq_none htag hproper.tag.2 hne _)).append (ih hmarks)

/-! ### Searching on behind what is missed -/

theorem findMember?_append_of_misses {name : String} {read : List Char → Option (List Char)}
    (h : Misses (fun cs => (afterName? name cs).bind read) text rest) :
    findMember? name read (text ++ rest) = findMember? name read rest := by
  induction text with
  | nil => rfl
  | cons c text ih =>
    have hhead := h.head
    rw [List.cons_append, findMember?, hhead, ih h.tail]

theorem findMember?_of_some {name : String} {read : List Char → Option (List Char)}
    {value : List Char} (h : (afterName? name text).bind read = some value) :
    findMember? name read text = some value := by
  cases text with
  | nil => cases h
  | cons c text => rw [findMember?, h]

end

/-- A tag with its angle brackets is looked for as such. -/
theorem looksFor_after? (tag : List Char) : LooksFor tag (after? ('<' :: (tag ++ ['>']))) := by
  intro cs value h
  rw [after?_eq_some_iff] at h
  exact ⟨value, by simpa using h⟩

theorem looksFor_afterName? (name : String) (read : List Char → Option (List Char)) :
    LooksFor "name".toList (fun cs => (afterName? name cs).bind read) := by
  intro cs value h
  obtain ⟨more, hmore, -⟩ := Option.bind_eq_some_iff.mp h
  rw [afterName?, Option.bind_eq_bind, Option.bind_eq_some_iff] at hmore
  obtain ⟨rest, hrest, -⟩ := hmore
  exact looksFor_after? "name".toList cs rest hrest

/-! ### Members of an answer -/

/-- The tags stand one after the other, with nothing but blanks in front of them. -/
structure AreSpaced (tags : List String) (marks : List Mark) : Prop where
  tags : marks.map Mark.tag = tags.map String.toList
  blank : ∀ mark ∈ marks, allBlank mark.front = true

/-- The tags of a value and its text, which is marked as a string or stands bare. -/
inductive IsValue (content : List Char) : (isMarked : Bool) → List Mark → Prop
  | marked {opening closing : List Mark} (hopening : AreSpaced ["value", "string"] opening)
      (hclosing : AreSpaced ["/value"] closing) :
      IsValue content true (opening ++ ⟨Entity.encode content, "/string".toList⟩ :: closing)
  | bare {opening : List Mark} (hopening : AreSpaced ["value"] opening) :
      IsValue content false (opening ++ [⟨Entity.encode content, "/value".toList⟩])

/-- The tags of a member with its name and its value. -/
inductive IsMember (name content : List Char) (isMarked : Bool) : List Mark → Prop
  | intro {opening value closing : List Mark} (hopening : AreSpaced ["member", "name"] opening)
      (hvalue : IsValue content isMarked value) (hclosing : AreSpaced ["/member"] closing) :
      IsMember name content isMarked
        (opening ++ ⟨name, "/name".toList⟩ :: (value ++ closing))

/-- Some members, none of which has a certain name, be it between blanks. -/
inductive AreOthers (name : List Char) : List Mark → Prop
  | nil : AreOthers name []
  | cons {other content : List Char} {isMarked : Bool} {member members : List Mark}
      (hangle : '<' ∉ other) (hne : trim other ≠ name)
      (hmember : IsMember other content isMarked member) (hmembers : AreOthers name members) :
      AreOthers name (member ++ members)

/-- What may stand in front of an answer, such as the version of the markup. -/
def AreInstructions (marks : List Mark) : Prop :=
  ∀ mark ∈ marks, allBlank mark.front = true ∧ mark.tag.head? = some '?' ∧
    '<' ∉ mark.tag ∧ '>' ∉ mark.tag

/-- An answer that has a text as the content of the post, the value marked as a string, between any
other members. -/
inductive IsAnswer (content : List Char) : List Char → Prop
  | intro {instructions opening before member after closing : List Mark} {name tail : List Char}
      (hinstructions : AreInstructions instructions)
      (hopening : AreSpaced ["methodResponse", "params", "param", "value", "struct"] opening)
      (hbefore : AreOthers "post_content".toList before)
      (hname : trim name = "post_content".toList) (hmember : IsMember name content true member)
      (hafter : AreOthers "post_content".toList after)
      (hclosing : AreSpaced ["/struct", "/value", "/param", "/params", "/methodResponse"] closing)
      (htail : allBlank tail = true) :
      IsAnswer content
        (written (instructions ++ (opening ++ (before ++ (member ++ (after ++ closing))))) ++ tail)

/-- The mark is proper, and its tag neither tells a failure nor begins the name of a member. -/
structure Mark.IsPlain (mark : Mark) : Prop extends mark.IsProper where
  ne_fault : mark.tag ≠ "fault".toList
  ne_name : mark.tag ≠ "name".toList

/-- Tags of an answer that neither tell a failure nor begin the name of a member. -/
def plainTags : List String :=
  ["methodResponse", "params", "param", "value", "struct", "member", "string", "/name", "/string",
   "/value", "/member", "/struct", "/param", "/params", "/methodResponse"]

theorem isPlain_of_mem {front : List Char} {tag : String} (hfront : '<' ∉ front)
    (htag : tag ∈ plainTags) : (Mark.mk front tag.toList).IsPlain := by
  have hall : ∀ tag ∈ plainTags, '<' ∉ tag.toList ∧ '>' ∉ tag.toList ∧
      tag.toList ≠ "fault".toList ∧ tag.toList ≠ "name".toList := by decide
  obtain ⟨hleft, hright, hfault, hname⟩ := hall _ htag
  exact ⟨⟨hfront, hleft, hright⟩, hfault, hname⟩

/-- Blanks are no angle brackets. -/
theorem angle_not_mem_of_allBlank {cs : List Char} (h : allBlank cs = true) : '<' ∉ cs :=
  fun hmem => absurd (List.all_eq_true.mp h _ hmem) (by decide)

theorem AreSpaced.isPlain {tags : List String} {marks : List Mark} (h : AreSpaced tags marks)
    (htags : tags ⊆ plainTags) : ∀ mark ∈ marks, mark.IsPlain := by
  intro mark hmark
  have hmem : mark.tag ∈ tags.map String.toList := h.tags ▸ List.mem_map_of_mem hmark
  obtain ⟨tag, htag, hsame⟩ := List.mem_map.mp hmem
  have hplain := isPlain_of_mem (angle_not_mem_of_allBlank (h.blank mark hmark)) (htags htag)
  rwa [hsame] at hplain

/-- The first of the tags has blanks in front of it. -/
theorem AreSpaced.exists_cons {tag : String} {tags : List String} {marks : List Mark}
    (h : AreSpaced (tag :: tags) marks) :
    ∃ gap rest, allBlank gap = true ∧ marks = ⟨gap, tag.toList⟩ :: rest ∧ AreSpaced tags rest := by
  obtain ⟨mark, rest, rfl, htag, hrest⟩ := List.map_eq_cons_iff.mp h.tags
  obtain ⟨hgap, hblank⟩ := List.forall_mem_cons.mp h.blank
  exact ⟨mark.front, rest, hgap, by rw [← htag], hrest, hblank⟩

theorem AreSpaced.eq_nil {marks : List Mark} (h : AreSpaced [] marks) : marks = [] :=
  List.map_eq_nil_iff.mp h.tags

theorem IsValue.isPlain {content : List Char} {isMarked : Bool} {marks : List Mark}
    (h : IsValue content isMarked marks) : ∀ mark ∈ marks, mark.IsPlain := by
  have hcontent := Entity.angle_not_mem_encode content
  cases h with
  | marked hopening hclosing =>
    refine List.forall_mem_append.mpr ⟨hopening.isPlain (by decide), List.forall_mem_cons.mpr
      ⟨isPlain_of_mem hcontent (by decide), hclosing.isPlain (by decide)⟩⟩
  | bare hopening =>
    refine List.forall_mem_append.mpr ⟨hopening.isPlain (by decide), List.forall_mem_singleton.mpr
      (isPlain_of_mem hcontent (by decide))⟩

/-- The tags of a member around its name. -/
theorem IsMember.exists_parts {name content : List Char} {isMarked : Bool} {marks : List Mark}
    (hname : '<' ∉ name) (h : IsMember name content isMarked marks) :
    ∃ first gap rest, allBlank gap = true ∧
      marks = first :: ⟨gap, "name".toList⟩ :: ⟨name, "/name".toList⟩ :: rest ∧
      first.IsPlain ∧ (Mark.mk name "/name".toList).IsPlain ∧ ∀ mark ∈ rest, mark.IsPlain := by
  obtain ⟨hopening, hvalue, hclosing⟩ := h
  obtain ⟨start, others, hstart, rfl, hothers⟩ := hopening.exists_cons
  obtain ⟨gap, none, hgap, rfl, hnone⟩ := hothers.exists_cons
  rw [hnone.eq_nil]
  refine ⟨_, gap, _, hgap, rfl, ?_, isPlain_of_mem hname (by decide), ?_⟩
  · exact isPlain_of_mem (angle_not_mem_of_allBlank hstart) (by decide)
  · exact List.forall_mem_append.mpr ⟨hvalue.isPlain, hclosing.isPlain (by decide)⟩

/-- Members whose names are none that a search looks for have only proper tags, none of which
tells a failure. -/
theorem IsMember.isProper {name content : List Char} {isMarked : Bool} {marks : List Mark}
    (hname : '<' ∉ name) (h : IsMember name content isMarked marks) :
    ∀ mark ∈ marks, mark.IsProper ∧ mark.tag ≠ "fault".toList := by
  obtain ⟨first, gap, rest, hgap, rfl, hfirst, hsecond, hrest⟩ := h.exists_parts hname
  have hplain : ∀ mark : Mark, mark.IsPlain → mark.IsProper ∧ mark.tag ≠ "fault".toList :=
    fun mark hmark => ⟨hmark.toIsProper, hmark.ne_fault⟩
  have htag : '<' ∉ "name".toList ∧ '>' ∉ "name".toList := by decide
  have hbegin : (Mark.mk gap "name".toList).IsProper ∧ "name".toList ≠ "fault".toList :=
    ⟨⟨angle_not_mem_of_allBlank hgap, htag⟩, by decide⟩
  refine List.forall_mem_cons.mpr ⟨hplain _ hfirst, List.forall_mem_cons.mpr ⟨hbegin,
    List.forall_mem_cons.mpr ⟨hplain _ hsecond, fun mark hmark => hplain _ (hrest mark hmark)⟩⟩⟩

theorem AreOthers.isProper {name : List Char} {marks : List Mark} (h : AreOthers name marks) :
    ∀ mark ∈ marks, mark.IsProper ∧ mark.tag ≠ "fault".toList := by
  induction h with
  | nil => exact List.forall_mem_nil _
  | cons hangle _ hmember _ ih => exact List.forall_mem_append.mpr ⟨hmember.isProper hangle, ih⟩

/-! ### Finding a member -/

/-- Where the name of a member is found: between blanks, with its value behind it. -/
theorem afterName?_eq_some_iff {name : String} {c : Char} (hhead : name.toList.head? = some c)
    (hc : isBlank c = false) {cs rest : List Char} :
    afterName? name cs = some rest ↔ ∃ before after gap value, allBlank before = true ∧
      allBlank after = true ∧ allBlank gap = true ∧ rest = trimStart value ∧
      cs = "<name>".toList ++ (before ++ (name.toList ++ (after ++ ("</name>".toList ++
        (gap ++ ("<value>".toList ++ value)))))) := by
  have hafterName {ds others : List Char} :
      after? "</name>".toList (trimStart ds) = some others ↔ _ :=
    after?_trimStart_eq_some_iff (c := '<') rfl (by decide)
  have hafterValue {ds others : List Char} :
      after? "<value>".toList (trimStart ds) = some others ↔ _ :=
    after?_trimStart_eq_some_iff (c := '<') rfl (by decide)
  simp only [afterName?, Option.bind_eq_bind, Option.bind_eq_some_iff, after?_eq_some_iff,
    after?_trimStart_eq_some_iff hhead hc, hafterName, hafterValue, Option.some.injEq]
  constructor
  · rintro ⟨_, rfl, _, ⟨before, hbefore, rfl⟩, _, ⟨after, hafter, rfl⟩, value, ⟨gap, hgap, rfl⟩,
      rfl⟩
    exact ⟨before, after, gap, value, hbefore, hafter, hgap, rfl, rfl⟩
  · rintro ⟨before, after, gap, value, hbefore, hafter, hgap, rfl, rfl⟩
    exact ⟨_, rfl, _, ⟨before, hbefore, rfl⟩, _, ⟨after, hafter, rfl⟩, value, ⟨gap, hgap, rfl⟩,
      rfl⟩

/-- A member with another name is not found. -/
theorem afterName?_eq_none {name : String} {c : Char} (hhead : name.toList.head? = some c)
    (hname : IsTrimmed name.toList) (hangle : '<' ∉ name.toList) {other : List Char}
    (hother : '<' ∉ other) (hne : trim other ≠ name.toList) (rest : List Char) :
    afterName? name ("<name>".toList ++ (other ++ ("</name>".toList ++ rest))) = none := by
  refine Option.eq_none_iff_forall_ne_some.mpr fun found hfound => ?_
  obtain ⟨before, after, gap, value, hbefore, hafter, -, -, hcs⟩ :=
    (afterName?_eq_some_iff hhead (hname.1 c hhead)).mp hfound
  have hsplit := List.append_cancel_left hcs
  have hmiddle : '<' ∉ before ++ (name.toList ++ after) := by
    rw [List.mem_append, List.mem_append, not_or, not_or]
    exact ⟨angle_not_mem_of_allBlank hbefore, hangle, angle_not_mem_of_allBlank hafter⟩
  have hsame : other ++ '<' :: ("/name>".toList ++ rest) =
      (before ++ (name.toList ++ after)) ++ '<' :: ("/name>".toList ++
        (gap ++ ("<value>".toList ++ value))) := by
    simpa using hsplit
  obtain ⟨rfl, -⟩ := eq_and_eq_of_append_cons hsame hother hmiddle
  exact hne ((trim_eq_iff hname).mpr ⟨before, after, hbefore, hafter, rfl⟩)

/-- The name that is looked for. -/
def contentName : String := "post_content"

/-- What is read of the value of the member that is looked for. -/
def contentText? (cs : List Char) : Option (List Char) :=
  (markedText? cs).or (bareText? cs)

/-- A search for the content of the post passes over a member with another name. -/
theorem IsMember.misses {name content : List Char} {isMarked : Bool} {marks : List Mark}
    (hangle : '<' ∉ name) (hne : trim name ≠ contentName.toList)
    (h : IsMember name content isMarked marks) (rest : List Char) :
    Misses (fun cs => (afterName? contentName cs).bind contentText?) (written marks) rest := by
  have hlooks := looksFor_afterName? contentName contentText?
  have hend : '>' ∉ "name".toList := by decide
  have htag : '<' ∉ "name".toList ∧ '>' ∉ "name".toList := by decide
  obtain ⟨first, gap, others, hgap, rfl, hfirst, hsecond, hothers⟩ := h.exists_parts hangle
  -- the name of this member is another one
  have hnone : afterName? contentName
      ("<name>".toList ++ (name ++ ("</name>".toList ++ (written others ++ rest)))) = none :=
    afterName?_eq_none rfl (by decide) (by decide) hangle hne (written others ++ rest)
  have hbegin : Misses (fun cs => (afterName? contentName cs).bind contentText?)
      (Mark.mk gap "name".toList).chars
      (written (⟨name, "/name".toList⟩ :: others) ++ rest) := by
    refine hlooks.misses_chars ⟨angle_not_mem_of_allBlank hgap, htag⟩ ?_
    rw [Option.bind_eq_none_iff]
    intro value hvalue
    have hsame : '<' :: ("name".toList ++ '>' ::
        (written (⟨name, "/name".toList⟩ :: others) ++ rest)) =
        "<name>".toList ++ (name ++ ("</name>".toList ++ (written others ++ rest))) := by
      simp [Mark.chars]
    rw [hsame, hnone] at hvalue
    cases hvalue
  have hbehind := hlooks.misses_written hend
    (List.forall_mem_cons.mpr ⟨⟨hsecond.toIsProper, hsecond.ne_name⟩,
      fun mark hmark => ⟨(hothers mark hmark).toIsProper, (hothers mark hmark).ne_name⟩⟩) rest
  refine (hlooks.misses_chars hfirst.toIsProper ?_).append (hbegin.append hbehind)
  exact hlooks.eq_none hend hfirst.tag.2 hfirst.ne_name _

theorem AreOthers.misses {marks : List Mark} (h : AreOthers contentName.toList marks)
    (rest : List Char) :
    Misses (fun cs => (afterName? contentName cs).bind contentText?) (written marks) rest := by
  induction h with
  | nil => exact misses_nil rest
  | @cons _ _ _ member members hangle hne hmember _ ih =>
    rw [written_append]
    exact (hmember.misses hangle hne (written members ++ rest)).append ih

/-- A value that is marked as a string is read up to the end of the string, whatever its text. -/
theorem IsValue.exists_contentText? {content : List Char} {marks : List Mark}
    (h : IsValue content true marks) (rest : List Char) :
    ∃ gap value, allBlank gap = true ∧
      written marks ++ rest = gap ++ ("<value>".toList ++ value) ∧
      contentText? (trimStart value) = some (Entity.encode content) := by
  cases h with
  | marked hopening hclosing =>
    -- the two marks before the text and the two behind it
    obtain ⟨gap, others, hgap, rfl, hothers⟩ := hopening.exists_cons
    obtain ⟨inner, none, hinner, rfl, hnone⟩ := hothers.exists_cons
    obtain rfl := hnone.eq_nil
    obtain ⟨outer, none, houter, rfl, hnone⟩ := hclosing.exists_cons
    obtain rfl := hnone.eq_nil
    let close : List Char → Option (List Char) :=
      fun cs => (after? "</string>".toList cs).bind afterValue?
    let behind := "</string>".toList ++ (outer ++ ("</value>".toList ++ rest))
    have hlooks : LooksFor "/string".toList close := by
      intro cs value hvalue
      obtain ⟨more, hmore, -⟩ := Option.bind_eq_some_iff.mp hvalue
      exact looksFor_after? "/string".toList cs more hmore
    have hend : close behind = some rest := by
      have hstring : after? "</string>".toList behind =
          some (outer ++ ("</value>".toList ++ rest)) := after?_eq_some_iff.mpr rfl
      have hvalue : afterValue? (outer ++ ("</value>".toList ++ rest)) = some rest :=
        (after?_trimStart_eq_some_iff (c := '<') rfl (by decide)).mpr ⟨outer, houter, rfl⟩
      exact Option.bind_eq_some_iff.mpr ⟨_, hstring, hvalue⟩
    have hsplit : splitFirst? close (Entity.encode content ++ behind) =
        some (Entity.encode content ++ [], rest) := by
      rw [splitFirst?_append_of_misses (hlooks.misses (Entity.angle_not_mem_encode content) _),
        splitFirst?_of_some hend]
      rfl
    have htext : markedText? ("<string>".toList ++ (Entity.encode content ++ behind)) =
        some (Entity.encode content) := by
      have hstring : after? "<string>".toList
          ("<string>".toList ++ (Entity.encode content ++ behind)) =
            some (Entity.encode content ++ behind) := after?_eq_some_iff.mpr rfl
      rw [markedText?, hstring, Option.bind_eq_bind, Option.bind_some, hsplit, Option.map_some,
        List.append_nil]
    refine ⟨gap, inner ++ ("<string>".toList ++ (Entity.encode content ++ behind)), hgap,
      by simp [Mark.chars, behind], ?_⟩
    have htrim : trimStart (inner ++ ("<string>".toList ++ (Entity.encode content ++ behind))) =
        "<string>".toList ++ (Entity.encode content ++ behind) := by
      rw [trimStart_append_of_allBlank hinner]
      rfl
    rw [htrim, contentText?, htext, Option.some_or]

/-- The member with the content of the post is found. -/
theorem IsMember.findMember? {name content : List Char} {marks : List Mark}
    (hname : trim name = contentName.toList) (h : IsMember name content true marks)
    (rest : List Char) :
    XmlRpc.findMember? contentName contentText? (written marks ++ rest) =
      some (Entity.encode content) := by
  have hlooks := looksFor_afterName? contentName contentText?
  obtain ⟨before, after, hbefore, hafter, rfl⟩ := (trim_eq_iff (by decide)).mp hname
  cases h with
  | @intro _ marked closing hopening hvalue _ =>
    obtain ⟨start, others, hstart, rfl, hothers⟩ := hopening.exists_cons
    obtain ⟨gap, none, hgap, rfl, hnone⟩ := hothers.exists_cons
    obtain rfl := hnone.eq_nil
    obtain ⟨space, value, hspace, hwritten, hread⟩ :=
      hvalue.exists_contentText? (written closing ++ rest)
    let behind := before ++ (contentName.toList ++ (after ++
      ("</name>".toList ++ (space ++ ("<value>".toList ++ value)))))
    have hchars : written ([⟨start, "member".toList⟩, ⟨gap, "name".toList⟩] ++
        ⟨before ++ (contentName.toList ++ after), "/name".toList⟩ :: (marked ++ closing)) ++ rest =
        (Mark.mk start "member".toList).chars ++ (gap ++ ("<name>".toList ++ behind)) := by
      simpa [behind, Mark.chars] using hwritten
    -- the tag of the member and the blanks behind it are passed over
    have hmember : Misses (fun cs => (afterName? contentName cs).bind contentText?)
        (Mark.mk start "member".toList).chars (gap ++ ("<name>".toList ++ behind)) := by
      have hplain : (Mark.mk start "member".toList).IsPlain :=
        isPlain_of_mem (angle_not_mem_of_allBlank hstart) (by decide)
      refine hlooks.misses_chars hplain.toIsProper ?_
      exact hlooks.eq_none (by decide) hplain.tag.2 hplain.ne_name _
    have hgap := hlooks.misses (angle_not_mem_of_allBlank hgap) ("<name>".toList ++ behind)
    have hfound : afterName? contentName ("<name>".toList ++ behind) = some (trimStart value) :=
      (afterName?_eq_some_iff (c := 'p') rfl (by decide)).mpr
        ⟨before, after, space, value, hbefore, hafter, hspace, rfl, rfl⟩
    have hread : (afterName? contentName ("<name>".toList ++ behind)).bind contentText? =
        some (Entity.encode content) := by
      rw [hfound, Option.bind_some, hread]
    rw [hchars, findMember?_append_of_misses hmember, findMember?_append_of_misses hgap,
      findMember?_of_some hread]

/-! ### Reading an answer -/

/-- A tag that none of the tags of a document is does not occur in it. -/
theorem contains_tag_eq_false {tag : List Char} (htag : '>' ∉ tag) {marks : List Mark}
    (hmarks : ∀ mark ∈ marks, mark.IsProper ∧ mark.tag ≠ tag) {tail : List Char}
    (htail : '<' ∉ tail) : contains ('<' :: (tag ++ ['>'])) (written marks ++ tail) = false := by
  have hlooks := looksFor_after? tag
  have hend : Misses (after? ('<' :: (tag ++ ['>']))) tail [] := hlooks.misses htail []
  have hall := splitFirst?_append_of_misses (hlooks.misses_written htag hmarks tail)
  have hnone := splitFirst?_append_of_misses hend
  rw [List.append_nil] at hnone
  rw [contains, splitAt?, hall, hnone]
  rfl

/-- What stands in front of an answer is passed over. -/
theorem AreInstructions.isProper {marks : List Mark} (h : AreInstructions marks) {tag : String}
    (htag : tag.toList.head? ≠ some '?') :
    ∀ mark ∈ marks, mark.IsProper ∧ mark.tag ≠ tag.toList := by
  intro mark hmark
  obtain ⟨hblank, hhead, hangles⟩ := h mark hmark
  refine ⟨⟨angle_not_mem_of_allBlank hblank, hangles⟩, fun heq => htag ?_⟩
  rw [← heq, hhead]

/-- An answer that tells no failure is read as the text of the member. -/
theorem postContent_ofList {content cs : List Char}
    (hfault : contains ('<' :: ("fault".toList ++ ['>'])) cs = false)
    (hfound : findMember? contentName contentText? cs = some (Entity.encode content)) :
    postContent (String.ofList cs) = .ok (String.ofList content) := by
  have hvalue : findMember? "post_content" (fun cs => (markedText? cs).or (bareText? cs)) cs =
      some (Entity.encode content) := hfound
  have hsearch : contains "<fault>".toList cs = false := hfault
  have hcs : (String.ofList cs).toList = cs := String.toList_ofList
  simp only [postContent, hcs, hsearch, hvalue, Bool.false_eq_true, if_false, Entity.decode_encode]

/-- An answer is read as exactly the content that it carries. -/
theorem IsAnswer.postContent_eq {content cs : List Char} (h : IsAnswer content cs) :
    postContent (String.ofList cs) = .ok (String.ofList content) := by
  cases h with
  | @intro instructions opening before member after closing name tail hinstructions hopening
      hbefore hname hmember hafter hclosing htail =>
    have hangle : '<' ∉ name := by
      obtain ⟨front, back, hfront, hback, rfl⟩ := (trim_eq_iff (by decide)).mp hname
      rw [List.mem_append, List.mem_append, not_or, not_or]
      exact ⟨angle_not_mem_of_allBlank hfront, by decide, angle_not_mem_of_allBlank hback⟩
    have hopens := hopening.isPlain (by decide)
    have hcloses := hclosing.isPlain (by decide)
    -- no tag of the answer tells a failure
    have hproper : ∀ mark ∈ instructions ++ (opening ++ (before ++ (member ++ (after ++ closing)))),
        mark.IsProper ∧ mark.tag ≠ "fault".toList := by
      simp only [List.forall_mem_append]
      exact ⟨hinstructions.isProper (by decide),
        fun mark hmark => ⟨(hopens mark hmark).toIsProper, (hopens mark hmark).ne_fault⟩,
        hbefore.isProper, hmember.isProper hangle, hafter.isProper,
        fun mark hmark => ⟨(hcloses mark hmark).toIsProper, (hcloses mark hmark).ne_fault⟩⟩
    have hend : '>' ∉ "fault".toList := by decide
    have hfault := contains_tag_eq_false hend hproper
      (angle_not_mem_of_allBlank htail)
    -- the search passes over all that stands in front of the member
    have hlooks := looksFor_afterName? contentName contentText?
    let behind := written (after ++ closing) ++ tail
    have hstart := hlooks.misses_written (by decide) (hinstructions.isProper (by decide))
      (written opening ++ (written before ++ (written member ++ behind)))
    have hopen := hlooks.misses_written (by decide)
      (fun mark hmark => ⟨(hopens mark hmark).toIsProper, (hopens mark hmark).ne_name⟩)
      (written before ++ (written member ++ behind))
    have hothers := hbefore.misses (written member ++ behind)
    have hfound : findMember? contentName contentText?
        (written (instructions ++ (opening ++ (before ++ (member ++ (after ++ closing)))))
          ++ tail) = some (Entity.encode content) := by
      have hwritten :
          written (instructions ++ (opening ++ (before ++ (member ++ (after ++ closing)))))
            ++ tail = written instructions ++ (written opening ++ (written before ++
              (written member ++ behind))) := by
        simp [behind]
      rw [hwritten, findMember?_append_of_misses hstart, findMember?_append_of_misses hopen,
        findMember?_append_of_misses hothers, hmember.findMember? hname]
    exact postContent_ofList hfault hfound

/-! ### The tags of a call -/

/-- The tags of a parameter of a call. -/
def parameterMarks (type : String) (content : List Char) : List Mark :=
  [⟨[], "param".toList⟩, ⟨[], "value".toList⟩, ⟨[], type.toList⟩, ⟨content, '/' :: type.toList⟩,
   ⟨[], "/value".toList⟩, ⟨[], "/param".toList⟩]

theorem written_parameterMarks (type : String) (content : List Char) :
    written (parameterMarks type content) = parameter type content := by
  simp [parameterMarks, Mark.chars, parameter, element]

theorem isProper_of_mem_parameterMarks {type : String} {content : List Char}
    (htype : '<' ∉ type.toList ∧ '>' ∉ type.toList) (hcontent : '<' ∉ content) :
    ∀ mark ∈ parameterMarks type content, mark.IsProper := by
  have hplain : ∀ tag ∈ plainTags, (Mark.mk [] tag.toList).IsProper :=
    fun tag htag => (isPlain_of_mem List.not_mem_nil htag).toIsProper
  have hend : '<' ∉ '/' :: type.toList ∧ '>' ∉ '/' :: type.toList := by
    simp [htype.1, htype.2]
  simp only [parameterMarks, List.forall_mem_cons, List.not_mem_nil, false_implies,
    implies_true, and_true]
  exact ⟨hplain "param" (by decide), hplain "value" (by decide), ⟨List.not_mem_nil, htype⟩,
    ⟨hcontent, hend⟩, hplain "/value" (by decide), hplain "/param" (by decide)⟩

/-- The tags of the last parameter of a call, which tells what is asked for. -/
def fieldMarks : List Mark :=
  [⟨[], "param".toList⟩, ⟨[], "value".toList⟩, ⟨[], "array".toList⟩, ⟨[], "data".toList⟩,
   ⟨[], "value".toList⟩, ⟨[], "string".toList⟩, ⟨contentName.toList, "/string".toList⟩,
   ⟨[], "/value".toList⟩, ⟨[], "/data".toList⟩, ⟨[], "/array".toList⟩, ⟨[], "/value".toList⟩,
   ⟨[], "/param".toList⟩]

theorem written_fieldMarks : written fieldMarks = parameter "array" (element "data" (element "value"
    (element "string" contentName.toList))) := by
  decide

/-- The tags of a call in front of its parameters. -/
def callOpening : List Mark :=
  [⟨[], "?xml version=\"1.0\"?".toList⟩, ⟨['\n'], "methodCall".toList⟩, ⟨[], "methodName".toList⟩,
   ⟨"wp.getPost".toList, "/methodName".toList⟩, ⟨[], "params".toList⟩]

/-- The tags of a call behind its parameters. -/
def callClosing : List Mark :=
  [⟨[], "/params".toList⟩, ⟨[], "/methodCall".toList⟩]

/-- The tags of a call, with the texts in front of them. -/
def callMarks (username password : String) (post : Nat) : List Mark :=
  callOpening ++
  (parameterMarks "int" ['1'] ++
  (parameterMarks "string" (Entity.encode username.toList) ++
  (parameterMarks "string" (Entity.encode password.toList) ++
  (parameterMarks "int" (Nat.toDigits 10 post) ++
  (fieldMarks ++ callClosing)))))

theorem toList_postCall (username password : String) (post : Nat) :
    (postCall username password post).toList = "<?xml version=\"1.0\"?>\n".toList ++
      element "methodCall" (element "methodName" "wp.getPost".toList ++
        element "params" (parameter "int" ['1']
          ++ parameter "string" (Entity.encode username.toList)
          ++ parameter "string" (Entity.encode password.toList)
          ++ parameter "int" (Nat.toDigits 10 post)
          ++ parameter "array" (element "data" (element "value"
            (element "string" "post_content".toList))))) :=
  String.toList_ofList

theorem written_callMarks (username password : String) (post : Nat) :
    written (callMarks username password post) = (postCall username password post).toList := by
  have hfields : written fieldMarks = parameter "array" (element "data" (element "value"
      (element "string" "post_content".toList))) := written_fieldMarks
  rw [toList_postCall, callMarks]
  simp only [written_append, written_parameterMarks, hfields]
  generalize parameter "string" (Entity.encode username.toList) = name
  generalize parameter "string" (Entity.encode password.toList) = word
  generalize parameter "int" (Nat.toDigits 10 post) = number
  generalize parameter "array" _ = fields
  generalize parameter "int" ['1'] = one
  simp [callOpening, callClosing, Mark.chars, element]

/-- No credential can hide a tag of a call or bring in another one. -/
theorem marks_postCall (username password : String) (post : Nat) :
    marks (postCall username password post).toList = callMarks username password post := by
  have hdigits : '<' ∉ Nat.toDigits 10 post :=
    fun hmem => absurd (Json.isAsciiDigit_of_mem_toDigits hmem) (by decide)
  have hint : ∀ content, '<' ∉ content → ∀ mark ∈ parameterMarks "int" content, mark.IsProper :=
    fun _ hcontent => isProper_of_mem_parameterMarks (by decide) hcontent
  have htext : ∀ text, ∀ mark ∈ parameterMarks "string" (Entity.encode text), mark.IsProper :=
    fun text => isProper_of_mem_parameterMarks (by decide) (Entity.angle_not_mem_encode text)
  rw [← written_callMarks]
  refine marks_written ?_
  rw [callMarks]
  simp only [List.forall_mem_append]
  exact ⟨by decide, hint _ (by decide), htext _, htext _, hint _ hdigits, by decide, by decide⟩

/-- The tags that every call has. -/
def callTags : List (List Char) :=
  (callMarks "" "" 0).map Mark.tag

/-- The texts of a call that are marked as strings, read. -/
def strings (cs : List Char) : List (List Char) :=
  ((marks cs).filter (·.tag = "/string".toList)).map fun mark => Entity.decode mark.front

theorem tags_postCall (username password : String) (post : Nat) :
    (marks (postCall username password post).toList).map Mark.tag = callTags := by
  rw [marks_postCall]
  rfl

theorem strings_postCall (username password : String) (post : Nat) :
    strings (postCall username password post).toList =
      [username.toList, password.toList, "post_content".toList] := by
  have hone : ∀ content, (parameterMarks "int" content).filter (·.tag = "/string".toList) = [] :=
    fun _ => rfl
  have htext : ∀ content, (parameterMarks "string" content).filter (·.tag = "/string".toList) =
      [⟨content, "/string".toList⟩] := fun _ => rfl
  have hfields : fieldMarks.filter (·.tag = "/string".toList) =
      [⟨Entity.encode contentName.toList, "/string".toList⟩] := by decide
  have hopening : callOpening.filter (·.tag = "/string".toList) = [] := by decide
  have hclosing : callClosing.filter (·.tag = "/string".toList) = [] := by decide
  rw [strings, marks_postCall, callMarks]
  simp only [List.filter_append, hone, htext, hfields, hopening, hclosing]
  simp only [List.nil_append, List.append_nil, List.cons_append, List.map_cons, List.map_nil,
    Entity.decode_encode]
  rfl

/-! ### Both ways -/

/-- Whatever its text, the content of a post is read of any answer that carries it, and whatever the
credentials, a call consists of the same tags, with exactly the credentials in its strings. -/
theorem texts_survive_calls_and_answers :
    (∀ content answer : String, IsAnswer content.toList answer.toList →
      postContent answer = .ok content) ∧
    ∀ (username password : String) (post : Nat),
      written (marks (postCall username password post).toList) =
        (postCall username password post).toList ∧
      (marks (postCall username password post).toList).map Mark.tag = callTags ∧
      strings (postCall username password post).toList =
        [username.toList, password.toList, "post_content".toList] := by
  constructor
  · intro content answer h
    have hread := h.postContent_eq
    rwa [String.ofList_toList, String.ofList_toList] at hread
  · intro username password post
    refine ⟨?_, tags_postCall username password post, strings_postCall username password post⟩
    rw [marks_postCall, written_callMarks]

theorem areSpaced_map (tags : List String) : AreSpaced tags (tags.map (⟨[], ·.toList⟩)) := by
  constructor
  · rw [List.map_map]
    rfl
  · simp [allBlank]

theorem toList_append_of_eq {first second : String} {cs ds : List Char}
    (hfirst : first.toList = cs) (hsecond : second.toList = ds) :
    (first ++ second).toList = cs ++ ds := by
  rw [String.toList_append, hfirst, hsecond]

/-- A member with the title of a post. -/
def titleMember : String :=
  "<member><name>post_title</name><value>A</value></member>\n"

/-- A member with the content of a post. -/
def contentMember : String :=
  "<member><name> post_content</name><value><string> &lt;b&gt;&amp;lt;</string></value></member>"

/-- An answer that has the title of the post before its content. -/
def titledAnswer : String :=
  "<methodResponse><params><param><value><struct>" ++ (titleMember ++ (contentMember ++
    "</struct></value></param></params></methodResponse>\n"))

set_option maxRecDepth 4000 in
/-- A text with the look of tags and references, between blanks and behind another member. -/
theorem texts_survive_calls_and_answers_titled :
    IsAnswer " <b>&lt;".toList titledAnswer.toList ∧
      postContent titledAnswer = .ok " <b>&lt;" := by
  have htitle : IsMember "post_title".toList ['A'] false _ :=
    .intro (areSpaced_map ["member", "name"]) (.bare (areSpaced_map ["value"]))
      (areSpaced_map ["/member"])
  have hopening : AreSpaced ["member", "name"] [⟨['\n'], "member".toList⟩, ⟨[], "name".toList⟩] :=
    ⟨rfl, by decide⟩
  have hcontent : IsMember " post_content".toList " <b>&lt;".toList true _ :=
    .intro hopening (.marked (areSpaced_map ["value", "string"]) (areSpaced_map ["/value"]))
      (areSpaced_map ["/member"])
  have hanswer : IsAnswer " <b>&lt;".toList titledAnswer.toList := by
    have htail : allBlank ['\n'] = true := rfl
    have hchars : titledAnswer.toList = _ :=
      toList_append_of_eq String.toList_ofList (toList_append_of_eq String.toList_ofList
        (toList_append_of_eq String.toList_ofList String.toList_ofList))
    rw [hchars]
    exact .intro (List.forall_mem_nil _)
      (areSpaced_map ["methodResponse", "params", "param", "value", "struct"])
      (.cons (by decide) (by decide) htitle .nil) rfl hcontent .nil
      (areSpaced_map ["/struct", "/value", "/param", "/params", "/methodResponse"]) htail
  exact ⟨hanswer, texts_survive_calls_and_answers.1 " <b>&lt;" titledAnswer hanswer⟩

end XmlRpc

end PageMarkup
