import PageMarkup.Proofs.Import.Backgrounds

/-!
# Backgrounds from the structure of a page

A background that is found at an element of the page carries a key: the id of the element, or else
the id of the nearest element before it that has one, or else a name made from its offset.  A
section takes the first such background that lies inside it or has its id as key.  So what a section
takes from outside itself was found at an element that is joined to it by an id, and a section
without an id takes nothing from outside.
-/

namespace PageMarkup

open Text

namespace Html

namespace Backdrop

variable {last : Option String} {tags : List (Nat × Tag)}

/-- The id of the last of some opening tags that have one. -/
def lastId? (tags : List (Nat × Tag)) : Option String :=
  (tags.filterMap fun tag => id? tag.2).getLast?

@[simp] theorem lastId?_nil : lastId? [] = none := rfl

theorem lastId?_cons (tag : Nat × Tag) (tags : List (Nat × Tag)) :
    lastId? (tag :: tags) = (lastId? tags).or (id? tag.2) := by
  rw [lastId?, List.filterMap_cons]
  cases hid : id? tag.2 with
  | none => rw [Option.or_none, lastId?]
  | some id =>
    rw [List.getLast?_cons, lastId?]
    cases (tags.filterMap fun tag => id? tag.2).getLast? <;> rfl

/-- The key of what is found at the last of some opening tags, which stands at this offset. -/
def keyOf (tags : List (Nat × Tag)) (offset : Nat) : String :=
  (lastId? tags).getD ("section-" ++ toString offset)

/-- What is found at some opening tags is found at one of them; its key is made from the ids up to
this tag and the last id before them all. -/
theorem exists_of_mem_ofTags {backdrop : Backdrop} (h : backdrop ∈ ofTags last tags) :
    ∃ front tag back, tags = front ++ (backdrop.offset, tag) :: back ∧
      ofTag? tag = some (backdrop.background, backdrop.origin) ∧
      backdrop.key = ((lastId? (front ++ [(backdrop.offset, tag)])).or last).getD
        ("section-" ++ toString backdrop.offset) := by
  induction tags generalizing last with
  | nil => exact absurd h List.not_mem_nil
  | cons first tags ih =>
    obtain ⟨offset, tag⟩ := first
    -- a backdrop of a later tag has the id that was the last one in front of that tag
    have hlater (h : backdrop ∈ ofTags ((id? tag).orElse fun _ => last) tags) :
        ∃ front inside back, (offset, tag) :: tags =
            front ++ (backdrop.offset, inside) :: back ∧
          ofTag? inside = some (backdrop.background, backdrop.origin) ∧
          backdrop.key = ((lastId? (front ++ [(backdrop.offset, inside)])).or last).getD
            ("section-" ++ toString backdrop.offset) := by
      obtain ⟨front, inside, back, htags, hfound, hkey⟩ := ih h
      refine ⟨(offset, tag) :: front, inside, back, by rw [htags, List.cons_append], hfound, ?_⟩
      rw [hkey, List.cons_append, lastId?_cons, Option.or_assoc, Option.orElse_eq_or]
    rw [ofTags] at h
    cases hfound : ofTag? tag with
    | none =>
      simp only [hfound] at h
      exact hlater h
    | some found =>
      obtain ⟨background, origin⟩ := found
      simp only [hfound] at h
      rcases List.mem_cons.mp h with rfl | h
      · refine ⟨[], tag, tags, rfl, hfound, ?_⟩
        rw [List.nil_append, lastId?_cons, lastId?_nil, Option.none_or, Option.orElse_eq_or]
      · exact hlater h

/-- The background was found at an opening tag of the page, and its key is made from the ids up to
this tag and from its offset. -/
def IsFoundIn (page : List Char) (backdrop : Backdrop) : Prop :=
  ∃ front tag back, findAllAt readOpening page = front ++ (backdrop.offset, tag) :: back ∧
    ofTag? tag = some (backdrop.background, backdrop.origin) ∧
    backdrop.key = keyOf (front ++ [(backdrop.offset, tag)]) backdrop.offset

theorem isFoundIn_of_mem_findAll {page : List Char} {backdrop : Backdrop}
    (h : backdrop ∈ findAll page) : backdrop.IsFoundIn page := by
  obtain ⟨front, tag, back, htags, hfound, hkey⟩ := exists_of_mem_ofTags h
  refine ⟨front, tag, back, htags, hfound, ?_⟩
  rw [hkey, Option.or_none, keyOf]

end Backdrop

end Html

namespace Background

/-- The background that the structure of a page gives to one of its sections. -/
def ofStructure? (page : List Char) (part : Html.Section) : Option Html.Backdrop :=
  (Html.Backdrop.findAll page).find? (isAbout part.id (some (part.start, part.stop)))

/-- What the structure of a page gives to a section lies inside the section or has its id as key. -/
theorem mem_of_ofStructure? {page : List Char} {part : Html.Section} {backdrop : Html.Backdrop}
    (h : ofStructure? page part = some backdrop) :
    backdrop ∈ Html.Backdrop.findAll page ∧
      ((part.start ≤ backdrop.offset ∧ backdrop.offset < part.stop) ∨
        part.id = some backdrop.key) := by
  refine ⟨List.mem_of_find?_eq_some h, ?_⟩
  have habout := List.find?_some h
  simp only [isAbout, Bool.or_eq_true, beq_iff_eq, Option.any_some, Bool.and_eq_true,
    decide_eq_true_eq] at habout
  exact habout.symm

/-- A section without a background of its own and of the stylesheets has that of the structure. -/
theorem ofSection?_none {page : List Char} {part : Html.Section}
    (hrules : Stylesheet.background? part.id part.classes (defined page).rules = none) :
    ofSection? page part none =
      (ofStructure? page part).map fun backdrop => ⟨backdrop.background, .backdrop⟩ := by
  rw [ofSection?, find?, hrules]
  rfl

end Background

namespace Import

/-- A section without a background in its own style and in the stylesheets gets the first background
of the structure of the page that lies inside it or has its id as key, and the key is the id of the
element or else of the nearest one before it that has an id. -/
theorem section_gets_backdrop (content : String) (limit : Nat) :
    List.Forall₂ (fun part node => part.inline? = none →
        Stylesheet.background? part.id part.classes (Background.defined content.toList).rules =
          none →
        Node.HasBackground node ((Background.ofStructure? content.toList part).map
          fun backdrop => ⟨backdrop.background, .backdrop⟩) ∧
        ∀ backdrop, Background.ofStructure? content.toList part = some backdrop →
          backdrop.IsFoundIn content.toList ∧
          ((part.start ≤ backdrop.offset ∧ backdrop.offset < part.stop) ∨
            part.id = some backdrop.key))
      (Html.sections (Html.items content.toList))
      (((pageAs false content).result limit).topLevel.filter (·.kind.isStructural)) := by
  refine (forall₂_sections_pageAs limit content).imp fun part node hfound hinline hrules => ?_
  rw [hinline, Background.ofSection?_none hrules] at hfound
  refine ⟨hfound, fun backdrop hbackdrop => ?_⟩
  obtain ⟨hmem, hjoined⟩ := Background.mem_of_ofStructure? hbackdrop
  exact ⟨Html.Backdrop.isFoundIn_of_mem_findAll hmem, hjoined⟩

/-- A section with an id, and a section without one around a wrapper. -/
def followedPage : String :=
  "<section id=\"a\"><p>x</p></section>" ++
    "<section><div class=\"section-bg\" data-bg=\"#123456\"></div></section>"

/-- The first section has an id and nothing else, and ends where the second one begins. -/
theorem head?_sections_followedPage :
    ((Html.sections (Html.items followedPage.toList)).map fun part =>
      (part.id, part.inline?, part.classes, part.start, part.stop)).head? =
        some (some "a", none, none, 0, 34) := by
  decide

/-- The wrapper in the second section has the id of the first section as key. -/
theorem findAll_followedPage :
    Html.Backdrop.findAll followedPage.toList = [⟨"a", "#123456", 43, .wrapper⟩] := by
  decide

/-- Nothing but the structure of the page gives the first section a background. -/
theorem ofStructure?_followedPage {part : Html.Section}
    (hpart : (part.id, part.inline?, part.classes, part.start, part.stop) =
      (some "a", none, none, 0, 34)) :
    part.inline? = none ∧
      Stylesheet.background? part.id part.classes
        (Background.defined followedPage.toList).rules = none ∧
      Background.ofStructure? followedPage.toList part = some ⟨"a", "#123456", 43, .wrapper⟩ := by
  simp only [Prod.mk.injEq] at hpart
  obtain ⟨hid, hinline, hclasses, hstart, hstop⟩ := hpart
  rw [Background.ofStructure?, findAll_followedPage, hid, hclasses, hstart, hstop]
  exact ⟨hinline, by decide, by decide⟩

/-- The first section gets the background of the wrapper in the second one. -/
theorem section_gets_backdrop_followedPage :
    ∃ node, (((pageAs false followedPage).result 0).topLevel.filter
        (·.kind.isStructural)).head? = some node ∧
      Dict.get? "backgroundColor" node.props = some (.text "#123456") := by
  obtain ⟨part, node, hpart, hnode, hgets⟩ :=
    exists_head_of_forall₂ head?_sections_followedPage (section_gets_backdrop followedPage 0)
  obtain ⟨hinline, hrules, hbackdrop⟩ := ofStructure?_followedPage hpart
  have hfound := (hgets hinline hrules).1
  rw [hbackdrop] at hfound
  exact ⟨node, hnode, hfound.of_allowed (by decide +kernel)⟩

/-- A section can get a background that was found outside of it. -/
theorem not_section_gets_backdrop_inside :
    ¬ ∀ content limit, List.Forall₂ (fun part node => part.inline? = none →
        Stylesheet.background? part.id part.classes (Background.defined content.toList).rules =
          none →
        ∃ found : Option Html.Backdrop,
          Node.HasBackground node (found.map fun backdrop => ⟨backdrop.background, .backdrop⟩) ∧
          ∀ backdrop, found = some backdrop →
            backdrop ∈ Html.Backdrop.findAll content.toList ∧
            part.start ≤ backdrop.offset ∧ backdrop.offset < part.stop)
      (Html.sections (Html.items content.toList))
      (((pageAs false content).result limit).topLevel.filter (·.kind.isStructural)) := by
  intro h
  obtain ⟨part, node, hpart, hnode, hinside⟩ :=
    exists_head_of_forall₂ head?_sections_followedPage (h followedPage 0)
  obtain ⟨other, _, hother, hsame, hcode⟩ := exists_head_of_forall₂ head?_sections_followedPage
    (forall₂_sections_pageAs 0 followedPage)
  obtain rfl := Option.some.inj (hnode.symm.trans hsame)
  obtain ⟨hinline, hrules, -⟩ := ofStructure?_followedPage hpart
  obtain ⟨hinline', hrules', hbackdrop⟩ := ofStructure?_followedPage hother
  rw [hinline', Background.ofSection?_none hrules', hbackdrop] at hcode
  have hcolor := hcode.of_allowed (by decide +kernel)
  obtain ⟨found, hfound, hplace⟩ := hinside hinline hrules
  cases found with
  | none =>
    rw [hfound.color] at hcolor
    exact absurd hcolor (by simp [Background.parts])
  | some backdrop =>
    obtain ⟨hmem, -, hbefore⟩ := hplace backdrop rfl
    rw [findAll_followedPage] at hmem
    have hoffset : backdrop.offset = 43 := by rw [List.mem_singleton.mp hmem]
    simp only [Prod.mk.injEq] at hpart
    omega

end Import

end PageMarkup
