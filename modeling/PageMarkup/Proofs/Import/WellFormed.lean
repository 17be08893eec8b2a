import PageMarkup.Proofs.Compile.Journal
import PageMarkup.Proofs.Import.Placing
import PageMarkup.Proofs.Issues

/-!
# Every import is well formed

Whatever a page holds, and whether it is read as markup or as rendered HTML, the document that is
imported has no issues, and its restricted values are in the normal form in which they are
published.  So publishing it neither flattens a section nor meets a zone twice, and filters
nothing.
-/

namespace PageMarkup

open Text

namespace Document

variable {doc : Document} {made : List Kind}

/-- A document that is placed by an import has no issues. -/
theorem IsPlaced.issues_eq_nil (h : doc.IsPlaced made) : doc.issues = [] := by
  have hid : ∀ node ∈ doc.nodes, node.id ≠ "" := by
    intro node hnode hempty
    obtain ⟨number, -, -, hnumber⟩ := (h.areNumbered.isNumbered node hnode).exists_number
    have hchars := congrArg String.toList (hnumber.symm.trans hempty)
    simp [Drafting.idOf] at hchars
  refine issues_eq_nil_iff.mpr ⟨hid, h.areNumbered.nodup, fun entry hentry => ?_⟩
  obtain ⟨node, hnode, -, hkey⟩ := h.isOwned entry hentry
  have hmem : node ∈ doc.nodes := List.mem_append_left _ hnode
  refine ⟨node, hmem, hid node hmem, ?_⟩
  rw [hkey, Node.contentKey, Node.zoneKey, Zone.owner_key node.id (by decide)]

/-- A document that is placed by an import is compiled quietly. -/
theorem IsPlaced.isQuiet (h : doc.IsPlaced made) : doc.IsQuiet where
  issues := h.issues_eq_nil
  attributes node hnode :=
    (h.areNumbered.isStored node (List.mem_append_left _ hnode)).every_attributes
  template node hnode := by
    have hknown := (h.areNumbered.isNumbered node hnode).isKnown
    exact (h.areNumbered.isStored node hnode).isQuiet_template hknown
  isContent := h.isContent

end Document

namespace Import

/-- Whatever a page holds, the document that is imported from it is well formed: it has no issues,
each of its zones holds the content of a section on the top level and no section, and its
compilation neither warns of a section inside a section nor of a zone inside itself. -/
theorem pageAs_isWellFormed (isMarkup : Bool) (content : String) (limit : Nat) :
    let doc := (pageAs isMarkup content).result limit
    doc.issues = [] ∧
      (∀ entry ∈ doc.zones, ∀ node ∈ entry.2, node.kind ≠ .section) ∧
      (∀ entry ∈ doc.zones, ∃ node ∈ doc.topLevel,
        node.kind = .section ∧ entry.1 = node.id ++ ":content") ∧
      ∀ run, ∀ entry ∈ doc.compile.entries run, entry.phase = .warn →
        (∀ id, entry.message ≠
          "Section " ++ id ++ " nested inside a section; children flattened") ∧
        ∀ key, entry.message ≠ "Zone " ++ key ++ " refers back to itself; left empty" := by
  intro doc
  obtain ⟨made, hplaced⟩ : ∃ made, doc.IsPlaced made :=
    exists_isPlaced_pageAs limit isMarkup content
  refine ⟨hplaced.issues_eq_nil, ?_, ?_, ?_⟩
  · intro entry hentry node hnode hkind
    have hcontent := hplaced.isContent entry hentry node hnode
    rw [hkind] at hcontent
    exact absurd hcontent (by decide)
  · intro entry hentry
    obtain ⟨node, hnode, hkind, hkey⟩ := hplaced.isOwned entry hentry
    refine ⟨node, hnode, hkind, ?_⟩
    rw [hkey, Node.contentKey, Node.zoneKey, Zone.key, String.append_assoc]
    rfl
  · intro run entry hentry hwarn
    obtain ⟨front, hmessage⟩ := (hplaced.isQuiet.compile run entry hentry).exists_skipped hwarn
    -- Three characters from the end tell the only warning from the two that are excluded.
    rw [hmessage]
    exact ⟨fun id => append_ne_append 3 (by decide) (by decide) (by decide),
      fun key => append_ne_append 3 (by decide) (by decide) (by decide)⟩

/-- Whatever a page holds, each style, link and level that is stored in the document that is
imported from it is a text that its restriction maps to itself, in the records of lists as well, and
the compilation of the document filters no value. -/
theorem pageAs_isInNormalForm (isMarkup : Bool) (content : String) (limit : Nat) :
    let doc := (pageAs isMarkup content).result limit
    (∀ node ∈ doc.nodes, ∀ entry ∈ node.props, entry.2.IsInNormalForm entry.1 ∧
      ∀ fields ∈ entry.2.records, ∀ field ∈ fields, field.2.IsInNormalForm field.1) ∧
    ∀ run, ∀ entry ∈ doc.compile.entries run, entry.phase ≠ .filter := by
  intro doc
  obtain ⟨made, hplaced⟩ : ∃ made, doc.IsPlaced made :=
    exists_isPlaced_pageAs limit isMarkup content
  refine ⟨?_, ?_⟩
  · intro node hnode entry hentry
    have hstored := hplaced.areNumbered.isStored node hnode
    refine ⟨(hstored.own entry hentry).isInNormalForm, ?_⟩
    intro fields hfields field hfield
    exact (hstored.records entry hentry fields hfields field hfield).isInNormalForm
  · intro run entry hentry
    exact (hplaced.isQuiet.compile run entry hentry).notFilter

end Import

end PageMarkup
