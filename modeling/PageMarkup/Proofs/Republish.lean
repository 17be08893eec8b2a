import PageMarkup.Proofs.Import.Canonical
import PageMarkup.Proofs.Import.Page

/-!
# Publishing again

A document in canonical form is published as a page from which the same page is published again:
the document that is read from the page has other ids and other properties, but its markup is the
same to the last character.
-/

namespace PageMarkup

namespace Document

/-- The document is in canonical form: every node that is rendered is, and in the order in which the
nodes of a section are rendered no markup that starts with a row follows one that ends with one. -/
structure IsCanonical (doc : Document) : Prop where
  nodes : ∀ part ∈ doc.outline, ∀ node ∈ part.nodes, node.markup?.isSome → node.IsCanonical
  rows : ∀ part ∈ doc.outline, (Nodes.bodies part.nodes).IsChain Forest.DoNotMeet

instance (doc : Document) : Decidable doc.IsCanonical :=
  decidable_of_iff
    ((∀ part ∈ doc.outline, ∀ node ∈ part.nodes, node.markup?.isSome → node.IsCanonical) ∧
      ∀ part ∈ doc.outline, (Nodes.bodies part.nodes).IsChain Forest.DoNotMeet)
    ⟨fun ⟨hnodes, hrows⟩ => ⟨hnodes, hrows⟩, fun h => ⟨h.nodes, h.rows⟩⟩

/-- The sections of a document in canonical form can be read back. -/
theorem IsCanonical.isReadable {doc : Document} (h : doc.IsCanonical) {part : Outline}
    (hpart : part ∈ doc.outline) : part.IsReadable where
  isProper := doc.isProper_of_mem_outline hpart
  exists_portions := by
    refine Forest.exists_portions (fun body hbody => ?_) (h.rows part hpart)
    obtain ⟨node, hnode, hmarkup⟩ := List.mem_filterMap.mp hbody
    have hcanonical := h.nodes part hpart node hnode (by rw [hmarkup]; rfl)
    exact Node.exists_isPortioned hcanonical hmarkup

/-- The markup of a document in canonical form is read as a document with the same markup. -/
theorem compile_page_compile {doc : Document} (h : doc.IsCanonical)
    (published imported republished : Nat) :
    ((Import.page (doc.compile.result published)).result imported).compile.result republished =
      doc.compile.result published := by
  have hpage := Import.page_outline_page (fun part hpart => h.isReadable hpart)
    (doc.toList_compile published) (doc.read_compile published) imported
  rw [← String.toList_inj, toList_compile, toList_compile, hpage]

/-- A document with a section of a hero and a grid of features, a node that is not rendered, and a
text outside of sections. -/
def launch : Document where
  root := []
  topLevel := [
    ⟨.section, "s-1", [("background", .text " #FFF ")]⟩,
    ⟨.text, "t-1", [("text", .text "Loose [text] & more")]⟩]
  zones := [("s-1:content", [
    ⟨.hero, "h-1", [("ctaHref", .text "/start"), ("ctaLabel", .text "Go"),
      ("title", .text "Launch <today>")]⟩,
    ⟨.image, "i-1", [("src", .text "javascript:alert(1)")]⟩,
    ⟨.featureGrid, "f-1", [("features", .list [
      .record [("title", .text "Fast")],
      .record [("description", .text "Safe & <b>sound</b>"), ("title", .text "Safe")]]),
      ("title", .text "Why")]⟩])]

/-- The document is in canonical form, and its page is published again. -/
theorem compile_page_compile_launch :
    launch.IsCanonical ∧
      ((Import.page (launch.compile.result 512)).result 512).compile.result 512 =
        launch.compile.result 512 := by
  have hcanonical : launch.IsCanonical := by decide +kernel
  exact ⟨hcanonical, compile_page_compile hcanonical 512 512 512⟩

end Document

end PageMarkup
