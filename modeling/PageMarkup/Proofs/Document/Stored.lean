import PageMarkup.Proofs.Import.Storable
import PageMarkup.Proofs.Shelf

/-!
# Stored documents come back

A document that was read or imported is read from its own text again, and so it is loaded from the
file that it was saved into.  That its numbers come back is assumed: a number is read by scaling its
digits in floating point arithmetic, which does not always end at the number that was printed.
-/

namespace PageMarkup

open Text

namespace Document

/-- The document was read, or imported from a page that fits into a memory of 64 bits. -/
def IsObtained (doc : Document) : Prop :=
  (∃ bytes, ofBytes bytes = .ok doc) ∨
    ∃ isMarkup content limit, size content.toList < 2 ^ 64 ∧
      doc = (Import.pageAs isMarkup content).result limit

/-- What is read from bytes is read from their text. -/
theorem exists_read?_of_ofBytes {bytes : ByteArray} {doc : Document} (h : ofBytes bytes = .ok doc) :
    ∃ text, read? text = some doc := by
  rw [ofBytes] at h
  split at h
  · exact absurd h (by simp)
  · rename_i text _
    split at h
    · exact absurd h (by simp)
    · obtain rfl := Except.ok.inj h
      exact ⟨text, ‹_›⟩

/-- What is read from a text is read from its bytes. -/
theorem ofBytes_toUTF8 {text : String} {doc : Document} (h : read? text = some doc) :
    ofBytes text.toUTF8 = .ok doc := by
  have htext : String.fromUTF8? text.toUTF8 = some text := by
    rw [String.fromUTF8?, String.toUTF8_eq_toByteArray, dif_pos text.isValidUTF8]
    rfl
  rw [ofBytes, htext]
  simp only [h]

/-- A document that was read or imported is storable. -/
theorem IsObtained.isStorable {doc : Document} (h : doc.IsObtained) : doc.IsStorable := by
  rcases h with ⟨bytes, hbytes⟩ | ⟨isMarkup, content, limit, hsize, rfl⟩
  · obtain ⟨text, htext⟩ := exists_read?_of_ofBytes hbytes
    obtain ⟨tree, -, htree⟩ := Option.bind_eq_some_iff.mp htext
    exact isStorable_of_ofTree? htree
  · exact Import.isStorable_pageAs isMarkup hsize.le limit

/-- A document that was read or imported comes back, if its finite numbers do: its text is read as
the document, and where the file of an id can be written, it is saved under the id, and from then on
loaded. -/
theorem comesBack {doc : Document} (h : doc.IsObtained)
    (hnumbers : ∀ x ∈ doc.numbers, x.isFinite = true → x.ReadsBack) :
    ofBytes doc.print.toUTF8 = .ok doc ∧
      ∀ (shelf : Shelf) (id : String) (path : Path) (folder after : Folder),
        PageId.path id = .ok path → folder.write? (shelf.root ++ path) doc.print = some after →
          shelf.save id doc folder = .ok after ∧ shelf.load id after = .ok doc := by
  have hread := h.isStorable.read?_print hnumbers
  refine ⟨ofBytes_toUTF8 hread, fun shelf id path folder after hid hwrite => ⟨?_, ?_⟩⟩
  · rw [Shelf.save_of_path hid, hwrite]
  · refine Shelf.load_of_find? hid ?_ hread
    rw [Folder.find?_of_write? hwrite]
    exact List.append_ne_nil_of_right_ne_nil _ (PageId.isDocument_path hid).ne_nil

/-- A feature. -/
def feature : String := "[blurb title=\"Fast\"]It is[/blurb]"

/-- The document of one feature has the number of its columns.  It is read from its text again, and
from the file of the id that it was saved under. -/
theorem comesBack_feature :
    ((Import.pageAs true feature).result 512).numbers = [⟨false, 0x3FF0000000000000⟩] ∧
      ofBytes ((Import.pageAs true feature).result 512).print.toUTF8 =
        .ok ((Import.pageAs true feature).result 512) ∧
      ∃ after, ({} : Shelf).save "features/1" ((Import.pageAs true feature).result 512) [] =
          .ok after ∧
        ({} : Shelf).load "features/1" after = .ok ((Import.pageAs true feature).result 512) := by
  have hnumbers : ((Import.pageAs true feature).result 512).numbers =
      [⟨false, 0x3FF0000000000000⟩] := by decide +kernel
  have hback : ∀ x ∈ ((Import.pageAs true feature).result 512).numbers,
      x.isFinite = true → x.ReadsBack := by
    rw [hnumbers]
    decide +kernel
  have hsize : size feature.toList < 2 ^ 64 := by decide +kernel
  have hcomes := comesBack (.inr ⟨true, feature, 512, hsize, rfl⟩) hback
  have hid : PageId.path "features/1" = .ok ["features", "1.json"] := by decide +kernel
  have hwrite (content : String) : (Folder.write? ["features", "1.json"] content []).isSome := by
    have hfree : ¬(!Path.fits ["features", "1.json"] ||
        Folder.isBlocked ["features", "1.json"] [] ||
        Folder.find? ["features", "1.json"] [] = some .folder) = true := by decide +kernel
    rw [Folder.write?, if_neg hfree]
    rfl
  obtain ⟨after, hafter⟩ := Option.isSome_iff_exists.mp (hwrite _)
  exact ⟨hnumbers, hcomes.1, after, hcomes.2 {} "features/1" _ [] after hid hafter⟩

end Document

end PageMarkup
