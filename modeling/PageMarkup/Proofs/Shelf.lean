import Mathlib.Logic.Function.Basic
import PageMarkup.Proofs.Document.RoundTrip
import PageMarkup.Proofs.Folder
import PageMarkup.Store

/-!
# Documents in a folder

An id names the file of its document: folders whose names have no point, and last a file whose name
has one.  So no document stands in the way of another, and what is loaded is what was saved last
into the same file.  Two ids name the same file only if they differ in slashes side by side.
-/

namespace PageMarkup

open Text

/-! ### Files of ids -/

/-- The path is one of a document: no folder that it goes through has a point in its name, and the
file has one. -/
def Path.IsDocument (path : Path) : Prop :=
  ∃ front last, path = front ++ [last] ∧ path.IsProper ∧ '.' ∈ last.toList ∧
    ∀ name ∈ front, '.' ∉ name.toList

namespace Path.IsDocument

variable {path : Path}

theorem isProper (h : path.IsDocument) : path.IsProper := by
  obtain ⟨-, -, -, hproper, -⟩ := h
  exact hproper

theorem ne_nil (h : path.IsDocument) : path ≠ [] := by
  obtain ⟨front, last, rfl, -⟩ := h
  simp

/-- Some name in the path of a document has a point. -/
theorem not_plain (h : path.IsDocument) : ¬ ∀ name ∈ path, '.' ∉ name.toList := by
  obtain ⟨front, last, rfl, -, hpoint, -⟩ := h
  exact fun hplain => hplain last (by simp) hpoint

end Path.IsDocument

namespace PageId

/-- The names in the path of an id are the pieces of the id, of which the last is continued. -/
theorem exists_pieces (id : String) : ∃ front last,
    splitWhere (· == '/') id.toList = front ++ [last] ∧
      splitWhere (· == '/') (id ++ ".json").toList = front ++ [last ++ ".json".toList] := by
  have hplain : ∀ c ∈ ".json".toList, (c == '/') = false := by simp
  rw [String.toList_append]
  exact exists_splitWhere_append hplain id.toList

theorem isValid_of_path {id : String} {path : Path} (h : PageId.path id = .ok path) :
    isValid id = true ∧ path = Path.ofText (id ++ ".json") := by
  rw [PageId.path] at h
  split at h
  · exact ⟨‹_›, (Except.ok.inj h).symm⟩
  · exact absurd h (by simp)

/-- An id has no points. -/
theorem not_point_of_isValid {id : String} (h : isValid id = true) : '.' ∉ id.toList := by
  simp only [isValid, Bool.and_eq_true, List.all_eq_true] at h
  exact fun hpoint => absurd (h.2 '.' hpoint) (by decide)

/-- An id names the path of a document. -/
theorem isDocument_path {id : String} {path : Path} (h : PageId.path id = .ok path) :
    path.IsDocument := by
  obtain ⟨hvalid, rfl⟩ := isValid_of_path h
  obtain ⟨front, last, hid, htext⟩ := exists_pieces id
  have hlast : (!(last ++ ".json".toList).isEmpty) = true := by simp
  refine ⟨(front.filter (!·.isEmpty)).map String.ofList, String.ofList (last ++ ".json".toList), ?_,
    Path.isProper_ofText _, ?_, ?_⟩
  · rw [Path.ofText, htext, List.filter_append, List.filter_singleton, hlast, cond_true,
      List.map_append]
    rfl
  · rw [String.toList_ofList]
    exact List.mem_append_right last (by decide)
  · refine List.forall_mem_map.mpr fun piece hpiece => ?_
    rw [String.toList_ofList]
    have hmem : piece ∈ splitWhere (· == '/') id.toList := by
      rw [hid]
      exact List.mem_append_left _ (List.mem_filter.mp hpiece).1
    exact fun hpoint => not_point_of_isValid hvalid (mem_of_mem_splitWhere hmem hpoint)

/-- The path of an id without slashes side by side has the text of the id. -/
theorem text_path {id : String} {path : Path} (h : PageId.path id = .ok path)
    (hslashes : ¬ ['/', '/'] <:+: id.toList) : path.text = id ++ ".json" := by
  obtain ⟨hvalid, rfl⟩ := isValid_of_path h
  obtain ⟨front, last, hid, htext⟩ := exists_pieces id
  have hfront : [] ∉ front := by
    intro hnil
    have hdrop : [] ∈ (splitWhere (· == '/') id.toList).dropLast := by
      rwa [hid, List.dropLast_concat]
    rcases exists_cut_of_nil_mem_splitWhere hdrop with
      ⟨c, rest, hstart, hc⟩ | ⟨c, d, hc, hd, hinfix⟩
    · simp only [isValid, hstart, List.head?_cons, Bool.and_eq_true] at hvalid
      exact absurd hvalid.1.2 (by simp [beq_iff_eq.mp hc])
    · rw [beq_iff_eq.mp hc, beq_iff_eq.mp hd] at hinfix
      exact hslashes hinfix
  -- so no piece is empty, and none is dropped
  have hpieces : ∀ piece ∈ splitWhere (· == '/') (id ++ ".json").toList,
      (!piece.isEmpty) = true := by
    rw [htext]
    refine List.forall_mem_append.mpr
      ⟨fun piece hpiece => ?_, List.forall_mem_singleton.mpr (by simp)⟩
    have hne : piece ≠ [] := fun hnil => hfront (hnil ▸ hpiece)
    simpa using hne
  have hjoin := intercalate_splitWhere '/' (id ++ ".json").toList
  have hnames : (Path.ofText (id ++ ".json")).map String.toList =
      splitWhere (· == '/') (id ++ ".json").toList := by
    rw [Path.ofText, List.filter_eq_self.mpr hpieces, List.map_map]
    exact (List.map_congr_left fun piece _ => String.toList_ofList).trans (List.map_id _)
  rw [← String.toList_inj, Path.text, String.toList_intercalate, hnames]
  exact hjoin

/-- Ids without slashes side by side that name the same file are the same. -/
theorem path_inj {id other : String} {path : Path} (hid : PageId.path id = .ok path)
    (hother : PageId.path other = .ok path) (hslashes : ¬ ['/', '/'] <:+: id.toList)
    (hslashesOther : ¬ ['/', '/'] <:+: other.toList) : id = other := by
  have htext := (text_path hid hslashes).symm.trans (text_path hother hslashesOther)
  rw [← String.toList_inj, String.toList_append, String.toList_append] at htext
  exact String.toList_inj.mp (List.append_cancel_right htext)

end PageId

/-! ### Calls -/

/-- A call on a store of documents. -/
inductive Call where
  | load (id : String)
  | save (id : String) (doc : Document)

namespace Shelf

/-- The folder after a call.  Loading changes nothing, nor does saving when it fails. -/
def after (shelf : Shelf) (folder : Folder) : Call → Folder
  | .load _ => folder
  | .save id doc =>
    match shelf.save id doc folder with
    | .ok folder => folder
    | .error _ => folder

/-- The folder after some calls. -/
def run (shelf : Shelf) (calls : List Call) (folder : Folder) : Folder :=
  calls.foldl shelf.after folder

/-- The document that a call saves into the file at a path.  A file is not written if a name in its
path is too long, or all of it. -/
def saved? (shelf : Shelf) (path : Path) : Call → Option Document
  | .load _ => none
  | .save id doc =>
    if PageId.path id = .ok path ∧ (shelf.root ++ path).fits = true then some doc else none

/-- The document that some calls saved last into the file at a path. -/
def lastSaved? (shelf : Shelf) (path : Path) (calls : List Call) : Option Document :=
  (calls.filterMap (shelf.saved? path)).getLast?

/-- Nothing is in the folder of the shelf, and nothing stands in the way to it. -/
structure IsEmpty (shelf : Shelf) (folder : Folder) : Prop where
  isProper : shelf.root.IsProper
  outer : ∀ outer, outer <+: shelf.root →
    folder.find? outer = none ∨ folder.find? outer = some .folder
  inside : ∀ path, path ≠ [] → folder.find? (shelf.root ++ path) = none

/-- The folder holds these documents: the files at the paths of documents are theirs, and whatever
these paths go through is a folder, if it is there. -/
structure Holds (shelf : Shelf) (docs : Path → Option Document) (folder : Folder) : Prop where
  outer : ∀ outer, outer <+: shelf.root →
    folder.find? outer = none ∨ folder.find? outer = some .folder
  folders : ∀ path : Path, path.IsProper → (∀ name ∈ path, '.' ∉ name.toList) →
    folder.find? (shelf.root ++ path) = none ∨ folder.find? (shelf.root ++ path) = some .folder
  files : ∀ path : Path, path.IsDocument →
    folder.find? (shelf.root ++ path) = (docs path).map fun doc => .text doc.print

variable {shelf : Shelf} {folder : Folder} {docs : Path → Option Document}

/-- Where there is nothing at all, every shelf is empty. -/
theorem isEmpty_nil (h : shelf.root.IsProper) : shelf.IsEmpty [] where
  isProper := h
  outer outer _ := by
    cases outer with
    | nil => exact .inr rfl
    | cons name names => exact .inl rfl
  inside path hpath := by
    have hne : shelf.root ++ path ≠ [] := List.append_ne_nil_of_right_ne_nil _ hpath
    rw [Folder.find?, if_neg (by simpa using hne)]
    rfl

theorem isEmpty_nowhere : ({} : Shelf).IsEmpty [] :=
  isEmpty_nil (List.forall_mem_nil _)

theorem IsEmpty.holds (h : shelf.IsEmpty folder) : shelf.Holds (fun _ => none) folder where
  outer := h.outer
  folders path _ _ := by
    by_cases hpath : path = []
    · rw [hpath, List.append_nil]
      exact h.outer shelf.root (List.prefix_refl _)
    · exact .inl (h.inside path hpath)
  files path hpath := by
    obtain ⟨front, last, rfl, -⟩ := hpath
    exact h.inside _ (by simp)

/-- A path that the path of a document goes through leads towards the shelf, or inside it to a
folder without a point in its names. -/
theorem outer_or_plain {path outer : Path} (hpath : path.IsDocument)
    (houter : outer ∈ (shelf.root ++ path).above) : outer <+: shelf.root ∨
      ∃ inner : Path, outer = shelf.root ++ inner ∧ inner.IsProper ∧
        ∀ name ∈ inner, '.' ∉ name.toList := by
  obtain ⟨front, last, rfl, hproper, -, hplain⟩ := hpath
  obtain ⟨-, rest, hrest, hsplit⟩ := Path.mem_above_iff.mp houter
  rcases List.append_eq_append_iff.mp hsplit with ⟨inner, hinner, hinside⟩ | ⟨beyond, hroot, -⟩
  · refine .inr ⟨inner, hinner, ?_, fun name hname => hplain name ?_⟩
    · rw [hinside] at hproper
      exact (Path.isProper_append.mp hproper).1
    · obtain ⟨front', last', rfl⟩ := (List.eq_nil_or_concat' rest).resolve_left hrest
      rw [← List.append_assoc] at hinside
      rw [(List.append_inj' hinside rfl).1]
      exact List.mem_append_left _ hname
  · exact .inl ⟨beyond, hroot.symm⟩

/-- Nothing stands in the way to the file of a document. -/
theorem Holds.isBlocked_eq_false (h : shelf.Holds docs folder) {path : Path}
    (hpath : path.IsDocument) : folder.isBlocked (shelf.root ++ path) = false := by
  refine Folder.isBlocked_eq_false fun outer houter => ?_
  rcases outer_or_plain hpath houter with hroot | ⟨inner, rfl, hproper, hplain⟩
  · exact h.outer outer hroot
  · exact h.folders inner hproper hplain

/-- A file of a document is written unless its path is too long. -/
theorem Holds.write? (h : shelf.Holds docs folder) {path : Path} (hpath : path.IsDocument)
    (content : String) : folder.write? (shelf.root ++ path) content =
      if (shelf.root ++ path).fits = true then
        some (folder.place (shelf.root ++ path) (.text content))
      else none := by
  have hfile : folder.find? (shelf.root ++ path) ≠ some .folder := by
    rw [h.files path hpath]
    cases docs path <;> simp
  rw [Folder.write?, h.isBlocked_eq_false hpath]
  by_cases hfits : (shelf.root ++ path).fits = true
  · simp [hfits, hfile]
  · simp [hfits]

/-- The path of a document is not gone through on the way to another. -/
theorem not_mem_above {path other : Path} (hpath : path.IsDocument) (hother : other.IsDocument) :
    shelf.root ++ other ∉ (shelf.root ++ path).above := by
  intro hmem
  obtain ⟨front, last, rfl, -, hpoint, -⟩ := hother
  rcases outer_or_plain hpath hmem with ⟨rest, hrest⟩ | ⟨inner, hinner, -, hplain⟩
  · have hlength := congrArg List.length hrest
    simp only [List.length_append, List.length_singleton] at hlength
    omega
  · rw [← List.append_cancel_left hinner] at hplain
    exact hplain last (by simp) hpoint

/-- One more document is held. -/
theorem Holds.place (hroot : shelf.root.IsProper) (h : shelf.Holds docs folder) {path : Path}
    (hpath : path.IsDocument) (doc : Document) :
    shelf.Holds (Function.update docs path (some doc))
      (folder.place (shelf.root ++ path) (.text doc.print)) := by
  have hfull : (shelf.root ++ path).IsProper := Path.isProper_append.mpr ⟨hroot, hpath.isProper⟩
  -- no folder turns into a file, save where the document is put
  have hkept {other : Path} (hother : other.IsProper) (hne : other ≠ shelf.root ++ path)
      (hbefore : folder.find? other = none ∨ folder.find? other = some .folder) :
      (folder.place (shelf.root ++ path) (.text doc.print)).find? other = none ∨
        (folder.place (shelf.root ++ path) (.text doc.print)).find? other = some .folder := by
    by_cases hnil : other = []
    · exact .inr (by rw [hnil]; rfl)
    · rw [Folder.find?_place hfull hother hnil, if_neg hne]
      split
      · exact .inr rfl
      · exact hbefore
  refine ⟨fun outer houter => ?_, fun other hother hplain => ?_, fun other hother => ?_⟩
  · refine hkept (fun name hname => hroot name (houter.subset hname)) ?_ (h.outer outer houter)
    rintro rfl
    exact hpath.ne_nil (List.append_right_eq_self.mp (houter.eq_of_length_le (by simp)))
  · refine hkept (Path.isProper_append.mpr ⟨hroot, hother⟩) ?_ (h.folders other hother hplain)
    intro hsame
    obtain rfl := List.append_cancel_left hsame
    exact hpath.not_plain hplain
  · rw [Folder.find?_place hfull (Path.isProper_append.mpr ⟨hroot, hother.isProper⟩)
      (List.append_ne_nil_of_right_ne_nil _ hother.ne_nil), if_neg (not_mem_above hpath hother)]
    by_cases hsame : other = path
    · rw [hsame, if_pos rfl, Function.update_self]
      rfl
    · have hne : shelf.root ++ other ≠ shelf.root ++ path :=
        fun heq => hsame (List.append_cancel_left heq)
      rw [if_neg hne, Function.update_of_ne hsame, h.files other hother]

/-! ### Loading and saving -/

/-- Saving under an id is writing the file of the id. -/
theorem save_of_path {id : String} {path : Path} (hid : PageId.path id = .ok path)
    (doc : Document) :
    shelf.save id doc folder =
      match folder.write? (shelf.root ++ path) doc.print with
      | some after => .ok after
      | none => .error .inaccessible := by
  rw [save, hid]
  rfl

/-- A file with the text of a document that comes back is loaded as the document. -/
theorem load_of_find? {id : String} {path : Path} (hid : PageId.path id = .ok path) {doc : Document}
    (hfile : folder.find? (shelf.root ++ path) = some (.text doc.print))
    (hdoc : Document.read? doc.print = some doc) : shelf.load id folder = .ok doc := by
  rw [load, hid]
  simp only [bind, Except.bind, hfile, hdoc]
  rfl

/-- A document is saved under an id unless the path is too long. -/
theorem Holds.save (h : shelf.Holds docs folder) {id : String} {path : Path}
    (hid : PageId.path id = .ok path) (doc : Document) :
    shelf.save id doc folder =
      if (shelf.root ++ path).fits = true then
        .ok (folder.place (shelf.root ++ path) (.text doc.print))
      else .error .inaccessible := by
  rw [save_of_path hid, h.write? (PageId.isDocument_path hid)]
  by_cases hfits : (shelf.root ++ path).fits = true
  · rw [if_pos hfits, if_pos hfits]
  · rw [if_neg hfits, if_neg hfits]

/-- The document that is held under an id is loaded, if it comes back from its text. -/
theorem Holds.load (h : shelf.Holds docs folder) {id : String} {path : Path}
    (hid : PageId.path id = .ok path)
    (hdocs : ∀ doc, docs path = some doc → Document.read? doc.print = some doc) :
    shelf.load id folder =
      match docs path with
      | some doc => .ok doc
      | none => .error (.notFound id) := by
  have hfile := h.files path (PageId.isDocument_path hid)
  cases hdoc : docs path with
  | none =>
    rw [hdoc] at hfile
    rw [Shelf.load, hid]
    simp only [bind, Except.bind, hfile, Option.map_none]
    rfl
  | some doc =>
    rw [hdoc] at hfile
    exact load_of_find? hid hfile (hdocs doc hdoc)

/-! ### Sequences of calls -/

theorem lastSaved?_concat (path : Path) (calls : List Call) (call : Call) :
    shelf.lastSaved? path (calls ++ [call]) =
      (shelf.saved? path call).or (shelf.lastSaved? path calls) := by
  rw [lastSaved?, List.filterMap_append, lastSaved?]
  cases hsaved : shelf.saved? path call with
  | none => simp [hsaved]
  | some doc => simp [hsaved]

/-- What was saved last is one of the documents that were saved. -/
theorem exists_save_of_lastSaved? {path : Path} {calls : List Call} {doc : Document}
    (h : shelf.lastSaved? path calls = some doc) : ∃ id, Call.save id doc ∈ calls := by
  obtain ⟨call, hcall, hsaved⟩ := List.mem_filterMap.mp (List.mem_of_getLast? h)
  cases call with
  | load id => exact absurd hsaved (by simp [saved?])
  | save id other =>
    rw [saved?] at hsaved
    split at hsaved
    · obtain rfl := Option.some.inj hsaved
      exact ⟨id, hcall⟩
    · exact absurd hsaved (by simp)

/-- A call that saves nothing keeps what was saved last. -/
theorem lastSaved?_concat_of_none {calls : List Call} {call : Call}
    (h : ∀ path, shelf.saved? path call = none) :
    (shelf.lastSaved? · (calls ++ [call])) = (shelf.lastSaved? · calls) := by
  funext path
  rw [lastSaved?_concat, h path, Option.none_or]

/-- One call keeps the folder the one of the documents that were saved last. -/
theorem Holds.after (hroot : shelf.root.IsProper) {calls : List Call}
    (h : shelf.Holds (shelf.lastSaved? · calls) folder) (call : Call) :
    shelf.Holds (shelf.lastSaved? · (calls ++ [call])) (shelf.after folder call) := by
  cases call with
  | load id =>
    rw [lastSaved?_concat_of_none fun path => rfl]
    exact h
  | save id doc =>
    cases hid : PageId.path id with
    | error reason =>
      have hnone (path : Path) : shelf.saved? path (.save id doc) = none := by
        simp [saved?, hid]
      have hsave : shelf.save id doc folder = .error reason := by
        rw [Shelf.save, hid]
        rfl
      rw [lastSaved?_concat_of_none hnone, Shelf.after, hsave]
      exact h
    | ok path =>
      rw [Shelf.after, h.save hid]
      by_cases hfits : (shelf.root ++ path).fits = true
      · have hlast : (shelf.lastSaved? · (calls ++ [Call.save id doc])) =
            Function.update (shelf.lastSaved? · calls) path (some doc) := by
          funext other
          rw [lastSaved?_concat]
          by_cases hsame : other = path
          · simp [saved?, hid, hsame, hfits]
          · simp [saved?, hid, Ne.symm hsame, hsame]
        rw [if_pos hfits, hlast]
        exact h.place hroot (PageId.isDocument_path hid) doc
      · -- a path that is too long is refused, and what was saved last stays
        have hnone (other : Path) : shelf.saved? other (.save id doc) = none := by
          rw [saved?, hid, if_neg]
          rintro ⟨hsame, hother⟩
          rw [Except.ok.inj hsame] at hfits
          exact hfits hother
        rw [if_neg hfits, lastSaved?_concat_of_none hnone]
        exact h

/-- After any calls the folder holds the documents that were saved last. -/
theorem IsEmpty.holds_run (h : shelf.IsEmpty folder) (calls : List Call) :
    shelf.Holds (shelf.lastSaved? · calls) (shelf.run calls folder) := by
  induction calls using List.reverseRecOn with
  | nil => exact h.holds
  | append_singleton calls call ih =>
    rw [run, List.foldl_append]
    exact ih.after h.isProper call

/-- A document with a single divider. -/
def ruled : Document :=
  ⟨[], [⟨.divider, "d", []⟩], []⟩

theorem read?_print_empty : Document.read? Document.empty.print = some .empty := by
  refine Document.IsStorable.read?_print ?_ ?_
  · exact ⟨⟨List.Pairwise.nil, trivial⟩, List.forall_mem_nil _, List.Pairwise.nil,
      List.forall_mem_nil _⟩
  · exact List.forall_mem_nil _

theorem read?_print_ruled : Document.read? ruled.print = some ruled := by
  refine Document.IsStorable.read?_print ⟨⟨List.Pairwise.nil, trivial⟩, ?_, List.Pairwise.nil,
    List.forall_mem_nil _⟩ (List.forall_mem_nil _)
  exact List.forall_mem_singleton.mpr ⟨rfl, rfl, List.Pairwise.nil, trivial⟩

/-- From an empty folder on, whatever is saved and loaded, each id that names a file loads the
document that was saved last into that file, or is not found if none was, as long as the documents
come back from their texts; and saving under it succeeds unless the path is too long.  Ids name
different files if they are different and have no slashes side by side. -/
theorem load_run (hempty : shelf.IsEmpty folder) {calls : List Call}
    (hdocs : ∀ id doc, Call.save id doc ∈ calls → Document.read? doc.print = some doc) :
    (∀ id path, PageId.path id = .ok path →
      shelf.load id (shelf.run calls folder) =
        (match shelf.lastSaved? path calls with
          | some doc => .ok doc
          | none => .error (.notFound id)) ∧
      ∀ doc, (∃ after, shelf.save id doc (shelf.run calls folder) = .ok after) ↔
        (shelf.root ++ path).fits = true) ∧
    ∀ id other path, PageId.path id = .ok path → PageId.path other = .ok path →
      ¬ ['/', '/'] <:+: id.toList → ¬ ['/', '/'] <:+: other.toList → id = other := by
  have hholds := hempty.holds_run calls
  refine ⟨fun id path hid => ⟨hholds.load hid fun doc hdoc => ?_, fun doc => ?_⟩,
    fun _ _ _ => PageId.path_inj⟩
  · obtain ⟨saved, hsaved⟩ := exists_save_of_lastSaved? hdoc
    exact hdocs saved doc hsaved
  · rw [hholds.save hid]
    split
    · exact ⟨fun _ => ‹_›, fun _ => ⟨_, rfl⟩⟩
    · exact ⟨fun ⟨_, h⟩ => absurd h (by simp), fun h => absurd h ‹_›⟩

/-- Two pages are saved, one of them in a folder. -/
def twoPages : List Call :=
  [.save "home" .empty, .save "blog/7" ruled, .load "home"]

/-- Each of two pages is loaded as it was saved, and no other is found. -/
theorem load_run_twoPages :
    (∀ id doc, Call.save id doc ∈ twoPages → Document.read? doc.print = some doc) ∧
      ({} : Shelf).load "home" (({} : Shelf).run twoPages []) = .ok .empty ∧
      ({} : Shelf).load "blog/7" (({} : Shelf).run twoPages []) = .ok ruled ∧
      ({} : Shelf).load "404" (({} : Shelf).run twoPages []) = .error (.notFound "404") := by
  have hdocs : ∀ id doc, Call.save id doc ∈ twoPages → Document.read? doc.print = some doc := by
    intro id doc hsave
    simp only [twoPages, List.mem_cons, Call.save.injEq, reduceCtorEq, List.not_mem_nil,
      or_false] at hsave
    rcases hsave with ⟨-, rfl⟩ | ⟨-, rfl⟩
    · exact read?_print_empty
    · exact read?_print_ruled
  have hrun := load_run isEmpty_nowhere hdocs
  refine ⟨hdocs, ?_, ?_, ?_⟩
  · exact (hrun.1 "home" ["home.json"] (by decide +kernel)).1
  · exact (hrun.1 "blog/7" ["blog", "7.json"] (by decide +kernel)).1
  · exact (hrun.1 "404" ["404.json"] (by decide +kernel)).1

/-- What was saved under an id is loaded under another one that has two slashes in place of one. -/
theorem load_run_slashes :
    PageId.isValid "a//b" = true ∧
      ({} : Shelf).load "a//b" (({} : Shelf).run [.save "a/b" .empty] []) = .ok .empty := by
  have hholds := isEmpty_nowhere.holds_run [.save "a/b" .empty]
  have hid : PageId.path "a//b" = .ok ["a", "b.json"] := by decide +kernel
  refine ⟨by decide +kernel, (hholds.load hid fun doc hdoc => ?_).trans rfl⟩
  obtain ⟨id, hsave⟩ := exists_save_of_lastSaved? hdoc
  obtain ⟨-, rfl⟩ := Call.save.inj (List.mem_singleton.mp hsave)
  exact read?_print_empty

end Shelf

end PageMarkup
