import PageMarkup.Proofs.Shelf
import PageMarkup.Proofs.Text.Spacing

/-!
# Documents stay inside their folder

An id is cut at its slashes into names, and the last name is continued.  The characters of an id
leave no way out: no name is empty, a name for a folder around, or made of several names.  So the
path that is written for an id means a file inside the folder of the documents, wherever that folder
is, and what is no such id is refused whatever the folder holds.
-/

namespace PageMarkup

open Text

/-! ### Names that lead into a folder -/

namespace Path

/-- The name leads from a folder to something inside it: it is not empty, it means neither the
folder itself nor the one around it, and no separator is in it. -/
structure IsInward (name : String) : Prop where
  ne_empty : name ≠ ""
  ne_here : name ≠ "."
  ne_above : name ≠ ".."
  slash_notMem : '/' ∉ name.toList
  backslash_notMem : '\\' ∉ name.toList

/-- Where a name leads from a folder. -/
def enter (path : Path) (name : String) : Path :=
  if name = "." then path else if name = ".." then path.dropLast else path ++ [name]

theorem resolve_eq (here : Path) (text : String) :
    resolve here text = (ofText text).foldl enter (if text.startsWith "/" then [] else here) :=
  rfl

/-- Names that lead into a folder lead to the path with these names. -/
theorem foldl_enter {names : Path} (h : ∀ name ∈ names, IsInward name) (start : Path) :
    names.foldl enter start = start ++ names := by
  induction names generalizing start with
  | nil => exact (List.append_nil start).symm
  | cons name names ih =>
    obtain ⟨hname, hnames⟩ := List.forall_mem_cons.mp h
    have hstep : enter start name = start ++ [name] := by
      unfold enter
      rw [if_neg hname.ne_here, if_neg hname.ne_above]
    rw [List.foldl_cons, hstep, ih hnames, List.append_assoc, List.singleton_append]

/-- A slash parts the names of a text. -/
theorem ofText_append_slash (front rest : String) :
    ofText (front ++ "/" ++ rest) = ofText front ++ ofText rest := by
  have hchars : (front ++ "/" ++ rest).toList = front.toList ++ '/' :: rest.toList := by simp
  unfold ofText
  rw [hchars, splitWhere_append_of_cut (by decide), List.filter_append, List.map_append]

/-- The text of a path does not begin with a slash. -/
theorem head?_text_ne {path : Path} (h : path.IsProper) : path.text.toList.head? ≠ some '/' := by
  intro hhead
  by_cases hne : path = []
  · subst hne
    exact absurd hhead (by decide)
  · obtain ⟨rest, hrest⟩ := List.head?_eq_some_iff.mp hhead
    have hnames := splitWhere_text h hne
    rw [hrest, splitWhere, if_pos (by decide)] at hnames
    obtain ⟨name, names, rfl⟩ := List.exists_cons_of_ne_nil hne
    have hempty : name.toList = [] := (List.cons.inj hnames).1.symm
    exact (h name List.mem_cons_self).1 (String.toList_inj.mp hempty)

end Path

/-! ### How paths in a folder are written -/

namespace Shelf

variable {shelf : Shelf} {path : Path}

/-- A slash stands between what the folder is called and the path of a file, unless there is one. -/
theorem labelOf_cases (shelf : Shelf) (path : Path) :
    (shelf.label = "" ∧ shelf.labelOf path = path.text) ∨
    (∃ front, shelf.label = front ++ "/" ∧ shelf.labelOf path = front ++ "/" ++ path.text) ∨
    (shelf.label ≠ "" ∧ shelf.labelOf path = shelf.label ++ "/" ++ path.text) := by
  unfold labelOf
  by_cases hempty : shelf.label = ""
  · left
    simp [hempty]
  · by_cases hslash : shelf.label.endsWith "/" = true
    · right
      left
      have hsuffix : "/".toList <:+ shelf.label.toList := by
        rwa [String.endsWith, String.Slice.endsWith_string_iff, String.copy_toSlice] at hslash
      obtain ⟨front, hfront⟩ := hsuffix
      refine ⟨String.ofList front, ?_, ?_⟩
      · rw [← String.toList_inj, ← hfront]
        simp
      · simp [hslash, ← String.toList_inj, ← hfront]
    · right
      right
      refine ⟨hempty, ?_⟩
      simp [hempty, hslash]

/-- The names in the written path of a file are those of the folder and those of the path. -/
theorem ofText_labelOf (shelf : Shelf) (h : path.IsProper) :
    Path.ofText (shelf.labelOf path) = Path.ofText shelf.label ++ path := by
  have htext : Path.ofText path.text = path := Path.ofText_text h
  rcases labelOf_cases shelf path with
    ⟨hlabel, hwritten⟩ | ⟨front, hlabel, hwritten⟩ | ⟨-, hwritten⟩
  · rw [hwritten, hlabel, htext]
    rfl
  · have hfront : Path.ofText (front ++ "/") = Path.ofText front := by
      have hslash := Path.ofText_append_slash front ""
      rw [String.append_empty] at hslash
      rw [hslash]
      exact List.append_nil _
    rw [hwritten, hlabel, Path.ofText_append_slash, htext, hfront]
  · rw [hwritten, Path.ofText_append_slash, htext]

/-- The written path of a file begins with a slash if what the folder is called does. -/
theorem startsWith_labelOf (shelf : Shelf) (h : path.IsProper) :
    (shelf.labelOf path).startsWith "/" = shelf.label.startsWith "/" := by
  have hslash (text : String) : text.startsWith "/" = true ↔ text.toList.head? = some '/' := by
    rw [String.startsWith_string_iff, List.head?_eq_some_iff]
    exact ⟨fun ⟨rest, hrest⟩ => ⟨rest, hrest.symm⟩, fun ⟨rest, hrest⟩ => ⟨rest, hrest.symm⟩⟩
  have hfirst (front rest : String) (hne : front ≠ "") :
      (front ++ rest).toList.head? = front.toList.head? := by
    rw [String.toList_append, List.head?_append_of_ne_nil]
    exact fun hnil => hne (String.toList_inj.mp hnil)
  rw [Bool.eq_iff_iff, hslash, hslash]
  rcases labelOf_cases shelf path with
    ⟨hlabel, hwritten⟩ | ⟨front, hlabel, hwritten⟩ | ⟨hne, hwritten⟩
  · rw [hwritten, hlabel]
    exact ⟨fun hhead => absurd hhead (Path.head?_text_ne h), fun hhead => absurd hhead (by decide)⟩
  · rw [hwritten, hlabel, hfirst (front ++ "/") path.text]
    simp
  · rw [hwritten, String.append_assoc, hfirst shelf.label _ hne]

/-- Wherever one is, the written path of a file means the file inside what the folder means. -/
theorem resolve_labelOf (shelf : Shelf) (h : path.IsProper)
    (hinward : ∀ name ∈ path, Path.IsInward name) (here : Path) :
    Path.resolve here (shelf.labelOf path) = Path.resolve here shelf.label ++ path := by
  rw [Path.resolve_eq, Path.resolve_eq, ofText_labelOf shelf h, startsWith_labelOf shelf h,
    List.foldl_append, Path.foldl_enter hinward]

end Shelf

/-! ### The names in an id -/

namespace PageId

/-- The character may stand in a name of an id. -/
def IsNameChar (c : Char) : Prop :=
  ('a' ≤ c ∧ c ≤ 'z') ∨ ('A' ≤ c ∧ c ≤ 'Z') ∨ ('0' ≤ c ∧ c ≤ '9') ∨ c = '-' ∨ c = '_'

instance (c : Char) : Decidable (IsNameChar c) :=
  inferInstanceAs (Decidable (('a' ≤ c ∧ c ≤ 'z') ∨ ('A' ≤ c ∧ c ≤ 'Z') ∨ ('0' ≤ c ∧ c ≤ '9') ∨
    c = '-' ∨ c = '_'))

/-- The id is empty, begins with a slash, or has a character that is neither a slash nor one that
may stand in a name. -/
def IsUnsafe (id : String) : Prop :=
  id = "" ∨ id.toList.head? = some '/' ∨ ∃ c ∈ id.toList, ¬ (IsNameChar c ∨ c = '/')

theorem isLegal_iff {c : Char} : isLegal c = true ↔ IsNameChar c ∨ c = '/' := by
  have halphanum : c.isAlphanum =
      (decide ('A' ≤ c ∧ c ≤ 'Z') || (decide ('a' ≤ c) && decide (c ≤ 'z')) ||
        (decide ('0' ≤ c) && decide (c ≤ '9'))) := rfl
  unfold isLegal IsNameChar
  simp only [halphanum, Bool.or_eq_true, Bool.and_eq_true, decide_eq_true_eq, beq_iff_eq]
  tauto

/-- Exactly the ids that are not unsafe name files. -/
theorem isValid_iff {id : String} : isValid id = true ↔ ¬ IsUnsafe id := by
  unfold isValid IsUnsafe
  rw [not_or, not_or, Bool.and_eq_true, Bool.and_eq_true, and_assoc]
  refine and_congr ?_ (and_congr ?_ ?_)
  · simp
  · simp
  · rw [List.all_eq_true, not_exists]
    refine forall_congr' fun c => ?_
    rw [not_and, not_not, isLegal_iff]

theorem path_eq_ok {id : String} (h : ¬ IsUnsafe id) :
    PageId.path id = .ok (Path.ofText (id ++ ".json")) := by
  unfold PageId.path
  rw [if_pos (isValid_iff.mpr h)]

theorem path_eq_error {id : String} (h : IsUnsafe id) :
    PageId.path id = .error (.invalidId id) := by
  unfold PageId.path
  rw [if_neg fun hvalid => isValid_iff.mp hvalid h]

/-- The names of an id are made of the characters that may stand in them, and the last one, which
may be empty, is continued. -/
theorem exists_names {id : String} {path : Path} (h : PageId.path id = .ok path) :
    ∃ folders last, path = folders ++ [last ++ ".json"] ∧ (∀ name ∈ folders, name ≠ "") ∧
      ∀ name ∈ folders ++ [last], ∀ c ∈ name.toList, IsNameChar c := by
  obtain ⟨hvalid, rfl⟩ := isValid_of_path h
  obtain ⟨front, last, hid, htext⟩ := exists_pieces id
  have hlast : (!(last ++ ".json".toList).isEmpty) = true := by simp
  refine ⟨(front.filter (!·.isEmpty)).map String.ofList, String.ofList last, ?_, ?_, ?_⟩
  · unfold Path.ofText
    rw [htext, List.filter_append, List.filter_singleton, hlast, cond_true, List.map_append]
    simp
  · intro name hname
    obtain ⟨piece, hpiece, rfl⟩ := List.mem_map.mp hname
    have hne := (List.mem_filter.mp hpiece).2
    simpa using hne
  · -- a piece holds no slash, so what is legal in an id is a character of a name there
    have hpieces : ∀ piece ∈ front ++ [last], ∀ c ∈ piece, IsNameChar c := by
      rw [← hid]
      intro piece hpiece c hc
      have hmem : c ∈ id.toList := mem_of_mem_splitWhere hpiece hc
      have hslash : (c == '/') = false := forall_of_mem_splitWhere hpiece c hc
      have hlegal : isLegal c = true := by
        simp only [isValid, Bool.and_eq_true, List.all_eq_true] at hvalid
        exact hvalid.2 c hmem
      exact (isLegal_iff.mp hlegal).resolve_right (by simpa using hslash)
    intro name hname
    rcases List.mem_append.mp hname with hfolder | hfile
    · obtain ⟨piece, hpiece, rfl⟩ := List.mem_map.mp hfolder
      rw [String.toList_ofList]
      exact hpieces piece (List.mem_append_left _ (List.mem_filter.mp hpiece).1)
    · obtain rfl := List.mem_singleton.mp hfile
      rw [String.toList_ofList]
      exact hpieces last (List.mem_append_right _ (List.mem_singleton_self last))

/-- The names in the path of an id lead into folders. -/
theorem isInward_of_mem_path {id : String} {path : Path} (h : PageId.path id = .ok path) :
    ∀ name ∈ path, Path.IsInward name := by
  obtain ⟨folders, last, rfl, hne, hchars⟩ := exists_names h
  have hpoint : ¬ IsNameChar '.' := by decide
  have hslash : ¬ IsNameChar '/' := by decide
  have hbackslash : ¬ IsNameChar '\\' := by decide
  intro name hname
  rcases List.mem_append.mp hname with hfolder | hfile
  · have hname := hchars name (List.mem_append_left _ hfolder)
    exact {
      ne_empty := hne name hfolder
      ne_here := by
        rintro rfl
        exact hpoint (hname '.' (by decide))
      ne_above := by
        rintro rfl
        exact hpoint (hname '.' (by decide))
      slash_notMem := fun hmem => hslash (hname '/' hmem)
      backslash_notMem := fun hmem => hbackslash (hname '\\' hmem) }
  · obtain rfl := List.mem_singleton.mp hfile
    have hlast := hchars last (List.mem_append_right _ (List.mem_singleton_self last))
    -- the name of the file has a point, but it is longer than the names that lead elsewhere
    have hlength : 5 ≤ (last ++ ".json").toList.length := by simp
    have hlong {text : String} (h : text.toList.length < 5) : last ++ ".json" ≠ text := by
      rintro rfl
      omega
    have hmem {c : Char} (hc : c ∈ (last ++ ".json").toList) :
        IsNameChar c ∨ c ∈ ".json".toList := by
      rw [String.toList_append] at hc
      exact (List.mem_append.mp hc).imp_left (hlast c)
    exact {
      ne_empty := hlong (by decide)
      ne_here := hlong (by decide)
      ne_above := hlong (by decide)
      slash_notMem := fun hc => (hmem hc).elim hslash (by decide)
      backslash_notMem := fun hc => (hmem hc).elim hbackslash (by decide) }

end PageId

/-! ### Calls with unsafe ids -/

/-- The id that a call is about. -/
def Call.id : Call → String
  | .load id => id
  | .save id _ => id

namespace Shelf

variable {shelf : Shelf} {folder after : Folder} {id : String} {doc : Document}

/-- Nothing is loaded under an unsafe id, whatever the folder holds. -/
theorem load_of_isUnsafe (h : PageId.IsUnsafe id) (folder : Folder) :
    shelf.load id folder = .error (.invalidId id) := by
  unfold load
  rw [PageId.path_eq_error h]
  rfl

/-- Nothing is saved under an unsafe id, whatever the folder holds. -/
theorem save_of_isUnsafe (h : PageId.IsUnsafe id) (doc : Document) (folder : Folder) :
    shelf.save id doc folder = .error (.invalidId id) := by
  unfold save
  rw [PageId.path_eq_error h]
  rfl

/-- A call with an unsafe id leaves the folder as it is. -/
theorem after_of_isUnsafe {call : Call} (h : PageId.IsUnsafe call.id) (folder : Folder) :
    shelf.after folder call = folder := by
  cases call with
  | load id => rfl
  | save id doc =>
    have hsave : shelf.save id doc folder = .error (.invalidId id) := save_of_isUnsafe h doc folder
    rw [Shelf.after, hsave]

/-- Calls with unsafe ids do not change what a run of calls leaves. -/
theorem run_of_isUnsafe {call : Call} (h : PageId.IsUnsafe call.id) (before rest : List Call)
    (folder : Folder) :
    shelf.run (before ++ call :: rest) folder = shelf.run (before ++ rest) folder := by
  unfold run
  rw [List.foldl_append, List.foldl_append, List.foldl_cons, after_of_isUnsafe h]

/-- Saving a document is putting its text at the path of its id. -/
theorem exists_place_of_save (h : shelf.save id doc folder = .ok after) :
    ∃ path, PageId.path id = .ok path ∧
      after = folder.place (shelf.root ++ path) (.text doc.print) := by
  cases hid : PageId.path id with
  | error reason =>
    unfold save at h
    rw [hid] at h
    exact absurd h (by simp [bind, Except.bind])
  | ok path =>
    rw [save_of_path hid] at h
    unfold Folder.write? at h
    split at h
    · rename_i hwritten
      obtain rfl := Except.ok.inj h
      split at hwritten
      · exact absurd hwritten (by simp)
      · exact ⟨path, rfl, (Option.some.inj hwritten).symm⟩
    · exact absurd h (by simp)

/-- Saving changes nothing that is neither inside the folder of the documents nor on the way to
it. -/
theorem find?_of_save (hroot : shelf.root.IsProper) (h : shelf.save id doc folder = .ok after)
    {other : Path} (hother : other.IsProper) (houtside : ¬ shelf.root <+: other)
    (haway : ¬ other <+: shelf.root) : after.find? other = folder.find? other := by
  obtain ⟨path, hid, rfl⟩ := exists_place_of_save h
  have hfull : (shelf.root ++ path).IsProper :=
    Path.isProper_append.mpr ⟨hroot, (PageId.isDocument_path hid).isProper⟩
  have hne : other ≠ [] := by
    rintro rfl
    exact haway List.nil_prefix
  have hself : other ≠ shelf.root ++ path := by
    rintro rfl
    exact houtside (List.prefix_append shelf.root path)
  have habove : other ∉ (shelf.root ++ path).above := by
    intro hmem
    obtain ⟨-, rest, -, hsplit⟩ := Path.mem_above_iff.mp hmem
    have hprefix : other <+: shelf.root ++ path := ⟨rest, hsplit.symm⟩
    rcases List.prefix_or_prefix_of_prefix hprefix (List.prefix_append shelf.root path) with
      hshort | hlong
    · exact haway hshort
    · exact houtside hlong
  rw [Folder.find?_place hfull hother hne, if_neg hself, if_neg habove]

/-- The path of an id stays inside the folder of the documents, wherever that is: it is the path of
the folder with some names behind it, each of which leads into a folder, and the last of which ends
in `.json`.  This holds of the paths as names, of the paths as they are written, and of what the
written paths mean; and saving changes nothing else than what is inside the folder or on the way to
it.  An id is refused exactly if it is empty, begins with a slash or has a character that is neither
an ASCII letter or digit nor one of `-`, `_` and `/`.  Then it is refused whatever the folder holds,
and the folder stays as it is, before, between and after other calls. -/
theorem ids_stay_inside (shelf : Shelf) (id : String) :
    (∀ path, PageId.path id = .ok path →
      (∃ folders file, path = folders ++ [file ++ ".json"]) ∧
      (∀ name ∈ path, Path.IsInward name) ∧
      Path.ofText (shelf.labelOf path) = Path.ofText shelf.label ++ path ∧
      (∀ here, Path.resolve here (shelf.labelOf path) = Path.resolve here shelf.label ++ path) ∧
      ∀ doc folder after, shelf.root.IsProper → shelf.save id doc folder = .ok after →
        ∀ other : Path, other.IsProper → ¬ shelf.root <+: other → ¬ other <+: shelf.root →
          after.find? other = folder.find? other) ∧
    (¬ PageId.IsUnsafe id → ∃ path, PageId.path id = .ok path) ∧
    (PageId.IsUnsafe id →
      PageId.path id = .error (.invalidId id) ∧ ∀ folder,
        shelf.load id folder = .error (.invalidId id) ∧
        (∀ doc, shelf.save id doc folder = .error (.invalidId id)) ∧
        ∀ call : Call, call.id = id → ∀ before rest,
          shelf.run (before ++ call :: rest) folder = shelf.run (before ++ rest) folder) := by
  refine ⟨fun path hid => ?_, fun hsafe => ⟨_, PageId.path_eq_ok hsafe⟩, fun hunsafe => ?_⟩
  · have hproper : path.IsProper := (PageId.isDocument_path hid).isProper
    have hinward := PageId.isInward_of_mem_path hid
    obtain ⟨folders, file, hpath, -⟩ := PageId.exists_names hid
    refine ⟨⟨folders, file, hpath⟩, hinward, ofText_labelOf shelf hproper,
      resolve_labelOf shelf hproper hinward, ?_⟩
    intro doc folder after hroot hsave other hother houtside haway
    exact find?_of_save hroot hsave hother houtside haway
  · refine ⟨PageId.path_eq_error hunsafe, fun folder => ⟨load_of_isUnsafe hunsafe folder,
      fun doc => save_of_isUnsafe hunsafe doc folder, ?_⟩⟩
    -- a call that fails leaves the folder as it is, so it can be left out of any run
    intro call hcall before rest
    exact run_of_isUnsafe (hcall ▸ hunsafe) before rest folder

/-- Slashes side by side and at the end are dropped, and the points that lead out are refused. -/
theorem ids_stay_inside_blog :
    PageId.path "blog//2024/" = .ok ["blog", "2024", ".json"] ∧
      Path.resolve ["home"] (({ label := "store" } : Shelf).labelOf ["blog", "2024", ".json"]) =
        ["home", "store", "blog", "2024", ".json"] ∧
      PageId.IsUnsafe "../blog" ∧
      (∀ folder, ({} : Shelf).load "../blog" folder = .error (.invalidId "../blog")) := by
  have hid : PageId.path "blog//2024/" = .ok ["blog", "2024", ".json"] := by decide +kernel
  have hunsafe : PageId.IsUnsafe "../blog" := .inr (.inr ⟨'.', by decide, by decide⟩)
  have hinside := (ids_stay_inside { label := "store" } "blog//2024/").1 _ hid
  have hrefused := (ids_stay_inside {} "../blog").2.2 hunsafe
  refine ⟨hid, ?_, hunsafe, fun folder => (hrefused.2 folder).1⟩
  rw [hinside.2.2.2.1 ["home"]]
  decide +kernel

end Shelf

end PageMarkup
