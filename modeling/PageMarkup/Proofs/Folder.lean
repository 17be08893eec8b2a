import Mathlib.Data.List.Infix
import PageMarkup.Folder
import PageMarkup.Proofs.Text.Trimming

/-!
# Paths and what they lead to

The names of a path are found in its text, so different paths have different texts.  Putting
something at a path makes folders of the paths that it goes through, and leaves every other path
alone.
-/

namespace PageMarkup

open Text

/-! ### Texts of paths -/

namespace Path

/-- Every name is one that a text with slashes can spell. -/
def IsProper (path : Path) : Prop :=
  ∀ name ∈ path, name ≠ "" ∧ '/' ∉ name.toList

theorem isProper_append {path rest : Path} :
    IsProper (path ++ rest) ↔ path.IsProper ∧ rest.IsProper :=
  List.forall_mem_append

/-- The names that a text spells are proper. -/
theorem isProper_ofText (text : String) : (ofText text).IsProper := by
  refine List.forall_mem_map.mpr fun piece hpiece => ?_
  obtain ⟨hmem, hne⟩ := List.mem_filter.mp hpiece
  have hslash := forall_of_mem_splitWhere hmem
  rw [String.toList_ofList]
  refine ⟨fun hempty => ?_, fun hin => absurd (hslash '/' hin) (by decide)⟩
  have hnil : piece = [] := by
    rw [← String.toList_ofList (l := piece), hempty]
    rfl
  exact absurd hnil (by simpa using hne)

/-- A text is cut at its slashes into the names that it was joined from. -/
theorem splitWhere_text {path : Path} (h : path.IsProper) (hne : path ≠ []) :
    splitWhere (· == '/') path.text.toList = path.map String.toList := by
  have hpiece {name : String} (hname : '/' ∉ name.toList) :
      ∀ c ∈ name.toList, (c == '/') = false := by
    intro c hc
    rw [beq_eq_false_iff_ne]
    rintro rfl
    exact hname hc
  induction path with
  | nil => exact absurd rfl hne
  | cons name names ih =>
    have hname := hpiece (h name List.mem_cons_self).2
    cases names with
    | nil =>
      rw [text, String.intercalate_singleton, splitWhere_of_forall hname]
      rfl
    | cons next others =>
      have hothers := ih (fun other hother => h other (List.mem_cons_of_mem name hother)) (by simp)
      have htext : (text (name :: next :: others)).toList =
          name.toList ++ '/' :: (text (next :: others)).toList := by
        simp [text, String.intercalate_cons_cons]
      rw [htext, splitWhere_append_cons hname (by decide), hothers]
      rfl

/-- The names of a path are found in its text. -/
theorem ofText_text {path : Path} (h : path.IsProper) : ofText path.text = path := by
  by_cases hne : path = []
  · subst hne
    rfl
  · have hall : ∀ piece ∈ path.map String.toList, (!piece.isEmpty) = true :=
      List.forall_mem_map.mpr fun name hname => by
        have hempty : name.toList ≠ [] := fun hnil => (h name hname).1 (String.toList_inj.mp hnil)
        simpa using hempty
    rw [ofText, splitWhere_text h hne, List.filter_eq_self.mpr hall, List.map_map]
    simp

/-- Different paths have different texts. -/
theorem text_inj {path other : Path} (h : path.IsProper) (hother : other.IsProper) :
    path.text = other.text ↔ path = other := by
  refine ⟨fun htext => ?_, fun heq => heq ▸ rfl⟩
  rw [← ofText_text h, htext, ofText_text hother]

/-! ### Paths that a path goes through -/

/-- A path goes through its beginnings, apart from the root. -/
theorem mem_above_iff {path outer : Path} :
    outer ∈ path.above ↔ outer ≠ [] ∧ ∃ rest, rest ≠ [] ∧ path = outer ++ rest := by
  induction path generalizing outer with
  | nil =>
    refine ⟨fun h => absurd h List.not_mem_nil, fun ⟨hne, rest, _, hpath⟩ => ?_⟩
    exact absurd (List.append_eq_nil_iff.mp hpath.symm).1 hne
  | cons name names ih =>
    cases names with
    | nil =>
      refine ⟨fun h => absurd h List.not_mem_nil, fun ⟨hne, rest, hrest, hpath⟩ => ?_⟩
      rcases List.singleton_eq_append_iff.mp hpath with ⟨hnil, -⟩ | ⟨-, hnil⟩
      · exact absurd hnil hne
      · exact absurd hnil hrest
    | cons next others =>
      have habove : above (name :: next :: others) =
          [name] :: (above (next :: others)).map (name :: ·) := rfl
      rw [habove, List.mem_cons, List.mem_map]
      constructor
      · rintro (rfl | ⟨inner, hinner, rfl⟩)
        · exact ⟨by simp, next :: others, by simp, rfl⟩
        · obtain ⟨-, rest, hrest, hpath⟩ := ih.mp hinner
          exact ⟨by simp, rest, hrest, by rw [hpath, List.cons_append]⟩
      · rintro ⟨hne, rest, hrest, hpath⟩
        obtain ⟨first, inner, rfl⟩ := List.exists_cons_of_ne_nil hne
        obtain ⟨rfl, hnames⟩ := List.cons.inj hpath
        -- the outer path is the first name alone or goes on behind it
        by_cases hinner : inner = []
        · exact .inl (by rw [hinner])
        · exact .inr ⟨inner, ih.mpr ⟨hinner, rest, hrest, hnames⟩, rfl⟩

theorem IsProper.of_mem_above {path outer : Path} (h : path.IsProper)
    (houter : outer ∈ path.above) :
    outer.IsProper := by
  obtain ⟨-, rest, -, rfl⟩ := mem_above_iff.mp houter
  exact (isProper_append.mp h).1

end Path

/-! ### What is put at a path -/

namespace Folder

/-- The folders that are made are found, and the rest is left alone. -/
theorem get?_foldl_insert (key : String) (paths : List Path) (folder : Folder) :
    Dict.get? key (paths.foldl (fun outer names => Dict.insert names.text .folder outer) folder) =
      if key ∈ paths.map Path.text then some .folder else Dict.get? key folder := by
  induction paths generalizing folder with
  | nil => rfl
  | cons path paths ih =>
    rw [List.foldl_cons, ih, List.map_cons]
    by_cases hkey : key = path.text
    · subst hkey
      simp
    · simp [hkey, Dict.get?_insert_of_ne hkey]

/-- What is put at a path is there, the paths that it goes through lead to folders, and every other
path leads to what it led to before. -/
theorem find?_place {path other : Path} (hpath : path.IsProper) (hother : other.IsProper)
    (hne : other ≠ []) (item : Item) (folder : Folder) :
    (folder.place path item).find? other =
      if other = path then some item
      else if other ∈ path.above then some .folder
      else folder.find? other := by
  have hfind (folder : Folder) : folder.find? other = Dict.get? other.text folder := by
    rw [find?, if_neg (by simpa using hne)]
  rw [hfind, hfind, place]
  by_cases hself : other = path
  · subst hself
    rw [if_pos rfl, Dict.get?_insert_self]
  · have htext : other.text ≠ path.text := fun h => hself ((Path.text_inj hother hpath).mp h)
    have habove : other.text ∈ path.above.map Path.text ↔ other ∈ path.above := by
      refine ⟨fun h => ?_, List.mem_map_of_mem⟩
      obtain ⟨outer, houter, hsame⟩ := List.mem_map.mp h
      rwa [← (Path.text_inj (hpath.of_mem_above houter) hother).mp hsame]
    rw [if_neg hself, Dict.get?_insert_of_ne htext, get?_foldl_insert]
    simp only [habove]

/-- A file that was written has its text. -/
theorem find?_of_write? {path : Path} {content : String} {folder after : Folder}
    (h : folder.write? path content = some after) (hne : path ≠ []) :
    after.find? path = some (.text content) := by
  rw [write?] at h
  split at h
  · exact absurd h (by simp)
  · obtain rfl := Option.some.inj h
    exact find?_place_self hne _ folder

/-- A path that goes through folders only is not blocked. -/
theorem isBlocked_eq_false {path : Path} {folder : Folder}
    (h : ∀ outer ∈ path.above, folder.find? outer = none ∨ folder.find? outer = some .folder) :
    folder.isBlocked path = false := by
  rw [isBlocked, List.any_eq_false]
  intro outer houter
  rcases h outer houter with hnone | hfolder
  · simp [hnone]
  · simp [hfolder]

end Folder

end PageMarkup
