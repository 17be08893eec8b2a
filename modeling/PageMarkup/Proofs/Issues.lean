import Mathlib.Data.List.TakeWhile
import Mathlib.Tactic.Common
import PageMarkup.Document
import PageMarkup.Proofs.Dict

/-!
# What it means to have no issues

A document has no issues if its nodes can be told apart by their ids and every zone belongs to one
of them.  Ids may hold colons; a key still names one owner, as the name of a zone holds none.
-/

namespace PageMarkup

/-! ### Owners of zones -/

namespace Zone

/-- The key names the zone of a node: its id stands before the last colon, or there is no colon and
the key is the id. -/
def IsOwnedBy (key id : String) : Prop :=
  (∃ zone : String, ':' ∉ zone.toList ∧ key = id ++ ":" ++ zone) ∨
    (':' ∉ key.toList ∧ key = id)

/-- The owner of a zone is found by its key if the name of the zone holds no colon. -/
theorem owner_key (id : String) {zone : String} (h : ':' ∉ zone.toList) :
    owner (key id zone) = id := by
  have hcolon : ":".toList = [':'] := rfl
  have hchars : (key id zone).toList.reverse = zone.toList.reverse ++ ':' :: id.toList.reverse := by
    simp [key, hcolon]
  have hzone : ∀ c ∈ zone.toList.reverse, (c != ':') = true := by
    intro c hc
    rw [List.mem_reverse] at hc
    simp only [bne_iff_ne, ne_eq]
    rintro rfl
    exact h hc
  have hdrop : (zone.toList.reverse ++ ':' :: id.toList.reverse).dropWhile (· != ':') =
      ':' :: id.toList.reverse := by
    rw [List.dropWhile_append_of_pos hzone]
    rfl
  rw [owner, split?, hchars, hdrop]
  simp

/-- A key without a colon is an id. -/
theorem owner_of_notMem {key : String} (h : ':' ∉ key.toList) : owner key = key := by
  have hdrop : key.toList.reverse.dropWhile (· != ':') = [] := by
    rw [List.dropWhile_eq_nil_iff]
    intro c hc
    rw [List.mem_reverse] at hc
    simp only [bne_iff_ne, ne_eq]
    rintro rfl
    exact h hc
  rw [owner, split?, hdrop]
  rfl

/-- A key with a colon has parts: what stands before the last one, and a name without any. -/
theorem exists_key_of_mem {key : String} (h : ':' ∈ key.toList) :
    ∃ id zone : String, ':' ∉ zone.toList ∧ key = id ++ ":" ++ zone := by
  -- The last colon is the first one from behind.
  have hreversed : ':' ∈ key.toList.reverse := List.mem_reverse.mpr h
  obtain ⟨after, before, hchars, hafter⟩ := List.eq_append_cons_of_mem hreversed
  have hkey : key.toList = before.reverse ++ ':' :: after.reverse := by
    rw [← List.reverse_reverse key.toList, hchars]
    simp
  refine ⟨String.ofList before.reverse, String.ofList after.reverse, by simpa using hafter, ?_⟩
  rw [← String.ofList_toList (s := key), hkey, ← String.toList_inj]
  simp

/-- The owner of a key is the one node whose zone it can name. -/
theorem owner_eq_iff {key id : String} : owner key = id ↔ IsOwnedBy key id := by
  constructor
  · rintro rfl
    by_cases h : ':' ∈ key.toList
    · obtain ⟨id, zone, hzone, rfl⟩ := exists_key_of_mem h
      have howner : owner (id ++ ":" ++ zone) = id := owner_key id hzone
      exact .inl ⟨zone, hzone, by rw [howner]⟩
    · exact .inr ⟨h, (owner_of_notMem h).symm⟩
  · rintro (⟨zone, hzone, rfl⟩ | ⟨hcolon, rfl⟩)
    · exact owner_key id hzone
    · exact owner_of_notMem hcolon

end Zone

/-! ### Issues -/

namespace Document

/-- Nodes have no issues if each has an id, and one that was not seen before. -/
theorem nodeIssues_eq_nil_iff {seen : List String} {nodes : List Node} :
    nodeIssues seen nodes = [] ↔
      (∀ node ∈ nodes, node.id ≠ "" ∧ node.id ∉ seen) ∧ (nodes.map Node.id).Nodup := by
  induction nodes generalizing seen with
  | nil => simp [nodeIssues]
  | cons node nodes ih =>
    rw [nodeIssues]
    split
    · rename_i hid
      simp [hid]
    · rename_i hid
      split
      · rename_i hseen
        simp [List.contains_iff_mem.mp hseen]
      · rename_i hseen
        rw [List.contains_iff_mem] at hseen
        -- the ids seen behind this node are those before it and its own
        rw [ih, List.map_cons, List.nodup_cons, List.forall_mem_cons]
        constructor
        · rintro ⟨hrest, hnodup⟩
          refine ⟨⟨⟨hid, hseen⟩, fun other hother => ⟨(hrest other hother).1, ?_⟩⟩, ?_, hnodup⟩
          · exact fun hmem => (hrest other hother).2 (List.mem_cons_of_mem _ hmem)
          · intro hmem
            obtain ⟨other, hother, hsame⟩ := List.mem_map.mp hmem
            exact (hrest other hother).2 (hsame ▸ List.mem_cons_self)
        · rintro ⟨⟨-, hrest⟩, hnode, hnodup⟩
          refine ⟨fun other hother => ⟨(hrest other hother).1, fun hmem => ?_⟩, hnodup⟩
          rcases List.mem_cons.mp hmem with hsame | hmem
          · exact hnode (hsame ▸ List.mem_map_of_mem hother)
          · exact (hrest other hother).2 hmem

/-- A document has no issues if every node has an id, no id is placed twice, and every zone belongs
to a node. -/
theorem issues_eq_nil_iff {doc : Document} :
    doc.issues = [] ↔ (∀ node ∈ doc.nodes, node.id ≠ "") ∧ (doc.nodes.map Node.id).Nodup ∧
      ∀ entry ∈ doc.zones, ∃ node ∈ doc.nodes, node.id ≠ "" ∧ node.id = Zone.owner entry.1 := by
  have hzones : doc.danglingZones = [] ↔
      ∀ entry ∈ doc.zones, ∃ node ∈ doc.nodes, node.id ≠ "" ∧ node.id = Zone.owner entry.1 := by
    rw [danglingZones, List.filter_eq_nil_iff, List.forall_mem_map]
    refine forall_congr' fun entry => forall_congr' fun _ => ?_
    simp only [Bool.not_eq_true', Bool.not_eq_false, List.contains_iff_mem, List.mem_filter,
      List.mem_map, bne_iff_ne]
    constructor
    · rintro ⟨⟨node, hnode, howner⟩, hid⟩
      exact ⟨node, hnode, howner ▸ hid, howner⟩
    · rintro ⟨node, hnode, hid, howner⟩
      exact ⟨⟨node, hnode, howner⟩, howner ▸ hid⟩
  rw [issues, List.append_eq_nil_iff, nodeIssues_eq_nil_iff, List.map_eq_nil_iff, hzones, and_assoc]
  simp

end Document

end PageMarkup
