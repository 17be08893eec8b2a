import PageMarkup.Proofs.Compile.Page
import PageMarkup.Proofs.Compile.Visits

/-!
# What the page of a document depends on

A page depends on the nodes of the top level and on the content zones of the sections that can be
reached from there: whatever else a document holds, its page is the same.  A section on the top
level has a segment of the page to itself.  What stands before the segment is the page of the nodes
before the section, and what stands behind it is the page of the nodes behind it.  So if a section
is replaced, and with it zones that the other nodes of the top level do not lead to, the page stays
the same outside of the segment.
-/

namespace PageMarkup

open Text

namespace Document

/-- Put other nodes on the top level. -/
def onTop (doc : Document) (nodes : List Node) : Document :=
  { doc with topLevel := nodes }

/-- The documents agree on the content zone of each section that can be reached in both. -/
def Agrees (doc other : Document) : Prop :=
  ∀ owner, owner.kind = .section → doc.Reaches owner → other.Reaches owner →
    doc.children owner Zone.content = other.children owner Zone.content

/-- The segment of a page that a section on the top level becomes. -/
def segment (doc : Document) (limit : Nat) (node : Node) : List Char :=
  sectionAround (Template.named (node.attributes.result limit))
    ((doc.compileZone node.contentKey).result limit).content.render

variable {doc other : Document}

/-! ### Fewer nodes on the top level -/

/-- From fewer nodes on the top level fewer nodes can be reached. -/
theorem Reaches.of_subset {nodes others : List Node} (h : nodes ⊆ others) {node : Node}
    (hnode : (doc.onTop nodes).Reaches node) : (doc.onTop others).Reaches node := by
  obtain ⟨path, hstands⟩ := hnode
  induction hstands with
  | top hmem => exact ⟨[], .top (h hmem)⟩
  | inside _ hkind hmem ih =>
    obtain ⟨above, howner⟩ := ih
    exact ⟨_, .inside howner hkind hmem⟩

/-- Documents agree on what can be reached from fewer nodes. -/
theorem Agrees.of_subset {nodes others : List Node} (h : nodes ⊆ others)
    (hagree : (doc.onTop others).Agrees (other.onTop others)) :
    (doc.onTop nodes).Agrees (other.onTop nodes) := by
  intro owner hkind hreaches hreaches'
  exact hagree owner hkind (hreaches.of_subset h) (hreaches'.of_subset h)

/-- What can be reached from a zone does not depend on the top level. -/
theorem reachedFrom_onTop (nodes : List Node) (room : Nat) (active : List String) (key : String) :
    (doc.onTop nodes).reachedFrom room active key = doc.reachedFrom room active key := by
  induction room generalizing active key with
  | zero => rfl
  | succ room ih =>
    have hinside : (doc.onTop nodes).reachedFrom room (key :: active) =
        doc.reachedFrom room (key :: active) := funext fun inner => ih (key :: active) inner
    rw [reachedFrom, reachedFrom, hinside]
    rfl

/-- The sections that nodes of the top level become do not depend on the other nodes there. -/
theorem outlineFrom_onTop (others : List Node) (loose nodes : List Node) :
    (doc.onTop others).outlineFrom loose nodes = doc.outlineFrom loose nodes := by
  induction nodes generalizing loose with
  | nil => rfl
  | cons node nodes ih =>
    have hreached : (doc.onTop others).reached node.contentKey = doc.reached node.contentKey :=
      reachedFrom_onTop others (doc.zones.length + 1) [] node.contentKey
    rw [outlineFrom, outlineFrom, ih, ih, hreached]

/-- A section on the top level stands between what the nodes before it and those behind it
become. -/
theorem outlineFrom_append_cons {node : Node} (hkind : node.kind.isStructural = true)
    (loose before after : List Node) :
    doc.outlineFrom loose (before ++ node :: after) =
      doc.outlineFrom loose before ++ [⟨some node, doc.reached node.contentKey⟩] ++
        doc.outlineFrom [] after := by
  induction before generalizing loose with
  | nil => rw [List.nil_append, outlineFrom, outlineFrom, if_pos hkind]
  | cons first before ih =>
    rw [List.cons_append, outlineFrom, outlineFrom]
    split
    · simp only [ih, List.append_assoc]
    · exact ih _

/-! ### Documents that agree -/

/-- Documents agree if they do on the content zones of the sections that are visited in one. -/
theorem agrees_of_visits (hnodup : (doc.nodes.map Node.id).Nodup)
    (h : ∀ owner ∈ doc.visits.filter fun node => node.kind.isStructural,
      doc.children owner Zone.content = other.children owner Zone.content) : doc.Agrees other := by
  intro owner hkind hreaches _
  have hvisit : owner ∈ doc.visits := (mem_visits_iff hnodup).mpr hreaches
  exact h owner (List.mem_filter.mpr ⟨hvisit, Kind.isStructural_iff.mpr hkind⟩)

namespace Agrees

/-- Where a section can be reached in documents that agree, the same nodes are reached from it,
whatever room there is beyond the zones that are left. -/
theorem reachedFrom_eq (h : doc.Agrees other) {room room' : Nat} {active : List String}
    (hroom : doc.unopened active < room) (hroom' : other.unopened active < room') {node : Node}
    (hkind : node.kind = .section) (hnode : doc.Reaches node) (hnode' : other.Reaches node) :
    doc.reachedFrom room active node.contentKey =
      other.reachedFrom room' active node.contentKey := by
  -- the two rooms may differ, so one is counted down and the other is left arbitrary
  induction room generalizing room' active node with
  | zero => exact absurd hroom (Nat.not_lt_zero _)
  | succ room ih =>
    cases room' with
    | zero => exact absurd hroom' (Nat.not_lt_zero _)
    | succ room' =>
      have hchildren : (doc.zone? node.contentKey).getD [] =
          (other.zone? node.contentKey).getD [] := h node hkind hnode hnode'
      rw [reachedFrom, reachedFrom, hchildren]
      split
      · rfl
      · rename_i hactive
        have hkey : node.contentKey ∉ active := by simpa using hactive
        refine List.flatMap_congr fun child hchild => ?_
        have hhere : child ∈ other.children node Zone.content := hchild
        have hthere : child ∈ doc.children node Zone.content := by
          rwa [h node hkind hnode hnode']
        rw [Node.reached, Node.reached]
        split
        · rename_i hstructural
          obtain ⟨path, hstands⟩ := hnode
          obtain ⟨path', hstands'⟩ := hnode'
          obtain ⟨_, hzone, -⟩ := exists_zone hthere
          obtain ⟨_, hzone', -⟩ := exists_zone hhere
          -- a zone that is opened leaves one less to open, so what is left of either room is enough
          have hless := unopened_cons_lt hkey hzone
          have hless' := unopened_cons_lt hkey hzone'
          exact ih (by omega) (by omega) (Kind.isStructural_iff.mp hstructural)
            ⟨_, .inside hstands hkind hthere⟩ ⟨_, .inside hstands' hkind hhere⟩
        · rfl

/-- The same sections are made of nodes of the top level. -/
theorem outlineFrom_eq (h : doc.Agrees other) {nodes : List Node} (hnodes : nodes ⊆ doc.topLevel)
    (hnodes' : nodes ⊆ other.topLevel) (loose : List Node) :
    doc.outlineFrom loose nodes = other.outlineFrom loose nodes := by
  induction nodes generalizing loose with
  | nil => rfl
  | cons node nodes ih =>
    have hrest := ih (List.subset_of_cons_subset hnodes) (List.subset_of_cons_subset hnodes')
    rw [outlineFrom, outlineFrom]
    split
    · rename_i hkind
      have hreached : doc.reached node.contentKey = other.reached node.contentKey :=
        h.reachedFrom_eq (doc.unopened_lt []) (other.unopened_lt [])
          (Kind.isStructural_iff.mp hkind) ⟨[], .top (hnodes List.mem_cons_self)⟩
          ⟨[], .top (hnodes' List.mem_cons_self)⟩
      rw [hreached, hrest]
    · exact hrest _

/-- Documents that agree and have the same nodes on the top level have the same outline. -/
theorem outline_eq (h : doc.Agrees other) (htop : doc.topLevel = other.topLevel) :
    doc.outline = other.outline := by
  have hnodes : doc.topLevel ⊆ other.topLevel := htop ▸ List.Subset.refl _
  rw [outline, outline, h.outlineFrom_eq (List.Subset.refl _) hnodes, htop]

/-- Documents that agree and have the same nodes on the top level have the same page. -/
theorem compile_eq (h : doc.Agrees other) (htop : doc.topLevel = other.topLevel)
    (limit limit' : Nat) : doc.compile.result limit = other.compile.result limit' := by
  rw [← String.toList_inj, toList_compile, toList_compile, h.outline_eq htop]

end Agrees

/-! ### The segment of a section -/

/-- The segments of a page. -/
def segments (doc : Document) : List (List Char) :=
  doc.outline.map fun part => sectionAround part.attributes (Nodes.content part.nodes).render

/-- A page is its segments, one on each line. -/
theorem toList_compile_segments (limit : Nat) :
    (doc.compile.result limit).toList = joinWith ['\n'] doc.segments := by
  rw [toList_compile, Outline.render_page, segments]

/-- A section on the top level has its own segment, between those of the nodes before it and those
of the nodes behind it. -/
theorem segments_append_cons {node : Node} (hkind : node.kind = .section)
    {before after : List Node} (htop : doc.topLevel = before ++ node :: after) (limit : Nat) :
    doc.segments = (doc.onTop before).segments ++ [doc.segment limit node] ++
      (doc.onTop after).segments := by
  have hsegment : doc.segment limit node =
      sectionAround (Outline.attributes ⟨some node, doc.reached node.contentKey⟩)
        (Nodes.content (doc.reached node.contentKey)).render := by
    rw [segment, Node.result_attributes, compileZone, content_expand]
    rfl
  have honTop (nodes : List Node) : (doc.onTop nodes).outline = doc.outlineFrom [] nodes :=
    outlineFrom_onTop nodes [] nodes
  rw [segments, segments, segments, outline, htop, honTop, honTop,
    outlineFrom_append_cons (Kind.isStructural_iff.mpr hkind), hsegment]
  simp

/-! ### Locality -/

/-- Documents with the same nodes on the top level that agree on the content zones of the sections
that can be reached have the same page.  If a section on the top level is replaced by another, and
the documents agree on the zones that the other nodes there lead to, then each page is the segment
of its section between the same two pages, those of the nodes before and behind the section; neither
the ids nor the zones that only the section leads to matter for that. -/
theorem compile_isLocal (doc other : Document) (limit limit' : Nat) :
    (doc.topLevel = other.topLevel → doc.Agrees other →
      doc.compile.result limit = other.compile.result limit') ∧
    ∀ (before after : List Node) (node next : Node),
      doc.topLevel = before ++ node :: after → other.topLevel = before ++ next :: after →
      node.kind = .section → next.kind = .section →
      (doc.onTop (before ++ after)).Agrees (other.onTop (before ++ after)) →
      ∃ front back,
        (doc.compile.result limit).toList =
          joinWith ['\n'] (front ++ [doc.segment limit node] ++ back) ∧
        (other.compile.result limit').toList =
          joinWith ['\n'] (front ++ [other.segment limit' next] ++ back) ∧
        ((doc.onTop before).compile.result limit).toList = joinWith ['\n'] front ∧
        ((doc.onTop after).compile.result limit).toList = joinWith ['\n'] back := by
  refine ⟨fun htop h => h.compile_eq htop limit limit', ?_⟩
  intro before after node next htop htop' hkind hkind' h
  have hbefore : (doc.onTop before).segments = (other.onTop before).segments := by
    rw [segments, segments, (h.of_subset (List.subset_append_left before after)).outline_eq rfl]
  have hafter : (doc.onTop after).segments = (other.onTop after).segments := by
    rw [segments, segments, (h.of_subset (List.subset_append_right before after)).outline_eq rfl]
  refine ⟨(doc.onTop before).segments, (doc.onTop after).segments, ?_, ?_,
    toList_compile_segments limit, toList_compile_segments limit⟩
  · rw [toList_compile_segments, segments_append_cons hkind htop limit]
  · rw [toList_compile_segments, segments_append_cons hkind' htop' limit', hbefore, hafter]

/-- A section between a text and a section with another inside. -/
def besideNested (root : Props) (node : Node) (zones : List (String × List Node)) : Document where
  root := root
  topLevel := [⟨.text, "t", [("text", .text "Hi")]⟩, node, ⟨.section, "last", []⟩]
  zones := zones ++ [("last:content", [⟨.section, "nested", []⟩]),
    ("nested:content", [⟨.divider, "line", []⟩])]

/-- Properties of the page and a zone that no section leads to change nothing; another section with
other zones changes its own segment only. -/
theorem compile_isLocal_besideNested :
    let one := besideNested [] ⟨.section, "a", []⟩
      [("a:content", [⟨.heading, "h", [("title", .text "One")]⟩])]
    let same := besideNested [("title", .text "Home")] ⟨.section, "a", []⟩
      [("a:content", [⟨.heading, "h", [("title", .text "One")]⟩]),
        ("h:content", [⟨.text, "lost", [("text", .text "lost")]⟩])]
    let two := besideNested [] ⟨.section, "b", []⟩
      [("b:content", [⟨.heading, "h", [("title", .text "Two")]⟩, ⟨.section, "c", []⟩]),
        ("c:content", [⟨.spacer, "s", []⟩])]
    one.compile.result 512 = same.compile.result 512 ∧
      ∃ front back,
        (one.compile.result 512).toList =
          joinWith ['\n'] (front ++ [one.segment 512 ⟨.section, "a", []⟩] ++ back) ∧
        (two.compile.result 512).toList =
          joinWith ['\n'] (front ++ [two.segment 512 ⟨.section, "b", []⟩] ++ back) := by
  intro one same two
  have hsame : one.Agrees same :=
    agrees_of_visits (by decide +kernel) (List.map_inj_left.mp rfl)
  let rest : List Node := [⟨.text, "t", [("text", .text "Hi")]⟩] ++ [⟨.section, "last", []⟩]
  have hrest : (one.onTop rest).Agrees (two.onTop rest) :=
    agrees_of_visits (by decide +kernel) (List.map_inj_left.mp rfl)
  obtain ⟨front, back, hone, htwo, -⟩ :=
    (compile_isLocal one two 512 512).2 [⟨.text, "t", [("text", .text "Hi")]⟩]
      [⟨.section, "last", []⟩] _ _ rfl rfl rfl rfl hrest
  exact ⟨(compile_isLocal one same 512 512).1 rfl hsame, front, back, hone, htwo⟩

end Document

end PageMarkup
