import Mathlib.Data.List.Nodup
import Mathlib.Data.List.Pairwise
import PageMarkup.Proofs.Compile.Outline
import PageMarkup.Proofs.Issues

/-!
# Which nodes a compilation visits

A compilation comes to the nodes of the top level in order, and from each section to the nodes of
its content zone.  Where ids are not placed twice a node stands in one zone only, and its owner
again in one zone only: there is one way to it from the top level.  So no way can lead back into a
zone on it, each node that can be reached is visited once, and the visits are in list order.
-/

namespace PageMarkup

/-- The nodes that are visited at a node, when `inside` are those visited in the zones of
sections. -/
def Node.visits (inside : String → List Node) (node : Node) : List Node :=
  node :: if node.kind.isStructural then inside node.contentKey else []

/-- A zone holds the content of nodes with one id only. -/
theorem Node.id_eq_of_contentKey_eq {node other : Node} (h : node.contentKey = other.contentKey) :
    node.id = other.id := by
  have howner (node : Node) : Zone.owner node.contentKey = node.id :=
    Zone.owner_key node.id (by decide)
  rw [← howner node, h, howner other]

namespace Document

/-- The nodes that are visited in a zone while the zones of `active` are being expanded; `room`
bounds how deep expansions nest. -/
def visitsFrom (doc : Document) : (room : Nat) → (active : List String) → String → List Node
  | 0, _, _ => []
  | room + 1, active, key =>
    if active.contains key then []
    else ((doc.zone? key).getD []).flatMap (Node.visits (doc.visitsFrom room (key :: active)))

/-- The nodes that are visited in a document. -/
def visits (doc : Document) : List Node :=
  doc.topLevel.flatMap (Node.visits (doc.visitsFrom (doc.zones.length + 1) []))

/-! ### Room for expansions -/

/-- The number of zones that are not being expanded. -/
def unopened (doc : Document) (active : List String) : Nat :=
  (doc.zones.filter fun entry => !active.contains entry.1).length

variable {doc : Document}

/-- There are never more zones to expand than zones. -/
theorem unopened_lt (doc : Document) (active : List String) :
    doc.unopened active < doc.zones.length + 1 :=
  Nat.lt_succ_of_le (List.length_filter_le _ doc.zones)

/-- Once the expansion of a zone has begun there is one zone less to expand. -/
theorem unopened_cons_lt {active : List String} {key : String} {children : List Node}
    (hkey : key ∉ active) (hzone : doc.zone? key = some children) :
    doc.unopened (key :: active) < doc.unopened active := by
  have hentry : (key, children) ∈ doc.zones := Dict.mem_of_get? hzone
  have hopened : doc.zones.filter (fun entry => !(key :: active).contains entry.1) =
      (doc.zones.filter fun entry => !active.contains entry.1).filter fun entry =>
        entry.1 != key := by
    rw [List.filter_filter]
    refine List.filter_congr fun entry _ => ?_
    rw [List.contains_cons, Bool.not_or, bne]
  have hmem : (key, children) ∈ doc.zones.filter fun entry => !active.contains entry.1 := by
    simp [hentry, hkey]
  rw [unopened, unopened, hopened]
  exact List.length_filter_lt_length_iff_exists.mpr ⟨(key, children), hmem, by simp⟩

/-! ### Ways to a node -/

/-- The node stands where `path` leads: on the top level, or in the content zone of a section that
stands where the rest of the path leads.  The innermost zone comes first. -/
inductive StandsAt (doc : Document) : (path : List String) → Node → Prop
  | top {node : Node} (h : node ∈ doc.topLevel) : doc.StandsAt [] node
  | inside {path : List String} {owner node : Node} (howner : doc.StandsAt path owner)
      (hkind : owner.kind = .section) (h : node ∈ doc.children owner Zone.content) :
      doc.StandsAt (owner.contentKey :: path) node

/-- The node can be reached from the top level through the content zones of sections. -/
def Reaches (doc : Document) (node : Node) : Prop :=
  ∃ path, doc.StandsAt path node

/-- The second list are the nodes of the first, each section followed by the nodes of its content
zone, which are listed in the same manner. -/
inductive InOrder (doc : Document) : (nodes visits : List Node) → Prop
  | nil : doc.InOrder [] []
  | leaf {node : Node} {nodes visits : List Node} (hkind : node.kind ≠ .section)
      (hrest : doc.InOrder nodes visits) : doc.InOrder (node :: nodes) (node :: visits)
  | section {node : Node} {nodes inner visits : List Node} (hkind : node.kind = .section)
      (hinner : doc.InOrder (doc.children node Zone.content) inner)
      (hrest : doc.InOrder nodes visits) : doc.InOrder (node :: nodes) (node :: (inner ++ visits))

/-- A node inside another stands in its content zone. -/
theorem exists_zone {owner node : Node} (h : node ∈ doc.children owner Zone.content) :
    ∃ children, doc.zone? owner.contentKey = some children ∧ node ∈ children := by
  rw [children] at h
  cases hzone : doc.zone? (owner.zoneKey Zone.content) with
  | none =>
    rw [hzone] at h
    exact absurd h List.not_mem_nil
  | some children =>
    rw [hzone] at h
    exact ⟨children, hzone, h⟩

/-- What stands somewhere is placed. -/
theorem StandsAt.mem_nodes {path : List String} {node : Node} (h : doc.StandsAt path node) :
    node ∈ doc.nodes := by
  cases h with
  | top h => exact List.mem_append_left _ h
  | inside _ _ h =>
    obtain ⟨children, hzone, hmem⟩ := exists_zone h
    exact List.mem_append_right _ (List.mem_flatMap.mpr ⟨_, Dict.mem_of_get? hzone, hmem⟩)

/-- A zone on the way to a node is the content zone of a section further up. -/
theorem StandsAt.exists_of_mem {path : List String} {node : Node} {key : String}
    (h : doc.StandsAt path node) (hkey : key ∈ path) :
    ∃ above owner, doc.StandsAt above owner ∧ owner.contentKey = key ∧
      above.length < path.length := by
  induction h with
  | top => exact absurd hkey List.not_mem_nil
  | @inside path owner node howner hkind h ih =>
    rcases List.mem_cons.mp hkey with rfl | hkey
    · exact ⟨path, owner, howner, rfl, Nat.lt_succ_self _⟩
    · obtain ⟨above, other, hother, hsame, hlt⟩ := ih hkey
      exact ⟨above, other, hother, hsame, Nat.lt_succ_of_lt hlt⟩

/-- The node is `top`, which stands at the end of the path, or stands inside of it. -/
def Within (doc : Document) (path : List String) (top node : Node) : Prop :=
  node = top ∨ ∃ deeper, doc.StandsAt (deeper ++ top.contentKey :: path) node

/-- What is within a node stands further down the path. -/
theorem Within.exists_standsAt {path : List String} {top node : Node}
    (h : doc.Within path top node) (htop : doc.StandsAt path top) :
    ∃ deeper, doc.StandsAt (deeper ++ path) node := by
  rcases h with rfl | ⟨deeper, h⟩
  · exact ⟨[], htop⟩
  · exact ⟨deeper ++ [top.contentKey], by simpa using h⟩

/-! ### Lists in order -/

namespace InOrder

variable {nodes visits : List Node}

/-- Some nodes are listed in order if the nodes inside each section among them are. -/
theorem flatMap_visits {inside : String → List Node}
    (h : ∀ node ∈ nodes, node.kind = .section →
      doc.InOrder (doc.children node Zone.content) (inside node.contentKey)) :
    doc.InOrder nodes (nodes.flatMap (Node.visits inside)) := by
  induction nodes with
  | nil => exact .nil
  | cons node nodes ih =>
    have hrest := ih fun other hother => h other (List.mem_cons_of_mem node hother)
    rw [List.flatMap_cons, Node.visits]
    split
    · rename_i hkind
      rw [Kind.isStructural_iff] at hkind
      exact .section hkind (h node List.mem_cons_self hkind) hrest
    · rename_i hkind
      rw [Kind.isStructural_iff] at hkind
      exact .leaf hkind hrest

/-- The nodes themselves are listed. -/
theorem subset (h : doc.InOrder nodes visits) : nodes ⊆ visits := by
  induction h with
  | nil => exact List.Subset.refl []
  | leaf _ _ ih => exact List.cons_subset_cons _ ih
  | «section» _ _ _ _ ih =>
    exact List.cons_subset_cons _ (List.subset_append_of_subset_right _ ih)

/-- With a section the nodes inside it are listed. -/
theorem mem_of_mem_children (h : doc.InOrder nodes visits) {owner node : Node}
    (howner : owner ∈ visits) (hkind : owner.kind = .section)
    (hnode : node ∈ doc.children owner Zone.content) : node ∈ visits := by
  induction h with
  | nil => exact absurd howner List.not_mem_nil
  | leaf hleaf _ ih =>
    rcases List.mem_cons.mp howner with rfl | howner
    · exact absurd hkind hleaf
    · exact List.mem_cons_of_mem _ (ih howner)
  | «section» _ hinner _ ihinner ihrest =>
    refine List.mem_cons_of_mem _ ?_
    rcases List.mem_cons.mp howner with rfl | howner
    · exact List.mem_append_left _ (hinner.subset hnode)
    · rcases List.mem_append.mp howner with howner | howner
      · exact List.mem_append_left _ (ihinner howner)
      · exact List.mem_append_right _ (ihrest howner)

/-- Of nodes that stand at the end of a path only these and those inside of them are listed. -/
theorem exists_within (h : doc.InOrder nodes visits) {path : List String}
    (hnodes : ∀ node ∈ nodes, doc.StandsAt path node) {node : Node} (hnode : node ∈ visits) :
    ∃ top ∈ nodes, doc.Within path top node := by
  induction h generalizing path with
  | nil => exact absurd hnode List.not_mem_nil
  | leaf _ _ ih =>
    rcases List.mem_cons.mp hnode with rfl | hnode
    · exact ⟨node, List.mem_cons_self, .inl rfl⟩
    · have htail := fun other hother => hnodes other (List.mem_cons_of_mem _ hother)
      obtain ⟨top, htop, hwithin⟩ := ih htail hnode
      exact ⟨top, List.mem_cons_of_mem _ htop, hwithin⟩
  | @«section» first nodes inner visits hkind _ _ ihinner ihrest =>
    have hfirst : doc.StandsAt path first := hnodes first List.mem_cons_self
    rcases List.mem_cons.mp hnode with rfl | hnode
    · exact ⟨node, List.mem_cons_self, .inl rfl⟩
    · rcases List.mem_append.mp hnode with hnode | hnode
      · have hinside : ∀ child ∈ doc.children first Zone.content,
            doc.StandsAt (first.contentKey :: path) child :=
          fun _ hchild => .inside hfirst hkind hchild
        obtain ⟨child, hchild, hwithin⟩ := ihinner hinside hnode
        exact ⟨first, List.mem_cons_self, .inr (hwithin.exists_standsAt (hinside child hchild))⟩
      · have htail := fun other hother => hnodes other (List.mem_cons_of_mem _ hother)
        obtain ⟨top, htop, hwithin⟩ := ihrest htail hnode
        exact ⟨top, List.mem_cons_of_mem _ htop, hwithin⟩

/-- What is listed for a section stands inside of it. -/
theorem exists_standsAt (h : doc.InOrder (doc.children node Zone.content) visits)
    {path : List String} (hnode : doc.StandsAt path node) (hkind : node.kind = .section)
    {visit : Node} (hvisit : visit ∈ visits) :
    ∃ deeper, doc.StandsAt (deeper ++ node.contentKey :: path) visit := by
  have hinside : ∀ child ∈ doc.children node Zone.content,
      doc.StandsAt (node.contentKey :: path) child :=
    fun _ hchild => .inside hnode hkind hchild
  obtain ⟨child, hchild, hwithin⟩ := h.exists_within hinside hvisit
  exact hwithin.exists_standsAt (hinside child hchild)

end InOrder

/-! ### One way to each node -/

section Nodup

variable (hnodup : (doc.nodes.map Node.id).Nodup)
include hnodup

/-- Nodes are told apart by their ids. -/
theorem eq_of_id_eq {node other : Node} (hnode : node ∈ doc.nodes) (hother : other ∈ doc.nodes)
    (h : node.id = other.id) : node = other :=
  List.inj_on_of_nodup_map hnodup hnode hother h

/-- A node of a zone does not stand on the top level. -/
theorem notMem_topLevel {entry : String × List Node} (hentry : entry ∈ doc.zones) {node : Node}
    (hnode : node ∈ entry.2) : node ∉ doc.topLevel := by
  rw [nodes, List.map_append] at hnodup
  have hzone : node ∈ doc.zones.flatMap Prod.snd := List.mem_flatMap.mpr ⟨entry, hentry, hnode⟩
  intro htop
  exact List.disjoint_of_nodup_append hnodup (List.mem_map_of_mem htop) (List.mem_map_of_mem hzone)

/-- A node of a zone stands in no other zone. -/
theorem entry_eq {entry other : String × List Node} (hentry : entry ∈ doc.zones)
    (hother : other ∈ doc.zones) {node : Node} (hnode : node ∈ entry.2) (h : node ∈ other.2) :
    entry = other := by
  rw [nodes, List.map_append] at hnodup
  have hzones : (doc.zones.flatMap Prod.snd).Nodup := hnodup.of_append_right.of_map Node.id
  by_contra hne
  have hsymm : Std.Symm (Function.onFun List.Disjoint (@Prod.snd String (List Node))) :=
    ⟨fun _ _ hdisjoint _ hleft hright => hdisjoint hright hleft⟩
  exact (List.nodup_flatMap.mp hzones).2.forall hentry hother hne hnode h

/-- There is one way to each node. -/
theorem StandsAt.path_eq {path other : List String} {node : Node} (h : doc.StandsAt path node)
    (hother : doc.StandsAt other node) : path = other := by
  induction h generalizing other with
  | top htop =>
    cases hother with
    | top => rfl
    | inside _ _ hmem =>
      obtain ⟨children, hzone, hchild⟩ := exists_zone hmem
      exact absurd htop (notMem_topLevel hnodup (Dict.mem_of_get? hzone) hchild)
  | @inside path owner node howner _ hmem ih =>
    obtain ⟨children, hzone, hchild⟩ := exists_zone hmem
    have hentry : (owner.contentKey, children) ∈ doc.zones := Dict.mem_of_get? hzone
    cases hother with
    | top htop => exact absurd htop (notMem_topLevel hnodup hentry hchild)
    | @inside rest next node hnext _ hmem =>
      obtain ⟨others, hzone', hchild'⟩ := exists_zone hmem
      have hkeys : owner.contentKey = next.contentKey :=
        congrArg Prod.fst (entry_eq hnodup hentry (Dict.mem_of_get? hzone') hchild hchild')
      have hids : owner.id = next.id := Node.id_eq_of_contentKey_eq hkeys
      obtain rfl := eq_of_id_eq hnodup howner.mem_nodes hnext.mem_nodes hids
      rw [ih hnext]

/-- The content zone of a node is not on the way to it. -/
theorem StandsAt.contentKey_notMem {path : List String} {node : Node}
    (h : doc.StandsAt path node) : node.contentKey ∉ path := by
  intro hkey
  obtain ⟨above, owner, howner, hkeys, hlt⟩ := h.exists_of_mem hkey
  have hids : owner.id = node.id := Node.id_eq_of_contentKey_eq hkeys
  obtain rfl := eq_of_id_eq hnodup howner.mem_nodes h.mem_nodes hids
  rw [howner.path_eq hnodup h] at hlt
  exact Nat.lt_irrefl _ hlt

/-- With room for all zones that are left, the nodes inside a section are visited in order. -/
theorem StandsAt.inOrder_visitsFrom {path : List String} {node : Node} {room : Nat}
    (h : doc.StandsAt path node) (hkind : node.kind = .section) (hroom : doc.unopened path < room) :
    doc.InOrder (doc.children node Zone.content) (doc.visitsFrom room path node.contentKey) := by
  induction room generalizing path node with
  | zero => exact absurd hroom (Nat.not_lt_zero _)
  | succ room ih =>
    have hkey : node.contentKey ∉ path := h.contentKey_notMem hnodup
    rw [visitsFrom, if_neg (by simpa using hkey)]
    refine InOrder.flatMap_visits fun child hchild hsection => ?_
    obtain ⟨children, hzone, -⟩ := exists_zone hchild
    have hless : doc.unopened (node.contentKey :: path) < doc.unopened path :=
      unopened_cons_lt hkey hzone
    exact ih (.inside h hkind hchild) hsection (by omega)

/-- The visits of a document are in order. -/
theorem inOrder_visits : doc.InOrder doc.topLevel doc.visits :=
  InOrder.flatMap_visits fun _ hnode hkind =>
    StandsAt.inOrder_visitsFrom hnodup (.top hnode) hkind (doc.unopened_lt [])

/-- The nodes inside a section have different ids. -/
theorem nodup_children (owner : Node) :
    ((doc.children owner Zone.content).map Node.id).Nodup := by
  rw [children]
  cases hzone : doc.zone? (owner.zoneKey Zone.content) with
  | none => exact List.nodup_nil
  | some children =>
    rw [nodes, List.map_append, List.map_flatMap] at hnodup
    have hzones := (List.nodup_flatMap.mp hnodup.of_append_right).1
    exact hzones _ (Dict.mem_of_get? hzone)

/-- A node that stands inside a section stands neither at its side nor inside another. -/
theorem StandsAt.notMem_of_append {path deeper : List String} {key : String} {node : Node}
    (h : doc.StandsAt (deeper ++ key :: path) node) : ¬doc.StandsAt path node := by
  intro hpath
  have hlength := congrArg List.length (h.path_eq hnodup hpath)
  simp only [List.length_append, List.length_cons] at hlength
  omega

/-- A node is within one of the nodes at the end of a path only. -/
theorem Within.top_eq {path : List String} {top other node : Node} (h : doc.Within path top node)
    (h' : doc.Within path other node) (htop : doc.StandsAt path top)
    (hother : doc.StandsAt path other) : top = other := by
  rcases h with rfl | ⟨deeper, h⟩ <;> rcases h' with rfl | ⟨deeper', h'⟩
  · rfl
  · exact absurd htop (h'.notMem_of_append hnodup)
  · exact absurd hother (h.notMem_of_append hnodup)
  · have hpaths := List.append_inj_right' (h.path_eq hnodup h') rfl
    have hids : top.id = other.id := Node.id_eq_of_contentKey_eq (List.cons.inj hpaths).1
    exact eq_of_id_eq hnodup htop.mem_nodes hother.mem_nodes hids

/-- What is within a node has another id than what is listed for others at its side. -/
theorem InOrder.id_notMem {nodes visits : List Node} (h : doc.InOrder nodes visits)
    {path : List String} {first : Node}
    (hnodes : ∀ node ∈ first :: nodes, doc.StandsAt path node)
    (hfresh : first.id ∉ nodes.map Node.id) {node : Node} (hnode : doc.Within path first node) :
    node.id ∉ visits.map Node.id := by
  intro hmem
  obtain ⟨visit, hvisit, hids⟩ := List.mem_map.mp hmem
  have hfirst := hnodes first List.mem_cons_self
  have htail := fun other hother => hnodes other (List.mem_cons_of_mem first hother)
  obtain ⟨top, htop, hwithin⟩ := h.exists_within htail hvisit
  obtain ⟨_, hstands⟩ := hnode.exists_standsAt hfirst
  obtain ⟨_, hstands'⟩ := hwithin.exists_standsAt (htail top htop)
  obtain rfl := eq_of_id_eq hnodup hstands'.mem_nodes hstands.mem_nodes hids
  obtain rfl := hnode.top_eq hnodup hwithin hfirst (htail top htop)
  exact hfresh (List.mem_map_of_mem htop)

/-- Nodes at the end of one path are listed with different ids, if they have different ids. -/
theorem InOrder.nodup {nodes visits : List Node} (h : doc.InOrder nodes visits)
    {path : List String} (hnodes : ∀ node ∈ nodes, doc.StandsAt path node)
    (hids : (nodes.map Node.id).Nodup) : (visits.map Node.id).Nodup := by
  induction h generalizing path with
  | nil => exact List.nodup_nil
  | leaf _ hrest ih =>
    obtain ⟨hfresh, hids⟩ := List.nodup_cons.mp hids
    have htail := fun other hother => hnodes other (List.mem_cons_of_mem _ hother)
    exact List.nodup_cons.mpr ⟨hrest.id_notMem hnodup hnodes hfresh (.inl rfl), ih htail hids⟩
  | @«section» first nodes inner visits hkind hinner hrest ihinner ihrest =>
    obtain ⟨hfresh, hids⟩ := List.nodup_cons.mp hids
    have hfirst : doc.StandsAt path first := hnodes first List.mem_cons_self
    have htail := fun other hother => hnodes other (List.mem_cons_of_mem _ hother)
    have hother : ∀ node, doc.Within path first node → node.id ∉ visits.map Node.id :=
      fun _ => hrest.id_notMem hnodup hnodes hfresh
    -- the section does not stand inside of itself
    have hself : first.id ∉ inner.map Node.id := by
      intro hmem
      obtain ⟨visit, hvisit, hsame⟩ := List.mem_map.mp hmem
      obtain ⟨deeper, hstands⟩ := hinner.exists_standsAt hfirst hkind hvisit
      obtain rfl := eq_of_id_eq hnodup hstands.mem_nodes hfirst.mem_nodes hsame
      exact hstands.notMem_of_append hnodup hfirst
    have hnodes : (inner.map Node.id).Nodup :=
      ihinner (fun child hchild => .inside hfirst hkind hchild) (nodup_children hnodup first)
    -- nor does anything inside of it stand behind it as well
    have hdisjoint : List.Disjoint (inner.map Node.id) (visits.map Node.id) := by
      intro id hinside hmem
      obtain ⟨visit, hvisit, rfl⟩ := List.mem_map.mp hinside
      exact hother visit (.inr (hinner.exists_standsAt hfirst hkind hvisit)) hmem
    rw [List.map_cons, List.map_append, List.nodup_cons, List.mem_append, not_or]
    exact ⟨⟨hself, hother first (.inl rfl)⟩, hnodes.append (ihrest htail hids) hdisjoint⟩

/-- The nodes that are visited are those that can be reached. -/
theorem mem_visits_iff {node : Node} : node ∈ doc.visits ↔ doc.Reaches node := by
  have horder := inOrder_visits hnodup
  have htop : ∀ node ∈ doc.topLevel, doc.StandsAt [] node := fun _ hnode => .top hnode
  constructor
  · intro hvisit
    obtain ⟨top, hmem, rfl | ⟨deeper, hstands⟩⟩ := horder.exists_within htop hvisit
    · exact ⟨[], .top hmem⟩
    · exact ⟨_, hstands⟩
  · rintro ⟨path, hstands⟩
    induction hstands with
    | top hmem => exact horder.subset hmem
    | inside _ hkind hchild ih => exact horder.mem_of_mem_children ih hkind hchild

/-- No node is visited twice. -/
theorem nodup_visits : (doc.visits.map Node.id).Nodup := by
  refine (inOrder_visits hnodup).nodup hnodup (fun _ hnode => .top hnode) ?_
  rw [nodes, List.map_append] at hnodup
  exact hnodup.of_append_left

end Nodup

end Document

end PageMarkup
