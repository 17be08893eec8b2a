import Mathlib.Data.List.Perm.Subperm
import PageMarkup.Proofs.Compile.Reports

/-!
# Compilation with a stack of zones

A compilation is told which zones are being expanded, and leaves a zone empty if there is no room
for it.  The walk of this file keeps one stack of zones instead, which changes when an expansion
begins and when it ends, and without room it has no result at all.  On every document it ends, as
soon as the room is more than the number of zones, and more room changes nothing; it gives the page
and the entries of the compilation.  On the way the zones on the stack are different zones of the
document, and every expansion leaves the stack as it was.
-/

namespace PageMarkup

/-! ### The walk -/

/-- How far a compilation has come. -/
structure Walk where
  /-- The zones that are being expanded, the innermost first. -/
  active : List String
  /-- What `active` was after each of its changes. -/
  history : List (List String)
  visited : List Node
  entries : List Entry

namespace Walk

/-- Nothing is compiled yet. -/
def start : Walk := ⟨[], [], [], []⟩

/-- The walk has gone on and is back at the same zones. -/
def extend (walk : Walk) (history : List (List String)) (visits : List Node)
    (entries : List Entry) : Walk :=
  ⟨walk.active, walk.history ++ history, walk.visited ++ visits, walk.entries ++ entries⟩

end Walk

/-- A computation that goes on with a walk, or breaks off. -/
abbrev Walking := StateT Walk Option

namespace Walking

/-- The zones that are being expanded. -/
def active : Walking (List String) := fun walk => some (walk.active, walk)

/-- A walk that looks at these zones goes on from them. -/
theorem run_active_bind {α : Type} (f : List String → Walking α) (before : Walk) :
    (active >>= f).run before = (f before.active).run before :=
  rfl

/-- The result of a computation that leaves entries. -/
def trace {α : Type} (limit : Nat) (x : Traced α) : Walking α := fun walk =>
  some (x.result limit, { walk with entries := walk.entries ++ x.entries limit })

/-- There is no room to go on. -/
def breakOff {α : Type} : Walking α := fun _ => none

/-- Come to a node. -/
def visit (node : Node) : Walking Unit := fun walk =>
  some ((), { walk with visited := walk.visited ++ [node] })

/-- Begin to expand a zone. -/
def enter (key : String) : Walking Unit := fun walk =>
  some ((), { walk with
    active := key :: walk.active
    history := walk.history ++ [key :: walk.active] })

/-- End the expansion of the innermost zone. -/
def leave : Walking Unit := fun walk =>
  some ((), { walk with
    active := walk.active.tail
    history := walk.history ++ [walk.active.tail] })

end Walking

namespace Document

open Walking

/-- Compile a node inside a section, where `zone` expands the zones of sections. -/
def walkNode (limit : Nat) (zone : String → Walking Compiled) (node : Node) :
    Walking (Option Compiled) := do
  if node.kind.isStructural then
    trace limit <| Traced.note .warn
      ("Section " ++ node.id ++ " nested inside a section; children flattened")
    let inner ← zone node.contentKey
    return if inner.content.isEmpty then none else some inner
  else trace limit node.compileTemplate

/-- Compile the nodes of a zone, where `zone` expands the zones of sections. -/
def walkNodes (limit : Nat) (zone : String → Walking Compiled) :
    List Node → Walking (List (Option Compiled))
  | [] => return []
  | node :: nodes => do
    visit node
    let first ← walkNode limit zone node
    return first :: (← walkNodes limit zone nodes)

/-- Expand a zone, with room for `room` expansions inside one another. -/
def walkZone (doc : Document) (limit : Nat) : (room : Nat) → String → Walking Compiled
  | 0, _ => breakOff
  | room + 1, key => do
    if (← active).contains key then
      trace limit do
        Traced.note .warn ("Zone " ++ key ++ " refers back to itself; left empty")
        return .empty
    else
      match doc.zone? key with
      | none =>
        trace limit do
          Traced.note .block ("Zone " ++ key ++ " unresolved; empty content")
          return .empty
      | some children =>
        enter key
        let parts ← walkNodes limit (doc.walkZone limit room) children
        leave
        return .lines parts

/-- Compile a section on the top level. -/
def walkSection (doc : Document) (limit room : Nat) (node : Node) : Walking Compiled := do
  let attributes ← trace limit node.attributes
  let inner ← doc.walkZone limit room node.contentKey
  trace limit <| Traced.noteWith .block ("Section " ++ node.id ++ " compiled") <| Json.ofFields [
    ("id", .text node.id),
    ("type", .text node.kind.name),
    ("zone", .text node.contentKey),
    ("background", ((Template.valueOf? .bgColor attributes).map Json.text).getD .null)]
  return ⟨[.skeleton (Template.named attributes) inner.content], inner.converted + 1⟩

/-- Compile the nodes of the top level that are left. -/
def walkSections (doc : Document) (limit room : Nat) :
    (loose : List Compiled) → List Node → Walking (List Compiled)
  | loose, [] => trace limit (wrapLoose loose)
  | loose, node :: nodes =>
    if node.kind.isStructural then do
      let before ← trace limit (wrapLoose loose)
      visit node
      let this ← doc.walkSection limit room node
      return before ++ [this] ++ (← doc.walkSections limit room [] nodes)
    else do
      visit node
      let this ← trace limit node.compileTemplate
      doc.walkSections limit room (loose ++ this.toList) nodes

/-- Compile a document to a forest. -/
def walkForest (doc : Document) (limit room : Nat) : Walking Forest := do
  trace limit <| Traced.note .init
    ("Compiling document: " ++ toString doc.topLevel.length ++ " top-level nodes, "
      ++ toString doc.zones.length ++ " zones")
  trace limit <| noteIssues doc.issues
  let page := Compiled.lines ((← doc.walkSections limit room [] doc.topLevel).map some)
  trace limit <| Traced.note .success
    ("Compiled " ++ toString page.converted ++ " nodes into "
      ++ toString (Text.size page.content.render) ++ " bytes")
  return page.content

/-- Compile a document. -/
def walk (doc : Document) (limit room : Nat) : Walking String := do
  let page ← doc.walkForest limit room
  return String.ofList page.render

end Document

/-! ### Going on with a walk -/

namespace Document

variable {doc : Document}

/-- The stack is that of `active` with different zones of the document on top, none of which is in
`active`. -/
def Nests (doc : Document) (active stack : List String) : Prop :=
  ∃ opened, stack = opened ++ active ∧ opened.Nodup ∧
    ∀ key ∈ opened, key ∉ active ∧ doc.zone? key ≠ none

theorem nests_refl (doc : Document) (active : List String) : doc.Nests active active :=
  ⟨[], rfl, List.nodup_nil, fun _ hkey => absurd hkey List.not_mem_nil⟩

/-- What nests inside a zone that could be opened nests outside of it. -/
theorem Nests.of_cons {active stack : List String} {key : String}
    (h : doc.Nests (key :: active) stack) (hkey : key ∉ active) (hzone : doc.zone? key ≠ none) :
    doc.Nests active stack := by
  obtain ⟨opened, rfl, hnodup, hopened⟩ := h
  have hfresh : key ∉ opened := fun hmem => (hopened key hmem).1 List.mem_cons_self
  refine ⟨opened ++ [key], by simp, ?_, ?_⟩
  · exact hnodup.append (List.nodup_singleton key) (List.disjoint_singleton.mpr hfresh)
  · intro other hother
    rcases List.mem_append.mp hother with hother | hother
    · obtain ⟨houtside, hpresent⟩ := hopened other hother
      exact ⟨fun hmem => houtside (List.mem_cons_of_mem key hmem), hpresent⟩
    · obtain rfl := List.mem_singleton.mp hother
      exact ⟨hkey, hzone⟩

/-- A stack of different zones is not higher than there are zones. -/
theorem length_le_of_nodup {stack : List String} (hnodup : stack.Nodup)
    (h : ∀ key ∈ stack, doc.zone? key ≠ none) : stack.length ≤ doc.zones.length := by
  have hkeys : stack ⊆ doc.zones.map Prod.fst := by
    intro key hkey
    by_contra hmissing
    exact h key hkey (Dict.get?_eq_none_iff.mpr hmissing)
  have hlength := (hnodup.subperm hkeys).length_le
  rwa [List.length_map] at hlength

end Document

/-- Where the zones of `active` are being expanded the walk `x` ends with the result and the entries
of `y`, after `visits`, and with the same zones; in between others nest inside them. -/
def Runs {α : Type} (doc : Document) (limit : Nat) (active : List String) (x : Walking α)
    (y : Traced α) (visits : List Node) : Prop :=
  ∀ before : Walk, before.active = active → ∃ history,
    x.run before = some (y.result limit, before.extend history visits (y.entries limit)) ∧
      ∀ stack ∈ history, doc.Nests active stack

namespace Runs

variable {α β : Type} {doc : Document} {limit : Nat} {active : List String}

/-- A walk that does nothing. -/
theorem pure (a : α) : Runs doc limit active (pure a) (pure a) [] := by
  intro before hactive
  refine ⟨[], ?_, fun _ hstack => absurd hstack List.not_mem_nil⟩
  simp [Walk.extend, StateT.run_pure]

/-- A walk that only leaves entries. -/
theorem trace (y : Traced α) : Runs doc limit active (Walking.trace limit y) y [] := by
  intro before hactive
  refine ⟨[], ?_, fun _ hstack => absurd hstack List.not_mem_nil⟩
  simp [Walking.trace, Walk.extend, StateT.run]

/-- Two walks, one after the other. -/
theorem bind {x : Walking α} {f : α → Walking β} {y : Traced α} {g : α → Traced β}
    {visits others : List Node} (hx : Runs doc limit active x y visits)
    (hf : Runs doc limit active (f (y.result limit)) (g (y.result limit)) others) :
    Runs doc limit active (x >>= f) (y >>= g) (visits ++ others) := by
  intro before hactive
  obtain ⟨history, hfirst, hhistory⟩ := hx before hactive
  obtain ⟨more, hsecond, hmore⟩ := hf (before.extend history visits (y.entries limit)) hactive
  refine ⟨history ++ more, ?_, ?_⟩
  · rw [StateT.run_bind, hfirst, Option.bind_eq_bind, Option.bind_some, hsecond]
    simp [Walk.extend]
  · intro stack hstack
    rcases List.mem_append.mp hstack with hstack | hstack
    · exact hhistory stack hstack
    · exact hmore stack hstack

/-- A walk whose result is changed at the end. -/
theorem map {x : Walking α} {y : Traced α} {visits : List Node}
    (h : Runs doc limit active x y visits) (f : α → β) :
    Runs doc limit active (do let a ← x; return f a) (do let a ← y; return f a) visits := by
  rw [← List.append_nil visits]
  exact h.bind (Runs.pure (f (y.result limit)))

/-- A walk that looks at the zones that are being expanded. -/
theorem look {f : List String → Walking α} {y : Traced α} {visits : List Node}
    (h : Runs doc limit active (f active) y visits) :
    Runs doc limit active (Walking.active >>= f) y visits := by
  intro before hactive
  obtain ⟨history, hrun, hhistory⟩ := h before hactive
  refine ⟨history, ?_, hhistory⟩
  rw [Walking.run_active_bind, hactive, hrun]

/-- A walk that first comes to a node. -/
theorem visit {x : Walking α} {y : Traced α} {visits : List Node} (node : Node)
    (h : Runs doc limit active x y visits) :
    Runs doc limit active (do Walking.visit node; x) y (node :: visits) := by
  intro before hactive
  obtain ⟨history, hrun, hhistory⟩ := h { before with visited := before.visited ++ [node] } hactive
  refine ⟨history, ?_, hhistory⟩
  rw [StateT.run_bind]
  refine hrun.trans ?_
  simp [Walk.extend]

/-- A walk inside a zone that is not being expanded. -/
theorem within {x : Walking α} {y : Traced α} {visits : List Node} {key : String}
    (hkey : key ∉ active) (hzone : doc.zone? key ≠ none)
    (h : Runs doc limit (key :: active) x y visits) (f : α → β) :
    Runs doc limit active
      (do Walking.enter key; let a ← x; Walking.leave; return f a)
      (do let a ← y; return f a) visits := by
  rintro before rfl
  let opened : Walk := { before with
    active := key :: before.active
    history := before.history ++ [key :: before.active] }
  obtain ⟨history, hrun, hhistory⟩ := h opened rfl
  refine ⟨[key :: before.active] ++ history ++ [before.active], ?_, ?_⟩
  · have henter : (Walking.enter key).run before = some ((), opened) := rfl
    have hleave (walk : Walk) : Walking.leave.run walk = some ((), { walk with
      active := walk.active.tail
      history := walk.history ++ [walk.active.tail] }) := rfl
    simp only [StateT.run_bind, henter, hrun, hleave, Option.bind_eq_bind, Option.bind_some]
    simp [opened, Walk.extend, StateT.run_pure]
  · intro stack hstack
    rcases List.mem_append.mp hstack with hstack | hstack
    · rcases List.mem_append.mp hstack with hstack | hstack
      · obtain rfl := List.mem_singleton.mp hstack
        exact (Document.nests_refl doc _).of_cons hkey hzone
      · exact (hhistory stack hstack).of_cons hkey hzone
    · obtain rfl := List.mem_singleton.mp hstack
      exact Document.nests_refl doc _

end Runs

/-! ### The walk follows the compilation -/

namespace Document

variable {doc : Document} {limit : Nat} {active : List String}
  {expand : String → Traced Compiled} {inside : String → List Node}

section Inside

variable {zone : String → Walking Compiled}
  (h : ∀ key, Runs doc limit active (zone key) (expand key) (inside key))

include h

/-- The walk of a node in a zone, if the zones of sections are expanded alike. -/
theorem runs_walkNode (node : Node) :
    Runs doc limit active (walkNode limit zone node) (node.compileInside expand)
      (if node.kind.isStructural then inside node.contentKey else []) := by
  rw [walkNode, Node.compileInside]
  split
  · exact (Runs.trace _).bind ((h node.contentKey).map _)
  · exact Runs.trace _

/-- The walk of the nodes of a zone, if the zones of sections are expanded alike. -/
theorem runs_walkNodes (nodes : List Node) :
    Runs doc limit active (walkNodes limit zone nodes) (Node.compileAll expand nodes)
      (nodes.flatMap (Node.visits inside)) := by
  induction nodes with
  | nil => exact Runs.pure []
  | cons node nodes ih =>
    rw [walkNodes, Node.compileAll, List.flatMap_cons, Node.visits, List.cons_append]
    exact Runs.visit node ((runs_walkNode h node).bind (ih.map _))

end Inside

/-- With room for all zones that are left, a zone is expanded as the compilation expands it. -/
theorem runs_walkZone {room : Nat} (hroom : doc.unopened active < room) (key : String) :
    Runs doc limit active (doc.walkZone limit room key) (doc.expand room active key)
      (doc.visitsFrom room active key) := by
  induction room generalizing active key with
  | zero => exact absurd hroom (Nat.not_lt_zero _)
  | succ room ih =>
    rw [walkZone, expand, visitsFrom]
    refine Runs.look ?_
    split
    · exact Runs.trace _
    · rename_i hkey
      have hkey : key ∉ active := by simpa using hkey
      cases hzone : doc.zone? key with
      | none => exact Runs.trace _
      | some children =>
        have hless := unopened_cons_lt hkey hzone
        have hinside : ∀ inner, Runs doc limit (key :: active) (doc.walkZone limit room inner)
            (doc.expand room (key :: active) inner) (doc.visitsFrom room (key :: active) inner) :=
          fun inner => ih (by omega) inner
        exact (runs_walkNodes hinside children).within hkey (by simp [hzone]) _

variable (doc limit)

/-- The walk of a section on the top level. -/
theorem runs_walkSection (node : Node) :
    Runs doc limit [] (doc.walkSection limit (doc.zones.length + 1) node) (doc.compileSection node)
      (doc.visitsFrom (doc.zones.length + 1) [] node.contentKey) := by
  have hzone : Runs doc limit [] (doc.walkZone limit _ node.contentKey) _ _ :=
    runs_walkZone (doc.unopened_lt []) node.contentKey
  rw [walkSection, compileSection, ← List.append_nil (doc.visitsFrom _ _ _)]
  exact (Runs.trace _).bind (hzone.bind ((Runs.trace _).map _))

/-- The walk of the nodes of the top level that are left. -/
theorem runs_walkSections (nodes : List Node) (loose : List Compiled) :
    Runs doc limit [] (doc.walkSections limit (doc.zones.length + 1) loose nodes)
      (doc.compileSections loose nodes)
      (nodes.flatMap (Node.visits (doc.visitsFrom (doc.zones.length + 1) []))) := by
  induction nodes generalizing loose with
  | nil => exact Runs.trace _
  | cons node nodes ih =>
    rw [walkSections, compileSections, List.flatMap_cons, Node.visits, List.cons_append]
    split
    · refine (Runs.trace _).bind (Runs.visit node ?_)
      exact (doc.runs_walkSection limit node).bind ((ih []).map _)
    · exact Runs.visit node ((Runs.trace _).bind (ih _))

/-- The walk of a document ends with its page and the entries of its compilation. -/
theorem runs_walk :
    Runs doc limit [] (doc.walk limit (doc.zones.length + 1)) doc.compile doc.visits := by
  have hsections := doc.runs_walkSections limit doc.topLevel []
  have hforest : Runs doc limit [] (doc.walkForest limit (doc.zones.length + 1)) doc.compileForest
      doc.visits := by
    rw [walkForest, compileForest, ← List.append_nil doc.visits]
    exact (Runs.trace _).bind ((Runs.trace _).bind (hsections.bind ((Runs.trace _).map _)))
  exact hforest.map _

end Document

/-! ### More room -/

namespace Walking

variable {α β : Type}

/-- Where the first walk does not break off, the second one goes the same way. -/
def GoesOn (x y : Walking α) : Prop :=
  ∀ before after, x.run before = some after → y.run before = some after

namespace GoesOn

theorem refl (x : Walking α) : GoesOn x x := fun _ _ hrun => hrun

theorem bind {x y : Walking α} {f g : α → Walking β} (hx : GoesOn x y)
    (hf : ∀ a, GoesOn (f a) (g a)) : GoesOn (x >>= f) (y >>= g) := by
  intro before after hrun
  rw [StateT.run_bind, Option.bind_eq_bind, Option.bind_eq_some_iff] at hrun ⊢
  obtain ⟨⟨a, middle⟩, hfirst, hsecond⟩ := hrun
  exact ⟨(a, middle), hx before _ hfirst, hf a middle after hsecond⟩

/-- Walks that begin in the same way. -/
theorem after {x : Walking α} {f g : α → Walking β} (hf : ∀ a, GoesOn (f a) (g a)) :
    GoesOn (x >>= f) (x >>= g) :=
  (refl x).bind hf

/-- Walks that end in the same way. -/
theorem before {x y : Walking α} (hx : GoesOn x y) (f : α → Walking β) :
    GoesOn (x >>= f) (y >>= f) :=
  hx.bind fun a => refl (f a)

end GoesOn

end Walking

namespace Document

open Walking

section Inside

variable {limit : Nat} {zone other : String → Walking Compiled}
  (h : ∀ key, GoesOn (zone key) (other key))

include h

theorem goesOn_walkNode (node : Node) :
    GoesOn (walkNode limit zone node) (walkNode limit other node) := by
  rw [walkNode, walkNode]
  split
  · exact .after fun _ => (h node.contentKey).before _
  · exact .refl _

theorem goesOn_walkNodes (nodes : List Node) :
    GoesOn (walkNodes limit zone nodes) (walkNodes limit other nodes) := by
  induction nodes with
  | nil => exact .refl _
  | cons node nodes ih =>
    rw [walkNodes, walkNodes]
    exact .after fun _ => (goesOn_walkNode h node).bind fun _ => ih.before _

end Inside

variable (doc : Document) (limit : Nat)

section Whole

variable {room other : Nat} (hroom : room ≤ other)

include hroom

/-- With more room a zone is expanded in the same way. -/
theorem goesOn_walkZone (key : String) :
    GoesOn (doc.walkZone limit room key) (doc.walkZone limit other key) := by
  induction room generalizing other key with
  | zero =>
    intro before after hrun
    exact absurd hrun (by simp [walkZone, breakOff, StateT.run])
  | succ room ih =>
    obtain ⟨other, rfl⟩ := Nat.exists_eq_succ_of_ne_zero (Nat.ne_zero_of_lt hroom)
    rw [walkZone, Nat.succ_eq_add_one, walkZone]
    refine .after fun active => ?_
    split
    · exact .refl _
    · split
      · exact .refl _
      · refine .after fun _ => (goesOn_walkNodes (fun inner => ?_) _).before _
        exact ih (Nat.le_of_succ_le_succ hroom) inner

theorem goesOn_walkSection (node : Node) :
    GoesOn (doc.walkSection limit room node) (doc.walkSection limit other node) :=
  .after fun _ => (doc.goesOn_walkZone limit hroom node.contentKey).before _

theorem goesOn_walkSections (nodes : List Node) (loose : List Compiled) :
    GoesOn (doc.walkSections limit room loose nodes)
      (doc.walkSections limit other loose nodes) := by
  induction nodes generalizing loose with
  | nil => exact .refl _
  | cons node nodes ih =>
    rw [walkSections, walkSections]
    split
    · refine .after fun _ => .after fun _ => ?_
      exact (doc.goesOn_walkSection limit hroom node).bind fun _ => (ih []).before _
    · exact .after fun _ => .after fun _ => ih _

/-- With more room a document is compiled in the same way. -/
theorem goesOn_walk : GoesOn (doc.walk limit room) (doc.walk limit other) := by
  have hforest : GoesOn (doc.walkForest limit room) (doc.walkForest limit other) :=
    .after fun _ => .after fun _ => (doc.goesOn_walkSections limit hroom doc.topLevel []).before _
  exact hforest.before _

end Whole

/-! ### Compilation ends -/

/-- Compilation ends on every document, whatever its zones refer to: with more room than there are
zones the walk never breaks off, and it is the same walk for all such room.  The zones that are
being expanded are always different zones of the document, so there are never more of them than
zones; where a zone is expanded the stack is the same after it as before it, and a zone that is
being expanded already is left empty with one warning. -/
theorem walk_ends :
    (∃ walk, (∀ room, doc.zones.length < room →
        (doc.walk limit room).run .start = some (doc.compile.result limit, walk)) ∧
      walk.entries = doc.compile.entries limit ∧ walk.active = [] ∧
      ∀ stack ∈ walk.history, stack.Nodup ∧ (∀ key ∈ stack, doc.zone? key ≠ none) ∧
        stack.length ≤ doc.zones.length) ∧
    ∀ (before : Walk) (key : String), ∃ content after,
      (∀ room, doc.zones.length < room →
        (doc.walkZone limit room key).run before = some (content, after)) ∧
      after.active = before.active ∧
      (key ∈ before.active → content = .empty ∧
        after = { before with entries := before.entries ++
          [⟨.warn, "Zone " ++ key ++ " refers back to itself; left empty", none⟩] }) := by
  refine ⟨?_, fun before key => ?_⟩
  · obtain ⟨history, hrun, hhistory⟩ := doc.runs_walk limit .start rfl
    refine ⟨_, fun room hroom => doc.goesOn_walk limit hroom _ _ hrun, List.nil_append _, rfl,
      fun stack hstack => ?_⟩
    obtain ⟨opened, rfl, hnodup, hopened⟩ := hhistory stack hstack
    rw [List.append_nil]
    -- keys stand on the stack once and belong to zones, so there are no more of them than zones
    have hpresent : ∀ key ∈ opened, doc.zone? key ≠ none := fun key hkey => (hopened key hkey).2
    exact ⟨hnodup, hpresent, length_le_of_nodup hnodup hpresent⟩
  · have hunopened := doc.unopened_lt before.active
    have hzone : Runs doc limit before.active (doc.walkZone limit _ key) _ _ :=
      runs_walkZone hunopened key
    obtain ⟨history, hrun, -⟩ := hzone before rfl
    refine ⟨_, _, fun room hroom => doc.goesOn_walkZone limit hroom key _ _ hrun, rfl,
      fun hkey => ?_⟩
    have hactive : before.active.contains key = true := by simpa using hkey
    rw [walkZone, Walking.run_active_bind, if_pos hactive] at hrun
    obtain ⟨hcontent, hafter⟩ := Prod.mk.inj (Option.some.inj hrun)
    exact ⟨hcontent.symm, hafter.symm⟩

/-- Two sections that hold each other. -/
def circle : Document :=
  ⟨[], [⟨.section, "a", []⟩],
    [("a:content", [⟨.section, "b", []⟩]), ("b:content", [⟨.section, "a", []⟩])]⟩

/-- The walk around a circle ends, and cuts the circle once, where it closes. -/
theorem walk_ends_circle :
    circle.zones.length < 3 ∧
      (∃ walk, (circle.walk 512 3).run .start = some (circle.compile.result 512, walk) ∧
        walk.entries = circle.compile.entries 512 ∧ walk.active = []) ∧
      (circle.compile.entries 512).countP (·.message =
        "Zone a:content refers back to itself; left empty") = 1 := by
  have hroom : circle.zones.length < 3 := by decide
  obtain ⟨⟨walk, hrun, hentries, hactive, -⟩, -⟩ := walk_ends circle 512
  exact ⟨hroom, ⟨walk, hrun 3 hroom, hentries, hactive⟩, by decide +kernel⟩

/-! ### Documents without issues -/

/-- A document has no issues just when its ids are not empty and placed once, and every zone belongs
to a placed node.  The compilation of such a document reports no zone that refers back to itself; it
visits, in list order, each node that can be reached once and no other. -/
theorem valid_iff_and_visited_once :
    (doc.issues = [] ↔ (∀ node ∈ doc.nodes, node.id ≠ "") ∧ (doc.nodes.map Node.id).Nodup ∧
      ∀ entry ∈ doc.zones, ∃ node ∈ doc.nodes, Zone.IsOwnedBy entry.1 node.id) ∧
    (doc.issues = [] → ∀ limit,
      (∀ entry ∈ doc.compile.entries limit, entry.phase = .warn →
        ∀ key, entry.message ≠ "Zone " ++ key ++ " refers back to itself; left empty") ∧
      ∃ walk, (∀ room, doc.zones.length < room →
          (doc.walk limit room).run .start = some (doc.compile.result limit, walk)) ∧
        walk.entries = doc.compile.entries limit ∧ doc.InOrder doc.topLevel walk.visited ∧
        (walk.visited.map Node.id).Nodup ∧ ∀ node, node ∈ walk.visited ↔ doc.Reaches node) := by
  refine ⟨?_, fun hissues limit => ⟨?_, ?_⟩⟩
  · rw [issues_eq_nil_iff]
    refine and_congr_right fun hids => and_congr_right fun _ => ?_
    refine forall₂_congr fun entry _ => exists_congr fun node => and_congr_right fun hnode => ?_
    rw [← Zone.owner_eq_iff, and_iff_right (hids node hnode), eq_comm]
  · intro entry hentry hwarn key hmessage
    exact not_refersBack_compile hissues limit entry hentry ⟨hwarn, key, hmessage⟩
  · have hnodup : (doc.nodes.map Node.id).Nodup := (issues_eq_nil_iff.mp hissues).2.1
    obtain ⟨history, hrun, -⟩ := doc.runs_walk limit .start rfl
    exact ⟨_, fun room hroom => doc.goesOn_walk limit hroom _ _ hrun, List.nil_append _,
      inOrder_visits hnodup, nodup_visits hnodup, fun _ => mem_visits_iff hnodup⟩

/-- A section between two texts, inside a section. -/
def sectionBetween : Document where
  root := []
  topLevel := [⟨.section, "outer", []⟩]
  zones := [("inner:content", [⟨.divider, "line", []⟩]),
    ("outer:content", [⟨.text, "before", []⟩, ⟨.section, "inner", []⟩, ⟨.text, "after", []⟩])]

/-- The section between two texts is placed without an issue, so each node is visited once. -/
theorem visited_once_sectionBetween :
    sectionBetween.issues = [] ∧ sectionBetween.zones.length < 3 ∧
      ∃ walk, (sectionBetween.walk 512 3).run .start =
          some (sectionBetween.compile.result 512, walk) ∧
        walk.entries = sectionBetween.compile.entries 512 ∧
        sectionBetween.InOrder sectionBetween.topLevel walk.visited ∧
        (walk.visited.map Node.id).Nodup ∧
        ∀ node, node ∈ walk.visited ↔ sectionBetween.Reaches node := by
  have hissues : sectionBetween.issues = [] := by decide +kernel
  have hroom : sectionBetween.zones.length < 3 := by decide
  obtain ⟨-, walk, hrun, hvisited⟩ := (valid_iff_and_visited_once sectionBetween).2 hissues 512
  exact ⟨hissues, hroom, walk, hrun 3 hroom, hvisited⟩

end Document

end PageMarkup
