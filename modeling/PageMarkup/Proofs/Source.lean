import Mathlib.Data.List.Infix
import PageMarkup.Proofs.Journal
import PageMarkup.Source

/-!
# How the content of a page is sought

A site is asked by one strategy after another until an answer is content.  To say what a site was
asked, its requests are recorded together with their answers; a site that is recorded answers as it
did.
-/

namespace PageMarkup

open Text

variable {σ : Type}

/-! ### Requests -/

/-- A request to a site, with its answer. -/
inductive Request where
  | fetch (strategy : Strategy) (page : RemotePage) (answer : Except Failure String)
  | publish (number : Option Nat) (title markup : String)
      (answer : Except PublishError Published)

/-- The strategy of an attempt to get at a content, with its answer. -/
def Request.attempt? : Request → Option (Strategy × Except Failure String)
  | fetch strategy _ answer => some (strategy, answer)
  | publish .. => none

/-- The site, which records its requests. -/
def Site.recorded (site : Site σ) : Site (σ × List Request) where
  fetch strategy page state :=
    let (answer, next) := site.fetch strategy page state.1
    (answer, next, state.2 ++ [.fetch strategy page answer])
  publish number title markup state :=
    let (answer, next) := site.publish number title markup state.1
    (answer, next, state.2 ++ [.publish number title markup answer])

/-! ### Entries beside a site -/

namespace Traced

variable {α : Type}

/-- What leaves entries gives its result whatever the site. -/
@[simp] theorem result_liftM (limit : Nat) (x : Traced α) (state : σ) :
    ((liftM x : StateT σ Traced α).run state).result limit = (x.result limit, state) := rfl

/-- What leaves entries leaves them whatever the site. -/
@[simp] theorem entries_liftM (limit : Nat) (x : Traced α) (state : σ) :
    ((liftM x : StateT σ Traced α).run state).entries limit = x.entries limit := by
  simp [entries, bind, pure, StateT.run_monadLift]

end Traced

/-- A computation with a recorded site goes as one with the site itself. -/
structure Follows {α : Type} (recorded : StateT (σ × List Request) Traced α)
    (plain : StateT σ Traced α) : Prop where
  result : ∀ limit state, Prod.map id Prod.fst ((recorded.run state).result limit) =
    (plain.run state.1).result limit
  entries : ∀ limit state, (recorded.run state).entries limit = (plain.run state.1).entries limit

namespace Follows

variable {α β : Type}

theorem pure (a : α) :
    Follows (pure a : StateT (σ × List Request) Traced α) (pure a : StateT σ Traced α) :=
  ⟨fun _ _ => rfl, fun _ _ => rfl⟩

theorem liftM (x : Traced α) :
    Follows (liftM x : StateT (σ × List Request) Traced α) (liftM x : StateT σ Traced α) := by
  constructor
  · exact fun _ _ => rfl
  · intro limit state
    rw [Traced.entries_liftM, Traced.entries_liftM]

theorem bind {recorded : StateT (σ × List Request) Traced α} {plain : StateT σ Traced α}
    {after : α → StateT (σ × List Request) Traced β} {next : α → StateT σ Traced β}
    (h : Follows recorded plain) (hnext : ∀ a, Follows (after a) (next a)) :
    Follows (recorded >>= after) (plain >>= next) := by
  constructor
  · intro limit state
    rw [StateT.run_bind, StateT.run_bind, Traced.result_bind, Traced.result_bind,
      ← h.result limit state]
    exact (hnext _).result limit _
  · intro limit state
    rw [StateT.run_bind, StateT.run_bind, Traced.entries_bind, Traced.entries_bind,
      ← h.result limit state, h.entries limit state]
    exact congrArg _ ((hnext _).entries limit _)

theorem fetch (site : Site σ) (strategy : Strategy) (page : RemotePage) :
    Follows (modifyGet (site.recorded.fetch strategy page))
      (modifyGet (site.fetch strategy page)) :=
  ⟨fun _ _ => rfl, fun _ _ => rfl⟩

theorem publish (site : Site σ) (number : Option Nat) (title markup : String) :
    Follows (modifyGet (site.recorded.publish number title markup))
      (modifyGet (site.publish number title markup)) :=
  ⟨fun _ _ => rfl, fun _ _ => rfl⟩

end Follows

namespace Source

/-- An answer to an attempt. -/
abbrev Attempt := Strategy × Except Failure String

/-- The request that was an attempt. -/
def Attempt.request (page : RemotePage) (attempt : Attempt) : Request :=
  .fetch attempt.1 page attempt.2

/-- The entries of an attempt. -/
def Attempt.entries (limit : Nat) (attempt : Attempt) : List Entry :=
  (noteAttempt attempt.1 (accept attempt.2)).entries limit

/-- The attempt brought content. -/
def Attempt.Brings (attempt : Attempt) (content : String) : Prop :=
  attempt.2 = .ok content ∧ allBlank content.toList = false

theorem accept_eq_ok_iff {answer : Except Failure String} {content : String} :
    accept answer = .ok content ↔ answer = .ok content ∧ allBlank content.toList = false := by
  cases answer with
  | error failure => simp [accept]
  | ok text =>
    cases hblank : allBlank text.toList with
    | true =>
      simp only [accept, hblank, if_true, Except.ok.injEq]
      constructor
      · exact fun h => absurd h (by simp)
      · rintro ⟨rfl, h⟩
        rw [hblank] at h
        exact absurd h (by decide)
    | false =>
      simp only [accept, hblank, Bool.false_eq_true, if_false, Except.ok.injEq]
      constructor
      · rintro rfl
        exact ⟨rfl, hblank⟩
      · exact And.left

/-- An attempt leaves one entry, and it is about a source. -/
theorem Attempt.exists_entries (limit : Nat) (attempt : Attempt) :
    ∃ entry, attempt.entries limit = [entry] ∧ entry.phase = .source := by
  unfold entries
  cases accept attempt.2 with
  | ok content => exact ⟨_, rfl, rfl⟩
  | error failure => exact ⟨_, rfl, rfl⟩

/-! ### Attempts -/

/-- The attempts that some strategies make, up to the first that brings content, and the site after
them. -/
def attempts (site : Site σ) (page : RemotePage) : List Strategy → σ → List Attempt × σ
  | [], state => ([], state)
  | strategy :: strategies, state =>
    let (answer, next) := site.fetch strategy page state
    match accept answer with
    | .ok _ => ([(strategy, answer)], next)
    | .error _ =>
      let (more, last) := attempts site page strategies next
      ((strategy, answer) :: more, last)

/-- The content that some attempts bring first. -/
def found? (made : List Attempt) : Option Source :=
  made.findSome? fun attempt =>
    match accept attempt.2 with
    | .ok content => some ⟨content, attempt.1⟩
    | .error _ => none

/-- The strategies were tried in order: none after one that brought content, and all of them if none
did. -/
structure Tries (strategies : List Strategy) (made : List Attempt) : Prop where
  inOrder : made.map Prod.fst <+: strategies
  stops : ∀ failed attempt rest content, made = failed ++ attempt :: rest →
    attempt.Brings content → rest = []
  exhausts : (∀ attempt ∈ made, ∀ content, ¬attempt.Brings content) →
    made.map Prod.fst = strategies

variable (site : Site σ) (page : RemotePage)

/-- The attempts that were requests are found among them. -/
theorem filterMap_attempt?_map_request (made : List Attempt) :
    (made.map (Attempt.request page)).filterMap Request.attempt? = made := by
  induction made with
  | nil => rfl
  | cons attempt made ih => exact congrArg (attempt :: ·) ih

/-- Each attempt leaves one entry. -/
theorem forall₂_entries (limit : Nat) (made : List Attempt) :
    List.Forall₂ (fun attempt entry => attempt.entries limit = [entry]) made
      (made.flatMap (Attempt.entries limit)) := by
  induction made with
  | nil => exact .nil
  | cons attempt made ih =>
    obtain ⟨entry, hentries, -⟩ := attempt.exists_entries limit
    rw [List.flatMap_cons, hentries]
    exact .cons hentries ih

/-- What attempts bring was brought by one of them. -/
theorem exists_brings_of_found? {made : List Attempt} {source : Source}
    (h : found? made = some source) :
    ∃ attempt ∈ made, attempt.1 = source.strategy ∧ attempt.Brings source.content := by
  obtain ⟨attempt, hattempt, hfound⟩ := List.exists_of_findSome?_eq_some h
  refine ⟨attempt, hattempt, ?_⟩
  split at hfound
  · rename_i content haccept
    obtain rfl := Option.some.inj hfound
    exact ⟨rfl, accept_eq_ok_iff.mp haccept⟩
  · exact absurd hfound (by simp)

/-- If attempts bring nothing none of them brought content. -/
theorem not_brings_of_found? {made : List Attempt} (h : found? made = none) :
    ∀ attempt ∈ made, ∀ content, ¬attempt.Brings content := by
  intro attempt hattempt content hbrings
  have hnone := List.findSome?_eq_none_iff.mp h attempt hattempt
  rw [accept_eq_ok_iff.mpr hbrings] at hnone
  exact absurd hnone (by simp)

/-- The attempts are made in order until one brings content. -/
theorem tries_attempts (strategies : List Strategy) (state : σ) :
    Tries strategies (attempts site page strategies state).1 := by
  induction strategies generalizing state with
  | nil =>
    refine ⟨List.prefix_rfl, fun failed attempt rest content h => ?_, fun _ => rfl⟩
    exact absurd h (by simp [attempts])
  | cons strategy strategies ih =>
    rw [attempts]
    dsimp only
    split
    · rename_i content haccept
      refine ⟨by simp, fun failed attempt rest _ h _ => ?_, fun h => ?_⟩
      · -- the one attempt is the last, so none failed before it
        have hlength : 1 = failed.length + (rest.length + 1) := by
          simpa using congrArg List.length h
        exact List.length_eq_zero_iff.mp (by omega)
      · exact absurd (accept_eq_ok_iff.mp haccept) (h _ List.mem_cons_self content)
    · rename_i failure haccept
      have hrest := ih (site.fetch strategy page state).2
      refine ⟨List.cons_prefix_cons.mpr ⟨rfl, hrest.inOrder⟩, ?_, fun h => ?_⟩
      · intro failed attempt rest content h hbrings
        cases failed with
        | nil =>
          obtain ⟨rfl, -⟩ := List.cons.inj h
          rw [accept_eq_ok_iff.mpr hbrings] at haccept
          exact absurd haccept (by simp)
        | cons first failed =>
          exact hrest.stops failed attempt rest content (List.cons.inj h).2 hbrings
      · have hnone := fun attempt hattempt => h attempt (List.mem_cons_of_mem _ hattempt)
        exact congrArg (strategy :: ·) (hrest.exhausts hnone)

/-- A recorded site makes the same attempts, and records them. -/
theorem attempts_recorded (strategies : List Strategy) (state : σ) (requests : List Request) :
    attempts site.recorded page strategies (state, requests) =
      ((attempts site page strategies state).1, (attempts site page strategies state).2,
        requests ++ (attempts site page strategies state).1.map (Attempt.request page)) := by
  induction strategies generalizing state requests with
  | nil => simp [attempts]
  | cons strategy strategies ih =>
    have hfetch : site.recorded.fetch strategy page (state, requests) =
        ((site.fetch strategy page state).1, (site.fetch strategy page state).2,
          requests ++ [.fetch strategy page (site.fetch strategy page state).1]) := rfl
    rw [attempts, attempts, hfetch]
    dsimp only
    cases accept (site.fetch strategy page state).1 with
    | ok content => rfl
    | error failure =>
      dsimp only
      rw [ih]
      simp [Attempt.request]

/-! ### The search is its attempts -/

/-- The strategies bring what their attempts bring. -/
theorem result_first? (limit : Nat) (strategies : List Strategy) (state : σ) :
    ((first? site page strategies).run state).result limit =
      (found? (attempts site page strategies state).1,
        (attempts site page strategies state).2) := by
  induction strategies generalizing state with
  | nil => rfl
  | cons strategy strategies ih =>
    rw [attempts]
    dsimp only
    split
    · rename_i content haccept
      simp [first?, haccept, found?]
    · rename_i failure haccept
      simp [first?, haccept, found?, ih]

/-- The strategies leave the entries of their attempts. -/
theorem entries_first? (limit : Nat) (strategies : List Strategy) (state : σ) :
    ((first? site page strategies).run state).entries limit =
      (attempts site page strategies state).1.flatMap (Attempt.entries limit) := by
  induction strategies generalizing state with
  | nil => rfl
  | cons strategy strategies ih =>
    rw [attempts]
    dsimp only
    split
    · rename_i content haccept
      simp [first?, haccept, Attempt.entries]
    · rename_i failure haccept
      simp [first?, haccept, Attempt.entries, ih]

/-- A search ends with what the attempts of all strategies bring. -/
theorem result_resolve (limit : Nat) (state : σ) :
    ((resolve site page).run state).result limit =
      (match found? (attempts site page Strategy.all state).1 with
        | some source => .ok source
        | none => .error ⟨page.id⟩,
      (attempts site page Strategy.all state).2) := by
  simp only [resolve, StateT.run_bind, Traced.result_bind, Traced.result_liftM, result_first?]
  cases found? (attempts site page Strategy.all state).1 with
  | none => rfl
  | some source => rfl

/-- A search leaves the entries of its attempts, one before them and one after them. -/
theorem exists_entries_resolve (limit : Nat) (state : σ) :
    ∃ first last, ((resolve site page).run state).entries limit =
        first :: (attempts site page Strategy.all state).1.flatMap (Attempt.entries limit)
          ++ [last] ∧
      first.phase = .init ∧
      last.phase =
        if (found? (attempts site page Strategy.all state).1).isSome then .parse else .error := by
  simp only [resolve, StateT.run_bind, Traced.entries_bind, Traced.result_liftM,
    Traced.entries_liftM, result_first?, entries_first?]
  cases found? (attempts site page Strategy.all state).1 with
  | none => exact ⟨_, _, rfl, rfl, rfl⟩
  | some source => exact ⟨_, _, rfl, rfl, rfl⟩

/-! ### With a recorded site -/

theorem follows_first? (strategies : List Strategy) :
    Follows (first? site.recorded page strategies) (first? site page strategies) := by
  induction strategies with
  | nil => exact .pure none
  | cons strategy strategies ih =>
    refine .bind (.fetch site strategy page) fun answer => .bind (.liftM _) fun _ => ?_
    cases accept answer with
    | ok content => exact .pure _
    | error failure => exact ih

/-- A search goes with a recorded site as with the site itself. -/
theorem follows_resolve : Follows (resolve site.recorded page) (resolve site page) := by
  refine .bind (.liftM _) fun _ => .bind (follows_first? site page _) fun found => ?_
  cases found with
  | none => exact .bind (.liftM _) fun _ => .pure _
  | some source => exact .bind (.liftM _) fun _ => .pure _

end Source

end PageMarkup
