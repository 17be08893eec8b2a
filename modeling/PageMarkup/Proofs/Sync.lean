import PageMarkup.Proofs.Compile.Reports
import PageMarkup.Proofs.Import.Journal
import PageMarkup.Proofs.Source
import PageMarkup.Proofs.Store
import PageMarkup.Sync

/-!
# Runs of exports and imports

Pages are moved one after another, each on the state that the one before it left.  A run does all
that its task says or changes nothing that is stored, and the journal after it tells of this run
alone: of the attempts to get at a content, in their order, and at its end of the success or of the
one error.
-/

namespace PageMarkup

/-! ### The end of a run -/

namespace Traced

/-- Entries without an error, in which those about sources are the given ones. -/
structure Passes (sources entries : List Entry) : Prop where
  sources : entries.filter (·.phase == .source) = sources
  noError : ∀ entry ∈ entries, entry.phase ≠ .error

/-- The phase of the last entry of a run. -/
def lastPhase {ε α : Type} : Except ε α → Phase
  | .ok _ => .success
  | .error _ => .error

/-- Entries end with the success or with the one error that an answer stands for. -/
def Ends {ε α : Type} (answer : Except ε α) (sources entries : List Entry) : Prop :=
  ∃ front last, entries = front ++ [last] ∧ Passes sources front ∧ last.phase = lastPhase answer

variable {ε α : Type} {sources more entries others : List Entry} {answer : Except ε α}

/-- Entries of other phases pass. -/
theorem passes_of_plain (h : ∀ entry ∈ entries, entry.phase ≠ .source ∧ entry.phase ≠ .error) :
    Passes [] entries where
  sources := by
    refine List.filter_eq_nil_iff.mpr fun entry hentry => ?_
    simpa using (h entry hentry).1
  noError entry hentry := (h entry hentry).2

theorem Passes.append (hfirst : Passes sources entries) (hsecond : Passes more others) :
    Passes (sources ++ more) (entries ++ others) where
  sources := by rw [List.filter_append, hfirst.sources, hsecond.sources]
  noError entry hentry :=
    (List.mem_append.mp hentry).elim (hfirst.noError entry) (hsecond.noError entry)

/-- The entries about sources are the given ones. -/
theorem Ends.filter_source (h : Ends answer sources entries) :
    entries.filter (·.phase == .source) = sources := by
  obtain ⟨front, last, rfl, hfront, hlast⟩ := h
  have hother : (last.phase == .source) = false := by
    rw [hlast]
    cases answer <;> rfl
  rw [List.filter_append, hfront.sources]
  simp [hother]

/-- The last entry is that of the answer. -/
theorem Ends.getLast? (h : Ends answer sources entries) :
    entries.getLast?.map Entry.phase = some (lastPhase answer) := by
  obtain ⟨front, last, rfl, -, hlast⟩ := h
  simp [hlast]

/-- There is one error where the answer is an error, and none where it is not. -/
theorem Ends.countP_error (h : Ends answer sources entries) :
    entries.countP (·.phase == .error) = if answer.isOk then 0 else 1 := by
  obtain ⟨front, last, rfl, hfront, hlast⟩ := h
  have hnone : front.countP (·.phase == .error) = 0 := by
    simpa [List.countP_eq_zero] using hfront.noError
  rw [List.countP_append, hnone, List.countP_singleton, hlast]
  cases answer <;> rfl

/-- What is made of a result ends as it does. -/
theorem Ends.map {β : Type} (h : Ends answer sources entries) (f : α → β) :
    Ends (answer.map f) sources entries := by
  obtain ⟨front, last, hentries, hfront, hlast⟩ := h
  refine ⟨front, last, hentries, hfront, hlast.trans ?_⟩
  cases answer with
  | ok a => rfl
  | error error => rfl

/-- An entry alone is an end. -/
theorem ends_single {last : Entry} (h : last.phase = lastPhase answer) :
    Ends answer [] [last] :=
  ⟨[], last, rfl, passes_of_plain (by simp), h⟩

/-- What passes before an end belongs to it. -/
theorem Ends.append (hfirst : Passes sources entries) (hsecond : Ends answer [] others) :
    Ends answer sources (entries ++ others) := by
  obtain ⟨front, last, rfl, hfront, hlast⟩ := hsecond
  refine ⟨entries ++ front, last, (List.append_assoc ..).symm, ?_, hlast⟩
  simpa using hfirst.append hfront

/-- A computation that is run on a journal just reset. -/
theorem runOn_reset {α : Type} (x : Traced α) (journal : Journal) :
    x.runOn journal.reset = (x.result journal.limit,
      { journal.reset with entries := x.entries journal.limit }) := rfl

end Traced

/-- The entry is about no source and is no error. -/
def Entry.IsPlain (entry : Entry) : Prop :=
  entry.phase ≠ .source ∧ entry.phase ≠ .error

/-- Entries of these phases are plain. -/
theorem Entry.isPlain_of_mem {phases : List Phase} (h : .source ∉ phases ∧ .error ∉ phases)
    {phase : Phase} (hphase : phase ∈ phases) (message : String) (data : Option Json) :
    Entry.IsPlain ⟨phase, message, data⟩ :=
  ⟨fun hsource => h.1 (hsource ▸ hphase), fun herror => h.2 (herror ▸ hphase)⟩

theorem Entry.isPlain_of_filter (entry : Entry) (h : entry.phase = .filter) : entry.IsPlain := by
  rw [IsPlain, h]
  decide

namespace Document

/-- A compilation passes without an entry about a source. -/
theorem passes_compile (doc : Document) (limit : Nat) :
    Traced.Passes [] (doc.compile.entries limit) := by
  refine Traced.passes_of_plain (doc.every_compile_of_reports (P := Entry.IsPlain) ?_
    Entry.isPlain_of_filter (fun message => ?_) limit)
  · exact fun hphase => Entry.isPlain_of_mem (by decide) hphase
  · have hwarn : Phase.warn ∈ [Phase.warn] := List.mem_singleton_self _
    exact Entry.isPlain_of_mem (by decide) hwarn message none

end Document

namespace Traced

/-- The last entry of a computation is in a phase. -/
def HasLast {α : Type} (phase : Phase) (x : Traced α) : Prop :=
  ∀ limit, ∃ front last, x.entries limit = front ++ [last] ∧ last.phase = phase

/-- The last entry of two steps is that of the second. -/
theorem HasLast.bind {α β : Type} {phase : Phase} (x : Traced α) {f : α → Traced β}
    (hf : ∀ a, (f a).HasLast phase) : (x >>= f).HasLast phase := by
  intro limit
  obtain ⟨front, last, hentries, hlast⟩ := hf (x.result limit) limit
  exact ⟨x.entries limit ++ front, last, by simp [hentries], hlast⟩

/-- What only makes a result leaves a note the last entry. -/
theorem hasLast_note_pure {α : Type} (phase : Phase) (message : String) (a : α) :
    (do note phase message; return a).HasLast phase :=
  fun _ => ⟨[], ⟨phase, message, none⟩, rfl, rfl⟩

end Traced

namespace Import

/-- The import of a page leaves plain entries. -/
theorem every_page (content : String) : (page content).Every Entry.IsPlain :=
  every_pageAs_of_filter (fun hphase => Entry.isPlain_of_mem (by decide) hphase)
    Entry.isPlain_of_filter _ content

/-- The import of a page passes without an entry about a source. -/
theorem passes_page (content : String) (limit : Nat) :
    Traced.Passes [] ((page content).entries limit) :=
  Traced.passes_of_plain (every_page content limit)

/-- The import of a page ends with a success. -/
theorem ends_page {ε α : Type} (a : α) (content : String) (limit : Nat) :
    Traced.Ends (.ok a : Except ε α) [] ((page content).entries limit) := by
  have hlast : (page content).HasLast .success :=
    .bind _ fun _ => .bind _ fun _ => .bind _ fun _ => Traced.hasLast_note_pure _ _ _
  obtain ⟨front, last, hentries, hlast⟩ := hlast limit
  refine ⟨front, last, hentries, Traced.passes_of_plain fun entry hentry => ?_, hlast⟩
  exact every_page content limit entry (hentries ▸ List.mem_append_left _ hentry)

end Import

namespace Source

/-- The entries of attempts are those about sources. -/
theorem passes_attempts (limit : Nat) (made : List Attempt) :
    Traced.Passes (made.flatMap (Attempt.entries limit))
      (made.flatMap (Attempt.entries limit)) := by
  induction made with
  | nil => exact ⟨rfl, by simp⟩
  | cons attempt made ih =>
    obtain ⟨entry, hentries, hphase⟩ := attempt.exists_entries limit
    refine Traced.Passes.append ⟨?_, ?_⟩ ih
    · simp [hentries, hphase]
    · simp [hentries, hphase]

variable {σ : Type} (site : Site σ) (page : RemotePage) (limit : Nat) (state : σ)

/-- A search that finds content passes. -/
theorem passes_resolve {source : Source}
    (h : found? (attempts site page Strategy.all state).1 = some source) :
    Traced.Passes ((attempts site page Strategy.all state).1.flatMap (Attempt.entries limit))
      (((resolve site page).run state).entries limit) := by
  obtain ⟨first, last, hentries, hfirst, hlast⟩ := exists_entries_resolve site page limit state
  rw [h] at hlast
  have hbefore : Traced.Passes [] [first] :=
    Traced.passes_of_plain (by simp [hfirst])
  have hafter : Traced.Passes [] [last] :=
    Traced.passes_of_plain (by simp [hlast])
  simpa [hentries] using (hbefore.append (passes_attempts limit _)).append hafter

/-- A search that finds no content ends with an error. -/
theorem ends_resolve {ε α : Type} (error : ε)
    (h : found? (attempts site page Strategy.all state).1 = none) :
    Traced.Ends (.error error : Except ε α)
      ((attempts site page Strategy.all state).1.flatMap (Attempt.entries limit))
      (((resolve site page).run state).entries limit) := by
  obtain ⟨first, last, hentries, hfirst, hlast⟩ := exists_entries_resolve site page limit state
  rw [h] at hlast
  have hbefore : Traced.Passes [] [first] :=
    Traced.passes_of_plain (by simp [hfirst])
  refine ⟨_, last, hentries, ?_, hlast⟩
  simpa using hbefore.append (passes_attempts limit _)

end Source

/-! ### Exports and imports -/

namespace Sync

variable {σ κ : Type}

section Pages

variable (site : Site σ) (store : Store κ) (docs : κ) (limit : Nat) (state : σ)

section Export

variable (id : String) (number : Option Nat) (title : String)

/-- An export without a stored document asks the site for nothing. -/
theorem result_exportPage_of_error {error : StoreError} (h : store.load id docs = .error error) :
    ((exportPage site store docs id number title).run state).result limit =
      (.error (.store error), state) := by
  rw [exportPage, h]
  rfl

/-- An export publishes the markup of the stored document. -/
theorem result_exportPage_of_ok {doc : Document} (h : store.load id docs = .ok doc) :
    ((exportPage site store docs id number title).run state).result limit =
      let markup := doc.compile.result limit
      let (answer, next) := site.publish number title markup state
      (match answer with
        | .error error => .error (.publish error)
        | .ok published => .ok ⟨published, Text.size markup.toList⟩, next) := by
  rw [exportPage, h]
  simp only [StateT.run_bind, Traced.result_bind, Traced.result_liftM, StateT.run_modifyGet,
    Traced.result_pure]
  cases (site.publish number title (doc.compile.result limit) state).1 with
  | error error => rfl
  | ok published => rfl

/-- The entries of an export end with its answer. -/
theorem ends_exportPage :
    Traced.Ends (((exportPage site store docs id number title).run state).result limit).1 []
      (((exportPage site store docs id number title).run state).entries limit) := by
  cases hload : store.load id docs with
  | error error =>
    rw [result_exportPage_of_error (h := hload), exportPage, hload]
    exact Traced.ends_single rfl
  | ok doc =>
    rw [result_exportPage_of_ok (h := hload), exportPage, hload]
    simp only [StateT.run_bind, Traced.entries_bind, Traced.result_liftM, Traced.entries_liftM,
      StateT.run_modifyGet, Traced.result_pure, Traced.entries_pure]
    refine Traced.Ends.append (doc.passes_compile limit) ?_
    cases (site.publish number title (doc.compile.result limit) state).1 with
    | error error => exact Traced.ends_single rfl
    | ok published => exact Traced.ends_single rfl

end Export

section Import

variable (page : RemotePage) (id : String)

/-- What an import does with the content that was found. -/
def keep (source : Source) : Except Error (Imported × κ) :=
  let doc := (Import.page source.content).result limit
  match store.save id doc docs with
  | .error error => .error (.store error)
  | .ok after => .ok (⟨source.strategy, source.isMarkup, doc.nodes.length⟩, after)

/-- An import keeps what the first attempt with content brings. -/
theorem result_importPage :
    ((importPage site store docs page id).run state).result limit =
      (match Source.found? (Source.attempts site page Strategy.all state).1 with
        | none => .error (.source ⟨page.id⟩)
        | some source => keep store docs limit id source,
      (Source.attempts site page Strategy.all state).2) := by
  rw [importPage, StateT.run_bind, Traced.result_bind, Source.result_resolve]
  generalize Source.attempts site page Strategy.all state = tried
  obtain ⟨made, next⟩ := tried
  cases Source.found? made with
  | none => simp only [StateT.run_pure, Traced.result_pure]
  | some source =>
    have hpage : Import.pageAs source.isMarkup source.content = Import.page source.content := by
      rw [Import.page, Source.isMarkup]
    dsimp only
    unfold keep
    rw [hpage]
    rw [StateT.run_bind, Traced.result_bind, Traced.result_liftM]
    dsimp only
    generalize (Import.page source.content).result limit = doc
    cases store.save id doc docs with
    | error error =>
      rw [StateT.run_bind, Traced.result_bind, Traced.result_liftM, StateT.run_pure,
        Traced.result_pure]
    | ok after => rw [StateT.run_pure, Traced.result_pure]

/-- The entries of an import end with its answer. -/
theorem ends_importPage :
    Traced.Ends (((importPage site store docs page id).run state).result limit).1
      ((Source.attempts site page Strategy.all state).1.flatMap (Source.Attempt.entries limit))
      (((importPage site store docs page id).run state).entries limit) := by
  rw [result_importPage]
  simp only [importPage, StateT.run_bind, Traced.entries_bind, Source.result_resolve]
  cases hfound : Source.found? (Source.attempts site page Strategy.all state).1 with
  | none =>
    simp only [StateT.run_pure, Traced.entries_pure, List.append_nil]
    exact Source.ends_resolve site page limit state _ hfound
  | some source =>
    refine Traced.Ends.append (Source.passes_resolve site page limit state hfound) ?_
    have hpage : Import.pageAs source.isMarkup source.content = Import.page source.content := by
      rw [Import.page, Source.isMarkup]
    simp only [StateT.run_bind, Traced.entries_bind, Traced.entries_liftM, Traced.result_liftM,
      keep, hpage]
    cases store.save id ((Import.page source.content).result limit) docs with
    | error error =>
      exact Traced.Ends.append (Import.passes_page source.content limit) (Traced.ends_single rfl)
    | ok after =>
      simpa only [StateT.run_pure, Traced.entries_pure, List.append_nil] using
        Import.ends_page _ source.content limit

end Import

/-- An export goes with a recorded site as with the site itself. -/
theorem follows_exportPage (id : String) (number : Option Nat) (title : String) :
    Follows (exportPage site.recorded store docs id number title)
      (exportPage site store docs id number title) := by
  rw [exportPage, exportPage]
  cases store.load id docs with
  | error error => exact .bind (.liftM _) fun _ => .pure _
  | ok doc =>
    refine .bind (.liftM _) fun markup => .bind (.publish site number title markup) fun answer => ?_
    cases answer with
    | error error => exact .bind (.liftM _) fun _ => .pure _
    | ok published => exact .bind (.liftM _) fun _ => .pure _

/-- An import goes with a recorded site as with the site itself. -/
theorem follows_importPage (page : RemotePage) (id : String) :
    Follows (importPage site.recorded store docs page id) (importPage site store docs page id) := by
  refine .bind (Source.follows_resolve site page) fun found => ?_
  cases found with
  | error error => exact .pure _
  | ok source =>
    refine .bind (.liftM _) fun doc => ?_
    cases store.save id doc docs with
    | error error => exact .bind (.liftM _) fun _ => .pure _
    | ok after => exact .pure _

end Pages

/-! ### Runs -/

/-- A task that was run, with the states before and after it. -/
structure Run (σ κ : Type) where
  task : Task
  before : State σ κ
  answer : Except Error Outcome
  after : State σ κ

/-- The runs of some tasks, each on the state that the one before it left. -/
def runs (site : Site σ) (store : Store κ) : List Task → State σ κ → List (Run σ κ)
  | [], _ => []
  | task :: tasks, state =>
    let (answer, after) := task.run site store state
    ⟨task, state, answer, after⟩ :: runs site store tasks after

/-- The state of the site itself, without what was recorded. -/
def State.forget (state : State (σ × List Request) κ) : State σ κ :=
  ⟨state.site.1, state.docs, state.journal⟩

/-- The run on the site itself. -/
def Run.forget (run : Run (σ × List Request) κ) : Run σ κ :=
  ⟨run.task, run.before.forget, run.answer, run.after.forget⟩

namespace Run

/-- The limit of the journal. -/
def limit (run : Run σ κ) : Nat :=
  run.before.journal.limit

/-- An export kept what is stored, and it asked the site once, to publish the markup of the stored
document, or not at all where there is none. -/
structure Exports (store : Store κ) (id : String) (number : Option Nat) (title : String)
    (run : Run σ κ) (made : List Request) : Prop where
  kept : run.after.docs = run.before.docs
  silent : ∀ error, store.load id run.before.docs = .error error → made = []
  publishes : ∀ doc, store.load id run.before.docs = .ok doc →
    ∃ answer, made = [.publish number title (doc.compile.result run.limit) answer]

/-- The document that a content names was stored under an id, and nothing else has changed. -/
structure Stored (store : Store κ) (id content : String) (run : Run σ κ) : Prop where
  answered : ∃ outcome, run.answer = .ok outcome
  saved : store.save id ((Import.page content).result run.limit) run.before.docs =
    .ok run.after.docs
  loaded : store.load id run.after.docs = .ok ((Import.page content).result run.limit)
  others : ∀ other, other ≠ id →
    store.load other run.after.docs = store.load other run.before.docs

/-- Nothing was stored, since there was no content or the document could not be saved. -/
structure Kept (store : Store κ) (id : String) (content? : Option String) (run : Run σ κ) :
    Prop where
  answered : ∃ error, run.answer = .error error
  kept : run.after.docs = run.before.docs
  reason : ∀ content ∈ content?, ∃ error,
    store.save id ((Import.page content).result run.limit) run.before.docs = .error error

/-- An import asked the site for the content of the page, by one strategy after another until one
brought it, and stored what it names or kept what is stored. -/
def Imports (store : Store κ) (page : RemotePage) (id : String) (run : Run σ κ)
    (made : List Request) : Prop :=
  ∃ attempts : List Source.Attempt, made = attempts.map (Source.Attempt.request page) ∧
    Source.Tries Strategy.all attempts ∧
    ((∃ attempt ∈ attempts, ∃ content, attempt.Brings content ∧
        (run.Stored store id content ∨ run.Kept store id (some content))) ∨
      (∀ attempt ∈ attempts, ∀ content, ¬attempt.Brings content) ∧ run.Kept store id none)

/-- The run did what its task says, with some requests. -/
def Performs (store : Store κ) (run : Run σ κ) (made : List Request) : Prop :=
  match run.task with
  | .exporting id number title => run.Exports store id number title made
  | .importing page id => run.Imports store page id made

/-- The journal after the run tells of this run alone: it has an entry for each attempt to get at a
content, in their order, and ends with the only error or, where there is none, with a success. -/
structure IsTraced (site : Site σ) (store : Store κ) (run : Run σ κ) (made : List Request) :
    Prop where
  fresh : ∀ journal : Journal, journal.limit = run.limit →
    (run.task.run site store { run.before with journal := journal }).2.journal.entries =
      run.after.journal.entries
  sources : List.Forall₂ (fun attempt entry => Source.Attempt.entries run.limit attempt = [entry])
    (made.filterMap Request.attempt?)
    (run.after.journal.entries.filter (·.phase == .source))
  failed : (∃ error, run.answer = .error error) ↔ run.after.journal.count .error = 1
  lastError : run.after.journal.count .error = 1 →
    run.after.journal.entries.getLast?.map Entry.phase = some .error
  succeeded : (∃ outcome, run.answer = .ok outcome) ↔ run.after.journal.count .error = 0 ∧
    run.after.journal.entries.getLast?.map Entry.phase = some .success

end Run

/-- The attempts to get at a content in the run of a task. -/
def Task.attempts (site : Site σ) (task : Task) (state : σ) : List Source.Attempt :=
  match task with
  | .exporting .. => []
  | .importing page _ => (Source.attempts site page Strategy.all state).1

variable (site : Site σ) (store : Store κ)

/-- The entries of a task. -/
def Task.entries (task : Task) (state : State σ κ) : List Entry :=
  match task with
  | .exporting id number title =>
    ((exportPage site store state.docs id number title).run state.site).entries state.journal.limit
  | .importing page id =>
    ((importPage site store state.docs page id).run state.site).entries state.journal.limit

section Outcomes

variable {site store} (state : State σ κ) {next : σ}

/-- An export leaves the stored documents as they are. -/
theorem Task.run_exporting {id title : String} {number : Option Nat}
    {answer : Except Error Exported}
    (h : ((exportPage site store state.docs id number title).run state.site).result
      state.journal.limit = (answer, next)) :
    (Task.exporting id number title).run site store state =
      (answer.map .exported, ⟨next, state.docs, { state.journal.reset with
        entries := (Task.exporting id number title).entries site store state }⟩) := by
  rw [run, Traced.runOn_reset, h]
  rfl

/-- An import that fails leaves the stored documents as they are. -/
theorem Task.run_importing_of_error {page : RemotePage} {id : String} {error : Error}
    (h : ((importPage site store state.docs page id).run state.site).result
      state.journal.limit = (.error error, next)) :
    (Task.importing page id).run site store state =
      (.error error, ⟨next, state.docs, { state.journal.reset with
        entries := (Task.importing page id).entries site store state }⟩) := by
  rw [run, Traced.runOn_reset, h]
  rfl

/-- An import that succeeds leaves the documents that it gives. -/
theorem Task.run_importing_of_ok {page : RemotePage} {id : String} {imported : Imported} {docs : κ}
    (h : ((importPage site store state.docs page id).run state.site).result
      state.journal.limit = (.ok (imported, docs), next)) :
    (Task.importing page id).run site store state =
      (.ok (.imported imported), ⟨next, docs, { state.journal.reset with
        entries := (Task.importing page id).entries site store state }⟩) := by
  rw [run, Traced.runOn_reset, h]
  rfl

end Outcomes

variable (task : Task)

/-- The journal after a task is one of its own. -/
theorem Task.journal_run (state : State σ κ) :
    (task.run site store state).2.journal =
      { state.journal.reset with entries := task.entries site store state } := by
  cases task with
  | exporting id number title => rw [run_exporting state rfl]
  | importing page id =>
    match h : ((importPage site store state.docs page id).run state.site).result
      state.journal.limit with
    | (.error error, next) => rw [run_importing_of_error state h]
    | (.ok (imported, docs), next) => rw [run_importing_of_ok state h]

/-- The entries of a task end with its answer. -/
theorem Task.ends_run (state : State σ κ) :
    Traced.Ends (task.run site store state).1
      ((task.attempts site state.site).flatMap (Source.Attempt.entries state.journal.limit))
      (task.run site store state).2.journal.entries := by
  rw [journal_run]
  cases task with
  | exporting id number title =>
    rw [run_exporting state rfl]
    exact (ends_exportPage site store state.docs _ state.site id number title).map _
  | importing page id =>
    have hends := ends_importPage site store state.docs state.journal.limit state.site page id
    match h : ((importPage site store state.docs page id).run state.site).result
      state.journal.limit with
    | (.error error, next) =>
      rw [run_importing_of_error state h]
      rw [h] at hends
      exact hends
    | (.ok (imported, docs), next) =>
      rw [run_importing_of_ok state h]
      rw [h] at hends
      exact hends

/-- A recorded site answers tasks as it did. -/
theorem Task.run_recorded (state : State (σ × List Request) κ) :
    Prod.map id State.forget (task.run site.recorded store state) =
      task.run site store state.forget := by
  cases task with
  | exporting id number title =>
    have hfollows := follows_exportPage site store state.docs id number title
    have hentries := hfollows.entries state.journal.limit state.site
    rw [run_exporting state rfl,
      run_exporting state.forget (hfollows.result state.journal.limit state.site).symm]
    simp only [Prod.map_apply, State.forget, entries, hentries]
    rfl
  | importing page id =>
    have hfollows := follows_importPage site store state.docs page id
    have hentries := hfollows.entries state.journal.limit state.site
    have hresult := (hfollows.result state.journal.limit state.site).symm
    match h : ((importPage site.recorded store state.docs page id).run state.site).result
      state.journal.limit with
    | (.error error, next) =>
      rw [h, Prod.map_apply, id_eq] at hresult
      rw [run_importing_of_error state h, run_importing_of_error state.forget hresult]
      simp only [Prod.map_apply, State.forget, entries, hentries, id_eq]
    | (.ok (imported, docs), next) =>
      rw [h, Prod.map_apply, id_eq] at hresult
      rw [run_importing_of_ok state h, run_importing_of_ok state.forget hresult]
      simp only [Prod.map_apply, State.forget, entries, hentries, id_eq]

section Recorded

variable (state : State (σ × List Request) κ)

/-- An export asks the site once where there is a document, and never else. -/
theorem Task.exports_run (id title : String) (number : Option Nat) :
    ∃ made, ((exporting id number title).run site.recorded store state).2.site.2 =
        state.site.2 ++ made ∧
      made.filterMap Request.attempt? = [] ∧
      Run.Exports store id number title
        ⟨exporting id number title, state,
          ((exporting id number title).run site.recorded store state).1,
          ((exporting id number title).run site.recorded store state).2⟩ made := by
  cases hload : store.load id state.docs with
  | error error =>
    rw [run_exporting state (result_exportPage_of_error (h := hload) ..)]
    refine ⟨[], (List.append_nil _).symm, rfl, rfl, fun _ _ => rfl, fun doc hdoc => ?_⟩
    exact absurd (hload.symm.trans hdoc) (by simp)
  | ok doc =>
    rw [run_exporting state (result_exportPage_of_ok (h := hload) ..)]
    refine ⟨[.publish number title (doc.compile.result state.journal.limit) _], rfl, rfl, rfl,
      fun error herror => ?_, fun other hother => ?_⟩
    · exact absurd (hload.symm.trans herror) (by simp)
    · obtain rfl := Except.ok.inj (hload.symm.trans hother)
      exact ⟨_, rfl⟩

/-- An import asks the site as its strategies say, and stores what the first content names. -/
theorem Task.imports_run (hstore : store.IsMap) (page : RemotePage) (id : String) :
    ∃ made, ((importing page id).run site.recorded store state).2.site.2 = state.site.2 ++ made ∧
      made.filterMap Request.attempt? = (importing page id).attempts site.recorded state.site ∧
      Run.Imports store page id
        ⟨importing page id, state, ((importing page id).run site.recorded store state).1,
          ((importing page id).run site.recorded store state).2⟩ made := by
  have htries := Source.tries_attempts site page Strategy.all state.site.1
  have hattempts := Source.attempts_recorded site page Strategy.all state.site.1 state.site.2
  have hresult := result_importPage site.recorded store state.docs state.journal.limit state.site
    page id
  rw [attempts, hattempts]
  rw [hattempts] at hresult
  generalize Source.attempts site page Strategy.all state.site.1 = tried at htries hresult
  obtain ⟨made, next⟩ := tried
  have hmade := Source.filterMap_attempt?_map_request page made
  cases hfound : Source.found? made with
  | none =>
    rw [hfound] at hresult
    rw [run_importing_of_error state hresult]
    refine ⟨made.map (Source.Attempt.request page), rfl, hmade, made, rfl, htries, .inr ?_⟩
    exact ⟨Source.not_brings_of_found? hfound, ⟨_, rfl⟩, rfl, by simp⟩
  | some source =>
    obtain ⟨attempt, hattempt, -, hbrings⟩ := Source.exists_brings_of_found? hfound
    rw [hfound] at hresult
    dsimp only at hresult
    unfold keep at hresult
    -- the content is there, so the answer hangs on whether its document can be saved
    cases hsave : store.save id ((Import.page source.content).result state.journal.limit)
      state.docs with
    | error error =>
      simp only [hsave] at hresult
      rw [run_importing_of_error state hresult]
      refine ⟨made.map (Source.Attempt.request page), rfl, hmade, made, rfl, htries, .inl ?_⟩
      refine ⟨attempt, hattempt, source.content, hbrings, .inr ⟨⟨_, rfl⟩, rfl, ?_⟩⟩
      rintro _ ⟨⟩
      exact ⟨error, hsave⟩
    | ok after =>
      simp only [hsave] at hresult
      rw [run_importing_of_ok state hresult]
      refine ⟨made.map (Source.Attempt.request page), rfl, hmade, made, rfl, htries, .inl ?_⟩
      refine ⟨attempt, hattempt, source.content, hbrings, .inl ⟨⟨_, rfl⟩, hsave, ?_, ?_⟩⟩
      · exact hstore.load_save hsave
      · exact fun other hne => hstore.load_save_of_ne hsave hne

end Recorded

/-- A task does what it says, with requests that are recorded. -/
theorem Task.performs_run (hstore : store.IsMap) (state : State (σ × List Request) κ) :
    ∃ made, (task.run site.recorded store state).2.site.2 = state.site.2 ++ made ∧
      made.filterMap Request.attempt? = task.attempts site.recorded state.site ∧
      Run.Performs store ⟨task, state, (task.run site.recorded store state).1,
        (task.run site.recorded store state).2⟩ made := by
  cases task with
  | exporting id number title => exact exports_run site store state id title number
  | importing page id => exact imports_run site store state hstore page id

/-- The journal after a task tells of its attempts and of its answer. -/
theorem Task.isTraced_run (state : State σ κ) {made : List Request}
    (hmade : made.filterMap Request.attempt? = task.attempts site state.site) :
    Run.IsTraced site store ⟨task, state, (task.run site store state).1,
      (task.run site store state).2⟩ made := by
  have hends := task.ends_run site store state
  have hcount := hends.countP_error
  have hlast := hends.getLast?
  constructor
  · intro journal hjournal
    rw [journal_run, journal_run]
    cases task with
    | exporting id number title => simp only [entries, hjournal, Run.limit]
    | importing page id => simp only [entries, hjournal, Run.limit]
  · rw [hmade, hends.filter_source]
    exact Source.forall₂_entries _ _
  all_goals
    simp only [Journal.count, hcount, hlast]
    cases (task.run site store state).1 with
    | error error => simp [Traced.lastPhase, Except.isOk, Except.toBool]
    | ok outcome => simp [Traced.lastPhase, Except.isOk, Except.toBool]

/-- A sequence of exports and imports does, one after another, what its tasks say, and nothing
else: an export publishes the markup of a stored document, and an import stores what a content
names that the site has brought.  Each journal tells of its run alone.  That requests are recorded
changes no run. -/
theorem runs_areWhole (hstore : store.IsMap) (tasks : List Task)
    (start : State (σ × List Request) κ) :
    (runs site.recorded store tasks start).map Run.forget = runs site store tasks start.forget ∧
      ∀ run ∈ runs site.recorded store tasks start,
        ∃ made, run.after.site.2 = run.before.site.2 ++ made ∧ run.Performs store made ∧
          run.IsTraced site.recorded store made := by
  induction tasks generalizing start with
  | nil => exact ⟨rfl, by simp [runs]⟩
  | cons task tasks ih =>
    have hrecorded := task.run_recorded site store start
    obtain ⟨hforget, hrest⟩ := ih (task.run site.recorded store start).2
    constructor
    · rw [runs, runs, ← hrecorded, List.map_cons, hforget]
      rfl
    · intro run hrun
      rcases List.mem_cons.mp hrun with rfl | hrun
      · obtain ⟨made, hrequests, hattempts, hperforms⟩ := task.performs_run site store hstore start
        exact ⟨made, hrequests, hperforms, task.isTraced_run site.recorded store start hattempts⟩
      · exact hrest run hrun

/-- A site that shows its pages to visitors only, and takes whatever is published. -/
def showcase : Site Nat where
  fetch strategy _ next :=
    match strategy with
    | .rpc => (.error (.unsupported "XML-RPC"), next)
    | .rest => (.ok " ", next)
    | .scrape => (.ok "<p>Hi</p>", next)
  publish _ _ _ next := (.ok ⟨next, .page⟩, next + 1)

/-- One page is imported and published again, and another is not there to be published. -/
theorem runs_areWhole_showcase :
    let tasks : List Task := [.importing { id := 7 } "about", .exporting "about" none "About",
      .exporting "contact" none "Contact"]
    let start : State (Nat × List Request) (List (String × Document)) :=
      ⟨(1, []), [], ⟨512, 3, [⟨.error, "All acquisition strategies failed for page 7", none⟩]⟩⟩
    Store.dictionary.IsMap ∧
      (runs showcase.recorded .dictionary tasks start).map (·.answer.isOk) = [true, true, false] ∧
      (runs showcase.recorded .dictionary tasks start).map Run.forget =
        runs showcase .dictionary tasks start.forget ∧
      ∀ run ∈ runs showcase.recorded .dictionary tasks start,
        ∃ made, run.after.site.2 = run.before.site.2 ++ made ∧ run.Performs .dictionary made ∧
          run.IsTraced showcase.recorded .dictionary made :=
  ⟨Store.isMap_dictionary, by decide +kernel, runs_areWhole showcase _ Store.isMap_dictionary _ _⟩

end Sync

end PageMarkup
