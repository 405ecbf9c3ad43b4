import SqlClient.Proofs.Embedded.Tallies

namespace SqlClient.Embedded

/-!
# Counts that are reported

A statement without columns reports the counter of changes, but only where the total has moved.
So it reports its own count, whatever was run before it, if the counters are what they are
documented to be; and those of the small database are.

* `rows_affected_own` — what is reported of every text, after every history of calls.
* `EmbeddedHandle.work` — the work of a statement of the small database.
* `EmbeddedHandle.library_counts` — its counters are as documented.
-/

namespace EmbeddedHandle

/-! ### Statements -/

/-- The work of a prepared statement where it is run: the rows it changes itself, if it is about
    rows.  There are no triggers, so nothing is changed on its behalf. -/
def work (state : EngineState) (p : Option Prepared) (params : List Value) : Option RowWork :=
  (p.bind fun p => p.count? (params.map Datum.ofParameter) (state.2.content state.1)).map (⟨·, 0⟩)

/-- Only insertions, updates, deletions, and tables that are dropped may be any work. -/
theorem work_eq_none {p : Prepared} (hrows : p.statement.changesRows = false)
    (state : EngineState) (params : List Value) : work state (some p) params = none := by
  rw [work, Option.bind_some, Prepared.count?_eq_none hrows, Option.map_none]

/-- What was prepared leaves its work if it goes well, and else none. -/
theorem runWith_tallied (state : EngineState) (p : Option Prepared) (params : List Value) :
    library.Tallied (standing (work state p params).toList (runWith state p params).2) state
      (runWith state p params).1 := by
  obtain ⟨d, h⟩ := state
  unfold runWith
  split
  · exact .refl library _
  · exact .refl library _
  · rename_i p _
    have htallied := (run_tallied p (params.map Datum.ofParameter) d h).ofLibrary d
      (h.run d p (params.map Datum.ofParameter)).1.1
    dsimp only [work, Option.bind_some]
    generalize h.run d p (params.map Datum.ofParameter) = r at htallied ⊢
    generalize p.count? (params.map Datum.ofParameter) (h.content d) = count at htallied ⊢
    obtain ⟨after, result⟩ := r
    cases result with
    | error c => exact htallied
    | ok effect => cases count <;> exact htallied

/-! ### Texts -/

/-- Preparing changes nothing but what the handle knows. -/
theorem prepare_known (d : Disk) (h : EmbeddedHandle) (text : List Char) :
    ∃ known, (h.prepare d text).1 = { h with known := known } := by
  unfold prepare
  dsimp only
  split
  · exact ⟨_, rfl⟩
  · split
    · exact ⟨_, rfl⟩
    · exact ⟨_, rfl⟩
    · split
      · split
        · exact ⟨_, rfl⟩
        · exact ⟨_, rfl⟩
      · exact ⟨_, rfl⟩

/-- Preparing the only statement of a text changes nothing but what the handle knows, however much
    of the text is prepared for it. -/
private theorem prepareOnly_known (d : Disk) (fuel : Nat) (h : EmbeddedHandle) (text : List Char) :
    ∃ known, (prepareOnly d fuel h text).1 = { h with known := known } := by
  induction fuel generalizing h text with
  | zero => exact ⟨_, rfl⟩
  | succ fuel ih =>
    obtain ⟨known, hknown⟩ := prepare_known d h text
    simp only [prepareOnly]
    generalize h.prepare d text = r at hknown ⊢
    obtain ⟨h₁, result⟩ := r
    obtain rfl : h₁ = { h with known := known } := hknown
    match result with
    | .error l => exact ⟨_, rfl⟩
    | .ok (p, []) => exact ⟨_, rfl⟩
    | .ok (p, c :: rest) =>
      -- the text goes on, so the rest of it is prepared too, to see whether it is blank
      obtain ⟨known', hknown'⟩ := ih { h with known := known } (c :: rest)
      simp only
      generalize prepareOnly d fuel { h with known := known } (c :: rest) = r at hknown' ⊢
      obtain ⟨h₂, result⟩ := r
      obtain rfl : h₂ = { h with known := known' } := hknown'
      match result with
      | .error e => exact ⟨_, rfl⟩
      | .ok none => exact ⟨_, rfl⟩
      | .ok (some _) => exact ⟨_, rfl⟩

private theorem prepareText_tallied (state : EngineState) (sql : String) :
    library.Tallied [] state (prepareText state sql).1 := by
  obtain ⟨known, hknown⟩ :=
    prepareOnly_known state.1 (sql.toList.length + 1) state.2 sql.toList
  unfold prepareText
  generalize prepareOnly state.1 (sql.toList.length + 1) state.2 sql.toList = r at hknown ⊢
  obtain ⟨h₁, result⟩ := r
  obtain rfl : h₁ = { state.2 with known := known } := hknown
  exact ⟨rfl, rfl⟩

/-! ### Batches -/

/-- A statement of a batch leaves what it leaves, though it may be refused because of its first
    row. -/
private theorem step_state (d : Disk) (h : EmbeddedHandle) (p : Prepared) :
    (h.step d p).1 = (h.run d p []).1 := by
  unfold step
  generalize h.run d p [] = r
  match r with
  | (_, .error _) => rfl
  | (_, .ok .nothing) => rfl
  | (_, .ok (.rows [])) => rfl
  | (_, .ok (.rows (.error _ :: _))) => rfl
  | (_, .ok (.rows (.ok _ :: _))) => rfl

/-- So do all statements of a batch, up to the first that fails. -/
theorem batchFrom_tallied (fuel : Nat) (state : EngineState) (text : List Char) :
    ∃ counts, Tallied counts state.2 (batchFrom fuel state text).1.2 := by
  induction fuel generalizing state text with
  | zero => exact ⟨[], .refl state.2⟩
  | succ fuel ih =>
    obtain ⟨d, h⟩ := state
    obtain ⟨known, hknown⟩ := prepare_known d h text
    simp only [batchFrom]
    generalize h.prepare d text = r at hknown ⊢
    obtain ⟨h₁, result⟩ := r
    obtain rfl : h₁ = { h with known := known } := hknown
    match result with
    | .error l => exact ⟨[], rfl, rfl⟩
    | .ok (none, _) => exact ⟨[], rfl, rfl⟩
    | .ok (some p, rest) =>
      have hrun := run_tallied p [] d { h with known := known }
      rw [← step_state] at hrun
      -- the counts of the first statement, and then those of the rest if it went well
      obtain ⟨counts, hfirst⟩ :
          ∃ counts, Tallied counts h (step d { h with known := known } p).1.2 :=
        ⟨_, hrun.changes, hrun.totalChanges⟩
      simp only
      generalize step d { h with known := known } p = r at hfirst ⊢
      obtain ⟨after, result⟩ := r
      match result with
      | .error c => exact ⟨counts, hfirst⟩
      | .ok () =>
        dsimp only
        split
        · exact ⟨counts, hfirst⟩
        · obtain ⟨more, hmore⟩ := ih after rest
          exact ⟨_, hfirst.trans hmore⟩

/-! ### The counters of the small database -/

/-- **The counters of the small database** are what they are documented to be: a statement that
    completes leaves its own count, if it is about rows, and what fails leaves none. -/
theorem library_counts : library.Counts work where
  prepared := prepareText_tallied
  executed {_ _ state p params after changed} _ _ hexecute := by
    have htallied := runWith_tallied state p params
    -- what the call returns is what the statement has counted
    replace hexecute : execute state p params = (after, .ok changed) := hexecute
    unfold execute at hexecute
    generalize runWith state p params = r at hexecute htallied
    obtain ⟨after', result⟩ := r
    cases result with
    | error message => exact absurd hexecute (by simp [Except.map])
    | ok effect =>
      simp only [Except.map, Prod.mk.injEq, Except.ok.injEq] at hexecute
      obtain ⟨rfl, rfl⟩ := hexecute
      exact ⟨rfl, htallied⟩
  failed {state p params after message} hexecute := by
    have htallied := runWith_tallied state p params
    replace hexecute : execute state p params = (after, .error message) := hexecute
    unfold execute at hexecute
    obtain rfl : (runWith state p params).1 = after := congrArg Prod.fst hexecute
    exact ⟨_, htallied⟩
  queried state p params := ⟨_, runWith_tallied state p params⟩
  batched state sql := by
    obtain ⟨counts, hcounts⟩ := batchFrom_tallied (sql.toList.length + 1) state sql.toList
    exact ⟨_, hcounts.ofLibrary state.1 _⟩

end EmbeddedHandle

open EmbeddedHandle

/-- **A statement reports its own count**, whatever was run on its connection before: queries,
    changes of rows or of tables, blank texts and refused ones, one by one and in batches.  The
    counters are about all that was completed since the connection was opened; but what has
    columns reports the rows it returns, any other statement what it has changed itself, and a
    blank text that nothing was changed.  What is refused is so with an error, and has no part
    in what is reported of later texts. -/
theorem rows_affected_own {Conn Stmt : Type} {lib : Library Conn Stmt}
    {work : Conn → Stmt → List Value → Option RowWork} (hcounts : lib.Counts work)
    {start c : Conn} (hist : lib.History start c) :
    (∃ works, lib.Tallied works start c) ∧
    ∀ sql params, lib.Answered work c sql params (lib.submit c sql params) :=
  ⟨hist.tallied hcounts, lib.submit_answered hcounts c⟩

namespace AffectedTest

/-- A new handle of a database in memory. -/
def start : EngineState := (.ofDirectories [], newHandle 1 none false)

def setup : String :=
  "create table p (id integer); insert into p values (1), (2), (3); " ++
    "create table c (pid references p)"

def filled : EngineState := (library.submitBatch start setup).1

def oneChange : String := "update p set id = 4 where id = 3"

/-- Three rows were inserted, and one of them was changed. -/
def changed : EngineState := (library.submit filled oneChange []).1

def dropParent : String := "drop table p"

/-- The number of rows that a text reports then. -/
def reported? (sql : String) : Option Nat :=
  match (library.submit changed sql []).2 with
  | .done r => some r.rowsAffected
  | _ => none

/-- Texts and what they report: a new table, a change that no row passes, a query, a blank text,
    a change of a table that there is not, and a table that is dropped. -/
def texts : List (String × Option Nat) :=
  [("create table u (b text)", some 0), ("update p set id = 5 where id = 9", some 0),
    ("select id from p", some 3), ("-- nothing", some 0), ("insert into u values (1)", none),
    (dropParent, some 3)]

end AffectedTest

open AffectedTest in
/-- The handle keeps the count of the last change, but none of the texts reports it. -/
theorem rows_affected_own_of_texts :
    library.changes changed = 1 ∧ library.totalChanges changed = 4 ∧
    (∃ works, library.Tallied works start changed) ∧
    ∀ q ∈ texts,
      library.Answered work changed q.1 [] (library.submit changed q.1 []) ∧
      reported? q.1 = q.2 := by
  have hist : library.History start changed := .submit oneChange [] (.batch setup .start)
  obtain ⟨htallied, hall⟩ := rows_affected_own library_counts hist
  have hcounts : library.changes changed = 1 ∧ library.totalChanges changed = 4 ∧
      ∀ q ∈ texts, reported? q.1 = q.2 := by
    decide +kernel
  exact ⟨hcounts.1, hcounts.2.1, htallied, fun q hq => ⟨hall q.1 [], hcounts.2.2 q hq⟩⟩

open AffectedTest in
/-- **A table that is dropped** may report rows, though dropping one changes no rows by what it
    says: where foreign keys refer to the table, its rows are deleted first, and are counted. -/
theorem drop_of_parent_reports_rows :
    (library.prepare changed dropParent).2.toOption.map (Option.map (·.statement)) =
      some (some (.dropTable "p")) ∧
    reported? dropParent = some 3 := by
  decide +kernel

end SqlClient.Embedded
