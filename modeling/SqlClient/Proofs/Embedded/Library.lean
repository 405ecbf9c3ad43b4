import SqlClient.Embedded.Library
import SqlClient.Proofs.ResultSet.Rows
import SqlClient.Proofs.Table.Conversion

namespace SqlClient.Embedded

/-!
# What statements report

The counters of a library are about everything that a connection has done.  A handle makes of
them what a single statement has done, given what the documentation says of the counters.

* `Library.Tallied` — what completed work leaves of the counters.
* `Library.Counts` — what is documented.
* `Library.Answered` — what comes of a text, and why.
* `Library.History` — the states that a connection comes to by calls.
* `Library.submit_answered`, `Library.History.tallied` — a single call, and all calls so far.
-/

/-- Work on rows that was completed: how many rows a statement has changed itself, and how many
    were changed on its behalf, as by triggers and by what foreign keys ask for. -/
structure RowWork where
  own : Nat
  others : Nat

namespace Library

variable {Conn Stmt : Type} {lib : Library Conn Stmt} {c c' c'' : Conn}

/-! ### The counters -/

/-- Between two states of a connection this work was completed, in the order of time.  The
    counter of changes keeps what the last work has changed itself; the total grows by all the
    rows that were changed. -/
structure Tallied (lib : Library Conn Stmt) (works : List RowWork) (c c' : Conn) : Prop where
  changes : lib.changes c' = (works.getLast?.map RowWork.own).getD (lib.changes c)
  totalChanges :
    lib.totalChanges c' = lib.totalChanges c + (works.map fun w => w.own + w.others).sum

/-- A connection that is left alone has completed nothing. -/
theorem Tallied.refl (lib : Library Conn Stmt) (c : Conn) : lib.Tallied [] c c := ⟨rfl, rfl⟩

/-- Work completed one after the other adds up in the total, and the last work is the one that is
    kept. -/
theorem Tallied.trans {works more : List RowWork} (hfirst : lib.Tallied works c c')
    (hthen : lib.Tallied more c' c'') : lib.Tallied (works ++ more) c c'' where
  changes := by
    rw [hthen.changes, hfirst.changes, List.getLast?_append]
    cases more.getLast? <;> rfl
  totalChanges := by
    rw [hthen.totalChanges, hfirst.totalChanges, List.map_append, List.sum_append, Nat.add_assoc]

/-- **The count that is told** of a single statement is what it has changed itself, whatever the
    counters were before: where the total has not moved it has changed nothing, and where it has
    the counter of changes is its own. -/
theorem Tallied.affected_eq {work : Option RowWork} (h : lib.Tallied work.toList c c') :
    (if lib.totalChanges c' = lib.totalChanges c then 0 else lib.changes c') =
      work.elim 0 RowWork.own := by
  have htotal := h.totalChanges
  have hchanges := h.changes
  cases work with
  | none => exact if_pos (by simpa using htotal)
  | some w =>
    simp only [Option.toList_some, List.map_cons, List.map_nil, List.sum_cons, List.sum_nil,
      Nat.add_zero] at htotal
    split
    · simp only [Option.elim_some]
      omega
    · exact hchanges

/-- What is documented of the counters of a library: a statement that completes leaves its own
    `work`, which is none if it is not about rows.  Preparing completes nothing.  What is
    queried, and what fails, may have completed anything: a query may be an insertion that
    returns its rows, and a batch may fail behind statements that were completed. -/
structure Counts (lib : Library Conn Stmt) (work : Conn → Stmt → List Value → Option RowWork) :
    Prop where
  prepared : ∀ c sql, lib.Tallied [] c (lib.prepare c sql).1
  executed : ∀ {c₀ sql c s params after changed}, lib.prepare c₀ sql = (c, .ok s) →
    lib.columns s = [] → lib.execute c s params = (after, .ok changed) →
    changed = lib.changes after ∧ lib.Tallied (work c s params).toList c after
  failed : ∀ {c s params after message}, lib.execute c s params = (after, .error message) →
    ∃ works, lib.Tallied works c after
  queried : ∀ c s params, ∃ works, lib.Tallied works c (lib.query c s params).1
  batched : ∀ c sql, ∃ works, lib.Tallied works c (lib.batch c sql).1

/-! ### Answers -/

/-- A list of computations fails because of one of them. -/
private theorem exists_of_mapM_eq_error {α β ε : Type} {f : α → Except ε β} {l : List α} {e : ε}
    (h : l.mapM f = .error e) : ∃ a ∈ l, f a = .error e := by
  induction l with
  | nil => exact absurd h (by simp [pure, Except.pure])
  | cons a rest ih =>
    rw [List.mapM_cons] at h
    cases ha : f a with
    | error e' =>
      simp only [ha, bind, Except.bind, Except.error.injEq] at h
      exact ⟨a, List.mem_cons_self, h ▸ ha⟩
    | ok b =>
      cases hrest : rest.mapM f with
      | error e' =>
        simp only [ha, hrest, bind, Except.bind, Except.error.injEq] at h
        obtain ⟨x, hx, hfx⟩ := ih (h ▸ hrest)
        exact ⟨x, List.mem_cons_of_mem a hx, hfx⟩
      | ok others => exact absurd h (by simp [ha, hrest, bind, Except.bind, pure, Except.pure])

/-- A row that can be had has as many values as there are columns. -/
private theorem length_of_readRow {columns : Nat} {row : Except String (List Datum)}
    {values : List Value} (h : readRow columns row = .ok values) : values.length = columns := by
  obtain ⟨data, -, hdata⟩ := exists_of_bind_eq_ok h
  cases hvalues : rowValues columns data with
  | error c => exact absurd hdata (by simp [hvalues, Except.mapError])
  | ok read =>
    simp only [hvalues, Except.mapError, Except.ok.injEq] at hdata
    rw [← hdata, ← (mapM_eq_ok_iff.mp hvalues).length_eq, List.length_range]

/-- Rows are all collected and counted, unless one of them cannot be had. -/
theorem collectRows_cases (columns : List ColumnMeta) (rows : List (Except String (List Datum))) :
    (∃ message, (∃ row ∈ rows, readRow columns.length row = .error message) ∧
      collectRows columns rows = .failed (statementError message)) ∨
    ∃ values, List.Forall₂ (fun row v => readRow columns.length row = .ok v) rows values ∧
      collectRows columns rows = .done (ResultSet.ofRows columns values) := by
  unfold collectRows
  cases hrows : rows.mapM (readRow columns.length) with
  | error message => exact .inl ⟨message, exists_of_mapM_eq_error hrows, rfl⟩
  | ok values =>
    have hall := mapM_eq_ok_iff.mp hrows
    have hwidth : ∀ row ∈ values, row.length = columns.length := by
      intro row hrow
      obtain ⟨read, hread⟩ := exists_forall₂_iff.mp ⟨_, hall.flip⟩ row hrow
      exact length_of_readRow hread
    refine .inr ⟨values, hall, ?_⟩
    simp only [ResultSet.withCapacity_eq, ResultSet.addAll_ofColumns hwidth]

/-- Why a text is refused, and with what message: it cannot be prepared, or its statement fails,
    or one of the rows it returns cannot be had. -/
inductive Refused (lib : Library Conn Stmt) (c : Conn) (sql : String) (params : List Value)
    (message : String) : Conn → Prop where
  | unprepared {after : Conn} (hprepare : lib.prepare c sql = (after, .error message)) :
      Refused lib c sql params message after
  | failed {c₁ after : Conn} {s : Stmt} (hprepare : lib.prepare c sql = (c₁, .ok s))
      (hcolumns : lib.columns s = [])
      (hexecute : lib.execute c₁ s params = (after, .error message)) :
      Refused lib c sql params message after
  | unanswered {c₁ after : Conn} {s : Stmt} (hprepare : lib.prepare c sql = (c₁, .ok s))
      (hcolumns : lib.columns s ≠ []) (hquery : lib.query c₁ s params = (after, .error message)) :
      Refused lib c sql params message after
  | row {c₁ after : Conn} {s : Stmt} {rows : List (Except String (List Datum))}
      (hprepare : lib.prepare c sql = (c₁, .ok s)) (hcolumns : lib.columns s ≠ [])
      (hquery : lib.query c₁ s params = (after, .ok rows))
      (hrow : ∃ row ∈ rows, readRow (lib.columns s).length row = .error message) :
      Refused lib c sql params message after

/-- What comes of a text that is submitted: a blank one reports no change and never gets to the
    library; what has columns reports the rows it returns, all of them; any other statement
    leaves its own work in the counters, and reports what it has changed itself; and what is
    refused is so with an error. -/
inductive Answered (lib : Library Conn Stmt) (work : Conn → Stmt → List Value → Option RowWork)
    (c : Conn) (sql : String) (params : List Value) : Conn × Outcome ResultSet → Prop where
  | blank (hblank : isBlankStatement sql = true) :
      Answered lib work c sql params (c, .done (.affected 0))
  | returned {c₁ after : Conn} {s : Stmt} {rows : List (Except String (List Datum))}
      {r : ResultSet} (hprepare : lib.prepare c sql = (c₁, .ok s)) (hcolumns : lib.columns s ≠ [])
      (hquery : lib.query c₁ s params = (after, .ok rows)) (hmeta : r.columns = lib.columns s)
      (hrows : r.rows.length = rows.length) (hcount : r.rowsAffected = rows.length) :
      Answered lib work c sql params (after, .done r)
  | changed {c₁ after : Conn} {s : Stmt} {changed : Nat}
      (hprepare : lib.prepare c sql = (c₁, .ok s)) (hcolumns : lib.columns s = [])
      (hexecute : lib.execute c₁ s params = (after, .ok changed))
      (htallied : lib.Tallied (work c₁ s params).toList c after) :
      Answered lib work c sql params
        (after, .done (.affected ((work c₁ s params).elim 0 RowWork.own)))
  | refused {after : Conn} {message : String} (hblank : isBlankStatement sql = false)
      (hreason : Refused lib c sql params message after) :
      Answered lib work c sql params (after, .failed (statementError message))

variable {work : Conn → Stmt → List Value → Option RowWork}

/-- **Submitting a text** reports its own count, whatever state the connection is in. -/
theorem submit_answered (hcounts : lib.Counts work) (c : Conn) (sql : String)
    (params : List Value) : lib.Answered work c sql params (lib.submit c sql params) := by
  unfold submit
  cases hblank : isBlankStatement sql with
  | true => exact .blank hblank
  | false =>
    -- preparing leaves no work, so all that is counted is counted by the run
    have hprepared := hcounts.prepared c sql
    cases hprepare : lib.prepare c sql with
    | mk c₁ result =>
      rw [hprepare] at hprepared
      cases result with
      | error message => exact .refused hblank (.unprepared hprepare)
      | ok s =>
        simp only [Bool.false_eq_true, if_false, run]
        split
        · rename_i hcolumns
          cases hexecute : lib.execute c₁ s params with
          | mk after result =>
            cases result with
            | error message => exact .refused hblank (.failed hprepare hcolumns hexecute)
            | ok changed =>
              -- the counters have grown by what this statement did
              obtain ⟨rfl, htallied⟩ := hcounts.executed hprepare hcolumns hexecute
              simp only [htallied.affected_eq]
              exact .changed hprepare hcolumns hexecute (hprepared.trans htallied)
        · rename_i hcolumns
          cases hquery : lib.query c₁ s params with
          | mk after result =>
            cases result with
            | error message => exact .refused hblank (.unanswered hprepare hcolumns hquery)
            | ok rows =>
              -- the first row that cannot be read refuses them all
              rcases collectRows_cases (lib.columns s) rows with
                ⟨message, hrow, heq⟩ | ⟨values, hall, heq⟩
              · simp only [heq]
                exact .refused hblank (.row hprepare hcolumns hquery hrow)
              · simp only [heq]
                refine .returned hprepare hcolumns hquery rfl ?_ ?_
                · simp [ResultSet.ofRows, hall.length_eq]
                · simp [ResultSet.ofRows, hall.length_eq]

/-! ### Histories -/

/-- The states that a connection comes to by calls, and by what other connections do in between,
    which completes nothing on this one. -/
inductive History (lib : Library Conn Stmt) (start : Conn) : Conn → Prop where
  | start : History lib start start
  | submit {c : Conn} (sql : String) (params : List Value) (hist : History lib start c) :
      History lib start (lib.submit c sql params).1
  | batch {c : Conn} (sql : String) (hist : History lib start c) :
      History lib start (lib.submitBatch c sql).1
  | elsewhere {c c' : Conn} (hist : History lib start c) (hsame : lib.Tallied [] c c') :
      History lib start c'

/-- Preparing completes nothing, so all the work of a text that is queried is that of its query. -/
theorem Counts.tallied_of_query {sql : String} {params : List Value} {s : Stmt}
    {result : Except String (List (Except String (List Datum)))} {c₁ : Conn}
    (hcounts : lib.Counts work) (hprepare : lib.prepare c sql = (c₁, .ok s))
    (hquery : lib.query c₁ s params = (c', result)) : ∃ works, lib.Tallied works c c' := by
  have hprepared := hcounts.prepared c sql
  rw [hprepare] at hprepared
  obtain ⟨works, hworks⟩ := hcounts.queried c₁ s params
  rw [hquery] at hworks
  exact ⟨_, hprepared.trans hworks⟩

/-- What is refused may have completed something on the way. -/
theorem Refused.tallied {sql : String} {params : List Value} {message : String}
    (hcounts : lib.Counts work) (h : lib.Refused c sql params message c') :
    ∃ works, lib.Tallied works c c' := by
  have hprepared := hcounts.prepared c sql
  cases h with
  | unprepared hprepare =>
    rw [hprepare] at hprepared
    exact ⟨[], hprepared⟩
  | failed hprepare hcolumns hexecute =>
    rw [hprepare] at hprepared
    obtain ⟨works, hworks⟩ := hcounts.failed hexecute
    exact ⟨_, hprepared.trans hworks⟩
  | unanswered hprepare hcolumns hquery => exact hcounts.tallied_of_query hprepare hquery
  | row hprepare hcolumns hquery hrow => exact hcounts.tallied_of_query hprepare hquery

/-- What is answered has completed some work, or none, so the counters are about it too. -/
theorem Answered.tallied {sql : String} {params : List Value} {outcome : Outcome ResultSet}
    (hcounts : lib.Counts work) (h : lib.Answered work c sql params (c', outcome)) :
    ∃ works, lib.Tallied works c c' := by
  cases h with
  | blank hblank => exact ⟨[], .refl lib c⟩
  | returned hprepare hcolumns hquery hmeta hrows hcount =>
    exact hcounts.tallied_of_query hprepare hquery
  | changed hprepare hcolumns hexecute htallied => exact ⟨_, htallied⟩
  | refused hblank hreason => exact hreason.tallied hcounts

private theorem submitBatch_state (lib : Library Conn Stmt) (c : Conn) (sql : String) :
    (lib.submitBatch c sql).1 = (lib.batch c sql).1 := by
  unfold submitBatch
  split
  · rename_i h
    rw [h]
  · rename_i h
    rw [h]

/-- The counters are about all that was completed, and about nothing else: the counter of
    changes is still that of the last work, the total that of all of it. -/
theorem History.tallied (hcounts : lib.Counts work) {start : Conn}
    (hist : lib.History start c) : ∃ works, lib.Tallied works start c := by
  induction hist with
  | start => exact ⟨[], .refl lib start⟩
  | submit sql params _ ih =>
    obtain ⟨works, hworks⟩ := ih
    obtain ⟨more, hmore⟩ := (submit_answered hcounts _ sql params).tallied hcounts
    exact ⟨_, hworks.trans hmore⟩
  | batch sql _ ih =>
    obtain ⟨works, hworks⟩ := ih
    obtain ⟨more, hmore⟩ := hcounts.batched _ sql
    rw [← submitBatch_state] at hmore
    exact ⟨_, hworks.trans hmore⟩
  | elsewhere _ hsame ih =>
    obtain ⟨works, hworks⟩ := ih
    exact ⟨_, hworks.trans hsame⟩

end Library

end SqlClient.Embedded
