import SqlClient.Embedded.Plan
import SqlClient.Proofs.Table.Conversion

namespace SqlClient.Embedded

/-!
# Counting changed rows

A statement that inserts, updates or deletes rows has a count of its own: the rows it inserts,
or those that pass its filter.  So has one that drops a table to which foreign keys refer: the
rows of the table.  Work on rows counts them one by one.

* `Plan.count?`, `Prepared.count?` — the count of a statement, told from its plan.
* `Plan.count_work` — it is what the work of the plan has counted.
* `Plan.Suits` — what kind of plan a statement has.
-/

/-! ### Passes -/

/-- A row passes a filter, and telling so goes well. -/
def passes (columns : List ColumnDef) (params : List Datum) (filter : Filter Nat)
    (row : List Datum) : Bool :=
  match holds columns params filter row with
  | .ok b => b
  | .error _ => false

/-- Where telling whether a row passes goes well, passing is what was told. -/
theorem passes_of_holds {columns : List ColumnDef} {params : List Datum} {filter : Filter Nat}
    {row : List Datum} {b : Bool} (h : holds columns params filter row = .ok b) :
    passes columns params filter row = b := by
  rw [passes, h]

/-- A pass that gets to the end has changed what its steps change. -/
theorem Pass.changed_along {α : Type} {step : α → Except Complaint (List (List Datum) × Nat)}
    {changes : α → Bool}
    (hstep : ∀ a rows n, step a = .ok (rows, n) → n = (changes a).toNat) {as : List α}
    (h : (along step as).fault = none) : (along step as).changed = as.countP changes := by
  induction as with
  | nil => rfl
  | cons a rest ih =>
    cases ha : step a with
    | error c => exact absurd h (by simp [along, ha])
    | ok r =>
      obtain ⟨rows, n⟩ := r
      simp only [along, ha] at h ⊢
      rw [ih h, hstep a rows n ha, List.countP_cons]
      cases changes a <;> simp [Nat.add_comm]

namespace Relation

variable {r : Relation} {params : List Datum}

/-- An insertion that gets to its end has changed as many rows as it inserts. -/
theorem changed_insert {rows : List (List (Expr Nat))}
    (h : (r.insert params rows).fault = none) :
    (r.insert params rows).changed = rows.length := by
  rw [← List.countP_true]
  refine Pass.changed_along (fun row _ n hrow => ?_) h
  obtain ⟨data, _, hrow⟩ := exists_of_bind_eq_ok hrow
  obtain ⟨stored, _, hrow⟩ := exists_of_bind_eq_ok hrow
  exact (Prod.mk.inj (Except.ok.inj hrow)).2.symm

/-- An update that gets to its end has changed the rows that pass its filter, whether their data
    differ after it or not. -/
theorem changed_update {changes : List (Nat × Expr Nat)} {filter : Filter Nat}
    (h : (r.update params changes filter).fault = none) :
    (r.update params changes filter).changed =
      r.rows.countP (passes r.columns params filter) := by
  refine Pass.changed_along (fun row _ n hrow => ?_) h
  obtain ⟨b, hb, hrow⟩ := exists_of_bind_eq_ok hrow
  rw [passes_of_holds hb]
  cases b with
  | false => exact (Prod.mk.inj (Except.ok.inj hrow)).2.symm
  | true =>
    obtain ⟨new, _, hrow⟩ := exists_of_bind_eq_ok hrow
    exact (Prod.mk.inj (Except.ok.inj hrow)).2.symm

/-- A deletion that gets to its end has changed the rows that pass its filter, which are gone. -/
theorem changed_delete {filter : Filter Nat} (h : (r.delete params filter).fault = none) :
    (r.delete params filter).changed = r.rows.countP (passes r.columns params filter) := by
  refine Pass.changed_along (fun row _ n hrow => ?_) h
  obtain ⟨b, hb, hrow⟩ := exists_of_bind_eq_ok hrow
  rw [passes_of_holds hb]
  cases b with
  | false => exact (Prod.mk.inj (Except.ok.inj hrow)).2.symm
  | true => exact (Prod.mk.inj (Except.ok.inj hrow)).2.symm

end Relation

/-! ### The count of a plan -/

/-- How many rows a plan is to change, if it is about rows: all that it inserts, all of the
    table that pass its filter, or all of a table that is dropped in spite of foreign keys. -/
def Plan.count? (params : List Datum) : Plan → Option Nat
  | .insert _ rows => some rows.length
  | .update r _ filter => some (r.rows.countP (passes r.columns params filter))
  | .delete r filter => some (r.rows.countP (passes r.columns params filter))
  | .dropTable r referenced => if referenced then some r.rows.length else none
  | _ => none

/-- Work that goes well has counted what the plan is to change. -/
theorem Plan.count_work {plan : Plan} {db : Database} {params : List Datum}
    (h : (plan.work db params).fault = none) :
    (plan.work db params).count = plan.count? params := by
  cases plan with
  | insert r rows => exact congrArg some (Relation.changed_insert h)
  | update r changes filter => exact congrArg some (Relation.changed_update h)
  | delete r filter => exact congrArg some (Relation.changed_delete h)
  | _ => rfl

/-! ### Statements and their plans -/

/-- What kind of plan a statement has. -/
inductive Plan.Suits : Statement → Plan → Prop where
  | query (first : Selection) (others : List Selection) (order : Option OrderTerm)
      (columns : List ColumnMeta) (parts : List SelectionPlan) (sort : Option SortKey) :
      Suits (.select first others order) (.query columns parts sort)
  | insert (table : String) (values : List (List (Expr NameRef))) (r : Relation)
      (rows : List (List (Expr Nat))) : Suits (.insert table values) (.insert r rows)
  | update (table : String) (named : List (String × Expr NameRef)) (filter : Filter NameRef)
      (r : Relation) (changes : List (Nat × Expr Nat)) (resolved : Filter Nat) :
      Suits (.update table named filter) (.update r changes resolved)
  | delete (table : String) (filter : Filter NameRef) (r : Relation) (resolved : Filter Nat) :
      Suits (.delete table filter) (.delete r resolved)
  | createTable (name : String) (columns : List ColumnDef) :
      Suits (.createTable name columns) (.createTable name columns)
  | dropTable (name : String) (r : Relation) (referenced : Bool) :
      Suits (.dropTable name) (.dropTable r referenced)
  | createIndex (name table : String) (column : NameRef) (index : Index) :
      Suits (.createIndex name table column) (.createIndex index)
  | begin : Suits .begin .begin
  | commit : Suits .commit .commit
  | rollback : Suits .rollback .rollback

/-- Preparing a selection of rows, with the order as one part of it. -/
private theorem resolveQuery_eq (db : Database) (selections : List Selection)
    (order : Option OrderTerm) :
    resolveQuery db selections order =
      selections.reverse.mapM (sourceOf db) >>= fun sources =>
        resolveParts (sources.reverse.zip selections) >>= fun parts =>
          order.elim (.ok none) (resolveOrder parts) >>= fun sort =>
            .ok (.query ((parts.head?.map fun p => p.outputs.map (·.column)).getD [])
              (parts.map (·.withScan db sort)) sort) := by
  cases order <;> rfl

/-- Nothing but the plan of a query comes of preparing a selection of rows. -/
private theorem exists_of_resolveQuery {db : Database} {selections : List Selection}
    {order : Option OrderTerm} {plan : Plan} (h : resolveQuery db selections order = .ok plan) :
    ∃ columns parts sort, plan = .query columns parts sort := by
  rw [resolveQuery_eq] at h
  obtain ⟨sources, _, h⟩ := exists_of_bind_eq_ok h
  obtain ⟨parts, _, h⟩ := exists_of_bind_eq_ok h
  obtain ⟨sort, _, h⟩ := exists_of_bind_eq_ok h
  exact ⟨_, _, _, (Except.ok.inj h).symm⟩

/-- Nothing but the plan of an index comes of preparing one. -/
private theorem exists_of_resolveIndex {db : Database} {name table : String} {column : NameRef}
    {plan : Plan} (h : resolveIndex db name table column = .ok plan) :
    ∃ index, plan = .createIndex index := by
  unfold resolveIndex at h
  split at h
  · exact absurd h nofun
  · split at h
    · exact absurd h nofun
    · split at h
      · exact absurd h nofun
      · split at h
        · exact absurd h nofun
        · split at h
          · exact ⟨_, (Except.ok.inj h).symm⟩
          · exact absurd h nofun

/-- **The plan of a statement** is of its kind: what is prepared as an insertion inserts, and so
    on. -/
theorem Plan.ofStatement_suits {db : Database} {s : Statement} {plan : Plan}
    (h : Plan.ofStatement db s = .ok plan) : Plan.Suits s plan := by
  cases s with
  | createTable name columns =>
    obtain rfl := Except.ok.inj h
    exact .createTable name columns
  | dropTable name =>
    simp only [ofStatement] at h
    cases hr : findRelation db name with
    | error l => exact absurd h (by simp [hr, Except.map])
    | ok r =>
      simp only [hr, Except.map, Except.ok.injEq] at h
      subst h
      exact .dropTable name r _
  | createIndex name table column =>
    obtain ⟨index, rfl⟩ := exists_of_resolveIndex h
    exact .createIndex name table column index
  | insert table values =>
    obtain ⟨r, _, h⟩ := exists_of_bind_eq_ok h
    dsimp only at h
    split at h
    · -- the rows are not all of one width
      exact absurd h nofun
    · obtain ⟨rows, _, h⟩ := exists_of_bind_eq_ok h
      split at h
      · exact absurd h nofun
      · obtain ⟨_, _, h⟩ := exists_of_bind_eq_ok h
        obtain rfl := Except.ok.inj h
        exact .insert table values r rows
  | update table named filter =>
    -- the table is found, then what changes in it, the rows, and the keys that this is about
    obtain ⟨r, _, h⟩ := exists_of_bind_eq_ok h
    obtain ⟨changes, _, h⟩ := exists_of_bind_eq_ok h
    obtain ⟨resolved, _, h⟩ := exists_of_bind_eq_ok h
    obtain ⟨_, _, h⟩ := exists_of_bind_eq_ok h
    obtain rfl := Except.ok.inj h
    exact .update table named filter r changes resolved
  | delete table filter =>
    obtain ⟨r, _, h⟩ := exists_of_bind_eq_ok h
    obtain ⟨resolved, _, h⟩ := exists_of_bind_eq_ok h
    obtain ⟨_, _, h⟩ := exists_of_bind_eq_ok h
    obtain rfl := Except.ok.inj h
    exact .delete table filter r resolved
  | select first others order =>
    obtain ⟨columns, parts, sort, rfl⟩ := exists_of_resolveQuery h
    exact .query first others order columns parts sort
  | begin =>
    obtain rfl := Except.ok.inj h
    exact .begin
  | commit =>
    obtain rfl := Except.ok.inj h
    exact .commit
  | rollback =>
    obtain rfl := Except.ok.inj h
    exact .rollback

/-! ### Prepared statements -/

/-- A statement that may change the rows of a table. -/
def Statement.changesRows : Statement → Bool
  | .insert _ _ => true
  | .update _ _ _ => true
  | .delete _ _ => true
  | .dropTable _ => true
  | _ => false

namespace Prepared

/-- How many rows a prepared statement is to change in a database, if it is about rows. -/
def count? (p : Prepared) (params : List Datum) (db : Database) : Option Nat :=
  match p.plan db with
  | .ok plan => plan.count? params
  | .error _ => none

variable {p : Prepared} {db : Database} {plan : Plan}

/-- A prepared statement has a plan if the table it is to create can be, and it can be prepared
    again. -/
private theorem ofStatement_of_plan (h : p.plan db = .ok plan) :
    p.newTable.bind (newTableFault? db) = none ∧ Plan.ofStatement db p.statement = .ok plan := by
  unfold Prepared.plan planOf at h
  split at h
  · exact absurd h nofun
  · rename_i hnew
    exact ⟨hnew, h⟩

/-- So its plan is of its kind, in whatever database it is made. -/
theorem suits_of_plan (h : p.plan db = .ok plan) : Plan.Suits p.statement plan :=
  Plan.ofStatement_suits (ofStatement_of_plan h).2

/-- The count of a prepared statement is that of its plan. -/
theorem count?_of_plan (h : p.plan db = .ok plan) (params : List Datum) :
    p.count? params db = plan.count? params := by
  rw [count?, h]

/-- Only statements that may change rows have a count. -/
theorem count?_eq_none (h : p.statement.changesRows = false) (params : List Datum)
    (db : Database) : p.count? params db = none := by
  unfold count?
  split
  · rename_i plan hplan
    have hsuits := suits_of_plan hplan
    generalize p.statement = s at h hsuits
    cases hsuits with
    | insert => exact absurd h (by simp [Statement.changesRows])
    | update => exact absurd h (by simp [Statement.changesRows])
    | delete => exact absurd h (by simp [Statement.changesRows])
    | dropTable => exact absurd h (by simp [Statement.changesRows])
    | _ => rfl
  · rfl

end Prepared

end SqlClient.Embedded
